/-
The help text and the messages for arguments that cannot be read.  What a message shows of an
argument is without control sequences.
-/
import GrammarText.CommandLine.Arguments
import GrammarText.Text.ControlSequence

namespace GrammarText
namespace CommandLine

def programName : String := "sbnf"

def versionText : String :=
  programName ++ " 0.1.0\n"

namespace Flag

/-- The flag in the list of options, where a short form stands before the long one. -/
def listed (f : Flag) : String :=
  (match f.short? with
    | none => "    "
    | some c => String.ofList ['-', c, ',', ' ']) ++ f.text

/-- The width of the first column of the list of options. -/
def listedWidth : Nat :=
  (all.map fun f => f.listed.length).foldl max 0

def helpLine (f : Flag) : String :=
  "  " ++ f.listed.pushn ' ' (listedWidth - f.listed.length) ++ "  " ++ f.about ++ "\n"

end Flag

namespace Usage

def options : Usage → List String
  | general => ["[OPTIONS]"]
  | withFlags flags => flags.map Flag.text

def text (u : Usage) : String :=
  "Usage: " ++ String.intercalate " " (programName :: u.options ++ ["<path>"])

end Usage

def helpText : String :=
  "Compile SBNF grammar definitions\n\n" ++ Usage.general.text
    ++ "\n\nArguments:\n  <path>  Path to the SBNF file\n\nOptions:\n"
    ++ String.join (Flag.all.map Flag.helpLine)

namespace Hint

def text (argument : String) : Hint → String
  | similar flag => "a similar argument exists: '--" ++ flag.long ++ "'"
  | asValue =>
      let shown := Text.withoutControls argument
      "to pass '" ++ shown ++ "' as a value, use '-- " ++ shown ++ "'"

end Hint

namespace ArgumentFault

/-- What is wrong. -/
def summary : ArgumentFault → String
  | unknown argument _ _ => "unexpected argument '" ++ Text.withoutControls argument ++ "' found"
  | needlessValue value flag _ =>
      "unexpected value '" ++ Text.withoutControls value ++ "' for '" ++ flag.text
        ++ "' found; no more were expected"
  | repeated flag => "the argument '" ++ flag.text ++ "' cannot be used multiple times"
  | noValue flag => "a value is required for '" ++ flag.text ++ "' but none was supplied"
  | noPath _ => "the following required arguments were not provided:\n  <path>"

def hint? : ArgumentFault → Option String
  | unknown argument hint _ => hint.map (Hint.text argument)
  | _ => none

/-- How to call the command instead, if the message tells. -/
def usage? : ArgumentFault → Option Usage
  | unknown _ _ usage => some usage
  | needlessValue _ _ usage => some usage
  | repeated _ => some .general
  | noValue _ => none
  | noPath usage => some usage

def message (f : ArgumentFault) : String :=
  let hint :=
    match f.hint? with
    | none => ""
    | some hint => "  tip: " ++ hint ++ "\n\n"
  let usage :=
    match f.usage? with
    | none => ""
    | some usage => usage.text ++ "\n\n"
  "error: " ++ f.summary ++ "\n\n" ++ hint ++ usage ++ "For more information, try '--help'.\n"

end ArgumentFault
end CommandLine
end GrammarText
