/-
Control sequences: the signs in a text that steer a terminal and are not shown by it.
-/
namespace GrammarText
namespace Text

/-- Which kind of control sequence a place in a text is in. -/
inductive ControlState where
  /-- None: what stands here is shown. -/
  | ground
  /-- One that an escape character has just begun. -/
  | escape
  | escapeIntermediate
  /-- One with parameters, which ends with a letter. -/
  | csi
  /-- A command to the system around the terminal, which ends with a bell. -/
  | osc
  /-- The front of a string for a device. -/
  | dcsEntry
  | dcsParameters
  | dcsIntermediate
  /-- A string for a device or for nobody. -/
  | payload
  deriving Repr, DecidableEq

namespace ControlState

/-- Whether control characters that make blanks are shown in a state. -/
def keepsBlanks : ControlState → Bool
  | ground => true
  | escape => true
  | escapeIntermediate => true
  | csi => true
  | _ => false

/-- The control characters of ASCII that make blanks. -/
def isBlankControl (c : Char) : Bool :=
  c == '\t' || c == '\n' || c == '\x0c' || c == '\r'

/-- Whether a character is shown in a state. -/
def shows (s : ControlState) (c : Char) : Bool :=
  (s == ground && ' ' ≤ c && c != '\x7f') || (s.keepsBlanks && isBlankControl c)

/-- Whether a string for a device ends in a character.  What ends it is a byte, and the bytes that
encode a character behind the first are not told from it. -/
def endsPayload (c : Char) : Bool :=
  ((String.singleton c).toUTF8.toList.drop 1).contains 0x9c

/-- The state behind an ASCII character that is not shown and does not end every sequence. -/
def nextPlain (s : ControlState) (c : Char) : ControlState :=
  match s with
  | ground => ground
  | escape =>
      if c < ' ' || c == '\x7f' then escape
      else if c ≤ '/' then escapeIntermediate
      else if c == '[' then csi
      else if c == ']' then osc
      else if c == 'P' then dcsEntry
      else if c == 'X' || c == '^' || c == '_' then payload
      else ground
  | escapeIntermediate => if '0' ≤ c && c ≤ '~' then ground else escapeIntermediate
  | csi => if '@' ≤ c && c ≤ '~' then ground else csi
  | osc => if c == '\x07' then ground else osc
  | dcsEntry =>
      if '@' ≤ c && c ≤ '~' then payload
      else if '0' ≤ c && c ≤ '?' then dcsParameters
      else if ' ' ≤ c && c ≤ '/' then dcsIntermediate
      else dcsEntry
  | dcsParameters =>
      if '<' ≤ c && c ≤ '~' then payload
      else if ' ' ≤ c && c ≤ '/' then dcsIntermediate
      else dcsParameters
  | dcsIntermediate => if '0' ≤ c && c ≤ '~' then payload else dcsIntermediate
  | payload => payload

/-- The state behind a character that is not shown. -/
def next (s : ControlState) (c : Char) : ControlState :=
  if c == '\x1b' then escape
  else if c == '\x18' || c == '\x1a' then ground
  else if c.toNat < 128 then s.nextPlain c
  else if s == payload && endsPayload c then ground
  else s

/--
What is shown of a text.  Once something is shown all is shown up to the next control character.
If that began with a blank in the middle of a sequence, the sequence goes on behind it.
-/
def shown (s : ControlState) (showing : Bool) : List Char → List Char
  | [] => []
  | c :: rest =>
      if (if showing then ground else s).shows c then
        c :: shown (if c.toNat < 128 then s else ground) true rest
      else shown (s.next c) false rest

end ControlState

/-- The text without control characters and control sequences. -/
def withoutControls (text : String) : String :=
  String.ofList (ControlState.ground.shown false text.toList)

end Text
end GrammarText
