/-
The forms in which a table is written.
-/
import GrammarText.Data
import GrammarText.Declaration.Data
import GrammarText.Declaration.Printer
import GrammarText.Outline

namespace GrammarText

/-- The forms in which a table is written. -/
inductive OutputFormat where
  | json
  | yaml
  | sbnf
  | debug
  deriving Repr, DecidableEq

namespace OutputFormat

def all : List OutputFormat :=
  [json, yaml, sbnf, debug]

def name : OutputFormat → String
  | json => "json"
  | yaml => "yaml"
  | sbnf => "sbnf"
  | debug => "debug"

/-- The format of a name, which is in lower case. -/
def ofName? (name : String) : Option OutputFormat :=
  all.find? (·.name == name)

end OutputFormat

/-- The declarations that have a spelling, as grammar text. -/
def Table.print (t : Table) : String :=
  Declaration.printAll t.declarations

/-- The table in a format.  How data is written in YAML is for the writer to say, which may fail. -/
def Table.renderWith (t : Table) (yaml : Data → Except String String) :
    OutputFormat → Except String String
  | .json => .ok t.toData.toJson
  | .yaml => (yaml t.toData).mapError ("YAML serialization failed: " ++ ·)
  | .sbnf => .ok t.print
  | .debug => .ok ((Outline.list (t.declarations.map Declaration.outline)).tall 0 ++ "\n")

end GrammarText
