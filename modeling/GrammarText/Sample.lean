/-
Sample grammars.  Those whose names start with a nine are faulty on purpose.
-/
import GrammarText.Table

namespace GrammarText

structure Sample where
  name : String
  source : String
  deriving Repr, DecidableEq

namespace Sample

/-- Arithmetic over integers. -/
def arithmetic : Sample where
  name := "010-math.sbnf"
  source :=
    "# Arithmetic over integers\n"
      ++ "$skip : WS ;\n"
      ++ "\n"
      ++ "$main : expression EOF ;\n"
      ++ "\n"
      ++ "NUMBER : /\\d+/ ;\n"
      ++ "ADD_OP : '+' | '-' ;\n"
      ++ "MUL_OP : '*' | '/' ;\n"
      ++ "\n"
      ++ "expression : term % ADD_OP + ;\n"
      ++ "term : factor % MUL_OP + ;\n"
      ++ "factor : NUMBER | '(' expression ')' ;\n"

/-- A data format with nested values. -/
def json : Sample where
  name := "020-json.sbnf"
  source :=
    "# JSON values\n"
      ++ "$skip : WS ;\n"
      ++ "\n"
      ++ "$main : value EOF ;\n"
      ++ "\n"
      ++ "NUMBER : /\\d+(?:\\.\\d+)?/ ;\n"
      ++ "STRING : /\"[^\"]*\"/ ;\n"
      ++ "BOOL : 'true' | 'false' ;\n"
      ++ "NULL : 'null' ;\n"
      ++ "\n"
      ++ "pair : STRING ':' value ;\n"
      ++ "array : '[' value % ',' * ']' ;\n"
      ++ "object : '\x7b' pair % ',' * '\x7d' ;\n"
      ++ "value : NUMBER | STRING | BOOL | NULL | array | object ;\n"

/-- Rows of separated values, with significant line feeds. -/
def separatedValues : Sample where
  name := "030-csv.sbnf"
  source :=
    "# Comma separated rows, newlines are significant\n"
      ++ "$skip : SPACES ;\n"
      ++ "\n"
      ++ "$main : csv EOF ;\n"
      ++ "\n"
      ++ "STRING : /[^,\\n\\r]+/ ;\n"
      ++ "\n"
      ++ "row : STRING % ',' + ;\n"
      ++ "csv : row % ('\\r'? '\\n') + ;\n"

/-- Every directive and every kind of leaf. -/
def directives : Sample where
  name := "040-directives.sbnf"
  source :=
    "# Every directive and leaf form\n"
      ++ "$skip after lazy : WS | COMMENT ;\n"
      ++ "\n"
      ++ "$main program : statement * EOF ;\n"
      ++ "\n"
      ++ "COMMENT : '//' /[^\\n]*/ ;\n"
      ++ "NAME : $identifier ;\n"
      ++ "INT : $number int ;\n"
      ++ "REAL : $number double ;\n"
      ++ "IF : $keyword 'if' ;\n"
      ++ "ARROW : $keyword '->' ;\n"
      ++ "TYPE : $keyword choice 'int' | 'real' ;\n"
      ++ "OPS : '<' | '<=' | '>' | '>=' ;\n"
      ++ "DIGITS : /[0-9]/ \x7b2..4\x7d ;\n"
      ++ "\n"
      ++ "statement : declaration | condition ;\n"
      ++ "declaration : TYPE NAME ('=' (INT | REAL))? ';' ;\n"
      ++ "condition : IF NAME OPS NAME ARROW statement ;\n"

/-- Three faulty declarations among sound ones. -/
def faulty : Sample where
  name := "900-recovery.sbnf"
  source :=
    "# Three broken declarations between valid ones\n"
      ++ "$skip : WS ;\n"
      ++ "\n"
      ++ "BROKEN : ;\n"
      ++ "NUMBER : /\\d+/ ;\n"
      ++ "range : NUMBER \x7b5..2\x7d ;\n"
      ++ "$main : list EOF ;\n"
      ++ "mixed : 'if' | '+' ;\n"
      ++ "list : NUMBER % ',' + ;\n"

def all : List Sample :=
  [arithmetic, json, separatedValues, directives, faulty]

/-- The samples that compile. -/
def sound : List Sample :=
  all.filter fun s => !s.name.startsWith "9"

def find? (name : String) : Option Sample :=
  all.find? (·.name == name)

/-- The source of the sample of a name. -/
def sourceOf (name : String) : Except String String :=
  match find? name with
  | some s => .ok s.source
  | none => .error ("unknown sample " ++ name)

/-- The table of a sample that is expected to compile. -/
def compile (name : String) : Except String Table := do
  let source ← sourceOf name
  match compileWith true source with
  | .ok table => .ok table
  | .error report =>
      .error ("sample " ++ name ++ " failed to compile:\n" ++ report.render source 1)

/-- The report on a sample that is expected not to compile. -/
def report (name : String) : Except String Report := do
  let source ← sourceOf name
  match compileWith true source with
  | .ok _ => .error ("sample " ++ name ++ " compiled without errors")
  | .error report => .ok report

end Sample
end GrammarText
