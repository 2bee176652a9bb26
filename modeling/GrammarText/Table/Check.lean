/-
Checks of a table against what is expected of it.  A check that fails says which declaration
differs and shows both sides on one line each.
-/
import GrammarText.Outline
import GrammarText.Regex.Reader
import GrammarText.Declaration.Printer

namespace GrammarText

/-- Everything that keeps the table from being a grammar, with regexes checked by the reader of this
library. -/
def Table.resolve (t : Table) : List ResolveError :=
  t.resolveWith Regex.complaint?

inductive TableCheck where
  | token (name : String) (pattern : Pattern)
  | rule (name : String) (body : Rule)
  /-- The rule prints as a text. -/
  | ruleText (name : String) (text : String)
  | mainName (name : Option String)
  | mainRule (body : Rule)
  | skip (strategy : SkipStrategy) (body : Rule)
  /-- The number of declarations. -/
  | count (declarations : Nat)
  | resolves

namespace TableCheck

/-- Passes if two values are the same, and else shows them. -/
def same {α : Type} [DecidableEq α] (outline : α → Outline) (what : String) (actual expected : α) :
    Except String Unit :=
  if actual = expected then .ok ()
  else
    .error ("assertion `left == right` failed: " ++ what
      ++ "\n  left: " ++ (outline actual).compact ++ "\n right: " ++ (outline expected).compact)

/-- Goes on with a value that has to be there. -/
def present {α : Type} (missing : String) (value : Option α) (next : α → Except String Unit) :
    Except String Unit :=
  match value with
  | none => .error missing
  | some value => next value

def run (t : Table) : TableCheck → Except String Unit
  | token name pattern =>
      present ("token " ++ name ++ " is not declared") (t.token? name)
        fun actual => same Expr.outline ("token " ++ name ++ " differs") actual pattern
  | rule name body =>
      present ("rule " ++ name ++ " is not declared") (t.rule? name)
        fun actual => same Expr.outline ("rule " ++ name ++ " differs") actual body
  | ruleText name text =>
      present ("rule " ++ name ++ " is not declared") (t.rule? name) fun actual =>
        if actual.print == text then .ok ()
        else .error ("rule " ++ name ++ " has an unexpected shape: " ++ actual.print)
  | mainName name =>
      present "no $main declaration" t.main?
        fun actual => same (Outline.option .text) "$main name differs" actual.1 name
  | mainRule body =>
      present "no $main declaration" t.main?
        fun actual => same Expr.outline "$main rule differs" actual.2 body
  | skip strategy body =>
      present "no $skip declaration" t.skip? fun actual => do
        same SkipStrategy.outline "$skip strategy differs" actual.1 strategy
        same Expr.outline "$skip rule differs" actual.2 body
  | count declarations =>
      same Outline.number "declaration count differs" t.length declarations
  | resolves =>
      match t.resolve with
      | [] => .ok ()
      | errors =>
          .error ("unresolved: " ++ (Outline.list (errors.map ResolveError.outline)).compact)

/-- Runs checks in order up to the first that fails. -/
def runAll (t : Table) (checks : List TableCheck) : Except String Unit :=
  checks.forM (run t)

end TableCheck
end GrammarText
