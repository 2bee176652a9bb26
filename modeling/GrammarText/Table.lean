/-
Declarations in the order in which they were registered, with an index of their names.  The first
declaration of a name holds it.  Later ones are kept and recorded as conflicts.  Every declaration
that was read from a source is registered, also when others failed, so that a caller who wants the
rest of a faulty grammar finds it in the table.
-/
import GrammarText.Declaration
import GrammarText.Recovery

namespace GrammarText

/-- A registration that came too late. -/
inductive Conflict where
  | token (name : String)
  | rule (name : String)
  /-- The name of the main rule, which another rule has too. -/
  | mainName (name : String)
  | main
  | skip
  deriving Repr, DecidableEq

structure Table where
  declarations : List Declaration
  /-- For every token name the place of the declaration that holds it. -/
  tokens : List (String × Nat)
  /-- For every rule name, the main rule's included, the place of the declaration that holds it. -/
  rules : List (String × Nat)
  main : Option Nat
  skip : Option Nat
  conflicts : List Conflict
  deriving DecidableEq

namespace Table

def empty : Table :=
  ⟨[], [], [], none, none, []⟩

def length (t : Table) : Nat :=
  t.declarations.length

def hasToken (t : Table) (name : String) : Bool :=
  (t.tokens.lookup name).isSome

def hasRule (t : Table) (name : String) : Bool :=
  (t.rules.lookup name).isSome

/-- The pattern of the token of a name. -/
def token? (t : Table) (name : String) : Option Pattern := do
  match t.declarations[← t.tokens.lookup name]? with
  | some (.token _ pattern) => some pattern
  | _ => none

/-- The rule of a name, which may be the main rule. -/
def rule? (t : Table) (name : String) : Option Rule := do
  match t.declarations[← t.rules.lookup name]? with
  | some (.rule _ body) => some body
  | some (.main _ body) => some body
  | _ => none

/-- The main rule and its name, if it has one. -/
def main? (t : Table) : Option (Option String × Rule) := do
  match t.declarations[← t.main]? with
  | some (.main name body) => some (name, body)
  | _ => none

def skip? (t : Table) : Option (SkipStrategy × Rule) := do
  match t.declarations[← t.skip]? with
  | some (.skip strategy body) => some (strategy, body)
  | _ => none

/-- Adds a declaration at the end. -/
def push (t : Table) (d : Declaration) : Table :=
  { t with declarations := t.declarations ++ [d] }

def record (t : Table) (c : Conflict) : Table :=
  { t with conflicts := t.conflicts ++ [c] }

/-- Whether the declaration at a place is a main rule. -/
def isMainAt (t : Table) (place : Nat) : Bool :=
  match t.declarations[place]? with
  | some (.main _ _) => true
  | _ => false

/-- Gives the rule name to the declaration at a place, unless another holds it. -/
def indexRule (t : Table) (name : String) (place : Nat) (viaMain : Bool) : Table :=
  match t.rules.lookup name with
  | none => { t with rules := t.rules ++ [(name, place)] }
  | some holder =>
      t.record (if viaMain || t.isMainAt holder then .mainName name else .rule name)

/-- Registers a declaration. -/
def declare (t : Table) (d : Declaration) : Table :=
  let place := t.length
  match d with
  | .token name _ =>
      if t.hasToken name then (t.push d).record (.token name)
      else { t.push d with tokens := t.tokens ++ [(name, place)] }
  | .rule name _ => (t.push d).indexRule name place false
  | .main name _ =>
      if t.main.isSome then (t.push d).record .main
      else
        let registered := { t.push d with main := some place }
        match name with
        | none => registered
        | some name => registered.indexRule name place true
  | .skip _ _ =>
      if t.skip.isSome then (t.push d).record .skip
      else { t.push d with skip := some place }

def declareAll (t : Table) (declarations : List Declaration) : Table :=
  declarations.foldl declare t

/-- The builtins whose names are free. -/
def missingBuiltins (t : Table) : List Builtin :=
  Builtin.all.filter fun b => !t.hasToken b.tokenName

def builtinDeclaration (b : Builtin) : Declaration :=
  .token b.tokenName (.leaf (.builtin b))

/-- Registers a builtin if its name is free, and counts it then. -/
def addBuiltin (counted : Table × Nat) (b : Builtin) : Table × Nat :=
  if counted.1.hasToken b.tokenName then counted
  else (counted.1.declare (builtinDeclaration b), counted.2 + 1)

/-- Registers the builtins one after the other, and tells how many were added. -/
def addBuiltins (t : Table) : Table × Nat :=
  Builtin.all.foldl addBuiltin (t, 0)

/-- Registers the builtins whose names are free. -/
def registerBuiltins (t : Table) : Table :=
  t.addBuiltins.1

end Table

/-- Registers what a parsed source declares. -/
def Table.register (t : Table) (parsed : ParsedSource) : Table :=
  t.declareAll (parsed.declarations.map Spanned.node)

/-- Registers the declarations of a source, and reports on those that failed. -/
def Table.compile (t : Table) (source : String) : Table × Report :=
  let parsed := parseSource source
  (t.register parsed, parsed.report)

/-- The table of a source without errors, with or without the builtins. -/
def compileWith (withBuiltins : Bool) (source : String) : Except Report Table :=
  let (table, report) := Table.empty.compile source
  if report.isEmpty then
    .ok (if withBuiltins then table.registerBuiltins else table)
  else
    .error report

end GrammarText
