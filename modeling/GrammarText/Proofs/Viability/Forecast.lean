/-
What an error lists depends on what was read and not on what comes next.  A parser is looked at on
some tokens and on all that may stand behind them without being read, be it a token or the end.  Its
outcome can be forecast: the value, the tokens that are left over, and where the error lies, in
front of some of the tokens or behind all of them.  Of an error behind all of them it is known what
it says, except that the end leaves something out.
-/
import GrammarText.Proofs.Viability.Colon
import GrammarText.Proofs.Viability.Listed

namespace GrammarText

open Computability GrammarText.Parser

namespace Expectation

/-- A kind of token, of which any will do. -/
def isKind : Expectation → Bool
  | tokenName | ruleName | literal | regex | integer => true
  | endOfInput | word _ | mark _ | tokenExpression | ruleExpression | quantifier => false

end Expectation

namespace Grammar

/-- What an error says that lies behind all that was read. -/
structure Notice where
  fault : ParseFault
  label : Option Expectation
  /-- What is listed whatever comes next. -/
  listed : Set Expectation
  /-- What is listed if a token comes next, and left out at the end. -/
  omitted : Set Expectation

namespace Notice

/-- The error says so, given what comes next. -/
structure Of (n : Notice) (next : List Lexeme) (e : ParseError) : Prop where
  fault : e.fault = n.fault
  label : e.label = n.label
  expected : n.fault = .unexpected → ∀ x, x ∈ e.expected ↔ x ∈ n.listed ∨ next ≠ [] ∧ x ∈ n.omitted

def merge (a b : Notice) : Notice :=
  if a.fault ≠ .unexpected then a
  else if b.fault ≠ .unexpected then b
  else ⟨.unexpected, a.label <|> b.label, a.listed ∪ b.listed, a.omitted ∪ b.omitted⟩

def withLabel (name : Expectation) (n : Notice) : Notice :=
  if n.label = none ∧ n.fault = .unexpected then ⟨.unexpected, some name, {name}, ∅⟩ else n

variable {a b n : Notice} {next : List Lexeme} {e e' : ParseError}

theorem Of.merge (ha : a.Of next e) (hb : b.Of next e') :
    (a.merge b).Of next (e.merge e') := by
  unfold Notice.merge
  by_cases hfault : a.fault = .unexpected
  case neg => rwa [if_pos hfault, ParseError.merge_of_specific (ha.fault ▸ hfault)]
  by_cases hfault' : b.fault = .unexpected
  case neg =>
    rwa [if_neg (not_not.mpr hfault), if_pos hfault',
      ParseError.merge_specific (ha.fault.trans hfault) (hb.fault ▸ hfault')]
  rw [if_neg (not_not.mpr hfault), if_neg (not_not.mpr hfault'),
    ParseError.merge_of_unexpected (ha.fault.trans hfault) (hb.fault.trans hfault')]
  refine ⟨rfl, ?_, fun _ x => ?_⟩
  · show e.label.or e'.label = _
    rw [ha.label, hb.label, Option.or_eq_orElse]
    rfl
  · show x ∈ Expectation.union _ _ ↔ _
    rw [Expectation.mem_union_iff, ha.expected hfault, hb.expected hfault', Set.mem_union,
      Set.mem_union]
    tauto

theorem Of.withLabel (h : n.Of next e) (name : Expectation) :
    (n.withLabel name).Of next (e.withLabel name) := by
  unfold Notice.withLabel
  by_cases hfault : n.fault = .unexpected
  case neg =>
    rwa [if_neg fun hnew => hfault hnew.2, ParseError.withLabel_of_specific (h.fault ▸ hfault)]
  by_cases hnone : n.label = none
  case neg =>
    obtain ⟨other, hother⟩ := Option.ne_none_iff_exists'.mp hnone
    rwa [if_neg fun hnew => hnone hnew.1, ParseError.withLabel_of_label (h.label.trans hother)]
  rw [if_pos ⟨hnone, hfault⟩, ParseError.withLabel_of_unnamed (h.label.trans hnone)
    (h.fault.trans hfault)]
  refine ⟨h.fault.trans hfault, rfl, fun _ x => ?_⟩
  show x ∈ [name] ↔ _
  simp

end Notice

/-- Where an error lies: in front of some of the tokens that were read, or behind all of them. -/
inductive Outlook where
  /-- The tokens that are left are some of those that were read and one more. -/
  | inside (ahead : Nat)
  | behind (n : Notice)

namespace Outlook

def Of (next : List Lexeme) : Outlook → Setback → Prop
  | inside ahead, s => s.left = ahead + 1 + next.length
  | behind n, s => s.left = next.length ∧ n.Of next s.error

/-- All that is said behind the tokens is allowed. -/
def Within (P : Notice → Prop) : Outlook → Prop
  | inside _ => True
  | behind n => P n

def furthest : Outlook → Outlook → Outlook
  | inside ahead, inside ahead' => inside (min ahead ahead')
  | inside _, behind n => behind n
  | behind n, inside _ => behind n
  | behind n, behind n' => behind (n.merge n')

def max (a : Outlook) : Option Outlook → Outlook
  | none => a
  | some b => a.furthest b

def latest : Option Outlook → Option Outlook → Option Outlook
  | none, later => later
  | earlier, none => earlier
  | some earlier, some later => some (later.furthest earlier)

def withLabel (name : Expectation) : Outlook → Outlook
  | inside ahead => inside ahead
  | behind n => behind (n.withLabel name)

/-- There is an error where one is foreseen. -/
def OfOption (next : List Lexeme) : Option Outlook → Option Setback → Prop
  | none, none => True
  | some a, some s => a.Of next s
  | _, _ => False

variable {next : List Lexeme} {a b : Outlook} {s s' : Setback} {P Q : Notice → Prop}

theorem Of.furthest (ha : a.Of next s) (hb : b.Of next s') :
    (a.furthest b).Of next (s.furthest s') := by
  unfold Setback.furthest
  cases a with
  | inside ahead =>
    have hleft : s.left = ahead + 1 + next.length := ha
    cases b with
    | inside ahead' =>
      have hleft' : s'.left = ahead' + 1 + next.length := hb
      show Setback.left _ = min ahead ahead' + 1 + next.length
      split
      · omega
      split
      · omega
      · show s.left = _
        omega
    | behind n' =>
      have hleft' := hb.1
      rw [if_neg (by omega), if_pos (by omega)]
      exact hb
  | behind n =>
    have hleft := ha.1
    cases b with
    | inside ahead' =>
      have hleft' : s'.left = ahead' + 1 + next.length := hb
      rw [if_pos (by omega)]
      exact ha
    | behind n' =>
      have hleft' := hb.1
      rw [if_neg (by omega), if_neg (by omega)]
      exact ⟨hleft, ha.2.merge hb.2⟩

theorem Of.max (ha : a.Of next s) {f : Option Outlook} {o : Option Setback}
    (hf : OfOption next f o) : (a.max f).Of next (s.max o) := by
  cases f <;> cases o
  · exact ha
  · exact hf.elim
  · exact hf.elim
  · exact ha.furthest hf

theorem OfOption.latest {f g : Option Outlook} {o o' : Option Setback}
    (hf : OfOption next f o) (hg : OfOption next g o') :
    OfOption next (Outlook.latest f g) (Setback.latest o o') := by
  cases f <;> cases o
  · cases g <;> cases o' <;> exact hg
  · exact hf.elim
  · exact hf.elim
  · cases g <;> cases o'
    · exact hf
    · exact hg.elim
    · exact hg.elim
    · exact Of.furthest hg hf

theorem Of.withLabel (h : a.Of next s) (name : Expectation) :
    (a.withLabel name).Of next (s.withLabel name) := by
  cases a with
  | inside ahead => exact h
  | behind n => exact ⟨h.1, h.2.withLabel name⟩

theorem Within.imp (h : a.Within P) (hPQ : ∀ n, P n → Q n) : a.Within Q := by
  cases a with
  | inside ahead => trivial
  | behind n => exact hPQ n h

variable (hmerge : ∀ n n', P n → P n' → P (n.merge n'))

include hmerge

theorem Within.furthest (ha : a.Within P) (hb : b.Within P) : (a.furthest b).Within P := by
  cases a <;> cases b
  · trivial
  · exact hb
  · exact ha
  · exact hmerge _ _ ha hb

theorem Within.max (ha : a.Within P) {f : Option Outlook} (hf : ∀ b ∈ f, b.Within P) :
    (a.max f).Within P := by
  cases f with
  | none => exact ha
  | some b => exact ha.furthest hmerge (hf b rfl)

theorem Within.latest {f g : Option Outlook} (hf : ∀ b ∈ f, b.Within P)
    (hg : ∀ b ∈ g, b.Within P) : ∀ b ∈ Outlook.latest f g, b.Within P := by
  cases f with
  | none => exact hg
  | some a =>
    cases g with
    | none => exact hf
    | some b =>
      intro c hc
      obtain rfl := Option.some.inj hc
      exact (hg b rfl).furthest hmerge (hf a rfl)

end Outlook

/-- What a parser makes of some tokens and whatever comes behind them. -/
inductive Forecast (α : Type) where
  | done (value : α) (rest : List Lexeme) (outlook : Option Outlook)
  | failed (outlook : Outlook)

namespace Forecast

variable {α β : Type}

def Of (next : List Lexeme) : Forecast α → Outcome α → Prop
  | done value rest f, o => ∃ s, o = .done value (rest ++ next) s ∧ Outlook.OfOption next f s
  | failed f, o => ∃ s, o = .failed s ∧ f.Of next s

def Within (P : Notice → Prop) : Forecast α → Prop
  | done _ _ f => ∀ a ∈ f, a.Within P
  | failed f => f.Within P

theorem Within.imp {P Q : Notice → Prop} {f : Forecast α} (h : f.Within P)
    (hPQ : ∀ n, P n → Q n) : f.Within Q := by
  cases f with
  | done value rest o => exact fun a ha => (h a ha).imp hPQ
  | failed o => exact Outlook.Within.imp h hPQ

end Forecast

/-- Nothing of what comes next is read: with its first token no word goes on. -/
def Barred (K : Language Token) (read : List Token) : List Token → Prop
  | [] => True
  | t :: _ => ¬ Begun K (read ++ [t])

section

variable {A B K : Language Token} {read u next : List Token}

theorem Stuck.barred (h : Stuck K read next) : Barred K read next := by
  cases next with
  | nil => trivial
  | cons t more => exact h

theorem Barred.mono (hAB : A ≤ B) (h : Barred B read next) : Barred A read next := by
  cases next with
  | nil => trivial
  | cons t more => exact fun hbegun => h (hbegun.mono hAB)

theorem Barred.left (hB : ∃ w, w ∈ B) (h : Barred (A * B) read next) : Barred A read next := by
  cases next with
  | nil => trivial
  | cons t more => exact fun hbegun => h (hbegun.mul hB)

theorem Barred.behind (hu : u ∈ A) (h : Barred (A * B) (u ++ read) next) :
    Barred B read next := by
  cases next with
  | nil => trivial
  | cons t more =>
    refine fun hbegun => h ?_
    rw [List.append_assoc]
    exact hbegun.behind hu

end

end Grammar
end GrammarText
