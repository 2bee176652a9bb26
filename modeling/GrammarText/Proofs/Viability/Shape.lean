/-
The languages of the notation, as regular expressions over tokens with one recursion, through
parentheses.  What depends on the value of a token is left out: bounds may be in any order, and a
run of literals may mix those that end in a word character with others.  Tokens are viable as long
as they begin some word of the language of declarations.
-/
import GrammarText.Proofs.Grammar.Derivation
import Mathlib.Computability.Language
import Mathlib.Order.FixedPoints
import Mathlib.Order.CompletePartialOrder

namespace GrammarText
namespace Grammar
namespace Shape

open Computability

/-- The words of one token in `S`. -/
def one (S : Token → Prop) : Language Token :=
  {w : List Token | ∃ t, S t ∧ w = [t]}

def mark (m : Mark) : Language Token :=
  one (· = .mark m)

def word (text : String) : Language Token :=
  one (· = .ruleName text)

def tokenName : Language Token :=
  one fun t => ∃ name, t = .tokenName name

def ruleName : Language Token :=
  one fun t => ∃ name, t = .ruleName name

def literal : Language Token :=
  one fun t => ∃ text, t = .literal text

def regex : Language Token :=
  one fun t => ∃ body, t = .regex body

def integer : Language Token :=
  one fun t => ∃ value, t = .integer value

/-- Bounds, whichever of two is the greater. -/
def bounds : Language Token :=
  mark .openBrace * (integer * (1 + mark .range * (1 + integer)) * mark .closeBrace)

def quantifier : Language Token :=
  mark .question + (mark .star + (mark .plus + bounds))

/-- Literals with bars between them. -/
def run : Language Token :=
  literal * (mark .bar * literal)∗

/-- What may stand behind the word for keywords. -/
def keyword : Language Token :=
  word "choice" * run + literal

def numberKind : Language Token :=
  word NumberKind.integer.word + (word NumberKind.float.word + word NumberKind.double.word)

def directive : Language Token :=
  mark .dollar * (word "identifier" + (word "keyword" * keyword + word "number" * numberKind))

/-- The terms of patterns other than groups. -/
def patternAtom : Language Token :=
  tokenName + (directive + (regex + run))

/-- The terms of rules other than groups. -/
def ruleAtom : Language Token :=
  ruleName + patternAtom

section

variable (term : Language Token)

/-- A term, and any number of separators with their quantifiers. -/
def separated : Language Token :=
  term * (mark .percent * term * quantifier)∗

def element : Language Token :=
  separated term * (1 + quantifier)

def sequence : Language Token :=
  element term * (element term)∗

def alternatives : Language Token :=
  sequence term * (mark .bar * sequence term)∗

end

def group (inner : Language Token) : Language Token :=
  mark .openParen * (inner * mark .closeParen)

/-- Terms over what may stand in parentheses. -/
def term (atom inner : Language Token) : Language Token :=
  group inner + atom

/-- More terms make more expressions. -/
theorem alternatives_mono {a b : Language Token} (h : a ≤ b) : alternatives a ≤ alternatives b := by
  have hseparated : separated a ≤ separated b :=
    mul_le_mul' h (kstar_mono (mul_le_mul' (mul_le_mul' le_rfl h) le_rfl))
  have helement : element a ≤ element b := mul_le_mul' hseparated le_rfl
  have hsequence : sequence a ≤ sequence b := mul_le_mul' helement (kstar_mono helement)
  exact mul_le_mul' hsequence (kstar_mono (mul_le_mul' le_rfl hsequence))

theorem group_mono : Monotone group :=
  fun _ _ h => mul_le_mul' le_rfl (mul_le_mul' h le_rfl)

theorem term_mono (atom : Language Token) : Monotone (term atom) :=
  fun _ _ h => sup_le_sup (group_mono h) le_rfl

/-- Expressions are the least language that stands in its own parentheses. -/
def expression (atom : Language Token) : Language Token :=
  OrderHom.lfp
    ⟨fun inner => alternatives (term atom inner), fun _ _ h => alternatives_mono (term_mono atom h)⟩

theorem expression_eq (atom : Language Token) :
    expression atom = alternatives (term atom (expression atom)) :=
  (OrderHom.map_lfp _).symm

/-- A pattern can stand wherever a rule can. -/
theorem pattern_le_rule : expression patternAtom ≤ expression ruleAtom := by
  refine OrderHom.lfp_le _ ?_
  show alternatives (term patternAtom (expression ruleAtom)) ≤ expression ruleAtom
  rw [expression_eq ruleAtom]
  exact alternatives_mono (sup_le_sup (by rw [← expression_eq]) le_sup_right)

/-- The words of a strategy for skipping, which may be left out. -/
def strategy : Language Token :=
  1 + (word "before" + word "after") * (1 + (word "greedy" + word "lazy"))

/-- What stands before the colon of a rule. -/
def header : Language Token :=
  mark .dollar * (word "main" * (1 + ruleName) + word "skip" * strategy) + ruleName

/-- Declarations with their semicolons. -/
def declaration : Language Token :=
  tokenName * mark .colon * expression patternAtom * mark .semicolon
    + header * mark .colon * expression ruleAtom * mark .semicolon

end Shape

/-- Something completes the tokens to a declaration, checks of values aside. -/
def Viable (tokens : List Token) : Prop :=
  ∃ later, tokens ++ later ∈ Shape.declaration

end Grammar
end GrammarText
