/-
Setbacks.  Of two errors the one that lies further on is kept, and at one place an error about a
value.  Two ordinary errors at one place are merged.  A property that is kept by that is kept by all
ways in which setbacks come together.
-/
import GrammarText.Parser
import GrammarText.Proofs.ParseError.Merging

namespace GrammarText
namespace Setback

variable {a b : Setback} {Q : Setback → Prop}

theorem furthest_of_lt (h : a.left < b.left) : a.furthest b = a := by
  rw [furthest, if_pos h]

theorem furthest_of_gt (h : b.left < a.left) : a.furthest b = b := by
  rw [furthest, if_neg (Nat.lt_asymm h), if_pos h]

theorem furthest_of_eq (h : a.left = b.left) : a.furthest b = ⟨a.left, a.error.merge b.error⟩ := by
  rw [furthest, h, if_neg (Nat.lt_irrefl _), if_neg (Nat.lt_irrefl _)]

theorem furthest_cases (a b : Setback) :
    a.furthest b = a ∨ a.furthest b = b ∨
      a.left = b.left ∧ a.error.fault = .unexpected ∧ b.error.fault = .unexpected ∧
        a.furthest b = ⟨a.left, a.error.merge b.error⟩ := by
  rcases Nat.lt_trichotomy a.left b.left with hlt | heq | hlt
  · exact .inl (furthest_of_lt hlt)
  · rw [furthest_of_eq heq]
    by_cases hfault : a.error.fault = .unexpected
    case neg => exact .inl (by rw [ParseError.merge_of_specific hfault])
    by_cases hfault' : b.error.fault = .unexpected
    case neg => exact .inr (.inl (by rw [ParseError.merge_specific hfault hfault', heq]))
    exact .inr (.inr ⟨heq, hfault, hfault', rfl⟩)
  · exact .inr (.inl (furthest_of_gt hlt))

theorem max_of (hQ : ∀ a b, Q a → Q b → Q (a.furthest b)) {a : Setback} {o : Option Setback}
    (ha : Q a) (ho : ∀ s ∈ o, Q s) : Q (a.max o) := by
  cases o with
  | none => exact ha
  | some b => exact hQ a b ha (ho b rfl)

/-- A property that two errors have is that of the one that comes of them. -/
theorem latest_of (hQ : ∀ a b, Q a → Q b → Q (a.furthest b)) {o o' : Option Setback}
    (ho : ∀ s ∈ o, Q s) (ho' : ∀ s ∈ o', Q s) : ∀ s ∈ latest o o', Q s := by
  cases o with
  | none => exact ho'
  | some a =>
    cases o' with
    | none => exact ho
    | some b =>
      intro s hs
      obtain rfl := Option.some.inj hs
      exact hQ b a (ho' b rfl) (ho a rfl)

end Setback
end GrammarText
