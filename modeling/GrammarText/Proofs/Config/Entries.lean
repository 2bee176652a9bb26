/-
Looking up keys in maps.  A map that keys are put in has the last value of each, and what it has of
a key does not depend on the order in which it is gone through.
-/
import GrammarText.Config.Entries
import Mathlib.Data.List.Nodup

namespace GrammarText
namespace Config

variable {κ ν : Type} [DecidableEq κ]

theorem lookup_replaceEntry (key k : κ) (value : ν) (items : List (κ × ν)) :
    (replaceEntry key value items).lookup k =
      if k = key then some value else items.lookup k := by
  induction items with
  | nil => by_cases hk : k = key <;> simp [replaceEntry, List.lookup_cons, hk, beq_false_of_ne]
  | cons item rest ih =>
    obtain ⟨other, old⟩ := item
    simp only [replaceEntry]
    split
    · rename_i heq
      simp only [List.lookup_cons, heq]
      by_cases hk : k = key
      · simp [hk]
      · simp [hk, beq_false_of_ne hk]
    · rename_i hne
      simp only [List.lookup_cons]
      by_cases hk : k = other
      · simp [hk, hne]
      · simp only [beq_false_of_ne hk, ih]

theorem replaceEntry_replaceEntry (key : κ) (value other : ν) (items : List (κ × ν)) :
    replaceEntry key value (replaceEntry key other items) = replaceEntry key value items := by
  induction items with
  | nil => simp [replaceEntry]
  | cons item rest ih =>
    rw [replaceEntry, replaceEntry]
    split
    · rw [replaceEntry, if_pos rfl]
    · rename_i hne
      rw [replaceEntry, if_neg hne, ih]

theorem replaceEntry_of_lookup {key : κ} {value : ν} {items : List (κ × ν)}
    (h : items.lookup key = some value) : replaceEntry key value items = items := by
  induction items with
  | nil => cases h
  | cons item rest ih =>
    rw [replaceEntry]
    split
    · rename_i heq
      subst heq
      rw [← Option.some.inj (List.lookup_cons_self.symm.trans h)]
    · rename_i hne
      rw [List.lookup_cons, beq_false_of_ne (Ne.symm hne)] at h
      rw [ih h]

theorem mem_replaceEntry {key : κ} {value : ν} {items : List (κ × ν)} {item : κ × ν}
    (h : item ∈ replaceEntry key value items) : item = (key, value) ∨ item ∈ items := by
  induction items with
  | nil => exact .inl (List.mem_singleton.mp h)
  | cons first rest ih =>
    rw [replaceEntry] at h
    split at h
    · exact (List.mem_cons.mp h).imp_right (List.mem_cons_of_mem _)
    · rcases List.mem_cons.mp h with rfl | h
      · exact .inr (List.mem_cons_self ..)
      · exact (ih h).imp_right (List.mem_cons_of_mem _)

/-- With distinct keys an entry is found wherever it stands. -/
theorem lookup_eq_some_iff_mem {items : List (κ × ν)} (h : (items.map Prod.fst).Nodup) {key : κ}
    {value : ν} : items.lookup key = some value ↔ (key, value) ∈ items := by
  rw [List.lookup_eq_some_iff]
  constructor
  · rintro ⟨before, after, rfl, -⟩
    exact List.mem_append_right _ (List.mem_cons_self ..)
  · intro hmem
    obtain ⟨before, after, rfl⟩ := List.append_of_mem hmem
    refine ⟨before, after, rfl, fun item hitem => bne_iff_ne.mpr ?_⟩
    rw [List.map_append, List.map_cons, List.nodup_append] at h
    exact (h.2.2 _ (List.mem_map_of_mem hitem) _ (List.mem_cons_self ..)).symm

theorem lookup_of_perm {items other : List (κ × ν)} (hperm : items.Perm other)
    (h : (other.map Prod.fst).Nodup) (key : κ) : items.lookup key = other.lookup key := by
  have hdistinct : (items.map Prod.fst).Nodup := (hperm.map _).nodup_iff.mpr h
  refine Option.ext fun value => ?_
  rw [lookup_eq_some_iff_mem hdistinct, lookup_eq_some_iff_mem h]
  exact hperm.mem_iff

/-- Keys may be spelled in any way that keeps them apart. -/
theorem lookup_map_key {κ' : Type} [DecidableEq κ'] {spell : κ → κ'}
    (hspell : Function.Injective spell) (items : List (κ × ν)) (key : κ) :
    (items.map fun (k, value) => (spell k, value)).lookup (spell key) = items.lookup key := by
  induction items with
  | nil => rfl
  | cons item rest ih =>
    obtain ⟨k, value⟩ := item
    simp only [List.map_cons, List.lookup_cons, ih]
    by_cases hkey : key = k
    · simp [hkey]
    · simp only [beq_false_of_ne hkey, beq_false_of_ne fun h => hkey (hspell h)]

namespace Entries

/-- Of the values that a key is given in turn, the map has the last. -/
theorem lookup_insertAll (m : Entries κ ν) (given : List (κ × ν)) (key : κ) :
    (m.insertAll given).items.lookup key = (given.reverse.lookup key).or (m.items.lookup key) := by
  induction given generalizing m with
  | nil => rfl
  | cons item rest ih =>
    obtain ⟨k, value⟩ := item
    show ((m.insert k value).insertAll rest).items.lookup key = _
    rw [ih, List.reverse_cons, List.lookup_append, insert, lookup_replaceEntry, Option.or_assoc]
    congr 1
    by_cases hkey : key = k
    · simp [hkey]
    · simp [hkey, List.lookup_cons, beq_false_of_ne hkey]

theorem mem_insertAll {m : Entries κ ν} {given : List (κ × ν)} {item : κ × ν}
    (h : item ∈ (m.insertAll given).items) : item ∈ given ∨ item ∈ m.items := by
  induction given generalizing m with
  | nil => exact .inr h
  | cons first rest ih =>
    rcases ih h with hrest | hfirst
    · exact .inl (List.mem_cons_of_mem _ hrest)
    · refine (mem_replaceEntry hfirst).imp_left fun heq => ?_
      rw [heq]
      exact List.mem_cons_self ..

end Entries

/-- An order leaves the values of keys alone. -/
theorem Order.lookup_arrange (order : Order) (m : Entries κ ν) (key : κ) :
    (order.arrange m.items).lookup key = m.items.lookup key :=
  lookup_of_perm (order.perm m.items) m.distinct key

theorem Order.mem_arrange {α : Type} (order : Order) {items : List α} {item : α} :
    item ∈ order.arrange items ↔ item ∈ items :=
  (order.perm items).mem_iff

end Config
end GrammarText
