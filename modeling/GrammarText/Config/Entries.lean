/-
Maps, as lists of entries whose keys are distinct.  How a map goes through its entries is its own
affair: an order of them is given from outside wherever it could make a difference.
-/
namespace GrammarText
namespace Config

variable {κ ν : Type} [DecidableEq κ]

/-- Replaces the first entry of a key, or adds one at the end. -/
def replaceEntry (key : κ) (value : ν) : List (κ × ν) → List (κ × ν)
  | [] => [(key, value)]
  | (other, old) :: rest =>
      if other = key then (key, value) :: rest
      else (other, old) :: replaceEntry key value rest

theorem mem_keys_replaceEntry {key : κ} {value : ν} {items : List (κ × ν)} {k : κ} :
    k ∈ (replaceEntry key value items).map Prod.fst ↔ k = key ∨ k ∈ items.map Prod.fst := by
  induction items with
  | nil => simp [replaceEntry]
  | cons item rest ih =>
    rw [replaceEntry]
    split
    · rename_i heq
      simp [heq]
    · rw [List.map_cons, List.mem_cons, ih, List.map_cons, List.mem_cons]
      exact or_left_comm

theorem nodup_keys_replaceEntry (key : κ) (value : ν) {items : List (κ × ν)}
    (h : (items.map Prod.fst).Nodup) : ((replaceEntry key value items).map Prod.fst).Nodup := by
  induction items with
  | nil => simp [replaceEntry]
  | cons item rest ih =>
    rw [List.map_cons, List.nodup_cons] at h
    rw [replaceEntry]
    split
    · rename_i heq
      rw [List.map_cons, List.nodup_cons, ← heq]
      exact h
    · rename_i hne
      rw [List.map_cons, List.nodup_cons, mem_keys_replaceEntry]
      exact ⟨fun hmem => hmem.elim hne h.1, ih h.2⟩

structure Entries (κ ν : Type) where
  items : List (κ × ν)
  distinct : (items.map Prod.fst).Nodup

namespace Entries

def empty : Entries κ ν :=
  ⟨[], List.nodup_nil⟩

/-- Gives a key its value, in the place of the one it had. -/
def insert (m : Entries κ ν) (key : κ) (value : ν) : Entries κ ν :=
  ⟨replaceEntry key value m.items, nodup_keys_replaceEntry key value m.distinct⟩

/-- Gives keys their values in turn. -/
def insertAll (m : Entries κ ν) (items : List (κ × ν)) : Entries κ ν :=
  items.foldl (fun m (key, value) => m.insert key value) m

end Entries

/-- An order in which maps are gone through.  Every entry has its turn once, and nothing else is
known of it. -/
structure Order where
  arrange : {α : Type} → List α → List α
  perm : ∀ {α : Type} (items : List α), (arrange items).Perm items

/-- The order in which the keys came. -/
def Order.asInserted : Order :=
  ⟨fun items => items, fun items => .refl items⟩

end Config
end GrammarText
