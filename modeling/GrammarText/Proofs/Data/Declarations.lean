/-
Declarations read off their data.  The kind of a node, of which there are five above the leaves and
others at them, tells how to read the rest of it.  Patterns and rules both have a reference among
their kinds, but they never stand in the same place.
-/
import GrammarText.Proofs.Data.Json
import GrammarText.OutputFormat

namespace GrammarText
namespace Data

/-- The kind of a node. -/
def kind? (d : Data) : Option String :=
  (d.field? "kind").bind text?

theorem node_inj {a b : String} {v w : Data} (h : node a v = node b w) : a = b ∧ v = w := by
  simpa [node] using h

end Data

theorem Quantifier.toData_inj {q r : Quantifier} (h : q.toData = r.toData) : q = r := by
  obtain ⟨min, max, ordered⟩ := q
  obtain ⟨min', max', ordered'⟩ := r
  have hmin : min = min' := by
    have hnumber : min.toNat = min'.toNat := by
      simp only [toData, Data.record.injEq, List.cons.injEq, Prod.mk.injEq, Data.number.injEq] at h
      exact h.1.2
    exact UInt32.toNat_inj.mp hnumber
  have hmax : max = max' := by
    simp only [toData, Data.record.injEq, List.cons.injEq, Prod.mk.injEq] at h
    cases max with
    | none =>
      cases max' with
      | none => rfl
      | some _ => cases h.2.1.2
    | some m =>
      cases max' with
      | none => cases h.2.1.2
      | some m' => exact congrArg some (UInt32.toNat_inj.mp (Data.number.inj h.2.1.2))
  subst hmin hmax
  rfl

namespace Expr

variable {Leaf : Type} [LeafData Leaf]

/-- The kinds of the nodes above the leaves. -/
def kinds : List String :=
  ["sequence", "choice", "optional", "repeat", "separated_repeat"]

/-- Leaves that can be told from each other and from the nodes above them. -/
class ToldLeaves (Leaf : Type) [LeafData Leaf] : Prop where
  inj : ∀ {a b : Leaf}, LeafData.toData a = LeafData.toData b → a = b
  kind : ∀ value : Leaf, ∃ name, (LeafData.toData value).kind? = some name ∧ name ∉ kinds

theorem leaf_ne_node [ToldLeaves Leaf] {value : Leaf} {name : String} {d : Data}
    (hname : name ∈ kinds) : LeafData.toData value ≠ .node name d := by
  intro h
  obtain ⟨other, hother, hnot⟩ := ToldLeaves.kind value
  rw [h] at hother
  cases hother
  exact hnot hname

mutual

theorem toData_inj [ToldLeaves Leaf] : ∀ {a b : Expr Leaf}, a.toData = b.toData → a = b
  | leaf value, b => by
    intro h
    cases b with
    | leaf other => exact congrArg leaf (ToldLeaves.inj h)
    | _ => exact absurd h (leaf_ne_node (by decide))
  | sequence items, b => by
    intro h
    cases b with
    | leaf other => exact absurd h.symm (leaf_ne_node (by decide))
    | sequence others =>
      exact congrArg sequence (toDataList_inj (Data.list.inj (Data.node_inj h).2))
    | _ => simpa using (Data.node_inj h).1
  | choice items, b => by
    intro h
    cases b with
    | leaf other => exact absurd h.symm (leaf_ne_node (by decide))
    | choice others => exact congrArg choice (toDataList_inj (Data.list.inj (Data.node_inj h).2))
    | _ => simpa using (Data.node_inj h).1
  | optional child, b => by
    intro h
    cases b with
    | leaf other => exact absurd h.symm (leaf_ne_node (by decide))
    | optional other => exact congrArg optional (toData_inj (Data.node_inj h).2)
    | _ => simpa using (Data.node_inj h).1
  | repeated child q, b => by
    intro h
    cases b with
    | leaf other => exact absurd h.symm (leaf_ne_node (by decide))
    | repeated other r =>
      have hparts := (Data.node_inj h).2
      simp only [Data.record.injEq, List.cons.injEq, Prod.mk.injEq, true_and, and_true] at hparts
      rw [toData_inj hparts.1, Quantifier.toData_inj hparts.2]
    | _ => simpa using (Data.node_inj h).1
  | separated child separator q, b => by
    intro h
    cases b with
    | leaf other => exact absurd h.symm (leaf_ne_node (by decide))
    | separated other mark r =>
      have hparts := (Data.node_inj h).2
      simp only [Data.record.injEq, List.cons.injEq, Prod.mk.injEq, true_and, and_true] at hparts
      rw [toData_inj hparts.1, toData_inj hparts.2.1, Quantifier.toData_inj hparts.2.2]
    | _ => simpa using (Data.node_inj h).1

theorem toDataList_inj [ToldLeaves Leaf] :
    ∀ {items others : List (Expr Leaf)}, toDataList items = toDataList others → items = others
  | [], [] => fun _ => rfl
  | [], _ :: _ => fun h => nomatch h
  | _ :: _, [] => fun h => nomatch h
  | item :: rest, other :: more => by
    intro h
    obtain ⟨hitem, hrest⟩ := List.cons.inj h
    rw [toData_inj hitem, toDataList_inj hrest]

end

end Expr

/-! Leaves. -/

theorem NumberKind.dataName_inj {a b : NumberKind} : a.dataName = b.dataName ↔ a = b := by
  cases a <;> cases b <;> decide

theorem Builtin.dataName_inj {a b : Builtin} : a.dataName = b.dataName ↔ a = b := by
  cases a <;> cases b <;> decide

theorem SkipStrategy.dataName_inj {a b : SkipStrategy} : a.dataName = b.dataName ↔ a = b := by
  cases a <;> cases b <;> decide

theorem map_text_inj {a b : List String} : a.map Data.text = b.map .text ↔ a = b :=
  List.map_inj_right fun _ _ => Data.text.inj

/-- Leaves of different kinds differ in the kind, and those of one kind in the rest. -/
theorem PatternLeaf.toData_inj {a b : PatternLeaf} (h : a.toData = b.toData) : a = b := by
  cases a <;> cases b <;>
    simp_all [toData, Data.node, Data.kind, map_text_inj, NumberKind.dataName_inj,
      Builtin.dataName_inj]

instance : Expr.ToldLeaves PatternLeaf where
  inj := PatternLeaf.toData_inj
  kind value := by
    cases value <;> exact ⟨_, rfl, by decide⟩

theorem RuleLeaf.toData_inj {a b : RuleLeaf} (h : a.toData = b.toData) : a = b := by
  cases a with
  | ref name =>
    cases b with
    | ref other => exact congrArg ref (Data.text.inj (Data.node_inj h).2)
    | token pattern => simpa using (Data.node_inj h).1
  | token pattern =>
    cases b with
    | ref other => simpa using (Data.node_inj h).1
    | token other => exact congrArg token (Expr.toData_inj (Data.node_inj h).2)

instance : Expr.ToldLeaves RuleLeaf where
  inj := RuleLeaf.toData_inj
  kind value := by
    cases value <;> exact ⟨_, rfl, by decide⟩

/-! Declarations. -/

theorem Declaration.toData_inj {a b : Declaration} (h : a.toData = b.toData) : a = b := by
  cases a with
  | token name pattern =>
    cases b with
    | token other more =>
      simp only [toData, Data.record.injEq, List.cons.injEq, Prod.mk.injEq, Data.text.injEq,
        true_and, and_true] at h
      rw [h.1, Expr.toData_inj h.2]
    | _ => simp [toData] at h
  | rule name body =>
    cases b with
    | rule other more =>
      simp only [toData, Data.record.injEq, List.cons.injEq, Prod.mk.injEq, Data.text.injEq,
        true_and, and_true] at h
      rw [h.1, Expr.toData_inj h.2]
    | _ => simp [toData] at h
  | main name body =>
    cases b with
    | main other more =>
      simp only [toData, Data.record.injEq, List.cons.injEq, Prod.mk.injEq,
        true_and, and_true] at h
      have hname : name = other := by
        cases name <;> cases other <;> simp_all
      rw [hname, Expr.toData_inj h.2]
    | _ => simp [toData] at h
  | skip strategy body =>
    cases b with
    | skip other more =>
      simp only [toData, Data.record.injEq, List.cons.injEq, Prod.mk.injEq, Data.text.injEq,
        true_and, and_true] at h
      rw [SkipStrategy.dataName_inj.mp h.1, Expr.toData_inj h.2]
    | _ => simp [toData] at h

theorem Table.toData_inj {s t : Table} (h : s.toData = t.toData) :
    s.declarations = t.declarations := by
  simp only [toData, Data.record.injEq, List.cons.injEq, Prod.mk.injEq, Data.list.injEq,
    true_and, and_true] at h
  exact (List.map_inj_right fun _ _ => Declaration.toData_inj).mp h

/-- Two tables are written the same in JSON if and only if they have the same declarations.  The
layout loses nothing at any level: declarations, rules, patterns and quantifiers of any depth can be
read off their data, the words for strategies differ, and data can be read off their text whatever
the characters in them.  What writes YAML has no part in it. -/
theorem Table.json_has_declarations :
    (∀ (yaml : Data → Except String String) (s t : Table),
      s.renderWith yaml .json = t.renderWith yaml .json ↔ s.declarations = t.declarations) ∧
    Function.Injective Data.toJson ∧
    Function.Injective Declaration.toData ∧
    Function.Injective (Expr.toData : Rule → Data) ∧
    Function.Injective (Expr.toData : Pattern → Data) ∧
    Function.Injective Quantifier.toData ∧
    Function.Injective SkipStrategy.dataName := by
  refine ⟨fun yaml s t => ⟨fun h => toData_inj (Data.toJson_inj (Except.ok.inj h)), fun h => ?_⟩,
    fun _ _ => Data.toJson_inj, fun _ _ => Declaration.toData_inj, fun _ _ => Expr.toData_inj,
    fun _ _ => Expr.toData_inj, fun _ _ => Quantifier.toData_inj,
    fun _ _ => SkipStrategy.dataName_inj.mp⟩
  simp only [renderWith, toData, h]

end GrammarText
