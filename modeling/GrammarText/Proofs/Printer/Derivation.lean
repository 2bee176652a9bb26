/-
The tokens of a canonical tree derive the tree.  A node derives at its own binding strength, and in
a place that wants a stronger one it stands in parentheses.  What stands behind a node matters only
if it is a bar: `Clear` says that none follows a quoted literal, which would take it for its own,
nor a choice, which would go on.
-/
import GrammarText.Proofs.Printer.Tokens

namespace GrammarText
namespace Grammar

open GrammarText.Expr (Canonical)

theorem quantifier_derives (q : Quantifier) (rest : List Token) :
    Bounds (q.tokens ++ rest) q rest := by
  obtain ⟨min, max, ordered⟩ := q
  unfold Quantifier.tokens
  cases max with
  | none =>
    simp only
    split
    · rename_i h
      obtain rfl : min = 0 := by simpa using h
      exact .zeroOrMore
    split
    · rename_i h
      obtain rfl : min = 1 := by simpa using h
      exact .oneOrMore
    · exact .atLeast
  | some max =>
    simp only
    split
    · rename_i h
      obtain ⟨rfl, rfl⟩ : min = 0 ∧ max = 1 := by simpa using h
      exact .optional
    split
    · rename_i h
      obtain rfl : min = max := by simpa using h
      exact .exactly
    · exact .between (ordered max rfl)

theorem quantifier_head_ne_bar (q : Quantifier) (rest : List Token) :
    ∀ more, q.tokens ++ rest ≠ .mark .bar :: more := by
  intro more heq
  obtain ⟨t, later, ht, hq⟩ := (quantifier_derives q rest).opens
  rw [heq] at ht
  obtain ⟨rfl, -⟩ := List.cons.inj ht
  cases hq

section

variable {Leaf : Type}

/-- What the grammar derives at a binding strength. -/
def At (Atom : List Token → Leaf → List Token → Prop) :
    Level → List Token → Expr Leaf → List Token → Prop
  | .choice, tokens, e, rest => Expression Atom tokens e rest
  | .sequence, tokens, e, rest =>
      ∃ items, Elements Atom tokens items rest ∧ e = .sequenceOf items
  | .quantified, tokens, e, rest => Element Atom tokens e rest
  | .separated, tokens, e, rest =>
      ∃ first mid, Term Atom tokens first mid ∧ Separators Atom first mid e rest
  | .term, tokens, e, rest => Term Atom tokens e rest

variable {Atom : List Token → Leaf → List Token → Prop} {tokens rest : List Token} {e : Expr Leaf}

theorem At.separated (h : At Atom .term tokens e rest) : At Atom .separated tokens e rest :=
  ⟨e, rest, h, .done⟩

theorem At.quantified (h : At Atom .separated tokens e rest) :
    At Atom .quantified tokens e rest := by
  obtain ⟨first, mid, hfirst, hlater⟩ := h
  exact .bare hfirst hlater

theorem At.sequence (h : At Atom .quantified tokens e rest) : At Atom .sequence tokens e rest :=
  ⟨[e], .one h, rfl⟩

theorem At.choice (h : At Atom .sequence tokens e rest) : At Atom .choice tokens e rest := by
  obtain ⟨items, hitems, rfl⟩ := h
  exact ⟨_, .one hitems, rfl⟩

/-- What derives at one strength derives at every looser one. -/
theorem At.loosen {level wanted : Level} (h : At Atom level tokens e rest)
    (hrank : wanted.rank ≤ level.rank) : At Atom wanted tokens e rest := by
  cases wanted with
  | term =>
    cases level with
    | term => exact h
    | _ => exact absurd hrank (by decide)
  | separated =>
    cases level with
    | term => exact h.separated
    | separated => exact h
    | _ => exact absurd hrank (by decide)
  | quantified =>
    cases level with
    | term => exact h.separated.quantified
    | separated => exact h.quantified
    | quantified => exact h
    | _ => exact absurd hrank (by decide)
  | sequence =>
    cases level with
    | term => exact h.separated.quantified.sequence
    | separated => exact h.quantified.sequence
    | quantified => exact h.sequence
    | sequence => exact h
    | choice => exact absurd hrank (by decide)
  | choice =>
    cases level with
    | term => exact h.separated.quantified.sequence.choice
    | separated => exact h.quantified.sequence.choice
    | quantified => exact h.sequence.choice
    | sequence => exact h.choice
    | choice => exact h

theorem level_ne_choice {e : Expr Leaf} {wanted : Level} (h : e.looserThan wanted = false)
    (hwanted : 0 < wanted.rank) : e.level ≠ .choice := by
  intro he
  rw [Expr.looserThan, he] at h
  have : ¬ Level.choice.rank < wanted.rank := by simpa using h
  exact this hwanted

/-- One more separator and its quantifier, behind all others. -/
theorem Separators.snoc : ∀ {child tokens e mid}, Separators Atom child tokens e mid →
    ∀ {separator : Expr Leaf} {q : Quantifier} {later last rest : List Token},
      mid = .mark .percent :: later → Term Atom later separator last → Bounds last q rest →
      Separators Atom child tokens (.separated e separator q) rest
  | _, _, _, _, .done, _, _, _, _, _, hmid, read, bounds => hmid ▸ .more read bounds .done
  | _, _, _, _, .more read' bounds' others, _, _, _, _, _, hmid, read, bounds =>
      .more read' bounds' (others.snoc hmid read bounds)

/-- Where no atom starts with a bar, no element does. -/
theorem Element.head_ne_bar
    (hatom : ∀ {tokens leaf rest}, Atom tokens leaf rest → ∀ more, tokens ≠ .mark .bar :: more)
    (h : Element Atom tokens e rest) : ∀ more, tokens ≠ .mark .bar :: more := by
  have hterm : ∀ {e rest}, Term Atom tokens e rest → ∀ more, tokens ≠ .mark .bar :: more := by
    intro e rest h
    cases h with
    | atom read => exact hatom read
    | group inside => simp
  cases h with
  | bare read _ => exact hterm read
  | suffix read _ _ => exact hterm read

theorem Elements.head_ne_bar
    (hatom : ∀ {tokens leaf rest}, Atom tokens leaf rest → ∀ more, tokens ≠ .mark .bar :: more)
    {items : List (Expr Leaf)} (h : Elements Atom tokens items rest) :
    ∀ more, tokens ≠ .mark .bar :: more := by
  cases h with
  | one read => exact read.head_ne_bar hatom
  | more read _ => exact read.head_ne_bar hatom

end

section

variable {Leaf : Type} [LeafText Leaf] {Atom : List Token → Leaf → List Token → Prop}
  {spell : Leaf → List Token} {P : Leaf → Prop}

/-- No bar follows a node that would take it in. -/
def Clear (e : Expr Leaf) (rest : List Token) : Prop :=
  e.endsInLiteral = true ∨ e.level = .choice → ∀ more, rest ≠ .mark .bar :: more

theorem Clear.of_head {e : Expr Leaf} {rest : List Token}
    (h : ∀ more, rest ≠ .mark .bar :: more) : Clear e rest :=
  fun _ => h

/-- The tokens of a node derive it at its own strength. -/
def Derives (Atom : List Token → Leaf → List Token → Prop) (spell : Leaf → List Token)
    (e : Expr Leaf) : Prop :=
  ∀ rest, Clear e rest → At Atom e.level (e.tokens spell ++ rest) e rest

/-- What the leaves have to satisfy for trees over them to derive. -/
structure SpelledAtoms (Atom : List Token → Leaf → List Token → Prop)
    (spell : Leaf → List Token) (P : Leaf → Prop) : Prop where
  derives : ∀ {value rest}, P value → Clear (.leaf value) rest →
    Atom (spell value ++ rest) value rest
  head_ne_bar : ∀ {tokens leaf rest}, Atom tokens leaf rest →
    ∀ more, tokens ≠ .mark .bar :: more

/-- A node in parentheses derives in every place, one without them where it is strong enough. -/
theorem Derives.parenthesized {e : Expr Leaf} (h : Derives Atom spell e) {needed : Bool}
    {wanted : Level} {rest : List Token}
    (hfree : needed = false → e.looserThan wanted = false ∧ Clear e rest) :
    At Atom wanted (parenthesizedTokens needed (e.tokens spell) ++ rest) e rest := by
  cases needed with
  | true =>
    have hclear : Clear e (.mark .closeParen :: rest) := .of_head (by simp)
    have hgroup : Term Atom (.mark .openParen :: (e.tokens spell ++ .mark .closeParen :: rest)) e
        rest := Expression.group (At.loosen (h _ hclear) (Nat.zero_le _) : At Atom .choice _ e _)
    have htokens : parenthesizedTokens true (e.tokens spell) ++ rest =
        .mark .openParen :: (e.tokens spell ++ .mark .closeParen :: rest) := by
      simp [parenthesizedTokens]
    have hterm : At Atom .term _ e rest := hgroup
    rw [htokens]
    refine hterm.loosen ?_
    cases wanted <;> decide
  | false =>
    obtain ⟨hloose, hclear⟩ := hfree rfl
    exact (h rest hclear).loosen (by simpa [Expr.looserThan] using hloose)

/-- A node that needs no parentheses in a sequence ends in a literal only if it is a leaf. -/
theorem clear_last {items : List (Expr Leaf)} {item : Expr Leaf} {rest : List Token}
    (hclear : Clear (.sequence items) rest) (hlast : items.getLast? = some item)
    (hloose : item.looserThan .quantified = false) : Clear item rest := by
  intro hends
  rcases hends with hends | hlevel
  · refine hclear (.inl ?_)
    cases item with
    | leaf value => simpa [Expr.endsInLiteral, hlast] using hends
    | sequence _ => cases hloose
    | _ => cases hends
  · exact absurd hlevel (level_ne_choice hloose (by decide))

theorem sequence_derives (hatoms : SpelledAtoms Atom spell P) {items : List (Expr Leaf)}
    (hne : items ≠ []) (h : ∀ item ∈ items, Derives Atom spell item) {rest : List Token}
    (hclear : Clear (.sequence items) rest) :
    Elements Atom (Expr.sequenceTokens spell items ++ rest) items rest := by
  induction items with
  | nil => exact absurd rfl hne
  | cons item others ih =>
    have hitem := h item (List.mem_cons_self ..)
    rw [Expr.sequenceTokens, List.append_assoc]
    cases others with
    | nil => exact .one (hitem.parenthesized fun hl => ⟨hl, clear_last hclear rfl hl⟩)
    | cons next more =>
      have hclear' : Clear (.sequence (next :: more)) rest := hclear
      have hothers := ih (by simp) (fun e he => h e (List.mem_cons_of_mem _ he)) hclear'
      have hhead := hothers.head_ne_bar hatoms.head_ne_bar
      have hfirst : At Atom .quantified _ item (Expr.sequenceTokens spell (next :: more) ++ rest) :=
        hitem.parenthesized fun hl => ⟨hl, .of_head hhead⟩
      exact .more hfirst hothers

theorem choice_derives {items : List (Expr Leaf)} (hne : items ≠ [])
    (h : ∀ item ∈ items, Derives Atom spell item) {rest : List Token}
    (hrest : ∀ more, rest ≠ .mark .bar :: more) :
    Alternatives Atom (Expr.choiceTokens spell items ++ rest) items rest := by
  induction items with
  | nil => exact absurd rfl hne
  | cons item others ih =>
    have hitem := h item (List.mem_cons_self ..)
    cases others with
    | nil =>
      rw [Expr.choiceTokens]
      obtain ⟨elements, helements, rfl⟩ : At Atom .sequence _ item rest :=
        hitem.parenthesized fun hl => ⟨hl, .of_head hrest⟩
      exact .one helements
    | cons next more =>
      have hothers := ih (by simp) fun e he => h e (List.mem_cons_of_mem _ he)
      have hfirst : At Atom .sequence (parenthesizedTokens
          (item.endsInLiteral || item.looserThan .sequence) (item.tokens spell) ++ .mark .bar ::
            (Expr.choiceTokens spell (next :: more) ++ rest)) item
          (.mark .bar :: (Expr.choiceTokens spell (next :: more) ++ rest)) := by
        refine hitem.parenthesized fun hneeded => ?_
        -- Without parentheses the alternative does not end in a literal.
        obtain ⟨hends, hl⟩ := Bool.or_eq_false_iff.mp hneeded
        refine ⟨hl, fun hor => ?_⟩
        rcases hor with hor | hor
        · rw [hends] at hor
          cases hor
        · exact absurd hor (level_ne_choice hl (by decide))
      obtain ⟨elements, helements, heq⟩ := hfirst
      rw [Expr.choiceTokens, List.append_assoc, List.cons_append]
      · rw [heq] at helements ⊢
        exact .more helements hothers
      · simp

/-- The tokens of a canonical tree derive it. -/
theorem derives_of_canonical (hatoms : SpelledAtoms Atom spell P) {e : Expr Leaf}
    (h : e.Canonical P) : Derives Atom spell e := by
  induction h with
  | leaf spelled =>
    intro rest hclear
    rw [Expr.tokens]
    exact .atom (hatoms.derives spelled hclear)
  | @sequence items two _ ih =>
    intro rest hclear
    obtain ⟨first, second, others, rfl⟩ := exists_cons_cons_of_two two
    rw [Expr.tokens]
    exact ⟨_, sequence_derives hatoms (List.cons_ne_nil _ _) ih hclear, rfl⟩
  | @choice items two _ ih =>
    intro rest hclear
    obtain ⟨first, second, others, rfl⟩ := exists_cons_cons_of_two two
    rw [Expr.tokens]
    exact ⟨_, choice_derives (List.cons_ne_nil _ _) ih (hclear (.inr rfl)), rfl⟩
  | @optional child _ ih =>
    intro rest _
    rw [Expr.tokens, List.append_assoc]
    obtain ⟨first, mid, hfirst, hlater⟩ : At Atom .separated _ child (.mark .question :: rest) :=
      ih.parenthesized fun hl => ⟨hl, .of_head (by simp)⟩
    exact .suffix hfirst hlater .optional
  | @repeated child q bounds _ ih =>
    intro rest _
    have hbounds := quantifier_derives q rest
    have hhead := quantifier_head_ne_bar q rest
    have hnode : Expr.repeated child q = .quantified child q := by
      simp [Expr.quantified, Quantifier.isOptional, bounds]
    rw [Expr.tokens, List.append_assoc]
    obtain ⟨first, mid, hfirst, hlater⟩ : At Atom .separated _ child (q.tokens ++ rest) :=
      ih.parenthesized fun hl => ⟨hl, .of_head hhead⟩
    show Element Atom _ (.repeated child q) rest
    rw [hnode]
    exact .suffix hfirst hlater hbounds
  | @separated child separator q _ _ ihc ihs =>
    intro rest _
    have hbounds := quantifier_derives q rest
    have hhead := quantifier_head_ne_bar q rest
    have hseparator : At Atom .term _ separator (q.tokens ++ rest) :=
      ihs.parenthesized fun hl => ⟨hl, .of_head hhead⟩
    rw [Expr.tokens, List.append_assoc, List.cons_append, List.append_assoc]
    obtain ⟨first, mid, hfirst, hlater⟩ : At Atom .separated _ child (.mark .percent :: _) :=
      ihc.parenthesized fun hl => ⟨hl, .of_head (by simp)⟩
    exact ⟨first, mid, hfirst, hlater.snoc rfl hseparator hbounds⟩

end

end Grammar
end GrammarText
