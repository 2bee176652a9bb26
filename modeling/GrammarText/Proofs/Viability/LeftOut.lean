/-
Two ways to go wrong behind the same tokens of a declaration.  Be it another token or the end that
comes next, what the error lists depends on the tokens before it alone, but for three places where
the end leaves out the kinds of tokens that could come.
-/
import GrammarText.Proofs.Viability.Omitted

namespace GrammarText

open Computability GrammarText.Parser

namespace Grammar

/-- The kinds of tokens that could come behind those of a declaration and that the end leaves out:
names at the start, the name of a main rule, and the literal of a keyword. -/
def leftOut (read : List Token) : List Expectation :=
  if read = [] then [.tokenName, .ruleName]
  else if read = [.mark .dollar, .ruleName "main"] then [.ruleName]
  else if [.mark .dollar, .ruleName "keyword"] <:+ read then [.literal]
  else []

theorem leftOut_isKind {read : List Token} {x : Expectation} (h : x ∈ leftOut read) :
    x.isKind = true := by
  unfold leftOut at h
  split at h
  · rcases List.mem_pair.mp h with rfl | rfl <;> rfl
  split at h
  · rw [List.mem_singleton.mp h]
    rfl
  split at h
  · rw [List.mem_singleton.mp h]
    rfl
  · cases h

/-- But for the first two places the gap is all that is left out. -/
theorem keywordGap_eq {read : List Token} (hnil : read ≠ [])
    (hmain : read ≠ [.mark .dollar, .ruleName "main"]) :
    keywordGap read = {x | x ∈ leftOut read} := by
  ext x
  unfold leftOut
  rw [if_neg hnil, if_neg hmain]
  by_cases hgap : [.mark .dollar, .ruleName "keyword"] <:+ read <;> simp [keywordGap, hgap]

namespace Account

/-- What the end leaves out of the errors of a declaration. -/
def ofDeclaration : Account :=
  fun read _ o => o = {x | x ∈ leftOut read}

/-- The same but for the two places where names may stand. -/
def namesApart : Account :=
  (ofDeclaration.except []).except [.mark .dollar, .ruleName "main"]

theorem namesApart_joint : namesApart.Joint := by
  refine Joint.except (Joint.except ?_ _) _
  rintro read l l' o o' rfl rfl
  exact Set.union_self _

theorem namesApart_of_settled {w read : List Token} {l : Option Expectation}
    {o : Set Expectation} (hw : w ∈ shut) (h : settled read l o) : namesApart (w ++ read) l o :=
  fun hmain hnil => (settled_append hw h).1.trans (keywordGap_eq hnil hmain)

end Account

open Account

variable {α β : Type} {n stop : Nat} {A B : Language Token} {p : Parser α} {q : Parser β}
  {next : List Lexeme}

theorem namesApart_both (hp : Foresees n namesApart A p) (hA : A ≤ shut) (hq : Settles n B q) :
    Foresees n namesApart (A * B) (both p q) :=
  .both namesApart_joint hp hq.toForesees (fun _ _ => Nat.le_add_right ..) (fun _ _ _ => id)
    fun _ hw _ _ _ => namesApart_of_settled (hA hw)

/- Headers. -/

theorem strategy_settles (n : Nat) : Settles n Shape.strategy Declaration.skipStrategy := by
  have hwords : ∀ (a b : Word) (v w : Bool), Settles n (Shape.word a.text + Shape.word b.text)
      (firstOf (map (fun _ => v) (Pattern.word a)) [map (fun _ => w) (Pattern.word b)]) :=
    fun a b _ _ => ((Settles.word n a).map _).firstOf ((Settles.word n b).map _).only
  exact ((hwords .before .after _ _).both (hwords .greedy .lazy _ _).optional).optional.map _

theorem header_le_shut : Shape.header ≤ shut := by
  have hwords : ∀ a b, Shape.word a + Shape.word b ≤ Over (· ≠ .mark .dollar) :=
    fun a b => sup_le (word_le_over a) (word_le_over b)
  have hname : Shape.ruleName ≤ Over (· ≠ .mark .dollar) :=
    Over.token_le fun t ⟨_, ht⟩ => ht ▸ nofun
  have hstrategy : Shape.strategy ≤ Over (· ≠ .mark .dollar) :=
    sup_le Over.one_le (Over.mul_le (hwords _ _) (sup_le Over.one_le (hwords _ _)))
  refine sup_le (dollar_mul_le_shut (sup_le
    (Over.mul_le (word_le_over _) (sup_le Over.one_le hname))
    (Over.mul_le (word_le_over _) hstrategy)) ?_ ?_) (token_le_shut nofun)
  · rintro (h | h) <;> exact not_mem_word_mul (by simp) h
  · rintro (h | h) <;> exact not_mem_word_mul (by simp) h

theorem header_foresees (n : Nat) : Foresees n namesApart Shape.header Declaration.header := by
  have hjoint := namesApart_joint.past [.mark .dollar]
  have hopened : ∀ w, namesApart.past [.mark .dollar] [] (some (.word w)) ∅ := by
    intro w _ _
    have hnone : leftOut [.mark .dollar] = [] := by decide
    show ∅ = {x | x ∈ leftOut [.mark .dollar]}
    simp [hnone]
  have hname : Foresees n (namesApart.past [.mark .dollar, .ruleName "main"]) Shape.ruleName
      Rule.ruleName := ruleName_foresees n fun h => absurd rfl h
  have hmain := Foresees.behind hjoint (word_foresees n .main (hopened _))
    (hname.optional.map Declaration.Header.main) (Nat.le_succ n)
  have hshut : [.mark .dollar, .ruleName "skip"] ∈ shut :=
    dollar_mem_shut (by simp) nofun (by simp)
  have hskip := Foresees.behind hjoint (word_foresees n .skip (hopened _))
    (((strategy_settles n).map Declaration.Header.skip).toForesees.imp fun read l o _ h =>
      show namesApart ([.mark .dollar, .ruleName "skip"] ++ read) l o from
        namesApart_of_settled hshut h) (Nat.le_succ n)
  have hdollar := Foresees.behind namesApart_joint (.mark n .dollar fun _ h => absurd rfl h)
    (.firstOf hjoint (hmain.map Prod.snd) (hskip.map Prod.snd).only) (Nat.le_succ n)
  exact .firstOf namesApart_joint (hdollar.map _)
    ((ruleName_foresees n fun _ h => absurd rfl h).map _).only

/- Declarations. -/

theorem body_foresees (hp : Foresees n namesApart A p) (hA : A ≤ shut) (hq : Settles n B q) :
    Foresees n namesApart (A * Shape.mark .colon * B * Shape.mark .semicolon)
      (before (both (before p (mark .colon)) q) (mark .semicolon)) := by
  have hmark : ∀ m ≠ Mark.dollar, Settles n (Shape.mark m) (mark m) := fun _ hm => .mark n hm
  have hcolon := (namesApart_both hp hA (hmark .colon nofun)).map Prod.fst
  have hshut : A * Shape.mark .colon ≤ shut := shut_closed.mul_le hA (token_le_shut nofun)
  exact (namesApart_both (namesApart_both hcolon hshut hq) (shut_closed.mul_le hshut hq.le_shut)
    (hmark .semicolon nofun)).map _

theorem bodies_foresee (n : Nat) : Foresees n namesApart Shape.declaration
    (firstOf Declaration.tokenParser [Declaration.ruleParser]) := by
  have hname : Foresees n namesApart Shape.tokenName Pattern.tokenName :=
    .token n (fun t => by cases t <;> simp) ⟨"", rfl⟩ fun _ h => absurd rfl h
  exact .firstOf namesApart_joint
    ((body_foresees hname (token_le_shut nofun) (pattern_settles n)).map _)
    ((body_foresees (header_foresees n) header_le_shut (rule_settles n)).map _).only

/- The two places where names may stand. -/

theorem mark_inhabited (m : Mark) : ∃ w, w ∈ Shape.mark m :=
  ⟨_, _, rfl, rfl⟩

theorem main_mem : [.ruleName "main"] ∈ Shape.word "main" * (1 + Shape.ruleName) :=
  ⟨[.ruleName "main"], ⟨_, rfl, rfl⟩, [], .inl rfl, rfl⟩

theorem main_mem_header : [.mark .dollar, .ruleName "main"] ∈ Shape.header :=
  .inl (mem_one_mul.mpr ⟨_, _, rfl, rfl, .inl main_mem⟩)

theorem name_failed (h : Barred Shape.ruleName [] (nodes next)) :
    Forecast.Of next (.failed (.behind ⟨.unexpected, none, ∅, {.ruleName}⟩))
      (Rule.ruleName stop next) :=
  .token_failed (fun t => by cases t <;> simp) h

theorem mark_failed {m : Mark} (h : Barred (Shape.mark m) [] (nodes next)) :
    Forecast.Of next (.failed (.behind ⟨.unexpected, none, {.mark m}, ∅⟩)) (mark m stop next) :=
  .exactly_failed h

theorem body_failed {k : Outlook} {tokens : List Lexeme}
    (h : Forecast.Of next (.failed k) (before p (mark .colon) stop tokens)) :
    Forecast.Of next (.failed k)
      (before (both (before p (mark .colon)) q) (mark .semicolon) stop tokens) :=
  h.both_failed.before_failed

theorem Barred.body {read : List Token} (hB : ∃ w, w ∈ B)
    (h : Barred (A * Shape.mark .colon * B * Shape.mark .semicolon) read (nodes next)) :
    Barred (A * Shape.mark .colon) read (nodes next) :=
  (h.left (mark_inhabited _)).left hB

/-- At the start the end brings up the dollar sign alone. -/
theorem bodies_failed_at_start (h : Barred Shape.declaration [] (nodes next)) :
    Forecast.Of next
      (.failed (.behind ⟨.unexpected, none, {.mark .dollar}, {.tokenName, .ruleName}⟩))
      (firstOf Declaration.tokenParser [Declaration.ruleParser] stop next) := by
  have hname : Forecast.Of next (.failed (.behind ⟨.unexpected, none, ∅, {.tokenName}⟩))
      (Pattern.tokenName stop next) :=
    .token_failed (fun t => by cases t <;> simp)
      (((h.mono le_sup_left).body (pattern_settles 0).inhabited).left (mark_inhabited _))
  have htoken : Forecast.Of next (.failed (.behind ⟨.unexpected, none, ∅, {.tokenName}⟩))
      (Declaration.tokenParser stop next) :=
    (body_failed hname.before_failed).map_failed _
  have hbarred : Barred Shape.header [] (nodes next) :=
    ((h.mono le_sup_right).body (rule_settles 0).inhabited).left (mark_inhabited _)
  have hdollar : Forecast.Of next (.failed (.behind ⟨.unexpected, none, {.mark .dollar}, ∅⟩))
      (mark .dollar stop next) := mark_failed ((hbarred.mono le_sup_left).left ⟨_, .inl main_mem⟩)
  have hnamed : Forecast.Of next (.failed (.behind ⟨.unexpected, none, ∅, {.ruleName}⟩))
      (firstOf (map Declaration.Header.named Rule.ruleName) [] stop next) :=
    (name_failed (hbarred.mono le_sup_right)).map_failed _
  have hheader : Forecast.Of next
      (.failed (.behind ⟨.unexpected, none, {.mark .dollar}, {.ruleName}⟩))
      (Declaration.header stop next) := by
    unfold Declaration.header
    simpa [Outlook.furthest, Notice.merge] using
      hdollar.after_failed.firstOf_failed hnamed
  have hrule : Forecast.Of next
      (.failed (.behind ⟨.unexpected, none, {.mark .dollar}, {.ruleName}⟩))
      (firstOf Declaration.ruleParser [] stop next) :=
    (body_failed hheader.before_failed).map_failed _
  simpa [Outlook.furthest, Notice.merge] using htoken.firstOf_failed hrule

/-- Where a main rule may have a name the end brings up the colon alone. -/
theorem bodies_failed_at_main {read : List Lexeme}
    (hread : nodes read = [.mark .dollar, .ruleName "main"])
    (h : Barred Shape.declaration (nodes read) (nodes next)) :
    Forecast.Of next
      (.failed (.behind ⟨.unexpected, none, {.mark .colon}, {.ruleName}⟩))
      (firstOf Declaration.tokenParser [Declaration.ruleParser] stop (read ++ next)) := by
  obtain ⟨d, more, rfl, hd, hmore⟩ := nodes_eq_cons.mp hread
  obtain ⟨m, more, rfl, hm, hmore⟩ := nodes_eq_cons.mp hmore
  obtain rfl := List.map_eq_nil_iff.mp hmore
  rw [hread] at h
  have hbody := (h.mono le_sup_right).body (rule_settles 0).inhabited
  have hopening : [.mark .dollar] ∈ Shape.mark .dollar := ⟨_, rfl, rfl⟩
  have hword : [.ruleName "main"] ∈ Shape.word "main" := ⟨_, rfl, rfl⟩
  have hheader : Barred Shape.header [.mark .dollar, .ruleName "main"] (nodes next) :=
    hbody.left (mark_inhabited _)
  have hname : Barred (1 + Shape.ruleName) [] (nodes next) := by
    have hdirective : Shape.mark .dollar * (Shape.word "main" * (1 + Shape.ruleName)) ≤
        Shape.header := (mul_le_mul' le_rfl le_sup_left).trans le_sup_left
    exact .behind hword (.behind hopening (hheader.mono hdirective))
  have hcolon : Forecast.Of next (.failed (.behind ⟨.unexpected, none, {.mark .colon}, ∅⟩))
      (mark .colon stop next) := mark_failed (.behind main_mem_header hbody)
  have hoptional : Forecast.Of next
      (.done none [] (some (.behind ⟨.unexpected, none, ∅, {.ruleName}⟩)))
      (Parser.optional Rule.ruleName stop ([] ++ next)) :=
    .optional_failed (name_failed (hname.mono le_sup_right))
  have hmain : Forecast.Of next
      (.done (.main none) [] (some (.behind ⟨.unexpected, none, ∅, {.ruleName}⟩)))
      (Declaration.header stop (d :: ([m] ++ next))) :=
    ((Forecast.Of.exactly_done hd).after_done
      ((word_done hm).after_done (hoptional.map_done _)).firstOf_done).firstOf_done
  have hfails : Forecast.Of next
      (.failed (.behind ⟨.unexpected, none, {.mark .colon}, {.ruleName}⟩))
      (before Declaration.header (mark .colon) stop (d :: ([m] ++ next))) := by
    simpa [Outlook.max, Outlook.furthest, Notice.merge] using hmain.before_later hcolon
  have hrule : Forecast.Of next
      (.failed (.behind ⟨.unexpected, none, {.mark .colon}, {.ruleName}⟩))
      (firstOf Declaration.ruleParser [] stop (d :: ([m] ++ next))) :=
    (body_failed hfails).map_failed _
  have htoken : Forecast.Of next (.failed (.inside 1))
      (Declaration.tokenParser stop (d :: ([m] ++ next))) :=
    (body_failed (Forecast.Of.token_inside (by rw [hd])).before_failed).map_failed _
  exact htoken.firstOf_failed hrule

theorem declaration_foresees (n : Nat) : Foresees n ofDeclaration Shape.declaration
    (firstOf Declaration.tokenParser [Declaration.ruleParser]) := by
  have hheader : Begun Shape.header [.mark .dollar, .ruleName "main"] := ⟨[], main_mem_header⟩
  have hbegun : Begun Shape.declaration [.mark .dollar, .ruleName "main"] :=
    (((hheader.mul (mark_inhabited _)).mul (rule_settles 0).inhabited).mul
      (mark_inhabited _)).mono le_sup_right
  refine .elsewhere [] ⟨.unexpected, none, {.mark .dollar}, {.tokenName, .ruleName}⟩
    (.elsewhere [.mark .dollar, .ruleName "main"]
      ⟨.unexpected, none, {.mark .colon}, {.ruleName}⟩ (bodies_foresee n) ?_
      fun read hread stop next hbarred => ?_) ?_ fun read hread stop next hbarred => ?_
  · refine ⟨hbegun, fun _ => ⟨fun _ => ?_, fun x hx => Set.mem_singleton_iff.mp hx ▸ rfl⟩⟩
    show {.ruleName} = {x | x ∈ leftOut [.mark .dollar, .ruleName "main"]}
    ext x
    simp [leftOut]
  · exact bodies_failed_at_main hread (hread ▸ hbarred)
  · refine ⟨(bodies_foresee n).inhabited, fun _ => ⟨?_, fun x hx =>
      Set.mem_singleton_iff.mp hx ▸ rfl⟩⟩
    show {.tokenName, .ruleName} = {x | x ∈ leftOut []}
    ext x
    simp [leftOut]
  · obtain rfl := List.map_eq_nil_iff.mp hread
    exact bodies_failed_at_start hbarred

/- Two errors behind the same tokens. -/

/-- Tokens that begin a word reach no further than the place where tokens are stuck. -/
theorem Stuck.le_length {K : Language Token} {read left read' left' : List Token}
    (h : Stuck K read left) (hbegun : Begun K read') (heq : read ++ left = read' ++ left') :
    read'.length ≤ read.length := by
  rcases List.append_eq_append_iff.mp heq with ⟨more, rfl, rfl⟩ | ⟨more, rfl, -⟩
  · cases more with
    | nil => rw [List.append_nil]
    | cons t more =>
      rw [← List.singleton_append, ← List.append_assoc] at hbegun
      exact absurd hbegun.of_append h
  · rw [List.length_append]
    exact Nat.le_add_right ..

/-- An ordinary error of a declaration lies where the tokens are stuck. -/
theorem left_eq_of_failed {read : List Lexeme} {s : Setback}
    (hs : firstOf Declaration.tokenParser [Declaration.ruleParser] stop (read ++ next) = .failed s)
    (hfault : s.error.fault = .unexpected) (hviable : Viable (nodes read))
    (hstuck : Stuck Shape.declaration (nodes read) (nodes next)) : s.left = next.length := by
  obtain ⟨read', left, heq, hleft, hbegun, hstuck', -⟩ := setback_points hs hfault
  have hnodes : nodes read ++ nodes next = nodes read' ++ nodes left := by
    rw [← nodes_append, heq, nodes_append]
  have hle := hstuck.le_length hbegun hnodes
  have hge := hstuck'.le_length hviable hnodes.symm
  have hlength := congrArg List.length heq
  rw [nodes_length, nodes_length] at hle hge
  rw [List.length_append, List.length_append] at hlength
  omega

/-- One error lists what another does but for what it is lacking. -/
structure Lacks (missing : List Expectation) (e whole : ParseError) : Prop where
  listed : ∀ x, x ∈ whole.expected ↔ x ∈ e.expected ∨ x ∈ missing
  unlisted : ∀ x ∈ missing, x ∉ e.expected

/-- Two errors that one forecast is about list the same, but for what is left out at the end. -/
theorem Notice.Of.lacks {k : Notice} {read : List Token} {next' : List Lexeme} {e e' : ParseError}
    (hk : ofDeclaration.Allows Shape.declaration read k) (hfault : k.fault = .unexpected)
    (h : k.Of next e) (h' : k.Of next' e') (hnext : next = []) (hnext' : next' ≠ []) :
    Lacks (leftOut read) e e' := by
  obtain ⟨homitted, hlisted⟩ := hk.2 hfault
  have hend : ∀ x, x ∈ e.expected ↔ x ∈ k.listed := fun x => by
    rw [h.expected hfault, hnext]
    simp
  have htoken : ∀ x, x ∈ e'.expected ↔ x ∈ k.listed ∨ x ∈ leftOut read := fun x => by
    rw [h'.expected hfault, homitted]
    exact or_congr_right (and_iff_right hnext')
  refine ⟨fun x => by rw [htoken, hend], fun x hx hmem => ?_⟩
  exact Bool.noConfusion ((leftOut_isKind hx).symm.trans (hlisted x ((hend x).mp hmem)))

/-- What goes wrong behind the tokens of a declaration goes wrong with any other token that cannot
come there, and with the end where they are no declaration, and what is expected is the same.  Only
the end leaves out kinds of tokens at three places. -/
theorem expected_depends_on_what_came_before {stop stop' : Nat} {read next next' : List Lexeme}
    {e : ParseError} (hviable : Viable (nodes read))
    (hnext : Stuck Shape.declaration (nodes read) (nodes next))
    (hnext' : Stuck Shape.declaration (nodes read) (nodes next'))
    (h : run Declaration.parser stop (read ++ next) = .error e) (hfault : e.fault = .unexpected) :
    ∃ e', run Declaration.parser stop' (read ++ next') = .error e' ∧ e'.fault = .unexpected ∧
      ((next = [] ↔ next' = []) ∨ leftOut (nodes read) = [] →
        ∀ x, x ∈ e.expected ↔ x ∈ e'.expected) ∧
      (next = [] → next' ≠ [] → Lacks (leftOut (nodes read)) e e') ∧
      (next ≠ [] → next' = [] → Lacks (leftOut (nodes read)) e' e) := by
  obtain ⟨s, hs, rfl⟩ := failed_of_run h
  have hleft := left_eq_of_failed hs hfault hviable hnext
  -- The forecast knows of the tokens that were read alone, so it is about both runs.
  obtain ⟨f, hwithin, hf⟩ :=
    (declaration_foresees (read.length + 1)).forecast read (Nat.lt_succ_self _)
  cases f with
  | done value rest o =>
    obtain ⟨s', hs', -⟩ := hf stop next hnext.barred
    cases hs.symm.trans hs'
  | failed k =>
    obtain ⟨s', hs', hk⟩ := hf stop next hnext.barred
    obtain rfl := Outcome.failed.inj (hs.symm.trans hs')
    cases k with
    | inside ahead =>
      -- The error would lie in front of a token that goes on with what was read before it.
      have hahead : s.left = ahead + 1 + next.length := hk
      omega
    | behind k =>
      obtain ⟨-, hk⟩ := hk
      obtain ⟨s', hs', -, hk'⟩ := hf stop' next' hnext'.barred
      have hordinary : k.fault = .unexpected := hk.fault.symm.trans hfault
      refine ⟨s'.error, run_of_failed hs', hk'.fault.trans hordinary, fun hsame x => ?_,
        hk.lacks hwithin hordinary hk', fun hnext hnext' =>
          hk'.lacks hwithin hordinary hk hnext' hnext⟩
      obtain ⟨homitted, -⟩ := hwithin.2 hordinary
      rw [hk.expected hordinary, hk'.expected hordinary]
      rcases hsame with hsame | hnone
      · rw [ne_eq, ne_eq, hsame]
      · rw [homitted, hnone]
        simp

/-- Behind `A : $keyword` a semicolon brings up the literal and the end does not. -/
theorem expected_depends_on_what_came_before_keyword :
    let read : List Lexeme := [⟨.tokenName "A", ⟨0, 1⟩⟩, ⟨.mark .colon, ⟨2, 3⟩⟩,
      ⟨.mark .dollar, ⟨4, 5⟩⟩, ⟨.ruleName "keyword", ⟨5, 12⟩⟩]
    let next : List Lexeme := [⟨.mark .semicolon, ⟨13, 14⟩⟩]
    let e : ParseError := ⟨.unexpected, ⟨12, 12⟩, [.word .choice], none, some (.word .choice)⟩
    Viable (nodes read) ∧ Stuck Shape.declaration (nodes read) (nodes []) ∧
      Stuck Shape.declaration (nodes read) (nodes next) ∧
      run Declaration.parser 12 (read ++ []) = .error e ∧ e.fault = .unexpected ∧
      ∃ e', run Declaration.parser 14 (read ++ next) = .error e' ∧ e'.fault = .unexpected ∧
        Lacks [.literal] e e' := by
  intro read next e
  have h : run Declaration.parser 12 (read ++ []) = .error e := rfl
  obtain ⟨hviable, hend, -⟩ : Viable (nodes read) ∧
      Stuck Shape.declaration (nodes read) (nodes []) ∧ Accuses 12 e [] :=
    stuck_of_failed (s := ⟨0, e⟩) rfl rfl rfl
  obtain ⟨-, hnext, -⟩ : Viable (nodes read) ∧
      Stuck Shape.declaration (nodes read) (nodes next) ∧ Accuses 14 _ next :=
    stuck_of_failed (s := ⟨1, ⟨.unexpected, ⟨13, 14⟩, [.word .choice, .literal],
      some (.mark .semicolon), some (.word .choice)⟩⟩) rfl rfl rfl
  obtain ⟨e', he', hfault, -, hlacks, -⟩ :=
    expected_depends_on_what_came_before hviable hend hnext h rfl
  exact ⟨hviable, hend, hnext, h, rfl, e', he', hfault, hlacks rfl nofun⟩

/-- The tokens of `$main`. -/
def mainOpening : List Lexeme :=
  [⟨.mark .dollar, ⟨0, 1⟩⟩, ⟨.ruleName "main", ⟨1, 5⟩⟩]

/-- Behind `$main` a semicolon brings up the name of the rule and the end does not. -/
theorem end_leaves_out_name_of_main :
    let next : List Lexeme := [⟨.mark .semicolon, ⟨6, 7⟩⟩]
    let e : ParseError := ⟨.unexpected, ⟨5, 5⟩, [.mark .colon], none, none⟩
    let e' : ParseError := ⟨.unexpected, ⟨6, 7⟩, [.mark .colon, .ruleName],
      some (.mark .semicolon), none⟩
    tokenize "$main" = ⟨mainOpening, []⟩ ∧ tokenize "$main ;" = ⟨mainOpening ++ next, []⟩ ∧
      Viable (nodes mainOpening) ∧ Stuck Shape.declaration (nodes mainOpening) [] ∧
      Stuck Shape.declaration (nodes mainOpening) (nodes next) ∧
      run Declaration.parser 5 mainOpening = .error e ∧
      run Declaration.parser 7 (mainOpening ++ next) = .error e' ∧
      ¬ ∀ x, x ∈ e.expected ↔ x ∈ e'.expected := by
  intro next e e'
  obtain ⟨hviable, hend, -⟩ : Viable (nodes mainOpening) ∧
      Stuck Shape.declaration (nodes mainOpening) (nodes []) ∧ Accuses 5 e [] :=
    stuck_of_failed (s := ⟨0, e⟩) rfl rfl rfl
  obtain ⟨-, hnext, -⟩ : Viable (nodes mainOpening) ∧
      Stuck Shape.declaration (nodes mainOpening) (nodes next) ∧ Accuses 7 e' next :=
    stuck_of_failed (s := ⟨1, e'⟩) rfl rfl rfl
  refine ⟨by decide +kernel, by decide +kernel, hviable, hend, hnext, rfl, rfl, fun h => ?_⟩
  cases List.mem_singleton.mp ((h .ruleName).mpr (by simp [e']))

end Grammar
end GrammarText
