/-
The parser of declarations recognizes the grammar: it succeeds on exactly the tokens that derive a
declaration, and with that declaration, of which there is one.
-/
import GrammarText.Proofs.Grammar.Soundness
import Mathlib.Data.Set.Subsingleton

namespace GrammarText

open GrammarText.Parser

namespace Grammar

section

variable {stop : Nat} {tokens rest : List Lexeme}

/-- One of two words. -/
theorem twoWords_sound {a b : Word} {v w value : Bool}
    (h : Succeeds (firstOf (map (fun _ => v) (Pattern.word a)) [map (fun _ => w) (Pattern.word b)])
      stop tokens value rest) :
    (value = v ∧ nodes tokens = .ruleName a.text :: nodes rest) ∨
      (value = w ∧ nodes tokens = .ruleName b.text :: nodes rest) := by
  rcases succeeds_firstOf_cons.mp h with h | ⟨-, h⟩
  · obtain ⟨u, hword, hvalue⟩ := succeeds_map.mp h
    exact .inl ⟨hvalue, nodes_of_word hword⟩
  · obtain ⟨u, hword, hvalue⟩ := succeeds_map.mp h
    exact .inr ⟨hvalue, nodes_of_word hword⟩

theorem greed_sound {greed : Option Bool}
    (h : Succeeds (Parser.optional Declaration.greed) stop tokens greed rest) :
    (greed = none ∧ tokens = rest) ∨
      (greed = some true ∧ nodes tokens = .ruleName "greedy" :: nodes rest) ∨
      (greed = some false ∧ nodes tokens = .ruleName "lazy" :: nodes rest) := by
  rcases succeeds_optional.mp h with ⟨value, rfl, hvalue⟩ | ⟨rfl, rfl, -⟩
  · rcases twoWords_sound hvalue with ⟨rfl, hword⟩ | ⟨rfl, hword⟩
    · exact .inr (.inl ⟨rfl, hword⟩)
    · exact .inr (.inr ⟨rfl, hword⟩)
  · exact .inl ⟨rfl, rfl⟩

theorem strategy_sound {strategy : SkipStrategy}
    (h : Succeeds Declaration.skipStrategy stop tokens strategy rest) :
    Strategy (nodes tokens) strategy (nodes rest) := by
  obtain ⟨chosen, hchosen, rfl⟩ := succeeds_map.mp h
  rcases succeeds_optional.mp hchosen with ⟨⟨side, greed⟩, rfl, hboth⟩ | ⟨rfl, rfl, -⟩
  · obtain ⟨mid, hside, hgreed⟩ := succeeds_both.mp hboth
    rcases twoWords_sound hside with ⟨hv, hword⟩ | ⟨hv, hword⟩
    · obtain rfl : side = true := hv
      rw [hword]
      rcases greed_sound hgreed with ⟨hv, rfl⟩ | ⟨hv, hword⟩ | ⟨hv, hword⟩ <;>
        obtain rfl : greed = _ := hv
      · exact .before
      · rw [hword]
        exact .beforeGreedy
      · rw [hword]
        exact .beforeLazy
    · obtain rfl : side = false := hv
      rw [hword]
      rcases greed_sound hgreed with ⟨hv, rfl⟩ | ⟨hv, hword⟩ | ⟨hv, hword⟩ <;>
        obtain rfl : greed = _ := hv
      · exact .after
      · rw [hword]
        exact .afterGreedy
      · rw [hword]
        exact .afterLazy
  · exact .default

/-- A header with its colon and a body with its semicolon make a declaration. -/
theorem header_sound {header : Declaration.Header} {mid : List Lexeme} {body last : List Token}
    {rule : Rule} (h : Succeeds Declaration.header stop tokens header mid)
    (hcolon : nodes mid = .mark .colon :: body)
    (hbody : Expression RuleAtom body rule (.mark .semicolon :: last)) :
    Declares (nodes tokens) (header.declare rule) last := by
  rcases succeeds_firstOf_cons.mp h with h | ⟨-, h⟩
  · obtain ⟨inside, _, hdollar, h⟩ := succeeds_after.mp h
    rw [nodes_of_exactly hdollar]
    rcases succeeds_firstOf_cons.mp h with h | ⟨-, h⟩
    · obtain ⟨later, _, hword, hmain⟩ := succeeds_after.mp h
      obtain ⟨found, hfound, rfl⟩ := succeeds_map.mp hmain
      rw [nodes_of_word hword]
      rcases succeeds_optional.mp hfound with ⟨name, rfl, hname⟩ | ⟨rfl, rfl, -⟩
      · rw [nodes_of_ruleName hname, hcolon]
        exact .mainNamed hbody
      · rw [hcolon]
        exact .main hbody
    · obtain ⟨later, _, hword, hskip⟩ := succeeds_after.mp h
      obtain ⟨strategy, hstrategy, rfl⟩ := succeeds_map.mp hskip
      have hchosen := strategy_sound hstrategy
      rw [hcolon] at hchosen
      rw [nodes_of_word hword]
      exact .skip hchosen hbody
  · obtain ⟨name, hname, rfl⟩ := succeeds_map.mp h
    rw [nodes_of_ruleName hname, hcolon]
    exact .rule hbody

theorem declaration_sound {d : Declaration}
    (h : Succeeds (firstOf Declaration.tokenParser [Declaration.ruleParser]) stop tokens d rest) :
    Declares (nodes tokens) d (nodes rest) := by
  rcases succeeds_firstOf_cons.mp h with h | ⟨-, h⟩
  · obtain ⟨⟨name, pattern⟩, hall, rfl⟩ := succeeds_map.mp h
    obtain ⟨last, _, hboth, hsemicolon⟩ := succeeds_before.mp hall
    obtain ⟨mid, hhead, hpattern⟩ := succeeds_both.mp hboth
    obtain ⟨colon, _, hname, hcolon⟩ := succeeds_before.mp hhead
    have hbody := pattern_sound _ (Nat.lt_succ_self _) hpattern
    rw [nodes_of_exactly hsemicolon] at hbody
    rw [nodes_of_tokenName hname, nodes_of_exactly hcolon]
    exact .token hbody
  · obtain ⟨⟨header, rule⟩, hall, rfl⟩ := succeeds_map.mp h
    obtain ⟨last, _, hboth, hsemicolon⟩ := succeeds_before.mp hall
    obtain ⟨mid, hhead, hrule⟩ := succeeds_both.mp hboth
    obtain ⟨colon, _, hheader, hcolon⟩ := succeeds_before.mp hhead
    have hbody := rule_sound _ (Nat.lt_succ_self _) hrule
    rw [nodes_of_exactly hsemicolon] at hbody
    exact header_sound hheader (nodes_of_exactly hcolon) hbody

/-- The parser of declarations reads what the grammar derives and nothing else. -/
theorem succeeds_declaration {d : Spanned Declaration} :
    Succeeds Declaration.parser stop tokens d rest ↔
      (∃ read, tokens = read ++ rest) ∧ Declares (nodes tokens) d.node (nodes rest) ∧
        d.span = spanBetween stop tokens rest := by
  constructor
  · intro h
    obtain ⟨read, hread, -⟩ := Declaration.parser_takes h
    obtain ⟨hd, hspan⟩ := succeeds_spanned.mp h
    exact ⟨⟨read, hread⟩, declaration_sound hd, hspan⟩
  · intro ⟨⟨read, hread⟩, hd, hspan⟩
    obtain ⟨remaining, hr, hs⟩ := hd.reads stop rfl
    obtain ⟨read', hread', -⟩ := Declaration.bodies_takes hs
    -- What remains is the same tail since it is a tail of the same length.
    have hlen : remaining.length = rest.length := by
      have := congrArg List.length hr
      simpa [nodes] using this
    have hrest : remaining = rest := by
      rw [hread] at hread'
      exact (List.append_inj' hread' hlen.symm).2.symm
    subst hrest
    exact succeeds_spanned.mpr ⟨hs, hspan⟩

end

/-- Tokens that derive a declaration and end with it are read as it. -/
theorem Declares.succeeds {d : Declaration} {tokens : List Lexeme}
    (h : Declares (nodes tokens) d []) (stop : Nat) :
    Succeeds Declaration.parser stop tokens ⟨d, spanBetween stop tokens []⟩ [] :=
  succeeds_declaration.mpr ⟨⟨tokens, (List.append_nil tokens).symm⟩, h, rfl⟩

theorem Declares.unique {tokens : List Token} {d d' : Declaration} {rest rest' : List Token}
    (h : Declares tokens d rest) (h' : Declares tokens d' rest') : d = d' ∧ rest = rest' :=
  h.reads.unique h'.reads

/-- The parser of declarations, with nothing behind the declaration, succeeds on exactly the tokens
that derive a declaration.  Its value is what they derive, and they derive nothing else. -/
theorem declaration_parser_recognizes (stop : Nat) (tokens : List Lexeme) :
    (∀ d : Spanned Declaration,
      run (before Declaration.parser endOfInput) stop tokens = .ok d ↔
        Declares (nodes tokens) d.node [] ∧ d.span = spanBetween stop tokens []) ∧
      {d | Declares (nodes tokens) d []}.Subsingleton := by
  refine ⟨fun d => ?_, fun d h d' h' => (Declares.unique h h').1⟩
  rw [run_eq_ok]
  constructor
  · intro ⟨rest, h⟩
    obtain ⟨mid, _, hd, hend⟩ := succeeds_before.mp h
    obtain ⟨rfl, rfl⟩ := succeeds_endOfInput.mp hend
    exact (succeeds_declaration.mp hd).2
  · intro ⟨hd, hspan⟩
    obtain ⟨node, span⟩ := d
    obtain rfl : span = spanBetween stop tokens [] := hspan
    exact ⟨[], succeeds_before.mpr
      ⟨[], (), hd.succeeds stop, succeeds_endOfInput.mpr ⟨rfl, rfl⟩⟩⟩

end Grammar
end GrammarText
