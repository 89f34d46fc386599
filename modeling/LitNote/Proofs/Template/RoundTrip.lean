import LitNote.Proofs.Template.Body
import LitNote.Proofs.Template.Pieces
import LitNote.Proofs.Template.Spelling

/-!
Trees that are written and read again.  Main statement: whichever way a well-formed tree is written,
reading gives the tree back, unless its blocks nest too deep.
-/

namespace LitNote.Template

open Text (Padded)

/-- The tokens of a written tree.  How their tags were written is left open. -/
inductive Tokens : List Node → List Token → Prop
  | nil : Tokens [] []
  | text (s : Text) {nodes : List Node} {ts : List Token} : Tokens nodes ts →
      Tokens (.text s :: nodes) (.text s :: ts)
  | var (raw key : Text) (fs : List Text) {nodes : List Node} {ts : List Token} :
      Tokens nodes ts → Tokens (.var key fs :: nodes) (.var raw key fs :: ts)
  | block (raw raw' name : Text) (inverted : Bool) {children nodes : List Node}
      {us ts : List Token} : Tokens children us → Tokens nodes ts →
      Tokens (.block name inverted children :: nodes)
        (.opening raw name inverted :: (us ++ .closing raw' name :: ts))

theorem noBrace_var {key k bars : Text} {fs : List Text} (hkey : IsKey key) (hk : Padded key k)
    (hfs : ∀ f ∈ fs, IsFormatter f) (hbars : SpellsBars fs bars) : '}' ∉ k ++ bars := by
  have hkb : '}' ∉ k := hk.not_mem rfl hkey.noBrace
  have hbb : '}' ∉ bars := by
    induction hbars with
    | nil => exact List.not_mem_nil
    | @cons f p fs t hp ht ih =>
      have hpb : '}' ∉ p := hp.not_mem rfl (hfs f (List.mem_cons_self ..)).noBrace
      have ih := ih fun g hg => hfs g (List.mem_cons_of_mem f hg)
      intro h
      obtain h | h := List.mem_cons.mp h
      · cases h
      · exact (List.mem_append.mp h).elim hpb ih
  exact fun h => (List.mem_append.mp h).elim hkb hbb

theorem noBrace_block {name p : Text} (hn : IsName name) (hp : Padded name p) {c : Char}
    (hc : c ≠ '}') : '}' ∉ c :: p := by
  intro h
  obtain h | h := List.mem_cons.mp h
  · exact hc h.symm
  · exact hp.not_mem rfl hn.noBrace h

theorem sigil_ne_brace (inverted : Bool) : sigil inverted ≠ '}' := by
  cases inverted <;> decide

theorem startsTag_spells {nodes : List Node} {t rest : Text} (hs : Spells nodes t)
    (hw : WellFormed nodes) (hnext : ¬startsWithText nodes) (hrest : StartsTag rest) :
    StartsTag (t ++ rest) := by
  cases hs with
  | nil => exact hrest
  | text s hs => exact absurd trivial hnext
  | var hk hbars hs =>
    cases hw with
    | var hkey hfs hw =>
      exact .inr ⟨_, _, noBrace_var hkey hk hfs hbars, List.append_assoc ..⟩
  | @block _ _ _ _ inverted _ _ _ ho hc hbody hs =>
    cases hw with
    | block hn hchildren hw =>
      exact .inr ⟨_, _, noBrace_block hn ho (sigil_ne_brace inverted), List.append_assoc ..⟩

theorem exists_tokens {nodes : List Node} {s : Text} (hs : Spells nodes s)
    (hw : WellFormed nodes) :
    ∃ ts, Tokens nodes ts ∧
      ∀ rest, StartsTag rest → tokenize (s ++ rest) = ts ++ tokenize rest := by
  induction hs with
  | nil => exact ⟨[], .nil, fun rest _ => rfl⟩
  | @text s nodes t hs ih =>
    cases hw with
    | text hne hbrace hnext hw =>
      obtain ⟨ts, hts, htok⟩ := ih hw
      refine ⟨_, .text s hts, fun rest hrest => ?_⟩
      have hstart := startsTag_spells hs hw hnext hrest
      rw [List.append_assoc, tokenize_plain hne hbrace hstart, htok rest hrest, List.cons_append]
  | @var key k bars fs nodes t hk hbars hs ih =>
    cases hw with
    | var hkey hfs hw =>
      obtain ⟨ts, hts, htok⟩ := ih hw
      refine ⟨_, .var (Token.tagRaw (k ++ bars)) key fs hts, fun rest hrest => ?_⟩
      rw [List.append_assoc, tokenize_tag (noBrace_var hkey hk hfs hbars),
        Token.ofTag_var hkey hfs hk hbars, htok rest hrest, List.cons_append]
  | @block name opened closed body inverted children nodes t ho hc hbody hs ihbody ih =>
    cases hw with
    | block hn hchildren hw =>
      obtain ⟨us, hus, hutok⟩ := ihbody hchildren
      obtain ⟨ts, hts, htok⟩ := ih hw
      refine ⟨_, .block (Token.tagRaw (sigil inverted :: opened)) (Token.tagRaw ('/' :: closed))
        name inverted hus hts, fun rest hrest => ?_⟩
      -- The children are followed by the closing tag, where a run of text among them ends.
      have hclosed : '}' ∉ '/' :: closed := noBrace_block hn hc (by decide)
      have hstart : StartsTag (Token.tagRaw ('/' :: closed) ++ (t ++ rest)) :=
        .inr ⟨_, _, hclosed, rfl⟩
      rw [List.append_assoc, List.append_assoc, List.append_assoc,
        tokenize_tag (noBrace_block hn ho (sigil_ne_brace inverted)), Token.ofTag_block hn ho,
        hutok _ hstart, tokenize_tag hclosed, Token.ofTag_closing hn hc, htok rest hrest,
        List.cons_append, List.append_assoc, List.cons_append]

theorem ofTokens_tokens {limit : Nat} {nodes : List Node} {ts : List Token}
    (h : Tokens nodes ts) (names : List Text) (rest : List Token)
    (hlen : names.length ≤ limit) :
    Body.ofTokens limit names (ts ++ rest) =
      if names.length + depth nodes ≤ limit
      then (Body.ofTokens limit names rest).map (Body.prepend nodes)
      else .error .tooDeep := by
  induction h generalizing names rest with
  | nil =>
    rw [depth, Nat.add_zero, if_pos hlen]
    exact (Failure.map_id _).symm
  | text s hts ih =>
    rw [List.cons_append, Body.ofTokens_text, ih names rest hlen, depth, Node.depth, Nat.zero_max]
    split
    · exact Body.map_prepend _ _ _
    · rfl
  | var raw key fs hts ih =>
    rw [List.cons_append, Body.ofTokens_var, ih names rest hlen, depth, Node.depth, Nat.zero_max]
    split
    · exact Body.map_prepend _ _ _
    · rfl
  | @block raw raw' name inverted children nodes us ts hus hts ihus ih =>
    have hdepth : depth (.block name inverted children :: nodes) =
        max (depth children + 1) (depth nodes) := by rw [depth, Node.depth]
    rw [List.cons_append, List.append_assoc, List.cons_append, Body.ofTokens_opening, hdepth]
    by_cases hdeep : limit ≤ names.length
    · rw [if_pos hdeep, if_neg (by omega)]
    · have hlen' : (name :: names).length ≤ limit := Nat.lt_of_not_le hdeep
      rw [if_neg hdeep, ihus _ _ hlen', Body.ofTokens_closing, if_pos List.head?_cons,
        List.length_cons]
      by_cases hchildren : names.length + 1 + depth children ≤ limit
      · rw [if_pos hchildren]
        -- The closing tag is that of the innermost block, so the children are all that it holds.
        show (Body.ofTokens limit names (ts ++ rest)).map
          (Body.prepend [.block name inverted (children ++ [])]) = _
        rw [List.append_nil, ih names rest hlen]
        by_cases hnodes : names.length + depth nodes ≤ limit
        · rw [if_pos hnodes, if_pos (by omega)]
          exact Body.map_prepend _ _ _
        · rw [if_neg hnodes, if_neg (by omega)]
          rfl
      · rw [if_neg hchildren, if_neg (by omega)]
        rfl

/-- However a well-formed tree is written, it is read back, or its blocks nest too deep. -/
theorem parse_of_spells {nodes : List Node} (hw : WellFormed nodes) (limit : Nat) :
    Spells nodes (print nodes) ∧ ∀ s, Spells nodes s →
      parse s limit = if depth nodes ≤ limit then .ok nodes else .error .tooDeep := by
  refine ⟨spells_print nodes, fun s hs => ?_⟩
  obtain ⟨ts, hts, htok⟩ := exists_tokens hs hw
  have htok := htok [] (.inl rfl)
  have hread := ofTokens_tokens hts [] [] (Nat.zero_le limit)
  rw [List.append_nil] at htok
  rw [parse, htok, show tokenize [] = [] from rfl, hread, List.length_nil, Nat.zero_add,
    Body.ofTokens_nil]
  split
  · exact congrArg Except.ok (List.append_nil nodes)
  · rfl

def nestedTree : List Node :=
  [.block ['b'] false [.block ['b'] true [.var ['{', 'k'] [['u']]], .text ['}']]]

theorem parse_of_spells_nested :
    WellFormed nestedTree ∧ Spells nestedTree "{{# b}}{{^b}}{{ {k | u}}{{/b }}}{{/b}}".toList ∧
      parse "{{# b}}{{^b}}{{ {k | u}}{{/b }}}{{/b}}".toList = .ok nestedTree := by
  have hb : IsName ['b'] := ⟨by decide, by decide, by decide⟩
  have hmark : ∀ c ∈ ['{', 'k'], Token.endsKey c = false := by simp [Token.endsKey]
  have hk : IsKey ['{', 'k'] := ⟨⟨by decide, by decide, by decide⟩, hmark, by decide⟩
  have hu : IsFormatter ['u'] := ⟨⟨by decide, by decide, by decide⟩, by decide⟩
  have hw : WellFormed nestedTree :=
    .block hb (.block hb (.var hk (fun f hf => List.mem_singleton.mp hf ▸ hu) .nil)
      (.text (by decide) (by decide) id .nil)) .nil
  have hkey : Padded ['{', 'k'] [' ', '{', 'k', ' '] := ⟨[' '], [' '], by decide, by decide, rfl⟩
  have hform : Padded ['u'] [' ', 'u'] := ⟨[' '], [], by decide, by decide, rfl⟩
  have hopen : Padded ['b'] [' ', 'b'] := ⟨[' '], [], by decide, by decide, rfl⟩
  have hclose : Padded ['b'] ['b', ' '] := ⟨[], [' '], by decide, by decide, rfl⟩
  have hvar := Spells.var hkey (.cons hform .nil) .nil
  have hinner : Spells [.block ['b'] true [.var ['{', 'k'] [['u']]], .text ['}']] _ :=
    .block (Padded.refl ['b']) hclose hvar (.text ['}'] .nil)
  have hs : Spells nestedTree "{{# b}}{{^b}}{{ {k | u}}{{/b }}}{{/b}}".toList :=
    .block hopen (Padded.refl ['b']) hinner .nil
  exact ⟨hw, hs, (parse_of_spells hw maxDepth).2 _ hs⟩

end LitNote.Template
