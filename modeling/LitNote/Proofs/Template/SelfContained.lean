import LitNote.Proofs.Template.RoundTrip

/-!
Templates that stand by themselves: no tag of theirs is open at an end, and no block is opened or
closed by halves.  Main statement: what stands around such a template does not change how it is
read, so that joining templates or putting one into a block joins their nodes or puts them into the
block.
-/

namespace LitNote.Template

/-- Every opening brace stands in a complete tag, every block that is opened is closed, and every
closing tag closes a block. -/
inductive SelfContained : Text → Prop
  | nil : SelfContained []
  | char {c : Char} {t : Text} (noBrace : c ≠ '{') : SelfContained t → SelfContained (c :: t)
  | mark {body t : Text} (noBrace : '}' ∉ body)
      (noBlock : Token.ofTag body (Token.tagRaw body) = .text (Token.tagRaw body)) :
      SelfContained t → SelfContained (Token.tagRaw body ++ t)
  | var {body key t : Text} {fs : List Text} (noBrace : '}' ∉ body)
      (isVar : Token.ofTag body (Token.tagRaw body) = .var (Token.tagRaw body) key fs) :
      SelfContained t → SelfContained (Token.tagRaw body ++ t)
  | block {opened closed name inner t : Text} {inverted : Bool} (openNoBrace : '}' ∉ opened)
      (closedNoBrace : '}' ∉ closed)
      (opens : Token.ofTag opened (Token.tagRaw opened) =
        .opening (Token.tagRaw opened) name inverted)
      (closes : Token.ofTag closed (Token.tagRaw closed) = .closing (Token.tagRaw closed) name) :
      SelfContained inner → SelfContained t →
      SelfContained (Token.tagRaw opened ++ (inner ++ (Token.tagRaw closed ++ t)))

mutual

def Node.spread : Node → List Node
  | .text s => s.map fun c => .text [c]
  | .var key fs => [.var key fs]
  | .block name inverted children => [.block name inverted (spread children)]

def spread : List Node → List Node
  | [] => []
  | node :: nodes => node.spread ++ spread nodes

end

@[simp] theorem spread_nil : spread [] = [] := by
  rw [spread]

theorem spread_cons (node : Node) (nodes : List Node) :
    spread (node :: nodes) = node.spread ++ spread nodes := by
  rw [spread]

theorem spread_append (xs ys : List Node) : spread (xs ++ ys) = spread xs ++ spread ys := by
  induction xs with
  | nil => rw [spread_nil, List.nil_append, List.nil_append]
  | cons x xs ih => rw [List.cons_append, spread_cons, spread_cons, ih, List.append_assoc]

theorem spread_singleton (node : Node) : spread [node] = node.spread := by
  rw [spread_cons, spread_nil, List.append_nil]

theorem spread_text_cons (c : Char) (s : Text) :
    spread [.text (c :: s)] = spread ([.text [c]] ++ [.text s]) := by
  rw [spread_append, spread_singleton, spread_singleton, spread_singleton, Node.spread, Node.spread,
    Node.spread]
  rfl

namespace Body

def spread (b : Body) : Body := { b with nodes := Template.spread b.nodes }

theorem spread_comp_prepend (nodes : List Node) :
    spread ∘ prepend nodes = prepend (Template.spread nodes) ∘ spread := by
  funext b
  simp only [Function.comp_apply, spread, prepend, spread_append]

/-- A template read with the blocks `names` open, its texts character by character. -/
def readSpread (limit : Nat) (names : List Text) (s : Text) : Except Failure Body :=
  (ofTokens limit names (tokenize s)).map spread

theorem map_spread_prepend (nodes : List Node) (x : Except Failure Body) :
    (x.map (prepend nodes)).map spread = (x.map spread).map (prepend (Template.spread nodes)) := by
  rw [Failure.map_map, Failure.map_map, spread_comp_prepend]

end Body

open Body (prepend readSpread map_spread_prepend)

theorem tokenize_char {c : Char} (h : c ≠ '{') (u : Text) :
    (∃ run ts, tokenize u = .text run :: ts ∧ tokenize (c :: u) = .text (c :: run) :: ts) ∨
      tokenize (c :: u) = .text [c] :: tokenize u := by
  have hpieces : piecesFrom 0 (c :: u) = Piece.prepend c (piecesFrom 0 u) := by
    rw [piecesFrom, Token.tagBody?_of_ne h]
  rw [tokenize, tokenize, hpieces]
  cases piecesFrom 0 u with
  | nil => exact .inr rfl
  | cons p ps =>
    cases p with
    | plain run => exact .inl ⟨run, ps.map Piece.token, rfl, rfl⟩
    | tag body => exact .inr rfl

/-- Whatever blocks are open and whatever follows, the template `s` is read as `nodes`, and blocks
nest `depth` deep within it. -/
def ReadsAs (s : Text) (nodes : List Node) (depth : Nat) : Prop :=
  ∀ (limit : Nat) (names : List Text) (rest : Text), names.length ≤ limit →
    readSpread limit names (s ++ rest) =
      if names.length + depth ≤ limit then (readSpread limit names rest).map (prepend nodes)
      else .error .tooDeep

namespace ReadsAs

variable {s t : Text} {nodes others : List Node} {m n : Nat}

theorem of_flat (h : ∀ limit names rest, readSpread limit names (s ++ rest) =
    (readSpread limit names rest).map (prepend nodes)) : ReadsAs s nodes 0 := by
  intro limit names rest hlen
  rw [Nat.add_zero, if_pos hlen, h]

theorem nil : ReadsAs [] [] 0 := of_flat fun _ _ _ => (Failure.map_id _).symm

theorem append (hs : ReadsAs s nodes m) (ht : ReadsAs t others n) :
    ReadsAs (s ++ t) (nodes ++ others) (max m n) := by
  intro limit names rest hlen
  rw [List.append_assoc, hs limit names (t ++ rest) hlen, ht limit names rest hlen]
  by_cases hm : names.length + m ≤ limit
  · by_cases hn : names.length + n ≤ limit
    · rw [if_pos hm, if_pos hn, if_pos (by omega), Body.map_prepend]
    · rw [if_pos hm, if_neg hn, if_neg (by omega)]
      rfl
  · rw [if_neg hm, if_neg (by omega)]

theorem char {c : Char} (h : c ≠ '{') : ReadsAs [c] [.text [c]] 0 := by
  refine of_flat fun limit names rest => ?_
  have hchar : Template.spread [.text [c]] = [.text [c]] := by
    rw [spread_singleton, Node.spread]
    rfl
  rw [List.singleton_append, readSpread, readSpread]
  obtain ⟨run, ts, hrest, hjoined⟩ | hapart := tokenize_char h rest
  · -- The character is read together with the text after it.
    rw [hrest, hjoined, Body.ofTokens_text, Body.ofTokens_text, map_spread_prepend,
      map_spread_prepend, spread_text_cons, spread_append, hchar, Body.map_prepend]
  · rw [hapart, Body.ofTokens_text, map_spread_prepend, hchar]

theorem mark {body raw : Text} (hbody : '}' ∉ body)
    (htag : Token.ofTag body (Token.tagRaw body) = .text raw) :
    ReadsAs (Token.tagRaw body) (spread [.text raw]) 0 := by
  refine of_flat fun limit names rest => ?_
  rw [readSpread, tokenize_tag hbody, htag, Body.ofTokens_text, map_spread_prepend]
  rfl

theorem var {body raw key : Text} {fs : List Text} (hbody : '}' ∉ body)
    (htag : Token.ofTag body (Token.tagRaw body) = .var raw key fs) :
    ReadsAs (Token.tagRaw body) [.var key fs] 0 := by
  refine of_flat fun limit names rest => ?_
  have hvar : spread [.var key fs] = [.var key fs] := by
    rw [spread_singleton, Node.spread]
  rw [readSpread, tokenize_tag hbody, htag, Body.ofTokens_var, map_spread_prepend, hvar]
  rfl

theorem block {opened closed raw raw' name : Text} {inverted : Bool} (hopened : '}' ∉ opened)
    (hclosed : '}' ∉ closed)
    (hopens : Token.ofTag opened (Token.tagRaw opened) = .opening raw name inverted)
    (hcloses : Token.ofTag closed (Token.tagRaw closed) = .closing raw' name)
    (hs : ReadsAs s nodes n) :
    ReadsAs (Token.tagRaw opened ++ (s ++ Token.tagRaw closed)) [.block name inverted nodes]
      (n + 1) := by
  intro limit names rest hlen
  rw [List.append_assoc, List.append_assoc, readSpread, tokenize_tag hopened, hopens,
    Body.ofTokens_opening]
  by_cases hdeep : limit ≤ names.length
  · rw [if_pos hdeep, if_neg (by omega)]
    rfl
  · have hinner := hs limit (name :: names) (Token.tagRaw closed ++ rest) (Nat.lt_of_not_le hdeep)
    have hend : readSpread limit (name :: names) (Token.tagRaw closed ++ rest) =
        .ok ⟨[], tokenize rest, true⟩ := by
      rw [readSpread, tokenize_tag hclosed, hcloses, Body.ofTokens_closing, if_pos List.head?_cons]
      simp only [Except.map, Body.spread, spread_nil]
    rw [hend, List.length_cons] at hinner
    rw [if_neg hdeep]
    by_cases hn : names.length + 1 + n ≤ limit
    · rw [if_pos hn] at hinner
      obtain ⟨b, hb, hspread⟩ := Failure.map_eq_ok_iff.mp hinner
      -- The body ends at the closing tag, and what follows the block is read after it.
      have hnodes : spread b.nodes = nodes := by
        have hbody := congrArg Body.nodes hspread
        rwa [prepend, List.append_nil] at hbody
      have hrest : b.rest = tokenize rest := congrArg Body.rest hspread
      have hclosed : b.closed = true := congrArg Body.closed hspread
      have hblock : spread [.block name inverted b.nodes] = [.block name inverted nodes] := by
        rw [spread_singleton, Node.spread, hnodes]
      rw [hb, if_pos (by omega)]
      show ((if b.closed = true then _ else _ : Except Failure Body)).map Body.spread = _
      rw [if_pos hclosed, hrest, map_spread_prepend, hblock]
      rfl
    · rw [if_neg hn] at hinner
      rw [if_neg (by omega)]
      cases hb : Body.ofTokens limit (name :: names)
          (tokenize (s ++ (Token.tagRaw closed ++ rest))) with
      | ok b =>
        rw [readSpread, hb] at hinner
        cases hinner
      | error e =>
        rw [readSpread, hb] at hinner
        cases hinner
        rfl

theorem parse_eq (h : ReadsAs s nodes n) (limit : Nat) :
    (parse s limit).map spread = if n ≤ limit then .ok nodes else .error .tooDeep := by
  have hread := h limit [] [] (Nat.zero_le limit)
  rw [List.append_nil, List.length_nil, Nat.zero_add, readSpread] at hread
  have hparse : (parse s limit).map spread =
      ((Body.ofTokens limit [] (tokenize s)).map Body.spread).map Body.nodes := by
    rw [parse, Failure.map_map, Failure.map_map]
    rfl
  rw [hparse, hread]
  split
  · have hend : readSpread limit [] [] = .ok ⟨[], [], false⟩ := by
      rw [readSpread, show tokenize [] = [] from rfl, Body.ofTokens_nil]
      simp only [Except.map, Body.spread, spread_nil]
    rw [hend]
    show Except.ok (nodes ++ []) = _
    rw [List.append_nil]
  · rfl

end ReadsAs

theorem SelfContained.exists_readsAs {s : Text} (h : SelfContained s) :
    ∃ nodes depth, ReadsAs s nodes depth := by
  induction h with
  | nil => exact ⟨_, _, .nil⟩
  | char hc _ ih =>
    obtain ⟨nodes, n, ht⟩ := ih
    exact ⟨_, _, (ReadsAs.char hc).append ht⟩
  | mark hbody htag _ ih =>
    obtain ⟨nodes, n, ht⟩ := ih
    exact ⟨_, _, (ReadsAs.mark hbody htag).append ht⟩
  | var hbody htag _ ih =>
    obtain ⟨nodes, n, ht⟩ := ih
    exact ⟨_, _, (ReadsAs.var hbody htag).append ht⟩
  | @block opened closed name inner t inverted hopened hclosed hopens hcloses _ _ ihinner ih =>
    obtain ⟨inside, m, hinner⟩ := ihinner
    obtain ⟨nodes, n, ht⟩ := ih
    have happend := (ReadsAs.block hopened hclosed hopens hcloses hinner).append ht
    rw [List.append_assoc, List.append_assoc] at happend
    exact ⟨_, _, happend⟩

end LitNote.Template
