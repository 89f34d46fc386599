import LitNote.Proofs.Template.Body

/-!
Reading a template in one pass, with a stack of open blocks.  A closing tag dissolves the blocks
within the one that it closes, and the end of the template dissolves all that are open.  Main
statement: this gives the nodes of `parse`, which reads again after a block that is never closed.
-/

namespace LitNote.Template

structure Frame where
  raw : Text
  name : Text
  inverted : Bool
  nodes : List Node
deriving Repr

namespace Frame

def block (f : Frame) : List Node := [.block f.name f.inverted f.nodes]

/-- What remains of a block that is never closed. -/
def dissolved (f : Frame) : List Node := .text f.raw :: f.nodes

end Frame

/-- The nodes outside of all blocks, and the open blocks from the innermost. -/
structure OnePass where
  outer : List Node
  frames : List Frame
deriving Repr

namespace OnePass

def start : OnePass := ⟨[], []⟩

def names (r : OnePass) : List Text := r.frames.map Frame.name

def add (nodes : List Node) (r : OnePass) : OnePass :=
  match r.frames with
  | [] => { r with outer := r.outer ++ nodes }
  | f :: fs => { r with frames := { f with nodes := f.nodes ++ nodes } :: fs }

def pop (become : Frame → List Node) (r : OnePass) : OnePass :=
  match r.frames with
  | [] => r
  | f :: fs => { r with frames := fs }.add (become f)

def dissolve (r : OnePass) : OnePass := r.pop Frame.dissolved

@[simp] theorem names_add (nodes : List Node) (r : OnePass) : (r.add nodes).names = r.names := by
  obtain ⟨outer, frames⟩ := r
  cases frames <;> rfl

@[simp] theorem frames_length (r : OnePass) : r.frames.length = r.names.length :=
  List.length_map .. |>.symm

@[simp] theorem names_pop (become : Frame → List Node) (r : OnePass) :
    (r.pop become).names = r.names.tail := by
  obtain ⟨outer, frames⟩ := r
  cases frames with
  | nil => rfl
  | cons f fs => exact names_add (become f) ⟨outer, fs⟩

theorem pop_length_lt {become : Frame → List Node} {r : OnePass} {f : Frame} {fs : List Frame}
    (h : r.frames = f :: fs) : (r.pop become).frames.length < r.frames.length := by
  rw [frames_length, names_pop, frames_length, List.length_tail, ← frames_length, h]
  exact Nat.lt_succ_self _

def closeTo (name : Text) (r : OnePass) : OnePass :=
  match _h : r.frames with
  | [] => r
  | f :: _ => if f.name = name then r.pop Frame.block else closeTo name r.dissolve
termination_by r.frames.length
decreasing_by exact pop_length_lt _h

def close (name : Text) (r : OnePass) : OnePass :=
  if r.names.contains name then r.closeTo name else r

def step (r : OnePass) : Token → OnePass
  | .text raw => r.add [.text raw]
  | .var _ key formatters => r.add [.var key formatters]
  | .opening raw name inverted => { r with frames := ⟨raw, name, inverted, []⟩ :: r.frames }
  | .closing _ name => r.close name

def finish (r : OnePass) : List Node :=
  match _h : r.frames with
  | [] => r.outer
  | _ :: _ => r.dissolve.finish
termination_by r.frames.length
decreasing_by exact pop_length_lt _h

def depth (r : OnePass) : List Token → Nat
  | [] => r.frames.length
  | t :: ts => max r.frames.length ((r.step t).depth ts)

@[simp] theorem add_nil (r : OnePass) : r.add [] = r := by
  obtain ⟨outer, frames⟩ := r
  cases frames <;> simp [add]

theorem add_add (xs ys : List Node) (r : OnePass) : (r.add xs).add ys = r.add (xs ++ ys) := by
  obtain ⟨outer, frames⟩ := r
  cases frames <;> simp [add]

theorem closeTo_of_head {name : Text} {r : OnePass} (h : r.names.head? = some name) :
    r.closeTo name = r.pop Frame.block := by
  obtain ⟨outer, frames⟩ := r
  cases frames with
  | nil => cases h
  | cons f fs =>
    have hf : f.name = name := Option.some.inj h
    rw [closeTo]
    exact if_pos hf

theorem closeTo_of_ne {name : Text} {r : OnePass} (h : r.names.head? ≠ some name) :
    r.closeTo name = r.dissolve.closeTo name := by
  obtain ⟨outer, frames⟩ := r
  cases frames with
  | nil => rfl
  | cons f fs =>
    have hf : f.name ≠ name := fun hf => h (congrArg some hf)
    rw [closeTo]
    exact if_neg hf

theorem close_of_mem {name : Text} {r : OnePass} (h : name ∈ r.names) :
    r.close name = r.closeTo name := if_pos (List.contains_iff_mem.mpr h)

theorem close_of_not_mem {name : Text} {r : OnePass} (h : name ∉ r.names) : r.close name = r :=
  if_neg fun hc => h (List.contains_iff_mem.mp hc)

theorem close_dissolve {name : Text} {r : OnePass} (h : r.names.head? ≠ some name)
    (hmem : name ∈ r.names) : r.dissolve.close name = r.close name := by
  have htail : name ∈ r.dissolve.names := by
    rw [dissolve, names_pop]
    cases hn : r.names with
    | nil => rw [hn] at hmem; cases hmem
    | cons n ns =>
      rw [hn] at h hmem
      exact (List.mem_cons.mp hmem).resolve_left fun hname => h (congrArg some hname.symm)
  rw [close_of_mem htail, close_of_mem hmem, closeTo_of_ne h]

theorem finish_dissolve (r : OnePass) : r.dissolve.finish = r.finish := by
  obtain ⟨outer, frames⟩ := r
  cases frames with
  | nil => rfl
  | cons f fs => rw [finish.eq_def ⟨outer, f :: fs⟩]

def outcome (limit : Nat) (r : OnePass) (ts : List Token) : Except Failure (List Node) :=
  if r.depth ts ≤ limit then .ok (ts.foldl step r).finish else .error .tooDeep

variable {limit : Nat} {r : OnePass}

theorem le_depth (r : OnePass) (ts : List Token) : r.frames.length ≤ r.depth ts := by
  cases ts with
  | nil => exact Nat.le_refl _
  | cons t ts => exact Nat.le_max_left _ _

theorem outcome_nil (h : r.frames.length ≤ limit) : outcome limit r [] = .ok r.finish := if_pos h

theorem outcome_cons (h : r.frames.length ≤ limit) (t : Token) (ts : List Token) :
    outcome limit r (t :: ts) = outcome limit (r.step t) ts := by
  have hd : r.depth (t :: ts) ≤ limit ↔ (r.step t).depth ts ≤ limit := by
    rw [depth, Nat.max_le]
    exact and_iff_right h
  rw [outcome, outcome, List.foldl_cons]
  exact if_congr hd rfl rfl

theorem outcome_of_lt (h : limit < r.frames.length) (ts : List Token) :
    outcome limit r ts = .error .tooDeep := by
  have hd := le_depth r ts
  exact if_neg (by omega)

/-- The state once the innermost open block has ended, where `b` was read of it. -/
def after (r : OnePass) (b : Body) : OnePass :=
  (r.add b.nodes).pop (if b.closed then Frame.block else Frame.dissolved)

theorem after_prepend (nodes : List Node) (r : OnePass) (b : Body) :
    r.after (b.prepend nodes) = (r.add nodes).after b := by
  rw [after, after, add_add]
  rfl

theorem outcome_dissolve {rest : List Token} (hlen : r.frames.length ≤ limit)
    (hs : Body.Stops r.names rest) : outcome limit r.dissolve rest = outcome limit r rest := by
  have hlen' : r.dissolve.frames.length ≤ limit := by
    rw [frames_length, dissolve, names_pop, List.length_tail, ← frames_length]
    omega
  obtain rfl | ⟨raw, name, ts, rfl, hhead, hmem⟩ := hs
  · rw [outcome_nil hlen, outcome_nil hlen', finish_dissolve]
  · rw [outcome_cons hlen, outcome_cons hlen', step, step, close_dissolve hhead hmem]

theorem bind_prepend (nodes : List Node) (r : OnePass) (x : Except Failure Body) :
    ((x.map (Body.prepend nodes)).bind fun b => outcome limit (r.after b) b.rest) =
      x.bind fun b => outcome limit ((r.add nodes).after b) b.rest := by
  rw [Failure.map_bind]
  refine congrArg x.bind (funext fun b => ?_)
  rw [Function.comp_apply, after_prepend, Body.prepend_rest]

theorem after_closed (r : OnePass) (rest : List Token) :
    r.after ⟨[], rest, true⟩ = r.pop Frame.block := by
  rw [after, add_nil, if_pos rfl]

theorem after_unclosed (r : OnePass) (rest : List Token) :
    r.after ⟨[], rest, false⟩ = r.dissolve := by
  rw [after, add_nil, if_neg Bool.false_ne_true, dissolve]

theorem after_opening_closed {raw name : Text} {inverted : Bool} {b : Body} (h : b.closed = true) :
    (r.step (.opening raw name inverted)).after b = r.add [.block name inverted b.nodes] := by
  rw [after, if_pos h]
  rfl

theorem after_opening_unclosed {raw name : Text} {inverted : Bool} {b : Body}
    (h : b.closed = false) :
    (r.step (.opening raw name inverted)).after b = r.add (.text raw :: b.nodes) := by
  rw [after, h, if_neg Bool.false_ne_true]
  rfl

/-- The innermost open block becomes what is read of its body, and reading goes on after it. -/
theorem outcome_eq_bind : ∀ (ts : List Token) (r : OnePass), r.frames.length ≤ limit →
    outcome limit r ts =
      (Body.ofTokens limit r.names ts).bind fun b => outcome limit (r.after b) b.rest
  | [], r, h => by
    rw [Body.ofTokens_nil, ← outcome_dissolve h (.inl rfl), ← after_unclosed r []]
    rfl
  | .text raw :: ts, r, h => by
    have ih := outcome_eq_bind ts (r.add [.text raw]) (by simpa using h)
    rw [outcome_cons h, step, ih, Body.ofTokens_text, bind_prepend, names_add]
  | .var raw key formatters :: ts, r, h => by
    have ih := outcome_eq_bind ts (r.add [.var key formatters]) (by simpa using h)
    rw [outcome_cons h, step, ih, Body.ofTokens_var, bind_prepend, names_add]
  | .closing raw name :: ts, r, h => by
    rw [Body.ofTokens_closing]
    split
    · next hhead =>
      have hmem : name ∈ r.names := List.mem_of_head? hhead
      rw [outcome_cons h, step, close_of_mem hmem, closeTo_of_head hhead, ← after_closed r ts]
      rfl
    · next hhead =>
      split
      · next hmem =>
        rw [← outcome_dissolve h (.inr ⟨raw, name, ts, rfl, hhead, hmem⟩), ← after_unclosed r]
        rfl
      · next hmem =>
        rw [outcome_cons h, step, close_of_not_mem hmem]
        exact outcome_eq_bind ts r h
  | .opening raw name inverted :: ts, r, h => by
    rw [outcome_cons h, Body.ofTokens_opening]
    split
    · next hdeep =>
      rw [← frames_length] at hdeep
      exact outcome_of_lt (Nat.lt_succ_of_le hdeep) ts
    · next hdeep =>
      rw [← frames_length] at hdeep
      have ih := outcome_eq_bind ts (r.step (.opening raw name inverted)) (Nat.lt_of_not_le hdeep)
      rw [ih, show (r.step (.opening raw name inverted)).names = name :: r.names from rfl]
      cases he : Body.ofTokens limit (name :: r.names) ts with
      | error e => rfl
      | ok e =>
        have hle := Body.rest_length_le he
        rw [Except.bind, Except.bind]
        cases hc : e.closed with
        | true =>
          have ih := outcome_eq_bind e.rest (r.add [.block name inverted e.nodes])
            (by simpa using h)
          rw [after_opening_closed hc, ih, names_add, if_pos rfl, bind_prepend]
        | false =>
          have ih := outcome_eq_bind e.rest (r.add (.text raw :: e.nodes)) (by simpa using h)
          -- One pass goes on after `e`, while the tokens of `e` are read again here.
          have hagain := Body.ofTokens_of_unclosed he hc
          rw [after_opening_unclosed hc, ih, names_add, if_neg Bool.false_ne_true, hagain,
            bind_prepend, bind_prepend, add_add]
          rfl
termination_by ts => ts.length

theorem finish_after_start {b : Body} : (start.after b).finish = b.nodes := by
  rw [finish.eq_def]
  rfl

/-- For every template and every limit, one pass with a stack gives the same nodes, and it fails for
the same templates. -/
theorem parse_eq_onePass (template : Text) (limit : Nat) :
    parse template limit =
      if start.depth (tokenize template) ≤ limit
      then .ok ((tokenize template).foldl step start).finish
      else .error .tooDeep := by
  have h := @outcome_eq_bind limit (tokenize template) start (Nat.zero_le _)
  rw [← outcome, h, parse]
  cases hb : Body.ofTokens limit [] (tokenize template) with
  | error e =>
    rw [show start.names = [] from rfl, hb]
    rfl
  | ok b =>
    rw [show start.names = [] from rfl, hb, Except.bind, Body.rest_eq_nil hb,
      outcome_nil (Nat.zero_le _), finish_after_start]
    rfl

end OnePass

end LitNote.Template
