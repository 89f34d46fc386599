import LitNote.Template.Token
import LitNote.Failure

/-!
Templates as trees.  A block is read up to its closing tag.  A block that is never closed becomes
the text of its opening tag, and what follows that tag is read again without it; a closing tag that
closes nothing is dropped.
-/

namespace LitNote.Template

inductive Node where
  | text (s : Text)
  | var (key : Text) (formatters : List Text)
  | block (name : Text) (inverted : Bool) (children : List Node)
deriving Repr, BEq, Inhabited

structure Body where
  nodes : List Node
  rest : List Token
  closed : Bool
deriving Repr, Inhabited

namespace Body

def prepend (nodes : List Node) (b : Body) : Body := { b with nodes := nodes ++ b.nodes }

@[simp] theorem prepend_rest (nodes : List Node) (b : Body) : (b.prepend nodes).rest = b.rest := rfl

@[simp] theorem prepend_closed (nodes : List Node) (b : Body) :
    (b.prepend nodes).closed = b.closed := rfl

theorem prepend_prepend (xs ys : List Node) (b : Body) :
    (b.prepend ys).prepend xs = b.prepend (xs ++ ys) := by
  simp only [prepend, List.append_assoc]

/-- Reads the body of the innermost of the open blocks `names`, which come from the inside out; the
template itself counts as a body without a name.  Blocks may nest as deep as `limit`. -/
def read (limit : Nat) (names : List Text) :
    (ts : List Token) → Except Failure { b : Body // b.rest.length ≤ ts.length }
  | [] => .ok ⟨⟨[], [], false⟩, Nat.le_refl _⟩
  | .text raw :: ts => do
    let ⟨b, h⟩ ← read limit names ts
    return ⟨b.prepend [.text raw], Nat.le_succ_of_le h⟩
  | .var _ key formatters :: ts => do
    let ⟨b, h⟩ ← read limit names ts
    return ⟨b.prepend [.var key formatters], Nat.le_succ_of_le h⟩
  | .closing raw name :: ts =>
    if names.head? = some name then .ok ⟨⟨[], ts, true⟩, Nat.le_succ _⟩
    -- An enclosing block ends here, so the innermost one is never closed.
    else if name ∈ names then .ok ⟨⟨[], .closing raw name :: ts, false⟩, Nat.le_refl _⟩
    else do
      let ⟨b, h⟩ ← read limit names ts
      return ⟨b, Nat.le_succ_of_le h⟩
  | .opening raw name inverted :: ts =>
    if limit ≤ names.length then .error .tooDeep
    else do
      let ⟨inner, hi⟩ ← read limit (name :: names) ts
      if inner.closed then
        let ⟨b, h⟩ ← read limit names inner.rest
        return ⟨b.prepend [.block name inverted inner.nodes], Nat.le_succ_of_le (Nat.le_trans h hi)⟩
      else
        let ⟨b, h⟩ ← read limit names ts
        return ⟨b.prepend [.text raw], Nat.le_succ_of_le h⟩
termination_by ts => ts.length
decreasing_by all_goals simp only [List.length_cons]; omega

def ofTokens (limit : Nat) (names : List Text) (ts : List Token) : Except Failure Body :=
  (read limit names ts).map Subtype.val

section
variable {limit : Nat} {names : List Text} {ts : List Token}

@[simp] theorem ofTokens_nil : ofTokens limit names [] = .ok ⟨[], [], false⟩ := by
  rw [ofTokens, read]
  rfl

@[simp] theorem ofTokens_text (raw : Text) :
    ofTokens limit names (.text raw :: ts) =
      (ofTokens limit names ts).map (prepend [.text raw]) := by
  rw [ofTokens, ofTokens, read]
  cases read limit names ts <;> rfl

@[simp] theorem ofTokens_var (raw key : Text) (formatters : List Text) :
    ofTokens limit names (.var raw key formatters :: ts) =
      (ofTokens limit names ts).map (prepend [.var key formatters]) := by
  rw [ofTokens, ofTokens, read]
  cases read limit names ts <;> rfl

theorem ofTokens_closing (raw name : Text) :
    ofTokens limit names (.closing raw name :: ts) =
      if names.head? = some name then .ok ⟨[], ts, true⟩
      else if name ∈ names then .ok ⟨[], .closing raw name :: ts, false⟩
      else ofTokens limit names ts := by
  rw [ofTokens, ofTokens, read]
  split
  · rfl
  · split
    · rfl
    · cases read limit names ts <;> rfl

theorem ofTokens_opening (raw name : Text) (inverted : Bool) :
    ofTokens limit names (.opening raw name inverted :: ts) =
      if limit ≤ names.length then .error .tooDeep
      else (ofTokens limit (name :: names) ts).bind fun inner =>
        if inner.closed then
          (ofTokens limit names inner.rest).map (prepend [.block name inverted inner.nodes])
        else (ofTokens limit names ts).map (prepend [.text raw]) := by
  rw [ofTokens, ofTokens, read]
  split
  · rfl
  · cases read limit (name :: names) ts with
    | error e => rfl
    | ok inner =>
      obtain ⟨inner, hi⟩ := inner
      by_cases hc : inner.closed
      · simp only [Except.map, Except.bind, bind, hc, if_true, ofTokens]
        cases read limit names inner.rest <;> rfl
      · simp only [Except.map, Except.bind, bind, hc, ofTokens]
        cases read limit names ts <;> rfl

theorem rest_length_le {b : Body} (h : ofTokens limit names ts = .ok b) :
    b.rest.length ≤ ts.length := by
  rw [ofTokens] at h
  cases hr : read limit names ts with
  | error e => rw [hr] at h; cases h
  | ok b' =>
    rw [hr] at h
    cases h
    exact b'.2

end

end Body

def maxDepth : Nat := 900

def parse (template : Text) (limit : Nat := maxDepth) : Except Failure (List Node) :=
  (Body.ofTokens limit [] (tokenize template)).map Body.nodes

end LitNote.Template
