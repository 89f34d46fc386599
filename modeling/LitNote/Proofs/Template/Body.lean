import LitNote.Proofs.Failure
import Mathlib.Tactic.ByContra
import Mathlib.Tactic.Tauto
import LitNote.Template.Node

/-!
Where the reading of a body ends, and how it depends on the open blocks.  Main statement: a block
that is never closed may be forgotten, for the tokens up to where it ends are then read as before.
-/

namespace LitNote.Template.Body

variable {limit : Nat}

theorem map_prepend (xs ys : List Node) (x : Except Failure Body) :
    (x.map (prepend ys)).map (prepend xs) = x.map (prepend (xs ++ ys)) := by
  rw [Failure.map_map]
  exact congrArg (fun f => x.map f) (funext (prepend_prepend xs ys))

def Stops (names : List Text) (rest : List Token) : Prop :=
  rest = [] ∨ ∃ raw name ts, rest = .closing raw name :: ts ∧ names.head? ≠ some name ∧ name ∈ names

theorem ofTokens_of_stops {names : List Text} {rest : List Token} (h : Stops names rest) :
    ofTokens limit names rest = .ok ⟨[], rest, false⟩ := by
  obtain rfl | ⟨raw, name, ts, rfl, hhead, hmem⟩ := h
  · exact ofTokens_nil
  · rw [ofTokens_closing, if_neg hhead, if_pos hmem]

def Ends (names : List Text) (b : Body) : Prop :=
  if b.closed then names ≠ [] else Stops names b.rest

theorem ends_of_ofTokens (names : List Text) : ∀ (ts : List Token) {b : Body},
    ofTokens limit names ts = .ok b → Ends names b
  | [], b, h => by
    rw [ofTokens_nil] at h
    cases h
    exact .inl rfl
  | .text raw :: ts, b, h => by
    rw [ofTokens_text] at h
    obtain ⟨b', h', rfl⟩ := Failure.map_eq_ok_iff.mp h
    have he := ends_of_ofTokens names ts h'
    exact he
  | .var raw key formatters :: ts, b, h => by
    rw [ofTokens_var] at h
    obtain ⟨b', h', rfl⟩ := Failure.map_eq_ok_iff.mp h
    have he := ends_of_ofTokens names ts h'
    exact he
  | .closing raw name :: ts, b, h => by
    rw [ofTokens_closing] at h
    split at h
    · next hhead =>
      cases h
      exact List.ne_nil_of_mem (List.mem_of_head? hhead)
    · next hhead =>
      split at h
      · next hmem =>
        cases h
        exact .inr ⟨raw, name, ts, rfl, hhead, hmem⟩
      · exact ends_of_ofTokens names ts h
  | .opening raw name inverted :: ts, b, h => by
    rw [ofTokens_opening] at h
    split at h
    · cases h
    · obtain ⟨inner, hi, h⟩ := Failure.bind_eq_ok_iff.mp h
      have hle := rest_length_le hi
      split at h
      · obtain ⟨b', h', rfl⟩ := Failure.map_eq_ok_iff.mp h
        have he := ends_of_ofTokens names inner.rest h'
        exact he
      · obtain ⟨b', h', rfl⟩ := Failure.map_eq_ok_iff.mp h
        have he := ends_of_ofTokens names ts h'
        exact he
termination_by ts => ts.length

theorem stops_of_ofTokens {names : List Text} {ts : List Token} {b : Body}
    (h : ofTokens limit names ts = .ok b) (hc : b.closed = false) : Stops names b.rest := by
  have he := ends_of_ofTokens names ts h
  rw [Ends, hc] at he
  exact he

theorem rest_eq_nil {ts : List Token} {b : Body} (h : ofTokens limit [] ts = .ok b) :
    b.rest = [] := by
  have he := ends_of_ofTokens [] ts h
  rw [Ends] at he
  split at he
  · exact absurd rfl he
  · obtain hrest | ⟨raw, name, ts, -, -, hmem⟩ := he
    · exact hrest
    · cases hmem

/-- The reading ends with the block `name` that stands just outside of the blocks `inner`: it closes
that block, or it stops at its closing tag. -/
def EndsAt (inner : List Text) (name : Text) (b : Body) : Prop :=
  if inner = [] then b.closed = true
  else name ∉ inner ∧ b.closed = false ∧ ∃ raw ts, b.rest = .closing raw name :: ts

theorem not_endsAt_nil {name : Text} {b : Body} (h : b.closed = false) : ¬EndsAt [] name b := by
  intro hends
  rw [EndsAt, if_pos rfl, h] at hends
  cases hends

theorem not_endsAt_cons {k name : Text} {inner : List Text} {b : Body} (h : b.closed = true) :
    ¬EndsAt (k :: inner) name b := by
  intro hends
  rw [EndsAt, if_neg (List.cons_ne_nil k inner), h] at hends
  cases hends.2.1

/-- What is read without some block, where `b` is what was read up to the end of that block. -/
def resume (limit : Nat) (names : List Text) (b : Body) : Except Failure Body :=
  if b.closed then .ok b else (ofTokens limit names b.rest).map (prepend b.nodes)

theorem resume_of_closed {names : List Text} {b : Body} (h : b.closed = true) :
    resume limit names b = .ok b := if_pos h

theorem resume_of_unclosed {names : List Text} {b : Body} (h : b.closed = false) :
    resume limit names b = (ofTokens limit names b.rest).map (prepend b.nodes) := by
  rw [resume, h, if_neg Bool.false_ne_true]

theorem resume_prepend (names : List Text) (nodes : List Node) (b : Body) :
    resume limit names (b.prepend nodes) = (resume limit names b).map (prepend nodes) := by
  cases hc : b.closed with
  | true =>
    have hp : (b.prepend nodes).closed = true := hc
    rw [resume_of_closed hc, resume_of_closed hp]
    rfl
  | false =>
    have hp : (b.prepend nodes).closed = false := hc
    rw [resume_of_unclosed hc, resume_of_unclosed hp, map_prepend, prepend_rest]
    rfl

theorem endsAt_of_inner {inner names : List Text} {name k : Text} {e b : Body}
    (he : e.closed = false) (hs : Stops (k :: (inner ++ name :: names)) e.rest)
    (hend : EndsAt (k :: inner) name e)
    (hb : resume limit (inner ++ name :: names) e = .ok b) : EndsAt inner name b := by
  rw [EndsAt, if_neg (List.cons_ne_nil k inner)] at hend
  obtain ⟨hmem, -, raw, ts, hrest⟩ := hend
  have hmem : name ∉ inner := fun h => hmem (List.mem_cons_of_mem k h)
  rw [resume_of_unclosed he, hrest] at hb
  cases inner with
  | nil =>
    rw [List.nil_append, ofTokens_closing, if_pos List.head?_cons] at hb
    cases hb
    rfl
  | cons i inner =>
    have hhead : (i :: inner ++ name :: names).head? ≠ some name := by
      intro h
      cases h
      exact hmem (List.mem_cons_self ..)
    rw [ofTokens_closing, if_neg hhead, if_pos (by simp)] at hb
    cases hb
    rw [EndsAt, if_neg (List.cons_ne_nil i inner)]
    exact ⟨hmem, rfl, raw, ts, rfl⟩

theorem Stops.forget {inner names : List Text} {name k : Text} {e : Body}
    (he : e.closed = false) (hs : Stops (k :: (inner ++ name :: names)) e.rest)
    (hend : ¬EndsAt (k :: inner) name e) : Stops (k :: (inner ++ names)) e.rest := by
  obtain h | ⟨raw, m, ts, hrest, hhead, hmem⟩ := hs
  · exact .inl h
  · refine .inr ⟨raw, m, ts, hrest, hhead, ?_⟩
    have hkm : k ≠ m := fun h => hhead (congrArg some h)
    rw [EndsAt, if_neg (List.cons_ne_nil k inner)] at hend
    by_cases hm : m = name
    · subst hm
      have hin : m ∈ k :: inner := by
        by_contra hout
        exact hend ⟨hout, he, raw, ts, hrest⟩
      exact List.mem_append_left names hin
    · simp only [List.mem_cons, List.mem_append] at hmem ⊢
      tauto

-- The blocks `inner` were opened within `name`, and `names` stand around it.  A block of the same
-- name may be among either, so what ends `name` is told by `EndsAt` and not by the name alone.
/-- A block that is not closed may be forgotten. -/
theorem ofTokens_forget (names : List Text) : ∀ (ts : List Token) (inner : List Text) (name : Text)
    {b : Body}, ofTokens limit (inner ++ name :: names) ts = .ok b → ¬EndsAt inner name b →
      ofTokens limit (inner ++ names) ts = resume limit (inner ++ names) b
  | [], inner, name, b, h, _ => by
    rw [ofTokens_nil] at h
    cases h
    rw [resume_of_unclosed rfl, ofTokens_nil]
    rfl
  | .text raw :: ts, inner, name, b, h, hend => by
    rw [ofTokens_text] at h
    obtain ⟨b', h', rfl⟩ := Failure.map_eq_ok_iff.mp h
    rw [ofTokens_text, ofTokens_forget names ts inner name h' hend, resume_prepend]
  | .var raw key formatters :: ts, inner, name, b, h, hend => by
    rw [ofTokens_var] at h
    obtain ⟨b', h', rfl⟩ := Failure.map_eq_ok_iff.mp h
    rw [ofTokens_var, ofTokens_forget names ts inner name h' hend, resume_prepend]
  | .closing raw k :: ts, inner, name, b, h, hend => by
    rw [ofTokens_closing] at h
    split at h
    · next hhead =>
      cases h
      cases inner with
      | nil => exact absurd rfl hend
      | cons i inner =>
        have hhead' : (i :: inner ++ names).head? = some k := hhead
        rw [ofTokens_closing, if_pos hhead', resume_of_closed rfl]
    · split at h
      · cases h
        exact (Failure.map_id _).symm
      · next hmem =>
        have hout : k ∉ inner ++ names := fun hk => hmem <| by
          simp only [List.mem_append, List.mem_cons] at hk ⊢
          tauto
        have hhead : (inner ++ names).head? ≠ some k := fun hk => hout (List.mem_of_head? hk)
        rw [ofTokens_closing, if_neg hhead, if_neg hout]
        exact ofTokens_forget names ts inner name h hend
  | .opening raw k inverted :: ts, inner, name, b, h, hend => by
    rw [ofTokens_opening] at h
    split at h
    · cases h
    · next hdeep =>
      obtain ⟨e, he, h⟩ := Failure.bind_eq_ok_iff.mp h
      have hle := rest_length_le he
      have hdeep : ¬limit ≤ (inner ++ names).length := by
        simp only [List.length_append, List.length_cons] at hdeep ⊢
        omega
      rw [ofTokens_opening, if_neg hdeep]
      cases hc : e.closed with
      | true =>
        rw [if_pos hc] at h
        obtain ⟨b', h', rfl⟩ := Failure.map_eq_ok_iff.mp h
        have he' := ofTokens_forget names ts (k :: inner) name he (not_endsAt_cons hc)
        rw [resume_of_closed hc] at he'
        rw [← List.cons_append, he', Except.bind, if_pos hc,
          ofTokens_forget names e.rest inner name h' hend, resume_prepend]
      | false =>
        rw [hc, if_neg Bool.false_ne_true] at h
        obtain ⟨b', h', rfl⟩ := Failure.map_eq_ok_iff.mp h
        have hs := stops_of_ofTokens he hc
        -- The tokens are read again without `k`, which is not closed either: this leads to where
        -- `e` ends and on from there, so `e` does not end with `name`.
        have hre := ofTokens_forget (inner ++ name :: names) ts [] k he (not_endsAt_nil hc)
        rw [List.nil_append] at hre
        have hopen : ¬EndsAt (k :: inner) name e := fun hends => by
          have hb : EndsAt inner name b' := endsAt_of_inner hc hs hends (hre.symm.trans h')
          exact hend hb
        have he' := ofTokens_forget names ts (k :: inner) name he hopen
        rw [resume_of_unclosed hc, List.cons_append,
          ofTokens_of_stops (Stops.forget hc hs hopen)] at he'
        rw [he', Except.map, Except.bind, prepend_closed, if_neg Bool.false_ne_true,
          ofTokens_forget names ts inner name h' hend, resume_prepend]
termination_by ts => ts.length

theorem ofTokens_of_unclosed {names : List Text} {name : Text} {ts : List Token} {b : Body}
    (h : ofTokens limit (name :: names) ts = .ok b) (hc : b.closed = false) :
    ofTokens limit names ts = (ofTokens limit names b.rest).map (prepend b.nodes) := by
  have hf := ofTokens_forget names ts [] name h (not_endsAt_nil hc)
  rwa [List.nil_append, resume_of_unclosed hc] at hf

end LitNote.Template.Body
