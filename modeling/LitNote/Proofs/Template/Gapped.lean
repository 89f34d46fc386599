import LitNote.Draws

/-!
Texts with gaps into which one text is put, and computations whose result is such a text whatever is
put in.
-/

namespace LitNote

abbrev Gapped := List (Option Char)

namespace Gapped

def fill (g : Gapped) (s : Text) : Text := g.flatMap fun c => (c.map List.singleton).getD s

def ofText (t : Text) : Gapped := t.map some

def gap : Gapped := [none]

theorem fill_none_cons (g : Gapped) (s : Text) : fill (none :: g) s = s ++ fill g s := rfl

theorem fill_some_cons (c : Char) (g : Gapped) (s : Text) : fill (some c :: g) s = c :: fill g s :=
  rfl

theorem fill_append (g h : Gapped) (s : Text) : fill (g ++ h) s = fill g s ++ fill h s :=
  List.flatMap_append ..

theorem fill_ofText (t s : Text) : fill (ofText t) s = t := by
  induction t with
  | nil => rfl
  | cons c t ih => rw [ofText, List.map_cons, fill_some_cons, ← ofText, ih]

theorem fill_gap (s : Text) : fill gap s = s := List.append_nil s

theorem exists_pieces (g : Gapped) :
    ∃ (first : Text) (later : List Text), ∀ s, fill g s = first ++ later.flatMap (s ++ ·) := by
  induction g with
  | nil => exact ⟨[], [], fun s => rfl⟩
  | cons c g ih =>
    obtain ⟨first, later, h⟩ := ih
    cases c with
    | none =>
      refine ⟨[], first :: later, fun s => ?_⟩
      rw [fill_none_cons, h, List.flatMap_cons, List.nil_append, List.append_assoc]
    | some c =>
      refine ⟨c :: first, later, fun s => ?_⟩
      rw [fill_some_cons, h, List.cons_append]

end Gapped

namespace Drawing

/-- Whatever text is put in, the same is drawn, and the result has gaps in the same places. -/
def Uniform (f : Text → Drawing Text) : Prop :=
  ∀ d, ∃ (r : Except Failure Gapped) (d' : Draws), ∀ s, (f s).run d = (r.map (Gapped.fill · s), d')

namespace Uniform

variable {f g : Text → Drawing Text}

theorem const (x : Drawing Text) : Uniform fun _ => x := by
  intro d
  refine ⟨(x.run d).1.map Gapped.ofText, (x.run d).2, fun s => ?_⟩
  cases hr : x.run d with
  | mk r d' =>
    cases r with
    | error e => rfl
    | ok t =>
      show _ = (Except.ok (Gapped.fill (Gapped.ofText t) s), d')
      rw [Gapped.fill_ofText]

theorem gap : Uniform fun s => pure s := by
  intro d
  refine ⟨.ok Gapped.gap, d, fun s => ?_⟩
  rw [run_pure, Except.map, Gapped.fill_gap]

theorem append (hf : Uniform f) (hg : Uniform g) :
    Uniform fun s => do
      let a ← f s
      return a ++ (← g s) := by
  intro d
  obtain ⟨r, d₁, hr⟩ := hf d
  cases r with
  | error e => exact ⟨.error e, d₁, fun s => run_bind_error (hr s)⟩
  | ok a =>
    obtain ⟨r, d₂, hr'⟩ := hg d₁
    cases r with
    | error e =>
      refine ⟨.error e, d₂, fun s => ?_⟩
      rw [run_bind_ok (hr s), run_bind_error (hr' s)]
      rfl
    | ok b =>
      refine ⟨.ok (a ++ b), d₂, fun s => ?_⟩
      rw [run_bind_ok (hr s), run_bind_ok (hr' s), run_pure, Except.map, Gapped.fill_append]

theorem failing_bind {α : Type} {r : Except Failure α} {f : α → Text → Drawing Text}
    (h : ∀ a, r = .ok a → Uniform (f a)) : Uniform fun s => failing r >>= fun a => f a s := by
  cases r with
  | error e => exact const (failing (.error e))
  | ok a => exact h a rfl

theorem recover (hf : Uniform f) (other : Text) : Uniform fun s => (f s).recover other := by
  intro d
  obtain ⟨r, d', hr⟩ := hf d
  cases r with
  | error e =>
    refine ⟨.ok (Gapped.ofText other), d', fun s => ?_⟩
    rw [run_recover_error other (hr s), Except.map, Gapped.fill_ofText]
  | ok g => exact ⟨.ok g, d', fun s => run_recover_ok other (hr s)⟩

end Uniform

end Drawing

end LitNote
