import LitNote.Failure
import Mathlib.Data.List.Forall2

/-!
Results that may be failures, taken apart.
-/

namespace LitNote.Failure

variable {ε α β γ : Type} {x : Except ε α} {b : β}

theorem ok_bind (a : α) (f : α → Except ε β) : (Except.ok a >>= f) = f a := rfl

theorem map_eq_ok_iff {f : α → β} : x.map f = .ok b ↔ ∃ a, x = .ok a ∧ f a = b := by
  cases x <;> simp [Except.map]

theorem exists_map_iff {f : α → β} : (∃ b, x.map f = .ok b) ↔ ∃ a, x = .ok a := by
  cases x <;> simp [Except.map]

theorem bind_eq_ok_iff {f : α → Except ε β} :
    x.bind f = .ok b ↔ ∃ a, x = .ok a ∧ f a = .ok b := by
  cases x <;> simp [Except.bind]

theorem bind_eq_error_iff {f : α → Except ε β} {e : ε} :
    x.bind f = .error e ↔ x = .error e ∨ ∃ a, x = .ok a ∧ f a = .error e := by
  cases x <;> simp [Except.bind]

theorem of_mem_forM {check : α → Except ε Unit} {xs : List α}
    (h : xs.forM check = .ok ()) {x : α} (hx : x ∈ xs) : check x = .ok () := by
  induction xs with
  | nil => cases hx
  | cons y ys ih =>
    obtain ⟨u, hy, hys⟩ := bind_eq_ok_iff.mp h
    obtain rfl | hx := List.mem_cons.mp hx
    · exact hy
    · exact ih hys hx

theorem of_mem_mapM {f : α → Except ε β} {xs : List α} {ys : List β}
    (h : xs.mapM f = .ok ys) {y : β} (hy : y ∈ ys) : ∃ x ∈ xs, f x = .ok y := by
  induction xs generalizing ys with
  | nil =>
    cases h
    cases hy
  | cons x xs ih =>
    rw [List.mapM_cons] at h
    obtain ⟨z, hz, h⟩ := bind_eq_ok_iff.mp h
    obtain ⟨zs, hzs, h⟩ := bind_eq_ok_iff.mp h
    cases h
    obtain rfl | hy := List.mem_cons.mp hy
    · exact ⟨x, List.mem_cons_self .., hz⟩
    · obtain ⟨x', hx', hfx'⟩ := ih hzs hy
      exact ⟨x', List.mem_cons_of_mem x hx', hfx'⟩

theorem exists_mapM {f : α → Except ε β} {xs : List α} (h : ∀ x ∈ xs, ∃ y, f x = .ok y) :
    ∃ ys, xs.mapM f = .ok ys := by
  induction xs with
  | nil => exact ⟨[], rfl⟩
  | cons x xs ih =>
    obtain ⟨y, hy⟩ := h x (List.mem_cons_self ..)
    obtain ⟨ys, hys⟩ := ih fun x' hx' => h x' (List.mem_cons_of_mem x hx')
    refine ⟨y :: ys, ?_⟩
    rw [List.mapM_cons, hy, hys]
    rfl

theorem mapM_eq_ok_iff {f : α → Except ε β} {xs : List α} {ys : List β} :
    xs.mapM f = .ok ys ↔ List.Forall₂ (fun x y => f x = .ok y) xs ys := by
  induction xs generalizing ys with
  | nil =>
    rw [List.forall₂_nil_left_iff, List.mapM_nil]
    constructor
    · intro h
      exact (Except.ok.inj h).symm
    · rintro rfl
      rfl
  | cons x xs ih =>
    rw [List.mapM_cons, List.forall₂_cons_left_iff]
    constructor
    · intro h
      obtain ⟨y, hy, h⟩ := bind_eq_ok_iff.mp h
      obtain ⟨ys, hys, h⟩ := bind_eq_ok_iff.mp h
      cases h
      exact ⟨y, ys, hy, ih.mp hys, rfl⟩
    · rintro ⟨y, ys, hy, hys, rfl⟩
      rw [hy, ih.mpr hys]
      rfl

theorem exists_mapM_iff {f : α → Except ε β} {xs : List α} :
    (∃ ys, xs.mapM f = .ok ys) ↔ ∀ x ∈ xs, ∃ y, f x = .ok y := by
  refine ⟨?_, exists_mapM⟩
  rintro ⟨ys, h⟩
  induction mapM_eq_ok_iff.mp h with
  | nil => simp
  | cons hxy hrest ih => exact List.forall_mem_cons.mpr ⟨⟨_, hxy⟩, ih (mapM_eq_ok_iff.mpr hrest)⟩

theorem map_id (x : Except Failure α) : x.map id = x := by
  cases x <;> rfl

theorem map_map (f : α → β) (g : β → γ) (x : Except Failure α) :
    (x.map f).map g = x.map (g ∘ f) := by
  cases x <;> rfl

theorem map_bind (f : α → β) (g : β → Except Failure γ) (x : Except Failure α) :
    (x.map f).bind g = x.bind (g ∘ f) := by
  cases x <;> rfl

def FailsOnly (P : ε → Prop) (x : Except ε α) : Prop := ∀ e, x = .error e → P e

section
variable {P : ε → Prop}

theorem FailsOnly.ok (a : α) : FailsOnly P (.ok a : Except ε α) := by
  intro e h
  cases h

theorem FailsOnly.error {e : ε} (h : P e) : FailsOnly P (.error e : Except ε α) := by
  intro e' h'
  cases h'
  exact h

theorem FailsOnly.imp {Q : ε → Prop} (hx : FailsOnly P x) (h : ∀ e, P e → Q e) :
    FailsOnly Q x :=
  fun e he => h e (hx e he)

theorem FailsOnly.exists_ok (hx : FailsOnly P x) (h : ∀ e, ¬P e) : ∃ a, x = .ok a := by
  cases x with
  | ok a => exact ⟨a, rfl⟩
  | error e => exact absurd (hx e rfl) (h e)

theorem FailsOnly.bind {f : α → Except ε β} (hx : FailsOnly P x)
    (hf : ∀ a, x = .ok a → FailsOnly P (f a)) : FailsOnly P (x.bind f) := by
  intro e h
  rcases bind_eq_error_iff.mp h with he | ⟨a, ha, h⟩
  · exact hx e he
  · exact hf a ha e h

theorem FailsOnly.map {f : α → β} (hx : FailsOnly P x) : FailsOnly P (x.map f) := by
  intro e h
  cases x with
  | error e' =>
    cases h
    exact hx e rfl
  | ok a => cases h

theorem FailsOnly.of_ok {a : α} (h : x = .ok a) : FailsOnly P x := by
  rw [h]
  exact .ok a

theorem FailsOnly.mapM_of_mem {f : α → Except ε β} {xs : List α}
    (hf : ∀ a ∈ xs, FailsOnly P (f a)) : FailsOnly P (xs.mapM f) := by
  induction xs with
  | nil => exact .ok []
  | cons a xs ih =>
    have ih := ih fun b hb => hf b (List.mem_cons_of_mem a hb)
    rw [List.mapM_cons]
    exact (hf a (List.mem_cons_self ..)).bind fun b _ => ih.bind fun bs _ => .ok (b :: bs)

theorem FailsOnly.mapM {f : α → Except ε β} (hf : ∀ a, FailsOnly P (f a)) (xs : List α) :
    FailsOnly P (xs.mapM f) :=
  .mapM_of_mem fun a _ => hf a

theorem FailsOnly.forM {f : α → Except ε Unit} {xs : List α}
    (hf : ∀ a ∈ xs, FailsOnly P (f a)) : FailsOnly P (xs.forM f) := by
  induction xs with
  | nil => exact .ok ()
  | cons a xs ih =>
    have ih := ih fun b hb => hf b (List.mem_cons_of_mem a hb)
    exact (hf a (List.mem_cons_self ..)).bind fun _ _ => ih

end

/-- Failures that rendering is prepared for: nesting that is too deep, values and numbers that are
not of the kind or form that is asked for, and keys that are missing. -/
def IsCaught : Failure → Prop
  | .outOfRange => False
  | .noFields _ => False
  | .noText _ => False
  | .noForm => False
  | .notRepresentable => False
  | .malformedYaml => False
  | .noSettingsFile _ => False
  | .isDirectory _ => False
  | _ => True

end LitNote.Failure
