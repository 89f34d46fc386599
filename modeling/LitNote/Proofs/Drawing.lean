import LitNote.Draws
import LitNote.Proofs.Failure

/-!
What drawing computations yield, whatever they draw.
-/

namespace LitNote.Drawing

variable {α β : Type} {P : α → Prop} {Q : β → Prop}

theorem run_of_eq_pure {x : Drawing α} {a : α} (h : x = pure a) (d : Draws) :
    x.run d = (.ok a, d) := by
  rw [h, run_pure]

theorem failing_ok_bind (a : α) (f : α → Drawing β) : failing (.ok a) >>= f = f a := rfl

theorem run_bind_eq_ok_iff {ε : Type} {x : ExceptT ε (StateM Draws) α}
    {f : α → ExceptT ε (StateM Draws) β} {b : β} {d d' : Draws} :
    (x >>= f).run d = (.ok b, d') ↔
      ∃ a d₁, x.run d = (.ok a, d₁) ∧ (f a).run d₁ = (.ok b, d') := by
  cases hr : x.run d with
  | mk r d₁ =>
    cases r with
    | error e =>
      rw [run_bind_error hr]
      constructor
      · intro h
        cases h
      · rintro ⟨a, d₂, h, -⟩
        cases h
    | ok a =>
      rw [run_bind_ok hr]
      constructor
      · exact fun h => ⟨a, d₁, rfl, h⟩
      · rintro ⟨a', d₂, h, hf⟩
        cases h
        exact hf

def Yields (P : α → Prop) (x : Drawing α) : Prop := ∀ d a d', x.run d = (.ok a, d') → P a

theorem Yields.trivial (x : Drawing α) : Yields (fun _ => True) x := fun _ _ _ _ => True.intro

theorem Yields.pure {a : α} (h : P a) : Yields P (Pure.pure a : Drawing α) := by
  intro d a' d' hrun
  rw [run_pure] at hrun
  cases hrun
  exact h

theorem Yields.failing {r : Except Failure α} (h : ∀ a, r = .ok a → P a) :
    Yields P (failing r) := by
  intro d a d' hrun
  rw [run_failing] at hrun
  cases hrun
  exact h a rfl

theorem Yields.bind {x : Drawing α} {f : α → Drawing β} (hx : Yields P x)
    (hf : ∀ a, P a → Yields Q (f a)) : Yields Q (x >>= f) := by
  intro d b d' hrun
  cases hr : x.run d with
  | mk r d₁ =>
    cases r with
    | error e =>
      rw [run_bind_error hr] at hrun
      cases hrun
    | ok a =>
      rw [run_bind_ok hr] at hrun
      exact hf a (hx d a d₁ hr) d₁ b d' hrun

theorem Yields.mono {x : Drawing α} {P' : α → Prop} (h : ∀ a, P a → P' a) (hx : Yields P x) :
    Yields P' x := fun d a d' hrun => h a (hx d a d' hrun)

theorem Yields.of_run (x : Drawing α) : Yields (fun a => ∃ d d', x.run d = (.ok a, d')) x :=
  fun d _ d' hrun => ⟨d, d', hrun⟩

theorem bind_congr_of_yields {x : Drawing α} {f g : α → Drawing β} (hx : Yields P x)
    (h : ∀ a, P a → f a = g a) : x >>= f = x >>= g := by
  refine ExceptT.ext (funext fun d => ?_)
  cases hr : x.run d with
  | mk r d' =>
    cases r with
    | error e => exact (run_bind_error hr).trans (run_bind_error hr).symm
    | ok a =>
      have hrun : (x >>= f).run d = (x >>= g).run d := by
        rw [run_bind_ok hr, run_bind_ok hr, h a (hx d a d' hr)]
      exact hrun

def Completes (x : Drawing α) (d : Draws) : Prop := ∃ a d', x.run d = (.ok a, d')

theorem completes_bind_iff {x : Drawing α} {f : α → Drawing β} {a : α} {d d' : Draws}
    (h : x.run d = (.ok a, d')) : (x >>= f).Completes d ↔ (f a).Completes d' := by
  rw [Completes, run_bind_ok h, Completes]

def DrawsNothing (x : Drawing α) : Prop := ∃ r, x = failing r

namespace DrawsNothing

theorem failing (r : Except Failure α) : DrawsNothing (failing r) := ⟨r, rfl⟩

theorem pure (a : α) : DrawsNothing (Pure.pure a : Drawing α) := ⟨.ok a, rfl⟩

theorem bind {x : Drawing α} {f : α → Drawing β} (hx : DrawsNothing x)
    (hf : ∀ a, DrawsNothing (f a)) : DrawsNothing (x >>= f) := by
  obtain ⟨r, rfl⟩ := hx
  cases r with
  | ok a => exact hf a
  | error e => exact ⟨.error e, rfl⟩

theorem recover {x : Drawing α} (hx : DrawsNothing x) (other : α) :
    DrawsNothing (x.recover other) := by
  obtain ⟨r, rfl⟩ := hx
  cases r with
  | ok a => exact pure a
  | error e => exact pure other

theorem eq_pure {x : Drawing α} (hx : DrawsNothing x) {d : Draws} (h : x.Completes d) :
    ∃ a, x = Pure.pure a := by
  obtain ⟨r, rfl⟩ := hx
  obtain ⟨a, d', hrun⟩ := h
  rw [run_failing] at hrun
  cases hrun
  exact ⟨a, rfl⟩

end DrawsNothing

theorem mapM_eq_pure {f : α → Drawing β} {g : α → β} {xs : List α}
    (h : ∀ x ∈ xs, f x = pure (g x)) : xs.mapM f = pure (xs.map g) := by
  induction xs with
  | nil => rfl
  | cons x xs ih =>
    rw [List.mapM_cons, h x (List.mem_cons_self ..),
      ih fun y hy => h y (List.mem_cons_of_mem x hy)]
    rfl

def Returns (x : Drawing α) : Prop := ∀ d, ∃ a d', x.run d = (.ok a, d')

theorem Returns.pure (a : α) : Returns (Pure.pure a : Drawing α) := fun d => ⟨a, d, run_pure a d⟩

theorem Returns.failing {r : Except Failure α} (h : ∃ a, r = .ok a) : Returns (failing r) := by
  obtain ⟨a, rfl⟩ := h
  exact fun d => ⟨a, d, run_failing _ d⟩

theorem Returns.bind {x : Drawing α} {f : α → Drawing β} (hx : Returns x)
    (hf : ∀ a, Returns (f a)) : Returns (x >>= f) := by
  intro d
  obtain ⟨a, d₁, hrun⟩ := hx d
  obtain ⟨b, d₂, hrun₂⟩ := hf a d₁
  exact ⟨b, d₂, by rw [run_bind_ok hrun, hrun₂]⟩

theorem Returns.recover (x : Drawing α) (other : α) : Returns (x.recover other) := by
  intro d
  cases h : x.run d with
  | mk r d' =>
    cases r with
    | ok a => exact ⟨a, d', run_recover_ok other h⟩
    | error e => exact ⟨other, d', run_recover_error other h⟩

theorem Returns.foldlM {f : β → α → Drawing β} {xs : List α}
    (h : ∀ x ∈ xs, ∀ b, Returns (f b x)) (b : β) : Returns (xs.foldlM f b) := by
  induction xs generalizing b with
  | nil => exact Returns.pure b
  | cons x xs ih =>
    rw [List.foldlM_cons]
    exact (h x (List.mem_cons_self ..) b).bind
      (ih fun y hy => h y (List.mem_cons_of_mem x hy))

def FailsOnly (P : Failure → Prop) (x : Drawing α) : Prop :=
  ∀ d e d', x.run d = (.error e, d') → P e

section
variable {P : Failure → Prop}

theorem FailsOnly.of_returns {x : Drawing α} (h : Returns x) : FailsOnly P x := by
  intro d e d' hrun
  obtain ⟨a, d₁, hok⟩ := h d
  rw [hok] at hrun
  cases hrun

theorem FailsOnly.pure (a : α) : FailsOnly P (Pure.pure a : Drawing α) := .of_returns (.pure a)

theorem FailsOnly.failing {r : Except Failure α} (h : Failure.FailsOnly P r) :
    FailsOnly P (failing r) := by
  intro d e d' hrun
  rw [run_failing] at hrun
  cases hrun
  exact h e rfl

theorem FailsOnly.bind {x : Drawing α} {f : α → Drawing β} (hx : FailsOnly P x)
    (hf : ∀ a, FailsOnly P (f a)) : FailsOnly P (x >>= f) := by
  intro d e d' hrun
  cases hr : x.run d with
  | mk r d₁ =>
    cases r with
    | error e' =>
      rw [run_bind_error hr] at hrun
      cases hrun
      exact hx d e d' hr
    | ok a =>
      rw [run_bind_ok hr] at hrun
      exact hf a d₁ e d' hrun

end

/-- The result is a failure exactly if `r` is one, and then it is the same. -/
def FailsAs (r : Except Failure α) (x : Drawing β) : Prop :=
  match r with
  | .ok _ => x.Returns
  | .error e => ∀ d, x.run d = (.error e, d)

namespace FailsAs

variable {r : Except Failure α} {x : Drawing β}

theorem failing (r : Except Failure α) : FailsAs r (failing r) := by
  cases r with
  | ok a => exact Returns.failing ⟨a, rfl⟩
  | error e => exact fun d => run_failing _ d

theorem bind {γ : Type} {f : β → Drawing γ} (hx : FailsAs r x) (hf : ∀ b, (f b).Returns) :
    FailsAs r (x >>= f) := by
  cases r with
  | ok a => exact Returns.bind hx hf
  | error e => exact fun d => run_bind_error (hx d)

theorem returns {a : α} (hx : FailsAs r x) (h : r = .ok a) : x.Returns := by
  rw [h] at hx
  exact hx

theorem completes_iff (hx : FailsAs r x) (d : Draws) : x.Completes d ↔ ∃ a, r = .ok a := by
  cases r with
  | ok a => exact ⟨fun _ => ⟨a, rfl⟩, fun _ => hx d⟩
  | error e =>
    constructor
    · rintro ⟨b, d', hrun⟩
      rw [hx d] at hrun
      cases hrun
    · rintro ⟨a, ha⟩
      cases ha

theorem failsOnly {P : Failure → Prop} (hx : FailsAs r x) (hr : Failure.FailsOnly P r) :
    FailsOnly P x := by
  cases r with
  | ok a => exact FailsOnly.of_returns hx
  | error e =>
    intro d e' d' hrun
    rw [hx d] at hrun
    cases hrun
    exact hr e rfl

end FailsAs

/-- Every failure satisfies `P` and every other result `Q`, and there is no failure if `C` holds. -/
structure Ends (P : Failure → Prop) (Q : α → Prop) (C : Prop) (x : Drawing α) : Prop where
  fails : FailsOnly P x
  yields : Yields Q x
  returns : C → Returns x

namespace Ends

variable {P : Failure → Prop} {C : Prop}

theorem of_returns {Q : α → Prop} {x : Drawing α} (h : Returns x) (hq : Yields Q x) :
    Ends P Q C x := ⟨.of_returns h, hq, fun _ => h⟩

theorem pure {Q : α → Prop} {a : α} (h : Q a) : Ends P Q C (Pure.pure a : Drawing α) :=
  .of_returns (.pure a) (.pure h)

theorem failing {Q : α → Prop} {r : Except Failure α} (hfails : Failure.FailsOnly P r)
    (hq : ∀ a, r = .ok a → Q a) (hc : C → ∃ a, r = .ok a) : Ends P Q C (failing r) :=
  ⟨.failing hfails, .failing hq, fun h => .failing (hc h)⟩

theorem failing_of_ok {Q : α → Prop} {r : Except Failure α} {a : α} (h : r = .ok a) (hq : Q a) :
    Ends P Q C (Drawing.failing r) := by
  rw [h]
  exact .pure hq

theorem and_yields {Q R : α → Prop} {x : Drawing α} (hx : Ends P Q C x) (h : C → Yields R x) :
    Ends P (fun a => Q a ∧ (C → R a)) C x where
  fails := hx.fails
  yields d a d' hrun := ⟨hx.yields d a d' hrun, fun hC => h hC d a d' hrun⟩
  returns := hx.returns

theorem bind {Q : α → Prop} {R : β → Prop} {x : Drawing α} {f : α → Drawing β}
    (hx : Ends P Q C x) (hf : ∀ a, Q a → Ends P R C (f a)) : Ends P R C (x >>= f) where
  fails := by
    intro d e d' hrun
    cases hr : x.run d with
    | mk r d₁ =>
      cases r with
      | error e' =>
        rw [run_bind_error hr] at hrun
        cases hrun
        exact hx.fails d e d' hr
      | ok a =>
        rw [run_bind_ok hr] at hrun
        exact (hf a (hx.yields d a d₁ hr)).fails d₁ e d' hrun
  yields := hx.yields.bind fun a ha => (hf a ha).yields
  returns hc := by
    intro d
    obtain ⟨a, d₁, hrun⟩ := hx.returns hc d
    obtain ⟨b, d₂, hrun₂⟩ := (hf a (hx.yields d a d₁ hrun)).returns hc d₁
    exact ⟨b, d₂, by rw [run_bind_ok hrun, hrun₂]⟩

theorem foldlM {Q : β → Prop} {f : β → α → Drawing β} {xs : List α}
    (h : ∀ x ∈ xs, ∀ b, Q b → Ends P Q C (f b x)) {b : β} (hb : Q b) :
    Ends P Q C (xs.foldlM f b) := by
  induction xs generalizing b with
  | nil => exact .pure hb
  | cons x xs ih =>
    rw [List.foldlM_cons]
    exact (h x (List.mem_cons_self ..) b hb).bind fun c hc =>
      ih (fun y hy => h y (List.mem_cons_of_mem x hy)) hc

end Ends

end LitNote.Drawing
