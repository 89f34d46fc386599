import LitNote.Proofs.ArrayLiteral.Depth
import LitNote.Proofs.Citation.KeyText
import LitNote.Proofs.Template.Guard
import LitNote.Proofs.Value.Plain

/-!
Where the operations on templates, values and array literals return a text.  Main statement: they
always do, apart from array literals and values that nest too deep and numbers too long to be
written.
-/

namespace LitNote.Template

open ArrayLiteral (IsDeep nested normalize)
open Failure (IsCaught)
open Value (HasLong Outgrows)

theorem not_isDeep_sanitize (s : Text) : ¬IsDeep (KeyText.sanitize s) := by
  intro h
  have hmany := h.lt_countP
  have hnone : (KeyText.sanitize s).countP Json.isOpening = 0 := by
    rw [List.countP_eq_zero]
    intro c hc hopen
    have hinner := (KeyText.legal_sanitize s).isInner c hc
    simp only [Json.isOpening, Bool.or_eq_true, beq_iff_eq] at hopen
    rcases hopen with rfl | rfl
    · revert hinner
      decide
    · revert hinner
      decide
  omega

theorem exists_finish_iff (how : Finish) (template s : Text) :
    (∃ t, finish how template s = .ok t) ↔
      ¬(how = ⟨false, true⟩ ∧ ArrayLiteral.isTemplate template = true ∧ IsDeep s) := by
  rw [finish]
  split
  · next h =>
    rw [Bool.and_eq_true] at h
    rw [ArrayLiteral.exists_normalize_iff]
    obtain ⟨key, array⟩ := how
    -- A key is never too deep, so that both sides hold if one is asked for.
    cases key with
    | false => simp_all
    | true => simp [not_isDeep_sanitize]
  · next h =>
    refine ⟨?_, fun _ => ⟨_, rfl⟩⟩
    rintro - ⟨rfl, htemplate, -⟩
    exact h htemplate

theorem completes_renderAs_iff {how : Finish} {template s : Text} {vars : Value} {d d' : Draws}
    (hs : (render template vars).run d = (.ok s, d')) :
    (renderAs how template vars).Completes d ↔
      ¬(how = ⟨false, true⟩ ∧ ArrayLiteral.isTemplate template = true ∧ IsDeep s) := by
  rw [← exists_finish_iff, renderAs, Drawing.completes_bind_iff hs]
  exact (Drawing.FailsAs.failing (finish how template s)).completes_iff d'

/-- Rendering, formatters and the repair of array literals return a text, with two exceptions.  An
array literal that nests too deep is refused, also as the text of a template in brackets that is to
become one.  Formatters refuse values in which some number is too long or that nest too deep. -/
theorem returns_unless_deep_or_long (how : Finish) (template : Text) (vars : Value) (s : Text)
    (v : Value) (name : Text) (args specs : List Text) (d : Draws) :
    (renderWith template vars).FailsOnly IsCaught ∧
    (∃ t d', (render template vars).run d = (.ok t, d') ∧
      ((renderAs how template vars).Completes d ↔
        ¬(how = ⟨false, true⟩ ∧ ArrayLiteral.isTemplate template = true ∧ IsDeep t))) ∧
    ((∃ t, normalize s = .ok t) ↔ ¬IsDeep s) ∧
    (IsDeep s → Json.maxDepth < s.countP Json.isOpening) ∧
    ((Formatter.apply name v args).Completes d ↔ ¬HasLong v ∧ ¬Outgrows Stack.room v) ∧
    ((Formatter.applyChain v specs).Completes d ↔ ¬HasLong v ∧ ¬Outgrows Stack.room v) := by
  have hrender : ∃ t d', (render template vars).run d = (.ok t, d') ∧
      ((renderAs how template vars).Completes d ↔
        ¬(how = ⟨false, true⟩ ∧ ArrayLiteral.isTemplate template = true ∧ IsDeep t)) := by
    obtain ⟨t, d', ht⟩ := render_run_ok template vars d
    exact ⟨t, d', ht, completes_renderAs_iff ht⟩
  have hvalue := Value.exists_plain_iff (v := v) (Nat.le_refl Stack.room)
  have happly := (Formatter.failsAs_apply name v args).completes_iff d
  have hchain := (Formatter.failsAs_applyChain v specs).completes_iff d
  exact ⟨failsOnly_renderWith template vars, hrender, ArrayLiteral.exists_normalize_iff,
    fun h => h.lt_countP, happly.trans hvalue, hchain.trans hvalue⟩

def longNumber : Value := .list [.int (Nat.pow 10 Integer.maxDigits)]

theorem hasLong_longNumber : HasLong longNumber := by
  have hlong : Integer.tooLong (Nat.pow 10 Integer.maxDigits) = true :=
    decide_eq_true (Int.natAbs_natCast _).ge
  exact .list (List.mem_singleton.mpr rfl) (.int hlong)

theorem outgrows_nested {n room : Nat} (h : room < 3 * (n + 1)) :
    Outgrows room (Value.nested n) := by
  induction n generalizing room with
  | zero => exact .list _ (by omega)
  | succ n ih => exact .listItem (List.mem_singleton.mpr rfl) (ih (by omega))

theorem returns_unless_deep_or_long_values :
    ∀ v ∈ [longNumber, Value.nested 400],
      ¬(Formatter.apply "count".toList v []).Completes ⟨0⟩ ∧
      ¬(Formatter.applyChain v []).Completes ⟨0⟩ := by
  have hrefused : ∀ v ∈ [longNumber, Value.nested 400],
      ¬(¬HasLong v ∧ ¬Outgrows Stack.room v) := by
    simp only [List.forall_mem_cons]
    exact ⟨fun h => h.1 hasLong_longNumber,
      fun h => h.2 (outgrows_nested (Stack.room_lt (by decide))), List.forall_mem_nil _⟩
  intro v hv
  obtain ⟨-, -, -, -, happly, hchain⟩ := returns_unless_deep_or_long ⟨false, true⟩ [] .null [] v
    "count".toList [] [] ⟨0⟩
  exact ⟨fun h => hrefused v hv (happly.mp h), fun h => hrefused v hv (hchain.mp h)⟩

theorem normalize_nested : normalize (nested 5000) = .error .tooDeep :=
  ArrayLiteral.normalize_eq_error_iff.mpr
    ⟨rfl, ArrayLiteral.isDeep_nested (Stack.room_lt (by decide))⟩

end LitNote.Template
