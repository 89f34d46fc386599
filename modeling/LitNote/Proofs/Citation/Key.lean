import LitNote.Citation.Key
import LitNote.Proofs.Citation.KeyText
import LitNote.Proofs.Drawing
import LitNote.Proofs.Failure

/-!
Keys of citations are legal.  Main statement: making a key gives a legal one for every citation and
all options, also where an attempt fails.
-/

namespace LitNote.Key

open Drawing (Yields)
open KeyText (Legal)

theorem legal_digits : Yields Legal Drawing.digits := by
  have hdigit : ∀ k < 10, KeyText.isStart (Char.ofNat (48 + k)) = true := by decide
  have hstart (n : Nat) : KeyText.isStart (Char.ofNat (48 + n % 10)) = true :=
    hdigit (n % 10) (Nat.mod_lt n (by decide))
  intro d key d' hrun
  cases hrun
  refine .ends (m := [_]) (hstart _) (fun x hx => ?_) (hstart _)
  rw [List.mem_singleton.mp hx]
  exact KeyText.isInner_of_isStart (hstart _)

theorem legal_lengthened {key : Text} (h : Legal key) (minLength : Value) :
    Yields Legal (lengthened key minLength) := by
  refine (Yields.trivial _).bind fun least _ => ?_
  split
  · exact legal_digits.bind fun digits hdigits => Yields.pure (h.append hdigits)
  · exact Yields.pure h

theorem legal_renderAs (template : Text) (vars : Value) :
    Yields Legal (Template.renderAs ⟨true, false⟩ template vars) := by
  refine (Yields.trivial _).bind fun s _ => Yields.failing fun key hkey => ?_
  cases hkey
  exact KeyText.legal_sanitize s

theorem legal_ofTemplate (template : Text) (minLength citation : Value) :
    Yields Legal (ofTemplate template minLength citation) :=
  (Yields.trivial _).bind fun _ _ =>
    (legal_renderAs _ _).bind fun _ hkey => legal_lengthened hkey minLength

theorem legal_ofAuthorYear (now : Date) (citation : Value) {key : Text}
    (h : ofAuthorYear now citation = .ok key) : Legal key := by
  obtain ⟨author, -, h⟩ := Failure.bind_eq_ok_iff.mp h
  obtain ⟨year, -, h⟩ := Failure.bind_eq_ok_iff.mp h
  cases h
  exact KeyText.legal_sanitize _

theorem legal_attempt (now : Date) (citation : Value) (options : Except Failure Options) :
    Yields Legal (attempt now citation options) := by
  refine (Yields.trivial _).bind fun o _ => (Yields.trivial _).bind fun template _ => ?_
  split
  · exact Yields.failing fun key hkey => legal_ofAuthorYear now citation hkey
  · exact legal_ofTemplate template o.minLength citation

def Outcome.IsLegal : Outcome → Prop
  | .noData => True
  | .made key => Legal key
  | .failed digits => Legal digits

theorem Outcome.IsLegal.text {o : Outcome} (h : o.IsLegal) : Legal o.text := by
  cases o with
  | noData =>
    have hfixed : KeyText.sanitize "error_no_data".toList = "error_no_data".toList := by decide
    exact KeyText.legal_iff.mpr hfixed
  | made key =>
    cases key with
    | nil => exact absurd rfl h.ne_nil
    | cons c key => exact h
  | failed digits =>
    have hfixed : KeyText.sanitize "error_".toList = "error_".toList := by decide
    exact (KeyText.legal_iff.mpr hfixed).append h

theorem isLegal_outcome (now : Date) (citation : Value) (options : Except Failure Options)
    (d : Draws) : (outcome now citation options d).1.IsLegal := by
  rw [outcome]
  split
  · exact True.intro
  · cases hr : (attempt now citation options).run d with
    | mk r d' =>
      cases r with
      | ok key => exact legal_attempt now citation options d key d' hr
      | error e =>
        cases hdigits : Drawing.digits.run d' with
        | mk r d'' =>
          cases r with
          | ok digits =>
            dsimp only
            rw [hdigits]
            exact legal_digits d' digits d'' hdigits
          | error e => cases hdigits

theorem outcome_ne_noData (now : Date) (options : Except Failure Options) (d : Draws)
    {citation : Value} (h : citation.isRecord = true) :
    (outcome now citation options d).1 ≠ .noData := by
  have hdata : ¬(citation == .null) = true := by
    cases citation with
    | record entries => nofun
    | _ => cases h
  rw [outcome, if_neg hdata]
  split
  · nofun
  · split <;> nofun

/-- A key is always made.  It is legal and stays as it is under sanitizing, and no attempt makes an
empty one. -/
theorem generate_legal (now : Date) (citation : Value) (options : Except Failure Options)
    (d : Draws) :
    ∃ key d', (generate now citation options).run d = (.ok key, d') ∧ Legal key ∧ key ≠ [] ∧
      KeyText.sanitize key = key ∧ (outcome now citation options d).1 ≠ .made [] := by
  have ho := isLegal_outcome now citation options d
  have hlegal : Legal (outcome now citation options d).1.text := ho.text
  refine ⟨_, _, rfl, hlegal, hlegal.ne_nil, KeyText.sanitize_of_legal hlegal, fun hempty => ?_⟩
  rw [hempty] at ho
  exact ho.ne_nil rfl

end LitNote.Key
