import LitNote.Proofs.Template.Insertion
import LitNote.Proofs.Value.Plain

/-!
What can fail while a template is rendered.  Main statements: a formatter fails only on a value
without a plain text, and rendering meets no failure that it is not prepared for.
-/

namespace LitNote.Template

open Failure (FailsOnly IsCaught)

namespace Formatter

theorem failsAs_apply (name : Text) (v : Value) (args : List Text) :
    (apply name v args).FailsAs v.plain := by
  rw [apply]
  apply Drawing.FailsAs.bind (.failing v.plain)
  intro s
  split
  · exact .recover _ _
  · exact .recover _ _
  · exact .pure s

theorem failsAs_applyChain (v : Value) (specs : List Text) :
    (applyChain v specs).FailsAs v.plain := by
  induction specs generalizing v with
  | nil => exact .failing v.plain
  | cons spec specs ih =>
    rw [applyChain, applySpec]
    split
    · exact ih v
    · simp only [bind_assoc, pure_bind]
      apply Drawing.FailsAs.bind (failsAs_apply _ v _)
      -- What a formatter leaves is a text, which is its own plain text.
      intro t
      exact (ih (.text t)).returns rfl

end Formatter

theorem failsOnly_ofTokens (limit : Nat) (names : List Text) (ts : List Token) :
    FailsOnly IsCaught (Body.ofTokens limit names ts) := by
  match ts with
  | [] =>
    rw [Body.ofTokens_nil]
    exact .ok _
  | .text raw :: ts =>
    rw [Body.ofTokens_text]
    exact (failsOnly_ofTokens limit names ts).map
  | .var raw key fs :: ts =>
    rw [Body.ofTokens_var]
    exact (failsOnly_ofTokens limit names ts).map
  | .closing raw name :: ts =>
    rw [Body.ofTokens_closing]
    split
    · exact .ok _
    · split
      · exact .ok _
      · exact failsOnly_ofTokens limit names ts
  | .opening raw name inverted :: ts =>
    rw [Body.ofTokens_opening]
    split
    · exact .error trivial
    · apply FailsOnly.bind (failsOnly_ofTokens limit (name :: names) ts)
      intro inner hinner
      -- What is left behind the block is shorter than what is left at its opening tag.
      have hlength := Body.rest_length_le hinner
      split
      · exact (failsOnly_ofTokens limit names inner.rest).map
      · exact (failsOnly_ofTokens limit names ts).map
termination_by ts.length
decreasing_by all_goals simp only [List.length_cons]; omega

theorem failsOnly_parse (template : Text) (limit : Nat) :
    FailsOnly IsCaught (parse template limit) := (failsOnly_ofTokens limit [] _).map

theorem failsOnly_toRecord (v : Value) : FailsOnly IsCaught v.toRecord := by
  have helements (v : Value) : FailsOnly IsCaught v.elements := by
    rw [Value.elements]
    split <;> first | exact .ok _ | exact .error trivial
  have hpair (v : Value) : FailsOnly IsCaught v.pair := by
    apply FailsOnly.bind (helements v)
    intro xs _
    split
    · split
      · exact .ok _
      · exact .error trivial
    · exact .error trivial
  rw [Value.toRecord.eq_def]
  split
  · exact .ok _
  · apply FailsOnly.bind (helements v)
    intro xs _
    apply FailsOnly.bind (.mapM hpair xs)
    intro es _
    exact .ok _

theorem failsOnly_ofRun (negative : Bool) (ds : List Nat) :
    FailsOnly IsCaught (Integer.ofRun negative ds) := by
  rw [Integer.ofRun]
  split
  · exact .error trivial
  · exact .ok _

theorem failsOnly_walk (v : Value) (parts : List Text) :
    FailsOnly IsCaught (Path.walk v parts) := by
  have hstep (v : Value) (part : Text) : FailsOnly IsCaught (Path.step v part) := by
    rw [Path.step.eq_def]
    split
    · exact .ok _
    · split
      · exact .ok _
      · split
        · exact .ok _
        · split
          · exact (failsOnly_ofRun false _).bind fun i _ => .ok _
          · exact .ok _
  induction parts generalizing v with
  | nil =>
    rw [Path.walk]
    exact .ok v
  | cons part parts ih =>
    rw [Path.walk.eq_def]
    dsimp only
    split
    · exact .ok _
    · exact .ok _
    · exact (hstep v part).bind fun w _ => ih w

theorem failsOnly_resolve (scope : Scope) (path : Text) :
    FailsOnly IsCaught (Path.resolve scope path) := by
  have hscope (parts : List Text) : FailsOnly IsCaught (Path.walkScope scope parts) := by
    cases parts with
    | nil => exact .ok _
    | cons part parts => exact failsOnly_walk _ parts
  rw [Path.resolve.eq_def]
  split
  · exact .ok _
  · split
    · exact failsOnly_walk _ _
    · exact hscope _

theorem failsOnly_text {length : Except Failure Int} (h : FailsOnly IsCaught length) :
    (do Drawing.text (← Drawing.failing length) : Drawing Text).FailsOnly IsCaught := by
  apply Drawing.FailsOnly.bind (.failing h)
  intro n d e d' hrun
  cases hrun

theorem failsOnly_lengthOf (digits : Text) : FailsOnly IsCaught (lengthOf digits) :=
  failsOnly_ofRun false _

theorem failsOnly_randomLength? {key : Text} {fs : List Text} {length : Except Failure Int}
    (h : randomLength? key fs = some length) : FailsOnly IsCaught length := by
  rw [randomLength?.eq_def] at h
  split at h
  · split at h
    · cases h
      exact .ok _
    · split at h
      · cases h
        exact failsOnly_lengthOf _
      · cases h
    · cases h
  · cases h

theorem failsOnly_numberedLength? {key : Text} {length : Except Failure Int}
    (h : numberedLength? key = some length) : FailsOnly IsCaught length := by
  rw [numberedLength?] at h
  split at h
  · cases h
    exact failsOnly_lengthOf _
  · cases h

theorem failsOnly_renderValue (key : Text) (fs : List Text) (v : Value) :
    (renderValue key fs v).FailsOnly IsCaught := by
  rw [renderValue.eq_def]
  split
  · split
    · next h => exact failsOnly_text (failsOnly_numberedLength? h)
    · exact .pure []
  · exact .pure []
  · exact .pure []
  · exact .failing v.failsOnly_shown
  · exact (Formatter.failsAs_applyChain v fs).failsOnly (v.failsOnly_plain (Nat.le_refl _))

theorem failsOnly_renderVariable (key : Text) (fs : List Text) (scope : Scope) :
    (renderVariable key fs scope).FailsOnly IsCaught := by
  rw [renderVariable]
  split
  · next h => exact failsOnly_text (failsOnly_randomLength? h)
  · exact Drawing.FailsOnly.bind (.failing (failsOnly_resolve scope key))
      (failsOnly_renderValue key fs)

theorem failsOnly_renderItems {f : Value → Nat → Drawing Text}
    (hf : ∀ item i, (f item i).FailsOnly IsCaught) (items : List Value) (i : Nat) :
    (renderItems f items i).FailsOnly IsCaught := by
  induction items generalizing i with
  | nil => exact .pure []
  | cons item items ih =>
    apply Drawing.FailsOnly.bind (hf item i)
    intro s
    apply Drawing.FailsOnly.bind (ih (i + 1))
    intro t
    exact .pure _

mutual

theorem failsOnly_renderNode (scope : Scope) (node : Node) :
    (renderNode scope node).FailsOnly IsCaught := by
  match node with
  | .text s =>
    rw [renderNode]
    exact .pure s
  | .var key fs =>
    rw [renderNode]
    exact failsOnly_renderVariable key fs scope
  | .block name inverted children =>
    rw [renderNode]
    apply Drawing.FailsOnly.bind (.failing (failsOnly_resolve scope name))
    intro v
    split
    · split
      · exact failsOnly_renderNodes scope children
      · exact .pure []
    · split
      · exact failsOnly_renderItems
          (fun item i => failsOnly_renderNodes (loopRecord item i _ :: scope) children) _ 0
      · split
        · exact failsOnly_renderNodes scope children
        · exact .pure []

theorem failsOnly_renderNodes (scope : Scope) (nodes : List Node) :
    (renderNodes scope nodes).FailsOnly IsCaught := by
  match nodes with
  | [] =>
    rw [renderNodes]
    exact .pure []
  | node :: nodes =>
    rw [renderNodes]
    apply Drawing.FailsOnly.bind (failsOnly_renderNode scope node)
    intro s
    apply Drawing.FailsOnly.bind (failsOnly_renderNodes scope nodes)
    intro t
    exact .pure _

end

/-- Rendering meets no failure that it is not prepared for. -/
theorem failsOnly_renderWith (template : Text) (vars : Value) :
    (renderWith template vars).FailsOnly IsCaught := by
  rw [renderWith]
  apply Drawing.FailsOnly.bind (.failing (failsOnly_parse template maxDepth))
  intro nodes
  split
  · apply Drawing.FailsOnly.bind (.failing (failsOnly_toRecord vars))
    intro record
    exact failsOnly_renderNodes [record] nodes
  · exact failsOnly_renderNodes [[]] nodes

end LitNote.Template
