import LitNote.FrontMatter.Rendered
import LitNote.Proofs.ArrayLiteral
import LitNote.Proofs.Drawing
import LitNote.Proofs.Template.Rendering

/-!
Custom fields: what the text of a rendered template is stored as, told by its ends and by the JSON
in it, and which templates are rendered at all.
-/

namespace LitNote.FrontMatter

section
variable {s t : Text} {isArray : Bool} {v : Value}

theorem not_blank_of_looksStructured (h : looksStructured s = true) :
    s.all Text.isBlank = false := by
  cases s with
  | nil => cases h
  | cons c s =>
    have hc : Text.isBlank c = false := by
      simp only [looksStructured, List.head?_cons, Bool.or_eq_true, Bool.and_eq_true, beq_iff_eq,
        Option.some.injEq] at h
      obtain ⟨rfl, -⟩ | ⟨rfl, -⟩ := h <;> decide
    rw [List.all_cons, hc, Bool.false_and]

theorem trim_of_looksStructured (h : looksStructured s = true) : Text.trim s = s := by
  simp only [looksStructured, Bool.or_eq_true, Bool.and_eq_true, beq_iff_eq] at h
  rcases h with ⟨hfirst, hlast⟩ | ⟨hfirst, hlast⟩
  · exact Text.trim_of_ends hfirst (by decide) hlast (by decide)
  · exact Text.trim_of_ends hfirst (by decide) hlast (by decide)

theorem looksStructured_of_isTemplate (h : ArrayLiteral.isTemplate s = true) :
    looksStructured s = true := by
  rw [looksStructured, ← ArrayLiteral.isTemplate, h, Bool.true_or]

theorem looksStructured_of_braces (hfirst : s.head? = some '{') (hlast : s.getLast? = some '}') :
    looksStructured s = true := by
  rw [looksStructured, hfirst, hlast]
  rfl

theorem looksStructured_braces (content : Text) :
    looksStructured ('{' :: (content ++ ['}'])) = true := by
  have hlast : ('{' :: (content ++ ['}'])).getLast? = some '}' := by
    rw [← List.cons_append, List.getLast?_append]
    rfl
  rw [looksStructured, hlast]
  rfl

theorem looksStructured_bracketed (content : Text) :
    looksStructured (ArrayLiteral.bracketed content) = true := by
  rw [looksStructured, ← ArrayLiteral.isTemplate, ArrayLiteral.isTemplate_bracketed, Bool.true_or]

def candidate (isArray : Bool) (s : Text) : Except Failure Text :=
  if isArray then ArrayLiteral.normalize s else .ok s

theorem candidate_of_braces (isArray : Bool) (hfirst : s.head? = some '{')
    (hlast : s.getLast? = some '}') : candidate isArray s = .ok s := by
  cases isArray with
  | false => rfl
  | true =>
    have htrim := trim_of_looksStructured (looksStructured_of_braces hfirst hlast)
    exact ArrayLiteral.normalize_of_head (c := '{') (by rw [htrim, hfirst]) rfl (by decide)

theorem structuredValue_of_candidate (ht : candidate isArray s = .ok t) :
    structuredValue isArray s = match Json.read t with
      | .ok v => .ok v
      | .error f => if f.cause = .tooDeep then .error .tooDeep else .ok (.text s) := by
  have hstart : (if isArray then ArrayLiteral.normalize s else pure s) = .ok t := ht
  rw [structuredValue]
  cases isArray with
  | true =>
    rw [if_pos rfl] at hstart ⊢
    rw [hstart]
    cases hread : Json.read t with
    | ok v => simp only [bind, Except.bind, hread]; rfl
    | error f =>
      -- An empty literal is JSON, so that the text itself is what is left.
      have hne : t.filter (· != ' ') ≠ ArrayLiteral.empty := fun h => by
        rw [Json.read_of_filter h] at hread
        cases hread
      simp only [bind, Except.bind, hread, hne, Bool.true_and, decide_false, Bool.false_eq_true,
        if_false]
      split <;> rfl
  | false =>
    rw [if_neg Bool.false_ne_true] at hstart ⊢
    cases hstart
    cases hread : Json.read s with
    | ok v => simp only [pure_bind, hread]; rfl
    | error f =>
      simp only [pure_bind, hread]
      split <;> rfl

theorem storedValue_of_candidate (hs : looksStructured s = true)
    (ht : candidate isArray s = .ok t) :
    storedValue isArray s = match Json.read t with
      | .ok v => .ok (some v)
      | .error f => if f.cause = .tooDeep then .error .tooDeep else .ok (some (.text s)) := by
  rw [storedValue, not_blank_of_looksStructured hs, if_neg Bool.false_ne_true, hs, if_pos rfl,
    structuredValue_of_candidate ht]
  cases Json.read t with
  | ok v => rfl
  | error f =>
    dsimp only
    split <;> rfl

theorem storedValue_of_read (hs : looksStructured s = true) (ht : candidate isArray s = .ok t)
    (hread : Json.read t = .ok v) : storedValue isArray s = .ok (some v) := by
  rw [storedValue_of_candidate hs ht, hread]

theorem storedValue_of_candidate_error {e : Failure} (hs : looksStructured s = true)
    (ht : candidate isArray s = .error e) : storedValue isArray s = .error e := by
  cases isArray with
  | false => cases ht
  | true =>
    have ht : ArrayLiteral.normalize s = .error e := ht
    rw [storedValue, not_blank_of_looksStructured hs, if_neg Bool.false_ne_true, hs, if_pos rfl,
      structuredValue, if_pos rfl, ht]
    rfl

theorem exists_candidate (hs : looksStructured s = true)
    (hstored : storedValue isArray s = .ok (some v)) : ∃ t, candidate isArray s = .ok t := by
  cases ht : candidate isArray s with
  | ok t => exact ⟨t, rfl⟩
  | error e =>
    rw [storedValue_of_candidate_error hs ht] at hstored
    cases hstored

theorem storedValue_of_plain (isArray : Bool) (hne : s.all Text.isBlank = false)
    (hs : looksStructured s = false) : storedValue isArray s = .ok (some (.text s)) := by
  rw [storedValue, hne, if_neg Bool.false_ne_true, hs]
  rfl

end

section
variable {name : Value} {template s : Text} {vars : Value}

theorem finish_eq (template s : Text) :
    Template.finish ⟨false, ArrayLiteral.isTemplate template⟩ template s =
      candidate (ArrayLiteral.isTemplate template) s := Template.finish_array template s

theorem customValue_of_render (hown : takenOver? name template = none)
    (hrender : Template.render template vars = pure s) :
    customValue name template vars =
      Drawing.failing ((candidate (ArrayLiteral.isTemplate template) s).bind
        (storedValue (ArrayLiteral.isTemplate template))) := by
  rw [customValue, hown]
  simp only [Template.renderAs_of_render _ hrender, finish_eq]
  cases candidate (ArrayLiteral.isTemplate template) s <;> rfl

theorem customValue_of_candidate {t : Text} {r : Option Value}
    (hown : takenOver? name template = none) (hrender : Template.render template vars = pure s)
    (ht : candidate (ArrayLiteral.isTemplate template) s = .ok t)
    (hstored : storedValue (ArrayLiteral.isTemplate template) t = .ok r) :
    customValue name template vars = pure r := by
  rw [customValue_of_render hown hrender, ht]
  show Drawing.failing (storedValue (ArrayLiteral.isTemplate template) t) = _
  rw [hstored]
  rfl

theorem storedValue_of_run {r : Option Value} {d d₁ d₂ : Draws}
    (hown : takenOver? name template = none)
    (hrender : (Template.renderAs ⟨false, ArrayLiteral.isTemplate template⟩ template vars).run d =
      (.ok s, d₁))
    (hstored : (customValue name template vars).run d = (.ok r, d₂)) :
    storedValue (ArrayLiteral.isTemplate template) s = .ok r ∧ d₂ = d₁ := by
  rw [customValue, hown] at hstored
  dsimp only at hstored
  rw [Drawing.run_bind_ok hrender, Drawing.run_failing, Prod.mk.injEq] at hstored
  exact ⟨hstored.1, hstored.2.symm⟩

theorem takenOver?_of_isTemplate (name : Value) {template : Text}
    (h : ArrayLiteral.isTemplate template = true) : takenOver? name template = none := by
  have hne {s : String} (hs : ArrayLiteral.isTemplate (Settings.tagOf s) = false) :
      template ≠ Settings.tagOf s := by
    rintro rfl
    rw [hs] at h
    cases h
  rw [takenOver?]
  split
  · next htag =>
    rw [Bool.and_eq_true, decide_eq_true_eq] at htag
    exact absurd htag.2 (hne rfl)
  split
  · next htag =>
    rw [Bool.and_eq_true, decide_eq_true_eq] at htag
    exact absurd htag.2 (hne rfl)
  · rfl

theorem takenOver?_of_not_mem (name : Value) {s : Text} (hbrace : '{' ∉ s) :
    takenOver? name s = none := by
  have hne {t : String} : s ≠ Settings.tagOf t := by
    rintro rfl
    exact hbrace (List.mem_cons_self ..)
  rw [takenOver?]
  simp only [hne, decide_false, Bool.and_false, Bool.false_eq_true, if_false]

end

section
variable {s : Text} (hbrace : '{' ∉ s) (hbracket : ArrayLiteral.isTemplate s = false)
  (hblank : s.all Text.isBlank = false)
include hbrace hbracket hblank

theorem renderAs_plain (vars : Record) :
    Template.renderAs ⟨false, ArrayLiteral.isTemplate s⟩ s (.record vars) = pure s := by
  have hne : s ≠ [] := by
    rintro rfl
    cases hblank
  rw [Template.renderAs_of_render _ (Template.render_plain hne hbrace vars), finish_eq, hbracket]
  rfl

theorem customValue_plain (name : Value) (vars : Record) :
    customValue name s (.record vars) = pure (some (.text s)) := by
  have hs : looksStructured s = false := by
    have hhead : s.head? ≠ some '{' := fun h => hbrace (List.mem_of_head? h)
    rw [looksStructured, ← ArrayLiteral.isTemplate, hbracket, beq_false_of_ne hhead]
    rfl
  have hrender := renderAs_plain hbrace hbracket hblank vars
  rw [customValue, takenOver?_of_not_mem name hbrace]
  simp only [hrender, pure_bind, storedValue_of_plain _ hblank hs]
  rfl

end

end LitNote.FrontMatter
