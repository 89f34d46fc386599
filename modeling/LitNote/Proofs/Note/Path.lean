import LitNote.Note.Basic
import LitNote.Proofs.Template.Rendering
import LitNote.Proofs.Text.Padding
import LitNote.Proofs.Text.Parts

/-!
Paths of notes.  Main statement: there always is one, and it is safe unless the template renders to
slashes and blanks only; then it is the key as it is, with the ending.
-/

namespace LitNote.Note

variable {key name rendered s : Text}

/-- A relative path of a file with the ending of notes, in which every segment has a name and no
character has to be escaped. -/
structure IsSafePath (path : Text) : Prop where
  ending : fileEnding <:+ path
  escaped : ∀ c ∈ ['\\', ':', '"', '*', '?', '<', '>', '|'], c ∉ path
  relative : path.head? ≠ some '/'
  segments : ∀ s ∈ Text.splitAtChar '/' path, ¬Text.Blank s

def IsEmptyPath (s : Text) : Prop := '/' ∈ s ∧ ∀ c ∈ s, c = '/' ∨ Text.isBlank c = true

theorem isUnsafe_iff {c : Char} :
    isUnsafe c = true ↔ c ∈ ['\\', ':', '"', '*', '?', '<', '>', '|'] := List.contains_iff_mem

theorem isBlank_of_isUnsafe {c : Char} (h : isUnsafe c = true) : Text.isBlank c = false := by
  have hall : ['\\', ':', '"', '*', '?', '<', '>', '|'].all (Text.isBlank · == false) = true := by
    decide
  exact beq_iff_eq.mp (List.all_eq_true.mp hall c (isUnsafe_iff.mp h))

theorem isUnsafe_of_mem_fileEnding {c : Char} (h : c ∈ fileEnding) : isUnsafe c = false := by
  have hall : fileEnding.all (isUnsafe · == false) = true := by decide
  exact beq_iff_eq.mp (List.all_eq_true.mp hall c h)

theorem has_iff {c : Char} : s.has c = true ↔ c ∈ s := by
  simp [Text.has]

theorem not_blank_of_mem {c : Char} (hc : c ∈ s) (hblank : Text.isBlank c = false) :
    ¬Text.Blank s := by
  intro h
  rw [h c hc] at hblank
  cases hblank

theorem not_blank_append_fileEnding (s : Text) : ¬Text.Blank (s ++ fileEnding) :=
  not_blank_of_mem (c := '.') (List.mem_append_right s (by decide)) (by decide)

theorem isSafePath_append (hsafe : ∀ c ∈ name, isUnsafe c = false)
    (hsegments : ∀ s ∈ Text.splitAtChar '/' (name ++ fileEnding), ¬Text.Blank s) :
    IsSafePath (name ++ fileEnding) where
  ending := List.suffix_append name fileEnding
  escaped := by
    intro c hc hmem
    have hpath : isUnsafe c = false :=
      (List.mem_append.mp hmem).elim (hsafe c) isUnsafe_of_mem_fileEnding
    rw [isUnsafe_iff.mpr hc] at hpath
    cases hpath
  relative := by
    intro hhead
    obtain ⟨t, ht⟩ := List.head?_eq_some_iff.mp hhead
    have hfirst : Text.splitAtChar '/' ('/' :: t) = [] :: Text.splitAtChar '/' t := rfl
    rw [ht, hfirst] at hsegments
    exact hsegments [] (List.mem_cons_self ..) Text.blank_nil
  segments := hsegments

section
variable {p : Char → Bool}

theorem mem_underscored {c : Char} (h : c ∈ underscored p s) : c = '_' ∨ (c ∈ s ∧ p c = false) := by
  rcases Text.mem_join_iff.mp h with hpiece | ⟨hsep, -⟩
  · rw [Text.flatten_splitRuns, List.mem_filter, Bool.not_eq_true'] at hpiece
    exact .inr hpiece
  · exact .inl (List.mem_singleton.mp hsep)

theorem isUnsafe_of_mem_underscored {c : Char} (h : c ∈ underscored isUnsafe s) :
    isUnsafe c = false := by
  rcases mem_underscored h with rfl | ⟨-, hc⟩
  · rfl
  · exact hc

theorem underscore_mem_underscored (h : ∃ c ∈ s, p c = true) : '_' ∈ underscored p s :=
  Text.mem_join_iff.mpr (.inr ⟨List.mem_singleton.mpr rfl, Text.one_lt_length_splitRuns h⟩)

theorem underscored_of_none (h : ∀ c ∈ s, p c = false) : underscored p s = s := by
  rw [underscored, Text.splitRuns_of_none h, Text.join, List.intercalate_singleton]

end

theorem slash_not_mem_fallbackName (key : Text) : '/' ∉ fallbackName key := by
  intro h
  rcases List.mem_cons.mp h with heq | h
  · cases heq
  rcases mem_underscored h with heq | ⟨-, hchar⟩
  · cases heq
  · cases hchar

theorem segments_of_not_mem (h : '/' ∉ name) :
    ∀ s ∈ Text.splitAtChar '/' (name ++ fileEnding), ¬Text.Blank s := by
  have hpath : '/' ∉ name ++ fileEnding := by
    rw [List.mem_append, not_or]
    exact ⟨h, by decide⟩
  rw [Text.splitAtChar_of_not_mem hpath]
  exact List.forall_mem_singleton.mpr (not_blank_append_fileEnding name)

theorem segments_of_join {segments : List Text} (hne : segments ≠ [])
    (h : ∀ s ∈ segments, '/' ∉ s ∧ ¬Text.Blank s) :
    ∀ s ∈ Text.splitAtChar '/' (Text.join ['/'] segments ++ fileEnding), ¬Text.Blank s := by
  induction segments with
  | nil => exact absurd rfl hne
  | cons s segments ih =>
    obtain ⟨hslash, hblank⟩ := h s (List.mem_cons_self ..)
    by_cases hlast : segments = []
    · rw [hlast, Text.join, List.intercalate_singleton]
      exact segments_of_not_mem hslash
    · have ih := ih hlast fun t ht => h t (List.mem_cons_of_mem s ht)
      rw [Text.join_cons ['/'] s hlast, List.append_assoc, List.append_assoc,
        List.singleton_append, Text.splitAtChar_append_cons hslash]
      exact List.forall_mem_cons.mpr ⟨hblank, ih⟩

theorem mem_segments {s : Text} (hs : s ∈ Text.splitAtChar '/' name) {c : Char} (hc : c ∈ s) :
    c ∈ name ∧ c ≠ '/' := by
  have hmem : c ∈ (Text.splitAtChar '/' name).flatten := List.mem_flatten.mpr ⟨s, hs, hc⟩
  rw [Text.splitAtChar, Text.flatten_splitBy, List.mem_filter] at hmem
  exact ⟨hmem.1, by simpa using hmem.2⟩

theorem joinSegments_cases (key name : Text) :
    (joinSegments key name = key ++ fileEnding ∧ ∀ c ∈ name, c = '/' ∨ Text.isBlank c = true) ∨
    ∃ segments, joinSegments key name = Text.join ['/'] segments ++ fileEnding ∧ segments ≠ [] ∧
      ∀ s ∈ segments, s ∈ Text.splitAtChar '/' name ∧ ¬Text.Blank s := by
  rw [joinSegments]
  split
  · next heq =>
    refine .inl ⟨rfl, fun c hc => ?_⟩
    by_cases hslash : c = '/'
    · exact .inl hslash
    · have hmem : c ∈ (Text.splitAtChar '/' name).flatten := by
        rw [Text.splitAtChar, Text.flatten_splitBy, List.mem_filter]
        exact ⟨hc, by simpa using hslash⟩
      obtain ⟨s, hs, hcs⟩ := List.mem_flatten.mp hmem
      have hblank : s.all Text.isBlank = true := by
        simpa using List.filter_eq_nil_iff.mp heq s hs
      exact .inr (List.all_eq_true.mp hblank c hcs)
  · next hne =>
    refine .inr ⟨_, rfl, hne, fun s hs => ?_⟩
    obtain ⟨hmem, hnamed⟩ := List.mem_filter.mp hs
    refine ⟨hmem, fun hblank => ?_⟩
    rw [List.all_eq_true.mpr hblank] at hnamed
    cases hnamed

theorem pathOf_of_isEmptyPath (key : Text) (h : IsEmptyPath rendered) :
    pathOf key rendered = key ++ fileEnding := by
  obtain ⟨hslash, hall⟩ := h
  have hblank : rendered.all Text.isBlank = false := by
    rw [← Bool.not_eq_true, List.all_eq_true]
    intro hblank
    exact absurd (hblank '/' hslash) (by decide)
  have hsafe : ∀ c ∈ rendered, isUnsafe c = false := by
    intro c hc
    rw [← Bool.not_eq_true]
    intro hunsafe
    rcases hall c hc with rfl | hblank
    · cases hunsafe
    · rw [isBlank_of_isUnsafe hunsafe] at hblank
      cases hblank
  have hname : rendered.has '/' = true := has_iff.mpr hslash
  simp only [pathOf, hblank, Bool.false_eq_true, if_false, underscored_of_none hsafe, hname,
    if_true]
  rcases joinSegments_cases key rendered with ⟨heq, -⟩ | ⟨segments, -, hne, hsegments⟩
  · exact heq
  · obtain ⟨s, hs⟩ := List.exists_mem_of_ne_nil segments hne
    obtain ⟨hmem, hnamed⟩ := hsegments s hs
    refine absurd (fun c hc => ?_) hnamed
    obtain ⟨hc, hne⟩ := mem_segments hmem hc
    exact (hall c hc).resolve_left hne

/-- An underscore is a name, so that where all segments are blank nothing has been replaced. -/
theorem isEmptyPath_of_underscored (hslash : '/' ∈ underscored isUnsafe s)
    (hall : ∀ c ∈ underscored isUnsafe s, c = '/' ∨ Text.isBlank c = true) : IsEmptyPath s := by
  have hsafe : ∀ c ∈ s, isUnsafe c = false := by
    intro c hc
    rw [← Bool.not_eq_true]
    intro hunsafe
    have hunderscore := hall '_' (underscore_mem_underscored ⟨c, hc, hunsafe⟩)
    revert hunderscore
    decide
  rw [underscored_of_none hsafe] at hslash hall
  exact ⟨hslash, hall⟩

theorem isSafePath_joinSegments (hslash : '/' ∈ underscored isUnsafe s) (h : ¬IsEmptyPath s) :
    IsSafePath (joinSegments key (underscored isUnsafe s)) := by
  rcases joinSegments_cases key (underscored isUnsafe s) with
    ⟨-, hall⟩ | ⟨segments, heq, hne, hsegments⟩
  · exact absurd (isEmptyPath_of_underscored hslash hall) h
  · rw [heq]
    apply isSafePath_append
    · intro c hc
      rcases Text.mem_join_iff.mp hc with hc | ⟨hc, -⟩
      · obtain ⟨t, ht, hct⟩ := List.mem_flatten.mp hc
        exact isUnsafe_of_mem_underscored (mem_segments (hsegments t ht).1 hct).1
      · rw [List.mem_singleton.mp hc]
        rfl
    · refine segments_of_join hne fun t ht => ⟨fun hmem => ?_, (hsegments t ht).2⟩
      exact (mem_segments (hsegments t ht).1 hmem).2 rfl

theorem isSafePath_of_start (key : Text) (h : ¬IsEmptyPath s) :
    IsSafePath (if (underscored isUnsafe s).has '/' then joinSegments key (underscored isUnsafe s)
      else underscored isUnsafe s ++ fileEnding) := by
  split
  · next hslash => exact isSafePath_joinSegments (has_iff.mp hslash) h
  · next hslash =>
    have hnone := mt has_iff.mpr hslash
    exact isSafePath_append (fun _ hc => isUnsafe_of_mem_underscored hc) (segments_of_not_mem hnone)

theorem isSafePath_pathOf (key : Text) (h : ¬IsEmptyPath rendered) :
    IsSafePath (pathOf key rendered) := by
  have hfallback : ¬IsEmptyPath (fallbackName key) := fun hempty =>
    slash_not_mem_fallbackName key hempty.1
  have hname : ¬IsEmptyPath (if rendered.all Text.isBlank then fallbackName key else rendered) := by
    split
    · exact hfallback
    · exact h
  rw [pathOf]
  exact isSafePath_of_start key hname

theorem renderPath_run {citation : Option Value} {template : Text} {today : Date} {vars : Record}
    {d d' : Draws} (hvars : pathVariables key citation today = .ok vars)
    (hrender : (Template.render template (.record vars)).run d = (.ok rendered, d')) :
    (renderPath key citation template today).run d = (.ok (pathOf key rendered), d') := by
  rw [renderPath, hvars, Drawing.failing_ok_bind, Drawing.run_bind_ok hrender]
  rfl

/-- There is a path for every key, citation and template.  It is safe unless there is nothing but
slashes and blanks in what the template renders to; then it is the key, whatever is in this. -/
theorem renderPath_safe (key : Text) (citation : Option Record) (template : Text) (today : Date)
    (d : Draws) : ∃ vars rendered path d',
    pathVariables key (citation.map .record) today = .ok vars ∧
    (Template.render template (.record vars)).run d = (.ok rendered, d') ∧
    (renderPath key (citation.map .record) template today).run d = (.ok path, d') ∧
    (¬IsEmptyPath rendered → IsSafePath path) ∧
    (IsEmptyPath rendered → path = key ++ fileEnding) := by
  obtain ⟨vars, hvars⟩ : ∃ vars, pathVariables key (citation.map .record) today = .ok vars := by
    cases citation with
    | none => exact ⟨_, rfl⟩
    | some fields => exact ⟨_, rfl⟩
  obtain ⟨rendered, d', hrendered⟩ := Template.render_run_ok template (.record vars) d
  exact ⟨vars, rendered, pathOf key rendered, d', hvars, hrendered, renderPath_run hvars hrendered,
    isSafePath_pathOf key, pathOf_of_isEmptyPath key⟩

theorem renderPath_slash :
    (renderPath "a:b".toList none ['/'] ⟨2025, 1, 2, by decide⟩).run ⟨0⟩ =
        (.ok "a:b.md".toList, ⟨0⟩) ∧
      ¬IsSafePath "a:b.md".toList := by
  constructor
  · have hrender := Template.render_plain (s := ['/']) (by decide) (by decide)
    exact renderPath_run rfl (Drawing.run_of_eq_pure (hrender _) ⟨0⟩)
  · intro h
    exact h.escaped ':' (by decide) (by decide)

end LitNote.Note
