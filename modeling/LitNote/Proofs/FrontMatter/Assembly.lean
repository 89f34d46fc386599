import LitNote.FrontMatter.Basic
import LitNote.Proofs.FrontMatter.Rendered
import LitNote.Proofs.FrontMatter.Tags
import LitNote.Proofs.Settings.Reader
import LitNote.Proofs.Value.Notation
import LitNote.Proofs.Value.Record

/-!
Assembled front matter.  Main statement: a custom field under a name of its own has an entry with
what its template gives exactly if its place is visited, that is the start, the end or a standard
field that is switched on.
-/

namespace LitNote.FrontMatter

open Drawing (Yields Returns)

theorem toRecord_cons (key : Value) (piece : Piece) (fm : FrontMatter) :
    toRecord ((key, piece) :: fm) = (key, piece.value) :: fm.toRecord := by
  rw [toRecord, Piece.valueEntries, toRecord]

theorem toRecord_put (fm : FrontMatter) (key : Value) (piece : Piece) :
    (fm.put key piece).toRecord = fm.toRecord.put key piece.value := by
  induction fm with
  | nil => rw [put, toRecord_cons]; rfl
  | cons e fm ih =>
    obtain ⟨k, p⟩ := e
    rw [put, toRecord_cons, Record.put]
    split
    · rw [toRecord_cons]
    · rw [toRecord_cons, ih]

theorem has_eq (fm : FrontMatter) (name : Value) :
    fm.has name = (fm.toRecord.lookup name).isSome := by
  induction fm with
  | nil => rfl
  | cons e fm ih =>
    obtain ⟨k, p⟩ := e
    have hcons : has ((k, p) :: fm) name = (k.sameKey name || has fm name) := rfl
    rw [hcons, toRecord_cons, Record.lookup_cons, ih]
    cases k.sameKey name <;> rfl

section
variable {vars anchor name : Value} {f : CustomField} {fm : FrontMatter}

def Gives (vars : Value) (f : CustomField) (r : Option Value) : Prop :=
  ∃ d d', (customValue f.name f.template vars).run d = (.ok r, d')

theorem Gives.of_yields {P : Option Value → Prop} {r : Option Value} (h : Gives vars f r)
    (hvalue : Yields P (customValue f.name f.template vars)) : P r := by
  obtain ⟨d, d', hrun⟩ := h
  exact hvalue d r d' hrun

theorem addCustom_append (vars anchor : Value) (fm : FrontMatter) (cs fs : List CustomField) :
    addCustom vars anchor fm (cs ++ fs) =
      addCustom vars anchor fm cs >>= fun fm => addCustom vars anchor fm fs := by
  induction cs generalizing fm with
  | nil => rw [List.nil_append, addCustom, pure_bind]
  | cons c cs ih =>
    rw [List.cons_append, addCustom, addCustom]
    split
    · rw [bind_assoc]
      congr 1
      funext r
      cases r with
      | none => exact ih fm
      | some v => exact ih _
    · exact ih fm

theorem addCustom_other {cs : List CustomField} (hname : name.IsName)
    (h : ∀ c ∈ cs, c.name ≠ name) :
    Yields (fun fm' => fm'.toRecord.lookup name = fm.toRecord.lookup name)
      (addCustom vars anchor fm cs) := by
  induction cs generalizing fm with
  | nil =>
    rw [addCustom]
    exact .pure rfl
  | cons c cs ih =>
    have hc : c.name.sameKey name = false := by
      rw [Bool.eq_false_iff, ne_eq, hname.sameKey_iff]
      exact h c (List.mem_cons_self ..)
    have hcs : ∀ c' ∈ cs, c'.name ≠ name := fun c' hc' => h c' (List.mem_cons_of_mem c hc')
    rw [addCustom]
    split
    · refine (Yields.trivial _).bind fun r _ => ?_
      cases r with
      | none => exact ih hcs
      | some v =>
        refine (ih hcs).mono fun fm' hfm' => ?_
        rw [hfm', toRecord_put, Record.lookup_put_of_not_sameKey hname hc]
    · exact ih hcs

theorem addCustom_of_not_here (here : f.anchor.sameKey anchor = false) :
    addCustom vars anchor fm [f] = pure fm := by
  rw [addCustom, here, Bool.and_false, Bool.false_and, if_neg Bool.false_ne_true, addCustom]

theorem addCustom_of_here (hname : f.name.IsName) (enabled : f.enabled.isSet = true)
    (here : f.anchor.sameKey anchor = true) :
    Yields (fun fm' => fm'.toRecord.lookup f.name = fm.toRecord.lookup f.name ∧
        (fm.toRecord.lookup f.name).isSome = true ∨ Gives vars f (fm'.toRecord.lookup f.name))
      (addCustom vars anchor fm [f]) := by
  rw [addCustom, enabled, here, has_eq, Bool.true_and, Bool.true_and]
  cases hhas : (fm.toRecord.lookup f.name).isSome with
  | true =>
    rw [Bool.not_true, if_neg Bool.false_ne_true, addCustom]
    exact .pure (.inl ⟨rfl, rfl⟩)
  | false =>
    have hnone : fm.toRecord.lookup f.name = none := by simpa using hhas
    rw [Bool.not_false, if_pos rfl]
    refine (Yields.of_run _).bind fun r hr => ?_
    cases r with
    | none =>
      dsimp only
      rw [addCustom]
      refine .pure (.inr ?_)
      rw [hnone]
      exact hr
    | some v =>
      dsimp only
      rw [addCustom]
      refine .pure (.inr ?_)
      rw [toRecord_put, Record.lookup_put_self hname]
      exact hr

/-- The entry of a field after some places: what its template gives if its own place was among them,
else nothing. -/
def Follows (vars : Value) (f : CustomField) (visited : Bool) (fm : FrontMatter) : Prop :=
  if visited then Gives vars f (fm.toRecord.lookup f.name) else fm.toRecord.lookup f.name = none

theorem Follows.congr {visited : Bool} {fm' : FrontMatter} (h : Follows vars f visited fm)
    (heq : fm'.toRecord.lookup f.name = fm.toRecord.lookup f.name) :
    Follows vars f visited fm' := by
  rw [Follows, heq]
  exact h

theorem Follows.place {visited : Bool} (hname : f.name.IsName)
    (enabled : f.enabled.isSet = true) (h : Follows vars f visited fm) :
    Yields (Follows vars f (visited || f.anchor.sameKey anchor))
      (addCustom vars anchor fm [f]) := by
  cases here : f.anchor.sameKey anchor with
  | false =>
    rw [addCustom_of_not_here here, Bool.or_false]
    exact .pure h
  | true =>
    rw [Bool.or_true]
    refine (addCustom_of_here hname enabled here).mono fun fm' hfm' => ?_
    obtain ⟨hsame, hsome⟩ | hgives := hfm'
    · -- Only a visited place can have left an entry.
      cases visited with
      | true => exact h.congr hsame
      | false =>
        rw [show fm.toRecord.lookup f.name = none from h] at hsome
        cases hsome
    · exact hgives

structure IsOwn (settings : Settings) (f : CustomField) : Prop where
  named : f.name.IsName
  enabled : f.enabled.isSet = true
  custom : ∃ before after, settings.custom = before ++ f :: after ∧
    (∀ c ∈ before, c.name ≠ f.name) ∧ ∀ c ∈ after, c.name ≠ f.name
  standard : ∀ s ∈ settings.standard, ∀ key, s.key = .ok key → key.sameKey f.name = false
  tags : f.name ≠ tagsKey

variable {settings : Settings}

theorem IsOwn.mem (hf : IsOwn settings f) : f ∈ settings.custom := by
  obtain ⟨before, after, heq, -, -⟩ := hf.custom
  rw [heq]
  exact List.mem_append_right before (List.mem_cons_self ..)

theorem Follows.addCustom {visited : Bool} (hf : IsOwn settings f) (h : Follows vars f visited fm) :
    Yields (Follows vars f (visited || f.anchor.sameKey anchor))
      (addCustom vars anchor fm settings.custom) := by
  obtain ⟨before, after, heq, hbefore, hafter⟩ := hf.custom
  rw [heq, addCustom_append]
  refine (addCustom_other hf.named hbefore).bind fun fm₁ h₁ => ?_
  rw [← List.singleton_append, addCustom_append]
  refine ((h.congr h₁).place hf.named hf.enabled).bind fun fm₂ h₂ => ?_
  exact (addCustom_other hf.named hafter).mono fun fm₃ h₃ => h₂.congr h₃

theorem Follows.put {visited : Bool} (h : Follows vars f visited fm) (hname : f.name.IsName)
    {key : Value} (hkey : key.sameKey f.name = false) (piece : Piece) :
    Follows vars f visited (fm.put key piece) := by
  refine h.congr ?_
  rw [toRecord_put, Record.lookup_put_of_not_sameKey hname hkey]

theorem Follows.addStandard {visited : Bool} {source : Source} (hf : IsOwn settings f)
    (h : Follows source.vars f visited fm) {s : StandardField} (hs : s ∈ settings.standard) :
    Yields (Follows source.vars f (visited || (s.enabled.isSet && f.anchor.sameKey s.name)))
      (addStandard source settings.custom fm s) := by
  rw [FrontMatter.addStandard]
  cases s.enabled.isSet with
  | false =>
    rw [Bool.false_and, Bool.or_false]
    exact .pure h
  | true =>
    rw [Bool.true_and]
    refine (Yields.trivial _).bind fun piece? _ => ?_
    cases piece? with
    | none => exact h.addCustom hf
    | some piece =>
      refine (Yields.of_run _).bind fun key hkey => ?_
      obtain ⟨d, d', hkey⟩ := hkey
      rw [Drawing.run_failing, Prod.mk.injEq] at hkey
      exact (h.put hf.named (hf.standard s hs key hkey.1) piece).addCustom hf

def visits (settings : Settings) (anchor : Value) : Bool :=
  anchor.sameKey Settings.startAnchor ||
    settings.standard.any (fun s => s.enabled.isSet && anchor.sameKey s.name) ||
    anchor.sameKey Settings.endAnchor

theorem Follows.foldlM {source : Source} (hf : IsOwn settings f) {visited : Bool}
    (h : Follows source.vars f visited fm) {ss : List StandardField}
    (hss : ∀ s ∈ ss, s ∈ settings.standard) :
    Yields (Follows source.vars f
        (visited || ss.any fun s => s.enabled.isSet && f.anchor.sameKey s.name))
      (ss.foldlM (FrontMatter.addStandard source settings.custom) fm) := by
  -- By induction on the standard fields: each of them visits its place, if it is switched on.
  induction ss generalizing fm visited with
  | nil =>
    rw [List.any_nil, Bool.or_false]
    exact .pure h
  | cons s ss ih =>
    rw [List.foldlM_cons, List.any_cons, ← Bool.or_assoc]
    refine (h.addStandard hf (hss s (List.mem_cons_self ..))).bind fun fm' h' => ?_
    exact ih h' fun s' hs' => hss s' (List.mem_cons_of_mem s hs')

theorem follows_build (source : Source) (hf : IsOwn settings f) :
    Yields (Follows source.vars f (visits settings f.anchor)) (build source settings) := by
  have hstart : Follows source.vars f false [] := rfl
  have htags : tagsKey.sameKey f.name = false := by
    rw [Bool.eq_false_iff, ne_eq, hf.named.sameKey_iff]
    exact hf.tags.symm
  rw [build, visits]
  refine (hstart.addCustom hf).bind fun fm₁ h₁ => ?_
  refine (h₁.foldlM hf fun s hs => hs).bind fun fm₂ h₂ => ?_
  refine (h₂.addCustom hf).bind fun fm₃ h₃ => ?_
  refine (Yields.trivial _).bind fun tags _ => ?_
  exact .pure (h₃.put hf.named htags (.sequence tags))

theorem gives_build (source : Source) (hf : IsOwn settings f)
    (hvisits : visits settings f.anchor = true) :
    Yields (fun fm => Gives source.vars f (fm.toRecord.lookup f.name)) (build source settings) := by
  have hfollows := follows_build source hf
  rw [hvisits] at hfollows
  exact hfollows

theorem absent_build (source : Source) (hf : IsOwn settings f)
    (hvisits : visits settings f.anchor = false) :
    Yields (fun fm => fm.toRecord.lookup f.name = none) (build source settings) := by
  have hfollows := follows_build source hf
  rw [hvisits] at hfollows
  exact hfollows

theorem lookup_build_of_yields (source : Source) (hf : IsOwn settings f)
    (hvisits : visits settings f.anchor = true) {P : Option Value → Prop}
    (hvalue : Yields P (customValue f.name f.template source.vars)) :
    Yields (fun fm => P (fm.toRecord.lookup f.name)) (build source settings) :=
  (gives_build source hf hvisits).mono fun _ hgives => hgives.of_yields hvalue

theorem addCustom_returns {cs : List CustomField}
    (h : ∀ c ∈ cs, c.enabled.isSet = true → Returns (customValue c.name c.template vars)) :
    Returns (FrontMatter.addCustom vars anchor fm cs) := by
  induction cs generalizing fm with
  | nil =>
    rw [FrontMatter.addCustom]
    exact .pure fm
  | cons c cs ih =>
    have hcs : ∀ c' ∈ cs, c'.enabled.isSet = true →
        Returns (customValue c'.name c'.template vars) :=
      fun c' hc' => h c' (List.mem_cons_of_mem c hc')
    rw [FrontMatter.addCustom]
    split
    · next hhere =>
      rw [Bool.and_eq_true, Bool.and_eq_true] at hhere
      refine (h c (List.mem_cons_self ..) hhere.1.1).bind fun r => ?_
      cases r with
      | none => exact ih hcs
      | some v => exact ih hcs
    · exact ih hcs

def HasShallowNumbers (fields : Record) : Prop :=
  ∀ key ∈ "year" :: "month" :: "day" :: numericFields,
    (fields.get key.toList).depth ≤ Stack.room

instance (fields : Record) : Decidable (HasShallowNumbers fields) := by
  unfold HasShallowNumbers
  infer_instance

theorem read_ne_tooDeep (s : Text) : Integer.read s ≠ .error .tooDeep := by
  rw [Integer.read]
  dsimp only
  split
  · exact nofun
  · rw [Integer.ofRun]
    split <;> exact nofun

theorem exists_numberPiece (place : Place) {v : Value} (h : v.depth ≤ Stack.room) :
    ∃ p, numberPiece place v = .ok p := by
  rw [numberPiece.eq_def]
  split
  · exact ⟨_, rfl⟩
  · exact ⟨_, rfl⟩
  · split
    · exact ⟨_, rfl⟩
    · next hdeep =>
      obtain hs | ⟨s, -, hs⟩ := Failure.bind_eq_error_iff.mp hdeep
      · obtain ⟨⟨⟩, -⟩ | ⟨-, hlt⟩ := Value.failsOnly_asText v _ hs
        exact absurd h (Nat.not_le.mpr hlt)
      · exact absurd hs (read_ne_tooDeep s)
    · exact ⟨_, rfl⟩

section
variable {fields : Record}

theorem exists_dateParts (h : HasShallowNumbers fields) :
    ∃ parts, dateParts fields = .ok parts := by
  refine Failure.exists_mapM fun key hkey => exists_numberPiece _ (h key ?_)
  have hmem := (List.takeWhile_prefix _).subset hkey
  simp only [List.mem_cons, List.not_mem_nil, or_false] at hmem
  rcases hmem with rfl | rfl | rfl <;> simp

theorem exists_fieldPiece? (h : HasShallowNumbers fields) (name : Value) :
    ∃ piece?, fieldPiece? name fields = .ok piece? := by
  rw [fieldPiece?.eq_def]
  split
  · exact ⟨_, rfl⟩
  · exact ⟨_, rfl⟩
  · exact ⟨_, rfl⟩
  · next v _ _ hlookup =>
    split
    · next hnumeric =>
      obtain ⟨key, hkey, heq⟩ := List.any_eq_true.mp hnumeric
      rw [beq_iff_eq] at heq
      have hget : fields.get? key.toList = some v := by
        rw [← Record.lookup_text, ← hlookup, heq]
        rfl
      have hdepth := h key (List.mem_cons_of_mem _ (List.mem_cons_of_mem _
        (List.mem_cons_of_mem _ hkey)))
      rw [Record.get, hget] at hdepth
      exact Failure.exists_map_iff.mpr (exists_numberPiece _ hdepth)
    · exact ⟨_, rfl⟩

theorem exists_standardPiece? (h : HasShallowNumbers fields) (name : Value)
    (contributors : List Contributor.Listed) :
    ∃ piece?, standardPiece? name (.record fields) contributors = .ok piece? := by
  rw [standardPiece?]
  split
  · obtain ⟨parts, hparts⟩ := exists_dateParts h
    show ∃ piece?, issuedPiece? fields = .ok piece?
    rw [issuedPiece?, hparts]
    cases parts <;> exact ⟨_, rfl⟩
  · split
    · exact ⟨_, rfl⟩
    · exact exists_fieldPiece? h name

end

theorem addStandard_returns {source : Source} {fields : Record}
    (hfields : source.citation = .record fields) (hshallow : HasShallowNumbers fields)
    {cs : List CustomField}
    (h : ∀ c ∈ cs, c.enabled.isSet = true → Returns (customValue c.name c.template source.vars))
    {s : StandardField} (hkey : s.enabled.isSet = true → ∃ key, s.key = .ok key) :
    Returns (FrontMatter.addStandard source cs fm s) := by
  rw [FrontMatter.addStandard, hfields]
  cases henabled : s.enabled.isSet with
  | false => exact .pure fm
  | true =>
    refine (Returns.failing (exists_standardPiece? hshallow _ _)).bind fun piece? => ?_
    cases piece? with
    | none => exact addCustom_returns h
    | some piece =>
      exact (Returns.failing (hkey henabled)).bind fun key => addCustom_returns h

/-- What a citation and settings have to be for the assembly not to fail: the tags are texts, values
that may be numbers do not nest too deep, fields that are switched on have keys, and templates that
are switched on give values. -/
structure Assembles (source : Source) (settings : Settings) : Prop where
  citation : ∃ (fields : Record) (texts : List Text), source.citation = .record fields ∧
    HasShallowNumbers fields ∧
    (fields.get "tags".toList).orElse (.list []) = .list (texts.map .text)
  standard : ∀ s ∈ settings.standard, s.enabled.isSet = true → ∃ key, s.key = .ok key
  custom : ∀ c ∈ settings.custom, c.enabled.isSet = true →
    Returns (customValue c.name c.template source.vars)

theorem build_returns {source : Source} (h : Assembles source settings) :
    Returns (build source settings) := by
  obtain ⟨fields, texts, hfields, hshallow, htags⟩ := h.citation
  rw [build]
  refine (addCustom_returns h.custom).bind fun fm₁ => ?_
  refine (Returns.foldlM (fun s hs fm => ?_) fm₁).bind fun fm₂ => ?_
  · exact addStandard_returns hfields hshallow h.custom (h.standard s hs)
  refine (addCustom_returns h.custom).bind fun fm₃ => ?_
  obtain ⟨pieces, hpieces, -⟩ := exists_tagPieces ⟨fields, hfields, htags⟩ settings.tag
  exact (Returns.failing ⟨pieces, hpieces⟩).bind fun tags => .pure _

theorem exists_disabled {raw : Value} (hraw : Settings.ofValue raw = .ok settings)
    (hmem : f ∈ settings.custom) (hvisits : visits settings f.after = false) :
    ∃ s ∈ settings.standard, s.enabled.isSet = false ∧ f.after.sameKey s.name = true := by
  simp only [visits, Bool.or_eq_false_iff] at hvisits
  obtain ⟨⟨hstart, hstandard⟩, hend⟩ := hvisits
  obtain heq | heq | ⟨name, hname, hsame⟩ := Settings.isAnchor_of_ofValue hraw hmem
  · rw [heq, Settings.startAnchor, Value.sameKey_text, beq_self_eq_true] at hstart
    cases hstart
  · rw [heq, Settings.endAnchor, Value.sameKey_text, beq_self_eq_true] at hend
    cases hend
  · obtain ⟨s, hs, rfl⟩ := List.mem_map.mp hname
    rw [Value.sameKey_comm] at hsame
    have henabled := List.any_eq_false.mp hstandard s hs
    rw [hsame, Bool.and_true, Bool.not_eq_true] at henabled
    exact ⟨s, hs, henabled, hsame⟩

/-- For settings that have been read, front matter holds what the template of a field gives if the
place of the field is visited.  Else the field has no entry, and its place is after a standard field
that is switched off. -/
theorem build_custom {raw : Value} (hraw : Settings.ofValue raw = .ok settings)
    (hf : IsOwn settings f) (source : Source) :
    (Assembles source settings → Returns (build source settings)) ∧
    Yields (fun fm =>
      (visits settings f.after = true → Gives source.vars f (fm.toRecord.lookup f.name)) ∧
      (visits settings f.after = false → fm.toRecord.lookup f.name = none ∧
        ∃ s ∈ settings.standard, s.enabled.isSet = false ∧ f.after.sameKey s.name = true))
      (build source settings) := by
  have hanchor := Settings.anchor_of_ofValue hraw hf.mem
  refine ⟨build_returns, ?_⟩
  cases hv : visits settings f.after with
  | true =>
    have hvisits : visits settings f.anchor = true := by rw [hanchor, hv]
    refine (gives_build source hf hvisits).mono fun fm hgives => ⟨fun _ => hgives, fun h => ?_⟩
    cases h
  | false =>
    have hmissed : visits settings f.anchor = false := by rw [hanchor, hv]
    refine (absent_build source hf hmissed).mono fun fm hnone => ⟨fun h => ?_, fun _ => ⟨hnone, ?_⟩⟩
    · cases h
    · exact exists_disabled hraw hf.mem hv

end

def shelfSettings : Value :=
  let entry (fields : List (String × Value)) : Value := .record (Record.ofFields fields)
  let s (text : String) : Value := .text text.toList
  entry [("standard_frontmatter_fields", .list [entry [("name", s "title")],
      entry [("name", s "publisher"), ("enabled", .bool false)]]),
    ("custom_frontmatter_fields", .list [
      entry [("name", s "status"), ("template", s "to-read"), ("insert_after", s "title")],
      entry [("name", s "shelf"), ("template", s "B2"), ("insert_after", s "publisher")]])]

def statusField : CustomField :=
  ⟨.text "status".toList, "to-read".toList, .bool true, .text "title".toList⟩

def shelfField : CustomField :=
  ⟨.text "shelf".toList, "B2".toList, .bool true, .text "publisher".toList⟩

def shelfRead : Settings where
  fileName := Settings.defaultFileName
  header := Settings.defaultHeader
  chapterHeader := Settings.defaultChapterHeader
  tag := []
  key := Settings.defaultKey
  standard := [⟨.text "title".toList, .text [], .bool true, .text []⟩,
    ⟨.text "publisher".toList, .text [], .bool false, .text []⟩]
  custom := [statusField, shelfField]

theorem ofValue_shelfSettings : Settings.ofValue shelfSettings = .ok shelfRead := rfl

theorem isOwn_statusField : IsOwn shelfRead statusField where
  named := .text _
  enabled := rfl
  custom := ⟨[], [shelfField], rfl, by decide, by decide⟩
  standard := by
    intro s hs key hkey
    simp only [shelfRead, List.mem_cons, List.not_mem_nil, or_false] at hs
    obtain rfl | rfl := hs <;> cases hkey <;> decide
  tags := by decide

theorem isOwn_shelfField : IsOwn shelfRead shelfField where
  named := .text _
  enabled := rfl
  custom := ⟨[statusField], [], rfl, by decide, by decide⟩
  standard := by
    intro s hs key hkey
    simp only [shelfRead, List.mem_cons, List.not_mem_nil, or_false] at hs
    obtain rfl | rfl := hs <;> cases hkey <;> decide
  tags := by decide

def emptySource : Source := ⟨.record [], [], .record []⟩

theorem customValue_statusField : customValue statusField.name statusField.template (.record []) =
    pure (some (.text "to-read".toList)) :=
  customValue_plain (by decide) (by decide) (by decide) _ _

theorem customValue_shelfField : customValue shelfField.name shelfField.template (.record []) =
    pure (some (.text "B2".toList)) :=
  customValue_plain (by decide) (by decide) (by decide) _ _

theorem assembles_shelfRead : Assembles emptySource shelfRead where
  citation := ⟨[], [], rfl, by decide, rfl⟩
  standard := by
    intro s hs _
    simp only [shelfRead, List.mem_cons, List.not_mem_nil, or_false] at hs
    obtain rfl | rfl := hs <;> exact ⟨_, rfl⟩
  custom := by
    intro c hc _
    simp only [shelfRead, List.mem_cons, List.not_mem_nil, or_false] at hc
    obtain rfl | rfl := hc
    · rw [emptySource, customValue_statusField]
      exact .pure _
    · rw [emptySource, customValue_shelfField]
      exact .pure _

theorem build_custom_status :
    ∃ fm d, (build emptySource shelfRead).run ⟨0⟩ = (.ok fm, d) ∧
      fm.toRecord.lookup statusField.name = some (.text "to-read".toList) := by
  obtain ⟨hreturns, hyields⟩ := build_custom ofValue_shelfSettings isOwn_statusField emptySource
  obtain ⟨fm, d, hrun⟩ := hreturns assembles_shelfRead ⟨0⟩
  have hgives := (hyields _ _ _ hrun).1 rfl
  have hvalue : Yields (· = some (.text "to-read".toList))
      (customValue statusField.name statusField.template emptySource.vars) := by
    rw [emptySource, customValue_statusField]
    exact .pure rfl
  exact ⟨fm, d, hrun, hgives.of_yields hvalue⟩

theorem build_drops_shelf :
    Settings.ofValue shelfSettings = .ok shelfRead ∧ IsOwn shelfRead shelfField ∧
      customValue shelfField.name shelfField.template emptySource.vars =
        pure (some (.text "B2".toList)) ∧
      ∃ fm d, (build emptySource shelfRead).run ⟨0⟩ = (.ok fm, d) ∧
        fm.toRecord.lookup shelfField.name = none := by
  refine ⟨ofValue_shelfSettings, isOwn_shelfField, customValue_shelfField, ?_⟩
  obtain ⟨fm, d, hrun⟩ := build_returns assembles_shelfRead ⟨0⟩
  exact ⟨fm, d, hrun, absent_build emptySource isOwn_shelfField rfl _ _ _ hrun⟩

end LitNote.FrontMatter
