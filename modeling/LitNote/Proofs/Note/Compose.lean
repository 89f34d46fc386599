import LitNote.Note.Basic
import LitNote.Proofs.FrontMatter.Written
import LitNote.Proofs.Note.Path
import LitNote.Proofs.Note.Variables
import LitNote.Proofs.Settings.Checks

/-!
Notes on citations that have nothing but a key.  Main statement: settings that have been read are
checked so far that only the nesting of custom fields and the other name of the key can make such a
note fail.
-/

namespace LitNote.Note

open Drawing (Ends Returns)
open FrontMatter (GivesValue HasLinks TakesKey build_ends customValue keyFields)

variable {P : Failure → Prop} {C : Prop} {context : Context} {vars : Record}

theorem hasLinks_templateVars {citation : Value} {contributors : List Contributor}
    (h : templateVars citation contributors context = .ok vars) : HasLinks vars := by
  obtain ⟨authors, record, lists, key, -, -, rfl⟩ := exists_of_templateVars h
  have hother : ∀ name ∈ ["pdflink", "attachments"],
      ∀ f ∈ (["links", "linkPaths", "links_string"] : List String), f.toList ≠ name.toList := by
    decide
  have hnodup : ((["pdflink", "raw_pdflinks", "attachments", "quoted_attachments", "raw_pdflink",
      "attachment", "quoted_attachment"] : List String).map String.toList).Nodup := by decide
  intro name hname
  rw [linkFields, Record.get?_update_other _ fun f hf =>
    hother name hname f.1 (List.mem_map_of_mem hf), attachmentFields]
  rcases List.mem_cons.mp hname with rfl | hname
  · exact ⟨context.attachments, Record.get?_update_of_mem _ hnodup (List.mem_cons_self ..)⟩
  · rw [List.mem_singleton.mp hname]
    exact ⟨context.attachments.map attachmentLink, Record.get?_update_of_mem _ hnodup (by simp)⟩

theorem keyed_ends (id : Text) (settings : Settings) (today : Date) :
    Ends P (fun r => ∃ key, r = keyFields key ∧ (id ≠ [] → key = id)) C
      (keyed (keyFields id) settings today) := by
  rw [keyed]
  split
  · exact .pure ⟨id, rfl, fun _ => rfl⟩
  · next hunset =>
    have hgenerated : Returns (Key.generate today (.record (keyFields id))
        (.ok settings.key.merged)) := fun d => ⟨_, _, rfl⟩
    refine (Ends.of_returns hgenerated (.trivial _)).bind fun key _ => .pure ⟨key, rfl, ?_⟩
    intro hne
    refine absurd ?_ hunset
    show (!id.isEmpty) = true
    rw [List.isEmpty_eq_false_iff.mpr hne]
    rfl

theorem toRecord_keyFields (key : Text) :
    (Value.record (keyFields key)).toRecord = .ok (keyFields key) := rfl

theorem asText_keyFields (key : Text) : (Record.field (keyFields key) "id").asText = .ok key := rfl

theorem listed_keyFields (key : Text) : Contributor.listed (.record (keyFields key)) = .ok [] := rfl

theorem exists_bareVars (key : Text) (context : Context) :
    ∃ vars, templateVars (.record (keyFields key)) [] context = .ok vars :=
  exists_templateVars (keyFields key) (List.forall_mem_nil _) context

theorem header_returns (fields : Record) (vars : Value) (settings : Settings) :
    Returns (header (.record fields) vars settings) := by
  have hrender (template : Text) : Returns (Template.render template vars) :=
    Template.render_run_ok template vars
  rw [header]
  exact (Returns.failing ⟨fields, rfl⟩).bind fun _ => hrender _

theorem renderPath_returns (key : Text) (fields : Record) (template : Text) (today : Date) :
    Returns (renderPath key (some (.record fields)) template today) := by
  have hrender (vars : Record) : Returns (Template.render template (.record vars)) :=
    Template.render_run_ok template (.record vars)
  rw [renderPath]
  exact (Returns.failing ⟨_, rfl⟩).bind fun vars => (hrender vars).bind fun s => .pure _

def GivesValues (settings : Settings) (vars : Record) : Prop :=
  ∀ f ∈ settings.custom, f.enabled.isSet = true → GivesValue f vars

theorem compose_ends (hP : P .tooDeep) (id : Text) {settings : Settings}
    (hnames : ∀ f ∈ settings.custom, f.name.IsName)
    (hkey : ∀ f ∈ settings.standard, TakesKey f →
      Failure.FailsOnly P f.key ∧ (C → ∃ k, f.key = .ok k))
    (hc : C → ∀ key vars, (id ≠ [] → key = id) →
      templateVars (.record (keyFields key)) [] context = .ok vars → GivesValues settings vars) :
    Ends P (fun _ => True) C (compose (.record (keyFields id)) settings none context) := by
  rw [compose, toRecord_keyFields, Drawing.failing_ok_bind]
  refine (keyed_ends id settings context.now.date).bind fun record hmade => ?_
  obtain ⟨key, rfl, hid⟩ := hmade
  obtain ⟨vars, hvars⟩ := exists_bareVars key context
  simp only [asText_keyFields, listed_keyFields, List.map_nil, hvars, Drawing.failing_ok_bind]
  have hbuild := build_ends hP (hasLinks_templateVars hvars) key hnames hkey
    fun hC => hc hC key vars hid hvars
  refine hbuild.bind fun frontMatter hfront => ?_
  refine (Ends.of_returns (header_returns _ _ settings) (.trivial _)).bind fun head _ => ?_
  have hwrite := hfront.failsOnly_write
  have hwritten : Ends P (fun _ => True) C (Drawing.failing frontMatter.write) :=
    .failing (hwrite.imp fun e he => he.1 ▸ hP) (fun _ _ => True.intro) fun hC =>
      hwrite.exists_ok fun e he => he.2 hC
  refine hwritten.bind fun written _ => ?_
  exact (Ends.of_returns (renderPath_returns key _ _ _) (.trivial _)).bind fun path _ =>
    .pure True.intro

theorem exists_key_iff {f : StandardField} : (∃ k, f.key = .ok k) ↔ f.otherName.IsName := by
  rw [StandardField.key.eq_def]
  constructor
  · rintro ⟨k, h⟩
    split at h
    · next s hs => exact hs ▸ .text s
    · next b hb => exact hb ▸ .bytes b
    · cases h
  · intro h
    generalize f.otherName = other at h ⊢
    cases h <;> exact ⟨_, rfl⟩

/-- Settings whose sections and fields are of the right shape are read, or refused with a message,
unless they nest too deep.  Settings that have been read, of whatever shape, keep the rules, and
what makes the note on a bare key fail is that a custom field nests too deep, or that the other name
of the key is neither a text nor bytes. -/
theorem ofValue_checked (raw : Record) :
    (Settings.IsShaped raw → Failure.FailsOnly (Settings.RefusedOr ¬Settings.IsShallow raw)
      (Settings.ofValue (.record raw))) ∧
    ∀ settings, Settings.ofValue (.record raw) = .ok settings →
      Settings.IsChecked settings ∧ ∀ (id : Text) (context : Context),
        (compose (.record (keyFields id)) settings none context).FailsOnly
          (fun e => e = .tooDeep ∨ ∃ f ∈ settings.standard, TakesKey f ∧ f.key = .error e) ∧
        ((∀ f ∈ settings.standard, TakesKey f → f.otherName.IsName) →
          (∀ key vars, (id ≠ [] → key = id) →
            templateVars (.record (keyFields key)) [] context = .ok vars →
              GivesValues settings vars) →
          Returns (compose (.record (keyFields id)) settings none context)) := by
  refine ⟨Settings.failsOnly_ofValue, fun settings hraw => ?_⟩
  have hchecked := Settings.isChecked_of_ofValue hraw
  refine ⟨hchecked, fun id context => ?_⟩
  have hends : Ends (fun e => e = .tooDeep ∨ ∃ f ∈ settings.standard, TakesKey f ∧ f.key = .error e)
      (fun _ => True)
      ((∀ f ∈ settings.standard, TakesKey f → f.otherName.IsName) ∧
        ∀ key vars, (id ≠ [] → key = id) →
          templateVars (.record (keyFields key)) [] context = .ok vars → GivesValues settings vars)
      (compose (.record (keyFields id)) settings none context) := by
    refine compose_ends (.inl rfl) id ?_ (fun f hf htakes => ?_) fun hC => hC.2
    · exact fun f hf => Settings.isName_of_isBlankName (hchecked.named f hf)
    · exact ⟨fun e he => .inr ⟨f, hf, htakes, he⟩, fun hC => exists_key_iff.mpr (hC.1 f hf htakes)⟩
  exact ⟨hends.fails, fun hnames hvalues => hends.returns ⟨hnames, hvalues⟩⟩

def renamedKey : Record :=
  let entry (fields : List (String × Value)) : Value := .record (Record.ofFields fields)
  Record.ofFields [("citekey", entry [("min_length", .int 3)]),
    ("standard_frontmatter_fields", .list [entry [("name", .ofString "id"),
      ("alias", .ofString "key")]]),
    ("custom_frontmatter_fields", .list [entry [("name", .ofString "status"),
      ("template", .ofString "to-read"), ("insert_after", .ofString "id")]])]

def renamedKeyRead : Settings where
  fileName := Settings.defaultFileName
  header := Settings.defaultHeader
  chapterHeader := Settings.defaultChapterHeader
  tag := []
  key := ⟨Settings.defaultKey.template, .int 3⟩
  standard := [⟨.ofString "id", .text [], .bool true, .ofString "key"⟩]
  custom := [⟨.ofString "status", "to-read".toList, .bool true, .ofString "id"⟩]

theorem ofValue_renamedKey : Settings.ofValue (.record renamedKey) = .ok renamedKeyRead := rfl

theorem isShaped_renamedKey : Settings.IsShaped renamedKey where
  key v hv := by
    cases hv
    exact ⟨_, rfl⟩
  standard v hv := by
    cases hv
    exact ⟨_, rfl, List.forall_mem_singleton.mpr ⟨_, _, rfl, rfl, rfl⟩⟩
  custom v hv := by
    cases hv
    exact ⟨_, rfl, List.forall_mem_singleton.mpr ⟨_, rfl, .text _, rfl⟩⟩

theorem isShallow_renamedKey : Settings.IsShallow renamedKey where
  texts r hr key hkey v hv := by
    cases hr
    have hnone : ∀ key ∈ ["filename_template", "header_template", "chapter_header_template",
        "literature_note_tag"], renamedKey.get? key.toList = none := by decide
    rw [hnone key hkey] at hv
    cases hv
  key v hv r hr key hkey w hw := by
    cases hv
    cases hr
    cases List.mem_singleton.mp hkey
    cases hw
    exact Nat.zero_le _
  standard v hv items hitems item hitem r hr key hkey w hw := by
    cases hv
    cases hitems
    cases List.mem_singleton.mp hitem
    cases hr
    cases List.mem_singleton.mp hkey
    cases hw
    exact Nat.zero_le _
  custom v hv items hitems item hitem r hr := by
    cases hv
    cases hitems
    cases List.mem_singleton.mp hitem
    cases hr
    simp only [List.forall_mem_cons]
    refine ⟨?_, ?_, ?_, List.forall_mem_nil _⟩ <;>
    · intro w hw
      cases hw
      exact Nat.zero_le _

theorem givesValues_renamedKey (vars : Record) : GivesValues renamedKeyRead vars := by
  refine List.forall_mem_singleton.mpr fun _ => ?_
  have hvalue : customValue (.ofString "status") "to-read".toList (.record vars) =
      pure (some (.text "to-read".toList)) :=
    FrontMatter.customValue_plain (by decide) (by decide) (by decide) _ vars
  constructor
  · rw [hvalue]
    exact .pure _
  · rw [hvalue]
    refine .pure fun v hv => ?_
    cases hv
    exact Stack.le_room (by decide)

theorem ofValue_checked_renamedKey : Settings.IsShaped renamedKey ∧
    Settings.IsShallow renamedKey ∧ Settings.ofValue (.record renamedKey) = .ok renamedKeyRead ∧
      Settings.IsChecked renamedKeyRead ∧ ∀ context : Context,
        Returns (compose (.record (keyFields "doe2020".toList)) renamedKeyRead none context) := by
  obtain ⟨-, hchecked⟩ := ofValue_checked renamedKey
  obtain ⟨hrules, hnotes⟩ := hchecked renamedKeyRead ofValue_renamedKey
  refine ⟨isShaped_renamedKey, isShallow_renamedKey, ofValue_renamedKey, hrules, fun context => ?_⟩
  refine (hnotes "doe2020".toList context).2 ?_ fun _ vars _ _ => givesValues_renamedKey vars
  exact List.forall_mem_singleton.mpr fun _ => .text _

/-- A section that is a number has no fields, and is not refused either.  The same holds of a number
as the other name of the key, but that shows only in a note. -/
theorem ofValue_numberedSection :
    Settings.ofValue (.record (Record.ofFields [("citekey", .int 5)])) = .error (.noFields .int) ∧
      ∃ settings, Settings.ofValue (.record (Record.ofFields
        [("standard_frontmatter_fields", .list [.record (Record.ofFields
          [("name", .ofString "id"), ("alias", .int 5)])]),
        ("custom_frontmatter_fields", .list [])])) = .ok settings ∧
      ∀ (context : Context) (d : Draws),
        (compose (.record (keyFields "doe2020".toList)) settings none context).run d =
          (.error (.noText .int), d) := by
  refine ⟨rfl, _, rfl, fun context d => ?_⟩
  obtain ⟨vars, hvars⟩ := exists_bareVars "doe2020".toList context
  have hkeyed (settings : Settings) : keyed (keyFields "doe2020".toList) settings
      context.now.date = pure (keyFields "doe2020".toList) := rfl
  rw [compose, toRecord_keyFields, Drawing.failing_ok_bind, hkeyed, pure_bind]
  simp only [asText_keyFields, listed_keyFields, List.map_nil, hvars, Drawing.failing_ok_bind]
  exact Drawing.run_bind_error rfl

end LitNote.Note
