import LitNote.Proofs.Settings.Reader
import LitNote.Proofs.Value.Notation

/-!
The checks of settings.  Main statements: settings with sections and fields of the right shape are
read, or refused with a message, unless they nest too deep, and settings that have been read keep
the rules.
-/

namespace LitNote.Settings

open Failure (FailsOnly)

def IsRefusal (e : Failure) : Prop := ∃ message, e = .invalidSetting message

def RefusedOr (deep : Prop) (e : Failure) : Prop := IsRefusal e ∨ e = .tooDeep ∧ deep

def HasRoomOr (deep : Prop) (v : Value) : Prop := Stack.room < v.depth → deep

def IsStandardItem (item : Value) : Prop :=
  ∃ (r : Record) (name : Value), item.opened = .record r ∧ r.get? "name".toList = some name ∧
    name.isKey = true

/-- A record whose name, if there is one, is a text or bytes, and whose anchor may be asked for
among the names of standard fields. -/
def IsCustomItem (item : Value) : Prop :=
  ∃ r, item.opened = .record r ∧ (fieldOr r "name" (.text [])).IsName ∧
    mayBeSought ((fieldOr r "insert_after" .null).orElse endAnchor) = true

/-- A list, or anything else with elements, all of which satisfy `P`; unset values have none. -/
def IsListOf (P : Value → Prop) (v : Value) : Prop :=
  ∃ items, (v.orElse (.list [])).elements = .ok items ∧ ∀ item ∈ items, P item

structure IsShaped (raw : Record) : Prop where
  key : ∀ v, raw.get? "citekey".toList = some v → ∃ r, (v.orElse (.record [])).fields = .ok r
  standard : ∀ v, raw.get? "standard_frontmatter_fields".toList = some v → IsListOf IsStandardItem v
  custom : ∀ v, raw.get? "custom_frontmatter_fields".toList = some v → IsListOf IsCustomItem v

def HasRoomAt (keys : List String) (item : Value) : Prop :=
  ∀ r, item.fields = .ok r → ∀ key ∈ keys, ∀ v, r.get? key.toList = some v → v.depth ≤ Stack.room

/-- What settings write out and compare does not nest too deep. -/
structure IsShallow (raw : Record) : Prop where
  texts : HasRoomAt ["filename_template", "header_template", "chapter_header_template",
    "literature_note_tag"] (.record raw)
  key : ∀ v, raw.get? "citekey".toList = some v →
    HasRoomAt ["min_length"] (v.orElse (.record []))
  standard : ∀ v, raw.get? "standard_frontmatter_fields".toList = some v →
    ∀ items, (v.orElse (.list [])).elements = .ok items → ∀ item ∈ items, HasRoomAt ["name"] item
  custom : ∀ v, raw.get? "custom_frontmatter_fields".toList = some v →
    ∀ items, (v.orElse (.list [])).elements = .ok items →
      ∀ item ∈ items, HasRoomAt ["name", "template", "insert_after"] item

section
variable {raw : Record} {deep : Prop}

theorem given?_record (raw : Record) (key : String) :
    given? (.record raw) key = .ok (raw.get? key.toList) := by
  have hmember : hasMember (.record raw) key.toList = .ok (raw.get? key.toList).isSome := rfl
  rw [given?, hmember]
  simp only [Failure.ok_bind]
  cases hget : raw.get? key.toList with
  | none => rfl
  | some v =>
    have hrequired : required (.record raw) key.toList = .ok v := by
      rw [required]
      simp only [Value.opened, hget]
    rw [hrequired]
    rfl

theorem failsOnly_writable {x : Except Failure Text} {v : Value}
    (h : Failure.FailsOnly (Value.FailsBy Stack.room v) x) (hroom : HasRoomOr deep v) :
    FailsOnly (RefusedOr deep) (writable x) := by
  cases x with
  | ok s => exact .ok s
  | error e =>
    obtain ⟨rfl, -⟩ | ⟨rfl, hlt⟩ := h e rfl
    · exact .error (.inl ⟨_, rfl⟩)
    · exact .error (.inr ⟨rfl, hroom hlt⟩)

theorem failsOnly_textSetting (key : String) (missing : Text)
    (hroom : ∀ v, raw.get? key.toList = some v → HasRoomOr deep v) :
    FailsOnly (RefusedOr deep) (textSetting (.record raw) key missing) := by
  rw [textSetting, given?_record]
  simp only [Failure.ok_bind]
  cases hget : raw.get? key.toList with
  | none => exact .ok _
  | some v =>
    split
    · exact .ok _
    · exact .ok _
    · next x _ heq =>
      cases heq
      exact failsOnly_writable (Value.failsOnly_asText _) (hroom _ hget)

theorem depth_fieldOr {r : Record} {key : String} {missing : Value} (hmissing : missing.depth = 0)
    (hroom : ∀ v, r.get? key.toList = some v → v.depth ≤ Stack.room) :
    (fieldOr r key missing).depth ≤ Stack.room := by
  rw [fieldOr]
  cases hget : r.get? key.toList with
  | none => exact hmissing.trans_le (Nat.zero_le _)
  | some v => exact hroom v hget

theorem exists_keySetting (h : IsShaped raw) : ∃ key, keySetting (.record raw) = .ok key ∧
    HasRoomOr (¬IsShallow raw) key.minLength := by
  rw [keySetting, given?_record]
  simp only [Failure.ok_bind]
  cases hget : raw.get? "citekey".toList with
  | none =>
    refine ⟨_, rfl, fun hlt => ?_⟩
    cases hlt
  | some v =>
    obtain ⟨r, hr⟩ := h.key v hget
    dsimp only
    rw [hr]
    refine ⟨_, rfl, fun hlt hshallow => absurd ?_ (Nat.not_le.mpr hlt)⟩
    exact depth_fieldOr rfl (hshallow.key v hget r hr _ (List.mem_cons_self ..))

theorem exists_readStandard {item : Value} (h : IsStandardItem item) :
    ∃ f, readStandard item = .ok f ∧ f.name.isKey = true := by
  obtain ⟨r, name, hopened, hname, hkey⟩ := h
  have hrequired : required item "name".toList = .ok name := by
    rw [required, hopened]
    simp only [hname]
  have hfields : item.fields = .ok r := by rw [Value.fields, hopened]
  rw [readStandard, hrequired, hfields]
  exact ⟨_, rfl, hkey⟩

structure IsChecking (deep : Prop) (f : CustomField) : Prop where
  named : f.name.IsName
  anchor : HasRoomOr deep f.after
  sought : mayBeSought f.after = true

theorem isChecking_customField (name : String) (template : Text) (enabled : Bool) :
    IsChecking deep (customField name template enabled) where
  named := .text _
  anchor hlt := by cases hlt
  sought := rfl

theorem isChecking_of_mem_default {f : CustomField} (h : f ∈ defaultCustom) :
    IsChecking deep f := by
  simp only [defaultCustom, List.mem_cons, List.not_mem_nil, or_false] at h
  obtain rfl | rfl | rfl | rfl | rfl | rfl | rfl := h <;> exact isChecking_customField ..

theorem readCustom_cases {item : Value} (h : IsCustomItem item)
    (hroom : ¬deep → HasRoomAt ["name", "template", "insert_after"] item) :
    FailsOnly (RefusedOr deep) (readCustom item) ∧
      ∀ f, readCustom item = .ok f → IsChecking deep f := by
  obtain ⟨r, hopened, hname, hanchor⟩ := h
  have hfields : item.fields = .ok r := by rw [Value.fields, hopened]
  have hdeep {key : String} (hkey : key ∈ ["name", "template", "insert_after"]) {missing : Value}
      (hmissing : missing.depth = 0) : HasRoomOr deep (fieldOr r key missing) := by
    intro hlt
    by_contra hnot
    exact absurd (depth_fieldOr hmissing (hroom hnot r hfields key hkey)) (Nat.not_le.mpr hlt)
  rw [readCustom, hfields]
  simp only [Failure.ok_bind]
  constructor
  · exact (failsOnly_writable (Value.failsOnly_asText _) (hdeep (by decide) rfl)).bind
      fun template _ => .ok _
  · intro f hf
    obtain ⟨template, -, hf⟩ := Failure.bind_eq_ok_iff.mp hf
    cases hf
    refine ⟨hname, fun hlt => ?_, hanchor⟩
    rw [Value.orElse] at hlt
    split at hlt
    · exact hdeep (by decide) rfl hlt
    · cases hlt

theorem listSetting_cases {α : Type} {P : Failure → Prop} (read : Value → Except Failure α)
    (missing : List α) {key : String} {Q : α → Prop}
    (hread : ∀ v, raw.get? key.toList = some v →
      IsListOf (fun item => FailsOnly P (read item) ∧ ∀ a, read item = .ok a → Q a) v)
    (hmissing : ∀ a ∈ missing, Q a) :
    FailsOnly P (listSetting (.record raw) key read missing) ∧
      ∀ as, listSetting (.record raw) key read missing = .ok as → ∀ a ∈ as, Q a := by
  rw [listSetting, given?_record]
  simp only [Failure.ok_bind]
  cases hget : raw.get? key.toList with
  | none =>
    refine ⟨.ok _, fun as has => ?_⟩
    cases has
    exact hmissing
  | some v =>
    obtain ⟨items, helements, hread⟩ := hread v hget
    dsimp only
    rw [helements]
    refine ⟨.mapM_of_mem fun item hitem => (hread item hitem).1, fun as has a ha => ?_⟩
    obtain ⟨item, hitem, heq⟩ := Failure.of_mem_mapM has ha
    exact (hread item hitem).2 a heq

theorem failsOnly_lengthMessage {v : Value} (hroom : HasRoomOr deep v) :
    FailsOnly (RefusedOr deep) (lengthMessage v) :=
  (failsOnly_writable (Value.failsOnly_notated (Nat.le_refl _)) hroom).bind fun _ _ => .ok _

theorem failsOnly_checkLength {v : Value} (hroom : HasRoomOr deep v) :
    FailsOnly (RefusedOr deep) (checkLength v) := by
  have hrefused : FailsOnly (RefusedOr deep)
      (lengthMessage v >>= fun m => (throw (.invalidSetting m) : Except Failure Unit)) :=
    (failsOnly_lengthMessage hroom).bind fun m _ => .error (.inl ⟨m, rfl⟩)
  rw [checkLength.eq_def]
  split
  · split
    · exact .ok ()
    · exact hrefused
  · exact hrefused

theorem checkLength_ok {v : Value} (h : checkLength v = .ok ()) : ∃ n, v = .int n ∧ 1 ≤ n := by
  rw [checkLength.eq_def] at h
  split at h
  · next n =>
    split at h
    · next hn => exact ⟨n, rfl, hn⟩
    · obtain ⟨m, -, h⟩ := Failure.bind_eq_ok_iff.mp h
      cases h
  · obtain ⟨m, -, h⟩ := Failure.bind_eq_ok_iff.mp h
    cases h

theorem checkKeys_ok {names : List Value} (h : ∀ name ∈ names, name.isKey = true) :
    checkKeys names = .ok () := by
  induction names with
  | nil => rfl
  | cons name names ih =>
    have hcons : checkKeys (name :: names) =
        (if name.isKey then .ok () else .error (.noKeyValue name.kind)) >>= fun _ =>
          checkKeys names := rfl
    rw [hcons, h name (List.mem_cons_self ..), ih fun n hn => h n (List.mem_cons_of_mem name hn)]
    rfl

theorem failsOnly_checkAnchor {names : List Value} {name anchor : Value} (hname : name.IsName)
    (hanchor : HasRoomOr deep anchor) (hsought : mayBeSought anchor = true) :
    FailsOnly (RefusedOr deep) (checkAnchor names name anchor) := by
  have hnamed : HasRoomOr deep name := fun hlt => by cases hname <;> cases hlt
  have hmessage : FailsOnly (RefusedOr deep) (anchorMessage name anchor) :=
    (failsOnly_writable (Value.failsOnly_notated (Nat.le_refl _)) hnamed).bind fun s _ =>
      (failsOnly_writable (Value.failsOnly_notated (Nat.le_refl _)) hanchor).bind fun t _ => .ok _
  rw [checkAnchor, hsought]
  split
  · exact .ok ()
  · rw [Bool.not_true, if_neg Bool.false_ne_true]
    dsimp only
    split
    · exact .ok ()
    · exact hmessage.bind fun m _ => .error (.inl ⟨m, rfl⟩)

theorem exists_isBlankName {name : Value} (h : name.IsName) : ∃ b, isBlankName name = .ok b := by
  cases h <;> exact ⟨_, rfl⟩

theorem isName_of_isBlankName {name : Value} {b : Bool} (h : isBlankName name = .ok b) :
    name.IsName := by
  cases name with
  | text s => exact .text s
  | bytes octets => exact .bytes octets
  | _ => cases h

theorem failsOnly_checkCustom {names : List Value} {f : CustomField} (h : IsChecking deep f) :
    FailsOnly (RefusedOr deep) (checkCustom names f) := by
  obtain ⟨blank, hblank⟩ := exists_isBlankName h.named
  rw [checkCustom, hblank]
  cases blank with
  | true => exact .error (.inl ⟨_, rfl⟩)
  | false => exact failsOnly_checkAnchor h.named h.anchor h.sought

theorem not_blank_of_checkCustom {names : List Value} {f : CustomField}
    (h : checkCustom names f = .ok ()) : isBlankName f.name = .ok false := by
  rw [checkCustom] at h
  obtain ⟨blank, hblank, h⟩ := Failure.bind_eq_ok_iff.mp h
  cases blank with
  | true => cases h
  | false => exact hblank

theorem standard_cases {P : Failure → Prop} (h : IsShaped raw) :
    FailsOnly P (listSetting (.record raw) "standard_frontmatter_fields" readStandard
      defaultStandard) ∧
    ∀ fields, listSetting (.record raw) "standard_frontmatter_fields" readStandard
      defaultStandard = .ok fields → ∀ f ∈ fields, f.name.isKey = true := by
  refine listSetting_cases _ _ (fun v hget => ?_) (by decide)
  obtain ⟨items, helements, hitems⟩ := h.standard v hget
  refine ⟨items, helements, fun item hitem => ?_⟩
  obtain ⟨f, hf, hkey⟩ := exists_readStandard (hitems item hitem)
  rw [hf]
  exact ⟨.ok f, fun g hg => Except.ok.inj hg ▸ hkey⟩

theorem custom_cases (h : IsShaped raw) :
    FailsOnly (RefusedOr ¬IsShallow raw) (listSetting (.record raw) "custom_frontmatter_fields"
      readCustom defaultCustom) ∧
    ∀ fields, listSetting (.record raw) "custom_frontmatter_fields" readCustom
      defaultCustom = .ok fields → ∀ f ∈ fields, IsChecking (¬IsShallow raw) f := by
  refine listSetting_cases _ _ (fun v hget => ?_) fun _ hf => isChecking_of_mem_default hf
  obtain ⟨items, helements, hitems⟩ := h.custom v hget
  refine ⟨items, helements, fun item hitem => readCustom_cases (hitems item hitem) fun hnot => ?_⟩
  exact (not_not.mp hnot).custom v hget items helements item hitem

theorem failsOnly_ofValue (h : IsShaped raw) :
    FailsOnly (RefusedOr ¬IsShallow raw) (ofValue (.record raw)) := by
  have htext {key : String} (hkey : key ∈ ["filename_template", "header_template",
      "chapter_header_template", "literature_note_tag"]) (missing : Text) :
      FailsOnly (RefusedOr ¬IsShallow raw) (textSetting (.record raw) key missing) :=
    failsOnly_textSetting key missing fun v hget hlt hshallow =>
      absurd (hshallow.texts raw rfl key hkey v hget) (Nat.not_le.mpr hlt)
  have hstandard := standard_cases (P := RefusedOr ¬IsShallow raw) h
  have hcustom := custom_cases h
  obtain ⟨key, hkey, hroom⟩ := exists_keySetting h
  rw [ofValue]
  refine (htext (by simp) _).bind fun fileName _ => ?_
  refine (htext (by simp) _).bind fun header _ => ?_
  refine (htext (by simp) _).bind fun chapterHeader _ => ?_
  refine (htext (by simp) _).bind fun tag _ => ?_
  refine (FailsOnly.of_ok hkey).bind fun key' heq => ?_
  obtain rfl : key = key' := Except.ok.inj (hkey.symm.trans heq)
  refine hstandard.1.bind fun standard hread => ?_
  refine hcustom.1.bind fun custom hchecking => ?_
  refine (failsOnly_checkLength hroom).bind fun _ _ => ?_
  have hkeys : checkKeys (standard.map StandardField.name) = .ok () :=
    checkKeys_ok (List.forall_mem_map.mpr (hstandard.2 standard hread))
  refine (FailsOnly.of_ok hkeys).bind fun _ _ => ?_
  refine (FailsOnly.forM fun f hf => ?_).bind fun _ _ => .ok _
  exact failsOnly_checkCustom (hcustom.2 custom hchecking f hf)

structure IsChecked (settings : Settings) : Prop where
  minLength : ∃ n, settings.key.minLength = .int n ∧ 1 ≤ n
  named : ∀ f ∈ settings.custom, isBlankName f.name = .ok false
  anchored : ∀ f ∈ settings.custom, IsAnchor (settings.standard.map StandardField.name) f.after

theorem isChecked_of_ofValue {v : Value} {settings : Settings} (h : ofValue v = .ok settings) :
    IsChecked settings where
  minLength := checkLength_ok (checked_of_ofValue h).2.1
  named _ hf := not_blank_of_checkCustom (Failure.of_mem_forM (checked_of_ofValue h).2.2 hf)
  anchored _ hf := isAnchor_of_ofValue h hf

end

end LitNote.Settings
