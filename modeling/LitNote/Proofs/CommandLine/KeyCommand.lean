import LitNote.CommandLine.Run
import LitNote.Proofs.Citation.DefaultKey

/-!
The command that shows a key.  It knows a failure by how the key starts.  Main statement: if the
files can be read and a key is made, then it is shown, unless it starts as the keys that tell of a
failure do.
-/

namespace LitNote.CommandLine

variable {w : World} {d : Draws}

/-- The run draws nothing.  Its result is what satisfies `P`, and it stops if nothing does. -/
structure Gives {α : Type} (P : α → Prop) (x : Run α) : Prop where
  ok : ∀ a, P a → ∀ d, x.run d = (.ok a, d)
  stop : (∀ a, ¬P a) → ∀ d, ∃ e, x.run d = (.error e, d)

namespace Gives

variable {α β : Type} {P : α → Prop} {x : Run α}

theorem pure {a : α} (h : ∀ b, P b ↔ b = a) : Gives P (Pure.pure a) where
  ok := by
    intro b hb d
    rw [(h b).mp hb]
    exact Drawing.run_pure a d
  stop hnone := absurd ((h a).mpr rfl) (hnone a)

theorem of_stops (h : ∀ d, ∃ e, x.run d = (.error e, d)) (hnone : ∀ a, ¬P a) : Gives P x where
  ok a ha := absurd ha (hnone a)
  stop _ := h

theorem bind {Q : α → β → Prop} {f : α → Run β} (hx : Gives P x)
    (hf : ∀ a, P a → Gives (Q a) (f a)) : Gives (fun b => ∃ a, P a ∧ Q a b) (x >>= f) where
  ok := by
    rintro b ⟨a, ha, hb⟩ d
    rw [Drawing.run_bind_ok (hx.ok a ha d), (hf a ha).ok b hb d]
  stop := by
    intro hnone d
    by_cases hsome : ∃ a, P a
    · obtain ⟨a, ha⟩ := hsome
      obtain ⟨e, he⟩ := (hf a ha).stop (fun b hb => hnone b ⟨a, ha, hb⟩) d
      exact ⟨e, by rw [Drawing.run_bind_ok (hx.ok a ha d), he]⟩
    · obtain ⟨e, he⟩ := hx.stop (fun a ha => hsome ⟨a, ha⟩) d
      exact ⟨e, Drawing.run_bind_error he⟩

theorem of_iff {Q : α → Prop} (hx : Gives P x) (h : ∀ a, Q a ↔ P a) : Gives Q x where
  ok a ha := hx.ok a ((h a).mp ha)
  stop hnone := hx.stop fun a ha => hnone a ((h a).mpr ha)

end Gives

def HoldsCitation (w : World) (path : Text) (citation : Value) : Prop :=
  ∃ content v, w.look path = .file content ∧ Json.read (Text.unifyLineEnds content) = .ok v ∧
    onlyItem v = citation ∧ citation.isRecord = true

def HoldsOptions (w : World) : Option Text → Key.Options → Prop
  | none, options => options = .standard
  | some path, options => ∃ settings, settingsAt w path = .ok settings ∧ settings.key = options

theorem gives_readJson (path content : Text) :
    Gives (fun v => Json.read (Text.unifyLineEnds content) = .ok v) (readJson path content) := by
  rw [readJson]
  cases hread : Json.read (Text.unifyLineEnds content) with
  | ok u =>
    refine .pure fun v => ⟨fun h => ?_, fun h => by rw [h]⟩
    cases h
    rfl
  | error f =>
    refine .of_stops (fun d => ?_) nofun
    dsimp only
    split
    · exact ⟨_, rfl⟩
    · exact ⟨_, rfl⟩

theorem not_holdsCitation {path : Text} (h : ∀ content, w.look path ≠ .file content)
    (citation : Value) : ¬HoldsCitation w path citation := by
  rintro ⟨content, v, hfile, -⟩
  exact h content hfile

theorem gives_readCitation (path : Text) : Gives (HoldsCitation w path) (readCitation w path) := by
  rw [readCitation]
  cases hlook : w.look path with
  | nothing =>
    refine .of_stops (fun d => ⟨_, rfl⟩) (not_holdsCitation ?_)
    rw [hlook]
    nofun
  | directory =>
    refine .of_stops (fun d => ⟨_, rfl⟩) (not_holdsCitation ?_)
    rw [hlook]
    nofun
  | file content =>
    have hitem (v : Value) : Gives (fun c => onlyItem v = c ∧ c.isRecord = true)
        (if (onlyItem v).isRecord then Pure.pure (onlyItem v)
          else complain "Expected a single CSL-JSON object.".toList) := by
      split
      · next hrecord =>
        refine .pure fun c => ⟨fun h => h.1.symm, ?_⟩
        rintro rfl
        exact ⟨rfl, hrecord⟩
      · next hrecord =>
        refine .of_stops (fun d => ⟨_, rfl⟩) ?_
        rintro c ⟨rfl, h⟩
        exact hrecord h
    refine ((gives_readJson path content).bind fun v _ => hitem v).of_iff fun c => ?_
    constructor
    · rintro ⟨content', v, hfile, hv⟩
      rw [hlook] at hfile
      cases hfile
      exact ⟨v, hv⟩
    · rintro ⟨v, hv⟩
      exact ⟨content, v, hlook, hv⟩

theorem gives_readSettings (path : Text) :
    Gives (fun s => settingsAt w path = .ok s) (readSettings w path) := by
  rw [readSettings]
  cases hsettings : settingsAt w path with
  | ok s =>
    refine .pure fun t => ⟨fun h => ?_, fun h => by rw [h]⟩
    cases h
    rfl
  | error f =>
    refine .of_stops (fun d => ?_) nofun
    cases f <;> exact ⟨_, rfl⟩

def readOptions (w : World) : Option Text → Run Key.Options
  | none => return .standard
  | some path => do return (← readSettings w path).key

def showKey (key : Text) : Run (List Shown) := do
  if tellsFailure key then complain ("Citekey generation failed: ".toList ++ key)
  return [.line key]

variable {data : Text} {template : Option Text} {minLength : Option Int} {settings : Option Text}

theorem runKey_eq : runKey w data template minLength settings = (do
    let options ← readOptions w settings
    let citation ← readCitation w data
    let key ← drawing (Key.generate w.now.date citation
      (.ok (keyOptions options template minLength).merged))
    showKey key) := by
  cases settings with
  | none => rfl
  | some path =>
    have hmap : Settings.key <$> readSettings w path = readOptions w (some path) :=
      (bind_pure_comp _ _).symm
    rw [← hmap]
    rfl

theorem gives_readOptions (settings : Option Text) :
    Gives (HoldsOptions w settings) (readOptions w settings) := by
  cases settings with
  | none => exact .pure fun options => Iff.rfl
  | some path =>
    exact (gives_readSettings path).bind (Q := fun s options => s.key = options)
      fun s _ => .pure fun options => eq_comm

def shownKey (key : Text) : Except Stop (List Shown) :=
  if "error_".toList <+: key then
    .error (.complaint (markedAs "red" ("Citekey generation failed: ".toList ++ key)))
  else .ok [.line key]

theorem exit_shownKey_iff {key : Text} :
    (Outcome.ofRun (shownKey key)).exit = 1 ↔ "error_".toList <+: key := by
  rw [shownKey]
  split
  · next h => exact iff_of_true rfl h
  · next h => exact iff_of_false Nat.zero_ne_one h

theorem run_showKey (key : Text) (d : Draws) : (showKey key).run d = (shownKey key, d) := by
  have htells : tellsFailure key = true ↔ "error_".toList <+: key := List.isPrefixOf_iff_prefix
  rw [showKey, shownKey]
  by_cases h : tellsFailure key = true
  · rw [if_pos h, if_pos (htells.mp h)]
    rfl
  · rw [if_neg h, if_neg (mt htells.mpr h)]
    rfl

theorem run_runKey {options : Key.Options} {citation : Value}
    (hoptions : HoldsOptions w settings options) (hcitation : HoldsCitation w data citation)
    (template : Option Text) (minLength : Option Int) (d : Draws) :
    (runKey w data template minLength settings).run d =
      let r := Key.outcome w.now.date citation
        (.ok (keyOptions options template minLength).merged) d
      (shownKey r.1.text, r.2) := by
  generalize hr : Key.outcome w.now.date citation
    (.ok (keyOptions options template minLength).merged) d = r
  have hkey : (drawing (Key.generate w.now.date citation
      (.ok (keyOptions options template minLength).merged))).run d = (.ok r.1.text, r.2) := by
    rw [← hr]
    rfl
  rw [runKey_eq, Drawing.run_bind_ok ((gives_readOptions settings).ok options hoptions d),
    Drawing.run_bind_ok ((gives_readCitation data).ok citation hcitation d),
    Drawing.run_bind_ok hkey, run_showKey]

theorem exists_stop_of_unreadable (h : (∀ options, ¬HoldsOptions w settings options) ∨
    ∀ citation, ¬HoldsCitation w data citation) (template : Option Text) (minLength : Option Int)
    (d : Draws) :
    ∃ e d', (runKey w data template minLength settings).run d = (.error e, d') := by
  rw [runKey_eq]
  -- The settings are read first, so that the data matter only if these give options.
  by_cases hsome : ∃ options, HoldsOptions w settings options
  · obtain ⟨options, hoptions⟩ := hsome
    have hcitation := h.resolve_left fun hnone => hnone options hoptions
    obtain ⟨e, he⟩ := (gives_readCitation data).stop hcitation d
    refine ⟨e, d, ?_⟩
    rw [Drawing.run_bind_ok ((gives_readOptions settings).ok options hoptions d),
      Drawing.run_bind_error he]
  · obtain ⟨e, he⟩ := (gives_readOptions settings).stop (not_exists.mp hsome) d
    exact ⟨e, d, Drawing.run_bind_error he⟩

inductive Attempts (w : World) (data : Text) (template : Option Text) (minLength : Option Int)
    (settings : Option Text) (d : Draws) : Key.Outcome → Prop
  | intro {options : Key.Options} {citation : Value} :
    HoldsOptions w settings options → HoldsCitation w data citation →
      Attempts w data template minLength settings d (Key.outcome w.now.date citation
        (.ok (keyOptions options template minLength).merged) d).1

theorem exists_attempts (hoptions : ∃ options, HoldsOptions w settings options)
    (hcitation : ∃ citation, HoldsCitation w data citation) (template : Option Text)
    (minLength : Option Int) (d : Draws) :
    ∃ o, Attempts w data template minLength settings d o := by
  obtain ⟨options, hoptions⟩ := hoptions
  obtain ⟨citation, hcitation⟩ := hcitation
  exact ⟨_, hoptions, hcitation⟩

namespace Attempts

variable {o : Key.Outcome} {key : Text}

theorem isLegal (h : Attempts w data template minLength settings d o) : o.IsLegal := by
  obtain ⟨-, -⟩ := h
  exact Key.isLegal_outcome _ _ _ d

theorem ne_noData (h : Attempts w data template minLength settings d o) : o ≠ .noData := by
  obtain ⟨-, content, v, -, -, -, hrecord⟩ := h
  exact Key.outcome_ne_noData _ _ _ hrecord

theorem text_made (h : Attempts w data template minLength settings d (.made key)) :
    Key.Outcome.text (.made key) = key := by
  obtain ⟨c, key, rfl⟩ := List.exists_cons_of_ne_nil h.isLegal.ne_nil
  rfl

end Attempts

section
variable {args : List Text}

theorem execute_of_attempts {o : Key.Outcome}
    (hargs : Request.ofArguments args = .run (.key data template minLength settings))
    (h : Attempts w data template minLength settings d o) :
    (execute w args d).1 = Outcome.ofRun (shownKey o.text) := by
  obtain ⟨hoptions, hcitation⟩ := h
  have hrun := run_runKey hoptions hcitation template minLength d
  rw [execute, hargs]
  dsimp only
  rw [runCommand, hrun]

theorem exit_of_unreadable
    (hargs : Request.ofArguments args = .run (.key data template minLength settings))
    (h : (∀ options, ¬HoldsOptions w settings options) ∨
      ∀ citation, ¬HoldsCitation w data citation) : (execute w args d).1.exit = 1 := by
  obtain ⟨e, d', hrun⟩ := exists_stop_of_unreadable h template minLength d
  rw [execute, hargs]
  dsimp only
  rw [runCommand, hrun]
  cases e <;> rfl

/-- A key that is made from readable files is shown, unless it starts as the keys that tell of a
failure do; then it is complained about.  The command fails in these cases only: settings or data
that cannot be read, a key that cannot be made, and a key that starts like this. -/
theorem execute_key
    (hargs : Request.ofArguments args = .run (.key data template minLength settings)) (d : Draws) :
    (∀ key, Attempts w data template minLength settings d (.made key) →
      (execute w args d).1 =
        if "error_".toList <+: key then
          ⟨1, [], [markedAs "red" ("Citekey generation failed: ".toList ++ key)], none⟩
        else ⟨0, [.line key], [], none⟩) ∧
    ((execute w args d).1.exit = 1 ↔
      (∀ options, ¬HoldsOptions w settings options) ∨
      (∀ citation, ¬HoldsCitation w data citation) ∨
      (∃ digits, Attempts w data template minLength settings d (.failed digits)) ∨
      ∃ key, Attempts w data template minLength settings d (.made key) ∧
        "error_".toList <+: key) := by
  have hmade (key : Text) (h : Attempts w data template minLength settings d (.made key)) :
      (execute w args d).1 = Outcome.ofRun (shownKey key) := by
    rw [execute_of_attempts hargs h, h.text_made]
  have hfailed (digits : Text)
      (h : Attempts w data template minLength settings d (.failed digits)) :
      (execute w args d).1.exit = 1 := by
    rw [execute_of_attempts hargs h, exit_shownKey_iff]
    exact List.prefix_append _ digits
  refine ⟨fun key h => ?_, fun hexit => ?_, ?_⟩
  · rw [hmade key h, shownKey]
    split <;> rfl
  · -- Without an attempt a file is to blame, and with one its outcome decides.
    by_cases hoptions : ∃ options, HoldsOptions w settings options
    · by_cases hcitation : ∃ citation, HoldsCitation w data citation
      · obtain ⟨o, h⟩ := exists_attempts hoptions hcitation template minLength d
        cases o with
        | noData => exact absurd rfl h.ne_noData
        | failed digits => exact .inr (.inr (.inl ⟨digits, h⟩))
        | made key =>
          rw [hmade key h, exit_shownKey_iff] at hexit
          exact .inr (.inr (.inr ⟨key, h, hexit⟩))
      · exact .inr (.inl (not_exists.mp hcitation))
    · exact .inl (not_exists.mp hoptions)
  · rintro (hoptions | hcitation | ⟨digits, h⟩ | ⟨key, h, hprefix⟩)
    · exact exit_of_unreadable hargs (.inl hoptions)
    · exact exit_of_unreadable hargs (.inr hcitation)
    · exact hfailed digits h
    · rw [hmade key h, exit_shownKey_iff]
      exact hprefix

theorem attempts_default {r : Record} {author year : Text}
    (hcitation : HoldsCitation w data (.record r)) (hauthor : Author.part (.record r) = .ok author)
    (hyear : Year.part (.record r) = .ok year)
    (hlong : 6 ≤ (KeyText.sanitize (author ++ year)).length) (d : Draws) :
    Attempts w data none none none d (.made (KeyText.sanitize (author ++ year))) := by
  have hattempt := (Key.attempt_default w.now.date (.record r)).trans
    (Key.ofTemplate_default hauthor hyear hlong)
  have hoptions : HoldsOptions w none Key.Options.standard := rfl
  have hmerged : (keyOptions .standard none none).merged = Key.Options.standard := rfl
  have hstandard : Key.Options.ofValue .null = .ok .standard := rfl
  have h : Attempts w data none none none d _ := ⟨hoptions, hcitation⟩
  rw [hmerged, ← hstandard, Key.outcome_of_attempt hattempt] at h
  exact h

def itemText (family : String) : Text :=
  "\x7b\"author\":[\x7b\"family\":\"".toList ++ family.toList ++
    "\"\x7d],\"issued\":\x7b\"date-parts\":[[2024]]\x7d\x7d".toList

def itemRecord (family : String) : Record :=
  Record.ofFields
    [("author", .list [.record (Record.ofFields [("family", .text family.toList)])]),
      ("issued", .record (Record.ofFields [("date-parts", .list [.list [.int 2024]])]))]

def itemWorld (family : String) : World :=
  ⟨fun path => if path = "item.json".toList then .file (itemText family) else .nothing, default⟩

theorem ofArguments_item : Request.ofArguments ["citekey".toList, "item.json".toList] =
    .run (.key "item.json".toList none none none) := by
  decide +kernel

theorem attempts_item {family : String} (author year : Text) {key : Text}
    (hread : Json.read (Text.unifyLineEnds (itemText family)) = .ok (.record (itemRecord family)))
    (hauthor : Author.part (.record (itemRecord family)) = .ok author)
    (hyear : Year.part (.record (itemRecord family)) = .ok year)
    (hkey : KeyText.sanitize (author ++ year) = key)
    (hlong : 6 ≤ key.length) (d : Draws) :
    Attempts (itemWorld family) "item.json".toList none none none d (.made key) := by
  have hcitation : HoldsCitation (itemWorld family) "item.json".toList
      (.record (itemRecord family)) := ⟨_, _, rfl, hread, rfl, rfl⟩
  rw [← hkey] at hlong ⊢
  exact attempts_default hcitation hauthor hyear hlong d

theorem execute_key_newton :
    Request.ofArguments ["citekey".toList, "item.json".toList] =
        .run (.key "item.json".toList none none none) ∧
      (execute (itemWorld "Newton") ["citekey".toList, "item.json".toList] ⟨0⟩).1 =
        ⟨0, [.line "newton2024".toList], [], none⟩ := by
  have hmade : Attempts (itemWorld "Newton") "item.json".toList none none none ⟨0⟩
      (.made "newton2024".toList) :=
    attempts_item "newton".toList "2024".toList (by decide +kernel) (by decide +kernel)
      (by decide +kernel) (by decide +kernel) (by decide) ⟨0⟩
  have hshown := (execute_key ofArguments_item ⟨0⟩).1 _ hmade
  rw [if_neg (by decide)] at hshown
  exact ⟨ofArguments_item, hshown⟩

theorem exit_errorProne :
    Attempts (itemWorld "Error_Prone") "item.json".toList none none none ⟨0⟩
        (.made "error_prone2024".toList) ∧
      (execute (itemWorld "Error_Prone") ["citekey".toList, "item.json".toList] ⟨0⟩).1.exit =
        1 := by
  have hmade : Attempts (itemWorld "Error_Prone") "item.json".toList none none none ⟨0⟩
      (.made "error_prone2024".toList) :=
    attempts_item "error_prone".toList "2024".toList (by decide +kernel) (by decide +kernel)
      (by decide +kernel) (by decide +kernel) (by decide) ⟨0⟩
  refine ⟨hmade, ?_⟩
  rw [execute_of_attempts ofArguments_item hmade, hmade.text_made, exit_shownKey_iff]
  decide

end

end LitNote.CommandLine
