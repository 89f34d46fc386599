import LitNote.Proofs.FrontMatter.Assembly
import Mathlib.Data.List.Pairwise
import Mathlib.Data.List.ReduceOption

/-!
The order of front matter.  Main statement: what a standard field writes under a key stays there
unless a later one writes under it.  If no two fields write under the same key, the entries are
those of the fields in the order of the settings, each custom field at its place, and the tags.
-/

namespace LitNote.FrontMatter

open Drawing (Yields)

inductive Slot where
  | standard (f : StandardField)
  | custom (f : CustomField)

namespace Slot

def key : Slot → Except Failure Value
  | standard f => f.key
  | custom f => .ok f.name

def piece? (source : Source) : Slot → Drawing (Option Piece)
  | standard f => Drawing.failing (standardPiece? f.name source.citation source.contributors)
  | custom f => do return (← customValue f.name f.template source.vars).map .own

def content? (source : Source) (slot : Slot) : Drawing (Option (Value × Piece)) := do
  match ← slot.piece? source with
  | some piece => return some (← Drawing.failing slot.key, piece)
  | none => return none

end Slot

def standing (anchor : Value) (cs : List CustomField) : List Slot :=
  (cs.filter fun f => f.enabled.isSet && f.anchor.sameKey anchor).map .custom

def placed (cs : List CustomField) (ss : List StandardField) : List Slot :=
  (ss.filter (·.enabled.isSet)).flatMap fun f => .standard f :: standing f.name cs

def slots (settings : Settings) : List Slot :=
  standing Settings.startAnchor settings.custom ++ placed settings.custom settings.standard ++
    standing Settings.endAnchor settings.custom

def fields (settings : Settings) : List Slot :=
  (settings.standard.filter (·.enabled.isSet)).map .standard ++
    (settings.custom.filter (·.enabled.isSet)).map .custom

def KeysDiffer (k l : Except Failure Value) : Prop :=
  ∀ a b, k = .ok a → l = .ok b → a.sameKey b = false

instance : DecidableRel KeysDiffer
  | .ok a, .ok b => decidable_of_iff (a.sameKey b = false)
      ⟨fun h _ _ ha hb => Except.ok.inj ha ▸ Except.ok.inj hb ▸ h, fun h => h a b rfl rfl⟩
  | .error _, _ => isTrue fun _ _ ha _ => by cases ha
  | .ok _, .error _ => isTrue fun _ _ _ hb => by cases hb

/-- Settings under which every field that is switched on has a key and a place of its own. -/
structure HasOwnKeys (settings : Settings) : Prop where
  keys : ((fields settings).map Slot.key ++ [Except.ok tagsKey]).Pairwise KeysDiffer
  names : (Settings.startAnchor :: ((settings.standard.filter (·.enabled.isSet)).map (·.name) ++
    [Settings.endAnchor])).Pairwise fun a b => a.sameKey b = false
  anchors : ∀ f ∈ settings.custom, ∃ s, f.anchor = .text s

def written? (source : Source) (key : Text) (f : StandardField) : Option Value :=
  match f.enabled.isSet, f.key, standardPiece? f.name source.citation source.contributors with
  | true, .ok (.text k), .ok (some piece) => if k == key then some piece.value else none
  | _, _, _ => none

section
variable {source : Source} {fm : FrontMatter} {keys : List (Except Failure Value)}

def Fresh (fm : FrontMatter) (keys : List (Except Failure Value)) : Prop :=
  ∀ key, .ok key ∈ keys → fm.has key = false

theorem Fresh.head {key : Except Failure Value} (h : Fresh fm (key :: keys)) : Fresh fm [key] := by
  intro k hk
  rw [List.mem_singleton] at hk
  exact h k (hk ▸ List.mem_cons_self ..)

theorem Fresh.tail {key : Except Failure Value} (h : Fresh fm (key :: keys)) : Fresh fm keys :=
  fun k hk => h k (List.mem_cons_of_mem key hk)

theorem Fresh.left {keys' : List (Except Failure Value)} (h : Fresh fm (keys ++ keys')) :
    Fresh fm keys := fun k hk => h k (List.mem_append_left keys' hk)

theorem put_of_not_has {key : Value} (h : fm.has key = false) (piece : Piece) :
    fm.put key piece = fm ++ [(key, piece)] := by
  induction fm with
  | nil => rfl
  | cons e fm ih =>
    obtain ⟨k, p⟩ := e
    obtain ⟨hk, hfm⟩ : k.sameKey key = false ∧ fm.any _ = false := Bool.or_eq_false_iff.mp h
    rw [put, hk, if_neg Bool.false_ne_true, ih hfm, List.cons_append]

theorem has_append (fm gm : FrontMatter) (key : Value) :
    has (fm ++ gm) key = (fm.has key || gm.has key) := List.any_append

theorem Slot.yields_content? (source : Source) (slot : Slot) :
    Yields (fun e => ∀ key piece, e = some (key, piece) → slot.key = .ok key)
      (slot.content? source) := by
  rw [content?]
  refine (Yields.trivial _).bind fun piece? _ => ?_
  cases piece? with
  | none =>
    refine .pure fun key piece h => ?_
    cases h
  | some p =>
    have hkey : Yields (fun key => slot.key = .ok key) (Drawing.failing slot.key) :=
      .failing fun key h => h
    refine hkey.bind fun key hkey => .pure fun key' piece h => ?_
    cases h
    exact hkey

theorem Fresh.append {slot : Slot} {e : Option (Value × Piece)} (h : Fresh fm keys)
    (hslot : ∀ k ∈ keys, KeysDiffer slot.key k)
    (he : ∀ key piece, e = some (key, piece) → slot.key = .ok key) :
    Fresh (fm ++ e.toList) keys := by
  intro key hkey
  rw [has_append, h key hkey, Bool.false_or]
  cases e with
  | none => rfl
  | some entry =>
    obtain ⟨k, piece⟩ := entry
    have hdiffer := hslot _ hkey k key (he k piece rfl) rfl
    simp [has, hdiffer]

def addSlot (source : Source) (fm : FrontMatter) (slot : Slot) : Drawing FrontMatter := do
  match ← slot.content? source with
  | some (key, piece) => return fm.put key piece
  | none => return fm

theorem addSlot_of_fresh {slot : Slot} (h : Fresh fm [slot.key]) :
    addSlot source fm slot = do return fm ++ (← slot.content? source).toList := by
  rw [addSlot]
  refine Drawing.bind_congr_of_yields (slot.yields_content? source) fun e he => ?_
  cases e with
  | none => rw [Option.toList_none, List.append_nil]
  | some entry =>
    obtain ⟨key, piece⟩ := entry
    have hkey := h key (by rw [he key piece rfl]; exact List.mem_cons_self ..)
    dsimp only
    rw [put_of_not_has hkey]
    rfl

theorem Fresh.addSlot {slot : Slot} (h : Fresh fm (slot.key :: keys))
    (hslot : ∀ k ∈ keys, KeysDiffer slot.key k) :
    Yields (Fresh · keys) (addSlot source fm slot) := by
  rw [addSlot_of_fresh h.head]
  exact (slot.yields_content? source).bind fun e he => .pure (h.tail.append hslot he)

theorem Fresh.foldlM {ss : List Slot} (h : Fresh fm (ss.map Slot.key ++ keys))
    (hkeys : (ss.map Slot.key ++ keys).Pairwise KeysDiffer) :
    Yields (Fresh · keys) (ss.foldlM (FrontMatter.addSlot source) fm) := by
  induction ss generalizing fm with
  | nil => exact .pure h
  | cons s ss ih =>
    rw [List.map_cons, List.cons_append, List.pairwise_cons] at hkeys
    rw [List.foldlM_cons]
    exact (h.addSlot hkeys.1).bind fun fm' h' => ih h' hkeys.2

theorem foldlM_addSlot {ss : List Slot} (h : Fresh fm (ss.map Slot.key))
    (hkeys : (ss.map Slot.key).Pairwise KeysDiffer) :
    ss.foldlM (addSlot source) fm =
      do return fm ++ (← ss.mapM (Slot.content? source)).reduceOption := by
  -- By induction on the fields: each adds its entry at the end.
  induction ss generalizing fm with
  | nil => simp
  | cons s ss ih =>
    rw [List.map_cons] at h hkeys
    rw [List.pairwise_cons] at hkeys
    rw [List.foldlM_cons, List.mapM_cons, addSlot_of_fresh h.head, bind_assoc, bind_assoc]
    refine Drawing.bind_congr_of_yields (s.yields_content? source) fun e he => ?_
    rw [pure_bind, ih (h.tail.append hkeys.1 he) hkeys.2, bind_assoc]
    congr 1
    funext es
    rw [pure_bind]
    cases e with
    | none => rw [Option.toList_none, List.append_nil, List.reduceOption_cons_of_none]
    | some entry => rw [Option.toList_some, List.reduceOption_cons_of_some, List.append_assoc]; rfl

theorem addSlot_custom (source : Source) (fm : FrontMatter) (f : CustomField) :
    addSlot source fm (.custom f) = (do
      match ← customValue f.name f.template source.vars with
      | some v => return fm.put f.name (.own v)
      | none => return fm) := by
  rw [addSlot, Slot.content?, Slot.piece?, bind_assoc, bind_assoc]
  congr 1
  funext r
  cases r with
  | none => rfl
  | some v => rfl

theorem standing_cons (anchor : Value) (c : CustomField) (cs : List CustomField) :
    standing anchor (c :: cs) =
      if c.enabled.isSet && c.anchor.sameKey anchor then .custom c :: standing anchor cs
      else standing anchor cs := by
  rw [standing, List.filter_cons]
  split <;> rfl

theorem addCustom_eq {anchor : Value} {cs : List CustomField}
    (h : Fresh fm ((standing anchor cs).map Slot.key))
    (hkeys : ((standing anchor cs).map Slot.key).Pairwise KeysDiffer) :
    addCustom source.vars anchor fm cs = (standing anchor cs).foldlM (addSlot source) fm := by
  induction cs generalizing fm with
  | nil => rfl
  | cons c cs ih =>
    rw [standing_cons] at h hkeys ⊢
    rw [addCustom]
    cases hhere : c.enabled.isSet && c.anchor.sameKey anchor with
    | false =>
      rw [hhere] at h hkeys
      exact ih h hkeys
    | true =>
      rw [hhere, if_pos rfl, List.map_cons] at h hkeys
      have hnew : fm.has c.name = false := h _ (List.mem_cons_self ..)
      have hyields : Yields (Fresh · ((standing anchor cs).map Slot.key))
          (addSlot source fm (.custom c)) := h.addSlot (List.pairwise_cons.mp hkeys).1
      rw [hnew, Bool.not_false, Bool.and_self, if_pos rfl, if_pos rfl, List.foldlM_cons,
        ← Drawing.bind_congr_of_yields hyields fun fm' h' => ih h' (List.pairwise_cons.mp hkeys).2,
        addSlot_custom, bind_assoc]
      congr 1
      funext r
      cases r with
      | none => rw [pure_bind]
      | some v => rw [pure_bind]

theorem addStandard_eq {f : StandardField} (henabled : f.enabled.isSet = true)
    (cs : List CustomField) (fm : FrontMatter) :
    addStandard source cs fm f =
      addSlot source fm (.standard f) >>= fun fm => addCustom source.vars f.name fm cs := by
  rw [addStandard, henabled, Bool.not_true, if_neg Bool.false_ne_true, addSlot, Slot.content?,
    Slot.piece?, bind_assoc, bind_assoc]
  congr 1
  funext piece?
  cases piece? with
  | none => rfl
  | some piece => simp only [bind_assoc, pure_bind, Slot.key]

theorem placed_cons (cs : List CustomField) (s : StandardField) (ss : List StandardField) :
    placed cs (s :: ss) =
      if s.enabled.isSet then .standard s :: standing s.name cs ++ placed cs ss
      else placed cs ss := by
  rw [placed, List.filter_cons]
  split <;> rfl

theorem foldlM_addStandard {cs : List CustomField} {ss : List StandardField}
    (h : Fresh fm ((placed cs ss).map Slot.key))
    (hkeys : ((placed cs ss).map Slot.key).Pairwise KeysDiffer) :
    ss.foldlM (addStandard source cs) fm = (placed cs ss).foldlM (addSlot source) fm := by
  induction ss generalizing fm with
  | nil => rfl
  | cons s ss ih =>
    rw [placed_cons] at h hkeys ⊢
    rw [List.foldlM_cons]
    cases henabled : s.enabled.isSet with
    | false =>
      rw [henabled] at h hkeys
      rw [addStandard, henabled]
      exact ih h hkeys
    | true =>
      rw [henabled, if_pos rfl, List.cons_append, List.map_cons, List.map_append] at h hkeys
      rw [if_pos rfl, List.cons_append, List.foldlM_cons, addStandard_eq henabled, bind_assoc]
      obtain ⟨hs, hkeys⟩ := List.pairwise_cons.mp hkeys
      refine Drawing.bind_congr_of_yields (h.addSlot hs) fun fm₁ h₁ => ?_
      obtain ⟨hstanding, hplaced, -⟩ := List.pairwise_append.mp hkeys
      rw [addCustom_eq h₁.left hstanding, List.foldlM_append]
      exact Drawing.bind_congr_of_yields (h₁.foldlM hkeys) fun fm₂ h₂ => ih h₂ hplaced

end

instance : Std.Symm KeysDiffer where
  symm k l h a b ha hb := by rw [Value.sameKey_comm, h b a hb ha]

theorem standing_sublist (anchor : Value) (settings : Settings) :
    (standing anchor settings.custom).Sublist (fields settings) := by
  have hfilter : (settings.custom.filter fun f =>
      f.enabled.isSet && f.anchor.sameKey anchor).Sublist
      (settings.custom.filter (·.enabled.isSet)) :=
    List.monotone_filter_right _ fun f hf => (Bool.and_eq_true_iff.mp hf).1
  exact (hfilter.map Slot.custom).trans (List.sublist_append_right _ _)

section
variable {settings : Settings}

theorem HasOwnKeys.pairwise (h : HasOwnKeys settings) :
    (fields settings).Pairwise fun s t => KeysDiffer s.key t.key :=
  List.pairwise_map.mp (List.pairwise_append.mp h.keys).1

theorem HasOwnKeys.differ (h : HasOwnKeys settings) {s t : Slot} (hs : s ∈ fields settings)
    (ht : t ∈ fields settings) (hne : s ≠ t) : KeysDiffer s.key t.key := by
  have hsymm : Std.Symm fun s t : Slot => KeysDiffer s.key t.key :=
    ⟨fun s t hst => Std.Symm.symm s.key t.key hst⟩
  exact h.pairwise.forall hs ht hne

theorem HasOwnKeys.differ_standing (h : HasOwnKeys settings) {a b : Value}
    (hab : a.sameKey b = false) {s t : Slot} (hs : s ∈ standing a settings.custom)
    (ht : t ∈ standing b settings.custom) : KeysDiffer s.key t.key := by
  refine h.differ ((standing_sublist a settings).subset hs)
    ((standing_sublist b settings).subset ht) fun hst => ?_
  obtain ⟨f, hf, rfl⟩ := List.mem_map.mp hs
  obtain ⟨g, hg, rfl⟩ := List.mem_map.mp ht
  cases hst
  obtain ⟨hmem, hf⟩ := List.mem_filter.mp hf
  obtain ⟨-, hg⟩ := List.mem_filter.mp hg
  obtain ⟨n, hn⟩ := h.anchors f hmem
  rw [hn, Bool.and_eq_true] at hf hg
  rw [Value.eq_text_of_sameKey hf.2, Value.eq_text_of_sameKey hg.2, Value.sameKey_text,
    beq_self_eq_true] at hab
  cases hab

theorem HasOwnKeys.differ_standard (h : HasOwnKeys settings) {f : StandardField}
    (hf : f ∈ settings.standard.filter (·.enabled.isSet)) {a : Value} {t : Slot}
    (ht : t ∈ standing a settings.custom) : KeysDiffer f.key t.key := by
  have hmem : Slot.standard f ∈ fields settings :=
    List.mem_append_left _ (List.mem_map_of_mem hf)
  refine h.differ hmem ((standing_sublist a settings).subset ht) fun hst => ?_
  obtain ⟨g, -, rfl⟩ := List.mem_map.mp ht
  cases hst

theorem pairwise_placed (h : HasOwnKeys settings) :
    (placed settings.custom settings.standard).Pairwise fun s t => KeysDiffer s.key t.key := by
  have hkeys : (settings.standard.filter (·.enabled.isSet)).Pairwise
      fun f g => KeysDiffer f.key g.key := by
    have hstandard := (List.pairwise_append.mp h.pairwise).1
    rw [List.pairwise_map] at hstandard
    exact hstandard
  have hnames : (settings.standard.filter (·.enabled.isSet)).Pairwise
      fun f g => f.name.sameKey g.name = false :=
    List.pairwise_map.mp (List.pairwise_append.mp (List.pairwise_cons.mp h.names).2).1
  refine List.pairwise_flatMap.mpr ⟨fun f hf => List.pairwise_cons.mpr ⟨fun t ht => ?_, ?_⟩, ?_⟩
  · exact h.differ_standard hf ht
  · exact h.pairwise.sublist (standing_sublist f.name settings)
  · -- Standard fields differ by their keys, and custom fields after two of them by their anchors.
    refine (hkeys.and hnames).imp_of_mem fun {f g} hf hg hfg s hs t ht => ?_
    obtain rfl | hs := List.mem_cons.mp hs
    · obtain rfl | ht := List.mem_cons.mp ht
      · exact hfg.1
      · exact h.differ_standard hf ht
    · obtain rfl | ht := List.mem_cons.mp ht
      · exact Std.Symm.symm _ _ (h.differ_standard hg hs)
      · exact h.differ_standing hfg.2 hs ht

theorem mem_fields_of_mem_slots {s : Slot} (h : s ∈ slots settings) : s ∈ fields settings := by
  rw [slots, List.append_assoc, List.mem_append, List.mem_append] at h
  obtain h | h | h := h
  · exact (standing_sublist _ settings).subset h
  · obtain ⟨f, hf, hs⟩ := List.mem_flatMap.mp h
    obtain rfl | hs := List.mem_cons.mp hs
    · exact List.mem_append_left _ (List.mem_map_of_mem hf)
    · exact (standing_sublist _ settings).subset hs
  · exact (standing_sublist _ settings).subset h

theorem pairwise_slots (h : HasOwnKeys settings) :
    ((slots settings).map Slot.key ++ [Except.ok tagsKey]).Pairwise KeysDiffer := by
  obtain ⟨hstart, hnames⟩ := List.pairwise_cons.mp h.names
  obtain ⟨-, -, hend⟩ := List.pairwise_append.mp hnames
  have hname : ∀ f ∈ settings.standard.filter (·.enabled.isSet),
      f.name ∈ (settings.standard.filter (·.enabled.isSet)).map (·.name) :=
    fun f hf => List.mem_map_of_mem hf
  refine List.pairwise_append.mpr ⟨List.pairwise_map.mpr ?_, List.pairwise_singleton .., ?_⟩
  · rw [slots, List.append_assoc]
    refine List.pairwise_append.mpr ⟨h.pairwise.sublist (standing_sublist _ settings),
      List.pairwise_append.mpr ⟨pairwise_placed h, h.pairwise.sublist (standing_sublist _ settings),
        fun s hs t ht => ?_⟩, fun s hs t ht => ?_⟩
    · obtain ⟨f, hf, hs⟩ := List.mem_flatMap.mp hs
      obtain rfl | hs := List.mem_cons.mp hs
      · exact h.differ_standard hf ht
      · exact h.differ_standing (hend _ (hname f hf) _ (List.mem_singleton_self _)) hs ht
    · obtain ht | ht := List.mem_append.mp ht
      · obtain ⟨f, hf, ht⟩ := List.mem_flatMap.mp ht
        obtain rfl | ht := List.mem_cons.mp ht
        · exact Std.Symm.symm _ _ (h.differ_standard hf hs)
        · exact h.differ_standing (hstart _ (List.mem_append_left _ (hname f hf))) hs ht
      · have hends := hstart _ (List.mem_append_right _ (List.mem_singleton_self _))
        exact h.differ_standing hends hs ht
  · intro key hkey tags htags
    obtain ⟨s, hs, rfl⟩ := List.mem_map.mp hkey
    exact (List.pairwise_append.mp h.keys).2.2 _
      (List.mem_map_of_mem (mem_fields_of_mem_slots hs)) _ htags

/-- The entries are those of the fields in their order, and the tags. -/
theorem build_eq {source : Source} (h : HasOwnKeys settings) :
    build source settings = (do
      let entries ← (slots settings).mapM (Slot.content? source)
      let tags ← Drawing.failing (tagPieces source.citation settings.tag)
      return entries.reduceOption ++ [(tagsKey, .sequence tags)]) := by
  have hkeys := pairwise_slots h
  have hentries : (slots settings).foldlM (addSlot source) [] =
      do return [] ++ (← (slots settings).mapM (Slot.content? source)).reduceOption :=
    foldlM_addSlot (fun key hkey => rfl) (List.pairwise_append.mp hkeys).1
  have hslots : (slots settings).mapM (Slot.content? source) >>= (fun entries => do
        let tags ← Drawing.failing (tagPieces source.citation settings.tag)
        return entries.reduceOption ++ [(tagsKey, .sequence tags)]) =
      (slots settings).foldlM (addSlot source) [] >>= (fun fm => do
        let tags ← Drawing.failing (tagPieces source.citation settings.tag)
        return fm ++ [(tagsKey, .sequence tags)]) := by
    rw [hentries, bind_assoc]
    simp only [pure_bind, List.nil_append]
  rw [slots, List.map_append, List.map_append, List.append_assoc, List.append_assoc] at hkeys
  obtain ⟨hstart, hkeys₁, -⟩ := List.pairwise_append.mp hkeys
  obtain ⟨hplaced, hkeys₂, -⟩ := List.pairwise_append.mp hkeys₁
  obtain ⟨hend, -, -⟩ := List.pairwise_append.mp hkeys₂
  rw [hslots, slots, List.foldlM_append, List.foldlM_append, bind_assoc, bind_assoc, build,
    addCustom_eq (fun key hkey => rfl) hstart]
  -- At each place the keys of the fields that are still to come are new.
  refine Drawing.bind_congr_of_yields (Fresh.foldlM (fun key hkey => rfl) hkeys) fun fm₁ h₁ => ?_
  rw [foldlM_addStandard h₁.left hplaced]
  refine Drawing.bind_congr_of_yields (h₁.foldlM hkeys₁) fun fm₂ h₂ => ?_
  rw [addCustom_eq h₂.left hend]
  refine Drawing.bind_congr_of_yields (h₂.foldlM hkeys₂) fun fm₃ h₃ => ?_
  congr 1
  funext tags
  rw [put_of_not_has (h₃ tagsKey (List.mem_singleton_self _))]

end

section
variable {source : Source} {fm : FrontMatter} {key : Text}

theorem addCustom_keeps {vars anchor : Value} {cs : List CustomField} {v : Value}
    (h : fm.toRecord.get? key = some v) :
    Yields (fun fm' => fm'.toRecord.get? key = some v) (addCustom vars anchor fm cs) := by
  induction cs generalizing fm with
  | nil => exact .pure h
  | cons c cs ih =>
    rw [addCustom]
    split
    · next hnew =>
      refine (Yields.trivial _).bind fun r _ => ?_
      cases r with
      | none => exact ih h
      | some w =>
        refine ih ?_
        have hne : c.name.sameKey (.text key) = false := by
          rw [Bool.eq_false_iff, ne_eq, (Value.IsName.text key).sameKey_iff]
          intro heq
          rw [has_eq, heq, Record.lookup_text, h] at hnew
          simp at hnew
        rw [toRecord_put, Record.get?_put_of_not_sameKey hne, h]
    · exact ih h

theorem written?_of_content? {f : StandardField} (henabled : f.enabled.isSet = true) (key : Text) :
    Yields (fun e => (toRecord e.toList).get? key = written? source key f)
      ((Slot.standard f).content? source) := by
  have hpiece : Yields (fun piece? => standardPiece? f.name source.citation source.contributors =
      .ok piece?) ((Slot.standard f).piece? source) := .failing fun piece? h => h
  have hkey : Yields (fun k => f.key = .ok k) (Drawing.failing f.key) := .failing fun k h => h
  rw [Slot.content?]
  refine hpiece.bind fun piece? hpiece => ?_
  cases piece? with
  | none =>
    refine .pure ?_
    rw [written?, hpiece]
    split
    · next hnone => cases hnone
    · rfl
  | some piece =>
    refine hkey.bind fun k hk => .pure ?_
    rw [Option.toList_some, toRecord_cons, written?, henabled, hk, hpiece]
    cases k <;> rfl

theorem addStandard_writes {cs : List CustomField} {last : Option Value}
    (h : ∀ v, last = some v → fm.toRecord.get? key = some v) (f : StandardField) :
    Yields (fun fm' => ∀ v, (written? source key f).or last = some v →
      fm'.toRecord.get? key = some v) (addStandard source cs fm f) := by
  cases henabled : f.enabled.isSet with
  | false =>
    rw [addStandard, written?, henabled]
    exact .pure h
  | true =>
    have hslot : Yields (fun fm' => fm'.toRecord.get? key =
        (written? source key f).or (fm.toRecord.get? key)) (addSlot source fm (.standard f)) := by
      rw [addSlot]
      refine (written?_of_content? henabled key).bind fun e he => ?_
      cases e with
      | none =>
        rw [← he]
        exact .pure rfl
      | some entry =>
        obtain ⟨k, piece⟩ := entry
        refine .pure ?_
        rw [toRecord_put, Record.get?_put, ← he]
        rfl
    rw [addStandard_eq henabled]
    refine hslot.bind fun fm' hfm' => ?_
    cases hlast : (written? source key f).or last with
    | none =>
      refine (Yields.trivial _).mono fun fm'' _ v hv => ?_
      cases hv
    | some v =>
      -- It is there before the custom fields after `f`, which leave it.
      have hv : fm'.toRecord.get? key = some v := by
        rw [hfm']
        cases hwritten : written? source key f with
        | none =>
          rw [hwritten] at hlast
          exact h v hlast
        | some w =>
          rw [hwritten] at hlast
          exact hlast
      refine (addCustom_keeps hv).mono fun fm'' h'' w hw => ?_
      rw [h'', hw]

theorem foldlM_writes {cs : List CustomField} {last : Option Value} {ss : List StandardField}
    (h : ∀ v, last = some v → fm.toRecord.get? key = some v) :
    Yields (fun fm' => ∀ v, (ss.filterMap (written? source key)).getLast?.or last = some v →
      fm'.toRecord.get? key = some v) (ss.foldlM (addStandard source cs) fm) := by
  induction ss generalizing fm last with
  | nil => exact .pure h
  | cons s ss ih =>
    rw [List.foldlM_cons]
    refine (addStandard_writes h s).bind fun fm' h' => (ih h').mono fun fm'' h'' v hv => h'' v ?_
    rw [← hv, List.filterMap_cons]
    cases written? source key s with
    | none => rfl
    | some w =>
      rw [List.getLast?_cons]
      cases (ss.filterMap (written? source key)).getLast? <;> rfl

theorem get?_build_of_written {settings : Settings} {v : Value} (hkey : key ≠ "tags".toList)
    (h : (settings.standard.filterMap (written? source key)).getLast? = some v) :
    Yields (fun fm => fm.toRecord.get? key = some v) (build source settings) := by
  rw [build]
  refine (Yields.trivial _).bind fun fm₁ _ => ?_
  have hnone : ∀ v, none = some v → fm₁.toRecord.get? key = some v := fun v hv => by cases hv
  refine (foldlM_writes hnone).bind fun fm₂ h₂ => ?_
  refine (addCustom_keeps (h₂ v (by rw [h, Option.or_none]))).bind fun fm₃ h₃ => ?_
  refine (Yields.trivial _).bind fun tags _ => .pure ?_
  rw [toRecord_put, tagsKey, Value.ofString, Record.get?_put_of_ne _ hkey, h₃]

theorem get?_build_tags {settings : Settings} {tags : List Text}
    (htags : HasTags source.citation tags) :
    Yields (fun fm => fm.toRecord.get? "tags".toList =
      some (Note.texts (noteTags tags settings.tag))) (build source settings) := by
  obtain ⟨pieces, hpieces, hvalues⟩ := exists_tagPieces htags settings.tag
  rw [build]
  refine (Yields.trivial _).bind fun fm₁ _ => ?_
  refine (Yields.trivial _).bind fun fm₂ _ => ?_
  refine (Yields.trivial _).bind fun fm₃ _ => ?_
  rw [hpieces, Drawing.failing_ok_bind]
  refine .pure ?_
  rw [toRecord_put, tagsKey, Value.ofString, Record.get?_put_self, Piece.value,
    hvalues.valueItems, Note.texts]

end

/-- What the last standard field writes under a key stays there, whatever custom fields are named,
and the tags are those of the note.  If no two fields write under the same key, the entries are
those of the fields in their order, and the tags. -/
theorem build_order (source : Source) (settings : Settings) :
    Yields (fun fm =>
      (∀ (key : Text) (v : Value), key ≠ "tags".toList →
        (settings.standard.filterMap (written? source key)).getLast? = some v →
        fm.toRecord.get? key = some v) ∧
      ∀ tags, HasTags source.citation tags →
        fm.toRecord.get? "tags".toList = some (Note.texts (noteTags tags settings.tag)))
      (build source settings) ∧
    (HasOwnKeys settings → build source settings = do
      let entries ← (slots settings).mapM (Slot.content? source)
      let tags ← Drawing.failing (tagPieces source.citation settings.tag)
      return entries.reduceOption ++ [(tagsKey, .sequence tags)]) := by
  refine ⟨fun d fm d' hrun => ⟨fun key v hkey hlast => ?_, fun tags htags => ?_⟩, build_eq⟩
  · exact get?_build_of_written hkey hlast d fm d' hrun
  · exact get?_build_tags htags d fm d' hrun

def paper : Record := Record.ofFields [("id", .text "a1".toList), ("title", .text "Sea".toList),
  ("type", .text "book".toList), ("tags", Note.texts ["ml".toList, " ".toList, "ice".toList])]

def paperSource : Source := ⟨.record paper, [], .record []⟩

def threePlaces : Settings where
  fileName := Settings.defaultFileName
  header := Settings.defaultHeader
  chapterHeader := Settings.defaultChapterHeader
  tag := " ml ".toList
  key := Settings.defaultKey
  standard := [Settings.standardField "id" "" true, Settings.standardField "title" "" true,
    Settings.standardField "type" "" true]
  custom := [⟨.text "last".toList, "z".toList, .bool true, .text []⟩,
    ⟨.text "after-title".toList, "t".toList, .bool true, .text "title".toList⟩,
    ⟨.text "first".toList, "a".toList, .bool true, .text "start".toList⟩]

def sharedKey : Settings where
  fileName := Settings.defaultFileName
  header := Settings.defaultHeader
  chapterHeader := Settings.defaultChapterHeader
  tag := []
  key := Settings.defaultKey
  standard := [⟨.text "id".toList, .text [], .bool true, .text " title ".toList⟩,
    Settings.standardField "title" "" true]
  custom := [⟨.text "title".toList, "z".toList, .bool true, .text "start".toList⟩]

theorem hasTags_paper :
    HasTags (.record paper) ["ml".toList, " ".toList, "ice".toList] := ⟨paper, rfl, rfl⟩

theorem hasOwnKeys_threePlaces : HasOwnKeys threePlaces where
  keys := by decide
  names := by decide
  anchors := by
    intro f hf
    simp only [threePlaces, List.mem_cons, List.not_mem_nil, or_false] at hf
    obtain rfl | rfl | rfl := hf <;> exact ⟨_, rfl⟩

theorem assembles_sharedKey : Assembles paperSource sharedKey where
  citation := ⟨paper, _, rfl, by decide, rfl⟩
  standard := by
    intro s hs _
    simp only [sharedKey, List.mem_cons, List.not_mem_nil, or_false] at hs
    obtain rfl | rfl := hs <;> exact ⟨_, rfl⟩
  custom := by
    intro c hc _
    simp only [sharedKey, List.mem_cons, List.not_mem_nil, or_false] at hc
    have hvalue := customValue_plain (s := "z".toList) (by decide) (by decide) (by decide)
      (.text "title".toList) []
    rw [hc, paperSource, hvalue]
    exact .pure _

theorem build_order_paper :
    ((build paperSource threePlaces).run ⟨0⟩).1.toOption.map toRecord = some
      (Record.ofFields [("first", .text "a".toList), ("id", .text "a1".toList),
        ("title", .text "Sea".toList), ("after-title", .text "t".toList),
        ("type", .text "book".toList), ("last", .text "z".toList),
        ("tags", Note.texts ["ml".toList, "ice".toList])]) ∧
    ∃ fm d, (build paperSource sharedKey).run ⟨0⟩ = (.ok fm, d) ∧
      fm.toRecord.get? "title".toList = some (.text "Sea".toList) ∧
      fm.toRecord.get? "tags".toList = some (Note.texts ["ml".toList, "ice".toList]) := by
  constructor
  · rw [(build_order paperSource threePlaces).2 hasOwnKeys_threePlaces]
    decide +kernel
  · obtain ⟨fm, d, hrun⟩ := build_returns assembles_sharedKey ⟨0⟩
    obtain ⟨hkeys, htags⟩ := (build_order paperSource sharedKey).1 _ _ _ hrun
    exact ⟨fm, d, hrun, hkeys _ _ (by decide) (by decide), htags _ hasTags_paper⟩

end LitNote.FrontMatter
