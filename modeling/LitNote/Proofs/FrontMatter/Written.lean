import LitNote.Proofs.ArrayLiteral.Depth
import LitNote.Proofs.FrontMatter.Assembly
import LitNote.Proofs.Json.ReadValues
import LitNote.Proofs.Value.Plain

/-!
Front matter that can be written.  Main statements: what custom fields add to it can, and their
values fail on nothing but nesting; and so for the front matter of a bare key.
-/

namespace LitNote

open Json (IsRead)

namespace Yaml.Node

variable {P : Failure → Prop} {room : Nat}

theorem failsOnly_ofItems {xs : List Value}
    (h : ∀ x ∈ xs, ∀ place, Failure.FailsOnly P (ofValue place x room)) (place : Option Place)
    (i : Nat) : Failure.FailsOnly P (ofItems place i xs room) := by
  induction xs generalizing i with
  | nil => exact .ok []
  | cons x xs ih =>
    rw [ofItems]
    exact (h x (List.mem_cons_self ..) _).bind fun _ _ =>
      (ih (fun y hy => h y (List.mem_cons_of_mem x hy)) (i + 1)).bind fun _ _ => .ok _

theorem failsOnly_ofEntries {es : Record} (hkeys : ∀ e ∈ es, ∃ s, e.1 = .text s)
    (h : ∀ e ∈ es, ∀ place, Failure.FailsOnly P (ofValue place e.2 room)) (place : Option Place) :
    Failure.FailsOnly P (ofEntries place es room) := by
  induction es with
  | nil => exact .ok []
  | cons e es ih =>
    obtain ⟨k, v⟩ := e
    rw [List.forall_mem_cons] at hkeys h
    obtain ⟨s, rfl⟩ := hkeys.1
    rw [ofEntries, ofValue]
    exact (h.1 _).bind fun _ _ => (ih hkeys.2 h.2).bind fun _ _ => .ok _

theorem failsOnly_ofValue {v : Value} (h : IsRead v) (place : Option Place) :
    Failure.FailsOnly (fun e => e = .tooDeep ∧ room < 3 * v.depth) (ofValue place v room) := by
  induction h generalizing place room with
  | int hn =>
    obtain ⟨s, hs⟩ := Value.exists_write_iff.mpr (ne_true_of_eq_false hn)
    rw [ofValue, hs]
    exact .ok _
  | @list xs _ ih =>
    rw [ofValue]
    refine Stack.failsOnly_descend (fun hlt => ⟨rfl, ?_⟩) fun hle => .map <|
      failsOnly_ofItems (fun x hx place => (ih x hx place).imp fun e he => ⟨he.1, ?_⟩) place 0
    · have := Value.depth_pos (v := .list xs) rfl
      omega
    · have := Value.depth_lt_of_mem (v := .list xs) rfl hx
      omega
  | @record es hkeys _ ih =>
    rw [ofValue]
    refine Stack.failsOnly_descend (fun hlt => ⟨rfl, ?_⟩) fun hle => .map <|
      failsOnly_ofEntries hkeys (fun f hf place => (ih f hf place).imp fun e he => ⟨he.1, ?_⟩) place
    · have := Value.depth_pos (v := .record es) rfl
      omega
    · have hmem : f.2 ∈ (Value.record es).members :=
        List.mem_flatMap.mpr ⟨f, hf, List.mem_cons_of_mem _ (List.mem_singleton.mpr rfl)⟩
      have := Value.depth_lt_of_mem rfl hmem
      omega
  | _ => exact .ok _

end Yaml.Node

namespace FrontMatter

open Drawing (Ends Returns Yields)

/-- Every key is a text or bytes, and pieces fail only on their nesting, and not at all
if `C` holds. -/
def IsWritable (C : Prop) (fm : FrontMatter) : Prop :=
  ∀ e ∈ fm, e.1.IsName ∧
    Failure.FailsOnly (fun f => f = .tooDeep ∧ ¬C) (e.2.node (Stack.room - 3))

section
variable {C : Prop} {fm : FrontMatter}

theorem IsWritable.put (h : fm.IsWritable C) {key : Value} (hkey : key.IsName) {piece : Piece}
    (hpiece : Failure.FailsOnly (fun f => f = .tooDeep ∧ ¬C) (piece.node (Stack.room - 3))) :
    (fm.put key piece).IsWritable C := by
  induction fm with
  | nil => exact List.forall_mem_singleton.mpr ⟨hkey, hpiece⟩
  | cons e fm ih =>
    obtain ⟨he, hfm⟩ := List.forall_mem_cons.mp h
    rw [FrontMatter.put]
    split
    · exact List.forall_mem_cons.mpr ⟨⟨he.1, hpiece⟩, hfm⟩
    · exact List.forall_mem_cons.mpr ⟨he, ih hfm⟩

theorem Yaml.Node.failsOnly_ofValue_name {P : Failure → Prop} {name : Value} (h : name.IsName)
    (room : Nat) : Failure.FailsOnly P (Yaml.Node.ofValue none name room) := by
  cases h <;> exact .ok _

theorem IsWritable.failsOnly_write (h : fm.IsWritable C) :
    Failure.FailsOnly (fun f => f = .tooDeep ∧ ¬C) fm.write := by
  have hentries : Failure.FailsOnly (fun f => f = .tooDeep ∧ ¬C)
      (Piece.nodeEntries fm (Stack.room - 3)) := by
    induction fm with
    | nil => exact .ok []
    | cons e fm ih =>
      obtain ⟨k, p⟩ := e
      obtain ⟨⟨hkey, hp⟩, hfm⟩ := List.forall_mem_cons.mp h
      rw [Piece.nodeEntries]
      exact (Yaml.Node.failsOnly_ofValue_name hkey _).bind fun _ _ =>
        hp.bind fun _ _ => (ih hfm).bind fun _ _ => .ok _
  rw [write, Piece.node, Stack.descend_of_le (Stack.le_room (by decide))]
  exact hentries.map.map

end

section
variable {isArray : Bool} {s : Text} {v : Value}

theorem failsOnly_candidate : Failure.FailsOnly (· = .tooDeep) (candidate isArray s) := by
  cases isArray with
  | false => exact .ok s
  | true => exact fun e he => (ArrayLiteral.normalize_eq_error_iff.mp he).1

theorem failsOnly_storedValue : Failure.FailsOnly (· = .tooDeep) (storedValue isArray s) := by
  cases hs : looksStructured s with
  | false =>
    rw [storedValue, hs]
    split
    · exact .ok _
    · exact .ok _
  | true =>
    cases ht : candidate isArray s with
    | error e =>
      rw [storedValue_of_candidate_error hs ht]
      exact .error (failsOnly_candidate e ht)
    | ok t =>
      rw [storedValue_of_candidate hs ht]
      split
      · exact .ok _
      · split
        · exact .error rfl
        · exact .ok _

theorem isRead_of_storedValue (h : storedValue isArray s = .ok (some v)) : IsRead v := by
  cases hs : looksStructured s with
  | false =>
    rw [storedValue, hs] at h
    split at h
    · split at h
      · cases h
        exact .list (List.forall_mem_nil _)
      · cases h
    · cases h
      exact .text s
  | true =>
    obtain ⟨t, ht⟩ := exists_candidate hs h
    rw [storedValue_of_candidate hs ht] at h
    split at h
    · next hread =>
      cases h
      exact Json.isRead_of_read hread
    · split at h
      · cases h
      · cases h
        exact .text s

end

def HasLinks (vars : Record) : Prop :=
  ∀ key ∈ ["pdflink", "attachments"], ∃ ts, vars.get? key.toList = some (Note.texts ts)

theorem exists_elementsOf {vars : Record} {key : String} {ts : List Text}
    (h : vars.get? key.toList = some (Note.texts ts)) :
    ∃ r, elementsOf (.record vars) key = .ok r ∧ ∀ v, r = some v → IsRead v := by
  have hfield : (vars.field key).orElse (.list []) = Note.texts ts := by
    rw [Record.field, Record.get, h]
    cases ts <;> rfl
  have helements : (Note.texts ts).elements = .ok (ts.map .text) := rfl
  have hfields : Value.fields (.record vars) = .ok vars := rfl
  rw [elementsOf, hfields]
  simp only [Failure.ok_bind, hfield, helements]
  cases ts with
  | nil =>
    refine ⟨none, rfl, fun v hv => ?_⟩
    cases hv
  | cons t ts =>
    refine ⟨_, rfl, fun v hv => ?_⟩
    cases hv
    exact .list (List.forall_mem_map.mpr fun t _ => .text t)

theorem mem_of_takenOver? {name : Value} {template : Text} {key : String}
    (h : takenOver? name template = some key) : key ∈ ["pdflink", "attachments"] := by
  rw [takenOver?] at h
  split at h
  · cases h
    exact List.mem_cons_self ..
  split at h
  · cases h
    exact List.mem_cons_of_mem _ (List.mem_singleton.mpr rfl)
  · cases h

theorem failsOnly_renderAs (template : Text) (vars : Value) :
    (Template.renderAs ⟨false, ArrayLiteral.isTemplate template⟩ template vars).FailsOnly
      (· = .tooDeep) := by
  have hrender : (Template.render template vars).Returns := Template.render_run_ok template vars
  refine (Drawing.FailsOnly.of_returns hrender).bind fun s => .failing ?_
  rw [finish_eq]
  exact failsOnly_candidate

/-- A custom field has a result, and there is room for it among the entries of front matter. -/
structure GivesValue (f : CustomField) (vars : Record) : Prop where
  returns : Returns (customValue f.name f.template (.record vars))
  shallow : Yields (fun r => ∀ v, r = some v → 3 * (v.depth + 1) ≤ Stack.room)
    (customValue f.name f.template (.record vars))

variable {P : Failure → Prop} {C : Prop} {vars : Record}

theorem customValue_ends (hP : P .tooDeep) (hlinks : HasLinks vars) {name : Value} {template : Text}
    (hc : C → Returns (customValue name template (.record vars))) :
    Ends P (fun r => ∀ v, r = some v → IsRead v) C
      (customValue name template (.record vars)) := by
  have hdeep {r : Except Failure (Option Value)} (h : Failure.FailsOnly (· = .tooDeep) r) :
      Failure.FailsOnly P r := h.imp fun e he => he ▸ hP
  refine ⟨?_, ?_, hc⟩
  · rw [customValue]
    split
    · next key hkey =>
      obtain ⟨ts, hts⟩ := hlinks key (mem_of_takenOver? hkey)
      obtain ⟨r, hr, -⟩ := exists_elementsOf hts
      exact .failing (.of_ok hr)
    · have hrendered : Drawing.FailsOnly P
          (Template.renderAs ⟨false, ArrayLiteral.isTemplate template⟩ template (.record vars)) :=
        fun d e d' hrun => failsOnly_renderAs template _ d e d' hrun ▸ hP
      exact hrendered.bind fun s => .failing (hdeep failsOnly_storedValue)
  · rw [customValue]
    split
    · next key hkey =>
      obtain ⟨ts, hts⟩ := hlinks key (mem_of_takenOver? hkey)
      obtain ⟨r, hr, hread⟩ := exists_elementsOf hts
      rw [hr]
      exact .pure hread
    · refine (Yields.trivial _).bind fun s _ => .failing fun r hr v hv => ?_
      rw [hv] at hr
      exact isRead_of_storedValue hr

theorem addCustom_ends (hP : P .tooDeep) (hlinks : HasLinks vars) {anchor : Value}
    {cs : List CustomField} (hnames : ∀ f ∈ cs, f.name.IsName)
    (hc : C → ∀ f ∈ cs, f.enabled.isSet = true → GivesValue f vars) {fm : FrontMatter}
    (h : fm.IsWritable C) : Ends P (IsWritable C) C (addCustom (.record vars) anchor fm cs) := by
  induction cs generalizing fm with
  | nil =>
    rw [addCustom]
    exact .pure h
  | cons f cs ih =>
    obtain ⟨hname, hnames⟩ := List.forall_mem_cons.mp hnames
    have ih {fm : FrontMatter} (h : fm.IsWritable C) := ih hnames (fun hC f' hf' =>
      hc hC f' (List.mem_cons_of_mem f hf')) h
    rw [addCustom]
    split
    · next hhere =>
      rw [Bool.and_eq_true, Bool.and_eq_true] at hhere
      have hgives (hC : C) := hc hC f (List.mem_cons_self ..) hhere.1.1
      have hvalue := (customValue_ends hP hlinks fun hC => (hgives hC).returns).and_yields
        fun hC => (hgives hC).shallow
      refine hvalue.bind fun r hr => ?_
      cases r with
      | none => exact ih h
      | some v =>
        obtain ⟨hread, hshallow⟩ := hr
        refine ih (h.put hname ?_)
        rw [Piece.node]
        refine (Yaml.Node.failsOnly_ofValue (hread v rfl) none).imp fun e he => ⟨he.1, fun hC => ?_⟩
        have := hshallow hC v rfl
        omega
    · exact ih h

def keyFields (key : Text) : Record := Record.ofFields [("id", .text key)]

def TakesKey (f : StandardField) : Prop := f.enabled.isSet = true ∧ f.name = .ofString "id"

theorem exists_standardPiece?_keyFields (name : Value) (key : Text) :
    ∃ piece?, standardPiece? name (.record (keyFields key)) [] = .ok piece? ∧
      ∀ piece, piece? = some piece →
        name = .ofString "id" ∧ ∀ room, Failure.FailsOnly P (piece.node room) := by
  have hnothing : ∀ piece : Piece, none = some piece →
      name = .ofString "id" ∧ ∀ room, Failure.FailsOnly P (piece.node room) := by
    intro piece h
    cases h
  rw [standardPiece?]
  split
  · exact ⟨none, rfl, hnothing⟩
  split
  · exact ⟨none, rfl, hnothing⟩
  have hfields : Value.fields (.record (keyFields key)) = .ok (keyFields key) := rfl
  have hlookup : (keyFields key).lookup name =
      if (Value.text "id".toList).sameKey name then some (.text key) else none :=
    Record.lookup_cons ..
  rw [hfields, Failure.ok_bind, fieldPiece?, hlookup]
  cases hsame : (Value.text "id".toList).sameKey name with
  | false => exact ⟨none, rfl, hnothing⟩
  | true =>
    obtain rfl := Value.eq_text_of_sameKey hsame
    cases key with
    | nil => exact ⟨none, rfl, hnothing⟩
    | cons c key =>
      refine ⟨_, rfl, fun piece hpiece => ?_⟩
      cases hpiece
      exact ⟨rfl, fun room => .ok _⟩

theorem StandardField.isName_of_key {f : StandardField} (hname : f.name = .ofString "id")
    {key : Value} (h : f.key = .ok key) : key.IsName := by
  have hid : f.name.IsName := hname ▸ .text _
  rw [StandardField.key.eq_def] at h
  split at h
  · cases h
    split
    · exact hid
    · exact .text _
  · cases h
    split
    · exact hid
    · exact .bytes _
  · cases h

section
variable (hP : P .tooDeep) (hlinks : HasLinks vars) (key : Text) {cs : List CustomField}
  (hnames : ∀ f ∈ cs, f.name.IsName)
  (hc : C → ∀ f ∈ cs, f.enabled.isSet = true → GivesValue f vars)
include hP hlinks hnames hc

theorem addStandard_ends {f : StandardField}
    (hkey : TakesKey f → Failure.FailsOnly P f.key ∧ (C → ∃ k, f.key = .ok k)) {fm : FrontMatter}
    (h : fm.IsWritable C) :
    Ends P (IsWritable C) C (addStandard ⟨.record (keyFields key), [], .record vars⟩ cs fm f) := by
  rw [addStandard]
  cases henabled : f.enabled.isSet with
  | false => exact .pure h
  | true =>
    obtain ⟨piece?, heq, hpiece⟩ := exists_standardPiece?_keyFields f.name key
    have htaken : Ends P (fun piece? => ∀ piece, piece? = some piece → f.name = .ofString "id" ∧
        ∀ room, Failure.FailsOnly (fun e => e = .tooDeep ∧ ¬C) (piece.node room)) C
        (Drawing.failing (standardPiece? f.name (.record (keyFields key)) [])) :=
      .failing_of_ok heq hpiece
    refine htaken.bind fun piece? hpiece => ?_
    cases piece? with
    | none => exact addCustom_ends hP hlinks hnames hc h
    | some piece =>
      obtain ⟨hname, hnode⟩ := hpiece piece rfl
      obtain ⟨hfails, hreturns⟩ := hkey ⟨henabled, hname⟩
      have hends : Ends P Value.IsName C (Drawing.failing f.key) :=
        .failing hfails (fun k hk => StandardField.isName_of_key hname hk) hreturns
      exact hends.bind fun k hk => addCustom_ends hP hlinks hnames hc (h.put hk (hnode _))

end

theorem AreTexts.failsOnly_node {ps : List Piece} {ts : List Text} (h : AreTexts ps ts) :
    Failure.FailsOnly P ((Piece.sequence ps).node (Stack.room - 3)) := by
  have hitems (room : Nat) : Failure.FailsOnly P (Piece.nodeItems ps room) := by
    induction h with
    | nil => exact .ok []
    | @cons p t ps ts hp _ ih =>
      have hnode : Failure.FailsOnly P (p.node room) := by
        cases p with
        | own v =>
          obtain rfl : v = .text t := hp
          exact .ok _
        | cited place v =>
          obtain rfl : v = .text t := hp
          exact .ok _
        | record es => cases hp
        | sequence xs => cases hp
      rw [Piece.nodeItems]
      exact hnode.bind fun _ _ => ih.bind fun _ _ => .ok _
  rw [Piece.node]
  refine Stack.failsOnly_descend (fun hlt => ?_) fun _ => (hitems _).map
  have : 6 ≤ Stack.room := Stack.le_room (by decide)
  omega

/-- The front matter of a citation that has nothing but a key can be written.  It fails only if a
custom field nests too deep, or the key of the field that takes over the key does. -/
theorem build_ends (hP : P .tooDeep) (hlinks : HasLinks vars) (key : Text) {settings : Settings}
    (hnames : ∀ f ∈ settings.custom, f.name.IsName)
    (hkey : ∀ f ∈ settings.standard, TakesKey f →
      Failure.FailsOnly P f.key ∧ (C → ∃ k, f.key = .ok k))
    (hc : C → ∀ f ∈ settings.custom, f.enabled.isSet = true → GivesValue f vars) :
    Ends P (IsWritable C) C (build ⟨.record (keyFields key), [], .record vars⟩ settings) := by
  have hnil : IsWritable C [] := List.forall_mem_nil _
  rw [build]
  refine (addCustom_ends hP hlinks hnames hc hnil).bind fun fm₁ h₁ => ?_
  refine (Ends.foldlM (fun f hf fm h => ?_) h₁).bind fun fm₂ h₂ => ?_
  · exact addStandard_ends hP hlinks key hnames hc (hkey f hf) h
  refine (addCustom_ends hP hlinks hnames hc h₂).bind fun fm₃ h₃ => ?_
  have htagless : HasTags (.record (keyFields key)) [] := ⟨_, rfl, rfl⟩
  obtain ⟨pieces, hpieces, htexts⟩ := exists_tagPieces htagless settings.tag
  rw [hpieces]
  exact .pure (h₃.put (.text _) htexts.failsOnly_node)

end FrontMatter

end LitNote
