import LitNote.Proofs.FrontMatter.Rendered
import LitNote.Proofs.Value.Plain

/-!
Data that a custom field takes over through its JSON form.  Main statement: the field holds the data
as it was, alone or as the item of a list.
-/

namespace LitNote.FrontMatter

open Json (IsData Written)
open Template (IsKey IsFormatter)

theorem not_hasLong_of_isData {n : Nat} {v : Value} (h : IsData n v) : ¬v.HasLong := by
  induction h with
  | int n hi =>
    rw [Value.hasLong_int_iff, hi]
    exact Bool.false_ne_true
  | list _ ih =>
    rw [Value.hasLong_list_iff]
    rintro ⟨x, hx, hlong⟩
    exact ih x hx hlong
  | _ =>
    intro hlong
    cases hlong

theorem not_outgrows_of_isData {n room : Nat} {v : Value} (h : IsData n v) (hroom : 3 * n ≤ room) :
    ¬v.Outgrows room := by
  induction h generalizing room with
  | list _ ih =>
    rw [Value.outgrows_list_iff, not_or, not_exists]
    refine ⟨by omega, fun x hx => ih x hx.1 (by omega) hx.2⟩
  | @record n fields hdistinct hfields _ =>
    obtain ⟨s, hs⟩ := Json.exists_written (.record hdistinct hfields)
    rw [Value.outgrows_record_iff, hs.write_eq room (by omega)]
    exact nofun
  | _ =>
    intro houtgrows
    cases houtgrows

theorem renderValue_json {v : Value} {s t : Text} (key : Text) (hnull : v ≠ .null)
    (hplain : v.plain = .ok t) (hwrite : Json.write v = .ok s) :
    Template.renderValue key ["json".toList] v = pure s := by
  have habsent : v ≠ .absent := by
    rintro rfl
    cases hwrite
  have hdraw : Template.Formatter.json.draw v t [] = pure s := by
    show Drawing.failing (Json.writeOr _ v) = _
    rw [Json.writeOr, hwrite]
    rfl
  rw [Template.renderValue_of_formatters (List.cons_ne_nil _ _) hnull habsent]
  exact Template.applyChain_single (by decide) (by decide) (by decide) hplain hdraw

def jsonItem (x : Text) : Text :=
  ArrayLiteral.bracketed (Template.Token.tagRaw (x ++ "|json".toList))

theorem parse_jsonItem {x : Text} (hx : IsKey x) :
    Template.parse (jsonItem x) = .ok [.text ['['], .var x ["json".toList], .text [']']] := by
  have hjson : IsFormatter "json".toList := by decide
  have hw : Template.WellFormed [.text ['['], .var x ["json".toList], .text [']']] :=
    .text (by decide) (by decide) id (.var hx (fun f hf => List.mem_singleton.mp hf ▸ hjson)
      (.text (by decide) (by decide) id .nil))
  exact Template.parse_print hw (Nat.zero_le _)

theorem get?_single (x : Text) (v : Value) : Scope.get? [[(.text x, v)]] x = some v := by
  simp [Scope.get?, Record.get?]

theorem shown_of_write {v : Value} {s : Text} (hwrite : Json.write v = .ok s)
    (hcontainer : (∃ vs, v = .list vs) ∨ ∃ es, v = .record es) :
    v.shown = .ok s ∧ looksStructured s = true := by
  obtain ⟨vs, rfl⟩ | ⟨es, rfl⟩ := hcontainer
  · refine ⟨by rw [Value.shown, Json.writeOr, hwrite], ?_⟩
    rw [Json.write] at hwrite
    obtain ⟨t, -, ht⟩ := Failure.bind_eq_ok_iff.mp (Stack.descend_eq_ok_iff.mp hwrite).2
    cases ht
    exact looksStructured_bracketed t
  · refine ⟨by rw [Value.shown, Json.writeOr, hwrite], ?_⟩
    rw [Json.write] at hwrite
    obtain ⟨t, -, ht⟩ := Failure.bind_eq_ok_iff.mp (Stack.descend_eq_ok_iff.mp hwrite).2
    cases ht
    exact looksStructured_braces t

theorem customValue_jsonItem {x : Text} (hx : IsKey x) (hrand : x ≠ "rand".toList) {v : Value}
    (hv : IsData (Json.maxDepth - 1) v) (hroom : ¬v.Outgrows Stack.room) (hnull : v ≠ .null)
    (name : Value) :
    customValue name (jsonItem x) (.record [(.text x, v)]) = pure (some (.list [v])) := by
  obtain ⟨s, hs⟩ := Json.exists_written hv
  obtain ⟨t, ht⟩ :=
    (Value.exists_plain_iff (Nat.le_refl _)).mpr ⟨not_hasLong_of_isData hv, hroom⟩
  have hread : Json.read (ArrayLiteral.bracketed s) = .ok (.list [v]) :=
    Json.read_of_written (Json.written_list (.single hs))
  have hnormal : ArrayLiteral.normalize (ArrayLiteral.bracketed s) =
      .ok (ArrayLiteral.bracketed s) := by
    refine ArrayLiteral.normalize_of_read hread ?_
    obtain ⟨c, u, rfl, -, hc, -⟩ := hs.starts
    exact ArrayLiteral.filter_ne_nil (List.head?_cons ..) hc
  have harray : ArrayLiteral.isTemplate (jsonItem x) = true := ArrayLiteral.isTemplate_bracketed _
  have hshape := looksStructured_bracketed s
  have hvar : Template.renderNode [[(.text x, v)]] (.var x ["json".toList]) = pure s := by
    rw [Template.renderNode, Template.renderVariable_of_get? _ hrand (get?_single x v),
      renderValue_json x hnull ht (hs.write_eq _ (Nat.sub_le ..))]
  have hnodes : Template.renderNodes [[(.text x, v)]]
      [.text ['['], .var x ["json".toList], .text [']']] = pure (ArrayLiteral.bracketed s) :=
    Template.renderNodes_text (Template.renderNodes_cons hvar
      (Template.renderNodes_text (Template.renderNodes_nil _)))
  have hrender := Template.render_of_parse (parse_jsonItem hx) hnodes
  have hcandidate : candidate (ArrayLiteral.isTemplate (jsonItem x)) (ArrayLiteral.bracketed s) =
      .ok (ArrayLiteral.bracketed s) := by
    rw [candidate, harray, if_pos rfl, hnormal]
  exact customValue_of_candidate (takenOver?_of_isTemplate name harray) hrender hcandidate
    (storedValue_of_read hshape hcandidate hread)

theorem customValue_tag {x : Text} (hx : IsKey x) (hrand : x ≠ "rand".toList) {v : Value}
    (hv : IsData Json.maxDepth v) (hcontainer : (∃ vs, v = .list vs) ∨ ∃ es, v = .record es)
    {name : Value} (hown : takenOver? name (Template.Token.tagRaw x) = none) :
    customValue name (Template.Token.tagRaw x) (.record [(.text x, v)]) = pure (some v) := by
  obtain ⟨s, hs⟩ := Json.exists_written hv
  have hread := Json.read_of_written hs
  have harray : ArrayLiteral.isTemplate (Template.Token.tagRaw x) = false := rfl
  obtain ⟨hshown, hshape⟩ := shown_of_write (hs.write_eq _ (Nat.le_refl _)) hcontainer
  have hvalue : Template.renderValue x [] v = pure s := by
    have hrender : Template.renderValue x [] v = Drawing.failing v.shown := by
      obtain ⟨vs, rfl⟩ | ⟨es, rfl⟩ := hcontainer <;> rfl
    rw [hrender, hshown]
    rfl
  have hvar : Template.renderNode [[(.text x, v)]] (.var x []) = pure s := by
    rw [Template.renderNode, Template.renderVariable_of_get? _ hrand (get?_single x v), hvalue]
  have hnodes := Template.renderNodes_cons hvar (Template.renderNodes_nil _)
  rw [List.append_nil] at hnodes
  have hrender := Template.render_of_parse (Template.parse_tag hx) hnodes
  have hcandidate : candidate (ArrayLiteral.isTemplate (Template.Token.tagRaw x)) s = .ok s := by
    rw [candidate, harray]
    rfl
  exact customValue_of_candidate hown hrender hcandidate
    (storedValue_of_read hshape hcandidate hread)

/-- Data under a name, whatever it holds, is stored as it is: as the item of a list by the template
that asks for its JSON form, if there is also room for its plain text, and alone by its tag if it is
a list or a record. -/
theorem customValue_data {x : Text} (hx : IsKey x) (hrand : x ≠ "rand".toList) {v : Value}
    (hnull : v ≠ .null) (name : Value) :
    (IsData (Json.maxDepth - 1) v → ¬v.Outgrows Stack.room →
      customValue name (jsonItem x) (.record [(.text x, v)]) = pure (some (.list [v]))) ∧
    (IsData Json.maxDepth v → (∃ vs, v = .list vs) ∨ (∃ es, v = .record es) →
      takenOver? name (Template.Token.tagRaw x) = none →
      customValue name (Template.Token.tagRaw x) (.record [(.text x, v)]) = pure (some v)) :=
  ⟨fun hv hroom => customValue_jsonItem hx hrand hv hroom hnull name,
    fun hv hcontainer hown => customValue_tag hx hrand hv hcontainer hown⟩

def nestedData : Value :=
  .record (Json.entriesOf [(['b'], .list [.text "\"[[\x7b\x7b\\,".toList, .int (-12), .null]),
    (['a'], .record [])])

theorem isData_nestedData (n : Nat) : IsData (n + 2) nestedData := by
  have hint : Integer.tooLong (-12) = false := by decide +kernel
  have hitems : ∀ v ∈ [.text "\"[[\x7b\x7b\\,".toList, .int (-12), .null], IsData n v := by
    intro v hv
    simp only [List.mem_cons, List.not_mem_nil, or_false] at hv
    obtain rfl | rfl | rfl := hv
    · exact .text n _
    · exact .int n hint
    · exact .null n
  have hempty : IsData (n + 1) (.record (Json.entriesOf [])) :=
    .record List.nodup_nil fun _ hf => absurd hf List.not_mem_nil
  refine .record (by decide) fun f hf => ?_
  simp only [List.mem_cons, List.not_mem_nil, or_false] at hf
  obtain rfl | rfl := hf
  · exact .list hitems
  · exact hempty

theorem customValue_data_nested :
    IsKey ['x'] ∧ IsData Json.maxDepth nestedData ∧ ¬nestedData.Outgrows Stack.room ∧
      customValue (.text ['f']) (jsonItem ['x']) (.record [(.text ['x'], nestedData)]) =
        pure (some (.list [nestedData])) ∧
      customValue (.text ['f']) (Template.Token.tagRaw ['x'])
        (.record [(.text ['x'], nestedData)]) = pure (some nestedData) := by
  have hx : IsKey ['x'] := by decide
  have h := customValue_data hx (by decide) (v := nestedData) (by intro h; cases h) (.text ['f'])
  have hdata := isData_nestedData (Json.maxDepth - 2)
  have hroom : ¬nestedData.Outgrows Stack.room :=
    not_outgrows_of_isData (isData_nestedData 0) (Stack.le_room (by decide))
  exact ⟨hx, hdata, hroom, h.1 (isData_nestedData _) hroom, h.2 hdata (.inr ⟨_, rfl⟩) (by decide)⟩

end LitNote.FrontMatter
