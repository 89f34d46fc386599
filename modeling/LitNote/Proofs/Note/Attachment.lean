import LitNote.Proofs.ArrayLiteral.Links
import LitNote.Proofs.Note.Variables

/-!
Links to attachments: their characters, and their place among the variables of a note.
-/

namespace LitNote.Note

theorem mem_extension {path : Text} {c : Char} (h : c ∈ extension path) :
    c ∈ path ∨ Text.IsBeyondMarks c := by
  rw [extension] at h
  split at h
  · obtain hmem | hbeyond := Text.isBeyondMarks_of_mem_toUpper h
    · rw [List.mem_reverse] at hmem
      have hmem := (List.takeWhile_sublist _).mem hmem
      exact .inl (List.mem_reverse.mp hmem)
    · exact .inr hbeyond
  · have hfile : c ∈ ['F', 'I', 'L', 'E'] := h
    simp only [List.mem_cons, List.not_mem_nil, or_false] at hfile
    obtain rfl | rfl | rfl | rfl := hfile <;> exact .inr ⟨by decide, by decide⟩

theorem attachmentLink_eq (path : Text) : attachmentLink path =
    '[' :: '[' :: (path ++ '|' :: extension path ++ [']', ']']) := rfl

theorem mem_attachmentLink {path : Text} {c : Char} (h : c ∈ attachmentLink path) :
    c ∈ path ∨ c ∈ ['[', '|', ']'] ∨ Text.IsBeyondMarks c := by
  rw [attachmentLink_eq] at h
  simp only [List.mem_cons, List.mem_append, List.not_mem_nil, or_false] at h
  obtain rfl | rfl | (h | rfl | h) | rfl | rfl := h
  · exact .inr (.inl (by decide))
  · exact .inr (.inl (by decide))
  · exact .inl h
  · exact .inr (.inl (by decide))
  · obtain h | h := mem_extension h
    · exact .inl h
    · exact .inr (.inr h)
  · exact .inr (.inl (by decide))
  · exact .inr (.inl (by decide))

theorem isPlainLink_attachmentLink {path : Text} (h : Json.IsPlainText path) :
    ArrayLiteral.IsPlainLink (attachmentLink path) where
  brackets := ⟨_, attachmentLink_eq path⟩
  plain c hc := by
    have hmarks : ∀ c ∈ ['[', '|', ']'], Json.IsPlain c := by simp [Json.IsPlain]
    obtain hc | hc | hc := mem_attachmentLink hc
    · exact h c hc
    · exact hmarks c hc
    · exact (Json.isPlain_of_isBeyondMarks hc).1
  bar := by simp [attachmentLink_eq]

theorem comma_mem_attachmentLink {path : Text} : ',' ∈ attachmentLink path ↔ ',' ∈ path := by
  constructor
  · intro h
    obtain h | h | h := mem_attachmentLink h
    · exact h
    · exact absurd h (by decide)
    · exact absurd rfl (Json.isPlain_of_isBeyondMarks h).2
  · intro h
    simp [attachmentLink_eq, h]

def FewBrackets (path : Text) : Prop := path.count '[' + 3 < Json.maxDepth

instance (path : Text) : Decidable (FewBrackets path) := Nat.decLt ..

theorem hasBar_attachmentLink {path : Text} (h : FewBrackets path) :
    ArrayLiteral.HasBar (attachmentLink path) := by
  refine ⟨'[' :: '[' :: path, extension path ++ [']', ']'], ?_, ?_⟩
  · rw [attachmentLink_eq, List.append_assoc]
    rfl
  · rw [List.count_cons_self, List.count_cons_self]
    exact h

theorem get?_attachments {citation : Value} {contributors : List Contributor} {context : Context}
    {vars : Record} (h : templateVars citation contributors context = .ok vars) :
    vars.get? "attachments".toList = some (texts (context.attachments.map attachmentLink)) := by
  obtain ⟨authors, record, lists, key, -, -, rfl⟩ := exists_of_templateVars h
  let links := context.attachments.map attachmentLink
  have hfields : attachmentFields context.attachments = Record.ofFields
      ([("pdflink", texts context.attachments), ("raw_pdflinks", texts context.attachments)] ++
        ("attachments", texts links) :: [("quoted_attachments", texts (links.map quotes)),
          ("raw_pdflink", firstText context.attachments), ("attachment", firstText links),
          ("quoted_attachment", firstText (links.map quotes))]) := rfl
  rw [linkFields, Record.get?_update_other _ (by simp), hfields]
  exact Record.get?_update_ofFields _ (by simp)

end LitNote.Note
