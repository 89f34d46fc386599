import LitNote.Note.Variables
import LitNote.Proofs.Failure
import LitNote.Proofs.Value.Record

/-!
The variables of a note: which of them come from the citation, and the names of its authors.
-/

namespace LitNote

namespace Contributor

def authorRole : Value := .text "author".toList

structure IsNamedAuthor (c : Contributor) : Prop where
  role : c.role = authorRole
  given : ∃ s, c.given = .text s
  family : ∃ s, c.family = .text s
  literal : ∃ s, c.literal = .text s

theorem IsNamedAuthor.exists_displayName {c : Contributor} (h : IsNamedAuthor c) :
    ∃ name, c.displayName = .ok name := by
  obtain ⟨given, hgiven⟩ := h.given
  obtain ⟨family, hfamily⟩ := h.family
  obtain ⟨literal, hliteral⟩ := h.literal
  rw [displayName, hgiven, hfamily, hliteral]
  simp only [trimmed, Failure.ok_bind]
  split
  · exact ⟨_, rfl⟩
  split
  · exact ⟨_, rfl⟩
  split
  · exact ⟨_, rfl⟩
  · exact ⟨_, rfl⟩

theorem IsNamedAuthor.exists_fullName {c : Contributor} (h : IsNamedAuthor c) :
    ∃ name, c.fullName = .ok (.text name) := by
  obtain ⟨given, hgiven⟩ := h.given
  obtain ⟨family, hfamily⟩ := h.family
  obtain ⟨literal, hliteral⟩ := h.literal
  rw [fullName, hgiven, hfamily, hliteral]
  split
  · exact ⟨_, rfl⟩
  split
  · exact ⟨_, rfl⟩
  · rw [Value.orElse]
    split
    · exact ⟨_, rfl⟩
    · exact ⟨_, rfl⟩

section
variable {cs : List Contributor}

def addByRole (groups : List (Value × List Contributor)) (c : Contributor) :
    Except Failure (List (Value × List Contributor)) :=
  let role := c.role.orElse authorRole
  if role.isKey then .ok (insertByRole groups role c) else .error (.noKeyValue role.kind)

theorem byRole_eq (cs : List Contributor) : byRole cs = cs.foldlM addByRole [] := rfl

theorem addByRole_author {c : Contributor} (h : c.role = authorRole)
    (groups : List (Value × List Contributor)) :
    addByRole groups c = .ok (insertByRole groups authorRole c) := by
  rw [addByRole, h]
  rfl

theorem foldlM_addByRole (hroles : ∀ c ∈ cs, c.role = authorRole) (done : List Contributor) :
    cs.foldlM addByRole [(authorRole, done)] = .ok [(authorRole, done ++ cs)] := by
  -- By induction on the authors: each of them goes to the end of the one group.
  induction cs generalizing done with
  | nil =>
    rw [List.append_nil]
    rfl
  | cons c cs ih =>
    have hrest := ih (fun d hd => hroles d (List.mem_cons_of_mem c hd)) (done ++ [c])
    rw [List.append_assoc, List.singleton_append] at hrest
    rw [List.foldlM_cons, addByRole_author (hroles c (List.mem_cons_self ..))]
    exact hrest

theorem byRole_authors (hne : cs ≠ []) (hroles : ∀ c ∈ cs, c.role = authorRole) :
    byRole cs = .ok [(authorRole, cs)] := by
  obtain ⟨c, cs, rfl⟩ := List.exists_cons_of_ne_nil hne
  rw [byRole_eq, List.foldlM_cons, addByRole_author (hroles c (List.mem_cons_self ..))]
  exact foldlM_addByRole (fun d hd => hroles d (List.mem_cons_of_mem c hd)) [c]

def listNames : List String := ["authors_raw", "authors", "authors_family", "authors_given"]

theorem lists_authors {full : List Value} (hne : cs ≠ [])
    (hroles : ∀ c ∈ cs, c.role = authorRole) (hfull : cs.mapM fullName = .ok full) :
    ∃ raw family given, lists cs = .ok (Record.ofFields [("authors_raw", raw),
      ("authors", .list (full.filter Value.isSet)), ("authors_family", family),
      ("authors_given", given)]) := by
  obtain ⟨raw, family, given, hrole⟩ : ∃ raw family given, roleLists authorRole cs =
      .ok (Record.ofFields [("authors_raw", raw), ("authors", .list (full.filter Value.isSet)),
        ("authors_family", family), ("authors_given", given)]) := by
    rw [roleLists, hfull]
    exact ⟨_, _, _, rfl⟩
  refine ⟨raw, family, given, ?_⟩
  rw [lists, byRole_authors hne hroles]
  simp only [bind, Except.bind, List.foldlM_cons, hrole]
  rfl

end

end Contributor

namespace Note

variable {citation : Value} {contributors : List Contributor} {context : Context} {vars : Record}

theorem exists_of_templateVars (h : templateVars citation contributors context = .ok vars) :
    ∃ authors record lists key, citation.toRecord = .ok record ∧
      Contributor.lists contributors = .ok lists ∧
      vars = (((((Record.ofFields (clockFields context.now ++ [("authors", .text authors)])).update
        record).update lists).set "citekey" key).update
          (attachmentFields context.attachments)).update (linkFields context.related) := by
  rw [templateVars] at h
  obtain ⟨authors, -, h⟩ := Failure.bind_eq_ok_iff.mp h
  obtain ⟨record, hrecord, h⟩ := Failure.bind_eq_ok_iff.mp h
  obtain ⟨lists, hlists, h⟩ := Failure.bind_eq_ok_iff.mp h
  obtain ⟨fields, -, h⟩ := Failure.bind_eq_ok_iff.mp h
  cases h
  exact ⟨authors, record, lists, _, hrecord, hlists, rfl⟩

theorem exists_templateVars (fields : Record)
    (h : ∀ c ∈ contributors, Contributor.IsNamedAuthor c) (context : Context) :
    ∃ vars, templateVars (.record fields) contributors context = .ok vars := by
  obtain ⟨displayed, hdisplayed⟩ :
      ∃ names, (contributors.filter (·.isAuthor)).mapM Contributor.displayName = .ok names :=
    Failure.exists_mapM fun c hc => (h c (List.mem_filter.mp hc).1).exists_displayName
  obtain ⟨full, hfull⟩ : ∃ names, contributors.mapM Contributor.fullName = .ok names := by
    refine Failure.exists_mapM fun c hc => ?_
    obtain ⟨name, hname⟩ := (h c hc).exists_fullName
    exact ⟨.text name, hname⟩
  have hauthors : ∃ authors, Contributor.authorsText contributors = .ok authors := by
    rw [Contributor.authorsText, hdisplayed]
    simp only [Failure.ok_bind]
    split <;> exact ⟨_, rfl⟩
  have hlists : ∃ lists, Contributor.lists contributors = .ok lists := by
    by_cases hne : contributors = []
    · rw [hne]
      exact ⟨_, rfl⟩
    · obtain ⟨_, _, _, heq⟩ := Contributor.lists_authors hne (fun c hc => (h c hc).role) hfull
      exact ⟨_, heq⟩
  obtain ⟨authors, hauthors⟩ := hauthors
  obtain ⟨lists, hlists⟩ := hlists
  rw [templateVars, hauthors, hlists]
  exact ⟨_, rfl⟩

def linkNames : List String :=
  ["citekey", "pdflink", "raw_pdflinks", "attachments", "quoted_attachments", "raw_pdflink",
    "attachment", "quoted_attachment", "links", "linkPaths", "links_string"]

theorem get?_templateVars (h : templateVars citation contributors context = .ok vars)
    {name : Text} (hname : ∀ s ∈ linkNames, s.toList ≠ name) :
    ∃ start record lists, citation.toRecord = .ok record ∧
      Contributor.lists contributors = .ok lists ∧
      vars.get? name = ((Record.update start record).update lists).get? name := by
  obtain ⟨authors, record, lists, key, hrecord, hlists, rfl⟩ := exists_of_templateVars h
  refine ⟨Record.ofFields (clockFields context.now ++ [("authors", .text authors)]), record, lists,
    hrecord, hlists, ?_⟩
  have hkey : "citekey".toList ≠ name := hname _ (by decide)
  have hlinks : ["links", "linkPaths", "links_string"] ⊆ linkNames := by decide
  have hattachments : ["pdflink", "raw_pdflinks", "attachments", "quoted_attachments",
      "raw_pdflink", "attachment", "quoted_attachment"] ⊆ linkNames := by decide
  rw [linkFields, Record.get?_update_other _ fun f hf =>
      hname f.1 (hlinks (List.mem_map_of_mem hf)),
    attachmentFields, Record.get?_update_other _ fun f hf =>
      hname f.1 (hattachments (List.mem_map_of_mem hf)),
    Record.set, Value.ofString, Record.get?_put_of_ne _ hkey.symm]

section
variable {full : List Value} (hroles : ∀ c ∈ contributors, c.role = Contributor.authorRole)
  (hfull : contributors.mapM Contributor.fullName = .ok full)
include hroles hfull

theorem get?_of_citation {fields : Record} {name : Text} {v : Value}
    (h : templateVars (.record fields) contributors context = .ok vars)
    (hkeys : (fields.map Prod.fst).Nodup) (hget : fields.get? name = some v)
    (hname : ∀ s ∈ linkNames ++ Contributor.listNames, s.toList ≠ name) :
    vars.get? name = some v := by
  have hlinks : ∀ s ∈ linkNames, s.toList ≠ name := fun s hs =>
    hname s (List.mem_append_left _ hs)
  obtain ⟨start, record, lists, hrecord, hlists, heq⟩ := get?_templateVars h hlinks
  cases hrecord
  have hlisted (r : Record) : (r.update lists).get? name = r.get? name := by
    by_cases hne : contributors = []
    · rw [hne] at hlists
      cases hlists
      rfl
    · obtain ⟨raw, family, given, hmade⟩ := Contributor.lists_authors hne hroles hfull
      rw [hmade] at hlists
      cases hlists
      exact Record.get?_update_other r fun f hf =>
        hname f.1 (List.mem_append_right _ (List.mem_map_of_mem hf))
  rw [heq, hlisted, Record.get?_update hkeys, hget]
  rfl

theorem get?_authors (hne : contributors ≠ [])
    (h : templateVars citation contributors context = .ok vars) :
    vars.get? "authors".toList = some (.list (full.filter Value.isSet)) := by
  have hlinks : ∀ s ∈ linkNames, s.toList ≠ "authors".toList := by decide
  obtain ⟨start, record, lists, -, hlists, heq⟩ := get?_templateVars h hlinks
  obtain ⟨raw, family, given, hmade⟩ := Contributor.lists_authors hne hroles hfull
  have hfields : lists = Record.ofFields ([("authors_raw", raw)] ++
      ("authors", .list (full.filter Value.isSet)) ::
        [("authors_family", family), ("authors_given", given)]) := by
    rw [hmade] at hlists
    exact (Except.ok.inj hlists).symm
  rw [heq, hfields]
  exact Record.get?_update_ofFields _ (by simp)

end

end Note

end LitNote
