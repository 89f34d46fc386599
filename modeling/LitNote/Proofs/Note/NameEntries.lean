import LitNote.Note.Contributor
import LitNote.Proofs.Failure
import LitNote.Proofs.Value.Record

/-!
From the name entries of a citation to its contributors, and back.  Main statements: an entry of a
contributor has all that was kept of the name entry, and makes the contributor again.
-/

namespace LitNote.Contributor

structure IsNameEntry (e : Record) : Prop where
  distinct : e.HasDistinctKeys
  role : e.field "role" = .null ∨ ∃ s, e.field "role" = .text s

def nameParts : List String := ["family", "given", "literal"]

/-- What a contributor keeps of a name entry: all but the role and parts of the name that are not
set. -/
def keeps (f : Value × Value) : Bool :=
  f.1 != .ofString "role" && (f.2.isSet || !nameParts.any fun part => f.1 == .ofString part)

structure IsContributorOf (role : String) (e : Record) (c : Contributor) : Prop where
  role_eq : c.role = (e.field "role").orElse (.ofString role)
  entry_perm : c.entry.Perm (e.filter keeps)
  again : ofEntry c.entry c.role = c

section
variable {α : Type} {p q : α → Bool} {xs : List α}

theorem perm_filter_or (h : ∀ x ∈ xs, p x = true → q x = false) :
    (xs.filter p ++ xs.filter q).Perm (xs.filter fun x => p x || q x) := by
  have hp : (xs.filter fun x => p x || q x).filter p = xs.filter p := by
    rw [List.filter_filter]
    apply List.filter_congr
    intro x _
    cases p x <;> simp
  have hq : ((xs.filter fun x => p x || q x).filter fun x => !p x) = xs.filter q := by
    rw [List.filter_filter]
    apply List.filter_congr
    intro x hx
    cases hpx : p x with
    | false => simp
    | true => rw [h x hx hpx]; rfl
  have hperm := List.filter_append_perm p (xs.filter fun x => p x || q x)
  rwa [hp, hq] at hperm

end

section
variable {e : Record}

def isPart (part : String) (f : Value × Value) : Bool := f.1 == .ofString part && f.2.isSet

theorem filter_isPart (h : e.HasDistinctKeys) (part : String) :
    e.filter (isPart part) = (Record.ofFields [(part, (e.field part).orElse emptyText)]).filter
      (·.2.isSet) := by
  have hempty : Value.isSet emptyText = false := rfl
  have hnone : (Value.null.orElse emptyText) = emptyText := rfl
  induction e with
  | nil => rfl
  | cons f e ih =>
    obtain ⟨k, v⟩ := f
    obtain ⟨hhead, htail⟩ := List.pairwise_cons.mp h
    have ih := ih htail
    by_cases hk : k = .ofString part
    · have hrest : e.filter (isPart part) = [] := by
        apply List.filter_eq_nil_iff.mpr
        intro f hf hpart
        rw [isPart, Bool.and_eq_true, beq_iff_eq] at hpart
        have hsame := hhead f hf
        rw [hk, hpart.1, Value.ofString, Value.sameKey_text, beq_self_eq_true] at hsame
        cases hsame
      have hfield : Record.field ((k, v) :: e) part = v := by
        rw [Record.field, Record.get, hk, Value.ofString, Record.get?_cons_self]
        rfl
      rw [hfield, List.filter_cons, hrest]
      cases hv : v.isSet with
      | false => simp [isPart, Record.ofFields, Value.orElse, hv, hempty]
      | true => simp [isPart, Record.ofFields, Value.orElse, hv, hk]
    · have hfield : Record.field ((k, v) :: e) part = Record.field e part := by
        rw [Record.field, Record.field, Record.get, Record.get, Record.get?_cons_of_ne hk]
      have hpart : isPart part (k, v) = false := by
        rw [isPart, beq_false_of_ne hk, Bool.false_and]
      rw [hfield, ← ih, List.filter_cons_of_neg (ne_true_of_eq_false hpart)]

theorem isKnown_eq (k : Value) : isKnown k = (k == .ofString "role" || (k == .ofString "given" ||
    (k == .ofString "family" || (k == .ofString "literal" || false)))) := by
  cases k with
  | text s =>
    have hkey (name : String) : (Value.text s == .ofString name) = (name.toList == s) := by
      apply Bool.eq_iff_iff.mpr
      rw [beq_iff_eq, beq_iff_eq, Value.ofString, Value.text.injEq]
      exact eq_comm
    rw [hkey, hkey, hkey, hkey]
    rfl
  | cyclic display v => cases display <;> rfl
  | _ => rfl

theorem keeps_eq (f : Value × Value) : keeps f = (isPart "family" f || (isPart "given" f ||
    (isPart "literal" f || !isKnown f.1))) := by
  have hne : Value.ofString "role" ≠ .ofString "family" ∧
      Value.ofString "role" ≠ .ofString "given" ∧
        Value.ofString "role" ≠ .ofString "literal" := by decide
  obtain ⟨k, v⟩ := f
  simp only [keeps, isPart, isKnown_eq, nameParts, List.any]
  by_cases hrole : k = .ofString "role"
  · rw [hrole, beq_false_of_ne hne.1, beq_false_of_ne hne.2.1, beq_false_of_ne hne.2.2]
    simp
  · rw [bne, beq_false_of_ne hrole]
    cases v.isSet <;> cases k == .ofString "family" <;> cases k == .ofString "given" <;>
      cases k == .ofString "literal" <;> rfl

theorem perm_keeps (e : Record) : (e.filter (isPart "family") ++ (e.filter (isPart "given") ++
    (e.filter (isPart "literal") ++ e.filter fun f => !isKnown f.1))).Perm (e.filter keeps) := by
  have hother {f : Value × Value} {part other : String} (hne : part.toList ≠ other.toList)
      (hf : isPart part f = true) : isPart other f = false := by
    rw [isPart, Bool.and_eq_true, beq_iff_eq] at hf
    have hkeys : Value.ofString part ≠ .ofString other := fun h => hne (Value.text.inj h)
    rw [isPart, hf.1, beq_false_of_ne hkeys, Bool.false_and]
  have hknown {f : Value × Value} {part : String} (hpart : isKnown (.ofString part) = true)
      (hf : isPart part f = true) : (!isKnown f.1) = false := by
    rw [isPart, Bool.and_eq_true, beq_iff_eq] at hf
    rw [hf.1, hpart]
    rfl
  have hliteral := perm_filter_or (p := isPart "literal") (q := fun f => !isKnown f.1)
    fun f (_ : f ∈ e) hf => hknown rfl hf
  have hgiven := perm_filter_or (p := isPart "given")
    (q := fun f => isPart "literal" f || !isKnown f.1) fun f (_ : f ∈ e) hf => by
      rw [hother (by decide) hf, hknown rfl hf]
      rfl
  have hfamily := perm_filter_or (p := isPart "family")
    (q := fun f => isPart "given" f || (isPart "literal" f || !isKnown f.1))
    fun f (_ : f ∈ e) hf => by
      rw [hother (by decide) hf, hother (by decide) hf, hknown rfl hf]
      rfl
  have hkeeps : e.filter keeps = e.filter fun f => isPart "family" f || (isPart "given" f ||
      (isPart "literal" f || !isKnown f.1)) := List.filter_congr fun f _ => keeps_eq f
  rw [hkeeps]
  exact (((hliteral.append_left _).trans hgiven).append_left _).trans hfamily

end

def parts (c : Contributor) : List (String × Value) :=
  [("family", c.family), ("given", c.given), ("literal", c.literal)]

/-- Contributors as name entries make them: unset parts of the name are empty texts, and the other
entries have other and different keys. -/
structure IsFromEntry (c : Contributor) : Prop where
  parts_eq : ∀ p ∈ c.parts, p.2.orElse emptyText = p.2
  distinct : Record.HasDistinctKeys c.extra
  unknown : ∀ f ∈ c.extra, isKnown f.1 = false

section
variable {c : Contributor}

theorem isFromEntry_ofEntry {e : Record} (h : e.HasDistinctKeys) (role : Value) :
    (ofEntry e role).IsFromEntry where
  parts_eq := by
    have hagain (v : Value) : (v.orElse emptyText).orElse emptyText = v.orElse emptyText := by
      cases hv : v.isSet <;> simp [Value.orElse, hv]
    simp [parts, ofEntry, hagain]
  distinct := h.sublist List.filter_sublist
  unknown := fun f hf => by
    simpa [ofEntry] using (List.mem_filter.mp hf).2

theorem distinct_parts (c : Contributor) : (Record.ofFields c.parts).HasDistinctKeys :=
  Record.hasDistinctKeys_of_texts (nameParts.map String.toList) (by decide) rfl

theorem mem_nameParts {p : String × Value} (h : p ∈ c.parts) : p.1 ∈ nameParts :=
  List.mem_map_of_mem (f := Prod.fst) h

theorem isKnown_ofString {p : String × Value} (h : p ∈ c.parts) :
    isKnown (.ofString p.1) = true := by
  have hknown : ∀ part ∈ nameParts, isKnown (.ofString part) = true := by decide
  exact hknown _ (mem_nameParts h)

theorem isKnown_of_mem_nameFields {f : Value × Value} (h : f ∈ c.nameFields) :
    isKnown f.1 = true := by
  obtain ⟨p, hp, rfl⟩ := List.mem_map.mp (List.mem_filter.mp h).1
  exact isKnown_ofString hp

theorem IsFromEntry.distinct_append (h : c.IsFromEntry) :
    Record.HasDistinctKeys (c.nameFields ++ c.extra) := by
  refine List.pairwise_append.mpr ⟨(distinct_parts c).sublist List.filter_sublist, h.distinct, ?_⟩
  intro f hf g hg
  have hknown := isKnown_of_mem_nameFields hf
  have hunknown := h.unknown g hg
  rw [isKnown_eq] at hknown
  apply Bool.eq_false_iff.mpr
  intro hsame
  obtain ⟨k, v⟩ := f
  cases k with
  | text s =>
    rw [Value.eq_text_of_sameKey hsame] at hunknown
    rw [← isKnown_eq, hunknown] at hknown
    cases hknown
  | cyclic display w => cases display <;> cases hknown
  | _ => cases hknown

theorem IsFromEntry.entry_eq (h : c.IsFromEntry) : c.entry = c.nameFields ++ c.extra :=
  Record.update_of_fresh h.distinct_append

theorem IsFromEntry.distinct_entry (h : c.IsFromEntry) : Record.HasDistinctKeys c.entry := by
  rw [h.entry_eq]
  exact h.distinct_append

theorem IsFromEntry.field_entry (h : c.IsFromEntry) (part : String) (v : Value)
    (hpart : (part, v) ∈ c.parts) : (Record.field c.entry part).orElse emptyText = v := by
  have hv : v.orElse emptyText = v := h.parts_eq _ hpart
  have hmem : (Value.ofString part, v) ∈ Record.ofFields c.parts :=
    List.mem_map.mpr ⟨_, hpart, rfl⟩
  cases hset : v.isSet with
  | true =>
    have hentry : (Value.ofString part, v) ∈ c.entry := by
      rw [h.entry_eq]
      exact List.mem_append_left _ (List.mem_filter.mpr ⟨hmem, hset⟩)
    rw [Record.field, Record.get, Record.get?_of_mem h.distinct_entry hentry]
    exact hv
  | false =>
    have hnone : Record.get? c.entry part.toList = none := by
      cases hget : Record.get? c.entry part.toList with
      | none => rfl
      | some w =>
        have hw := Record.mem_of_get? hget
        rw [h.entry_eq] at hw
        rcases List.mem_append.mp hw with hw | hw
        · obtain ⟨hw, hwset⟩ := List.mem_filter.mp hw
          have heq := (Record.get?_of_mem (distinct_parts c) hw).symm.trans
            (Record.get?_of_mem (distinct_parts c) hmem)
          rw [Option.some.inj heq, hset] at hwset
          cases hwset
        · have hunknown := h.unknown _ hw
          rw [← Value.ofString, isKnown_ofString hpart] at hunknown
          cases hunknown
    rw [Value.orElse, hset] at hv
    rw [Record.field, Record.get, hnone, ← hv]
    rfl

theorem IsFromEntry.role_not_mem (h : c.IsFromEntry) :
    ∀ f ∈ c.entry, f.1 ≠ .ofString "role" := by
  rw [h.entry_eq]
  intro f hf hrole
  rcases List.mem_append.mp hf with hf | hf
  · obtain ⟨p, hp, rfl⟩ := List.mem_map.mp (List.mem_filter.mp hf).1
    have hne : ∀ part ∈ nameParts, Value.ofString part ≠ .ofString "role" := by decide
    exact hne _ (mem_nameParts hp) hrole
  · have hunknown := h.unknown f hf
    rw [hrole] at hunknown
    cases hunknown

theorem IsFromEntry.ofEntry_entry (h : c.IsFromEntry) : ofEntry c.entry c.role = c := by
  have hrole : Record.field c.entry "role" = .null := by
    have hnone : Record.get? c.entry "role".toList = none := by
      apply Record.get?_eq_none
      intro hmem
      obtain ⟨f, hf, hkey⟩ := List.mem_map.mp hmem
      exact h.role_not_mem f hf hkey
    rw [Record.field, Record.get, hnone]
    rfl
  have hfamily := h.field_entry "family" c.family (by simp [parts])
  have hgiven := h.field_entry "given" c.given (by simp [parts])
  have hliteral := h.field_entry "literal" c.literal (by simp [parts])
  have hnames : (c.nameFields.filter fun f => !isKnown f.1) = [] := by
    apply List.filter_eq_nil_iff.mpr
    intro f hf
    rw [isKnown_of_mem_nameFields hf]
    exact Bool.false_ne_true
  have hextra : (c.entry.filter fun f => !isKnown f.1) = c.extra := by
    rw [h.entry_eq, List.filter_append, hnames]
    apply List.filter_eq_self.mpr
    intro f hf
    rw [h.unknown f hf]
    rfl
  rw [ofEntry, hrole, hfamily, hgiven, hliteral]
  exact congrArg (Contributor.mk c.role c.given c.family c.literal) hextra

theorem isContributorOf_ofEntry {e : Record} (h : IsNameEntry e) (role : String) :
    IsContributorOf role e (ofEntry e (.ofString role)) where
  role_eq := rfl
  entry_perm := by
    have hfrom := isFromEntry_ofEntry h.distinct (.ofString role)
    have hfields : (ofEntry e (.ofString role)).nameFields = e.filter (isPart "family") ++
        (e.filter (isPart "given") ++ e.filter (isPart "literal")) := by
      rw [filter_isPart h.distinct, filter_isPart h.distinct, filter_isPart h.distinct,
        ← List.filter_append, ← List.filter_append]
      rfl
    rw [hfrom.entry_eq, hfields, List.append_assoc, List.append_assoc]
    exact perm_keeps e
  again := (isFromEntry_ofEntry h.distinct _).ofEntry_entry

end

structure HasNames (citation : Record) (names : String → List Record) : Prop where
  listed : ∀ role ∈ roles, citation.field role = .null ∧ names role = [] ∨
    citation.field role = .list ((names role).map .record)
  entries : ∀ role ∈ roles, ∀ e ∈ names role, IsNameEntry e

def allNames (names : String → List Record) : List (String × Record) :=
  roles.flatMap fun role => (names role).map (role, ·)

theorem map_listItems (role : Value) (es : List Record) (i : Nat) :
    (listItems role i (es.map .record)).map Listed.contributor = es.map (ofEntry · role) := by
  induction es generalizing i with
  | nil => rfl
  | cons e es ih =>
    rw [List.map_cons, List.map_cons, listItems, List.map_cons, ih]

section
variable {citation : Record} {names : String → List Record} (h : HasNames citation names)
include h

theorem listRole_eq {role : String} (hrole : role ∈ roles) :
    listRole citation (.ofString role) =
      .ok (listItems (.ofString role) 0 ((names role).map .record)) := by
  have helements : ((citation.field role).orElse (.list [])).elements =
      .ok ((names role).map .record) := by
    rcases h.listed role hrole with ⟨hnull, hnone⟩ | hlist
    · rw [hnull, hnone]
      rfl
    · rw [hlist]
      cases names role <;> rfl
  rw [Record.field] at helements
  rw [Value.ofString, listRole, helements]
  rfl

theorem ofCitation_eq : ofCitation (.record citation) =
    .ok ((allNames names).map fun n => ofEntry n.2 (.ofString n.1)) := by
  have hlists : (roles.map Value.ofString).mapM (listRole citation) =
      .ok (roles.map fun role => listItems (.ofString role) 0 ((names role).map .record)) := by
    rw [Failure.mapM_eq_ok_iff, List.forall₂_map_left_iff, List.forall₂_map_right_iff,
      List.forall₂_same]
    intro role hrole
    exact listRole_eq h hrole
  have hlisted : listed (.record citation) =
      .ok (roles.flatMap fun role => listItems (.ofString role) 0 ((names role).map .record)) := by
    rw [listed, Value.fields]
    simp only [Value.opened, Failure.ok_bind, hlists, List.flatMap_def]
    rfl
  have hmade : (roles.flatMap fun role =>
      listItems (.ofString role) 0 ((names role).map .record)).map Listed.contributor =
        (allNames names).map fun n => ofEntry n.2 (.ofString n.1) := by
    rw [allNames, List.map_flatMap, List.map_flatMap]
    apply List.flatMap_congr
    intro role _
    rw [map_listItems, List.map_map]
    rfl
  rw [ofCitation, hlisted]
  exact congrArg Except.ok hmade

theorem mem_allNames {n : String × Record} (hn : n ∈ allNames names) :
    n.1 ∈ roles ∧ IsNameEntry n.2 := by
  obtain ⟨role, hrole, hn⟩ := List.mem_flatMap.mp hn
  obtain ⟨e, he, rfl⟩ := List.mem_map.mp hn
  exact ⟨hrole, h.entries role hrole e he⟩

end

end LitNote.Contributor
