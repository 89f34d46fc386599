import LitNote.Proofs.Note.NameEntries
import LitNote.Proofs.Note.Variables
import Mathlib.Data.List.Induction
import Mathlib.Data.List.Nodup

/-!
The lists of contributors by role.  Main statement: from the citation to the lists, no contributor
and nothing of a name entry is lost.
-/

namespace LitNote.Contributor

def IsRoled (c : Contributor) : Prop := ∃ s, s ≠ [] ∧ c.role = .text s

def having (cs : List Contributor) (role : Text) : List Contributor :=
  cs.filter (·.role == .text role)

def groups (cs : List Contributor) (found : List Text) : List (Value × List Contributor) :=
  found.map fun s => (.text s, having cs s)

section
variable {cs : List Contributor} {c : Contributor} {found : List Text} {s : Text}

theorem having_append_self (h : c.role = .text s) :
    having (cs ++ [c]) s = having cs s ++ [c] := by
  rw [having, List.filter_append, List.filter_cons_of_pos (by rw [h, beq_self_eq_true])]
  rfl

theorem having_append_of_ne {t : Text} (h : c.role = .text s) (hne : s ≠ t) :
    having (cs ++ [c]) t = having cs t := by
  have hother : [c].filter (·.role == .text t) = [] := by
    apply List.filter_eq_nil_iff.mpr
    intro d hd
    rw [List.mem_singleton.mp hd, h, beq_iff_eq, Value.text.injEq]
    exact hne
  rw [having, List.filter_append, hother]
  exact List.append_nil _

theorem groups_append_of_not_mem (h : c.role = .text s) (hs : s ∉ found) :
    groups (cs ++ [c]) found = groups cs found := by
  apply List.map_congr_left
  intro t ht
  rw [having_append_of_ne h fun heq => hs (heq ▸ ht)]

theorem insertByRole_groups (h : c.role = .text s) (hnodup : found.Nodup)
    (hnone : s ∉ found → having cs s = []) : insertByRole (groups cs found) (.text s) c =
      groups (cs ++ [c]) (if s ∈ found then found else found ++ [s]) := by
  -- By induction on the roles: the contributor goes to the group of its role, and otherwise gets a
  -- group of its own.
  induction found with
  | nil =>
    rw [if_neg List.not_mem_nil, List.nil_append]
    show [(Value.text s, [c])] = [(.text s, having (cs ++ [c]) s)]
    rw [having_append_self h, hnone List.not_mem_nil, List.nil_append]
  | cons t found ih =>
    obtain ⟨ht, hnodup⟩ := List.nodup_cons.mp hnodup
    have hcons : groups cs (t :: found) = (.text t, having cs t) :: groups cs found := rfl
    rw [hcons, insertByRole, Value.sameKey_text]
    by_cases hts : t = s
    · subst hts
      rw [if_pos (beq_self_eq_true t), if_pos (List.mem_cons_self ..), ← having_append_self h,
        ← groups_append_of_not_mem h ht]
      rfl
    · have hmem : s ∈ t :: found ↔ s ∈ found := by
        rw [List.mem_cons, or_iff_right (Ne.symm hts)]
      rw [if_neg (ne_true_of_eq_false (beq_false_of_ne hts)),
        ih hnodup fun hs => hnone fun hs' => hs (hmem.mp hs'), if_congr hmem rfl rfl,
        ← having_append_of_ne h (Ne.symm hts)]
      split <;> rfl

theorem addByRole_groups (h : c.role = .text s) (hs : s ≠ []) :
    addByRole (groups cs found) c = .ok (insertByRole (groups cs found) (.text s) c) := by
  have hset : (Value.text s).isSet = true := by
    rw [Value.isSet, Bool.not_eq_true', List.isEmpty_eq_false_iff]
    exact hs
  rw [addByRole, h, Value.orElse, hset]
  rfl

theorem byRole_roled (h : ∀ c ∈ cs, c.IsRoled) : ∃ found, found.Nodup ∧
    (∀ s, s ∈ found ↔ ∃ c ∈ cs, c.role = .text s) ∧ byRole cs = .ok (groups cs found) := by
  -- By induction on the contributors from the last one: there is one group for every role.
  induction cs using List.reverseRecOn with
  | nil =>
    refine ⟨[], List.nodup_nil, fun s => ?_, rfl⟩
    simp
  | append_singleton cs c ih =>
    obtain ⟨found, hnodup, hmem, hgroups⟩ := ih fun c hc => h c (List.mem_append_left _ hc)
    obtain ⟨s, hs, hrole⟩ := h c (List.mem_append_right _ (List.mem_singleton.mpr rfl))
    have hnone : s ∉ found → having cs s = [] := by
      intro hfound
      apply List.filter_eq_nil_iff.mpr
      intro d hd hsame
      exact hfound ((hmem s).mpr ⟨d, hd, beq_iff_eq.mp hsame⟩)
    refine ⟨if s ∈ found then found else found ++ [s], ?_, fun t => ?_, ?_⟩
    · split
      · exact hnodup
      · next hfound =>
        rw [← List.concat_eq_append]
        exact hnodup.concat hfound
    · have hold : (∃ d ∈ cs ++ [c], d.role = .text t) ↔ t ∈ found ∨ s = t := by
        rw [hmem]
        simp only [List.mem_append, List.mem_singleton, or_and_right, exists_or, exists_eq_left,
          hrole, Value.text.injEq]
      rw [hold]
      split
      · next hfound =>
        refine ⟨Or.inl, ?_⟩
        rintro (ht | rfl)
        · exact ht
        · exact hfound
      · rw [List.mem_append, List.mem_singleton, eq_comm]
    · rw [byRole_eq, List.foldlM_append, ← byRole_eq, hgroups]
      simp only [Failure.ok_bind, List.foldlM_cons, addByRole_groups hrole hs,
        insertByRole_groups hrole hnodup hnone]
      rfl

theorem perm_having (hnodup : found.Nodup) (h : ∀ c ∈ cs, ∃ s ∈ found, c.role = .text s) :
    (found.flatMap (having cs)).Perm cs := by
  induction found generalizing cs with
  | nil =>
    cases cs with
    | nil => exact .refl []
    | cons c cs =>
      obtain ⟨s, hs, -⟩ := h c (List.mem_cons_self ..)
      cases hs
  | cons s found ih =>
    obtain ⟨hs, hnodup⟩ := List.nodup_cons.mp hnodup
    have hothers : found.flatMap (having cs) =
        found.flatMap (having (cs.filter fun c => !(c.role == .text s))) := by
      apply List.flatMap_congr
      intro t ht
      rw [having, having, List.filter_filter]
      apply List.filter_congr
      intro c _
      cases htext : c.role == .text t with
      | false => rfl
      | true =>
        have hne : Value.text t ≠ .text s := fun heq => hs (Value.text.inj heq ▸ ht)
        rw [beq_iff_eq.mp htext, beq_false_of_ne hne]
        rfl
    have hroles : ∀ c ∈ cs.filter fun c => !(c.role == .text s),
        ∃ t ∈ found, c.role = .text t := by
      intro c hc
      obtain ⟨hc, hne⟩ := List.mem_filter.mp hc
      obtain ⟨t, ht, hrole⟩ := h c hc
      refine ⟨t, (List.mem_cons.mp ht).resolve_left ?_, hrole⟩
      rintro rfl
      rw [hrole, beq_self_eq_true] at hne
      cases hne
    have hrest := ih hnodup hroles
    have hsplit := List.filter_append_perm (fun c : Contributor => c.role == .text s) cs
    rw [List.flatMap_cons, hothers]
    exact (hrest.append_left _).trans hsplit

end

def endings : List String := ["s_raw", "s", "s_family", "s_given"]

def listKeys (role : Text) : List Text := endings.map fun ending => role ++ ending.toList

theorem ending_inj {s t : Text} {a b : String} (ha : a ∈ endings) (hb : b ∈ endings)
    (h : s ++ a.toList = t ++ b.toList) : a = b := by
  have hne : ∀ a ∈ endings, a.toList ≠ [] := by decide
  have hlast : ∀ a ∈ endings, ∀ b ∈ endings, a.toList.getLast? = b.toList.getLast? → a = b := by
    decide
  have hsame := congrArg List.getLast? h
  rw [List.getLast?_append_of_ne_nil _ (hne a ha), List.getLast?_append_of_ne_nil _ (hne b hb)]
    at hsame
  exact hlast a ha b hb hsame

theorem nodup_listKeys (s : Text) : (listKeys s).Nodup := by
  apply List.Nodup.map_on
  · intro a ha b hb h
    exact ending_inj ha hb h
  · decide

theorem disjoint_listKeys {s t : Text} (h : s ≠ t) : (listKeys s).Disjoint (listKeys t) := by
  intro key hs ht
  obtain ⟨a, ha, rfl⟩ := List.mem_map.mp hs
  obtain ⟨b, hb, heq⟩ := List.mem_map.mp ht
  have hab := ending_inj hb ha heq
  subst hab
  exact h (List.append_cancel_right heq).symm

theorem nodup_flatMap_listKeys {found : List Text} (h : found.Nodup) :
    (found.flatMap listKeys).Nodup :=
  List.nodup_flatMap.mpr ⟨fun s _ => nodup_listKeys s, h.imp disjoint_listKeys⟩

/-- There is a literal name, or there are no two parts of a name to put together, or both of these
can be written. -/
def HasFullName (c : Contributor) : Prop :=
  c.literal.isSet = true ∨ c.family.isSet = false ∨ c.given.isSet = false ∨
    (∃ s, c.given.asText = .ok s) ∧ ∃ s, c.family.asText = .ok s

theorem exists_fullName_iff {c : Contributor} : (∃ v, c.fullName = .ok v) ↔ c.HasFullName := by
  rw [fullName, HasFullName]
  cases c.literal.isSet with
  | true => simp [pure, Except.pure]
  | false =>
    cases c.family.isSet with
    | false => simp [pure, Except.pure]
    | true =>
      cases c.given.isSet with
      | false => simp [pure, Except.pure]
      | true =>
        cases c.given.asText <;> cases c.family.asText <;>
          simp [pure, Except.pure, bind, Except.bind]

def rawEntry (c : Contributor) : Value := .record (c.entry ++ [(.ofString "role", c.role)])

section
variable {members : List Contributor} {c : Contributor} {s : Text} {r : Record}

theorem exists_roleLists_iff :
    (∃ r, roleLists (.text s) members = .ok r) ↔ ∀ c ∈ members, c.HasFullName := by
  have hfull : (∃ r, roleLists (.text s) members = .ok r) ↔
      ∃ full, members.mapM fullName = .ok full := by
    rw [roleLists]
    cases members.mapM fullName <;> simp [Value.asText, pure, Except.pure, bind, Except.bind]
  rw [hfull, Failure.exists_mapM_iff]
  exact forall₂_congr fun c _ => exists_fullName_iff

theorem set_role (hc : c.IsFromEntry) (hrole : c.role = .text s) :
    Value.record (Record.set c.entry "role" (.text s)) = c.rawEntry := by
  have hfresh : ∀ f ∈ c.entry, f.1.sameKey (.ofString "role") = false := by
    intro f hf
    apply Bool.eq_false_iff.mpr
    intro hsame
    rw [Value.sameKey_comm] at hsame
    exact hc.role_not_mem f hf (Value.eq_text_of_sameKey hsame)
  rw [Record.set, Record.put_of_fresh hfresh, rawEntry, hrole]

theorem roleLists_raw (h : roleLists (.text s) members = .ok r)
    (hmembers : ∀ c ∈ members, c.IsFromEntry ∧ c.role = .text s) :
    r.map Prod.fst = (listKeys s).map .text ∧
      (.text (s ++ "s_raw".toList), .list (members.map rawEntry)) ∈ r := by
  have hraw : (members.map fun c => Value.record (Record.set c.entry "role" (.text s))) =
      members.map rawEntry :=
    List.map_congr_left fun c hc => set_role (hmembers c hc).1 (hmembers c hc).2
  rw [roleLists, hraw] at h
  obtain ⟨name, hname, h⟩ := Failure.bind_eq_ok_iff.mp h
  obtain ⟨full, -, h⟩ := Failure.bind_eq_ok_iff.mp h
  cases hname
  cases h
  exact ⟨rfl, List.mem_cons_self ..⟩

theorem lists_eq (cs : List Contributor) : lists cs = (byRole cs).bind fun gs =>
    (gs.mapM fun g => roleLists g.1 g.2).map fun rs => rs.foldl Record.update [] := by
  have hfold (gs : List (Value × List Contributor)) (r : Record) :
      (gs.foldlM (fun r g => (roleLists g.1 g.2).map (Record.update r)) r) =
        (gs.mapM fun g => roleLists g.1 g.2).map fun rs => rs.foldl Record.update r := by
    induction gs generalizing r with
    | nil => rfl
    | cons g gs ih =>
      rw [List.foldlM_cons, List.mapM_cons]
      cases roleLists g.1 g.2 with
      | error e => rfl
      | ok r' =>
        refine (ih (Record.update r r')).trans ?_
        cases gs.mapM fun g => roleLists g.1 g.2 <;> rfl
  rw [lists]
  cases byRole cs with
  | error e => rfl
  | ok gs =>
    exact hfold gs []

structure ListsByRole (cs : List Contributor) (found : List Text) (r : Record) : Prop where
  nodup : found.Nodup
  keys : r.map Prod.fst = (found.flatMap listKeys).map .text
  raw : ∀ s ∈ found, r.get? (s ++ "s_raw".toList) = some (.list ((having cs s).map rawEntry))
  perm : (found.flatMap (having cs)).Perm cs

variable {cs : List Contributor} {found : List Text} {rs : List Record}

theorem keys_flatten
    (h : List.Forall₂ (fun s r => r.map Prod.fst = (listKeys s).map .text) found rs) :
    rs.flatten.map Prod.fst = (found.flatMap listKeys).map Value.text := by
  induction h with
  | nil => rfl
  | cons hkeys _ ih =>
    rw [List.flatten_cons, List.map_append, hkeys, ih, List.flatMap_cons, List.map_append]

theorem listsByRole_flatten (hnodup : found.Nodup) (hperm : (found.flatMap (having cs)).Perm cs)
    (h : List.Forall₂ (fun s r => r.map Prod.fst = (listKeys s).map .text ∧
      (.text (s ++ "s_raw".toList), .list ((having cs s).map rawEntry)) ∈ r) found rs) :
    rs.foldl Record.update [] = rs.flatten ∧ ListsByRole cs found rs.flatten := by
  have hkeys := keys_flatten (h.imp fun _ _ => And.left)
  have hdistinct : Record.HasDistinctKeys rs.flatten :=
    Record.hasDistinctKeys_of_texts _ (nodup_flatMap_listKeys hnodup) hkeys
  refine ⟨Record.foldl_update_of_fresh hdistinct, hnodup, hkeys, fun s hs => ?_, hperm⟩
  apply Record.get?_of_mem hdistinct
  obtain ⟨i, hi, rfl⟩ := List.getElem_of_mem hs
  have hi' : i < rs.length := h.length_eq ▸ hi
  exact List.mem_flatten_of_mem (List.getElem_mem hi') (h.get hi hi').2

theorem lists_listed (h : ∀ c ∈ cs, c.IsFromEntry ∧ c.IsRoled) :
    ((∃ r, lists cs = .ok r) ↔ ∀ c ∈ cs, c.HasFullName) ∧
      ∀ r, lists cs = .ok r → ∃ found, ListsByRole cs found r := by
  obtain ⟨found, hnodup, hmem, hgroups⟩ := byRole_roled fun c hc => (h c hc).2
  have hperm : (found.flatMap (having cs)).Perm cs := by
    refine perm_having hnodup fun c hc => ?_
    obtain ⟨s, -, hs⟩ := (h c hc).2
    exact ⟨s, (hmem s).mpr ⟨c, hc, hs⟩, hs⟩
  have hlists : lists cs = ((groups cs found).mapM fun g => roleLists g.1 g.2).map
      fun rs => rs.foldl Record.update [] := by
    rw [lists_eq, hgroups]
    rfl
  constructor
  · calc (∃ r, lists cs = .ok r)
        ↔ ∃ rs, (groups cs found).mapM (fun g => roleLists g.1 g.2) = .ok rs := by
          rw [hlists]
          cases (groups cs found).mapM fun g => roleLists g.1 g.2 <;> simp [Except.map]
      _ ↔ ∀ s ∈ found, ∃ r, roleLists (.text s) (having cs s) = .ok r := by
          rw [Failure.exists_mapM_iff, groups, List.forall_mem_map]
      _ ↔ ∀ s ∈ found, ∀ c ∈ having cs s, c.HasFullName :=
          forall₂_congr fun s _ => exists_roleLists_iff
      _ ↔ ∀ c ∈ found.flatMap (having cs), c.HasFullName := by
          simp only [List.mem_flatMap, forall_exists_index, and_imp]
          exact ⟨fun h c s hs hc => h s hs c hc, fun h s hs c hc => h c s hs hc⟩
      _ ↔ ∀ c ∈ cs, c.HasFullName := forall_congr' fun c => by rw [hperm.mem_iff]
  · intro r hr
    rw [hlists, Failure.map_eq_ok_iff] at hr
    obtain ⟨rs, hrs, rfl⟩ := hr
    rw [Failure.mapM_eq_ok_iff, groups, List.forall₂_map_left_iff] at hrs
    have hraw := hrs.imp fun s r hr => roleLists_raw hr fun c hc => by
      obtain ⟨hc, hrole⟩ := List.mem_filter.mp hc
      exact ⟨(h c hc).1, beq_iff_eq.mp hrole⟩
    obtain ⟨hflatten, hby⟩ := listsByRole_flatten hnodup hperm hraw
    exact ⟨found, hflatten ▸ hby⟩

theorem isRoled_ofEntry {e : Record} (h : IsNameEntry e) {role : String} (hrole : role ∈ roles) :
    (ofEntry e (.ofString role)).IsRoled := by
  have hne : ∀ role ∈ roles, role.toList ≠ [] := by decide
  have hown : (ofEntry e (.ofString role)).role = (e.field "role").orElse (.ofString role) := rfl
  rw [IsRoled, hown]
  rcases h.role with hnull | ⟨s, hs⟩
  · rw [hnull]
    exact ⟨_, hne role hrole, rfl⟩
  · rw [hs]
    by_cases hempty : s = []
    · rw [hempty]
      exact ⟨_, hne role hrole, rfl⟩
    · refine ⟨s, hempty, ?_⟩
      rw [Value.orElse, Value.isSet, List.isEmpty_eq_false_iff.mpr hempty]
      rfl

end

/-- Every name entry becomes a contributor, in order, who keeps all of it and can be made from what
is kept.  The lists by role exist if the full names can be written, every contributor is in those of
one role, and the lists of two roles have different names. -/
theorem ofCitation_keeps {citation : Record} {names : String → List Record}
    (h : HasNames citation names) : ∃ cs, ofCitation (.record citation) = .ok cs ∧
      List.Forall₂ (fun n c => IsContributorOf n.1 n.2 c) (allNames names) cs ∧
      ((∃ r, lists cs = .ok r) ↔ ∀ c ∈ cs, c.HasFullName) ∧
      (∀ r, lists cs = .ok r → ∃ found, ListsByRole cs found r) ∧
      ∀ s t, s ≠ t → (listKeys s).Disjoint (listKeys t) := by
  have hfrom : ∀ c ∈ (allNames names).map fun n => ofEntry n.2 (.ofString n.1),
      c.IsFromEntry ∧ c.IsRoled := by
    intro c hc
    obtain ⟨n, hn, rfl⟩ := List.mem_map.mp hc
    have hentry := mem_allNames h hn
    exact ⟨isFromEntry_ofEntry hentry.2.distinct _, isRoled_ofEntry hentry.2 hentry.1⟩
  have hlisted := lists_listed hfrom
  refine ⟨_, ofCitation_eq h, ?_, hlisted.1, hlisted.2, fun s t => disjoint_listKeys⟩
  rw [List.forall₂_map_right_iff, List.forall₂_same]
  intro n hn
  exact isContributorOf_ofEntry (mem_allNames h hn).2 n.1

def edited (authors editors : List Record) : Record :=
  Record.ofFields [("author", .list (authors.map .record)), ("editor", .list (editors.map .record)),
    ("translator", .null)]

def editedNames (authors editors : List Record) (role : String) : List Record :=
  if role = "author" then authors else if role = "editor" then editors else []

theorem hasNames_edited {authors editors : List Record} (ha : ∀ e ∈ authors, IsNameEntry e)
    (he : ∀ e ∈ editors, IsNameEntry e) :
    HasNames (edited authors editors) (editedNames authors editors) where
  listed := List.forall_mem_cons.mpr ⟨.inr rfl, List.forall_mem_cons.mpr ⟨.inr rfl,
    List.forall_mem_cons.mpr ⟨.inl ⟨rfl, rfl⟩, List.forall_mem_singleton.mpr (.inl ⟨rfl, rfl⟩)⟩⟩⟩
  entries := fun role _ e hmem => by
    rw [editedNames] at hmem
    split at hmem
    · exact ha e hmem
    split at hmem
    · exact he e hmem
    · cases hmem

def annDoe : Record := Record.ofFields [("family", .ofString "Doe"), ("given", .ofString "Ann"),
  ("suffix", .ofString "PhD"), ("literal", .null)]

def acme : Record := Record.ofFields [("literal", .ofString "ACME"), ("role", .ofString "author"),
  ("given", .ofString "")]

theorem ofCitation_keeps_edited :
    HasNames (edited [annDoe] [acme]) (editedNames [annDoe] [acme]) ∧
      ∃ ann corporate r, IsContributorOf "author" annDoe ann ∧
        IsContributorOf "editor" acme corporate ∧ lists [ann, corporate] = .ok r ∧
        ∃ found, ListsByRole [ann, corporate] found r := by
  have hann : IsNameEntry annDoe :=
    ⟨Record.hasDistinctKeys_of_texts (["family", "given", "suffix", "literal"].map String.toList)
      (by decide) rfl, .inl rfl⟩
  have hacme : IsNameEntry acme :=
    ⟨Record.hasDistinctKeys_of_texts (["literal", "role", "given"].map String.toList)
      (by decide) rfl, .inr ⟨_, rfl⟩⟩
  have hnames := hasNames_edited (List.forall_mem_singleton.mpr hann)
    (List.forall_mem_singleton.mpr hacme)
  refine ⟨hnames, ?_⟩
  obtain ⟨cs, hcs, hmade, hexists, hby, -⟩ := ofCitation_keeps hnames
  cases hcs
  obtain ⟨hmadeAnn, hmade⟩ := List.forall₂_cons.mp hmade
  have hfull : ∀ c ∈ [ofEntry annDoe (.ofString "author"), ofEntry acme (.ofString "editor")],
      c.HasFullName := List.forall_mem_cons.mpr
    ⟨.inr (.inr (.inr ⟨⟨_, rfl⟩, _, rfl⟩)), List.forall_mem_singleton.mpr (.inl rfl)⟩
  obtain ⟨r, hr⟩ := hexists.mpr hfull
  exact ⟨_, _, r, hmadeAnn, (List.forall₂_cons.mp hmade).1, hr, hby r hr⟩

def smith (given : Value) : Record :=
  Record.ofFields [("family", .ofString "Smith"), ("given", given)]

theorem lists_smith {given : Value} {e : Failure} (hset : given.isSet = true)
    (hgiven : given.asText = .error e) :
    lists [ofEntry (smith given) (.ofString "editor")] = .error e := by
  have hentry : ofEntry (smith given) (.ofString "editor") =
      ⟨.ofString "editor", given, .ofString "Smith", emptyText, []⟩ := by
    have hfield : (Record.field (smith given) "given").orElse emptyText = given := by
      show given.orElse emptyText = given
      rw [Value.orElse, hset, if_pos rfl]
    rw [ofEntry, hfield]
    rfl
  have hfull : fullName ⟨.ofString "editor", given, .ofString "Smith", emptyText, []⟩ =
      .error e := by
    have hliteral : emptyText.isSet = false := rfl
    have hfamily : (Value.ofString "Smith").isSet = true := rfl
    rw [fullName, hliteral, hfamily, hset, hgiven]
    rfl
  have hlists : roleLists (.ofString "editor")
      [⟨.ofString "editor", given, .ofString "Smith", emptyText, []⟩] = .error e := by
    rw [roleLists, List.mapM_cons, hfull]
    rfl
  have hgroups : byRole [⟨.ofString "editor", given, .ofString "Smith", emptyText, []⟩] =
      .ok [(.ofString "editor",
        [⟨.ofString "editor", given, .ofString "Smith", emptyText, []⟩])] := rfl
  rw [hentry, lists_eq, hgroups]
  simp only [Except.bind, List.mapM_cons, hlists]
  rfl

theorem hasNames_smith (given : Value) :
    HasNames (edited [] [smith given]) (editedNames [] [smith given]) := by
  have hentry : IsNameEntry (smith given) :=
    ⟨Record.hasDistinctKeys_of_texts (["family", "given"].map String.toList)
      (by decide) rfl, .inl rfl⟩
  exact hasNames_edited (List.forall_mem_nil _) (List.forall_mem_singleton.mpr hentry)

theorem lists_tooLong {n : Int} (h : Integer.tooLong n = true) :
    (ofCitation (.record (edited [] [smith (.int n)]))).bind lists = .error .tooManyDigits := by
  have hset : (Value.int n).isSet = true := by
    rw [Value.isSet, bne_iff_ne]
    rintro rfl
    have hzero : Integer.tooLong 0 = false := by decide +kernel
    rw [hzero] at h
    cases h
  have hlong : (Value.int n).asText = .error .tooManyDigits := by
    show Integer.write n = _
    rw [Integer.write, h]
    rfl
  have hall : allNames (editedNames [] [smith (.int n)]) = [("editor", smith (.int n))] := rfl
  rw [ofCitation_eq (hasNames_smith _), hall, Except.bind, List.map_singleton]
  exact lists_smith hset hlong

def longNumberName : Value := .int (Nat.pow 10 Integer.maxDigits)

theorem lists_longNumberName :
    HasNames (edited [] [smith longNumberName]) (editedNames [] [smith longNumberName]) ∧
      (ofCitation (.record (edited [] [smith longNumberName]))).bind lists =
        .error .tooManyDigits := by
  have hlong : Integer.tooLong (Nat.pow 10 Integer.maxDigits) = true :=
    decide_eq_true (Nat.le_of_eq (Int.natAbs_natCast _).symm)
  exact ⟨hasNames_smith _, lists_tooLong hlong⟩

end LitNote.Contributor
