import LitNote.Proofs.Citation.Bracket
import LitNote.Proofs.Template.Pieces

/-!
Groups of the compact notation in any template.  Main statements: a template is expanded token by
token, tags included, so that a tag stays as it is exactly if there is no group in it; and no group
is left in a template that has been expanded.
-/

namespace LitNote.Bracket

open Template (Token tokenize)

namespace Group

variable {s : Text} {g : Group}

/-- The modifiers that are read are what stands before the closing bracket.  With a word in reverse
the text goes on within the modifier that starts with it. -/
theorem exists_of_modifiers? {word : Option Text} {ms : List Text}
    (hword : ∀ w ∈ word, ∀ c ∈ w, isModifierChar c = true)
    (h : modifiers? word s = some ms) :
    (∀ m ∈ ms, m ≠ [] ∧ ∀ c ∈ m, isModifierChar c = true) ∧
      ∃ rest, (word.map fun w => ':' :: w.reverse).getD [] ++ s =
        ms.flatMap (':' :: ·) ++ ']' :: rest := by
  induction s generalizing word ms with
  | nil => cases h
  | cons c s ih =>
    cases word with
    | none =>
      rw [modifiers?] at h
      split at h
      · next hclose =>
        cases h
        rw [beq_iff_eq.mp hclose]
        exact ⟨fun _ hm => absurd hm List.not_mem_nil, s, rfl⟩
      · split at h
        · next hcolon =>
          rw [beq_iff_eq.mp hcolon]
          exact ih (by simp) h
        · cases h
    | some w =>
      have hw := hword w rfl
      have hreverse : ∀ c ∈ w.reverse, isModifierChar c = true :=
        fun c hc => hw c (List.mem_reverse.mp hc)
      -- The word goes on, or it ends at the bracket or at the colon before the next.
      rw [modifiers?] at h
      split at h
      · next hc =>
        obtain ⟨hms, rest, heq⟩ := ih (by simpa using ⟨hc, hw⟩) h
        refine ⟨hms, rest, ?_⟩
        rw [← heq]
        simp
      · split at h
        · cases h
        next hempty =>
        have hne : w.reverse ≠ [] := fun hnil =>
          hempty (List.isEmpty_iff.mpr (List.reverse_eq_nil_iff.mp hnil))
        split at h
        · next hclose =>
          cases h
          rw [beq_iff_eq.mp hclose]
          refine ⟨fun m hm => List.mem_singleton.mp hm ▸ ⟨hne, hreverse⟩, s, ?_⟩
          simp
        · split at h
          · next hcolon =>
            obtain ⟨more, hmore, rfl⟩ := Option.map_eq_some_iff.mp h
            obtain ⟨hms, rest, heq⟩ := ih (by simp) hmore
            refine ⟨List.forall_mem_cons.mpr ⟨⟨hne, hreverse⟩, hms⟩, rest, ?_⟩
            rw [beq_iff_eq.mp hcolon, List.flatMap_cons, List.append_assoc, ← heq]
            simp
          · cases h

theorem atStart?_eq_some_iff : atStart? s = some g ↔ g.IsWellFormed ∧ g.spelling <+: s := by
  constructor
  · intro h
    rw [atStart?.eq_def] at h
    split at h
    · next rest =>
      dsimp only at h
      split at h
      · cases h
      next hempty =>
      obtain ⟨ms, hms, rfl⟩ := Option.map_eq_some_iff.mp h
      obtain ⟨hwell, more, heq⟩ := exists_of_modifiers? (by simp) hms
      have hfield := @List.takeWhile_append_dropWhile _ Text.isAsciiWordChar rest
      have hrest : rest.dropWhile Text.isAsciiWordChar = ms.flatMap (':' :: ·) ++ ']' :: more := heq
      refine ⟨⟨fun hnil => hempty (List.isEmpty_iff.mpr hnil),
        fun c hc => List.mem_takeWhile_imp hc, hwell⟩, more, ?_⟩
      rw [hrest] at hfield
      rw [← hfield]
      simp [spelling, hfield]
    · cases h
  · rintro ⟨hg, rest, rfl⟩
    exact atStart?_spelling hg rest

theorem IsWellFormed.noBrace (h : g.IsWellFormed) {c : Char} (hc : c ∈ g.spelling) :
    c ≠ '{' ∧ c ≠ '}' := by
  have hword : ∀ d ∈ g.field, d ≠ '{' ∧ d ≠ '}' := by
    intro d hd
    have hd := h.isWord d hd
    constructor <;> (rintro rfl; cases hd)
  have hmodifier : ∀ m ∈ g.modifiers, ∀ d ∈ m, d ≠ '{' ∧ d ≠ '}' := by
    intro m hm d hd
    have hd := (h.areModifiers m hm).2 d hd
    constructor <;> (rintro rfl; cases hd)
  simp only [spelling, List.mem_cons, List.mem_append, List.mem_flatMap, List.not_mem_nil,
    or_false] at hc
  obtain ((rfl | hc) | ⟨m, hm, rfl | hc⟩) | rfl := hc
  · decide
  · exact hword c hc
  · decide
  · exact hmodifier m hm c hc
  · decide

theorem IsWellFormed.bracket_not_mem_tag (h : g.IsWellFormed) : '[' ∉ g.tag := by
  have hkey : '[' ∉ g.key := not_mem_of_areTagChars (areTagChars_key h).2 rfl
  have hformatters : ∀ f ∈ g.formatters, '[' ∉ f :=
    fun f hf => not_mem_of_areTagChars (areTagChars_formatters h f hf).2 rfl
  intro hmem
  simp only [tag, Token.tagRaw, List.mem_cons, List.mem_append, List.mem_flatMap,
    List.not_mem_nil, or_false] at hmem
  obtain (hc | hc | hc | ⟨f, hf, hc | hc⟩) | hc | hc := hmem
  · cases hc
  · cases hc
  · exact hkey hc
  · cases hc
  · exact hformatters f hf hc
  · cases hc
  · cases hc

end Group

def Parted (a rest : Text) : Prop :=
  (∀ c, a.getLast? = some c → c = '}') ∨ ∀ c, rest.head? = some c → c = '{'

theorem Parted.of_suffix {a b rest : Text} (h : Parted a rest) (hb : b <:+ a) : Parted b rest := by
  refine h.imp_left fun hlast c hc => hlast c ?_
  obtain ⟨u, rfl⟩ := hb
  rw [List.getLast?_append, hc]
  rfl

theorem prefix_of_parted {a rest : Text} (h : Parted a rest) (hne : a ≠ []) {g : Group}
    (hg : g.IsWellFormed) (hpre : g.spelling <+: a ++ rest) : g.spelling <+: a := by
  obtain hshort | hlong := List.prefix_or_prefix_of_prefix hpre (List.prefix_append a rest)
  · exact hshort
  · obtain ⟨b, hb⟩ := hlong
    cases b with
    | nil => exact ⟨[], by rw [List.append_nil, ← hb, List.append_nil]⟩
    | cons c b =>
      -- The group would go on over the brace where the two texts meet.
      rw [← hb] at hpre
      have hmem : ∀ d ∈ a ++ c :: b, d ≠ '{' ∧ d ≠ '}' := fun d hd => hg.noBrace (hb ▸ hd)
      obtain hlast | hhead := h
      · obtain ⟨u, d, rfl⟩ := (List.eq_nil_or_concat a).resolve_left hne
        rw [List.concat_eq_append] at hlast hmem
        have hd := hlast d List.getLast?_concat
        exact absurd hd (hmem d (by simp)).2
      · obtain ⟨u, hu⟩ := hpre
        rw [List.append_assoc] at hu
        have hrest := List.append_cancel_left hu
        have hc := hhead c (by rw [← hrest]; rfl)
        exact absurd hc (hmem c (by simp)).1

theorem atStart?_append {a rest : Text} (h : Parted a rest) (hne : a ≠ []) :
    Group.atStart? (a ++ rest) = Group.atStart? a := by
  refine Option.ext fun g => ?_
  rw [Group.atStart?_eq_some_iff, Group.atStart?_eq_some_iff]
  constructor
  · exact fun ⟨hg, hpre⟩ => ⟨hg, prefix_of_parted h hne hg hpre⟩
  · exact fun ⟨hg, hpre⟩ => ⟨hg, hpre.trans (List.prefix_append a rest)⟩

theorem expand_group {g : Group} (h : g.IsWellFormed) (rest : Text) :
    expand (g.spelling ++ rest) = g.tag ++ expand rest := expandFrom_group h rest

theorem expand_cons {c : Char} {s : Text} (h : Group.atStart? (c :: s) = none) :
    expand (c :: s) = c :: expand s := by
  rw [expand, expandFrom, h]
  rfl

/-- Induction on a text from the left, by groups and the characters between them. -/
@[elab_as_elim]
theorem groupInduction {motive : Text → Prop} (nil : motive [])
    (group : ∀ (g : Group) rest, g.IsWellFormed → motive rest → motive (g.spelling ++ rest))
    (char : ∀ c s, Group.atStart? (c :: s) = none → motive s → motive (c :: s))
    (t : Text) : motive t := by
  induction hn : t.length using Nat.strongRecOn generalizing t with
  | ind n ih =>
    cases t with
    | nil => exact nil
    | cons c s =>
      cases hstart : Group.atStart? (c :: s) with
      | none =>
        refine char c s hstart (ih s.length ?_ s rfl)
        rw [← hn]
        exact Nat.lt_succ_self _
      | some g =>
        obtain ⟨hg, rest, heq⟩ := Group.atStart?_eq_some_iff.mp hstart
        rw [← heq] at hn ⊢
        refine group g rest hg (ih rest.length ?_ rest rfl)
        rw [← hn, List.length_append, Group.spelling, List.cons_append, List.cons_append,
          List.length_cons]
        omega

theorem expand_append {a rest : Text} (h : Parted a rest) :
    expand (a ++ rest) = expand a ++ expand rest := by
  induction a using groupInduction with
  | nil => rfl
  | group g u hg ih =>
    have ih := ih (h.of_suffix (List.suffix_append g.spelling u))
    rw [List.append_assoc, expand_group hg, expand_group hg, ih, List.append_assoc]
  | char c s hstart ih =>
    have hnone : Group.atStart? (c :: (s ++ rest)) = none :=
      (atStart?_append h (List.cons_ne_nil c s)).trans hstart
    have ih := ih (h.of_suffix (List.suffix_cons c s))
    rw [List.cons_append, expand_cons hnone, expand_cons hstart, ih, List.cons_append]

theorem expand_eq_flatMap (t : Text) : expand t = (tokenize t).flatMap fun k => expand k.raw := by
  induction t using Template.tokenInduction with
  | nil => rfl
  | tag body rest hbrace ih =>
    have hparted : Parted (Token.tagRaw body) rest := by
      refine .inl fun c hc => ?_
      rw [Token.tagRaw, List.getLast?_append] at hc
      exact (Option.some.inj hc).symm
    rw [Template.tokenize_tag hbrace, List.flatMap_cons, Token.raw_ofTag, expand_append hparted, ih]
  | run run rest hrun ih =>
    have hparted : Parted run rest := .inr fun c hc => hrun.ends.head?_eq hc
    rw [hrun.tokenize_eq, List.flatMap_cons, expand_append hparted, ih]
    rfl

def HasGroup (s : Text) : Prop := ∃ g : Group, g.IsWellFormed ∧ g.spelling <:+: s

theorem HasGroup.mono {s t : Text} (h : HasGroup s) (ht : s <:+: t) : HasGroup t := by
  obtain ⟨g, hg, hs⟩ := h
  exact ⟨g, hg, hs.trans ht⟩

theorem expand_of_not_hasGroup {s : Text} (h : ¬HasGroup s) : expand s = s := by
  induction s using groupInduction with
  | nil => rfl
  | group g rest hg _ => exact absurd ⟨g, hg, (List.prefix_append g.spelling rest).isInfix⟩ h
  | char c s hstart ih =>
    rw [expand_cons hstart, ih fun hs => h (hs.mono (List.suffix_cons c s).isInfix)]

theorem count_expand (s : Text) :
    (expand s).count '[' ≤ s.count '[' ∧ (HasGroup s → (expand s).count '[' < s.count '[') := by
  induction s using groupInduction with
  | nil =>
    refine ⟨Nat.le_refl _, ?_⟩
    rintro ⟨g, -, hg⟩
    cases List.eq_nil_of_infix_nil hg
  | group g rest hg ih =>
    have htag : g.tag.count '[' = 0 := List.count_eq_zero.mpr hg.bracket_not_mem_tag
    have hspelling : 0 < g.spelling.count '[' := List.count_pos_iff.mpr (List.mem_cons_self ..)
    rw [expand_group hg, List.count_append, List.count_append]
    omega
  | char c s hstart ih =>
    rw [expand_cons hstart, List.count_cons, List.count_cons]
    refine ⟨Nat.add_le_add_right ih.1 _, ?_⟩
    rintro ⟨g, hg, hinfix⟩
    obtain hpre | hinfix := List.infix_cons_iff.mp hinfix
    · rw [Group.atStart?_eq_some_iff.mpr ⟨hg, hpre⟩] at hstart
      cases hstart
    · exact Nat.add_lt_add_right (ih.2 ⟨g, hg, hinfix⟩) _

def expandText : Token → Text
  | .text raw => expand raw
  | k => k.raw

def isTag : Token → Bool
  | .text _ => false
  | _ => true

theorem count_expand_le_expandText (k : Token) :
    (expand k.raw).count '[' ≤ (expandText k).count '[' := by
  cases k with
  | text raw => exact Nat.le_refl _
  | _ => exact (count_expand _).1

/-- By counting brackets: no token has more of them when it is expanded as a whole. -/
theorem not_hasGroup_of_flatMap {ks : List Token}
    (h : ks.flatMap (fun k => expand k.raw) = ks.flatMap expandText) :
    ∀ k ∈ ks, isTag k = true → ¬HasGroup k.raw := by
  have hle (ks : List Token) : (ks.flatMap fun k => expand k.raw).count '[' ≤
      (ks.flatMap expandText).count '[' := by
    induction ks with
    | nil => exact Nat.le_refl _
    | cons k ks ih =>
      rw [List.flatMap_cons, List.flatMap_cons, List.count_append, List.count_append]
      exact Nat.add_le_add (count_expand_le_expandText k) ih
  intro k hk htag hgroup
  obtain ⟨before, after, rfl⟩ := List.append_of_mem hk
  have hcount := congrArg (List.count '[') h
  simp only [List.flatMap_append, List.flatMap_cons, List.count_append] at hcount
  have hbefore := hle before
  have hafter := hle after
  have hlt : (expand k.raw).count '[' < (expandText k).count '[' := by
    cases k with
    | text raw => cases htag
    | _ => exact (count_expand _).2 hgroup
  omega

/-- A template is expanded token by token, the tags like the texts between them.  The tags are left
as they are exactly if no group stands in any of them. -/
theorem expand_by_token (t : Text) :
    expand t = (tokenize t).flatMap (fun k => expand k.raw) ∧
      (expand t = (tokenize t).flatMap expandText ↔
        ∀ k ∈ tokenize t, isTag k = true → ¬HasGroup k.raw) := by
  refine ⟨expand_eq_flatMap t, ?_⟩
  rw [expand_eq_flatMap]
  constructor
  · exact not_hasGroup_of_flatMap
  · intro h
    refine List.flatMap_congr fun k hk => ?_
    cases k with
    | text raw => rfl
    | _ => exact expand_of_not_hasGroup (h _ hk rfl)

theorem expand_rewrites_tag : expand (Token.tagRaw "title|replace:[aeiou]:x".toList) ≠
    (tokenize (Token.tagRaw "title|replace:[aeiou]:x".toList)).flatMap expandText := by
  decide

theorem not_hasGroup_of_not_mem {s : Text} (h : '[' ∉ s) : ¬HasGroup s := by
  rintro ⟨g, -, hg⟩
  have hstart : '[' ∈ g.spelling := List.mem_cons_self ..
  exact h (hg.subset hstart)

theorem prefix_of_prefix_expand {u s : Text} (hbrace : '{' ∉ u) (h : u <+: expand s) :
    u <+: s := by
  induction s using groupInduction generalizing u with
  | nil => exact h
  | group g rest hg _ =>
    rw [expand_group hg] at h
    cases u with
    | nil => exact List.nil_prefix
    | cons c u =>
      have hc : c = '{' := (List.cons_prefix_cons.mp h).1
      exact absurd (hc ▸ List.mem_cons_self ..) hbrace
  | char c s hstart ih =>
    rw [expand_cons hstart] at h
    cases u with
    | nil => exact List.nil_prefix
    | cons d u =>
      rcases List.cons_prefix_cons.mp h with ⟨rfl, hu⟩
      have hbrace : '{' ∉ u := fun hmem => hbrace (List.mem_cons_of_mem d hmem)
      exact List.cons_prefix_cons.mpr ⟨rfl, ih hbrace hu⟩

theorem not_hasGroup_append {a rest : Text} (h : Parted a rest) (ha : ¬HasGroup a)
    (hrest : ¬HasGroup rest) : ¬HasGroup (a ++ rest) := by
  induction a with
  | nil => exact hrest
  | cons c a ih =>
    have ha' : ¬HasGroup a := fun hgroup => ha (hgroup.mono (List.suffix_cons c a).isInfix)
    have ih := ih (h.of_suffix (List.suffix_cons c a)) ha'
    rintro ⟨g, hg, hinfix⟩
    rcases List.infix_cons_iff.mp hinfix with hpre | hinfix
    · have hpre := prefix_of_parted h (List.cons_ne_nil c a) hg hpre
      exact ha ⟨g, hg, hpre.isInfix⟩
    · exact ih ⟨g, hg, hinfix⟩

theorem not_hasGroup_expand (t : Text) : ¬HasGroup (expand t) := by
  -- By induction on groups and characters: neither a tag nor a character that stays completes a
  -- group with what follows it.
  induction t using groupInduction with
  | nil => exact not_hasGroup_of_not_mem List.not_mem_nil
  | group g rest hg ih =>
    have hparted : Parted g.tag (expand rest) := by
      refine .inl fun c hc => ?_
      rw [Group.tag, Token.tagRaw, List.getLast?_append] at hc
      exact (Option.some.inj hc).symm
    rw [expand_group hg]
    exact not_hasGroup_append hparted (not_hasGroup_of_not_mem hg.bracket_not_mem_tag) ih
  | char c s hstart ih =>
    rw [expand_cons hstart]
    rintro ⟨g, hg, hinfix⟩
    rcases List.infix_cons_iff.mp hinfix with hpre | hinfix
    · -- The same group would stand in the text before it was expanded.
      have hbrace : '{' ∉ g.spelling := fun hmem => (hg.noBrace hmem).1 rfl
      have hpre' : g.spelling <+: expand (c :: s) := by
        rw [expand_cons hstart]
        exact hpre
      have hfound := Group.atStart?_eq_some_iff.mpr ⟨hg, prefix_of_prefix_expand hbrace hpre'⟩
      rw [hstart] at hfound
      cases hfound
    · exact ih ⟨g, hg, hinfix⟩

/-- An expanded template has no group in it, so that expanding it again changes nothing; and a
template stays as it is only if it has none. -/
theorem expand_leaves_no_group (t : Text) :
    ¬HasGroup (expand t) ∧ expand (expand t) = expand t ∧ (expand t = t ↔ ¬HasGroup t) := by
  have hexpanded := not_hasGroup_expand t
  refine ⟨hexpanded, expand_of_not_hasGroup hexpanded, ?_, expand_of_not_hasGroup⟩
  intro heq
  rwa [heq] at hexpanded

end LitNote.Bracket
