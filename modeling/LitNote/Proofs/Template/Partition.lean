import LitNote.Proofs.Template.Composition
import Mathlib.Data.List.Chain
import Mathlib.Data.List.Infix

/-!
What the tokens of a template are.  Main statement: they are the only way to cut it into complete
tags and plain text so that no tag begins within the plain text, and a template without tags is
rendered as it stands.
-/

namespace LitNote.Template

namespace Token

def IsTag (k : Token) : Prop := ∃ body, '}' ∉ body ∧ k.raw = tagRaw body ∧ k = ofTag body k.raw

def IsPlain (k : Token) : Prop := k = .text k.raw ∧ ∀ body, '}' ∉ body → k.raw ≠ tagRaw body

theorem isTag_ofTag {body : Text} (h : '}' ∉ body) : (ofTag body (tagRaw body)).IsTag := by
  have hraw := raw_ofTag body (tagRaw body)
  exact ⟨body, h, hraw, by rw [hraw]⟩

theorem IsTag.not_isPlain {k : Token} (h : k.IsTag) : ¬k.IsPlain := by
  obtain ⟨body, hbody, hraw, -⟩ := h
  exact fun hplain => hplain.2 body hbody hraw

theorem IsTag.raw_ne_nil {k : Token} (h : k.IsTag) : k.raw ≠ [] := by
  obtain ⟨body, -, hraw, -⟩ := h
  rw [hraw]
  exact List.cons_ne_nil _ _

end Token

/-- Tokens that cut a template into complete tags and the text between them, in which no tag
begins. -/
structure Partitions (ts : List Token) (t : Text) : Prop where
  joined : ts.flatMap Token.raw = t
  ne_nil : ∀ k ∈ ts, k.raw ≠ []
  tag_or_plain : ∀ k ∈ ts, k.IsTag ∨ k.IsPlain
  apart : ts.IsChain fun k next => ¬(k.IsPlain ∧ next.IsPlain)
  noTag : ∀ before k after, ts = before ++ k :: after → k.IsPlain →
    ∀ i < k.raw.length, ¬BeginsTag (t.drop ((before.flatMap Token.raw).length + i))

namespace Partitions

variable {k : Token} {ts : List Token} {t : Text}

theorem nil : Partitions [] [] where
  joined := rfl
  ne_nil _ h := absurd h List.not_mem_nil
  tag_or_plain _ h := absurd h List.not_mem_nil
  apart := .nil
  noTag before k after h := by cases before <;> cases h

theorem cons (hne : k.raw ≠ []) (hkind : k.IsTag ∨ k.IsPlain)
    (hapart : ∀ next ∈ ts.head?, ¬(k.IsPlain ∧ next.IsPlain))
    (hfree : k.IsPlain → ∀ i < k.raw.length, ¬BeginsTag ((k.raw ++ t).drop i))
    (h : Partitions ts t) : Partitions (k :: ts) (k.raw ++ t) where
  joined := by rw [List.flatMap_cons, h.joined]
  ne_nil := List.forall_mem_cons.mpr ⟨hne, h.ne_nil⟩
  tag_or_plain := List.forall_mem_cons.mpr ⟨hkind, h.tag_or_plain⟩
  apart := List.isChain_cons.mpr ⟨hapart, h.apart⟩
  noTag := by
    intro before other after heq hplain i hi
    cases before with
    | nil =>
      cases heq
      rw [List.flatMap_nil, List.length_nil, Nat.zero_add]
      exact hfree hplain i hi
    | cons first before =>
      cases heq
      rw [List.flatMap_cons, List.length_append, Nat.add_assoc, List.drop_length_add_append]
      exact h.noTag before other after rfl hplain i hi

theorem exists_tail (h : Partitions (k :: ts) t) : ∃ u, t = k.raw ++ u ∧ Partitions ts u := by
  have hjoined := h.joined
  rw [List.flatMap_cons] at hjoined
  refine ⟨ts.flatMap Token.raw, hjoined.symm, ?_⟩
  refine ⟨rfl, (List.forall_mem_cons.mp h.ne_nil).2, (List.forall_mem_cons.mp h.tag_or_plain).2,
    h.apart.tail, ?_⟩
  intro before other after heq hplain i hi
  have hfree := h.noTag (k :: before) other after (congrArg (k :: ·) heq) hplain i hi
  rw [List.flatMap_cons, List.length_append, Nat.add_assoc, ← hjoined,
    List.drop_length_add_append] at hfree
  exact hfree

theorem isTag_iff (h : Partitions (k :: ts) t) : k.IsTag ↔ BeginsTag t := by
  constructor
  · rintro ⟨body, hbody, hraw, -⟩
    obtain ⟨u, hu, -⟩ := h.exists_tail
    exact ⟨body, u, hbody, by rw [hu, hraw]⟩
  · intro hbegins
    have hpos := List.length_pos_iff.mpr (h.ne_nil k (List.mem_cons_self ..))
    refine (h.tag_or_plain k (List.mem_cons_self ..)).resolve_right fun hplain => ?_
    exact h.noTag [] k ts rfl hplain 0 hpos hbegins

theorem exists_cons (h : Partitions ts t) (hne : t ≠ []) : ∃ k rest, ts = k :: rest := by
  refine List.exists_cons_of_ne_nil ?_
  rintro rfl
  exact hne h.joined.symm

theorem startsTag_tail {u : Text} (h : Partitions (k :: ts) (k.raw ++ u)) (hplain : k.IsPlain) :
    StartsTag u := by
  obtain ⟨v, hv, htail⟩ := h.exists_tail
  rw [List.append_cancel_left hv]
  by_cases hnil : v = []
  · exact .inl hnil
  · obtain ⟨next, rest, rfl⟩ := htail.exists_cons hnil
    have hnext : ¬next.IsPlain := fun hnext =>
      (List.isChain_cons.mp h.apart).1 next rfl ⟨hplain, hnext⟩
    exact .inr (htail.isTag_iff.mp
      ((htail.tag_or_plain next (List.mem_cons_self ..)).resolve_right hnext))

theorem isRun {u : Text} (h : Partitions (k :: ts) (k.raw ++ u)) (hplain : k.IsPlain) :
    IsRun k.raw u where
  ne_nil := h.ne_nil k (List.mem_cons_self ..)
  ends := h.startsTag_tail hplain
  noTag i hi := by
    have hfree := h.noTag [] k ts rfl hplain i hi
    rwa [List.flatMap_nil, List.length_nil, Nat.zero_add] at hfree

end Partitions

theorem IsRun.length_le {run rest other u : Text} (h : IsRun run rest) (ho : IsRun other u)
    (heq : run ++ rest = other ++ u) : run.length ≤ other.length := by
  by_contra hlt
  have hlt : other.length < run.length := Nat.lt_of_not_le hlt
  have hfree := h.noTag other.length hlt
  rw [heq, List.drop_left] at hfree
  obtain rfl | hbegins := ho.ends
  · rw [List.append_nil] at heq
    have hlength := congrArg List.length heq
    rw [List.length_append] at hlength
    omega
  · exact hfree hbegins

theorem IsRun.unique {run rest other u : Text} (h : IsRun run rest) (ho : IsRun other u)
    (heq : run ++ rest = other ++ u) : run = other ∧ rest = u :=
  List.append_inj heq (Nat.le_antisymm (h.length_le ho heq) (ho.length_le h heq.symm))

theorem tagRaw_append_inj {body other rest u : Text} (h : '}' ∉ body) (ho : '}' ∉ other)
    (heq : Token.tagRaw body ++ rest = Token.tagRaw other ++ u) : body = other ∧ rest = u := by
  have hbody := Token.tagBody?_tagRaw h rest
  rw [heq, Token.tagBody?_tagRaw ho] at hbody
  cases hbody
  exact ⟨rfl, List.append_cancel_left heq⟩

theorem partitions_tokenize (t : Text) : Partitions (tokenize t) t := by
  induction t using tokenInduction with
  | nil => exact .nil
  | tag body rest hbrace ih =>
    have htag := Token.isTag_ofTag hbrace
    have hcons := Partitions.cons htag.raw_ne_nil (.inl htag)
      (fun _ _ h => htag.not_isPlain h.1) (fun h => absurd h htag.not_isPlain) ih
    rw [Token.raw_ofTag] at hcons
    rwa [tokenize_tag hbrace]
  | run run rest hrun ih =>
    have hplain : (Token.text run).IsPlain := by
      refine ⟨rfl, fun body hbody hraw => hrun.noTag 0 (List.length_pos_iff.mpr hrun.ne_nil) ?_⟩
      exact ⟨body, rest, hbody, congrArg (· ++ rest) hraw⟩
    rw [hrun.tokenize_eq]
    refine Partitions.cons hrun.ne_nil (.inr hplain) ?_ (fun _ => hrun.noTag) ih
    -- What ends a run is the end of the template or a tag, which is the next token.
    rintro next hnext ⟨-, hnextPlain⟩
    obtain rfl | ⟨body, u, hbody, rfl⟩ := hrun.ends
    · cases hnext
    · rw [tokenize_tag hbody] at hnext
      cases hnext
      exact (Token.isTag_ofTag hbody).not_isPlain hnextPlain

/-- There is no other way to cut a template. -/
theorem Partitions.eq_tokenize {ts : List Token} {t : Text} (h : Partitions ts t) :
    ts = tokenize t := by
  induction t using tokenInduction generalizing ts with
  | nil =>
    cases ts with
    | nil => rfl
    | cons k ts =>
      obtain ⟨u, hu, -⟩ := h.exists_tail
      exact absurd (List.append_eq_nil_iff.mp hu.symm).1 (h.ne_nil k (List.mem_cons_self ..))
  | tag body rest hbrace ih =>
    obtain ⟨k, ts, rfl⟩ := h.exists_cons (List.cons_ne_nil _ _)
    obtain ⟨other, hother, hraw, hk⟩ := h.isTag_iff.mpr ⟨body, rest, hbrace, rfl⟩
    obtain ⟨u, hu, htail⟩ := h.exists_tail
    rw [hraw] at hu hk
    obtain ⟨rfl, rfl⟩ := tagRaw_append_inj hbrace hother hu
    rw [tokenize_tag hbrace, ← ih htail, ← hk]
  | run run rest hrun ih =>
    -- No tag begins here, so that the first token is a run as well, and there is only one.
    have hne : run ++ rest ≠ [] := List.append_ne_nil_of_left_ne_nil hrun.ne_nil rest
    obtain ⟨k, ts, rfl⟩ := h.exists_cons hne
    have hplain : k.IsPlain := by
      refine (h.tag_or_plain k (List.mem_cons_self ..)).resolve_left fun htag => ?_
      exact hrun.noTag 0 (List.length_pos_iff.mpr hrun.ne_nil) (h.isTag_iff.mp htag)
    obtain ⟨u, hu, htail⟩ := h.exists_tail
    rw [hu] at h
    obtain ⟨hraw, rfl⟩ := hrun.unique (h.isRun hplain) hu
    rw [hrun.tokenize_eq, ← ih htail, hplain.1, ← hraw]

def HasTag (t : Text) : Prop := ∃ body, '}' ∉ body ∧ Token.tagRaw body <:+: t

theorem hasTag_iff {t : Text} : HasTag t ↔ ∃ s ∈ t.tails, BeginsTag s := by
  constructor
  · rintro ⟨body, hbody, a, b, rfl⟩
    refine ⟨Token.tagRaw body ++ b, (List.mem_tails _ _).mpr ⟨a, ?_⟩, body, b, hbody, rfl⟩
    rw [List.append_assoc]
  · rintro ⟨s, hs, body, rest, hbody, rfl⟩
    have hprefix := (List.prefix_append (Token.tagRaw body) rest).isInfix
    exact ⟨body, hbody, hprefix.trans ((List.mem_tails _ _).mp hs).isInfix⟩

instance (s : Text) : Decidable (BeginsTag s) :=
  decidable_of_iff (Token.tagBody? s ≠ none) (Token.tagBody?_eq_none_iff.not_left)

instance (t : Text) : Decidable (HasTag t) := decidable_of_iff _ hasTag_iff.symm

theorem isRun_of_not_hasTag {t : Text} (hne : t ≠ []) (h : ¬HasTag t) : IsRun t [] := by
  refine ⟨hne, .inl rfl, fun i _ hbegins => h (hasTag_iff.mpr ⟨t.drop i, ?_, ?_⟩)⟩
  · exact (List.mem_tails _ _).mpr (List.drop_suffix i t)
  · rwa [List.append_nil] at hbegins

theorem render_nil (vars : Record) : render [] (.record vars) = pure [] := by
  have hparse : parse [] = .ok [] := by
    rw [parse, show tokenize [] = [] from rfl, Body.ofTokens_nil]
    rfl
  exact render_of_parse hparse (renderNodes_nil _)

theorem renderAs_of_not_hasTag {t : Text} (h : ¬HasTag t) (vars : Record) :
    renderAs ⟨false, false⟩ t (.record vars) = pure t := by
  rw [renderAs_asIs]
  by_cases hne : t = []
  · rw [hne, render_nil]
  · exact render_of_isRun (isRun_of_not_hasTag hne h) vars

/-- The tokens of a template cut it into complete tags and plain text, in which no tag begins; no
other tokens do, and without tags the template is rendered as it stands. -/
theorem tokenize_partitions (t : Text) :
    Partitions (tokenize t) t ∧ (∀ ts, Partitions ts t → ts = tokenize t) ∧
      (¬HasTag t → ∀ vars : Record, renderAs ⟨false, false⟩ t (.record vars) = pure t) :=
  ⟨partitions_tokenize t, fun _ h => h.eq_tokenize, renderAs_of_not_hasTag⟩

def brokenTag : Text := ['{', '{', 'a', '}', 'b']

theorem tokenize_partitions_braces :
    Partitions [.text brokenTag, .var (Token.tagRaw ['{', 'c']) ['{', 'c'] [], .text ['}']]
        (brokenTag ++ Token.tagRaw ['{', 'c'] ++ ['}']) ∧
      ¬HasTag (brokenTag ++ ['}', '}', '{', '{']) ∧
      renderAs ⟨false, false⟩ (brokenTag ++ ['}', '}', '{', '{']) (.record []) =
        pure (brokenTag ++ ['}', '}', '{', '{']) :=
  ⟨(tokenize_partitions (brokenTag ++ Token.tagRaw ['{', 'c'] ++ ['}'])).1, by decide,
    (tokenize_partitions _).2.2 (by decide) []⟩

end LitNote.Template
