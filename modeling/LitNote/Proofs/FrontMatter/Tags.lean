import Mathlib.Data.List.Forall2
import LitNote.FrontMatter.Basic
import LitNote.Note.Variables
import LitNote.Proofs.Failure
import LitNote.Proofs.Value.Record

/-!
Tags in front matter.  Main statement: they are the tags of the citation that are not blank and the
tag that every note gets, each of them once.
-/

namespace LitNote.FrontMatter

def HasTags (citation : Value) (tags : List Text) : Prop :=
  ∃ fields : Record, citation = .record fields ∧
    (fields.get "tags".toList).orElse (.list []) = Note.texts tags

def noteTags (tags : List Text) (tag : Text) : List Text :=
  (tags.filter (fun t => !t.all Text.isBlank) ++
    if (Text.trim tag).isEmpty then [] else [Text.trim tag]).eraseDups

abbrev AreTexts (ps : List Piece) (ts : List Text) : Prop :=
  List.Forall₂ (fun p t => p.value = .text t) ps ts

namespace AreTexts

variable {ps : List Piece} {ts : List Text}

theorem placedItems (place : Place) (i : Nat) (ts : List Text) :
    AreTexts (placedItems place i (ts.map .text)) ts := by
  induction ts generalizing i with
  | nil => exact .nil
  | cons t ts ih =>
    rw [List.map_cons, FrontMatter.placedItems]
    exact .cons (by rw [Piece.value]) (ih (i + 1))

theorem valueItems (h : AreTexts ps ts) : Piece.valueItems ps = ts.map .text := by
  induction h with
  | nil => rfl
  | cons hp _ ih => rw [Piece.valueItems, List.map_cons, hp, ih]

theorem mapM_asText (h : AreTexts ps ts) : ps.mapM (fun p => p.value.asText) = .ok ts := by
  induction h with
  | nil => rfl
  | cons hp _ ih =>
    rw [List.mapM_cons, hp, ih]
    rfl

theorem kept (h : AreTexts ps ts) (keep : Text → Bool) :
    AreTexts (((ps.zip ts).filter fun (_, s) => keep s).map (·.1)) (ts.filter keep) := by
  induction h with
  | nil => exact .nil
  | @cons p t ps ts hp _ ih =>
    rw [List.zip_cons_cons, List.filter_cons, List.filter_cons]
    cases hkeep : keep t with
    | false =>
      rw [if_neg (by simp [hkeep]), if_neg Bool.false_ne_true]
      exact ih
    | true =>
      rw [if_pos (by simp [hkeep]), if_pos rfl]
      exact .cons hp ih

theorem areKeys (h : AreTexts ps ts) : ps.find? (fun p => !p.value.isKey) = none := by
  induction h with
  | nil => rfl
  | cons hp _ ih =>
    rw [List.find?_cons, hp]
    exact ih

theorem any_sameKey (h : AreTexts ps ts) {p : Piece} {t : Text} (hp : p.value = .text t) :
    (ps.any fun q => q.value.sameKey p.value) = ts.any fun s => t == s := by
  induction h with
  | nil => rfl
  | cons hq _ ih =>
    rw [List.any_cons, List.any_cons, ih, hq, hp, Value.sameKey_text, BEq.comm]

theorem distinct_loop {kept : List Piece} {seen : List Text} (h : AreTexts ps ts)
    (hkept : AreTexts kept seen) :
    AreTexts (ps.foldl (fun kept p =>
        if kept.any fun q => q.value.sameKey p.value then kept else p :: kept) kept).reverse
      (List.eraseDupsBy.loop (fun s t => s == t) ts seen) := by
  -- By induction on the pieces, with those that have been kept so far.
  induction h generalizing kept seen with
  | nil => exact List.rel_reverse hkept
  | @cons p t ps ts hp _ ih =>
    rw [List.foldl_cons, List.eraseDupsBy.loop, any_sameKey hkept hp]
    cases seen.any fun s => t == s with
    | true => exact ih hkept
    | false => exact ih (.cons hp hkept)

theorem distinct (h : AreTexts ps ts) : AreTexts (distinct ps) ts.eraseDups := h.distinct_loop .nil

end AreTexts

theorem exists_tagPieces {citation : Value} {tags : List Text} (h : HasTags citation tags)
    (tag : Text) :
    ∃ pieces, tagPieces citation tag = .ok pieces ∧ AreTexts pieces (noteTags tags tag) := by
  obtain ⟨fields, rfl, htags⟩ := h
  have hfields : Value.fields (.record fields) = .ok fields := rfl
  have hplaced := AreTexts.placedItems [tagsKey] 0 tags
  have hpieces : elementPieces [tagsKey] (Note.texts tags) =
      .ok (placedItems [tagsKey] 0 (tags.map .text)) := rfl
  have hset := hplaced.kept fun s => !s.all Text.isBlank
  have hown : AreTexts (if (Text.trim tag).isEmpty then [] else [.own (.text (Text.trim tag))])
      (if (Text.trim tag).isEmpty then [] else [Text.trim tag]) := by
    split
    · exact .nil
    · exact .cons rfl .nil
  have hall := List.rel_append hset hown
  refine ⟨_, ?_, AreTexts.distinct hall⟩
  rw [tagPieces, hfields]
  simp only [bind, Except.bind, htags, hpieces, hplaced.mapM_asText]
  split
  · next p hp => cases (AreTexts.areKeys hall).symm.trans hp
  · rfl

end LitNote.FrontMatter
