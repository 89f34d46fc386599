import LitNote.Log
import LitNote.Proofs.Failure
import LitNote.Proofs.Text.Words
import Mathlib.Algebra.Ring.Nat

/-!
What the records of a log look like.  Main statements: a clipped text is a normal form of bounded
length; a message of text is one line of bounded length, whatever the text is; that of a metric is
one exactly if the event and the keys are spaced like one and leave room for each other, since only
the values are cut.
-/

namespace LitNote.Log

open Text

theorem flatten_eq (s : Text) : flatten s = collapsed s := trim_squeezed s

theorem isFlat_flatten (s : Text) : IsFlat (flatten s) := isFlat_trim (isSpaced_squeezed s)

theorem isFlat_clip (s : Text) (limit : Int) : IsFlat (clip s limit) := by
  rw [clip]
  split
  · exact isFlat_flatten s
  · exact (isFlat_flatten s).cut (List.take_prefix _ _) (by decide)

theorem clip_of_le {s : Text} {limit : Int} (h : ((collapsed s).length : Int) ≤ limit) :
    clip s limit = collapsed s := by
  rw [clip, flatten_eq]
  exact if_pos h

theorem clip_of_lt {s : Text} {limit : Int} (hpos : 1 ≤ limit)
    (h : limit < (collapsed s).length) :
    clip s limit = (collapsed s).take (limit - 1).toNat ++ [ellipsis] := by
  rw [clip, flatten_eq, ← takeTo_of_nonneg _ (by omega)]
  exact if_neg (Int.not_le.mpr h)

theorem clip_of_isFlat {s : Text} {limit : Int} (hs : IsFlat s) (h : (s.length : Int) ≤ limit) :
    clip s limit = s := by
  rw [← hs.collapsed_eq] at h
  exact (clip_of_le h).trans hs.collapsed_eq

theorem length_clip_le {limit : Int} (h : 1 ≤ limit) (s : Text) :
    ((clip s limit).length : Int) ≤ limit := by
  by_cases hfits : ((collapsed s).length : Int) ≤ limit
  · rwa [clip_of_le hfits]
  · rw [clip_of_lt h (Int.not_le.mp hfits), List.length_append, List.length_take,
      List.length_singleton]
    omega

/-- A clipped text is flat and keeps to the limit.  It is the collapsed text if that fits, else its
start with an ellipsis, and the same clipping again does not change it. -/
theorem clip_normalizes {limit : Int} (h : 1 ≤ limit) (s : Text) :
    ((clip s limit).length : Int) ≤ limit ∧ IsFlat (clip s limit) ∧
      (((collapsed s).length : Int) ≤ limit → clip s limit = collapsed s) ∧
      (limit < (collapsed s).length →
        clip s limit = (collapsed s).take (limit - 1).toNat ++ [ellipsis]) ∧
      clip (clip s limit) limit = clip s limit := by
  have hlength : ((clip s limit).length : Int) ≤ limit := length_clip_le h s
  have hflat : IsFlat (clip s limit) := isFlat_clip s limit
  exact ⟨hlength, hflat, clip_of_le, clip_of_lt h, clip_of_isFlat hflat hlength⟩

theorem clip_normalizes_behindSpace :
    let s := "\u2003one\x85two \t three\n".toList
    (1 : Int) ≤ 5 ∧ collapsed s = "one two three".toList ∧ clip s 5 = "one \u2026".toList ∧
      ((clip s 5).length : Int) ≤ 5 ∧ IsFlat (clip s 5) ∧
      (((collapsed s).length : Int) ≤ 5 → clip s 5 = collapsed s) ∧
      (5 < ((collapsed s).length : Int) →
        clip s 5 = (collapsed s).take (5 - 1 : Int).toNat ++ [ellipsis]) ∧
      clip (clip s 5) 5 = clip s 5 := by
  intro s
  exact ⟨by decide, by decide +kernel, by decide +kernel, clip_normalizes (by decide) s⟩

structure IsLine (message : Text) : Prop where
  length : (message.length : Int) ≤ messageLength
  spaced : IsSpaced message

theorem isLine_clip (s : Text) : IsLine (clip s messageLength) :=
  ⟨length_clip_le (by decide) s, (isFlat_clip s messageLength).spaced⟩

def IsPart (p : Text × Value) (part : Text) : Prop :=
  ∃ t, p.2.asText = .ok t ∧ part = p.1 ++ '=' :: clip t fragmentLength

theorem isPart_iff {p : Text × Value} {part : Text} :
    IsPart p part ↔
      (clipValue p.2 fragmentLength).bind (fun t => .ok (p.1 ++ '=' :: t)) = .ok part := by
  rw [IsPart, Failure.bind_eq_ok_iff]
  constructor
  · rintro ⟨t, ht, rfl⟩
    exact ⟨clip t fragmentLength, Failure.bind_eq_ok_iff.mpr ⟨t, ht, rfl⟩, rfl⟩
  · rintro ⟨shown, hshown, heq⟩
    obtain ⟨t, ht, hclip⟩ := Failure.bind_eq_ok_iff.mp hshown
    cases hclip
    exact ⟨t, ht, (Except.ok.inj heq).symm⟩

theorem forall₂_isPart_iff {values : List (Text × Value)} {parts : List Text} :
    List.Forall₂ IsPart values parts ↔ values.mapM (fun p =>
      (clipValue p.2 fragmentLength).bind fun t => .ok (p.1 ++ '=' :: t)) = .ok parts := by
  simp only [Failure.mapM_eq_ok_iff, ← isPart_iff]

theorem exists_parts_iff {values : List (Text × Value)} :
    (∃ parts, List.Forall₂ IsPart values parts) ↔ ∀ p ∈ values, ∃ t, p.2.asText = .ok t := by
  simp only [forall₂_isPart_iff, Failure.exists_mapM_iff, ← isPart_iff]
  refine forall₂_congr fun p _ => ⟨?_, ?_⟩
  · rintro ⟨part, t, ht, -⟩
    exact ⟨t, ht⟩
  · rintro ⟨t, ht⟩
    exact ⟨_, t, ht, rfl⟩

theorem metricText_eq_ok_iff {event : Text} {values : List (Text × Value)} {message : Text} :
    metricText event values = .ok message ↔ ∃ parts, List.Forall₂ IsPart values parts ∧
      "METRIC ".toList ++ event ++ " | ".toList ++ join ", ".toList parts = message := by
  simp only [forall₂_isPart_iff]
  constructor
  · intro h
    obtain ⟨parts, hvalues, h⟩ := Failure.bind_eq_ok_iff.mp h
    exact ⟨parts, hvalues, Except.ok.inj h⟩
  · rintro ⟨parts, hvalues, rfl⟩
    exact Failure.bind_eq_ok_iff.mpr ⟨parts, hvalues, rfl⟩

def shownLength (v : Value) : Nat :=
  match v.asText with
  | .ok t => (clip t fragmentLength).length
  | .error _ => 0

def room (values : List (Text × Value)) : Nat :=
  (values.map fun p => p.1.length + 1 + shownLength p.2).sum + 2 * (values.length - 1)

namespace IsPart

variable {p : Text × Value} {part : Text}

theorem length (h : IsPart p part) : part.length = p.1.length + 1 + shownLength p.2 := by
  obtain ⟨t, ht, rfl⟩ := h
  rw [shownLength, ht, List.length_append, List.length_cons]
  dsimp only
  omega

theorem isSpaced_iff (h : IsPart p part) : IsSpaced part ↔ IsSpaced p.1 := by
  obtain ⟨t, -, rfl⟩ := h
  have hvalue : IsSpaced ('=' :: clip t fragmentLength) :=
    (isSpaced_cons (by decide)).mpr (isFlat_clip t fragmentLength).spaced
  have hmeet : ¬(p.1.getLast? = some ' ' ∧ ('=' :: clip t fragmentLength).head? = some ' ') :=
    fun hmeet => absurd hmeet.2 (by simp)
  exact ⟨fun h => (isSpaced_append.mp h).1, fun h => isSpaced_append.mpr ⟨h, hvalue, hmeet⟩⟩

theorem head?_iff (h : IsPart p part) : part.head? = some ' ' ↔ p.1.head? = some ' ' := by
  obtain ⟨t, -, rfl⟩ := h
  cases p.1 with
  | nil => simp
  | cons c key => rfl

end IsPart

theorem length_join_parts {values : List (Text × Value)} {parts : List Text}
    (h : List.Forall₂ IsPart values parts) : (join ", ".toList parts).length = room values := by
  have hsum : parts.map List.length = values.map fun p => p.1.length + 1 + shownLength p.2 := by
    induction h with
    | nil => rfl
    | cons hpart _ ih => rw [List.map_cons, List.map_cons, hpart.length, ih]
  rw [length_join, room, hsum, h.length_eq]
  rfl

theorem isSpaced_join_parts {values : List (Text × Value)} {parts : List Text}
    (h : List.Forall₂ IsPart values parts) :
    IsSpaced (' ' :: join ", ".toList parts) ↔
      ∀ p ∈ values, IsSpaced p.1 ∧ p.1.head? ≠ some ' ' := by
  induction h with
  | nil => exact iff_of_true isSpaced_space (List.forall_mem_nil _)
  | @cons p part values parts hpart hrest ih =>
    have hword : IsSpaced (' ' :: part) ↔ IsSpaced p.1 ∧ p.1.head? ≠ some ' ' := by
      rw [isSpaced_cons_space, hpart.isSpaced_iff, Ne, hpart.head?_iff]
    rw [List.forall_mem_cons, ← hword, ← ih]
    by_cases hne : parts = []
    · rw [hne, join, List.intercalate_singleton]
      exact (and_iff_left isSpaced_space).symm
    · rw [join_cons _ _ hne]
      have hcut : ' ' :: (part ++ (", ".toList ++ join ", ".toList parts)) =
          (' ' :: part) ++ (',' :: ' ' :: join ", ".toList parts) := rfl
      rw [hcut, isSpaced_append, isSpaced_cons (c := ',') (by decide)]
      simp

/-- An event and values that leave room for each other, with nothing to squeeze in what is not
cut. -/
structure FitsLine (event : Text) (values : List (Text × Value)) : Prop where
  ne_nil : event ≠ []
  first : event.head? ≠ some ' '
  last : event.getLast? ≠ some ' '
  spaced : IsSpaced event
  keys : ∀ p ∈ values, IsSpaced p.1 ∧ p.1.head? ≠ some ' '
  length : "METRIC ".length + event.length + " | ".length + room values ≤ messageLength

theorem isSpaced_metric_iff {event rest : Text} :
    IsSpaced ("METRIC ".toList ++ event ++ " | ".toList ++ rest) ↔
      event ≠ [] ∧ event.head? ≠ some ' ' ∧ event.getLast? ≠ some ' ' ∧ IsSpaced event ∧
        IsSpaced (' ' :: rest) := by
  -- The text around the event has single spaces, hence only its two ends can meet another one.
  have hword : IsSpaced "METRIC".toList := isSpaced_of_noBlank (by decide)
  have hcut : "METRIC ".toList ++ event ++ " | ".toList ++ rest =
      "METRIC".toList ++ ' ' :: (event ++ ' ' :: '|' :: ' ' :: rest) := by simp
  have hbar : IsSpaced (' ' :: '|' :: ' ' :: rest) ↔ IsSpaced (' ' :: rest) := by
    rw [isSpaced_cons_space, isSpaced_cons (c := '|') (by decide)]
    simp
  have hhead : (event ++ ' ' :: '|' :: ' ' :: rest).head? ≠ some ' ' ↔
      event ≠ [] ∧ event.head? ≠ some ' ' := by
    cases event <;> simp
  have hend : "METRIC".toList.getLast? ≠ some ' ' := by decide
  rw [hcut, isSpaced_append, isSpaced_cons_space, isSpaced_append, hbar, hhead]
  constructor
  · rintro ⟨-, ⟨⟨hevent, hrest, hmeet⟩, hne, hfirst⟩, -⟩
    exact ⟨hne, hfirst, fun hlast => hmeet ⟨hlast, rfl⟩, hevent, hrest⟩
  · rintro ⟨hne, hfirst, hlast, hevent, hrest⟩
    exact ⟨hword, ⟨⟨hevent, hrest, fun hmeet => hlast hmeet.1⟩, hne, hfirst⟩,
      fun hmeet => hend hmeet.1⟩

theorem isLine_metricText_iff {event : Text} {values : List (Text × Value)} {message : Text}
    (h : metricText event values = .ok message) : IsLine message ↔ FitsLine event values := by
  obtain ⟨parts, hparts, rfl⟩ := metricText_eq_ok_iff.mp h
  have hlength : ("METRIC ".toList ++ event ++ " | ".toList ++ join ", ".toList parts).length =
      "METRIC ".length + event.length + " | ".length + room values := by
    rw [List.length_append, List.length_append, List.length_append, length_join_parts hparts]
    rfl
  constructor
  · rintro ⟨hle, hspaced⟩
    obtain ⟨hne, hfirst, hlast, hevent, hrest⟩ := isSpaced_metric_iff.mp hspaced
    rw [hlength] at hle
    exact ⟨hne, hfirst, hlast, hevent, (isSpaced_join_parts hparts).mp hrest, by exact_mod_cast hle⟩
  · rintro ⟨hne, hfirst, hlast, hevent, hkeys, hle⟩
    refine ⟨?_, isSpaced_metric_iff.mpr
      ⟨hne, hfirst, hlast, hevent, (isSpaced_join_parts hparts).mpr hkeys⟩⟩
    rw [hlength]
    exact_mod_cast hle

namespace Call

def level : Call → Level
  | message level _ => level
  | metric _ _ => .info

def values : Call → List Value
  | message _ _ => []
  | metric _ values => values.map Prod.snd

def StaysOnLine : Call → Prop
  | message _ _ => True
  | metric event values => FitsLine event values

variable {logger : Text} {call : Call} {e : Entry}

theorem entry_metric_eq_ok_iff {event : Text} {values : List (Text × Value)} :
    (metric event values).entry logger = .ok e ↔ ∃ message,
      metricText event values = .ok message ∧ ⟨.info, loggerName logger, message⟩ = e := by
  rw [entry]
  exact Failure.bind_eq_ok_iff.trans (exists_congr fun message =>
    and_congr_right fun _ => ⟨Except.ok.inj, congrArg Except.ok⟩)

theorem exists_entry_iff :
    (∃ e, call.entry logger = .ok e) ↔ ∀ v ∈ call.values, ∃ t, v.asText = .ok t := by
  cases call with
  | message level text => exact iff_of_true ⟨_, rfl⟩ (List.forall_mem_nil _)
  | metric event values =>
    rw [Call.values, List.forall_mem_map, ← exists_parts_iff]
    constructor
    · rintro ⟨e, he⟩
      obtain ⟨message, hmessage, -⟩ := entry_metric_eq_ok_iff.mp he
      obtain ⟨parts, hparts, -⟩ := metricText_eq_ok_iff.mp hmessage
      exact ⟨parts, hparts⟩
    · rintro ⟨parts, hparts⟩
      have hmessage : metricText event values = .ok _ :=
        metricText_eq_ok_iff.mpr ⟨parts, hparts, rfl⟩
      exact ⟨_, entry_metric_eq_ok_iff.mpr ⟨_, hmessage, rfl⟩⟩

theorem entry_isLine_iff (h : call.entry logger = .ok e) :
    IsLine e.message ↔ call.StaysOnLine := by
  cases call with
  | message level text =>
    cases h
    exact iff_of_true (isLine_clip text) trivial
  | metric event values =>
    obtain ⟨message, hmessage, rfl⟩ := entry_metric_eq_ok_iff.mp h
    exact isLine_metricText_iff hmessage

theorem level_entry (h : call.entry logger = .ok e) : e.level = call.level := by
  cases call with
  | message level text =>
    cases h
    rfl
  | metric event values =>
    obtain ⟨message, -, rfl⟩ := entry_metric_eq_ok_iff.mp h
    rfl

end Call

/-- A sequence of calls is recorded if every value can be written.  Its records are those of the
calls that reach the level, in order, and each of them is one line exactly if its call keeps it
there. -/
theorem entries_lines (logger : Text) (least : Level) (calls : List Call) :
    ((∃ es, entries logger least calls = .ok es) ↔
      ∀ call ∈ calls, ∀ v ∈ call.values, ∃ t, v.asText = .ok t) ∧
    ∀ es, entries logger least calls = .ok es →
      List.Forall₂ (fun call e => call.entry logger = .ok e ∧
          (IsLine e.message ↔ call.StaysOnLine))
        (calls.filter fun call => least.rank ≤ call.level.rank) es := by
  constructor
  · refine Iff.trans ?_ (Failure.exists_mapM_iff.trans
      (forall₂_congr fun call _ => @Call.exists_entry_iff logger call))
    constructor
    · rintro ⟨es, h⟩
      obtain ⟨all, hall, -⟩ := Failure.bind_eq_ok_iff.mp h
      exact ⟨all, hall⟩
    · rintro ⟨all, hall⟩
      exact ⟨_, Failure.bind_eq_ok_iff.mpr ⟨all, hall, rfl⟩⟩
  · intro es h
    obtain ⟨all, hall, h⟩ := Failure.bind_eq_ok_iff.mp h
    cases h
    have hlines : List.Forall₂ (fun call e => call.entry logger = .ok e ∧
        (IsLine e.message ↔ call.StaysOnLine)) calls all :=
      (Failure.mapM_eq_ok_iff.mp hall).imp fun call e he => ⟨he, Call.entry_isLine_iff he⟩
    refine List.rel_filter ?_ hlines
    rintro call e ⟨he, -⟩
    dsimp only
    rw [Call.level_entry he]

theorem entries_lines_metric :
    let calls := [Call.message .debug "read".toList, .message .warning "no\n  title ".toList,
      .metric "render".toList [("kind".toList, .text "a\t b".toList)]]
    let es : List Entry :=
      [⟨.warning, "biblib.t".toList, "no title".toList⟩,
        ⟨.info, "biblib.t".toList, "METRIC render | kind=a b".toList⟩]
    entries "t".toList .info calls = .ok es ∧
      List.Forall₂ (fun call e => call.entry "t".toList = .ok e ∧
          (IsLine e.message ↔ call.StaysOnLine))
        (calls.filter fun call => Level.info.rank ≤ call.level.rank) es := by
  intro calls es
  have hes : entries "t".toList .info calls = .ok es := by decide +kernel
  exact ⟨hes, (entries_lines "t".toList .info calls).2 es hes⟩

theorem metric_longEvent :
    ∃ e, entries "t".toList .info [.metric (List.replicate 300 'x') []] = .ok [e] ∧
      ¬IsLine e.message := by
  refine ⟨_, rfl, ?_⟩
  intro h
  exact absurd h.length (by decide +kernel)

end LitNote.Log
