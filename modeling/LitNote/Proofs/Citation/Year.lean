import LitNote.Citation.Year
import LitNote.Proofs.Text.Padding
import LitNote.Proofs.Value.Notation
import LitNote.Proofs.Value.Record

/-!
The year of a citation.  Main statement: it is the year that the first of five sources gives, and
none if no source gives one, unless a source before it nests too deep to be asked.
-/

namespace LitNote.Year

variable {s y a b rest : Text} {n : Int} {r : Record}

structure Stands (a y b : Text) : Prop where
  length : y.length = 4
  digits : ∀ c ∈ y, Text.isAsciiDigit c = true
  before : a.getLast?.any Text.isAsciiWordChar = false
  behind : b.head?.any Text.isAsciiWordChar = false

theorem atStart?_eq_some_iff : atStart? s = some y ↔ ∃ b, s = y ++ b ∧ Stands [] y b := by
  constructor
  · intro h
    rw [atStart?.eq_def] at h
    split at h
    · next c₁ c₂ c₃ c₄ rest =>
      split at h
      · next hdigits =>
        cases h
        rw [Bool.and_eq_true, Bool.not_eq_true', List.all_eq_true] at hdigits
        exact ⟨rest, rfl, rfl, hdigits.1, rfl, hdigits.2⟩
      · cases h
    · cases h
  · rintro ⟨b, rfl, hlength, hdigits, -, hbehind⟩
    match y, hlength with
    | [c₁, c₂, c₃, c₄], _ =>
      refine if_pos ?_
      rw [Bool.and_eq_true, Bool.not_eq_true', List.all_eq_true]
      exact ⟨hdigits, hbehind⟩

/-- The first four digits that stand by themselves in `s`, if `p` is what comes before it. -/
def IsFirstBehind (p s y : Text) : Prop :=
  ∃ a b, s = a ++ y ++ b ∧ Stands (p ++ a) y b ∧
    ∀ a' y' b', s = a' ++ y' ++ b' → Stands (p ++ a') y' b' → a.length ≤ a'.length

theorem isFirstBehind_of_start {p : Text} (h : atStart? s = some y)
    (hp : p.getLast?.any Text.isAsciiWordChar = false) : IsFirstBehind p s y := by
  obtain ⟨b, rfl, hstands⟩ := atStart?_eq_some_iff.mp h
  refine ⟨[], b, rfl, ⟨hstands.length, hstands.digits, ?_, hstands.behind⟩,
    fun _ _ _ _ _ => Nat.zero_le _⟩
  rwa [List.append_nil]

theorem exists_of_stands {p : Text} {c : Char} (hs : c :: s = a ++ y ++ b)
    (hstands : Stands (p ++ a) y b) :
    (atStart? (c :: s) = some y ∧ p.getLast?.any Text.isAsciiWordChar = false) ∨
      ∃ a', a = c :: a' ∧ s = a' ++ y ++ b ∧ Stands (p ++ [c] ++ a') y b := by
  cases a with
  | nil =>
    rw [List.append_nil] at hstands
    refine .inl ⟨atStart?_eq_some_iff.mpr ⟨b, hs, ?_⟩, hstands.before⟩
    exact ⟨hstands.length, hstands.digits, rfl, hstands.behind⟩
  | cons d a =>
    rw [List.cons_append, List.cons_append, List.cons.injEq] at hs
    obtain ⟨rfl, hs⟩ := hs
    exact .inr ⟨a, rfl, hs, List.append_cons p c a ▸ hstands⟩

/-- The search goes on with the character before as all that it knows of the text behind it. -/
theorem searchFrom_cases (p s : Text) :
    IsFirstBehind p s (searchFrom (p.getLast?.any Text.isAsciiWordChar) s) ∨
      (searchFrom (p.getLast?.any Text.isAsciiWordChar) s = [] ∧
        ∀ a y b, s = a ++ y ++ b → ¬Stands (p ++ a) y b) := by
  induction s generalizing p with
  | nil =>
    refine .inr ⟨rfl, fun a y b hs hstands => ?_⟩
    have hy := (List.append_eq_nil_iff.mp (List.append_eq_nil_iff.mp hs.symm).1).2
    have hlength := hstands.length
    rw [hy] at hlength
    cases hlength
  | cons c s ih =>
    rw [searchFrom]
    split
    · next year hstart =>
      split at hstart
      · cases hstart
      · next hp => exact .inl (isFirstBehind_of_start hstart (Bool.eq_false_iff.mpr hp))
    · next hnone =>
      have hlater {a y b : Text} (hs : c :: s = a ++ y ++ b) (hstands : Stands (p ++ a) y b) :
          ∃ a', a = c :: a' ∧ s = a' ++ y ++ b ∧ Stands (p ++ [c] ++ a') y b := by
        refine (exists_of_stands hs hstands).resolve_left ?_
        rintro ⟨hstart, hp⟩
        rw [hp, if_neg Bool.false_ne_true, hstart] at hnone
        cases hnone
      have ih := ih (p ++ [c])
      rw [List.getLast?_concat, Option.any_some] at ih
      rcases ih with ⟨a, b, hs, hstands, hleast⟩ | ⟨hempty, hnowhere⟩
      · refine .inl ⟨c :: a, b, congrArg (c :: ·) hs, List.append_cons p c a ▸ hstands, ?_⟩
        intro a' y' b' hs' hstands'
        obtain ⟨a', rfl, hs', hstands'⟩ := hlater hs' hstands'
        exact Nat.succ_le_succ (hleast a' y' b' hs' hstands')
      · refine .inr ⟨hempty, fun a y b hs hstands => ?_⟩
        obtain ⟨a', -, hs', hstands'⟩ := hlater hs hstands
        exact hnowhere a' y b hs' hstands'

def IsFirst (s y : Text) : Prop :=
  ∃ a b, s = a ++ y ++ b ∧ Stands a y b ∧
    ∀ a' y' b', s = a' ++ y' ++ b' → Stands a' y' b' → a.length ≤ a'.length

theorem IsFirst.stands (h : IsFirst s y) : ∃ a b, Stands a y b :=
  let ⟨a, b, _, hstands, _⟩ := h
  ⟨a, b, hstands⟩

theorem IsFirst.ne_nil (h : IsFirst s y) : y ≠ [] := by
  obtain ⟨a, b, hstands⟩ := h.stands
  exact List.ne_nil_of_length_eq_add_one hstands.length

theorem IsFirst.unique {y' : Text} (h : IsFirst s y) (h' : IsFirst s y') : y = y' := by
  obtain ⟨a, b, rfl, hstands, hleast⟩ := h
  obtain ⟨a', b', hs, hstands', hleast'⟩ := h'
  have hlength : a.length = a'.length :=
    Nat.le_antisymm (hleast a' y' b' hs hstands') (hleast' a y b rfl hstands)
  rw [List.append_assoc, List.append_assoc] at hs
  have htail := (List.append_inj hs hlength).2
  exact (List.append_inj htail (hstands.length.trans hstands'.length.symm)).1

theorem isFirst_iff : IsFirst s y ↔ search s = y ∧ y ≠ [] := by
  rcases searchFrom_cases [] s with hfirst | ⟨hempty, hnowhere⟩
  · exact ⟨fun h => ⟨IsFirst.unique hfirst h, h.ne_nil⟩, fun h => h.1 ▸ hfirst⟩
  · refine ⟨fun ⟨a, b, hs, hstands, _⟩ => absurd hstands (hnowhere a y b hs), ?_⟩
    rintro ⟨rfl, hne⟩
    exact absurd hempty hne

inductive IsSigned : Text → Nat → Int → Prop
  | bare (k : Nat) : IsSigned [] k k
  | plus (k : Nat) : IsSigned ['+'] k k
  | minus (k : Nat) : IsSigned ['-'] k (-k)

def StartsWith (s : Text) (n : Int) : Prop :=
  ∃ blanks sign ds rest, s = blanks ++ (sign ++ (ds ++ rest)) ∧ Text.Blank blanks ∧ ds ≠ [] ∧
    (∀ c ∈ ds, Text.isAsciiDigit c = true) ∧ rest.head?.any Text.isAsciiDigit = false ∧
    IsSigned sign (Integer.ofDigits (ds.map fun c => c.toNat - 48)) n

theorem leadingInteger_of_sign {negative : Bool} {ds : Text}
    (hsign : Integer.sign (Text.trimStart s) = (negative, ds ++ rest)) (hne : ds ≠ [])
    (hds : ∀ c ∈ ds, Text.isAsciiDigit c = true)
    (hrest : rest.head?.any Text.isAsciiDigit = false) :
    leadingInteger s = (Integer.ofRun negative (ds.map fun c => c.toNat - 48)).map some := by
  obtain ⟨d, ds, rfl⟩ := List.exists_cons_of_ne_nil hne
  rw [leadingInteger, hsign]
  dsimp only
  rw [takeWhile_digits hds hrest]

theorem ofRun_of_short {negative : Bool} {ds : List Nat} (h : ds.length ≤ Integer.maxDigits) :
    Integer.ofRun negative ds =
      .ok (if negative then -(Integer.ofDigits ds : Int) else Integer.ofDigits ds) :=
  if_neg (Nat.not_lt.mpr h)

theorem exists_isSigned (t : Text) : ∃ sign, t = sign ++ (Integer.sign t).2 ∧
    ∀ k : Nat, IsSigned sign k (if (Integer.sign t).1 then -(k : Int) else k) := by
  rw [Integer.sign.eq_def]
  split
  · exact ⟨['-'], rfl, .minus⟩
  · exact ⟨['+'], rfl, .plus⟩
  · exact ⟨[], rfl, .bare⟩

theorem sign_of_isSigned {sign t : Text} {k : Nat} (h : IsSigned sign k n)
    (ht : t.head?.any Text.isAsciiDigit = true) :
    ∃ negative, Integer.sign (Text.trimStart (sign ++ t)) = (negative, t) ∧
      n = if negative then -(k : Int) else k := by
  cases h with
  | minus => exact ⟨true, rfl, rfl⟩
  | plus => exact ⟨false, rfl, rfl⟩
  | bare =>
    cases t with
    | nil => cases ht
    | cons d t =>
      have hd : Text.isAsciiDigit d = true := ht
      exact ⟨false, Integer.sign_trimStart_digit hd t, rfl⟩

theorem head?_dropWhile_any {p : Char → Bool} (t : Text) :
    (t.dropWhile p).head?.any p = false := by
  have hnot := List.head?_dropWhile_not p t
  cases hhead : (t.dropWhile p).head? with
  | none => rfl
  | some c =>
    rw [hhead] at hnot
    exact hnot

theorem leadingInteger_cases (h : (startDigits s).length ≤ Integer.maxDigits) :
    (∃ n, leadingInteger s = .ok (some n) ∧ StartsWith s n) ∨
      leadingInteger s = .ok none := by
  by_cases hne : startDigits s = []
  · right
    rw [startDigits] at hne
    rw [leadingInteger]
    dsimp only
    rw [hne]
  · left
    have hds : ∀ c ∈ startDigits s, Text.isAsciiDigit c = true := fun c hc =>
      List.mem_takeWhile_imp hc
    have hsplit : (Integer.sign (Text.trimStart s)).2 = startDigits s ++
        (Integer.sign (Text.trimStart s)).2.dropWhile Text.isAsciiDigit :=
      List.takeWhile_append_dropWhile.symm
    obtain ⟨sign, hsign, hsigned⟩ := exists_isSigned (Text.trimStart s)
    have hblanks : s = s.takeWhile Text.isBlank ++ Text.trimStart s :=
      List.takeWhile_append_dropWhile.symm
    have hrest := head?_dropWhile_any (p := Text.isAsciiDigit) (Integer.sign (Text.trimStart s)).2
    refine ⟨_, ?_, s.takeWhile Text.isBlank, sign, startDigits s, _, ?_,
      fun c hc => List.mem_takeWhile_imp hc, hne, hds, hrest, hsigned _⟩
    · rw [leadingInteger_of_sign (Prod.ext rfl hsplit) hne hds hrest,
        ofRun_of_short (by rwa [List.length_map])]
      rfl
    · rw [← hsplit, ← hsign, ← hblanks]

theorem exists_leadingInteger (h : (startDigits s).length ≤ Integer.maxDigits) :
    ∃ found, leadingInteger s = .ok found ∧ ∀ n, StartsWith s n ↔ found = some n := by
  have hread {n : Int} (hs : StartsWith s n) : leadingInteger s = .ok (some n) := by
    obtain ⟨blanks, sign, ds, rest, rfl, hblanks, hne, hds, hrest, hsigned⟩ := hs
    have hhead : (ds ++ rest).head?.any Text.isAsciiDigit = true := by
      obtain ⟨d, ds, rfl⟩ := List.exists_cons_of_ne_nil hne
      exact hds d (List.mem_cons_self ..)
    obtain ⟨negative, hsign, rfl⟩ := sign_of_isSigned hsigned hhead
    rw [← Text.trimStart_append hblanks] at hsign
    have hdigits : startDigits (blanks ++ (sign ++ (ds ++ rest))) = ds := by
      rw [startDigits, hsign, takeWhile_digits hds hrest]
    rw [hdigits] at h
    rw [leadingInteger_of_sign hsign hne hds hrest, ofRun_of_short (by rwa [List.length_map])]
    rfl
  rcases leadingInteger_cases h with ⟨n, hn, hstarts⟩ | hnone
  · refine ⟨some n, hn, fun m => ⟨fun hm => ?_, ?_⟩⟩
    · have heq := hn.symm.trans (hread hm)
      injection heq
    · rintro ⟨⟩
      exact hstarts
  · refine ⟨none, hnone, fun m => ⟨fun hm => ?_, fun hm => absurd hm.symm (Option.some_ne_none m)⟩⟩
    have heq := hnone.symm.trans (hread hm)
    injection heq

inductive Source where
  | dateParts
  | year
  | literal
  | date
  | issued
deriving Repr, DecidableEq

def Source.all : List Source := [.dateParts, .year, .literal, .date, .issued]

def IsDatePart (issued first : Value) : Prop :=
  ∃ fields entries others, issued = .record fields ∧
    Record.field fields "date-parts" = .list (.list (first :: entries) :: others) ∧
    first.isSet = true

def Source.HasText (r : Record) : Source → Text → Prop
  | .dateParts, _ => False
  | .year, s => (r.field "year").isSet = true ∧ (r.field "year").asText = .ok s
  | .literal, s => ∃ fields, r.field "issued" = .record fields ∧
      Record.field fields "literal" = .text s
  | .date, s => r.field "date" = .text s
  | .issued, s => r.field "issued" = .text s

/-- The year that a source gives: an integer between 1000 and 3000 at the start of the date parts,
or the first four digits by themselves in a text. -/
def Source.Gives (r : Record) : Source → Text → Prop
  | .dateParts, y => ∃ first s n, IsDatePart (r.field "issued") first ∧ first.asText = .ok s ∧
      StartsWith s n ∧ 1000 < n ∧ n < 3000 ∧ y = Integer.text n
  | source, y => ∃ s, source.HasText r s ∧ IsFirst s y

def Source.Asks (r : Record) : Source → Value → Prop
  | .dateParts, v => IsDatePart (r.field "issued") v
  | .year, v => r.field "year" = v ∧ v.isSet = true
  | _, _ => False

def Source.IsTooDeep (r : Record) (source : Source) : Prop :=
  ∃ v, source.Asks r v ∧ Stack.room < v.depth

/-- What the first source that gives a year gives, or nothing if none gives one. -/
inductive IsFirstGiven (r : Record) : List Source → Text → Prop
  | none : IsFirstGiven r [] []
  | here {source sources y} : source.Gives r y → IsFirstGiven r (source :: sources) y
  | later {source sources y} : (∀ y', ¬source.Gives r y') → ¬source.IsTooDeep r →
      IsFirstGiven r sources y → IsFirstGiven r (source :: sources) y

/-- A source is too deep, and none before it gives a year. -/
inductive Breaks (r : Record) : List Source → Prop
  | here {source sources} : source.IsTooDeep r → Breaks r (source :: sources)
  | later {source sources} : (∀ y, ¬source.Gives r y) → Breaks r sources →
      Breaks r (source :: sources)

structure Answers (r : Record) (source : Source) (found : Except Failure Text) : Prop where
  gives : ∀ y, source.Gives r y ↔ found = .ok y ∧ y ≠ []
  tooDeep : source.IsTooDeep r ↔ found = .error .tooDeep
  failsOnly : Failure.FailsOnly (· = .tooDeep) found

section
variable {source : Source} {found : Text}

theorem Answers.of_ok (hgives : ∀ y, source.Gives r y ↔ found = y ∧ y ≠ [])
    (hshallow : ¬source.IsTooDeep r) : Answers r source (.ok found) where
  gives y := by rw [hgives, Except.ok.injEq]
  tooDeep := ⟨fun h => absurd h hshallow, nofun⟩
  failsOnly := .ok found

theorem Answers.of_tooDeep (hnone : ∀ y, ¬source.Gives r y) (hdeep : source.IsTooDeep r) :
    Answers r source (.error .tooDeep) where
  gives y := ⟨fun h => absurd h (hnone y), fun ⟨hy, _⟩ => nomatch hy⟩
  tooDeep := ⟨fun _ => rfl, fun _ => hdeep⟩
  failsOnly := .error rfl

end

def firstFound : List (Except Failure Text) → Except Failure Text
  | [] => .ok []
  | found :: rest => do
    let y ← found
    if y.isEmpty then firstFound rest else return y

structure FindsFirst (r : Record) (sources : List Source) (found : Except Failure Text) :
    Prop where
  given : ∀ y, found = .ok y ↔ IsFirstGiven r sources y
  breaks : found = .error .tooDeep ↔ Breaks r sources
  failsOnly : Failure.FailsOnly (· = .tooDeep) found

theorem findsFirst_nil : FindsFirst r [] (.ok []) where
  given y := by
    rw [Except.ok.injEq]
    constructor
    · rintro rfl
      exact .none
    · rintro ⟨⟩
      rfl
  breaks := ⟨nofun, nofun⟩
  failsOnly := .ok []

theorem findsFirst_cons {source : Source} {sources : List Source}
    {answer rest : Except Failure Text} (h : Answers r source answer)
    (hrest : FindsFirst r sources rest) :
    FindsFirst r (source :: sources)
      (answer.bind fun y => if y.isEmpty then rest else .ok y) := by
  cases answer with
  | error e =>
    cases h.failsOnly e rfl
    have hdeep := h.tooDeep.mpr rfl
    refine ⟨fun y => ⟨nofun, fun hy => ?_⟩, ⟨fun _ => .here hdeep, fun _ => rfl⟩,
      .error rfl⟩
    cases hy with
    | here hgives => cases ((h.gives y).mp hgives).1
    | later _ hshallow _ => exact absurd hdeep hshallow
  | ok found =>
    have hshallow : ¬source.IsTooDeep r := fun hdeep => nomatch h.tooDeep.mp hdeep
    show FindsFirst r _ (if found.isEmpty then rest else .ok found)
    by_cases hempty : found = []
    · have hnone (y : Text) : ¬source.Gives r y := fun hy => by
        obtain ⟨heq, hne⟩ := (h.gives y).mp hy
        exact hne ((Except.ok.inj heq).symm.trans hempty)
      rw [if_pos (List.isEmpty_iff.mpr hempty)]
      refine ⟨fun y => ?_, ?_, hrest.failsOnly⟩
      · rw [hrest.given]
        refine ⟨.later hnone hshallow, fun hy => ?_⟩
        cases hy with
        | here hgives => exact absurd hgives (hnone y)
        | later _ _ hgiven => exact hgiven
      · rw [hrest.breaks]
        refine ⟨.later hnone, fun hbreaks => ?_⟩
        cases hbreaks with
        | here hdeep => exact absurd hdeep hshallow
        | later _ hbreaks => exact hbreaks
    · have hgives : source.Gives r found := (h.gives found).mpr ⟨rfl, hempty⟩
      rw [if_neg (List.isEmpty_iff.not.mpr hempty)]
      refine ⟨fun y => ?_, ⟨nofun, fun hbreaks => ?_⟩, .ok found⟩
      · constructor
        · rintro ⟨⟩
          exact .here hgives
        · rintro (_ | hy | ⟨hnone, -, -⟩)
          · exact ((h.gives y).mp hy).1
          · exact absurd hgives (hnone found)
      · cases hbreaks with
        | here hdeep => exact absurd hdeep hshallow
        | later hnone _ => exact absurd hgives (hnone found)

theorem findsFirst_firstFound {found : List (Source × Except Failure Text)}
    (h : ∀ p ∈ found, Answers r p.1 p.2) :
    FindsFirst r (found.map Prod.fst) (firstFound (found.map Prod.snd)) := by
  induction found with
  | nil => exact findsFirst_nil
  | cons p found ih =>
    exact findsFirst_cons (h p (List.mem_cons_self ..))
      (ih fun q hq => h q (List.mem_cons_of_mem p hq))

theorem isDatePart_iff {issued first : Value} :
    IsDatePart issued first ↔ firstDatePart issued = first ∧ first.isSet = true := by
  constructor
  · rintro ⟨fields, entries, others, rfl, hparts, hset⟩
    refine ⟨?_, hset⟩
    rw [firstDatePart, hparts]
  · rintro ⟨hfirst, hset⟩
    rw [firstDatePart.eq_def] at hfirst
    split at hfirst
    · next fields =>
      split at hfirst
      · next first' entries others hparts =>
        cases hfirst
        exact ⟨fields, entries, others, rfl, hparts, hset⟩
      · cases hfirst
        cases hset
    · cases hfirst
      cases hset

theorem text_isYear (hlow : 1000 < n) (hhigh : n < 3000) :
    (Integer.text n).length = 4 ∧ ∀ c ∈ Integer.text n, Text.isAsciiDigit c = true := by
  have htext : Integer.text n = natText n.natAbs := if_neg (by omega)
  rw [htext]
  refine ⟨?_, fun c => isAsciiDigit_of_mem_natText⟩
  have hle : (natText n.natAbs).length ≤ 4 :=
    (Nat.length_toDigits_le_iff (by decide) (by decide)).mpr (by omega)
  have hgt : ¬(natText n.natAbs).length ≤ 3 := fun hle' =>
    absurd ((Nat.length_toDigits_le_iff (by decide) (by decide)).mp hle') (by omega)
  omega

theorem Source.Gives.isYear {source : Source} (h : source.Gives r y) :
    y.length = 4 ∧ ∀ c ∈ y, Text.isAsciiDigit c = true := by
  have hfirst {s : Text} (h : IsFirst s y) :
      y.length = 4 ∧ ∀ c ∈ y, Text.isAsciiDigit c = true :=
    have ⟨_, _, hstands⟩ := h.stands
    ⟨hstands.length, hstands.digits⟩
  cases source with
  | dateParts =>
    obtain ⟨first, s, n, -, -, -, hlow, hhigh, rfl⟩ := h
    exact text_isYear hlow hhigh
  | year | literal | date | issued =>
    obtain ⟨s, -, h⟩ := h
    exact hfirst h

theorem hasShortNumbers_firstDatePart {issued : Value} (h : issued.HasShortNumbers) :
    (firstDatePart issued).HasShortNumbers := by
  rw [firstDatePart.eq_def]
  split
  · next fields =>
    split
    · next first entries others hparts =>
      have hlist := h.field "date-parts"
      rw [hparts] at hlist
      cases hlist with
      | list houter =>
        cases houter _ (List.mem_cons_self ..) with
        | list hinner => exact hinner first (List.mem_cons_self ..)
    · exact .null
  · exact .null

theorem asks_dateParts_iff {v : Value} : Source.dateParts.Asks r v ↔
    firstDatePart (r.field "issued") = v ∧ v.isSet = true :=
  isDatePart_iff

theorem not_isTooDeep_of_ok {source : Source} {v : Value}
    (hasks : ∀ w, source.Asks r w → v = w) (hs : v.asText = .ok s) : ¬source.IsTooDeep r := by
  rintro ⟨w, hw, hdeep⟩
  obtain rfl := hasks w hw
  exact absurd (Value.exists_asText_iff.mp ⟨s, hs⟩).1 (Nat.not_le.mpr hdeep)

theorem exists_asText_or {v : Value} (h : v.HasShortNumbers) :
    (∃ s, v.asText = .ok s) ∨ (v.asText = .error .tooDeep ∧ Stack.room < v.depth) := by
  rcases Nat.lt_or_ge Stack.room v.depth with hdeep | hshallow
  · exact .inr ⟨(Value.asText_eq_tooDeep_iff h.not_holdsLong).mpr hdeep, hdeep⟩
  · exact .inl (Value.exists_asText_iff.mpr ⟨hshallow, h.not_holdsLong⟩)

theorem answers_ofDateParts (h : (r.field "issued").HasShortNumbers) :
    Answers r .dateParts (ofDateParts (r.field "issued")) := by
  have hasks (w : Value) (hw : Source.dateParts.Asks r w) :
      firstDatePart (r.field "issued") = w :=
    (asks_dateParts_iff.mp hw).1
  rw [ofDateParts]
  by_cases hset : (firstDatePart (r.field "issued")).isSet = true
  · have hfirst := hasShortNumbers_firstDatePart h
    rw [if_pos hset]
    rcases exists_asText_or hfirst with ⟨s, hs⟩ | ⟨hs, hdeep⟩
    · obtain ⟨found, hfound, hstarts⟩ := exists_leadingInteger (Value.startDigits_asText hfirst hs)
      have hgives (y : Text) : Source.dateParts.Gives r y ↔
          ∃ n, found = some n ∧ 1000 < n ∧ n < 3000 ∧ y = Integer.text n := by
        constructor
        · rintro ⟨first, s', n, hpart, hs', hn, hyear⟩
          obtain ⟨rfl, -⟩ := isDatePart_iff.mp hpart
          cases hs.symm.trans hs'
          exact ⟨n, (hstarts n).mp hn, hyear⟩
        · rintro ⟨n, hn, hyear⟩
          exact ⟨_, s, n, isDatePart_iff.mpr ⟨rfl, hset⟩, hs, (hstarts n).mpr hn, hyear⟩
      have hshallow := not_isTooDeep_of_ok hasks hs
      rw [hs]
      show Answers r _ ((leadingInteger s).bind _)
      rw [hfound]
      cases found with
      | none =>
        refine .of_ok (fun y => ⟨fun hy => ?_, fun hy => absurd hy.1.symm hy.2⟩) hshallow
        obtain ⟨n, hn, -⟩ := (hgives y).mp hy
        cases hn
      | some n =>
        refine .of_ok (fun y => ?_) hshallow
        rw [hgives]
        split
        · next hrange =>
          refine ⟨?_, fun hy => ⟨n, rfl, hrange.1, hrange.2, hy.1.symm⟩⟩
          rintro ⟨_, ⟨⟩, hlow, hhigh, rfl⟩
          exact ⟨rfl, List.ne_nil_of_length_eq_add_one (text_isYear hlow hhigh).1⟩
        · next hrange =>
          refine ⟨?_, fun hy => absurd hy.1.symm hy.2⟩
          rintro ⟨_, ⟨⟩, hlow, hhigh, -⟩
          exact absurd ⟨hlow, hhigh⟩ hrange
    · rw [hs]
      refine .of_tooDeep ?_ ⟨_, asks_dateParts_iff.mpr ⟨rfl, hset⟩, hdeep⟩
      rintro y ⟨first, s, n, hpart, hs', -⟩
      obtain ⟨rfl, -⟩ := isDatePart_iff.mp hpart
      cases hs.symm.trans hs'
  · rw [if_neg hset]
    refine .of_ok (fun y => ⟨?_, fun hy => absurd hy.1.symm hy.2⟩) ?_
    · rintro ⟨first, s, n, hpart, -⟩
      obtain ⟨rfl, hset'⟩ := isDatePart_iff.mp hpart
      exact absurd hset' hset
    · rintro ⟨v, hv, -⟩
      obtain ⟨rfl, hset'⟩ := asks_dateParts_iff.mp hv
      exact absurd hset' hset

theorem Source.gives_iff {source : Source} (hsource : source ≠ .dateParts) :
    source.Gives r y ↔ ∃ s, source.HasText r s ∧ IsFirst s y := by
  cases source with
  | dateParts => exact absurd rfl hsource
  | _ => exact Iff.rfl

theorem answers_search {source : Source} (hsource : source ≠ .dateParts)
    (h : ∀ t, source.HasText r t ↔ s = t) (hshallow : ¬source.IsTooDeep r) :
    Answers r source (.ok (search s)) := by
  refine .of_ok (fun y => ?_) hshallow
  rw [Source.gives_iff hsource, ← isFirst_iff]
  constructor
  · rintro ⟨t, ht, hy⟩
    exact (h t).mp ht ▸ hy
  · exact fun hy => ⟨s, (h s).mpr rfl, hy⟩

theorem answers_nil {source : Source} (hsource : source ≠ .dateParts)
    (h : ∀ s, ¬source.HasText r s) (hshallow : ¬source.IsTooDeep r) :
    Answers r source (.ok []) := by
  refine .of_ok (fun y => ?_) hshallow
  rw [Source.gives_iff hsource]
  exact ⟨fun ⟨s, hs, _⟩ => absurd hs (h s), fun hy => absurd hy.1.symm hy.2⟩

theorem answers_searchValue {source : Source} {v : Value} (hsource : source ≠ .dateParts)
    (h : ∀ s, source.HasText r s ↔ v = .text s) (hasks : ∀ w, ¬source.Asks r w) :
    Answers r source (.ok (searchValue v)) := by
  have hshallow : ¬source.IsTooDeep r := fun ⟨w, hw, _⟩ => hasks w hw
  cases v with
  | text s =>
    refine answers_search hsource (fun t => ?_) hshallow
    rw [h, Value.text.injEq]
  | _ =>
    refine answers_nil hsource (fun s hs => ?_) hshallow
    cases (h s).mp hs

theorem hasText_literal_iff :
    Source.literal.HasText r s ↔ literalOf (r.field "issued") = .text s := by
  constructor
  · rintro ⟨fields, hissued, hliteral⟩
    rw [hissued, literalOf, hliteral]
  · intro hliteral
    rw [literalOf.eq_def] at hliteral
    split at hliteral
    · next fields hissued => exact ⟨fields, hissued, hliteral⟩
    · cases hliteral

def searchYear (year : Value) : Except Failure Text :=
  if year.isSet then search <$> year.asText else .ok []

theorem answers_searchYear (h : (r.field "year").HasShortNumbers) :
    Answers r .year (searchYear (r.field "year")) := by
  have hyear (t : Text) : Source.year.HasText r t ↔
      (r.field "year").isSet = true ∧ (r.field "year").asText = .ok t := Iff.rfl
  rw [searchYear]
  by_cases hset : (r.field "year").isSet = true
  · rw [if_pos hset]
    rcases exists_asText_or h with ⟨s, hs⟩ | ⟨hs, hdeep⟩
    · rw [hs]
      refine answers_search nofun (fun t => ?_) (not_isTooDeep_of_ok (fun w hw => hw.1) hs)
      rw [hyear, hs, Except.ok.injEq]
      exact and_iff_right hset
    · rw [hs]
      refine .of_tooDeep ?_ ⟨_, ⟨rfl, hset⟩, hdeep⟩
      rintro y ⟨s, ⟨-, hs'⟩, -⟩
      cases hs.symm.trans hs'
  · rw [if_neg hset]
    refine answers_nil nofun (fun t ht => hset ((hyear t).mp ht).1) ?_
    rintro ⟨v, ⟨rfl, hset'⟩, -⟩
    exact hset hset'

theorem firstFound_ok (ys : List Text) :
    firstFound (ys.map .ok) = .ok ((ys.find? fun y => !y.isEmpty).getD []) := by
  induction ys with
  | nil => rfl
  | cons y ys ih =>
    rw [List.map_cons, List.find?_cons]
    show (if y.isEmpty = true then firstFound (ys.map .ok) else .ok y) = _
    rw [ih]
    cases y.isEmpty <;> rfl

def answers (r : Record) : List (Source × Except Failure Text) :=
  [(.dateParts, ofDateParts (r.field "issued")), (.year, searchYear (r.field "year")),
    (.literal, .ok (searchValue (literalOf (r.field "issued")))),
    (.date, .ok (searchValue (r.field "date"))), (.issued, .ok (searchValue (r.field "issued")))]

theorem answers_mem (h : (Value.record r).HasShortNumbers) :
    ∀ p ∈ answers r, Answers r p.1 p.2 := by
  simp only [answers, List.forall_mem_cons]
  exact ⟨answers_ofDateParts (h.field "issued"), answers_searchYear (h.field "year"),
    answers_searchValue nofun (fun _ => hasText_literal_iff) fun _ => id,
    answers_searchValue nofun (fun _ => Iff.rfl) fun _ => id,
    answers_searchValue nofun (fun _ => Iff.rfl) fun _ => id, List.forall_mem_nil _⟩

theorem ofTexts_eq (r : Record) : ofTexts r = (searchYear (r.field "year")).bind fun fromYear =>
    firstFound ([fromYear, searchValue (literalOf (r.field "issued")),
      searchValue (r.field "date"), searchValue (r.field "issued")].map .ok) := by
  simp only [firstFound_ok]
  rw [ofTexts, searchYear]
  split <;> rfl

theorem ofRecord_eq (r : Record) : ofRecord r = firstFound ((answers r).map Prod.snd) := by
  have htexts : ofTexts r = firstFound (((answers r).drop 1).map Prod.snd) := by
    rw [ofTexts_eq]
    show _ = firstFound (searchYear (r.field "year") :: _)
    cases searchYear (r.field "year") <;> rfl
  rw [ofRecord, htexts]
  rfl

theorem IsFirstGiven.isYear {sources : List Source} (h : IsFirstGiven r sources y) :
    y = [] ∨ y.length = 4 ∧ ∀ c ∈ y, Text.isAsciiDigit c = true := by
  induction h with
  | none => exact .inl rfl
  | here hgives => exact .inr hgives.isYear
  | later _ _ _ ih => exact ih

theorem findsFirst_part (h : (Value.record r).HasShortNumbers) :
    FindsFirst r Source.all (part (.record r)) := by
  have hfirst : FindsFirst r Source.all (ofRecord r) := by
    rw [ofRecord_eq]
    exact findsFirst_firstFound (answers_mem h)
  have hpart : part (.record r) = ofRecord r := by
    rw [part]
    cases hr : ofRecord r with
    | ok y => rfl
    | error e => rw [hfirst.failsOnly e hr]
  rw [hpart]
  exact hfirst

/-- The year of a citation is what the first of its sources that gives a year gives, whatever stands
at the sources before it, as long as these do not nest too deep; and it has four digits. -/
theorem part_eq_iff (h : (Value.record r).HasShortNumbers) :
    (∀ y, part (.record r) = .ok y ↔ IsFirstGiven r Source.all y) ∧
      (∀ e, part (.record r) = .error e ↔ e = .tooDeep ∧ Breaks r Source.all) ∧
      (∀ y, part (.record r) = .ok y →
        y = [] ∨ y.length = 4 ∧ ∀ c ∈ y, Text.isAsciiDigit c = true) := by
  have hfirst := findsFirst_part h
  refine ⟨hfirst.given, fun e => ⟨fun he => ?_, ?_⟩, fun y hy => ((hfirst.given y).mp hy).isYear⟩
  · obtain rfl := hfirst.failsOnly e he
    exact ⟨rfl, hfirst.breaks.mp he⟩
  · rintro ⟨rfl, hbreaks⟩
    exact hfirst.breaks.mpr hbreaks

def olderFields : List (String × Value) :=
  [("issued", .record (Record.ofFields [("date-parts", .list [.list [.ofString "-1850"]])])),
    ("year", .ofString "18500"), ("date", .ofString "May 1850")]

theorem part_eq_iff_olderFields :
    (Value.record (Record.ofFields olderFields)).HasShortNumbers ∧
      IsFirstGiven (Record.ofFields olderFields) Source.all "1850".toList := by
  have hlist : (Value.list [.list [.ofString "-1850"]]).HasShortNumbers :=
    .list (List.forall_mem_singleton.mpr
      (.list (List.forall_mem_singleton.mpr (.ofString (by decide)))))
  have hshort : (Value.record (Record.ofFields olderFields)).HasShortNumbers := by
    refine .ofFields (List.forall_mem_cons.mpr ⟨⟨by decide, .ofFields ?_⟩, ?_⟩)
    · exact List.forall_mem_singleton.mpr ⟨by decide, hlist⟩
    · exact List.forall_mem_cons.mpr ⟨⟨by decide, .ofString (by decide)⟩,
        List.forall_mem_singleton.mpr ⟨by decide, .ofString (by decide)⟩⟩
  exact ⟨hshort, ((part_eq_iff hshort).1 _).mp (by decide +kernel)⟩

def deepFields : Record :=
  Record.ofFields [("year", Value.nested 2000), ("date", .ofString "May 1850")]

theorem hasShortNumbers_nested (n : Nat) : (Value.nested n).HasShortNumbers := by
  induction n with
  | zero => exact .list (List.forall_mem_nil _)
  | succ n ih => exact .list (List.forall_mem_singleton.mpr ih)

theorem hasShortNumbers_deepFields : (Value.record deepFields).HasShortNumbers :=
  .ofFields (List.forall_mem_cons.mpr ⟨⟨by decide, hasShortNumbers_nested 2000⟩,
    List.forall_mem_singleton.mpr ⟨by decide, .ofString (by decide)⟩⟩)

/-- A year that nests too deep hides the one in the date, which is the only one that is given. -/
theorem part_deepFields :
    (Value.record deepFields).HasShortNumbers ∧
      (∀ (source : Source) (y : Text),
        source.Gives deepFields y ↔ source = .date ∧ y = "1850".toList) ∧
      part (.record deepFields) = .error .tooDeep := by
  have hdate : deepFields.field "date" = .text "May 1850".toList := rfl
  have hyear : deepFields.field "year" = Value.nested 2000 := rfl
  have hissued : deepFields.field "issued" = .null := rfl
  have hroom : Stack.room < (Value.nested 2000).depth := by
    rw [Value.depth_nested]
    exact Stack.room_lt (by decide)
  have hdeep : Source.year.IsTooDeep deepFields := ⟨Value.nested 2000, ⟨hyear, rfl⟩, hroom⟩
  have hanswers := answers_mem hasShortNumbers_deepFields
  have hparts : ∀ y, ¬Source.dateParts.Gives deepFields y := by
    rintro y ⟨first, s, n, ⟨fields, entries, others, hrecord, -⟩, -⟩
    rw [hissued] at hrecord
    cases hrecord
  refine ⟨hasShortNumbers_deepFields, fun source y => ?_, ?_⟩
  · cases source with
    | dateParts => exact ⟨fun h => absurd h (hparts y), fun h => nomatch h.1⟩
    | year =>
      refine ⟨?_, fun h => nomatch h.1⟩
      rintro ⟨s, ⟨-, hs⟩, -⟩
      exact absurd (Value.exists_asText_iff.mp ⟨s, hs⟩).1 (Nat.not_le.mpr hroom)
    | literal =>
      refine ⟨?_, fun h => nomatch h.1⟩
      rintro ⟨s, ⟨fields, hrecord, -⟩, -⟩
      rw [hissued] at hrecord
      cases hrecord
    | date =>
      have hfound : searchValue (deepFields.field "date") = "1850".toList := by
        rw [hdate]
        decide
      have hgives := (hanswers (.date, .ok (searchValue (deepFields.field "date")))
        (by simp [answers])).gives y
      rw [hfound] at hgives
      rw [hgives]
      constructor
      · rintro ⟨⟨⟩, -⟩
        exact ⟨rfl, rfl⟩
      · rintro ⟨-, rfl⟩
        exact ⟨rfl, by decide⟩
    | issued =>
      refine ⟨?_, fun h => nomatch h.1⟩
      rintro ⟨s, hs, -⟩
      cases hissued.symm.trans hs
  · exact (findsFirst_part hasShortNumbers_deepFields).breaks.mpr (.later hparts (.here hdeep))

end LitNote.Year
