import LitNote.Proofs.Number.Numeral
import LitNote.Proofs.Template.Composition

/-!
Random texts of a given length.  Main statement: whichever way a template asks for so many letters
and digits, it gets the same ones, and draws once for each.
-/

namespace LitNote

namespace Draws

theorem letter_mem (d : Draws) : d.letter ∈ alphabet := by
  have hlt : d.index alphabet.length < alphabet.length := d.index_lt (by decide)
  rw [letter, List.getD_eq_getElem?_getD, List.getElem?_eq_getElem hlt]
  exact List.getElem_mem hlt

theorem isAsciiAlphanumeric_letter (d : Draws) : Text.isAsciiAlphanumeric d.letter = true := by
  have hall : ∀ c ∈ alphabet, Text.isAsciiAlphanumeric c = true :=
    List.all_eq_true.mp (by decide)
  exact hall d.letter d.letter_mem

theorem isAsciiAlphanumeric_of_mem_letters {n : Nat} {d : Draws} {c : Char}
    (h : c ∈ (letters n d).1) : Text.isAsciiAlphanumeric c = true := by
  induction n generalizing d with
  | zero => cases h
  | succ n ih =>
    rcases List.mem_cons.mp h with rfl | h
    · exact d.isAsciiAlphanumeric_letter
    · exact ih h

end Draws

namespace Drawing

def letterCount (n : Nat) : Nat := max 1 (min 32 n)

theorem run_text (n : Nat) (d : Draws) : (text n).run d =
    (.ok (Draws.letters (letterCount n) d).1, ⟨d.counter + letterCount n⟩) := by
  have hcount : (max 1 (min maxLetters (n : Int))).toNat = letterCount n := by
    unfold maxLetters letterCount
    omega
  rw [text, hcount, ← Draws.letters_counter]
  rfl

theorem recover_text (n : Int) (s : Text) : (text n).recover s = text n := rfl

end Drawing

namespace Template

section
variable {digits : Text}

namespace Formatter

theorem applyChain_one {spec : Text} (h : spec.all Text.isBlank = false) (v : Value) :
    applyChain v [spec] = apply (readSpec spec).1 v (readSpec spec).2 := by
  have hnil (t : Text) : applyChain (.text t) [] = pure t := rfl
  rw [applyChain, applySpec, h, if_neg Bool.false_ne_true]
  simp only [bind_assoc, pure_bind, hnil, bind_pure]

theorem trailingDigits?_numeral (h : IsNumeral digits) : trailingDigits? digits = some digits := by
  have htake := List.takeWhile_eq_self_iff.mpr h.digits
  have hdrop := List.dropWhile_eq_nil_iff.mpr h.digits
  rw [trailingDigits?, htake, hdrop, if_neg]
  rw [List.isEmpty_eq_false_iff.mpr h.ne_nil]
  decide

theorem ofName?_eq_none {name : Text} {c : Char} (h : c ∈ name)
    (hc : Text.isDecimalDigit c = true) : ofName? name = none := by
  have hnames : ∀ entry ∈ names, entry.1.toList.any Text.isDecimalDigit = false := by decide
  have hfind : names.find? (fun entry => entry.1.toList == name) = none := by
    refine List.find?_eq_none.mpr fun entry hentry heq => ?_
    have hdigit := List.any_eq_false.mp (hnames entry hentry) c
    rw [beq_iff_eq.mp heq] at hdigit
    exact hdigit h hc
  show (names.find? fun entry => entry.1.toList == name).map Prod.snd = none
  rw [hfind]
  rfl

theorem ofNumbered?_rand (h : IsNumeral digits) :
    ofNumbered? ("rand".toList ++ digits) = some (rand, digits) := by
  have habbr : "abbr".toList.isPrefixOf ("rand".toList ++ digits) = false := rfl
  have htruncate : "truncate".toList.isPrefixOf ("rand".toList ++ digits) = false := rfl
  have hrand : "rand".toList.isPrefixOf ("rand".toList ++ digits) = true :=
    List.isPrefixOf_iff_prefix.mpr (List.prefix_append _ _)
  have hdrop : ("rand".toList ++ digits).drop "rand".toList.length = digits := List.drop_left
  -- The two names before it in the table do not stand before the digits.
  rw [ofNumbered?, numbered, List.findSome?_cons]
  dsimp only
  rw [habbr, if_neg Bool.false_ne_true, List.findSome?_cons]
  dsimp only
  rw [htruncate, if_neg Bool.false_ne_true, List.findSome?_cons]
  dsimp only
  rw [hrand, if_pos rfl, hdrop, trailingDigits?_numeral h]
  rfl

theorem random_numeral (h : IsNumeral digits) (hlength : digits.length ≤ Integer.maxDigits) :
    random [digits] = Drawing.text (numberOf digits) := by
  have harg : intArg [digits] 0 (some defaultLetters) = .ok (some (numberOf digits : Int)) :=
    Integer.leading_numeral h hlength
  rw [random, harg]
  rfl

theorem apply_rand (h : IsNumeral digits) (hlength : digits.length ≤ Integer.maxDigits)
    (s : Text) : apply "rand".toList (.text s) [digits] = Drawing.text (numberOf digits) := by
  have hname : ofName? "rand".toList = some rand := rfl
  have hplain : (Value.text s).plain = .ok s := rfl
  rw [apply, hname, hplain]
  show (random [digits]).recover s = _
  rw [random_numeral h hlength, Drawing.recover_text]

theorem apply_numbered (h : IsNumeral digits) (hlength : digits.length ≤ Integer.maxDigits)
    (s : Text) :
    apply ("rand".toList ++ digits) (.text s) [] = Drawing.text (numberOf digits) := by
  obtain ⟨c, rest, rfl⟩ := List.exists_cons_of_ne_nil h.ne_nil
  have hmem : c ∈ "rand".toList ++ c :: rest := List.mem_append_right _ (List.mem_cons_self ..)
  have hname := ofName?_eq_none hmem (h.digits c (List.mem_cons_self ..))
  have hplain : (Value.text s).plain = .ok s := rfl
  rw [apply, hname, hplain, ofNumbered?_rand h]
  show (random [c :: rest]).recover s = _
  rw [random_numeral h hlength, Drawing.recover_text]

end Formatter

theorem isName_of_chars {s : Text} (hne : s ≠ [])
    (h : ∀ c ∈ s, Text.isBlank c = false ∧ c ≠ '}') : IsName s where
  ne_nil := hne
  trimmed := Text.trim_eq_self (fun c hc => (h c (List.mem_of_mem_head? hc)).1)
    (fun c hc => (h c (List.mem_of_mem_getLast? hc)).1)
  noBrace hmem := (h '}' hmem).2 rfl

def IsWord (w : Text) : Prop := ∀ c ∈ w, Text.isBlank c = false ∧ c ≠ '}' ∧ c ≠ '|'

instance (w : Text) : Decidable (IsWord w) :=
  List.decidableBAll (fun c => Text.isBlank c = false ∧ c ≠ '}' ∧ c ≠ '|') w

theorem isFormatter_append {w : Text} (hw : IsWord w) (h : IsNumeral digits) :
    IsFormatter (w ++ digits) := by
  have hchars : IsWord (w ++ digits) := by
    refine List.forall_mem_append.mpr ⟨hw, fun c hc => ⟨h.not_blank c hc, ?_, ?_⟩⟩
    · rintro rfl
      exact h.not_mem (by decide) hc
    · rintro rfl
      exact h.not_mem (by decide) hc
  have hne : w ++ digits ≠ [] := List.append_ne_nil_of_right_ne_nil w h.ne_nil
  exact ⟨isName_of_chars hne fun c hc => ⟨(hchars c hc).1, (hchars c hc).2.1⟩,
    fun hbar => (hchars '|' hbar).2.2 rfl⟩

theorem isKey_numbered (h : IsNumeral digits) : IsKey ("rand".toList ++ digits) := by
  have hname := (isFormatter_append (w := "rand".toList) (by decide) h).toIsName
  have hhead : ("rand".toList ++ digits).head? = some 'r' := rfl
  have hrand : IsKey "rand".toList := by decide
  refine ⟨hname, List.forall_mem_append.mpr ⟨hrand.noMark, fun c hc => ?_⟩,
    by rw [hhead]; decide⟩
  rw [Bool.eq_false_iff]
  intro hmark
  simp only [Token.endsKey, Bool.or_eq_true, beq_iff_eq] at hmark
  rcases hmark with (rfl | rfl) | rfl <;> exact h.not_mem (by decide) hc

theorem readSpec_colon (h : IsNumeral digits) :
    Formatter.readSpec ("rand:".toList ++ digits) = ("rand".toList, [digits]) := by
  have htrim := (isFormatter_append (w := "rand:".toList) (by decide) h).trimmed
  have hword : ':' ∉ "rand".toList := by decide
  have hcolon : ':' ∉ digits := h.not_mem (by decide)
  have hsplit := Text.splitAtChar_append_cons hword digits
  rw [Text.splitAtChar_of_not_mem hcolon] at hsplit
  have hcut : "rand:".toList ++ digits = "rand".toList ++ ':' :: digits := rfl
  rw [Formatter.readSpec, htrim, hcut, hsplit]

theorem readSpec_numbered (h : IsNumeral digits) :
    Formatter.readSpec ("rand".toList ++ digits) = ("rand".toList ++ digits, []) := by
  have htrim := (isFormatter_append (w := "rand".toList) (by decide) h).trimmed
  have hcolon : ':' ∉ "rand".toList ++ digits :=
    List.not_mem_append (by decide) (h.not_mem (by decide))
  rw [Formatter.readSpec, htrim, Text.splitAtChar_of_not_mem hcolon]

theorem isDigits_numeral (h : IsNumeral digits) : isDigits digits = true := by
  rw [isDigits, (isNumeral_iff.mp h).2, List.isEmpty_eq_false_iff.mpr h.ne_nil]
  rfl

theorem lengthOf_numeral (h : IsNumeral digits) (hlength : digits.length ≤ Integer.maxDigits) :
    lengthOf digits = .ok (numberOf digits : Int) := by
  rw [lengthOf, Integer.spanDigits_of_digits h.digits]
  exact Integer.ofRun_numeral hlength

theorem renderVariable_rand (h : IsNumeral digits) (hlength : digits.length ≤ Integer.maxDigits)
    (scope : Scope) :
    renderVariable "rand".toList [digits] scope = Drawing.text (numberOf digits) := by
  have hlen : randomLength? "rand".toList [digits] = some (.ok (numberOf digits : Int)) := by
    rw [randomLength?, if_pos rfl]
    show (if isDigits digits then some (lengthOf digits) else none) = _
    rw [isDigits_numeral h, if_pos rfl, lengthOf_numeral h hlength]
  rw [renderVariable, hlen]
  rfl

theorem resolve_eq_absent {scope : Scope} {key : Text} (hget : scope.get? key = none)
    (hpoint : '.' ∉ key) : Path.resolve scope key = .ok .absent := by
  have hparts : Path.parts key = [key] := Text.splitAtChar_of_not_mem hpoint
  have hwalk : Path.walkScope scope [key] = .ok .absent := by
    rw [Path.walkScope, hget]
    rfl
  rw [Path.resolve, hget, hparts]
  · exact hwalk
  · rintro c rest item rfl -
    exact hpoint (List.mem_cons_self ..)

theorem renderVariable_numbered (h : IsNumeral digits)
    (hlength : digits.length ≤ Integer.maxDigits) {scope : Scope}
    (hget : scope.get? ("rand".toList ++ digits) = none) :
    renderVariable ("rand".toList ++ digits) [] scope = Drawing.text (numberOf digits) := by
  have hrand : "rand".toList ++ digits ≠ "rand".toList := fun heq =>
    h.ne_nil (List.append_right_eq_self.mp heq)
  have hnone : randomLength? ("rand".toList ++ digits) [] = none := if_neg hrand
  have hpoint : '.' ∉ "rand".toList ++ digits :=
    List.not_mem_append (by decide) (h.not_mem (by decide))
  have hprefix : "rand".toList.isPrefixOf ("rand".toList ++ digits) = true :=
    List.isPrefixOf_iff_prefix.mpr (List.prefix_append _ _)
  have hlen : numberedLength? ("rand".toList ++ digits) = some (.ok (numberOf digits : Int)) := by
    simp only [numberedLength?, hprefix, List.drop_left, isDigits_numeral h, Bool.and_self,
      if_true, lengthOf_numeral h hlength]
  rw [renderVariable, hnone, resolve_eq_absent hget hpoint]
  show renderValue ("rand".toList ++ digits) [] .absent = _
  rw [renderValue, hlen]
  rfl

theorem renderVariable_formatter (spec : Text) {name s : Text} {scope : Scope}
    (hget : scope.get? name = some (.text s)) (hspec : isDigits spec = false)
    (hblank : spec.all Text.isBlank = false) :
    renderVariable name [spec] scope =
      Formatter.apply (Formatter.readSpec spec).1 (.text s) (Formatter.readSpec spec).2 := by
  have hnone : randomLength? name [spec] = none := by
    rw [randomLength?]
    split
    · show (if isDigits spec then some (lengthOf spec) else none) = none
      rw [hspec, if_neg Bool.false_ne_true]
    · rfl
  rw [renderVariable, hnone, Path.resolve_of_get? hget]
  show renderValue name [spec] (.text s) = _
  rw [renderValue_of_formatters (List.cons_ne_nil _ _) (by rintro ⟨⟩) (by rintro ⟨⟩),
    Formatter.applyChain_one hblank]

theorem parse_var {key : Text} {fs : List Text} (hkey : IsKey key)
    (hfs : ∀ f ∈ fs, IsFormatter f) :
    parse (Token.tagRaw (key ++ fs.flatMap ('|' :: ·))) = .ok [.var key fs] := by
  have hparse := parse_print (.var hkey hfs .nil) (Nat.zero_le _)
  rwa [print, print, Node.print, List.append_nil] at hparse

theorem render_var {key : Text} {fs : List Text} (hkey : IsKey key)
    (hfs : ∀ f ∈ fs, IsFormatter f) {vars : Record} {n : Nat}
    (h : renderVariable key fs [vars] = Drawing.text n) :
    renderAs ⟨false, false⟩ (Token.tagRaw (key ++ fs.flatMap ('|' :: ·))) (.record vars) =
      Drawing.text n := by
  rw [renderAs_asIs, render, renderWith_record, parse_var hkey hfs, Drawing.failing_ok_bind,
    renderNodes_singleton, renderNode, h, Drawing.recover_text]

def randomTemplates (name digits : Text) : List Text :=
  [Token.tagRaw ("rand|".toList ++ digits), Token.tagRaw ("rand".toList ++ digits),
    Token.tagRaw (name ++ "|rand:".toList ++ digits),
    Token.tagRaw (name ++ "|rand".toList ++ digits)]

theorem renderAs_randomTemplates (h : IsNumeral digits)
    (hlength : digits.length ≤ Integer.maxDigits) {name s : Text} (hname : IsKey name)
    {vars : Record} (hvalue : vars.get? name = some (.text s))
    (hfree : vars.get? ("rand".toList ++ digits) = none) {t : Text}
    (ht : t ∈ randomTemplates name digits) :
    renderAs ⟨false, false⟩ t (.record vars) = Drawing.text (numberOf digits) := by
  have hvalue : Scope.get? [vars] name = some (.text s) := (get?_singleton vars name).trans hvalue
  have hfree : Scope.get? [vars] ("rand".toList ++ digits) = none :=
    (get?_singleton vars _).trans hfree
  have hcolon := isFormatter_append (w := "rand:".toList) (by decide) h
  have hnumbered := isFormatter_append (w := "rand".toList) (by decide) h
  have happ (u v : Text) : u ++ [v].flatMap ('|' :: ·) = u ++ '|' :: v := by simp
  simp only [randomTemplates, List.mem_cons, List.not_mem_nil, or_false] at ht
  -- The word itself draws before any variable is looked up, with a bar and without.  A formatter
  -- needs the text under the name, and forgets it.
  rcases ht with rfl | rfl | rfl | rfl
  · have hdigits := isFormatter_append (w := []) (by decide) h
    have hrand : IsKey "rand".toList := by decide
    have hrender := render_var hrand
      (List.forall_mem_singleton.mpr hdigits) (renderVariable_rand h hlength [vars])
    rwa [happ] at hrender
  · have hrender := render_var (isKey_numbered h) (List.forall_mem_nil _)
      (renderVariable_numbered h hlength hfree)
    rwa [List.flatMap_nil, List.append_nil] at hrender
  · have hvar := renderVariable_formatter ("rand:".toList ++ digits) hvalue rfl rfl
    rw [readSpec_colon h, Formatter.apply_rand h hlength] at hvar
    have hrender := render_var hname (List.forall_mem_singleton.mpr hcolon) hvar
    rw [happ] at hrender
    rwa [List.append_assoc]
  · have hvar := renderVariable_formatter ("rand".toList ++ digits) hvalue rfl rfl
    rw [readSpec_numbered h, Formatter.apply_numbered h hlength] at hvar
    have hrender := render_var hname (List.forall_mem_singleton.mpr hnumbered) hvar
    rw [happ] at hrender
    rwa [List.append_assoc]

/-- Whichever way a template asks for so many letters and digits, it gets the same ones: as many as
the numeral says, but at least one and at most 32, and for each of them there is one draw. -/
theorem render_rand_spellings {digits : Text} (h : IsNumeral digits)
    (hlength : digits.length ≤ Integer.maxDigits) {name s : Text} (hname : IsKey name)
    {vars : Record} (hvalue : vars.get? name = some (.text s))
    (hfree : vars.get? ("rand".toList ++ digits) = none) (d : Draws) :
    ∃ u : Text, u.length = max 1 (min 32 (numberOf digits)) ∧
      (∀ c ∈ u, Text.isAsciiAlphanumeric c = true) ∧
      ∀ t ∈ randomTemplates name digits, (renderAs ⟨false, false⟩ t (.record vars)).run d =
        (.ok u, ⟨d.counter + max 1 (min 32 (numberOf digits) : Nat)⟩) := by
  refine ⟨(Draws.letters (Drawing.letterCount (numberOf digits)) d).1, ?_, ?_, fun t ht => ?_⟩
  · exact Draws.letters_length _ d
  · exact fun c hc => Draws.isAsciiAlphanumeric_of_mem_letters hc
  · rw [renderAs_randomTemplates h hlength hname hvalue hfree ht, Drawing.run_text]
    rfl

theorem render_rand_spellings_devanagari :
    (IsNumeral "०७".toList ∧ numberOf "०७".toList = 7 ∧ IsKey "title".toList) ∧
      ∃ u : Text, u.length = 7 ∧ (∀ c ∈ u, Text.isAsciiAlphanumeric c = true) ∧
        ∀ t ∈ randomTemplates "title".toList "०७".toList,
          (renderAs ⟨false, false⟩ t (.record (Record.ofFields [("title", .text [])]))).run ⟨60⟩ =
            (.ok u, ⟨67⟩) :=
  have h : IsNumeral "०७".toList ∧ numberOf "०७".toList = 7 ∧ IsKey "title".toList := by decide
  ⟨h, render_rand_spellings h.1 (by decide) h.2.2 rfl rfl ⟨60⟩⟩

end

end Template

end LitNote
