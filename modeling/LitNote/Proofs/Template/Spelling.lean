import LitNote.Proofs.Template.Token
import LitNote.Template.Node

/-!
How trees are written as templates: blanks may stand around keys, names and formatters.  The tag of
a variable or a block gives the token with its key or name, whichever way it is written.
-/

namespace LitNote.Template

open Text (Padded)

structure IsName (s : Text) : Prop where
  ne_nil : s ≠ []
  trimmed : Text.trim s = s
  noBrace : '}' ∉ s

structure IsKey (s : Text) : Prop extends IsName s where
  noMark : ∀ c ∈ s, Token.endsKey c = false
  noSlash : s.head? ≠ some '/'

structure IsFormatter (s : Text) : Prop extends IsName s where
  noBar : '|' ∉ s

def startsWithText : List Node → Prop
  | .text _ :: _ => True
  | _ => False

/-- Two runs of text do not stand side by side, for they would be one. -/
inductive WellFormed : List Node → Prop
  | nil : WellFormed []
  | text {s : Text} {nodes : List Node} (ne_nil : s ≠ []) (noBrace : '{' ∉ s)
      (next : ¬startsWithText nodes) : WellFormed nodes → WellFormed (.text s :: nodes)
  | var {key : Text} {fs : List Text} {nodes : List Node} (isKey : IsKey key)
      (areFormatters : ∀ f ∈ fs, IsFormatter f) : WellFormed nodes →
      WellFormed (.var key fs :: nodes)
  | block {name : Text} {inverted : Bool} {children nodes : List Node} (isName : IsName name) :
      WellFormed children → WellFormed nodes → WellFormed (.block name inverted children :: nodes)

inductive SpellsBars : List Text → Text → Prop
  | nil : SpellsBars [] []
  | cons {f p : Text} {fs : List Text} {t : Text} : Padded f p → SpellsBars fs t →
      SpellsBars (f :: fs) ('|' :: (p ++ t))

def sigil (inverted : Bool) : Char := if inverted then '^' else '#'

inductive Spells : List Node → Text → Prop
  | nil : Spells [] []
  | text (s : Text) {nodes : List Node} {t : Text} : Spells nodes t →
      Spells (.text s :: nodes) (s ++ t)
  | var {key k bars : Text} {fs : List Text} {nodes : List Node} {t : Text} : Padded key k →
      SpellsBars fs bars → Spells nodes t →
      Spells (.var key fs :: nodes) (Token.tagRaw (k ++ bars) ++ t)
  | block {name opened closed body : Text} {inverted : Bool} {children nodes : List Node}
      {t : Text} : Padded name opened → Padded name closed → Spells children body →
      Spells nodes t → Spells (.block name inverted children :: nodes)
        (Token.tagRaw (sigil inverted :: opened) ++ (body ++ (Token.tagRaw ('/' :: closed) ++ t)))

mutual

def Node.print : Node → Text
  | .text s => s
  | .var key fs => Token.tagRaw (key ++ fs.flatMap ('|' :: ·))
  | .block name inverted children =>
    Token.tagRaw (sigil inverted :: name) ++ (print children ++ Token.tagRaw ('/' :: name))

def print : List Node → Text
  | [] => []
  | node :: nodes => node.print ++ print nodes

end

mutual

def Node.depth : Node → Nat
  | .text _ => 0
  | .var _ _ => 0
  | .block _ _ children => depth children + 1

def depth : List Node → Nat
  | [] => 0
  | node :: nodes => max node.depth (depth nodes)

end

theorem spellsBars_print (fs : List Text) : SpellsBars fs (fs.flatMap ('|' :: ·)) := by
  induction fs with
  | nil => exact .nil
  | cons f fs ih => exact .cons (Padded.refl f) ih

theorem spells_print : ∀ nodes : List Node, Spells nodes (print nodes)
  | [] => by
    rw [print]
    exact .nil
  | .text s :: nodes => by
    rw [print, Node.print]
    exact .text s (spells_print nodes)
  | .var key fs :: nodes => by
    rw [print, Node.print]
    exact .var (Padded.refl key) (spellsBars_print fs) (spells_print nodes)
  | .block name inverted children :: nodes => by
    rw [print, Node.print, List.append_assoc, List.append_assoc]
    exact .block (Padded.refl name) (Padded.refl name) (spells_print children) (spells_print nodes)

namespace Token

theorem endsKey_of_isBlank {c : Char} (h : Text.isBlank c = true) : endsKey c = false := by
  cases he : endsKey c with
  | false => rfl
  | true =>
    simp only [endsKey, Bool.or_eq_true, beq_iff_eq] at he
    obtain (rfl | rfl) | rfl := he <;> cases h

theorem ofTag_block {name p : Text} (hn : IsName name) (hp : Padded name p) (raw : Text)
    (inverted : Bool) : ofTag (sigil inverted :: p) raw = .opening raw name inverted := by
  have htrim : Text.trim p = name := (Text.trim_padded hp).trans hn.trimmed
  have hblock : ofBlock p raw inverted = .opening raw name inverted := by
    rw [ofBlock, htrim, if_neg]
    exact fun he => hn.ne_nil (List.isEmpty_iff.mp he)
  cases inverted with
  | false => exact hblock
  | true => exact hblock

theorem ofTag_closing {name p : Text} (hn : IsName name) (hp : Padded name p) (raw : Text) :
    ofTag ('/' :: p) raw = .closing raw name := by
  rw [ofTag, Text.trim_padded hp, hn.trimmed]

theorem exists_cons_of_isKey {key k : Text} (hkey : IsKey key) (hk : Padded key k) :
    ∃ c rest, k = c :: rest ∧ endsKey c = false ∧ c ≠ '/' := by
  obtain ⟨a, b, ha, -, rfl⟩ := hk
  cases a with
  | nil =>
    cases key with
    | nil => exact absurd rfl hkey.ne_nil
    | cons c key =>
      have hslash : c ≠ '/' := fun hc => hkey.noSlash (congrArg some hc)
      exact ⟨c, key ++ b, rfl, hkey.noMark c (List.mem_cons_self ..), hslash⟩
  | cons c a =>
    have hblank : Text.isBlank c = true := ha c (List.mem_cons_self ..)
    refine ⟨c, a ++ key ++ b, rfl, endsKey_of_isBlank hblank, ?_⟩
    rintro rfl
    cases hblank

theorem ofTag_of_ne {c : Char} {rest : Text} (h : endsKey c = false) (hslash : c ≠ '/')
    (raw : Text) : ofTag (c :: rest) raw = ofVariable (c :: rest) raw := by
  have hnum : c ≠ '#' := by rintro rfl; cases h
  have hcaret : c ≠ '^' := by rintro rfl; cases h
  rw [ofTag] <;> rintro name heq <;> cases heq
  · exact hnum rfl
  · exact hcaret rfl
  · exact hslash rfl

theorem noBar_of_padded {f p : Text} (hf : IsFormatter f) (hp : Padded f p) : '|' ∉ p :=
  hp.not_mem rfl hf.noBar

theorem map_trim_splitAtChar_bars {f p t : Text} {fs : List Text} (hf : IsFormatter f)
    (hfs : ∀ g ∈ fs, IsFormatter g) (hp : Padded f p) (ht : SpellsBars fs t) :
    (Text.splitAtChar '|' (p ++ t)).map Text.trim = f :: fs := by
  induction ht generalizing f p with
  | nil =>
    rw [List.append_nil, Text.splitAtChar_of_not_mem (noBar_of_padded hf hp),
      List.map_singleton, Text.trim_padded hp, hf.trimmed]
  | @cons g q fs t hq ht ih =>
    have hg : IsFormatter g := hfs g (List.mem_cons_self ..)
    have ih := ih hg (fun g' hg' => hfs g' (List.mem_cons_of_mem g hg')) hq
    rw [Text.splitAtChar_append_cons (noBar_of_padded hf hp), List.map_cons, Text.trim_padded hp,
      hf.trimmed, ← ih]

theorem formatters_bars {f p t : Text} {fs : List Text} (hf : IsFormatter f)
    (hfs : ∀ g ∈ fs, IsFormatter g) (hp : Padded f p) (ht : SpellsBars fs t) :
    formatters (p ++ t) = f :: fs := by
  -- The formatters are trimmed together before they are split and trimmed one by one.
  have hsplit : (Text.splitAtChar '|' (Text.trim (p ++ t))).map Text.trim =
      (Text.splitAtChar '|' (p ++ t)).map Text.trim := by
    refine (Text.map_trim_splitBy_padded (fun c hc => ?_) (Text.padded_trim (p ++ t))).symm
    refine beq_false_of_ne ?_
    rintro rfl
    cases hc
  have hne : Text.trim (p ++ t) ≠ [] := by
    intro hnil
    have hblank := Text.blank_of_trim_eq_nil hnil
    have hpblank : Text.Blank p := fun c hc => hblank c (List.mem_append_left t hc)
    have hempty : Text.trim p = [] := by
      rw [Text.trim, Text.trimStart_eq_nil hpblank]
      rfl
    rw [Text.trim_padded hp, hf.trimmed] at hempty
    exact hf.ne_nil hempty
  rw [formatters, if_neg fun he => hne (List.isEmpty_iff.mp he), hsplit,
    map_trim_splitAtChar_bars hf hfs hp ht]

theorem noMark_padded {key k : Text} (hkey : IsKey key) (hk : Padded key k) :
    ∀ c ∈ k, (!endsKey c) = true := by
  intro c hc
  obtain hc | hc := hk.mem hc
  · rw [hkey.noMark c hc]
    rfl
  · rw [endsKey_of_isBlank hc]
    rfl

theorem ofTag_padded {key k : Text} (hkey : IsKey key) (hk : Padded key k) {bars : Text}
    (hbars : bars.takeWhile (!endsKey ·) = []) (raw : Text) :
    ofTag (k ++ bars) raw = ofVariable (k ++ bars) raw ∧
      (k ++ bars).takeWhile (!endsKey ·) = k ∧ ¬k.isEmpty = true := by
  obtain ⟨c, rest, hkc, hc, hslash⟩ := exists_cons_of_isKey hkey hk
  refine ⟨?_, ?_, ?_⟩
  · rw [hkc, List.cons_append]
    exact ofTag_of_ne hc hslash raw
  · rw [List.takeWhile_append_of_pos (noMark_padded hkey hk), hbars, List.append_nil]
  · rw [hkc]
    exact Bool.false_ne_true

theorem ofTag_bar {key k f : Text} (hkey : IsKey key) (hk : Padded key k) (hf : f ≠ [])
    (raw : Text) : ofTag (k ++ '|' :: f) raw = .var raw key (formatters f) := by
  obtain ⟨c, f, rfl⟩ := List.exists_cons_of_ne_nil hf
  have hbar : ('|' :: c :: f).takeWhile (!endsKey ·) = [] :=
    List.takeWhile_cons_of_neg (by decide)
  obtain ⟨hvar, htake, hempty⟩ := ofTag_padded hkey hk hbar raw
  rw [hvar, ofVariable, htake, if_neg hempty,
    List.dropWhile_append_of_pos (noMark_padded hkey hk), List.dropWhile_cons_of_neg (by decide)]
  show Token.var raw (Text.trim k) (formatters (c :: f)) = _
  rw [Text.trim_padded hk, hkey.trimmed]

theorem ofTag_var {key k bars : Text} {fs : List Text} (hkey : IsKey key)
    (hfs : ∀ f ∈ fs, IsFormatter f) (hk : Padded key k) (hbars : SpellsBars fs bars) (raw : Text) :
    ofTag (k ++ bars) raw = .var raw key fs := by
  cases hbars with
  | nil =>
    obtain ⟨hvar, htake, hempty⟩ := ofTag_padded hkey hk List.takeWhile_nil raw
    rw [hvar, ofVariable, htake, if_neg hempty,
      List.dropWhile_append_of_pos (noMark_padded hkey hk), List.dropWhile_nil,
      Text.trim_padded hk, hkey.trimmed]
  | @cons f p fs t hp ht =>
    have hf : IsFormatter f := hfs f (List.mem_cons_self ..)
    have hform := formatters_bars hf (fun g hg => hfs g (List.mem_cons_of_mem f hg)) hp ht
    have hne : p ++ t ≠ [] := by
      intro hnil
      rw [hnil] at hform
      cases hform
    rw [ofTag_bar hkey hk hne, hform]

end Token

end LitNote.Template
