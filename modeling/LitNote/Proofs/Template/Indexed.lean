import LitNote.Proofs.Number.Decimal
import LitNote.Proofs.Template.Composition

/-!
Two ways to the items of a list.  Main statement: a loop over a list renders what the same variable
renders for every index, as long as its formatters draw nothing.
-/

namespace LitNote.Template

open Drawing (DrawsNothing)

namespace Formatter

def isRandom (name : Text) (args : List Text) : Bool :=
  match ofName? name with
  | some f => f == rand
  | none => args.isEmpty && (ofNumbered? name).any (·.1 == rand)

def isRandomSpec (spec : Text) : Bool := isRandom (readSpec spec).1 (readSpec spec).2

theorem drawsNothing_draw {f : Formatter} (h : (f == rand) = false) (v : Value) (s : Text)
    (args : List Text) : DrawsNothing (f.draw v s args) := by
  cases f with
  | rand => cases h
  | truncate | ellipsis | abbreviate | slice | pad | join | number | json => exact .failing _
  | replace =>
    rw [draw.eq_def]
    dsimp only
    split
    · exact .failing _
    · exact .pure s
  | _ => exact .pure _

theorem drawsNothing_apply {name : Text} {args : List Text} (h : isRandom name args = false)
    (v : Value) : DrawsNothing (apply name v args) := by
  rw [apply]
  refine (DrawsNothing.failing _).bind fun s => ?_
  rw [isRandom] at h
  cases hname : ofName? name with
  | some f =>
    rw [hname] at h
    exact (drawsNothing_draw h v s args).recover s
  | none =>
    rw [hname] at h
    cases hnumbered : ofNumbered? name with
    | none => exact .pure s
    | some numbered =>
      obtain ⟨f, arg⟩ := numbered
      cases args with
      | nil =>
        rw [hnumbered] at h
        exact (drawsNothing_draw h v s [arg]).recover s
      | cons arg' args => exact .pure s

theorem drawsNothing_applySpec {spec : Text} (h : isRandomSpec spec = false) (v : Value) :
    DrawsNothing (applySpec v spec) := by
  rw [applySpec]
  split
  · exact .pure v
  · exact (drawsNothing_apply h v).bind fun s => .pure (Value.text s)

theorem drawsNothing_applyChain {specs : List Text}
    (h : ∀ spec ∈ specs, isRandomSpec spec = false) (v : Value) :
    DrawsNothing (applyChain v specs) := by
  induction specs generalizing v with
  | nil => exact .failing _
  | cons spec specs ih =>
    rw [applyChain]
    exact (drawsNothing_applySpec (h spec (List.mem_cons_self ..)) v).bind
      (ih fun spec' hspec' => h spec' (List.mem_cons_of_mem spec hspec'))

end Formatter

section
variable {key other : Text} {fs : List Text}

theorem ne_rand_of_point (h : '.' ∈ key) : key ≠ "rand".toList := by
  rintro rfl
  exact absurd h (by decide)

theorem numberedLength?_of_point (h : '.' ∈ key) : numberedLength? key = none := by
  rw [numberedLength?, if_neg]
  intro hdigits
  rw [Bool.and_eq_true, isDigits, Bool.and_eq_true, List.all_eq_true] at hdigits
  obtain ⟨rest, hrest⟩ := List.isPrefixOf_iff_prefix.mp hdigits.1
  rw [← hrest, List.drop_left] at hdigits
  rw [← hrest] at h
  have hpoint : '.' ∈ rest := (List.mem_append.mp h).resolve_left (by decide)
  exact absurd (hdigits.2.2 '.' hpoint) (by decide)

theorem renderValue_congr (hkey : '.' ∈ key) (hother : '.' ∈ other) (v : Value) :
    renderValue key fs v = renderValue other fs v := by
  rw [renderValue.eq_def, renderValue.eq_def, numberedLength?_of_point hkey,
    numberedLength?_of_point hother]

theorem drawsNothing_renderValue (hkey : '.' ∈ key)
    (hfs : ∀ f ∈ fs, Formatter.isRandomSpec f = false) (v : Value) :
    DrawsNothing (renderValue key fs v) := by
  rw [renderValue.eq_def, numberedLength?_of_point hkey]
  split
  · exact .pure []
  · exact .pure []
  · exact .pure []
  · exact .failing _
  · exact Formatter.drawsNothing_applyChain hfs v

theorem renderVariable_of_point (hkey : '.' ∈ key) (scope : Scope) :
    renderVariable key fs scope =
      Drawing.failing (Path.resolve scope key) >>= renderValue key fs := by
  have hlength : randomLength? key fs = none := if_neg (ne_rand_of_point hkey)
  rw [renderVariable, hlength]

end

def entryText (key f : Text) : Text := Token.tagRaw (key ++ '|' :: f) ++ [';']

theorem readsAs_entryText {key f : Text} (hkey : IsKey key) (hne : f ≠ []) (hf : '}' ∉ f) :
    ReadsAs (entryText key f) [.var key (Token.formatters f), .text [';']] 0 := by
  have hbody : '}' ∉ key ++ '|' :: f := by
    rw [List.mem_append, List.mem_cons, not_or, not_or]
    exact ⟨hkey.noBrace, by decide, hf⟩
  exact (ReadsAs.var hbody (Token.ofTag_bar hkey (Text.Padded.refl key) hne _)).append
    (ReadsAs.char (by decide))

def entryOf (key : Text) (fs : List Text) (value : Except Failure Value) : Drawing Text := do
  let s ← renderValue key fs (← Drawing.failing value)
  return s ++ [';']

theorem renderNodes_entry {key : Text} (hkey : '.' ∈ key) (fs : List Text) (scope : Scope) :
    renderNodes scope [.var key fs, .text [';']] =
      entryOf key fs (Path.resolve scope key) := by
  simp only [renderNodes, renderNode, renderVariable_of_point hkey, entryOf, pure_bind,
    bind_assoc, List.append_nil]

theorem drawsNothing_entryOf {key : Text} {fs : List Text} (hkey : '.' ∈ key)
    (hfs : ∀ f ∈ fs, Formatter.isRandomSpec f = false) (value : Except Failure Value) :
    DrawsNothing (entryOf key fs value) :=
  (DrawsNothing.failing value).bind fun v =>
    (drawsNothing_renderValue hkey hfs v).bind fun _ => .pure _

theorem isKey_natText (i : Nat) : IsKey (natText i) := by
  have hdigit : ∀ c ∈ natText i, Text.isAsciiDigit c = true :=
    fun c => isAsciiDigit_of_mem_natText
  have hother {c : Char} (hc : Text.isAsciiDigit c = false) : c ∉ natText i := by
    intro hmem
    rw [hdigit c hmem] at hc
    cases hc
  have hblank : ∀ c ∈ natText i, Text.isBlank c = false :=
    fun c hc => Text.isBlank_of_isAsciiDigit (hdigit c hc)
  refine ⟨⟨natText_ne_nil i, ?_, hother rfl⟩, ?_, ?_⟩
  · exact Text.trim_eq_self (fun c hc => hblank c (List.mem_of_mem_head? hc))
      (fun c hc => hblank c (List.mem_of_getLast? hc))
  · intro c hc
    cases hmark : Token.endsKey c with
    | false => rfl
    | true =>
      simp only [Token.endsKey, Bool.or_eq_true, beq_iff_eq] at hmark
      rcases hmark with (rfl | rfl) | rfl <;> exact absurd hc (hother rfl)
  · intro hslash
    exact hother (c := '/') rfl (List.mem_of_mem_head? hslash)

theorem isKey_append_point {a b : Text} (ha : IsKey a) (hb : IsName b)
    (hmark : ∀ c ∈ b, Token.endsKey c = false) : IsKey (a ++ '.' :: b) := by
  refine ⟨⟨by simp, Text.trim_append_cons ha.ne_nil ha.trimmed '.' hb.ne_nil hb.trimmed, ?_⟩,
    ?_, ?_⟩
  · rw [List.mem_append, List.mem_cons, not_or, not_or]
    exact ⟨ha.noBrace, by decide, hb.noBrace⟩
  · rw [List.forall_mem_append, List.forall_mem_cons]
    exact ⟨ha.noMark, by decide, hmark⟩
  · obtain ⟨c, a, rfl⟩ := List.exists_cons_of_ne_nil ha.ne_nil
    exact ha.noSlash

theorem isKey_point {q : Text} (hq : IsName q) (hmark : ∀ c ∈ q, Token.endsKey c = false) :
    IsKey ('.' :: q) := by
  obtain ⟨p, d, rfl⟩ := (List.eq_nil_or_concat q).resolve_left hq.ne_nil
  rw [List.concat_eq_append] at hq hmark ⊢
  have hlast : Text.isBlank d = false := Text.last_of_trim_eq hq.trimmed
  refine ⟨⟨List.cons_ne_nil _ _, ?_, ?_⟩, ?_, by simp⟩
  · refine Text.trim_of_ends (c := '.') (d := d) rfl rfl ?_ hlast
    rw [← List.cons_append, List.getLast?_concat]
  · exact List.not_mem_cons_of_ne_of_not_mem (by decide) hq.noBrace
  · exact List.forall_mem_cons.mpr ⟨by decide, hmark⟩

theorem parts_append_point {a : Text} (h : '.' ∉ a) (s : Text) :
    Path.parts (a ++ '.' :: s) = a :: Path.parts s :=
  Text.splitAtChar_append_cons h s

theorem parts_natText (i : Nat) : Path.parts (natText i) = [natText i] := by
  refine Text.splitAtChar_of_not_mem fun hc => ?_
  cases isAsciiDigit_of_mem_natText hc

theorem resolve_of_get?_eq_none {scope : Scope} {c : Char} {rest : Text} (hc : c ≠ '.')
    (h : scope.get? (c :: rest) = none) :
    Path.resolve scope (c :: rest) = Path.walkScope scope (Path.parts (c :: rest)) := by
  rw [Path.resolve, h]
  intro c' rest' item heq
  exact absurd (List.cons.inj heq).1 hc

theorem step_natText {v : Value} {items : List Value} (hitems : v.items? = some items) (i : Nat) :
    Path.step v (natText i) = Path.itemAt items (natText i) := by
  have hlength : natText i ≠ "length".toList := by
    intro heq
    have hdigit : Text.isAsciiDigit 'l' = true :=
      isAsciiDigit_of_mem_natText (n := i) (heq ▸ List.mem_cons_self ..)
    cases hdigit
  have hdigits : (!(natText i).isEmpty && (natText i).all Text.isAsciiDigit) = true := by
    rw [List.isEmpty_eq_false_iff.mpr (natText_ne_nil i), Bool.not_false, Bool.true_and]
    exact List.all_eq_true.mpr fun c => isAsciiDigit_of_mem_natText
  cases v with
  | list xs =>
    cases hitems
    simp only [Path.step, Path.indexed?, if_neg hlength, if_pos hdigits]
  | tuple xs =>
    cases hitems
    simp only [Path.step, Path.indexed?, if_neg hlength, if_pos hdigits]
  | _ => cases hitems

theorem eq_of_itemAt {items : List Value} {i : Nat} {item : Value}
    (h : Path.itemAt items (natText i) = .ok item) : item = (items[i]?).getD .absent := by
  obtain ⟨n, hn, h⟩ := Failure.bind_eq_ok_iff.mp h
  rw [Integer.ofRun] at hn
  split at hn
  · cases hn
  · cases hn
    rw [ofDigits_natText] at h
    cases h
    rfl

/-- How a loop names a part of its item, what names the part behind an index, and the path to it:
the item as a whole, or what is reached from it. -/
inductive Reaches : Text → Text → List Text → Prop
  | item : Reaches ['.'] [] []
  | path {q : Text} (isName : IsName q) (noMark : ∀ c ∈ q, Token.endsKey c = false) :
      Reaches ('.' :: q) ('.' :: q) (Path.parts q)

def indexedKey (x : Text) (i : Nat) (behind : Text) : Text := x ++ '.' :: (natText i ++ behind)

theorem point_mem_indexedKey (x : Text) (i : Nat) (behind : Text) :
    '.' ∈ indexedKey x i behind := List.mem_append_right x (List.mem_cons_self ..)

namespace Reaches

variable {own behind : Text} {ps : List Text}

theorem point_mem (h : Reaches own behind ps) : '.' ∈ own := by
  cases h with
  | item => exact List.mem_cons_self ..
  | path => exact List.mem_cons_self ..

theorem isKey (h : Reaches own behind ps) : IsKey own := by
  cases h with
  | item => decide
  | path hq hmark => exact isKey_point hq hmark

theorem isKey_indexedKey (h : Reaches own behind ps) {x : Text} (hx : IsKey x) (i : Nat) :
    IsKey (indexedKey x i behind) := by
  have hi := isKey_natText i
  cases h with
  | item =>
    rw [indexedKey, List.append_nil]
    exact isKey_append_point hx hi.toIsName hi.noMark
  | path hq hmark =>
    have hpath := isKey_append_point hi hq hmark
    exact isKey_append_point hx hpath.toIsName hpath.noMark

theorem parts_indexedKey (h : Reaches own behind ps) {x : Text} (hx : '.' ∉ x) (i : Nat) :
    Path.parts (indexedKey x i behind) = x :: natText i :: ps := by
  rw [indexedKey, parts_append_point hx]
  cases h with
  | item => rw [List.append_nil, parts_natText]
  | path =>
    have hpoint : '.' ∉ natText i := by
      intro hmem
      cases isAsciiDigit_of_mem_natText hmem
    rw [parts_append_point hpoint]

theorem resolve_own (h : Reaches own behind ps) {vars : Record}
    (habsent : behind ≠ [] → vars.get? behind = none) (item : Value) (i n : Nat) :
    Path.resolve [loopRecord item i n, vars] own = Path.walk item ps := by
  have hitem := get?_loopRecord_item item i n [vars]
  cases h with
  | item => exact Path.resolve_of_get? hitem
  | @path q hq hmark =>
    obtain ⟨c, q, rfl⟩ := List.exists_cons_of_ne_nil hq.ne_nil
    have hnone : Scope.get? [loopRecord item i n, vars] ('.' :: c :: q) = none := by
      have hloop : (loopRecord item i n).get? ('.' :: c :: q) = none := by
        simp [loopRecord, Record.ofFields, Record.get?, Value.ofString]
      rw [Scope.get?_cons, hloop, get?_singleton, habsent (List.cons_ne_nil _ _)]
      rfl
    simp only [Path.resolve, hnone, hitem]

theorem resolve_indexedKey (h : Reaches own behind ps) {x : Text} {vars : Record} {v : Value}
    {items : List Value} (hx : IsKey x) (hpoint : '.' ∉ x) (hv : vars.get? x = some v)
    (hitems : v.items? = some items) {i : Nat}
    (habsent : vars.get? (indexedKey x i behind) = none) :
    Path.resolve [vars] (indexedKey x i behind) =
      (Path.itemAt items (natText i)).bind (Path.walk · ps) := by
  have hnone : Scope.get? [vars] (indexedKey x i behind) = none :=
    (get?_singleton vars _).trans habsent
  have hresolve : Path.resolve [vars] (indexedKey x i behind) =
      Path.walkScope [vars] (x :: natText i :: ps) := by
    rw [← h.parts_indexedKey hpoint i]
    obtain ⟨c, x, rfl⟩ := List.exists_cons_of_ne_nil hx.ne_nil
    exact resolve_of_get?_eq_none (fun hc => hpoint (hc ▸ List.mem_cons_self ..)) hnone
  have hfirst : Scope.get? [vars] x = some v := (get?_singleton vars x).trans hv
  rw [hresolve, Path.walkScope, hfirst, Option.getD_some]
  cases v with
  | list xs =>
    show (Path.step (.list xs) (natText i)).bind (Path.walk · ps) = _
    rw [step_natText hitems]
  | tuple xs =>
    show (Path.step (.tuple xs) (natText i)).bind (Path.walk · ps) = _
    rw [step_natText hitems]
  | _ => cases hitems

end Reaches

section
variable {x f own behind : Text} {ps : List Text} {vars : Record} {v : Value}
  {items : List Value} {d : Draws}

def itemEntry (own f : Text) (ps : List Text) (item : Value) : Drawing Text :=
  entryOf own (Token.formatters f) (Path.walk item ps)

section
variable (h : Reaches own behind ps) (hx : IsKey x) (hpoint : '.' ∉ x)
  (hv : vars.get? x = some v) (hitems : v.items? = some items) (hne : f ≠ []) (hf : '}' ∉ f)
include h hx hv hitems hne hf

theorem renderWith_own (hown : behind ≠ [] → vars.get? behind = none) :
    renderWith (inBlock x (entryText own f)) (.record vars) =
      renderItems (fun item _ => itemEntry own f ps item) items 0 := by
  have hreads := (readsAs_entryText h.isKey hne hf).inBlock hx.toIsName
  rw [renderWith_of_readsAs hreads, if_pos (by decide), renderNodes_block hv hitems]
  simp only [renderNodes_entry h.point_mem, h.resolve_own hown]
  rfl

include hpoint

theorem renderWith_indexed {i : Nat} (habsent : vars.get? (indexedKey x i behind) = none) :
    renderWith (entryText (indexedKey x i behind) f) (.record vars) =
      Drawing.failing (Path.itemAt items (natText i)) >>= itemEntry own f ps := by
  have hmem := point_mem_indexedKey x i behind
  have hcongr (value : Except Failure Value) :
      entryOf (indexedKey x i behind) (Token.formatters f) value =
        entryOf own (Token.formatters f) value := by
    simp only [entryOf, renderValue_congr hmem h.point_mem]
  rw [renderWith_of_readsAs (readsAs_entryText (h.isKey_indexedKey hx i) hne hf),
    if_pos (by decide), renderNodes_entry hmem,
    h.resolve_indexedKey hx hpoint hv hitems habsent, hcongr]
  cases Path.itemAt items (natText i) <;> rfl

theorem renderWith_indexed_eq_pure
    (hfs : ∀ spec ∈ Token.formatters f, Formatter.isRandomSpec spec = false)
    {i : Nat} (habsent : vars.get? (indexedKey x i behind) = none)
    (hcompletes : (renderWith (entryText (indexedKey x i behind) f) (.record vars)).Completes d) :
    ∃ t, itemEntry own f ps ((items[i]?).getD .absent) = pure t ∧
      renderWith (entryText (indexedKey x i behind) f) (.record vars) = pure t := by
  rw [renderWith_indexed h hx hpoint hv hitems hne hf habsent] at hcompletes ⊢
  cases hitem : Path.itemAt items (natText i) with
  | error e =>
    obtain ⟨t, d', hrun⟩ := hcompletes
    rw [hitem] at hrun
    cases hrun
  | ok item =>
    rw [hitem, Drawing.failing_ok_bind] at hcompletes
    obtain ⟨t, ht⟩ := (drawsNothing_entryOf h.point_mem hfs _).eq_pure hcompletes
    rw [Drawing.failing_ok_bind, ← eq_of_itemAt hitem]
    exact ⟨t, ht, ht⟩

theorem render_own
    (hfs : ∀ spec ∈ Token.formatters f, Formatter.isRandomSpec spec = false)
    (hown : behind ≠ [] → vars.get? behind = none)
    (habsent : ∀ i < items.length, vars.get? (indexedKey x i behind) = none)
    (hcompletes : ∀ i < items.length,
      (renderWith (entryText (indexedKey x i behind) f) (.record vars)).Completes d) :
    render (inBlock x (entryText own f)) (.record vars) = do
      let parts ← (List.range items.length).mapM fun i =>
        render (entryText (indexedKey x i behind) f) (.record vars)
      return parts.flatten := by
  have hindexed (i : Nat) (hi : i < items.length) := renderWith_indexed_eq_pure h hx hpoint hv
    hitems hne hf hfs (habsent i hi) (hcompletes i hi)
  -- An entry renders the same text wherever its item stands.
  have hentry : ∀ item, ∃ t, item ∈ items → itemEntry own f ps item = pure t := by
    intro item
    by_cases hmem : item ∈ items
    · obtain ⟨i, hi, rfl⟩ := List.getElem_of_mem hmem
      obtain ⟨t, ht, -⟩ := hindexed i hi
      rw [List.getElem?_eq_getElem hi] at ht
      exact ⟨t, fun _ => ht⟩
    · exact ⟨[], fun hitem => absurd hitem hmem⟩
  obtain ⟨g, hg⟩ := Classical.axiomOfChoice hentry
  have hloop : renderWith (inBlock x (entryText own f)) (.record vars) =
      pure (items.flatMap g) := by
    rw [renderWith_own h hx hv hitems hne hf hown]
    exact renderItems_eq (fun item hitem _ => hg item hitem) 0
  have hparts : ∀ i ∈ List.range items.length,
      render (entryText (indexedKey x i behind) f) (.record vars) =
        pure (g ((items[i]?).getD .absent)) := by
    intro i hi
    have hi := List.mem_range.mp hi
    obtain ⟨t, ht, hrender⟩ := hindexed i hi
    have hmem : (items[i]?).getD .absent ∈ items := by
      rw [List.getElem?_eq_getElem hi]
      exact List.getElem_mem hi
    rw [render, hrender, ← ht, hg _ hmem]
    rfl
  have hjoined : (List.range items.length).map (fun i => g ((items[i]?).getD .absent)) =
      items.map g := by
    refine List.ext_getElem (by simp) fun i hi hi' => ?_
    rw [List.length_map] at hi'
    simp only [List.getElem_map, List.getElem_range, List.getElem?_eq_getElem hi',
      Option.getD_some]
  rw [Drawing.mapM_eq_pure hparts, hjoined, render, hloop, List.flatMap_def]
  rfl

end

/-- A loop over a list renders, for a path in its items and for the items themselves, what the
variables with an index render one after another. -/
theorem render_loop_eq_indexed (hx : IsKey x) (hpoint : '.' ∉ x) (hv : vars.get? x = some v)
    (hitems : v.items? = some items) (hne : f ≠ []) (hf : '}' ∉ f)
    (hfs : ∀ spec ∈ Token.formatters f, Formatter.isRandomSpec spec = false) :
    (∀ q, IsName q → (∀ c ∈ q, Token.endsKey c = false) → vars.get? ('.' :: q) = none →
      (∀ i < items.length, vars.get? (indexedKey x i ('.' :: q)) = none) →
      (∀ i < items.length,
        (renderWith (entryText (indexedKey x i ('.' :: q)) f) (.record vars)).Completes d) →
      render (inBlock x (entryText ('.' :: q) f)) (.record vars) = do
        let parts ← (List.range items.length).mapM fun i =>
          render (entryText (indexedKey x i ('.' :: q)) f) (.record vars)
        return parts.flatten) ∧
    ((∀ i < items.length, vars.get? (indexedKey x i []) = none) →
      (∀ i < items.length,
        (renderWith (entryText (indexedKey x i []) f) (.record vars)).Completes d) →
      render (inBlock x (entryText ['.'] f)) (.record vars) = do
        let parts ← (List.range items.length).mapM fun i =>
          render (entryText (indexedKey x i []) f) (.record vars)
        return parts.flatten) := by
  constructor
  · intro q hq hmark hown habsent hcompletes
    exact render_own (.path hq hmark) hx hpoint hv hitems hne hf hfs (fun _ => hown) habsent
      hcompletes
  · intro habsent hcompletes
    exact render_own .item hx hpoint hv hitems hne hf hfs (fun h => absurd rfl h) habsent
      hcompletes

end

def pairs : List Value := [.list [.text ['u']], .null, .text ['a', 'b']]

def pairVars : Record := Record.ofFields [("l", .tuple pairs)]

theorem completes_pairs {own behind : Text} {ps : List Text} (h : Reaches own behind ps)
    (hps : ps = [['0']] ∨ ps = [])
    (habsent : ∀ i < pairs.length, pairVars.get? (indexedKey ['l'] i behind) = none) :
    ∀ i < pairs.length, (renderWith (entryText (indexedKey ['l'] i behind) "upper".toList)
      (.record pairVars)).Completes ⟨0⟩ := by
  intro i hi
  have hpairs : (Value.tuple pairs).items? = some pairs := rfl
  rw [renderWith_indexed h (by decide) (by decide) rfl hpairs (by decide) (by decide)
    (habsent i hi)]
  have hi : i < 3 := hi
  obtain rfl | rfl | rfl : i = 0 ∨ i = 1 ∨ i = 2 := by omega
  · rcases hps with rfl | rfl <;> exact ⟨['U', ';'], ⟨0⟩, rfl⟩
  · rcases hps with rfl | rfl <;> exact ⟨[';'], ⟨0⟩, rfl⟩
  · rcases hps with rfl | rfl
    · exact ⟨['A', ';'], ⟨0⟩, rfl⟩
    · exact ⟨['A', 'B', ';'], ⟨0⟩, rfl⟩

theorem render_loop_eq_indexed_pairs :
    (render (inBlock ['l'] (entryText ['.', '0'] "upper".toList)) (.record pairVars) = do
      let parts ← (List.range 3).mapM fun i =>
        render (entryText (indexedKey ['l'] i ['.', '0']) "upper".toList) (.record pairVars)
      return parts.flatten) ∧
    render (inBlock ['l'] (entryText ['.'] "upper".toList)) (.record pairVars) = do
      let parts ← (List.range 3).mapM fun i =>
        render (entryText (indexedKey ['l'] i []) "upper".toList) (.record pairVars)
      return parts.flatten := by
  have hmark : ∀ c ∈ ['0'], Token.endsKey c = false := List.forall_mem_singleton.mpr rfl
  have hpath : Reaches ['.', '0'] ['.', '0'] [['0']] := .path (q := ['0']) (by decide) hmark
  have hbehind : ∀ i < pairs.length, pairVars.get? (indexedKey ['l'] i ['.', '0']) = none := by
    decide
  have hbare : ∀ i < pairs.length, pairVars.get? (indexedKey ['l'] i []) = none := by decide
  have hget : pairVars.get? ['l'] = some (.tuple pairs) := rfl
  have hpairs : (Value.tuple pairs).items? = some pairs := rfl
  obtain ⟨hq, hitem⟩ := render_loop_eq_indexed (f := "upper".toList) (d := ⟨0⟩) (by decide)
    (by decide) hget hpairs (by decide) (by decide) (by decide)
  exact ⟨hq ['0'] (by decide) hmark rfl hbehind (completes_pairs hpath (.inl rfl) hbehind),
    hitem hbare (completes_pairs .item (.inr rfl) hbare)⟩

end LitNote.Template
