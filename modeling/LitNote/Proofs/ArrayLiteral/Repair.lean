import LitNote.Proofs.ArrayLiteral
import LitNote.Proofs.Json.Unquoted
import LitNote.Proofs.Text.Parts

/-!
The repair of array literals without quotation marks and escapes.  Main statements: a second repair
changes nothing, and the texts that are read off what was repaired have no commas.
-/

namespace LitNote.ArrayLiteral

theorem splitItems_ne_nil (s : Text) : splitItems s ≠ [] := by
  cases s with
  | nil => exact List.cons_ne_nil _ _
  | cons c s =>
    rw [splitItems]
    split
    · exact List.cons_ne_nil _ _
    · split <;> exact List.cons_ne_nil _ _

theorem splitItems_cases (c : Char) (s : Text) :
    (c = ',' ∧ quoteCount s % 2 = 0 ∧ splitItems (c :: s) = [] :: splitItems s) ∨
      ((c = ',' → quoteCount s % 2 ≠ 0) ∧ ∃ item items, splitItems s = item :: items ∧
        splitItems (c :: s) = (c :: item) :: items) := by
  rw [splitItems]
  split
  · next h =>
    rw [Bool.and_eq_true, beq_iff_eq, beq_iff_eq] at h
    exact .inl ⟨h.1, h.2, rfl⟩
  · next h =>
    obtain ⟨item, items, heq⟩ := List.exists_cons_of_ne_nil (splitItems_ne_nil s)
    refine .inr ⟨?_, item, items, heq, by rw [heq]⟩
    rintro rfl hcount
    exact h (by rw [hcount]; rfl)

theorem splitItems_cut {s : Text} (hs : quoteCount s % 2 = 0) :
    splitItems (',' :: s) = [] :: splitItems s := by
  obtain ⟨-, -, heq⟩ | ⟨hodd, -⟩ := splitItems_cases ',' s
  · exact heq
  · exact absurd hs (hodd rfl)

theorem splitItems_keep {c : Char} {s item : Text} {items : List Text}
    (h : c = ',' → quoteCount s % 2 = 1) (hs : splitItems s = item :: items) :
    splitItems (c :: s) = (c :: item) :: items := by
  obtain ⟨hc, heven, -⟩ | ⟨-, item', items', heq, hcons⟩ := splitItems_cases c s
  · have hodd := h hc
    omega
  · rw [hs] at heq
    cases heq
    exact hcons

theorem quoteCount_append (s t : Text) : quoteCount (s ++ t) = quoteCount s + quoteCount t :=
  List.count_append

theorem quoteCount_cons (c : Char) (s : Text) :
    quoteCount (c :: s) = quoteCount [c] + quoteCount s := quoteCount_append [c] s

theorem quoteCount_comma (s : Text) : quoteCount (',' :: s) = quoteCount s :=
  List.count_cons_of_ne (by decide)

theorem quoteCount_append_comma (s t : Text) :
    quoteCount (s ++ ',' :: t) = quoteCount s + quoteCount t := by
  rw [quoteCount_append, quoteCount_comma]

theorem quoteCount_of_not_mem {s : Text} (h : '"' ∉ s) : quoteCount s = 0 :=
  List.count_eq_zero.mpr h

/-- After every comma of the text comes an odd number of quotation marks, so that none of them
cuts it. -/
def Guarded : Text → Prop
  | [] => True
  | c :: s => (c = ',' → quoteCount s % 2 = 1) ∧ Guarded s

instance decidableGuarded : (s : Text) → Decidable (Guarded s)
  | [] => .isTrue trivial
  | c :: s =>
    have := decidableGuarded s
    inferInstanceAs (Decidable ((c = ',' → quoteCount s % 2 = 1) ∧ Guarded s))

theorem guarded_cons {c : Char} {s : Text} (hc : c ≠ ',') (h : Guarded s) : Guarded (c :: s) :=
  ⟨fun heq => absurd heq hc, h⟩

theorem guarded_of_not_mem {s : Text} (h : ',' ∉ s) : Guarded s := by
  induction s with
  | nil => trivial
  | cons c s ih =>
    rw [List.mem_cons, not_or] at h
    exact guarded_cons (Ne.symm h.1) (ih h.2)

theorem guarded_append {s t : Text} (heven : quoteCount t % 2 = 0) (hs : Guarded s)
    (ht : Guarded t) : Guarded (s ++ t) := by
  induction s with
  | nil => exact ht
  | cons c s ih =>
    rw [List.cons_append]
    refine ⟨fun hc => ?_, ih hs.2⟩
    have hodd := hs.1 hc
    rw [quoteCount_append]
    omega

theorem splitItems_append_of_not_mem {a : Text} (h : ',' ∉ a) {s item : Text} {items : List Text}
    (hs : splitItems s = item :: items) : splitItems (a ++ s) = (a ++ item) :: items := by
  induction a with
  | nil => exact hs
  | cons c a ih =>
    rw [List.mem_cons, not_or] at h
    exact splitItems_keep (fun hc => absurd hc.symm h.1) (ih h.2)

theorem splitItems_append {a : Text} (h : Guarded a) {s item : Text} {items : List Text}
    (heven : quoteCount s % 2 = 0) (hs : splitItems s = item :: items) :
    splitItems (a ++ s) = (a ++ item) :: items := by
  induction a with
  | nil => exact hs
  | cons c a ih =>
    rw [List.cons_append]
    refine splitItems_keep (fun hc => ?_) (ih h.2)
    have hodd := h.1 hc
    rw [quoteCount_append]
    omega

theorem splitItems_of_guarded {a : Text} (h : Guarded a) : splitItems a = [a] := by
  have happ := splitItems_append h (s := []) rfl rfl
  rwa [List.append_nil] at happ

theorem splitItems_comma {a s : Text} (h : Guarded a) (hs : quoteCount s % 2 = 0) :
    splitItems (a ++ ',' :: s) = a :: splitItems s := by
  have happ := splitItems_append h (s := ',' :: s) hs (splitItems_cut hs)
  rwa [List.append_nil] at happ

theorem splitItems_concat_comma (s : Text) : splitItems (s ++ [',']) = splitItems s ++ [[]] := by
  induction s with
  | nil => rfl
  | cons c s ih =>
    have hcount : quoteCount (s ++ [',']) = quoteCount s := quoteCount_append s [',']
    rw [List.cons_append]
    obtain ⟨rfl, heven, heq⟩ | ⟨hodd, item, items, hs, heq⟩ := splitItems_cases c s
    · rw [splitItems_cut (by rw [hcount, heven]), ih, heq, List.cons_append]
    · rw [hs, List.cons_append] at ih
      rw [splitItems_keep (fun hc => by have hne := hodd hc; omega) ih, heq, List.cons_append]

theorem mem_of_mem_splitItems {s p : Text} (hp : p ∈ splitItems s) {c : Char} (hc : c ∈ p) :
    c ∈ s := by
  induction s generalizing p with
  | nil =>
    cases List.mem_singleton.mp hp
    cases hc
  | cons d s ih =>
    obtain ⟨-, -, heq⟩ | ⟨-, item, items, hs, heq⟩ := splitItems_cases d s
    · rw [heq] at hp
      obtain rfl | hp := List.mem_cons.mp hp
      · cases hc
      · exact List.mem_cons_of_mem d (ih hp hc)
    · rw [heq] at hp
      rw [hs] at ih
      obtain rfl | hp := List.mem_cons.mp hp
      · obtain rfl | hc := List.mem_cons.mp hc
        · exact List.mem_cons_self ..
        · exact List.mem_cons_of_mem d (ih (List.mem_cons_self ..) hc)
      · exact List.mem_cons_of_mem d (ih (List.mem_cons_of_mem item hp) hc)

theorem noComma_of_mem_splitItems {s p : Text} (h : '"' ∉ s) (hp : p ∈ splitItems s) :
    ',' ∉ p := by
  induction s generalizing p with
  | nil =>
    cases List.mem_singleton.mp hp
    exact List.not_mem_nil
  | cons d s ih =>
    have hs : '"' ∉ s := fun hmem => h (List.mem_cons_of_mem d hmem)
    have ih {p : Text} := @ih p hs
    obtain ⟨-, -, heq⟩ | ⟨hodd, item, items, hitems, heq⟩ := splitItems_cases d s
    · rw [heq] at hp
      obtain rfl | hp := List.mem_cons.mp hp
      · exact List.not_mem_nil
      · exact ih hp
    · have hd : ',' ≠ d := by
        rintro rfl
        exact hodd rfl (by rw [quoteCount, List.count_eq_zero.mpr hs])
      rw [heq] at hp
      rw [hitems] at ih
      obtain rfl | hp := List.mem_cons.mp hp
      · rw [List.mem_cons, not_or]
        exact ⟨hd, ih (List.mem_cons_self ..)⟩
      · exact ih (List.mem_cons_of_mem item hp)

section
variable {ps : List Text}

theorem join_singleton (i : Text) : Text.join [','] [i] = i := List.intercalate_singleton

theorem splitItems_append_comma {s : Text} (hs : quoteCount s % 2 = 0) (a : Text) :
    splitItems (a ++ ',' :: s) = splitItems a ++ splitItems s := by
  induction a with
  | nil => exact splitItems_cut hs
  | cons c a ih =>
    have hcount := quoteCount_append_comma a s
    rw [List.cons_append]
    rcases splitItems_cases c a with ⟨rfl, heven, heq⟩ | ⟨hodd, item, items, hitems, heq⟩
    · rw [splitItems_cut (by omega), ih, heq, List.cons_append]
    · have hodd' : c = ',' → quoteCount (a ++ ',' :: s) % 2 = 1 := fun hc => by
        have hne := hodd hc
        omega
      rw [hitems, List.cons_append] at ih
      rw [heq, splitItems_keep hodd' ih, List.cons_append]

theorem quoteCount_join (h : ∀ p ∈ ps, quoteCount p % 2 = 0) :
    quoteCount (Text.join [','] ps) % 2 = 0 := by
  induction ps with
  | nil => rfl
  | cons p ps ih =>
    have hp := h p (List.mem_cons_self ..)
    have hps := ih fun q hq => h q (List.mem_cons_of_mem p hq)
    by_cases hne : ps = []
    · rw [hne, join_singleton, hp]
    · rw [Text.join_cons _ _ hne, List.singleton_append, quoteCount_append_comma]
      omega

theorem splitItems_join (p : Text) (h : ∀ q ∈ ps, quoteCount q % 2 = 0) :
    splitItems (Text.join [','] (p :: ps)) = (p :: ps).flatMap splitItems := by
  induction ps generalizing p with
  | nil => rw [join_singleton, List.flatMap_singleton]
  | cons q ps ih =>
    have hps : ∀ r ∈ ps, quoteCount r % 2 = 0 := fun r hr => h r (List.mem_cons_of_mem q hr)
    rw [Text.join_cons _ _ (List.cons_ne_nil q ps), List.singleton_append,
      splitItems_append_comma (quoteCount_join h), ih q hps]
    exact List.flatMap_cons.symm

theorem trim_join (hne : ps ≠ []) (h : ∀ p ∈ ps, p ≠ [] ∧ Text.trim p = p) :
    Text.join [','] ps ≠ [] ∧ Text.trim (Text.join [','] ps) = Text.join [','] ps := by
  induction ps with
  | nil => exact absurd rfl hne
  | cons p ps ih =>
    obtain ⟨hp, htrim⟩ := h p (List.mem_cons_self ..)
    by_cases hps : ps = []
    · rw [hps, join_singleton]
      exact ⟨hp, htrim⟩
    · obtain ⟨hjoin, htrims⟩ := ih hps fun q hq => h q (List.mem_cons_of_mem p hq)
      rw [Text.join_cons [','] p hps, List.singleton_append]
      exact ⟨List.append_ne_nil_of_left_ne_nil hp _,
        Text.trim_append_cons hp htrim ',' hjoin htrims⟩

end

theorem items_bracketed (content : Text) : items (bracketed content) =
    ((splitItems (Text.trim content)).map Text.trim).filter (!·.isEmpty) := by
  have hcontent : ((bracketed content).drop 1).dropLast = content := by
    rw [bracketed, List.drop_one, List.tail_cons, List.dropLast_concat]
  rw [items, hcontent]

structure IsPiece (p : Text) : Prop where
  ne_nil : p ≠ []
  trim_eq : Text.trim p = p
  noComma : ',' ∉ p
  plain : Json.IsPlainText p

theorem IsPiece.noQuote {p : Text} (h : IsPiece p) : '"' ∉ p := h.plain.noQuote

theorem isPlainText_bracketed {content : Text} (h : Json.IsPlainText content) :
    Json.IsPlainText (bracketed content) := by
  intro c hc
  simp only [bracketed, List.mem_cons, List.mem_append, List.not_mem_nil, or_false] at hc
  obtain rfl | hc | rfl := hc
  · decide
  · exact h c hc
  · decide

theorem mem_content {literal : Text} {c : Char} (h : c ∈ Text.trim (literal.drop 1).dropLast) :
    c ∈ literal :=
  (((Text.trim_sublist _).trans (List.dropLast_sublist _)).trans (List.drop_sublist 1 _)).mem h

theorem isPiece_of_mem_items {literal p : Text} (h : Json.IsPlainText literal)
    (hp : p ∈ items literal) : IsPiece p := by
  rw [items, List.mem_filter, List.mem_map] at hp
  obtain ⟨⟨q, hq, rfl⟩, hne⟩ := hp
  have hquote : '"' ∉ Text.trim (literal.drop 1).dropLast := fun hmem =>
    h.noQuote (mem_content hmem)
  have hsub {c : Char} (hc : c ∈ Text.trim q) : c ∈ q := (Text.trim_sublist q).mem hc
  exact ⟨by simpa using hne, Text.trim_trim q,
    fun hmem => noComma_of_mem_splitItems hquote hq (hsub hmem),
    fun c hc => h c (mem_content (mem_of_mem_splitItems hq (hsub hc)))⟩

inductive IsRepaired : Text → Prop
  | quoted {p : Text} : IsPiece p → IsRepaired ('"' :: (p ++ ['"']))
  | bare {p : Text} : IsPiece p → isLink p = false → IsRepaired p

theorem quoteItem_of_isPiece {p : Text} (h : IsPiece p) :
    quoteItem p = if isLink p then '"' :: (p ++ ['"']) else p := by
  have hquoted : isQuoted p = false := by
    have hhead : p.head? ≠ some '"' := fun hhead => h.noQuote (List.mem_of_head? hhead)
    rw [isQuoted, beq_false_of_ne hhead, Bool.false_and]
  rw [quoteItem, hquoted, if_neg Bool.false_ne_true, Text.replaceAll_of_not_mem _ h.noQuote]
  rfl

theorem isRepaired_quoteItem {p : Text} (h : IsPiece p) : IsRepaired (quoteItem p) := by
  rw [quoteItem_of_isPiece h]
  cases hlink : isLink p with
  | true => exact .quoted h
  | false => exact .bare h hlink

namespace IsRepaired

variable {i : Text}

theorem ne_nil (h : IsRepaired i) : i ≠ [] := by
  cases h with
  | quoted _ => exact List.cons_ne_nil _ _
  | bare hp _ => exact hp.ne_nil

theorem trim_eq (h : IsRepaired i) : Text.trim i = i := by
  cases h with
  | @quoted p _ =>
    have hlast : ('"' :: (p ++ ['"'])).getLast? = some '"' := by
      rw [← List.cons_append, List.getLast?_concat]
    exact Text.trim_of_ends rfl (by decide) hlast (by decide)
  | bare hp _ => exact hp.trim_eq

theorem noComma (h : IsRepaired i) : ',' ∉ i := by
  cases h with
  | quoted hp => simp [hp.noComma]
  | bare hp _ => exact hp.noComma

theorem quoteCount_even (h : IsRepaired i) : quoteCount i % 2 = 0 := by
  cases h with
  | quoted hp =>
    have hzero := List.count_eq_zero.mpr hp.noQuote
    rw [quoteCount, List.count_cons_self, List.count_append, hzero]
    rfl
  | bare hp _ => rw [quoteCount, List.count_eq_zero.mpr hp.noQuote]

theorem quoteItem_eq (h : IsRepaired i) : quoteItem i = i := by
  cases h with
  | @quoted p hp =>
    have hlast : ('"' :: (p ++ ['"'])).getLast? = some '"' := by
      rw [← List.cons_append, List.getLast?_append]
      rfl
    rw [quoteItem, isQuoted, hlast]
    rfl
  | bare hp hlink =>
    rw [quoteItem_of_isPiece hp, hlink]
    rfl

end IsRepaired

section
variable {is : List Text}

def literalOf (is : List Text) : Text := bracketed (Text.join [','] is)

theorem repair_eq (literal : Text) :
    repair literal = literalOf ((items literal).map quoteItem) := by
  rw [repair]
  split
  · next heq => rw [heq]; rfl
  · rfl

theorem join_isRepaired (hne : is ≠ []) (h : ∀ i ∈ is, IsRepaired i) :
    Text.join [','] is ≠ [] ∧ Text.trim (Text.join [','] is) = Text.join [','] is ∧
      splitItems (Text.join [','] is) = is := by
  obtain ⟨hjoin, htrim⟩ := trim_join hne fun i hi => ⟨(h i hi).ne_nil, (h i hi).trim_eq⟩
  refine ⟨hjoin, htrim, ?_⟩
  obtain ⟨i, is, rfl⟩ := List.exists_cons_of_ne_nil hne
  have hpiece : ∀ j ∈ i :: is, splitItems j = [j] := fun j hj =>
    splitItems_of_guarded (guarded_of_not_mem (h j hj).noComma)
  rw [splitItems_join i fun j hj => (h j (List.mem_cons_of_mem i hj)).quoteCount_even,
    List.flatMap_congr hpiece, List.flatMap_singleton']

theorem items_literalOf (h : ∀ i ∈ is, IsRepaired i) : items (literalOf is) = is := by
  rw [literalOf, items_bracketed]
  by_cases hne : is = []
  · rw [hne]
    rfl
  · obtain ⟨-, htrim, hsplit⟩ := join_isRepaired hne h
    have hmap : is.map Text.trim = is := by
      rw [List.map_congr_left fun i hi => (h i hi).trim_eq, List.map_id']
    have hfilter : is.filter (!·.isEmpty) = is :=
      List.filter_eq_self.mpr fun i hi => by simp [(h i hi).ne_nil]
    rw [htrim, hsplit, hmap, hfilter]

theorem repair_literalOf (h : ∀ i ∈ is, IsRepaired i) : repair (literalOf is) = literalOf is := by
  rw [repair_eq, items_literalOf h, List.map_congr_left fun i hi => (h i hi).quoteItem_eq,
    List.map_id']

theorem normalize_literalOf {t : Text} (h : ∀ i ∈ is, IsRepaired i)
    (ht : normalize (literalOf is) = .ok t) : t = literalOf is := by
  by_cases hne : is = []
  · subst hne
    cases ht
    rfl
  · obtain ⟨hne, htrim, -⟩ := join_isRepaired hne h
    obtain ⟨c, s, heq⟩ := List.exists_cons_of_ne_nil hne
    have hhead : (Text.join [','] is).head? = some c := by rw [heq]; rfl
    rw [heq] at htrim
    have hfilter := filter_ne_nil hhead (Text.head_of_trim_eq htrim)
    cases hread : Json.read (literalOf is) with
    | ok v =>
      rw [literalOf, normalize_of_read hread hfilter] at ht
      cases ht
      rfl
    | error f =>
      rw [literalOf, normalize_of_error hfilter hread] at ht
      split at ht
      · cases ht
      · cases ht
        exact repair_literalOf h

theorem isRepaired_of_mem_repair {literal : Text} (h : Json.IsPlainText literal) :
    ∀ i ∈ (items literal).map quoteItem, IsRepaired i := by
  intro i hi
  obtain ⟨p, hp, rfl⟩ := List.mem_map.mp hi
  exact isRepaired_quoteItem (isPiece_of_mem_items h hp)

theorem IsRepaired.of_readValue {i t u after : Text} {n : Nat} (h : IsRepaired i)
    (hread : Json.readValue n (i ++ u) = .ok (.text t, after)) : ',' ∉ t ∧ after = u := by
  cases h with
  | @quoted p hp =>
    have hwritten : '"' :: (p ++ ['"']) = Json.writeText p :=
      (Json.writeText_of_isPlain hp.plain).symm
    rw [hwritten, Json.readValue_writeText] at hread
    cases hread
    exact ⟨hp.noComma, rfl⟩
  | bare hp _ =>
    obtain ⟨c, cs, rfl⟩ := List.exists_cons_of_ne_nil hp.ne_nil
    cases Json.head?_of_readValue hread
    exact absurd (List.mem_cons_self ..) hp.noQuote

theorem skipSpace_join (hne : is ≠ []) (h : ∀ i ∈ is, IsRepaired i) (rest : Text) :
    Json.skipSpace (Text.join [','] is ++ rest) = Text.join [','] is ++ rest := by
  obtain ⟨hne, htrim, -⟩ := join_isRepaired hne h
  obtain ⟨c, s, heq⟩ := List.exists_cons_of_ne_nil hne
  rw [heq] at htrim ⊢
  exact Json.skipSpace_cons (Text.head_of_trim_eq htrim) (s ++ rest)

theorem noComma_of_readItems {n fuel : Nat} {rest after : Text} {ts : List Text} (hne : is ≠ [])
    (h : ∀ i ∈ is, IsRepaired i)
    (hread : Json.readItems (Json.readValue n) fuel (Text.join [','] is ++ ']' :: rest) =
      .ok (ts.map .text, after)) : ∀ t ∈ ts, ',' ∉ t := by
  -- By induction on the items: the reader of values leaves off where the next item starts.
  induction is generalizing fuel ts with
  | nil => exact absurd rfl hne
  | cons i is ih =>
    have hi := h i (List.mem_cons_self ..)
    obtain ⟨k, v, u, rfl, hv, hcases⟩ := Json.readItems_cases hread
    cases ts with
    | nil => exact fun t ht => absurd ht List.not_mem_nil
    | cons t ts =>
      have hvt : v = .text t := by
        obtain ⟨-, heq⟩ | ⟨_, _, -, -, heq⟩ := hcases
        · exact (List.cons.inj heq).1.symm
        · exact (List.cons.inj heq).1.symm
      rw [hvt] at hv
      by_cases his : is = []
      · rw [his, join_singleton] at hv
        obtain ⟨ht, rfl⟩ := hi.of_readValue hv
        obtain ⟨-, heq⟩ | ⟨_, _, hskip, -, -⟩ := hcases
        · have hts : ts = [] := List.map_eq_nil_iff.mp (List.cons.inj heq).2
          rw [hts]
          exact fun t' ht' => List.mem_singleton.mp ht' ▸ ht
        · cases hskip
      · rw [Text.join_cons [','] i his, List.append_assoc, List.append_assoc,
          List.singleton_append] at hv
        obtain ⟨ht, rfl⟩ := hi.of_readValue hv
        obtain ⟨hskip, -⟩ | ⟨w, ws, hskip, hws, heq⟩ := hcases
        · cases hskip
        · have his' : ∀ j ∈ is, IsRepaired j := fun j hj => h j (List.mem_cons_of_mem i hj)
          cases (Json.skipSpace_cons (by decide) _).symm.trans hskip
          rw [skipSpace_join his his', ← (List.cons.inj heq).2] at hws
          exact List.forall_mem_cons.mpr ⟨ht, ih his his' hws⟩

theorem noComma_of_read {ts : List Text} (h : ∀ i ∈ is, IsRepaired i)
    (hread : Json.read (literalOf is) = .ok (.list (ts.map .text))) : ∀ t ∈ ts, ',' ∉ t := by
  obtain ⟨after, hvalue, -⟩ := Json.exists_readValue_of_read hread
  have harray : Json.readArray (Json.readValue (Json.maxDepth - 1)) (Text.join [','] is ++ [']']) =
      .ok (.list (ts.map .text), after) := hvalue
  obtain ⟨-, hnil⟩ | ⟨fuel, vs, hitems, hvs⟩ := Json.readArray_cases harray
  · rw [List.map_eq_nil_iff.mp (Value.list.inj hnil)]
    exact fun t ht => absurd ht List.not_mem_nil
  · cases hvs
    by_cases hne : is = []
    · subst hne
      -- The closing bracket is no value.
      obtain ⟨_, v, u, rfl, hv, -⟩ := Json.readItems_cases hitems
      cases hv
    · rw [skipSpace_join hne h] at hitems
      exact noComma_of_readItems hne h hitems

end

theorem read_texts (ss : List Text) :
    Json.read (literalOf (ss.map Json.writeText)) = .ok (.list (ss.map .text)) := by
  by_cases hne : ss = []
  · rw [hne]
    rfl
  · exact Json.read_of_written (Json.written_list (Json.writtenItems_texts _ hne))

theorem normalize_texts (ss : List Text) :
    normalize (literalOf (ss.map Json.writeText)) = .ok (literalOf (ss.map Json.writeText)) := by
  by_cases hne : ss = []
  · rw [hne]
    exact normalize_of_blank rfl
  · obtain ⟨c, u, heq, -, hc, -⟩ := (Json.writtenItems_texts 0 hne).starts
    exact normalize_of_read (read_texts ss) (filter_ne_nil (heq ▸ List.head?_cons ..) hc)

end LitNote.ArrayLiteral
