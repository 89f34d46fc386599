import LitNote.Proofs.Value.Equality

/-!
Records to which entries are added.
-/

namespace LitNote

theorem Value.sameKey_text (s t : Text) : sameKey (.text s) (.text t) = (s == t) := by
  rw [sameKey]

theorem Value.eq_text_of_sameKey {s : Text} {v : Value} (h : (Value.text s).sameKey v = true) :
    v = .text s := by
  cases v with
  | text t =>
    rw [sameKey_text, beq_iff_eq] at h
    rw [h]
  | _ => simp [sameKey, number?] at h

theorem Value.sameKey_text_congr {k key : Value} (h : k.sameKey key = true) (name : Text) :
    k.sameKey (.text name) = key.sameKey (.text name) := by
  cases k with
  | text s =>
    cases key with
    | text t =>
      rw [sameKey_text, beq_iff_eq] at h
      rw [h]
    | _ => simp [sameKey, number?] at h
  | _ =>
    cases key with
    | text t => simp [sameKey, number?] at h
    | _ => simp [sameKey, number?]

namespace Record

theorem mem_of_get? {r : Record} {key : Text} {v : Value} (h : r.get? key = some v) :
    (.text key, v) ∈ r := by
  induction r with
  | nil => cases h
  | cons e r ih =>
    rw [get?.eq_def] at h
    split at h
    · next heq => cases heq
    · next k w rest heq =>
      cases heq
      split at h
      · next hk =>
        cases h
        rw [beq_iff_eq] at hk
        exact hk ▸ List.mem_cons_self ..
      · exact List.mem_cons_of_mem _ (ih h)
    · next heq =>
      cases heq
      exact List.mem_cons_of_mem _ (ih h)

theorem put_of_fresh {r : Record} {key : Value} (h : ∀ e ∈ r, e.1.sameKey key = false)
    (v : Value) : r.put key v = r ++ [(key, v)] := by
  induction r with
  | nil => rfl
  | cons e r ih =>
    have ih := ih fun e' he' => h e' (List.mem_cons_of_mem e he')
    rw [put, h e (List.mem_cons_self ..), if_neg Bool.false_ne_true, ih]
    rfl

theorem get?_cons_of_not_sameKey {key : Value} {name : Text} (h : key.sameKey (.text name) = false)
    (v : Value) (r : Record) : get? ((key, v) :: r) name = get? r name := by
  cases key with
  | text s =>
    rw [Value.sameKey_text] at h
    rw [get?, h, if_neg Bool.false_ne_true]
  | _ => rfl

theorem get?_put_of_not_sameKey {r : Record} {key : Value} {name : Text}
    (h : key.sameKey (.text name) = false) (v : Value) : (r.put key v).get? name = r.get? name := by
  induction r with
  | nil =>
    rw [put, get?_cons_of_not_sameKey h]
  | cons e r ih =>
    obtain ⟨k, w⟩ := e
    rw [put]
    split
    · next hsame =>
      have hk : k.sameKey (.text name) = false := by rw [Value.sameKey_text_congr hsame, h]
      rw [get?_cons_of_not_sameKey hk, get?_cons_of_not_sameKey hk]
    · cases k with
      | text s => rw [get?, get?, ih]
      | _ => exact ih

theorem get?_put (r : Record) (key v : Value) (name : Text) :
    (r.put key v).get? name = (get? [(key, v)] name).or (r.get? name) := by
  cases hsame : key.sameKey (.text name) with
  | false =>
    rw [get?_put_of_not_sameKey hsame, get?_cons_of_not_sameKey hsame]
    rfl
  | true =>
    rw [Value.sameKey_comm] at hsame
    rw [Value.eq_text_of_sameKey hsame, get?_put_self, get?, beq_self_eq_true, if_pos rfl]
    rfl

theorem update_ofFields_cons (r : Record) (key : String) (v : Value)
    (fields : List (String × Value)) : r.update (ofFields ((key, v) :: fields)) =
      (r.put (.text key.toList) v).update (ofFields fields) := rfl

theorem get?_update_other {key : Text} {fields : List (String × Value)} (r : Record)
    (h : ∀ f ∈ fields, f.1.toList ≠ key) : (r.update (ofFields fields)).get? key = r.get? key := by
  induction fields generalizing r with
  | nil => rfl
  | cons f fields ih =>
    have hf : key ≠ f.1.toList := (h f (List.mem_cons_self ..)).symm
    rw [update_ofFields_cons, ih _ fun g hg => h g (List.mem_cons_of_mem f hg),
      get?_put_of_ne _ hf]

theorem get?_cons_self (name : Text) (v : Value) (r : Record) :
    get? ((.text name, v) :: r) name = some v := by
  rw [get?, beq_self_eq_true, if_pos rfl]

theorem get?_cons_of_ne {key : Value} {name : Text} (h : key ≠ .text name) (v : Value)
    (r : Record) : get? ((key, v) :: r) name = get? r name := by
  refine get?_cons_of_not_sameKey (Bool.eq_false_iff.mpr fun hsame => h ?_) v r
  rw [Value.sameKey_comm] at hsame
  exact Value.eq_text_of_sameKey hsame

theorem get?_eq_none {r : Record} {name : Text} (h : .text name ∉ r.map Prod.fst) :
    r.get? name = none := by
  induction r with
  | nil => rfl
  | cons e r ih =>
    rw [List.map_cons, List.mem_cons, not_or] at h
    rw [get?_cons_of_ne (Ne.symm h.1), ih h.2]

theorem get?_update {other : Record} (h : (other.map Prod.fst).Nodup) (r : Record) (name : Text) :
    (r.update other).get? name = (other.get? name).or (r.get? name) := by
  induction other generalizing r with
  | nil => rfl
  | cons e other ih =>
    obtain ⟨k, v⟩ := e
    rw [List.map_cons, List.nodup_cons] at h
    have hcons : r.update ((k, v) :: other) = (r.put k v).update other := rfl
    rw [hcons, ih h.2, get?_put]
    by_cases hk : k = .text name
    · rw [get?_eq_none (hk ▸ h.1), hk, get?_cons_self, get?_cons_self]
      rfl
    · rw [get?_cons_of_ne hk, get?_cons_of_ne hk]
      rfl

theorem get?_update_of_nodup {fields : List (String × Value)}
    (h : (fields.map fun f => f.1.toList).Nodup) (r : Record) (key : Text) :
    (r.update (ofFields fields)).get? key = ((ofFields fields).get? key).or (r.get? key) := by
  have hkeys : (ofFields fields).map Prod.fst = (fields.map fun f => f.1.toList).map .text := by
    rw [ofFields, List.map_map, List.map_map]
    rfl
  refine get?_update ?_ r key
  rw [hkeys]
  exact List.pairwise_map.mpr (h.imp fun hne heq => hne (Value.text.inj heq))

theorem get?_update_ofFields {key : String} {v : Value} {before after : List (String × Value)}
    (r : Record) (h : ∀ f ∈ after, f.1.toList ≠ key.toList) :
    (r.update (ofFields (before ++ (key, v) :: after))).get? key.toList = some v := by
  induction before generalizing r with
  | nil =>
    rw [List.nil_append, update_ofFields_cons, get?_update_other _ h, get?_put_self]
  | cons f before ih => exact ih _

theorem get?_update_of_mem {fields : List (String × Value)} {key : String} {v : Value} (r : Record)
    (h : (fields.map fun f => f.1.toList).Nodup) (hmem : (key, v) ∈ fields) :
    (r.update (ofFields fields)).get? key.toList = some v := by
  obtain ⟨before, after, rfl⟩ := List.append_of_mem hmem
  rw [List.map_append, List.map_cons, List.nodup_append, List.nodup_cons] at h
  refine get?_update_ofFields r fun f hf heq => h.2.1.1 ?_
  rw [← heq]
  exact List.mem_map_of_mem hf

end Record

inductive Value.IsName : Value → Prop
  | text (s : Text) : IsName (.text s)
  | bytes (octets : List UInt8) : IsName (.bytes octets)

theorem Value.IsName.sameKey_iff {name : Value} (h : name.IsName) (k : Value) :
    k.sameKey name = true ↔ k = name := by
  cases h with
  | text s =>
    refine ⟨fun hsame => ?_, ?_⟩
    · rw [Value.sameKey_comm] at hsame
      exact Value.eq_text_of_sameKey hsame
    · rintro rfl
      rw [Value.sameKey_text, beq_self_eq_true]
  | bytes octets => cases k <;> simp [sameKey, number?]

namespace Record

theorem lookup_cons (k v : Value) (r : Record) (name : Value) :
    lookup ((k, v) :: r) name = if k.sameKey name then some v else r.lookup name := by
  rw [lookup, List.find?_cons]
  dsimp only
  cases k.sameKey name <;> rfl

theorem lookup_text (r : Record) (name : Text) : r.lookup (.text name) = r.get? name := by
  induction r with
  | nil => rfl
  | cons e r ih =>
    obtain ⟨k, v⟩ := e
    rw [lookup_cons, ih]
    cases k with
    | text s => rw [Value.sameKey_text, get?]
    | _ => simp [Value.sameKey, Value.number?, get?]

section
variable {name : Value}

theorem lookup_put_self (h : name.IsName) (r : Record) (v : Value) :
    (r.put name v).lookup name = some v := by
  have hself : name.sameKey name = true := (h.sameKey_iff name).mpr rfl
  induction r with
  | nil => rw [put, lookup_cons, hself, if_pos rfl]
  | cons e r ih =>
    obtain ⟨k, w⟩ := e
    rw [put]
    split
    · next hk => rw [lookup_cons, hk, if_pos rfl]
    · next hk => rw [lookup_cons, if_neg hk, ih]

theorem lookup_put_of_not_sameKey (h : name.IsName) {key : Value}
    (hkey : key.sameKey name = false) (r : Record) (v : Value) :
    (r.put key v).lookup name = r.lookup name := by
  induction r with
  | nil =>
    rw [put, lookup_cons, hkey, if_neg Bool.false_ne_true]
  | cons e r ih =>
    obtain ⟨k, w⟩ := e
    rw [put]
    split
    · next hk =>
      have hother : ¬k.sameKey name = true := by
        rw [h.sameKey_iff]
        rintro rfl
        rw [Value.sameKey_comm, hkey] at hk
        cases hk
      rw [lookup_cons, lookup_cons, if_neg hother, if_neg hother]
    · rw [lookup_cons, lookup_cons, ih]

end

/-- No key comes twice, as is so in a record that was put together entry by entry. -/
def HasDistinctKeys (r : Record) : Prop := r.Pairwise fun e f => e.1.sameKey f.1 = false

section
variable {r other : Record}

theorem update_of_fresh (h : HasDistinctKeys (r ++ other)) : r.update other = r ++ other := by
  induction other generalizing r with
  | nil => exact (List.append_nil r).symm
  | cons e other ih =>
    obtain ⟨k, v⟩ := e
    have hfresh : ∀ e ∈ r, e.1.sameKey k = false := fun e he =>
      (List.pairwise_append.mp h).2.2 e he _ (List.mem_cons_self ..)
    have hput : r.update ((k, v) :: other) = (r.put k v).update other := rfl
    rw [List.append_cons] at h
    rw [hput, put_of_fresh hfresh, ih h, List.append_assoc, List.singleton_append]

theorem foldl_update_of_fresh {rs : List Record} (h : HasDistinctKeys (r ++ rs.flatten)) :
    rs.foldl update r = r ++ rs.flatten := by
  induction rs generalizing r with
  | nil => exact (List.append_nil r).symm
  | cons other rs ih =>
    rw [List.flatten_cons, ← List.append_assoc] at h
    have hother : HasDistinctKeys (r ++ other) := (List.pairwise_append.mp h).1
    rw [List.foldl_cons, update_of_fresh hother, ih h, List.flatten_cons, List.append_assoc]

theorem hasDistinctKeys_of_texts (keys : List Text) (h : keys.Nodup)
    (hr : r.map Prod.fst = keys.map .text) : HasDistinctKeys r := by
  have hkeys : (r.map Prod.fst).Pairwise fun k l => k.sameKey l = false := by
    rw [hr]
    refine List.pairwise_map.mpr (h.imp fun hne => ?_)
    rw [Value.sameKey_text]
    exact beq_false_of_ne hne
  exact List.pairwise_map.mp hkeys

theorem get?_of_mem (h : HasDistinctKeys r) {key : Text} {v : Value} (hmem : (.text key, v) ∈ r) :
    r.get? key = some v := by
  induction r with
  | nil => cases hmem
  | cons e r ih =>
    obtain ⟨hhead, htail⟩ := List.pairwise_cons.mp h
    rcases List.mem_cons.mp hmem with rfl | hmem
    · exact get?_cons_self key v r
    · rw [get?_cons_of_not_sameKey (hhead _ hmem)]
      exact ih htail hmem

end

end Record

end LitNote
