import LitNote.Proofs.Json.Depth
import LitNote.Proofs.Json.Shape
import LitNote.Yaml.Node

/-!
Values that are read from JSON.  Main statement: they have no other parts than JSON can hold, and
their numbers are not too long.
-/

namespace LitNote

namespace Json

inductive IsRead : Value → Prop
  | null : IsRead .null
  | bool (b : Bool) : IsRead (.bool b)
  | int {n : Int} : Integer.tooLong n = false → IsRead (.int n)
  | float (x : Binary64) : IsRead (.float x)
  | text (s : Text) : IsRead (.text s)
  | list {xs : List Value} : (∀ x ∈ xs, IsRead x) → IsRead (.list xs)
  | record {es : Record} : (∀ e ∈ es, ∃ s, e.1 = .text s) → (∀ e ∈ es, IsRead e.2) →
      IsRead (.record es)

theorem isRead_put {r : Record} {k v : Value} (hr : IsRead (.record r))
    (hk : ∃ s, k = .text s) (hv : IsRead v) : IsRead (.record (r.put k v)) := by
  obtain ⟨hkeys, hvalues⟩ : (∀ e ∈ r, ∃ s, e.1 = .text s) ∧ ∀ e ∈ r, IsRead e.2 := by
    cases hr with
    | record hkeys hvalues => exact ⟨hkeys, hvalues⟩
  suffices h : ∀ e ∈ r.put k v, (∃ s, e.1 = .text s) ∧ IsRead e.2 from
    .record (fun e he => (h e he).1) fun e he => (h e he).2
  clear hr
  induction r with
  | nil => exact List.forall_mem_singleton.mpr ⟨hk, hv⟩
  | cons f r ih =>
    rw [List.forall_mem_cons] at hkeys hvalues
    rw [Record.put]
    split
    · exact List.forall_mem_cons.mpr
        ⟨⟨hkeys.1, hv⟩, fun e he => ⟨hkeys.2 e he, hvalues.2 e he⟩⟩
    · exact List.forall_mem_cons.mpr ⟨⟨hkeys.1, hvalues.1⟩, ih hkeys.2 hvalues.2⟩

theorem isRead_ofEntries {es : Record} (h : ∀ e ∈ es, (∃ s, e.1 = .text s) ∧ IsRead e.2) :
    IsRead (.record (Record.ofEntries es)) := by
  suffices hupdate : ∀ r, IsRead (.record r) → IsRead (.record (Record.update r es)) from
    hupdate [] (.record (List.forall_mem_nil _) (List.forall_mem_nil _))
  induction es with
  | nil => exact fun r hr => hr
  | cons e es ih =>
    rw [List.forall_mem_cons] at h
    exact fun r hr => ih h.2 _ (isRead_put hr h.1.1 h.1.2)

variable {s rest : Text} {v : Value}

section
variable {value : Text → Result (Value × Text)}
  (hvalue : ∀ s v rest, value s = .ok (v, rest) → IsRead v)
include hvalue

theorem isRead_of_readItems {fuel : Nat} {vs : List Value}
    (h : readItems value fuel s = .ok (vs, rest)) : ∀ v ∈ vs, IsRead v := by
  induction fuel generalizing s vs with
  | zero => cases h
  | succ fuel ih =>
    obtain ⟨_, v, after, hfuel, hv, hcases⟩ := readItems_cases h
    cases hfuel
    have hv := hvalue s v after hv
    obtain ⟨-, rfl⟩ | ⟨t, ws, -, hws, rfl⟩ := hcases
    · exact List.forall_mem_singleton.mpr hv
    · exact List.forall_mem_cons.mpr ⟨hv, ih hws⟩

theorem isRead_of_readArray (h : readArray value s = .ok (v, rest)) : IsRead v := by
  obtain ⟨-, rfl⟩ | ⟨fuel, vs, hvs, rfl⟩ := readArray_cases h
  · exact .list (List.forall_mem_nil _)
  · exact .list (isRead_of_readItems hvalue hvs)

theorem isRead_of_readEntry {e : Value × Value} (h : readEntry value s = .ok (e, rest)) :
    (∃ key, e.1 = .text key) ∧ IsRead e.2 := by
  rcases readEntry_cases value s with ⟨f, hf, -⟩ | ⟨key, t, -, heq⟩
  · rw [hf] at h
    cases h
  · rw [heq] at h
    obtain ⟨⟨v, after⟩, hv, h⟩ := Failure.bind_eq_ok_iff.mp h
    cases h
    exact ⟨⟨key, rfl⟩, hvalue t v rest hv⟩

theorem isRead_of_readEntries {fuel : Nat} {es : Record}
    (h : readEntries value fuel s = .ok (es, rest)) :
    ∀ e ∈ es, (∃ key, e.1 = .text key) ∧ IsRead e.2 := by
  induction fuel generalizing s es with
  | zero => cases h
  | succ fuel ih =>
    rw [readEntries] at h
    obtain ⟨⟨e, after⟩, he, h⟩ := Failure.bind_eq_ok_iff.mp h
    have he := isRead_of_readEntry hvalue he
    dsimp only at h
    split at h
    · cases h
      exact List.forall_mem_singleton.mpr he
    · obtain ⟨⟨fs, u⟩, hfs, h⟩ := Failure.bind_eq_ok_iff.mp h
      cases h
      exact List.forall_mem_cons.mpr ⟨he, ih hfs⟩
    · cases h

theorem isRead_of_readObject (h : readObject value s = .ok (v, rest)) : IsRead v := by
  rw [readObject] at h
  split at h
  · cases h
    exact .record (List.forall_mem_nil _) (List.forall_mem_nil _)
  · obtain ⟨⟨es, after⟩, hes, h⟩ := Failure.bind_eq_ok_iff.mp h
    cases h
    exact isRead_ofEntries (isRead_of_readEntries hvalue hes)

end

theorem isRead_of_finishNumber {start whole after : Text} {negative : Bool}
    (hwhole : AreDigits whole) (h : finishNumber start negative whole after = .ok (v, rest)) :
    IsRead v := by
  rw [finishNumber] at h
  dsimp only at h
  split at h
  · split at h
    · cases h
    · next hlength =>
      have hshort : Integer.tooLong (digitsValue whole) = false :=
        tooLong_spelledBy hwhole (Nat.le_of_not_lt hlength)
      cases h
      refine .int ?_
      cases negative with
      | true =>
        rw [if_pos rfl, Integer.tooLong, Int.natAbs_neg]
        exact hshort
      | false => exact hshort
  · cases h
    exact .float _

theorem isRead_of_readNumber (h : readNumber s = .ok (v, rest)) : IsRead v := by
  have hunsigned {start t : Text} {negative : Bool}
      (h : readUnsigned start negative t = .ok (v, rest)) : IsRead v := by
    rw [readUnsigned.eq_def] at h
    split at h
    · cases h
    · exact isRead_of_finishNumber (List.forall_mem_singleton.mpr (by decide)) h
    · split at h
      · exact isRead_of_finishNumber (fun c hc => List.mem_takeWhile_imp hc) h
      · cases h
  rw [readNumber.eq_def] at h
  split at h
  · exact hunsigned h
  · exact hunsigned h

theorem isRead_of_readScalar (h : readScalar s = .ok (v, rest)) : IsRead v := by
  rw [readScalar] at h
  split at h
  · next word w hfind =>
    have hwords : ∀ e ∈ words, IsRead e.2 := by
      intro e he
      simp only [words, List.mem_cons, List.not_mem_nil, or_false] at he
      obtain rfl | rfl | rfl | rfl | rfl | rfl := he
      · exact .null
      · exact .bool true
      · exact .bool false
      · exact .float _
      · exact .float _
      · exact .float _
    cases h
    exact hwords _ (List.mem_of_find?_eq_some hfind)
  · exact isRead_of_readNumber h

theorem isRead_of_flat {n : Nat} {c : Char} (hc : isOpening c = false)
    (h : readValue n (c :: s) = .ok (v, rest)) : IsRead v := by
  by_cases hquote : c = '"'
  · subst hquote
    have htext : readValue n ('"' :: s) = readString s >>= fun r => pure (.text r.1, r.2) := by
      cases n <;> rfl
    rw [htext] at h
    obtain ⟨⟨t, after⟩, -, h⟩ := Failure.bind_eq_ok_iff.mp h
    cases h
    exact .text t
  · rw [isOpening, Bool.or_eq_false_iff, beq_eq_false_iff_ne, beq_eq_false_iff_ne] at hc
    rw [readValue_eq_readScalar n hquote hc.1 hc.2] at h
    exact isRead_of_readScalar h

theorem isRead_of_readValue {n : Nat} (h : readValue n s = .ok (v, rest)) : IsRead v := by
  -- By induction on the depth: what stands within a container is read at a lower one.
  induction n generalizing s v rest with
  | zero =>
    cases s with
    | nil => cases h
    | cons c t =>
      cases hc : isOpening c with
      | false => exact isRead_of_flat hc h
      | true =>
        rcases tooDeep_opening hc t with ⟨f, hf, -⟩
        rw [hf] at h
        cases h
  | succ n ih =>
    cases s with
    | nil => cases h
    | cons c t =>
      cases hc : isOpening c with
      | false => exact isRead_of_flat hc h
      | true =>
        rcases readValue_opening n hc t with heq | heq
        · exact isRead_of_readArray (fun s v rest => ih) (heq ▸ h)
        · exact isRead_of_readObject (fun s v rest => ih) (heq ▸ h)

theorem isRead_of_read (h : read s = .ok v) : IsRead v := by
  obtain ⟨rest, hrest, -⟩ := exists_readValue_of_read h
  exact isRead_of_readValue hrest

end Json

end LitNote
