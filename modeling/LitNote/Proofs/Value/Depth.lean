import LitNote.Proofs.Failure
import LitNote.Proofs.Text.Parts
import LitNote.Value.Plain

/-!
How deep values nest, and the room that their JSON form needs.
-/

namespace LitNote

namespace Stack

variable {α : Type} {calls left : Nat} {go : Nat → Except Failure α}

theorem descend_eq_ok_iff {a : α} :
    descend calls left go = .ok a ↔ calls ≤ left ∧ go (left - calls) = .ok a := by
  rcases Nat.lt_or_ge left calls with h | h
  · rw [descend_of_lt h]
    refine ⟨fun he => ?_, fun he => absurd he.1 (Nat.not_le.mpr h)⟩
    cases he
  · rw [descend_of_le h, and_iff_right h]

theorem exists_descend_iff {β : Type} {f : α → β} :
    (∃ b, descend calls left (fun room => (go room).map f) = .ok b) ↔
      calls ≤ left ∧ ∃ a, go (left - calls) = .ok a := by
  simp only [descend_eq_ok_iff, Failure.map_eq_ok_iff]
  constructor
  · rintro ⟨-, h, a, ha, -⟩
    exact ⟨h, a, ha⟩
  · rintro ⟨h, a, ha⟩
    exact ⟨f a, h, a, ha, rfl⟩

theorem failsOnly_descend {P : Failure → Prop} (hdeep : left < calls → P .tooDeep)
    (hgo : calls ≤ left → Failure.FailsOnly P (go (left - calls))) :
    Failure.FailsOnly P (descend calls left go) := by
  rcases Nat.lt_or_ge left calls with h | h
  · rw [descend_of_lt h]
    exact .error (hdeep h)
  · rw [descend_of_le h]
    exact hgo h

end Stack

theorem Failure.eq_map_join {α : Type} (all : List α → Except Failure Text)
    (each : α → Except Failure Text) (sep : Text) (hnil : all [] = .ok [])
    (hone : ∀ a, all [a] = each a)
    (hmore : ∀ a b rest, all (a :: b :: rest) =
      (each a).bind fun s => (all (b :: rest)).bind fun t => .ok (s ++ (sep ++ t)))
    (xs : List α) : all xs = (xs.mapM each).map (Text.join sep) := by
  induction xs with
  | nil => exact hnil
  | cons a xs ih =>
    cases xs with
    | nil =>
      rw [hone, List.mapM_cons, List.mapM_nil]
      cases each a with
      | error e => rfl
      | ok s => exact congrArg Except.ok List.intercalate_singleton.symm
    | cons b xs =>
      have hcons : (a :: b :: xs).mapM each =
          (each a).bind fun s => ((b :: xs).mapM each).bind fun ts => .ok (s :: ts) :=
        List.mapM_cons
      rw [hmore, ih, hcons]
      cases each a with
      | error e => rfl
      | ok s =>
        cases hrest : (b :: xs).mapM each with
        | error e => rfl
        | ok ts =>
          have hne : ts ≠ [] := by
            rintro rfl
            cases mapM_eq_ok_iff.mp hrest
          exact congrArg Except.ok (Text.join_cons sep s hne).symm

namespace Value

def isScalar : Value → Bool
  | .list _ => false
  | .tuple _ => false
  | .record _ => false
  | .set _ => false
  | .cyclic _ _ => false
  | _ => true

/-- A property holds of every value if containers inherit it from what they hold. -/
@[elab_as_elim]
theorem deepInduction {P : Value → Prop} (scalar : ∀ v : Value, v.isScalar = true → P v)
    (list : ∀ xs, (∀ x ∈ xs, P x) → P (.list xs)) (tuple : ∀ xs, (∀ x ∈ xs, P x) → P (.tuple xs))
    (record : ∀ es : Record, (∀ e ∈ es, P e.1 ∧ P e.2) → P (.record es))
    (set : ∀ xs, (∀ x ∈ xs, P x) → P (.set xs))
    (cyclic : ∀ display v, P v → P (.cyclic display v)) (v : Value) : P v :=
  Value.rec (motive_1 := P) (motive_2 := fun xs => ∀ x ∈ xs, P x)
    (motive_3 := fun es => ∀ e ∈ es, P e.1 ∧ P e.2) (motive_4 := fun e => P e.1 ∧ P e.2)
    (scalar .absent rfl) (scalar .null rfl) (fun _ => scalar _ rfl) (fun _ => scalar _ rfl)
    (fun _ => scalar _ rfl) (fun _ => scalar _ rfl) list tuple record (fun _ => scalar _ rfl)
    (fun _ => scalar _ rfl) (fun _ => scalar _ rfl) set cyclic
    (fun _ hx => absurd hx List.not_mem_nil)
    (fun _ _ hx hxs => List.forall_mem_cons.mpr ⟨hx, hxs⟩)
    (fun _ he => absurd he List.not_mem_nil)
    (fun _ _ he hes => List.forall_mem_cons.mpr ⟨he, hes⟩)
    (fun _ _ hk hv => ⟨hk, hv⟩) v

def isContainer : Value → Bool
  | .list _ => true
  | .tuple _ => true
  | .record _ => true
  | .set _ => true
  | _ => false

/-- What a container holds, its keys included. -/
def members : Value → List Value
  | .list xs => xs
  | .tuple xs => xs
  | .record es => es.flatMap fun e => [e.1, e.2]
  | .set xs => xs
  | _ => []

theorem forall_members_record {P : Value → Prop} {es : Record} :
    (∀ x ∈ (Value.record es).members, P x) ↔ ∀ e ∈ es, P e.1 ∧ P e.2 := by
  rw [members, List.forall_mem_flatMap]
  refine forall₂_congr fun e _ => ?_
  rw [List.forall_mem_cons, List.forall_mem_singleton]

@[elab_as_elim]
theorem memberInduction {P : Value → Prop}
    (container : ∀ v : Value, v.isContainer = true → (∀ x ∈ v.members, P x) → P v)
    (other : ∀ v : Value, v.isContainer = false → P v) (v : Value) : P v := by
  induction v using deepInduction with
  | scalar v hv =>
    refine other v ?_
    cases v with
    | list | tuple | record | set | cyclic => cases hv
    | _ => rfl
  | list xs ih => exact container _ rfl ih
  | tuple xs ih => exact container _ rfl ih
  | record es ih => exact container _ rfl (forall_members_record.mpr ih)
  | set xs ih => exact container _ rfl ih
  | cyclic display v _ => exact other _ rfl

mutual

/-- The containers within one another.  A notation known to be out of reach counts as too deep. -/
def depth : Value → Nat
  | .list xs => depthItems xs + 1
  | .tuple xs => depthItems xs + 1
  | .record es => depthEntries es + 1
  | .set xs => depthItems xs + 1
  | .cyclic (.error .tooDeep) _ => Stack.room + 1
  | _ => 0

def depthItems : List Value → Nat
  | [] => 0
  | x :: xs => max (depth x) (depthItems xs)

def depthEntries : List (Value × Value) → Nat
  | [] => 0
  | (k, v) :: es => max (max (depth k) (depth v)) (depthEntries es)

end

section
variable {n : Nat} {v : Value} {xs : List Value} {es : Record}

theorem depthItems_le_iff : depthItems xs ≤ n ↔ ∀ x ∈ xs, x.depth ≤ n := by
  induction xs with
  | nil => simp [depthItems]
  | cons x xs ih => rw [depthItems, Nat.max_le, ih, List.forall_mem_cons]

theorem depthEntries_le_iff :
    depthEntries es ≤ n ↔ ∀ e ∈ es, e.1.depth ≤ n ∧ e.2.depth ≤ n := by
  induction es with
  | nil => simp [depthEntries]
  | cons e es ih => rw [depthEntries, Nat.max_le, Nat.max_le, ih, List.forall_mem_cons]

theorem depth_of_isScalar (h : v.isScalar = true) : v.depth = 0 := by
  cases v with
  | list | tuple | record | set | cyclic => cases h
  | _ => rw [depth] <;> simp

theorem depth_le_iff (hv : v.isContainer = true) :
    v.depth ≤ n ↔ 1 ≤ n ∧ ∀ x ∈ v.members, x.depth ≤ n - 1 := by
  cases v with
  | list xs | tuple xs | set xs =>
    rw [depth, members, ← depthItems_le_iff]
    omega
  | record es =>
    rw [depth, forall_members_record, ← depthEntries_le_iff]
    omega
  | _ => cases hv

theorem depth_pos (hv : v.isContainer = true) : 1 ≤ v.depth :=
  ((depth_le_iff hv).mp (Nat.le_refl v.depth)).1

theorem depth_lt_of_mem (hv : v.isContainer = true) {x : Value} (hx : x ∈ v.members) :
    x.depth < v.depth := by
  have hpos := depth_pos hv
  have hle := ((depth_le_iff hv).mp (Nat.le_refl v.depth)).2 x hx
  omega

end

def nested : Nat → Value
  | 0 => .list []
  | n + 1 => .list [nested n]

theorem depth_nested (n : Nat) : (nested n).depth = n + 1 := by
  induction n with
  | zero => rfl
  | succ n ih =>
    rw [nested, depth, depthItems, depthItems, ih]
    omega

end Value

namespace Json

theorem failsOnly_writeKey (k : Value) : Failure.FailsOnly (· ≠ .tooDeep) (writeKey k) := by
  rw [writeKey.eq_def]
  split
  · exact .ok _
  · exact .ok _
  · exact .ok _
  · rw [Integer.write]
    split
    · exact .error (by decide)
    · exact .ok _
  · exact .ok _
  · exact .error (by decide)

theorem writeItems_eq (xs : List Value) (room : Nat) :
    writeItems xs room = (xs.mapM fun x => write x room).map (Text.join [',']) := by
  refine Failure.eq_map_join (writeItems · room) (write · room) _ (writeItems.eq_1 _)
    (fun _ => writeItems.eq_2 ..) (fun x y rest => ?_) xs
  rw [writeItems]
  · rfl
  · exact List.cons_ne_nil y rest

def writeEntry (e : Value × Value) (room : Nat) : Except Failure Text := do
  return (← writeKey e.1) ++ ':' :: (← write e.2 room)

theorem writeEntries_eq (es : Record) (room : Nat) :
    writeEntries es room = (es.mapM fun e => writeEntry e room).map (Text.join [',']) := by
  refine Failure.eq_map_join (writeEntries · room) (writeEntry · room) _ (writeEntries.eq_1 _)
    (fun _ => writeEntries.eq_2 ..) (fun e f rest => ?_) es
  rw [writeEntries, writeEntry]
  · cases writeKey e.1 with
    | error _ => rfl
    | ok s =>
      cases write e.2 room with
      | error _ => rfl
      | ok t => simp [bind, Except.bind, pure, Except.pure]
  · exact List.cons_ne_nil f rest

theorem failsOnly_write {v : Value} {room : Nat} (h : v.depth ≤ room) :
    Failure.FailsOnly (· ≠ .tooDeep) (write v room) := by
  induction v using Value.deepInduction generalizing room with
  | scalar v hv =>
    cases v with
    | int n =>
      rw [write, Integer.write]
      split
      · exact .error (by decide)
      · exact .ok _
    | list | tuple | record | set | cyclic => cases hv
    | null | bool | float | text => exact .ok _
    | absent | moment | date | bytes => exact .error (by decide)
  | list xs ih | tuple xs ih =>
    obtain ⟨hroom, hxs⟩ := (Value.depth_le_iff rfl).mp h
    rw [write]
    refine Stack.failsOnly_descend (fun hlt => absurd hroom (Nat.not_le.mpr hlt)) fun _ => ?_
    rw [writeItems_eq]
    exact (Failure.FailsOnly.mapM_of_mem fun x hx => ih x hx (hxs x hx)).map.bind fun _ _ => .ok _
  | record es ih =>
    obtain ⟨hroom, hes⟩ := (Value.depth_le_iff rfl).mp h
    rw [Value.forall_members_record] at hes
    rw [write]
    refine Stack.failsOnly_descend (fun hlt => absurd hroom (Nat.not_le.mpr hlt)) fun _ => ?_
    rw [writeEntries_eq]
    have hentry : ∀ e ∈ es, Failure.FailsOnly (· ≠ .tooDeep) (writeEntry e (room - 1)) :=
      fun e he => (failsOnly_writeKey e.1).bind fun _ _ =>
        ((ih e he).2 (hes e he).2).bind fun _ _ => .ok _
    exact (Failure.FailsOnly.mapM_of_mem hentry).map.bind fun _ _ => .ok _
  | set | cyclic => exact .error (by decide)

theorem writeOr_eq_error {other : String} {v : Value} {room : Nat} {e : Failure}
    (h : writeOr other v room = .error e) : e = .tooDeep ∧ write v room = .error .tooDeep := by
  rw [writeOr] at h
  split at h
  · next hdeep =>
    cases h
    exact ⟨rfl, hdeep⟩
  · cases h
  · cases h

theorem exists_writeOr_iff {other : String} {v : Value} {room : Nat} :
    (∃ s, writeOr other v room = .ok s) ↔ write v room ≠ .error .tooDeep := by
  rw [writeOr]
  split
  · next h => simp [h]
  · next e he h => simpa [h] using he
  · next s h => simp [h]

end Json

end LitNote
