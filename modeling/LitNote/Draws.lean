import LitNote.Failure

/-!
A stream of choices.  The stream is a counter: the next choice among `n` is the counter modulo `n`,
and every choice moves the counter on by one.
-/

namespace LitNote

structure Draws where
  counter : Int
deriving Repr, DecidableEq, Inhabited

/-- A computation that may draw and may fail; what was drawn before a failure stays drawn. -/
abbrev Drawing (α : Type) := ExceptT Failure (StateM Draws) α

namespace Draws

def next (d : Draws) : Draws := ⟨d.counter + 1⟩

def index (d : Draws) (n : Nat) : Nat := (d.counter % (n : Int)).toNat

def number (d : Draws) (n : Nat) : Nat := ((31 * d.counter + 7) % (n : Int)).toNat

def alphabet : Text := "abcdefghijklmnopqrstuvwxyzABCDEFGHIJKLMNOPQRSTUVWXYZ0123456789".toList

def letter (d : Draws) : Char := alphabet.getD (d.index alphabet.length) 'a'

def letters : Nat → Draws → Text × Draws
  | 0, d => ([], d)
  | n + 1, d => let (s, d') := letters n d.next; (d.letter :: s, d')

theorem index_lt (d : Draws) {n : Nat} (h : 0 < n) : d.index n < n := by
  have h₁ := Int.emod_nonneg d.counter (b := n) (by omega)
  have h₂ := Int.emod_lt_of_pos d.counter (b := n) (by omega)
  unfold index
  omega

theorem letters_length (n : Nat) (d : Draws) : (letters n d).1.length = n := by
  induction n generalizing d with
  | zero => rfl
  | succ n ih => simp [letters, ih]

theorem letters_counter (n : Nat) (d : Draws) : (letters n d).2 = ⟨d.counter + n⟩ := by
  induction n generalizing d with
  | zero => simp [letters]
  | succ n ih => simp [letters, ih, next]; omega

end Draws

namespace Drawing

def failing {α : Type} (x : Except Failure α) : Drawing α := ExceptT.mk fun d => (x, d)

def of {α : Type} (f : Draws → α × Draws) : Drawing α := ExceptT.mk fun d =>
  let (a, d') := f d
  (.ok a, d')

/-- The result of `x`, or `other` if it fails; the stream goes on from where it stopped. -/
def recover {α : Type} (x : Drawing α) (other : α) : Drawing α := ExceptT.mk fun d =>
  match x.run d with
  | (.ok a, d') => (.ok a, d')
  | (.error _, d') => (.ok other, d')

def maxLetters : Int := 32

def text (length : Int) : Drawing Text :=
  of (Draws.letters (max 1 (min maxLetters length)).toNat)

def digits : Drawing Text := of fun d =>
  let n := d.number 1000
  let digit := fun (n : Nat) => Char.ofNat (48 + n % 10)
  ([digit (n / 100), digit (n / 10), digit n], d.next)

section
variable {ε α β : Type} {x : ExceptT ε (StateM Draws) α} {f : α → ExceptT ε (StateM Draws) β}
variable {y : Drawing α} {d d' : Draws}

theorem run_pure (a : α) (d : Draws) : (pure a : ExceptT ε (StateM Draws) α).run d = (.ok a, d) :=
  rfl

theorem run_failing (r : Except Failure α) (d : Draws) : (failing r).run d = (r, d) := rfl

theorem run_bind_ok {a : α} (h : x.run d = (.ok a, d')) : (x >>= f).run d = (f a).run d' := by
  show (ExceptT.bindCont f (x.run d).1) (x.run d).2 = _
  rw [h]
  rfl

theorem run_bind_error {e : ε} (h : x.run d = (.error e, d')) :
    (x >>= f).run d = (.error e, d') := by
  show (ExceptT.bindCont f (x.run d).1) (x.run d).2 = _
  rw [h]
  rfl

theorem run_recover_ok {a : α} (other : α) (h : y.run d = (.ok a, d')) :
    (y.recover other).run d = (.ok a, d') := by
  rw [recover, ExceptT.run_mk, h]

theorem run_recover_error {e : Failure} (other : α) (h : y.run d = (.error e, d')) :
    (y.recover other).run d = (.ok other, d') := by
  rw [recover, ExceptT.run_mk, h]

end

end Drawing

end LitNote
