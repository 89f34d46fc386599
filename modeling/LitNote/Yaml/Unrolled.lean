import LitNote.Value.Members
import LitNote.Value.Notation
import LitNote.Yaml.Cell

/-!
Cells unrolled to values.  A cell from which no way leads back has a value at once when its parts
have one.  A container that comes again within itself is shown with dots in the place of its second
coming, and its content is unrolled as far as settings look into it.
-/

namespace LitNote.Yaml

namespace Cell

def parts : Cell → List Nat
  | .value _ => []
  | .list items => items
  | .pairs es => es.flatMap fun (k, v) => [k, v]
  | .record es => es.flatMap fun (k, v) => [k, v]
  | .set members => members

def assemble (part : Nat → Value) : Cell → Value
  | .value v => v
  | .list items => .list (items.map part)
  | .pairs es => .list (es.map fun (k, v) => .tuple [part k, part v])
  | .record es => .record (es.map fun (k, v) => (part k, part v))
  | .set members => .set (Members.arranged (members.map part))

def dots : Cell → Text
  | .record _ => "\x7b...\x7d".toList
  | _ => "[...]".toList

end Cell

abbrev Cells := Array (Option Cell)

namespace Cells

def cell (cells : Cells) (n : Nat) : Cell := (cells[n]?.getD none).getD (.value .null)

abbrev Known := Array (Option Value)

def known? (k : Known) (n : Nat) : Option Value := k[n]?.getD none

def settle (c : Cells) (k : Known) (n : Nat) : Known :=
  let cell := c.cell n
  if (known? k n).isSome || cell.parts.any fun i => (known? k i).isNone then k
  else k.setIfInBounds n (some (cell.assemble fun i => (known? k i).getD .null))

def settleAll (c : Cells) : Nat → Known → Known
  | 0, k => k
  | fuel + 1, k =>
    let next := (List.range c.size).reverse.foldl (settle c) k
    if next.countP Option.isSome == k.countP Option.isSome then k else settleAll c fuel next

/-- Marks the cells that can be reached from some cells, by ways over cells without a known
value. -/
def reached (c : Cells) (k : Known) : Nat → Array Bool → List Nat → Array Bool
  | 0, seen, _ => seen
  | _ + 1, seen, [] => seen
  | fuel + 1, seen, n :: rest =>
    if seen[n]?.getD true || (known? k n).isSome then reached c k fuel seen rest
    else reached c k fuel (seen.setIfInBounds n true) ((c.cell n).parts ++ rest)

def partCount (c : Cells) : Nat :=
  (List.range c.size).foldl (fun count n => count + (c.cell n).parts.length) 0

def cyclic (c : Cells) (k : Known) : List Nat :=
  let fuel := 2 * c.partCount + 1
  (List.range c.size).filter fun n =>
    (known? k n).isNone
      && (reached c k fuel (Array.replicate c.size false) (c.cell n).parts)[n]?.getD false

/-- A cell with dots wherever it or one of `around` comes within it. -/
def dotted (c : Cells) (k : Known) : Nat → List Nat → Nat → Value
  | 0, _, _ => .null
  | fuel + 1, around, n =>
    match known? k n with
    | some v => v
    | none =>
      let cell := c.cell n
      if around.contains n then .cyclic (.ok cell.dots) .null
      else cell.assemble (dotted c k fuel (n :: around))

def display (c : Cells) (k : Known) (n : Nat) : Except Failure Text :=
  (dotted c k (c.size + 1) [] n).notated

abbrev Displays := List (Nat × Except Failure Text)

def close (c : Cells) (k : Known) (shown : Displays) (content : Nat → Value) : Known :=
  settleAll c (c.size + 1) <| shown.foldl
    (fun k (n, display) => k.setIfInBounds n (some (.cyclic display (content n)))) k

/-- How many containers on cycles are unrolled within one another.  Settings look into no more than
three. -/
def maxRounds : Nat := 4

def unrolled (c : Cells) (k : Known) (shown : Displays) : Nat → Known
  | 0 => close c k shown fun _ => .null
  | rounds + 1 =>
    let inner := unrolled c k shown rounds
    close c k shown fun n => (c.cell n).assemble fun i => (known? inner i).getD .null

def value (c : Cells) (n : Nat) : Value :=
  let k := settleAll c (c.size + 1) (Array.replicate c.size none)
  match known? k n with
  | some v => v
  | none =>
    let shown := (c.cyclic k).map fun n => (n, c.display k n)
    (known? (unrolled c k shown maxRounds) n).getD .null

end Cells

def read (s : Text) : Except Failure (Option Value) := do
  match ← Document.ofTokens (← tokens s) with
  | none => return none
  | some d => return some (Cells.value (← d.cells) d.root)

end LitNote.Yaml
