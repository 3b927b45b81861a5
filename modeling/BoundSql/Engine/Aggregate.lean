/-
  Functions of all rows.

  * `Total` adds numbers up: integers as such for as long as they fit, and from
    then on numbers of floating point, whose rounding errors are added up on
    their own;
  * `extreme` is the largest or smallest cell, and `Search` tells when it is
    found;
  * `Aggregate.eval` is a function of the cells that it is taken of.
-/
import BoundSql.Clause
import BoundSql.Engine.Affinity

namespace BoundSql.Engine

/-- The functions of all rows. -/
inductive Aggregate where
  | count
  | sum
  | total
  | avg
  | min
  | max
deriving DecidableEq

namespace Aggregate

/-- The functions by name. -/
def named : List (String × Aggregate) :=
  [("count", .count), ("sum", .sum), ("total", .total), ("avg", .avg), ("min", .min),
    ("max", .max)]

/-- The function of a name, in any case. -/
def ofName? (name : String) : Option Aggregate :=
  (named.find? (sameIgnoringCase name ·.1)).map Prod.snd

end Aggregate

/-! ## Sums -/

/-- A sum of floating point: the sum as it was rounded, and what the roundings
    lost. -/
structure Compensated where
  sum : Binary64
  lost : Binary64

namespace Compensated

/-- The sum with one more number. -/
def add (s : Compensated) (x : Binary64) : Compensated :=
  let sum := s.sum.add x
  let lost :=
    if x.abs.less s.sum.abs then (s.sum.sub sum).add x else (x.sub sum).add s.sum
  ⟨sum, s.lost.add lost⟩

/-- An integer as numbers that are exact: the larger part, and the rest if it
    is too large for one. -/
def parts (n : Int) : List Binary64 :=
  if n.natAbs < Nat.pow 2 52 then [.ofInt n]
  else
    let small := Int.tmod n (Nat.pow 2 14)
    [.ofInt (n - small), .ofInt small]

/-- The sum with one more integer. -/
def addInt (s : Compensated) (n : Int) : Compensated := (parts n).foldl add s

/-- An integer as a sum. -/
def ofInt (n : Int) : Compensated :=
  match parts n with
  | [large, small] => ⟨large, small⟩
  | _ => ⟨.ofInt n, .ofInt 0⟩

/-- The sum with what was lost, if that is a number. -/
def value (s : Compensated) : Binary64 := if s.lost.isFinite then s.sum.add s.lost else s.sum

end Compensated

/-- What is known of the numbers added up so far. -/
structure Total where
  count : Nat := 0
  /-- The sum of the integers, up to the first number that is none or makes it
      too large. -/
  integer : Int64 := 0
  /-- The sum from then on. -/
  real : Option Compensated := none
  /-- Whether an integer made the sum too large, and only integers followed. -/
  overflowed : Bool := false

namespace Total

/-- The sum as a number of floating point in parts. -/
def compensated (t : Total) : Compensated := t.real.getD (.ofInt t.integer.toInt)

/-- The sum as a number of floating point. -/
def toBinary64 (t : Total) : Binary64 :=
  match t.real with
  | some s => s.value
  | none => .ofInt t.integer.toInt

/-- The sum with one more integer. -/
def addInt (t : Total) (n : Int64) : Total :=
  let sum := t.integer.toInt + n.toInt
  if t.real.isNone && Numeral.fitsInt64 sum then
    { t with count := t.count + 1, integer := Int64.ofInt sum }
  else
    { t with
      count := t.count + 1, real := some (t.compensated.addInt n.toInt),
      overflowed := t.overflowed || t.real.isNone }

/-- The sum with one more number of floating point. -/
def addReal (t : Total) (x : Binary64) : Total :=
  { t with count := t.count + 1, real := some (t.compensated.add x), overflowed := false }

/-- The sum with one more cell.  Text that is no number counts as the number
    that it begins with, and null not at all. -/
def add (t : Total) (c : Cell) : Total :=
  match c.toNumeric with
  | .null => t
  | .integer n => t.addInt n
  | .real x => t.addReal x
  | .text bytes | .blob bytes => t.addReal (RealText.read (Cell.characters bytes)).value

/-- The sum of cells. -/
def ofCells (cells : List Cell) : Total := cells.foldl add {}

end Total

/-! ## The largest and the smallest -/

/-- The first of the largest or smallest cells that are not null. -/
def extreme (best : Ordering) (cells : List Cell) : Cell :=
  cells.foldl (fun m c =>
    if c.isNull then m else if m.isNull || c.order m == best then c else m) .null

/-- The search for the largest or smallest cell, perhaps among distinct ones. -/
structure Search where
  best : Ordering
  distinct : Bool
  /-- The best cell so far. -/
  found : Cell := .null
  seen : List Cell := []

/-- The search after one more cell, and whether the cell is the best so far.
    For as long as there is none, nulls are the best; if a cell is seen again
    where only distinct ones count, nothing is said of it. -/
def Search.visit (s : Search) (c : Cell) : Search × Option Bool :=
  if s.distinct && s.seen.any (·.order c == .eq) then (s, none)
  else
    let s := { s with seen := c :: s.seen }
    if s.found.isNull || (!c.isNull && c.order s.found == s.best) then
      ({ s with found := c }, some true)
    else (s, some false)

/-! ## Functions -/

namespace Aggregate

/-- The function of cells; a sum of integers has to fit. -/
def eval (f : Aggregate) (cells : List Cell) : Except EngineFault Cell :=
  let total := Total.ofCells cells
  match f with
  | .count => .ok (.integer (Int64.ofNat (cells.filter (!·.isNull)).length))
  | .max => .ok (extreme .gt cells)
  | .min => .ok (extreme .lt cells)
  | .total => .ok (.ofBinary64 total.toBinary64)
  | .sum =>
    if total.count = 0 then .ok .null
    else if total.overflowed then .error .integerOverflow
    else match total.real with
      | none => .ok (.integer total.integer)
      | some s => .ok (.ofBinary64 s.value)
  | .avg =>
    if total.count = 0 then .ok .null
    else .ok (.ofBinary64 (total.toBinary64.div (.ofInt total.count)))

end Aggregate

example : (Search.visit ⟨.lt, false, .integer 2, []⟩ (.integer 1)).2 = some true := by
  decide +kernel
example : (Total.ofCells [.integer 1, .ofText "2x", .null]).toBinary64 = .ofInt 3 := by
  decide +kernel

end BoundSql.Engine
