/-
  The types that columns and casts prefer.

  * `Affinity.ofType` reads it off the name of a type;
  * `Affinity.common` is what two sides of a comparison agree on, and
    `Affinity.convert` brings both to it;
  * `Affinity.cast` converts a cell in any case.
-/
import BoundSql.Engine.Cell

namespace BoundSql.Engine

/-- A preferred type; `blob` prefers none. -/
inductive Affinity where
  | blob
  | text
  | numeric
  | integer
  | real
deriving DecidableEq

namespace Affinity

/-- Whether numbers are preferred. -/
def isNumeric : Affinity → Bool
  | .blob | .text => false
  | .numeric | .integer | .real => true

/-- Whether `part` stands somewhere in `cs`. -/
def occurs (part : List Char) : List Char → Bool
  | [] => part.isEmpty
  | c :: cs => part.isPrefixOf (c :: cs) || occurs part cs

/-- The parts of the names of types, in the order in which they decide. -/
def typeParts : List (String × Affinity) :=
  [("INT", .integer), ("CHAR", .text), ("CLOB", .text), ("TEXT", .text), ("BLOB", .blob),
    ("REAL", .real), ("FLOA", .real), ("DOUB", .real)]

/-- The affinity of a type by its name, in any case. -/
def ofType (name : String) : Affinity :=
  let cs := name.toList.map Char.toUpper
  match typeParts.find? fun p => occurs p.1.toList cs with
  | some (_, a) => a
  | none => .numeric

/-! ## Comparison -/

/-- What the sides of a comparison agree on, of which some have no affinity. -/
def common : Option Affinity → Option Affinity → Affinity
  | some a, some b => if a.isNumeric || b.isNumeric then .numeric else .blob
  | some a, none | none, some a => a
  | none, none => .blob

/-- Whether a cell is text. -/
def isText : Cell → Bool
  | .text _ => true
  | _ => false

/-- Numbers as text. -/
def textOfNumber : Cell → Cell
  | .blob bytes => .blob bytes
  | c => c.toText

/-- Both sides of a comparison as the affinity wants them. -/
def convert (a : Affinity) (x y : Cell) : Cell × Cell :=
  match a with
  | .blob => (x, y)
  | .text => if isText x || isText y then (textOfNumber x, textOfNumber y) else (x, y)
  | .numeric | .integer | .real => (x.toNumeric, y.toNumeric)

/-- The comparison of two cells under an affinity. -/
def compare? (a : Affinity) (x y : Cell) : Option Ordering :=
  (a.convert x y).1.compare? (a.convert x y).2

/-! ## Casts -/

/-- An integer, towards zero and to the nearest of 64 bits. -/
def integerOf (c : Cell) : Cell := if c.isNull then .null else .integer c.toInt64

/-- A number with a fraction. -/
def realOf : Cell → Cell
  | .null => .null
  | .integer n => .real (Binary64.ofInt n.toInt)
  | .real x => .real x
  | .text bytes | .blob bytes => .real (RealText.read (Cell.characters bytes)).value

/-- The number that text begins with, as an integer if it is a small one. -/
def numberOf (c : Cell) : Cell :=
  match c with
  | .null | .integer _ | .real _ => c
  | .text _ | .blob _ =>
    match c.toNumber? with
    | some (.real x) =>
      match x.toInt? with
      | some i =>
        if -Nat.pow 2 51 ≤ i ∧ i < Nat.pow 2 51 then .integer (Int64.ofInt i) else Cell.ofBinary64 x
      | none => Cell.ofBinary64 x
    | some (.integer n) => .integer n
    | none => .null

/-- The cast to the types of an affinity. -/
def cast (a : Affinity) (c : Cell) : Cell :=
  match a with
  | .text => c.toText
  | .integer => integerOf c
  | .real => realOf c
  | .numeric => numberOf c
  | .blob =>
    match c.toText with
    | .text bytes => .blob bytes
    | c => c

example : ofType "unsigned big int" = .integer := by decide +kernel
example : ofType "decimal" = .numeric := by decide +kernel
example : cast .integer (.ofText " 12.9x") = .integer 12 := by decide +kernel

end Affinity

end BoundSql.Engine
