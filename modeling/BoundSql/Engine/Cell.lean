/-
  What the embedded engine stores.

  * `Cell` is a stored value; text is stored as its bytes, which need not be
    text of any encoding, and a NaN is stored as null;
  * `Cell.ofValue` binds a value under a kind, `Cell.toValue` reads it back;
  * `Cell.order` is the order of all cells: null, numbers by size, text and
    bytes byte by byte; `Cell.compare?` is the comparison of conditions, in
    which null compares with nothing;
  * `Cell.toNumber?`, `Cell.toText` and `Cell.truth?` are what a cell is as a
    number, as text and as a condition.
-/
import BoundSql.Error
import BoundSql.Binary64.Arithmetic
import BoundSql.Engine.RealText

namespace BoundSql.Engine

/-- A stored value. -/
inductive Cell where
  | null
  | integer (n : Int64)
  | real (x : Binary64)
  | text (bytes : List UInt8)
  | blob (bytes : List UInt8)
deriving DecidableEq, Inhabited

/-- A number that a cell is. -/
inductive Number where
  | integer (n : Int64)
  | real (x : Binary64)
deriving DecidableEq

namespace Cell

/-! ## Binding and reading -/

/-- A number as it is stored. -/
def ofBinary64 (x : Binary64) : Cell := if x.isNaN then .null else .real x

/-- Text as it is stored. -/
def ofText (s : String) : Cell := .text s.toUTF8.toList

/-- A truth value as it is stored, null where it is unknown. -/
def ofTruth : Option Bool → Cell
  | none => .null
  | some b => .integer (if b then 1 else 0)

/-- The cell of a value under a kind.  Under the kind of text, numbers with a
    fraction and bytes keep their form. -/
def ofValue (v : Value) : BindKind → Cell
  | .null => .null
  | .int | .bool =>
    match v.toInt64? with
    | some n => .integer n
    | none => .null
  | .text =>
    match v with
    | .null => .null
    | .float x => ofBinary64 x
    | .blob bytes => .blob bytes
    | v => ofText v.display

/-- The value of a cell; bytes of text have to be text. -/
def toValue : Cell → Except Utf8.Malformed Value
  | .null => .ok .null
  | .integer n => .ok (.int n)
  | .real x => .ok (.float x)
  | .text bytes => (Utf8.decode bytes).map .text
  | .blob bytes => .ok (.blob bytes)

def isNull : Cell → Bool
  | .null => true
  | _ => false

/-! ## Order -/

/-- The place of a cell among cells of other sorts. -/
def rank : Cell → Nat
  | .null => 0
  | .integer _ | .real _ => 1
  | .text _ => 2
  | .blob _ => 3

/-- The size of a number, in units of the least positive one; the infinities
    are beyond every finite size. -/
def size : Cell → Int
  | .integer n => n.toInt * Nat.pow 2 1074
  | .real x =>
    if x.isInfinite then if x.negative then -Nat.pow 2 2200 else Nat.pow 2 2200 else x.scaled
  | _ => 0

/-- The bytes of text or of a blob. -/
def bytes : Cell → List UInt8
  | .text bs | .blob bs => bs
  | _ => []

/-- The order of all cells. -/
def order (a b : Cell) : Ordering :=
  (compare a.rank b.rank).then ((compare a.size b.size).then
    (compare (a.bytes.map UInt8.toNat) (b.bytes.map UInt8.toNat)))

/-- The comparison of two cells, neither of which is null. -/
def compare? (a b : Cell) : Option Ordering :=
  if a.isNull || b.isNull then none else some (a.order b)

/-! ## Numbers and text -/

/-- Bytes as characters, of which only those of ASCII can be part of a number. -/
def characters (bytes : List UInt8) : List Char := bytes.map fun b => Char.ofNat b.toNat

/-- The number that is read: an integer, unless it has a point or an exponent
    or does not fit. -/
def ofNumeric (r : RealText.Numeric) : Number :=
  if !r.isDecimal && Numeral.fitsInt64 r.integer then .integer (Int64.ofInt r.integer)
  else .real r.value

/-- The number that a cell is in a calculation; text and bytes count as the
    number that they begin with. -/
def toNumber? : Cell → Option Number
  | .null => none
  | .integer n => some (.integer n)
  | .real x => some (.real x)
  | .text bytes | .blob bytes => some (ofNumeric (RealText.read (characters bytes)))

/-- The integer that a cell is where one is wanted: a number without its
    fraction, or the integer that text and bytes begin with, moved to 64 bits. -/
def toInt64 : Cell → Int64
  | .null => 0
  | .integer n => n
  | .real x => x.toInt64
  | .text bytes | .blob bytes => Binary64.clampInt64 (RealText.read (characters bytes)).integer

/-- The cell of a number. -/
def ofNumber : Number → Cell
  | .integer n => .integer n
  | .real x => ofBinary64 x

/-- Text that writes a number, as that number; other cells as they are. -/
def toNumeric : Cell → Cell
  | .text bytes =>
    let r := RealText.read (characters bytes)
    if r.isWhole then ofNumber (ofNumeric r) else .text bytes
  | c => c

/-- The integer that a number is, which has to be one and within 64 bits; of
    those with a point, the two at the ends do not count. -/
def toInteger? : Cell → Option Int64
  | .integer n => some n
  | .real x =>
    x.toInt?.bind fun i =>
      if -Nat.pow 2 63 < i ∧ i < Nat.pow 2 63 - 1 then some (Int64.ofInt i) else none
  | _ => none

/-- The integer that a cell is as the key of a row. -/
def toKey? (c : Cell) : Option Int64 := c.toNumeric.toInteger?

/-- The cast to text; bytes are taken as they are. -/
def toText : Cell → Cell
  | .null => .null
  | .integer n => ofText (toString n.toInt)
  | .real x => ofText (RealText.write x)
  | .text bytes | .blob bytes => .text bytes

/-- What a cell is as a condition: whether its number is not zero. -/
def truth? : Cell → Option Bool
  | .null => none
  | .integer n => some (n ≠ 0)
  | .real x => some !x.isZero
  | .text bytes | .blob bytes => some !(RealText.read (characters bytes)).value.isZero

example : (Cell.integer 3).order (.real (Binary64.ofDecimal false 25 (-1))) = .gt := by
  decide +kernel
example : (ofText "12").toNumeric = .integer 12 := by decide +kernel
example : (ofText "12x").toNumeric = ofText "12x" := by decide +kernel

end Cell

end BoundSql.Engine
