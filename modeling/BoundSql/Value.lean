/-
  SQL values: what is bound to a placeholder, and what a row holds.

  * `Value.kind` is the kind under which a value is bound;
  * `toInt64?`, `toBinary64?`, `text?` look at a value as a number or a text;
  * `same` is equality by variant, floating point numbers compared as numbers;
  * `display`, `toJson` and `quoted` are its three written forms: for a
    reader, in a JSON document, and in a message;
  * `ofJson` is the value that a JSON document is bound as; `ofDate`, `ofTime`,
    `ofDateTime` and `ofUtc` are those of days and times.
-/
import BoundSql.Calendar
import BoundSql.Json.Printer
import BoundSql.Text.Quoted

namespace BoundSql

/-- The kind under which a value is handed to a statement. -/
inductive BindKind where
  | int
  | bool
  | null
  | text
deriving DecidableEq, Repr

/-- The name of a kind. -/
def BindKind.name : BindKind → String
  | .int => "int"
  | .bool => "bool"
  | .null => "null"
  | .text => "str"

/-- A single SQL value. -/
inductive Value where
  | null
  | bool (b : Bool)
  | int (n : Int64)
  | float (x : Binary64)
  | text (s : String)
  | blob (bytes : List UInt8)
deriving DecidableEq, Inhabited

namespace Value

/-! ## Kinds and views -/

/-- Numbers with a fraction and bytes have no kind of their own and are bound
    like text. -/
def kind : Value → BindKind
  | .int _ => .int
  | .bool _ => .bool
  | .null => .null
  | .float _ | .text _ | .blob _ => .text

def isNull : Value → Bool
  | .null => true
  | _ => false

/-- The integer, a truth value read as 0 or 1. -/
def toInt64? : Value → Option Int64
  | .int n => some n
  | .bool b => some (if b then 1 else 0)
  | _ => none

/-- The number; an integer is rounded to the nearest. -/
def toBinary64? : Value → Option Binary64
  | .float x => some x
  | .int n => some (Binary64.ofInt n.toInt)
  | _ => none

/-- The text of a value that is text. -/
def text? : Value → Option String
  | .text s => some s
  | _ => none

/-- Equality by variant, then by content. -/
def same : Value → Value → Bool
  | .float x, .float y => x.same y
  | v, w => v = w

/-- The first value that is not null, if there is one. -/
def nonNull? (v : Option Value) : Option Value := v.filter (!·.isNull)

/-! ## Written forms -/

/-- The text for a reader. -/
def display : Value → String
  | .null => "NULL"
  | .bool b => if b then "true" else "false"
  | .int n => toString n.toInt
  | .float x => Layout.plain.render x
  | .text s => s
  | .blob bytes => "<blob " ++ toString bytes.length ++ " bytes>"

/-- The JSON value; bytes become an array of numbers. -/
def toJson : Value → Json
  | .null => .null
  | .bool b => .bool b
  | .int n => .integer n.toInt
  | .float x => .float x
  | .text s => .string s
  | .blob bytes => .array (bytes.map fun b => .integer b.toNat)

/-- The text in a message: the variant, and the content in parentheses. -/
def quoted : Value → String
  | .null => "Null"
  | .bool b => "Bool(" ++ (if b then "true" else "false") ++ ")"
  | .int n => "Int(" ++ toString n.toInt ++ ")"
  | .float x => "Float(" ++ Layout.quoted.render x ++ ")"
  | .text s => "Text(" ++ Text.quoted s ++ ")"
  | .blob bytes => "Blob([" ++ ", ".intercalate (bytes.map fun b => toString b.toNat) ++ "])"

/-! ## JSON documents -/

/-- The value of a JSON document.  An integer beyond 64 bits becomes the
    nearest number, and a document with parts becomes its text. -/
def ofJson : Json → Value
  | .null => .null
  | .bool b => .bool b
  | .integer i =>
    if -Nat.pow 2 63 ≤ i ∧ i < Nat.pow 2 63 then .int (Int64.ofInt i) else .float (Binary64.ofInt i)
  | .float x => .float x
  | .string s => .text s
  | .array items => .text (Json.array items).print
  | .object members => .text (Json.object members).print

/-! ## Dates and times -/

/-- A day is bound as its text. -/
def ofDate (d : Date) : Value := .text d.text

/-- A time of day is bound as its text. -/
def ofTime (t : Time) : Value := .text t.text

/-- A date with a time is bound as its text. -/
def ofDateTime (d : DateTime) : Value := .text d.text

/-- A moment of universal time is bound as its text. -/
def ofUtc (d : DateTime) : Value := .text d.utcText

end Value

end BoundSql
