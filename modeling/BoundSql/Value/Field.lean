/-
  Values read as typed fields.

  * `FieldType` names what a value can be read as, and `FieldType.Carrier` is
    the type of what is read; a null is read only as a value or as an optional
    field;
  * `Value.read` reads a value, or says why it cannot be.
-/
import BoundSql.Error

namespace BoundSql

/-- What a value can be read as. -/
inductive FieldType where
  | int64
  | int32
  | binary64
  | bool
  | text
  | value
  | optional (t : FieldType)
deriving DecidableEq, Repr

/-- The type of what is read.  An integer of 32 bits is kept in 64. -/
def FieldType.Carrier : FieldType → Type
  | .int64 | .int32 => Int64
  | .binary64 => Binary64
  | .bool => Bool
  | .text => String
  | .value => Value
  | .optional t => Option t.Carrier

namespace Value

/-- The integer of a value. -/
def readInt64 (v : Value) : Except DecodeFault Int64 :=
  match v.toInt64? with
  | some n => .ok n
  | none => .error (.notInteger v)

/-- The integer of a value, if it fits in 32 bits. -/
def readInt32 (v : Value) : Except DecodeFault Int64 := do
  let n ← v.readInt64
  if -Nat.pow 2 31 ≤ n.toInt ∧ n.toInt < Nat.pow 2 31 then return n else throw (.outOfRange n)

/-- The number of a value; a truth value is none. -/
def readBinary64 (v : Value) : Except DecodeFault Binary64 :=
  match v.toBinary64? with
  | some x => .ok x
  | none => .error (.notNumber v)

/-- The truth value; every integer but zero is true. -/
def readBool : Value → Except DecodeFault Bool
  | .bool b => .ok b
  | .int n => .ok (n != 0)
  | v => .error (.notBoolean v)

/-- The text of a value, shown as for a reader if it is not text itself. -/
def readText : Value → Except DecodeFault String
  | .null => .error .unexpectedNull
  | v => .ok v.display

/-- Reads a value as a field of the given type. -/
def read (v : Value) : (t : FieldType) → Except DecodeFault t.Carrier
  | .int64 => v.readInt64
  | .int32 => v.readInt32
  | .binary64 => v.readBinary64
  | .bool => v.readBool
  | .text => v.readText
  | .value => .ok v
  | .optional t => if v.isNull then .ok none else (v.read t).map some

end Value

end BoundSql
