/-
  Rows of a result: columns with their values, in the order of the result.

  * a column is looked up by name, and of columns of one name the last one
    counts (`get?`, `get?_push`);
  * `read` looks a column up and reads it as a field, `decode` reads several;
  * `toJson` writes every column, repeated ones too.
-/
import BoundSql.Value.Field

namespace BoundSql

/-- A row: pairs of a column and a value. -/
structure Row where
  cells : List (String × Value) := []
deriving DecidableEq, Inhabited

/-- A field that has been read, with its type. -/
abbrev Field := (t : FieldType) × t.Carrier

namespace Row

/-- A row without columns. -/
def empty : Row := ⟨[]⟩

/-- The row with one more column at its end. -/
def push (r : Row) (column : String) (v : Value) : Row := ⟨r.cells ++ [(column, v)]⟩

/-- The value of the last column of a name. -/
def get? (r : Row) (column : String) : Option Value :=
  (r.cells.reverse.find? (·.1 = column)).map Prod.snd

/-- The value at a position counted from 0. -/
def getIndex? (r : Row) (i : Nat) : Option Value := r.cells[i]?.map Prod.snd

/-- The names in order, repeated ones too. -/
def columns (r : Row) : List String := r.cells.map Prod.fst

/-- The values in order. -/
def values (r : Row) : List Value := r.cells.map Prod.snd

/-- The number of columns. -/
def size (r : Row) : Nat := r.cells.length

def isEmpty (r : Row) : Bool := r.cells.isEmpty

/-- What is added last is found first. -/
theorem get?_push (r : Row) (column name : String) (v : Value) :
    (r.push column v).get? name = if column = name then some v else r.get? name := by
  by_cases h : column = name <;> simp [get?, push, h]

theorem get?_empty (name : String) : empty.get? name = none := rfl

/-- Equality of names and of values. -/
def same (r s : Row) : Bool :=
  r.cells.length == s.cells.length &&
    (r.cells.zip s.cells).all fun (a, b) => a.1 == b.1 && a.2.same b.2

/-! ## Fields -/

/-- The column of a name, read as a field. -/
def read (r : Row) (column : String) (t : FieldType) : Except Error t.Carrier :=
  match r.get? column with
  | none => .error (.decode column .noColumn)
  | some v => (v.read t).mapError (.decode column)

/-- The columns of a schema in order; the first that cannot be read decides. -/
def decode (schema : List (String × FieldType)) (r : Row) : Except Error (List Field) :=
  schema.mapM fun (column, t) => (r.read column t).map (⟨t, ·⟩)

/-! ## JSON -/

/-- The row as an object, every pair in order. -/
def toJson (r : Row) : Json := .object (r.cells.map fun (column, v) => (column, v.toJson))

end Row

end BoundSql
