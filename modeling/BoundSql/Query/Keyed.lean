/-
  Values of a column by the values of another.

  `keyed` goes through rows; a key is recognised by its text, keeps the place
  of its first row, and has the value of its last row.  Rows without a key are
  passed over.

  * `Keyed` are the pairs so far, together with the place of the pair of each
    text; `Keyed.put` gives a key a value, at the place of its text if this has
    one.
-/
import BoundSql.Row

namespace BoundSql

/-- The key of a row: the value in a column, unless it is null. -/
def Row.key? (r : Row) (key : String) : Option Value := Value.nonNull? (r.get? key)

/-- Pairs of a key and a value, and where the pair of each text stands. -/
structure Keyed where
  pairs : List (Value × Value) := []
  places : List (String × Nat) := []

namespace Keyed

/-- Gives a key a value: where its text has a place, the key there is kept. -/
def put (t : Keyed) (key v : Value) : Keyed :=
  match t.places.lookup key.display with
  | some i => { t with pairs := t.pairs.modify i fun p => (p.1, v) }
  | none => ⟨t.pairs ++ [(key, v)], (key.display, t.pairs.length) :: t.places⟩

/-- The pairs with that of one more row. -/
def putRow (column key : String) (t : Keyed) (r : Row) : Keyed :=
  match r.key? key with
  | none => t
  | some k => t.put k ((r.get? column).getD .null)

/-- The pairs of rows. -/
def ofRows (column key : String) (rows : List Row) : Keyed := rows.foldl (putRow column key) {}

end Keyed

/-- The values of `column` by those of `key`. -/
def keyed (column key : String) (rows : List Row) : List (Value × Value) :=
  (Keyed.ofRows column key rows).pairs

end BoundSql
