/-
  Counts as databases return them.

  `Value.toCount` reads the value of a COUNT, which may come back as text; a
  fraction is dropped, and what is no number counts as 0.
-/
import BoundSql.Value
import BoundSql.Decimal.Numeral
import BoundSql.Text.Blank

namespace BoundSql

/-- The count that a text writes. -/
def countOfText (s : String) : Int64 :=
  let cs := Text.trim s.toList
  match Numeral.readInt64? cs with
  | some n => n
  | none => ((Numeral.readBinary64? cs).map Binary64.toInt64).getD 0

/-- The count that a value stands for. -/
def Value.toCount : Value → Int64
  | .int n => n
  | .float x => x.toInt64
  | .text s => countOfText s
  | .bool b => if b then 1 else 0
  | .null | .blob _ => 0

example : countOfText " 7 " = 7 := by decide +kernel
example : countOfText "-3.9" = -3 := by decide +kernel
example : countOfText "1e99" = 9223372036854775807 := by decide +kernel
example : countOfText "many" = 0 := by decide +kernel

end BoundSql
