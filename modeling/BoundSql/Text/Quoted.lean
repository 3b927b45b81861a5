/-
  Text in quotation marks, as messages show it.

  Quotes, backslashes and the common controls have short escapes.  A character
  that extends the one before it, or that has no visible form, is written by
  its number; every other one stands for itself.
-/
import BoundSql.Text.Unprintable
import BoundSql.Text.Combining

namespace BoundSql.Text

/-- Whether an odd number of the changes are at most `n`. -/
def changedAt (changes : List Nat) (n : Nat) : Bool :=
  changes.foldl (fun inside k => if k ≤ n then !inside else inside) false

/-- Whether a character is shown by its number. -/
def isHidden (c : Char) : Bool :=
  changedAt unprintableChanges c.toNat || changedAt combiningChanges c.toNat

/-- A character inside quotation marks. -/
def quotedChar (c : Char) : List Char :=
  match c with
  | '\x00' => ['\\', '0']
  | '\t' => ['\\', 't']
  | '\n' => ['\\', 'n']
  | '\r' => ['\\', 'r']
  | '"' => ['\\', '"']
  | '\\' => ['\\', '\\']
  | c =>
    if isHidden c then '\\' :: 'u' :: '\x7b' :: (Nat.toDigits 16 c.toNat ++ ['\x7d']) else [c]

/-- Text in quotation marks. -/
def quoted (s : String) : String :=
  String.ofList ('"' :: (s.toList.flatMap quotedChar ++ ['"']))

example : isHidden 'é' = false := by decide +kernel
example : isHidden '\u0301' = true := by decide +kernel
example : isHidden '\u00a0' = true := by decide +kernel
example : isHidden '日' = false := by decide +kernel
example : quoted "a\"\x08" = "\"a\\\"\\u\x7b8\x7d\"" := by decide +kernel

end BoundSql.Text
