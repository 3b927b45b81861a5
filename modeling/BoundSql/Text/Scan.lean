/-
  Reading the beginning of a text: a fixed word, and hexadecimal digits.
-/

namespace BoundSql.Text

/-- The text after a given beginning. -/
def after? : List Char → List Char → Option (List Char)
  | [], cs => some cs
  | w :: ws, c :: cs => if w = c then after? ws cs else none
  | _ :: _, [] => none

/-- The text after a given beginning; the case of ASCII letters is ignored. -/
def afterInAnyCase? : List Char → List Char → Option (List Char)
  | [], cs => some cs
  | w :: ws, c :: cs => if w.toLower = c.toLower then afterInAnyCase? ws cs else none
  | _ :: _, [] => none

/-- The value of a hexadecimal digit. -/
def hexValue? (c : Char) : Option Nat :=
  if '0' ≤ c && c ≤ '9' then some (c.toNat - '0'.toNat)
  else if 'a' ≤ c && c ≤ 'f' then some (c.toNat - 'a'.toNat + 10)
  else if 'A' ≤ c && c ≤ 'F' then some (c.toNat - 'A'.toNat + 10)
  else none

/-- The number that hexadecimal digits write. -/
def readHex? (cs : List Char) : Option Nat :=
  cs.foldlM (fun n c => (hexValue? c).map (16 * n + ·)) 0

/-- The bytes that pairs of hexadecimal digits write. -/
def readHexBytes? : List Char → Option (List UInt8)
  | [] => some []
  | a :: b :: cs => do
    let n ← readHex? [a, b]
    return UInt8.ofNat n :: (← readHexBytes? cs)
  | [_] => none

/-- A number in at least `width` hexadecimal digits. -/
def hex (width n : Nat) : List Char :=
  let digits := Nat.toDigits 16 n
  List.replicate (width - digits.length) '0' ++ digits

/-- Bytes as pairs of hexadecimal digits. -/
def hexBytes (bytes : List UInt8) : List Char := bytes.flatMap fun b => hex 2 b.toNat

example : readHex? "fF".toList = some 255 := by decide
example : readHexBytes? (hexBytes [0, 10, 255]) = some [0, 10, 255] := by decide

end BoundSql.Text
