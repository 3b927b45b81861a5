/-
  Universally unique identifiers.

  * `Uuid.read?` accepts 32 hexadecimal digits of any case, also with hyphens
    after the 8th, 12th, 16th and 20th, and the latter in braces or after
    `urn:uuid:`, which may be in any case too;
  * `Uuid.text` is the hyphenated form in lower case.
-/
import BoundSql.Text.Scan

namespace BoundSql

/-- An identifier, as its 32 hexadecimal digits. -/
structure Uuid where
  digits : List Nat
deriving DecidableEq, Repr

namespace Uuid

/-- Removes the hyphens, which must stand in their places. -/
def unhyphenate? (cs : List Char) : Option (List Char) :=
  let group (start size : Nat) : List Char := (cs.drop start).take size
  let groups := [group 0 8, group 9 4, group 14 4, group 19 4, group 24 12]
  if cs.length = 36 ∧ cs = (['-'].intercalate groups) then some groups.flatten else none

/-- The digits of a text in one of the accepted forms. -/
def digits? (cs : List Char) : Option (List Char) :=
  if cs.length = 32 then some cs
  else if cs.head? = some '\x7b' ∧ cs.getLast? = some '\x7d' then
    unhyphenate? (cs.drop 1).dropLast
  else match Text.afterInAnyCase? "urn:uuid:".toList cs with
    | some cs => unhyphenate? cs
    | none => unhyphenate? cs

/-- The identifier that a text is. -/
def read? (s : String) : Option Uuid := do
  let digits ← (← digits? s.toList).mapM Text.hexValue?
  if digits.length = 32 then some ⟨digits⟩ else none

/-- The hyphenated form, in lower case. -/
def text (u : Uuid) : String :=
  let cs := u.digits.map Nat.digitChar
  let group (start size : Nat) : List Char := (cs.drop start).take size
  String.ofList (['-'].intercalate [group 0 8, group 8 4, group 12 4, group 16 4, group 20 12])

example : (read? "\x7b67E55044-10b1-426f-9247-bb680e5fe0c8\x7d").map text =
    some "67e55044-10b1-426f-9247-bb680e5fe0c8" := by decide +kernel
example : (read? "67e5504410b1426f9247bb680e5fe0c8").map text =
    some "67e55044-10b1-426f-9247-bb680e5fe0c8" := by decide +kernel
example : (read? "URN:uuid:67e55044-10b1-426f-9247-bb680e5fe0c8").map text =
    some "67e55044-10b1-426f-9247-bb680e5fe0c8" := by decide +kernel
example : read? "67e55044-10b1-426f-9247bb-680e5fe0c8" = none := by decide +kernel

end Uuid

end BoundSql
