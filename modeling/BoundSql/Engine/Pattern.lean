/-
  Patterns of LIKE.

  In a pattern, `%` stands for any text and `_` for any one character; a letter
  of ASCII stands for itself in any case.
-/
import BoundSql.Engine.Affinity

namespace BoundSql.Engine.Pattern

/-- Whether a character of a pattern fits one of a text. -/
def fits (p c : Char) : Bool := p = '_' || p.toLower = c.toLower

/-- Whether a pattern fits the whole of a text. -/
def isMatch (pattern text : List Char) : Bool :=
  match pattern, text with
  | [], text => text.isEmpty
  | '%' :: ps, [] => isMatch ps []
  | '%' :: ps, c :: cs => isMatch ps (c :: cs) || isMatch ('%' :: ps) cs
  | p :: ps, c :: cs => fits p c && isMatch ps cs
  | _ :: _, [] => false
termination_by pattern.length + text.length

/-- The characters of text, up to the first NUL. -/
def characters (bytes : List UInt8) : List Char :=
  let bytes := bytes.takeWhile (· ≠ 0)
  match Utf8.decode bytes with
  | .ok s => s.toList
  | .error _ => Cell.characters bytes

/-- Whether a cell is like a pattern, both taken as text. -/
def like (pattern c : Cell) : Cell :=
  if pattern.isNull || c.isNull then .null
  else
    .ofTruth (some (isMatch (characters pattern.toText.bytes) (characters c.toText.bytes)))

example : like (.ofText "a_%") (.ofText "ABc") = .integer 1 := by decide +kernel
example : like (.ofText "1_") (.integer 123) = .integer 0 := by decide +kernel

end BoundSql.Engine.Pattern
