/-
  JSON values read from text.

  * `Json.read?` reads a whole text; the steps take the rest of the text and
    give back what follows, and their fuel is bounded by its length;
  * integers are those that fit in 64 bits, with or without a sign; every
    other number, and minus zero, is a floating point number;
  * the members of an object are put in the order of their names, and a
    repeated name has its last value (`Json.putMember`).
-/
import BoundSql.Json.Printer
import BoundSql.Decimal.Numeral
import BoundSql.Text.Scan

namespace BoundSql.Json

/-! ## Pieces -/

/-- The blanks between tokens. -/
def isSpace (c : Char) : Bool := c = ' ' || c = '\t' || c = '\n' || c = '\r'

/-- The text without leading blanks. -/
def skipSpace (cs : List Char) : List Char := cs.dropWhile isSpace

/-- A number of four hexadecimal digits. -/
def readHex4? : List Char → Option (Nat × List Char)
  | a :: b :: c :: d :: cs => (Text.readHex? [a, b, c, d]).map (·, cs)
  | _ => none

/-- A character written by number, as one unit or as a pair of surrogates. -/
def readUnits? (cs : List Char) : Option (Char × List Char) := do
  let (n, cs) ← readHex4? cs
  if 0xd800 ≤ n && n < 0xdc00 then
    match cs with
    | '\\' :: 'u' :: cs =>
      let (m, cs) ← readHex4? cs
      if 0xdc00 ≤ m && m < 0xe000 then
        return (Char.ofNat (0x10000 + (n - 0xd800) * 0x400 + (m - 0xdc00)), cs)
      else none
    | _ => none
  else if 0xdc00 ≤ n && n < 0xe000 then none
  else return (Char.ofNat n, cs)

/-- What a backslash introduces. -/
def readEscape? : List Char → Option (Char × List Char)
  | '"' :: cs => some ('"', cs)
  | '\\' :: cs => some ('\\', cs)
  | '/' :: cs => some ('/', cs)
  | 'b' :: cs => some ('\x08', cs)
  | 'f' :: cs => some ('\x0c', cs)
  | 'n' :: cs => some ('\n', cs)
  | 'r' :: cs => some ('\r', cs)
  | 't' :: cs => some ('\t', cs)
  | 'u' :: cs => readUnits? cs
  | _ => none

/-- The characters of a string up to its closing quote. -/
def readChars? : Nat → List Char → Option (List Char × List Char)
  | 0, _ => none
  | fuel + 1, cs =>
    match cs with
    | [] => none
    | '"' :: cs => some ([], cs)
    | '\\' :: cs => do
      let (c, cs) ← readEscape? cs
      let (s, cs) ← readChars? fuel cs
      return (c :: s, cs)
    | c :: cs =>
      if c.toNat < 0x20 then none
      else do
        let (s, cs) ← readChars? fuel cs
        return (c :: s, cs)

/-- A string after its opening quote. -/
def readString? (cs : List Char) : Option (String × List Char) :=
  (readChars? (cs.length + 1) cs).map fun (s, cs) => (String.ofList s, cs)

/-! ## Numbers -/

/-- One digit or more. -/
def readDigits? (cs : List Char) : Option (List Char × List Char) :=
  let (digits, rest) := Numeral.splitDigits cs
  if digits.isEmpty then none else some (digits, rest)

/-- Digits after a point, if there is a point. -/
def readFraction? : List Char → Option (List Char × List Char)
  | '.' :: cs => readDigits? cs
  | cs => some ([], cs)

/-- An exponent, if there is one. -/
def readExponent? (cs : List Char) : Option (Option Int × List Char) :=
  match cs with
  | [] => some (none, [])
  | c :: rest =>
    if c = 'e' || c = 'E' then do
      let (negative, rest) := Numeral.splitSign rest
      let (digits, rest) ← readDigits? rest
      return (some (Numeral.signed negative (Numeral.value digits)), rest)
    else some (none, cs)

/-- An integer if it fits in 64 bits, with or without a sign. -/
def ofInteger (negative : Bool) (n : Nat) : Json :=
  let i := Numeral.signed negative n
  if negative && n == 0 then .float (Binary64.ofMagnitude true 0)
  else if -Nat.pow 2 63 ≤ i && i < Nat.pow 2 64 then .integer i
  else .float (Binary64.ofInt i)

/-- A number. -/
def readNumber? (cs : List Char) : Option (Json × List Char) := do
  let (negative, cs) : Bool × List Char :=
    match cs with
    | '-' :: cs => (true, cs)
    | cs => (false, cs)
  let (whole, cs) ← readDigits? cs
  if whole.head? = some '0' && 1 < whole.length then none
  else
    let (fraction, cs) ← readFraction? cs
    let (exponent, cs) ← readExponent? cs
    if fraction.isEmpty && exponent.isNone then
      return (ofInteger negative (Numeral.value whole), cs)
    else
      let x := Binary64.ofDecimal negative (Numeral.value (whole ++ fraction))
        (exponent.getD 0 - fraction.length)
      return (.float x, cs)

/-! ## Values -/

/-- Puts a member among members in the order of their names. -/
def putMember (name : String) (v : Json) : List (String × Json) → List (String × Json)
  | [] => [(name, v)]
  | (other, w) :: rest =>
    if name = other then (name, v) :: rest
    else if name < other then (name, v) :: (other, w) :: rest
    else (other, w) :: putMember name v rest

mutual

/-- A value and what follows it. -/
def readValue? : Nat → List Char → Option (Json × List Char)
  | 0, _ => none
  | fuel + 1, cs =>
    match skipSpace cs with
    | '"' :: cs => (readString? cs).map fun (s, cs) => (.string s, cs)
    | '[' :: cs =>
      match skipSpace cs with
      | ']' :: cs => some (.array [], cs)
      | cs => (readItems? fuel cs).map fun (vs, cs) => (.array vs, cs)
    | '\x7b' :: cs =>
      match skipSpace cs with
      | '\x7d' :: cs => some (.object [], cs)
      | cs => (readMembers? fuel [] cs).map fun (ms, cs) => (.object ms, cs)
    | cs =>
      ((Text.after? "null".toList cs).map fun cs => (.null, cs)) <|>
      ((Text.after? "true".toList cs).map fun cs => (.bool true, cs)) <|>
      ((Text.after? "false".toList cs).map fun cs => (.bool false, cs)) <|>
      readNumber? cs

/-- The items of an array that has some, up to its closing bracket. -/
def readItems? : Nat → List Char → Option (List Json × List Char)
  | 0, _ => none
  | fuel + 1, cs => do
    let (v, cs) ← readValue? fuel cs
    match skipSpace cs with
    | ',' :: cs =>
      let (vs, cs) ← readItems? fuel cs
      return (v :: vs, cs)
    | ']' :: cs => return ([v], cs)
    | _ => none

/-- The members of an object that has some, up to its closing brace; `found`
    are those already read. -/
def readMembers? :
    Nat → List (String × Json) → List Char → Option (List (String × Json) × List Char)
  | 0, _, _ => none
  | fuel + 1, found, cs => do
    match skipSpace cs with
    | '"' :: cs =>
      let (name, cs) ← readString? cs
      match skipSpace cs with
      | ':' :: cs =>
        let (v, cs) ← readValue? fuel cs
        match skipSpace cs with
        | ',' :: cs => readMembers? fuel (putMember name v found) cs
        | '\x7d' :: cs => return (putMember name v found, cs)
        | _ => none
      | _ => none
    | _ => none

end

/-- The value that a text is. -/
def read? (text : String) : Option Json := do
  let cs := text.toList
  let (v, cs) ← readValue? (2 * cs.length + 2) cs
  if (skipSpace cs).isEmpty then some v else none

end BoundSql.Json
