/-
  JSON values and their compact text.

  * `Json` has integers apart from floating point numbers, and keeps the
    members of an object in the order in which they are written;
  * `Json.quote` is the text of a string: quotes, backslashes and controls are
    escaped, everything else stands for itself;
  * `Json.print` is the text of a value, without blanks.
-/
import BoundSql.Decimal.Layout

namespace BoundSql

/-- A JSON value. -/
inductive Json where
  | null
  | bool (b : Bool)
  | integer (i : Int)
  | float (x : Binary64)
  | string (s : String)
  | array (items : List Json)
  | object (members : List (String × Json))

namespace Json

/-! ## Strings -/

/-- A character inside a string. -/
def quoteChar (c : Char) : List Char :=
  match c with
  | '"' => ['\\', '"']
  | '\\' => ['\\', '\\']
  | '\x08' => ['\\', 'b']
  | '\x0c' => ['\\', 'f']
  | '\n' => ['\\', 'n']
  | '\r' => ['\\', 'r']
  | '\t' => ['\\', 't']
  | c =>
    if c.toNat < 0x20 then
      ['\\', 'u', '0', '0', Nat.digitChar (c.toNat / 16), Nat.digitChar (c.toNat % 16)]
    else [c]

/-- The text of a string. -/
def quote (s : String) : String :=
  String.ofList ('"' :: (s.toList.flatMap quoteChar ++ ['"']))

/-! ## Values -/

mutual

/-- The text of a value. -/
def print : Json → String
  | .null => "null"
  | .bool b => if b then "true" else "false"
  | .integer i => toString i
  | .float x => Layout.json.render x
  | .string s => quote s
  | .array items => "[" ++ ",".intercalate (printItems items) ++ "]"
  | .object members => "\x7b" ++ ",".intercalate (printMembers members) ++ "\x7d"

/-- The texts of the items of an array. -/
def printItems : List Json → List String
  | [] => []
  | v :: vs => v.print :: printItems vs

/-- The texts of the members of an object. -/
def printMembers : List (String × Json) → List String
  | [] => []
  | m :: ms => printMember m :: printMembers ms

/-- The text of a member: its name, a colon, its value. -/
def printMember : String × Json → String
  | (name, v) => quote name ++ ":" ++ v.print

end

theorem printItems_eq_map (vs : List Json) : printItems vs = vs.map print := by
  induction vs with
  | nil => rfl
  | cons v vs ih => simp [printItems, ih]

theorem printMembers_eq_map (ms : List (String × Json)) :
    printMembers ms = ms.map fun m => quote m.1 ++ ":" ++ m.2.print := by
  induction ms with
  | nil => rfl
  | cons m ms ih =>
    obtain ⟨name, v⟩ := m
    simp [printMembers, printMember, ih]

example : quote "a\"\x1f\x7f" = "\"a\\\"\\u001f\x7f\"" := by decide +kernel
example : print (.array [.null, .integer (-5), .object []]) = "[null,-5,\x7b\x7d]" := by cbv

end Json

end BoundSql
