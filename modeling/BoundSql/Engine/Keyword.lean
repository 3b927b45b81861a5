/-
  The words with a meaning in commands.

  Only the reserved ones cannot be names.  The words for the ways to join are
  names too, but cannot follow what they name without AS.
-/
import BoundSql.Clause

namespace BoundSql.Engine.Keyword

/-- The words that are never names. -/
def reserved : List String :=
  ["add", "all", "alter", "and", "as", "autoincrement", "between", "case", "check", "collate",
    "commit", "constraint", "create", "default", "deferrable", "delete", "distinct", "drop",
    "else", "escape", "except", "exists", "foreign", "from", "group", "having", "in", "index",
    "insert", "intersect", "into", "is", "isnull", "join", "limit", "not", "nothing", "notnull",
    "null", "on", "or", "order", "primary", "references", "returning", "select", "set", "table",
    "then", "to", "transaction", "union", "unique", "update", "using", "values", "when", "where"]

/-- The words that can name something, but not without AS in front. -/
def attached : List String :=
  ["cross", "full", "indexed", "inner", "left", "natural", "outer", "right"]

/-- The words that begin something else where a value is wanted. -/
def leading : List String :=
  ["cast", "current_date", "current_time", "current_timestamp", "raise"]

/-- Whether a word is among others, in any case. -/
def isAmong (words : List String) (word : String) : Bool := words.any (sameIgnoringCase · word)

/-- Whether a word can be a name. -/
def isName (word : String) : Bool := !isAmong reserved word

/-- Whether a word can name what stands in front of it. -/
def isAlias (word : String) : Bool := isName word && !isAmong attached word

/-- Whether a word can be a column where a value is wanted. -/
def isColumn (word : String) : Bool := isName word && !isAmong leading word

example : isName "LEFT" = true := by decide +kernel
example : isAlias "left" = false := by decide +kernel
example : isName "isNull" = false := by decide +kernel

end BoundSql.Engine.Keyword
