/-
  What the database engine refuses, by cause.

  A fault that is found at a word of a command knows its `Place`, and its
  message names it.  `EngineFault.message` holds all wording.
-/

namespace BoundSql

/-- A place in the text of a command. -/
structure Place where
  text : String
  /-- The number of bytes in front of the place. -/
  offset : Nat
deriving DecidableEq

/-- The words that name a place. -/
def Place.words (p : Place) : String := " in " ++ p.text ++ " at offset " ++ toString p.offset

/-! ## Limits -/

/-- The depth of an expression. -/
def depthLimit : Nat := 1000

/-- The number of columns of a result, or of terms of a list of columns. -/
def columnLimit : Nat := 2000

/-- The number of a placeholder. -/
def variableLimit : Nat := 32766

/-- The number of SELECTs that are united. -/
def compoundLimit : Nat := 500

/-! ## Causes -/

/-- A refusal. -/
inductive EngineFault where
  -- Words
  | syntaxNear (token : String) (place : Place)
  | unrecognized (token : String) (place : Place)
  /-- Separators of digits that do not stand between two of them. -/
  | malformedNumber (token : String)
  | hexTooBig (literal : String) (place : Place)
  | incomplete
  | variableNumber (place : Place)
  | tooManyVariables (place : Place)
  -- Names
  | noSuchTable (name : String)
  | tableExists (name : String) (place : Place)
  | noTables
  /-- A column that is read. -/
  | noSuchColumn (name : String) (place : Place)
  /-- A column that an UPDATE sets. -/
  | noUpdateColumn (name : String)
  | noInsertColumn (table column : String)
  | noSuchFunction (name : String) (place : Place)
  | argumentCount (function : String) (place : Place)
  /-- Distinct values of nothing. -/
  | distinctArgument
  /-- A function of all rows where there is only one. -/
  | misusedFunction (function : String) (place : Place)
  /-- The same, where the function is behind a name, or in a list of terms. -/
  | misusedAggregate (function : String) (place : Place)
  -- Shapes
  | expressionTooDeep
  | tooManyColumns (list : String)
  | tooManyTerms (clause : String)
  | tooManySelects
  /-- A row of values of another length than the list of columns. -/
  | valueCount (values columns : Nat)
  | unequalRows
  /-- A clause of a SELECT before the word that unites it with another. -/
  | misplacedClause (clause union : String)
  /-- United SELECTs with results of different widths. -/
  | unequalWidths (union : String)
  /-- A term, counted from 1, that is the number of no column. -/
  | orderOutOfRange (term columns : Nat) (place : Option Place)
  /-- A term, counted from 1, that is no column of united SELECTs. -/
  | orderUnmatched (term : Nat)
  -- Rows
  | duplicateKey (column : String)
  | datatypeMismatch
  | integerOverflow
  | bindPosition
  -- Files
  | readOnly
  | cannotOpen (path : String)
  /-- A directory that is read as a file. -/
  | diskFault
  /-- An option of a URI with a value that it does not have. -/
  | noSuchMode (option value : String)
  /-- An access that is asked for where it is not granted. -/
  | modeNotAllowed (value : String)
  | noSuchFileSystem (name : String)
  /-- A URI of another machine. -/
  | foreignAuthority (name : String)
  /-- A path with a NUL in it, after a number of bytes. -/
  | nulByte (offset : Nat)
deriving DecidableEq

/-! ## Wording -/

/-- A number with the ending that puts it in order. -/
def ordinal (n : Nat) : String :=
  let ending :=
    if n % 100 / 10 = 1 then "th"
    else match n % 10 with
      | 1 => "st"
      | 2 => "nd"
      | 3 => "rd"
      | _ => "th"
  toString n ++ ending

/-- The words for a fault. -/
def EngineFault.message : EngineFault → String
  | .syntaxNear token place => "near \"" ++ token ++ "\": syntax error" ++ place.words
  | .unrecognized token place => "unrecognized token: \"" ++ token ++ "\"" ++ place.words
  | .malformedNumber token => "unrecognized token: \"" ++ token ++ "\""
  | .hexTooBig literal place => "hex literal too big: " ++ literal ++ place.words
  | .incomplete => "incomplete input"
  | .variableNumber place =>
    "variable number must be between ?1 and ?" ++ toString variableLimit ++ place.words
  | .tooManyVariables place => "too many SQL variables" ++ place.words
  | .noSuchTable name => "no such table: " ++ name
  | .tableExists name place => "table " ++ name ++ " already exists" ++ place.words
  | .noTables => "no tables specified"
  | .noSuchColumn name place => "no such column: " ++ name ++ place.words
  | .noUpdateColumn name => "no such column: " ++ name
  | .noInsertColumn table column => "table " ++ table ++ " has no column named " ++ column
  | .noSuchFunction name place => "no such function: " ++ name ++ place.words
  | .argumentCount function place =>
    "wrong number of arguments to function " ++ function ++ "()" ++ place.words
  | .distinctArgument => "DISTINCT aggregates must have exactly one argument"
  | .misusedFunction function place =>
    "misuse of aggregate function " ++ function ++ "()" ++ place.words
  | .misusedAggregate function place => "misuse of aggregate: " ++ function ++ "()" ++ place.words
  | .expressionTooDeep =>
    "Expression tree is too large (maximum depth " ++ toString depthLimit ++ ")"
  | .tooManyColumns list => "too many columns in " ++ list
  | .tooManyTerms clause => "too many terms in " ++ clause ++ " clause"
  | .tooManySelects => "too many terms in compound SELECT"
  | .valueCount values columns =>
    toString values ++ " values for " ++ toString columns ++ " columns"
  | .unequalRows => "all VALUES must have the same number of terms"
  | .misplacedClause clause union =>
    clause ++ " clause should come after " ++ union ++ " not before"
  | .unequalWidths union =>
    "SELECTs to the left and right of " ++ union ++
      " do not have the same number of result columns"
  | .orderOutOfRange term columns place =>
    ordinal term ++ " ORDER BY term out of range - should be between 1 and " ++
      toString columns ++ (place.map Place.words).getD ""
  | .orderUnmatched term =>
    ordinal term ++ " ORDER BY term does not match any column in the result set"
  | .duplicateKey column => "UNIQUE constraint failed: " ++ column
  | .datatypeMismatch => "datatype mismatch"
  | .integerOverflow => "integer overflow"
  | .bindPosition => "column index out of range"
  | .readOnly => "attempt to write a readonly database"
  | .cannotOpen path => "unable to open database file: " ++ path
  | .diskFault => "disk I/O error"
  | .noSuchMode option value => "no such " ++ option ++ " mode: " ++ value
  | .modeNotAllowed value => "access mode not allowed: " ++ value
  | .noSuchFileSystem name => "no such vfs: " ++ name
  | .foreignAuthority name => "invalid uri authority: " ++ name
  | .nulByte offset => "nul byte found in provided data at position: " ++ toString offset

example : [1, 2, 3, 4, 11, 21, 112].map ordinal =
    ["1st", "2nd", "3rd", "4th", "11th", "21st", "112th"] := by decide +kernel

end BoundSql
