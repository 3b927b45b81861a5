/-
  Reading the tokens of a command.

  * `Remaining` is what is left of a text, with the placeholders so far;
  * `Reading` is work on it, which fails at the first token that does not fit;
    `note` takes down what is wrong for other reasons;
  * `accept?` takes a token if it fits, `expect` demands it, and `commas` reads
    a list.
-/
import BoundSql.Engine.Term
import BoundSql.Engine.Token
import BoundSql.Decimal.Numeral

namespace BoundSql.Engine

/-- The tokens of a text that are left, and the placeholders read. -/
structure Remaining where
  text : String
  tokens : List Token
  /-- The number of tokens in the beginning. -/
  size : Nat := tokens.length
  /-- The largest number of a placeholder. -/
  params : Nat := 0
  /-- The numbers of the placeholders with names. -/
  named : List (String × Nat) := []
  /-- What is wrong with what is read, although it fits. -/
  fault : Option EngineFault := none

/-- Reading a command, up to the first token that does not fit.  Another fault
    counts as soon as the next token is taken. -/
abbrev Reading := StateT Remaining (Except EngineFault)

namespace Reading

/-! ## Tokens -/

/-- The fault of a token that does not fit. -/
def faultAt (text : String) (t : Token) : EngineFault :=
  let place : Place := ⟨text, t.offset⟩
  if t.kind = .illegal then .unrecognized t.text place else .syntaxNear t.text place

/-- Fails at the next token. -/
def unexpected {α : Type} : Reading α := do
  let s ← get
  match s.tokens with
  | [] => throw .incomplete
  | t :: _ => throw (faultAt s.text t)

/-- The next token, which stays. -/
def peek : Reading (Option Token) := return (← get).tokens.head?

/-- Whether the next token fits. -/
def isNext (fits : Token → Bool) : Reading Bool := return ((← peek).map fits).getD false

/-- Takes a number of tokens. -/
def skip (n : Nat) : Reading Unit := do
  let s ← get
  match s.fault, n with
  | some fault, _ + 1 => throw fault
  | _, _ => set { s with tokens := s.tokens.drop n }

/-- Notes what is wrong with what is read. -/
def note (fault : EngineFault) : Reading Unit := modify fun s => { s with fault := some fault }

/-- Takes the next token if it fits. -/
def accept? (fits : Token → Bool) : Reading (Option Token) := do
  match (← get).tokens with
  | t :: _ => if fits t then do skip 1; return some t else return none
  | [] => return none

/-- Takes the next token, which has to fit. -/
def expect (fits : Token → Bool) : Reading Token := do
  match ← accept? fits with
  | some t => return t
  | none => unexpected

/-- Takes a keyword if it comes next. -/
def acceptKeyword (keyword : String) : Reading Bool :=
  return (← accept? (Token.isKeyword keyword)).isSome

/-- Takes a symbol if it comes next. -/
def acceptSymbol (symbol : String) : Reading Bool :=
  return (← accept? (Token.isSymbol symbol)).isSome

/-- Takes a keyword, which has to come next. -/
def expectKeyword (keyword : String) : Reading Unit := do
  let _ ← expect (Token.isKeyword keyword)

/-- Takes a symbol, which has to come next. -/
def expectSymbol (symbol : String) : Reading Unit := do
  let _ ← expect (Token.isSymbol symbol)

/-- Takes a name, which has to come next. -/
def name : Reading String := return (← expect Token.isName).value

/-- The number of all tokens, which bounds what can be read. -/
def fuel : Reading Nat := return (← get).size

/-- The text from a token to the next one, or to the end. -/
def textFrom (t : Token) : Reading String := do
  let span :=
    match ← peek with
    | some next => upTo (next.offset - t.offset) [] t.rest
    | none => t.rest.reverse
  return String.ofList ((span.dropWhile isSpace).reverse.dropWhile isSpace)
where
  /-- The characters that fill a number of bytes, the last one first. -/
  upTo (bytes : Nat) (read : List Char) : List Char → List Char
    | [] => read
    | c :: cs => if bytes = 0 then read else upTo (bytes - c.utf8Size) (c :: read) cs
  /-- The blanks of ASCII. -/
  isSpace (c : Char) : Bool := c = ' ' || ('\t' ≤ c && c ≤ '\r')

/-! ## Lists -/

/-- What follows the first of things that are separated by commas, the last one
    first; `fuel` bounds their number. -/
def commaList {α : Type} (item : Reading α) (read : List α) : Nat → Reading (List α)
  | 0 => unexpected
  | fuel + 1 => do
    let read := (← item) :: read
    if ← acceptSymbol "," then commaList item read fuel else return read

/-- One thing or more, separated by commas. -/
def commas {α : Type} (item : Reading α) : Reading (List α) :=
  return (← commaList item [] ((← fuel) + 1)).reverse

/-- Things in parentheses, separated by commas. -/
def parenthesised {α : Type} (item : Reading α) : Reading (List α) := do
  expectSymbol "("
  let items ← commas item
  expectSymbol ")"
  return items

/-- A direction to order in, and whether nulls come first in it. -/
def direction : Reading (Direction × Bool) := do
  let descending ← acceptKeyword "desc"
  unless descending do
    let _ ← acceptKeyword "asc"
  let direction := if descending then .desc else .asc
  if ← acceptKeyword "nulls" then
    if ← acceptKeyword "last" then return (direction, false)
    else
      expectKeyword "first"
      return (direction, true)
  else return (direction, !descending)

/-! ## Placeholders -/

/-- Counts a placeholder, which is that of a number. -/
def countParam (n : Nat) (place : Place) : Reading Term := do
  if variableLimit < n then note (.tooManyVariables place)
  modify fun s => { s with params := max s.params n }
  return .param (n - 1)

/-- The placeholder that a token is: the next one, that of a number, or that of
    a name. -/
def param (t : Token) : Reading Term := do
  let s ← get
  let place : Place := ⟨s.text, t.offset⟩
  match t.text.toList with
  | ['?'] => countParam (s.params + 1) place
  | '?' :: digits =>
    let n := Numeral.value digits
    if 1 ≤ n ∧ n ≤ variableLimit then countParam n place
    else
      note (.variableNumber place)
      return .param 0
  | '#' :: c :: _ =>
    if c.isDigit then note (.syntaxNear t.text place)
    named t.text place
  | _ => named t.text place
where
  /-- The placeholder of a name. -/
  named (name : String) (place : Place) : Reading Term := do
    let s ← get
    match s.named.find? (·.1 = name) with
    | some (_, n) => return .param (n - 1)
    | none =>
      set { s with named := (name, s.params + 1) :: s.named }
      countParam (s.params + 1) place

end Reading

end BoundSql.Engine
