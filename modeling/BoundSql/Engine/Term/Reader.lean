/-
  Terms read from tokens.

  Operators bind by level, from OR, which binds least, to the concatenation of
  texts; those of one level group to the left.  `climb` reads a term whose
  operators are of a level or above, `operand` what stands between operators,
  and `extend` goes on after a term.  The fuel is bounded by the number of
  tokens.
-/
import BoundSql.Engine.Reading

namespace BoundSql.Engine.Reading

/-! ## Operators -/

/-- How strongly operators bind. -/
inductive Level where
  | or
  | and
  | not
  | equality
  | order
  | bits
  | sum
  | product
  | concat
  /-- No operator between two terms. -/
  | none
deriving DecidableEq

namespace Level

/-- The levels by number. -/
def rank : Level → Nat
  | .or => 0
  | .and => 1
  | .not => 2
  | .equality => 3
  | .order => 4
  | .bits => 5
  | .sum => 6
  | .product => 7
  | .concat => 8
  | .none => 9

/-- The next level. -/
def next : Level → Level
  | .or => .and
  | .and => .not
  | .not => .equality
  | .equality => .order
  | .order => .bits
  | .bits => .sum
  | .sum => .product
  | .product => .concat
  | .concat | .none => .none

end Level

/-- The operators between two terms that are symbols. -/
def operators : List (String × Level × Binary) :=
  [("=", .equality, .compare .eq), ("==", .equality, .compare .eq),
    ("<>", .equality, .compare .ne), ("!=", .equality, .compare .ne),
    ("<", .order, .compare .lt), ("<=", .order, .compare .le),
    (">", .order, .compare .gt), (">=", .order, .compare .ge),
    ("&", .bits, .calculate .bitAnd), ("|", .bits, .calculate .bitOr),
    ("<<", .bits, .calculate .shiftLeft), (">>", .bits, .calculate .shiftRight),
    ("+", .sum, .calculate .add), ("-", .sum, .calculate .sub),
    ("*", .product, .calculate .mul), ("/", .product, .calculate .div),
    ("%", .product, .calculate .rem), ("||", .concat, .concat)]

/-- The operator that a token is, if it is a symbol of a level or above. -/
def operator? (level : Level) (t : Token) : Option (Level × Binary) :=
  ((operators.find? (t.isSymbol ·.1)).map Prod.snd).filter fun p => level.rank ≤ p.1.rank

/-- A term that is put together of others, which can be too deep. -/
def composed (e : Term) : Reading Term := do
  if (← get).fault.isNone then
    match e.checked with
    | .ok _ => pure ()
    | .error fault => note fault
  return e

/-! ## Literals -/

/-- Digits without their separators, each of which has to stand between two
    digits. -/
def separated (t : Token) : Reading String := do
  let cs := t.text.toList
  let isDigit := if isHex cs then Token.isHex else Char.isDigit
  match (badPlaces isDigit cs).getLast? with
  | none => return String.ofList (cs.filter (· ≠ '_'))
  | some n =>
    let kept := (cs.take n).filter (· ≠ '_')
    note (.malformedNumber (String.ofList (kept ++ cs.drop kept.length)))
    return "0"
where
  /-- Whether digits are hexadecimal. -/
  isHex : List Char → Bool
    | '0' :: x :: _ => x = 'x' || x = 'X'
    | _ => false
  /-- The places of separators that do not stand between two digits. -/
  badPlaces (isDigit : Char → Bool) (cs : List Char) : List Nat :=
    (List.range cs.length).filter fun n =>
      cs[n]? = some '_' &&
        !(((cs[n - 1]?.map isDigit).getD false) && ((cs[n + 1]?.map isDigit).getD false))

/-- The number that is written. -/
def number (text : String) (offset : Nat) : Term :=
  let cs := text.toList
  if separated.isHex cs then .hexadecimal text offset
  else if cs.all Char.isDigit then .natural (Numeral.value cs) offset
  else .literal (.ofBinary64 (RealText.read cs).value)

/-- The words for the present, which is the beginning of time. -/
def present : List (String × String) :=
  [("current_date", "1970-01-01"), ("current_time", "00:00:00"),
    ("current_timestamp", "1970-01-01 00:00:00")]

/-- The literal that a word is, if it is one. -/
def literalWord? (t : Token) : Option Cell :=
  if t.isKeyword "null" then some .null
  else (present.find? (t.isKeyword ·.1)).map fun p => .ofText p.2

/-- The literal or placeholder that a token is, if it is one. -/
def literal? (t : Token) : Option (Reading Term) :=
  match t.kind with
  | .integer | .decimal => some (return number t.text t.offset)
  | .separated => some do return number (← separated t) t.offset
  | .string => some (return .literal (.ofText t.value))
  | .blob => some (return .literal (.blob t.bytes))
  | .placeholder => some (param t)
  | .word => (literalWord? t).map fun c => return .literal c
  | _ => none

/-! ## Types -/

/-- A number with or without a sign. -/
def signedNumber : Reading String := do
  let sign ← accept? fun t => t.isSymbol "+" || t.isSymbol "-"
  let t ← expect fun t => t.kind = .integer || t.kind = .decimal
  return ((sign.map Token.text).getD "") ++ t.text

/-- The words of the name of a type; `fuel` bounds their number. -/
def typeWords : Nat → Reading (List String)
  | 0 => return []
  | fuel + 1 => do
    match ← accept? Token.isAlias with
    | some t => return t.value :: (← typeWords fuel)
    | none => return []

/-- The preferred type behind the name of a type, which may have a size. -/
def typeName : Reading Affinity := do
  let words ← typeWords (← fuel)
  unless words.isEmpty do
    if ← acceptSymbol "(" then
      let _ ← signedNumber
      if ← acceptSymbol "," then
        let _ ← signedNumber
      expectSymbol ")"
  return Affinity.ofType (" ".intercalate words)

/-! ## Names -/

/-- A name with those that qualify it, after the first of them. -/
def columnName (t : Token) : Reading Term := do
  let rest ← dotted 2
  let names := t :: rest
  let last := names.getLast?.getD t
  return .name
    { qualifiers := (names.dropLast).map Token.value, name := last.value, quote := last.quote?,
      offset := t.offset }
where
  /-- At most `fuel` names, each after a dot. -/
  dotted : Nat → Reading (List Token)
    | 0 => return []
    | fuel + 1 => do
      if ← acceptSymbol "." then
        let t ← expect Token.isName
        return t :: (← dotted fuel)
      else return []

/-! ## Terms -/

/-- Takes tokens that fit, as many as there are, and counts them. -/
def countWhile (fits : Token → Bool) : Reading Nat := do
  let n := ((← get).tokens.takeWhile fits).length
  skip n
  return n

/-- A term that is denied a number of times. -/
def deny : Nat → Term → Reading Term
  | 0, e => return e
  | n + 1, e => do deny n (← composed (.unary .not e))

/-- The sign that a token is, if it is one. -/
def sign? (t : Token) : Option Unary :=
  if t.isSymbol "-" then some .minus
  else if t.isSymbol "+" then some .plus
  else if t.isSymbol "~" then some .complement
  else none

/-- Goes past the word of a query within a term, which is no term. -/
def refuseQuery : Reading Unit := do
  for word in ["select", "values", "with"] do
    if ← acceptKeyword word then unexpected

mutual

/-- A term with operators of a level or above. -/
def climb (level : Level) : Nat → Reading Term
  | 0 => unexpected
  | fuel + 1 => do extend level (← operand fuel) fuel

/-- A term without operators between others, unless in parentheses. -/
def operand : Nat → Reading Term
  | 0 => unexpected
  | fuel + 1 => do
    let denials ← countWhile (Token.isKeyword "not")
    let signs := ((← get).tokens.takeWhile fun t => (sign? t).isSome).filterMap sign?
    if 0 < denials then deny denials (← climb .not fuel)
    else if !signs.isEmpty then
      skip signs.length
      signs.reverse.foldlM (fun e sign => composed (.signed sign e)) (← operand fuel)
    else
      let parentheses ← countWhile (Token.isSymbol "(")
      if 0 < parentheses then
        refuseQuery
        close (parentheses - 1) (← climb .or fuel) fuel
      else
        match ← peek with
        | none => unexpected
        | some t =>
          let next := (← get).tokens.tail.head?
          let called := (next.map (Token.isSymbol "(")).getD false
          let dotted := (next.map (Token.isSymbol ".")).getD false
          if t.isColumn && called then
            skip 2
            call ⟨t.value, t.offset⟩ fuel
          else if t.isColumn || (t.isQualifier && dotted) then
            skip 1
            columnName t
          else
            match literal? t with
            | some read =>
              skip 1
              read
            | none => special fuel

/-- A term that begins with a word of its own. -/
def special : Nat → Reading Term
  | 0 => unexpected
  | fuel + 1 => do
    if ← acceptKeyword "cast" then
      expectSymbol "("
      let e ← climb .or fuel
      expectKeyword "as"
      let a ← typeName
      expectSymbol ")"
      composed (.cast a e)
    else if ← acceptKeyword "case" then
      let base ← if ← isNext (Token.isKeyword "when") then pure none else some <$> climb .or fuel
      composed (.choice (← branches base [] fuel))
    else
      if (← acceptKeyword "exists") || (← acceptKeyword "raise") then expectSymbol "("
      unexpected

/-- The branches of a choice, after those that are read already, the last of
    which comes first.  A condition may be a value that `base` is compared
    with. -/
def branches (base : Option Term) (read : List Term) : Nat → Reading (List Term)
  | 0 => unexpected
  | fuel + 1 => do
    expectKeyword "when"
    let e ← climb .or fuel
    let condition := (base.map fun b => .binary (.compare .eq) b e).getD e
    expectKeyword "then"
    let read := (← climb .or fuel) :: condition :: read
    if ← isNext (Token.isKeyword "when") then branches base read fuel
    else
      let read ← if ← acceptKeyword "else" then pure ((← climb .or fuel) :: read) else pure read
      expectKeyword "end"
      return read.reverse

/-- A term in parentheses after its first closing one, `n` more of which are
    open. -/
def close (n : Nat) (e : Term) : Nat → Reading Term
  | 0 => unexpected
  | fuel + 1 => do
    expectSymbol ")"
    if n = 0 then return e else close (n - 1) (← extend .or e fuel) fuel

/-- A call after the opening parenthesis. -/
def call (f : FunctionName) : Nat → Reading Term
  | 0 => unexpected
  | fuel + 1 => do
    if ← acceptSymbol "*" then
      expectSymbol ")"
      return .callStar f
    else
      let distinct ← acceptKeyword "distinct"
      unless distinct do
        let _ ← acceptKeyword "all"
      let isEmpty ← isNext fun t => t.isSymbol ")" || t.isKeyword "order"
      let arguments ← if isEmpty then pure [] else list [] fuel
      if ← acceptKeyword "order" then
        expectKeyword "by"
        takenOrder fuel
      expectSymbol ")"
      composed (.call f distinct arguments)

/-- The order in which a function is taken of rows, which makes no
    difference. -/
def takenOrder : Nat → Reading Unit
  | 0 => unexpected
  | fuel + 1 => do
    let _ ← climb .or fuel
    let _ ← direction
    if ← acceptSymbol "," then takenOrder fuel

/-- Terms separated by commas, after those that are read already, the last of
    which comes first. -/
def list (read : List Term) : Nat → Reading (List Term)
  | 0 => unexpected
  | fuel + 1 => do
    let read := (← climb .or fuel) :: read
    if ← acceptSymbol "," then list read fuel else return read.reverse

/-- What follows a term, up to the operators below a level. -/
def extend (level : Level) (e : Term) : Nat → Reading Term
  | 0 => unexpected
  | fuel + 1 => do
    match ← peek with
    | none => return e
    | some t =>
      match operator? level t with
      | some (found, op) =>
        skip 1
        extend level (← composed (.binary op e (← climb found.next fuel))) fuel
      | none =>
        if t.isKeyword "or" && level.rank ≤ Level.or.rank then
          skip 1
          extend level (← composed (.binary .or e (← climb .and fuel))) fuel
        else if t.isKeyword "and" && level.rank ≤ Level.and.rank then
          skip 1
          extend level (← composed (.conjunction e (← climb .not fuel))) fuel
        else if level.rank ≤ Level.equality.rank && t.isTest then
          extend level (← test e fuel) fuel
        else return e

/-- What is said of a term in words. -/
def test (e : Term) : Nat → Reading Term
  | 0 => unexpected
  | fuel + 1 => do
    if ← acceptKeyword "isnull" then composed (.isNull e false)
    else if ← acceptKeyword "notnull" then composed (.isNull e true)
    else if ← acceptKeyword "is" then
      let negated ← acceptKeyword "not"
      let distinct ← acceptKeyword "distinct"
      if distinct then expectKeyword "from"
      let negated := negated != distinct
      match ← climb .order fuel with
      | .literal .null => composed (.isNull e negated)
      | other => composed (.binary (.is negated) e other)
    else
      let negated ← acceptKeyword "not"
      if ← acceptKeyword "in" then
        expectSymbol "("
        refuseQuery
        if ← acceptSymbol ")" then return .truth negated
        else
          let list ← list [] fuel
          expectSymbol ")"
          composed (.negatedIf negated (← composed (.within e list)))
      else if ← acceptKeyword "between" then
        let low ← climb .equality fuel
        let low ← if ← isNext (Token.isKeyword "or") then extend .or low fuel else pure low
        expectKeyword "and"
        let high ← climb .order fuel
        composed (.negatedIf negated (← composed (.between e low high)))
      else
        match ← accept? fun t => t.isKeyword "like" || t.isKeyword "regexp" with
        | some t =>
          let call : Term := .call ⟨t.text, t.offset⟩ false [← climb .order fuel, e]
          composed (.negatedIf negated (← composed call))
        | none =>
          expectKeyword "null"
          composed (.isNull e true)

end

/-- A term. -/
def term : Reading Term := do climb .or (4 * (← fuel) + 4)

end BoundSql.Engine.Reading
