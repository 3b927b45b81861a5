/-
  The words of a command.

  `Token.scan` splits a text into words, names in quotes, literals,
  placeholders and symbols; blanks and comments separate them.  A token knows
  its place, by the number of bytes in front of it, and the text from there on.
  What begins no token is a token of its own, which fits nowhere.
-/
import BoundSql.Engine.Keyword
import BoundSql.Text.Scan

namespace BoundSql.Engine

/-- The sorts of tokens. -/
inductive TokenKind where
  | word
  /-- A name in quotes. -/
  | quotedName
  | string
  | blob
  | integer
  | decimal
  /-- Digits with separators between them. -/
  | separated
  | placeholder
  | symbol
  | illegal
deriving DecidableEq

/-- A token of a command. -/
structure Token where
  kind : TokenKind
  /-- The token as it is written. -/
  text : String
  /-- The number of bytes in front of the token. -/
  offset : Nat
  /-- The text from the token on. -/
  rest : List Char
deriving DecidableEq

namespace Token

/-! ## Characters -/

/-- The blanks between tokens: those of ASCII, and the mark of byte order. -/
def isBlank (c : Char) : Bool :=
  c = ' ' || c = '\t' || c = '\n' || c = '\x0c' || c = '\r' || c = '\ufeff'

/-- Letters, the underscore, and everything beyond ASCII begin a word. -/
def isWordStart (c : Char) : Bool := c.isAlpha || c = '_' || 0x80 ≤ c.toNat

/-- The characters of a word after the first. -/
def isWordPart (c : Char) : Bool := isWordStart c || c.isDigit || c = '$'

/-- Whether a character is a hexadecimal digit. -/
def isHex (c : Char) : Bool := (Text.hexValue? c).isSome

/-! ## Blanks and comments -/

/-- The number of characters up to the end of a comment of several lines,
    which may also be that of the text. -/
def closing : List Char → Nat
  | '*' :: '/' :: _ => 2
  | _ :: cs => closing cs + 1
  | [] => 0

/-- The number of characters of the blank or comment that comes first. -/
def blankLength : List Char → Nat
  | '-' :: '-' :: cs => 2 + (cs.takeWhile (· ≠ '\n')).length
  | '/' :: '*' :: c :: cs => 2 + closing (c :: cs)
  | c :: _ => if isBlank c then 1 else 0
  | [] => 0

/-! ## Tokens -/

/-- The length of digits and the separators among them. -/
def digitsLength (isDigit : Char → Bool) (cs : List Char) : Nat :=
  (cs.takeWhile fun c => isDigit c || c = '_').length

/-- The length of the exponent that comes first, if one does. -/
def exponentLength : List Char → Nat
  | e :: cs =>
    let mark := match cs with
      | '+' :: _ | '-' :: _ => 1
      | _ => 0
    if (e = 'e' || e = 'E') && ((cs.drop mark).head?.map Char.isDigit).getD false then
      1 + mark + digitsLength Char.isDigit (cs.drop mark)
    else 0
  | [] => 0

/-- The length of a number. -/
def numberLength (cs : List Char) : Nat × Bool :=
  match cs with
  | '0' :: x :: d :: rest =>
    if (x = 'x' || x = 'X') && isHex d then (2 + digitsLength isHex (d :: rest), false)
    else decimalLength cs
  | cs => decimalLength cs
where
  /-- The length of a decimal, and whether it has a point or an exponent. -/
  decimalLength (cs : List Char) : Nat × Bool :=
    let whole := digitsLength Char.isDigit cs
    let point := match cs.drop whole with
      | '.' :: rest => 1 + digitsLength Char.isDigit rest
      | _ => 0
    let power := exponentLength (cs.drop (whole + point))
    (whole + point + power, 0 < point + power)

/-- The kind and length of the number that comes first; what follows it at
    once may not be part of a word. -/
def number (cs : List Char) : TokenKind × Nat :=
  let (length, isDecimal) := numberLength cs
  let tail := ((cs.drop length).takeWhile isWordPart).length
  let kind : TokenKind :=
    if 0 < tail then .illegal
    else if (cs.take length).contains '_' then .separated
    else if isDecimal then .decimal
    else .integer
  (kind, length + tail)

/-- The length of what is in quotes, after the first of them; two quotes stand
    for one.  There is none if the end is missing. -/
def quotedLength? (quote : Char) : List Char → Option Nat
  | c :: d :: cs =>
    if c = quote then
      if d = quote then (quotedLength? quote cs).map (· + 2) else some 1
    else (quotedLength? quote (d :: cs)).map (· + 1)
  | [c] => if c = quote then some 1 else none
  | [] => none

/-- The kind and length of a token of a kind that is in quotes. -/
def quoted (kind : TokenKind) (start : Nat) (length? : Option Nat) (cs : List Char) :
    TokenKind × Nat :=
  match length? with
  | some n => (kind, start + n)
  | none => (.illegal, cs.length)

/-- The kind and length of the bytes that come first, after their quote. -/
def blob (cs : List Char) : TokenKind × Nat :=
  let digits := (cs.takeWhile isHex).length
  let whole := (cs.takeWhile (· ≠ '\'')).length
  let length := 2 + whole + (if whole < cs.length then 1 else 0)
  (if digits = whole && digits % 2 = 0 && whole < cs.length then .blob else .illegal, length)

/-- The kind and length of a placeholder with a name, after the sign in front;
    `named` tells whether there is a part of a name so far.  A name may have
    pairs of colons in it, and something in parentheses at its end. -/
def placeholderName (named : Bool) : List Char → TokenKind × Nat
  | ':' :: ':' :: cs =>
    let (kind, n) := placeholderName named cs
    (kind, n + 2)
  | c :: cs =>
    if isWordPart c then
      let (kind, n) := placeholderName true cs
      (kind, n + 1)
    else if c = '(' && named then
      let inside := (cs.takeWhile fun c => c ≠ ')' && c ≠ ' ' && !('\t' ≤ c && c ≤ '\r')).length
      if cs[inside]? = some ')' then (.placeholder, inside + 2)
      else (.illegal, inside + 1)
    else (if named then .placeholder else .illegal, 0)
  | [] => (if named then .placeholder else .illegal, 0)

/-- The symbols of more than one character, the longest first. -/
def longSymbols : List String :=
  ["->>", "||", "<=", "<>", "<<", ">=", ">>", "==", "!=", "->"]

/-- The symbols of one character. -/
def symbols : List Char :=
  ['(', ')', ';', '+', '-', '*', '/', '%', '=', '<', '>', '|', ',', '&', '~', '.']

/-- The kind and length of a symbol, or of a character that begins no token. -/
def symbol (cs : List Char) : TokenKind × Nat :=
  match longSymbols.find? fun s => s.toList.isPrefixOf cs with
  | some s => (.symbol, s.length)
  | none => (if symbols.any fun c => cs.head? = some c then .symbol else .illegal, 1)

/-- The kind and length of the token that comes first. -/
def first (c : Char) (cs : List Char) : TokenKind × Nat :=
  let parts := (cs.takeWhile isWordPart).length
  if (c = 'x' || c = 'X') && cs.head? = some '\'' then blob (cs.drop 1)
  else if isWordStart c then (.word, 1 + parts)
  else if c.isDigit || (c = '.' && (cs.head?.map Char.isDigit).getD false) then number (c :: cs)
  else if c = '\'' then quoted .string 1 (quotedLength? c cs) (c :: cs)
  else if c = '"' || c = '\x60' then quoted .quotedName 1 (quotedLength? c cs) (c :: cs)
  else if c = '[' then
    let inside := (cs.takeWhile (· ≠ ']')).length
    quoted .quotedName 1 (if inside < cs.length then some (inside + 1) else none) (c :: cs)
  else if c = '?' then (.placeholder, 1 + (cs.takeWhile Char.isDigit).length)
  else if c = ':' || c = '@' || c = '$' || c = '#' then
    let (kind, n) := placeholderName false cs
    (kind, 1 + n)
  else symbol (c :: cs)

/-- The tokens of a text, the first of which has `offset` bytes in front, after
    those that are read already, the last of which comes first.  The command
    ends with the first semicolon behind a token. -/
def scanFrom (offset : Nat) (read : List Token) : List Char → List Token
  | [] => read.reverse
  | c :: cs =>
    let blank := blankLength (c :: cs)
    if 0 < blank then
      scanFrom (offset + size ((c :: cs).take blank)) read (cs.drop (blank - 1))
    else
      let (kind, length) := first c cs
      let text := (c :: cs).take length
      let t : Token := ⟨kind, String.ofList text, offset, c :: cs⟩
      if kind = .symbol && c = ';' && !read.isEmpty then (t :: read).reverse
      else if kind = .symbol && c = ';' then scanFrom (offset + 1) [] cs
      else scanFrom (offset + size text) (t :: read) (cs.drop (length - 1))
termination_by cs => cs.length
decreasing_by all_goals (try simp only [List.length_drop]); simp only [List.length_cons]; omega
where
  /-- The number of bytes of characters. -/
  size (cs : List Char) : Nat := cs.foldl (fun n c => n + c.utf8Size) 0

/-- The tokens of a text, which ends at its first NUL. -/
def scan (text : String) : List Token := scanFrom 0 [] (text.toList.takeWhile (· ≠ '\x00'))

/-! ## Tests -/

/-- Whether a token is a given keyword, in any case. -/
def isKeyword (keyword : String) (t : Token) : Bool :=
  t.kind = .word && sameIgnoringCase t.text keyword

/-- Whether a token is a given symbol. -/
def isSymbol (symbol : String) (t : Token) : Bool := t.kind = .symbol && t.text = symbol

/-- Whether a token is a name. -/
def isName (t : Token) : Bool :=
  t.kind = .quotedName || t.kind = .string || (t.kind = .word && Keyword.isName t.text)

/-- Whether a token names what stands in front of it. -/
def isAlias (t : Token) : Bool :=
  t.kind = .quotedName || t.kind = .string || (t.kind = .word && Keyword.isAlias t.text)

/-- Whether a token is a column where a value is wanted. -/
def isColumn (t : Token) : Bool :=
  t.kind = .quotedName || (t.kind = .word && Keyword.isColumn t.text)

/-- Whether a token is a name with which a longer one can begin where a value is
    wanted. -/
def isQualifier (t : Token) : Bool := t.isColumn || t.kind = .string

/-- Whether a token begins what is said of a term in words. -/
def isTest (t : Token) : Bool :=
  ["is", "isnull", "notnull", "not", "in", "between", "like", "regexp"].any (t.isKeyword ·)

/-- The quote around a name. -/
def quote? (t : Token) : Option Char := if t.kind = .word then none else t.rest.head?

/-! ## What tokens stand for -/

/-- Text with two quotes in place of one. -/
def unquote (quote : Char) : List Char → List Char
  | c :: d :: cs =>
    if c = quote && d = quote then quote :: unquote quote cs else c :: unquote quote (d :: cs)
  | cs => cs

/-- What a token names, or the text that it writes. -/
def value (t : Token) : String :=
  match t.kind, t.text.toList with
  | .quotedName, '[' :: cs => String.ofList cs.dropLast
  | .quotedName, c :: cs | .string, c :: cs => String.ofList (unquote c cs.dropLast)
  | _, _ => t.text

/-- The bytes that a token writes. -/
def bytes (t : Token) : List UInt8 :=
  (Text.readHexBytes? ((t.text.toList.drop 2).dropLast)).getD []

example : (scan "SELECT é,k").map Token.offset = [0, 7, 9, 10] := by decide +kernel
example : (scan "a--b\n/* c */\"d\"\"e\" x; y").map Token.value = ["a", "d\"e", "x", ";"] := by
  decide +kernel
example : (scan ".5 1e5 0x1F 12a ?3 x'00'").map Token.kind =
    [.decimal, .decimal, .integer, .illegal, .placeholder, .blob] := by decide +kernel

end Token

end BoundSql.Engine
