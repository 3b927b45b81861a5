/-
  Text from bytes.

  `decode` reads UTF-8.  A sequence that is not well formed is reported as
  `Malformed`: how many bytes before it are text, and how many bytes of it can
  be told apart as wrong, or that the input ends inside it.
-/

namespace BoundSql.Utf8

/-- The first place at which bytes are not UTF-8. -/
structure Malformed where
  /-- The number of bytes before it that are text. -/
  validLength : Nat
  /-- The number of its bytes that begin no character; `none` when the bytes
      end inside a character. -/
  invalidLength : Option Nat
deriving DecidableEq, Repr

/-- The words for a place that is not text. -/
def Malformed.message (m : Malformed) : String :=
  match m.invalidLength with
  | some n =>
    "invalid utf-8 sequence of " ++ toString n ++ " bytes from index " ++ toString m.validLength
  | none => "incomplete utf-8 byte sequence from index " ++ toString m.validLength

/-- A byte that continues a character. -/
def isContinuation (b : UInt8) : Bool := 0x80 ≤ b && b ≤ 0xbf

/-- The number of bytes of a character, by its first byte; `0` for a byte that
    begins none. -/
def width (b : UInt8) : Nat :=
  if b < 0x80 then 1
  else if 0xc2 ≤ b && b ≤ 0xdf then 2
  else if 0xe0 ≤ b && b ≤ 0xef then 3
  else if 0xf0 ≤ b && b ≤ 0xf4 then 4
  else 0

/-- Whether the second byte of a character may follow the first: overlong
    forms, surrogates and numbers beyond Unicode are excluded here. -/
def isSecond (first b : UInt8) : Bool :=
  if first = 0xe0 then 0xa0 ≤ b && b ≤ 0xbf
  else if first = 0xed then 0x80 ≤ b && b ≤ 0x9f
  else if first = 0xf0 then 0x90 ≤ b && b ≤ 0xbf
  else if first = 0xf4 then 0x80 ≤ b && b ≤ 0x8f
  else isContinuation b

/-- The beginning of a character of several bytes. -/
structure Begun where
  first : UInt8
  /-- The number of bytes read. -/
  read : Nat
  /-- The number of bytes to come. -/
  missing : Nat
  /-- The bits of the character's number in the bytes read. -/
  payload : Nat

/-- A character of `w` bytes after its first one. -/
def Begun.ofFirst (w : Nat) (b : UInt8) : Begun := ⟨b, 1, w - 1, b.toNat % Nat.pow 2 (7 - w)⟩

/-- Whether a byte continues the character. -/
def Begun.accepts (p : Begun) (b : UInt8) : Bool :=
  if p.read = 1 then isSecond p.first b else isContinuation b

/-- The character with one more byte read. -/
def Begun.push (p : Begun) (b : UInt8) : Begun :=
  ⟨p.first, p.read + 1, p.missing - 1, 64 * p.payload + b.toNat % 64⟩

/-- Reads bytes of which the first `valid` before them are text, and after
    these perhaps the beginning of a character. -/
def decodeFrom (valid : Nat) : Option Begun → List UInt8 → Except Malformed (List Char)
  | none, [] => .ok []
  | some _, [] => .error ⟨valid, none⟩
  | none, b :: bs =>
    match width b with
    | 0 => .error ⟨valid, some 1⟩
    | 1 => (decodeFrom (valid + 1) none bs).map (Char.ofNat b.toNat :: ·)
    | w => decodeFrom valid (some (.ofFirst w b)) bs
  | some p, b :: bs =>
    if !p.accepts b then .error ⟨valid, some p.read⟩
    else
      let p := p.push b
      if p.missing = 0 then
        (decodeFrom (valid + p.read) none bs).map (Char.ofNat p.payload :: ·)
      else decodeFrom valid (some p) bs

/-- The text that the bytes spell. -/
def decode (bytes : List UInt8) : Except Malformed String :=
  (decodeFrom 0 none bytes).map String.ofList

/-! ## Written down -/

example : decode [0xe6, 0x97, 0xa5, 0x61] = .ok "日a" := by rfl
example : decode [0x61, 0xe2, 0x82] = .error ⟨1, none⟩ := by rfl
example : decode [0xf0, 0x90, 0x61] = .error ⟨0, some 2⟩ := by rfl
example : decode [0xed, 0xa0, 0x80] = .error ⟨0, some 1⟩ := by rfl

end BoundSql.Utf8
