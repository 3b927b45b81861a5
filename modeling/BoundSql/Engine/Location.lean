/-
  Where a database is, and what may be done with it.

  A text that begins with `file:` is a URI: an authority, which has to be this
  machine, a path, and options in a query, of which `mode`, `cache`, `vfs` and
  `immutable` count; any other text is a path.  Escapes by two hexadecimal
  digits are bytes of the path or of an option; an escaped NUL ends it.

  * `Access` orders what may be done with a file;
  * `Location.read` gives the place that a text names, or why it names none.
-/
import BoundSql.Error
import BoundSql.Text.Scan
import BoundSql.Decimal.Numeral

namespace BoundSql.Engine

/-! ## Access -/

/-- What may be done with a database. -/
inductive Access where
  | readOnly
  | readWrite
  /-- To read and write, and to create a file that is missing. -/
  | create
  /-- Everything, in memory. -/
  | memory
deriving DecidableEq, Repr

namespace Access

/-- The word of an option for an access. -/
def read? (word : List UInt8) : Option Access :=
  ([("ro", .readOnly), ("rw", .readWrite), ("rwc", .create), ("memory", .memory)].find? fun p =>
    p.1.toUTF8.toList = word).map Prod.snd

/-- How much an access allows to do with a file. -/
def strength : Access → Nat
  | .readOnly => 1
  | .readWrite => 2
  | .create => 3
  | .memory => 4

/-- Whether the second may be asked for where the first is granted. -/
def grants (granted asked : Access) : Bool :=
  asked = .memory || asked.strength ≤ granted.strength

end Access

/-! ## Locations -/

/-- The place of a database. -/
structure Location where
  /-- The path, as bytes. -/
  path : List UInt8
  access : Access
  /-- Whether the file is taken to stay as it is. -/
  immutable : Bool := false
  /-- Whether files are looked for in memory. -/
  inMemory : Bool := false
deriving DecidableEq, Repr

namespace Location

/-- Whether the database is no file, and is lost when it is closed. -/
def isTransient (l : Location) : Bool :=
  l.access = .memory || l.inMemory || l.path.isEmpty || l.path = ":memory:".toUTF8.toList

/-- Whether the database may only be read. -/
def isReadOnly (l : Location) : Bool := l.access = .readOnly || l.immutable

/-! ## URIs -/

/-- The value of a byte that writes a hexadecimal digit. -/
def hexByte? (b : UInt8) : Option Nat := Text.hexValue? (Char.ofNat b.toNat)

/-- Bytes with the escaped ones in place of their escapes; a NUL ends them. -/
def unescape : List UInt8 → List UInt8
  | 0x25 :: c :: d :: rest =>
    match hexByte? c, hexByte? d with
    | some high, some low =>
      if 16 * high + low = 0 then [] else UInt8.ofNat (16 * high + low) :: unescape rest
    | _, _ => 0x25 :: unescape (c :: d :: rest)
  | b :: rest => b :: unescape rest
  | [] => []

/-- What precedes a byte, and what follows it if it is there. -/
def splitAt (b : UInt8) (bs : List UInt8) : List UInt8 × List UInt8 :=
  (bs.takeWhile (· ≠ b), (bs.dropWhile (· ≠ b)).drop 1)

/-- The options of a query, each with a name. -/
def options (query : List UInt8) : List (List UInt8 × List UInt8) :=
  (pieces query.length query).filterMap fun piece =>
    let (name, value) := splitAt 0x3d piece
    if (unescape name).isEmpty then none else some (unescape name, unescape value)
where
  /-- The pieces between ampersands. -/
  pieces : Nat → List UInt8 → List (List UInt8)
    | 0, _ => []
    | n + 1, bs => (splitAt 0x26 bs).1 :: pieces n (splitAt 0x26 bs).2

/-- The names of the ways to reach files, and that to keep them in memory. -/
def fileSystems : List String := ["unix", "unix-none", "unix-dotfile", "unix-excl"]

/-- Bytes as text, for messages. -/
def shown (bytes : List UInt8) : String :=
  match Utf8.decode bytes with
  | .ok s => s
  | .error _ => String.ofList (bytes.map fun b => Char.ofNat b.toNat)

/-- Whether the value of an option says yes. -/
def saysYes (value : List UInt8) : Bool :=
  let cs := (shown value).toList
  match cs.head?.map Char.isDigit with
  | some true => Numeral.value (cs.takeWhile Char.isDigit) % 256 ≠ 0
  | _ => ["on", "yes", "true"].any fun word => word.toList = cs.map Char.toLower

/-- What the options `mode` and `cache` say about the access. -/
def applyOption (l : Location) : List UInt8 × List UInt8 → Except EngineFault Location
  | (name, value) =>
    if name = "mode".toUTF8.toList then
      match Access.read? value with
      | none => .error (.noSuchMode "access" (shown value))
      | some access =>
        if l.access.grants access then .ok { l with access }
        else .error (.modeNotAllowed (shown value))
    else if name = "cache".toUTF8.toList then
      if value = "shared".toUTF8.toList || value = "private".toUTF8.toList then .ok l
      else .error (.noSuchMode "cache" (shown value))
    else .ok l

/-- What the last option `vfs` says about the way to reach files. -/
def applyFileSystem (l : Location) (options : List (List UInt8 × List UInt8)) :
    Except EngineFault Location :=
  match options.reverse.lookup "vfs".toUTF8.toList with
  | none => .ok l
  | some name =>
    if name = "memdb".toUTF8.toList then .ok { l with inMemory := true }
    else if fileSystems.any (·.toUTF8.toList = name) then .ok l
    else .error (.noSuchFileSystem (shown name))

/-- What follows the authority of a URI, which is empty or this machine. -/
def afterAuthority (rest : List UInt8) : Except EngineFault (List UInt8) :=
  match rest with
  | 0x2f :: 0x2f :: rest =>
    let authority := rest.takeWhile (· ≠ 0x2f)
    if authority.isEmpty || authority = "localhost".toUTF8.toList then
      .ok (rest.dropWhile (· ≠ 0x2f))
    else .error (.foreignAuthority (shown authority))
  | rest => .ok rest

/-- The place that a URI names, after its scheme. -/
def ofUri (access : Access) (rest : List UInt8) : Except EngineFault Location := do
  let rest ← afterAuthority rest
  let (path, query) := splitAt 0x3f (splitAt 0x23 rest).1
  let options := options query
  let immutable := (options.lookup "immutable".toUTF8.toList).any saysYes
  let l ← options.foldlM applyOption { path := unescape path, access, immutable }
  l.applyFileSystem options

/-- The place that a text names, where an access is granted. -/
def read (access : Access) (text : String) : Except EngineFault Location :=
  let bytes := text.toUTF8.toList
  if bytes.contains 0 then .error (.nulByte (bytes.takeWhile (· ≠ 0)).length)
  else if bytes.take 5 = "file:".toUTF8.toList then ofUri access (bytes.drop 5)
  else .ok { path := bytes, access }

end Location

end BoundSql.Engine
