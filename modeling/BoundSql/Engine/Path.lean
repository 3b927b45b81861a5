/-
  Paths of files.

  A path is a sequence of steps with slashes between them; a path that begins
  with a slash starts at the root.  Paths are kept as bytes.

  * `same` tells whether two paths are written alike, but for slashes and
    steps that lead nowhere;
  * `resolve` gives the steps from the root to what a path names, seen from a
    directory.
-/

namespace BoundSql.Engine.Path

/-- The byte between the steps of a path. -/
def slash : UInt8 := 0x2f

/-- The step that stays where it is. -/
def here : List UInt8 := [0x2e]

/-- The step that leads back. -/
def back : List UInt8 := [0x2e, 0x2e]

/-- What stands between the slashes; `n` slashes separate `n + 1` parts. -/
def parts : List UInt8 → List (List UInt8)
  | [] => [[]]
  | b :: bs =>
    match parts bs with
    | part :: rest => if b = slash then [] :: part :: rest else (b :: part) :: rest
    | [] => [[b]]

/-- Whether a part is a step that leads somewhere. -/
def isStep (part : List UInt8) : Bool := !part.isEmpty && part != here

/-- Whether a path starts at the root. -/
def isAbsolute (path : List UInt8) : Bool := path.head? = some slash

/-- The steps of a path. -/
def steps (path : List UInt8) : List (List UInt8) := (parts path).filter isStep

/-- Whether two paths are written alike.  A `.` counts only where a relative
    path begins with it. -/
def same (p q : List UInt8) : Bool :=
  isAbsolute p == isAbsolute q && beginsHere p == beginsHere q && steps p == steps q
where
  /-- Whether the first part is a `.`. -/
  beginsHere (path : List UInt8) : Bool := (parts path).head? = some here

/-- The steps from the root to what a path names, where `directory` holds those
    to the directory in which a relative path starts. -/
def resolve (directory : List (List UInt8)) (path : List UInt8) : List (List UInt8) :=
  (steps path).foldl (fun found step => if step = back then found.dropLast else found ++ [step])
    (if isAbsolute path then [] else directory)

example : same "a//b/".toUTF8.toList "a/./b".toUTF8.toList = true := by decide +kernel
example : same "./a".toUTF8.toList "a".toUTF8.toList = false := by decide +kernel
example : resolve [] "/a/b/.././c/".toUTF8.toList = ["a", "c"].map (·.toUTF8.toList) := by
  decide +kernel

end BoundSql.Engine.Path
