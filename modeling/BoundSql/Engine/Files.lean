/-
  The databases on disk.

  A file is found by the steps from the root to it, so that different paths
  may name one file.  Files can only be made in directories, and these are
  given; a directory is no database.
-/
import BoundSql.Engine.Plan
import BoundSql.Engine.Config

namespace BoundSql.Engine

/-- The files of a machine. -/
structure Files where
  /-- The directories, by the steps to them. -/
  directories : List (List (List UInt8)) := [[]]
  /-- The steps to the directory in which relative paths start. -/
  working : List (List UInt8) := []
  databases : List (List (List UInt8) × Database) := []

namespace Files

/-- The number of bytes that a step has at most. -/
def stepLimit : Nat := 255

/-- The steps from the root to the file of a location. -/
def steps (f : Files) (l : Location) : List (List UInt8) := Path.resolve f.working l.path

/-- Finds a database.  One that is missing is made if that is allowed and its
    directory is there; `path` is how the location was written. -/
def locate (f : Files) (path : String) (l : Location) : Except EngineFault Database :=
  let steps := f.steps l
  if l.isTransient then .ok {}
  else if f.directories.contains steps then
    .error (if l.access = .readOnly then .diskFault else .cannotOpen path)
  else match f.databases.lookup steps with
    | some d => .ok d
    | none =>
      if l.access = .create && f.directories.contains steps.dropLast &&
          steps.all (·.length ≤ stepLimit) then
        .ok {}
      else .error (.cannotOpen path)

/-- Keeps a database under the path by which it was opened. -/
def save (f : Files) (path : String) (access : Access) (d : Database) : Files :=
  match Location.read access path with
  | .error _ => f
  | .ok l =>
    if l.isTransient then f
    else { f with databases := (f.steps l, d) :: f.databases.filter (·.1 ≠ f.steps l) }

end Files

end BoundSql.Engine
