/-
  Columns with values, each column once.

  * `set` gives a column a value: a known column keeps its place, a new one
    goes to the end; `ofEntries` sets entries one after the other, so the last
    value of a column counts (`columns_set`, `nodup_columns_ofEntries`);
  * `align?` puts the values in the order of given columns, which have to be
    as many as the assignments.
-/
import BoundSql.Value

namespace BoundSql

/-- Columns with their values, in the order in which they were first set. -/
abbrev Assignments := List (String × Value)

namespace Assignments

/-- Gives a column a value. -/
def set (column : String) (v : Value) : Assignments → Assignments
  | [] => [(column, v)]
  | (c, w) :: rest => if c = column then (c, v) :: rest else (c, w) :: set column v rest

/-- Sets several columns in turn. -/
def setAll (entries : List (String × Value)) (a : Assignments) : Assignments :=
  entries.foldl (fun a (c, v) => a.set c v) a

/-- The assignments that entries make. -/
def ofEntries (entries : List (String × Value)) : Assignments := setAll entries []

/-- The columns, in order. -/
def columns (a : Assignments) : List String := a.map Prod.fst

/-- A new column goes to the end, a known one stays where it is. -/
theorem columns_set (column : String) (v : Value) (a : Assignments) :
    (a.set column v).columns =
      if column ∈ a.columns then a.columns else a.columns ++ [column] := by
  induction a with
  | nil => simp [set, columns]
  | cons e a ih =>
    obtain ⟨c, w⟩ := e
    by_cases h : c = column
    · simp [set, columns, h]
    · have h' : column ≠ c := fun e => h e.symm
      simp only [columns] at ih
      by_cases hm : column ∈ List.map Prod.fst a <;> simp [set, columns, h, h', ih, hm]

theorem nodup_columns_set {column : String} {v : Value} {a : Assignments}
    (h : a.columns.Nodup) : (a.set column v).columns.Nodup := by
  rw [columns_set]
  split
  · exact h
  · next hm =>
    rw [List.nodup_append]
    refine ⟨h, by simp, ?_⟩
    intro x hx y hy
    rw [List.mem_singleton.1 hy]
    rintro rfl
    exact hm hx

theorem nodup_columns_setAll (entries : List (String × Value)) {a : Assignments}
    (h : a.columns.Nodup) : (a.setAll entries).columns.Nodup := by
  induction entries generalizing a with
  | nil => exact h
  | cons e es ih => exact ih (nodup_columns_set h)

/-- No column occurs twice. -/
theorem nodup_columns_ofEntries (entries : List (String × Value)) :
    (ofEntries entries).columns.Nodup :=
  nodup_columns_setAll entries List.nodup_nil

/-! ## Alignment -/

/-- Takes the value of a column away, leaving a null in its place. -/
def take? (column : String) : Assignments → Option (Value × Assignments)
  | [] => none
  | (c, v) :: rest =>
    if c = column then some (v, (c, .null) :: rest)
    else (take? column rest).map fun (w, rest) => (w, (c, v) :: rest)

/-- Takes the values of columns in turn. -/
def takeAll? : List String → Assignments → Option (List Value)
  | [], _ => some []
  | c :: cs, a => do
    let (v, a) ← a.take? c
    return v :: (← takeAll? cs a)

/-- The values in the order of `columns`, if there are as many and each is
    found. -/
def align? (columns : List String) (a : Assignments) : Option (List Value) :=
  if a.length = columns.length then takeAll? columns a else none

end Assignments

end BoundSql
