/-
  Rows that a SELECT computes.

  * `Rows` are the rows of a result in the order in which they come, and what
    ended them early, if anything did;
  * `Pass.rows` reads one table: the rows that meet the condition, or one row
    made of all of them by functions;
  * `Rows.unite` puts the rows of two SELECTs together;
  * `Retrieval.rows` orders the rows and leaves out those that are not asked
    for.
-/
import BoundSql.Engine.Plan

namespace BoundSql.Engine

/-- A row of a result, and the cells by which it is ordered. -/
structure ResultRow where
  cells : List Cell
  keys : List Cell := []

/-- Rows, and what ended them early. -/
structure Rows where
  rows : List ResultRow := []
  fault : Option EngineFault := none

/-! ## Order -/

/-- The order of rows, cell by cell. -/
def orderCells : List Cell → List Cell → Ordering
  | a :: as, b :: bs => (a.order b).then (orderCells as bs)
  | [], [] => .eq
  | [], _ :: _ => .lt
  | _ :: _, [] => .gt

namespace OrderTerm

/-- The order of two cells under a term; nulls are at the end that it names. -/
def order {α : Type} (t : OrderTerm α) (x y : Cell) : Ordering :=
  match x.isNull, y.isNull with
  | true, true => .eq
  | true, false => if t.nullsFirst then .lt else .gt
  | false, true => if t.nullsFirst then .gt else .lt
  | false, false =>
    match t.direction with
    | .asc => x.order y
    | .desc => (x.order y).swap

/-- The order of two lists of cells under as many terms. -/
def orderAll {α : Type} : List (OrderTerm α) → List Cell → List Cell → Ordering
  | t :: ts, x :: xs, y :: ys => (t.order x y).then (orderAll ts xs ys)
  | _, _, _ => .eq

end OrderTerm

namespace Rows

/-- Rows without those that occurred before. -/
def distinct (rows : List ResultRow) : List ResultRow :=
  rows.eraseDupsBy fun a b => orderCells a.cells b.cells == .eq

/-- Rows in an order; rows that are equal in it stay as they come. -/
def sorted {α : Type} (terms : List (OrderTerm α)) (r : Rows) : Rows :=
  if terms.isEmpty then r
  else
    { rows :=
        if r.fault.isSome then []
        else r.rows.mergeSort fun a b => OrderTerm.orderAll terms a.keys b.keys != .gt
      fault := r.fault }

/-- Rows with those of a united SELECT.  Without repeats they are sorted; of
    equal rows the last one stays, or the first of the last SELECT if they are
    sorted by themselves before. -/
def unite (all ordered : Bool) (left right : Rows) : Rows :=
  if all then
    match left.fault with
    | some _ => left
    | none => ⟨left.rows ++ right.rows, right.fault⟩
  else
    match left.fault, right.fault with
    | none, none =>
      let kept :=
        if ordered then distinct (right.rows ++ left.rows)
        else distinct (left.rows ++ right.rows).reverse
      { rows := kept.mergeSort fun a b => orderCells a.cells b.cells != .gt }
    | some fault, _ | none, some fault => ⟨[], some fault⟩

end Rows

/-! ## One table -/

namespace Pass

/-- The state of looking for a row: the searches with what they are for,
    whether the last of them that said so found the best one, and the row. -/
structure Sampling where
  searches : List (Search × Expression)
  hit : Bool := true
  row : Option (List Cell) := none

/-- The state after one more row. -/
def Sampling.visit (params : Array Cell) (s : Sampling) (row : List Cell) : Sampling :=
  let visited := s.searches.map fun (search, e) =>
    let (search, hit) := search.visit (e.eval { params, row })
    ((search, e), hit)
  let hit := ((visited.filterMap Prod.snd).getLast?).getD s.hit
  ⟨visited.map Prod.fst, hit, if hit then some row else s.row⟩

/-- The row that the columns are read from where one row is made of all: the
    one that was the best for the last function that looks for one, or else the
    first. -/
def sample (p : Pass) (params : Array Cell) (group : List (List Cell)) : List Cell :=
  let searches := p.aggregations.eraseDups.filterMap fun c =>
    match c.function with
    | .min => some (({ best := .lt, distinct := c.distinct } : Search), c.argument)
    | .max => some ({ best := .gt, distinct := c.distinct }, c.argument)
    | _ => none
  if searches.isEmpty then group.head?.getD []
  else (group.foldl (Sampling.visit params) { searches }).row.getD []

/-- Whether the rows are read in the order that is asked for, which is that of
    the keys. -/
def isByKey (p : Pass) : Bool := (p.orderBy.head?.map OrderTerm.value) == some (.column 0)

/-- The row of the columns in an environment. -/
def row (p : Pass) (env : Environment) : ResultRow where
  cells := p.columns.map (·.value.eval env)
  keys := p.orderBy.map (·.value.eval env)

/-- The rows from those of the table. -/
def rows (p : Pass) (params : Array Cell) (found : List (List Cell)) : Rows :=
  let group := found.filter fun row =>
    match p.filter with
    | none => true
    | some e => e.holds { params, row }
  if p.aggregations.isEmpty then
    let rows := group.map fun row => p.row { params, row }
    if !p.distinct then ({ rows } : Rows).sorted p.orderBy
    else if p.isByKey then { rows := Rows.distinct (({ rows } : Rows).sorted p.orderBy).rows }
    else ({ rows := Rows.distinct rows } : Rows).sorted p.orderBy
  else
    let env : Environment := { params, row := p.sample params group, group }
    match p.aggregations.findSome? fun c => c.fault? env with
    | some fault => ⟨[], some fault⟩
    | none => { rows := [p.row env] }

end Pass

/-! ## Pages -/

namespace Page

/-- The number of rows that an expression asks for. -/
def count (params : Array Cell) (e : Expression) : Except EngineFault Int :=
  match (e.eval { params }).toKey? with
  | some n => .ok n.toInt
  | none => .error .datatypeMismatch

/-- The first row that is asked for, and how many, if not all; a negative
    number of rows is all of them. -/
def bounds (params : Array Cell) (p : Page Expression) : Except EngineFault (Nat × Option Nat) := do
  let limit ← count params p.limit
  if limit = 0 then return (0, some 0)
  let offset ← match p.offset with
    | none => pure 0
    | some e => count params e
  return (offset.toNat, if limit < 0 then none else some limit.toNat)

/-- The rows from one on, of which some are taken.  What comes after them
    cannot fail. -/
def slice (start : Nat) (length : Option Nat) (r : Rows) : Rows :=
  let rows := r.rows.drop start
  match length with
  | none => { r with rows }
  | some n => ⟨rows.take n, if n ≤ rows.length then none else r.fault⟩

end Page

/-! ## All of it -/

namespace Retrieval

/-- The passes after the first that are united before the part that is asked
    for is known: those up to the last union that drops repeated rows. -/
def early (r : Retrieval) : List (Bool × Pass) := (r.more.reverse.dropWhile (·.1)).reverse

/-- A pass whose repeated rows are dropped by a union that follows. -/
def relaxed (p : Pass) (later : List (Bool × Pass)) : Pass :=
  if later.any (!·.1) then { p with distinct := false } else p

/-- Rows with those of the passes that follow. -/
def uniteAll (ordered : Bool) (read : Pass → Rows) (rows : Rows) : List (Bool × Pass) → Rows
  | [] => rows
  | (all, p) :: later =>
    uniteAll ordered read (rows.unite all ordered (read (relaxed p ((all, p) :: later)))) later

/-- The rows of the result, where `found` gives those that a pass reads. -/
def rows (r : Retrieval) (params : Array Cell) (found : Pass → List (List Cell)) :
    Except EngineFault Rows := do
  let ordered := !r.orderBy.isEmpty
  let read (p : Pass) : Rows := p.rows params (found p)
  let first := uniteAll ordered read (read (relaxed r.first r.more)) r.early
  match first.fault, !ordered && !r.early.isEmpty with
  | some fault, true => throw fault
  | _, _ =>
    let bounds ← r.page.mapM (Page.bounds params)
    let united := uniteAll ordered read first (r.more.drop r.early.length)
    let keyed (row : ResultRow) : ResultRow :=
      { row with keys := r.orderBy.map fun t => row.cells[t.value]?.getD .null }
    let sorted := if ordered
      then ({ united with rows := united.rows.map keyed } : Rows).sorted r.orderBy
      else united
    match bounds with
    | none => return sorted
    | some (start, length) => return Page.slice start length sorted

end Retrieval

end BoundSql.Engine
