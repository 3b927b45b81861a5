/-
  Values do not decide what is written.

  * `Query.mapValues f` puts `f v` in the place of every bound value `v`:
    in the conditions at all depths, in the assignments, in the rows, in the
    comparison of groups, and in the members; `Query.shape` forgets the values;
  * `trail_mapValues`, `written_mapValues`: the same rules are broken in the
    same order, and the same text is written around the values;
  * `compile_mapValues`: a query and the query with other values compile to the
    same text, or fail in the same way, and queries of one shape do so too.
-/
import BoundSql.Proofs.Written

namespace BoundSql

open Render

/-! ## Trails -/

namespace Trail

variable {α : Type} (f : Value → Value)

/-- The trail with other values. -/
def mapValues (t : Trail) : Trail := t.map (Except.map f)

theorem values_mapValues (t : Trail) : (t.mapValues f).values = t.values.map f := by
  induction t with
  | nil => rfl
  | cons s t ih =>
    cases s with
    | ok v => exact congrArg (f v :: ·) ih
    | error m => exact ih

theorem outcome_mapValues (a : α) (t : Trail) : (t.mapValues f).outcome a = t.outcome a := by
  induction t with
  | nil => rfl
  | cons s t ih =>
    cases s with
    | ok v => exact ih
    | error m => rfl

theorem mapValues_append (t u : Trail) : mapValues f (t ++ u) = mapValues f t ++ mapValues f u :=
  List.map_append

theorem mapValues_flatMap (as : List α) (t : α → Trail) :
    mapValues f (as.flatMap t) = as.flatMap fun a => mapValues f (t a) :=
  List.map_flatMap

theorem mapValues_map_ok (vs : List Value) : mapValues f (vs.map .ok) = (vs.map f).map .ok := by
  simp only [mapValues, List.map_map]
  rfl

theorem mapValues_breaking (p : Prop) [Decidable p] (m : Misuse) :
    mapValues f (breaking p m) = breaking p m := by
  unfold breaking; split <;> rfl

end Trail

/-! ## Conditions -/

namespace Condition

variable (f : Value → Value)

mutual

/-- The condition with other values. -/
def mapValues : Condition → Condition
  | .compare column op v => .compare column op (f v)
  | .raw sql bindings => .raw sql (bindings.map f)
  | .nullTest column negated => .nullTest column negated
  | .member column values negated => .member column (values.map f) negated
  | .between column low high negated => .between column (f low) (f high) negated
  | .group nodes => .group (mapNodes nodes)

/-- The conditions of a group with other values. -/
def mapNodes : List (Link × Condition) → List (Link × Condition)
  | [] => []
  | n :: ns => mapNode n :: mapNodes ns

/-- The condition with other values, and its link. -/
def mapNode : Link × Condition → Link × Condition
  | (link, c) => (link, c.mapValues)

end

theorem mapNodes_eq_map (nodes : List (Link × Condition)) :
    mapNodes f nodes = nodes.map fun n => (n.1, n.2.mapValues f) := by
  induction nodes with
  | nil => rfl
  | cons n ns ih => rw [mapNodes, ih, List.map_cons, mapNode]

theorem isEmpty_mapNodes (nodes : List (Link × Condition)) :
    (mapNodes f nodes).isEmpty = nodes.isEmpty := by
  rw [mapNodes_eq_map, List.isEmpty_map]

theorem trailNodes_mapNodes {nodes : List (Link × Condition)}
    (h : ∀ n ∈ nodes, (n.2.mapValues f).trail = n.2.trail.mapValues f) :
    trailNodes (mapNodes f nodes) = (trailNodes nodes).mapValues f := by
  rw [trailNodes_eq_flatMap, trailNodes_eq_flatMap, mapNodes_eq_map, List.flatMap_map,
    Trail.mapValues_flatMap]
  exact List.flatMap_congr h

theorem trail_mapValues (c : Condition) : (c.mapValues f).trail = c.trail.mapValues f := by
  induction c with
  | compare | between => rfl
  | nullTest => rfl
  | raw sql bindings =>
    rw [mapValues, trail, trail, Trail.mapValues_map_ok]
  | member column values negated =>
    rw [mapValues, trail, trail, List.isEmpty_map, Trail.mapValues_append,
      Trail.mapValues_breaking, Trail.mapValues_map_ok]
  | group nodes ih =>
    rw [mapValues, trail, trail, isEmpty_mapNodes, trailNodes_mapNodes f ih,
      Trail.mapValues_append, Trail.mapValues_breaking]

variable (lit : Value → String)

theorem writtenNodes_mapNodes {nodes : List (Link × Condition)}
    (h : ∀ n ∈ nodes, (n.2.mapValues f).written lit = n.2.written (lit ∘ f)) :
    writtenNodes lit (mapNodes f nodes) = writtenNodes (lit ∘ f) nodes := by
  rw [writtenNodes_eq_map, writtenNodes_eq_map, mapNodes_eq_map, List.map_map]
  exact List.map_congr_left fun n hn => congrArg (Prod.mk n.1) (h n hn)

theorem written_mapValues (c : Condition) :
    (c.mapValues f).written lit = c.written (lit ∘ f) := by
  induction c with
  | compare | nullTest | between => rfl
  | raw sql bindings => rw [mapValues, written, written, List.map_map]
  | member column values negated => rw [mapValues, written, written, List.map_map]
  | group nodes ih => rw [mapValues, written, written, writtenNodes_mapNodes f lit ih]

end Condition

/-- The filter with other values. -/
def Filter.mapValues (f : Value → Value) (c : Filter) : Filter := Condition.mapNodes f c

theorem Filter.trail_mapValues (f : Value → Value) (c : Filter) :
    (c.mapValues f).trail = c.trail.mapValues f :=
  Condition.trailNodes_mapNodes f fun n _ => n.2.trail_mapValues f

theorem Filter.writtenClause_mapValues (f : Value → Value) (lit : Value → String) (c : Filter) :
    (c.mapValues f).writtenClause lit = c.writtenClause (lit ∘ f) := by
  rw [writtenClause, writtenClause, mapValues, Condition.isEmpty_mapNodes, written, written,
    Condition.writtenNodes_mapNodes f lit fun n _ => n.2.written_mapValues f lit]

/-! ## Clauses -/

namespace Assignments

/-- The assignments with other values. -/
def mapValues (f : Value → Value) (a : Assignments) : Assignments := a.map fun e => (e.1, f e.2)

variable (f : Value → Value) (a : Assignments)

theorem columns_mapValues : (a.mapValues f).columns = a.columns := by
  simp only [columns, mapValues, List.map_map, Function.comp_def]

theorem snd_mapValues : (a.mapValues f).map Prod.snd = (a.map Prod.snd).map f := by
  simp only [mapValues, List.map_map, Function.comp_def]

theorem isEmpty_mapValues : (a.mapValues f).isEmpty = a.isEmpty := List.isEmpty_map

end Assignments

/-- The comparison with another value. -/
def Having.mapValue (f : Value → Value) (h : Having) : Having := { h with value := f h.value }

namespace Clauses

/-- The clauses with other values. -/
def mapValues (f : Value → Value) (c : Clauses) : Clauses :=
  { c with
    filter := c.filter.mapValues f
    sets := c.sets.mapValues f
    firstRow := c.firstRow.mapValues f
    moreRows := c.moreRows.map (List.map f)
    having := c.having.map (Having.mapValue f) }

variable (f : Value → Value) (lit : Value → String) (c : Clauses)

theorem filter_mapValues : (c.mapValues f).filter = c.filter.mapValues f := rfl

theorem sets_mapValues : (c.mapValues f).sets = c.sets.mapValues f := rfl

theorem firstRow_mapValues : (c.mapValues f).firstRow = c.firstRow.mapValues f := rfl

theorem insertedRows_mapValues :
    (c.mapValues f).insertedRows = c.insertedRows.map (List.map f) := by
  rw [insertedRows, firstRow_mapValues, Assignments.snd_mapValues]
  rfl

theorem insertTrail_mapValues : (c.mapValues f).insertTrail = c.insertTrail.mapValues f := by
  rw [insertTrail, insertTrail, firstRow_mapValues, Assignments.isEmpty_mapValues,
    insertedRows_mapValues, ← List.map_flatten, Trail.mapValues_append, Trail.mapValues_breaking,
    Trail.mapValues_map_ok]
  rfl

theorem writtenInsert_mapValues :
    (c.mapValues f).writtenInsert lit = c.writtenInsert (lit ∘ f) := by
  rw [writtenInsert, writtenInsert, firstRow_mapValues, Assignments.columns_mapValues,
    insertedRows_mapValues, List.map_map]
  simp only [Function.comp_def, List.map_map]
  rfl

theorem updateTrail_mapValues : (c.mapValues f).updateTrail = c.updateTrail.mapValues f := by
  rw [updateTrail, updateTrail, filter_mapValues, Filter.trail_mapValues, sets_mapValues,
    Assignments.isEmpty_mapValues, Assignments.snd_mapValues, Trail.mapValues_append,
    Trail.mapValues_append, Trail.mapValues_breaking, Trail.mapValues_map_ok]

theorem writtenUpdate_mapValues :
    (c.mapValues f).writtenUpdate lit = c.writtenUpdate (lit ∘ f) := by
  have hsets : (c.sets.mapValues f).map (writtenSet lit) = c.sets.map (writtenSet (lit ∘ f)) := by
    rw [Assignments.mapValues, List.map_map]
    rfl
  rw [writtenUpdate, writtenUpdate, filter_mapValues, Filter.writtenClause_mapValues,
    sets_mapValues, hsets]
  rfl

theorem writtenDelete_mapValues :
    (c.mapValues f).writtenDelete lit = c.writtenDelete (lit ∘ f) := by
  rw [writtenDelete, writtenDelete, filter_mapValues, Filter.writtenClause_mapValues]
  rfl

theorem selectTrail_mapValues : (c.mapValues f).selectTrail = c.selectTrail.mapValues f := by
  have hhaving : (c.mapValues f).having.toList.map Having.value =
      (c.having.toList.map Having.value).map f := by
    rw [mapValues]
    cases c.having <;> rfl
  rw [selectTrail, selectTrail, filter_mapValues, Filter.trail_mapValues, hhaving,
    Trail.mapValues_append, Trail.mapValues_map_ok]

theorem writtenSelect_mapValues :
    (c.mapValues f).writtenSelect lit = c.writtenSelect (lit ∘ f) := by
  have hhaving : (c.mapValues f).writtenHaving lit = c.writtenHaving (lit ∘ f) := by
    rw [writtenHaving, writtenHaving, mapValues]
    cases c.having <;> rfl
  rw [writtenSelect, writtenSelect, filter_mapValues, Filter.writtenClause_mapValues, hhaving]
  rfl

end Clauses

/-! ## Queries -/

namespace Query

variable (f : Value → Value)

mutual

/-- The query with other values. -/
def mapValues : Query → Query
  | ⟨c, members, all⟩ => ⟨c.mapValues f, mapMembers members, all⟩

/-- The members of a union with other values. -/
def mapMembers : List Query → List Query
  | [] => []
  | q :: qs => q.mapValues :: mapMembers qs

end

theorem mapMembers_eq_map (members : List Query) :
    mapMembers f members = members.map (mapValues f) := by
  induction members with
  | nil => rfl
  | cons q qs ih => rw [mapMembers, ih, List.map_cons]

theorem kind_mapValues (q : Query) : (q.mapValues f).clauses.kind = q.clauses.kind := by
  cases q; rfl

theorem trail_mapValues (q : Query) : (q.mapValues f).trail = q.trail.mapValues f := by
  induction q with
  | mk c members all ih =>
    have hmembers : trailMembers (mapMembers f members) = (trailMembers members).mapValues f := by
      rw [trailMembers_eq_flatMap, trailMembers_eq_flatMap, mapMembers_eq_map, List.flatMap_map,
        Trail.mapValues_flatMap]
      refine List.flatMap_congr fun q hq => ?_
      rw [memberTrail, memberTrail, kind_mapValues, ih q hq, Trail.mapValues_append,
        Trail.mapValues_breaking]
    have hkind : (c.mapValues f).kind = c.kind := rfl
    have htable : (c.mapValues f).table = c.table := rfl
    rw [mapValues, trail, trail, hkind, htable, Trail.mapValues_append, Trail.mapValues_breaking]
    cases c.kind with
    | select =>
      simp only [Trail.mapValues_append, c.selectTrail_mapValues f, hmembers]
    | insert | replace => rw [c.insertTrail_mapValues f]
    | update => rw [c.updateTrail_mapValues f]
    | delete => exact congrArg _ (Filter.trail_mapValues f c.filter)

theorem written_mapValues (lit : Value → String) (q : Query) :
    (q.mapValues f).written lit = q.written (lit ∘ f) := by
  induction q with
  | mk c members all ih =>
    have hmembers : writtenMembers lit (unionKeyword all) (mapMembers f members) =
        writtenMembers (lit ∘ f) (unionKeyword all) members := by
      rw [writtenMembers_eq_map, writtenMembers_eq_map, mapMembers_eq_map, List.map_map]
      refine List.map_congr_left fun q hq => ?_
      rw [Function.comp_apply, ih q hq]
    have hkind : (c.mapValues f).kind = c.kind := rfl
    rw [mapValues, written, written, hkind]
    cases c.kind with
    | select => rw [c.writtenSelect_mapValues f lit, hmembers]
    | insert | replace => exact c.writtenInsert_mapValues f lit
    | update => exact c.writtenUpdate_mapValues f lit
    | delete => exact c.writtenDelete_mapValues f lit

/-- The query with every value forgotten. -/
def shape (q : Query) : Query := q.mapValues fun _ => .null

/-- Other values are bound in the place of the values, and nothing else changes. -/
theorem compile_mapValues (q : Query) :
    (q.mapValues f).compile = q.compile.map fun s => ⟨s.sql, s.bindings.map f⟩ := by
  rw [compile_eq, compile_eq, trail_mapValues, written_mapValues, Trail.outcome_mapValues,
    Trail.values_mapValues, Trail.outcome_eq, Trail.outcome_eq]
  split <;> rfl

theorem sql_compile_shape (q : Query) :
    q.shape.compile.map Statement.sql = q.compile.map Statement.sql := by
  rw [shape, compile_mapValues]
  cases q.compile <;> rfl

/-- **Values do not reach the text.**  With other values a query fails in the
    same way or gives the same text, and binds the other values in the same
    order; so queries that differ in their values only have one text. -/
theorem compile_determined_by_shape (q : Query) :
    (∀ f : Value → Value,
      (q.mapValues f).compile = q.compile.map fun s => ⟨s.sql, s.bindings.map f⟩) ∧
    ∀ q' : Query, q'.shape = q.shape →
      q'.compile.map Statement.sql = q.compile.map Statement.sql := by
  refine ⟨fun f => compile_mapValues f q, fun q' h => ?_⟩
  rw [← sql_compile_shape q', h, sql_compile_shape q]

end Query

end BoundSql
