/-
  The text of a query with any text in the place of a value, and the trail of
  its writing.

  * `written lit` writes `lit v` where the value `v` belongs; the text of a
    raw condition is filled with the texts of its values;
  * `Clauses.intercalate_optionClause`: a clause that holds one thing has a text
    of its own within that of the statement;
  * `trail` lists the values in the order of their placeholders, together with
    the rules that are broken: those of the table and of the data first, then
    the conditions from left to right, a group before what it holds, then the
    members, each after the rule about its kind;
  * `compile_eq`: compiling a query goes along its trail, and gives the text
    with the placeholder in the place of every value, the `statement` of the
    query.
-/
import BoundSql.Proofs.Placeholder
import BoundSql.Proofs.Trail

namespace BoundSql

/-- Texts in a row are the first, then each other one after the separator. -/
theorem intercalate_cons (sep s : String) (ts : List String) :
    sep.intercalate (s :: ts) = s ++ String.join (ts.map (sep ++ ·)) := by
  induction ts generalizing s with
  | nil => simp
  | cons t ts ih =>
    rw [String.intercalate_cons_cons, ih, List.map_cons, String.join_cons]
    simp only [String.append_assoc]

/-- The text of a clause that holds one thing, when it stands after others. -/
def Clauses.optionText (keyword : String) : Option String → String
  | none => ""
  | some item => " " ++ keyword ++ " " ++ item

/-- Clauses of one keyword have the same text only if they hold the same. -/
theorem Clauses.optionText_injective (keyword : String) :
    Function.Injective (optionText keyword) := by
  have hne (item : String) : optionText keyword none ≠ optionText keyword (some item) := by
    intro h
    have hlength := congrArg (fun text => text.toList.length) h
    simp [optionText, String.toList_append] at hlength
  intro item item' h
  cases item with
  | none =>
    cases item' with
    | none => rfl
    | some t => exact absurd h (hne t)
  | some s =>
    cases item' with
    | none => exact absurd h.symm (hne s)
    | some t => exact congrArg some ((String.append_right_inj _).1 h)

/-- A clause in the midst of others adds its own text to theirs. -/
theorem Clauses.intercalate_optionClause (s keyword : String) (before after : List String)
    (item : Option String) :
    " ".intercalate (s :: before ++ optionClause keyword item ++ after) =
      " ".intercalate (s :: before) ++ optionText keyword item ++
        String.join (after.map (" " ++ ·)) := by
  have hitem :
      String.join ((optionClause keyword item).map (" " ++ ·)) = optionText keyword item := by
    cases item <;> simp [optionClause, optionText, String.append_assoc]
  simp only [List.cons_append, intercalate_cons, List.map_append, String.join_append, hitem,
    String.append_assoc]

/-! ## Conditions -/

namespace Condition

/-- Induction in which a group may use what holds of its conditions. -/
@[elab_as_elim, induction_eliminator]
theorem induction {motive : Condition → Prop}
    (compare : ∀ column op v, motive (.compare column op v))
    (raw : ∀ sql bindings, motive (.raw sql bindings))
    (nullTest : ∀ column negated, motive (.nullTest column negated))
    (member : ∀ column values negated, motive (.member column values negated))
    (between : ∀ column low high negated, motive (.between column low high negated))
    (group : ∀ nodes, (∀ n ∈ nodes, motive n.2) → motive (.group nodes)) :
    ∀ c, motive c :=
  @Condition.rec motive (fun nodes => ∀ n ∈ nodes, motive n.2) (fun n => motive n.2)
    compare raw nullTest member between group (fun _ h => nomatch h)
    (fun _ _ hn hns => List.forall_mem_cons.2 ⟨hn, hns⟩) (fun _ _ hc => hc)

mutual

/-- The text of a condition, with `lit v` for a value `v`. -/
def written (lit : Value → String) : Condition → String
  | .compare column op v => column ++ " " ++ op ++ " " ++ lit v
  | .raw sql bindings => Placeholder.fill sql (bindings.map lit)
  | .nullTest column negated => column ++ " IS " ++ negation negated ++ "NULL"
  | .member column values negated =>
    column ++ " " ++ negation negated ++ "IN " ++ tuple (values.map lit)
  | .between column low high negated =>
    column ++ " " ++ negation negated ++ "BETWEEN " ++ lit low ++ " AND " ++ lit high
  | .group nodes => "(" ++ joinLinked (writtenNodes lit nodes) ++ ")"

/-- The texts of the conditions of a group with their links. -/
def writtenNodes (lit : Value → String) : List (Link × Condition) → List (Link × String)
  | [] => []
  | n :: ns => writtenNode lit n :: writtenNodes lit ns

/-- The text of a condition with its link. -/
def writtenNode (lit : Value → String) : Link × Condition → Link × String
  | (link, c) => (link, c.written lit)

end

theorem writtenNodes_eq_map (lit : Value → String) (nodes : List (Link × Condition)) :
    writtenNodes lit nodes = nodes.map fun n => (n.1, n.2.written lit) := by
  induction nodes with
  | nil => rfl
  | cons n ns ih => rw [writtenNodes, ih, List.map_cons, writtenNode]

mutual

/-- The trail of a condition. -/
def trail : Condition → Trail
  | .compare _ _ v => [.ok v]
  | .raw _ bindings => bindings.map .ok
  | .nullTest _ _ => []
  | .member _ values _ => Trail.breaking values.isEmpty .emptyMembership ++ values.map .ok
  | .between _ low high _ => [.ok low, .ok high]
  | .group nodes => Trail.breaking nodes.isEmpty .emptyGroup ++ trailNodes nodes

/-- The trail of the conditions of a group. -/
def trailNodes : List (Link × Condition) → Trail
  | [] => []
  | n :: ns => trailNode n ++ trailNodes ns

/-- The trail of a condition with its link. -/
def trailNode : Link × Condition → Trail
  | (_, c) => c.trail

end

theorem trailNodes_eq_flatMap (nodes : List (Link × Condition)) :
    trailNodes nodes = nodes.flatMap fun n => n.2.trail := by
  induction nodes with
  | nil => rfl
  | cons n ns ih => rw [trailNodes, ih, List.flatMap_cons, trailNode]

theorem renderNodes_eq_mapM (nodes : List (Link × Condition)) :
    renderNodes nodes = nodes.mapM renderNode := by
  induction nodes with
  | nil => rfl
  | cons n ns ih => rw [renderNodes, ih, List.mapM_cons]

open Render

theorem renderNodes_follows {nodes : List (Link × Condition)}
    (h : ∀ n ∈ nodes, n.2.render.Follows n.2.trail (n.2.written mark)) :
    (renderNodes nodes).Follows (trailNodes nodes) (writtenNodes mark nodes) := by
  rw [renderNodes_eq_mapM, trailNodes_eq_flatMap, writtenNodes_eq_map]
  refine .mapM fun n hn => ?_
  rw [renderNode]
  exact (h n hn).map _

/-- With placeholders in the place of its values a raw condition is as it was given. -/
theorem written_mark_raw (sql : String) (bindings : List Value) :
    (raw sql bindings).written mark = sql :=
  Placeholder.fill_self fun t ht => by
    obtain ⟨v, -, rfl⟩ := List.mem_map.1 ht
    rfl

/-- Writing a condition goes along its trail. -/
theorem render_follows (c : Condition) : c.render.Follows c.trail (c.written mark) := by
  induction c with
  | compare column op v =>
    rw [render, trail, written]
    exact (bind_follows v).map _
  | raw sql bindings =>
    rw [render, trail, written_mark_raw]
    exact (bindAll_follows bindings).map fun _ => sql
  | nullTest column negated =>
    rw [render, trail, written]
    exact .pure _
  | member column values negated =>
    rw [render, trail, written]
    exact .breaking ((bindAll_follows values).map _)
  | between column low high negated =>
    rw [render, trail, written]
    exact (bind_follows low).bind ((bind_follows high).map _)
  | group nodes ih =>
    rw [render, trail, written]
    exact .breaking ((renderNodes_follows ih).map _)

end Condition

namespace Filter

/-- The text of a filter. -/
def written (lit : Value → String) (f : Filter) : String :=
  Condition.joinLinked (Condition.writtenNodes lit f)

/-- The WHERE clause, if there are conditions. -/
def writtenClause (lit : Value → String) (f : Filter) : List String :=
  if f.isEmpty then [] else ["WHERE " ++ f.written lit]

/-- The trail of a filter, which may be empty. -/
def trail (f : Filter) : Trail := Condition.trailNodes f

open Render

theorem render_follows (f : Filter) : f.render.Follows f.trail (f.written mark) :=
  (Condition.renderNodes_follows fun n _ => n.2.render_follows).map _

theorem renderClause_follows (f : Filter) :
    f.renderClause.Follows f.trail (f.writtenClause mark) := by
  unfold renderClause writtenClause
  split
  · next h =>
    obtain rfl : f = [] := List.isEmpty_iff.1 h
    exact .pure []
  · exact f.render_follows.map _

end Filter

/-! ## Clauses -/

/-- The text of the comparison of groups. -/
def Having.written (lit : Value → String) (h : Having) : String :=
  h.column ++ " " ++ h.op ++ " " ++ lit h.value

namespace Clauses

/-- The verb of a statement that inserts rows. -/
def insertVerb (c : Clauses) : String := if c.kind = .replace then "REPLACE" else "INSERT"

/-- The rows that are inserted. -/
def insertedRows (c : Clauses) : List (List Value) := c.firstRow.map Prod.snd :: c.moreRows

/-- INSERT or REPLACE with a tuple for each row. -/
def writtenInsert (lit : Value → String) (c : Clauses) : String :=
  c.insertVerb ++ " INTO " ++ c.table ++ " " ++ tuple c.firstRow.columns ++ " VALUES " ++
    ", ".intercalate (c.insertedRows.map fun row => tuple (row.map lit))

/-- The assignment of a column. -/
def writtenSet (lit : Value → String) (e : String × Value) : String := e.1 ++ " = " ++ lit e.2

/-- UPDATE: the assignments, then the conditions. -/
def writtenUpdate (lit : Value → String) (c : Clauses) : String :=
  " ".intercalate (("UPDATE " ++ c.table ++ " SET " ++
    ", ".intercalate (c.sets.map (writtenSet lit))) :: c.filter.writtenClause lit)

/-- DELETE: the table, then the conditions. -/
def writtenDelete (lit : Value → String) (c : Clauses) : String :=
  " ".intercalate (("DELETE FROM " ++ c.table) :: c.filter.writtenClause lit)

/-- The HAVING clause, if there is one. -/
def writtenHaving (lit : Value → String) (c : Clauses) : List String :=
  c.having.toList.map fun h => "HAVING " ++ h.written lit

/-- The clauses of a SELECT, in order. -/
def writtenSelect (lit : Value → String) (c : Clauses) : List String :=
  c.selectHead ++ c.filter.writtenClause lit ++ listClause "GROUP BY" c.groupBy ++
    c.writtenHaving lit ++ c.selectTail

/-- The trail of INSERT or REPLACE. -/
def insertTrail (c : Clauses) : Trail :=
  Trail.breaking c.firstRow.isEmpty (.noData c.insertVerb) ++ c.insertedRows.flatten.map .ok

/-- The trail of UPDATE. -/
def updateTrail (c : Clauses) : Trail :=
  Trail.breaking c.sets.isEmpty (.noData "UPDATE") ++ (c.sets.map Prod.snd).map .ok ++
    c.filter.trail

/-- The trail of SELECT without its members. -/
def selectTrail (c : Clauses) : Trail :=
  c.filter.trail ++ (c.having.toList.map Having.value).map .ok

open Render

theorem renderInsert_follows (c : Clauses) :
    c.renderInsert.Follows c.insertTrail (c.writtenInsert mark) := by
  have hmore : (c.moreRows.mapM bindAll).Follows (c.moreRows.flatMap (List.map .ok))
      (c.moreRows.map (List.map mark)) := .mapM fun row _ => bindAll_follows row
  have htrail : (c.insertedRows.flatten.map .ok : Trail) =
      (c.firstRow.map Prod.snd).map .ok ++ c.moreRows.flatMap (List.map .ok) := by
    rw [insertedRows, List.flatten_cons, List.map_append, List.map_flatten, List.flatMap_def]
  have htexts : (c.insertedRows.map fun row => tuple (row.map mark)) =
      ((c.firstRow.map Prod.snd).map mark :: c.moreRows.map (List.map mark)).map tuple := by
    simp only [insertedRows, List.map_cons, List.map_map, Function.comp_def]
  rw [renderInsert, insertTrail, htrail, writtenInsert, htexts]
  exact .breaking ((bindAll_follows _).bind (hmore.map _))

theorem renderUpdate_follows (c : Clauses) :
    c.renderUpdate.Follows c.updateTrail (c.writtenUpdate mark) := by
  have hsets : (c.sets.mapM renderSet).Follows ((c.sets.map Prod.snd).map .ok)
      (c.sets.map (writtenSet mark)) := .mapMOne fun e _ => (bind_follows e.2).map _
  rw [renderUpdate, updateTrail, List.append_assoc]
  exact .breaking (hsets.bind (c.filter.renderClause_follows.map _))

theorem renderDelete_follows (c : Clauses) :
    c.renderDelete.Follows c.filter.trail (c.writtenDelete mark) :=
  c.filter.renderClause_follows.map _

theorem renderHaving_follows (c : Clauses) :
    c.renderHaving.Follows ((c.having.toList.map Having.value).map .ok) (c.writtenHaving mark) := by
  unfold renderHaving writtenHaving
  cases c.having with
  | none => exact .pure []
  | some h => exact ((bind_follows h.value).map _).map _

theorem renderSelect_follows (c : Clauses) :
    c.renderSelect.Follows c.selectTrail (c.writtenSelect mark) :=
  c.filter.renderClause_follows.bind (c.renderHaving_follows.map _)

end Clauses

/-! ## Queries -/

namespace Query

/-- Induction in which a query may use what holds of its members. -/
@[elab_as_elim, induction_eliminator]
theorem induction {motive : Query → Prop}
    (mk : ∀ clauses members unionAll, (∀ q ∈ members, motive q) →
      motive ⟨clauses, members, unionAll⟩) : ∀ q, motive q :=
  @Query.rec motive (fun members => ∀ q ∈ members, motive q) mk (fun _ h => nomatch h)
    (fun _ _ hq hqs => List.forall_mem_cons.2 ⟨hq, hqs⟩)

mutual

/-- The text of a query, with `lit v` for a value `v`. -/
def written (lit : Value → String) : Query → String
  | ⟨c, members, all⟩ =>
    match c.kind with
    | .select =>
      " ".intercalate (c.writtenSelect lit ++ writtenMembers lit (unionKeyword all) members)
    | .insert | .replace => c.writtenInsert lit
    | .update => c.writtenUpdate lit
    | .delete => c.writtenDelete lit

/-- The texts of the members of a union, each after the word that unites it. -/
def writtenMembers (lit : Value → String) (keyword : String) : List Query → List String
  | [] => []
  | q :: qs => (keyword ++ " " ++ q.written lit) :: writtenMembers lit keyword qs

end

theorem writtenMembers_eq_map (lit : Value → String) (keyword : String) (members : List Query) :
    writtenMembers lit keyword members = members.map fun q => keyword ++ " " ++ q.written lit := by
  induction members with
  | nil => rfl
  | cons q qs ih => rw [writtenMembers, ih, List.map_cons]

mutual

/-- The trail of a query. -/
def trail : Query → Trail
  | ⟨c, members, _⟩ =>
    Trail.breaking (c.table = "") (.noTable c.kind) ++
      match c.kind with
      | .select => c.selectTrail ++ trailMembers members
      | .insert | .replace => c.insertTrail
      | .update => c.updateTrail
      | .delete => c.filter.trail

/-- The trail of the members of a union, each after the rule about its kind. -/
def trailMembers : List Query → Trail
  | [] => []
  | q :: qs =>
    Trail.breaking (q.clauses.kind ≠ .select) (.memberKind q.clauses.kind) ++ q.trail ++
      trailMembers qs

end

/-- The trail of a member of a union. -/
def memberTrail (q : Query) : Trail :=
  Trail.breaking (q.clauses.kind ≠ .select) (.memberKind q.clauses.kind) ++ q.trail

theorem trailMembers_eq_flatMap (members : List Query) :
    trailMembers members = members.flatMap memberTrail := by
  induction members with
  | nil => rfl
  | cons q qs ih => rw [trailMembers, ih, List.flatMap_cons, memberTrail]

open Render

/-- Writing a query goes along its trail. -/
theorem render_follows (q : Query) : q.render.Follows q.trail (q.written mark) := by
  induction q with
  | mk c members all ih =>
    have hmembers : (renderMembers (unionKeyword all) members).Follows (trailMembers members)
        (writtenMembers mark (unionKeyword all) members) := by
      clear * - ih
      induction members with
      | nil => exact .pure []
      | cons q qs ihs =>
        rw [List.forall_mem_cons] at ih
        rw [renderMembers, trailMembers, writtenMembers, List.append_assoc]
        exact .breaking (ih.1.bind ((ihs ih.2).map _))
    rw [render, trail, written]
    refine .breaking ?_
    cases c.kind with
    | select => exact c.renderSelect_follows.bind (hmembers.map _)
    | insert | replace => exact c.renderInsert_follows
    | update => exact c.renderUpdate_follows
    | delete => exact c.renderDelete_follows

/-- What a query is compiled to. -/
theorem compile_eq (q : Query) : q.compile = q.trail.outcome ⟨q.written mark, q.trail.values⟩ :=
  finish_of_follows q.render_follows

/-- What a query compiles to when it compiles. -/
def statement (q : Query) : Statement := ⟨q.written mark, q.trail.values⟩

theorem compile_eq_ok_iff {q : Query} {s : Statement} :
    q.compile = .ok s ↔ q.trail.faults = [] ∧ q.statement = s :=
  finish_eq_ok_iff q.render_follows

theorem exists_compile_eq_ok_iff {q : Query} : (∃ s, q.compile = .ok s) ↔ q.trail.faults = [] := by
  simp only [compile_eq_ok_iff, exists_and_left, exists_eq', and_true]

end Query

end BoundSql
