/-
  A condition that is added to a query changes its statement in one place.

  * `Query.refiltered` is a query with another filter; in the text of a query
    with conditions these stand by themselves, and so do their values along its
    trail (`Query.exists_written_refiltered`, `Query.exists_trail_refiltered`);
  * `Filter.clauseText_concat`: one more condition stands after the others, with
    `Filter.glue` in between;
  * `Query.add_condition_local`: adding a condition to a query puts its text and
    its values in, at a place of the statement that does not depend on them.
-/
import BoundSql.Proofs.Written
import BoundSql.Query.Edit

namespace BoundSql

open Clauses (optionClause optionText)
open Render (mark)

/-! ## Filters -/

/-- A further condition stands after its link. -/
theorem Condition.joinLinked_concat (texts : List (Link × String)) (link : Link) (text : String) :
    joinLinked (texts ++ [(link, text)]) =
      if texts.isEmpty then text else joinLinked texts ++ " " ++ link.sql ++ " " ++ text := by
  cases texts with
  | nil => exact String.append_empty
  | cons t ts =>
    rw [List.isEmpty_cons, if_neg Bool.false_ne_true]
    simp only [List.cons_append, joinLinked, List.map_append, List.map_cons, List.map_nil,
      String.join_append, String.join_cons, String.join_nil, String.append_assoc,
      String.append_empty]

namespace Filter

/-- The text of the WHERE clause when it stands after others. -/
def clauseText (lit : Value → String) (f : Filter) : String :=
  optionText "WHERE" (if f.isEmpty then none else some (f.written lit))

theorem writtenClause_eq (lit : Value → String) (f : Filter) :
    f.writtenClause lit =
      optionClause "WHERE" (if f.isEmpty then none else some (f.written lit)) := by
  rw [writtenClause]
  cases f.isEmpty <;> rfl

/-- The text of a WHERE clause at the end. -/
theorem intercalate_writtenClause (lit : Value → String) (s : String) (f : Filter) :
    " ".intercalate (s :: f.writtenClause lit) = s ++ f.clauseText lit := by
  have h := Clauses.intercalate_optionClause s "WHERE" [] []
    (if f.isEmpty then none else some (f.written lit))
  rwa [← f.writtenClause_eq, List.append_nil, List.map_nil, String.join_nil, String.append_empty,
    String.intercalate_singleton] at h

/-- What stands between a filter and a condition that is added to it. -/
def glue (f : Filter) (link : Link) : String :=
  if f.isEmpty then " WHERE " else " " ++ link.sql ++ " "

theorem clauseText_concat (lit : Value → String) (f : Filter) (link : Link) (c : Condition) :
    clauseText lit (f ++ [(link, c)]) = f.clauseText lit ++ f.glue link ++ c.written lit := by
  have hwritten : written lit (f ++ [(link, c)]) =
      if f.isEmpty then c.written lit
      else f.written lit ++ " " ++ link.sql ++ " " ++ c.written lit := by
    simp only [written, Condition.writtenNodes_eq_map, List.map_append, List.map_cons,
      List.map_nil, Condition.joinLinked_concat, List.isEmpty_map]
  have hne : (f ++ [(link, c)]).isEmpty = false := by simp
  rw [clauseText, hne, hwritten, clauseText, glue]
  cases f.isEmpty <;> simp [optionText, ← String.toList_inj]

theorem trail_concat (f : Filter) (link : Link) (c : Condition) :
    trail (f ++ [(link, c)]) = f.trail ++ c.trail := by
  simp only [trail, Condition.trailNodes_eq_flatMap, List.flatMap_append, List.flatMap_cons,
    List.flatMap_nil, List.append_nil]

end Filter

/-! ## Queries -/

namespace Query

/-- The query with another filter. -/
def refiltered (f : Filter) (q : Query) : Query := q.modify fun c => { c with filter := f }

theorem refiltered_self (q : Query) : q.refiltered q.clauses.filter = q := by
  cases q
  rfl

theorem run_add (link : Link) (c : Condition) (q : Query) :
    (Edit.filter (.add link c)).run q =
      (.ok (), q.refiltered (q.clauses.filter ++ [(link, c)])) := by
  rw [Edit.run, FilterEdit.run, refiltered]

/-- In the text of a query with conditions these stand by themselves. -/
theorem exists_written_refiltered (lit : Value → String) {q : Query}
    (hkind : q.kind ∈ [.select, .update, .delete]) :
    ∃ before after, ∀ f, (q.refiltered f).written lit = before ++ f.clauseText lit ++ after := by
  obtain ⟨c, members, all⟩ := q
  simp only [kind, List.mem_cons, List.not_mem_nil, or_false] at hkind
  rcases hkind with hkind | hkind | hkind
  · let tail := Clauses.listClause "GROUP BY" c.groupBy ++ c.writtenHaving lit ++ c.selectTail ++
      writtenMembers lit (unionKeyword all) members
    refine ⟨" ".intercalate c.selectHead, String.join (tail.map (" " ++ ·)), fun f => ?_⟩
    have hclauses : ({ c with filter := f }).writtenSelect lit ++
        writtenMembers lit (unionKeyword all) members =
          "SELECT" :: c.selectHead.tail ++
            optionClause "WHERE" (if f.isEmpty then none else some (f.written lit)) ++ tail := by
      simp only [Clauses.writtenSelect, f.writtenClause_eq, tail, List.append_assoc]
      rfl
    rw [show c.selectHead = "SELECT" :: c.selectHead.tail from rfl, Filter.clauseText,
      ← Clauses.intercalate_optionClause, ← hclauses, refiltered, modify, written]
    simp only [hkind]
  · refine ⟨"UPDATE " ++ c.table ++ " SET " ++
      ", ".intercalate (c.sets.map (Clauses.writtenSet lit)), "", fun f => ?_⟩
    simp only [refiltered, modify, written, hkind, Clauses.writtenUpdate]
    rw [f.intercalate_writtenClause, String.append_empty]
  · refine ⟨"DELETE FROM " ++ c.table, "", fun f => ?_⟩
    simp only [refiltered, modify, written, hkind, Clauses.writtenDelete]
    rw [f.intercalate_writtenClause, String.append_empty]

/-- Along the trail of a query with conditions that of the conditions stands by
    itself. -/
theorem exists_trail_refiltered {q : Query} (hkind : q.kind ∈ [.select, .update, .delete]) :
    ∃ before after : Trail, ∀ f, (q.refiltered f).trail = before ++ f.trail ++ after := by
  obtain ⟨c, members, all⟩ := q
  simp only [kind, List.mem_cons, List.not_mem_nil, or_false] at hkind
  let table := Trail.breaking (c.table = "") (.noTable c.kind)
  rcases hkind with hkind | hkind | hkind
  · refine ⟨table, (c.having.toList.map Having.value).map .ok ++ trailMembers members,
      fun f => ?_⟩
    simp only [refiltered, modify, trail, hkind, Clauses.selectTrail, table, List.append_assoc]
  · refine ⟨table ++ Trail.breaking c.sets.isEmpty (.noData "UPDATE") ++
      (c.sets.map Prod.snd).map .ok, [], fun f => ?_⟩
    simp only [refiltered, modify, trail, hkind, Clauses.updateTrail, table, List.append_assoc,
      List.append_nil]
  · refine ⟨table, [], fun f => ?_⟩
    simp only [refiltered, modify, trail, hkind, table, List.append_nil]

/-- **Adding a condition is local.**  Let a query with conditions compile.  Its
    text and its values can be cut in two so that any condition that can be
    written, added with any link, puts its text and its values in there: after
    WHERE if it is the first condition, and otherwise after its link.  Nothing
    else of the statement changes. -/
theorem add_condition_local {q : Query} {s : Statement}
    (hkind : q.kind ∈ [.select, .update, .delete]) (hs : q.compile = .ok s) :
    ∃ before after bound rest, s = ⟨before ++ after, bound ++ rest⟩ ∧
      ∀ link c t, c.render.finish = .ok t →
        ∃ r, (Edit.filter (.add link c)).run q = (.ok (), r) ∧
          r.compile = .ok ⟨before ++ q.clauses.filter.glue link ++ t.sql ++ after,
            bound ++ t.bindings ++ rest⟩ := by
  obtain ⟨before, after, htext⟩ := exists_written_refiltered mark hkind
  obtain ⟨front, back, htrail⟩ := exists_trail_refiltered hkind
  have hself : q.written mark = before ++ q.clauses.filter.clauseText mark ++ after ∧
      q.trail = front ++ q.clauses.filter.trail ++ back := by
    rw [← htext, ← htrail, refiltered_self]
    exact ⟨rfl, rfl⟩
  obtain ⟨hfaults, rfl⟩ := compile_eq_ok_iff.1 hs
  rw [hself.2, Trail.faults_append, Trail.faults_append, List.append_eq_nil_iff,
    List.append_eq_nil_iff] at hfaults
  obtain ⟨⟨hfront, hfilter⟩, hback⟩ := hfaults
  refine ⟨before ++ q.clauses.filter.clauseText mark, after,
    front.values ++ q.clauses.filter.trail.values, back.values, ?_, fun link c t ht => ?_⟩
  · rw [statement, hself.1, hself.2, Trail.values_append, Trail.values_append]
  · obtain ⟨hc, rfl⟩ := (Render.finish_eq_ok_iff c.render_follows).1 ht
    refine ⟨_, run_add link c q, ?_⟩
    rw [compile_eq_ok_iff, statement, htext, htrail, Filter.trail_concat,
      Filter.clauseText_concat]
    simp [hfront, hfilter, hback, hc, String.append_assoc]

/-- A SELECT with clauses, and a member with values, after its conditions. -/
theorem add_condition_local_having :
    let member : Query := ⟨{ table := "b", filter := [(.and, .equals "y" (.int 4))] }, [], false⟩
    let clauses : Clauses :=
      { table := "a", filter := [(.and, .equals "x" (.int 1))],
        having := some ⟨"n", ">", .int 2⟩ }
    let q : Query := ⟨clauses, [member], false⟩
    let text := "SELECT * FROM a WHERE x = ? HAVING n > ? UNION SELECT * FROM b WHERE y = ?"
    q.kind ∈ [.select, .update, .delete] ∧ q.compile = .ok ⟨text, [.int 1, .int 2, .int 4]⟩ ∧
      ∃ before after bound rest, text = before ++ after ∧
        [.int 1, .int 2, .int 4] = bound ++ rest ∧
        ∃ r, (Edit.filter (.add .or (.between "z" (.int 5) (.int 6) true))).run q = (.ok (), r) ∧
          r.compile = .ok ⟨before ++ " OR " ++ "z NOT BETWEEN ? AND ?" ++ after,
            bound ++ [.int 5, .int 6] ++ rest⟩ := by
  intro member clauses q text
  have hkind : q.kind ∈ [.select, .update, .delete] := by decide
  have hs : q.compile = .ok ⟨text, [.int 1, .int 2, .int 4]⟩ := rfl
  obtain ⟨before, after, bound, rest, hcut, hadd⟩ := add_condition_local hkind hs
  obtain ⟨r, hrun, hr⟩ := hadd .or (.between "z" (.int 5) (.int 6) true)
    ⟨"z NOT BETWEEN ? AND ?", [.int 5, .int 6]⟩ rfl
  exact ⟨hkind, hs, before, after, bound, rest, congrArg Statement.sql hcut,
    congrArg Statement.bindings hcut, r, hrun, hr⟩

end Query

end BoundSql
