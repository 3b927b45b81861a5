/-
  The table of a SELECT and its name in the statement.

  * `Edit.LastGiving`: a call is the last one of a run that gives something;
    `Edit.part_runAll_eq`: what calls give is that of the last one that gives it;
  * `Edit.table?` and `Edit.alias?`: calls that choose a table, and those among
    them that settle the alias; a call that chooses the kind as well keeps it;
  * `Query.exists_compile_aliased`: in the text of a SELECT the alias stands by
    itself after the table;
  * `Edit.alias_of_last_source`: the alias is that of the last call that settles
    it, and may have come with another table.
-/
import BoundSql.Proofs.Footprint
import BoundSql.Proofs.Insertion

namespace BoundSql

open Clauses (optionClause optionText)
open Render (mark)

namespace Edit

/-! ## The last call that gives something -/

section

variable {β : Type} {given : Edit → Option β}

/-- The call is the last of those that give something. -/
def LastGiving (given : Edit → Option β) (e : Edit) (edits : List Edit) : Prop :=
  given e ≠ none ∧ ∃ before after, edits = before ++ e :: after ∧ ∀ d ∈ after, given d = none

theorem findSomeRev?_eq_some_iff {edits : List Edit} {b : β} :
    edits.findSomeRev? given = some b ↔ ∃ e, LastGiving given e edits ∧ given e = some b := by
  rw [List.findSomeRev?_eq_findSome?_reverse, List.findSome?_eq_some_iff]
  constructor
  · rintro ⟨after, e, before, hedits, he, hafter⟩
    refine ⟨e, ⟨he ▸ Option.some_ne_none b, before.reverse, after.reverse, ?_, ?_⟩, he⟩
    · rw [List.reverse_eq_iff] at hedits
      simp [hedits]
    · exact fun d hd => hafter d (List.mem_reverse.1 hd)
  · rintro ⟨e, ⟨-, before, after, rfl, hafter⟩, he⟩
    refine ⟨after.reverse, e, before.reverse, by simp, he, ?_⟩
    exact fun d hd => hafter d (List.mem_reverse.1 hd)

theorem LastGiving.findSomeRev?_eq {e : Edit} {edits : List Edit}
    (h : LastGiving given e edits) : edits.findSomeRev? given = given e := by
  obtain ⟨b, hb⟩ := Option.ne_none_iff_exists'.1 h.1
  rw [hb]
  exact findSomeRev?_eq_some_iff.2 ⟨e, h, hb⟩

/-- If calls give a part of a query and otherwise keep it, then a run gives what
    its last one gives. -/
theorem part_runAll_eq (part : Query → β)
    (hstep : ∀ e q, part (e.run q).2 = (given e).getD (part q)) (edits : List Edit) (q : Query) :
    part (runAll edits q) = (edits.findSomeRev? given).getD (part q) := by
  induction edits generalizing q with
  | nil => rfl
  | cons e es ih =>
    rw [runAll, ih, hstep, List.findSomeRev?]
    cases es.findSomeRev? given <;> rfl

end

/-! ## Calls that choose a table -/

/-- The table that a call chooses; starting anew chooses none. -/
def table? : Edit → Option String
  | .source name | .sourceAs name _ | .insert name | .replace name | .update name
  | .delete name => some name
  | .reset => some ""
  | _ => none

/-- The alias that a call settles; an empty one is none. -/
def alias? : Edit → Option (Option String)
  | .source _ | .reset => some none
  | .sourceAs _ tableAlias => some (if tableAlias = "" then none else some tableAlias)
  | _ => none

theorem alias?_eq_none_of_table? {e : Edit} (h : e.table? = none) : e.alias? = none := by
  cases e with
  | source | sourceAs | reset => cases h
  | _ => rfl

theorem alias?_eq_some_some_iff {e : Edit} {a : String} :
    e.alias? = some (some a) ↔ a ≠ "" ∧ ∃ t, e = .sourceAs t a := by
  cases e with
  | sourceAs t b =>
    rw [alias?]
    by_cases hb : b = ""
    · simp only [hb, if_true, Option.some.injEq, reduceCtorEq, sourceAs.injEq, false_iff]
      rintro ⟨ha, -, -, rfl⟩
      exact ha rfl
    · simp only [hb, if_false, Option.some.injEq, sourceAs.injEq]
      constructor
      · rintro rfl
        exact ⟨hb, t, rfl, rfl⟩
      · rintro ⟨-, -, -, rfl⟩
        rfl
  | _ => simp [alias?]

/-- A call chooses the table and settles the alias, or keeps them. -/
theorem source_run (e : Edit) (q : Query) :
    (e.run q).2.clauses.table = e.table?.getD q.clauses.table ∧
      (e.run q).2.clauses.tableAlias = e.alias?.getD q.clauses.tableAlias := by
  have hothers {f : Family} (hf : e.family = some f) (hne : .data ≠ f) :
      (e.run q).2.clauses.table = q.clauses.table ∧
        (e.run q).2.clauses.tableAlias = q.clauses.tableAlias := by
    have hpart := part_run_of_ne hf hne q
    exact ⟨congrArg (·.clauses.table) hpart, congrArg (·.clauses.tableAlias) hpart⟩
  cases e with
  | select | source | sourceAs | insert | replace | update | delete | set | setMany | values
  | reset =>
    rw [run]
    exact ⟨rfl, rfl⟩
  | data entries =>
    rw [run, tryChange, Clauses.assignData]
    cases q.clauses.kind <;> exact ⟨rfl, rfl⟩
  | valuesMany rows =>
    rw [run, tryChange]
    cases rows with
    | nil => exact ⟨rfl, rfl⟩
    | cons first rest =>
      rw [Clauses.assignRows_cons]
      cases Clauses.alignRows (Assignments.ofEntries first).columns 2 rest <;> exact ⟨rfl, rfl⟩
  | _ => exact hothers rfl (by decide)

theorem table_runAll (edits : List Edit) (q : Query) :
    (runAll edits q).clauses.table = (edits.findSomeRev? table?).getD q.clauses.table :=
  part_runAll_eq (·.clauses.table) (fun e q => (source_run e q).1) edits q

theorem tableAlias_runAll (edits : List Edit) (q : Query) :
    (runAll edits q).clauses.tableAlias = (edits.findSomeRev? alias?).getD q.clauses.tableAlias :=
  part_runAll_eq (·.clauses.tableAlias) (fun e q => (source_run e q).2) edits q

/-- A fresh query has no alias, so one has been given. -/
theorem tableAlias_eq_some_iff {edits : List Edit} {a : String} :
    (runAll edits .fresh).clauses.tableAlias = some a ↔
      edits.findSomeRev? alias? = some (some a) := by
  rw [tableAlias_runAll]
  cases edits.findSomeRev? alias? <;> simp [Query.fresh]

theorem findSomeRev?_alias?_eq_iff {edits : List Edit} {a : String} :
    edits.findSomeRev? alias? = some (some a) ↔
      a ≠ "" ∧ ∃ t, LastGiving alias? (.sourceAs t a) edits := by
  rw [findSomeRev?_eq_some_iff]
  constructor
  · rintro ⟨e, he, hgiven⟩
    obtain ⟨ha, t, rfl⟩ := alias?_eq_some_some_iff.1 hgiven
    exact ⟨ha, t, he⟩
  · rintro ⟨ha, t, he⟩
    exact ⟨_, he, alias?_eq_some_some_iff.2 ⟨ha, t, rfl⟩⟩

/-- Calls that settle the alias choose the table: if the last that does this
    does that as well, it is the last of both. -/
theorem LastGiving.alias? {e : Edit} {edits : List Edit} (h : LastGiving table? e edits)
    (he : e.alias? ≠ none) : LastGiving Edit.alias? e edits := by
  obtain ⟨-, before, after, hedits, hafter⟩ := h
  exact ⟨he, before, after, hedits, fun d hd => alias?_eq_none_of_table? (hafter d hd)⟩

/-- A table that is not empty has been chosen. -/
theorem exists_lastGiving_table? {edits : List Edit}
    (h : (runAll edits .fresh).clauses.table ≠ "") :
    ∃ e, LastGiving table? e edits ∧ e.table? = some (runAll edits .fresh).clauses.table := by
  rw [← findSomeRev?_eq_some_iff]
  rw [table_runAll] at h ⊢
  cases hlast : edits.findSomeRev? table? with
  | none =>
    rw [hlast] at h
    exact absurd rfl h
  | some table => rfl

end Edit

/-! ## The text of the alias -/

namespace Query

/-- The query with another name of its table. -/
def aliased (tableAlias : Option String) (q : Query) : Query :=
  q.modify fun c => { c with tableAlias := tableAlias }

theorem aliased_self (q : Query) : q.aliased q.clauses.tableAlias = q := by
  cases q
  rfl

/-- In the text of a SELECT the alias stands by itself, after the table. -/
theorem exists_written_aliased (lit : Value → String) {q : Query} (hkind : q.kind = .select) :
    ∃ before after, ∀ tableAlias, (q.aliased tableAlias).written lit =
      before ++ "FROM " ++ q.clauses.table ++ optionText "AS" tableAlias ++ after := by
  obtain ⟨c, members, all⟩ := q
  let head := (if c.distinct then ["DISTINCT"] else []) ++ [", ".intercalate c.columns]
  let tail := c.joins.map Join.sql ++ c.filter.writtenClause lit ++
    Clauses.listClause "GROUP BY" c.groupBy ++ c.writtenHaving lit ++ c.selectTail ++
    writtenMembers lit (unionKeyword all) members
  have hhead : " ".intercalate ("SELECT" :: (head ++ ["FROM " ++ c.table])) =
      " ".intercalate ("SELECT" :: head) ++ " " ++ "FROM " ++ c.table := by
    simp only [intercalate_cons, List.map_append, String.join_append, List.map_cons, List.map_nil,
      String.join_cons, String.join_nil, String.append_assoc, String.append_empty]
  refine ⟨" ".intercalate ("SELECT" :: head) ++ " ", String.join (tail.map (" " ++ ·)),
    fun tableAlias => ?_⟩
  have hclauses : ({ c with tableAlias := tableAlias }).writtenSelect lit ++
      writtenMembers lit (unionKeyword all) members =
        "SELECT" :: (head ++ ["FROM " ++ c.table]) ++ optionClause "AS" tableAlias ++ tail := by
    simp only [Clauses.writtenSelect, Clauses.selectHead, Clauses.selectTail,
      Clauses.writtenHaving, head, tail, List.cons_append, List.append_assoc, List.nil_append]
  rw [← hhead, ← Clauses.intercalate_optionClause, ← hclauses, aliased, modify, written]
  simp only [kind] at hkind
  simp only [hkind]

/-- A SELECT with another alias is compiled as it is, but for its text, in which
    the alias stands by itself after the table. -/
theorem exists_compile_aliased {q : Query} {s : Statement} (hkind : q.kind = .select)
    (hs : q.compile = .ok s) :
    ∃ before after, ∀ tableAlias, (q.aliased tableAlias).compile =
      .ok ⟨before ++ "FROM " ++ q.clauses.table ++ optionText "AS" tableAlias ++ after,
        s.bindings⟩ := by
  obtain ⟨before, after, htext⟩ := exists_written_aliased mark hkind
  obtain ⟨hfaults, rfl⟩ := compile_eq_ok_iff.1 hs
  refine ⟨before, after, fun tableAlias => ?_⟩
  have htrail : (q.aliased tableAlias).trail = q.trail := by
    cases q
    rfl
  rw [compile_eq_ok_iff, statement, statement, htrail, htext]
  exact ⟨hfaults, rfl⟩

theorem table_ne_empty_of_compile {q : Query} {s : Statement} (hs : q.compile = .ok s) :
    q.clauses.table ≠ "" := by
  obtain ⟨c, members, all⟩ := q
  intro htable
  have hfaults := (compile_eq_ok_iff.1 hs).1
  rw [trail, Trail.faults_append, Trail.faults_breaking, if_pos htable] at hfaults
  cases hfaults

end Query

namespace Edit

/-- **The alias is that of the last call that settles it.**  When calls on a
    fresh query have made a SELECT that compiles, its table is that of the last
    call that chooses one, and it has an alias if the last call that chooses a
    table without a kind gave it one.  So the alias belongs to the table if
    these are one call; otherwise it may have outlived its own. -/
theorem alias_of_last_source {edits : List Edit} {s : Statement}
    (hkind : (runAll edits .fresh).kind = .select) (hs : (runAll edits .fresh).compile = .ok s) :
    ∃ table tableAlias,
      (∃ e, LastGiving table? e edits ∧ e.table? = some table) ∧
      (∀ a, tableAlias = some a ↔ a ≠ "" ∧ ∃ t, LastGiving alias? (.sourceAs t a) edits) ∧
      (∃ before after,
        s.sql = before ++ "FROM " ++ table ++ optionText "AS" tableAlias ++ after ∧
        ∀ other, ((runAll edits .fresh).aliased other).compile =
          .ok ⟨before ++ "FROM " ++ table ++ optionText "AS" other ++ after, s.bindings⟩) ∧
      ∀ e, LastGiving table? e edits → e.alias? ≠ none →
        ∀ a, tableAlias = some a ↔ a ≠ "" ∧ ∃ t, e = .sourceAs t a := by
  obtain ⟨before, after, htext⟩ := Query.exists_compile_aliased hkind hs
  refine ⟨(runAll edits .fresh).clauses.table, (runAll edits .fresh).clauses.tableAlias, ?_,
    fun a => ?_, ⟨before, after, ?_, htext⟩, fun e he hsettles a => ?_⟩
  · exact exists_lastGiving_table? (Query.table_ne_empty_of_compile hs)
  · rw [tableAlias_eq_some_iff, findSomeRev?_alias?_eq_iff]
  · have hown := htext (runAll edits .fresh).clauses.tableAlias
    rw [Query.aliased_self, hs] at hown
    exact congrArg Statement.sql (Except.ok.inj hown)
  · rw [tableAlias_eq_some_iff, (he.alias? hsettles).findSomeRev?_eq, alias?_eq_some_some_iff]

/-- The last call that chooses a table gives it an alias. -/
theorem alias_of_last_source_renamed :
    let edits : List Edit := [.sourceAs "users" "u", .insert "logs", .data [("id", .int 1)],
      .sourceAs "events" "e", .select ["id"], .innerJoin "users" ⟨"e.user", "=", "users.id"⟩]
    ∃ s, (runAll edits .fresh).compile = .ok s ∧
      s.sql = "SELECT id FROM events AS e INNER JOIN users ON e.user = users.id" ∧
      ∃ before after, s.sql = before ++ "FROM " ++ "events" ++ " AS e" ++ after := by
  intro edits
  have hlast : LastGiving table? (.sourceAs "events" "e") edits :=
    ⟨nofun, edits.take 3, edits.drop 4, rfl, by simp [edits, table?]⟩
  obtain ⟨table, tableAlias, ⟨e, he, htable⟩, -, ⟨before, after, hsql, -⟩, hown⟩ :=
    @alias_of_last_source edits _ rfl rfl
  obtain rfl : tableAlias = some "e" := (hown _ hlast nofun "e").2 ⟨by decide, _, rfl⟩
  obtain rfl : "events" = table := by
    have hgiven := he.findSomeRev?_eq.symm.trans hlast.findSomeRev?_eq
    rw [htable] at hgiven
    exact (Option.some.inj hgiven).symm
  exact ⟨_, rfl, rfl, before, after, hsql⟩

/-- The alias of a table stays when another one is chosen. -/
theorem alias_outlives_table :
    let edits : List Edit := [.sourceAs "users" "u", .insert "logs", .select ["id"]]
    (runAll edits .fresh).kind = .select ∧
      (runAll edits .fresh).compile = .ok ⟨"SELECT id FROM logs AS u", []⟩ ∧
      LastGiving table? (.insert "logs") edits := by
  intro edits
  refine ⟨rfl, rfl, nofun, [.sourceAs "users" "u"], [.select ["id"]], rfl, ?_⟩
  intro d hd
  rw [List.mem_singleton.1 hd]
  rfl

end Edit

end BoundSql
