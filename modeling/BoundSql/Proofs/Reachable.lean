/-
  What holds of every query that calls can make.

  * `Query.Reachable`: calls make the query of a fresh one, whether they
    succeed or fail; queries that are united with it are reachable too;
  * `Clauses.Sound` and `Query.Sound`: there is a column to be selected, no
    column is given data twice, rows are as wide as the columns, an alias has
    a name, a join has a condition unless it is a cross join, and so it is
    with all members;
  * `Edit.sound_run`: a call keeps that; hence `Reachable.sound`, and the form
    of the statements that insert rows.
-/
import BoundSql.Query.Edit
import BoundSql.Proofs.Insertion

namespace BoundSql

/-! ## Reachable queries -/

mutual

/-- Calls make the query of a fresh one, each of which may succeed or fail. -/
inductive Query.Reachable : Query → Prop
  | fresh : Query.Reachable .fresh
  | call {q e} : Query.Reachable q → Edit.Admissible e → Query.Reachable (Edit.run e q).2

/-- A query that the call takes is reachable. -/
inductive Edit.Admissible : Edit → Prop
  | union {all base edits} : Query.Reachable base → (∀ e ∈ edits, Edit.Admissible e) →
      Edit.Admissible (.union all base edits)
  | other {e : Edit} : (∀ all base edits, e ≠ .union all base edits) → Edit.Admissible e

end

/-! ## Sound queries -/

/-- What calls keep of the clauses. -/
structure Clauses.Sound (c : Clauses) : Prop where
  columns : c.columns ≠ []
  sets : c.sets.columns.Nodup
  firstRow : c.firstRow.columns.Nodup
  moreRows : ∀ row ∈ c.moreRows, row.length = c.firstRow.length
  tableAlias : c.tableAlias ≠ some ""
  joins : ∀ j ∈ c.joins, j.on = none ↔ j.kind = .cross

/-- The clauses of the query and of all its members are sound. -/
inductive Query.Sound : Query → Prop
  | mk {c members all} : c.Sound → (∀ q ∈ members, Query.Sound q) → Query.Sound ⟨c, members, all⟩

namespace Clauses

variable {c d : Clauses}

theorem sound_fresh : Sound {} where
  columns := List.cons_ne_nil _ _
  sets := List.nodup_nil
  firstRow := List.nodup_nil
  moreRows := List.forall_mem_nil _
  tableAlias := nofun
  joins := List.forall_mem_nil _

theorem Sound.assignRow (h : c.Sound) (entries : List (String × Value)) :
    (c.assignRow entries).Sound :=
  { h with
    firstRow := Assignments.nodup_columns_ofEntries entries
    moreRows := List.forall_mem_nil _ }

theorem Sound.assignSets (h : c.Sound) (entries : List (String × Value)) :
    (c.assignSets entries).Sound :=
  { h with sets := Assignments.nodup_columns_setAll entries h.sets }

theorem Sound.switch (h : c.Sound) (kind : StatementKind) (table : String) :
    (c.switch kind table).Sound :=
  { h with }

theorem Sound.addJoin (h : c.Sound) {kind : JoinKind} {table : String} {on : Option JoinCondition}
    (hj : on = none ↔ kind = .cross) : (c.addJoin kind table on).Sound :=
  { h with joins := List.forall_mem_append.2 ⟨h.joins, List.forall_mem_singleton.2 hj⟩ }

theorem Sound.assignData (h : c.Sound) {entries : List (String × Value)}
    (hd : c.assignData entries = .ok d) : d.Sound := by
  rw [Clauses.assignData] at hd
  split at hd
  · cases hd; exact h.assignRow entries
  · cases hd; exact h.assignRow entries
  · cases hd; exact h.assignSets entries
  · cases hd

theorem Sound.assignRows (h : c.Sound) {rows : List (List (String × Value))}
    (hd : c.assignRows rows = .ok d) : d.Sound := by
  cases rows with
  | nil => cases hd
  | cons first rest =>
    have hfirst := Assignments.nodup_columns_ofEntries first
    rw [assignRows_cons] at hd
    cases hrest : alignRows (Assignments.ofEntries first).columns 2 rest with
    | error m =>
      rw [hrest] at hd
      cases hd
    | ok more =>
      rw [hrest] at hd
      cases hd
      refine { h with firstRow := hfirst, moreRows := ?_ }
      simpa only [Assignments.columns, List.length_map] using length_of_alignRows hfirst hrest

/-- Clauses that depend on something that may not be readable. -/
theorem sound_of_map {α : Type} {m : Except Misuse α} {f : α → Clauses} (hf : ∀ a, (f a).Sound)
    (hd : (do return f (← m)) = Except.ok d) : d.Sound := by
  cases m with
  | error e => cases hd
  | ok a =>
    cases hd
    exact hf a

end Clauses

namespace Edit

theorem sound_change {f : Clauses → Clauses} {q : Query} (hq : q.Sound)
    (hf : ∀ {c : Clauses}, c.Sound → (f c).Sound) : (change f q).2.Sound := by
  cases hq with
  | mk hc hmembers => exact .mk (hf hc) hmembers

theorem sound_tryChange {f : Clauses → Except Misuse Clauses} {q : Query} (hq : q.Sound)
    (hf : ∀ {c d : Clauses}, c.Sound → f c = .ok d → d.Sound) : (tryChange f q).2.Sound := by
  cases hq with
  | @mk c members all hc hmembers =>
    unfold tryChange
    split
    · next d hd => exact .mk (hf hc hd) hmembers
    · exact .mk hc hmembers

/-- A call that unites with no query keeps a query sound. -/
theorem sound_run {e : Edit} {q : Query} (he : ∀ all base edits, e ≠ .union all base edits)
    (hq : q.Sound) : (e.run q).2.Sound := by
  cases e with
  | select columns =>
    rw [run]
    refine sound_change hq fun hc => { hc with columns := ?_ }
    split
    · exact List.cons_ne_nil _ _
    · next h => simpa using h
  | distinct | groupBy | having | orderByDirection =>
    rw [run]
    exact sound_change hq fun hc => { hc with }
  | source name =>
    rw [run]
    exact sound_change hq fun hc => { hc with tableAlias := nofun }
  | sourceAs name tableAlias =>
    rw [run]
    refine sound_change hq fun hc => { hc with tableAlias := ?_ }
    split
    · exact nofun
    · next h => simpa using h
  | insert | replace | update | delete =>
    rw [run]
    exact sound_change hq fun hc => hc.switch _ _
  | data entries =>
    rw [run]
    exact sound_tryChange hq fun hc hd => hc.assignData hd
  | set column v =>
    rw [run]
    exact sound_change hq fun hc => hc.assignSets [(column, v)]
  | setMany entries =>
    rw [run]
    exact sound_change hq fun hc => hc.assignSets entries
  | values entries =>
    rw [run]
    exact sound_change hq fun hc => hc.assignRow entries
  | valuesMany rows =>
    rw [run]
    exact sound_tryChange hq fun hc hd => hc.assignRows hd
  | innerJoin | leftJoin | rightJoin =>
    rw [run]
    exact sound_change hq fun hc => hc.addJoin ⟨nofun, nofun⟩
  | crossJoin table =>
    rw [run]
    exact sound_change hq fun hc => hc.addJoin ⟨fun _ => rfl, fun _ => rfl⟩
  | orderBy | limit | offset =>
    rw [run]
    refine sound_tryChange hq fun hc hd => Clauses.sound_of_map ?_ hd
    exact fun _ => { hc with }
  | union all base edits => exact absurd rfl (he all base edits)
  | filter e =>
    rw [run]
    exact sound_change hq fun hc => { hc with }
  | reset =>
    rw [run]
    exact .mk Clauses.sound_fresh (List.forall_mem_nil _)

/-- Calls in turn keep a query sound if each of them does. -/
theorem sound_runStopping {edits : List Edit} (h : ∀ e ∈ edits, ∀ q : Query, q.Sound →
    (e.run q).2.Sound) {q : Query} (hq : q.Sound) : (runStopping edits q).2.Sound := by
  induction edits generalizing q with
  | nil =>
    rw [runStopping]
    exact hq
  | cons e es ih =>
    obtain ⟨he, hes⟩ := List.forall_mem_cons.1 h
    have hnext := he q hq
    rw [runStopping]
    split
    · next q' hrun =>
      rw [hrun] at hnext
      exact ih hes hnext
    · next m q' hrun =>
      rw [hrun] at hnext
      exact hnext

/-- The query that a union adds is sound if the calls that make it keep it so. -/
theorem sound_run_union {all : Bool} {base : Query} {edits : List Edit} (hbase : base.Sound)
    (h : ∀ e ∈ edits, ∀ q : Query, q.Sound → (e.run q).2.Sound) {q : Query} (hq : q.Sound) :
    (Edit.run (.union all base edits) q).2.Sound := by
  have hmember := sound_runStopping h hbase
  rw [run]
  split
  · next member hrun =>
    rw [hrun] at hmember
    cases hq with
    | mk hc hmembers =>
      exact .mk hc (List.forall_mem_append.2 ⟨hmembers, List.forall_mem_singleton.2 hmember⟩)
  · exact hq

end Edit

/-! ## Statements that insert -/

/-- The statement inserts rows into distinct columns: a tuple for each row, in
    each tuple a placeholder for each column, and a value for each placeholder. -/
structure Clauses.Rectangular (c : Clauses) (s : Statement) : Prop where
  columns : c.firstRow.columns.Nodup
  sql : s.sql = c.insertVerb ++ " INTO " ++ c.table ++ " " ++ tuple c.firstRow.columns ++
    " VALUES " ++ ", ".intercalate (List.replicate (1 + c.moreRows.length)
      (tuple (List.replicate c.firstRow.columns.length "?")))
  bindings : s.bindings.length = c.firstRow.columns.length * (1 + c.moreRows.length)

namespace Clauses

variable {c : Clauses}

theorem length_insertedRows : c.insertedRows.length = 1 + c.moreRows.length := by
  rw [insertedRows, List.length_cons, Nat.add_comm]

theorem Sound.length_of_mem_insertedRows (h : c.Sound) :
    ∀ row ∈ c.insertedRows, row.length = c.firstRow.columns.length := by
  rw [insertedRows, List.forall_mem_cons, List.length_map, Assignments.columns, List.length_map]
  exact ⟨rfl, h.moreRows⟩

theorem Sound.rectangular (h : c.Sound) (hkind : c.kind = .insert ∨ c.kind = .replace)
    {members : List Query} {all : Bool} {s : Statement}
    (hs : Query.compile ⟨c, members, all⟩ = .ok s) : c.Rectangular s := by
  have hwidth := h.length_of_mem_insertedRows
  rw [Query.compile_of_inserts members all hkind, Trail.outcome_eq] at hs
  split at hs
  · cases hs
    refine ⟨h.firstRow, ?_, ?_⟩
    · rw [writtenInsert_mark hwidth, length_insertedRows]
    · have hlengths : c.insertedRows.map List.length =
          List.replicate (1 + c.moreRows.length) c.firstRow.columns.length :=
        List.eq_replicate_iff.2 ⟨by rw [List.length_map, length_insertedRows],
          List.forall_mem_map.2 hwidth⟩
      rw [List.length_flatten, hlengths, List.sum_replicate_nat, Nat.mul_comm]
  · cases hs

end Clauses

namespace Query

/-- Calls make sound queries only. -/
theorem Reachable.sound {q : Query} (h : q.Reachable) : q.Sound := by
  induction h using Query.Reachable.rec (motive_2 := fun e _ => ∀ q : Query, q.Sound →
      (e.run q).2.Sound) with
  | fresh => exact .mk Clauses.sound_fresh (List.forall_mem_nil _)
  | call _ _ hq he => exact he _ hq
  | union _ _ hbase hedits q hq => exact Edit.sound_run_union hbase hedits hq
  | other he q hq => exact Edit.sound_run he hq

/-- **What calls keep.**  Every query that calls make is sound, as are all its
    members; and if it inserts rows and compiles, then to a statement that
    inserts rows as wide as its columns. -/
theorem Reachable.sound_and_rectangular {q : Query} (h : q.Reachable) :
    q.Sound ∧ ((q.kind = .insert ∨ q.kind = .replace) →
      ∀ s, q.compile = .ok s → q.clauses.Rectangular s) := by
  refine ⟨h.sound, fun hkind s hs => ?_⟩
  cases h.sound with
  | mk hc hmembers => exact hc.rectangular hkind hs

/-- Two rows for one table, given to a query that was a union before; a call
    on the way fails. -/
def twoRows : Query :=
  [.sourceAs "old" "", .union true .fresh [.source "new"], .limit (-1), .insert "t",
    .valuesMany
      [[("a", .int 1), ("b", .null), ("a", .int 2)], [("b", .int 3), ("a", .int 4)]]].foldl
      (fun q e => (Edit.run e q).2) .fresh

theorem sound_and_rectangular_twoRows :
    twoRows.Reachable ∧
      twoRows.compile = .ok
        ⟨"INSERT INTO t (a, b) VALUES (?, ?), (?, ?)", [.int 2, .null, .int 4, .int 3]⟩ ∧
      twoRows.Sound ∧ twoRows.clauses.Rectangular
        ⟨"INSERT INTO t (a, b) VALUES (?, ?), (?, ?)", [.int 2, .null, .int 4, .int 3]⟩ := by
  have hreachable : twoRows.Reachable := by
    refine .call (.call (.call (.call (.call .fresh ?_) ?_) ?_) ?_) ?_
    · exact .other nofun
    · exact .union .fresh (List.forall_mem_singleton.2 (.other nofun))
    all_goals exact .other nofun
  have hcompile : twoRows.compile = .ok
      ⟨"INSERT INTO t (a, b) VALUES (?, ?), (?, ?)", [.int 2, .null, .int 4, .int 3]⟩ := by
    decide +kernel
  obtain ⟨hsound, hrows⟩ := Reachable.sound_and_rectangular hreachable
  exact ⟨hreachable, hcompile, hsound, hrows (.inl rfl) _ hcompile⟩

end Query

end BoundSql
