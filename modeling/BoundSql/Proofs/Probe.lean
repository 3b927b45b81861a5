/-
  Helpers that only ask.

  * `Helper.probed?` is the one column that a helper asks for in place of the
    columns of the query;
  * `Helper.prepare_mem_run`: the text that a helper prepares is that of the
    query that is run;
  * a probe replaces the columns and the limit and keeps the kind: of a SELECT it
    prepares a SELECT of that column (`Query.selectsOnly_of_compile`), of any
    other query the very statement that writes (`Query.writes_of_compile`,
    `Helper.compile_subject_of_probed`).
-/
import BoundSql.Connection.Scripted
import BoundSql.Proofs.CallOrder
import BoundSql.Proofs.Refusal
import BoundSql.Proofs.Written

namespace BoundSql

variable {σ : Type} {α : Type}

/-! ## Texts -/

/-- The text begins as a SELECT of one column, with or without repeated rows. -/
def SelectsOnly (column sql : String) : Prop :=
  ∃ verb ∈ ["SELECT ", "SELECT DISTINCT "], ∃ rest, sql = verb ++ column ++ " FROM " ++ rest

/-- The text begins as a statement that writes. -/
def Writes (sql : String) : Prop :=
  ∃ verb ∈ ["INSERT INTO ", "REPLACE INTO ", "UPDATE ", "DELETE FROM "], ∃ rest,
    sql = verb ++ rest

theorem Writes.not_selectsOnly {sql : String} (h : Writes sql) (column : String) :
    ¬ SelectsOnly column sql := by
  rintro ⟨verb', hverb', rest', htext⟩
  obtain ⟨verb, hverb, rest, rfl⟩ := h
  -- The first letters differ.
  have hhead := congrArg (fun s => s.toList.head?) htext
  simp only [List.mem_cons, List.not_mem_nil, or_false] at hverb hverb'
  rcases hverb with rfl | rfl | rfl | rfl <;> rcases hverb' with rfl | rfl <;>
    simp [String.toList_append] at hhead

namespace Query

theorem selectsOnly_of_compile {q : Query} {column : String} {t : Statement}
    (hkind : q.kind = .select) (hcolumns : q.clauses.columns = [column])
    (h : q.compile = .ok t) : SelectsOnly column t.sql := by
  obtain ⟨-, rfl⟩ := compile_eq_ok_iff.1 h
  obtain ⟨c, members, all⟩ := q
  simp only [kind] at hkind hcolumns
  obtain ⟨more, hsql⟩ : ∃ more, (statement ⟨c, members, all⟩).sql = " ".intercalate ("SELECT" ::
      ((if c.distinct then ["DISTINCT"] else []) ++ column :: ("FROM " ++ c.table) :: more)) := by
    simp only [statement, written, hkind, Clauses.writtenSelect, Clauses.selectHead, hcolumns,
      String.intercalate_singleton, List.cons_append, List.append_assoc, List.nil_append]
    exact ⟨_, rfl⟩
  rw [hsql]
  cases c.distinct with
  | false =>
    refine ⟨"SELECT ", by simp, c.table ++ String.join (more.map (" " ++ ·)), ?_⟩
    simp [intercalate_cons, ← String.toList_inj]
  | true =>
    refine ⟨"SELECT DISTINCT ", by simp, c.table ++ String.join (more.map (" " ++ ·)), ?_⟩
    simp [intercalate_cons, ← String.toList_inj]

theorem writes_of_compile {q : Query} {t : Statement} (hkind : q.kind ≠ .select)
    (h : q.compile = .ok t) : Writes t.sql := by
  obtain ⟨-, rfl⟩ := compile_eq_ok_iff.1 h
  obtain ⟨c, members, all⟩ := q
  simp only [kind] at hkind
  cases hc : c.kind with
  | select => exact absurd hc hkind
  | insert | replace =>
    simp only [statement, written, hc, Clauses.writtenInsert, String.append_assoc]
    exact ⟨c.insertVerb ++ " INTO ", by simp [Clauses.insertVerb, hc], _, String.append_assoc.symm⟩
  | update =>
    simp only [statement, written, hc, Clauses.writtenUpdate, intercalate_cons, String.append_assoc]
    exact ⟨"UPDATE ", by simp, _, rfl⟩
  | delete =>
    simp only [statement, written, hc, Clauses.writtenDelete, intercalate_cons, String.append_assoc]
    exact ⟨"DELETE FROM ", by simp, _, rfl⟩

end Query

/-! ## What a helper prepares -/

namespace Helper

theorem prepare_notMem_last (h : Helper α) (sql : String) : .prepare sql ∉ h.last := by
  cases h <;> simp [last]

/-- A statement is prepared once, with its own text. -/
theorem prepare_mem_calls_iff {t : Statement} {h : Helper α} {sql : String} :
    .prepare sql ∈ t.calls ++ h.last ↔ t.sql = sql := by
  simp [Statement.calls, h.prepare_notMem_last, eq_comm]

/-- What a helper prepares is the text of the query that is run. -/
theorem prepare_mem_run (h : Helper α) (conn : Connection σ) (q : Query) (s : Session σ) :
    ∃ made, (s.run (h.run conn q)).2.calls = s.calls ++ made ∧
      ∀ sql, .prepare sql ∈ made ↔ ∃ t, (h.subject q).compile = .ok t ∧ t.sql = sql := by
  rw [(h.run_carries conn q s).session_eq]
  cases hq : (h.subject q).compile with
  | error m =>
    rw [Query.run_plan_of_error hq]
    exact ⟨[], (List.append_nil _).symm, by simp⟩
  | ok t =>
    obtain ⟨made, events, u, failure, hcourse, hrun⟩ :=
      conn.run_makeAll (t.calls ++ h.last) (s.emit (.preparing (h.subject q).kind t))
    rw [Query.run_plan_of_ok hq, hrun]
    refine ⟨made, rfl, fun sql => ?_⟩
    simp only [Except.ok.injEq, exists_eq_left']
    constructor
    · intro hsql
      exact prepare_mem_calls_iff.1 (hcourse.isPrefix.subset hsql)
    · rintro rfl
      -- Something is made, and preparing comes first.
      obtain ⟨c, cs, rfl⟩ := List.exists_cons_of_ne_nil (hcourse.ne_nil conn nofun)
      have hfirst : c = .prepare t.sql := (List.cons_prefix_cons.1 hcourse.isPrefix).1
      rw [hfirst]
      exact List.mem_cons_self

/-! ## Probes -/

/-- The one column that a helper asks for in place of the columns of the query. -/
def probed? : Helper α → Option String
  | .existence => some "1"
  | .aggregate f column => some (f.sql ++ "(" ++ column ++ ") as aggregate")
  | .count column => some (Aggregate.count.sql ++ "(" ++ column ++ ") as aggregate")
  | .prepare | .execute | .rows | .rowsAs _ | .first | .firstAs _ | .value _ | .pluck _
  | .pluckKeyed .. | .rowCount | .insertGetId => none

/-- A probe runs the query with other columns and another limit. -/
theorem subject_of_probed {h : Helper α} {column : String} (hprobe : h.probed? = some column)
    (q : Query) :
    h.subject q = q.modify fun c => { c with columns := [column], limit := some 1 } := by
  cases h <;> cases hprobe <;> rfl

/-- Statements that write have no use for columns to be selected, nor for a limit. -/
theorem compile_subject_of_probed {h : Helper α} {column : String}
    (hprobe : h.probed? = some column) {q : Query} (hkind : q.kind ≠ .select) :
    (h.subject q).compile = q.compile := by
  rw [subject_of_probed hprobe]
  obtain ⟨⟨kind⟩, members, all⟩ := q
  simp only [Query.modify, Query.compile_eq, Query.trail, Query.written]
  cases kind with
  | select => exact absurd rfl hkind
  | insert | replace | update | delete => rfl

/-- **A probe changes what is asked for, not what is done.**  On any connection,
    a probe prepares the text of the query that is run in place of the given
    one, and nothing else.  If this is a SELECT, the text is a SELECT of the one
    column; otherwise it is that of the given query, which writes. -/
theorem probe_prepares {h : Helper α} {column : String} (hprobe : h.probed? = some column)
    (conn : Connection σ) (q : Query) (s : Session σ) :
    ∃ made, (s.run (h.run conn q)).2.calls = s.calls ++ made ∧
      (∀ sql, .prepare sql ∈ made ↔ ∃ t, (h.subject q).compile = .ok t ∧ t.sql = sql) ∧
      (q.kind = .select → ∀ sql, .prepare sql ∈ made → SelectsOnly column sql) ∧
      (q.kind ≠ .select → (h.subject q).compile = q.compile ∧
        ∀ sql, .prepare sql ∈ made → Writes sql) := by
  obtain ⟨made, hcalls, hmade⟩ := h.prepare_mem_run conn q s
  have hsubject := subject_of_probed hprobe q
  have hkept : (h.subject q).kind = q.kind := by
    rw [hsubject]
    rfl
  refine ⟨made, hcalls, hmade, fun hkind sql hsql => ?_, fun hkind => ?_⟩
  · obtain ⟨t, ht, rfl⟩ := (hmade sql).1 hsql
    refine Query.selectsOnly_of_compile (hkept.trans hkind) ?_ ht
    rw [hsubject]
    rfl
  · refine ⟨compile_subject_of_probed hprobe hkind, fun sql hsql => ?_⟩
    obtain ⟨t, ht, rfl⟩ := (hmade sql).1 hsql
    exact Query.writes_of_compile (hkept.trans_ne hkind) ht

/-- A row that is to be deleted. -/
def deletion : Query :=
  Edit.runAll [.delete "users", .filter (.add .and (.equals "id" (.int 7)))] .fresh

/-- The same row selected after all. -/
def selection : Query :=
  Edit.runAll [.distinct, .select ["id", "name"], .sourceAs "users" "u"] deletion

theorem probe_prepares_deletion :
    let s : Session Scripted := { state := { script := {} } }
    (count "*").probed? = some "COUNT(*) as aggregate" ∧
      (∃ made, (s.run ((count "*").run scripted deletion)).2.calls = made ∧
        .prepare "DELETE FROM users WHERE id = ?" ∈ made ∧
        Writes "DELETE FROM users WHERE id = ?") ∧
      ∃ made, (s.run ((count "*").run scripted selection)).2.calls = made ∧
        .prepare "SELECT DISTINCT COUNT(*) as aggregate FROM users AS u WHERE id = ? LIMIT 1" ∈
          made ∧
        ∀ sql, .prepare sql ∈ made → SelectsOnly "COUNT(*) as aggregate" sql := by
  intro s
  have hprobe : (count "*").probed? = some "COUNT(*) as aggregate" := by decide +kernel
  refine ⟨hprobe, ?_, ?_⟩
  · obtain ⟨made, hcalls, hmade, -, hwrites⟩ := probe_prepares hprobe scripted deletion s
    have hprepared : .prepare "DELETE FROM users WHERE id = ?" ∈ made := (hmade _).2 ⟨_, rfl, rfl⟩
    exact ⟨made, hcalls, hprepared, (hwrites nofun).2 _ hprepared⟩
  · obtain ⟨made, hcalls, hmade, hselects, -⟩ := probe_prepares hprobe scripted selection s
    exact ⟨made, hcalls, (hmade _).2 ⟨_, rfl, by decide +kernel⟩, hselects rfl⟩

/-- Asking whether a row exists deletes it. -/
theorem existence_deletes :
    let s : Session Scripted := { state := { script := {} } }
    (s.run (existence.run scripted deletion)).2.calls =
        [.prepare "DELETE FROM users WHERE id = ?", .bind 1 (.int 7) .int, .execute, .fetchAll] ∧
      ¬ SelectsOnly "1" "DELETE FROM users WHERE id = ?" := by
  exact ⟨rfl, Writes.not_selectsOnly ⟨"DELETE FROM ", by simp, "users WHERE id = ?", rfl⟩ "1"⟩

end Helper

end BoundSql
