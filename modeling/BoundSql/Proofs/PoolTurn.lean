/-
  What a call on a pool does.

  * a `Turn` is a call with the pool and the session before and after it;
  * `RowPool.statement` is the INSERT of the rows that are held, and
    `RowPool.flushCalls` are the calls that write them;
  * `RowPool.Flushed`: a pool without rows is left alone; otherwise its rows
    are written by all these calls and then dropped, or a call fails and they
    stay;
  * `RowPool.Moved`: whatever is asked of a pool, it does no more than hold a
    row, refuse one, or write its rows (`Sound.moved`).
-/
import BoundSql.RowPool
import BoundSql.Proofs.CallOrder
import BoundSql.Proofs.Insertion

namespace BoundSql

variable {σ : Type}

/-! ## Counting what was written -/

/-- Running a query and asking how many rows were written takes the course of
    the calls. -/
theorem Query.run_rowCount (conn : Connection σ) {q : Query} {stmt : Statement}
    (hq : q.compile = .ok stmt) (s : Session σ) :
    ∃ made events u failure,
      conn.Course s.state (stmt.calls ++ [.execute, .rowCount]) made events u failure ∧
      ∃ result : Except Error Nat,
        s.run (q.rowCount conn) =
          (result, ⟨u, s.calls ++ made, s.log ++ .preparing q.kind stmt :: events⟩) ∧
        result.map (fun _ => ()) = failure.elim (.ok ()) .error := by
  have hcarries : (q.rowCount conn).Carries (q.plan conn [.execute, .rowCount]) Exec.Never :=
    call_carries execute_carries .rowCount
  have hagrees := hcarries s
  obtain ⟨made, events, u, failure, hcourse, hrun⟩ :=
    conn.run_makeAll (stmt.calls ++ [.execute, .rowCount]) (s.emit (.preparing q.kind stmt))
  rw [run_plan_of_ok hq, hrun, Session.log_emit_append] at hagrees
  refine ⟨made, events, u, failure, hcourse, ?_⟩
  generalize s.run (q.rowCount conn) = done at hagrees
  cases failure with
  | none =>
    cases hagrees with
    | granted => exact ⟨_, rfl, rfl⟩
    | refused h => exact h.elim
  | some e =>
    cases hagrees
    exact ⟨_, rfl, rfl⟩

/-! ## Calls on a pool -/

/-- What is asked of a pool. -/
inductive PoolCall where
  | push (entries : List (String × Value))
  | commit
deriving DecidableEq

/-- A call on a pool: the pool and the session before it, whether it succeeds,
    and the pool and the session after it. -/
structure Turn (σ : Type) where
  call : PoolCall
  pool : RowPool
  session : Session σ
  result : Except Error Unit
  nextPool : RowPool
  nextSession : Session σ

namespace RowPool

variable (conn : Connection σ) {p : RowPool}

/-! ## Sound pools -/

/-- What calls keep of a pool with distinct columns. -/
structure Sound (p : RowPool) : Prop where
  table : p.table ≠ ""
  columns : p.columns ≠ []
  nodup : p.columns.Nodup
  capacity : 0 < p.capacity
  rows : ∀ row ∈ p.rows, row.length = p.columns.length

theorem create_eq_ok_iff {table : String} {columns : List String} {capacity : Nat} :
    create table columns capacity = .ok p ↔
      table ≠ "" ∧ columns ≠ [] ∧ 0 < capacity ∧ p = ⟨table, columns, capacity, []⟩ := by
  rw [create]
  by_cases htable : table = ""
  · simp [htable]
  by_cases hcolumns : columns = []
  · simp [htable, hcolumns]
  by_cases hcapacity : capacity = 0
  · simp [htable, hcolumns, hcapacity]
  have hlist : ¬ columns.isEmpty = true := by rwa [List.isEmpty_iff]
  rw [if_neg htable, if_neg hlist, if_neg hcapacity]
  constructor
  · intro h
    exact ⟨htable, hcolumns, Nat.pos_of_ne_zero hcapacity, (Except.ok.inj h).symm⟩
  · rintro ⟨-, -, -, rfl⟩
    rfl

theorem sound_create {table : String} {columns : List String} {capacity : Nat}
    (h : create table columns capacity = .ok p) (hc : columns.Nodup) :
    p = ⟨table, columns, capacity, []⟩ ∧ p.Sound := by
  obtain ⟨htable, hcolumns, hroom, rfl⟩ := create_eq_ok_iff.1 h
  exact ⟨rfl, htable, hcolumns, hc, hroom, List.forall_mem_nil _⟩

theorem Sound.dropRows (h : p.Sound) : Sound { p with rows := [] } :=
  ⟨h.table, h.columns, h.nodup, h.capacity, List.forall_mem_nil _⟩

theorem Sound.hold (h : p.Sound) {row : List Value} (hrow : row.length = p.columns.length) :
    Sound { p with rows := p.rows ++ [row] } where
  table := h.table
  columns := h.columns
  nodup := h.nodup
  capacity := h.capacity
  rows := List.forall_mem_append.2 ⟨h.rows, List.forall_mem_singleton.2 hrow⟩

/-- A full pool holds rows. -/
theorem Sound.rows_ne_nil (h : p.Sound) (hfull : ¬ p.size < p.capacity) : p.rows ≠ [] := by
  intro hrows
  rw [size, hrows] at hfull
  exact hfull h.capacity

/-! ## The statement -/

/-- One INSERT with a tuple of placeholders for every row that is held, and the
    rows one after the other as its values. -/
def statement (p : RowPool) : Statement where
  sql := "INSERT INTO " ++ p.table ++ " " ++ tuple p.columns ++ " VALUES " ++
    ", ".intercalate (p.rows.map fun _ => tuple (p.columns.map fun _ => "?"))
  bindings := p.rows.flatten

/-- The calls that write the rows that are held. -/
def flushCalls (p : RowPool) : List Call := p.statement.calls ++ [.execute, .rowCount]

/-- The clauses of the query that inserts a row and others of the same columns. -/
def insertedClauses (p : RowPool) (row : List Value) (rows : List (List Value)) : Clauses where
  kind := .insert
  table := p.table
  firstRow := p.columns.zip row
  moreRows := rows

/-- The query of a pool with rows has these rows, aligned as they are held. -/
theorem Sound.insertion_eq (h : p.Sound) {row : List Value} {rows : List (List Value)}
    (hrows : p.rows = row :: rows) :
    p.insertion = .ok ⟨p.insertedClauses row rows, [], false⟩ := by
  obtain ⟨hrow, hrest⟩ := List.forall_mem_cons.1 (hrows ▸ h.rows)
  have hassign (c : Clauses) : c.assignRows (p.rows.map fun row => p.columns.zip row) =
      .ok { c with firstRow := p.columns.zip row, moreRows := rows } := by
    rw [hrows, List.map_cons, Clauses.assignRows_cons, Assignments.ofEntries_zip h.nodup hrow,
      Assignments.columns_zip hrow, Clauses.alignRows_zip h.nodup 2 hrest]
    rfl
  simp only [insertion, Query.ofEdits, Edit.runStopping, Edit.run, Edit.change, Edit.tryChange,
    hassign]
  rfl

/-- The query of a pool with rows is compiled to its statement. -/
theorem Sound.exists_insertion (h : p.Sound) (hrows : p.rows ≠ []) :
    ∃ q, p.insertion = .ok q ∧ q.kind = .insert ∧ q.compile = .ok p.statement := by
  obtain ⟨row, rows, hcons⟩ := List.exists_cons_of_ne_nil hrows
  obtain ⟨hrow, hrest⟩ := List.forall_mem_cons.1 (hcons ▸ h.rows)
  refine ⟨_, h.insertion_eq hcons, rfl, ?_⟩
  have hcolumns : (p.insertedClauses row rows).firstRow.columns = p.columns :=
    Assignments.columns_zip hrow
  have hinserted : (p.insertedClauses row rows).insertedRows = p.rows := by
    rw [hcons, Clauses.insertedRows, insertedClauses, List.map_snd_zip (Nat.le_of_eq hrow)]
  have hmarks : (p.rows.map fun _ => tuple (p.columns.map fun _ => "?")) =
      List.replicate p.rows.length (tuple (List.replicate p.columns.length "?")) := by
    rw [List.map_const', List.map_const']
  have hsql : (p.insertedClauses row rows).writtenInsert Render.mark = p.statement.sql := by
    have hwidth : ∀ r ∈ (p.insertedClauses row rows).insertedRows,
        r.length = (p.insertedClauses row rows).firstRow.columns.length := by
      rw [hinserted, hcolumns]
      exact h.rows
    rw [Clauses.writtenInsert_mark hwidth, hinserted, hcolumns, ← hmarks]
    rfl
  have hdata : (p.insertedClauses row rows).firstRow ≠ [] := by
    intro hnil
    rw [hnil] at hcolumns
    exact h.columns hcolumns.symm
  rw [Query.compile_of_inserts_of_ne [] false (.inl rfl) h.table hdata, hsql, hinserted]
  rfl

/-! ## Flushing -/

/-- What becomes of writing the rows of a pool: what it gives, and the pool and
    the session after it. -/
inductive Flushed (p : RowPool) (s : Session σ) : Except Error Nat → RowPool → Session σ → Prop
  /-- There is nothing to be written. -/
  | idle : p.rows = [] → Flushed p s (.ok 0) p s
  /-- No call fails, and the rows are dropped. -/
  | written {events u affected} : p.rows ≠ [] → conn.Grants s.state p.flushCalls events u →
      Flushed p s (.ok affected) { p with rows := [] }
        ⟨u, s.calls ++ p.flushCalls, s.log ++ .preparing .insert p.statement :: events ++
          [.flushed p.table p.size affected]⟩
  /-- A call fails, and the rows stay. -/
  | failed {made events u e} : p.rows ≠ [] →
      conn.Course s.state p.flushCalls made events u (some e) →
      Flushed p s (.error e) p
        ⟨u, s.calls ++ made, s.log ++ .preparing .insert p.statement :: events⟩

theorem Sound.flushed_commit (h : p.Sound) (s : Session σ) :
    Flushed conn p s (p.commit conn s).1 (p.commit conn s).2.1 (p.commit conn s).2.2 := by
  by_cases hrows : p.rows = []
  · have hcommit : p.commit conn s = (.ok 0, p, s) := by
      rw [commit, isEmpty, hrows]
      rfl
    rw [hcommit]
    exact .idle hrows
  · obtain ⟨q, hq, hkind, hcompile⟩ := h.exists_insertion hrows
    obtain ⟨made, events, u, failure, hcourse, result, hrun, hresult⟩ :=
      Query.run_rowCount conn hcompile s
    rw [hkind] at hrun
    have hempty : p.isEmpty = false := List.isEmpty_eq_false_iff.2 hrows
    have hcommit : p.commit conn s = match result with
        | .ok affected => (.ok affected, { p with rows := [] },
            Session.emit (.flushed p.table p.size affected)
              ⟨u, s.calls ++ made, s.log ++ .preparing .insert p.statement :: events⟩)
        | .error e => (.error e, p,
            ⟨u, s.calls ++ made, s.log ++ .preparing .insert p.statement :: events⟩) := by
      have hofExcept : s.run (Exec.ofExcept (p.insertion.mapError .config)) = (.ok q, s) := by
        rw [hq]
        rfl
      rw [commit, hempty, if_neg Bool.false_ne_true]
      simp only [Session.run_bind, hofExcept, hrun]
      cases result with
      | ok affected => rfl
      | error e => rfl
    rw [hcommit]
    cases hcourse with
    | granted hgrants =>
      cases result with
      | error e => cases hresult
      | ok affected => exact .written hrows hgrants
    | failed hcs hgrants he =>
      cases result with
      | ok affected => cases hresult
      | error e =>
        cases hresult
        exact .failed hrows (.failed hcs hgrants he)

/-! ## What a call does -/

/-- Makes a call on a pool. -/
def turn (c : PoolCall) (p : RowPool) (s : Session σ) : Turn σ :=
  match c with
  | .push entries =>
    let (result, q, t) := p.push conn entries s
    ⟨c, p, s, result, q, t⟩
  | .commit =>
    let (result, q, t) := p.commit conn s
    ⟨c, p, s, result.map fun _ => (), q, t⟩

theorem Sound.align_cases (h : p.Sound) (entries : List (String × Value)) :
    (¬ Assignments.Names p.columns entries ∧
      p.align entries = .error (.poolRowMismatch p.columns)) ∨
    ∃ row, Assignments.Spells p.columns entries row ∧ p.align entries = .ok row := by
  rw [align]
  cases hrow : (Assignments.ofEntries entries).align? p.columns with
  | none => exact .inl ⟨(Assignments.align?_ofEntries_eq_none_iff h.nodup).1 hrow, rfl⟩
  | some row => exact .inr ⟨row, (Assignments.align?_ofEntries_eq_some_iff h.nodup).1 hrow, rfl⟩

/-- What a call on a pool can do. -/
inductive Moved : Turn σ → Prop
  /-- A row of other columns is refused, and nothing is done. -/
  | refused {p : RowPool} {s : Session σ} {entries} : ¬ Assignments.Names p.columns entries →
      Moved ⟨.push entries, p, s, .error (.config (.poolRowMismatch p.columns)), p, s⟩
  /-- There is room for the row. -/
  | held {p : RowPool} {s : Session σ} {entries row} : Assignments.Spells p.columns entries row →
      p.size < p.capacity →
      Moved ⟨.push entries, p, s, .ok (), { p with rows := p.rows ++ [row] }, s⟩
  /-- Room is made for the row. -/
  | heldAfter {p q : RowPool} {s t : Session σ} {entries row affected} :
      Assignments.Spells p.columns entries row → ¬ p.size < p.capacity →
      Flushed conn p s (.ok affected) q t →
      Moved ⟨.push entries, p, s, .ok (), { q with rows := q.rows ++ [row] }, t⟩
  /-- Room cannot be made for the row. -/
  | blocked {p q : RowPool} {s t : Session σ} {entries row e} :
      Assignments.Spells p.columns entries row → ¬ p.size < p.capacity →
      Flushed conn p s (.error e) q t →
      Moved ⟨.push entries, p, s, .error e, q, t⟩
  /-- The rows are written if there are any. -/
  | committed {p q : RowPool} {s t : Session σ} {result} : Flushed conn p s result q t →
      Moved ⟨.commit, p, s, result.map fun _ => (), q, t⟩

/-- **What a call on a pool does.** -/
theorem Sound.moved (h : p.Sound) (c : PoolCall) (s : Session σ) :
    Moved conn (p.turn conn c s) := by
  have hflushed := h.flushed_commit conn s
  cases c with
  | commit => exact .committed hflushed
  | push entries =>
    rw [turn, push]
    rcases h.align_cases entries with ⟨hnames, halign⟩ | ⟨row, hspells, halign⟩
    · rw [halign]
      exact .refused hnames
    · by_cases hroom : p.size < p.capacity
      · rw [halign]
        simp only [if_pos hroom]
        exact .held hspells hroom
      · rw [halign]
        simp only [if_neg hroom]
        generalize p.commit conn s = done at hflushed
        obtain ⟨_ | _, q, t⟩ := done
        · exact .blocked hspells hroom hflushed
        · exact .heldAfter hspells hroom hflushed

end RowPool

end BoundSql
