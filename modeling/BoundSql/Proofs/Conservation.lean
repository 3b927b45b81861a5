/-
  Pools lose no row and keep their order.

  * `Turn.accepted` is the row that a call takes, `Turn.sent` are the rows that
    it binds, read off the calls made, and `Turn.written` those that it binds
    without failing;
  * `RowPool.Moved.balanced`: in one call, the rows that were held and the row
    that is taken are those that are written and those that are held then;
  * `RowPool.run` makes calls in turn, and `RowPool.afterTurns` is the pool
    then; hence `Sound.balanced_run`, and `rows_conserved` for a new pool.
-/
import BoundSql.Connection.Scripted
import BoundSql.Proofs.PoolTurn
import Mathlib.Data.List.SplitLengths

namespace BoundSql

variable {σ : Type}

/-! ## Rows in calls -/

/-- The value that a call binds. -/
def Call.bound? : Call → Option Value
  | .bind _ v _ => some v
  | _ => none

theorem Statement.bound_calls (s : Statement) : s.calls.filterMap Call.bound? = s.bindings := by
  have hbinds (vs : List Value) (position : Nat) :
      ((vs.zipIdx position).map fun e => Call.bind e.2 e.1 e.1.kind).filterMap Call.bound? =
        vs := by
    induction vs generalizing position with
    | nil => rfl
    | cons v vs ih =>
      rw [List.zipIdx_cons, List.map_cons]
      exact congrArg (v :: ·) (ih (position + 1))
  rw [calls, List.filterMap_cons_none rfl]
  exact hbinds s.bindings 1

/-- Values cut into rows of a width. -/
def cutRows (width : Nat) (vs : List Value) : List (List Value) :=
  (List.replicate (vs.length / width) width).splitLengths vs

theorem splitLengths_flatten (rows : List (List Value)) :
    (rows.map List.length).splitLengths rows.flatten = rows := by
  induction rows with
  | nil => rfl
  | cons row rows ih =>
    rw [List.map_cons, List.flatten_cons, List.splitLengths, List.splitAt_eq]
    simp only [List.take_left, List.drop_left, ih]

/-- Rows of a width that are put one after the other are cut again. -/
theorem cutRows_flatten {width : Nat} (hwidth : 0 < width) {rows : List (List Value)}
    (h : ∀ row ∈ rows, row.length = width) : cutRows width rows.flatten = rows := by
  have hlengths : rows.map List.length = List.replicate rows.length width := by
    rw [← List.map_const']
    exact List.map_congr_left h
  have hcount : rows.flatten.length / width = rows.length := by
    rw [List.length_flatten, hlengths, List.sum_replicate_nat, Nat.mul_div_cancel _ hwidth]
  rw [cutRows, hcount, ← hlengths, splitLengths_flatten]

theorem cutRows_nil (width : Nat) : cutRows width [] = [] := by
  rw [cutRows, List.length_nil, Nat.zero_div]
  rfl

/-! ## Rows in turns -/

namespace Turn

/-- The calls that are made on the connection. -/
def made (t : Turn σ) : List Call := t.nextSession.calls.drop t.session.calls.length

/-- The rows whose values are bound. -/
def sent (t : Turn σ) : List (List Value) :=
  cutRows t.pool.columns.length (t.made.filterMap Call.bound?)

/-- The rows that are written by a call that succeeds. -/
def written (t : Turn σ) : List (List Value) :=
  match t.result with
  | .ok _ => t.sent
  | .error _ => []

/-- The entries of the row that is pushed by a call that succeeds. -/
def accepted (t : Turn σ) : List (List (String × Value)) :=
  match t.call, t.result with
  | .push entries, .ok _ => [entries]
  | _, _ => []

theorem made_eq {t : Turn σ} {made : List Call}
    (h : t.nextSession.calls = t.session.calls ++ made) : t.made = made := by
  rw [Turn.made, h, List.drop_left]

theorem written_eq (t : Turn σ) (made : List Call) (hok : t.result = .ok ())
    (h : t.nextSession.calls = t.session.calls ++ made) :
    t.written = cutRows t.pool.columns.length (made.filterMap Call.bound?) := by
  rw [written, hok, sent, made_eq h]

end Turn

namespace RowPool

variable {conn : Connection σ} {p : RowPool}

theorem Sound.cutRows_flushCalls (h : p.Sound) :
    cutRows p.columns.length (p.flushCalls.filterMap Call.bound?) = p.rows := by
  have hbound : p.flushCalls.filterMap Call.bound? = p.rows.flatten := by
    rw [flushCalls, List.filterMap_append, Statement.bound_calls]
    exact List.append_nil _
  rw [hbound, cutRows_flatten (List.length_pos_iff.2 h.columns) h.rows]

/-- A call that writes the rows that are held sends these and no others. -/
theorem Flushed.of_ok {q : RowPool} {s u : Session σ} {affected : Nat} (h : p.Sound)
    (hflushed : Flushed conn p s (.ok affected) q u) :
    q = { p with rows := [] } ∧ ∃ made, u.calls = s.calls ++ made ∧
      cutRows p.columns.length (made.filterMap Call.bound?) = p.rows := by
  generalize hresult : Except.ok affected = result at hflushed
  cases hflushed with
  | idle hrows =>
    refine ⟨by rw [← hrows], [], (List.append_nil _).symm, ?_⟩
    rw [List.filterMap_nil, cutRows_nil, hrows]
  | written hrows hgrants => exact ⟨rfl, p.flushCalls, rfl, h.cutRows_flushCalls⟩
  | failed => cases hresult

theorem Flushed.of_error {q : RowPool} {s u : Session σ} {e : Error}
    (hflushed : Flushed conn p s (.error e) q u) : q = p := by
  generalize hresult : Except.error e = result at hflushed
  cases hflushed with
  | idle | written => cases hresult
  | failed => rfl

/-- What a call leaves: the pool stays as it is but for its rows, and the rows
    that it held, with the one it takes, are those that were written and those
    that it holds. -/
structure Balanced (t : Turn σ) : Prop where
  sound : t.nextPool.Sound
  same : t.nextPool = { t.pool with rows := t.nextPool.rows }
  rows : ∃ rows, List.Forall₂ (Assignments.Spells t.pool.columns) t.accepted rows ∧
    t.pool.rows ++ rows = t.written ++ t.nextPool.rows

theorem Moved.balanced {t : Turn σ} (hmoved : Moved conn t) (h : t.pool.Sound) : Balanced t := by
  have hwritten := t.written_eq
  cases hmoved with
  | refused hnames => exact ⟨h, rfl, [], .nil, List.append_nil _⟩
  | @held p s entries row hspells hroom =>
    refine ⟨h.hold hspells.length_eq, rfl, [row], .cons hspells .nil, ?_⟩
    rw [hwritten [] rfl (List.append_nil _).symm, List.filterMap_nil, cutRows_nil]
    rfl
  | @heldAfter p q s u entries row affected hspells hroom hflushed =>
    have h : p.Sound := h
    obtain ⟨rfl, made, hcalls, hsent⟩ := hflushed.of_ok h
    refine ⟨h.dropRows.hold hspells.length_eq, rfl, [row], .cons hspells .nil, ?_⟩
    rw [hwritten made rfl hcalls, hsent]
    rfl
  | blocked hspells hroom hflushed =>
    obtain rfl := hflushed.of_error
    exact ⟨h, rfl, [], .nil, List.append_nil _⟩
  | @committed p q s u result hflushed =>
    cases result with
    | error e =>
      obtain rfl := hflushed.of_error
      exact ⟨h, rfl, [], .nil, List.append_nil _⟩
    | ok affected =>
      have h : p.Sound := h
      obtain ⟨rfl, made, hcalls, hsent⟩ := hflushed.of_ok h
      refine ⟨h.dropRows, rfl, [], .nil, ?_⟩
      rw [hwritten made rfl hcalls, hsent]

/-! ## Runs -/

/-- Makes calls on a pool in turn, whether they succeed or fail. -/
def run (conn : Connection σ) : List PoolCall → RowPool → Session σ → List (Turn σ)
  | [], _, _ => []
  | c :: cs, p, s =>
    let t := p.turn conn c s
    t :: run conn cs t.nextPool t.nextSession

/-- The pool after turns. -/
def afterTurns (p : RowPool) : List (Turn σ) → RowPool
  | [] => p
  | t :: ts => t.nextPool.afterTurns ts

theorem afterTurns_append (p : RowPool) (ts us : List (Turn σ)) :
    p.afterTurns (ts ++ us) = (p.afterTurns ts).afterTurns us := by
  induction ts generalizing p with
  | nil => rfl
  | cons t ts ih => exact ih t.nextPool

theorem pool_turn (c : PoolCall) (p : RowPool) (s : Session σ) : (p.turn conn c s).pool = p := by
  cases c <;> rfl

/-- The first turns of a run are a run. -/
theorem exists_run_of_prefix {cs : List PoolCall} {s : Session σ} {ts : List (Turn σ)}
    (h : ts <+: p.run conn cs s) : ∃ ds, p.run conn ds s = ts := by
  induction cs generalizing p s ts with
  | nil => exact ⟨[], (List.prefix_nil.1 h).symm⟩
  | cons c cs ih =>
    cases ts with
    | nil => exact ⟨[], rfl⟩
    | cons t ts =>
      obtain ⟨rfl, htail⟩ := List.cons_prefix_cons.1 h
      obtain ⟨ds, hrun⟩ := ih htail
      exact ⟨c :: ds, congrArg (_ :: ·) hrun⟩

/-- What follows the first turns of a run is a run of the pool after these. -/
theorem exists_run_of_append {cs : List PoolCall} {s : Session σ} {before after : List (Turn σ)}
    (h : p.run conn cs s = before ++ after) :
    ∃ ds u, (p.afterTurns before).run conn ds u = after := by
  induction before generalizing p cs s with
  | nil => exact ⟨cs, s, h⟩
  | cons t before ih =>
    cases cs with
    | nil => cases h
    | cons c cs =>
      obtain ⟨rfl, htail⟩ := List.cons.inj h
      exact ih htail

/-- The first turn of a run is of the pool that is run. -/
theorem pool_of_run_eq_cons {cs : List PoolCall} {s : Session σ} {t : Turn σ}
    {after : List (Turn σ)} (h : p.run conn cs s = t :: after) : t.pool = p := by
  cases cs with
  | nil => cases h
  | cons c cs =>
    obtain ⟨rfl, -⟩ := List.cons.inj h
    exact pool_turn c p s

/-- From each turn on, a run is a run of the pool of that turn. -/
theorem exists_run_of_split {cs : List PoolCall} {s : Session σ} {before after : List (Turn σ)}
    {t : Turn σ} (h : p.run conn cs s = before ++ t :: after) :
    ∃ ds u, t.pool.run conn ds u = t :: after := by
  obtain ⟨ds, u, hrun⟩ := exists_run_of_append h
  exact ⟨ds, u, by rw [pool_of_run_eq_cons hrun, hrun]⟩

/-- All turns of a run are of a sound pool, which stays as it is but for its
    rows. -/
theorem Sound.of_mem_run (conn : Connection σ) (h : p.Sound) (cs : List PoolCall) (s : Session σ) :
    ∀ t ∈ p.run conn cs s,
      t.pool.Sound ∧ t.pool = { p with rows := t.pool.rows } ∧ Moved conn t := by
  induction cs generalizing p s with
  | nil => exact List.forall_mem_nil _
  | cons c cs ih =>
    have hmoved := h.moved conn c s
    have hpool : (p.turn conn c s).pool = p := pool_turn c p s
    have hbalanced := hmoved.balanced (hpool.symm ▸ h)
    refine List.forall_mem_cons.2 ⟨⟨hpool.symm ▸ h, by rw [hpool], hmoved⟩, fun t ht => ?_⟩
    obtain ⟨hsound, hsame, hturn⟩ := ih hbalanced.sound _ t ht
    refine ⟨hsound, ?_, hturn⟩
    rw [hsame, hbalanced.same, hpool]

/-- The rows that a pool held, with those that it takes in a run, are those
    that were written and those that it holds then. -/
theorem Sound.balanced_run (conn : Connection σ) (h : p.Sound) (cs : List PoolCall)
    (s : Session σ) :
    ∃ rows, List.Forall₂ (Assignments.Spells p.columns)
        ((p.run conn cs s).flatMap Turn.accepted) rows ∧
      p.rows ++ rows =
        (p.run conn cs s).flatMap Turn.written ++ (p.afterTurns (p.run conn cs s)).rows := by
  induction cs generalizing p s with
  | nil => exact ⟨[], .nil, List.append_nil _⟩
  | cons c cs ih =>
    have hpool : (p.turn conn c s).pool = p := pool_turn c p s
    have hbalanced := (h.moved conn c s).balanced (hpool.symm ▸ h)
    obtain ⟨taken, htaken, hrows⟩ := hbalanced.rows
    obtain ⟨rows, hspells, hrun⟩ := ih hbalanced.sound (p.turn conn c s).nextSession
    have hcolumns : (p.turn conn c s).nextPool.columns = p.columns := by
      rw [hbalanced.same, hpool]
    rw [hpool] at htaken hrows
    rw [hcolumns] at hspells
    refine ⟨taken ++ rows, List.rel_append htaken hspells, ?_⟩
    calc p.rows ++ (taken ++ rows)
        = (p.turn conn c s).written ++ (p.turn conn c s).nextPool.rows ++ rows := by
          rw [← List.append_assoc, hrows]
      _ = (p.turn conn c s).written ++ ((p.turn conn c s).nextPool.rows ++ rows) :=
          List.append_assoc ..
      _ = (p.run conn (c :: cs) s).flatMap Turn.written ++
            (p.afterTurns (p.run conn (c :: cs) s)).rows := by
          rw [hrun, ← List.append_assoc]
          rfl

end RowPool

/-! ## Faithful turns -/

namespace Turn

/-- The rows that are held have to be written for the call to succeed. -/
def Flushes (t : Turn σ) : Prop :=
  t.pool.rows ≠ [] ∧
    match t.call with
    | .push entries => Assignments.Names t.pool.columns entries ∧ t.pool.capacity ≤ t.pool.size
    | .commit => True

/-- What is promised of a call on a pool. -/
structure Faithful (conn : Connection σ) (t : Turn σ) : Prop where
  /-- A call that fails leaves the pool. -/
  kept : ∀ e, t.result = .error e → t.nextPool = t.pool
  /-- A row of other columns is refused, and nothing is called. -/
  refused : ∀ entries, t.call = .push entries → ¬ Assignments.Names t.pool.columns entries →
    t.result = .error (.config (.poolRowMismatch t.pool.columns)) ∧ t.nextSession = t.session
  /-- Any other call succeeds, without calling anything, if no rows have to be
      written. -/
  silent : (∀ entries, t.call = .push entries → Assignments.Names t.pool.columns entries) →
    ¬ t.Flushes → t.result = .ok () ∧ t.nextSession = t.session
  /-- Rows are written by one statement, up to the first call that fails, whose
      failure is the result. -/
  flushed : t.Flushes → ∃ events failure,
    conn.Course t.session.state t.pool.flushCalls t.made events t.nextSession.state failure ∧
    t.nextSession.calls = t.session.calls ++ t.made ∧ t.result = failure.elim (.ok ()) .error

end Turn

namespace RowPool

variable {conn : Connection σ} {p : RowPool}

theorem Flushed.course {q : RowPool} {s u : Session σ} {result : Except Error Nat}
    (hflushed : Flushed conn p s result q u) (hrows : p.rows ≠ []) :
    ∃ events failure,
      conn.Course s.state p.flushCalls (u.calls.drop s.calls.length) events u.state failure ∧
      u.calls = s.calls ++ u.calls.drop s.calls.length ∧
      result.map (fun _ => ()) = failure.elim (.ok ()) .error := by
  cases hflushed with
  | idle hempty => exact absurd hempty hrows
  | written _ hgrants =>
    rw [List.drop_left]
    exact ⟨_, none, .granted hgrants, rfl, rfl⟩
  | failed _ hcourse =>
    rw [List.drop_left]
    exact ⟨_, _, hcourse, rfl, rfl⟩

theorem Moved.faithful {t : Turn σ} (hmoved : Moved conn t) (h : t.pool.Sound) :
    t.Faithful conn := by
  cases hmoved with
  | @refused p s entries hnames =>
    refine ⟨fun _ _ => rfl, fun _ _ _ => ⟨rfl, rfl⟩, fun hall _ => ?_, fun hflushes => ?_⟩
    · exact absurd (hall entries rfl) hnames
    · exact absurd hflushes.2.1 hnames
  | @held p s entries row hspells hroom =>
    refine ⟨nofun, fun _ hcall hnames => ?_, fun _ _ => ⟨rfl, rfl⟩, fun hflushes => ?_⟩
    · cases hcall
      exact absurd hspells.1 hnames
    · exact absurd hflushes.2.2 (Nat.not_le.2 hroom)
  | @heldAfter p q s u entries row affected hspells hfull hflushed =>
    have hrows : p.rows ≠ [] := h.rows_ne_nil hfull
    refine ⟨nofun, fun _ hcall hnames => ?_, fun _ hquiet => ?_, fun _ => hflushed.course hrows⟩
    · cases hcall
      exact absurd hspells.1 hnames
    · exact absurd ⟨hrows, hspells.1, Nat.not_lt.1 hfull⟩ hquiet
  | @blocked p q s u entries row e hspells hfull hflushed =>
    have hrows : p.rows ≠ [] := h.rows_ne_nil hfull
    refine ⟨fun _ _ => hflushed.of_error, fun _ hcall hnames => ?_, fun _ hquiet => ?_,
      fun _ => hflushed.course hrows⟩
    · cases hcall
      exact absurd hspells.1 hnames
    · exact absurd ⟨hrows, hspells.1, Nat.not_lt.1 hfull⟩ hquiet
  | @committed p q s u result hflushed =>
    refine ⟨fun e he => ?_, nofun, fun _ hquiet => ?_, fun hflushes => hflushed.course hflushes.1⟩
    · cases result with
      | ok affected => cases he
      | error e => exact hflushed.of_error
    · have hrows : p.rows = [] := by
        by_contra hrows
        exact hquiet ⟨hrows, trivial⟩
      cases hflushed with
      | idle => exact ⟨rfl, rfl⟩
      | written hne | failed hne => exact absurd hrows hne

/-- **Pools are faithful.**  In every run of a new pool with distinct columns,
    on any connection, after each call the rows that were written, followed by
    those that are held, are the rows whose pushing succeeded, in order, each
    with the last value given to every column.  Every call keeps the pool if it
    fails, and writes either nothing or all rows that are held, by one INSERT. -/
theorem rows_conserved {table : String} {columns : List String} {capacity : Nat} {p : RowPool}
    (hnew : create table columns capacity = .ok p) (hc : columns.Nodup) (conn : Connection σ)
    (cs : List PoolCall) (s : Session σ) :
    (∀ ts, ts <+: p.run conn cs s →
      List.Forall₂ (Assignments.Spells columns) (ts.flatMap Turn.accepted)
        (ts.flatMap Turn.written ++ (p.afterTurns ts).rows)) ∧
    ∀ t ∈ p.run conn cs s, t.pool = ⟨table, columns, capacity, t.pool.rows⟩ ∧ t.Faithful conn := by
  obtain ⟨rfl, hsound⟩ := sound_create hnew hc
  refine ⟨fun ts hts => ?_, fun t ht => ?_⟩
  · obtain ⟨ds, rfl⟩ := exists_run_of_prefix hts
    obtain ⟨rows, hspells, hrows⟩ := hsound.balanced_run conn ds s
    rw [← hrows]
    exact hspells
  · obtain ⟨hpool, hsame, hmoved⟩ := hsound.of_mem_run conn cs s t ht
    exact ⟨hsame, hmoved.faithful hpool⟩

/-- Three rows are taken, one is refused for its columns, and one is not taken
    as the rows before it cannot be written. -/
def eventCalls : List PoolCall :=
  [.push [("kind", .text "a"), ("size", .int 1)], .commit,
    .push [("size", .int 0), ("kind", .text "b"), ("size", .int 2)], .push [("kind", .text "x")],
    .push [("kind", .text "c"), ("size", .int 3)], .push [("kind", .text "d"), ("size", .int 4)]]

/-- The third value of a statement cannot be bound. -/
def thirdFails : Session Scripted :=
  { state := ⟨{ affected := 1, failures := [⟨"bind", some 3, .execution "lost"⟩] }, []⟩ }

def events : RowPool := ⟨"events", ["kind", "size"], 2, []⟩

theorem rows_conserved_thirdFails :
    create "events" ["kind", "size"] 2 = .ok events ∧ ["kind", "size"].Nodup ∧
    (events.run scripted eventCalls thirdFails).flatMap Turn.made =
      [.prepare "INSERT INTO events (kind, size) VALUES (?, ?)", .bind 1 (.text "a") .text,
        .bind 2 (.int 1) .int, .execute, .rowCount,
        .prepare "INSERT INTO events (kind, size) VALUES (?, ?), (?, ?)",
        .bind 1 (.text "b") .text, .bind 2 (.int 2) .int, .bind 3 (.text "c") .text] ∧
    (events.run scripted eventCalls thirdFails).flatMap Turn.written = [[.text "a", .int 1]] ∧
    (events.afterTurns (events.run scripted eventCalls thirdFails)).rows =
      [[.text "b", .int 2], [.text "c", .int 3]] ∧
    List.Forall₂ (Assignments.Spells ["kind", "size"])
      ((events.run scripted eventCalls thirdFails).flatMap Turn.accepted)
      [[.text "a", .int 1], [.text "b", .int 2], [.text "c", .int 3]] ∧
    ∀ t ∈ events.run scripted eventCalls thirdFails,
      t.pool = ⟨"events", ["kind", "size"], 2, t.pool.rows⟩ ∧ t.Faithful scripted := by
  have hnew : create "events" ["kind", "size"] 2 = .ok events := rfl
  have hc : ["kind", "size"].Nodup := by decide
  have hwritten : (events.run scripted eventCalls thirdFails).flatMap Turn.written =
      [[.text "a", .int 1]] := by decide +kernel
  have hheld : (events.afterTurns (events.run scripted eventCalls thirdFails)).rows =
      [[.text "b", .int 2], [.text "c", .int 3]] := by decide +kernel
  obtain ⟨hrows, hturns⟩ := rows_conserved hnew hc scripted eventCalls thirdFails
  have hrows := hrows _ List.prefix_rfl
  rw [hwritten, hheld] at hrows
  exact ⟨hnew, hc, by decide +kernel, hwritten, hheld, hrows, hturns⟩

end RowPool

end BoundSql
