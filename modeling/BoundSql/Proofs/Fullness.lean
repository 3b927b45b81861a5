/-
  When a pool writes, and how many rows.

  * `Turn.Batched`: there are never more rows than there is room for; rows are
    written all or none, by pushing only if the pool is full, by a commit
    whenever there are some (`Sound.batched_run`);
  * `Turn.Batched.length_written`: pushing that no call fails in writes as many
    rows as there is room for with each statement;
  * `RowPool.rows_written_in_batches`: so the number of rows that are taken
    tells how many statements have been executed, and how many rows are held.
-/
import BoundSql.Proofs.Delivery

namespace BoundSql

variable {σ : Type}

/-! ## Calls none of which fails -/

namespace Connection

variable {conn : Connection σ} {t u : σ} {cs made : List Call} {events : List Event}

theorem Course.made_eq (h : conn.Course t cs made events u none) : made = cs := by
  cases h
  rfl

theorem Course.failure_eq_none {failure : Option Error}
    (h : conn.Course t cs made events u failure) (hgranted : conn.granted t made = made) :
    failure = none := by
  cases h with
  | granted => rfl
  | failed _ hgrants he =>
    rw [hgrants.granted_concat he] at hgranted
    exact absurd hgranted (by simp)

end Connection

/-! ## What is written in one call -/

namespace Turn

/-- Every call that is made on the connection succeeds. -/
def Granted (conn : Connection σ) (t : Turn σ) : Prop :=
  conn.granted t.session.state t.made = t.made

instance (conn : Connection σ) (t : Turn σ) : Decidable (t.Granted conn) :=
  inferInstanceAs (Decidable (_ = _))

/-- The number of statements that are executed in turns. -/
def executions (ts : List (Turn σ)) : Nat := (ts.flatMap made).count .execute

theorem executions_cons (t : Turn σ) (ts : List (Turn σ)) :
    executions (t :: ts) = t.made.count .execute + executions ts := by
  rw [executions, List.flatMap_cons, List.count_append]
  rfl

/-- What is promised of the rows that a call on a pool with room for `capacity`
    rows holds and writes. -/
structure Batched (conn : Connection σ) (capacity : Nat) (t : Turn σ) : Prop where
  /-- There are never more rows than there is room for. -/
  room : t.nextPool.size ≤ capacity
  /-- The rows that are held are written all or none. -/
  whole : t.delivered conn = [] ∨ t.delivered conn = t.pool.rows
  /-- Anything that is called is called to write all these rows, and they are
      written if the call succeeds. -/
  flush : t.made ≠ [] → t.made <+: t.pool.flushCalls ∧
    (t.result = .ok () → t.delivered conn = t.pool.rows)
  /-- Pushing writes only if the pool is full. -/
  pushed : ∀ entries, t.call = .push entries → t.made ≠ [] → t.pool.size = capacity
  /-- A commit writes whenever there are rows. -/
  committed : t.call = .commit → t.pool.rows ≠ [] →
    t.made ≠ [] ∧ 1 ≤ t.pool.size ∧ t.pool.size ≤ capacity

variable {conn : Connection σ} {t : Turn σ}

theorem Delivers.whole (h : t.Delivers conn) :
    t.delivered conn = [] ∨ t.delivered conn = t.pool.rows := by
  cases h with
  | nothing hdelivered => exact .inl hdelivered
  | counted hdelivered | uncounted hdelivered => exact .inr hdelivered

/-- Rows that were written have been delivered. -/
theorem Delivers.delivered_eq (h : t.Delivers conn) (hrows : t.pool.rows ≠ [])
    (hwritten : t.written = t.pool.rows) : t.delivered conn = t.pool.rows := by
  cases h with
  | nothing _ _ hnone => exact absurd (hwritten.symm.trans hnone) hrows
  | counted hdelivered | uncounted hdelivered => exact hdelivered

/-- A call that has to write rows, and succeeds, makes all calls for this. -/
theorem Faithful.written_of_ok (h : t.Faithful conn) (hsound : t.pool.Sound)
    (hflushes : t.Flushes) (hok : t.result = .ok ()) :
    t.made = t.pool.flushCalls ∧ t.written = t.pool.rows := by
  obtain ⟨events, failure, hcourse, -, hresult⟩ := h.flushed hflushes
  have hmade : t.made = t.pool.flushCalls := by
    cases failure with
    | none => exact hcourse.made_eq
    | some e =>
      rw [hok] at hresult
      cases hresult
  exact ⟨hmade, by rw [written, hok, sent, hmade, hsound.cutRows_flushCalls]⟩

/-- If no call fails, nothing is called, or the rows are written. -/
theorem Faithful.written_of_granted (h : t.Faithful conn) (hsound : t.pool.Sound)
    (hgranted : t.Granted conn) :
    t.made = [] ∨ t.made = t.pool.flushCalls ∧ t.written = t.pool.rows := by
  by_cases hmade : t.made = []
  · exact .inl hmade
  · have hflushes := h.flushes hmade
    obtain ⟨events, failure, hcourse, -, hresult⟩ := h.flushed hflushes
    refine .inr (h.written_of_ok hsound hflushes ?_)
    rw [hresult, hcourse.failure_eq_none hgranted]
    rfl

theorem Faithful.batched (h : t.Faithful conn) (hsound : t.pool.Sound)
    (hsize : t.pool.size ≤ t.pool.capacity) (hroom : t.nextPool.size ≤ t.pool.capacity) :
    t.Batched conn t.pool.capacity where
  room := hroom
  whole := (h.delivers hsound).whole
  flush hmade := by
    have hflushes := h.flushes hmade
    obtain ⟨events, failure, hcourse, -, -⟩ := h.flushed hflushes
    refine ⟨hcourse.isPrefix, fun hok => ?_⟩
    exact (h.delivers hsound).delivered_eq hflushes.1 (h.written_of_ok hsound hflushes hok).2
  pushed entries hcall hmade := by
    obtain ⟨-, hfull⟩ := h.flushes hmade
    rw [hcall] at hfull
    exact Nat.le_antisymm hsize hfull.2
  committed hcall hrows := by
    have hflushes : t.Flushes := ⟨hrows, by rw [hcall]; trivial⟩
    obtain ⟨events, failure, hcourse, -, -⟩ := h.flushed hflushes
    exact ⟨hcourse.ne_nil _ (List.cons_ne_nil _ _), List.length_pos_iff.2 hrows, hsize⟩

end Turn

/-! ## Rows by the batch -/

namespace RowPool

/-- Writing the rows of a pool executes one statement. -/
theorem count_execute_flushCalls (p : RowPool) : p.flushCalls.count .execute = 1 := by
  have hcalls : p.statement.calls.count .execute = 0 :=
    List.count_eq_zero.2 fun h => (p.statement.ne_of_mem_calls h).1 rfl
  rw [flushCalls, List.count_append, hcalls]
  rfl

end RowPool

namespace Turn

variable {conn : Connection σ} {t : Turn σ} {capacity : Nat}

/-- Pushing that no call fails in writes as many rows as there is room for with
    each statement. -/
theorem Batched.length_written (h : t.Batched conn capacity) (hfaithful : t.Faithful conn)
    (hsound : t.pool.Sound) (hpush : t.call ≠ .commit) (hgranted : t.Granted conn) :
    t.written.length = capacity * t.made.count .execute := by
  rcases hfaithful.written_of_granted hsound hgranted with hmade | ⟨hmade, hwritten⟩
  · have hnone : t.written = [] := by
      rw [written, sent, hmade, List.filterMap_nil, cutRows_nil]
      split <;> rfl
    rw [hnone, hmade]
    rfl
  · obtain ⟨entries, hcall⟩ : ∃ entries, t.call = .push entries := by
      cases hcall : t.call with
      | push entries => exact ⟨entries, rfl⟩
      | commit => exact absurd hcall hpush
    have hfull := h.pushed entries hcall (hmade ▸ List.cons_ne_nil _ _)
    rw [hwritten, hmade, t.pool.count_execute_flushCalls, Nat.mul_one]
    exact hfull

/-- A commit that no call fails in leaves no rows. -/
theorem Batched.rows_eq_nil (h : t.Batched conn capacity) (hfaithful : t.Faithful conn)
    (hsound : t.pool.Sound) (hbalanced : RowPool.Balanced t) (hcommit : t.call = .commit)
    (hgranted : t.Granted conn) : t.nextPool.rows = [] := by
  obtain ⟨rows, haccepted, hrows⟩ := hbalanced.rows
  obtain rfl : rows = [] := by
    have hnone : t.accepted = [] := by
      rw [accepted, hcommit]
    exact List.forall₂_nil_left_iff.1 (hnone ▸ haccepted)
  rw [List.append_nil] at hrows
  rcases hfaithful.written_of_granted hsound hgranted with hmade | ⟨-, hwritten⟩
  · by_contra hnext
    refine (h.committed hcommit fun hnone => ?_).1 hmade
    rw [hnone] at hrows
    exact hnext (List.append_eq_nil_iff.1 hrows.symm).2
  · rw [hwritten] at hrows
    exact List.self_eq_append_right.1 hrows

end Turn

/-! ## How many rows are held -/

namespace RowPool

variable {conn : Connection σ} {p : RowPool}

/-- No call holds more rows than there is room for. -/
theorem Moved.size_le {t : Turn σ} (hmoved : Moved conn t) (h : t.pool.Sound)
    (hsize : t.pool.size ≤ t.pool.capacity) : t.nextPool.size ≤ t.pool.capacity := by
  cases hmoved with
  | refused => exact hsize
  | @held p s entries row hspells hroom =>
    show (p.rows ++ [row]).length ≤ p.capacity
    rw [List.length_append]
    exact hroom
  | @heldAfter p q s u entries row affected hspells hfull hflushed =>
    have h : p.Sound := h
    obtain ⟨rfl, -⟩ := hflushed.of_ok h
    exact h.capacity
  | blocked hspells hfull hflushed =>
    obtain rfl := hflushed.of_error
    exact hsize
  | @committed p q s u result hflushed =>
    cases result with
    | ok affected =>
      have h : p.Sound := h
      obtain ⟨rfl, -⟩ := hflushed.of_ok h
      exact Nat.zero_le _
    | error e =>
      obtain rfl := hflushed.of_error
      exact hsize

/-- Pushing leaves rows if there were some, or one is taken. -/
theorem Moved.rows_ne_nil {t : Turn σ} (hmoved : Moved conn t) (hpush : t.call ≠ .commit)
    (hrows : t.pool.rows ≠ [] ∨ t.accepted ≠ []) : t.nextPool.rows ≠ [] := by
  cases hmoved with
  | refused => exact hrows.resolve_right fun h => h rfl
  | held | heldAfter => exact List.concat_ne_nil _ _
  | blocked hspells hfull hflushed =>
    obtain rfl := hflushed.of_error
    exact hrows.resolve_right fun h => h rfl
  | committed => exact absurd rfl hpush

/-- All calls of a run go by the batch, and there is room for the rows that are
    held then. -/
theorem Sound.batched_run (conn : Connection σ) (h : p.Sound) (hsize : p.size ≤ p.capacity)
    (cs : List PoolCall) (s : Session σ) :
    (∀ t ∈ p.run conn cs s, t.Batched conn p.capacity) ∧
      (p.afterTurns (p.run conn cs s)).size ≤ p.capacity := by
  induction cs generalizing p s with
  | nil => exact ⟨List.forall_mem_nil _, hsize⟩
  | cons c cs ih =>
    have hpool : (p.turn conn c s).pool = p := pool_turn c p s
    have hmoved := h.moved conn c s
    have hsound : (p.turn conn c s).pool.Sound := hpool.symm ▸ h
    have hbalanced := hmoved.balanced hsound
    have hroom := hmoved.size_le hsound (by rwa [hpool])
    have hbatched := (hmoved.faithful hsound).batched hsound (by rwa [hpool]) hroom
    have hcapacity : (p.turn conn c s).nextPool.capacity = p.capacity := by
      rw [hbalanced.same, hpool]
    rw [hpool] at hroom hbatched
    obtain ⟨hturns, hafter⟩ := ih hbalanced.sound (hcapacity ▸ hroom) (p.turn conn c s).nextSession
    rw [hcapacity] at hturns hafter
    exact ⟨List.forall_mem_cons.2 ⟨hbatched, hturns⟩, hafter⟩

/-- Pushing in turn leaves rows if there were some, or one is taken. -/
theorem Sound.rows_run_ne_nil (h : p.Sound) {cs : List PoolCall} {s : Session σ}
    (hpush : ∀ t ∈ p.run conn cs s, t.call ≠ .commit)
    (hrows : p.rows ≠ [] ∨ (p.run conn cs s).flatMap Turn.accepted ≠ []) :
    (p.afterTurns (p.run conn cs s)).rows ≠ [] := by
  induction cs generalizing p s with
  | nil => exact hrows.resolve_right fun h => h rfl
  | cons c cs ih =>
    obtain ⟨hfirst, hrest⟩ := List.forall_mem_cons.1 hpush
    have hpool : (p.turn conn c s).pool = p := pool_turn c p s
    have hmoved := h.moved conn c s
    have hbalanced := hmoved.balanced (hpool.symm ▸ h)
    refine ih hbalanced.sound hrest ?_
    by_cases hlater : (run conn cs (p.turn conn c s).nextPool
        (p.turn conn c s).nextSession).flatMap Turn.accepted = []
    · refine .inl (hmoved.rows_ne_nil hfirst (hpool.symm ▸ hrows.imp_right fun hany hnone => ?_))
      refine hany ?_
      rw [run, List.flatMap_cons, hnone, hlater]
      rfl
    · exact .inr hlater

/-- Statements that write full batches write as many rows in all. -/
theorem length_flatMap_written {capacity : Nat} {ts : List (Turn σ)}
    (h : ∀ t ∈ ts, t.written.length = capacity * t.made.count .execute) :
    (ts.flatMap Turn.written).length = capacity * Turn.executions ts := by
  induction ts with
  | nil => rfl
  | cons t ts ih =>
    obtain ⟨ht, hts⟩ := List.forall_mem_cons.1 h
    rw [List.flatMap_cons, List.length_append, ht, ih hts, Turn.executions_cons, Nat.mul_add]

/-- Rows that are pushed while no call fails are written by the batch, or held. -/
theorem Sound.length_accepted (h : p.Sound) (hempty : p.rows = []) {cs : List PoolCall}
    {s : Session σ} (hturns : ∀ t ∈ p.run conn cs s, t.call ≠ .commit ∧ t.Granted conn) :
    ((p.run conn cs s).flatMap Turn.accepted).length =
      p.capacity * Turn.executions (p.run conn cs s) + (p.afterTurns (p.run conn cs s)).size := by
  have hsize : p.size ≤ p.capacity := by
    rw [size, hempty]
    exact Nat.zero_le _
  obtain ⟨hbatched, -⟩ := h.batched_run conn hsize cs s
  have hwritten : ∀ t ∈ p.run conn cs s,
      t.written.length = p.capacity * t.made.count .execute := by
    intro t ht
    obtain ⟨hpool, -, hmoved⟩ := h.of_mem_run conn cs s t ht
    obtain ⟨hpush, hgranted⟩ := hturns t ht
    exact (hbatched t ht).length_written (hmoved.faithful hpool) hpool hpush hgranted
  obtain ⟨rows, hspells, hrows⟩ := h.balanced_run conn cs s
  rw [hempty, List.nil_append] at hrows
  rw [hspells.length_eq, hrows, List.length_append, length_flatMap_written hwritten]
  rfl

/-- After a commit that no call fails in, a pool is as it was created. -/
theorem Sound.afterTurns_commit (h : p.Sound) (hsize : p.size ≤ p.capacity) {cs : List PoolCall}
    {s : Session σ} {t : Turn σ} (ht : t ∈ p.run conn cs s) (hcommit : t.call = .commit)
    (hgranted : t.Granted conn) (ts : List (Turn σ)) :
    p.afterTurns (ts ++ [t]) = { p with rows := [] } := by
  obtain ⟨hpool, hsame, hmoved⟩ := h.of_mem_run conn cs s t ht
  obtain ⟨hbatched, -⟩ := h.batched_run conn hsize cs s
  have hbalanced := hmoved.balanced hpool
  have hrows := (hbatched t ht).rows_eq_nil (hmoved.faithful hpool) hpool hbalanced hcommit hgranted
  have hlast : p.afterTurns (ts ++ [t]) = t.nextPool := by
    rw [afterTurns_append]
    rfl
  rw [hlast, hbalanced.same, hrows, hsame]

/-- A last batch that is not empty is what remains. -/
theorem div_mod_of_batches {n capacity full held : Nat} (h : n = capacity * full + held)
    (hpos : 0 < held) (hroom : held ≤ capacity) :
    full = (n - 1) / capacity ∧ held = (n - 1) % capacity + 1 := by
  have hcapacity : 0 < capacity := Nat.lt_of_lt_of_le hpos hroom
  obtain ⟨hdiv, hmod⟩ : (n - 1) / capacity = full ∧ (n - 1) % capacity = held - 1 := by
    rw [Nat.div_mod_unique hcapacity]
    omega
  omega

/-- **Rows are written by the batch.**  In every run of a new pool with distinct
    columns, on any connection, there are never more rows than there is room for,
    pushing writes all rows of a full pool, and a commit all rows that are held.
    If no call has failed since the pool was created, or from the last commit
    on, and `n` rows have been taken since, then they fill and leave the pool in
    batches: the last row of a batch is written only when the next one is taken. -/
theorem rows_written_in_batches {table : String} {columns : List String} {capacity : Nat}
    {p : RowPool} (hnew : create table columns capacity = .ok p) (hc : columns.Nodup)
    (conn : Connection σ) (cs : List PoolCall) (s : Session σ) :
    (∀ t ∈ p.run conn cs s, t.Batched conn capacity) ∧
      ∀ before since, p.run conn cs s = before ++ since →
        (before = [] ∨ ∃ ts t, before = ts ++ [t] ∧ t.call = .commit ∧ t.Granted conn) →
        (∀ t ∈ since, t.call ≠ .commit ∧ t.Granted conn) →
        ∀ n, 1 ≤ n → (since.flatMap Turn.accepted).length = n →
          Turn.executions since = (n - 1) / capacity ∧
            (p.afterTurns (before ++ since)).size = (n - 1) % capacity + 1 := by
  obtain ⟨rfl, hsound⟩ := sound_create hnew hc
  have hsize : size ⟨table, columns, capacity, []⟩ ≤ capacity := Nat.zero_le _
  refine ⟨(hsound.batched_run conn hsize cs s).1, ?_⟩
  intro before since hrun hbefore hsince n hn htaken
  have hanew : afterTurns ⟨table, columns, capacity, []⟩ before =
      ⟨table, columns, capacity, []⟩ := by
    rcases hbefore with rfl | ⟨ts, t, rfl, hcommit, hgranted⟩
    · rfl
    · have ht : t ∈ run conn cs ⟨table, columns, capacity, []⟩ s := by
        rw [hrun]
        exact List.mem_append_left _ (List.mem_append_right _ (List.mem_singleton_self t))
      exact hsound.afterTurns_commit hsize ht hcommit hgranted ts
  obtain ⟨ds, u, hds⟩ := exists_run_of_append hrun
  rw [hanew] at hds
  rw [afterTurns_append, hanew]
  subst hds
  -- What is held then is what remains of the rows that were taken.
  have hsum := hsound.length_accepted rfl hsince
  obtain ⟨-, hroom⟩ := hsound.batched_run conn hsize ds u
  have hheld := hsound.rows_run_ne_nil (fun t ht => (hsince t ht).1)
    (.inr (List.ne_nil_of_length_pos (htaken ▸ hn)))
  have hpos := List.length_pos_iff.2 hheld
  rw [htaken] at hsum
  exact div_mod_of_batches hsum hpos hroom

/-- Three rows for pairs and a commit; then four more, and one that is refused. -/
def pairedTurns : List (Turn Scripted) :=
  run scripted
    [.push [("kind", .text "a")], .push [("kind", .text "b")], .push [("kind", .text "c")], .commit,
      .push [("kind", .text "d")], .push [("size", .int 0)], .push [("kind", .text "e")],
      .push [("kind", .text "f")], .push [("kind", .text "g")]]
    ⟨"events", ["kind"], 2, []⟩ { state := { script := { affected := 2 } } }

theorem rows_written_in_batches_pairs :
    create "events" ["kind"] 2 = .ok ⟨"events", ["kind"], 2, []⟩ ∧ ["kind"].Nodup ∧
    (∀ t ∈ pairedTurns, t.Batched scripted 2) ∧
    ((pairedTurns.drop 4).flatMap Turn.accepted).length = 4 ∧
    Turn.executions (pairedTurns.drop 4) = (4 - 1) / 2 ∧
    (afterTurns ⟨"events", ["kind"], 2, []⟩ pairedTurns).size = (4 - 1) % 2 + 1 := by
  have hnew : create "events" ["kind"] 2 = .ok ⟨"events", ["kind"], 2, []⟩ := rfl
  have hc : ["kind"].Nodup := by decide
  have hsince : ∀ t ∈ pairedTurns.drop 4, t.call ≠ .commit ∧ t.Granted scripted := by
    decide +kernel
  have htaken : ((pairedTurns.drop 4).flatMap Turn.accepted).length = 4 := by decide +kernel
  obtain ⟨hturns, hcount⟩ := rows_written_in_batches hnew hc scripted _ _
  have hcounted := hcount (pairedTurns.take 4) (pairedTurns.drop 4) (List.take_append_drop 4 _).symm
    (.inr ⟨pairedTurns.take 3, _, rfl, rfl, by decide +kernel⟩) hsince 4 (by decide) htaken
  rw [List.take_append_drop] at hcounted
  exact ⟨hnew, hc, hturns, htaken, hcounted⟩

end RowPool

end BoundSql
