/-
  How often a row is delivered.

  * `Connection.granted` are the calls that succeed, and `Turn.delivered` the
    rows of a statement whose execution does;
  * a pool writes its rows and then has them counted; if only the count fails
    the call fails, so that the rows are held on and delivered again
    (`row_delivered_twice`);
  * `Turn.recorded` are the rows that are delivered and counted: no row is
    recorded twice, and none is delivered after it was recorded
    (`rows_recorded_once`).
-/
import BoundSql.Proofs.Conservation

namespace BoundSql

variable {σ : Type}

/-! ## Calls that succeed -/

namespace Connection

variable (conn : Connection σ)

/-- Those of the calls made in turn from a state that succeed. -/
def granted : σ → List Call → List Call
  | _, [] => []
  | t, c :: cs =>
    match (conn.answer c t).result with
    | .ok _ => c :: granted (conn.answer c t).next cs
    | .error _ => granted (conn.answer c t).next cs

variable {conn} {t u : σ} {cs : List Call} {events : List Event}

theorem Grants.granted_append (h : conn.Grants t cs events u) (ds : List Call) :
    conn.granted t (cs ++ ds) = cs ++ conn.granted u ds := by
  induction h with
  | nil => rfl
  | cons hr _ ih => rw [List.cons_append, granted, hr, List.cons_append, ← ih]

theorem Grants.granted_eq (h : conn.Grants t cs events u) : conn.granted t cs = cs := by
  simpa [granted] using h.granted_append []

theorem Grants.granted_concat (h : conn.Grants t cs events u) {c : Call} {e : Error}
    (he : (conn.answer c u).result = .error e) : conn.granted t (cs ++ [c]) = cs := by
  rw [h.granted_append, granted, he]
  exact List.append_nil cs

end Connection

/-- Preparing and binding neither execute nor count. -/
theorem Statement.ne_of_mem_calls (s : Statement) {c : Call} (h : c ∈ s.calls) :
    c ≠ .execute ∧ c ≠ .rowCount := by
  rcases List.mem_cons.1 h with rfl | h
  · exact ⟨nofun, nofun⟩
  · obtain ⟨_, _, rfl⟩ := List.mem_map.1 h
    exact ⟨nofun, nofun⟩

theorem Statement.rowCount_notMem (s : Statement) : .rowCount ∉ s.calls ++ [.execute] := by
  intro h
  rcases List.mem_append.1 h with h | h
  · exact (s.ne_of_mem_calls h).2 rfl
  · cases List.mem_singleton.1 h

/-! ## Rows that are delivered -/

namespace Turn

variable (conn : Connection σ)

/-- The rows of a statement whose execution succeeds. -/
def delivered (t : Turn σ) : List (List Value) :=
  if .execute ∈ conn.granted t.session.state t.made then t.sent else []

/-- The number of rows that were written is asked for in vain. -/
def Uncounted (t : Turn σ) : Prop :=
  .rowCount ∈ t.made ∧ .rowCount ∉ conn.granted t.session.state t.made

instance (t : Turn σ) : Decidable (t.Uncounted conn) := inferInstanceAs (Decidable (_ ∧ _))

/-- The rows of a statement whose execution succeeds, and whose rows are
    counted. -/
def recorded (t : Turn σ) : List (List Value) :=
  if t.Uncounted conn then [] else t.delivered conn

end Turn

namespace RowPool

variable {conn : Connection σ} {p : RowPool}

/-- Where the calls that write the rows of a pool can end: at the last one,
    after the execution, or before that. -/
theorem flushCalls_split {before after : List Call} {c : Call}
    (h : p.flushCalls = before ++ c :: after) :
    (before = p.statement.calls ++ [.execute] ∧ c = .rowCount) ∨
      (before ⊆ p.statement.calls ∧ c ≠ .rowCount) := by
  have hflush : p.flushCalls = (p.statement.calls ++ [.execute]) ++ [.rowCount] :=
    (List.append_assoc _ [Call.execute] [Call.rowCount]).symm
  rw [hflush] at h
  rcases List.eq_nil_or_concat after with rfl | ⟨rest, last, rfl⟩
  · obtain ⟨hbefore, hc⟩ := List.append_inj' h rfl
    exact .inl ⟨hbefore.symm, (List.cons.inj hc).1.symm⟩
  · rw [List.concat_eq_append, ← List.cons_append, ← List.append_assoc] at h
    have hshort := (List.append_inj' h rfl).1
    have hdrop : p.statement.calls = before ++ (c :: rest).dropLast := by
      rw [← List.dropLast_append_of_ne_nil (List.cons_ne_nil c rest), ← hshort,
        List.dropLast_concat]
    refine .inr ⟨hdrop ▸ List.subset_append_left _ _, ?_⟩
    rintro rfl
    exact p.statement.rowCount_notMem (hshort ▸ List.mem_append_right _ List.mem_cons_self)

end RowPool

namespace Turn

variable {conn : Connection σ} {t : Turn σ}

/-- A call that calls anything has to write the rows that are held. -/
theorem Faithful.flushes (h : t.Faithful conn) (hmade : t.made ≠ []) : t.Flushes := by
  have hsame : t.nextSession ≠ t.session := by
    intro hsame
    exact hmade (by rw [made, hsame, List.drop_length])
  by_contra hquiet
  by_cases hnames : ∀ entries, t.call = .push entries →
      Assignments.Names t.pool.columns entries
  · exact hsame (h.silent hnames hquiet).2
  · push Not at hnames
    obtain ⟨entries, hcall, hother⟩ := hnames
    exact hsame (h.refused entries hcall hother).2

/-- Nothing is called, or the calls that write the rows that are held, up to
    the first that fails, whose failure is the result. -/
theorem Faithful.made_cases (h : t.Faithful conn) :
    t.made = [] ∨ ∃ events failure,
      conn.Course t.session.state t.pool.flushCalls t.made events t.nextSession.state failure ∧
      t.result = failure.elim (.ok ()) .error := by
  by_cases hmade : t.made = []
  · exact .inl hmade
  · obtain ⟨events, failure, hcourse, -, hresult⟩ := h.flushed (h.flushes hmade)
    exact .inr ⟨events, failure, hcourse, hresult⟩

/-- What a call on a pool delivers: nothing; or the rows that are held, which
    are then written and counted, or cannot be counted. -/
inductive Delivers (conn : Connection σ) (t : Turn σ) : Prop
  | nothing : t.delivered conn = [] → ¬ t.Uncounted conn → t.written = [] → Delivers conn t
  | counted : t.delivered conn = t.pool.rows → ¬ t.Uncounted conn → t.written = t.pool.rows →
      Delivers conn t
  | uncounted {e} : t.delivered conn = t.pool.rows → t.Uncounted conn → t.written = [] →
      t.result = .error e → Delivers conn t

theorem delivers_of_made_eq_nil (hmade : t.made = []) : t.Delivers conn := by
  have hnone : t.sent = [] := by rw [sent, hmade, List.filterMap_nil, cutRows_nil]
  refine .nothing ?_ ?_ ?_
  · rw [delivered, hnone, ite_self]
  · rw [Uncounted, hmade]
    exact fun huncounted => List.not_mem_nil huncounted.1
  · rw [written, hnone]
    split <;> rfl

theorem delivers_of_course (hsound : t.pool.Sound) {events : List Event} {u : σ}
    {failure : Option Error}
    (hcourse : conn.Course t.session.state t.pool.flushCalls t.made events u failure)
    (hresult : t.result = failure.elim (.ok ()) .error) : t.Delivers conn := by
  have hall (hmade : t.made = t.pool.flushCalls) : t.sent = t.pool.rows := by
    rw [sent, hmade, hsound.cutRows_flushCalls]
  generalize hmade : t.made = made at hcourse
  cases hcourse with
  | granted hgrants =>
    have hexecute : Call.execute ∈ t.pool.flushCalls := by simp [RowPool.flushCalls]
    refine .counted ?_ ?_ ?_
    · rw [delivered, hmade, hgrants.granted_eq, if_pos hexecute, hall hmade]
    · rw [Uncounted, hmade, hgrants.granted_eq]
      exact fun huncounted => huncounted.2 huncounted.1
    · rw [written, hresult]
      exact hall hmade
  | @failed before c after _ _ e hcs hgrants he =>
    have hwritten : t.written = [] := by
      rw [written, hresult]
      rfl
    rcases RowPool.flushCalls_split hcs with ⟨hbefore, rfl⟩ | ⟨hbefore, hc⟩
    · -- Only the count fails: the rows are delivered all the same.
      have hflush : t.made = t.pool.flushCalls := by
        rw [hmade, hbefore, List.append_assoc]
        rfl
      have hexecute : Call.execute ∈ before :=
        hbefore ▸ List.mem_append_right _ (List.mem_singleton_self _)
      have hcount : Call.rowCount ∉ before := hbefore ▸ t.pool.statement.rowCount_notMem
      refine .uncounted ?_ ?_ hwritten hresult
      · rw [delivered, hmade, hgrants.granted_concat he, if_pos hexecute, hall hflush]
      · rw [Uncounted, hmade, hgrants.granted_concat he]
        exact ⟨List.mem_append_right _ (List.mem_singleton_self _), hcount⟩
    · refine .nothing ?_ ?_ hwritten
      · rw [delivered, hmade, hgrants.granted_concat he, if_neg]
        exact fun hmem => (t.pool.statement.ne_of_mem_calls (hbefore hmem)).1 rfl
      · rw [Uncounted, hmade, List.mem_append, List.mem_singleton]
        rintro ⟨hmem | hmem, -⟩
        · exact (t.pool.statement.ne_of_mem_calls (hbefore hmem)).2 rfl
        · exact hc hmem.symm

theorem Faithful.delivers (h : t.Faithful conn) (hsound : t.pool.Sound) : t.Delivers conn := by
  rcases h.made_cases with hmade | ⟨events, failure, hcourse, hresult⟩
  · exact delivers_of_made_eq_nil hmade
  · exact delivers_of_course hsound hcourse hresult

/-- What is recorded is what a call writes without failing. -/
theorem Delivers.recorded_eq (h : t.Delivers conn) : t.recorded conn = t.written := by
  rw [recorded]
  cases h with
  | nothing hdelivered hcounted hwritten | counted hdelivered hcounted hwritten =>
    rw [if_neg hcounted, hdelivered, hwritten]
  | uncounted _ huncounted hwritten => rw [if_pos huncounted, hwritten]

theorem Delivers.isPrefix (h : t.Delivers conn) : t.delivered conn <+: t.pool.rows := by
  cases h with
  | nothing hdelivered => exact hdelivered ▸ List.nil_prefix
  | counted hdelivered | uncounted hdelivered => exact hdelivered ▸ List.prefix_rfl

theorem Delivers.of_uncounted (h : t.Delivers conn) (huncounted : t.Uncounted conn) :
    t.delivered conn = t.pool.rows ∧ ∃ e, t.result = .error e := by
  cases h with
  | nothing _ hcounted | counted _ hcounted => exact absurd huncounted hcounted
  | uncounted hdelivered _ _ hresult => exact ⟨hdelivered, _, hresult⟩

end Turn

namespace RowPool

variable {conn : Connection σ} {p : RowPool}

/-- Before each call of a run, the rows that were written and those that are
    held are the first of those that the run takes. -/
theorem Sound.held_prefix (h : p.Sound) {cs : List PoolCall} {s : Session σ}
    {rows : List (List Value)}
    (hrows : p.rows ++ rows =
      (p.run conn cs s).flatMap Turn.written ++ (p.afterTurns (p.run conn cs s)).rows)
    {before after : List (Turn σ)} {t : Turn σ} (hturns : p.run conn cs s = before ++ t :: after) :
    before.flatMap Turn.written ++ t.pool.rows <+: p.rows ++ rows := by
  have hmem : t ∈ p.run conn cs s := hturns ▸ List.mem_append_right _ List.mem_cons_self
  obtain ⟨hsound, -, -⟩ := h.of_mem_run conn cs s t hmem
  obtain ⟨ds, u, hrest⟩ := exists_run_of_split hturns
  obtain ⟨later, -, hlater⟩ := hsound.balanced_run conn ds u
  have hlast : t.pool.afterTurns (t :: after) = p.afterTurns (before ++ t :: after) := by
    rw [afterTurns_append]
    rfl
  rw [hrest, hlast] at hlater
  refine ⟨later, ?_⟩
  rw [List.append_assoc, hlater, hrows, hturns, List.flatMap_append, List.append_assoc]

/-- **Rows are recorded once.**  In every run of a new pool with distinct
    columns, on any connection, a row that is taken is in one executed and
    counted statement at most, and in no other executed one after that: the
    rows of every executed statement are those that are taken next after the
    rows recorded before it.  If the rows of a statement cannot be counted, the
    call fails and they are held on. -/
theorem rows_recorded_once {table : String} {columns : List String} {capacity : Nat}
    {p : RowPool} (hnew : create table columns capacity = .ok p) (hc : columns.Nodup)
    (conn : Connection σ) (cs : List PoolCall) (s : Session σ) :
    ∃ rows, List.Forall₂ (Assignments.Spells columns) ((p.run conn cs s).flatMap Turn.accepted)
        rows ∧
      (p.run conn cs s).flatMap (Turn.recorded conn) <+: rows ∧
      ∀ before t after, p.run conn cs s = before ++ t :: after →
        before.flatMap (Turn.recorded conn) ++ t.delivered conn <+: rows ∧
        (t.Uncounted conn →
          (∃ e, t.result = .error e) ∧ t.nextPool.rows = t.delivered conn) := by
  obtain ⟨rfl, hsound⟩ := sound_create hnew hc
  obtain ⟨rows, hspells, hrows⟩ := hsound.balanced_run conn cs s
  have hdelivers : ∀ t ∈ run conn cs ⟨table, columns, capacity, []⟩ s,
      t.Faithful conn ∧ t.Delivers conn := by
    intro t ht
    obtain ⟨hpool, -, hmoved⟩ := hsound.of_mem_run conn cs s t ht
    have hfaithful := hmoved.faithful hpool
    exact ⟨hfaithful, hfaithful.delivers hpool⟩
  refine ⟨rows, hspells, ?_, fun before t after hturns => ⟨?_, fun huncounted => ?_⟩⟩
  · rw [List.flatMap_congr fun t ht => (hdelivers t ht).2.recorded_eq]
    exact ⟨_, hrows.symm⟩
  · have hbefore : ∀ t' ∈ before, t'.recorded conn = t'.written := fun t' ht' =>
      (hdelivers t' (hturns ▸ List.mem_append_left _ ht')).2.recorded_eq
    have ht := (hdelivers t (hturns ▸ List.mem_append_right _ List.mem_cons_self)).2
    rw [List.flatMap_congr hbefore]
    exact ((List.prefix_append_right_inj _).2 ht.isPrefix).trans (hsound.held_prefix hrows hturns)
  · obtain ⟨hfaithful, ht⟩ :=
      hdelivers t (hturns ▸ List.mem_append_right _ List.mem_cons_self)
    obtain ⟨hdelivered, e, he⟩ := ht.of_uncounted huncounted
    exact ⟨⟨e, he⟩, by rw [hfaithful.kept e he, hdelivered]⟩

/-- A connection that cannot count the rows of the first statement. -/
def firstUncounted : Connection Nat where
  answer
    | .rowCount, n =>
      { result := if n = 0 then .error (.execution "lost") else .ok n, next := n + 1 }
    | .prepare _, n | .bind .., n | .execute, n => { result := .ok (), next := n }
    | .fetch, n => { result := .ok none, next := n }
    | .fetchAll, n => { result := .ok [], next := n }
    | .lastInsertId, n => { result := .ok "", next := n }

/-- A row is written but not counted; it is written again with the next row. -/
def recountedTurns : List (Turn Nat) :=
  run firstUncounted
    [.push [("kind", .text "a")], .commit, .push [("kind", .text "b")], .commit]
    ⟨"events", ["kind"], 2, []⟩ { state := 0 }

theorem rows_recorded_once_recounted :
    create "events" ["kind"] 2 = .ok ⟨"events", ["kind"], 2, []⟩ ∧ ["kind"].Nodup ∧
    recountedTurns.flatMap (Turn.recorded firstUncounted) = [[.text "a"], [.text "b"]] ∧
    ∃ rows, List.Forall₂ (Assignments.Spells ["kind"]) (recountedTurns.flatMap Turn.accepted) rows ∧
      recountedTurns.flatMap (Turn.recorded firstUncounted) <+: rows ∧
      ∀ before t after, recountedTurns = before ++ t :: after →
        before.flatMap (Turn.recorded firstUncounted) ++ t.delivered firstUncounted <+: rows ∧
        (t.Uncounted firstUncounted →
          (∃ e, t.result = .error e) ∧ t.nextPool.rows = t.delivered firstUncounted) := by
  have hnew : create "events" ["kind"] 2 = .ok ⟨"events", ["kind"], 2, []⟩ := rfl
  have hc : ["kind"].Nodup := by decide
  have hrecorded : recountedTurns.flatMap (Turn.recorded firstUncounted) =
      [[.text "a"], [.text "b"]] := by decide +kernel
  exact ⟨hnew, hc, hrecorded, rows_recorded_once hnew hc firstUncounted _ { state := 0 }⟩

/-- A statement whose rows cannot be counted has been executed, as has the next
    one with the same row: the first row that is taken is delivered twice. -/
theorem row_delivered_twice :
    create "events" ["kind"] 2 = .ok ⟨"events", ["kind"], 2, []⟩ ∧ ["kind"].Nodup ∧
    recountedTurns.flatMap Turn.accepted = [[("kind", .text "a")], [("kind", .text "b")]] ∧
    recountedTurns.map (Turn.delivered firstUncounted) =
      [[], [[.text "a"]], [], [[.text "a"], [.text "b"]]] := by
  refine ⟨rfl, by decide, ?_, ?_⟩
  all_goals decide +kernel

end RowPool

end BoundSql
