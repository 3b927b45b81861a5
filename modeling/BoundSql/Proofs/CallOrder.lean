/-
  The calls that running a query makes.

  * `Helper` names the ways to run a query: `Helper.subject` is the query that
    is run in place of the given one, and `Helper.last` are the calls that
    follow the binding of its values;
  * `Connection.makeAll` makes calls in turn up to the first that fails, and
    `Connection.Course` tells which calls are made, and whether one fails,
    without running anything (`run_makeAll`);
  * `Exec.Carries`: work leaves the session as its plan does and fails where it
    does; every helper carries out the plan to prepare, bind, and make its last
    calls (`Helper.run_carries`), whence `run_calls`.
-/
import BoundSql.Query.Run

namespace BoundSql

variable {σ : Type} {α β : Type}

/-! ## Sessions -/

namespace Session

theorem run_bind (work : Exec σ α) (k : α → Exec σ β) (s : Session σ) :
    s.run (work >>= k) = match s.run work with
      | (.ok a, s) => s.run (k a)
      | (.error e, s) => (.error e, s) := by
  simp only [run, ExceptT.run_bind]
  rcases h : (ExceptT.run work).run s with ⟨a | e, t⟩
  all_goals simp [StateT.run_bind, h]; rfl

theorem run_pure (a : α) (s : Session σ) : s.run (pure a) = (.ok a, s) := rfl

theorem log_emit_append (e : Event) (s : Session σ) (events : List Event) :
    (s.emit e).log ++ events = s.log ++ e :: events := by
  rw [emit, List.append_assoc]; rfl

theorem run_call (conn : Connection σ) (c : Call) (s : Session σ) :
    s.run (conn.call c) = ((conn.answer c s.state).result,
      ⟨(conn.answer c s.state).next, s.calls ++ [c], s.log ++ (conn.answer c s.state).events⟩) :=
  rfl

end Session

/-! ## Calls in turn -/

namespace Connection

variable (conn : Connection σ)

/-- Calls that succeed one after the other, from a state to a state, with what
    is logged meanwhile. -/
inductive Grants : σ → List Call → List Event → σ → Prop
  | nil {t} : Grants t [] [] t
  | cons {t u c cs events r} : (conn.answer c t).result = .ok r →
      Grants (conn.answer c t).next cs events u →
      Grants t (c :: cs) ((conn.answer c t).events ++ events) u

/-- What becomes of calls that are to be made in turn from a state: the calls
    made, what is logged, the state after them, and the failure if there is
    one. -/
inductive Course (t : σ) (cs : List Call) : List Call → List Event → σ → Option Error → Prop
  /-- All are made, and none fails. -/
  | granted {events u} : conn.Grants t cs events u → Course t cs cs events u none
  /-- One fails after others that succeed, and is the last that is made. -/
  | failed {before c after events u e} : cs = before ++ c :: after →
      conn.Grants t before events u → (conn.answer c u).result = .error e →
      Course t cs (before ++ [c]) (events ++ (conn.answer c u).events) (conn.answer c u).next
        (some e)

theorem Course.isPrefix {t u : σ} {cs made : List Call} {events : List Event}
    {failure : Option Error} (h : conn.Course t cs made events u failure) : made <+: cs := by
  cases h with
  | granted => exact List.prefix_rfl
  | @failed before c after events u e hcs =>
    exact ⟨after, by rw [hcs, List.append_assoc]; rfl⟩

theorem Course.ne_nil {t u : σ} {cs made : List Call} {events : List Event}
    {failure : Option Error} (h : conn.Course t cs made events u failure) (hcs : cs ≠ []) :
    made ≠ [] := by
  cases h with
  | granted => exact hcs
  | failed => exact List.concat_ne_nil _ _

/-- Makes calls in turn, up to the first that fails. -/
def makeAll : List Call → Exec σ Unit
  | [] => return
  | c :: cs => do
    let _ ← conn.call c
    makeAll cs

theorem makeAll_append (cs ds : List Call) :
    conn.makeAll (cs ++ ds) = (do conn.makeAll cs; conn.makeAll ds) := by
  induction cs with
  | nil => rw [List.nil_append, makeAll, pure_bind]
  | cons c cs ih => simp only [List.cons_append, makeAll, ih, bind_assoc]

/-- Making calls takes the course of the calls, from any session. -/
theorem run_makeAll (cs : List Call) (s : Session σ) :
    ∃ made events u failure, conn.Course s.state cs made events u failure ∧
      s.run (conn.makeAll cs) =
        (failure.elim (.ok ()) .error, ⟨u, s.calls ++ made, s.log ++ events⟩) := by
  induction cs generalizing s with
  | nil => exact ⟨[], [], s.state, none, .granted .nil, by simp [makeAll, Session.run_pure]⟩
  | cons c cs ih =>
    rw [makeAll, Session.run_bind, Session.run_call]
    cases hr : (conn.answer c s.state).result with
    | error e =>
      exact ⟨[] ++ [c], [] ++ _, _, some e, .failed (List.nil_append _).symm .nil hr, rfl⟩
    | ok r =>
      obtain ⟨made, events, u, failure, hcourse, hrun⟩ :=
        ih ⟨(conn.answer c s.state).next, s.calls ++ [c], s.log ++ (conn.answer c s.state).events⟩
      refine ⟨c :: made, (conn.answer c s.state).events ++ events, u, failure, ?_, ?_⟩
      · cases hcourse with
        | granted h => exact .granted (.cons hr h)
        | failed hcs h he =>
          rw [← List.cons_append, ← List.append_assoc]
          exact .failed (by rw [hcs]; rfl) (.cons hr h) he
      · simpa using hrun

end Connection

/-! ## Plans -/

namespace Exec

/-- What becomes of work, and what becomes of its plan: both succeed, both
    fail, or the work refuses what it was given. -/
inductive Agrees (refuses : Error → Prop) :
    Except Error α × Session σ → Except Error Unit × Session σ → Prop
  | granted {a s} : Agrees refuses (.ok a, s) (.ok (), s)
  | failed {e s} : Agrees refuses (.error e, s) (.error e, s)
  | refused {e s} : refuses e → Agrees refuses (.error e, s) (.ok (), s)

/-- Whatever becomes of them, work and plan end in the same session. -/
theorem Agrees.session_eq {refuses : Error → Prop} {done : Except Error α × Session σ}
    {planned : Except Error Unit × Session σ} (h : Agrees refuses done planned) :
    done.2 = planned.2 := by
  cases h <;> rfl

/-- From any session, work leaves the session as its plan does and fails where
    it does; where the plan does not fail, work fails only with what it
    refuses. -/
def Carries (work : Exec σ α) (plan : Exec σ Unit) (refuses : Error → Prop) : Prop :=
  ∀ s : Session σ, Agrees refuses (s.run work) (s.run plan)

/-- Nothing is refused. -/
def Never (_ : Error) : Prop := False

namespace Carries

theorem self (plan : Exec σ Unit) : plan.Carries plan Never := by
  intro s
  rcases s.run plan with ⟨_ | _, t⟩
  · exact .failed
  · exact .granted

theorem call (conn : Connection σ) (c : Call) : (conn.call c).Carries (conn.makeAll [c]) Never := by
  intro s
  rw [Connection.makeAll, Session.run_bind]
  rcases s.run (conn.call c) with ⟨_ | _, t⟩
  · exact .failed
  · exact .granted

theorem bind {work : Exec σ α} {k : α → Exec σ β} {plan plan' : Exec σ Unit}
    {refuses : Error → Prop} (hw : work.Carries plan Never)
    (hk : ∀ a, (k a).Carries plan' refuses) :
    (work >>= k).Carries (do plan; plan') refuses := by
  intro s
  rw [Session.run_bind, Session.run_bind]
  have h := hw s
  generalize s.run work = done at h
  generalize s.run plan = planned at h
  cases h with
  | granted => exact hk _ _
  | failed => exact .failed
  | refused h => exact h.elim

/-- What needs no connection is not part of the plan. -/
theorem andThen {work : Exec σ α} {plan : Exec σ Unit} {refuses : Error → Prop}
    (hw : work.Carries plan Never) {f : α → Except Error β}
    (hf : ∀ a e, f a = .error e → refuses e) :
    Exec.Carries (do ofExcept (f (← work))) plan refuses := by
  have hlast (a : α) : (ofExcept (f a) : Exec σ β).Carries (pure ()) refuses := by
    intro s
    cases ha : f a with
    | ok b => exact .granted
    | error e => exact .refused (hf a e ha)
  have h := hw.bind hlast
  rwa [bind_pure_unit] at h

theorem map {work : Exec σ α} {plan : Exec σ Unit} (hw : work.Carries plan Never) (f : α → β) :
    Exec.Carries (do return f (← work)) plan Never :=
  hw.andThen (f := fun a => .ok (f a)) fun _ _ h => nomatch h

end Carries

end Exec

/-! ## Queries -/

/-- The calls that prepare a statement and bind its values by position. -/
def Statement.calls (s : Statement) : List Call :=
  .prepare s.sql :: (s.bindings.zipIdx 1).map fun (v, i) => .bind i v v.kind

namespace Query

variable (conn : Connection σ)

/-- Prepares a query, binds its values, and makes further calls. -/
def plan (last : List Call) (q : Query) : Exec σ Unit := do
  q.prepare conn
  conn.makeAll last

theorem bindFrom_eq (position : Nat) (vs : List Value) :
    bindFrom conn position vs =
      conn.makeAll ((vs.zipIdx position).map fun (v, i) => .bind i v v.kind) := by
  induction vs generalizing position with
  | nil => rfl
  | cons v vs ih => rw [bindFrom, ih]; rfl

theorem plan_append (last cs : List Call) (q : Query) :
    q.plan conn (last ++ cs) = (do q.plan conn last; conn.makeAll cs) := by
  rw [plan, plan, Connection.makeAll_append, bind_assoc]

theorem prepare_carries (q : Query) :
    (q.prepare conn).Carries (q.plan conn []) Exec.Never := by
  have h : q.plan conn [] = q.prepare conn := bind_pure_unit
  rw [h]
  exact .self _

variable {conn} {q : Query}

/-- One more call, whose reply is what the work gives. -/
theorem call_carries {work : Exec σ α} {last : List Call}
    (hw : work.Carries (q.plan conn last) Exec.Never) (c : Call) :
    Exec.Carries (do let _ ← work; conn.call c) (q.plan conn (last ++ [c])) Exec.Never := by
  rw [plan_append]
  exact hw.bind fun _ => .call conn c

theorem execute_carries : (q.execute conn).Carries (q.plan conn [.execute]) Exec.Never :=
  call_carries (q.prepare_carries conn) .execute

theorem rows_carries : (q.rows conn).Carries (q.plan conn [.execute, .fetchAll]) Exec.Never :=
  call_carries execute_carries .fetchAll

theorem first_carries :
    (q.first? conn).Carries (q.firstOnly.plan conn [.execute, .fetch]) Exec.Never :=
  call_carries execute_carries .fetch

theorem value_carries (column : String) :
    (q.value? column conn).Carries (q.firstOnly.plan conn [.execute, .fetch]) Exec.Never :=
  first_carries.map _

theorem aggregate_carries (f : Aggregate) (column : String) :
    (q.aggregate? f column conn).Carries
      ((q.aggregation f column).firstOnly.plan conn [.execute, .fetch]) Exec.Never :=
  (value_carries _).map _

theorem run_plan_of_error {m : Misuse} (hq : q.compile = .error m) (last : List Call)
    (s : Session σ) : s.run (q.plan conn last) = (.error (.config m), s) := by
  rw [plan, prepare, hq]
  rfl

theorem run_plan_of_ok {stmt : Statement} (hq : q.compile = .ok stmt) (last : List Call)
    (s : Session σ) :
    s.run (q.plan conn last) =
      (s.emit (.preparing q.kind stmt)).run (conn.makeAll (stmt.calls ++ last)) := by
  simp only [plan, prepare, hq, bindFrom_eq]
  rw [Connection.makeAll_append, Statement.calls, Connection.makeAll]
  rfl

end Query

/-- Where a list cannot be mapped, all is well up to an item that is refused. -/
theorem exists_of_mapM_eq_error {ε : Type} {f : α → Except ε β} {as : List α} {e : ε}
    (h : as.mapM f = .error e) :
    ∃ before a after, as = before ++ a :: after ∧ (∀ b ∈ before, ∃ c, f b = .ok c) ∧
      f a = .error e := by
  induction as with
  | nil => cases h
  | cons a as ih =>
    rw [List.mapM_cons] at h
    cases ha : f a with
    | error e' =>
      rw [ha] at h
      cases h
      exact ⟨[], a, as, rfl, List.forall_mem_nil _, ha⟩
    | ok b =>
      cases has : as.mapM f with
      | error e' =>
        rw [ha, has] at h
        cases h
        obtain ⟨before, a', after, rfl, hbefore, ha'⟩ := ih has
        exact ⟨a :: before, a', after, rfl, List.forall_mem_cons.2 ⟨⟨b, ha⟩, hbefore⟩, ha'⟩
      | ok bs =>
        rw [ha, has] at h
        cases h

/-- The ways to run a query, by what they give. -/
inductive Helper : Type → Type 1
  | prepare : Helper Unit
  | execute : Helper Unit
  | rows : Helper (List Row)
  | rowsAs {α : Type} (decode : Row → Except Error α) : Helper (List α)
  | first : Helper (Option Row)
  | firstAs {α : Type} (decode : Row → Except Error α) : Helper (Option α)
  | value (column : String) : Helper (Option Value)
  | pluck (column : String) : Helper (List Value)
  | pluckKeyed (column key : String) : Helper (List (Value × Value))
  | rowCount : Helper Nat
  | insertGetId : Helper String
  | existence : Helper Bool
  | aggregate (f : Aggregate) (column : String) : Helper (Option Value)
  | count (column : String) : Helper Int64

namespace Helper

/-- Runs a query. -/
def run (conn : Connection σ) (q : Query) : Helper α → Exec σ α
  | .prepare => q.prepare conn
  | .execute => q.execute conn
  | .rows => q.rows conn
  | .rowsAs decode => q.rowsAs decode conn
  | .first => q.first? conn
  | .firstAs decode => q.firstAs? decode conn
  | .value column => q.value? column conn
  | .pluck column => q.pluck column conn
  | .pluckKeyed column key => q.pluckKeyed column key conn
  | .rowCount => q.rowCount conn
  | .insertGetId => q.insertGetId conn
  | .existence => q.exists? conn
  | .aggregate f column => q.aggregate? f column conn
  | .count column => q.count column conn

/-- The query that is run in place of a query. -/
def subject (q : Query) : Helper α → Query
  | .first | .firstAs _ | .value _ => q.firstOnly
  | .existence => q.existence
  | .aggregate f column => (q.aggregation f column).firstOnly
  | .count column => (q.aggregation .count column).firstOnly
  | .prepare | .execute | .rows | .rowsAs _ | .pluck _ | .pluckKeyed .. | .rowCount
  | .insertGetId => q

/-- The calls after the values are bound. -/
def last : Helper α → List Call
  | .prepare => []
  | .execute => [.execute]
  | .rows | .rowsAs _ | .pluck _ | .pluckKeyed .. | .existence => [.execute, .fetchAll]
  | .first | .firstAs _ | .value _ | .aggregate .. | .count _ => [.execute, .fetch]
  | .rowCount => [.execute, .rowCount]
  | .insertGetId => [.execute, .lastInsertId]

/-- Rows that cannot be made into what is asked for are refused. -/
def Refuses : Helper α → Error → Prop
  | .rowsAs decode, e | .firstAs decode, e => ∃ row, decode row = .error e
  | .prepare, _ | .execute, _ | .rows, _ | .first, _ | .value _, _ | .pluck _, _
  | .pluckKeyed .., _ | .rowCount, _ | .insertGetId, _ | .existence, _ | .aggregate .., _
  | .count _, _ => False

/-- Every helper carries out its plan. -/
theorem run_carries (conn : Connection σ) (q : Query) (h : Helper α) :
    (h.run conn q).Carries ((h.subject q).plan conn h.last) h.Refuses := by
  cases h with
  | prepare => exact q.prepare_carries conn
  | execute => exact Query.execute_carries
  | rows => exact Query.rows_carries
  | rowsAs decode =>
    refine Query.rows_carries.andThen fun _ _ h => ?_
    obtain ⟨_, row, _, _, _, hrow⟩ := exists_of_mapM_eq_error h
    exact ⟨row, hrow⟩
  | first => exact Query.first_carries
  | firstAs decode =>
    refine Query.first_carries.andThen fun row e h => ?_
    cases row with
    | none => cases h
    | some row =>
      cases hrow : decode row with
      | error e' =>
        simp only [Option.mapM_some, hrow] at h
        cases h
        exact ⟨row, hrow⟩
      | ok a =>
        simp only [Option.mapM_some, hrow] at h
        cases h
  | value column => exact Query.value_carries column
  | pluck | pluckKeyed | existence => exact Query.rows_carries.map _
  | rowCount => exact Query.call_carries Query.execute_carries .rowCount
  | insertGetId => exact Query.call_carries Query.execute_carries .lastInsertId
  | aggregate f column => exact Query.aggregate_carries f column
  | count column => exact (Query.aggregate_carries .count column).map _

/-- **The order of calls.**  Running a query on any connection prepares the
    text of the query that is run, binds its values in turn, each at its
    position under its kind, and makes the last calls of the helper, up to the
    first call that fails, whose failure is then the result.  If the query does
    not compile, nothing is called and nothing is logged. -/
theorem run_calls (h : Helper α) (conn : Connection σ) (q : Query) (s : Session σ) :
    match (h.subject q).compile with
    | .error m => s.run (h.run conn q) = (.error (.config m), s)
    | .ok stmt =>
      ∃ (made : List Call) (events : List Event) (u : σ) (failure : Option Error),
        conn.Course s.state (stmt.calls ++ h.last) made events u failure ∧
        made <+: stmt.calls ++ h.last ∧
        (s.run (h.run conn q)).2 = ⟨u, s.calls ++ made,
          s.log ++ .preparing (h.subject q).kind stmt :: events⟩ ∧
        (∀ e, failure = some e → (s.run (h.run conn q)).1 = .error e) ∧
        (failure = none → ∀ e, (s.run (h.run conn q)).1 = .error e → h.Refuses e) := by
  have hagrees := h.run_carries conn q s
  cases hq : (h.subject q).compile with
  | error m =>
    rw [Query.run_plan_of_error hq] at hagrees
    generalize s.run (h.run conn q) = done at hagrees
    cases hagrees
    rfl
  | ok stmt =>
    obtain ⟨made, events, u, failure, hcourse, hrun⟩ :=
      conn.run_makeAll (stmt.calls ++ h.last) (s.emit (.preparing (h.subject q).kind stmt))
    rw [Query.run_plan_of_ok hq, hrun, Session.log_emit_append] at hagrees
    refine ⟨made, events, u, failure, hcourse, hcourse.isPrefix, ?_⟩
    generalize s.run (h.run conn q) = done at hagrees
    -- Where the plan fails the helper fails; where it does not, the helper may still refuse.
    cases failure with
    | none =>
      cases hagrees with
      | granted => exact ⟨rfl, nofun, fun _ _ he => nomatch he⟩
      | refused hrefuses =>
        refine ⟨rfl, nofun, fun _ _ he => ?_⟩
        cases he
        exact hrefuses
    | some e =>
      cases hagrees
      exact ⟨rfl, fun _ he => congrArg _ (Option.some.inj he), nofun⟩

end Helper

end BoundSql
