/-
  Calls that fail.

  * `FilterEdit.run_of_error`, `Edit.run_of_error`: a call that fails leaves
    the filter, or the query, as it was, however much it has done before;
  * `runStopping_eq_error_iff`: calls in turn fail with the failure of the
    first of them that fails; `Filter.tryGroup` makes a group by any means that
    may fail, and calls in turn are one of them;
  * `Edit.runAll` runs calls whether they fail or not, with `Edit.outcomes`;
    those that fail may as well be left out (`Edit.runAll_accepted`).
-/
import BoundSql.Query.Edit
import BoundSql.Query.Render

namespace BoundSql

theorem Error.mapError_config_eq_error_iff {α : Type} {x : Except Misuse α} {err : Error} :
    x.mapError Error.config = .error err ↔ ∃ m, x = .error m ∧ .config m = err := by
  cases x with
  | ok a => exact ⟨nofun, fun ⟨_, h, _⟩ => nomatch h⟩
  | error m =>
    constructor
    · intro h
      cases h
      exact ⟨m, rfl, rfl⟩
    · rintro ⟨_, h, rfl⟩
      cases h
      rfl

/-! ## Calls on a filter -/

namespace FilterEdit

/-- A call that fails leaves the filter alone. -/
theorem run_of_error {e : FilterEdit} {f : Filter} {m : Misuse} (h : (e.run f).1 = .error m) :
    e.run f = (.error m, f) := by
  cases e with
  | add | nested | clear =>
    rw [run] at h
    cases h
  | member link column values negated =>
    rw [run] at h ⊢
    split at h
    · next hempty =>
      rw [if_pos hempty]
      cases h
      rfl
    · cases h
  | tryNested link edits =>
    -- The calls in it work on a filter of their own, whatever they have added to it.
    rw [run] at h ⊢
    split at h
    · cases h
    · cases h
      rfl

/-- Calls in turn fail with the failure of the first of them that fails. -/
theorem runStopping_eq_error_iff {edits : List FilterEdit} {f : Filter} {m : Misuse} :
    (runStopping edits f).1 = .error m ↔
      ∃ before e after g, edits = before ++ e :: after ∧ runStopping before f = (.ok (), g) ∧
        e.run g = (.error m, g) := by
  induction edits generalizing f with
  | nil =>
    rw [runStopping]
    exact ⟨nofun, fun ⟨before, _, _, _, h, _⟩ => by cases before <;> cases h⟩
  | cons d ds ih =>
    constructor
    · intro h
      rw [runStopping] at h
      split at h
      · next g hd =>
        obtain ⟨before, e, after, g', rfl, hbefore, he⟩ := ih.1 h
        exact ⟨d :: before, e, after, g', rfl, by rw [runStopping, hd]; exact hbefore, he⟩
      · next m' g hd =>
        have hm : (d.run f).1 = .error m := by rw [hd]; exact h
        exact ⟨[], d, ds, f, rfl, by rw [runStopping], run_of_error hm⟩
    · rintro ⟨before, e, after, g, hsplit, hbefore, he⟩
      cases before with
      | nil =>
        cases hsplit
        rw [runStopping] at hbefore
        cases hbefore
        rw [runStopping, he]
      | cons b bs =>
        cases hsplit
        rw [runStopping] at hbefore ⊢
        split at hbefore
        · exact ih.2 ⟨bs, e, after, g, rfl, hbefore, he⟩
        · cases hbefore

/-- A group of calls that stop at a failure fails as the first of them does. -/
theorem run_tryNested_eq_error_iff {link : Link} {edits : List FilterEdit} {f : Filter}
    {m : Misuse} :
    ((tryNested link edits).run f).1 = .error m ↔
      ∃ before e after g, edits = before ++ e :: after ∧ runStopping before [] = (.ok (), g) ∧
        e.run g = (.error m, g) := by
  rw [← runStopping_eq_error_iff, run]
  split
  · next h => rw [h]
  · next h => rw [h]

end FilterEdit

namespace Filter

/-- Adds the group that `build` makes of an empty one, unless `build` fails. -/
def tryGroup (link : Link) (build : Filter → Except Error Unit × Filter) (f : Filter) :
    Except Error Unit × Filter :=
  match build [] with
  | (.ok (), g) => (.ok (), f ++ [(link, .group g)])
  | (.error e, _) => (.error e, f)

/-- Whatever `build` has done, its failure is the only thing that is left. -/
theorem tryGroup_of_error {link : Link} {build : Filter → Except Error Unit × Filter}
    {f : Filter} {err : Error} (h : (build []).1 = .error err) :
    f.tryGroup link build = (.error err, f) := by
  rw [tryGroup]
  split
  · next hbuild =>
    rw [hbuild] at h
    cases h
  · next hbuild =>
    rw [hbuild] at h
    cases h
    rfl

theorem tryGroup_eq_error_iff {link : Link} {build : Filter → Except Error Unit × Filter}
    {f : Filter} {err : Error} :
    (f.tryGroup link build).1 = .error err ↔ (build []).1 = .error err := by
  rw [tryGroup]
  split
  · next h => rw [h]
  · next h => rw [h]

/-- Calls that stop at a failure are one way to make a group. -/
theorem run_tryNested (link : Link) (edits : List FilterEdit) (f : Filter) :
    Prod.map (Except.mapError Error.config) id ((FilterEdit.tryNested link edits).run f) =
      f.tryGroup link fun g =>
        Prod.map (Except.mapError Error.config) id (FilterEdit.runStopping edits g) := by
  rw [FilterEdit.run, tryGroup]
  rcases FilterEdit.runStopping edits [] with ⟨_ | _, g⟩ <;> rfl

end Filter

/-! ## Calls on a query -/

namespace Edit

theorem tryChange_of_error {f : Clauses → Except Misuse Clauses} {q : Query} {m : Misuse}
    (h : (tryChange f q).1 = .error m) : tryChange f q = (.error m, q) := by
  rw [tryChange] at h ⊢
  split at h
  · cases h
  · cases h
    rfl

/-- A call that fails leaves the query alone. -/
theorem run_of_error {e : Edit} {q : Query} {m : Misuse} (h : (e.run q).1 = .error m) :
    e.run q = (.error m, q) := by
  cases e with
  | data | valuesMany | orderBy | limit | offset =>
    rw [run] at h ⊢
    exact tryChange_of_error h
  | union all base edits =>
    rw [run] at h ⊢
    split at h
    · cases h
    · cases h
      rfl
  | filter e =>
    rw [run] at h ⊢
    rw [FilterEdit.run_of_error h]
    cases q
    rfl
  | _ =>
    rw [run] at h
    cases h

/-! ## Calls in turn -/

/-- The query after calls in turn, whether they fail or not. -/
def runAll : List Edit → Query → Query
  | [], q => q
  | e :: es, q => runAll es (e.run q).2

/-- The calls with their outcomes when they are run in turn. -/
def outcomes : List Edit → Query → List (Edit × Except Misuse Unit)
  | [], _ => []
  | e :: es, q => (e, (e.run q).1) :: outcomes es (e.run q).2

/-- The calls that succeed when they are run in turn. -/
def accepted : List Edit → Query → List Edit
  | [], _ => []
  | e :: es, q => match e.run q with
    | (.ok (), q) => e :: accepted es q
    | (.error _, q) => accepted es q

/-- The calls that fail leave no trace in a run. -/
theorem runAll_accepted (edits : List Edit) (q : Query) :
    runAll (accepted edits q) q = runAll edits q := by
  induction edits generalizing q with
  | nil => rfl
  | cons e es ih =>
    rw [accepted, runAll]
    split
    · next q' h => rw [runAll, h, ih]
    · next m q' h =>
      have hq : e.run q = (.error m, q) := run_of_error (by rw [h])
      rw [hq] at h ⊢
      cases h
      exact ih q

/-- **A call that fails changes nothing.**  The failure of a call on a query,
    or on a filter, is a misuse, and leaves the query, or the filter, as it
    was; so the calls of a run that fail may be left out.  A group whose calls
    stop at a failure fails as the first of its calls that fails does.  It is one
    of the groups made by some means, which fail only as these fail, and are not
    added then. -/
theorem failed_calls_change_nothing :
    (∀ (e : Edit) (q : Query) (err : Error), (e.run q).1.mapError Error.config = .error err →
      err.isConfig = true ∧ (e.run q).2 = q ∧ (e.run q).2.compile = q.compile) ∧
    (∀ (edits : List Edit) (q : Query), runAll (accepted edits q) q = runAll edits q) ∧
    (∀ (e : FilterEdit) (f : Filter) (err : Error),
      (e.run f).1.mapError Error.config = .error err → err.isConfig = true ∧ (e.run f).2 = f) ∧
    (∀ (link : Link) (edits : List FilterEdit) (f : Filter) (m : Misuse),
      ((FilterEdit.tryNested link edits).run f).1 = .error m ↔
        ∃ before e after g, edits = before ++ e :: after ∧
          FilterEdit.runStopping before [] = (.ok (), g) ∧ e.run g = (.error m, g)) ∧
    (∀ (link : Link) (edits : List FilterEdit) (f : Filter),
      Prod.map (Except.mapError Error.config) id ((FilterEdit.tryNested link edits).run f) =
        f.tryGroup link fun g =>
          Prod.map (Except.mapError Error.config) id (FilterEdit.runStopping edits g)) ∧
    ∀ (link : Link) (build : Filter → Except Error Unit × Filter) (f : Filter) (err : Error),
      (f.tryGroup link build).1 = .error err →
        (build []).1 = .error err ∧ (f.tryGroup link build).2 = f := by
  refine ⟨fun e q err h => ?_, runAll_accepted, fun e f err h => ?_,
    fun _ _ _ _ => FilterEdit.run_tryNested_eq_error_iff, Filter.run_tryNested,
    fun link build f err h => ?_⟩
  · obtain ⟨m, hm, rfl⟩ := Error.mapError_config_eq_error_iff.1 h
    rw [run_of_error hm]
    exact ⟨rfl, rfl, rfl⟩
  · obtain ⟨m, hm, rfl⟩ := Error.mapError_config_eq_error_iff.1 h
    rw [FilterEdit.run_of_error hm]
    exact ⟨rfl, rfl⟩
  · have hbuild := Filter.tryGroup_eq_error_iff.1 h
    rw [Filter.tryGroup_of_error hbuild]
    exact ⟨hbuild, rfl⟩

/-- A third row that does not fit, and a group that fails with conditions and a
    group in it already. -/
theorem failed_calls_change_nothing_midway :
    let q := runAll [.insert "t", .values [("a", .int 0)]] .fresh
    let rows : Edit := .valuesMany [[("a", .int 1)], [("a", .int 2)], [("b", .int 3)]]
    let f : Filter := [(.and, .equals "a" (.int 1))]
    let before : List FilterEdit :=
      [.add .and (.equals "b" (.int 2)), .nested .or [.add .and (.equals "c" (.int 3))]]
    let group : FilterEdit :=
      .tryNested .or (before ++ .member .and "d" [] false :: [.add .and (.equals "e" (.int 4))])
    (rows.run q).1 = .error (.rowMismatch 3 ["a"]) ∧ (rows.run q).2 = q ∧
      (group.run f).1 = .error .emptyMembership ∧ (group.run f).2 = f ∧
      (f.tryGroup .and fun g => (.error (.execution "lost"), g ++ f)).2 = f := by
  intro q rows f before group
  obtain ⟨hquery, -, hfilter, hfirst, -, hgroup⟩ := failed_calls_change_nothing
  have hrows : (rows.run q).1 = .error (.rowMismatch 3 ["a"]) := rfl
  have hnested : (group.run f).1 = .error .emptyMembership :=
    (hfirst _ _ _ _).2 ⟨before, _, _, _, rfl, rfl, rfl⟩
  exact ⟨hrows, (hquery _ _ _ (congrArg _ hrows)).2.1, hnested,
    (hfilter _ _ _ (congrArg _ hnested)).2, (hgroup _ _ _ _ rfl).2⟩

end Edit

end BoundSql
