/-
  Unions.

  * `Statement.unite` puts statements after one another, with a word between
    them;
  * `Query.compile_eq_ok_iff_of_select`: a SELECT with members compiles to the
    statement it has without them, united with the statements of its members;
  * `Edit.unions` are the unions that calls make; `Edit.unites_runAll`: a run
    ends with the members of these and with the sort of the last.
-/
import BoundSql.Proofs.Footprint
import BoundSql.Proofs.Written
import Mathlib.Data.List.Forall2

namespace BoundSql

/-! ## Statements in a row -/

/-- The statement with others after it, each after `keyword`. -/
def Statement.unite (keyword : String) (ts : List Statement) (s : Statement) : Statement where
  sql := s.sql ++ String.join (ts.map fun t => " " ++ keyword ++ " " ++ t.sql)
  bindings := s.bindings ++ ts.flatMap Statement.bindings

namespace Query

/-! ## Members -/

theorem faults_trailMembers_eq_nil_iff {members : List Query} :
    Trail.faults (trailMembers members) = [] ↔
      ∀ m ∈ members, m.kind = .select ∧ m.trail.faults = [] := by
  have hmember (m : Query) : Trail.faults m.memberTrail = [] ↔
      m.kind = .select ∧ m.trail.faults = [] := by
    rw [memberTrail, Trail.faults_append, List.append_eq_nil_iff, Trail.faults_breaking,
      ite_eq_right_iff]
    simp [kind]
  simp only [trailMembers_eq_flatMap, Trail.faults_flatMap, List.flatMap_eq_nil_iff, hmember]

/-- Members that are SELECTs and compile, each by itself. -/
theorem forall₂_compile_iff {members : List Query} {ts : List Statement} :
    List.Forall₂ (fun m t => m.kind = .select ∧ m.compile = .ok t) members ts ↔
      Trail.faults (trailMembers members) = [] ∧ members.map statement = ts := by
  simp only [compile_eq_ok_iff, ← and_assoc]
  rw [List.forall₂_and_left, faults_trailMembers_eq_nil_iff,
    ← List.forall₂_map_left_iff (R := Eq), List.forall₂_eq_eq_eq]

theorem values_trailMembers (members : List Query) :
    Trail.values (trailMembers members) = (members.map statement).flatMap Statement.bindings := by
  rw [trailMembers_eq_flatMap, Trail.values_flatMap, List.flatMap_map]
  refine List.flatMap_congr fun m _ => ?_
  rw [memberTrail, Trail.values_append, Trail.values_breaking, List.nil_append, statement]

/-! ## A query and its members -/

/-- The query without its members. -/
def alone (q : Query) : Query := { q with members := [] }

/-- The trail of a SELECT goes on along its members. -/
theorem trail_eq_append {q : Query} (h : q.kind = .select) :
    q.trail = q.alone.trail ++ trailMembers q.members := by
  obtain ⟨c, members, all⟩ := q
  simp only [kind] at h
  simp [alone, trail, h, trailMembers]

theorem statement_eq_unite {q : Query} (h : q.kind = .select) :
    q.statement = q.alone.statement.unite (unionKeyword q.unionAll) (q.members.map statement) := by
  have hvalues : q.trail.values =
      q.alone.trail.values ++ (q.members.map statement).flatMap Statement.bindings := by
    rw [trail_eq_append h, Trail.values_append, values_trailMembers]
  have hsql : q.written Render.mark = q.alone.written Render.mark ++
      String.join ((q.members.map statement).map fun t =>
        " " ++ unionKeyword q.unionAll ++ " " ++ t.sql) := by
    obtain ⟨c, members, all⟩ := q
    simp only [kind] at h
    -- The head of a SELECT stands in front of everything else.
    obtain ⟨head, rest, hselect⟩ := List.exists_cons_of_ne_nil
      (show c.writtenSelect Render.mark ≠ [] by simp [Clauses.writtenSelect, Clauses.selectHead])
    simp only [alone, written, h, hselect, writtenMembers_eq_map, List.cons_append,
      intercalate_cons, List.map_append, String.join_append, List.map_map, List.map_nil,
      List.append_nil, String.append_assoc, Function.comp_def, statement]
  rw [statement, hvalues, hsql]
  rfl

/-- A SELECT with members compiles if it does without them and they do, to the
    statements of all in a row. -/
theorem compile_eq_ok_iff_of_select {q : Query} (h : q.kind = .select) {s : Statement} :
    q.compile = .ok s ↔ ∃ s₀ ts, q.alone.compile = .ok s₀ ∧
      List.Forall₂ (fun m t => m.kind = .select ∧ m.compile = .ok t) q.members ts ∧
      s = s₀.unite (unionKeyword q.unionAll) ts := by
  simp only [forall₂_compile_iff]
  simp only [compile_eq_ok_iff, statement_eq_unite h]
  rw [trail_eq_append h, Trail.faults_append, List.append_eq_nil_iff]
  constructor
  · rintro ⟨⟨hq, hmembers⟩, rfl⟩
    exact ⟨_, _, ⟨hq, rfl⟩, ⟨hmembers, rfl⟩, rfl⟩
  · rintro ⟨_, _, ⟨hq, rfl⟩, ⟨hmembers, rfl⟩, rfl⟩
    exact ⟨⟨hq, hmembers⟩, rfl⟩

end Query

/-! ## Calls that unite -/

/-- Members with their sorts, of which the last is that of the query. -/
structure Query.Unites (us : List (Bool × Query)) (q : Query) : Prop where
  members : q.members = us.map Prod.snd
  unionAll : q.unionAll = us.getLast?.any Prod.fst

namespace Edit

/-- The unions after a call; a union whose member cannot be made is none. -/
def unionsAfter (us : List (Bool × Query)) : Edit → List (Bool × Query)
  | .union all base edits =>
    match runStopping edits base with
    | (.ok (), member) => us ++ [(all, member)]
    | (.error _, _) => us
  | .reset => []
  | _ => us

/-- The unions that calls make of a fresh query, each with its sort. -/
def unions (edits : List Edit) : List (Bool × Query) := edits.foldl unionsAfter []

theorem unites_run {us : List (Bool × Query)} {q : Query} (h : q.Unites us) (e : Edit) :
    (e.run q).2.Unites (unionsAfter us e) := by
  cases e with
  | union all base edits =>
    rw [run, unionsAfter]
    rcases runStopping edits base with ⟨_ | _, member⟩
    · exact h
    · exact ⟨by simp [h.members], by simp⟩
  | reset => exact ⟨rfl, rfl⟩
  | _ =>
    rw [run_eq_put rfl]
    exact ⟨h.members, h.unionAll⟩

theorem unites_runAll {us : List (Bool × Query)} {q : Query} (h : q.Unites us)
    (edits : List Edit) : (runAll edits q).Unites (edits.foldl unionsAfter us) := by
  induction edits generalizing us q with
  | nil => exact h
  | cons e es ih => exact ih (unites_run h e)

end Edit

namespace Query

/-- **Compiling goes through unions.**  A SELECT compiles if and only if it does
    without its members, and these are SELECTs that compile; then its statement
    is the one without them, followed by theirs, in order.  The word between
    them is the same everywhere; in a query that calls have made it is that of
    the last call that united, and the members are those of all of them. -/
theorem compile_unites {q : Query} (h : q.kind = .select) :
    ((∃ s, q.compile = .ok s) ↔ (∃ s₀, q.alone.compile = .ok s₀) ∧
        ∀ m ∈ q.members, m.kind = .select ∧ ∃ t, m.compile = .ok t) ∧
      (∀ s, q.compile = .ok s → ∃ s₀ ts, q.alone.compile = .ok s₀ ∧
        List.Forall₂ (fun m t => m.compile = .ok t) q.members ts ∧
        s = s₀.unite (unionKeyword q.unionAll) ts) ∧
      ∀ edits, q = Edit.runAll edits .fresh →
        q.members = (Edit.unions edits).map Prod.snd ∧
        unionKeyword q.unionAll =
          if (Edit.unions edits).getLast?.any Prod.fst then "UNION ALL" else "UNION" := by
  refine ⟨?_, fun s hs => ?_, ?_⟩
  · simp only [exists_compile_eq_ok_iff]
    rw [trail_eq_append h, Trail.faults_append, List.append_eq_nil_iff,
      faults_trailMembers_eq_nil_iff]
  · obtain ⟨s₀, ts, hs₀, hts, rfl⟩ := (compile_eq_ok_iff_of_select h).1 hs
    exact ⟨s₀, ts, hs₀, hts.imp fun _ _ h => h.2, rfl⟩
  · rintro edits rfl
    have hunites : (Edit.runAll edits .fresh).Unites (Edit.unions edits) :=
      Edit.unites_runAll ⟨rfl, rfl⟩ edits
    rw [hunites.unionAll, unionKeyword]
    exact ⟨hunites.members, rfl⟩

/-- Calls that unite a query, among other calls and one that fails, with a
    query that keeps repeated rows in a union of its own. -/
def nestedUnion : List Edit :=
  [.source "a", .union true .fresh [.source "b", .filter (.add .and (.equals "x" (.int 1)))],
    .limit (-1), .filter (.add .and (.equals "y" (.int 2))),
    .union false .fresh [.source "c", .union true .fresh [.source "d"]], .limit 3]

theorem compile_unites_nested :
    let q := Edit.runAll nestedUnion .fresh
    q.kind = .select ∧
      q.compile = .ok
        ⟨"SELECT * FROM a WHERE y = ? LIMIT 3 UNION SELECT * FROM b WHERE x = ? UNION " ++
          "SELECT * FROM c UNION ALL SELECT * FROM d", [.int 2, .int 1]⟩ ∧
      unionKeyword q.unionAll = "UNION" ∧
      ∀ m ∈ q.members, m.kind = .select ∧ ∃ t, m.compile = .ok t := by
  intro q
  have hcompile : q.compile = .ok
      ⟨"SELECT * FROM a WHERE y = ? LIMIT 3 UNION SELECT * FROM b WHERE x = ? UNION " ++
        "SELECT * FROM c UNION ALL SELECT * FROM d", [.int 2, .int 1]⟩ := rfl
  obtain ⟨hok, -, hcalls⟩ := compile_unites (q := q) rfl
  exact ⟨rfl, hcompile, (hcalls nestedUnion rfl).2, (hok.1 ⟨_, hcompile⟩).2⟩

end Query

end BoundSql
