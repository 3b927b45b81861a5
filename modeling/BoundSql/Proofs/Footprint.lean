/-
  What a call reads and writes.

  Calls fall into families, by the clauses they are about; starting anew is in
  none.

  * `Family.part` is what a family is about, `Family.put` puts it into a query;
  * `Edit.run_eq_put`: a call reads and writes only the part of its family;
  * `Edit.part_runAll`: in a run, a family sees only its own calls.
-/
import BoundSql.Proofs.Refusal

namespace BoundSql

/-! ## Families -/

/-- Calls by what they are about. -/
inductive Family where
  /-- The kind, the table, the columns, and the data. -/
  | data
  | filter
  | joins
  | groupBy
  | having
  | orderBy
  | limit
  | offset
  | distinct
  | union
deriving DecidableEq

/-- The family of a call. -/
def Edit.family : Edit → Option Family
  | .select _ | .source _ | .sourceAs .. | .insert _ | .replace _ | .update _ | .delete _
  | .data _ | .set .. | .setMany _ | .values _ | .valuesMany _ => some .data
  | .filter _ => some .filter
  | .innerJoin .. | .leftJoin .. | .rightJoin .. | .crossJoin _ => some .joins
  | .groupBy _ => some .groupBy
  | .having _ => some .having
  | .orderBy .. | .orderByDirection .. => some .orderBy
  | .limit _ => some .limit
  | .offset _ => some .offset
  | .distinct => some .distinct
  | .union .. => some .union
  | .reset => none

namespace Family

/-- The calls of a family. -/
def calls (f : Family) (edits : List Edit) : List Edit :=
  edits.filter fun e => e.family = some f

/-- The outcomes of the calls of a family. -/
def outcomes (f : Family) (outcomes : List (Edit × Except Misuse Unit)) :
    List (Edit × Except Misuse Unit) :=
  outcomes.filter fun o => o.1.family = some f

/-! ## Parts of a query -/

/-- The query `q` with what a family is about taken from `p`. -/
def put (p q : Query) : Family → Query
  | .data => q.modify fun c =>
    { c with
      kind := p.clauses.kind
      columns := p.clauses.columns
      table := p.clauses.table
      tableAlias := p.clauses.tableAlias
      sets := p.clauses.sets
      firstRow := p.clauses.firstRow
      moreRows := p.clauses.moreRows }
  | .filter => q.modify fun c => { c with filter := p.clauses.filter }
  | .joins => q.modify fun c => { c with joins := p.clauses.joins }
  | .groupBy => q.modify fun c => { c with groupBy := p.clauses.groupBy }
  | .having => q.modify fun c => { c with having := p.clauses.having }
  | .orderBy => q.modify fun c => { c with orderBy := p.clauses.orderBy }
  | .limit => q.modify fun c => { c with limit := p.clauses.limit }
  | .offset => q.modify fun c => { c with offset := p.clauses.offset }
  | .distinct => q.modify fun c => { c with distinct := p.clauses.distinct }
  | .union => ⟨q.clauses, p.members, p.unionAll⟩

/-- What a family is about; the rest is as in a fresh query. -/
def part (f : Family) (q : Query) : Query := f.put q .fresh

theorem put_part (f : Family) (q : Query) : f.put (f.part q) q = q := by
  cases q
  cases f <;> rfl

theorem part_put (f : Family) (p q : Query) : f.part (f.put p q) = f.part p := by
  cases f <;> rfl

/-- Different families are about different things. -/
theorem part_put_of_ne {f g : Family} (h : f ≠ g) (p q : Query) :
    f.part (g.put p q) = f.part q := by
  cases f <;> cases g <;> first | exact absurd rfl h | rfl

/-- The families are about all of a query. -/
theorem eq_of_part_eq {q q' : Query} (h : ∀ f : Family, f.part q = f.part q') : q = q' := by
  have hdata := h .data
  have hfilter := h .filter
  have hjoins := h .joins
  have hgroupBy := h .groupBy
  have hhaving := h .having
  have horderBy := h .orderBy
  have hlimit := h .limit
  have hoffset := h .offset
  have hdistinct := h .distinct
  have hunion := h .union
  obtain ⟨c, members, all⟩ := q
  obtain ⟨c', members', all'⟩ := q'
  cases c
  cases c'
  simp_all [part, put, Query.modify, Query.fresh]

end Family

namespace Edit

/-! ## One call -/

/-- A call that has to read something first, and then changes what its family
    is about. -/
theorem tryChange_eq_put {α : Type} {f : Family} {x : Except Misuse α} {g : α → Clauses → Clauses}
    {q : Query} (h : ∀ a, q.modify (g a) = f.put ((f.part q).modify (g a)) q) :
    tryChange (fun c => do return g (← x) c) q =
      ((tryChange (fun c => do return g (← x) c) (f.part q)).1,
        f.put (tryChange (fun c => do return g (← x) c) (f.part q)).2 q) := by
  cases x with
  | error m => exact congrArg _ (f.put_part q).symm
  | ok a => exact congrArg _ (h a)

/-- Data go by the kind, which is of the same family. -/
theorem tryChange_assignData_eq_put (entries : List (String × Value)) (q : Query) :
    tryChange (·.assignData entries) q =
      ((tryChange (·.assignData entries) (Family.data.part q)).1,
        Family.data.put (tryChange (·.assignData entries) (Family.data.part q)).2 q) := by
  have hkind : (Family.data.part q).clauses.kind = q.clauses.kind := rfl
  rw [tryChange, tryChange, Clauses.assignData, Clauses.assignData, hkind]
  cases q.clauses.kind with
  | select | delete => exact congrArg _ (Family.data.put_part q).symm
  | insert | replace | update => rfl

/-- A call reads and writes only the part of its family. -/
theorem run_eq_put {e : Edit} {f : Family} (h : e.family = some f) (q : Query) :
    e.run q = ((e.run (f.part q)).1, f.put (e.run (f.part q)).2 q) := by
  cases e with
  | reset => cases h
  | data entries =>
    cases h
    rw [run, run]
    exact tryChange_assignData_eq_put entries q
  | valuesMany rows =>
    cases h
    rw [run, run]
    cases rows with
    | nil => exact congrArg _ (Family.data.put_part q).symm
    | cons first rest => exact tryChange_eq_put fun _ => rfl
  | orderBy | limit | offset =>
    cases h
    rw [run, run]
    exact tryChange_eq_put fun _ => rfl
  | union all base edits =>
    cases h
    rw [run, run]
    -- The member is built apart, from what the call is given.
    rcases runStopping edits base with ⟨_ | _, member⟩
    · exact congrArg _ (Family.union.put_part q).symm
    · rfl
  | _ =>
    cases h
    rw [run, run]
    rfl

/-- A call does the same wherever the part of its family is the same. -/
theorem run_congr {e : Edit} {f : Family} (h : e.family = some f) {q q' : Query}
    (hq : f.part q = f.part q') :
    (e.run q).1 = (e.run q').1 ∧ f.part (e.run q).2 = f.part (e.run q').2 := by
  rw [run_eq_put h q, run_eq_put h q', hq]
  exact ⟨rfl, by rw [f.part_put, f.part_put]⟩

/-- A call leaves what other families are about. -/
theorem part_run_of_ne {e : Edit} {f g : Family} (h : e.family = some g) (hne : f ≠ g) (q : Query) :
    f.part (e.run q).2 = f.part q := by
  rw [run_eq_put h, Family.part_put_of_ne hne]

/-! ## Calls in turn -/

/-- In a run, a family sees only its own calls. -/
theorem part_runAll {f : Family} {edits : List Edit} (h : ∀ e ∈ edits, e.family ≠ none)
    {q q' : Query} (hq : f.part q = f.part q') :
    f.outcomes (outcomes edits q) = outcomes (f.calls edits) q' ∧
      f.part (runAll edits q) = f.part (runAll (f.calls edits) q') := by
  induction edits generalizing q q' with
  | nil => exact ⟨rfl, hq⟩
  | cons e es ih =>
    obtain ⟨he, hes⟩ := List.forall_mem_cons.1 h
    obtain ⟨g, hg⟩ := Option.ne_none_iff_exists'.1 he
    rw [outcomes, runAll]
    by_cases hfg : f = g
    · subst hfg
      obtain ⟨houtcome, hpart⟩ := run_congr hg hq
      obtain ⟨houtcomes, hparts⟩ := ih hes hpart
      have hcalls : f.calls (e :: es) = e :: f.calls es := List.filter_cons_of_pos (by simp [hg])
      rw [hcalls, outcomes, runAll, ← houtcomes, houtcome]
      exact ⟨List.filter_cons_of_pos (by simp [hg]), hparts⟩
    · have hne : ¬ e.family = some f := fun h => hfg (Option.some.inj (h.symm.trans hg))
      have hcalls : f.calls (e :: es) = f.calls es := List.filter_cons_of_neg (by simp [hne])
      obtain ⟨houtcomes, hparts⟩ := ih hes ((part_run_of_ne hg hfg q).trans hq)
      rw [hcalls, ← houtcomes]
      exact ⟨List.filter_cons_of_neg (by simp [hne]), hparts⟩

/-- **The order of calls matters within families only.**  Two runs with the same
    calls in each family, in the same order there, however these are
    interleaved and whichever of them fail, have the same outcomes in each
    family and end with the same query. -/
theorem interleavings_agree {edits edits' : List Edit} (h : ∀ e ∈ edits, e.family ≠ none)
    (h' : ∀ e ∈ edits', e.family ≠ none) (hcalls : ∀ f : Family, f.calls edits = f.calls edits')
    (q : Query) :
    (∀ f : Family, f.outcomes (outcomes edits q) = f.outcomes (outcomes edits' q)) ∧
      runAll edits q = runAll edits' q ∧
      (runAll edits q).compile = (runAll edits' q).compile := by
  have hpart (f : Family) := part_runAll (f := f) h (q := q) rfl
  have hpart' (f : Family) := part_runAll (f := f) h' (q := q) rfl
  have hquery : runAll edits q = runAll edits' q := by
    refine Family.eq_of_part_eq fun f => ?_
    rw [(hpart f).2, (hpart' f).2, hcalls f]
  refine ⟨fun f => ?_, hquery, congrArg Query.compile hquery⟩
  rw [(hpart f).1, (hpart' f).1, hcalls f]

/-- Calls of four families in two orders; three of them fail, one for the kind
    that another chooses. -/
theorem interleavings_agree_failing :
    let noTest : Edit := .filter (.member .and "a" [] false)
    let test : Edit := .filter (.add .and (.equals "b" (.int 2)))
    let edits : List Edit :=
      [.data [("a", .int 1)], .limit (-1), .delete "t", noTest, .limit 5,
        .union true .fresh [], test]
    let edits' : List Edit :=
      [noTest, .union true .fresh [], test, .data [("a", .int 1)], .delete "t",
        .limit (-1), .limit 5]
    (∀ f : Family, f.outcomes (outcomes edits .fresh) = f.outcomes (outcomes edits' .fresh)) ∧
      (outcomes edits .fresh).map Prod.snd ≠ (outcomes edits' .fresh).map Prod.snd ∧
      runAll edits .fresh = runAll edits' .fresh ∧
      (runAll edits' .fresh).compile = .ok ⟨"DELETE FROM t WHERE b = ?", [.int 2]⟩ := by
  intro noTest test edits edits'
  have hedits : ∀ e ∈ edits, e.family ≠ none := by decide
  have hedits' : ∀ e ∈ edits', e.family ≠ none := by decide
  have hcalls : ∀ f : Family, f.calls edits = f.calls edits' := by
    intro f
    cases f <;> rfl
  obtain ⟨houtcomes, hquery, -⟩ := interleavings_agree hedits hedits' hcalls .fresh
  exact ⟨houtcomes, nofun, hquery, rfl⟩

end Edit

end BoundSql
