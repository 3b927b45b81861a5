/-
  When compiling fails, and with which failure.

  * `Condition.Bad`: somewhere in the condition there is a membership test
    without values or a group without conditions; `Query.Defective`: a query
    has no table, or lacks what its kind needs, or a condition that its kind
    uses is bad, or it is a SELECT with a member that is defective itself or
    of another kind;
  * `defects` lists the rules that are broken, in order: the table, the data,
    the conditions from left to right, a group before what it holds, then for
    each member the rule about its kind and its own rules;
  * `compile_error_iff_defective`: compiling fails exactly for defective
    queries, with the first of their defects.
-/
import BoundSql.Proofs.Written

namespace BoundSql

/-! ## Conditions -/

namespace Condition

/-- A test or a group in the condition cannot be written. -/
inductive Bad : Condition → Prop
  | emptyMembership {column negated} : Bad (.member column [] negated)
  | emptyGroup : Bad (.group [])
  | inner {nodes n} : n ∈ nodes → Bad n.2 → Bad (.group nodes)

mutual

/-- The broken rules of a condition, from left to right. -/
def defects : Condition → List Misuse
  | .member _ values _ => if values.isEmpty then [.emptyMembership] else []
  | .group nodes => if nodes.isEmpty then [.emptyGroup] else defectsNodes nodes
  | .compare .. | .raw .. | .nullTest .. | .between .. => []

/-- The broken rules of the conditions of a group. -/
def defectsNodes : List (Link × Condition) → List Misuse
  | [] => []
  | n :: ns => defectsNode n ++ defectsNodes ns

/-- The broken rules of a condition with its link. -/
def defectsNode : Link × Condition → List Misuse
  | (_, c) => c.defects

end

theorem defectsNodes_eq_flatMap (nodes : List (Link × Condition)) :
    defectsNodes nodes = nodes.flatMap fun n => n.2.defects := by
  induction nodes with
  | nil => rfl
  | cons n ns ih => rw [defectsNodes, ih, List.flatMap_cons, defectsNode]

theorem faults_trailNodes {nodes : List (Link × Condition)}
    (h : ∀ n ∈ nodes, n.2.trail.faults = n.2.defects) :
    Trail.faults (trailNodes nodes) = defectsNodes nodes := by
  rw [trailNodes_eq_flatMap, defectsNodes_eq_flatMap, Trail.faults_flatMap]
  exact List.flatMap_congr h

theorem faults_trail (c : Condition) : c.trail.faults = c.defects := by
  induction c with
  | compare | nullTest | between => rfl
  | raw sql bindings => rw [trail, defects, Trail.faults_map_ok]
  | member column values negated =>
    rw [trail, defects, Trail.faults_append, Trail.faults_breaking, Trail.faults_map_ok,
      List.append_nil]
  | group nodes ih =>
    rw [trail, defects, Trail.faults_append, Trail.faults_breaking, faults_trailNodes ih]
    cases nodes with
    | nil => rfl
    | cons n ns => rfl

theorem defects_ne_nil_iff (c : Condition) : c.defects ≠ [] ↔ c.Bad := by
  constructor
  · induction c with
    | compare | raw | nullTest | between => exact fun h => absurd rfl h
    | member column values negated =>
      cases values with
      | nil => exact fun _ => .emptyMembership
      | cons v vs => exact fun h => absurd rfl h
    | group nodes ih =>
      cases nodes with
      | nil => exact fun _ => .emptyGroup
      | cons n ns =>
        intro h
        rw [defects, List.isEmpty_cons, if_neg Bool.false_ne_true, defectsNodes_eq_flatMap,
          Ne, List.flatMap_eq_nil_iff] at h
        push Not at h
        obtain ⟨m, hm, hdefects⟩ := h
        exact .inner hm (ih m hm hdefects)
  · intro h
    induction h with
    | emptyMembership | emptyGroup => exact List.cons_ne_nil _ _
    | @inner nodes n hn _ ih =>
      rw [defects, if_neg (by simpa using List.ne_nil_of_mem hn), defectsNodes_eq_flatMap]
      exact fun h => ih (List.flatMap_eq_nil_iff.1 h n hn)

end Condition

namespace Filter

/-- A condition of the filter is bad; a filter without conditions is not. -/
def Bad (f : Filter) : Prop := ∃ n ∈ f, n.2.Bad

/-- The broken rules of a filter. -/
def defects (f : Filter) : List Misuse := Condition.defectsNodes f

theorem faults_trail (f : Filter) : f.trail.faults = f.defects :=
  Condition.faults_trailNodes fun n _ => n.2.faults_trail

theorem defects_ne_nil_iff (f : Filter) : f.defects ≠ [] ↔ f.Bad := by
  rw [defects, Condition.defectsNodes_eq_flatMap, Ne, List.flatMap_eq_nil_iff, Bad]
  push Not
  exact exists_congr fun n => and_congr_right fun _ => n.2.defects_ne_nil_iff

end Filter

/-! ## Queries -/

namespace Clauses

theorem faults_selectTrail (c : Clauses) : c.selectTrail.faults = c.filter.defects := by
  rw [selectTrail, Trail.faults_append, Trail.faults_map_ok, List.append_nil, Filter.faults_trail]

theorem faults_insertTrail (c : Clauses) :
    c.insertTrail.faults = if c.firstRow.isEmpty then [.noData c.insertVerb] else [] := by
  rw [insertTrail, Trail.faults_append, Trail.faults_map_ok, List.append_nil,
    Trail.faults_breaking]

theorem faults_updateTrail (c : Clauses) :
    c.updateTrail.faults =
      (if c.sets.isEmpty then [.noData "UPDATE"] else []) ++ c.filter.defects := by
  rw [updateTrail, Trail.faults_append, Trail.faults_append, Trail.faults_map_ok, List.append_nil,
    Trail.faults_breaking, Filter.faults_trail]

end Clauses

namespace Query

/-- A rule is broken that compiling the query checks. -/
inductive Defective : Query → Prop
  | table {c members all} : c.table = "" → Defective ⟨c, members, all⟩
  | selectFilter {c members all} : c.kind = .select → c.filter.Bad → Defective ⟨c, members, all⟩
  | memberKind {c members all q} : c.kind = .select → q ∈ members → q.kind ≠ .select →
      Defective ⟨c, members, all⟩
  | member {c members all q} : c.kind = .select → q ∈ members → Defective q →
      Defective ⟨c, members, all⟩
  | insertData {c members all} : c.kind = .insert ∨ c.kind = .replace → c.firstRow = [] →
      Defective ⟨c, members, all⟩
  | updateData {c members all} : c.kind = .update → c.sets = [] → Defective ⟨c, members, all⟩
  | updateFilter {c members all} : c.kind = .update → c.filter.Bad → Defective ⟨c, members, all⟩
  | deleteFilter {c members all} : c.kind = .delete → c.filter.Bad → Defective ⟨c, members, all⟩

mutual

/-- The broken rules of a query, in the order in which they are found. -/
def defects : Query → List Misuse
  | ⟨c, members, _⟩ =>
    (if c.table = "" then [.noTable c.kind] else []) ++
      match c.kind with
      | .select => c.filter.defects ++ defectsMembers members
      | .insert | .replace => if c.firstRow.isEmpty then [.noData c.insertVerb] else []
      | .update => (if c.sets.isEmpty then [.noData "UPDATE"] else []) ++ c.filter.defects
      | .delete => c.filter.defects

/-- The broken rules of the members of a union, for each its kind first. -/
def defectsMembers : List Query → List Misuse
  | [] => []
  | q :: qs =>
    (if q.kind ≠ .select then [.memberKind q.kind] else []) ++ q.defects ++ defectsMembers qs

end

theorem faults_trail (q : Query) : q.trail.faults = q.defects := by
  induction q with
  | mk c members all ih =>
    have hmembers : (trailMembers members).faults = defectsMembers members := by
      clear * - ih
      induction members with
      | nil => rfl
      | cons q qs ihs =>
        rw [List.forall_mem_cons] at ih
        rw [trailMembers, defectsMembers, Trail.faults_append, Trail.faults_append,
          Trail.faults_breaking, ih.1, ihs ih.2]
        rfl
    rw [trail, defects, Trail.faults_append, Trail.faults_breaking]
    congr 1
    cases c.kind with
    | select =>
      simp only [Trail.faults_append, c.faults_selectTrail, hmembers]
    | insert | replace => exact c.faults_insertTrail
    | update => exact c.faults_updateTrail
    | delete => exact c.filter.faults_trail

theorem defectsMembers_eq_flatMap (members : List Query) :
    defectsMembers members = members.flatMap fun q =>
      (if q.kind ≠ .select then [.memberKind q.kind] else []) ++ q.defects := by
  induction members with
  | nil => rfl
  | cons q qs ih => rw [defectsMembers, ih, List.flatMap_cons]

theorem defective_of_defects_ne_nil {q : Query} (h : q.defects ≠ []) : q.Defective := by
  induction q with
  | mk c members all ih =>
    by_cases htable : c.table = ""
    · exact .table htable
    rw [defects, if_neg htable, List.nil_append] at h
    cases hkind : c.kind with
    | select =>
      simp only [hkind] at h
      by_cases hfilter : c.filter.defects = []
      · rw [hfilter, List.nil_append, defectsMembers_eq_flatMap, Ne, List.flatMap_eq_nil_iff] at h
        push Not at h
        obtain ⟨q, hq, hdefects⟩ := h
        by_cases hmember : q.kind = .select
        · rw [if_neg (not_not_intro hmember), List.nil_append] at hdefects
          exact .member hkind hq (ih q hq hdefects)
        · exact .memberKind hkind hq hmember
      · exact .selectFilter hkind (c.filter.defects_ne_nil_iff.1 hfilter)
    | insert => exact .insertData (.inl hkind) (by simpa [hkind] using h)
    | replace => exact .insertData (.inr hkind) (by simpa [hkind] using h)
    | update =>
      by_cases hsets : c.sets = []
      · exact .updateData hkind hsets
      · have hfilter : c.filter.defects ≠ [] := by simpa [hkind, hsets] using h
        exact .updateFilter hkind (c.filter.defects_ne_nil_iff.1 hfilter)
    | delete =>
      simp only [hkind] at h
      exact .deleteFilter hkind (c.filter.defects_ne_nil_iff.1 h)

/-- A member that breaks a rule, or is of another kind, is a defect of the whole. -/
theorem defectsMembers_ne_nil {members : List Query} {q : Query} (hq : q ∈ members)
    (h : q.kind ≠ .select ∨ q.defects ≠ []) : defectsMembers members ≠ [] := by
  rw [defectsMembers_eq_flatMap]
  intro hnil
  have hmember := List.flatMap_eq_nil_iff.1 hnil q hq
  rw [List.append_eq_nil_iff] at hmember
  rcases h with hkind | hdefects
  · rw [if_pos hkind] at hmember
    exact List.cons_ne_nil _ _ hmember.1
  · exact hdefects hmember.2

theorem defects_ne_nil_of_defective {q : Query} (h : q.Defective) : q.defects ≠ [] := by
  induction h with
  | table htable => simp [defects, htable]
  | selectFilter hkind hbad | updateFilter hkind hbad | deleteFilter hkind hbad =>
    have hfilter := (Filter.defects_ne_nil_iff _).2 hbad
    simp [defects, hkind, hfilter]
  | memberKind hkind hq hmember =>
    have hmembers := defectsMembers_ne_nil hq (.inl hmember)
    simp [defects, hkind, hmembers]
  | member hkind hq _ ih =>
    have hmembers := defectsMembers_ne_nil hq (.inr ih)
    simp [defects, hkind, hmembers]
  | insertData hkind hrow =>
    rcases hkind with hkind | hkind <;> simp [defects, hkind, hrow]
  | updateData hkind hsets => simp [defects, hkind, hsets]

theorem defects_ne_nil_iff (q : Query) : q.defects ≠ [] ↔ q.Defective :=
  ⟨defective_of_defects_ne_nil, defects_ne_nil_of_defective⟩

theorem compile_eq_error_iff (q : Query) (m : Misuse) :
    q.compile = .error m ↔ q.defects.head? = some m := by
  rw [compile_eq, Trail.outcome_eq, faults_trail]
  cases q.defects with
  | nil => simp
  | cons d ds => simp

/-- **When compiling fails.**  Compiling fails exactly for defective queries,
    and the failure is the first of their defects. -/
theorem compile_error_iff_defective (q : Query) :
    ((∃ e, q.compile.mapError Error.config = .error e) ↔ q.Defective) ∧
      ∀ e, q.compile.mapError Error.config = .error e ↔
        ∃ m, q.defects.head? = some m ∧ e = .config m := by
  have herror (e : Error) : q.compile.mapError Error.config = .error e ↔
      ∃ m, q.defects.head? = some m ∧ e = .config m := by
    simp only [← compile_eq_error_iff]
    cases q.compile with
    | ok s => simp [Except.mapError]
    | error m => simp [Except.mapError, eq_comm]
  refine ⟨?_, herror⟩
  simp only [herror]
  rw [← defects_ne_nil_iff]
  cases q.defects with
  | nil => simp
  | cons d ds => simp

end Query

end BoundSql
