/-
  Writing a filter only adds to the values that are bound already.

  * `Filter.leaves` are the conditions of a filter that hold no others, from left
    to right, those of a group in its place; an empty group is a leaf itself;
  * `Condition.Refuses`: a leaf that cannot be written, and the rule it breaks;
  * `Condition.trail_eq_flatMap_leaves`: a filter is written leaf by leaf;
  * `Filter.render_appends`: whatever is bound before, the outcome is the same;
    the values of all leaves are added, or those of the leaves before the first
    that cannot be written.
-/
import BoundSql.Proofs.Written

namespace BoundSql

namespace Condition

/-! ## Leaves -/

mutual

/-- The conditions within a condition that hold no others, from left to right. -/
def leaves : Condition → List Condition
  | .compare column op v => [.compare column op v]
  | .raw sql bindings => [.raw sql bindings]
  | .nullTest column negated => [.nullTest column negated]
  | .member column values negated => [.member column values negated]
  | .between column low high negated => [.between column low high negated]
  | .group nodes => if nodes.isEmpty then [.group []] else leavesNodes nodes

/-- The leaves of the conditions of a group. -/
def leavesNodes : List (Link × Condition) → List Condition
  | [] => []
  | n :: ns => leavesNode n ++ leavesNodes ns

/-- The leaves of a condition with its link. -/
def leavesNode : Link × Condition → List Condition
  | (_, c) => c.leaves

end

theorem leavesNodes_eq_flatMap (nodes : List (Link × Condition)) :
    leavesNodes nodes = nodes.flatMap fun n => n.2.leaves := by
  induction nodes with
  | nil => rfl
  | cons n ns ih => rw [leavesNodes, ih, List.flatMap_cons, leavesNode]

/-- The values that a leaf binds; a group has none of its own. -/
def ownValues : Condition → List Value
  | .compare _ _ v => [v]
  | .raw _ bindings => bindings
  | .nullTest _ _ => []
  | .member _ values _ => values
  | .between _ low high _ => [low, high]
  | .group _ => []

/-- The condition cannot be written, whatever else there is, by a rule. -/
inductive Refuses : Condition → Misuse → Prop
  | emptyMembership {column negated} : Refuses (.member column [] negated) .emptyMembership
  | emptyGroup : Refuses (.group []) .emptyGroup

/-- The leaf can be written. -/
def Writable (c : Condition) : Prop := ∀ m, ¬ c.Refuses m

/-- What cannot be written breaks one rule and binds nothing. -/
theorem trail_of_refuses {c : Condition} {m : Misuse} (h : c.Refuses m) :
    c.trail = [.error m] := by
  cases h <;> rfl

/-- A leaf that can be written binds its values. -/
theorem trail_of_mem_leaves {c d : Condition} (hd : d ∈ c.leaves) (hwritable : d.Writable) :
    d.trail = d.ownValues.map .ok := by
  induction c with
  | compare | raw | nullTest | between =>
    obtain rfl := List.mem_singleton.1 hd
    rfl
  | member column values negated =>
    obtain rfl := List.mem_singleton.1 hd
    cases values with
    | nil => exact absurd .emptyMembership (hwritable _)
    | cons v vs => rfl
  | group nodes ih =>
    cases nodes with
    | nil =>
      obtain rfl := List.mem_singleton.1 hd
      exact absurd .emptyGroup (hwritable _)
    | cons n ns =>
      rw [leaves, List.isEmpty_cons, if_neg Bool.false_ne_true, leavesNodes_eq_flatMap] at hd
      obtain ⟨m, hm, hd⟩ := List.mem_flatMap.1 hd
      exact ih m hm hd

theorem trailNodes_eq_flatMap_leaves {nodes : List (Link × Condition)}
    (h : ∀ n ∈ nodes, n.2.trail = n.2.leaves.flatMap trail) :
    trailNodes nodes = (leavesNodes nodes).flatMap trail := by
  rw [trailNodes_eq_flatMap, leavesNodes_eq_flatMap, List.flatMap_assoc]
  exact List.flatMap_congr h

/-- A condition is written leaf by leaf. -/
theorem trail_eq_flatMap_leaves (c : Condition) : c.trail = c.leaves.flatMap trail := by
  induction c with
  | compare | raw | nullTest | member | between =>
    rw [leaves, List.flatMap_cons, List.flatMap_nil, List.append_nil]
  | group nodes ih =>
    cases nodes with
    | nil => rfl
    | cons n ns =>
      rw [leaves, trail, List.isEmpty_cons, if_neg Bool.false_ne_true,
        ← trailNodes_eq_flatMap_leaves ih]
      rfl

end Condition

namespace Filter

/-- The conditions of a filter that hold no others, from left to right. -/
def leaves (f : Filter) : List Condition := Condition.leavesNodes f

/-- The values of all conditions, from left to right. -/
def flat (f : Filter) : List Value := f.leaves.flatMap Condition.ownValues

theorem trail_eq_flatMap_leaves (f : Filter) : f.trail = f.leaves.flatMap Condition.trail :=
  Condition.trailNodes_eq_flatMap_leaves fun n _ => n.2.trail_eq_flatMap_leaves

/-! ## Writing leaf by leaf -/

/-- Leaves that can be written bind their values in turn. -/
theorem trail_of_writable {f : Filter} {ds : List Condition} (hds : ds ⊆ f.leaves)
    (hwritable : ∀ d ∈ ds, d.Writable) :
    ds.flatMap Condition.trail = (ds.flatMap Condition.ownValues).map .ok := by
  rw [List.map_flatMap]
  refine List.flatMap_congr fun d hd => ?_
  have hleaf := hds hd
  rw [leaves, Condition.leavesNodes_eq_flatMap] at hleaf
  obtain ⟨n, -, hleaf⟩ := List.mem_flatMap.1 hleaf
  exact Condition.trail_of_mem_leaves hleaf (hwritable d hd)

/-- All leaves can be written, or there is a first one that cannot. -/
theorem writable_or_exists_first (ds : List Condition) :
    (∀ d ∈ ds, d.Writable) ∨ ∃ before c after m, ds = before ++ c :: after ∧
      (∀ d ∈ before, d.Writable) ∧ c.Refuses m := by
  induction ds with
  | nil => exact .inl nofun
  | cons d ds ih =>
    by_cases hd : d.Writable
    · rcases ih with hall | ⟨before, c, after, m, rfl, hbefore, hc⟩
      · exact .inl (List.forall_mem_cons.2 ⟨hd, hall⟩)
      · exact .inr ⟨d :: before, c, after, m, rfl, List.forall_mem_cons.2 ⟨hd, hbefore⟩, hc⟩
    · obtain ⟨m, hm⟩ := not_forall_not.1 hd
      exact .inr ⟨[], d, ds, m, rfl, nofun, hm⟩

/-- **Writing a filter appends.**  Whatever values are bound already, they stay
    in front, and the outcome is the same.  If every leaf can be written, the
    values of all leaves are added, from left to right.  Otherwise the rule that
    the first other one breaks is the failure, and the values of the leaves
    before it have been added, which are a beginning of those of all. -/
theorem render_appends (f : Filter) :
    (∃ text, (∀ d ∈ f.leaves, d.Writable) ∧
        ∀ bound, f.render.runFrom bound = (.ok text, bound ++ f.flat)) ∨
      ∃ before c after m, f.leaves = before ++ c :: after ∧
        (∀ d ∈ before, d.Writable) ∧ c.Refuses m ∧
        before.flatMap Condition.ownValues <+: f.flat ∧
        ∀ bound, f.render.runFrom bound =
          (.error m, bound ++ before.flatMap Condition.ownValues) := by
  have hfollows (bound : List Value) := f.render_follows bound
  rw [trail_eq_flatMap_leaves] at hfollows
  rcases writable_or_exists_first f.leaves with hall | ⟨before, c, after, m, hleaves, hbefore, hc⟩
  · refine .inl ⟨f.written Render.mark, hall, fun bound => ?_⟩
    have htrail := trail_of_writable (List.Subset.refl f.leaves) hall
    rw [hfollows, htrail, ← List.append_nil (List.map _ _), Trail.outcome_map_ok_append,
      Trail.bound_map_ok_append, Trail.bound, List.append_nil]
    rfl
  · refine .inr ⟨before, c, after, m, hleaves, hbefore, hc, ?_, fun bound => ?_⟩
    · rw [flat, hleaves, List.flatMap_append]
      exact List.prefix_append _ _
    · have hsubset : before ⊆ f.leaves := by
        rw [hleaves]
        exact List.subset_append_left before (c :: after)
      rw [hfollows, hleaves, List.flatMap_append, trail_of_writable hsubset hbefore,
        Trail.outcome_map_ok_append, Trail.bound_map_ok_append, List.flatMap_cons,
        Condition.trail_of_refuses hc, List.singleton_append, Trail.outcome, Trail.bound,
        List.append_nil]

/-- What precedes the empty membership test stays bound, also within its group. -/
example :
    Render.runFrom (Filter.render [(.and, .equals "a" (.int 1)),
        (.or, .group [(.and, .equals "b" (.int 2)), (.and, .member "c" [] false)]),
        (.and, .equals "d" (.int 3))]) [.int 0] =
      (.error .emptyMembership, [.int 0, .int 1, .int 2]) := rfl

end Filter

end BoundSql
