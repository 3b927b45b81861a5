/-
  What writing does, step by step.

  A trail lists in order the values that a piece of writing binds and the
  rules that it breaks.  Writing goes along its trail up to the first broken
  rule.

  * `Trail.values`, `Trail.faults`: the values and the broken rules; `bound`
    are the values before the first broken rule, and `outcome` is the result;
  * `Render.Follows r t a`: whatever is bound already, `r` goes along `t` and
    gives `a` if no rule is broken;
  * `Follows` is compatible with sequencing whether or not a rule is broken
    (`Follows.bind`), so that the trail of a statement is put together from
    the trails of its parts.
-/
import BoundSql.Query.Render

namespace BoundSql

/-- Values to be bound and broken rules, in order. -/
abbrev Trail := List (Except Misuse Value)

namespace Trail

/-- A rule, broken if `p`. -/
def breaking (p : Prop) [Decidable p] (m : Misuse) : Trail := if p then [.error m] else []

/-- The values, in order. -/
def values (t : Trail) : List Value :=
  t.filterMap fun
    | .ok v => some v
    | .error _ => none

/-- The broken rules, in order. -/
def faults (t : Trail) : List Misuse :=
  t.filterMap fun
    | .ok _ => none
    | .error m => some m

/-- The values before the first broken rule. -/
def bound : Trail → List Value
  | .ok v :: t => v :: bound t
  | .error _ :: _ | [] => []

/-- `a`, or the first broken rule. -/
def outcome {α : Type} (a : α) : Trail → Except Misuse α
  | .ok _ :: t => outcome a t
  | .error m :: _ => .error m
  | [] => .ok a

variable {α : Type}

@[simp] theorem values_append (t u : Trail) : values (t ++ u) = values t ++ values u :=
  List.filterMap_append

@[simp] theorem faults_append (t u : Trail) : faults (t ++ u) = faults t ++ faults u :=
  List.filterMap_append

theorem values_flatMap (as : List α) (t : α → Trail) :
    values (as.flatMap t) = as.flatMap fun a => values (t a) :=
  List.filterMap_flatMap

theorem faults_flatMap (as : List α) (t : α → Trail) :
    faults (as.flatMap t) = as.flatMap fun a => faults (t a) :=
  List.filterMap_flatMap

@[simp] theorem values_map_ok (vs : List Value) : values (vs.map .ok) = vs := by
  rw [values, List.filterMap_map]
  exact List.filterMap_some

@[simp] theorem faults_map_ok (vs : List Value) : faults (vs.map .ok) = [] := by
  rw [faults, List.filterMap_map]
  exact List.filterMap_eq_nil_iff.2 fun _ _ => rfl

@[simp] theorem values_breaking (p : Prop) [Decidable p] (m : Misuse) :
    values (breaking p m) = [] := by
  unfold breaking; split <;> rfl

theorem faults_breaking (p : Prop) [Decidable p] (m : Misuse) :
    faults (breaking p m) = if p then [m] else [] := by
  unfold breaking; split <;> rfl

theorem outcome_eq (a : α) (t : Trail) :
    outcome a t = match t.faults with
      | [] => .ok a
      | m :: _ => .error m := by
  induction t with
  | nil => rfl
  | cons s t ih =>
    cases s with
    | ok v => exact ih
    | error m => rfl

/-- Without a broken rule every value is bound. -/
theorem bound_of_faults_eq_nil {t : Trail} (h : t.faults = []) : t.bound = t.values := by
  induction t with
  | nil => rfl
  | cons s t ih =>
    cases s with
    | ok v => exact congrArg (v :: ·) (ih h)
    | error m => cases h

/-- Values that are bound first stay in front. -/
theorem bound_map_ok_append (vs : List Value) (t : Trail) :
    bound (vs.map .ok ++ t) = vs ++ bound t := by
  induction vs with
  | nil => rfl
  | cons v vs ih => exact congrArg (v :: ·) ih

/-- Values that are bound first make no difference to the outcome. -/
theorem outcome_map_ok_append (a : α) (vs : List Value) (t : Trail) :
    outcome a (vs.map .ok ++ t) = outcome a t := by
  induction vs with
  | nil => rfl
  | cons v vs ih => exact ih

end Trail

namespace Render

variable {α β : Type}

theorem runFrom_bind (r : Render α) (k : α → Render β) (vs : List Value) :
    (r >>= k).runFrom vs = match r.runFrom vs with
      | (.ok a, vs) => (k a).runFrom vs
      | (.error m, vs) => (.error m, vs) := by
  simp only [runFrom, ExceptT.run_bind]
  rcases h : (ExceptT.run r).run vs with ⟨a | m, ws⟩
  all_goals simp [StateT.run_bind, h]; rfl

/-- Whatever is bound already, writing goes along the trail, and gives `a` if
    no rule is broken. -/
def Follows (r : Render α) (t : Trail) (a : α) : Prop :=
  ∀ vs, r.runFrom vs = (t.outcome a, vs ++ t.bound)

namespace Follows

theorem pure (a : α) : Follows (Pure.pure a) [] a := fun vs => by
  rw [Trail.bound, List.append_nil]; rfl

theorem throw (m : Misuse) (t : Trail) (a : α) : Follows (MonadExcept.throw m) (.error m :: t) a :=
  fun vs => by rw [Trail.bound, List.append_nil]; rfl

/-- One piece after the other. -/
theorem bind {r : Render α} {k : α → Render β} {t u : Trail} {a : α} {b : β}
    (hr : r.Follows t a) (hk : (k a).Follows u b) : (r >>= k).Follows (t ++ u) b := by
  intro vs
  rw [runFrom_bind, hr vs]
  clear hr
  -- What is bound along `t` stays in front, so the induction is for all that is bound already.
  induction t generalizing vs with
  | nil => simpa [Trail.outcome, Trail.bound] using hk vs
  | cons s t ih =>
    cases s with
    | ok v => simpa [Trail.outcome, Trail.bound] using ih (vs ++ [v])
    | error m => rfl

theorem map {r : Render α} {t : Trail} {a : α} (hr : r.Follows t a) (f : α → β) :
    (r >>= fun a => Pure.pure (f a)).Follows t (f a) := by
  simpa using hr.bind (k := fun a => Pure.pure (f a)) (pure (f a))

/-- What comes after a rule that may be broken. -/
theorem breaking {p : Prop} [Decidable p] {m : Misuse} {k : PUnit → Render α} {t : Trail} {a : α}
    (hk : (k ⟨⟩).Follows t a) :
    Follows (if p then MonadExcept.throw m >>= k else k ⟨⟩) (Trail.breaking p m ++ t) a := by
  unfold Trail.breaking
  split
  · exact (throw m [] ⟨⟩).bind hk
  · exact hk

theorem mapM {f : α → Render β} {t : α → Trail} {b : α → β} {as : List α}
    (h : ∀ a ∈ as, (f a).Follows (t a) (b a)) : (as.mapM f).Follows (as.flatMap t) (as.map b) := by
  induction as with
  | nil => exact .pure []
  | cons a as ih =>
    rw [List.mapM_cons]
    exact (h a List.mem_cons_self).bind ((ih fun b hb => h b (List.mem_cons_of_mem _ hb)).map _)

/-- Each piece binds one value. -/
theorem mapMOne {f : α → Render β} {v : α → Value} {b : α → β} {as : List α}
    (h : ∀ a ∈ as, (f a).Follows [.ok (v a)] (b a)) :
    (as.mapM f).Follows ((as.map v).map .ok) (as.map b) := by
  have hall : (as.mapM f).Follows (as.flatMap fun a => [.ok (v a)]) (as.map b) := .mapM h
  rw [List.map_map, List.map_eq_flatMap]
  exact hall

end Follows

/-- The placeholder of any value. -/
def mark (_ : Value) : String := "?"

theorem bind_follows (v : Value) : (Render.bind v).Follows [.ok v] (mark v) := fun _ => rfl

theorem bindAll_follows (vs : List Value) : (bindAll vs).Follows (vs.map .ok) (vs.map mark) := by
  have h : (bindAll vs).Follows ((vs.map id).map .ok) (vs.map mark) :=
    .mapMOne fun v _ => bind_follows v
  rwa [List.map_id] at h

/-- A statement is finished if no rule is broken, with all values. -/
theorem finish_of_follows {r : Render String} {t : Trail} {s : String} (h : r.Follows t s) :
    r.finish = t.outcome ⟨s, t.values⟩ := by
  rw [finish, h []]
  rw [Trail.outcome_eq, Trail.outcome_eq]
  rcases hf : t.faults with _ | ⟨m, ms⟩
  · rw [List.nil_append, Trail.bound_of_faults_eq_nil hf]
  · rfl

theorem finish_eq_ok_iff {r : Render String} {t : Trail} {s : String} (h : r.Follows t s)
    {stmt : Statement} : r.finish = .ok stmt ↔ t.faults = [] ∧ ⟨s, t.values⟩ = stmt := by
  rw [finish_of_follows h, Trail.outcome_eq]
  cases t.faults <;> simp

end Render

end BoundSql
