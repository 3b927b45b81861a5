/-
  Structural equality of queries, in which values are compared by
  `Value.same`: a query that binds a NaN differs from itself.
-/
import BoundSql.Query

namespace BoundSql

/-- Whether two lists are as long and agree place by place. -/
def sameBy {α : Type} (f : α → α → Bool) : List α → List α → Bool
  | [], [] => true
  | a :: as, b :: bs => f a b && sameBy f as bs
  | _, _ => false

namespace Condition

mutual

/-- Equality of conditions. -/
def same : Condition → Condition → Bool
  | .compare c o v, .compare c' o' v' => c == c' && o == o' && v.same v'
  | .raw s vs, .raw s' vs' => s == s' && sameBy Value.same vs vs'
  | .nullTest c n, .nullTest c' n' => c == c' && n == n'
  | .member c vs n, .member c' vs' n' => c == c' && n == n' && sameBy Value.same vs vs'
  | .between c l h n, .between c' l' h' n' => c == c' && n == n' && l.same l' && h.same h'
  | .group ns, .group ns' => sameNodes ns ns'
  | _, _ => false

/-- Equality of filters, links included. -/
def sameNodes : Filter → Filter → Bool
  | [], [] => true
  | n :: ns, n' :: ns' => sameNode n n' && sameNodes ns ns'
  | _, _ => false

/-- Equality of a condition with its link. -/
def sameNode : Link × Condition → Link × Condition → Bool
  | (l, c), (l', c') => l == l' && c.same c'

end

end Condition

/-- Equality of assignments, in order. -/
def Assignments.same (a b : Assignments) : Bool :=
  sameBy (fun x y => x.1 == y.1 && x.2.same y.2) a b

/-- Equality of comparisons of groups. -/
def Having.same (h k : Having) : Bool :=
  h.column == k.column && h.op == k.op && h.value.same k.value

/-- Equality of clauses, one by one. -/
def Clauses.same (c d : Clauses) : Bool :=
  c.kind == d.kind && c.columns == d.columns && c.table == d.table &&
    c.tableAlias == d.tableAlias && c.joins == d.joins && Condition.sameNodes c.filter d.filter &&
    c.sets.same d.sets && c.firstRow.same d.firstRow &&
    sameBy (sameBy Value.same) c.moreRows d.moreRows && c.orderBy == d.orderBy &&
    c.groupBy == d.groupBy &&
    (match c.having, d.having with
      | none, none => true
      | some h, some k => h.same k
      | _, _ => false) &&
    c.limit == d.limit && c.offset == d.offset && c.distinct == d.distinct

namespace Query

mutual

/-- Equality of queries: the clauses, the members, and how they are united. -/
def same : Query → Query → Bool
  | ⟨c, ms, all⟩, ⟨c', ms', all'⟩ => c.same c' && sameMembers ms ms' && all == all'

/-- Equality of the members of a union, in order. -/
def sameMembers : List Query → List Query → Bool
  | [], [] => true
  | q :: qs, q' :: qs' => q.same q' && sameMembers qs qs'
  | _, _ => false

end

end Query

end BoundSql
