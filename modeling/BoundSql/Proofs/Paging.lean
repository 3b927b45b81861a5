/-
  The limit and the offset of a query that is probed.

  * `Query.paged` is a query with another limit and another offset;
  * `Helper.run_congr`: what a helper does depends on the query that is run only;
  * `Query.exists_compile_probe`: the offset is written after the one row to which
    a probe limits a SELECT, and nothing else depends on it;
  * `Helper.probe_paged`: a probe takes no notice of the limit, but it keeps the
    offset, by which its one row may be skipped.
-/
import BoundSql.Engine.Lazy
import BoundSql.Proofs.Probe

namespace BoundSql

open Clauses (optionClause optionText)
open Render (mark)

variable {σ : Type} {α : Type}

/-! ## The text of the paging -/

namespace Clauses

/-- The clauses of a SELECT between its first word and its limit. -/
def unpaged (lit : Value → String) (c : Clauses) : List String :=
  c.selectHead.tail ++ c.filter.writtenClause lit ++ listClause "GROUP BY" c.groupBy ++
    c.writtenHaving lit ++ listClause "ORDER BY" (c.orderBy.map OrderTerm.sql)

theorem writtenSelect_eq_unpaged (lit : Value → String) (c : Clauses) :
    c.writtenSelect lit =
      "SELECT" :: (c.unpaged lit ++ optionClause "LIMIT" (c.limit.map toString)) ++
        optionClause "OFFSET" (c.offset.map toString) := by
  simp only [writtenSelect, unpaged, selectHead, selectTail, List.tail_cons, List.cons_append,
    List.append_assoc]

end Clauses

namespace Query

/-- The query with another limit and another offset. -/
def paged (limit offset : Option Nat) (q : Query) : Query :=
  q.modify fun c => { c with limit := limit, offset := offset }

/-- The text that an offset adds. -/
def offsetText (offset : Option Nat) : String := optionText "OFFSET" (offset.map toString)

theorem offsetText_injective : Function.Injective offsetText := by
  have hnumbers : Function.Injective (toString : Nat → String) := by
    intro m n h
    rw [Nat.toString_eq_ofList_toDigits, Nat.toString_eq_ofList_toDigits, String.ofList_inj] at h
    rw [← @Nat.ofDigitChars_ten_toDigits m, h, Nat.ofDigitChars_ten_toDigits]
  exact (Clauses.optionText_injective "OFFSET").comp (Option.map_injective hnumbers)

/-- In the text of a SELECT the limit and the offset stand by themselves. -/
theorem written_of_select (lit : Value → String) {c : Clauses} (hkind : c.kind = .select)
    (members : List Query) (all : Bool) :
    written lit ⟨c, members, all⟩ =
      " ".intercalate ("SELECT" :: c.unpaged lit) ++ optionText "LIMIT" (c.limit.map toString) ++
        offsetText c.offset ++
        String.join ((writtenMembers lit (unionKeyword all) members).map (" " ++ ·)) := by
  have hlimit := Clauses.intercalate_optionClause "SELECT" "LIMIT" (c.unpaged lit) []
    (c.limit.map toString)
  rw [List.append_nil, List.map_nil, String.join_nil, String.append_empty] at hlimit
  rw [written, hkind]
  dsimp only
  rw [c.writtenSelect_eq_unpaged, Clauses.intercalate_optionClause, ← List.cons_append, hlimit,
    offsetText]

/-- A SELECT of one row of other columns is compiled as the query is, but for
    its text, in which the offset stands by itself. -/
theorem exists_compile_probe {q : Query} (hkind : q.kind = .select) (columns : List String) :
    ∃ before after, ∀ limit offset,
      ((q.paged limit offset).modify fun c =>
          { c with columns := columns, limit := some 1 }).compile =
        q.compile.map fun t =>
          ⟨before ++ " LIMIT 1" ++ offsetText offset ++ after, t.bindings⟩ := by
  obtain ⟨c, members, all⟩ := q
  refine ⟨" ".intercalate ("SELECT" :: ({ c with columns := columns }).unpaged mark),
    String.join ((writtenMembers mark (unionKeyword all) members).map (" " ++ ·)),
    fun limit offset => ?_⟩
  let probe : Query :=
    ⟨{ c with columns := columns, limit := some 1, offset := offset }, members, all⟩
  have htrail : probe.trail = trail ⟨c, members, all⟩ := rfl
  have hselect : probe.clauses.kind = .select := hkind
  have htext := written_of_select mark hselect members all
  show probe.compile = _
  rw [compile_eq, compile_eq, htrail, Trail.outcome_eq, Trail.outcome_eq, htext]
  cases (trail ⟨c, members, all⟩).faults <;> rfl

end Query

namespace Helper

/-- What a helper does depends on the query that is run only. -/
theorem run_congr {h : Helper α} {q q' : Query} (hq : h.subject q = h.subject q')
    (conn : Connection σ) : h.run conn q = h.run conn q' := by
  cases h with
  | prepare | execute | rows | rowsAs | pluck | pluckKeyed | rowCount | insertGetId =>
    obtain rfl : q = q' := hq
    rfl
  | existence => exact congrArg (fun q => do return !(← q.rows conn).isEmpty) hq
  | first | firstAs | value | aggregate | count =>
    simp only [subject] at hq
    simp only [run, Query.first?, Query.firstAs?, Query.value?, Query.aggregate?, Query.count, hq]

/-- **A probe keeps the offset.**  The limit of a SELECT makes no difference to
    a probe.  Its offset does: on any connection the text that is prepared has it
    after the one row that is asked for, and is another one for another offset,
    with the same values to be bound. -/
theorem probe_paged {h : Helper α} {column : String} (hprobe : h.probed? = some column) {q : Query}
    (hkind : q.kind = .select) (conn : Connection σ) :
    (∀ limit limit' offset,
      h.run conn (q.paged limit offset) = h.run conn (q.paged limit' offset)) ∧
    ∃ text : Option Nat → String, Function.Injective text ∧
      (∃ before after, ∀ offset,
        text offset = before ++ " LIMIT 1" ++ Query.offsetText offset ++ after) ∧
      ∀ limit offset,
        (h.subject (q.paged limit offset)).compile =
          q.compile.map (fun t => ⟨text offset, t.bindings⟩) ∧
        ∀ s : Session σ, ∃ made,
          (s.run (h.run conn (q.paged limit offset))).2.calls = s.calls ++ made ∧
          ∀ sql, .prepare sql ∈ made ↔ sql = text offset ∧ ∃ t, q.compile = .ok t := by
  refine ⟨fun limit limit' offset => run_congr ?_ conn, ?_⟩
  · rw [subject_of_probed hprobe, subject_of_probed hprobe]
    rfl
  · obtain ⟨before, after, hcompile⟩ := Query.exists_compile_probe hkind [column]
    refine ⟨_, fun offset offset' htext => ?_, ⟨before, after, fun _ => rfl⟩,
      fun limit offset => ⟨?_, fun s => ?_⟩⟩
    · rw [String.append_left_inj, String.append_right_inj] at htext
      exact Query.offsetText_injective htext
    · rw [subject_of_probed hprobe, hcompile]
    · obtain ⟨made, hcalls, hmade⟩ := h.prepare_mem_run conn (q.paged limit offset) s
      refine ⟨made, hcalls, fun sql => ?_⟩
      rw [hmade, subject_of_probed hprobe, hcompile]
      cases q.compile <;> simp [Except.map, eq_comm]

/-- A member of a union has a limit and an offset of its own. -/
theorem probe_paged_union :
    let q := Edit.runAll [.source "users", .filter (.add .and (.equals "id" (.int 7))),
      .union true .fresh [.source "guests", .limit 2, .offset 3], .limit 4] .fresh
    let s : Session Scripted := { state := { script := {} } }
    let h := Helper.aggregate .max "age"
    h.run scripted (q.paged none (some 5)) = h.run scripted (q.paged (some 4) (some 5)) ∧
      ∃ text : Option Nat → String, text none ≠ text (some 5) ∧
        (h.subject (q.paged none (some 5))).compile = .ok ⟨text (some 5), [.int 7]⟩ ∧
        ∃ made, (s.run (h.run scripted (q.paged none (some 5)))).2.calls = made ∧
          .prepare (text (some 5)) ∈ made ∧ .prepare (text none) ∉ made := by
  intro q s h
  have hprobe : h.probed? = some "MAX(age) as aggregate" := by decide +kernel
  obtain ⟨hlimit, text, hinj, -, hpaged⟩ :=
    probe_paged hprobe (show q.kind = .select from rfl) scripted
  obtain ⟨hcompile, hcalls⟩ := hpaged none (some 5)
  obtain ⟨made, hmade, hprepared⟩ := hcalls s
  have hne : text none ≠ text (some 5) := fun htext => nomatch hinj htext
  refine ⟨hlimit none (some 4) (some 5), text, hne, hcompile, made, hmade, ?_, fun hnone => ?_⟩
  · exact (hprepared _).2 ⟨rfl, _, rfl⟩
  · exact hne ((hprepared _).1 hnone).1

/-- The number of rows that is counted of two users, and the calls that count them. -/
def countTwoUsers (q : Query) : Except Error Int64 × List Call :=
  let users : Engine.Table := ⟨"users", "id", [], [⟨1, []⟩, ⟨2, []⟩]⟩
  let s : Session Engine.Lazy :=
    { state := { opened := some { store := { database := ⟨[users]⟩ } } } }
  let (n, t) := s.run ((count "*").run Engine.engine q)
  (n, t.calls)

/-- With an offset no user is counted: the row that holds their number is
    skipped. -/
theorem count_skips_own_row :
    let q := Edit.runAll [.source "users"] .fresh
    let skipping := Edit.runAll [.source "users", .offset 1] .fresh
    q.kind = .select ∧ skipping = q.paged q.clauses.limit (some 1) ∧
      countTwoUsers q =
        (.ok 2, [.prepare "SELECT COUNT(*) as aggregate FROM users LIMIT 1", .execute, .fetch]) ∧
      countTwoUsers skipping =
        (.ok 0, [.prepare "SELECT COUNT(*) as aggregate FROM users LIMIT 1 OFFSET 1", .execute,
          .fetch]) := by
  intro q skipping
  refine ⟨rfl, rfl, ?_, ?_⟩
  all_goals decide +kernel

end Helper

end BoundSql
