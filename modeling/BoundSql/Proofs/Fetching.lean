/-
  Which rows a statement hands out.

  * `Ran.Completes` and `Ran.Fails`: a run comes to its end, or a cell that is no
    text or the engine ends it after some rows;
  * `Cursor.load_cases`: what running a statement leaves to be fetched is the
    whole result, or the rows before the failure;
  * `CursorCall` are the calls on a statement, whatever its runs give, and
    `Cursor.run` answers them in turn;
  * `HandsOut`: the rows that replies hand out are a beginning of a list of rows,
    in its order.  One call hands out what it takes from the rows to be fetched
    (`Cursor.serves_answer`), hence calls do (`Cursor.handsOut_run`), whatever
    was done with the statement before (`Cursor.hands_out_own_run`).
-/
import BoundSql.Engine.Lazy
import BoundSql.Proofs.CallOrder
import BoundSql.Proofs.RowObject
import Mathlib.Data.List.Forall2

namespace BoundSql

/-- Where a list can be mapped, each item of the result is that of its item. -/
theorem forall₂_of_mapM_eq_ok {α β ε : Type} {f : α → Except ε β} {as : List α} {bs : List β}
    (h : as.mapM f = .ok bs) : List.Forall₂ (fun a b => f a = .ok b) as bs := by
  induction as generalizing bs with
  | nil =>
    cases h
    exact .nil
  | cons a as ih =>
    rw [List.mapM_cons] at h
    cases ha : f a with
    | error e =>
      rw [ha] at h
      cases h
    | ok b =>
      cases has : as.mapM f with
      | error e =>
        rw [ha, has] at h
        cases h
      | ok bs' =>
        rw [ha, has] at h
        cases h
        exact .cons ha (ih has)

namespace Engine

/-! ## What a run gives -/

/-- Every column of a row has the value of its cell. -/
def Spelled (columns : List String) (cells : List Cell) (row : Row) : Prop :=
  List.Forall₂ (fun read pair => pair.1 = read.1 ∧ read.2.toValue = .ok pair.2)
    (columns.zip cells) row.cells

/-- The text of a cell is none; it is the first such cell of the row. -/
def Unreadable (columns : List String) (cells : List Cell) (e : Error) : Prop :=
  ∃ before column cell after m, columns.zip cells = before ++ (column, cell) :: after ∧
    (∀ read ∈ before, ∃ v, read.2.toValue = .ok v) ∧ cell.toValue = .error m ∧
    e = .decode column (.notText m)

/-- A run that comes to its end, with the rows of its result and the number of
    rows that it wrote or returned. -/
inductive Ran.Completes : Ran → List Row → Nat → Prop
  | changed {n} : Completes (.changed n) [] n
  | result {columns cells rows} : List.Forall₂ (Spelled columns) cells rows →
      Completes (.result columns cells none) rows rows.length

/-- A run that fails, with the rows that were read before. -/
inductive Ran.Fails : Ran → List Row → Error → Prop
  | refused {fault} : Fails (.refused fault) [] (.engine fault)
  /-- A row cannot be read; what would have come after it makes no difference. -/
  | unreadable {columns before cells after rows fault e} :
      List.Forall₂ (Spelled columns) before rows → Unreadable columns cells e →
      Fails (.result columns (before ++ cells :: after) fault) rows e
  /-- The engine fails after rows that could be read. -/
  | interrupted {columns cells rows fault} : List.Forall₂ (Spelled columns) cells rows →
      Fails (.result columns cells (some fault)) rows (.engine fault)

namespace Cursor

/-- A column and its cell as a column and a value. -/
def readCell (read : String × Cell) : Except Error (String × Value) :=
  match read.2.toValue with
  | .ok v => .ok (read.1, v)
  | .error m => .error (.decode read.1 (.notText m))

theorem readCell_eq_ok_iff {read : String × Cell} {pair : String × Value} :
    readCell read = .ok pair ↔ pair.1 = read.1 ∧ read.2.toValue = .ok pair.2 := by
  obtain ⟨column, v⟩ := pair
  unfold readCell
  cases read.2.toValue <;> simp [eq_comm]

theorem readCell_eq_error_iff {read : String × Cell} {e : Error} :
    readCell read = .error e ↔
      ∃ m, read.2.toValue = .error m ∧ e = .decode read.1 (.notText m) := by
  unfold readCell
  cases read.2.toValue <;> simp [eq_comm]

theorem readRow_eq (columns : List String) (cells : List Cell) :
    readRow columns cells = Row.pushes <$> (columns.zip cells).mapM readCell := rfl

/-- A row is read whole, or not at all. -/
theorem readRow_cases (columns : List String) (cells : List Cell) :
    (∃ row, readRow columns cells = .ok row ∧ Spelled columns cells row) ∨
      ∃ e, readRow columns cells = .error e ∧ Unreadable columns cells e := by
  rw [readRow_eq]
  cases hread : (columns.zip cells).mapM readCell with
  | ok pairs =>
    refine .inl ⟨Row.pushes pairs, rfl, ?_⟩
    rw [Spelled, Row.cells_pushes]
    exact (forall₂_of_mapM_eq_ok hread).imp fun _ _ h => readCell_eq_ok_iff.1 h
  | error e =>
    obtain ⟨before, ⟨column, cell⟩, after, hzip, hbefore, he⟩ := exists_of_mapM_eq_error hread
    obtain ⟨m, hm, rfl⟩ := readCell_eq_error_iff.1 he
    refine .inr ⟨_, rfl, before, column, cell, after, m, hzip, fun read hmem => ?_, hm, rfl⟩
    obtain ⟨pair, hpair⟩ := hbefore read hmem
    exact ⟨pair.2, (readCell_eq_ok_iff.1 hpair).2⟩

/-- Rows are read one after the other, up to the first that cannot be read. -/
theorem readRows_cases (columns : List String) (list : List (List Cell)) :
    ∃ rows, (readRows columns list = (.ok (), rows) ∧
        List.Forall₂ (Spelled columns) list rows) ∨
      ∃ e before cells after, readRows columns list = (.error e, rows) ∧
        list = before ++ cells :: after ∧ List.Forall₂ (Spelled columns) before rows ∧
        Unreadable columns cells e := by
  induction list with
  | nil => exact ⟨[], .inl ⟨rfl, .nil⟩⟩
  | cons cells list ih =>
    rcases readRow_cases columns cells with ⟨row, hrow, hspelled⟩ | ⟨e, he, hunreadable⟩
    · obtain ⟨rows, ⟨hrows, hall⟩ | ⟨e, before, cells', after, hrows, hlist, hall, hun⟩⟩ := ih
      · refine ⟨row :: rows, .inl ⟨?_, .cons hspelled hall⟩⟩
        rw [readRows, hrow, hrows]
      · refine ⟨row :: rows, .inr ⟨e, cells :: before, cells', after, ?_, ?_, ?_, hun⟩⟩
        · rw [readRows, hrow, hrows]
        · rw [hlist, List.cons_append]
        · exact .cons hspelled hall
    · refine ⟨[], .inr ⟨e, [], cells, list, ?_, rfl, .nil, hunreadable⟩⟩
      rw [readRows, he]

/-- **Running a statement.**  Nothing of an earlier run is left to be fetched.
    If the run comes to its end, its whole result is, and its rows are counted;
    if it fails, the rows before the failure are, and the count stays. -/
theorem load_cases (c : Cursor) (ran : Ran) :
    (∃ rows n, c.load ran = (.ok (), ⟨rows, n⟩) ∧ ran.Completes rows n) ∨
      ∃ rows e, c.load ran = (.error e, ⟨rows, c.affected⟩) ∧ ran.Fails rows e := by
  cases ran with
  | changed n => exact .inl ⟨[], n, rfl, .changed⟩
  | refused fault => exact .inr ⟨[], .engine fault, rfl, .refused⟩
  | result columns list fault =>
    obtain ⟨rows, ⟨hrows, hall⟩ | ⟨e, before, cells, after, hrows, rfl, hall, hun⟩⟩ :=
      readRows_cases columns list
    · cases fault with
      | none =>
        refine .inl ⟨rows, rows.length, ?_, .result hall⟩
        simp only [load, hrows]
      | some fault =>
        refine .inr ⟨rows, .engine fault, ?_, .interrupted hall⟩
        simp only [load, hrows]
    · refine .inr ⟨rows, e, ?_, .unreadable hall hun⟩
      simp only [load, hrows]

end Cursor

/-! ## Calls in turn -/

/-- A call on a statement.  What running it gives is up to the engine. -/
inductive CursorCall where
  | execute (ran : Ran)
  | fetch
  | fetchAll
  | rowCount

/-- What a call on a statement gives. -/
inductive CursorReply where
  | executed (outcome : Except Error Unit)
  | row (next : Option Row)
  | rows (rest : List Row)
  | count (n : Nat)

/-- Whether a call runs the statement. -/
def CursorCall.isExecute : CursorCall → Bool
  | .execute _ => true
  | .fetch | .fetchAll | .rowCount => false

/-- The rows that a reply hands out. -/
def CursorReply.handed : CursorReply → List Row
  | .row next => next.toList
  | .rows rest => rest
  | .executed _ | .count _ => []

/-- Whether a reply says that there are no more rows. -/
def CursorReply.isEnd : CursorReply → Bool
  | .row none | .rows _ => true
  | .row (some _) | .executed _ | .count _ => false

namespace Cursor

/-- Answers a call. -/
def answer (c : Cursor) : CursorCall → CursorReply × Cursor
  | .execute ran => (.executed (c.load ran).1, (c.load ran).2)
  | .fetch => (.row c.fetch.1, c.fetch.2)
  | .fetchAll => (.rows c.fetchAll.1, c.fetchAll.2)
  | .rowCount => (.count c.affected, c)

/-- Answers calls in turn. -/
def run (c : Cursor) : List CursorCall → List CursorReply × Cursor
  | [] => ([], c)
  | call :: calls =>
    ((c.answer call).1 :: ((c.answer call).2.run calls).1, ((c.answer call).2.run calls).2)

theorem run_append (c : Cursor) (before after : List CursorCall) :
    c.run (before ++ after) =
      ((c.run before).1 ++ ((c.run before).2.run after).1, ((c.run before).2.run after).2) := by
  induction before generalizing c with
  | nil => rfl
  | cons call before ih =>
    rw [List.cons_append, run, ih, run]
    rfl

theorem length_replies (c : Cursor) (calls : List CursorCall) :
    (c.run calls).1.length = calls.length := by
  induction calls generalizing c with
  | nil => rfl
  | cons call calls ih => rw [run, List.length_cons, List.length_cons, ih]

/-! ## Handing out -/

/-- A call takes the rows that it hands out from the front of those to be
    fetched, and says that there are no more only when it leaves none. -/
structure Serves (c : Cursor) (reply : CursorReply) (next : Cursor) : Prop where
  pending : c.pending = reply.handed ++ next.pending
  affected : next.affected = c.affected
  ended : reply.isEnd = true → next.pending = []
  counted : ∀ n, reply = .count n → n = c.affected

theorem serves_answer (c : Cursor) {call : CursorCall} (h : call.isExecute = false) :
    Serves c (c.answer call).1 (c.answer call).2 := by
  obtain ⟨pending, affected⟩ := c
  cases call with
  | execute => cases h
  | fetch =>
    cases pending with
    | nil => exact ⟨rfl, rfl, fun _ => rfl, nofun⟩
    | cons row rest => exact ⟨rfl, rfl, nofun, nofun⟩
  | fetchAll => exact ⟨(List.append_nil _).symm, rfl, fun _ => rfl, nofun⟩
  | rowCount =>
    refine ⟨rfl, rfl, nofun, fun n hn => ?_⟩
    cases hn
    rfl

end Cursor

/-- What replies hand out is a beginning of some rows, and all of them once a
    reply says that there are no more; every count is that of these rows' run. -/
structure HandsOut (rows : List Row) (count : Nat) (replies : List CursorReply) : Prop where
  handed : replies.flatMap CursorReply.handed <+: rows
  ended : ∀ reply ∈ replies, reply.isEnd = true → replies.flatMap CursorReply.handed = rows
  counted : ∀ n, .count n ∈ replies → n = count

namespace Cursor

/-- Calls that do not run the statement hand out what is to be fetched. -/
theorem handsOut_run (c : Cursor) {calls : List CursorCall}
    (h : ∀ call ∈ calls, call.isExecute = false) :
    HandsOut c.pending c.affected (c.run calls).1 := by
  induction calls generalizing c with
  | nil => exact ⟨List.nil_prefix, nofun, nofun⟩
  | cons call calls ih =>
    obtain ⟨hcall, hcalls⟩ := List.forall_mem_cons.1 h
    have hserves := c.serves_answer hcall
    have hrest := ih (c.answer call).2 hcalls
    rw [run]
    refine ⟨?_, ?_, ?_⟩
    · rw [List.flatMap_cons, hserves.pending]
      exact List.prefix_append_right_inj _ |>.2 hrest.handed
    · rw [List.flatMap_cons, hserves.pending]
      rintro reply hmem hend
      rcases List.mem_cons.1 hmem with rfl | hmem
      · -- Nothing is left after such a reply, so that the others hand out nothing.
        have hnone := hserves.ended hend
        have hempty := hrest.handed
        rw [hnone, List.prefix_nil] at hempty
        rw [hnone, hempty]
      · rw [hrest.ended reply hmem hend]
    · intro n hn
      rcases List.mem_cons.1 hn with hn | hn
      · exact hserves.counted n hn.symm
      · rw [hrest.counted n hn, hserves.affected]

end Cursor

/-- The number of rows of the last run that came to its end, zero before any. -/
inductive Counted : List CursorCall → Nat → Prop
  | fresh : Counted [] 0
  | completed {calls ran rows n} : ran.Completes rows n → Counted (calls ++ [.execute ran]) n
  | failed {calls ran rows e n} : ran.Fails rows e → Counted calls n →
      Counted (calls ++ [.execute ran]) n
  | other {calls call n} : call.isExecute = false → Counted calls n → Counted (calls ++ [call]) n

namespace Cursor

theorem counted_run (calls : List CursorCall) : Counted calls (run {} calls).2.affected := by
  induction calls using List.reverseRecOn with
  | nil => exact .fresh
  | append_singleton calls call ih =>
    rw [run_append]
    generalize (run {} calls).2 = c at ih ⊢
    change Counted (calls ++ [call]) (c.answer call).2.affected
    cases call with
    | execute ran =>
      rcases c.load_cases ran with ⟨rows, n, hload, hran⟩ | ⟨rows, e, hload, hran⟩
      · rw [answer, hload]
        exact .completed hran
      · rw [answer, hload]
        exact .failed hran ih
    | fetch | fetchAll | rowCount => exact .other rfl ih

/-- **A statement hands out rows of its last run only.**  Whatever was done with
    it before, and whatever its runs give: once a run has come to its end, the
    calls up to the next run hand out its rows from the first on, in order, each
    once, and count them.  Once a run has failed, they hand out in the same way
    the rows of this run that were read before the failure, none if it failed at
    the first, and no row of an earlier run; the count is still that of the last
    run that came to its end. -/
theorem hands_out_own_run (before : List CursorCall) (ran : Ran) {after : List CursorCall}
    (hafter : ∀ call ∈ after, call.isExecute = false) :
    ∃ earlier outcome replies,
      (run {} (before ++ .execute ran :: after)).1 = earlier ++ .executed outcome :: replies ∧
      earlier.length = before.length ∧
      ((∃ rows n, outcome = .ok () ∧ ran.Completes rows n ∧ HandsOut rows n replies) ∨
        ∃ rows e n, outcome = .error e ∧ ran.Fails rows e ∧ Counted before n ∧
          HandsOut rows n replies) := by
  have hcounted := counted_run before
  have hreplies := handsOut_run ((run {} before).2.load ran).2 hafter
  refine ⟨(run {} before).1, ((run {} before).2.load ran).1,
    (((run {} before).2.load ran).2.run after).1, by rw [run_append]; rfl, length_replies _ _, ?_⟩
  rcases (run {} before).2.load_cases ran with ⟨rows, n, hload, hran⟩ | ⟨rows, e, hload, hran⟩
  · rw [hload] at hreplies ⊢
    exact .inl ⟨rows, n, rfl, hran, hreplies⟩
  · rw [hload] at hreplies ⊢
    exact .inr ⟨rows, e, _, rfl, hran, hcounted, hreplies⟩

/-- After a run of one row, a run that fails at its second row. -/
theorem hands_out_own_run_unreadable :
    let before : List CursorCall := [.execute (.result ["a"] [[.integer 1]] none), .fetch]
    let ran : Ran := .result ["a"] [[.text [0x78]], [.text [0xff]], [.text [0x79]]] none
    let after : List CursorCall := [.fetch, .rowCount, .fetch]
    (∀ call ∈ after, call.isExecute = false) ∧
      ∃ earlier e replies rows n,
        (run {} (before ++ .execute ran :: after)).1 =
          earlier ++ .executed (.error e) :: replies ∧
        earlier.length = before.length ∧ ran.Fails rows e ∧ Counted before n ∧
        HandsOut rows n replies := by
  intro before ran after
  have hafter : ∀ call ∈ after, call.isExecute = false := by
    simp [after, CursorCall.isExecute]
  obtain ⟨earlier, outcome, replies, hrun, hlength, hcases⟩ :=
    hands_out_own_run before ran hafter
  have hfails : (run {} (before ++ .execute ran :: after)).1[before.length]? =
      some (.executed (.error (.decode "a" (.notText ⟨0, some 1⟩)))) := rfl
  have houtcome : outcome = .error (.decode "a" (.notText ⟨0, some 1⟩)) := by
    rw [hrun, List.getElem?_append_right (Nat.le_of_eq hlength), hlength, Nat.sub_self] at hfails
    cases hfails
    rfl
  rcases hcases with ⟨rows, n, hok, -⟩ | ⟨rows, e, n, he, hran, hcounted, hhands⟩
  · rw [houtcome] at hok
    cases hok
  · exact ⟨hafter, earlier, e, replies, rows, n, he ▸ hrun, hlength, hran, hcounted, hhands⟩

end Cursor

/-- Binds two values and runs the statement. -/
def runWith (first second : Value) : Exec Lazy Unit := do
  engine.call (.bind 1 first first.kind)
  engine.call (.bind 2 second second.kind)
  engine.call .execute

/-- A statement of two rows is run, and run again with bytes in the second row
    that are no text.  This run fails, and yet its first row is handed out, and
    the rows of the run before it are counted. -/
theorem failed_run_hands_out_row :
    let sql := "SELECT CAST(? AS TEXT) AS a UNION ALL SELECT CAST(? AS TEXT)"
    let prepared := (Session.run (engine.call (.prepare sql)) { state := .alreadyOpen }).2
    let good := prepared.run (runWith (.text "x") (.text "y"))
    let bad := good.2.run (runWith (.text "x") (.blob [0xff]))
    good.1 = .ok () ∧ (good.2.run (engine.call .rowCount)).1 = .ok 2 ∧
      bad.1 = .error (.decode "a" (.notText ⟨0, some 1⟩)) ∧
      (bad.2.run (engine.call .fetch)).1 = .ok (some ⟨[("a", .text "x")]⟩) ∧
      (bad.2.run (engine.call .rowCount)).1 = .ok 2 := by
  decide +kernel

end Engine

end BoundSql
