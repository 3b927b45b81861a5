/-
  Several rows given at once.

  * `getElem?_flatten`: values of rows of one width are found again after the
    rows are put one after the other;
  * `Assignments.lookup_perm`: the order of entries of distinct columns does not
    matter;
  * `Statement.Inserts`: the statement holds rows, each value in its cell;
  * `Edit.run_valuesMany`: rows are taken if all of them name the columns of the
    first, and otherwise the first that does not is reported;
  * `Edit.valuesMany_fills_cells`: of rows that are taken, every value stands in
    its row and under its column.
-/
import BoundSql.Proofs.Insertion
import BoundSql.Proofs.Refusal

namespace BoundSql

/-- The value in a column of a row, after the rows are put one after the other. -/
theorem getElem?_flatten {α : Type} {rows : List (List α)} {width : Nat}
    (h : ∀ row ∈ rows, row.length = width) (i : Nat) {j : Nat} (hj : j < width) :
    rows.flatten[i * width + j]? = rows[i]?.bind (·[j]?) := by
  induction rows generalizing i with
  | nil => simp
  | cons row rows ih =>
    obtain ⟨hrow, hrows⟩ := List.forall_mem_cons.1 h
    rw [List.flatten_cons]
    cases i with
    | zero =>
      rw [Nat.zero_mul, Nat.zero_add, List.getElem?_append_left (by omega)]
      simp
    | succ i =>
      have hnext : (i + 1) * width + j = row.length + (i * width + j) := by
        rw [Nat.succ_mul, hrow]
        omega
      rw [hnext, List.getElem?_append_right (by omega), Nat.add_sub_cancel_left, ih hrows i,
        List.getElem?_cons_succ]

/-! ## Entries in another order -/

namespace Assignments

theorem lookup_eq_some_iff {name : String} {v : Value} {a : Assignments}
    (h : a.columns.Nodup) : a.lookup name = some v ↔ (name, v) ∈ a := by
  induction a with
  | nil => simp
  | cons e a ih =>
    obtain ⟨c, w⟩ := e
    rw [columns, List.map_cons, List.nodup_cons] at h
    obtain ⟨hc, ha⟩ := h
    rw [lookup_cons, List.mem_cons, Prod.mk.injEq]
    by_cases hname : name = c
    · subst hname
      have hrest : (name, v) ∉ a := fun hmem => hc (List.mem_map.2 ⟨_, hmem, rfl⟩)
      simp [hrest, eq_comm]
    · simp [hname, ih ha]

/-- Entries of distinct columns may be given in any order. -/
theorem lookup_perm {a b : Assignments} (hperm : a.Perm b) (h : a.columns.Nodup) (name : String) :
    a.lookup name = b.lookup name := by
  have hb : b.columns.Nodup := (hperm.map Prod.fst).nodup_iff.1 h
  ext v
  rw [lookup_eq_some_iff h, lookup_eq_some_iff hb, hperm.mem_iff]

theorem spells_perm {columns : List String} {entries entries' : List (String × Value)}
    (hperm : entries.Perm entries') (h : (entries.map Prod.fst).Nodup) (row : List Value) :
    Spells columns entries row ↔ Spells columns entries' row := by
  have hnames : Names columns entries ↔ Names columns entries' := by
    simp only [Names, (hperm.map Prod.fst).mem_iff]
  have hlookup (name : String) : entries.reverse.lookup name = entries'.reverse.lookup name := by
    refine lookup_perm ?_ ?_ name
    · exact (entries.reverse_perm.trans hperm).trans entries'.reverse_perm.symm
    · rw [Assignments.columns, List.map_reverse]
      exact (List.reverse_perm _).nodup_iff.2 h
  rw [Spells, Spells, hnames]
  simp only [hlookup]

/-- The values of entries, in the order of the columns, are spelled by them. -/
theorem spells_ofEntries (entries : List (String × Value)) :
    Spells (ofEntries entries).columns entries ((ofEntries entries).map Prod.snd) := by
  have hzip : (ofEntries entries).columns.zip ((ofEntries entries).map Prod.snd) =
      ofEntries entries := (List.zip_of_prod rfl rfl).symm
  have hlength :
      ((ofEntries entries).map Prod.snd).length = (ofEntries entries).columns.length := by
    rw [columns, List.length_map, List.length_map]
  have hlookup := lookup_zip (nodup_columns_ofEntries entries) hlength
  rw [hzip] at hlookup
  refine ⟨fun c => mem_columns_ofEntries.symm, ?_⟩
  rw [← hlookup]
  exact List.map_congr_left fun c _ => (lookup_ofEntries c entries).symm

/-- The value that entries give last to a column stands in its place. -/
theorem Spells.getElem? {columns : List String} {entries : List (String × Value)}
    {row : List Value} (h : Spells columns entries row) {j : Nat} (hj : j < columns.length) :
    row[j]? = entries.reverse.lookup columns[j] := by
  have hplace := congrArg (fun l => l[j]?) h.2
  have hrow : j < row.length := by rw [h.length_eq]; exact hj
  simpa [hj, hrow] using hplace.symm

end Assignments

namespace Clauses

theorem alignRows_perm {columns : List String} (hc : columns.Nodup) (row : Nat)
    {rows rows' : List (List (String × Value))}
    (h : List.Forall₂ (fun r r' => r.Perm r' ∧ (r.map Prod.fst).Nodup) rows rows') :
    alignRows columns row rows = alignRows columns row rows' := by
  induction h generalizing row with
  | nil => rfl
  | @cons r r' rs rs' hr hrs ih =>
    have halign : (Assignments.ofEntries r).align? columns =
        (Assignments.ofEntries r').align? columns := by
      ext values
      rw [Assignments.align?_ofEntries_eq_some_iff hc, Assignments.align?_ofEntries_eq_some_iff hc,
        Assignments.spells_perm hr.1 hr.2]
    rw [alignRows, alignRows, halign, ih (row + 1)]

end Clauses

/-! ## Statements that insert rows -/

/-- The statement inserts rows: it names the columns, has a tuple of
    placeholders for each row, and binds row by row the value that each row
    gives last to each column. -/
structure Statement.Inserts (verb table : String) (columns : List String)
    (rows : List (List (String × Value))) (t : Statement) : Prop where
  sql : t.sql = verb ++ " INTO " ++ table ++ " " ++ tuple columns ++ " VALUES " ++
    ", ".intercalate (List.replicate rows.length (tuple (List.replicate columns.length "?")))
  length : t.bindings.length = rows.length * columns.length
  cell : ∀ i j (hi : i < rows.length) (hj : j < columns.length),
    t.bindings[i * columns.length + j]? = rows[i].reverse.lookup columns[j]

/-- Rows that are spelled by entries are put one after the other. -/
theorem Statement.Inserts.of_spells {verb table sql : String} {columns : List String}
    {rows : List (List (String × Value))} {aligned : List (List Value)}
    (hsql : sql = verb ++ " INTO " ++ table ++ " " ++ tuple columns ++ " VALUES " ++
      ", ".intercalate (List.replicate rows.length (tuple (List.replicate columns.length "?"))))
    (h : List.Forall₂ (Assignments.Spells columns) rows aligned) :
    Statement.Inserts verb table columns rows ⟨sql, aligned.flatten⟩ := by
  have hwidth := Assignments.length_of_forall₂_spells h
  refine ⟨hsql, ?_, fun i j hi hj => ?_⟩
  · have hlengths : aligned.map List.length = List.replicate aligned.length columns.length := by
      rw [← List.map_const']
      exact List.map_congr_left hwidth
    rw [List.length_flatten, hlengths, List.sum_replicate_nat, h.length_eq]
  · have hi' : i < aligned.length := h.length_eq ▸ hi
    rw [getElem?_flatten hwidth i hj, List.getElem?_eq_getElem hi', Option.bind_some]
    exact (h.get hi hi').getElem? hj

/-! ## Giving several rows -/

namespace Edit

open Assignments (Names Spells)

variable {q : Query} {first : List (String × Value)} {rest : List (List (String × Value))}

/-- The query with rows in the order of the columns of the first. -/
def withRows (first : List (String × Value)) (aligned : List (List Value)) (q : Query) : Query :=
  q.modify fun c => { c with firstRow := .ofEntries first, moreRows := aligned.tail }

/-- The first row is aligned with its own columns, as the others have to be. -/
theorem run_valuesMany (q : Query) (first : List (String × Value))
    (rest : List (List (String × Value))) :
    (valuesMany (first :: rest)).run q =
      match Clauses.alignRows (Assignments.ofEntries first).columns 1 (first :: rest) with
      | .ok aligned => (.ok (), withRows first aligned q)
      | .error m => (.error m, q) := by
  have hnodup := Assignments.nodup_columns_ofEntries first
  have hfirst := (Assignments.align?_ofEntries_eq_some_iff hnodup).2
    (Assignments.spells_ofEntries first)
  rw [run, tryChange, Clauses.assignRows_cons, Clauses.alignRows, hfirst]
  cases Clauses.alignRows (Assignments.ofEntries first).columns (1 + 1) rest <;> rfl

/-- The rows that are taken are those that are inserted. -/
theorem insertedRows_withRows {aligned : List (List Value)}
    (h : List.Forall₂ (Spells (Assignments.ofEntries first).columns) (first :: rest) aligned) :
    (withRows first aligned q).clauses.insertedRows = aligned := by
  have hnodup := Assignments.nodup_columns_ofEntries first
  obtain ⟨row, more, hrow, -, rfl⟩ := List.forall₂_cons_left_iff.1 h
  have hfirst := (Assignments.align?_ofEntries_eq_some_iff hnodup).2
    (Assignments.spells_ofEntries first)
  rw [(Assignments.align?_ofEntries_eq_some_iff hnodup).2 hrow] at hfirst
  rw [Clauses.insertedRows, Option.some.inj hfirst]
  rfl

/-- The columns of the first row are those that it names, each once. -/
theorem names_columns_iff {r : List (String × Value)} :
    Names (Assignments.ofEntries first).columns r ↔ Names (first.map Prod.fst) r := by
  simp only [Names, Assignments.mem_columns_ofEntries]

theorem run_valuesMany_eq_ok_iff :
    ((valuesMany (first :: rest)).run q).1 = .ok () ↔
      ∀ r ∈ first :: rest, Names (first.map Prod.fst) r := by
  simp only [← names_columns_iff, run_valuesMany,
    ← Clauses.exists_alignRows_eq_ok_iff (Assignments.nodup_columns_ofEntries first) 1]
  cases Clauses.alignRows (Assignments.ofEntries first).columns 1 (first :: rest) <;> simp

theorem run_valuesMany_eq_error_iff {m : Misuse} :
    ((valuesMany (first :: rest)).run q).1 = .error m ↔
      ∃ before r after, first :: rest = before ++ r :: after ∧
        (∀ b ∈ before, Names (first.map Prod.fst) b) ∧ ¬ Names (first.map Prod.fst) r ∧
        m = .rowMismatch (before.length + 1) (first.map Prod.fst).eraseDups := by
  have herror : ((valuesMany (first :: rest)).run q).1 = .error m ↔
      Clauses.alignRows (Assignments.ofEntries first).columns 1 (first :: rest) = .error m := by
    rw [run_valuesMany]
    cases Clauses.alignRows (Assignments.ofEntries first).columns 1 (first :: rest) <;> simp
  rw [herror, Clauses.alignRows_eq_error_iff (Assignments.nodup_columns_ofEntries first)]
  simp only [names_columns_iff, Nat.add_comm 1]
  rw [Assignments.columns_ofEntries]

/-- An INSERT or REPLACE of rows that are taken, if it has a table and columns. -/
theorem compile_run_valuesMany (hok : ((valuesMany (first :: rest)).run q).1 = .ok ())
    (hkind : q.kind = .insert ∨ q.kind = .replace) (htable : q.clauses.table ≠ "")
    (hcolumns : (first.map Prod.fst).eraseDups ≠ []) :
    ∃ t, ((valuesMany (first :: rest)).run q).2.compile = .ok t ∧
      t.Inserts q.clauses.insertVerb q.clauses.table (first.map Prod.fst).eraseDups
        (first :: rest) := by
  rw [run_valuesMany] at hok ⊢
  rw [← Assignments.columns_ofEntries] at hcolumns ⊢
  cases hrows : Clauses.alignRows (Assignments.ofEntries first).columns 1 (first :: rest) with
  | error m =>
    rw [hrows] at hok
    cases hok
  | ok aligned =>
    have hspells :=
      (Clauses.alignRows_eq_ok_iff (Assignments.nodup_columns_ofEntries first)).1 hrows
    have hinserted := insertedRows_withRows (q := q) hspells
    have hdata : Assignments.ofEntries first ≠ [] := by
      intro hnil
      rw [hnil] at hcolumns
      exact hcolumns rfl
    have hcompile : (withRows first aligned q).compile =
        .ok ⟨(withRows first aligned q).clauses.writtenInsert Render.mark, aligned.flatten⟩ := by
      rw [← hinserted]
      exact Query.compile_of_inserts_of_ne q.members q.unionAll hkind htable hdata
    have hwidth := Assignments.length_of_forall₂_spells hspells
    refine ⟨_, hcompile, .of_spells ?_ hspells⟩
    rw [Clauses.writtenInsert_mark (by rw [hinserted]; exact hwidth), hinserted, hspells.length_eq]
    rfl

/-- **Every value stands in its cell.**  Rows are taken if all of them name the
    columns of the first; otherwise the first that does not is reported with
    its number, counted from 1.  An INSERT or REPLACE of rows that are taken
    names the columns in the order in which the first row does, and binds, row
    by row, the value that each row gives last to each column.  So it makes no
    difference in which order the entries of further rows are given, if none
    of their columns repeats. -/
theorem valuesMany_fills_cells (q : Query) (first : List (String × Value))
    (rest : List (List (String × Value))) :
    let rows := first :: rest
    let columns := (first.map Prod.fst).eraseDups
    let after := (valuesMany rows).run q
    (after.1 = .ok () ↔ ∀ r ∈ rows, Names (first.map Prod.fst) r) ∧
      (∀ err, after.1.mapError Error.config = .error err ↔
        ∃ before r others, rows = before ++ r :: others ∧
          (∀ b ∈ before, Names (first.map Prod.fst) b) ∧ ¬ Names (first.map Prod.fst) r ∧
          err = .config (.rowMismatch (before.length + 1) columns)) ∧
      (after.1 = .ok () → (q.kind = .insert ∨ q.kind = .replace) → q.clauses.table ≠ "" →
        columns ≠ [] → ∃ t, after.2.compile = .ok t ∧
          t.Inserts q.clauses.insertVerb q.clauses.table columns rows) ∧
      ∀ rest', List.Forall₂ (fun r r' => r.Perm r' ∧ (r.map Prod.fst).Nodup) rest rest' →
        (valuesMany (first :: rest')).run q = after := by
  intro rows columns after
  refine ⟨run_valuesMany_eq_ok_iff, fun err => ?_, compile_run_valuesMany, fun rest' hperm => ?_⟩
  · rw [Error.mapError_config_eq_error_iff]
    constructor
    · rintro ⟨m, hm, rfl⟩
      obtain ⟨before, r, others, hrows, hbefore, hr, rfl⟩ := run_valuesMany_eq_error_iff.1 hm
      exact ⟨before, r, others, hrows, hbefore, hr, rfl⟩
    · rintro ⟨before, r, others, hrows, hbefore, hr, rfl⟩
      exact ⟨_, run_valuesMany_eq_error_iff.2 ⟨before, r, others, hrows, hbefore, hr, rfl⟩, rfl⟩
  · show (valuesMany (first :: rest')).run q = (valuesMany (first :: rest)).run q
    have hnodup := Assignments.nodup_columns_ofEntries first
    rw [run, run, tryChange, tryChange, Clauses.assignRows_cons, Clauses.assignRows_cons,
      Clauses.alignRows_perm hnodup 2 hperm]

/-- A column of the first row repeats, the second row has its columns in another
    order, and a third row would not fit. -/
theorem valuesMany_fills_cells_reordered :
    let q := runAll [.insert "t"] .fresh
    let first : List (String × Value) := [("a", .int 0), ("b", .null), ("a", .int 1)]
    let second : List (String × Value) := [("b", .text "x"), ("a", .int 2)]
    ((valuesMany [first, second]).run q).1 = .ok () ∧
      (∃ t, ((valuesMany [first, second]).run q).2.compile = .ok t ∧
        t.Inserts "INSERT" "t" ["a", "b"] [first, second] ∧
        t.sql = "INSERT INTO t (a, b) VALUES (?, ?), (?, ?)" ∧
        t.bindings[0]? = some (.int 1) ∧ t.bindings[2]? = some (.int 2)) ∧
      (valuesMany [first, [("a", .int 2), ("b", .text "x")]]).run q =
        (valuesMany [first, second]).run q ∧
      ((valuesMany [first, second, [("a", .int 3)]]).run q).1.mapError Error.config =
        .error (.config (.rowMismatch 3 ["a", "b"])) := by
  intro q first second
  have hcolumns : (first.map Prod.fst).eraseDups = ["a", "b"] := rfl
  have hsecond : Names (first.map Prod.fst) second := by simp [Names, first, second, or_comm]
  have hthird : ¬ Names (first.map Prod.fst) [("a", .int 3)] := by
    intro hnames
    simpa [first] using hnames "b"
  obtain ⟨hok, -, hcells, hperm⟩ := valuesMany_fills_cells q first [second]
  obtain ⟨-, herror, -, -⟩ := valuesMany_fills_cells q first [second, [("a", .int 3)]]
  have htaken := hok.2 (by simpa using ⟨fun _ => Iff.rfl, hsecond⟩)
  have htable : q.clauses.table ≠ "" := show "t" ≠ "" by decide
  obtain ⟨t, ht, hinserts⟩ :=
    hcells htaken (.inl rfl) htable (hcolumns.trans_ne (List.cons_ne_nil _ _))
  rw [hcolumns] at hinserts
  refine ⟨htaken, ⟨t, ht, hinserts, ?_, ?_, ?_⟩, hperm _ ?_, (herror _).2 ?_⟩
  · exact hinserts.sql.trans (by decide +kernel)
  · exact hinserts.cell 0 0 (by simp) (by simp)
  · exact hinserts.cell 1 0 (by simp) (by simp)
  · exact .cons ⟨.swap _ _ _, by decide⟩ .nil
  · exact ⟨[first, second], _, [], rfl, by simpa using ⟨fun _ => Iff.rfl, hsecond⟩, hthird, rfl⟩

end Edit

end BoundSql
