/-
  Rows that are inserted.

  * `Assignments.lookup_ofEntries`: of several values that entries give a
    column the last one counts; the columns come in the order in which they
    are first named (`columns_ofEntries`);
  * `Assignments.Spells`: entries name exactly the columns, and the last values
    that they give them are those of a row; entries are aligned with distinct
    columns, to that row, just then (`align?_ofEntries_eq_some_iff`);
  * `Clauses.alignRows_eq_ok_iff`, `alignRows_eq_error_iff`: several rows are
    aligned if all of them are, and otherwise the first that is not is
    reported;
  * `Clauses.writtenInsert_mark`: rows that are as wide as the columns make
    tuples of as many placeholders;
  * `Query.compile_of_inserts`: what an INSERT or REPLACE is compiled to.
-/
import BoundSql.Proofs.Written
import BoundSql.Query.Edit
import Mathlib.Data.List.Forall2
import Mathlib.Data.List.Perm.Subperm

namespace BoundSql

/-! ## Values of columns -/

namespace Assignments

theorem lookup_cons (name column : String) (v : Value) (a : Assignments) :
    List.lookup name ((column, v) :: a) = if name = column then some v else a.lookup name := by
  by_cases h : name = column
  · rw [h, List.lookup_cons_self, if_pos rfl]
  · rw [List.lookup_cons, beq_false_of_ne h, if_neg h]

theorem lookup_set (column name : String) (v : Value) (a : Assignments) :
    (a.set column v).lookup name = if name = column then some v else a.lookup name := by
  induction a with
  | nil => exact lookup_cons name column v []
  | cons e a ih =>
    obtain ⟨c, w⟩ := e
    by_cases hc : c = column
    · subst hc
      rw [set, if_pos rfl, lookup_cons, lookup_cons]
      split <;> rfl
    · rw [set, if_neg hc, lookup_cons, lookup_cons, ih]
      by_cases h : name = c
      · rw [if_pos h, if_pos h, if_neg (h ▸ hc)]
      · rw [if_neg h, if_neg h]

theorem lookup_setAll (name : String) (entries : List (String × Value)) (a : Assignments) :
    (a.setAll entries).lookup name = (entries.reverse.lookup name).or (a.lookup name) := by
  induction entries generalizing a with
  | nil => rfl
  | cons e es ih =>
    obtain ⟨c, v⟩ := e
    have hstep : a.setAll ((c, v) :: es) = (a.set c v).setAll es := rfl
    rw [hstep, ih, lookup_set, List.reverse_cons, List.lookup_append, Option.or_assoc, lookup_cons]
    by_cases h : name = c <;> simp [h]

/-- The last value that is given to a column counts. -/
theorem lookup_ofEntries (name : String) (entries : List (String × Value)) :
    (ofEntries entries).lookup name = entries.reverse.lookup name := by
  rw [ofEntries, lookup_setAll, List.lookup_nil, Option.or_none]

theorem lookup_eq_none_iff {name : String} {a : Assignments} :
    a.lookup name = none ↔ name ∉ a.columns := by
  induction a with
  | nil => exact iff_of_true rfl List.not_mem_nil
  | cons e a ih =>
    rw [lookup_cons, columns, List.map_cons, List.mem_cons, not_or, ← columns, ← ih]
    split
    · next h => exact iff_of_false (Option.some_ne_none _) fun hn => hn.1 h
    · next h => exact (and_iff_right h).symm

theorem lookup_ne_none_iff {name : String} {a : Assignments} :
    a.lookup name ≠ none ↔ name ∈ a.columns := by
  rw [Ne, lookup_eq_none_iff, not_not]

/-- The columns are those that are named. -/
theorem mem_columns_ofEntries {name : String} {entries : List (String × Value)} :
    name ∈ (ofEntries entries).columns ↔ name ∈ entries.map Prod.fst := by
  rw [← not_iff_not, ← lookup_eq_none_iff, lookup_ofEntries, lookup_eq_none_iff]
  simp [columns]

/-- Columns are added as they are first named, except those that are there. -/
theorem columns_setAll (entries : List (String × Value)) (a : Assignments) :
    (a.setAll entries).columns =
      a.columns ++ ((entries.map Prod.fst).filter (· ∉ a.columns)).eraseDups := by
  induction entries generalizing a with
  | nil => simp [setAll]
  | cons e es ih =>
    obtain ⟨c, v⟩ := e
    have hstep : a.setAll ((c, v) :: es) = (a.set c v).setAll es := rfl
    rw [hstep, ih, columns_set, List.map_cons]
    by_cases hc : c ∈ a.columns
    · rw [if_pos hc, List.filter_cons_of_neg (by simpa using hc)]
    · have hrest : (es.map Prod.fst).filter (· ∉ a.columns ++ [c]) =
          ((es.map Prod.fst).filter (· ∉ a.columns)).filter fun d => !d == c := by
        rw [List.filter_filter]
        refine List.filter_congr fun d _ => ?_
        by_cases hd : d = c <;> simp [hd]
      rw [if_neg hc, List.filter_cons_of_pos (by simpa using hc), List.eraseDups_cons, hrest,
        List.append_assoc]
      rfl

/-- The columns come in the order in which they are first named. -/
theorem columns_ofEntries (entries : List (String × Value)) :
    (ofEntries entries).columns = (entries.map Prod.fst).eraseDups := by
  rw [ofEntries, columns_setAll]
  simp [columns]

theorem set_of_notMem {column : String} {a : Assignments} (h : column ∉ a.columns) (v : Value) :
    a.set column v = a ++ [(column, v)] := by
  induction a with
  | nil => rfl
  | cons e a ih =>
    obtain ⟨c, w⟩ := e
    rw [columns, List.map_cons, List.mem_cons, not_or] at h
    rw [set, if_neg (Ne.symm h.1), ih h.2, List.cons_append]

theorem setAll_of_nodup {entries a : Assignments} (h : (a ++ entries).columns.Nodup) :
    a.setAll entries = a ++ entries := by
  induction entries generalizing a with
  | nil => exact (List.append_nil a).symm
  | cons e es ih =>
    obtain ⟨c, v⟩ := e
    have hstep : a.setAll ((c, v) :: es) = (a.set c v).setAll es := rfl
    have hc : c ∉ a.columns := by
      rw [columns, List.map_append, List.nodup_append] at h
      exact fun hmem => h.2.2 c hmem c List.mem_cons_self rfl
    rw [hstep, set_of_notMem hc, ih (by simpa using h), List.append_assoc]
    rfl

/-- Entries of distinct columns are kept as they are. -/
theorem ofEntries_of_nodup {entries : Assignments} (h : entries.columns.Nodup) :
    ofEntries entries = entries :=
  setAll_of_nodup h

/-! ## Alignment -/

theorem take?_eq_none_iff {name : String} {a : Assignments} :
    a.take? name = none ↔ a.lookup name = none := by
  induction a with
  | nil => exact iff_of_true rfl rfl
  | cons e a ih =>
    obtain ⟨c, v⟩ := e
    rw [take?, lookup_cons]
    by_cases h : c = name
    · simp [h]
    · rw [if_neg h, if_neg (Ne.symm h), Option.map_eq_none_iff, ih]

/-- A value that is taken is the first of its column; other columns stay. -/
theorem lookup_of_take? {name : String} {v : Value} {a b : Assignments}
    (h : a.take? name = some (v, b)) :
    a.lookup name = some v ∧ ∀ other, other ≠ name → b.lookup other = a.lookup other := by
  induction a generalizing b with
  | nil => cases h
  | cons e a ih =>
    obtain ⟨c, w⟩ := e
    rw [take?] at h
    split at h
    · next hc =>
      obtain ⟨rfl, rfl⟩ := Prod.mk.inj (Option.some.inj h)
      subst hc
      refine ⟨by rw [lookup_cons, if_pos rfl], fun other hother => ?_⟩
      rw [lookup_cons, lookup_cons, if_neg hother, if_neg hother]
    · next hc =>
      obtain ⟨⟨w', b'⟩, htake, hb⟩ := Option.map_eq_some_iff.1 h
      obtain ⟨rfl, rfl⟩ := Prod.mk.inj hb
      obtain ⟨hname, hothers⟩ := ih htake
      refine ⟨by rw [lookup_cons, if_neg (Ne.symm hc), hname], fun other hother => ?_⟩
      rw [lookup_cons, lookup_cons, hothers other hother]

/-- Distinct columns are taken one by one as they are looked up. -/
theorem takeAll?_eq_some_iff {columns : List String} (hc : columns.Nodup) {a : Assignments}
    {row : List Value} :
    takeAll? columns a = some row ↔ (columns.map fun c => a.lookup c) = row.map some := by
  induction columns generalizing a row with
  | nil => cases row <;> simp [takeAll?]
  | cons c cs ih =>
    obtain ⟨hmem, hcs⟩ := List.nodup_cons.1 hc
    rw [takeAll?, List.map_cons]
    cases htake : a.take? c with
    | none =>
      rw [take?_eq_none_iff] at htake
      cases row <;> simp [htake]
    | some taken =>
      obtain ⟨v, b⟩ := taken
      obtain ⟨hlookup, hothers⟩ := lookup_of_take? htake
      have hrest : (cs.map fun d => b.lookup d) = cs.map fun d => a.lookup d :=
        List.map_congr_left fun d hd => hothers d fun h => hmem (h ▸ hd)
      rw [hlookup, ← hrest]
      cases row with
      | nil => cases h : takeAll? cs b <;> simp [h]
      | cons w ws =>
        rw [List.map_cons, List.cons.injEq, ← ih hcs]
        cases h : takeAll? cs b <;> simp [h]

/-- The entries name the columns and no others. -/
def Names (columns : List String) (entries : List (String × Value)) : Prop :=
  ∀ c, c ∈ entries.map Prod.fst ↔ c ∈ columns

/-- The entries name the columns, and the last value that they give to each of
    them is that of the row. -/
def Spells (columns : List String) (entries : List (String × Value)) (row : List Value) : Prop :=
  Names columns entries ∧ (columns.map fun c => entries.reverse.lookup c) = row.map some

section

variable {columns : List String} {entries : List (String × Value)}

theorem Names.perm (hc : columns.Nodup) (h : Names columns entries) :
    (ofEntries entries).columns.Perm columns :=
  (List.perm_ext_iff_of_nodup (nodup_columns_ofEntries entries) hc).2 fun c => by
    rw [mem_columns_ofEntries, h c]

theorem Spells.length_eq {row : List Value} (h : Spells columns entries row) :
    row.length = columns.length := by
  simpa using (congrArg List.length h.2).symm

/-- Rows that entries spell are as wide as the columns. -/
theorem length_of_forall₂_spells {rows : List (List (String × Value))}
    {aligned : List (List Value)} (h : List.Forall₂ (Spells columns) rows aligned) :
    ∀ r ∈ aligned, r.length = columns.length := by
  have hwide : List.Forall₂
      (fun r entries => r.length = columns.length ∧ Spells columns entries r) aligned rows :=
    h.flip.imp fun _ _ hspells => ⟨Spells.length_eq hspells, hspells⟩
  exact ((List.forall₂_and_left _ _).1 hwide).1

/-- Every column that is named has a last value. -/
theorem Names.exists_spells (h : Names columns entries) : ∃ row, Spells columns entries row := by
  refine ⟨columns.map fun c => (entries.reverse.lookup c).getD .null, h, ?_⟩
  rw [List.map_map]
  refine List.map_congr_left fun c hc => ?_
  have hgiven : entries.reverse.lookup c ≠ none := by
    rw [← lookup_ofEntries, lookup_ne_none_iff, mem_columns_ofEntries]
    exact (h c).2 hc
  obtain ⟨v, hv⟩ := Option.ne_none_iff_exists'.1 hgiven
  rw [Function.comp_apply, hv, Option.getD_some]

/-- Entries are aligned with distinct columns if they name exactly these, each
    column with its last value. -/
theorem align?_ofEntries_eq_some_iff (hc : columns.Nodup) {row : List Value} :
    (ofEntries entries).align? columns = some row ↔ Spells columns entries row := by
  have htake : takeAll? columns (ofEntries entries) = some row ↔
      (columns.map fun c => entries.reverse.lookup c) = row.map some := by
    rw [takeAll?_eq_some_iff hc]
    simp only [lookup_ofEntries]
  rw [align?, Spells, ← htake]
  constructor
  · intro h
    split at h
    · next hlength =>
      -- As many columns as there are, and each of them is found: there are no others.
      have hsub : columns ⊆ (ofEntries entries).columns := by
        intro d hd
        have hmem : entries.reverse.lookup d ∈ row.map some :=
          htake.1 h ▸ List.mem_map_of_mem hd
        obtain ⟨v, -, hv⟩ := List.mem_map.1 hmem
        rw [← lookup_ne_none_iff, lookup_ofEntries, ← hv]
        exact Option.some_ne_none v
      have hperm : columns.Perm (ofEntries entries).columns :=
        (List.subperm_of_subset hc hsub).perm_of_length_le (by simp [Assignments.columns, hlength])
      exact ⟨fun c => by rw [← mem_columns_ofEntries, hperm.mem_iff], h⟩
    · cases h
  · rintro ⟨hnames, h⟩
    have hlength : (ofEntries entries).length = columns.length := by
      simpa [Assignments.columns] using (hnames.perm hc).length_eq
    rw [if_pos hlength, h]

/-- Entries that do not name the columns are not aligned with them. -/
theorem align?_ofEntries_eq_none_iff (hc : columns.Nodup) :
    (ofEntries entries).align? columns = none ↔ ¬ Names columns entries := by
  rw [Option.eq_none_iff_forall_ne_some]
  constructor
  · intro h hnames
    obtain ⟨row, hrow⟩ := hnames.exists_spells
    exact h row ((align?_ofEntries_eq_some_iff hc).2 hrow)
  · exact fun hnames row h => hnames ((align?_ofEntries_eq_some_iff hc).1 h).1

theorem lookup_zip (hc : columns.Nodup) {row : List Value} (hlength : row.length = columns.length) :
    (columns.map fun c => (columns.zip row).lookup c) = row.map some := by
  induction columns generalizing row with
  | nil =>
    obtain rfl : row = [] := List.length_eq_zero_iff.1 hlength
    rfl
  | cons c cs ih =>
    obtain ⟨hmem, hcs⟩ := List.nodup_cons.1 hc
    cases row with
    | nil => cases hlength
    | cons v vs =>
      have hrest : (cs.map fun d => List.lookup d ((c, v) :: cs.zip vs)) =
          cs.map fun d => (cs.zip vs).lookup d :=
        List.map_congr_left fun d hd => by
          have hne : d ≠ c := fun h => hmem (h ▸ hd)
          rw [lookup_cons, if_neg hne]
      rw [List.zip_cons_cons, List.map_cons, hrest, ih hcs (Nat.succ.inj hlength), lookup_cons,
        if_pos rfl, List.map_cons]

theorem columns_zip {row : List Value} (hlength : row.length = columns.length) :
    Assignments.columns (columns.zip row) = columns :=
  List.map_fst_zip (Nat.le_of_eq hlength.symm)

theorem ofEntries_zip (hc : columns.Nodup) {row : List Value}
    (hlength : row.length = columns.length) : ofEntries (columns.zip row) = columns.zip row :=
  ofEntries_of_nodup (by rwa [columns_zip hlength])

/-- A row that is put to its columns is aligned as it was. -/
theorem align?_zip (hc : columns.Nodup) {row : List Value} (hlength : row.length = columns.length) :
    Assignments.align? columns (columns.zip row) = some row := by
  have hsize : (columns.zip row).length = columns.length := by
    rw [List.length_zip, hlength, Nat.min_self]
  rw [align?, if_pos hsize, takeAll?_eq_some_iff hc, lookup_zip hc hlength]

end

end Assignments

/-! ## Several rows -/

namespace Clauses

/-- The first row fixes the columns, and the others are aligned with them. -/
theorem assignRows_cons (first : List (String × Value)) (rest : List (List (String × Value)))
    (c : Clauses) :
    c.assignRows (first :: rest) =
      (alignRows (Assignments.ofEntries first).columns 2 rest).map fun moreRows =>
        { c with firstRow := .ofEntries first, moreRows := moreRows } :=
  rfl

/-- Rows are aligned one by one. -/
theorem alignRows_eq_ok_iff {columns : List String} (hc : columns.Nodup) {row : Nat}
    {rows : List (List (String × Value))} {aligned : List (List Value)} :
    alignRows columns row rows = .ok aligned ↔
      List.Forall₂ (Assignments.Spells columns) rows aligned := by
  induction rows generalizing row aligned with
  | nil =>
    rw [alignRows, List.forall₂_nil_left_iff]
    simp [eq_comm]
  | cons entries rest ih =>
    rw [alignRows, List.forall₂_cons_left_iff]
    cases halign : (Assignments.ofEntries entries).align? columns with
    | none =>
      have hnames := (Assignments.align?_ofEntries_eq_none_iff hc).1 halign
      constructor
      · exact nofun
      · rintro ⟨values, more, hspells, -, -⟩
        exact absurd hspells.1 hnames
    | some values =>
      have hspells (values' : List Value) :
          Assignments.Spells columns entries values' ↔ values = values' := by
        rw [← Assignments.align?_ofEntries_eq_some_iff hc, halign, Option.some.injEq]
      simp only [hspells, ← @ih (row + 1)]
      cases alignRows columns (row + 1) rest with
      | error m => simp [Except.map]
      | ok more => simp [Except.map, eq_comm]

/-- The first row that does not name the columns is reported with its number. -/
theorem alignRows_eq_error_iff {columns : List String} (hc : columns.Nodup) {row : Nat}
    {rows : List (List (String × Value))} {m : Misuse} :
    alignRows columns row rows = .error m ↔
      ∃ before entries after, rows = before ++ entries :: after ∧
        (∀ r ∈ before, Assignments.Names columns r) ∧ ¬ Assignments.Names columns entries ∧
        m = .rowMismatch (row + before.length) columns := by
  induction rows generalizing row with
  | nil => simp [alignRows]
  | cons first rest ih =>
    rw [alignRows]
    cases halign : (Assignments.ofEntries first).align? columns with
    | none =>
      have hnames := (Assignments.align?_ofEntries_eq_none_iff hc).1 halign
      constructor
      · intro h
        cases h
        exact ⟨[], first, rest, rfl, List.forall_mem_nil _, hnames, rfl⟩
      · rintro ⟨before, entries, after, hrows, hbefore, -, rfl⟩
        cases before with
        | nil => rfl
        | cons b bs =>
          cases hrows
          exact absurd (hbefore _ List.mem_cons_self) hnames
    | some values =>
      have hnames := ((Assignments.align?_ofEntries_eq_some_iff hc).1 halign).1
      have hrest : (alignRows columns (row + 1) rest).map (values :: ·) = .error m ↔
          alignRows columns (row + 1) rest = .error m := by
        cases alignRows columns (row + 1) rest <;> simp [Except.map]
      rw [hrest, ih]
      constructor
      · rintro ⟨before, entries, after, rfl, hbefore, hentries, rfl⟩
        refine ⟨first :: before, entries, after, rfl, ?_, hentries, ?_⟩
        · exact List.forall_mem_cons.2 ⟨hnames, hbefore⟩
        · rw [List.length_cons, Nat.add_right_comm, Nat.add_assoc]
      · rintro ⟨before, entries, after, hrows, hbefore, hentries, rfl⟩
        cases before with
        | nil =>
          cases hrows
          exact absurd hnames hentries
        | cons b bs =>
          cases hrows
          refine ⟨bs, entries, after, rfl, (List.forall_mem_cons.1 hbefore).2, hentries, ?_⟩
          rw [List.length_cons, Nat.add_right_comm, Nat.add_assoc]

/-- Rows are aligned if all of them name the columns. -/
theorem exists_alignRows_eq_ok_iff {columns : List String} (hc : columns.Nodup) (row : Nat)
    {rows : List (List (String × Value))} :
    (∃ aligned, alignRows columns row rows = .ok aligned) ↔
      ∀ r ∈ rows, Assignments.Names columns r := by
  cases hrows : alignRows columns row rows with
  | ok aligned =>
    have hnamed : List.Forall₂ (fun r _ => Assignments.Names columns r ∧ True) rows aligned :=
      ((alignRows_eq_ok_iff hc).1 hrows).imp fun _ _ h => ⟨h.1, trivial⟩
    exact iff_of_true ⟨aligned, rfl⟩ ((List.forall₂_and_left _ _).1 hnamed).1
  | error m =>
    obtain ⟨before, r, after, rfl, -, hr, -⟩ := (alignRows_eq_error_iff hc).1 hrows
    refine iff_of_false (fun ⟨_, h⟩ => nomatch h) fun hall => hr (hall r ?_)
    exact List.mem_append_right _ List.mem_cons_self

/-- Rows that are aligned are as wide as the columns. -/
theorem length_of_alignRows {columns : List String} (hc : columns.Nodup) {row : Nat}
    {rows : List (List (String × Value))} {aligned : List (List Value)}
    (h : alignRows columns row rows = .ok aligned) : ∀ r ∈ aligned, r.length = columns.length :=
  Assignments.length_of_forall₂_spells ((alignRows_eq_ok_iff hc).1 h)

/-- Rows that are put to their columns are aligned as they were. -/
theorem alignRows_zip {columns : List String} (hc : columns.Nodup) (row : Nat)
    {rows : List (List Value)} (h : ∀ r ∈ rows, r.length = columns.length) :
    alignRows columns row (rows.map fun r => columns.zip r) = .ok rows := by
  induction rows generalizing row with
  | nil => rfl
  | cons r rs ih =>
    obtain ⟨hr, hrs⟩ := List.forall_mem_cons.1 h
    rw [List.map_cons, alignRows, Assignments.ofEntries_zip hc hr, Assignments.align?_zip hc hr,
      ih (row + 1) hrs]
    rfl

end Clauses

/-! ## Statements that insert -/

open Render

namespace Clauses

/-- Rows that are as wide as the columns make tuples of as many placeholders. -/
theorem writtenInsert_mark {c : Clauses}
    (h : ∀ row ∈ c.insertedRows, row.length = c.firstRow.columns.length) :
    c.writtenInsert mark = c.insertVerb ++ " INTO " ++ c.table ++ " " ++ tuple c.firstRow.columns ++
      " VALUES " ++ ", ".intercalate (List.replicate c.insertedRows.length
        (tuple (List.replicate c.firstRow.columns.length "?"))) := by
  have htuple : ∀ row ∈ c.insertedRows,
      tuple (row.map mark) = tuple (List.replicate c.firstRow.columns.length "?") := by
    intro row hrow
    rw [← h row hrow, ← List.map_const]
    rfl
  rw [writtenInsert, List.map_congr_left htuple, List.map_const']

end Clauses

namespace Query

/-- What an INSERT or REPLACE is compiled to, if it has a table and data. -/
theorem compile_of_inserts {c : Clauses} (members : List Query) (all : Bool)
    (hkind : c.kind = .insert ∨ c.kind = .replace) :
    compile ⟨c, members, all⟩ =
      (Trail.breaking (c.table = "") (.noTable c.kind) ++ c.insertTrail).outcome
        ⟨c.writtenInsert mark, c.insertedRows.flatten⟩ := by
  have hvalues : c.insertTrail.values = c.insertedRows.flatten := by
    rw [Clauses.insertTrail, Trail.values_append, Trail.values_breaking, Trail.values_map_ok,
      List.nil_append]
  rw [compile_eq, trail, written, Trail.values_append, Trail.values_breaking, List.nil_append]
  rcases hkind with hkind | hkind <;> simp only [hkind, hvalues]

/-- An INSERT or REPLACE with a table and data is compiled. -/
theorem compile_of_inserts_of_ne {c : Clauses} (members : List Query) (all : Bool)
    (hkind : c.kind = .insert ∨ c.kind = .replace) (htable : c.table ≠ "")
    (hdata : c.firstRow ≠ []) :
    compile ⟨c, members, all⟩ = .ok ⟨c.writtenInsert mark, c.insertedRows.flatten⟩ := by
  have hempty : c.firstRow.isEmpty = false := List.isEmpty_eq_false_iff.2 hdata
  have hfaults :
      (Trail.breaking (c.table = "") (.noTable c.kind) ++ c.insertTrail).faults = [] := by
    rw [Clauses.insertTrail, hempty, Trail.faults_append, Trail.faults_append,
      Trail.faults_breaking, Trail.faults_breaking, Trail.faults_map_ok, if_neg htable,
      if_neg Bool.false_ne_true]
    rfl
  rw [compile_of_inserts members all hkind, Trail.outcome_eq, hfaults]

end Query

end BoundSql
