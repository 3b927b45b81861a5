/-
  Which rows a pool takes, and what becomes of their values.

  The columns of a pool are not checked, and may repeat.

  * `Assignments.Covers`: entries name every column, and as many different
    columns as there are; it is these that are aligned (`exists_align?_iff`).
    Of distinct columns, entries cover just those that they name, and of columns
    that repeat they never cover those that they name (`covers_and_names_iff`);
  * `Assignments.lookup_zip_of_takeAll?`: a value is taken once, so a column that
    repeats is left with a null;
  * `RowPool.Regular`: what calls keep of any pool (`Regular.turn`,
    `Reached.regular`); `Regular.exists_insertion`: its rows are inserted, with
    each column once;
  * `RowPool.push_takes_covering`: which rows are taken, and what is bound of them.
-/
import BoundSql.Proofs.Batch
import BoundSql.Proofs.Conservation

namespace BoundSql

/-! ## Entries that are aligned -/

namespace Assignments

variable {columns : List String} {entries : List (String × Value)}

theorem columns_of_take? {name : String} {v : Value} {a b : Assignments}
    (h : a.take? name = some (v, b)) : b.columns = a.columns := by
  induction a generalizing b with
  | nil => cases h
  | cons e a ih =>
    obtain ⟨c, w⟩ := e
    rw [take?] at h
    split at h
    · obtain ⟨rfl, rfl⟩ := Prod.mk.inj (Option.some.inj h)
      rfl
    · obtain ⟨⟨w', b'⟩, htake, hb⟩ := Option.map_eq_some_iff.1 h
      obtain ⟨rfl, rfl⟩ := Prod.mk.inj hb
      exact congrArg (c :: ·) (ih htake)

/-- A value that is taken leaves a null. -/
theorem lookup_self_of_take? {name : String} {v : Value} {a b : Assignments}
    (h : a.take? name = some (v, b)) : b.lookup name = some .null := by
  induction a generalizing b with
  | nil => cases h
  | cons e a ih =>
    obtain ⟨c, w⟩ := e
    rw [take?] at h
    split at h
    · next hc =>
      obtain ⟨rfl, rfl⟩ := Prod.mk.inj (Option.some.inj h)
      rw [lookup_cons, if_pos hc.symm]
    · next hc =>
      obtain ⟨⟨w', b'⟩, htake, hb⟩ := Option.map_eq_some_iff.1 h
      obtain ⟨rfl, rfl⟩ := Prod.mk.inj hb
      rw [lookup_cons, if_neg (Ne.symm hc), ih htake]

theorem takeAll?_cons {c : String} {cs : List String} {a : Assignments} {row : List Value} :
    takeAll? (c :: cs) a = some row ↔
      ∃ v b vs, a.take? c = some (v, b) ∧ takeAll? cs b = some vs ∧ row = v :: vs := by
  rw [takeAll?]
  cases a.take? c with
  | none => simp
  | some taken =>
    obtain ⟨v, b⟩ := taken
    cases h : takeAll? cs b <;> simp [h, eq_comm]

/-- Columns can be taken if all of them are there, however often each is. -/
theorem exists_takeAll?_iff {a : Assignments} :
    (∃ row, takeAll? columns a = some row) ↔ ∀ c ∈ columns, c ∈ a.columns := by
  induction columns generalizing a with
  | nil => simp [takeAll?]
  | cons c cs ih =>
    simp only [takeAll?_cons, List.forall_mem_cons]
    constructor
    · rintro ⟨row, v, b, vs, htake, hrest, -⟩
      have hc : c ∈ a.columns := by
        rw [← lookup_ne_none_iff, Ne, ← take?_eq_none_iff, htake]
        exact Option.some_ne_none _
      exact ⟨hc, columns_of_take? htake ▸ ih.1 ⟨vs, hrest⟩⟩
    · rintro ⟨hc, hcs⟩
      have htaken : a.take? c ≠ none := by
        rw [Ne, take?_eq_none_iff]
        exact lookup_ne_none_iff.2 hc
      obtain ⟨⟨v, b⟩, htake⟩ := Option.ne_none_iff_exists'.1 htaken
      obtain ⟨vs, hrest⟩ := ih.2 (columns_of_take? htake ▸ hcs)
      exact ⟨v :: vs, v, b, vs, htake, hrest, rfl⟩

theorem length_of_takeAll? {a : Assignments} {row : List Value}
    (h : takeAll? columns a = some row) : row.length = columns.length := by
  induction columns generalizing a row with
  | nil =>
    cases h
    rfl
  | cons c cs ih =>
    obtain ⟨v, b, vs, -, hrest, rfl⟩ := takeAll?_cons.1 h
    rw [List.length_cons, List.length_cons, ih hrest]

theorem lookup_reverse_zip_eq_none {row : List Value} {name : String} (h : name ∉ columns) :
    (columns.zip row).reverse.lookup name = none := by
  rw [lookup_eq_none_iff, Assignments.columns, List.map_reverse, List.mem_reverse]
  intro hmem
  obtain ⟨⟨c, v⟩, hcv, rfl⟩ := List.mem_map.1 hmem
  exact h (List.of_mem_zip hcv).1

/-- The last place of a column has its value if it is the only one; otherwise
    the value has been taken for the first. -/
theorem lookup_zip_of_takeAll? {a : Assignments} {row : List Value}
    (h : takeAll? columns a = some row) {name : String} (hname : name ∈ columns) :
    (columns.zip row).reverse.lookup name =
      if columns.count name = 1 then a.lookup name else some .null := by
  induction columns generalizing a row with
  | nil => cases hname
  | cons c cs ih =>
    obtain ⟨v, b, vs, htake, hrest, rfl⟩ := takeAll?_cons.1 h
    obtain ⟨hv, hothers⟩ := lookup_of_take? htake
    rw [List.zip_cons_cons, List.reverse_cons, List.lookup_append, lookup_cons]
    by_cases hmem : name ∈ cs
    · have hlast := ih hrest hmem
      have hpos : 0 < cs.count name := List.count_pos_iff.2 hmem
      by_cases hc : name = c
      · subst hc
        have hrepeats : ¬ (name :: cs).count name = 1 := by
          rw [List.count_cons_self]
          omega
        rw [lookup_self_of_take? htake, ite_self] at hlast
        rw [hlast, Option.some_or, if_neg hrepeats]
      · rw [hothers name hc] at hlast
        rw [hlast, List.count_cons_of_ne (Ne.symm hc)]
        split
        · have hthere : name ∈ a.columns :=
            columns_of_take? htake ▸ exists_takeAll?_iff.1 ⟨vs, hrest⟩ name hmem
          obtain ⟨w, hw⟩ := Option.ne_none_iff_exists'.1 (lookup_ne_none_iff.2 hthere)
          rw [hw, Option.some_or]
        · rfl
    · obtain rfl : name = c := (List.mem_cons.1 hname).resolve_right hmem
      have honce : (name :: cs).count name = 1 := by
        rw [List.count_cons_self, List.count_eq_zero_of_not_mem hmem]
      rw [lookup_reverse_zip_eq_none hmem, Option.none_or, if_pos rfl, if_pos honce, hv]

/-- The entries name every column, and as many different columns as there are. -/
def Covers (columns : List String) (entries : List (String × Value)) : Prop :=
  (∀ c ∈ columns, c ∈ entries.map Prod.fst) ∧
    (entries.map Prod.fst).eraseDups.length = columns.length

instance : Decidable (Covers columns entries) := inferInstanceAs (Decidable (_ ∧ _))

/-- The entries that are aligned, with any columns, are those that cover them. -/
theorem exists_align?_iff :
    (∃ row, (ofEntries entries).align? columns = some row) ↔ Covers columns entries := by
  have hlength : (ofEntries entries).length = (entries.map Prod.fst).eraseDups.length := by
    rw [← columns_ofEntries, Assignments.columns, List.length_map]
  simp only [align?, Covers, hlength]
  split
  · next h => simp only [exists_takeAll?_iff, mem_columns_ofEntries, h, and_true]
  · next h => simp [h]

/-- Entries that cover the columns name no others just if the columns are
    distinct. -/
theorem covers_and_names_iff :
    Covers columns entries ∧ Names columns entries ↔ columns.Nodup ∧ Names columns entries := by
  have hnodup := nodup_columns_ofEntries entries
  refine and_congr_left fun hnames => ⟨fun hcovers => ?_, fun hc => ⟨fun c => (hnames c).2, ?_⟩⟩
  · have hsub : (ofEntries entries).columns ⊆ columns := fun c hc =>
      (hnames c).1 (mem_columns_ofEntries.1 hc)
    have hlength : columns.length ≤ (ofEntries entries).columns.length := by
      rw [columns_ofEntries, hcovers.2]
    exact ((List.subperm_of_subset hnodup hsub).perm_of_length_le hlength).nodup_iff.1 hnodup
  · rw [← columns_ofEntries]
    exact (hnames.perm hc).length_eq

/-- Of distinct columns, to cover them is to name them and no others. -/
theorem covers_iff_names (hc : columns.Nodup) : Covers columns entries ↔ Names columns entries := by
  rw [← not_iff_not, ← align?_ofEntries_eq_none_iff hc, ← exists_align?_iff, not_exists,
    Option.eq_none_iff_forall_ne_some]

end Assignments

/-- A call that succeeds is followed by the others. -/
theorem Edit.runStopping_cons {e : Edit} {es : List Edit} {q : Query}
    (h : (e.run q).1 = .ok ()) : runStopping (e :: es) q = runStopping es (e.run q).2 := by
  rw [runStopping]
  generalize e.run q = after at h
  obtain ⟨_ | _, q'⟩ := after
  · cases h
  · rfl

/-! ## Pools of any columns -/

namespace RowPool

open Assignments

variable {σ : Type} {conn : Connection σ} {p₀ p : RowPool}

/-- What calls keep of any pool. -/
structure Regular (p : RowPool) : Prop where
  table : p.table ≠ ""
  columns : p.columns ≠ []
  rows : ∀ row ∈ p.rows, row.length = p.columns.length

/-- Pools that calls make of one; its connection may be used in between. -/
inductive Reached (conn : Connection σ) (p₀ : RowPool) : RowPool → Prop
  | new : Reached conn p₀ p₀
  | turn {p : RowPool} (c : PoolCall) (s : Session σ) :
      Reached conn p₀ p → Reached conn p₀ (p.turn conn c s).nextPool

theorem regular_create {table : String} {columns : List String} {capacity : Nat}
    (h : create table columns capacity = .ok p) :
    p = ⟨table, columns, capacity, []⟩ ∧ p.Regular := by
  obtain ⟨htable, hcolumns, -, rfl⟩ := create_eq_ok_iff.1 h
  exact ⟨rfl, htable, hcolumns, List.forall_mem_nil _⟩

/-- A row is aligned if the entries cover the columns, and refused otherwise. -/
theorem align_cases (p : RowPool) (entries : List (String × Value)) :
    (¬ Covers p.columns entries ∧ p.align entries = .error (.poolRowMismatch p.columns)) ∨
    ∃ row, Covers p.columns entries ∧ takeAll? p.columns (ofEntries entries) = some row ∧
      p.align entries = .ok row := by
  rw [align, ← exists_align?_iff]
  cases hrow : (ofEntries entries).align? p.columns with
  | none => exact .inl ⟨by simp, rfl⟩
  | some row =>
    refine .inr ⟨row, ⟨row, rfl⟩, ?_, rfl⟩
    rw [align?] at hrow
    split at hrow
    · exact hrow
    · cases hrow

/-- Writing the rows keeps them or drops them. -/
theorem commit_keeps (conn : Connection σ) (p : RowPool) (s : Session σ) :
    (p.commit conn s).2.1 = p ∨ (p.commit conn s).2.1 = { p with rows := [] } := by
  rw [commit]
  split
  · exact .inl rfl
  · dsimp only
    split
    · exact .inr rfl
    · exact .inl rfl

theorem Regular.commit (conn : Connection σ) (h : p.Regular) (s : Session σ) :
    (p.commit conn s).2.1.Regular ∧
      (p.commit conn s).2.1 = { p with rows := (p.commit conn s).2.1.rows } := by
  rcases p.commit_keeps conn s with hp | hp
  · rw [hp]
    exact ⟨h, rfl⟩
  · rw [hp]
    exact ⟨⟨h.table, h.columns, List.forall_mem_nil _⟩, rfl⟩

theorem Regular.hold (h : p.Regular) {row : List Value} (hrow : row.length = p.columns.length) :
    Regular { p with rows := p.rows ++ [row] } where
  table := h.table
  columns := h.columns
  rows := List.forall_mem_append.2 ⟨h.rows, List.forall_mem_singleton.2 hrow⟩

/-- A call keeps a pool regular, and changes nothing of it but its rows. -/
theorem Regular.turn (conn : Connection σ) (h : p.Regular) (c : PoolCall) (s : Session σ) :
    (p.turn conn c s).nextPool.Regular ∧
      (p.turn conn c s).nextPool = { p with rows := (p.turn conn c s).nextPool.rows } := by
  obtain ⟨hregular, hsame⟩ := h.commit conn s
  cases c with
  | commit => exact ⟨hregular, hsame⟩
  | push entries =>
    rw [RowPool.turn, push]
    rcases p.align_cases entries with ⟨-, halign⟩ | ⟨row, -, htake, halign⟩
    · rw [halign]
      exact ⟨h, rfl⟩
    · have hrow := length_of_takeAll? htake
      rw [halign]
      dsimp only
      split
      · exact ⟨h.hold hrow, rfl⟩
      · generalize p.commit conn s = flushed at hregular hsame
        obtain ⟨result, q, u⟩ := flushed
        dsimp only at hregular hsame
        have hcolumns : q.columns = p.columns := by rw [hsame]
        cases result with
        | ok affected =>
          refine ⟨hregular.hold (hrow.trans (congrArg _ hcolumns.symm)), ?_⟩
          show { q with rows := q.rows ++ [row] } = { p with rows := q.rows ++ [row] }
          rw [hsame]
        | error e => exact ⟨hregular, hsame⟩

/-- Calls in any number keep it as well. -/
theorem Reached.regular (hreached : Reached conn p₀ p) (h : p₀.Regular) :
    p.Regular ∧ p = { p₀ with rows := p.rows } := by
  induction hreached with
  | new => exact ⟨h, rfl⟩
  | turn c s _ ih =>
    obtain ⟨hregular, hsame⟩ := ih
    obtain ⟨hnext, hrows⟩ := hregular.turn conn c s
    refine ⟨hnext, ?_⟩
    rw [hrows, hsame]

/-- The rows that a pool holds are inserted, with each column once. -/
theorem Regular.exists_insertion (h : p.Regular) (hrows : p.rows ≠ []) :
    ∃ q t, p.insertion = .ok q ∧ q.compile = .ok t ∧
      t.Inserts "INSERT" p.table p.columns.eraseDups
        (p.rows.map fun row => p.columns.zip row) := by
  obtain ⟨row, rows, hcons⟩ := List.exists_cons_of_ne_nil hrows
  have hnamed : ∀ r ∈ p.rows, (p.columns.zip r).map Prod.fst = p.columns :=
    fun r hr => columns_zip (h.rows r hr)
  rw [insertion]
  rw [hcons] at hnamed ⊢
  have hfirst := hnamed row List.mem_cons_self
  have hnames : ∀ r ∈ (row :: rows).map (p.columns.zip ·),
      Names ((p.columns.zip row).map Prod.fst) r := by
    intro r hr c
    obtain ⟨values, hvalues, rfl⟩ := List.mem_map.1 hr
    rw [hfirst, hnamed values hvalues]
  have hdata : ((p.columns.zip row).map Prod.fst).eraseDups ≠ [] := by
    obtain ⟨c, hc⟩ := List.exists_mem_of_ne_nil p.columns h.columns
    rw [hfirst]
    exact List.ne_nil_of_mem (List.mem_eraseDups.2 hc)
  have hstarted : ((Edit.insert p.table).run .fresh).1 = .ok () := rfl
  have hok := (Edit.run_valuesMany_eq_ok_iff (q := ((Edit.insert p.table).run .fresh).2)).2 hnames
  obtain ⟨t, ht, hinserts⟩ := Edit.compile_run_valuesMany hok (.inl rfl) h.table hdata
  rw [hfirst] at hinserts
  refine ⟨_, t, ?_, ht, hinserts⟩
  rw [List.map_cons, Query.ofEdits, Edit.runStopping_cons hstarted, Edit.runStopping_cons hok,
    Edit.runStopping]

/-- **A pool takes the rows that cover its columns.**  A pool that calls make of
    a new one, if it has room, takes a row if its entries cover the columns, and
    otherwise refuses it and stays as it is.  Of a row that is taken, the INSERT
    binds the value that is given last to each column that does not repeat, and
    a null for each that does.  If no column repeats, the rows that are taken are
    those that name the columns; if one does, none of these is taken. -/
theorem push_takes_covering {table : String} {columns : List String} {capacity : Nat}
    (hnew : create table columns capacity = .ok p₀) (hreached : Reached conn p₀ p)
    (hroom : p.size < p.capacity) (entries : List (String × Value)) (s : Session σ) :
    (¬ Covers columns entries →
      p.push conn entries s = (.error (.config (.poolRowMismatch columns)), p, s)) ∧
    (Covers columns entries → ∃ row q t,
      p.push conn entries s = (.ok (), { p with rows := p.rows ++ [row] }, s) ∧
      RowPool.insertion { p with rows := p.rows ++ [row] } = .ok q ∧ q.compile = .ok t ∧
      t.Inserts "INSERT" table columns.eraseDups
        ((p.rows ++ [row]).map fun row => columns.zip row) ∧
      ∀ j (hj : j < columns.eraseDups.length),
        t.bindings[p.size * columns.eraseDups.length + j]? =
          if columns.count columns.eraseDups[j] = 1 then
            entries.reverse.lookup columns.eraseDups[j]
          else some .null) ∧
    (columns.Nodup → (Covers columns entries ↔ Names columns entries)) ∧
    (¬ columns.Nodup → Names columns entries → ¬ Covers columns entries) := by
  obtain ⟨rfl, hempty⟩ := regular_create hnew
  obtain ⟨hregular, hsame⟩ := hreached.regular hempty
  obtain rfl : table = p.table := by rw [hsame]
  obtain rfl : columns = p.columns := by rw [hsame]
  refine ⟨fun hcovers => ?_, fun hcovers => ?_, covers_iff_names, fun hdup hnames hcovers => ?_⟩
  · rcases p.align_cases entries with ⟨-, halign⟩ | ⟨row, hrow, -⟩
    · rw [push, halign]
    · exact absurd hrow hcovers
  · rcases p.align_cases entries with ⟨hrow, -⟩ | ⟨row, -, htake, halign⟩
    · exact absurd hcovers hrow
    · have hheld := hregular.hold (length_of_takeAll? htake)
      obtain ⟨q, t, hq, ht, hinserts⟩ := hheld.exists_insertion (by simp)
      have hpush : p.push conn entries s = (.ok (), { p with rows := p.rows ++ [row] }, s) := by
        rw [push, halign]
        exact if_pos hroom
      refine ⟨row, q, t, hpush, hq, ht, hinserts, fun j hj => ?_⟩
      have hmem : p.columns.eraseDups[j] ∈ p.columns := List.mem_eraseDups.1 (List.getElem_mem hj)
      have hlast : p.size < ((p.rows ++ [row]).map fun row => p.columns.zip row).length := by
        simp [size]
      have hcell := hinserts.cell p.size j hlast hj
      simp only [size, List.getElem_map, List.getElem_concat_length] at hcell
      rw [size, hcell, lookup_zip_of_takeAll? htake hmem, lookup_ofEntries]
  · exact hdup (covers_and_names_iff.1 ⟨hcovers, hnames⟩).1

/-- A column repeats; the pool holds a row already. -/
theorem push_takes_covering_repeated :
    let p₀ : RowPool := ⟨"t", ["a", "b", "a"], 2, []⟩
    let first : List (String × Value) := [("a", .int 1), ("b", .int 2), ("c", .int 3)]
    let second : List (String × Value) :=
      [("x", .int 4), ("b", .int 0), ("a", .int 6), ("b", .int 5)]
    let s : Session Scripted := { state := { script := {} } }
    let p := (p₀.turn scripted (.push first) s).nextPool
    create "t" ["a", "b", "a"] 2 = .ok p₀ ∧ Reached scripted p₀ p ∧ p.size < p.capacity ∧
      (∃ row q t, p.push scripted second s = (.ok (), { p with rows := p.rows ++ [row] }, s) ∧
        RowPool.insertion { p with rows := p.rows ++ [row] } = .ok q ∧ q.compile = .ok t ∧
        t.bindings[2]? = some .null ∧ t.bindings[3]? = some (.int 5)) ∧
      p.push scripted [("a", .int 4), ("b", .int 5)] s =
        (.error (.config (.poolRowMismatch ["a", "b", "a"])), p, s) := by
  intro p₀ first second s p
  have hnew : create "t" ["a", "b", "a"] 2 = .ok p₀ := rfl
  have hreached : Reached scripted p₀ p := .turn _ _ .new
  have hroom : p.size < p.capacity := by decide +kernel
  obtain ⟨-, htaken, -, -⟩ := push_takes_covering hnew hreached hroom second s
  obtain ⟨hrefused, -, -, -⟩ :=
    push_takes_covering hnew hreached hroom [("a", .int 4), ("b", .int 5)] s
  obtain ⟨row, q, t, hpush, hq, ht, -, hcells⟩ := htaken (by decide)
  refine ⟨hnew, hreached, hroom, ⟨row, q, t, hpush, hq, ht, ?_, ?_⟩, hrefused (by decide)⟩
  · exact hcells 0 (by decide)
  · exact hcells 1 (by decide)

/-- A pool whose column repeats takes a row that names another one, and binds a
    null in place of the value; a row that names its columns is refused. -/
theorem pushed_value_replaced_by_null :
    let p : RowPool := ⟨"t", ["a", "a"], 2, []⟩
    let s : Session Scripted := { state := { script := {} } }
    create "t" ["a", "a"] 2 = .ok p ∧
      p.push scripted [("a", .int 1), ("b", .int 2)] s =
        (.ok (), { p with rows := [[.int 1, .null]] }, s) ∧
      ¬ Names ["a", "a"] [("a", .int 1), ("b", .int 2)] ∧
      (∃ q, RowPool.insertion { p with rows := [[.int 1, .null]] } = .ok q ∧
        q.compile = .ok ⟨"INSERT INTO t (a) VALUES (?)", [.null]⟩) ∧
      Names ["a", "a"] [("a", .int 1)] ∧
      p.push scripted [("a", .int 1)] s =
        (.error (.config (.poolRowMismatch ["a", "a"])), p, s) := by
  intro p s
  refine ⟨rfl, rfl, fun hnames => ?_, ⟨_, rfl, rfl⟩, fun c => by simp, rfl⟩
  simpa using hnames "b"

end RowPool

end BoundSql
