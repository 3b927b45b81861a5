/-
  What an UPDATE sets.

  * `Edit.assigned` and `Edit.filterEdit?` are what a call gives an UPDATE;
    `Edit.runAll_updating`: of calls that give something, however it is split
    among them, only the assignments and the calls on the filter count;
  * `Filter.EndsWith`: the end of a statement with the conditions of a filter;
  * `Edit.assignments_merge`: an UPDATE names every column once, in the order in
    which they are first assigned, with the value that is assigned last.
-/
import BoundSql.Proofs.Batch
import BoundSql.Proofs.Defect
import BoundSql.Proofs.Locality

namespace BoundSql

open Render (mark)

/-! ## Calls on an UPDATE -/

theorem Assignments.setAll_append (a : Assignments) (entries others : List (String × Value)) :
    a.setAll (entries ++ others) = (a.setAll entries).setAll others :=
  List.foldl_append

theorem FilterEdit.runSkipping_append (edits others : List FilterEdit) (f : Filter) :
    runSkipping (edits ++ others) f = runSkipping others (runSkipping edits f) := by
  induction edits generalizing f with
  | nil => rw [List.nil_append, runSkipping]
  | cons e es ih => rw [List.cons_append, runSkipping, runSkipping, ih]

namespace Edit

/-- The assignments that a call makes to an UPDATE. -/
def assigned : Edit → List (String × Value)
  | .set column v => [(column, v)]
  | .setMany entries | .data entries => entries
  | _ => []

/-- The call on the filter that a call is. -/
def filterEdit? : Edit → Option FilterEdit
  | .filter e => some e
  | _ => none

/-- Whether a call makes assignments to an UPDATE, or is about its conditions. -/
def isUpdating : Edit → Bool
  | .set .. | .setMany _ | .data _ | .filter _ => true
  | _ => false

/-- The clauses with assignments made and the filter changed. -/
def updated (entries : List (String × Value)) (edits : List FilterEdit) (c : Clauses) : Clauses :=
  { c with sets := c.sets.setAll entries, filter := FilterEdit.runSkipping edits c.filter }

theorem run_updating {e : Edit} (he : e.isUpdating = true) {q : Query} (hq : q.kind = .update) :
    (e.run q).2 = q.modify (updated e.assigned e.filterEdit?.toList) := by
  cases e with
  | set | setMany =>
    rw [run]
    rfl
  | data entries =>
    have hkind : q.clauses.kind = .update := hq
    rw [run, tryChange, Clauses.assignData, hkind]
    rfl
  | filter e =>
    rw [run]
    rfl
  | _ => cases he

/-- Only what is assigned, and what becomes of the filter, counts. -/
theorem runAll_updating {edits : List Edit} (h : ∀ e ∈ edits, e.isUpdating = true) {q : Query}
    (hq : q.kind = .update) :
    runAll edits q = q.modify (updated (edits.flatMap assigned) (edits.filterMap filterEdit?)) := by
  induction edits generalizing q with
  | nil =>
    have hsame : updated [] [] q.clauses = q.clauses := by
      rw [updated, FilterEdit.runSkipping]
      rfl
    cases q
    exact congrArg (fun c => (⟨c, _, _⟩ : Query)) hsame.symm
  | cons e es ih =>
    obtain ⟨he, hes⟩ := List.forall_mem_cons.1 h
    have hnext : (q.modify (updated e.assigned e.filterEdit?.toList)).kind = .update := hq
    have hcalls : (e :: es).filterMap filterEdit? =
        e.filterEdit?.toList ++ es.filterMap filterEdit? := by
      cases hcall : e.filterEdit? <;> simp [hcall]
    rw [runAll, run_updating he hq, ih hes hnext, List.flatMap_cons, hcalls]
    simp only [Query.modify, updated, Assignments.setAll_append, FilterEdit.runSkipping_append]

end Edit

/-! ## The statement -/

/-- The end of a statement with the conditions of a filter: nothing without
    conditions, and otherwise what the filter is written as. -/
inductive Filter.EndsWith (f : Filter) : Statement → Prop
  | nothing : f = [] → EndsWith f ⟨"", []⟩
  | conditions {t : Statement} : f ≠ [] → f.render.finish = .ok t →
      EndsWith f ⟨" WHERE " ++ t.sql, t.bindings⟩

theorem Filter.faults_trail_eq_nil_iff {f : Filter} : f.trail.faults = [] ↔ ¬ f.Bad := by
  rw [faults_trail, ← defects_ne_nil_iff, not_not]

theorem Filter.endsWith_of_not_bad {f : Filter} (h : ¬ f.Bad) :
    f.EndsWith ⟨f.clauseText mark, f.trail.values⟩ := by
  by_cases hempty : f = []
  · subst hempty
    exact .nothing rfl
  · have hfinish : f.render.finish = .ok ⟨f.written mark, f.trail.values⟩ :=
      (Render.finish_eq_ok_iff f.render_follows).2 ⟨faults_trail_eq_nil_iff.2 h, rfl⟩
    have htext : f.clauseText mark = " WHERE " ++ f.written mark := by
      have hne : f.isEmpty = false := List.isEmpty_eq_false_iff.2 hempty
      rw [clauseText, hne]
      rfl
    rw [htext]
    exact .conditions hempty hfinish

/-- The statement sets distinct columns: it names them in order, each with a
    placeholder, and binds to each the value that entries give it last; then
    come the conditions and their values. -/
structure Statement.Sets (table : String) (columns : List String)
    (entries : List (String × Value)) (f : Filter) (s : Statement) : Prop where
  nodup : columns.Nodup
  parts : ∃ row t, Assignments.Spells columns entries row ∧ f.EndsWith t ∧
    s = ⟨"UPDATE " ++ table ++ " SET " ++ ", ".intercalate (columns.map (· ++ " = ?")) ++ t.sql,
      row ++ t.bindings⟩

/-- An UPDATE with a table, assignments and conditions that are not bad. -/
theorem Query.compile_of_update {c : Clauses} (members : List Query) (all : Bool)
    (hkind : c.kind = .update) (htable : c.table ≠ "") (hsets : c.sets ≠ [])
    (hfilter : ¬ c.filter.Bad) :
    compile ⟨c, members, all⟩ =
      .ok ⟨"UPDATE " ++ c.table ++ " SET " ++ ", ".intercalate (c.sets.columns.map (· ++ " = ?")) ++
        c.filter.clauseText mark, c.sets.map Prod.snd ++ c.filter.trail.values⟩ := by
  have hempty : c.sets.isEmpty = false := List.isEmpty_eq_false_iff.2 hsets
  have hfaults : c.filter.trail.faults = [] := Filter.faults_trail_eq_nil_iff.2 hfilter
  have hmarks : c.sets.map (Clauses.writtenSet mark) = c.sets.columns.map (· ++ " = ?") := by
    rw [Assignments.columns, List.map_map]
    refine List.map_congr_left fun e _ => ?_
    rw [Clauses.writtenSet, String.append_assoc]
    rfl
  rw [compile_eq_ok_iff, trail, statement, written, trail]
  simp only [hkind, Clauses.updateTrail, Clauses.writtenUpdate, Trail.faults_append,
    Trail.faults_breaking, Trail.faults_map_ok, if_neg htable, hempty, hfaults, hmarks,
    Filter.intercalate_writtenClause, Trail.values_append, Trail.values_breaking,
    Trail.values_map_ok]
  exact ⟨rfl, rfl⟩

namespace Edit

/-- **Assignments are merged.**  Let calls on a fresh UPDATE of a table make at
    least one assignment, and leave conditions that can be written.  However the
    assignments are split among the calls, and wherever the calls on the
    conditions stand between them, the statement names every column that is
    assigned once, in the order in which the columns are first assigned, with the
    value that is assigned last; the values of the conditions follow.  So calls
    that make the same assignments in turn, and the same conditions, compile to
    the same statement. -/
theorem assignments_merge {table : String} {edits : List Edit} (htable : table ≠ "")
    (hedits : ∀ e ∈ edits, e.isUpdating = true) (hassigned : edits.flatMap assigned ≠ [])
    (hfilter : ¬ (Filter.ofEdits (edits.filterMap filterEdit?)).Bad) :
    let entries := edits.flatMap assigned
    let f := Filter.ofEdits (edits.filterMap filterEdit?)
    ∃ s, (runAll (.update table :: edits) .fresh).compile = .ok s ∧
      s.Sets table (entries.map Prod.fst).eraseDups entries f ∧
      ∀ edits' : List Edit, (∀ e ∈ edits', e.isUpdating = true) →
        edits'.flatMap assigned = entries → Filter.ofEdits (edits'.filterMap filterEdit?) = f →
        (runAll (.update table :: edits') .fresh).compile = .ok s := by
  intro entries f
  let c : Clauses :=
    { kind := .update, table := table, sets := .ofEntries entries, filter := f }
  have hquery (edits' : List Edit) (hedits' : ∀ e ∈ edits', e.isUpdating = true)
      (hassigned' : edits'.flatMap assigned = entries)
      (hfilter' : Filter.ofEdits (edits'.filterMap filterEdit?) = f) :
      runAll (.update table :: edits') .fresh = ⟨c, [], false⟩ := by
    rw [runAll, run, runAll_updating hedits' rfl, hassigned']
    simp only [c, ← hfilter']
    rfl
  have hsets : Assignments.ofEntries entries ≠ [] := by
    obtain ⟨e, he⟩ := List.exists_mem_of_ne_nil _ hassigned
    have hmem : e.1 ∈ (Assignments.ofEntries entries).columns :=
      Assignments.mem_columns_ofEntries.2 (List.mem_map_of_mem he)
    intro hnil
    rw [hnil] at hmem
    cases hmem
  have hcompile := Query.compile_of_update (c := c) [] false rfl htable hsets hfilter
  refine ⟨_, by rw [hquery edits hedits rfl rfl, hcompile], ?_, fun edits' h h' h'' => ?_⟩
  · rw [← Assignments.columns_ofEntries]
    exact ⟨Assignments.nodup_columns_ofEntries entries, _, _, Assignments.spells_ofEntries entries,
      Filter.endsWith_of_not_bad hfilter, rfl⟩
  · rw [hquery edits' h h' h'', hcompile]

/-- Assignments of four columns by three kinds of call, two of them repeated,
    about a condition and a group; and the same by one call. -/
theorem assignments_merge_split :
    let condition : Edit := .filter (.add .and (.equals "id" (.int 7)))
    let group : Edit := .filter (.nested .or [.add .and (.equals "k" (.int 8))])
    let edits : List Edit :=
      [.set "a" (.int 1), condition, .setMany [("b", .int 2), ("a", .null), ("c", .int 3)],
        .data [("d", .text "x"), ("b", .int 4)], group]
    let edits' : List Edit := [condition, group, .setMany (edits.flatMap assigned)]
    ("t" : String) ≠ "" ∧ (∀ e ∈ edits, e.isUpdating = true) ∧ edits.flatMap assigned ≠ [] ∧
      ∃ s, (runAll (.update "t" :: edits) .fresh).compile = .ok s ∧
        s.Sets "t" ["a", "b", "c", "d"] (edits.flatMap assigned)
          (Filter.ofEdits [.add .and (.equals "id" (.int 7)),
            .nested .or [.add .and (.equals "k" (.int 8))]]) ∧
        (runAll (.update "t" :: edits') .fresh).compile = .ok s ∧
        s = ⟨"UPDATE t SET a = ?, b = ?, c = ?, d = ? WHERE id = ? OR (k = ?)",
          [.null, .int 4, .int 3, .text "x", .int 7, .int 8]⟩ := by
  intro condition group edits edits'
  have htable : ("t" : String) ≠ "" := by decide
  have hedits : ∀ e ∈ edits, e.isUpdating = true := by decide
  have hassigned : edits.flatMap assigned ≠ [] := List.cons_ne_nil _ _
  have hfilter : ¬ (Filter.ofEdits (edits.filterMap filterEdit?)).Bad := by
    rw [← Filter.defects_ne_nil_iff]
    exact not_not.2 rfl
  obtain ⟨s, hs, hsets, hsplit⟩ := assignments_merge htable hedits hassigned hfilter
  refine ⟨htable, hedits, hassigned, s, hs, hsets, hsplit edits' (by decide) ?_ rfl, ?_⟩
  · exact List.append_nil _
  · exact (Except.ok.inj hs).symm

end Edit

end BoundSql
