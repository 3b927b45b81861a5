/-
  Placeholders and bound values correspond.

  * `Query.Balanced`: no text of the caller holds a placeholder, apart from
    raw conditions, which hold one for each of their values;
  * `Query.fills`: the values along the trail of such a query are as many as
    the placeholders of its text, and put in their place, in order, they give
    the text written with these values;
  * `fill_compile`: so it is with the statement that the query is compiled to.
-/
import BoundSql.Proofs.Written

namespace BoundSql

open Placeholder Render

/-! ## Balanced queries -/

/-- The texts of a condition hold placeholders for its values only. -/
inductive Condition.Balanced : Condition → Prop
  | compare {column op v} : Free column → Free op → Balanced (.compare column op v)
  | raw {sql bindings} : count sql = bindings.length → Balanced (.raw sql bindings)
  | nullTest {column negated} : Free column → Balanced (.nullTest column negated)
  | member {column values negated} : Free column → Balanced (.member column values negated)
  | between {column low high negated} : Free column → Balanced (.between column low high negated)
  | group {nodes} : (∀ n ∈ nodes, Balanced n.2) → Balanced (.group nodes)

/-- The texts of clauses hold placeholders in raw conditions only. -/
structure Clauses.Balanced (c : Clauses) : Prop where
  columns : ∀ s ∈ c.columns, Free s
  table : Free c.table
  tableAlias : ∀ s ∈ c.tableAlias, Free s
  joins : ∀ j ∈ c.joins,
    Free j.table ∧ ∀ on ∈ j.on, Free on.left ∧ Free on.op ∧ Free on.right
  filter : ∀ n ∈ c.filter, n.2.Balanced
  sets : ∀ s ∈ c.sets.columns, Free s
  firstRow : ∀ s ∈ c.firstRow.columns, Free s
  orderBy : ∀ o ∈ c.orderBy, Free o.column
  groupBy : ∀ s ∈ c.groupBy, Free s
  having : ∀ h ∈ c.having, Free h.column ∧ Free h.op

/-- The texts of a query and its members hold placeholders in raw conditions
    only. -/
inductive Query.Balanced : Query → Prop
  | mk {c members all} : c.Balanced → (∀ q ∈ members, Balanced q) → Balanced ⟨c, members, all⟩

/-! ## Texts without placeholders -/

namespace Placeholder

@[simp] theorem free_append {s t : String} : Free (s ++ t) ↔ Free s ∧ Free t := by
  simp [Free, not_or]

theorem free_intercalate (sep : String) (hsep : Free sep) {ss : List String}
    (h : ∀ s ∈ ss, Free s) : Free (sep.intercalate ss) :=
  List.count_eq_zero.1 (FillsEach.intercalate sep hsep (.free h)).count_eq

/-- A number is written in digits. -/
theorem free_toString (n : Nat) : Free (toString n) := by
  intro h
  rw [Nat.toString_eq_repr, Nat.toList_repr] at h
  exact absurd (Nat.isDigit_of_mem_toDigits (by decide) (by decide) h) (by decide)

theorem free_tuple {ss : List String} (h : ∀ s ∈ ss, Free s) : Free (tuple ss) := by
  rw [tuple, free_append, free_append]
  exact ⟨⟨by decide, free_intercalate ", " (by decide) h⟩, by decide⟩

theorem FillsEach.tuple {ss ts rs : List String} (h : FillsEach ss ts rs) :
    Fills (tuple ss) ts (tuple rs) :=
  ((h.intercalate ", " (by decide)).free_append (by decide)).append_free (by decide)

/-- The placeholders of values are filled by the texts of the values. -/
theorem FillsEach.values (lit : Value → String) (vs : List Value) :
    FillsEach (vs.map mark) (vs.map lit) (vs.map lit) :=
  .mapOne fun v _ => .one (lit v)

end Placeholder

/-! ## Conditions -/

namespace Condition

theorem free_negation (negated : Bool) : Free (negation negated) := by
  cases negated <;> decide

theorem free_sql (link : Link) : Free link.sql := by
  cases link <;> decide

variable (lit : Value → String)

theorem fills_joinLinked {nodes : List (Link × Condition)}
    (h : ∀ n ∈ nodes, Fills (n.2.written mark) (n.2.trail.values.map lit) (n.2.written lit)) :
    Fills (joinLinked (writtenNodes mark nodes)) ((trailNodes nodes).values.map lit)
      (joinLinked (writtenNodes lit nodes)) := by
  rw [trailNodes_eq_flatMap, writtenNodes_eq_map, writtenNodes_eq_map]
  cases nodes with
  | nil => exact .free (by decide)
  | cons n ns =>
    rw [List.forall_mem_cons] at h
    have hrest : FillsEach (ns.map fun n => " " ++ n.1.sql ++ " " ++ n.2.written mark)
        (ns.flatMap fun n => n.2.trail.values.map lit)
        (ns.map fun n => " " ++ n.1.sql ++ " " ++ n.2.written lit) :=
      .map fun n hn => (h.2 n hn).free_append (by simp +decide [free_sql])
    rw [List.flatMap_cons, Trail.values_append, List.map_append, Trail.values_flatMap,
      List.map_flatMap, List.map_cons, List.map_cons, joinLinked, joinLinked, List.map_map,
      List.map_map]
    exact h.1.append hrest.join

/-- The placeholders of a condition are filled by its values. -/
theorem fills {c : Condition} (hc : c.Balanced) :
    Fills (c.written mark) (c.trail.values.map lit) (c.written lit) := by
  induction hc with
  | compare hcolumn hop =>
    rw [written, written]
    exact (Fills.one _).free_append (by simp +decide [hcolumn, hop])
  | @raw sql bindings hcount =>
    rw [written_mark_raw, written, trail, Trail.values_map_ok]
    exact ⟨by rw [hcount, List.length_map], rfl⟩
  | nullTest hcolumn =>
    rw [written, written]
    exact .free (by simp +decide [hcolumn, free_negation])
  | member hcolumn =>
    rw [written, written, trail, Trail.values_append, Trail.values_breaking, Trail.values_map_ok]
    exact (FillsEach.values lit _).tuple.free_append (by simp +decide [hcolumn, free_negation])
  | @between column low high negated hcolumn =>
    have htest : Free (column ++ " " ++ negation negated ++ "BETWEEN ") := by
      simp +decide [hcolumn, free_negation]
    rw [written, written]
    exact (((Fills.one (lit low)).free_append htest).append_free (by decide)).append
      (.one (lit high))
  | group _ ih =>
    rw [written, written, trail, Trail.values_append, Trail.values_breaking]
    exact ((fills_joinLinked lit ih).free_append (by decide)).append_free (by decide)

end Condition

namespace Filter

theorem fillsEach_clause (lit : Value → String) {f : Filter} (hf : ∀ n ∈ f, n.2.Balanced) :
    FillsEach (f.writtenClause mark) (f.trail.values.map lit) (f.writtenClause lit) := by
  have hwritten : Fills (f.written mark) (f.trail.values.map lit) (f.written lit) :=
    Condition.fills_joinLinked lit fun n hn => Condition.fills lit (hf n hn)
  unfold writtenClause
  split
  · next h =>
    obtain rfl : f = [] := List.isEmpty_iff.1 h
    exact .nil
  · exact .singleton (hwritten.free_append (by decide))

end Filter

/-! ## Clauses -/

theorem Join.free_sql {j : Join} (ht : Free j.table)
    (hon : ∀ on ∈ j.on, Free on.left ∧ Free on.op ∧ Free on.right) : Free j.sql := by
  have hkind : Free j.kind.sql := by cases j.kind <;> decide
  unfold Join.sql
  split
  · simp +decide [hkind, ht]
  · simp +decide [hkind, ht]
  · next on hjoin _ =>
    obtain ⟨hl, ho, hr⟩ := hon on hjoin
    simp +decide [hkind, ht, hl, ho, hr]

theorem OrderTerm.free_sql {o : OrderTerm} (h : Free o.column) : Free o.sql := by
  have hdirection : Free o.direction.sql := by cases o.direction <;> decide
  simp +decide [OrderTerm.sql, h, hdirection]

namespace Clauses

theorem free_listClause {keyword : String} (hk : Free keyword) {items : List String}
    (h : ∀ s ∈ items, Free s) : ∀ s ∈ listClause keyword items, Free s := by
  unfold listClause
  split
  · exact List.forall_mem_nil _
  · rw [List.forall_mem_singleton, free_append, free_append]
    exact ⟨⟨hk, by decide⟩, free_intercalate ", " (by decide) h⟩

theorem free_optionClause {keyword : String} (hk : Free keyword) {item : Option String}
    (h : ∀ s ∈ item, Free s) : ∀ s ∈ optionClause keyword item, Free s := by
  cases item with
  | none => exact List.forall_mem_nil _
  | some s =>
    refine List.forall_mem_singleton.2 ?_
    rw [free_append, free_append]
    exact ⟨⟨hk, by decide⟩, h s rfl⟩

variable {c : Clauses}

theorem free_selectHead (hc : c.Balanced) : ∀ s ∈ c.selectHead, Free s := by
  have hdistinct : ∀ s ∈ (if c.distinct then ["DISTINCT"] else []), Free s := by
    split <;> decide
  have hcolumns : Free (", ".intercalate c.columns) := free_intercalate ", " (by decide) hc.columns
  have htable : Free ("FROM " ++ c.table) := free_append.2 ⟨by decide, hc.table⟩
  have hsource : ∀ s ∈ [", ".intercalate c.columns, "FROM " ++ c.table], Free s :=
    List.forall_mem_cons.2 ⟨hcolumns, List.forall_mem_singleton.2 htable⟩
  have hjoins : ∀ s ∈ c.joins.map Join.sql, Free s := by
    rw [List.forall_mem_map]
    exact fun j hj => Join.free_sql (hc.joins j hj).1 (hc.joins j hj).2
  rw [selectHead, List.forall_mem_cons, List.forall_mem_append, List.forall_mem_append,
    List.forall_mem_append]
  exact ⟨by decide, ⟨⟨hdistinct, hsource⟩, free_optionClause (by decide) hc.tableAlias⟩, hjoins⟩

theorem free_selectTail (hc : c.Balanced) : ∀ s ∈ c.selectTail, Free s := by
  have horder : ∀ s ∈ c.orderBy.map OrderTerm.sql, Free s := by
    rw [List.forall_mem_map]
    exact fun o ho => OrderTerm.free_sql (hc.orderBy o ho)
  have hnumber (n : Option Nat) : ∀ s ∈ n.map toString, Free s := by
    intro s hs
    obtain ⟨k, -, rfl⟩ := Option.map_eq_some_iff.1 hs
    exact free_toString k
  rw [selectTail, List.forall_mem_append, List.forall_mem_append]
  exact ⟨⟨free_listClause (by decide) horder, free_optionClause (by decide) (hnumber _)⟩,
    free_optionClause (by decide) (hnumber _)⟩

variable (lit : Value → String)

theorem fillsEach_having (hc : c.Balanced) :
    FillsEach (c.writtenHaving mark) ((c.having.toList.map Having.value).map lit)
      (c.writtenHaving lit) := by
  unfold writtenHaving
  cases hh : c.having with
  | none => exact .nil
  | some h =>
    obtain ⟨hcolumn, hop⟩ := hc.having h hh
    have htest : Free (h.column ++ " " ++ h.op ++ " ") := by simp +decide [hcolumn, hop]
    exact .singleton (((Fills.one _).free_append htest).free_append (by decide))

theorem fillsEach_select (hc : c.Balanced) :
    FillsEach (c.writtenSelect mark) (c.selectTrail.values.map lit) (c.writtenSelect lit) := by
  have hhead := FillsEach.free (free_selectHead hc)
  have hfilter := Filter.fillsEach_clause lit hc.filter
  have hgroup : FillsEach (listClause "GROUP BY" c.groupBy) [] (listClause "GROUP BY" c.groupBy) :=
    .free (free_listClause (by decide) hc.groupBy)
  have hhaving := fillsEach_having lit hc
  have htail := FillsEach.free (free_selectTail hc)
  have hall := (((hhead.append hfilter).append hgroup).append hhaving).append htail
  simpa only [writtenSelect, selectTrail, Trail.values_append, Trail.values_map_ok, List.map_append,
    List.nil_append, List.append_nil] using hall

theorem fills_insert (hc : c.Balanced) :
    Fills (c.writtenInsert mark) (c.insertTrail.values.map lit) (c.writtenInsert lit) := by
  have hverb : Free c.insertVerb := by
    unfold insertVerb
    split <;> decide
  have hhead : Free (c.insertVerb ++ " INTO " ++ c.table ++ " " ++ tuple c.firstRow.columns ++
      " VALUES ") := by
    simp +decide [hverb, hc.table, free_tuple hc.firstRow]
  have hrows : FillsEach (c.insertedRows.map fun row => tuple (row.map mark))
      (c.insertedRows.flatMap fun row => row.map lit)
      (c.insertedRows.map fun row => tuple (row.map lit)) :=
    .map fun row _ => (FillsEach.values lit row).tuple
  rw [insertTrail, Trail.values_append, Trail.values_breaking, Trail.values_map_ok,
    List.nil_append, List.map_flatten, ← List.flatMap_def]
  exact (hrows.intercalate ", " (by decide)).free_append hhead

theorem fills_update (hc : c.Balanced) :
    Fills (c.writtenUpdate mark) (c.updateTrail.values.map lit) (c.writtenUpdate lit) := by
  have hsets : FillsEach (c.sets.map (writtenSet mark)) ((c.sets.map Prod.snd).map lit)
      (c.sets.map (writtenSet lit)) := by
    rw [List.map_map]
    refine .mapOne fun e he => ?_
    have hcolumn : Free e.1 := hc.sets _ (List.mem_map_of_mem he)
    exact (Fills.one _).free_append (free_append.2 ⟨hcolumn, by decide⟩)
  have hhead : Free ("UPDATE " ++ c.table ++ " SET ") := by simp +decide [hc.table]
  rw [writtenUpdate, writtenUpdate, updateTrail, Trail.values_append, Trail.values_append,
    Trail.values_breaking, Trail.values_map_ok, List.nil_append, List.map_append]
  have hall := FillsEach.cons ((hsets.intercalate ", " (by decide)).free_append hhead)
    (Filter.fillsEach_clause lit hc.filter)
  exact hall.intercalate " " (by decide)

theorem fills_delete (hc : c.Balanced) :
    Fills (c.writtenDelete mark) (c.filter.trail.values.map lit) (c.writtenDelete lit) := by
  have hhead : Free ("DELETE FROM " ++ c.table) := free_append.2 ⟨by decide, hc.table⟩
  rw [writtenDelete, writtenDelete]
  have hall := FillsEach.cons (.free hhead) (Filter.fillsEach_clause lit hc.filter)
  exact hall.intercalate " " (by decide)

end Clauses

/-! ## Queries -/

namespace Query

theorem free_unionKeyword (all : Bool) : Free (unionKeyword all) := by
  cases all <;> decide

/-- The placeholders of a balanced query are filled by its values. -/
theorem fills (lit : Value → String) {q : Query} (hq : q.Balanced) :
    Fills (q.written mark) (q.trail.values.map lit) (q.written lit) := by
  induction hq with
  | @mk c members all hc _ ih =>
    have hmembers : FillsEach (writtenMembers mark (unionKeyword all) members)
        ((trailMembers members).values.map lit)
        (writtenMembers lit (unionKeyword all) members) := by
      have hkeyword : Free (unionKeyword all ++ " ") :=
        free_append.2 ⟨free_unionKeyword all, by decide⟩
      rw [writtenMembers_eq_map, writtenMembers_eq_map, trailMembers_eq_flatMap,
        Trail.values_flatMap, List.map_flatMap]
      refine .map fun q hq => ?_
      rw [memberTrail, Trail.values_append, Trail.values_breaking, List.nil_append]
      exact (ih q hq).free_append hkeyword
    rw [written, written, trail, Trail.values_append, Trail.values_breaking, List.nil_append]
    cases c.kind with
    | select =>
      rw [Trail.values_append, List.map_append]
      exact ((Clauses.fillsEach_select lit hc).append hmembers).intercalate " " (by decide)
    | insert | replace => exact Clauses.fills_insert lit hc
    | update => exact Clauses.fills_update lit hc
    | delete => exact Clauses.fills_delete lit hc

/-- **Placeholders and values correspond.**  A statement has as many values as
    placeholders, and the texts of its values, put in the place of its
    placeholders in one pass, give the text written with these values. -/
theorem fill_compile {q : Query} (hq : q.Balanced) {s : Statement} (hs : q.compile = .ok s) :
    count s.sql = s.bindings.length ∧
      ∀ lit : Value → String, fill s.sql (s.bindings.map lit) = q.written lit := by
  rw [compile_eq, Trail.outcome_eq] at hs
  split at hs
  · cases hs
    -- The number of placeholders does not depend on what is put in.
    exact ⟨by simpa using (fills mark hq).count_eq, fun lit => (fills lit hq).fill_eq⟩
  · cases hs

/-- A union of two filtered queries, with a raw condition inside a group. -/
def filteredUnion : Query where
  clauses :=
    { table := "users"
      filter := [(.and, .compare "age" ">" (.int 18)),
        (.or, .group [(.and, .raw "a = ? + ?" [.text "?", .null]),
          (.and, .member "k" [.bool true, .int 2] true)])]
      having := some ⟨"n", "<", .int 9⟩ }
  members :=
    [⟨{ table := "old", filter := [(.and, .between "age" (.int 1) (.int 2) false)] }, [], false⟩]
  unionAll := true

theorem fill_compile_filteredUnion :
    filteredUnion.Balanced ∧
      filteredUnion.compile = .ok
        ⟨"SELECT * FROM users WHERE age > ? OR (a = ? + ? AND k NOT IN (?, ?)) HAVING n < ? " ++
          "UNION ALL SELECT * FROM old WHERE age BETWEEN ? AND ?",
          [.int 18, .text "?", .null, .bool true, .int 2, .int 9, .int 1, .int 2]⟩ ∧
      fill ("SELECT * FROM users WHERE age > ? OR (a = ? + ? AND k NOT IN (?, ?)) HAVING n < ? " ++
        "UNION ALL SELECT * FROM old WHERE age BETWEEN ? AND ?")
        ["18", "?", "NULL", "true", "2", "9", "1", "2"] = filteredUnion.written Value.display := by
  have hmember : Query.Balanced
      ⟨{ table := "old", filter := [(.and, .between "age" (.int 1) (.int 2) false)] }, [], false⟩ :=
    .mk { columns := by decide, table := by decide, tableAlias := nofun, joins := nofun,
          filter := List.forall_mem_singleton.2 (.between (by decide)), sets := nofun,
          firstRow := nofun, orderBy := nofun, groupBy := nofun, having := nofun } nofun
  have hgroup : (Condition.group [(.and, .raw "a = ? + ?" [.text "?", .null]),
      (.and, .member "k" [.bool true, .int 2] true)]).Balanced :=
    .group (List.forall_mem_cons.2 ⟨.raw rfl, List.forall_mem_singleton.2 (.member (by decide))⟩)
  have hbalanced : filteredUnion.Balanced :=
    .mk { columns := by decide, table := by decide, tableAlias := nofun, joins := nofun,
          filter := List.forall_mem_cons.2
            ⟨.compare (by decide) (by decide), List.forall_mem_singleton.2 hgroup⟩
          sets := nofun, firstRow := nofun, orderBy := nofun, groupBy := nofun,
          having := by simp +decide } (List.forall_mem_singleton.2 hmember)
  have hcompile : filteredUnion.compile = .ok
      ⟨"SELECT * FROM users WHERE age > ? OR (a = ? + ? AND k NOT IN (?, ?)) HAVING n < ? " ++
        "UNION ALL SELECT * FROM old WHERE age BETWEEN ? AND ?",
        [.int 18, .text "?", .null, .bool true, .int 2, .int 9, .int 1, .int 2]⟩ := by
    decide +kernel
  exact ⟨hbalanced, hcompile, (fill_compile hbalanced hcompile).2 Value.display⟩

end Query

end BoundSql
