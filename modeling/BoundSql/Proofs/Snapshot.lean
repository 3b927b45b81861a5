/-
  Bound values in the JSON form of a snapshot.

  A snapshot shows the values without saying which kind each of them has, so
  that they are told apart by their texts alone.  `Value.plain` are the values
  that JSON has of its own.

  * `Value.reread_toJson`, `Value.ofJson_toJson`: each of them is its JSON
    value again when it is read, and is bound again as what it was;
  * `Snapshot.Shows`: the texts in which a snapshot shows its values;
  * `bindings_survive`: a query that has bound plain values is shown and logged
    with just these, and they are bound again from the text.
-/
import BoundSql.Proofs.JsonText
import BoundSql.Proofs.Refusal
import BoundSql.Proofs.Written
import BoundSql.Query.Run

namespace BoundSql

/-- The values of 64-bit integers, in the form in which the range is tested. -/
theorem toInt_mem_range (n : Int64) : -Nat.pow 2 63 ≤ n.toInt ∧ n.toInt < Nat.pow 2 63 := by
  simpa using ⟨n.le_toInt, n.toInt_lt⟩

namespace Json

/-- Integers of 64 bits, with or without a sign, are read as integers. -/
theorem ofInteger_natAbs {i : Int} (hlow : -Nat.pow 2 63 ≤ i) (hhigh : i < Nat.pow 2 64) :
    ofInteger (decide (i < 0)) i.natAbs = .integer i := by
  have hsigned : Numeral.signed (decide (i < 0)) i.natAbs = i := by
    by_cases hneg : i < 0
    · rw [Numeral.signed, if_pos (decide_eq_true hneg)]
      omega
    · rw [Numeral.signed, if_neg (by simpa using hneg)]
      omega
  have hzero : (decide (i < 0) && i.natAbs == 0) = false := by
    simp only [Bool.and_eq_false_iff, decide_eq_false_iff_not, beq_eq_false_iff_ne]
    omega
  have hrange : (decide (-Nat.pow 2 63 ≤ i) && decide (i < Nat.pow 2 64)) = true := by
    rw [decide_eq_true hlow, decide_eq_true hhigh]
    rfl
  rw [ofInteger, hsigned, hzero, hrange]
  rfl

end Json

namespace Value

/-- Whether JSON has this value of its own: null, a truth value, an integer or
    a text. -/
def plain : Value → Bool
  | .null | .bool _ | .int _ | .text _ => true
  | .float _ | .blob _ => false

variable {v : Value}

/-- A plain value is read from its text as it was written. -/
theorem reread_toJson (h : v.plain = true) : v.toJson.reread = v.toJson := by
  cases v with
  | null | bool | text => rfl
  | int n =>
    obtain ⟨hlow, hhigh⟩ := toInt_mem_range n
    exact Json.ofInteger_natAbs hlow (Int.lt_trans hhigh (by decide))
  | float | blob => cases h

/-- A plain value is bound again as what it was. -/
theorem ofJson_toJson (h : v.plain = true) : ofJson v.toJson = v := by
  cases v with
  | null | bool | text => rfl
  | int n => rw [toJson, ofJson, if_pos (toInt_mem_range n), Int64.ofInt_toInt]
  | float | blob => cases h

end Value

/-- The values of a statement, each of them plain, are read as they were written. -/
theorem Statement.reread_bindingsJson {s : Statement} (h : ∀ v ∈ s.bindings, v.plain = true) :
    s.bindingsJson.reread = s.bindingsJson := by
  rw [bindingsJson, Json.reread, Json.rereadItems_eq_map, List.map_map]
  exact congrArg _ (List.map_congr_left fun v hv => v.reread_toJson (h v hv))

namespace Query

/-- Showing a query gives its snapshot back and logs it, and does nothing else. -/
theorem run_dump {σ : Type} {q : Query} {s : Snapshot} (h : q.snapshot = .ok s) (w : Session σ) :
    Session.run q.dump w = (.ok s, w.emit (.dumped s)) := by
  rw [dump, h]
  rfl

/-- The members of a snapshot when its text is read: in the order of their names. -/
theorem Snapshot.reread_toJson {s : Snapshot}
    (h : s.statement.bindingsJson.reread = s.statement.bindingsJson) :
    s.toJson.reread = .object [("bindings", s.statement.bindingsJson),
      ("sql", .string s.statement.sql), ("type", .string s.kind.name)] := by
  have hfirst : "bindings" < "sql" := by decide
  have hlast : ¬ "type" < "bindings" ∧ ¬ "type" < "sql" := by decide
  rw [toJson, Json.reread, Json.rereadMembers_eq_map]
  simp only [List.map_cons, List.map_nil, h, Json.reread, Json.settle, List.foldl_cons,
    List.foldl_nil, Json.putMember, if_neg (show "bindings" ≠ "sql" by decide), if_pos hfirst,
    if_neg (show "type" ≠ "bindings" by decide), if_neg (show "type" ≠ "sql" by decide),
    if_neg hlast.1, if_neg hlast.2]

/-- What is shown of a query has `items` in the place of the bound values: in
    their text by itself, inside the text of the snapshot, and in the log. -/
structure Snapshot.Shows (s : Snapshot) (items : List Json) : Prop where
  alone : Json.read? s.statement.bindingsJson.print = some (.array items)
  within : Json.read? s.toJson.print = some (.object [("bindings", .array items),
    ("sql", .string s.statement.sql), ("type", .string s.kind.name)])
  logged : (Event.dumped s).fields.lookup "bindings" =
    some (.text s.statement.bindingsJson.print)

/-- Plain values are shown as their JSON values. -/
theorem Snapshot.shows {s : Snapshot} (h : ∀ v ∈ s.statement.bindings, v.plain = true) :
    s.Shows (s.statement.bindings.map Value.toJson) := by
  have hreread := Statement.reread_bindingsJson h
  constructor
  · rw [Json.read?_print, hreread]
    rfl
  · rw [Json.read?_print, Snapshot.reread_toJson hreread]
    rfl
  · rfl

/-- A query with one condition, which has any values at all. -/
def carrying (vs : List Value) : List Edit :=
  [.source "t", .filter (.add .and (.raw (tuple (vs.map Render.mark)) vs))]

theorem compile_carrying (vs : List Value) :
    ∃ sql, (Edit.runAll (carrying vs) .fresh).compile = .ok ⟨sql, vs⟩ := by
  -- Nothing is bound by other conditions, by HAVING and by members.
  have htrail : (Edit.runAll (carrying vs) .fresh).trail = vs.map .ok ++ [] ++ [] ++ [] := rfl
  simp only [List.append_nil] at htrail
  refine ⟨(Edit.runAll (carrying vs) .fresh).written Render.mark,
    compile_eq_ok_iff.2 ⟨?_, ?_⟩⟩
  · rw [htrail, Trail.faults_map_ok]
  · rw [statement, htrail, Trail.values_map_ok]

/-- **Bound values survive the snapshot.**  Plain values, whichever they are and
    whatever query has bound them: it is shown with just these values, and the
    text in which they are shown and logged is an array whose items are bound
    as the very same values, in their order. -/
theorem bindings_survive (vs : List Value) (h : ∀ v ∈ vs, v.plain = true) :
    (∃ edits sql, (Edit.runAll edits .fresh).compile = .ok ⟨sql, vs⟩) ∧
      ∃ items, items.map Value.ofJson = vs ∧
        ∀ (q : Query) (sql : String), q.compile = .ok ⟨sql, vs⟩ →
          q.snapshot = .ok ⟨⟨sql, vs⟩, q.kind⟩ ∧
          Snapshot.Shows ⟨⟨sql, vs⟩, q.kind⟩ items ∧
          ∀ (σ : Type) (w : Session σ), Session.run q.dump w =
            (.ok ⟨⟨sql, vs⟩, q.kind⟩,
              { w with log := w.log ++ [.dumped ⟨⟨sql, vs⟩, q.kind⟩] }) := by
  refine ⟨⟨_, compile_carrying vs⟩, vs.map Value.toJson, ?_, fun q sql hq => ?_⟩
  · rw [List.map_map]
    exact (List.map_congr_left fun v hv => Value.ofJson_toJson (h v hv)).trans (List.map_id _)
  · have hsnapshot : q.snapshot = .ok ⟨⟨sql, vs⟩, q.kind⟩ := by rw [snapshot, hq]; rfl
    exact ⟨hsnapshot, Snapshot.shows h, fun σ w => run_dump hsnapshot w⟩

/-- Values whose texts could be taken for one another: the words of JSON as
    texts, quotes, backslashes and controls in a text, the least integer. -/
def confusable : List Value :=
  [.null, .text "null", .bool true, .text "true", .int (-9223372036854775808),
    .text "-9223372036854775808", .text "\"],\\u0000\x01\n", .text ""]

/-- A deletion that has bound them in conditions of several forms. -/
def confusableDeletion : Query :=
  Edit.runAll [.delete "t",
    .filter (.member .and "a" [.null, .text "null", .bool true, .text "true"] false),
    .filter (.add .or (.between "b" (.int (-9223372036854775808))
      (.text "-9223372036854775808") false)),
    .filter (.add .and (.raw "c = ?" [.text "\"],\\u0000\x01\n"])),
    .filter (.add .and (.equals "d" (.text "")))] .fresh

theorem bindings_survive_confusable :
    (∀ v ∈ confusable, v.plain = true) ∧
      ∃ s : Snapshot, s.statement.sql =
          "DELETE FROM t WHERE a IN (?, ?, ?, ?) OR b BETWEEN ? AND ? AND c = ? AND d = ?" ∧
        confusableDeletion.snapshot = .ok s ∧
        s.statement.bindingsJson.print = "[null,\"null\",true,\"true\",-9223372036854775808," ++
          "\"-9223372036854775808\",\"\\\"],\\\\u0000\\u0001\\n\",\"\"]" ∧
        ∃ items, items.map Value.ofJson = confusable ∧ s.Shows items ∧
          Session.run confusableDeletion.dump (⟨(), [], []⟩ : Session Unit) =
            (.ok s, ⟨(), [], [.dumped s]⟩) := by
  have h : ∀ v ∈ confusable, v.plain = true := by decide
  obtain ⟨-, items, hitems, hall⟩ := bindings_survive confusable h
  have hcompile : confusableDeletion.compile = .ok ⟨_, confusable⟩ := rfl
  obtain ⟨hsnapshot, hshows, hdump⟩ := hall confusableDeletion _ hcompile
  exact ⟨h, _, rfl, hsnapshot, by decide +kernel, items, hitems, hshows, hdump Unit _⟩

end Query

end BoundSql
