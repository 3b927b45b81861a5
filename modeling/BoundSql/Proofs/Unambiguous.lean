/-
  The text of a filter and its values determine the filter.

  * `Condition.Plain`: columns and operators are words, every membership test
    has values, every group has conditions, and there are no raw conditions;
  * `Condition.normal` puts AND for the links that are not written, those of
    the first conditions of the groups;
  * `Condition.Test` is the grammar of the conditions that are not groups: a
    column, a word, and what follows the word;
  * `Plain.readsUniquely`: of a text that begins with a plain condition, and
    goes on in a way that conditions may go on, the condition and the rest can
    be told apart in one way only; hence plain filters are built alike exactly
    if they agree in all links that are written (`finish_render_eq_iff`).
-/
import BoundSql.Proofs.Defect
import Mathlib.Data.List.Basic

namespace BoundSql

open Render

/-! ## Plain filters -/

/-- A text that stands between blanks as one word. -/
def IsWord (s : String) : Prop := s ≠ "" ∧ ∀ c ∈ s.toList, c ∉ [' ', '(', ')', '?']

instance (s : String) : Decidable (IsWord s) :=
  have : Decidable (∀ c ∈ s.toList, c ∉ [' ', '(', ')', '?']) := List.decidableBAll _ _
  inferInstanceAs (Decidable (_ ∧ _))

theorem IsWord.blank_notMem {s : String} (h : IsWord s) : ' ' ∉ s.toList :=
  fun hmem => h.2 ' ' hmem List.mem_cons_self

/-- A word begins with a character that neither opens a group nor stands for a
    value. -/
theorem IsWord.exists_cons {s : String} (h : IsWord s) :
    ∃ c cs, s.toList = c :: cs ∧ c ≠ '(' ∧ c ≠ '?' := by
  cases hs : s.toList with
  | nil => exact absurd (String.toList_eq_nil_iff.1 hs) h.1
  | cons c cs =>
    have hc := h.2 c (hs ▸ List.mem_cons_self)
    simp only [List.mem_cons, not_or] at hc
    exact ⟨c, cs, rfl, hc.2.1, hc.2.2.2.1⟩

/-- The word in front of the first blank is determined. -/
theorem append_blank_inj {s t r r' : List Char} (hs : ' ' ∉ s) (ht : ' ' ∉ t)
    (h : s ++ ' ' :: r = t ++ ' ' :: r') : s = t ∧ r = r' := by
  rcases List.append_eq_append_iff.1 h with ⟨a, rfl, ha⟩ | ⟨a, rfl, ha⟩
  · cases a with
    | nil => exact ⟨(List.append_nil s).symm, (List.cons.inj ha).2⟩
    | cons c a =>
      obtain rfl : ' ' = c := (List.cons.inj ha).1
      simp at ht
  · cases a with
    | nil => exact ⟨List.append_nil t, (List.cons.inj ha).2.symm⟩
    | cons c a =>
      obtain rfl : ' ' = c := (List.cons.inj ha).1
      simp at hs

namespace Condition

/-- The condition is made of tests of columns, each with its operator or its
    values, and of groups of such conditions. -/
inductive Plain : Condition → Prop
  | compare {column op v} : IsWord column → IsWord op → Plain (.compare column op v)
  | nullTest {column negated} : IsWord column → Plain (.nullTest column negated)
  | member {column values negated} : IsWord column → values ≠ [] →
      Plain (.member column values negated)
  | between {column low high negated} : IsWord column → Plain (.between column low high negated)
  | group {nodes} : nodes ≠ [] → (∀ n ∈ nodes, Plain n.2) → Plain (.group nodes)

theorem Plain.not_bad {c : Condition} (h : c.Plain) : ¬ c.Bad := by
  induction h with
  | compare | nullTest | between => exact nofun
  | member _ hvalues => rintro ⟨⟩; exact hvalues rfl
  | group hnodes _ ih =>
    rintro (_ | _ | ⟨hn, hbad⟩)
    · exact hnodes rfl
    · exact ih _ hn hbad

/-! ## Links that are not written -/

/-- The conditions of a group, the first of them linked by AND. -/
def leadByAnd : List (Link × Condition) → List (Link × Condition)
  | [] => []
  | n :: ns => (.and, n.2) :: ns

mutual

/-- The condition with AND for every link that is not written. -/
def normal : Condition → Condition
  | .compare column op v => .compare column op v
  | .raw sql bindings => .raw sql bindings
  | .nullTest column negated => .nullTest column negated
  | .member column values negated => .member column values negated
  | .between column low high negated => .between column low high negated
  | .group nodes => .group (leadByAnd (normalNodes nodes))

/-- The conditions of a group, each made normal. -/
def normalNodes : List (Link × Condition) → List (Link × Condition)
  | [] => []
  | n :: ns => normalNode n :: normalNodes ns

/-- The condition made normal, with its link. -/
def normalNode : Link × Condition → Link × Condition
  | (link, c) => (link, c.normal)

end

theorem normalNodes_eq_map (nodes : List (Link × Condition)) :
    normalNodes nodes = nodes.map fun n => (n.1, n.2.normal) := by
  induction nodes with
  | nil => rfl
  | cons n ns ih => rw [normalNodes, ih, List.map_cons, normalNode]

theorem isEmpty_leadByAnd (nodes : List (Link × Condition)) :
    (leadByAnd nodes).isEmpty = nodes.isEmpty := by
  cases nodes <;> rfl

theorem trailNodes_leadByAnd (nodes : List (Link × Condition)) :
    trailNodes (leadByAnd nodes) = trailNodes nodes := by
  rcases nodes with _ | ⟨⟨link, c⟩, ns⟩ <;> rfl

theorem joinLinked_leadByAnd (lit : Value → String) (nodes : List (Link × Condition)) :
    joinLinked (writtenNodes lit (leadByAnd nodes)) = joinLinked (writtenNodes lit nodes) := by
  rcases nodes with _ | ⟨⟨link, c⟩, ns⟩ <;> rfl

theorem trailNodes_normalNodes {nodes : List (Link × Condition)}
    (h : ∀ n ∈ nodes, n.2.normal.trail = n.2.trail) :
    trailNodes (leadByAnd (normalNodes nodes)) = trailNodes nodes := by
  rw [trailNodes_leadByAnd, trailNodes_eq_flatMap, trailNodes_eq_flatMap, normalNodes_eq_map,
    List.flatMap_map]
  exact List.flatMap_congr h

theorem joinLinked_normalNodes (lit : Value → String) {nodes : List (Link × Condition)}
    (h : ∀ n ∈ nodes, n.2.normal.written lit = n.2.written lit) :
    joinLinked (writtenNodes lit (leadByAnd (normalNodes nodes))) =
      joinLinked (writtenNodes lit nodes) := by
  rw [joinLinked_leadByAnd, writtenNodes_eq_map, writtenNodes_eq_map, normalNodes_eq_map,
    List.map_map]
  exact congrArg joinLinked (List.map_congr_left fun n hn => congrArg (Prod.mk n.1) (h n hn))

theorem trail_normal (c : Condition) : c.normal.trail = c.trail := by
  induction c with
  | compare | raw | nullTest | member | between => rfl
  | group nodes ih =>
    rw [normal, trail, trail, trailNodes_normalNodes ih, isEmpty_leadByAnd, normalNodes_eq_map,
      List.isEmpty_map]

theorem written_normal (lit : Value → String) (c : Condition) :
    c.normal.written lit = c.written lit := by
  induction c with
  | compare | raw | nullTest | member | between => rfl
  | group nodes ih => rw [normal, written, written, joinLinked_normalNodes lit ih]

/-! ## Texts of tests -/

/-- The text of a condition, character by character. -/
def chars (c : Condition) : List Char := (c.written mark).toList

/-- The values of a condition, in order. -/
def values (c : Condition) : List Value := c.trail.values

/-- The placeholders of further values of a list. -/
def furtherMarks (vs : List Value) : List Char := vs.flatMap fun _ => [',', ' ', '?']

theorem toList_tuple_marks (v : Value) (vs : List Value) :
    (tuple ((v :: vs).map mark)).toList = '(' :: '?' :: (furtherMarks vs ++ [')']) := by
  have hmarks : (", ".intercalate ((v :: vs).map mark)).toList = '?' :: furtherMarks vs := by
    induction vs generalizing v with
    | nil => simp [mark, furtherMarks]
    | cons w vs ih =>
      have ih := ih w
      rw [List.map_cons] at ih
      rw [List.map_cons, List.map_cons, String.intercalate_cons_cons, String.toList_append, ih]
      simp [mark, furtherMarks]
  rw [tuple, String.toList_append, String.toList_append, hmarks]
  simp

theorem furtherMarks_inj {vs ws : List Value} {k k' : List Char}
    (h : furtherMarks vs ++ ')' :: k = furtherMarks ws ++ ')' :: k') :
    vs.length = ws.length ∧ k = k' := by
  induction vs generalizing ws with
  | nil =>
    cases ws with
    | nil => exact ⟨rfl, (List.cons.inj h).2⟩
    | cons w ws => simp [furtherMarks] at h
  | cons v vs ih =>
    cases ws with
    | nil => simp [furtherMarks] at h
    | cons w ws =>
      have hrest : furtherMarks vs ++ ')' :: k = furtherMarks ws ++ ')' :: k' := by
        simpa [furtherMarks] using h
      obtain ⟨hlength, hk⟩ := ih hrest
      exact ⟨congrArg (· + 1) hlength, hk⟩

/-- The condition tests a column: the column, the word after it, what follows
    that word, and the values. -/
inductive Test : Condition → String → String → List Char → List Value → Prop
  | compare {column op v} : Test (.compare column op v) column op ['?'] [v]
  | isNull {column} : Test (.nullTest column false) column "IS" "NULL".toList []
  | isNotNull {column} : Test (.nullTest column true) column "IS" "NOT NULL".toList []
  | member {column v vs} : Test (.member column (v :: vs) false) column "IN"
      ('(' :: '?' :: (furtherMarks vs ++ [')'])) (v :: vs)
  | notMember {column v vs} : Test (.member column (v :: vs) true) column "NOT"
      ("IN ".toList ++ '(' :: '?' :: (furtherMarks vs ++ [')'])) (v :: vs)
  | between {column low high} :
      Test (.between column low high false) column "BETWEEN" "? AND ?".toList [low, high]
  | notBetween {column low high} :
      Test (.between column low high true) column "NOT" "BETWEEN ? AND ?".toList [low, high]

section

variable {c d : Condition} {column verb : String} {operands : List Char} {vs : List Value}

theorem Test.chars_eq (h : Test c column verb operands vs) :
    c.chars = column.toList ++ ' ' :: (verb.toList ++ ' ' :: operands) := by
  cases h with
  | compare => simp [chars, written, mark]
  | isNull | isNotNull => simp [chars, written, negation]
  | member | notMember => simp [chars, written, negation, toList_tuple_marks, -List.map_cons]
  | between | notBetween => simp [chars, written, negation, mark]

theorem Test.values_eq (h : Test c column verb operands vs) : c.values = vs := by
  cases h with
  | compare | isNull | isNotNull | between | notBetween => rfl
  | member | notMember =>
    rw [values, trail, Trail.values_append, Trail.values_breaking, Trail.values_map_ok,
      List.nil_append]

theorem Test.normal_eq (h : Test c column verb operands vs) : c.normal = c := by
  cases h <;> rfl

end

/-- A plain condition is a test, or a group of plain conditions. -/
theorem Plain.test_or_group {c : Condition} (h : c.Plain) :
    (∃ column verb operands vs, Test c column verb operands vs ∧ IsWord column ∧ IsWord verb) ∨
      ∃ n ns, c = .group (n :: ns) ∧ ∀ m ∈ n :: ns, m.2.Plain := by
  cases h with
  | compare hcolumn hop => exact .inl ⟨_, _, _, _, .compare, hcolumn, hop⟩
  | @nullTest column negated hcolumn =>
    cases negated with
    | false => exact .inl ⟨_, _, _, _, .isNull, hcolumn, by decide⟩
    | true => exact .inl ⟨_, _, _, _, .isNotNull, hcolumn, by decide⟩
  | @member column values negated hcolumn hvalues =>
    obtain ⟨v, vs, rfl⟩ := List.exists_cons_of_ne_nil hvalues
    cases negated with
    | false => exact .inl ⟨_, _, _, _, .member, hcolumn, by decide⟩
    | true => exact .inl ⟨_, _, _, _, .notMember, hcolumn, by decide⟩
  | @between column low high negated hcolumn =>
    cases negated with
    | false => exact .inl ⟨_, _, _, _, .between, hcolumn, by decide⟩
    | true => exact .inl ⟨_, _, _, _, .notBetween, hcolumn, by decide⟩
  | @group nodes hnodes hplain =>
    obtain ⟨n, ns, rfl⟩ := List.exists_cons_of_ne_nil hnodes
    exact .inr ⟨n, ns, rfl, hplain⟩

/-! ## Texts of groups -/

/-- The text of further conditions of a group. -/
def linkedChars (ns : List (Link × Condition)) : List Char :=
  ns.flatMap fun n => ' ' :: (n.1.sql.toList ++ ' ' :: n.2.chars)

/-- The values of the conditions of a group. -/
def linkedValues (ns : List (Link × Condition)) : List Value := ns.flatMap fun n => n.2.values

theorem toList_joinLinked (n : Link × Condition) (ns : List (Link × Condition)) :
    (joinLinked (writtenNodes mark (n :: ns))).toList = n.2.chars ++ linkedChars ns := by
  have hrest : (String.join (ns.map fun n => " " ++ n.1.sql ++ " " ++ n.2.written mark)).toList =
      linkedChars ns := by
    induction ns with
    | nil => rfl
    | cons m ms ih =>
      rw [List.map_cons, String.join_cons, String.toList_append, ih]
      simp [linkedChars, chars]
  rw [writtenNodes_eq_map, List.map_cons, joinLinked, List.map_map, String.toList_append]
  exact congrArg (_ ++ ·) hrest

theorem chars_group (n : Link × Condition) (ns : List (Link × Condition)) :
    (group (n :: ns)).chars = '(' :: (n.2.chars ++ (linkedChars ns ++ [')'])) := by
  rw [chars, written, String.toList_append, String.toList_append, toList_joinLinked]
  simp

/-- A group begins with a parenthesis, and a column does not. -/
theorem Test.append_ne_group {c : Condition} {column verb : String} {operands : List Char}
    {vs : List Value} (hc : Test c column verb operands vs) (hcolumn : IsWord column)
    (n : Link × Condition) (ns : List (Link × Condition)) (r r' : List Char) :
    c.chars ++ r ≠ (group (n :: ns)).chars ++ r' := by
  obtain ⟨a, as, has, ha, -⟩ := hcolumn.exists_cons
  intro h
  rw [hc.chars_eq, has, chars_group] at h
  exact ha (List.cons.inj h).1

theorem values_trailNodes (nodes : List (Link × Condition)) :
    (trailNodes nodes).values = linkedValues nodes := by
  rw [trailNodes_eq_flatMap, Trail.values_flatMap]
  rfl

theorem values_group (nodes : List (Link × Condition)) :
    (group nodes).values = linkedValues nodes := by
  rw [values, trail, Trail.values_append, Trail.values_breaking, values_trailNodes]
  rfl

/-! ## Reading -/

/-- How a text may go on after the last condition of a group. -/
inductive Closed : List Char → Prop
  | done : Closed []
  | parenthesis {r} : Closed (')' :: r)

/-- How a text may go on after a condition.  What is linked to it does not
    begin with a placeholder, as the upper end of a range does. -/
inductive GoesOn : List Char → Prop
  | closed {r} : Closed r → GoesOn r
  | linked {link : Link} {r} : r.head? ≠ some '?' →
      GoesOn (' ' :: (link.sql.toList ++ ' ' :: r))

theorem GoesOn.not_and_mark {r : List Char} : ¬ GoesOn (" AND ?".toList ++ r) := by
  intro h
  generalize hs : " AND ?".toList ++ r = s at h
  cases h with
  | closed h => cases h <;> simp at hs
  | @linked link r' hr' =>
    cases link with
    | and =>
      obtain rfl : '?' :: r = r' := by simpa [Link.sql] using hs
      exact hr' rfl
    | or => simp [Link.sql] at hs

/-- A plain condition does not begin with a placeholder. -/
theorem Plain.head_chars_ne {c : Condition} (h : c.Plain) (r : List Char) :
    (c.chars ++ r).head? ≠ some '?' := by
  rcases h.test_or_group with ⟨column, verb, operands, vs, htest, hcolumn, -⟩ | ⟨n, ns, rfl, -⟩
  · obtain ⟨a, as, has, -, ha⟩ := hcolumn.exists_cons
    simp [htest.chars_eq, has, ha]
  · simp [chars_group]

theorem goesOn_linkedChars {ns : List (Link × Condition)} (h : ∀ n ∈ ns, n.2.Plain)
    {r : List Char} (hr : Closed r) : GoesOn (linkedChars ns ++ r) := by
  cases ns with
  | nil => exact .closed hr
  | cons n ns =>
    have hplain : n.2.Plain := h n List.mem_cons_self
    have hhead : GoesOn (' ' :: (n.1.sql.toList ++ ' ' :: (n.2.chars ++ (linkedChars ns ++ r)))) :=
      .linked (hplain.head_chars_ne _)
    simpa [linkedChars] using hhead

/-- What can be read of a text that begins with a condition `c`, and of values
    that begin with its values: no other condition but for links that are not
    written, and no other rest. -/
def ReadsUniquely (c : Condition) : Prop :=
  ∀ {d : Condition} {r r' : List Char} {us us' : List Value}, d.Plain → GoesOn r → GoesOn r' →
    c.chars ++ r = d.chars ++ r' → c.values ++ us = d.values ++ us' →
      c.normal = d.normal ∧ r = r' ∧ us = us'

/-- Tests of one column that go on with one word. -/
theorem Test.eq_of_append_eq {c d : Condition} {column verb verb' : String}
    {operands operands' r r' : List Char} {vs vs' us us' : List Value}
    (hc : Test c column verb operands vs) (hd : Test d column verb' operands' vs')
    (hr : GoesOn r) (hr' : GoesOn r') (hverb : verb = verb')
    (htext : operands ++ r = operands' ++ r') (hvalues : vs ++ us = vs' ++ us') :
    c = d ∧ r = r' ∧ us = us' := by
  -- Tests of different sorts differ in the word or in the character after it, but for a
  -- comparison whose operator is BETWEEN, after which no range can go on.
  cases hc <;> cases hd <;> simp at hverb htext
  case compare.compare | between.between | notBetween.notBetween =>
    simp_all
  case isNull.isNull | isNotNull.isNotNull =>
    exact ⟨rfl, htext, hvalues⟩
  case member.member | notMember.notMember =>
    obtain ⟨hlength, hr⟩ := furtherMarks_inj htext
    obtain ⟨hv, hvalues⟩ := List.cons.inj hvalues
    obtain ⟨rfl, hus⟩ := List.append_inj hvalues hlength
    exact ⟨by rw [hv], hr, hus⟩
  case compare.between =>
    exact absurd (htext ▸ hr) GoesOn.not_and_mark
  case between.compare =>
    exact absurd (htext ▸ hr') GoesOn.not_and_mark

theorem Test.readsUniquely {c : Condition} {column verb : String} {operands : List Char}
    {vs : List Value} (hc : Test c column verb operands vs) (hcolumn : IsWord column)
    (hverb : IsWord verb) : c.ReadsUniquely := by
  intro d r r' us us' hd hr hr' htext hvalues
  rcases hd.test_or_group with ⟨column', verb', operands', vs', hd, hcolumn', hverb'⟩ |
    ⟨n, ns, rfl, -⟩
  · rw [hc.chars_eq, hd.chars_eq] at htext
    simp only [List.append_assoc, List.cons_append] at htext
    obtain ⟨hcolumns, htests⟩ := append_blank_inj hcolumn.blank_notMem hcolumn'.blank_notMem htext
    obtain ⟨hverbs, hoperands⟩ := append_blank_inj hverb.blank_notMem hverb'.blank_notMem htests
    obtain rfl : column = column' := String.toList_inj.1 hcolumns
    rw [hc.values_eq, hd.values_eq] at hvalues
    rw [hc.normal_eq, hd.normal_eq]
    exact hc.eq_of_append_eq hd hr hr' (String.toList_inj.1 hverbs) hoperands hvalues
  · exact absurd htext (hc.append_ne_group hcolumn n ns r r')

/-- Further conditions of a group, with their links. -/
theorem linked_unique {ns ms : List (Link × Condition)} {r r' : List Char} {us us' : List Value}
    (hns : ∀ n ∈ ns, n.2.Plain ∧ n.2.ReadsUniquely) (hms : ∀ m ∈ ms, m.2.Plain) (hr : Closed r)
    (hr' : Closed r') (htext : linkedChars ns ++ r = linkedChars ms ++ r')
    (hvalues : linkedValues ns ++ us = linkedValues ms ++ us') :
    normalNodes ns = normalNodes ms ∧ r = r' ∧ us = us' := by
  induction ns generalizing ms with
  | nil =>
    cases ms with
    | nil => exact ⟨rfl, htext, hvalues⟩
    | cons m ms => cases hr <;> simp [linkedChars] at htext
  | cons n ns ih =>
    cases ms with
    | nil => cases hr' <;> simp [linkedChars] at htext
    | cons m ms =>
      obtain ⟨⟨hn, hread⟩, hns⟩ := List.forall_mem_cons.1 hns
      obtain ⟨hm, hms⟩ := List.forall_mem_cons.1 hms
      have htext : n.1.sql.toList ++ ' ' :: (n.2.chars ++ (linkedChars ns ++ r)) =
          m.1.sql.toList ++ ' ' :: (m.2.chars ++ (linkedChars ms ++ r')) := by
        simpa [linkedChars] using htext
      have hvalues : n.2.values ++ (linkedValues ns ++ us) =
          m.2.values ++ (linkedValues ms ++ us') := by
        simpa [linkedValues] using hvalues
      have hblank (link : Link) : ' ' ∉ link.sql.toList := by cases link <;> decide
      obtain ⟨hlink, htext⟩ := append_blank_inj (hblank n.1) (hblank m.1) htext
      have hlink : n.1 = m.1 := by
        revert hlink
        cases n.1 <;> cases m.1 <;> decide
      have hgoes := goesOn_linkedChars (fun n hn => (hns n hn).1) hr
      obtain ⟨hnormal, htext, hvalues⟩ :=
        hread hm hgoes (goesOn_linkedChars hms hr') htext hvalues
      obtain ⟨hnodes, hrest⟩ := ih hns hms htext hvalues
      refine ⟨?_, hrest⟩
      rw [normalNodes, normalNodes, hnodes, normalNode, normalNode, hlink, hnormal]

/-- The conditions of a group, or of a whole filter. -/
theorem level_unique {n m : Link × Condition} {ns ms : List (Link × Condition)}
    {r r' : List Char} {us us' : List Value}
    (hns : ∀ c ∈ n :: ns, c.2.Plain ∧ c.2.ReadsUniquely) (hms : ∀ c ∈ m :: ms, c.2.Plain)
    (hr : Closed r) (hr' : Closed r')
    (htext : n.2.chars ++ (linkedChars ns ++ r) = m.2.chars ++ (linkedChars ms ++ r'))
    (hvalues : linkedValues (n :: ns) ++ us = linkedValues (m :: ms) ++ us') :
    leadByAnd (normalNodes (n :: ns)) = leadByAnd (normalNodes (m :: ms)) ∧ r = r' ∧ us = us' := by
  obtain ⟨⟨hn, hread⟩, hns⟩ := List.forall_mem_cons.1 hns
  obtain ⟨hm, hms⟩ := List.forall_mem_cons.1 hms
  have hvalues : n.2.values ++ (linkedValues ns ++ us) =
      m.2.values ++ (linkedValues ms ++ us') := by
    simpa [linkedValues] using hvalues
  obtain ⟨hnormal, htext, hvalues⟩ := hread hm
    (goesOn_linkedChars (fun n hn => (hns n hn).1) hr) (goesOn_linkedChars hms hr') htext hvalues
  obtain ⟨hnodes, hrest⟩ := linked_unique hns hms hr hr' htext hvalues
  refine ⟨?_, hrest⟩
  rw [normalNodes, normalNodes, hnodes, leadByAnd, leadByAnd, normalNode, normalNode, hnormal]

/-- Plain conditions are read in one way only. -/
theorem Plain.readsUniquely {c : Condition} (hc : c.Plain) : c.ReadsUniquely := by
  induction c with
  | compare | raw | nullTest | member | between =>
    rcases hc.test_or_group with ⟨_, _, _, _, htest, hcolumn, hverb⟩ | ⟨_, _, hgroup, -⟩
    · exact htest.readsUniquely hcolumn hverb
    · cases hgroup
  | group nodes ih =>
    obtain ⟨_, _, _, _, htest, -⟩ | ⟨n, ns, hgroup, hns⟩ := hc.test_or_group
    · cases htest
    obtain rfl : nodes = n :: ns := Condition.group.inj hgroup
    intro d r r' us us' hd hr hr' htext hvalues
    rcases hd.test_or_group with ⟨column, verb, operands, vs, hd, hcolumn, -⟩ | ⟨m, ms, rfl, hms⟩
    · exact absurd htext.symm (hd.append_ne_group hcolumn n ns r' r)
    · rw [chars_group, chars_group] at htext
      rw [values_group, values_group] at hvalues
      have htext : n.2.chars ++ (linkedChars ns ++ ')' :: r) =
          m.2.chars ++ (linkedChars ms ++ ')' :: r') := by
        simpa using htext
      obtain ⟨hnodes, hrest, hus⟩ := level_unique (fun c hc => ⟨hns c hc, ih c hc (hns c hc)⟩) hms
        .parenthesis .parenthesis htext hvalues
      exact ⟨by rw [normal, normal, hnodes], (List.cons.inj hrest).2, hus⟩

end Condition

/-! ## Filters -/

namespace Filter

/-- The filter has conditions, and they are plain. -/
def Plain (f : Filter) : Prop := f ≠ [] ∧ ∀ n ∈ f, n.2.Plain

/-- The filter with AND for every link that is not written. -/
def normal (f : Filter) : Filter := Condition.leadByAnd (Condition.normalNodes f)

theorem trail_normal (f : Filter) : f.normal.trail = f.trail :=
  Condition.trailNodes_normalNodes fun n _ => n.2.trail_normal

theorem written_normal (lit : Value → String) (f : Filter) :
    f.normal.written lit = f.written lit :=
  Condition.joinLinked_normalNodes lit fun n _ => n.2.written_normal lit

/-- What a filter is built to, without values before it. -/
theorem finish_render (f : Filter) :
    f.render.finish = f.trail.outcome ⟨f.written mark, f.trail.values⟩ :=
  finish_of_follows f.render_follows

/-- A plain filter is built. -/
theorem Plain.finish_render {f : Filter} (h : f.Plain) :
    f.render.finish = .ok ⟨f.written mark, f.trail.values⟩ := by
  have hgood : ¬ f.Bad := fun ⟨n, hn, hbad⟩ => (h.2 n hn).not_bad hbad
  rw [Filter.finish_render, Trail.outcome_eq, faults_trail,
    not_not.1 (mt f.defects_ne_nil_iff.1 hgood)]

/-- Plain filters of one text and one list of values agree in all links that
    are written. -/
theorem Plain.normal_eq {f g : Filter} (hf : f.Plain) (hg : g.Plain)
    (htext : f.written mark = g.written mark) (hvalues : f.trail.values = g.trail.values) :
    f.normal = g.normal := by
  obtain ⟨n, ns, rfl⟩ := List.exists_cons_of_ne_nil hf.1
  obtain ⟨m, ms, rfl⟩ := List.exists_cons_of_ne_nil hg.1
  rw [written, written, ← String.toList_inj, Condition.toList_joinLinked,
    Condition.toList_joinLinked] at htext
  rw [trail, trail, Condition.values_trailNodes, Condition.values_trailNodes] at hvalues
  exact (Condition.level_unique (fun c hc => ⟨hf.2 c hc, (hf.2 c hc).readsUniquely⟩) hg.2
    .done .done (by simpa using htext) (congrArg (· ++ []) hvalues)).1

/-- **The text and the values of a filter determine it.**  Plain filters are
    built, and to the same text with the same values exactly if they agree in
    all links but those of the first conditions of their groups, which are not
    written. -/
theorem finish_render_eq_iff {f g : Filter} (hf : f.Plain) (hg : g.Plain) :
    (∃ s, f.render.finish = .ok s) ∧
      (f.render.finish = g.render.finish ↔ f.normal = g.normal) := by
  refine ⟨⟨_, hf.finish_render⟩, ?_, ?_⟩
  · intro h
    rw [hf.finish_render, hg.finish_render] at h
    obtain ⟨htext, hvalues⟩ := Statement.mk.inj (Except.ok.inj h)
    exact hf.normal_eq hg htext hvalues
  · intro h
    rw [finish_render, finish_render, ← trail_normal f, ← written_normal mark f, h, trail_normal,
      written_normal]

/-- A range over a column named like a link, and a group that begins with a
    comparison spelled like a range. -/
def rangeAndGroup (first inner : Link) : Filter :=
  [(first, .between "AND" (.int 1) (.int 2) false),
    (.and, .group [(inner, .compare "x" "BETWEEN" (.int 3)),
      (.or, .member "y" [.null, .text "?"] true)])]

theorem finish_render_eq_iff_rangeAndGroup :
    (rangeAndGroup .or .or).Plain ∧ (rangeAndGroup .and .and).Plain ∧
      (rangeAndGroup .or .or).render.finish =
        .ok ⟨"AND BETWEEN ? AND ? AND (x BETWEEN ? OR y NOT IN (?, ?))",
          [.int 1, .int 2, .int 3, .null, .text "?"]⟩ ∧
      (rangeAndGroup .or .or).render.finish = (rangeAndGroup .and .and).render.finish ∧
      (rangeAndGroup .or .or).normal = (rangeAndGroup .and .and).normal := by
  have hplain (first inner : Link) : (rangeAndGroup first inner).Plain := by
    refine ⟨List.cons_ne_nil _ _, ?_⟩
    rw [rangeAndGroup, List.forall_mem_cons, List.forall_mem_singleton]
    refine ⟨.between (by decide), .group (List.cons_ne_nil _ _) ?_⟩
    rw [List.forall_mem_cons, List.forall_mem_singleton]
    exact ⟨.compare (by decide) (by decide), .member (by decide) (List.cons_ne_nil _ _)⟩
  have hbuilt :
      (rangeAndGroup .or .or).render.finish = (rangeAndGroup .and .and).render.finish := by
    decide +kernel
  exact ⟨hplain _ _, hplain _ _, by decide +kernel, hbuilt,
    (finish_render_eq_iff (hplain _ _) (hplain _ _)).2.1 hbuilt⟩

end Filter

end BoundSql
