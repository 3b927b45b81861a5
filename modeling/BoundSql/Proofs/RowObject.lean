/-
  A row looked up by name, and its JSON object.

  A row writes every pair, repeated names too, and leaves it to the reader of
  the object that a later member overwrites an earlier one of its name.  The
  lookup by name searches the columns from the end.  Both are followed push by
  push: `get?_push` says what a push changes for the lookup, `members_push` what
  it changes for the object, and `Mirrored.push` that the two stay in step.

  A row can also be kept as two lists of one length, the columns and the values
  (`Aligned`).  Then the lookup takes the place of the name among the columns
  and the value at this place, which is there as the lengths are equal;
  `ofRow_push` and `get?_ofRow` say that it is the same row.

  `lookup_agrees_with_object` is the result, for any pairs pushed in any order.
-/
import BoundSql.Proofs.JsonText
import BoundSql.Row
import Mathlib.Data.List.Induction

namespace BoundSql

/-! ## Members of an object -/

namespace Json

/-- The names increase, so that none occurs twice. -/
def Sorted (ms : List (String × Json)) : Prop := ms.Pairwise fun m n => m.1 < n.1

variable {ms : List (String × Json)} {name : String} {v : Json}

theorem eq_or_mem_of_mem_putMember {m : String × Json} (h : m ∈ putMember name v ms) :
    m = (name, v) ∨ m ∈ ms := by
  induction ms with
  | nil => exact .inl (List.mem_singleton.1 h)
  | cons n ms ih =>
    unfold putMember at h
    split at h
    · exact (List.mem_cons.1 h).imp_right (List.mem_cons_of_mem n)
    · split at h
      · exact List.mem_cons.1 h
      · rcases List.mem_cons.1 h with h | h
        · exact .inr (h ▸ List.mem_cons_self)
        · exact (ih h).imp_right (List.mem_cons_of_mem n)

theorem lt_of_not_lt_of_ne {a b : String} (hne : a ≠ b) (h : ¬ a < b) : b < a := by
  by_contra hba
  exact hne (String.le_antisymm (String.not_lt.1 hba) (String.not_lt.1 h))

theorem Sorted.putMember (h : Sorted ms) : Sorted (putMember name v ms) := by
  induction ms with
  | nil => exact List.pairwise_singleton _ _
  | cons n ms ih =>
    obtain ⟨hn, hms⟩ := List.pairwise_cons.1 h
    unfold Json.putMember
    split
    · next heq => exact List.pairwise_cons.2 ⟨heq ▸ hn, hms⟩
    · next hne =>
      split
      · next hlt =>
        refine List.pairwise_cons.2 ⟨fun m hm => ?_, h⟩
        rcases List.mem_cons.1 hm with rfl | hm
        · exact hlt
        · exact String.lt_trans hlt (hn m hm)
      · next hlt =>
        refine List.pairwise_cons.2 ⟨fun m hm => ?_, ih hms⟩
        rcases eq_or_mem_of_mem_putMember hm with rfl | hm
        · exact lt_of_not_lt_of_ne hne hlt
        · exact hn m hm

theorem mem_putMember_self : (name, v) ∈ putMember name v ms := by
  induction ms with
  | nil => exact List.mem_singleton_self _
  | cons n ms ih =>
    unfold putMember
    split
    · exact List.mem_cons_self
    · split
      · exact List.mem_cons_self
      · exact List.mem_cons_of_mem n ih

theorem mem_putMember_of_ne {m : String × Json} (hm : m ∈ ms) (hne : m.1 ≠ name) :
    m ∈ putMember name v ms := by
  induction ms with
  | nil => cases hm
  | cons n ms ih =>
    unfold putMember
    split
    · next heq =>
      rcases List.mem_cons.1 hm with rfl | hm
      · exact absurd heq.symm hne
      · exact List.mem_cons_of_mem _ hm
    · split
      · exact List.mem_cons_of_mem _ hm
      · rcases List.mem_cons.1 hm with rfl | hm
        · exact List.mem_cons_self
        · exact List.mem_cons_of_mem n (ih hm)

/-- A name has one value. -/
theorem Sorted.eq_of_mem (h : Sorted ms) {j k : Json} (hj : (name, j) ∈ ms)
    (hk : (name, k) ∈ ms) : j = k := by
  induction ms with
  | nil => cases hj
  | cons n ms ih =>
    obtain ⟨hn, hms⟩ := List.pairwise_cons.1 h
    rcases List.mem_cons.1 hj with heq | hj' <;> rcases List.mem_cons.1 hk with heq' | hk'
    · exact congrArg Prod.snd (heq.trans heq'.symm)
    · exact absurd (heq ▸ hn _ hk') (String.lt_irrefl _)
    · exact absurd (heq' ▸ hn _ hj') (String.lt_irrefl _)
    · exact ih hms hj' hk'

/-- Putting a member among others settles its name and leaves the other names as
    they are. -/
theorem mem_putMember_iff (h : Sorted ms) (c : String) (j : Json) :
    (c, j) ∈ putMember name v ms ↔ if c = name then j = v else (c, j) ∈ ms := by
  split
  · next heq =>
    subst heq
    refine ⟨fun hj => h.putMember.eq_of_mem hj mem_putMember_self, ?_⟩
    rintro rfl
    exact mem_putMember_self
  · next hne =>
    refine ⟨fun hj => ?_, fun hj => mem_putMember_of_ne hj hne⟩
    rcases eq_or_mem_of_mem_putMember hj with heq | hj
    · exact absurd (congrArg Prod.fst heq) hne
    · exact hj

end Json

/-! ## Rows -/

namespace Row

/-- The row that pushes make. -/
def pushes (pairs : List (String × Value)) : Row :=
  pairs.foldl (fun r p => r.push p.1 p.2) empty

theorem pushes_append_singleton (pairs : List (String × Value)) (p : String × Value) :
    pushes (pairs ++ [p]) = (pushes pairs).push p.1 p.2 := by
  simp [pushes]

theorem cells_pushes (pairs : List (String × Value)) : (pushes pairs).cells = pairs := by
  induction pairs using List.reverseRecOn with
  | nil => rfl
  | append_singleton pairs p ih => rw [pushes_append_singleton, push, ih]

/-- The members of the row's object when its text is read. -/
def members (r : Row) : List (String × Json) :=
  Json.settle [] (r.cells.map fun p => (p.1, p.2.toJson.reread))

theorem read?_toJson (r : Row) : Json.read? r.toJson.print = some (.object r.members) := by
  rw [Json.read?_print, toJson, Json.reread, Json.rereadMembers_eq_map, List.map_map]
  rfl

/-- A push puts its pair among the members. -/
theorem members_push (r : Row) (column : String) (v : Value) :
    (r.push column v).members = Json.putMember column v.toJson.reread r.members := by
  simp [members, push, Json.settle]

/-- The members are what the lookup finds, name by name. -/
structure Mirrored (r : Row) : Prop where
  sorted : Json.Sorted r.members
  mem_iff : ∀ c j, (c, j) ∈ r.members ↔ ∃ v, r.get? c = some v ∧ v.toJson.reread = j

theorem mirrored_empty : empty.Mirrored :=
  ⟨List.Pairwise.nil, fun c j => by simp [members, Json.settle, empty, get?]⟩

/-- A push keeps the members and the lookup in step. -/
theorem Mirrored.push {r : Row} (h : r.Mirrored) (column : String) (v : Value) :
    (r.push column v).Mirrored := by
  refine ⟨members_push r column v ▸ h.sorted.putMember, fun c j => ?_⟩
  rw [members_push, Json.mem_putMember_iff h.sorted, get?_push]
  by_cases hc : c = column
  · subst hc
    simp [eq_comm]
  · simp [hc, Ne.symm hc, h.mem_iff]

theorem mirrored_pushes (pairs : List (String × Value)) : (pushes pairs).Mirrored := by
  induction pairs using List.reverseRecOn with
  | nil => exact mirrored_empty
  | append_singleton pairs p ih => exact pushes_append_singleton pairs p ▸ ih.push p.1 p.2

/-! ## The last pair of a name -/

/-- `v` is in the last pair of a name. -/
def LastPair (name : String) (v : Value) (pairs : List (String × Value)) : Prop :=
  ∃ before after, pairs = before ++ (name, v) :: after ∧ ∀ p ∈ after, p.1 ≠ name

theorem lastPair_append_singleton {name : String} {v : Value} {pairs : List (String × Value)}
    {p : String × Value} :
    LastPair name v (pairs ++ [p]) ↔ if p.1 = name then p.2 = v else LastPair name v pairs := by
  constructor
  · rintro ⟨before, after, heq, hafter⟩
    rcases List.eq_nil_or_concat after with rfl | ⟨after, q, rfl⟩
    · obtain ⟨-, hp⟩ := List.append_inj' heq rfl
      cases hp
      simp
    · rw [List.concat_eq_append, ← List.cons_append, ← List.append_assoc] at heq
      obtain ⟨rfl, hp⟩ := List.append_inj' heq rfl
      cases hp
      rw [List.concat_eq_append] at hafter
      rw [if_neg (hafter p (by simp))]
      exact ⟨before, after, rfl, fun q hq => hafter q (List.mem_append_left _ hq)⟩
  · split
    · rintro rfl
      subst name
      exact ⟨pairs, [], rfl, by simp⟩
    · next hne =>
      rintro ⟨before, after, rfl, hafter⟩
      refine ⟨before, after ++ [p], by simp, fun q hq => ?_⟩
      rcases List.mem_append.1 hq with hq | hq
      · exact hafter q hq
      · rwa [List.mem_singleton.1 hq]

/-- The lookup finds the last pair of a name. -/
theorem get?_pushes_eq_some_iff (pairs : List (String × Value)) (c : String) (v : Value) :
    (pushes pairs).get? c = some v ↔ LastPair c v pairs := by
  induction pairs using List.reverseRecOn with
  | nil => simp [pushes, get?_empty, LastPair]
  | append_singleton pairs p ih =>
    rw [pushes_append_singleton, get?_push, lastPair_append_singleton, ← ih]
    split <;> simp

/-- The last place of a name among names. -/
def lastIndex? (name : String) (names : List String) : Option Nat :=
  (names.reverse.findIdx? (· = name)).map (names.length - 1 - ·)

theorem lastIndex?_lt {name : String} {names : List String} {i : Nat}
    (h : lastIndex? name names = some i) : i < names.length := by
  obtain ⟨j, hj, rfl⟩ := Option.map_eq_some_iff.1 h
  obtain ⟨hlt, -⟩ := List.findIdx?_eq_some_iff_getElem.1 hj
  rw [List.length_reverse] at hlt
  omega

theorem lastIndex?_append_singleton (names : List String) (column name : String) :
    lastIndex? name (names ++ [column]) =
      if column = name then some names.length else lastIndex? name names := by
  rw [lastIndex?, List.reverse_append, List.reverse_singleton, List.singleton_append,
    List.findIdx?_cons]
  by_cases h : column = name
  · simp [h]
  · have hshift : ((names ++ [column]).length - 1 - ·) ∘ (· + 1) = (names.length - 1 - ·) := by
      funext i
      simp only [Function.comp_apply, List.length_append, List.length_singleton]
      omega
    rw [if_neg (by simpa using h), if_neg h, Option.map_map, hshift, lastIndex?]

/-! ## Rows as two lists -/

/-- A row kept as two lists of one length, the columns and the values. -/
@[ext]
structure Aligned where
  columns : List String
  values : List Value
  length_eq : columns.length = values.length

namespace Aligned

/-- A row without columns. -/
def empty : Aligned := ⟨[], [], rfl⟩

/-- One more column and one more value, each at the end of its list. -/
def push (r : Aligned) (column : String) (v : Value) : Aligned :=
  ⟨r.columns ++ [column], r.values ++ [v], by
    rw [List.length_append, List.length_append, List.length_singleton, List.length_singleton,
      r.length_eq]⟩

/-- A place among the columns is a place among the values. -/
theorem lastIndex?_lt {r : Aligned} {column : String} {i : Nat}
    (h : lastIndex? column r.columns = some i) : i < r.values.length :=
  r.length_eq ▸ Row.lastIndex?_lt h

/-- The value at the last place of a name among the columns. -/
def get? (r : Aligned) (column : String) : Option Value :=
  match h : lastIndex? column r.columns with
  | none => none
  | some i => some (r.values.get ⟨i, lastIndex?_lt h⟩)

theorem get?_eq_bind (r : Aligned) (column : String) :
    r.get? column = (lastIndex? column r.columns).bind (r.values[·]?) := by
  unfold get?
  split
  · next h => rw [h]; rfl
  · next i h =>
    calc some (r.values.get ⟨i, lastIndex?_lt h⟩)
      _ = r.values[i]? := (List.getElem?_eq_getElem (lastIndex?_lt h)).symm
      _ = (lastIndex? column r.columns).bind (r.values[·]?) := by rw [h]; rfl

/-- What is added last is found first. -/
theorem get?_push (r : Aligned) (column name : String) (v : Value) :
    (r.push column v).get? name = if column = name then some v else r.get? name := by
  rw [get?_eq_bind, get?_eq_bind, push, lastIndex?_append_singleton]
  split
  · simp [r.length_eq]
  · cases h : lastIndex? name r.columns with
    | none => rfl
    | some i => simp only [Option.bind_some, List.getElem?_append_left (lastIndex?_lt h)]

/-- The columns and the values of pairs. -/
def ofRow (r : Row) : Aligned :=
  ⟨r.columns, r.values, by rw [Row.columns, Row.values, List.length_map, List.length_map]⟩

/-- The pairs of columns and values. -/
def toRow (r : Aligned) : Row := ⟨r.columns.zip r.values⟩

theorem toRow_ofRow (r : Row) : (ofRow r).toRow = r :=
  congrArg Row.mk (List.zip_of_prod rfl rfl).symm

/-- Pushing on both lists is pushing a pair. -/
theorem ofRow_push (r : Row) (column : String) (v : Value) :
    ofRow (r.push column v) = (ofRow r).push column v := by
  ext1 <;> simp [ofRow, push, Row.push, Row.columns, Row.values]

/-- The search among the columns finds what the search among the pairs does. -/
theorem get?_ofRow (r : Row) (name : String) : (ofRow r).get? name = r.get? name := by
  obtain ⟨pairs⟩ := r
  induction pairs using List.reverseRecOn with
  | nil => rfl
  | append_singleton pairs p ih =>
    rw [show (⟨pairs ++ [p]⟩ : Row) = (⟨pairs⟩ : Row).push p.1 p.2 from rfl, ofRow_push, get?_push,
      Row.get?_push, ih]

/-- The two lists that pushes make. -/
def pushes (pairs : List (String × Value)) : Aligned :=
  pairs.foldl (fun r p => r.push p.1 p.2) empty

theorem pushes_eq_ofRow (pairs : List (String × Value)) :
    pushes pairs = ofRow (Row.pushes pairs) := by
  induction pairs using List.reverseRecOn with
  | nil => rfl
  | append_singleton pairs p ih =>
    rw [pushes_append_singleton, ofRow_push, ← ih, pushes, List.foldl_append]
    rfl

end Aligned

/-- The lookup finds the value at the last place of the name among the columns. -/
theorem get?_eq_values_lastIndex? (r : Row) (column : String) :
    r.get? column = (lastIndex? column r.columns).bind (r.values[·]?) := by
  rw [← Aligned.get?_ofRow, Aligned.get?_eq_bind]
  rfl

/-! ## The lookup and the object -/

/-- `members` are a row's object as it is read, and say of each name what the
    lookup says of it. -/
structure Decodes (r : Row) (members : List (String × Json)) : Prop where
  text : Json.read? r.toJson.print = some (.object members)
  sorted : Json.Sorted members
  present : ∀ c, (∃ j, (c, j) ∈ members) ↔ ∃ v, r.get? c = some v
  entry : ∀ c v, r.get? c = some v →
    ∃ j, Json.read? v.toJson.print = some j ∧ ∀ k, (c, k) ∈ members ↔ k = j

/-- A row has these pairs, whichever way it is looked at. -/
structure Holds (r : Row) (pairs : List (String × Value)) : Prop where
  cells : r.cells = pairs
  columns : r.columns = pairs.map Prod.fst
  values : r.values = pairs.map Prod.snd
  zip : r.columns.zip r.values = pairs
  size : r.size = pairs.length
  last : ∀ c v, r.get? c = some v ↔ LastPair c v pairs
  place : ∀ c, r.get? c = (lastIndex? c r.columns).bind (r.values[·]?)

theorem Mirrored.decodes {r : Row} (h : r.Mirrored) : r.Decodes r.members where
  text := read?_toJson r
  sorted := h.sorted
  present c := by
    constructor
    · rintro ⟨j, hj⟩
      obtain ⟨v, hv, -⟩ := (h.mem_iff c j).1 hj
      exact ⟨v, hv⟩
    · rintro ⟨v, hv⟩
      exact ⟨_, (h.mem_iff c _).2 ⟨v, hv, rfl⟩⟩
  entry c v hv := by
    have hentry := (h.mem_iff c _).2 ⟨v, hv, rfl⟩
    refine ⟨_, Json.read?_print v.toJson, fun k => ⟨fun hk => h.sorted.eq_of_mem hk hentry, ?_⟩⟩
    rintro rfl
    exact hentry

theorem holds_pushes (pairs : List (String × Value)) : (pushes pairs).Holds pairs where
  cells := cells_pushes pairs
  columns := congrArg (List.map Prod.fst) (cells_pushes pairs)
  values := congrArg (List.map Prod.snd) (cells_pushes pairs)
  zip := by
    rw [Row.columns, Row.values, cells_pushes]
    exact (List.zip_of_prod rfl rfl).symm
  size := congrArg List.length (cells_pushes pairs)
  last := get?_pushes_eq_some_iff pairs
  place := get?_eq_values_lastIndex? _

/-- **The lookup by name agrees with the row's object.**  Whatever is pushed,
    the row's text is that of an object; when it is read, each name is a member
    exactly when the lookup finds it, with what the text of the value found is
    read as.  The value found is that of the last pair of the name, and columns,
    values, pairs and size are of the pairs as they were pushed.  Kept as two
    lists, the row has the same pairs, and the same values are found. -/
theorem lookup_agrees_with_object (pairs : List (String × Value)) :
    (∃ members, (pushes pairs).Decodes members) ∧ (pushes pairs).Holds pairs ∧
      (Aligned.pushes pairs).toRow = pushes pairs ∧
      ∀ c, (Aligned.pushes pairs).get? c = (pushes pairs).get? c := by
  refine ⟨⟨_, (mirrored_pushes pairs).decodes⟩, holds_pushes pairs, ?_, fun c => ?_⟩
  · rw [Aligned.pushes_eq_ofRow, Aligned.toRow_ofRow]
  · rw [Aligned.pushes_eq_ofRow, Aligned.get?_ofRow]

end Row

end BoundSql
