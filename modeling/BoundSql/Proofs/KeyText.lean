/-
  Which keys are one.

  Keys are recognised by their texts.  Of two integers, two truth values or two
  texts these differ; the text of bytes tells only how many there are.

  * `KeyType` are the types of which keys can be; `Value.SameKey` says, without
    their texts, when two values of one type are one key
    (`Value.display_eq_iff`);
  * `Query.pluckKeyed_sameKey`: the pairs that are plucked from rows with keys
    of one type; `Query.pluckKeyed_loses_key`: a key that is not among them.
-/
import BoundSql.Connection.Scripted
import BoundSql.Proofs.Keyed
import BoundSql.Proofs.Refusal
import Mathlib

namespace BoundSql

/-- The types of value that can be told apart as keys, and bytes. -/
inductive KeyType where
  | int
  | bool
  | text
  | blob
deriving DecidableEq

/-! ## Texts of one type -/

namespace Value

/-- The type of a key. -/
def keyType? : Value → Option KeyType
  | .int _ => some .int
  | .bool _ => some .bool
  | .text _ => some .text
  | .blob _ => some .blob
  | .null | .float _ => none

/-- Whether values are one key. Of bytes only the number counts. -/
def SameKey : Value → Value → Prop
  | .blob bytes, .blob others => bytes.length = others.length
  | v, w => v = w

theorem SameKey.eq {v w : Value} (h : v.SameKey w) (hv : v.keyType? ≠ some .blob) : v = w := by
  cases v with
  | blob bytes => exact absurd rfl hv
  | _ => exact h

theorem display_int_inj {m n : Int64} : (int m).display = (int n).display ↔ m = n := by
  simp only [display, Int.toString_eq_repr, Int.repr_inj, Int64.toInt_inj]

theorem display_bool_inj {a b : Bool} : (bool a).display = (bool b).display ↔ a = b := by
  cases a <;> cases b <;> decide

/-- What stands around the number of bytes is always the same. -/
theorem display_blob_eq_iff {bytes others : List UInt8} :
    (blob bytes).display = (blob others).display ↔ bytes.length = others.length := by
  simp only [display, String.append_left_inj, String.append_right_inj, Nat.toString_eq_repr,
    Nat.repr_inj]

/-- Values of one type have one text if and only if they are one key. -/
theorem display_eq_iff {v w : Value} {t : KeyType} (hv : v.keyType? = some t)
    (hw : w.keyType? = some t) : v.display = w.display ↔ v.SameKey w := by
  cases v <;> cases hv <;> cases w <;> cases hw
  case bool.refl.bool.refl => simp only [SameKey, display_bool_inj, bool.injEq]
  case int.refl.int.refl => simp only [SameKey, display_int_inj, int.injEq]
  case text.refl.text.refl => simp only [SameKey, display, text.injEq]
  case blob.refl.blob.refl => exact display_blob_eq_iff

end Value

/-! ## Pairs of rows with keys of one type -/

/-- Whether a row has a key that is one with a value. -/
def Row.IsFor (r : Row) (key : String) (v : Value) : Prop := ∃ k, r.key? key = some k ∧ k.SameKey v

/-- All keys of rows are of one type. -/
def KeysOfType (key : String) (rows : List Row) (t : KeyType) : Prop :=
  ∀ r ∈ rows, ∀ k, r.key? key = some k → k.keyType? = some t

instance (key : String) (rows : List Row) (t : KeyType) : Decidable (KeysOfType key rows t) :=
  decidable_of_iff (∀ r ∈ rows, (r.key? key).all (fun k => decide (k.keyType? = some t)) = true)
    (by simp only [KeysOfType, Option.all_eq_true, decide_eq_true_eq])

theorem Row.keyText?_eq_some_iff {r : Row} {key text : String} :
    r.keyText? key = some text ↔ ∃ k, r.key? key = some k ∧ k.display = text :=
  Option.map_eq_some_iff

/-- Among rows with keys of one type those with the text of a key are those
    that have this key. -/
theorem KeysOfType.keyText?_iff_isFor {key : String} {rows : List Row} {t : KeyType}
    (ht : KeysOfType key rows t) {r : Row} (hr : r ∈ rows) {v : Value} (hv : v.keyType? = some t) :
    r.keyText? key = some v.display ↔ r.IsFor key v := by
  rw [Row.keyText?_eq_some_iff, Row.IsFor]
  exact exists_congr fun k => and_congr_right fun hk => Value.display_eq_iff (ht r hr k hk) hv

namespace KeyedBy

variable {column key : String} {rows : List Row} {pairs : List (Value × Value)} {t : KeyType}

/-- No key has two pairs. -/
theorem nodup_keys (h : KeyedBy column key rows pairs) : (pairs.map Prod.fst).Nodup := by
  refine List.Nodup.of_map Value.display ?_
  rw [List.map_map]
  exact h.texts ▸ nodup_eraseDups _

/-- The key of a pair is that of a row, so it is of the type of all. -/
theorem keyType (h : KeyedBy column key rows pairs) (ht : KeysOfType key rows t)
    {p : Value × Value} (hp : p ∈ pairs) : p.1.keyType? = some t := by
  obtain ⟨r, hr, hkey⟩ := h.first p hp
  exact ht r hr.mem p.1 hkey

/-- Each row is for one pair. -/
theorem existsUnique_sameKey (h : KeyedBy column key rows pairs) (ht : KeysOfType key rows t)
    {r : Row} (hr : r ∈ rows) {k : Value} (hk : r.key? key = some k) :
    ∃! p, p ∈ pairs ∧ k.SameKey p.1 := by
  have hsame {p : Value × Value} (hp : p ∈ pairs) : k.display = p.1.display ↔ k.SameKey p.1 :=
    Value.display_eq_iff (ht r hr k hk) (h.keyType ht hp)
  obtain ⟨p, hp, htext⟩ := h.mem_texts_iff.2 ⟨r, hr, Row.keyText?_eq_some_iff.2 ⟨k, hk, rfl⟩⟩
  refine ⟨p, ⟨hp, (hsame hp).1 htext.symm⟩, ?_⟩
  rintro p' ⟨hp', hkey⟩
  exact h.eq_of_display_eq h hp' hp (((hsame hp').2 hkey).symm.trans htext.symm)

/-- Each pair has the key of the first row it is for, and the value of the
    last. -/
theorem isFor (h : KeyedBy column key rows pairs) (ht : KeysOfType key rows t)
    {p : Value × Value} (hp : p ∈ pairs) :
    (∃ r, FirstOf (·.IsFor key p.1) rows r ∧ r.key? key = some p.1) ∧
      ∃ r, LastOf (·.IsFor key p.1) rows r ∧ p.2 = (r.get? column).getD .null := by
  have htext : ∀ r ∈ rows, r.keyText? key = some p.1.display ↔ r.IsFor key p.1 :=
    fun r hr => ht.keyText?_iff_isFor hr (h.keyType ht hp)
  obtain ⟨r, hr, hkey⟩ := h.first p hp
  obtain ⟨r', hr', hvalue⟩ := h.last p hp
  exact ⟨⟨r, hr.congr htext, hkey⟩, r', hr'.congr htext, hvalue⟩

end KeyedBy

namespace Query

/-- Let the keys of the rows that are fetched be of one type.  No key is plucked
    twice.  A row with a key is for one pair; the key of this is that of the row,
    unless both are bytes, equally many.  A pair has the key of the first row it
    is for, and the value of the last. -/
theorem pluckKeyed_sameKey {σ : Type} {conn : Connection σ} {key : String} {q : Query}
    {s s' : Session σ} {rows : List Row} {t : KeyType} (column : String)
    (hrows : s.run (q.rows conn) = (.ok rows, s')) (ht : KeysOfType key rows t) :
    ∃ pairs, s.run (q.pluckKeyed column key conn) = (.ok pairs, s') ∧
      (pairs.map Prod.fst).Nodup ∧
      (∀ r ∈ rows, ∀ k, r.key? key = some k → ∃! p, p ∈ pairs ∧ k.SameKey p.1) ∧
      (t ≠ .blob → ∀ r ∈ rows, ∀ k, r.key? key = some k → k ∈ pairs.map Prod.fst) ∧
      ∀ p ∈ pairs, (∃ r, FirstOf (·.IsFor key p.1) rows r ∧ r.key? key = some p.1) ∧
        ∃ r, LastOf (·.IsFor key p.1) rows r ∧ p.2 = (r.get? column).getD .null := by
  have h := keyedBy_keyed column key rows
  refine ⟨keyed column key rows, by rw [run_pluckKeyed, hrows], h.nodup_keys, ?_, ?_, ?_⟩
  · exact fun r hr k hk => h.existsUnique_sameKey ht hr hk
  · intro hblob r hr k hk
    obtain ⟨p, ⟨hp, hkey⟩, -⟩ := h.existsUnique_sameKey ht hr hk
    have hother : k.keyType? ≠ some .blob := by
      rw [ht r hr k hk]
      exact fun h => hblob (Option.some.inj h)
    exact hkey.eq hother ▸ List.mem_map_of_mem hp
  · exact fun p hp => h.isFor ht hp

/-- A row without a key between rows with two keys. -/
theorem pluckKeyed_sameKey_integers :
    let q := Edit.runAll [.source "users"] .fresh
    let rows : List Row := [⟨[("id", .int 1), ("name", .text "a")]⟩,
      ⟨[("id", .null), ("name", .text "b")]⟩, ⟨[("id", .int 2), ("name", .text "c")]⟩,
      ⟨[("id", .int 1), ("name", .text "d")]⟩]
    let s : Session Scripted := { state := { script := { rows := rows } } }
    ∃ s' pairs, s.run (q.rows scripted) = (.ok rows, s') ∧ KeysOfType "id" rows .int ∧
      s.run (q.pluckKeyed "name" "id" scripted) = (.ok pairs, s') ∧
      (pairs.map Prod.fst).Nodup ∧ Value.int 2 ∈ pairs.map Prod.fst ∧
      pairs = [(.int 1, .text "d"), (.int 2, .text "c")] := by
  intro q rows s
  have hrows : s.run (q.rows scripted) = (.ok rows, (s.run (q.rows scripted)).2) := rfl
  have ht : KeysOfType "id" rows .int := by decide
  obtain ⟨pairs, hrun, hnodup, -, hkeys, -⟩ := pluckKeyed_sameKey "name" hrows ht
  have hmem : Value.int 2 ∈ pairs.map Prod.fst := hkeys nofun rows[2] (by decide) _ rfl
  have hpairs := congrArg Prod.fst hrun
  exact ⟨_, pairs, hrows, ht, hrun, hnodup, hmem, (Except.ok.inj hpairs).symm⟩

/-- Of two keys that are bytes, equally many, the second is not plucked. -/
theorem pluckKeyed_loses_key :
    let q := Edit.runAll [.source "users"] .fresh
    let first : Row := ⟨[("id", .blob [1]), ("name", .text "a")]⟩
    let second : Row := ⟨[("id", .blob [2]), ("name", .text "b")]⟩
    let s : Session Scripted := { state := { script := { rows := [first, second] } } }
    let pairs := [(Value.blob [1], Value.text "b")]
    ∃ s', s.run (q.rows scripted) = (.ok [first, second], s') ∧
      KeysOfType "id" [first, second] .blob ∧
      s.run (q.pluckKeyed "name" "id" scripted) = (.ok pairs, s') ∧
      second.key? "id" = some (.blob [2]) ∧ Value.blob [2] ∉ pairs.map Prod.fst := by
  intro q first second s pairs
  exact ⟨(s.run (q.rows scripted)).2, rfl, by decide, rfl, rfl, by decide⟩

end Query

end BoundSql
