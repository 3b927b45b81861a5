/-
  The values of a column by those of another.

  * `FirstOf`, `LastOf`: the first and the last of a list that have a property;
  * `KeyedBy`: what the pairs of rows are: one for each text of a key, in the
    order of the first rows, with the key of the first row of its text and the
    value of the last one; no other list is (`KeyedBy.unique`);
  * `Keyed.Sound`: each text has the place of its pair; adding a row keeps this,
    and adds the row to what the pairs are (`Keyed.Sound.putRow`,
    `KeyedBy.putRow`);
  * `Query.pluckKeyed_keyedBy`: plucking gives the pairs of the rows that are
    fetched, and never looks for a pair where there is none.
-/
import BoundSql.Proofs.CallOrder
import Mathlib.Data.List.Induction
import Mathlib.Data.List.Nodup

namespace BoundSql

/-! ## First and last -/

section

variable {α : Type} {p : α → Prop} {l : List α} {a b : α}

/-- The first of a list that has a property. -/
def FirstOf (p : α → Prop) (l : List α) (a : α) : Prop :=
  p a ∧ ∃ before after, l = before ++ a :: after ∧ ∀ b ∈ before, ¬ p b

/-- The last of a list that has a property. -/
def LastOf (p : α → Prop) (l : List α) (a : α) : Prop :=
  p a ∧ ∃ before after, l = before ++ a :: after ∧ ∀ b ∈ after, ¬ p b

theorem lastOf_iff_firstOf_reverse : LastOf p l a ↔ FirstOf p l.reverse a := by
  refine and_congr_right fun _ => ⟨?_, ?_⟩
  · rintro ⟨before, after, rfl, hafter⟩
    exact ⟨after.reverse, before.reverse, by simp, by simpa using hafter⟩
  · rintro ⟨after, before, hl, hafter⟩
    refine ⟨before.reverse, after.reverse, ?_, by simpa using hafter⟩
    rw [List.reverse_eq_iff] at hl
    simp [hl]

theorem FirstOf.unique (ha : FirstOf p l a) (hb : FirstOf p l b) : a = b := by
  classical
  have hfind {c : α} (hc : FirstOf p l c) : l.find? (p ·) = some c := by
    obtain ⟨hc, before, after, hl, hbefore⟩ := hc
    exact List.find?_eq_some_iff_append.2
      ⟨decide_eq_true hc, before, after, hl, by simpa using hbefore⟩
  exact Option.some.inj ((hfind ha).symm.trans (hfind hb))

theorem LastOf.unique (ha : LastOf p l a) (hb : LastOf p l b) : a = b :=
  (lastOf_iff_firstOf_reverse.1 ha).unique (lastOf_iff_firstOf_reverse.1 hb)

theorem FirstOf.mem (h : FirstOf p l a) : a ∈ l := by
  obtain ⟨-, before, after, rfl, -⟩ := h
  exact List.mem_append_right _ List.mem_cons_self

theorem FirstOf.congr {p' : α → Prop} (hp : ∀ b ∈ l, p b ↔ p' b) (h : FirstOf p l a) :
    FirstOf p' l a := by
  have ha := h.mem
  obtain ⟨hpa, before, after, rfl, hbefore⟩ := h
  refine ⟨(hp a ha).1 hpa, before, after, rfl, fun b hb => ?_⟩
  exact mt (hp b (List.mem_append_left _ hb)).2 (hbefore b hb)

theorem LastOf.congr {p' : α → Prop} (hp : ∀ b ∈ l, p b ↔ p' b) (h : LastOf p l a) :
    LastOf p' l a := by
  rw [lastOf_iff_firstOf_reverse] at h ⊢
  exact h.congr fun b hb => hp b (List.mem_reverse.1 hb)

/-- What comes later does not change which is the first. -/
theorem FirstOf.concat (h : FirstOf p l a) (b : α) : FirstOf p (l ++ [b]) a := by
  obtain ⟨ha, before, after, rfl, hbefore⟩ := h
  exact ⟨ha, before, after ++ [b], by simp, hbefore⟩

theorem LastOf.concat (h : LastOf p l a) (hb : ¬ p b) : LastOf p (l ++ [b]) a := by
  obtain ⟨ha, before, after, rfl, hafter⟩ := h
  refine ⟨ha, before, after ++ [b], by simp, ?_⟩
  rw [List.forall_mem_append]
  exact ⟨hafter, List.forall_mem_singleton.2 hb⟩

theorem firstOf_concat (hl : ∀ a ∈ l, ¬ p a) (hb : p b) : FirstOf p (l ++ [b]) b :=
  ⟨hb, l, [], rfl, hl⟩

theorem lastOf_concat (hb : p b) : LastOf p (l ++ [b]) b := ⟨hb, l, [], rfl, nofun⟩

/-- Without repetitions, a list with one more is the list, or it has one more. -/
theorem eraseDups_concat [DecidableEq α] (l : List α) (a : α) :
    (l ++ [a]).eraseDups = if a ∈ l then l.eraseDups else l.eraseDups ++ [a] := by
  rw [List.eraseDups_append]
  by_cases ha : a ∈ l <;> simp [List.removeAll, ha, List.eraseDups_cons]

theorem nodup_eraseDups [DecidableEq α] (l : List α) : l.eraseDups.Nodup := by
  induction l using List.reverseRecOn with
  | nil => exact List.nodup_nil
  | append_singleton l a ih =>
    rw [eraseDups_concat]
    split
    · exact ih
    · rename_i ha
      rw [← List.concat_eq_append]
      exact ih.concat (mt List.mem_eraseDups.1 ha)

theorem getElem?_concat (l : List α) (a : α) (i : Nat) :
    (l ++ [a])[i]? = if i = l.length then some a else l[i]? := by
  split
  · rename_i hi
    rw [hi, List.getElem?_concat_length]
  · rcases Nat.lt_or_gt_of_ne ‹_› with hi | hi
    · exact List.getElem?_append_left hi
    · have hlength : (l ++ [a]).length ≤ i := by
        rw [List.length_append]
        exact hi
      rw [List.getElem?_eq_none hlength, List.getElem?_eq_none (Nat.le_of_lt hi)]

end

/-! ## Pairs of rows -/

/-- The text of the key of a row, if it has a key. -/
def Row.keyText? (r : Row) (key : String) : Option String := (r.key? key).map Value.display

/-- The texts of the keys of rows, in order. -/
def keyTexts (key : String) (rows : List Row) : List String := rows.filterMap (·.keyText? key)

theorem keyTexts_concat (key : String) (rows : List Row) (r : Row) :
    keyTexts key (rows ++ [r]) = keyTexts key rows ++ (r.keyText? key).toList := by
  rw [keyTexts, List.filterMap_append]
  cases hr : r.keyText? key <;> simp [keyTexts, hr]

theorem mem_keyTexts {key text : String} {rows : List Row} :
    text ∈ keyTexts key rows ↔ ∃ r ∈ rows, r.keyText? key = some text := List.mem_filterMap

/-- The pairs of rows: one for each text of a key, in the order of the first
    rows with these texts; the key is that of the first row with its text, the
    value that of the last one, null if this row lacks the column. -/
structure KeyedBy (column key : String) (rows : List Row) (pairs : List (Value × Value)) :
    Prop where
  texts : pairs.map (·.1.display) = (keyTexts key rows).eraseDups
  first : ∀ p ∈ pairs, ∃ r,
    FirstOf (·.keyText? key = some p.1.display) rows r ∧ r.key? key = some p.1
  last : ∀ p ∈ pairs, ∃ r,
    LastOf (·.keyText? key = some p.1.display) rows r ∧ p.2 = (r.get? column).getD .null

namespace KeyedBy

variable {column key : String} {rows : List Row} {pairs others : List (Value × Value)}

theorem eq_of_display_eq (h : KeyedBy column key rows pairs) (h' : KeyedBy column key rows others)
    {p q : Value × Value} (hp : p ∈ pairs) (hq : q ∈ others)
    (htext : p.1.display = q.1.display) : p = q := by
  obtain ⟨r, hr, hkey⟩ := h.first p hp
  obtain ⟨r', hr', hkey'⟩ := h'.first q hq
  obtain ⟨s, hs, hvalue⟩ := h.last p hp
  obtain ⟨s', hs', hvalue'⟩ := h'.last q hq
  rw [htext] at hr hs
  obtain rfl := hr.unique hr'
  obtain rfl := hs.unique hs'
  exact Prod.ext (Option.some.inj (hkey.symm.trans hkey')) (hvalue.trans hvalue'.symm)

/-- Rows have one list of pairs only. -/
theorem unique (h : KeyedBy column key rows pairs) (h' : KeyedBy column key rows others) :
    pairs = others := by
  have htexts : pairs.map (·.1.display) = others.map (·.1.display) := h.texts.trans h'.texts.symm
  have hlength : pairs.length = others.length := by simpa using congrArg List.length htexts
  refine List.ext_getElem hlength fun i hi hi' => ?_
  refine h.eq_of_display_eq h' (List.getElem_mem hi) (List.getElem_mem hi') ?_
  have htext := congrArg (·[i]?) htexts
  simpa [hi, hi'] using htext

theorem mem_texts_iff (h : KeyedBy column key rows pairs) {text : String} :
    (∃ p ∈ pairs, p.1.display = text) ↔ ∃ r ∈ rows, r.keyText? key = some text := by
  rw [← List.mem_map, h.texts, List.mem_eraseDups, mem_keyTexts]

end KeyedBy

namespace Keyed

/-! ## Places -/

/-- The texts of the keys, in order. -/
def texts (t : Keyed) : List String := t.pairs.map (·.1.display)

/-- Each text has the place of its pair. -/
def Sound (t : Keyed) : Prop := ∀ text i, t.places.lookup text = some i ↔ t.texts[i]? = some text

variable {column key : String} {t : Keyed} {k v : Value} {i : Nat}

theorem sound_empty : ({} : Keyed).Sound := by
  intro text i
  simp [texts]

/-- Where a text has a place there is a pair. -/
theorem Sound.lookup_lt (h : t.Sound) {text : String} (hi : t.places.lookup text = some i) :
    i < t.pairs.length := by
  obtain ⟨hlt, -⟩ := List.getElem?_eq_some_iff.1 ((h text i).1 hi)
  rwa [texts, List.length_map] at hlt

theorem Sound.lookup_eq_none_iff (h : t.Sound) {text : String} :
    t.places.lookup text = none ↔ text ∉ t.texts := by
  rw [List.mem_iff_getElem?, not_exists, Option.eq_none_iff_forall_ne_some]
  exact forall_congr' fun i => not_congr (h text i)

theorem put_of_lookup_eq_some (hi : t.places.lookup k.display = some i) :
    t.put k v = { t with pairs := t.pairs.modify i fun p => (p.1, v) } := by
  rw [put, hi]

theorem put_of_lookup_eq_none (hnone : t.places.lookup k.display = none) :
    t.put k v = ⟨t.pairs ++ [(k, v)], (k.display, t.pairs.length) :: t.places⟩ := by
  rw [put, hnone]

/-- The text of a key is there afterwards: where it was, or last. -/
theorem Sound.texts_put (h : t.Sound) (k v : Value) :
    (t.put k v).texts = if k.display ∈ t.texts then t.texts else t.texts ++ [k.display] := by
  cases hplace : t.places.lookup k.display with
  | some i =>
    rw [put_of_lookup_eq_some hplace, if_pos (List.mem_of_getElem? ((h _ _).1 hplace)), texts,
      texts]
    refine List.ext_getElem? fun j => ?_
    simp only [List.getElem?_map, List.getElem?_modify, Option.map_eq_map, Option.map_map]
    congr 1
    funext p
    simp only [Function.comp_apply]
    split <;> rfl
  | none =>
    rw [put_of_lookup_eq_none hplace, if_neg (h.lookup_eq_none_iff.1 hplace), texts, texts,
      List.map_append, List.map_singleton]

theorem Sound.put (h : t.Sound) (k v : Value) : (t.put k v).Sound := by
  intro text i
  rw [h.texts_put]
  cases hplace : t.places.lookup k.display with
  | some j =>
    rw [put_of_lookup_eq_some hplace, if_pos (List.mem_of_getElem? ((h _ _).1 hplace))]
    exact h text i
  | none =>
    have hnew := h.lookup_eq_none_iff.1 hplace
    have hlength : t.texts.length = t.pairs.length := List.length_map _
    rw [put_of_lookup_eq_none hplace, if_neg hnew, List.lookup_cons, getElem?_concat, hlength]
    by_cases htext : text = k.display
    · -- Only the last place has the new text.
      subst htext
      have hnone : t.texts[i]? ≠ some k.display := fun hi => hnew (List.mem_of_getElem? hi)
      by_cases hi : i = t.pairs.length <;> simp [hi, hnone, eq_comm]
    · -- At the last place no other text is found.
      have hbeq : (text == k.display) = false := by simpa using htext
      have hlast : t.texts[t.pairs.length]? = none := by simp [← hlength]
      by_cases hi : i = t.pairs.length
      · simp [hbeq, hi, h text, hlast, Ne.symm htext]
      · simp [hbeq, hi, h text]

/-- A pair is as it was if it has another text; that of the key has the new
    value, and the key of the pair that there was, if there was one. -/
theorem Sound.mem_put (h : t.Sound) {p : Value × Value} (hp : p ∈ (t.put k v).pairs) :
    (p ∈ t.pairs ∧ p.1.display ≠ k.display) ∨
      (p.1.display = k.display ∧ p.2 = v ∧
        ((∃ old ∈ t.pairs, old.1 = p.1) ∨ (p.1 = k ∧ k.display ∉ t.texts))) := by
  cases hplace : t.places.lookup k.display with
  | some i =>
    rw [put_of_lookup_eq_some hplace] at hp
    obtain ⟨j, hj⟩ := List.mem_iff_getElem?.1 hp
    simp only [List.getElem?_modify, Option.map_eq_map, Option.map_eq_some_iff] at hj
    obtain ⟨old, hold, rfl⟩ := hj
    have htext : t.texts[j]? = some old.1.display := by rw [texts, List.getElem?_map, hold]; rfl
    have hmem := List.mem_of_getElem? hold
    by_cases hij : i = j
    · subst hij
      rw [if_pos rfl]
      have hsame : old.1.display = k.display :=
        Option.some.inj (htext.symm.trans ((h _ _).1 hplace))
      exact .inr ⟨hsame, rfl, .inl ⟨old, hmem, rfl⟩⟩
    · rw [if_neg hij]
      refine .inl ⟨hmem, fun hsame => hij ?_⟩
      -- A text has one place only.
      have hj := (h _ _).2 (htext.trans (congrArg some hsame))
      exact Option.some.inj (hplace.symm.trans hj)
  | none =>
    have hnew := h.lookup_eq_none_iff.1 hplace
    rw [put_of_lookup_eq_none hplace] at hp
    rcases List.mem_append.1 hp with hp | hp
    · refine .inl ⟨hp, fun hsame => hnew ?_⟩
      exact List.mem_map.2 ⟨p, hp, hsame⟩
    · obtain rfl := List.mem_singleton.1 hp
      exact .inr ⟨rfl, rfl, .inr ⟨rfl, hnew⟩⟩

/-! ## One row more -/

theorem putRow_of_key?_eq_none {r : Row} (hr : r.key? key = none) :
    t.putRow column key r = t := by
  rw [putRow, hr]

theorem putRow_of_key?_eq_some {r : Row} {k : Value} (hr : r.key? key = some k) :
    t.putRow column key r = t.put k ((r.get? column).getD .null) := by
  rw [putRow, hr]

theorem Sound.putRow (h : t.Sound) (r : Row) : (t.putRow column key r).Sound := by
  cases hr : r.key? key with
  | none => rwa [putRow_of_key?_eq_none hr]
  | some k =>
    rw [putRow_of_key?_eq_some hr]
    exact h.put k _

end Keyed

/-- One more row makes the pairs those of one more row. -/
theorem KeyedBy.putRow {column key : String} {rows : List Row} {t : Keyed} (hs : t.Sound)
    (h : KeyedBy column key rows t.pairs) (r : Row) :
    KeyedBy column key (rows ++ [r]) (t.putRow column key r).pairs := by
  cases hr : r.key? key with
  | none =>
    have hno : r.keyText? key = none := by rw [Row.keyText?, hr, Option.map_none]
    rw [Keyed.putRow_of_key?_eq_none hr]
    refine ⟨?_, fun p hp => ?_, fun p hp => ?_⟩
    · rw [h.texts, keyTexts_concat, hno, Option.toList_none, List.append_nil]
    · obtain ⟨r', hr', hkey⟩ := h.first p hp
      exact ⟨r', hr'.concat r, hkey⟩
    · obtain ⟨r', hr', hvalue⟩ := h.last p hp
      refine ⟨r', hr'.concat ?_, hvalue⟩
      rw [hno]
      exact nofun
  | some k =>
    have htext : r.keyText? key = some k.display := by rw [Row.keyText?, hr, Option.map_some]
    rw [Keyed.putRow_of_key?_eq_some hr]
    refine ⟨?_, fun p hp => ?_, fun p hp => ?_⟩
    · rw [← Keyed.texts, hs.texts_put, Keyed.texts, h.texts, keyTexts_concat, htext,
        Option.toList_some, eraseDups_concat]
      simp only [List.mem_eraseDups]
    · rcases hs.mem_put hp with ⟨hold, -⟩ | ⟨hdisplay, -, ⟨old, hold, hkey⟩ | ⟨rfl, hnew⟩⟩
      · obtain ⟨r', hr', hkey⟩ := h.first p hold
        exact ⟨r', hr'.concat r, hkey⟩
      · obtain ⟨r', hr', hkey'⟩ := h.first old hold
        rw [hkey] at hr' hkey'
        exact ⟨r', hr'.concat r, hkey'⟩
      · refine ⟨r, firstOf_concat (fun r' hr' hsame => hnew ?_) htext, hr⟩
        exact List.mem_map.2 (h.mem_texts_iff.2 ⟨r', hr', hsame⟩)
    · rcases hs.mem_put hp with ⟨hold, hne⟩ | ⟨hdisplay, hvalue, -⟩
      · obtain ⟨r', hr', hvalue⟩ := h.last p hold
        refine ⟨r', hr'.concat fun hsame => hne ?_, hvalue⟩
        exact (Option.some.inj (htext.symm.trans hsame)).symm
      · exact ⟨r, lastOf_concat (htext.trans (congrArg some hdisplay.symm)), hvalue⟩

/-! ## All rows -/

namespace Keyed

theorem ofRows_concat (column key : String) (rows : List Row) (r : Row) :
    ofRows column key (rows ++ [r]) = (ofRows column key rows).putRow column key r := by
  rw [ofRows, List.foldl_append]
  rfl

theorem sound_ofRows (column key : String) (rows : List Row) : (ofRows column key rows).Sound := by
  induction rows using List.reverseRecOn with
  | nil => exact sound_empty
  | append_singleton rows r ih =>
    rw [ofRows_concat]
    exact ih.putRow r

end Keyed

theorem keyedBy_keyed (column key : String) (rows : List Row) :
    KeyedBy column key rows (keyed column key rows) := by
  induction rows using List.reverseRecOn with
  | nil => exact ⟨rfl, nofun, nofun⟩
  | append_singleton rows r ih =>
    rw [keyed, Keyed.ofRows_concat]
    exact ih.putRow (Keyed.sound_ofRows column key rows) r

/-- A later key with the same text, in a row that lacks the column. -/
example : keyed "name" "id" [⟨[("id", .int 1), ("name", .text "a")]⟩, ⟨[("id", .text "1")]⟩] =
    [(.int 1, .null)] := by decide

namespace Query

variable {σ : Type}

theorem run_pluckKeyed (column key : String) (conn : Connection σ) (q : Query) (s : Session σ) :
    s.run (q.pluckKeyed column key conn) = match s.run (q.rows conn) with
      | (.ok rows, s) => (.ok (keyed column key rows), s)
      | (.error e, s) => (.error e, s) := by
  rw [pluckKeyed, Session.run_bind]
  cases s.run (q.rows conn) with
  | mk result s => cases result <;> rfl

/-- Plucking by a key fails as fetching does.  Otherwise it gives the pairs of
    the rows that are fetched; no other list is this.  After any of the rows
    what has been found of a text is the place of a pair. -/
theorem pluckKeyed_keyedBy (column key : String) (conn : Connection σ) (q : Query)
    (s : Session σ) :
    match s.run (q.rows conn) with
    | (.error e, s') => s.run (q.pluckKeyed column key conn) = (.error e, s')
    | (.ok rows, s') =>
      ∃ pairs, s.run (q.pluckKeyed column key conn) = (.ok pairs, s') ∧
        KeyedBy column key rows pairs ∧
        (∀ others, KeyedBy column key rows others → others = pairs) ∧
        ∀ before after, rows = before ++ after → ∀ text i,
          (Keyed.ofRows column key before).places.lookup text = some i →
            i < (Keyed.ofRows column key before).pairs.length := by
  rw [run_pluckKeyed]
  cases s.run (q.rows conn) with
  | mk result s' =>
    cases result with
    | error e => rfl
    | ok rows =>
      have h := keyedBy_keyed column key rows
      refine ⟨_, rfl, h, fun others hothers => hothers.unique h, ?_⟩
      exact fun before _ _ _ _ hi => (Keyed.sound_ofRows column key before).lookup_lt hi

end Query

end BoundSql
