/-
  Placeholders in a text, and texts put in their place.

  * `count` counts the placeholders; `fill` replaces them in one pass from the
    left, and does not look into what it has put in;
  * `Fills s ts r`: there are as many placeholders in `s` as texts in `ts`, and
    filling gives `r`; `FillsEach` is the same for texts one after the other;
  * both are compatible with joining texts (`Fills.append`,
    `FillsEach.intercalate`), so that a text is filled part by part.
-/
import Mathlib.Data.List.Basic

namespace BoundSql.Placeholder

/-- The number of placeholders. -/
def count (s : String) : Nat := s.toList.count '?'

/-- A text without placeholders. -/
def Free (s : String) : Prop := '?' ∉ s.toList

instance (s : String) : Decidable (Free s) := inferInstanceAs (Decidable ('?' ∉ s.toList))

/-- Replaces each placeholder by the next text; those for which there is none
    stay. -/
def fillChars : List Char → List String → List Char
  | [], _ => []
  | c :: cs, ts =>
    if c = '?' then (ts.headD "?").toList ++ fillChars cs ts.tail else c :: fillChars cs ts

/-- Replaces the placeholders of a text in one pass. -/
def fill (s : String) (ts : List String) : String := String.ofList (fillChars s.toList ts)

/-! ## One pass -/

theorem fillChars_append {cs ds : List Char} {ts us : List String}
    (h : cs.count '?' = ts.length) :
    fillChars (cs ++ ds) (ts ++ us) = fillChars cs ts ++ fillChars ds us := by
  induction cs generalizing ts with
  | nil =>
    obtain rfl : ts = [] := List.length_eq_zero_iff.1 h.symm
    rfl
  | cons c cs ih =>
    by_cases hc : c = '?'
    · cases ts with
      | nil => simp [hc] at h
      | cons t ts =>
        have hts : cs.count '?' = ts.length := by simpa [hc] using h
        simp [fillChars, hc, ih hts]
    · have hts : cs.count '?' = ts.length := by
        rwa [List.count_cons_of_ne hc] at h
      simp [fillChars, hc, ih hts]

theorem fillChars_of_notMem {cs : List Char} {ts : List String} (h : '?' ∉ cs) :
    fillChars cs ts = cs := by
  induction cs with
  | nil => rfl
  | cons c cs ih =>
    rw [List.mem_cons, not_or] at h
    have hc : c ≠ '?' := fun e => h.1 e.symm
    rw [fillChars, if_neg hc, ih h.2]

/-- Placeholders put in the place of placeholders change nothing. -/
theorem fillChars_self {cs : List Char} {ts : List String} (h : ∀ t ∈ ts, t = "?") :
    fillChars cs ts = cs := by
  induction cs generalizing ts with
  | nil => rfl
  | cons c cs ih =>
    have hhead : ts.headD "?" = "?" := by
      cases ts with
      | nil => rfl
      | cons t ts => exact h t List.mem_cons_self
    by_cases hc : c = '?'
    · rw [fillChars, if_pos hc, hhead, ih fun t ht => h t (List.mem_of_mem_tail ht), hc]
      rfl
    · rw [fillChars, if_neg hc, ih h]

theorem fill_self {s : String} {ts : List String} (h : ∀ t ∈ ts, t = "?") : fill s ts = s := by
  rw [fill, fillChars_self h, String.ofList_toList]

/-! ## Texts filled exactly -/

/-- The texts `ts` are as many as the placeholders of `s` and make `r` of it. -/
structure Fills (s : String) (ts : List String) (r : String) : Prop where
  count_eq : count s = ts.length
  fill_eq : fill s ts = r

/-- Texts filled one after the other. -/
inductive FillsEach : List String → List String → List String → Prop
  | nil : FillsEach [] [] []
  | cons {s ts r ss us rs} : Fills s ts r → FillsEach ss us rs →
      FillsEach (s :: ss) (ts ++ us) (r :: rs)

namespace Fills

theorem free {s : String} (h : Free s) : Fills s [] s where
  count_eq := List.count_eq_zero.2 h
  fill_eq := by rw [fill, fillChars_of_notMem h, String.ofList_toList]

/-- A placeholder is filled by its text. -/
theorem one (t : String) : Fills "?" [t] t where
  count_eq := rfl
  fill_eq := by
    have h : fillChars "?".toList [t] = t.toList ++ [] := rfl
    rw [fill, h, List.append_nil, String.ofList_toList]

theorem append {s s' r r' : String} {ts us : List String} (h : Fills s ts r)
    (h' : Fills s' us r') : Fills (s ++ s') (ts ++ us) (r ++ r') where
  count_eq := by
    simp [count, ← h.count_eq, ← h'.count_eq]
  fill_eq := by
    rw [fill, String.toList_append, fillChars_append h.count_eq, String.ofList_append]
    exact congrArg₂ (· ++ ·) h.fill_eq h'.fill_eq

/-- A text without placeholders in front. -/
theorem free_append {s s' r : String} {ts : List String} (hs : Free s) (h : Fills s' ts r) :
    Fills (s ++ s') ts (s ++ r) :=
  (free hs).append h

/-- A text without placeholders behind. -/
theorem append_free {s s' r : String} {ts : List String} (h : Fills s ts r) (hs : Free s') :
    Fills (s ++ s') ts (r ++ s') := by
  simpa using h.append (free hs)

end Fills

namespace FillsEach

theorem free {ss : List String} (h : ∀ s ∈ ss, Free s) : FillsEach ss [] ss := by
  induction ss with
  | nil => exact .nil
  | cons s ss ih =>
    exact .cons (.free (h s List.mem_cons_self)) (ih fun s hs => h s (List.mem_cons_of_mem _ hs))

theorem singleton {s r : String} {ts : List String} (h : Fills s ts r) : FillsEach [s] ts [r] := by
  simpa using cons h nil

theorem append {ss ss' rs rs' ts us : List String} (h : FillsEach ss ts rs)
    (h' : FillsEach ss' us rs') : FillsEach (ss ++ ss') (ts ++ us) (rs ++ rs') := by
  induction h with
  | nil => exact h'
  | cons hs _ ih => rw [List.append_assoc]; exact .cons hs ih

/-- Each text made of an item is filled by the texts of that item. -/
theorem map {α : Type} {s r : α → String} {ts : α → List String} {as : List α}
    (h : ∀ a ∈ as, Fills (s a) (ts a) (r a)) :
    FillsEach (as.map s) (as.flatMap ts) (as.map r) := by
  induction as with
  | nil => exact .nil
  | cons a as ih =>
    exact .cons (h a List.mem_cons_self) (ih fun b hb => h b (List.mem_cons_of_mem _ hb))

/-- Each text made of an item is filled by one text. -/
theorem mapOne {α : Type} {s t r : α → String} {as : List α}
    (h : ∀ a ∈ as, Fills (s a) [t a] (r a)) : FillsEach (as.map s) (as.map t) (as.map r) := by
  have hall : FillsEach (as.map s) (as.flatMap fun a => [t a]) (as.map r) := .map h
  rwa [← List.map_eq_flatMap] at hall

theorem join {ss ts rs : List String} (h : FillsEach ss ts rs) :
    Fills (String.join ss) ts (String.join rs) := by
  induction h with
  | nil => exact .free (by decide)
  | cons hs _ ih => rw [String.join_cons, String.join_cons]; exact hs.append ih

theorem intercalate (sep : String) (hsep : Free sep) {ss ts rs : List String}
    (h : FillsEach ss ts rs) : Fills (sep.intercalate ss) ts (sep.intercalate rs) := by
  induction h with
  | nil => exact .free (by rw [String.intercalate_nil]; decide)
  | cons hs h ih =>
    -- No separator follows the last text.
    cases h with
    | nil => simpa using hs
    | cons =>
      rw [String.intercalate_cons_cons, String.intercalate_cons_cons]
      exact (hs.append_free hsep).append ih

end FillsEach

/-- What is put in is not looked into. -/
example : fill "a = ? AND b = ?" ["'?'", "2"] = "a = '?' AND b = 2" := by decide +kernel

end BoundSql.Placeholder
