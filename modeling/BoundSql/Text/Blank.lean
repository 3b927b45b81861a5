/-
  White space, and text without it at its ends.

  `isBlank` is the Unicode property `White_Space`; `trim` removes blanks in
  front and behind, and `trimBy` does so for any notion of blank.
-/

namespace BoundSql.Text

/-- The characters that count as white space. -/
def isBlank (c : Char) : Bool :=
  let n := c.toNat
  (0x9 ≤ n && n ≤ 0xd) || n == 0x20 || n == 0x85 || n == 0xa0 || n == 0x1680 ||
    (0x2000 ≤ n && n ≤ 0x200a) || n == 0x2028 || n == 0x2029 || n == 0x202f || n == 0x205f ||
    n == 0x3000

/-- The text between the characters at its ends that count as blank. -/
def trimBy (blank : Char → Bool) (cs : List Char) : List Char :=
  ((cs.dropWhile blank).reverse.dropWhile blank).reverse

/-- The text between the blanks at its ends. -/
def trim (cs : List Char) : List Char := trimBy isBlank cs

section Trim

variable {blank : Char → Bool} {cs : List Char}

theorem dropWhile_of_not_blank (hne : cs ≠ []) (h : ∀ c ∈ cs, blank c = false) (ds : List Char) :
    (cs ++ ds).dropWhile blank = cs ++ ds := by
  obtain ⟨c, cs, rfl⟩ := List.exists_cons_of_ne_nil hne
  rw [List.cons_append, List.dropWhile_cons_of_neg (by simp [h c List.mem_cons_self])]

/-- Blanks around text without blanks are removed. -/
theorem trimBy_append {before after : List Char} (hbefore : ∀ c ∈ before, blank c = true)
    (hne : cs ≠ []) (h : ∀ c ∈ cs, blank c = false) (hafter : ∀ c ∈ after, blank c = true) :
    trimBy blank (before ++ (cs ++ after)) = cs := by
  have hback : ∀ c ∈ cs.reverse, blank c = false := fun c hc => h c (List.mem_reverse.1 hc)
  have hend := dropWhile_of_not_blank (List.reverse_ne_nil_iff.2 hne) hback []
  rw [List.append_nil] at hend
  rw [trimBy, List.dropWhile_append_of_pos hbefore, dropWhile_of_not_blank hne h,
    List.reverse_append, List.dropWhile_append_of_pos (by simpa using hafter), hend,
    List.reverse_reverse]

end Trim

end BoundSql.Text
