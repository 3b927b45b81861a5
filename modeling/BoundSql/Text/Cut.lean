/-
  Text cut to a number of bytes.

  `cut` keeps whole characters only.  It goes back from the limit, byte by
  byte, to the next place between two characters (`lastBoundary`); what it
  keeps is the slice of the text up to there, which is text again since no
  character is cut (`isValid_lastBoundary`).
-/

namespace BoundSql.Text

/-- The last place between two characters, or at an end of the text, that is
    at most so many bytes from the start. -/
def lastBoundary (s : String) : Nat → Nat
  | 0 => 0
  | n + 1 => if (⟨n + 1⟩ : String.Pos.Raw).IsValid s then n + 1 else lastBoundary s n

theorem isValid_lastBoundary (s : String) (n : Nat) :
    (⟨lastBoundary s n⟩ : String.Pos.Raw).IsValid s := by
  induction n with
  | zero => exact String.Pos.Raw.isValid_zero
  | succ n ih =>
    unfold lastBoundary
    split
    · assumption
    · exact ih

/-- The longest beginning of whole characters of at most `limit` bytes. -/
def cut (limit : Nat) (s : String) : String :=
  if s.utf8ByteSize ≤ limit then s
  else (s.sliceTo (s.pos ⟨lastBoundary s limit⟩ (isValid_lastBoundary s limit))).copy

example : cut 4 "aé日" = "aé" := by decide +kernel

end BoundSql.Text
