/-
  How much of a statement the log shows.

  * `Text.LongestPrefix`: the beginning of a text that takes at most a number of
    bytes and that no longer one does;
  * `lastBoundary_le`, `le_lastBoundary`: going back from a limit ends at the
    last place between two characters that is within the limit.  A character
    takes at most four bytes, so that this is at most three bytes back
    (`le_lastBoundary_add_three`);
  * `Text.splits_cut`: a text is what `cut` keeps of it and a rest, which begins
    with the first character that does not fit (`cut_append_singleton_append`);
  * `Text.cut_longest`: `cut` keeps the longest beginning, and the log says that
    a statement was cut exactly if it has more bytes than are shown.
-/
import BoundSql.Connection.Scripted
import BoundSql.Proofs.CallOrder
import BoundSql.Proofs.Refusal
import BoundSql.Proofs.Written

namespace BoundSql

namespace Text

/-! ## Going back to a boundary -/

theorem lastBoundary_le (s : String) (n : Nat) : lastBoundary s n ≤ n := by
  induction n with
  | zero => exact Nat.le_refl 0
  | succ n ih =>
    unfold lastBoundary
    split
    · exact Nat.le_refl _
    · exact Nat.le_succ_of_le ih

/-- No place between two characters within the limit is passed over. -/
theorem le_lastBoundary {s : String} {m n : Nat} (hm : (⟨m⟩ : String.Pos.Raw).IsValid s)
    (h : m ≤ n) : m ≤ lastBoundary s n := by
  induction n with
  | zero => exact h
  | succ n ih =>
    unfold lastBoundary
    split
    · exact h
    · next hn =>
      have hne : m ≠ n + 1 := by
        rintro rfl
        exact hn hm
      exact ih (by omega)

/-- A boundary is at most three bytes back: the next one is behind the limit,
    and no further than one character. -/
theorem le_lastBoundary_add_three {s : String} {n : Nat} (h : n < s.utf8ByteSize) :
    n ≤ lastBoundary s n + 3 := by
  let p : s.Pos := s.pos ⟨lastBoundary s n⟩ (isValid_lastBoundary s n)
  have hle := lastBoundary_le s n
  have hend : p ≠ s.endPos := by
    intro heq
    have hoffset : lastBoundary s n = s.utf8ByteSize :=
      congrArg (fun q : s.Pos => q.offset.byteIdx) heq
    omega
  have hnext : (p.next hend).offset.byteIdx = lastBoundary s n + (p.get hend).utf8Size :=
    p.byteIdx_offset_next hend
  have hpos := (p.get hend).utf8Size_pos
  have hfour := (p.get hend).utf8Size_le_four
  refine Nat.le_of_not_lt fun hfar => ?_
  have hback : (p.next hend).offset.byteIdx ≤ lastBoundary s n :=
    le_lastBoundary (p.next hend).isValid (by omega)
  omega

/-! ## Cutting -/

/-- The beginning of a text that takes at most `limit` bytes, ends between two
    characters, and is no shorter than any other of these. -/
structure LongestPrefix (limit : Nat) (s t : String) : Prop where
  isPrefix : ∃ rest, s = t ++ rest
  boundary : (⟨t.utf8ByteSize⟩ : String.Pos.Raw).IsValid s
  fits : t.utf8ByteSize ≤ limit
  longest : ∀ t' rest', s = t' ++ rest' → t'.utf8ByteSize ≤ limit → ∃ more, t = t' ++ more

theorem utf8ByteSize_cut_of_lt {limit : Nat} {s : String} (h : limit < s.utf8ByteSize) :
    (cut limit s).utf8ByteSize = lastBoundary s limit := by
  let p : s.Pos := s.pos ⟨lastBoundary s limit⟩ (isValid_lastBoundary s limit)
  have hsplits : p.Splits (s.sliceTo p).copy (s.sliceFrom p).copy := p.splits
  have hsize := congrArg String.Pos.Raw.byteIdx hsplits.offset_eq_rawEndPos
  rw [cut, if_neg (Nat.not_le.2 h)]
  exact hsize.symm

theorem cut_of_le {limit : Nat} {s : String} (h : s.utf8ByteSize ≤ limit) : cut limit s = s :=
  if_pos h

/-- A text is what is kept of it, up to the place where it is cut, and a rest. -/
theorem splits_cut (limit : Nat) (s : String) :
    ∃ (p : s.Pos) (rest : String), p.Splits (cut limit s) rest := by
  by_cases h : s.utf8ByteSize ≤ limit
  · exact ⟨s.endPos, "", by rw [cut_of_le h]; exact s.splits_endPos⟩
  · let p : s.Pos := s.pos ⟨lastBoundary s limit⟩ (isValid_lastBoundary s limit)
    refine ⟨p, (s.sliceFrom p).copy, ?_⟩
    rw [cut, if_neg h]
    exact p.splits

/-- Of two beginnings of a text the shorter one is a beginning of the longer one. -/
theorem exists_append_of_utf8ByteSize_le {t rest t' rest' : String} (h : t ++ rest = t' ++ rest')
    (hle : t'.utf8ByteSize ≤ t.utf8ByteSize) : ∃ more, t = t' ++ more := by
  have hchars : t.toList ++ rest.toList = t'.toList ++ rest'.toList := by
    rw [← String.toList_append, h, String.toList_append]
  rcases List.append_eq_append_iff.1 hchars with ⟨us, ht', -⟩ | ⟨us, ht, -⟩
  · have heq : t' = t ++ String.ofList us := by
      rw [← String.toList_inj, ht', String.toList_append, String.toList_ofList]
    have hsize : t'.utf8ByteSize = t.utf8ByteSize + (String.ofList us).utf8ByteSize := by
      rw [heq, String.utf8ByteSize_append]
    have hempty : String.ofList us = "" := String.utf8ByteSize_eq_zero_iff.1 (by omega)
    exact ⟨"", by rw [heq, hempty, String.append_empty, String.append_empty]⟩
  · exact ⟨String.ofList us, by
      rw [← String.toList_inj, ht, String.toList_append, String.toList_ofList]⟩

theorem longestPrefix_cut (limit : Nat) (s : String) : LongestPrefix limit s (cut limit s) := by
  obtain ⟨p, rest, hsplits⟩ := splits_cut limit s
  have hsize : p.offset.byteIdx = (cut limit s).utf8ByteSize :=
    congrArg String.Pos.Raw.byteIdx hsplits.offset_eq_rawEndPos
  refine ⟨⟨rest, hsplits.eq_append⟩, hsize ▸ p.isValid, ?_, fun t' rest' ht' hfits => ?_⟩
  · by_cases h : s.utf8ByteSize ≤ limit
    · rwa [cut_of_le h]
    · rw [utf8ByteSize_cut_of_lt (Nat.lt_of_not_le h)]
      exact lastBoundary_le s limit
  · refine exists_append_of_utf8ByteSize_le (hsplits.eq_append.symm.trans ht') ?_
    by_cases h : s.utf8ByteSize ≤ limit
    · rw [cut_of_le h, ht', String.utf8ByteSize_append]
      omega
    · rw [utf8ByteSize_cut_of_lt (Nat.lt_of_not_le h)]
      refine le_lastBoundary ?_ hfits
      exact String.Pos.Raw.isValid_iff_exists_append.2 ⟨t', rest', ht', rfl⟩

theorem cut_eq_self_iff {limit : Nat} {s : String} :
    cut limit s = s ↔ s.utf8ByteSize ≤ limit := by
  constructor
  · intro h
    have hfits := (longestPrefix_cut limit s).fits
    rwa [h] at hfits
  · exact cut_of_le

/-- Text is cut in front of the first character that does not fit. -/
theorem cut_append_singleton_append {limit : Nat} {t : String} {c : Char} (rest : String)
    (hfits : t.utf8ByteSize ≤ limit) (hnext : limit < t.utf8ByteSize + c.utf8Size) :
    cut limit (t ++ (String.singleton c ++ rest)) = t := by
  obtain ⟨⟨rest', hcut⟩, -, hlimit, hlongest⟩ :=
    longestPrefix_cut limit (t ++ (String.singleton c ++ rest))
  obtain ⟨more, hmore⟩ := hlongest t _ rfl hfits
  rw [hmore, String.utf8ByteSize_append] at hlimit
  have hsplit : String.singleton c ++ rest = more ++ rest' := by
    rw [hmore, String.append_assoc] at hcut
    exact (String.append_right_inj t).1 hcut
  obtain ⟨left, hleft⟩ : ∃ left, String.singleton c = more ++ left :=
    exists_append_of_utf8ByteSize_le hsplit (by rw [String.utf8ByteSize_singleton]; omega)
  have hchars : more.toList ++ left.toList = [c] := by
    rw [← String.toList_append, ← hleft, String.toList_singleton]
  rcases List.append_eq_singleton_iff.1 hchars with ⟨hempty, -⟩ | ⟨hwhole, -⟩
  · rw [hmore, String.toList_eq_nil_iff.1 hempty, String.append_empty]
  · obtain rfl : more = String.singleton c := by
      rw [← String.toList_inj, hwhole, String.toList_singleton]
    rw [String.utf8ByteSize_singleton] at hlimit
    omega

/-- Text that does not fit loses at least a byte, and at most three of those
    that it could keep. -/
theorem utf8ByteSize_cut_bounds {limit : Nat} {s : String} (h : limit < s.utf8ByteSize) :
    (cut limit s).utf8ByteSize < s.utf8ByteSize ∧ limit ≤ (cut limit s).utf8ByteSize + 3 := by
  rw [utf8ByteSize_cut_of_lt h]
  exact ⟨Nat.lt_of_le_of_lt (lastBoundary_le s limit) h, le_lastBoundary_add_three h⟩

end Text

/-! ## The log -/

/-- What the log has of a statement: whether it has more than 200 bytes, and as
    much of it as fits in these. -/
theorem Event.fields_preparing (kind : StatementKind) (t : Statement) :
    (Event.preparing kind t).fields =
      [("kind", .text kind.name), ("param_count", .count t.bindings.length),
        ("truncated", .flag (decide (200 < t.sql.utf8ByteSize))),
        ("sql", .text (Text.cut 200 t.sql))] := by
  have hflag : ((Text.cut 200 t.sql).utf8ByteSize < t.sql.utf8ByteSize) ↔
      200 < t.sql.utf8ByteSize := by
    by_cases h : t.sql.utf8ByteSize ≤ 200
    · rw [Text.cut_of_le h]
      omega
    · have hlt := Nat.lt_of_not_le h
      exact iff_of_true (Text.utf8ByteSize_cut_bounds hlt).1 hlt
  simp only [fields, shownBytes, hflag]

/-- Preparing a query logs its statement first of all. -/
theorem Query.log_prepare {σ : Type} (conn : Connection σ) {q : Query} {t : Statement}
    (h : q.compile = .ok t) (w : Session σ) :
    ∃ events, (w.run (q.prepare conn)).2.log = w.log ++ .preparing q.kind t :: events := by
  have hplan : q.plan conn [] = q.prepare conn := bind_pure_unit
  obtain ⟨made, events, u, failure, -, hrun⟩ :=
    conn.run_makeAll (t.calls ++ []) (w.emit (.preparing q.kind t))
  refine ⟨events, ?_⟩
  rw [← hplan, run_plan_of_ok h, hrun, Session.log_emit_append]

namespace Text

/-- **The log shows as much as fits.**  For every text and every limit, what is
    kept of the text is a beginning of it that ends between two characters and
    takes at most the limit in bytes, and every other such beginning is a
    beginning of it.  It is the whole text exactly if that fits; otherwise it is
    shorter, but by at most three bytes shorter than the limit.  So when a query
    of this text is prepared, the log says that the text was cut exactly if it has
    more than 200 bytes. -/
theorem cut_longest (limit : Nat) (s : String) :
    LongestPrefix limit s (cut limit s) ∧
    (cut limit s = s ↔ s.utf8ByteSize ≤ limit) ∧
    (limit < s.utf8ByteSize →
      (cut limit s).utf8ByteSize < s.utf8ByteSize ∧ limit ≤ (cut limit s).utf8ByteSize + 3) ∧
    ∀ (σ : Type) (conn : Connection σ) (w : Session σ) (q : Query) (bindings : List Value),
      q.compile = .ok ⟨s, bindings⟩ →
      ∃ event events, (w.run (q.prepare conn)).2.log = w.log ++ event :: events ∧
        event.target = "chainsql.sql" ∧
        event.fields =
          [("kind", .text q.kind.name), ("param_count", .count bindings.length),
            ("truncated", .flag (decide (200 < s.utf8ByteSize))), ("sql", .text (cut 200 s))] := by
  refine ⟨longestPrefix_cut limit s, cut_eq_self_iff, utf8ByteSize_cut_bounds, ?_⟩
  intro σ conn w q bindings hq
  obtain ⟨events, hlog⟩ := q.log_prepare conn hq w
  exact ⟨_, events, hlog, rfl, Event.fields_preparing q.kind ⟨s, bindings⟩⟩

end Text

/-- The rows that have 1 in a column. -/
def Query.selectBy (column : String) : Query :=
  Edit.runAll [.source "t", .filter (.add .and (.equals column (.int 1)))] .fresh

theorem Query.compile_selectBy (column : String) :
    (selectBy column).compile = .ok ⟨"SELECT * FROM t WHERE " ++ column ++ " = ?", [.int 1]⟩ := by
  have hwritten : (selectBy column).written Render.mark = " ".intercalate
      ["SELECT", "*", "FROM t", "WHERE " ++ (column ++ " " ++ "=" ++ " " ++ "?" ++ "")] := rfl
  refine compile_eq_ok_iff.2 ⟨rfl, congrArg (Statement.mk · _) ?_⟩
  rw [hwritten]
  simp [intercalate_cons, ← String.toList_inj]

namespace Text

/-- What precedes the last character of a long name. -/
def longStem : String := String.ofList (List.replicate 175 'x')

/-- Of the 205 bytes of the statement, the 200th is the third of a character. -/
theorem cut_longest_inside_character :
    let sql := "SELECT * FROM t WHERE " ++ (longStem ++ "😀") ++ " = ?"
    let w : Session Scripted := { state := { script := {} } }
    (Query.selectBy (longStem ++ "😀")).compile = .ok ⟨sql, [.int 1]⟩ ∧ 200 < sql.utf8ByteSize ∧
      (cut 200 sql).utf8ByteSize < sql.utf8ByteSize ∧ 200 ≤ (cut 200 sql).utf8ByteSize + 3 ∧
      ∃ event events,
        (w.run ((Query.selectBy (longStem ++ "😀")).prepare scripted)).2.log = event :: events ∧
        event.target = "chainsql.sql" ∧
        event.fields = [("kind", .text "select"), ("param_count", .count 1),
          ("truncated", .flag true), ("sql", .text ("SELECT * FROM t WHERE " ++ longStem))] := by
  intro sql w
  have hcompile := Query.compile_selectBy (longStem ++ "😀")
  have hlong : 200 < sql.utf8ByteSize := by decide +kernel
  have hcut : cut 200 sql = "SELECT * FROM t WHERE " ++ longStem := by
    have hsql : sql = "SELECT * FROM t WHERE " ++ longStem ++ (String.singleton '😀' ++ " = ?") := by
      decide +kernel
    rw [hsql]
    exact cut_append_singleton_append " = ?" (by decide +kernel) (by decide +kernel)
  obtain ⟨-, -, hbounds, hlog⟩ := cut_longest 200 sql
  obtain ⟨event, events, hevents, htarget, hfields⟩ := hlog Scripted scripted w _ _ hcompile
  refine ⟨hcompile, hlong, (hbounds hlong).1, (hbounds hlong).2, event, events, hevents, htarget,
    hfields.trans ?_⟩
  rw [hcut, decide_eq_true hlong]
  rfl

end Text

end BoundSql
