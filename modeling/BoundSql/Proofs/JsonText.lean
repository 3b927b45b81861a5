/-
  The text of a JSON value, and what it is read as.

  * `readString?_quoted`: a quoted string is read back, whatever its characters
    are;
  * `Reads text v`: inside any document `text` is read as `v` and nothing of
    what follows it is taken;
  * `reread` is what the text of a value is read as.  It is the value itself
    but for the members of objects, which are settled by name, for integers
    beyond 64 bits and for numbers that JSON does not have;
  * `reads_print`, `read?_print`: every value's text is read, as `reread` says.
-/
import BoundSql.Proofs.NumberText

namespace BoundSql.Json

/-! ## Strings -/

theorem readChars?_escape {fuel : Nat} {c : Char} {cs rest : List Char}
    (h : readEscape? cs = some (c, rest)) :
    readChars? (fuel + 1) ('\\' :: cs) =
      (readChars? fuel rest).map fun (s, rest) => (c :: s, rest) := by
  simp only [readChars?, h, Option.bind_eq_bind, Option.bind_some]
  cases readChars? fuel rest <;> rfl

theorem readChars?_plain {fuel : Nat} {c : Char} {cs : List Char} (hquote : c ≠ '"')
    (hslash : c ≠ '\\') (hcontrol : ¬ c.toNat < 0x20) :
    readChars? (fuel + 1) (c :: cs) =
      (readChars? fuel cs).map fun (s, rest) => (c :: s, rest) := by
  rw [readChars?.eq_5 _ _ _ hquote hslash, if_neg hcontrol]
  cases readChars? fuel cs <;> rfl

/-- Four digits that write a control. -/
theorem readHex?_control : ∀ n < 0x20,
    Text.readHex? ['0', '0', Nat.digitChar (n / 16), Nat.digitChar (n % 16)] = some n := by
  decide

theorem readEscape?_control {c : Char} (hcontrol : c.toNat < 0x20) (cs : List Char) :
    readEscape? ('u' :: '0' :: '0' :: Nat.digitChar (c.toNat / 16) ::
      Nat.digitChar (c.toNat % 16) :: cs) = some (c, cs) := by
  have hhigh : ¬ 0xd800 ≤ c.toNat := by omega
  have hlow : ¬ 0xdc00 ≤ c.toNat := by omega
  simp [readEscape?, readUnits?, readHex4?, readHex?_control c.toNat hcontrol, hhigh, hlow]

/-- A character is read from the text that stands for it in a string. -/
theorem readChars?_quoteChar (fuel : Nat) (c : Char) (cs : List Char) :
    readChars? (fuel + 1) (quoteChar c ++ cs) =
      (readChars? fuel cs).map fun (s, rest) => (c :: s, rest) := by
  unfold quoteChar
  split
  case h_8 hquote hslash _ _ _ _ _ =>
    split
    · next hcontrol => exact readChars?_escape (readEscape?_control hcontrol cs)
    · next hcontrol => exact readChars?_plain hquote hslash hcontrol
  all_goals exact readChars?_escape rfl

theorem length_le_quoted (s : List Char) : s.length ≤ (s.flatMap quoteChar).length := by
  induction s with
  | nil => simp
  | cons c s ih =>
    have hc : 0 < (quoteChar c).length := by
      unfold quoteChar
      split
      case h_8 => split <;> simp
      all_goals simp
    rw [List.flatMap_cons, List.length_append, List.length_cons]
    omega

theorem readChars?_quoted {fuel : Nat} {s : List Char} (h : s.length < fuel) (rest : List Char) :
    readChars? fuel (s.flatMap quoteChar ++ '"' :: rest) = some (s, rest) := by
  induction s generalizing fuel with
  | nil =>
    obtain ⟨fuel, rfl⟩ := Nat.exists_eq_add_of_lt h
    simp [readChars?]
  | cons c s ih =>
    cases fuel with
    | zero => simp at h
    | succ fuel =>
      rw [List.flatMap_cons, List.append_assoc, readChars?_quoteChar, ih (by simpa using h)]
      rfl

/-- A string is read back from its text, whatever characters it has. -/
theorem readString?_quoted (s : String) (rest : List Char) :
    readString? (s.toList.flatMap quoteChar ++ '"' :: rest) = some (s, rest) := by
  have hlength := length_le_quoted s.toList
  rw [readString?, readChars?_quoted (by simp only [List.length_append, List.length_cons]; omega)]
  simp

theorem toList_quote (s : String) :
    (quote s).toList = '"' :: (s.toList.flatMap quoteChar ++ ['"']) := by
  simp [quote]

/-! ## Blanks -/

theorem skipSpace_cons {c : Char} (h : isSpace c = false) (cs : List Char) :
    skipSpace (c :: cs) = c :: cs := by
  simp [skipSpace, h]

theorem skipSpace_ends {rest : List Char} (h : Ends rest) : skipSpace rest = rest := by
  cases rest with
  | nil => rfl
  | cons c cs =>
    refine skipSpace_cons ?_ cs
    rcases h c rfl with rfl | rfl | rfl <;> decide

/-! ## Texts that are read -/

/-- Inside any document `text` is read as `v`, and what follows is left.  The
    fuel that a value needs is bounded by the length of its text. -/
structure Reads (text : List Char) (v : Json) : Prop where
  starts : ∃ c cs, text = c :: cs ∧ isSpace c = false ∧ c ≠ ']'
  read : ∀ fuel rest, 2 * text.length ≤ fuel → Ends rest →
    readValue? fuel (text ++ rest) = some (v, rest)

/-- A text that begins as a value does has fuel left for one step. -/
theorem Reads.of_step {text cs : List Char} {v : Json} {c : Char} (htext : text = c :: cs)
    (hspace : isSpace c = false) (hend : c ≠ ']')
    (h : ∀ fuel rest, 2 * text.length ≤ fuel + 1 → Ends rest →
      readValue? (fuel + 1) (text ++ rest) = some (v, rest)) : Reads text v where
  starts := ⟨c, cs, htext, hspace, hend⟩
  read fuel rest hfuel hrest := by
    cases fuel with
    | zero => simp [htext] at hfuel
    | succ fuel => exact h fuel rest hfuel hrest

/-- A text that is read inside a document is read alone. -/
theorem Reads.read? {text : String} {v : Json} (h : Reads text.toList v) :
    Json.read? text = some v := by
  have hread := h.read (2 * text.toList.length + 2) [] (by omega) .nil
  rw [List.append_nil] at hread
  rw [Json.read?]
  simp only [hread, Option.bind_eq_bind, Option.bind_some]
  rfl

theorem reads_null : Reads "null".toList .null := by
  refine .of_step rfl rfl (by decide) fun fuel rest _ _ => ?_
  simp [readValue?, skipSpace, isSpace, Text.after?]

theorem reads_bool (b : Bool) : Reads (if b then "true" else "false").toList (.bool b) := by
  cases b with
  | true =>
    refine .of_step rfl rfl (by decide) fun fuel rest _ _ => ?_
    simp [readValue?, skipSpace, isSpace, Text.after?]
  | false =>
    refine .of_step rfl rfl (by decide) fun fuel rest _ _ => ?_
    simp [readValue?, skipSpace, isSpace, Text.after?]

theorem reads_string (s : String) : Reads (quote s).toList (.string s) := by
  rw [toList_quote]
  refine .of_step rfl rfl (by decide) fun fuel rest _ _ => ?_
  rw [List.cons_append, List.append_assoc]
  simp only [readValue?, skipSpace_cons (show isSpace '"' = false from rfl),
    List.singleton_append, readString?_quoted]
  rfl

/-- Whether a number may begin with this character. -/
def StartsNumber (c : Char) : Prop := c = '-' ∨ c.isDigit = true

instance (c : Char) : Decidable (StartsNumber c) := inferInstanceAs (Decidable (_ ∨ _))

theorem StartsNumber.ne {c d : Char} (h : StartsNumber c) (hd : ¬ StartsNumber d) : c ≠ d :=
  fun heq => hd (heq ▸ h)

theorem StartsNumber.isSpace {c : Char} (h : StartsNumber c) : Json.isSpace c = false := by
  simp [Json.isSpace, h.ne (d := ' ') (by decide), h.ne (d := '\t') (by decide),
    h.ne (d := '\n') (by decide), h.ne (d := '\r') (by decide)]

/-- What begins like a number is read as a number. -/
theorem readValue?_number {c : Char} (h : StartsNumber c) (fuel : Nat) (cs : List Char) :
    readValue? (fuel + 1) (c :: cs) = readNumber? (c :: cs) := by
  rw [readValue?, skipSpace_cons h.isSpace]
  split
  · next heq => cases heq; exact absurd h (by decide)
  · next heq => cases heq; exact absurd h (by decide)
  · next heq => cases heq; exact absurd h (by decide)
  · simp [Text.after?, (h.ne (d := 'n') (by decide)).symm, (h.ne (d := 't') (by decide)).symm,
      (h.ne (d := 'f') (by decide)).symm]

theorem reads_number {text : List Char} {v : Json}
    (hstart : ∃ c cs, text = c :: cs ∧ StartsNumber c)
    (h : ∀ rest, Ends rest → readNumber? (text ++ rest) = some (v, rest)) : Reads text v := by
  obtain ⟨c, cs, rfl, hc⟩ := hstart
  refine .of_step rfl hc.isSpace (hc.ne (by decide)) fun fuel rest _ hrest => ?_
  rw [List.cons_append, readValue?_number hc, ← List.cons_append, h rest hrest]

theorem startsNumber_signText (negative : Bool) {ds : List Char} (hds : Digits ds)
    (cs : List Char) : ∃ c rest, signText negative ++ (ds ++ cs) = c :: rest ∧ StartsNumber c := by
  cases negative with
  | true => exact ⟨_, _, rfl, .inl rfl⟩
  | false =>
    obtain ⟨d, ds, rfl⟩ := List.exists_cons_of_ne_nil hds.nonempty
    exact ⟨d, _, rfl, .inr (hds.isDigit d (by simp))⟩

theorem reads_integer (i : Int) :
    Reads (toString i).toList (ofInteger (decide (i < 0)) i.natAbs) := by
  refine reads_number ?_ fun rest hrest => readNumber?_toString i hrest
  have hstart := startsNumber_signText (decide (i < 0)) (Digits.toDigits i.natAbs) []
  rwa [List.append_nil, ← toList_toString_int] at hstart

/-- What the text of a floating point number is read as. -/
def rereadFloat (x : Binary64) : Json :=
  ((readNumber? (Layout.json.render x).toList).map Prod.fst).getD .null

theorem reads_float (x : Binary64) : Reads (Layout.json.render x).toList (rereadFloat x) := by
  by_cases hnan : x.isNaN = true
  · have hnull : Layout.json.render x = "null" := by simp [Layout.render, hnan, Layout.json]
    rw [rereadFloat, hnull]
    exact reads_null
  by_cases hinf : x.isInfinite = true
  · have hnull : Layout.json.render x = "null" := by
      simp [Layout.render, hnan, hinf, Layout.json]
    rw [rereadFloat, hnull]
    exact reads_null
  obtain ⟨text, htext, hrender⟩ := Layout.json.numberText_render (Bool.not_eq_true _ ▸ hnan)
    (Bool.not_eq_true _ ▸ hinf)
  obtain ⟨v, hv⟩ := readNumber?_numberText x.negative htext
  have hself : rereadFloat x = v := by
    have := hv [] .nil
    rw [List.append_nil] at this
    rw [rereadFloat, hrender, this]
    rfl
  rw [hself, hrender]
  refine reads_number ?_ fun rest hrest => by rw [List.append_assoc, hv rest hrest]
  obtain ⟨hwhole, -, -, -⟩ := htext
  exact startsNumber_signText x.negative hwhole _

/-! ## Items and members -/

/-- Members put one after the other among those found: in the order of their
    names, and of one name the last one. -/
def settle (found : List (String × Json)) (ms : List (String × Json)) : List (String × Json) :=
  ms.foldl (fun found m => putMember m.1 m.2 found) found

mutual

/-- What the text of a value is read as. -/
def reread : Json → Json
  | .null => .null
  | .bool b => .bool b
  | .integer i => ofInteger (decide (i < 0)) i.natAbs
  | .float x => rereadFloat x
  | .string s => .string s
  | .array items => .array (rereadItems items)
  | .object members => .object (settle [] (rereadMembers members))

def rereadItems : List Json → List Json
  | [] => []
  | v :: vs => v.reread :: rereadItems vs

def rereadMembers : List (String × Json) → List (String × Json)
  | [] => []
  | m :: ms => rereadMember m :: rereadMembers ms

def rereadMember : String × Json → String × Json
  | (name, v) => (name, v.reread)

end

theorem rereadItems_eq_map (vs : List Json) : rereadItems vs = vs.map reread := by
  induction vs with
  | nil => rfl
  | cons v vs ih => rw [rereadItems, ih, List.map_cons]

theorem rereadMembers_eq_map (ms : List (String × Json)) :
    rereadMembers ms = ms.map fun m => (m.1, m.2.reread) := by
  induction ms with
  | nil => rfl
  | cons m ms ih => rw [rereadMembers, ih, List.map_cons, rereadMember.eq_def]

theorem readItems?_last {text : List Char} {v : Json} (hv : Reads text v) {fuel : Nat}
    (hfuel : 2 * text.length ≤ fuel) (rest : List Char) :
    readItems? (fuel + 1) (text ++ ']' :: rest) = some ([v], rest) := by
  rw [readItems?, hv.read fuel _ hfuel (.bracket rest)]
  rfl

theorem readItems?_comma {text cs rest : List Char} {v : Json} {vs : List Json} (hv : Reads text v)
    {fuel : Nat} (hfuel : 2 * text.length ≤ fuel) (hvs : readItems? fuel cs = some (vs, rest)) :
    readItems? (fuel + 1) (text ++ ',' :: cs) = some (v :: vs, rest) := by
  simp only [readItems?, hv.read fuel _ hfuel (.comma cs), Option.bind_eq_bind, Option.bind_some,
    skipSpace_ends (.comma cs), hvs, Option.pure_def]

theorem readMembers?_last {text : List Char} {v : Json} (hv : Reads text v) {fuel : Nat}
    (hfuel : 2 * text.length ≤ fuel) (name : String) (found : List (String × Json))
    (rest : List Char) :
    readMembers? (fuel + 1) found ((quote name).toList ++ ':' :: (text ++ '\x7d' :: rest)) =
      some (putMember name v found, rest) := by
  rw [toList_quote, List.cons_append, List.append_assoc, List.singleton_append]
  simp only [readMembers?, skipSpace_cons (show isSpace '"' = false from rfl),
    readString?_quoted, Option.bind_eq_bind, Option.bind_some,
    skipSpace_cons (show isSpace ':' = false from rfl), hv.read fuel _ hfuel (.brace rest),
    skipSpace_ends (.brace rest), Option.pure_def]

theorem readMembers?_comma {text cs : List Char} {v : Json} (hv : Reads text v) {fuel : Nat}
    (hfuel : 2 * text.length ≤ fuel) (name : String) (found : List (String × Json)) :
    readMembers? (fuel + 1) found ((quote name).toList ++ ':' :: (text ++ ',' :: cs)) =
      readMembers? fuel (putMember name v found) cs := by
  rw [toList_quote, List.cons_append, List.append_assoc, List.singleton_append]
  simp only [readMembers?, skipSpace_cons (show isSpace '"' = false from rfl),
    readString?_quoted, Option.bind_eq_bind, Option.bind_some,
    skipSpace_cons (show isSpace ':' = false from rfl), hv.read fuel _ hfuel (.comma cs),
    skipSpace_ends (.comma cs)]

theorem intercalate_comma (t u : List Char) (ts : List (List Char)) :
    [','].intercalate (t :: u :: ts) = t ++ ',' :: [','].intercalate (u :: ts) := by
  rw [List.intercalate_cons_cons, List.append_assoc, List.singleton_append]

/-- Texts with commas between them begin as the first of them begins. -/
theorem exists_intercalate_eq_cons (c : Char) (cs : List Char) (ts : List (List Char)) :
    ∃ rest, [','].intercalate ((c :: cs) :: ts) = c :: rest := by
  cases ts with
  | nil => exact ⟨cs, List.intercalate_singleton⟩
  | cons t ts => exact ⟨_, intercalate_comma (c :: cs) t ts⟩

/-- The items of an array are read one after the other. -/
theorem readItems?_print {items : List Json} (hne : items ≠ [])
    (h : ∀ v ∈ items, Reads v.print.toList v.reread) {fuel : Nat}
    (hfuel : 2 * ([','].intercalate (items.map fun v => v.print.toList)).length < fuel)
    (rest : List Char) :
    readItems? fuel ([','].intercalate (items.map fun v => v.print.toList) ++ ']' :: rest) =
      some (items.map reread, rest) := by
  induction items generalizing fuel with
  | nil => exact absurd rfl hne
  | cons v vs ih =>
    have hv := h v (by simp)
    obtain ⟨fuel, rfl⟩ := Nat.exists_eq_add_one_of_ne_zero (Nat.ne_zero_of_lt hfuel)
    cases vs with
    | nil =>
      simp only [List.map_cons, List.map_nil, List.intercalate_singleton] at hfuel ⊢
      exact readItems?_last hv (by omega) rest
    | cons w vs =>
      have hvs := @ih (by simp) (fun u hu => h u (List.mem_cons_of_mem v hu)) fuel
      simp only [List.map_cons, intercalate_comma, List.append_assoc, List.cons_append,
        List.length_append, List.length_cons] at hfuel hvs ⊢
      exact readItems?_comma hv (by omega) (hvs (by omega))

/-- The text of a member in characters. -/
def memberText (m : String × Json) : List Char := (quote m.1).toList ++ ':' :: m.2.print.toList

/-- The members of an object are read one after the other, each of them put
    among those before it. -/
theorem readMembers?_print {members : List (String × Json)} (hne : members ≠ [])
    (h : ∀ m ∈ members, Reads m.2.print.toList m.2.reread) {fuel : Nat}
    (hfuel : 2 * ([','].intercalate (members.map memberText)).length < fuel)
    (found : List (String × Json)) (rest : List Char) :
    readMembers? fuel found ([','].intercalate (members.map memberText) ++ '\x7d' :: rest) =
      some (settle found (members.map fun m => (m.1, m.2.reread)), rest) := by
  induction members generalizing fuel found with
  | nil => exact absurd rfl hne
  | cons m ms ih =>
    have hm := h m (by simp)
    have hlength : m.2.print.toList.length ≤ (memberText m).length := by
      simp only [memberText, List.length_append, List.length_cons]; omega
    obtain ⟨fuel, rfl⟩ := Nat.exists_eq_add_one_of_ne_zero (Nat.ne_zero_of_lt hfuel)
    cases ms with
    | nil =>
      simp only [List.map_cons, List.map_nil, List.intercalate_singleton] at hfuel ⊢
      rw [memberText, List.append_assoc, List.cons_append]
      exact readMembers?_last hm (by omega) m.1 found rest
    | cons n ms =>
      have hms := @ih (by simp) (fun u hu => h u (List.mem_cons_of_mem m hu)) fuel
      simp only [List.map_cons, intercalate_comma, List.append_assoc, List.cons_append,
        List.length_append, List.length_cons] at hfuel hms ⊢
      rw [memberText, List.append_assoc, List.cons_append, readMembers?_comma hm (by omega),
        hms (by omega)]
      rfl

theorem reads_array {items : List Json} (h : ∀ v ∈ items, Reads v.print.toList v.reread) :
    Reads (Json.array items).print.toList (reread (.array items)) := by
  have htext : (Json.array items).print.toList =
      '[' :: ([','].intercalate (items.map fun v => v.print.toList) ++ [']']) := by
    simp [print, printItems_eq_map, String.toList_intercalate, Function.comp_def]
  rw [htext, reread, rereadItems_eq_map]
  refine .of_step rfl rfl (by decide) fun fuel rest hfuel _ => ?_
  rw [List.cons_append, List.append_assoc, List.singleton_append]
  simp only [readValue?, skipSpace_cons (show isSpace '[' = false from rfl)]
  cases items with
  | nil => rfl
  | cons v vs =>
    have hless : 2 * ([','].intercalate ((v :: vs).map fun v => v.print.toList)).length < fuel := by
      simp only [List.length_append, List.length_cons] at hfuel
      omega
    have hitems := readItems?_print (by simp) h hless rest
    obtain ⟨c, cs, hc, hspace, hend⟩ := (h v (by simp)).starts
    obtain ⟨t, ht⟩ := exists_intercalate_eq_cons c cs (vs.map fun v => v.print.toList)
    rw [List.map_cons, hc, ht, List.cons_append] at hitems ⊢
    rw [skipSpace_cons hspace]
    split
    · next heq => cases heq; exact absurd rfl hend
    · rw [hitems]
      rfl

theorem reads_object {members : List (String × Json)}
    (h : ∀ m ∈ members, Reads m.2.print.toList m.2.reread) :
    Reads (Json.object members).print.toList (reread (.object members)) := by
  have htext : (Json.object members).print.toList =
      '\x7b' :: ([','].intercalate (members.map memberText) ++ ['\x7d']) := by
    simp [print, printMembers_eq_map, String.toList_intercalate, Function.comp_def,
      show memberText = fun m => (quote m.1).toList ++ ':' :: m.2.print.toList from rfl]
  rw [htext, reread, rereadMembers_eq_map]
  refine .of_step rfl rfl (by decide) fun fuel rest hfuel _ => ?_
  rw [List.cons_append, List.append_assoc, List.singleton_append]
  simp only [readValue?, skipSpace_cons (show isSpace '\x7b' = false from rfl)]
  cases members with
  | nil => rfl
  | cons m ms =>
    have hless : 2 * ([','].intercalate ((m :: ms).map memberText)).length < fuel := by
      simp only [List.length_append, List.length_cons] at hfuel
      omega
    have hmembers := readMembers?_print (by simp) h hless [] rest
    obtain ⟨cs, hc⟩ : ∃ cs, memberText m = '"' :: cs := ⟨_, by rw [memberText, toList_quote]; rfl⟩
    obtain ⟨t, ht⟩ := exists_intercalate_eq_cons '"' cs (ms.map memberText)
    rw [List.map_cons, hc, ht, List.cons_append] at hmembers ⊢
    rw [skipSpace_cons (show isSpace '"' = false from rfl)]
    exact congrArg (Option.map fun p => (Json.object p.1, p.2)) hmembers

/-- The text of a value is read wherever it stands in a document. -/
theorem reads_print (v : Json) : Reads v.print.toList v.reread := by
  match v with
  | .null => exact reads_null
  | .bool b => exact reads_bool b
  | .integer i => exact reads_integer i
  | .float x => exact reads_float x
  | .string s => exact reads_string s
  | .array items => exact reads_array fun v _ => reads_print v
  | .object members => exact reads_object fun (_, v) _ => reads_print v
termination_by sizeOf v
decreasing_by
  · next hv =>
    have := List.sizeOf_lt_of_mem hv
    simp only [Json.array.sizeOf_spec]
    omega
  · next hm =>
    have := List.sizeOf_lt_of_mem hm
    simp only [Json.object.sizeOf_spec, Prod.mk.sizeOf_spec] at this ⊢
    omega

/-- The text of every value is read, and as `reread` says. -/
theorem read?_print (v : Json) : read? v.print = some v.reread := (reads_print v).read?

end BoundSql.Json
