import Workforce.Json.Printer
import Workforce.Json.Reader
import Workforce.Proofs.Text.Digits

/-!
# JSON values are read back from their compact texts

Reading the compact text of a value gives the value back (`ofText?_text`) if it
can be read at all (`Readable`): its numbers are integers that 64 bits can hold,
the members of each object have names of their own, and no more than 127 arrays
and objects stand in each other.

What reads a value is handed the rest of the text too.  So each part comes with
what it reads it as and where it stops, for any text behind it that does not
carry the part on (`Ends`).
-/

namespace Workforce.Json

open Workforce.Text

/-- What can be read, with at most `depth` arrays and objects in each other. -/
inductive Readable : Nat → Json → Prop
  | null {depth : Nat} : Readable depth .null
  | bool {depth : Nat} (b : Bool) : Readable depth (.bool b)
  | int {depth : Nat} {i : Int} (held : minInt64 ≤ i ∧ i ≤ maxNat64) :
      Readable depth (.int i)
  | str {depth : Nat} (s : String) : Readable depth (.str s)
  | arr {depth : Nat} {items : List Json}
      (each : ∀ item ∈ items, Readable depth item) :
      Readable (depth + 1) (.arr items)
  | obj {depth : Nat} {members : List (String × Json)}
      (distinct : (members.map Prod.fst).Nodup)
      (each : ∀ m ∈ members, Readable depth m.2) :
      Readable (depth + 1) (.obj members)

/-- The text behind a value: none, or what stands behind values in arrays and
objects. -/
def Ends (rest : List Char) : Prop :=
  ∀ c ∈ rest.head?, c ∈ [',', ']', '\x7d']

theorem ends_nil : Ends [] := by
  intro c first
  cases first

theorem ends_cons {c : Char} (mark : c ∈ [',', ']', '\x7d'])
    (rest : List Char) : Ends (c :: rest) := by
  intro first same
  cases same
  exact mark

/-- The blanks that may stand between tokens. -/
def blanks : List Char :=
  [' ', '\t', '\n', '\r']

theorem skipSpace_cons {c : Char} (shown : c ∉ blanks) (cs : List Char) :
    skipSpace (c :: cs) = c :: cs := by
  simp only [blanks, List.mem_cons, List.not_mem_nil, or_false, not_or]
    at shown
  obtain ⟨space, tab, feed, turn⟩ := shown
  rw [skipSpace, List.dropWhile_cons_of_neg]
  simp [space, tab, feed, turn]

/-! ## Texts -/

theorem hexDigit?_hexChar {n : Nat} (small : n < 16) :
    hexDigit? (hexChar n) = some n := by
  have each : ∀ d < 16, hexDigit? (hexChar d) = some d := by
    decide
  exact each n small

/-- A control is read back from its code. -/
theorem unicodeEscape_control {c : Char} (control : c.toNat < 32)
    (rest : List Char) :
    unicodeEscape ('0' :: '0' :: hexChar (c.toNat / 16) ::
      hexChar (c.toNat % 16) :: rest) = some (c, rest) := by
  have high : hexDigit? (hexChar (c.toNat / 16)) = some (c.toNat / 16) :=
    hexDigit?_hexChar (by omega)
  have low : hexDigit? (hexChar (c.toNat % 16)) = some (c.toNat % 16) :=
    hexDigit?_hexChar (by omega)
  have code : ((0 * 16 + 0) * 16 + c.toNat / 16) * 16 + c.toNat % 16 =
      c.toNat := by
    omega
  have unit : codeUnit ('0' :: '0' :: hexChar (c.toNat / 16) ::
      hexChar (c.toNat % 16) :: rest) = some (c.toNat, rest) := by
    refine read_then (a := 0) rfl <| read_then (a := 0) rfl <|
      read_then high <| read_then low ?_
    rw [code]
    rfl
  have noHigh : ¬ (0xD800 ≤ c.toNat ∧ c.toNat < 0xDC00) := by omega
  have noLow : (!(0xDC00 ≤ c.toNat && c.toNat < 0xE000)) = true := by
    simp
    omega
  refine read_then unit ?_
  dsimp only
  rw [if_neg noHigh]
  refine read_then (if_pos noLow) ?_
  rw [Char.ofNat_toNat]
  rfl

/-- A character is read back from the form it has in a quoted text. -/
theorem quoted_escapeChar (c : Char) {fuel : Nat} {more cs rest : List Char}
    (behind : quoted fuel more = some (cs, rest)) :
    quoted (fuel + 1) (escapeChar c ++ more) = some (c :: cs, rest) := by
  have escaped : ∀ {shown : List Char}, escape shown = some (c, more) →
      quoted (fuel + 1) ('\\' :: shown) = some (c :: cs, rest) := by
    intro shown known
    exact read_then known (read_then behind rfl)
  rw [escapeChar]
  -- Quotes, backslashes and five controls have letters of their own.
  iterate 7
    split
    · rename_i same
      exact escaped (by rw [same]; rfl)
  split
  · rename_i control
    exact escaped (unicodeEscape_control control more)
  · rename_i quotes backslash _ _ _ _ _ control
    rw [List.singleton_append, quoted, if_neg quotes, if_neg backslash,
      if_neg control]
    exact read_then behind rfl

theorem quoted_escaped (cs rest : List Char) {fuel : Nat}
    (enough : cs.length < fuel) :
    quoted fuel (cs.flatMap escapeChar ++ '"' :: rest) = some (cs, rest) := by
  induction cs generalizing fuel with
  | nil =>
      obtain ⟨fuel, rfl⟩ := Nat.exists_eq_add_of_lt enough
      rw [List.flatMap_nil, List.nil_append, quoted, if_pos rfl]
  | cons c cs inductionHypothesis =>
      cases fuel with
      | zero =>
          exact absurd enough (Nat.not_lt_zero _)
      | succ fuel =>
          rw [List.flatMap_cons, List.append_assoc]
          exact quoted_escapeChar c
            (inductionHypothesis (Nat.lt_of_succ_lt_succ enough))

theorem escapeChar_length (c : Char) : 1 ≤ (escapeChar c).length := by
  unfold escapeChar
  repeat' split
  all_goals simp

theorem length_le_escaped (cs : List Char) :
    cs.length ≤ (cs.flatMap escapeChar).length := by
  induction cs with
  | nil =>
      exact Nat.le_refl 0
  | cons c cs inductionHypothesis =>
      have := escapeChar_length c
      rw [List.flatMap_cons, List.length_append, List.length_cons]
      omega

/-- A quoted text is read back behind its opening quote. -/
theorem quoted_tail (s : String) (rest : List Char) :
    let tail := s.toList.flatMap escapeChar ++ '"' :: rest
    quoted (tail.length + 1) tail = some (s.toList, rest) := by
  intro tail
  refine quoted_escaped s.toList rest ?_
  have := length_le_escaped s.toList
  simp only [tail, List.length_append, List.length_cons]
  omega

/-! ## Numbers -/

theorem Ends.noDigit {rest : List Char} (ends : Ends rest) : NoDigit rest := by
  intro c first
  exact digit?_of_mem rfl (ends c first)

theorem Ends.places {rest : List Char} (ends : Ends rest) :
    places rest = some (none, rest) := by
  unfold Json.places
  split
  · exact absurd (ends '.' rfl) (by decide)
  · rfl

theorem Ends.exponentPart {rest : List Char} (ends : Ends rest) :
    exponentPart rest = some (none, rest) := by
  cases rest with
  | nil =>
      rfl
  | cons c rest =>
      have other : ¬ (c = 'e' ∨ c = 'E') := by
        rintro (rfl | rfl)
        · exact absurd (ends 'e' rfl) (by decide)
        · exact absurd (ends 'E' rfl) (by decide)
      rw [Json.exponentPart, if_neg other]

/-- A number behind its sign. -/
def unsigned (negative : Bool) (cs : List Char) :
    Option (Json × List Char) := do
  let (whole, cs) := spanDigits cs
  guard (!whole.isEmpty && (whole.length == 1 || whole.head? != some 0))
  let (places, cs) ← places cs
  let (exponent, cs) ← exponentPart cs
  let value ← match places, exponent with
    | none, none => ofWhole? negative whole
    | places, exponent =>
      real? negative whole (places.getD []) (exponent.getD 0)
  return (value, cs)

theorem number_minus (cs : List Char) :
    number ('-' :: cs) = unsigned true cs :=
  rfl

theorem number_plain {cs : List Char} (plain : cs.head? ≠ some '-') :
    number cs = unsigned false cs := by
  unfold number
  split
  rename_i sign
  split at sign
  · exact absurd rfl plain
  · cases sign
    rfl

/-- The digits of a number are read as far as they go. -/
theorem unsigned_digits {negative : Bool} {n : Nat} {rest : List Char}
    (ends : Ends rest) {value : Json}
    (kept : ofWhole? negative (figures n) = some value) :
    unsigned negative (digits n ++ rest) = some (value, rest) := by
  have plain : (!(figures n).isEmpty &&
      ((figures n).length == 1 || (figures n).head? != some 0)) = true := by
    rw [List.isEmpty_eq_false_iff.2 (figures_ne_nil n)]
    simpa using head_figures n
  rw [unsigned, (spells_digits n).spanDigits_append ends.noDigit]
  exact read_then (if_pos plain) <| read_then ends.places <|
    read_then ends.exponentPart <| read_then kept rfl

theorem number_ofInt {i : Int} (held : minInt64 ≤ i ∧ i ≤ maxNat64)
    {rest : List Char} (ends : Ends rest) :
    number (Text.ofInt i ++ rest) = some (.int i, rest) := by
  rw [Text.ofInt]
  split
  · have size : -(i.natAbs : Int) = i := by omega
    rw [List.cons_append, number_minus]
    refine unsigned_digits ends ?_
    rw [ofWhole?, ofDigits_figures]
    simp only [if_true, size]
    rw [if_pos ⟨by omega, held.1⟩]
  · have size : (i.natAbs : Int) = i := by omega
    have plain : (digits i.natAbs ++ rest).head? ≠ some '-' := by
      obtain ⟨c, cs, d, chars, spelled⟩ := digits_cons i.natAbs
      rw [chars, List.cons_append, List.head?_cons, ne_eq, Option.some_inj]
      rintro rfl
      cases spelled
    rw [number_plain plain]
    refine unsigned_digits ends ?_
    rw [ofWhole?, ofDigits_figures]
    simp only [Bool.false_eq_true, if_false, size]
    rw [if_pos (by omega)]

/-! ## Members -/

theorem put_of_new {name : String} {value : Json}
    {members : List (String × Json)} (new : name ∉ members.map Prod.fst) :
    put name value members = members ++ [(name, value)] := by
  induction members with
  | nil =>
      rfl
  | cons m members inductionHypothesis =>
      rw [List.map_cons, List.mem_cons, not_or] at new
      rw [put, if_neg (Ne.symm new.1), inductionHypothesis new.2]
      rfl

/-- Members with names of their own all stay, in their order. -/
theorem ofMembers_of_nodup {members : List (String × Json)}
    (distinct : (members.map Prod.fst).Nodup) :
    ofMembers members = .obj members := by
  have added : ∀ done : List (String × Json),
      ((done ++ members).map Prod.fst).Nodup →
        members.foldl (fun done m => put m.1 m.2 done) done =
          done ++ members := by
    clear distinct
    induction members with
    | nil =>
        intro done _
        exact (List.append_nil done).symm
    | cons m members inductionHypothesis =>
        intro done distinct
        have new : m.1 ∉ done.map Prod.fst := by
          intro member
          rw [List.map_append, List.map_cons] at distinct
          exact (List.nodup_append.1 distinct).2.2 _ member _
            List.mem_cons_self rfl
        have joined : done ++ m :: members = (done ++ [m]) ++ members := by
          rw [List.append_assoc]
          rfl
        rw [List.foldl_cons, put_of_new new, joined]
        exact inductionHypothesis _ (joined ▸ distinct)
  rw [ofMembers, added [] distinct, List.nil_append]

/-! ## Values -/

/-- What a value can begin with: no blank, and nothing that stands between or
behind values. -/
def Begins (cs : List Char) : Prop :=
  ∃ c rest, cs = c :: rest ∧ c ∉ blanks ++ [',', ':', ']', '\x7d']

theorem Begins.append {cs : List Char} (begins : Begins cs)
    (rest : List Char) : Begins (cs ++ rest) := by
  obtain ⟨c, behind, rfl, shown⟩ := begins
  exact ⟨c, behind ++ rest, rfl, shown⟩

theorem Begins.skipSpace_eq {cs : List Char} (begins : Begins cs) :
    skipSpace cs = cs := by
  obtain ⟨c, rest, rfl, shown⟩ := begins
  exact skipSpace_cons (fun blank => shown (List.mem_append_left _ blank)) rest

/-- An integer begins with a minus sign or a digit. -/
theorem ofInt_cons (i : Int) :
    ∃ c rest, Text.ofInt i = c :: rest ∧
      (c = '-' ∨ ∃ d, digit? c = some d) := by
  rw [Text.ofInt]
  split
  · exact ⟨_, _, rfl, .inl rfl⟩
  · obtain ⟨c, cs, d, chars, spelled⟩ := digits_cons i.natAbs
    exact ⟨c, cs, chars, .inr ⟨d, spelled⟩⟩

theorem begins_ofInt (i : Int) : Begins (Text.ofInt i) := by
  obtain ⟨c, rest, chars, first⟩ := ofInt_cons i
  refine ⟨c, rest, chars, ?_⟩
  rcases first with rfl | ⟨d, spelled⟩
  · decide
  · exact not_mem_of_digit rfl spelled

theorem begins_toChars (j : Json) : Begins j.toChars := by
  cases j with
  | null =>
      exact ⟨_, _, rfl, by decide⟩
  | bool b =>
      cases b with
      | true =>
          exact ⟨_, _, rfl, by decide⟩
      | false =>
          exact ⟨_, _, rfl, by decide⟩
  | int i =>
      exact begins_ofInt i
  | real coefficient exponent =>
      obtain ⟨c, rest, chars, shown⟩ := begins_ofInt coefficient
      rw [toChars, realChars, chars]
      exact ⟨c, _, rfl, shown⟩
  | str s =>
      exact ⟨_, _, rfl, by decide⟩
  | arr items =>
      exact ⟨_, _, rfl, by decide⟩
  | obj members =>
      exact ⟨_, _, rfl, by decide⟩

/-- What begins neither a container nor a text nor a word is a number. -/
theorem value_number {c : Char}
    (other : c ∉ blanks ++ ['\x7b', '[', '"', 'n', 't', 'f'])
    (depth fuel : Nat) (cs : List Char) :
    value depth (fuel + 1) (c :: cs) = number (c :: cs) := by
  have shown : c ∉ blanks := fun blank =>
    other (List.mem_append_left _ blank)
  unfold value
  rw [skipSpace_cons shown]
  split
  all_goals first
    | rfl
    | (rename_i shape
       cases shape
       exact absurd (by decide) other)

theorem value_ofInt {i : Int} (held : minInt64 ≤ i ∧ i ≤ maxNat64)
    (depth fuel : Nat) {rest : List Char} (ends : Ends rest) :
    value depth (fuel + 1) (Text.ofInt i ++ rest) = some (.int i, rest) := by
  have read := number_ofInt held ends
  obtain ⟨c, behind, chars, first⟩ := ofInt_cons i
  rw [chars, List.cons_append] at read ⊢
  refine (value_number ?_ depth fuel _).trans read
  rcases first with rfl | ⟨d, spelled⟩
  · decide
  · exact not_mem_of_digit rfl spelled

/-- Reading the text of a value within a longer one gives the value back, and
stops behind it.  As much fuel is enough as the text of the value is long,
whatever the text behind it is. -/
def ReadBack (depth : Nat) (j : Json) : Prop :=
  ∀ (fuel : Nat) (rest : List Char), j.toChars.length ≤ fuel → Ends rest →
    value depth fuel (j.toChars ++ rest) = some (j, rest)

theorem itemChars_cons (item second : Json) (others : List Json) :
    itemChars (item :: second :: others) =
      item.toChars ++ ',' :: itemChars (second :: others) := by
  rw [itemChars]
  exact List.cons_ne_nil _ _

theorem memberChars_cons (m second : String × Json)
    (others : List (String × Json)) :
    memberChars (m :: second :: others) =
      quote m.1 ++ ':' :: (m.2.toChars ++
        ',' :: memberChars (second :: others)) := by
  rw [memberChars]
  exact List.cons_ne_nil _ _

/-- The items of an array are read back up to the closing bracket.  Each takes
one unit of fuel, for which the comma in front of it stands. -/
theorem items_readBack {depth : Nat} {all : List Json} (some : all ≠ [])
    (each : ∀ item ∈ all, ReadBack depth item) {fuel : Nat}
    (enough : (itemChars all).length < fuel) (rest : List Char) :
    items depth fuel (itemChars all ++ ']' :: rest) = .some (all, rest) := by
  induction all generalizing fuel with
  | nil =>
      exact absurd rfl some
  | cons item others inductionHypothesis =>
      obtain ⟨fuel, rfl⟩ := Nat.exists_eq_succ_of_ne_zero
        (Nat.ne_zero_of_lt enough)
      have first := each item List.mem_cons_self fuel
      cases others with
      | nil =>
          rw [itemChars] at enough ⊢
          exact read_then (first _ (Nat.le_of_lt_succ enough)
            (ends_cons (by decide) _)) rfl
      | cons second others =>
          rw [itemChars_cons, List.length_append, List.length_cons] at enough
          have less : (itemChars (second :: others)).length < fuel := by
            omega
          have behind := inductionHypothesis (List.cons_ne_nil _ _)
            (fun item member => each item (List.mem_cons_of_mem _ member)) less
          rw [itemChars_cons, List.append_assoc]
          exact read_then (first _ (by omega) (ends_cons (by decide) _))
            (read_then behind rfl)

theorem ofList_name (m : String × Json) :
    (String.ofList m.1.toList, m.2) = m := by
  rw [String.ofList_toList]

theorem quote_append (s : String) (rest : List Char) :
    quote s ++ rest =
      '"' :: (s.toList.flatMap escapeChar ++ '"' :: rest) := by
  rw [quote, List.cons_append, List.append_assoc]
  rfl

/-- The members of an object are read back up to the closing brace. -/
theorem members_readBack {depth : Nat} {all : List (String × Json)}
    (some : all ≠ []) (each : ∀ m ∈ all, ReadBack depth m.2) {fuel : Nat}
    (enough : (memberChars all).length < fuel) (rest : List Char) :
    members depth fuel (memberChars all ++ '\x7d' :: rest) =
      .some (all, rest) := by
  induction all generalizing fuel with
  | nil =>
      exact absurd rfl some
  | cons m others inductionHypothesis =>
      obtain ⟨fuel, rfl⟩ := Nat.exists_eq_succ_of_ne_zero
        (Nat.ne_zero_of_lt enough)
      have first := each m List.mem_cons_self fuel
      cases others with
      | nil =>
          rw [memberChars, List.length_append, List.length_cons] at enough
          rw [memberChars, List.append_assoc, List.cons_append,
            quote_append, members]
          refine read_then (quoted_tail m.1 _) <| read_then
            (first _ (by omega) (ends_cons (by decide) _)) ?_
          exact congrArg (fun m => Option.some ([m], rest)) (ofList_name m)
      | cons second others =>
          rw [memberChars_cons, List.length_append, List.length_cons,
            List.length_append, List.length_cons] at enough
          have less : (memberChars (second :: others)).length < fuel := by
            omega
          have behind := inductionHypothesis (List.cons_ne_nil _ _)
            (fun m member => each m (List.mem_cons_of_mem _ member)) less
          rw [memberChars_cons, List.append_assoc, List.cons_append,
            List.append_assoc, quote_append, members]
          refine read_then (quoted_tail m.1 _) <| read_then
            (first _ (by omega) (ends_cons (by decide) _)) <|
            read_then behind ?_
          exact congrArg (fun m => Option.some (m :: second :: others, rest))
            (ofList_name m)

theorem begins_itemChars {all : List Json} (some : all ≠ []) :
    Begins (itemChars all) := by
  cases all with
  | nil =>
      exact absurd rfl some
  | cons item others =>
      cases others with
      | nil =>
          exact begins_toChars item
      | cons second others =>
          obtain ⟨c, rest, chars, shown⟩ := begins_toChars item
          rw [itemChars_cons, chars]
          exact ⟨c, _, rfl, shown⟩

theorem begins_memberChars {all : List (String × Json)} (some : all ≠ []) :
    Begins (memberChars all) := by
  cases all with
  | nil =>
      exact absurd rfl some
  | cons m others =>
      cases others with
      | nil =>
          exact ⟨_, _, rfl, by decide⟩
      | cons second others =>
          rw [memberChars_cons]
          exact ⟨_, _, rfl, by decide⟩

/-- An array that does not end at once is read by its items. -/
theorem value_bracket {cs : List Char} (begins : Begins cs)
    (depth fuel : Nat) :
    value (depth + 1) (fuel + 1) ('[' :: cs) = (do
      let (all, rest) ← items depth fuel cs
      return (.arr all, rest)) := by
  have shown := begins.skipSpace_eq
  obtain ⟨c, behind, rfl, other⟩ := begins
  unfold value
  rw [skipSpace_cons (by decide)]
  simp only [Nat.succ_ne_zero, if_false, shown]
  split
  · rename_i shape
    cases shape
    exact absurd (by decide) other
  · rfl

/-- An object that does not end at once is read by its members. -/
theorem value_brace {cs : List Char} (begins : Begins cs)
    (depth fuel : Nat) :
    value (depth + 1) (fuel + 1) ('\x7b' :: cs) = (do
      let (all, rest) ← members depth fuel cs
      return (ofMembers all, rest)) := by
  have shown := begins.skipSpace_eq
  obtain ⟨c, behind, rfl, other⟩ := begins
  unfold value
  rw [skipSpace_cons (by decide)]
  simp only [Nat.succ_ne_zero, if_false, shown]
  split
  · rename_i shape
    cases shape
    exact absurd (by decide) other
  · rfl

/-- As every text has a character, there is fuel to be read with. -/
theorem ReadBack.of_succ {depth : Nat} {j : Json}
    (read : ∀ (fuel : Nat) (rest : List Char),
      j.toChars.length ≤ fuel + 1 → Ends rest →
        value depth (fuel + 1) (j.toChars ++ rest) = some (j, rest)) :
    ReadBack depth j := by
  intro fuel rest enough ends
  obtain ⟨c, behind, chars, _⟩ := begins_toChars j
  cases fuel with
  | zero =>
      rw [chars] at enough
      exact absurd enough (Nat.not_succ_le_zero _)
  | succ fuel =>
      exact read fuel rest enough ends

/-- What can be read is read back. -/
theorem Readable.readBack {depth : Nat} {j : Json}
    (readable : j.Readable depth) : ReadBack depth j := by
  induction readable with
  | null =>
      exact .of_succ fun _ _ _ _ => rfl
  | bool b =>
      cases b with
      | true =>
          exact .of_succ fun _ _ _ _ => rfl
      | false =>
          exact .of_succ fun _ _ _ _ => rfl
  | int held =>
      exact .of_succ fun fuel _ _ ends => value_ofInt held _ fuel ends
  | str s =>
      refine .of_succ ?_
      intro fuel rest _ _
      rw [toChars, quote_append]
      exact read_then (quoted_tail s rest)
        (congrArg (fun s => some (Json.str s, rest)) String.ofList_toList)
  | @arr depth all each inductionHypothesis =>
      refine .of_succ ?_
      intro fuel rest enough _
      cases all with
      | nil =>
          rfl
      | cons item others =>
          have some : item :: others ≠ [] := List.cons_ne_nil _ _
          rw [toChars, List.length_cons, List.length_append,
            List.length_singleton] at enough
          rw [toChars, List.cons_append, List.append_assoc,
            value_bracket ((begins_itemChars some).append _)]
          exact read_then
            (items_readBack some inductionHypothesis (by omega) rest) rfl
  | @obj depth all distinct each inductionHypothesis =>
      refine .of_succ ?_
      intro fuel rest enough _
      cases all with
      | nil =>
          rfl
      | cons m others =>
          have some : m :: others ≠ [] := List.cons_ne_nil _ _
          rw [toChars, List.length_cons, List.length_append,
            List.length_singleton] at enough
          rw [toChars, List.cons_append, List.append_assoc,
            value_brace ((begins_memberChars some).append _),
            ← ofMembers_of_nodup distinct]
          exact read_then
            (members_readBack some inductionHypothesis (by omega) rest) rfl

/-- Reading the compact text of a value gives the value back, if it can be
read. -/
theorem ofText?_text {j : Json} (readable : j.Readable 127) :
    ofText? j.text = some j := by
  have whole := readable.readBack (j.toChars.length + 1) []
    (Nat.le_succ _) ends_nil
  rw [List.append_nil] at whole
  rw [ofText?, text, String.toList_ofList]
  exact read_then whole (read_then (if_pos rfl) rfl)

end Workforce.Json
