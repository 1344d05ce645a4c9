import Workforce.Proofs.Text.Digits
import Workforce.Proofs.Time.Calendar
import Workforce.Time.Rfc3339

/-!
# Instants are read back from their texts

The text of an instant tells the date and the time of day on its own wall clock,
the nanoseconds and the offset.  This module shows that reading it gives the
instant back, with its offset, provided that the year on the wall clock is one
that is written with four digits (`ZonedTime.ofText?_text`).

Each part of a text is taken up separately: what reads the part stops where the
next one begins.
-/

namespace Workforce

open Workforce.Text

namespace ZonedTime

/-! ## Blanks, marks and fields -/

theorem isBlank_of_digit {c : Char} {d : Nat} (spelled : digit? c = some d) :
    isBlank c = false := by
  have range : '0' ≤ c ∧ c ≤ '9' := by
    unfold digit? at spelled
    split at spelled
    · assumption
    · cases spelled
  have low : 48 ≤ c.toNat := range.1
  have high : c.toNat ≤ 57 := range.2
  simp only [isBlank, Bool.or_eq_false_iff, Bool.and_eq_false_iff,
    decide_eq_false_iff_not, beq_eq_false_iff_ne]
  omega

theorem skipBlanks_cons {c : Char} (cs : List Char)
    (shown : isBlank c = false) : skipBlanks (c :: cs) = c :: cs := by
  rw [skipBlanks, List.dropWhile_cons, shown]
  rfl

theorem mark_cons {m : Char} (cs : List Char) (shown : isBlank m = false) :
    mark m (m :: cs) = some cs := by
  rw [mark, skipBlanks_cons cs shown]
  exact if_pos rfl

/-- A field of digits as wide as it may be is read whole. -/
theorem field_append {width n : Nat} (some : 0 < width) (rest : List Char) :
    field width (fixedDigits width n ++ rest) =
      .some (n % 10 ^ width, rest) := by
  have row := spells_fixedDigits width n
  have length : (fixedDigits width n).length = width := by
    rw [row.length_eq, length_lastFigures]
  have shown : skipBlanks (fixedDigits width n ++ rest) =
      fixedDigits width n ++ rest := by
    obtain ⟨c, cs, d, chars, spelled⟩ := fixedDigits_cons some n
    rw [chars]
    exact skipBlanks_cons _ (isBlank_of_digit spelled)
  have taken : (fixedDigits width n ++ rest).take width =
      fixedDigits width n :=
    List.take_left' length
  have left : (fixedDigits width n ++ rest).drop width = rest :=
    List.drop_left' length
  rw [field]
  simp only [shown, taken, row.spanDigits_eq, isEmpty_lastFigures some,
    length_lastFigures, left, ofDigits_lastFigures]
  rfl

theorem field_two {n : Nat} (rest : List Char) (two : n < 100) :
    field 2 (fixedDigits 2 n ++ rest) = some (n, rest) := by
  rw [field_append (by decide)]
  exact congrArg (fun n => some (n, rest)) (Nat.mod_eq_of_lt two)

theorem divider_letter (rest : List Char) :
    divider ('T' :: rest) = some rest :=
  rfl

/-- A year that has four digits is read as it is written. -/
theorem yearField_append {year : Int} (four : 0 ≤ year ∧ year ≤ 9999)
    (rest : List Char) :
    yearField (yearChars year ++ rest) = some (year, rest) := by
  have whole : (year.toNat % 10 ^ 4 : Nat) = year := by omega
  have read : field 4 (fixedDigits 4 year.toNat ++ rest) =
      some (year.toNat % 10 ^ 4, rest) :=
    field_append (by decide) rest
  rw [yearChars, if_pos four]
  obtain ⟨c, cs, d, chars, spelled⟩ :=
    fixedDigits_cons (by decide : 0 < 4) year.toNat
  rw [chars] at read ⊢
  rw [List.cons_append] at read ⊢
  rw [yearField, skipBlanks_cons _ (isBlank_of_digit spelled)]
  split
  · rename_i shape
    cases shape
    cases spelled
  · rename_i shape
    cases shape
    cases spelled
  · rw [read, Option.bind_eq_bind, Option.bind_some]
    exact congrArg (fun y => some (y, rest)) whole

/-! ## Fractions of a second -/

/-- Places behind a point, up to nine of them, are nanoseconds. -/
theorem fraction_places {width n : Nat} (some : 0 < width)
    (few : width ≤ 9) {rest : List Char} (ends : NoDigit rest) :
    fraction ('.' :: fixedDigits width n ++ rest) =
      .some (n % 10 ^ width * 10 ^ (9 - width), rest) := by
  have row := spells_fixedDigits width n
  have filled : (lastFigures width n ++ List.replicate 9 0).take 9 =
      lastFigures width n ++ List.replicate (9 - width) 0 := by
    rw [List.take_append, length_lastFigures, List.take_replicate,
      List.take_of_length_le (by rw [length_lastFigures]; exact few),
      Nat.min_eq_left (Nat.sub_le 9 width)]
  rw [List.cons_append, fraction]
  simp only [row.spanDigits_append ends, isEmpty_lastFigures some, filled,
    ofDigits_append, ofDigits_lastFigures, ofDigits_zeros,
    List.length_replicate, Nat.add_zero]
  rfl

theorem fraction_append {nanoseconds : Nat} (second : nanoseconds < 10 ^ 9)
    {rest : List Char} (ends : NoDigit rest) (point : rest.head? ≠ some '.') :
    fraction (fractionChars nanoseconds ++ rest) =
      some (nanoseconds, rest) := by
  have places : ∀ width n, 0 < width → width ≤ 9 →
      n % 10 ^ width * 10 ^ (9 - width) = nanoseconds →
        fraction ('.' :: fixedDigits width n ++ rest) =
          some (nanoseconds, rest) := by
    rintro width n digits few rfl
    exact fraction_places digits few ends
  rw [fractionChars]
  split
  · rename_i whole
    rw [List.nil_append, whole, fraction]
    rintro behind rfl
    exact point rfl
  · split
    · exact places 3 _ (by decide) (by decide) (by omega)
    · split
      · exact places 6 _ (by decide) (by decide) (by omega)
      · exact places 9 _ (by decide) (by decide) (by omega)

/-! ## Offsets -/

theorem readDigits_field {n : Nat} (two : n < 100) :
    readDigits (fixedDigits 2 n) = some n := by
  rw [(spells_fixedDigits 2 n).readDigits_eq, ofDigits_lastFigures]
  exact congrArg some (Nat.mod_eq_of_lt two)

theorem signedOffset?_fields {c : Char} {sign : Int}
    (signed : signOf? c = some sign) {hours minutes : Nat}
    (day : hours < 24) (hour : minutes < 60) :
    signedOffset?
        (c :: (fixedDigits 2 hours ++ ':' :: fixedDigits 2 minutes)) =
      some (sign * (hours * 60 + minutes : Nat)) := by
  have first : isBlank (digitChar (minutes / 10)) = false :=
    isBlank_of_digit (digit?_digitChar _)
  have notColon : (digitChar (minutes / 10) == ':') = false := by
    rw [beq_eq_false_iff_ne]
    intro colon
    have spelled := digit?_digitChar (minutes / 10)
    rw [colon] at spelled
    cases spelled
  have behind : (':' :: fixedDigits 2 minutes).dropWhile
      (fun c => c == ':' || isBlank c) = fixedDigits 2 minutes := by
    have chars : fixedDigits 2 minutes =
        [digitChar (minutes / 10), digitChar minutes] := rfl
    rw [chars, List.dropWhile_cons_of_pos rfl,
      List.dropWhile_cons_of_neg (by simp [first, notColon])]
  have taken : (fixedDigits 2 hours ++ ':' :: fixedDigits 2 minutes).take 2 =
      fixedDigits 2 hours := rfl
  have dropped : (fixedDigits 2 hours ++ ':' :: fixedDigits 2 minutes).drop 2 =
      ':' :: fixedDigits 2 minutes := rfl
  have whole : (fixedDigits 2 minutes).take 2 = fixedDigits 2 minutes := rfl
  rw [signedOffset?, signed]
  simp only [Option.bind_eq_bind, Option.bind_some, taken, dropped, behind,
    whole, readDigits_field (Nat.lt_trans day (by decide)),
    readDigits_field (Nat.lt_trans hour (by decide)), hour, decide_true]
  rfl

theorem offset?_offsetChars {offset : Int} (day : offset.natAbs < 1440) :
    offset? (offsetChars offset) = some offset := by
  have hours : offset.natAbs / 60 < 24 := by omega
  have minutes : offset.natAbs % 60 < 60 := Nat.mod_lt _ (by decide)
  rw [offsetChars]
  split
  · rename_i utc
    rw [utc]
    rfl
  · split
    · have read := signedOffset?_fields (c := '-') rfl hours minutes
      have size : -1 * ((offset.natAbs / 60 * 60 + offset.natAbs % 60 : Nat) :
          Int) = offset := by
        omega
      rw [size] at read
      exact read
    · have read := signedOffset?_fields (c := '+') rfl hours minutes
      have size : 1 * ((offset.natAbs / 60 * 60 + offset.natAbs % 60 : Nat) :
          Int) = offset := by
        omega
      rw [size] at read
      exact read

/-! ## Texts -/

/-- The year that the wall clock shows. -/
def year (t : ZonedTime) : Int :=
  (Date.ofDayNumber (t.localNanoseconds / Instant.perDay)).year

/-- Whether the year is written with four digits and no sign. -/
def HasFourDigits (t : ZonedTime) : Prop :=
  0 ≤ t.year ∧ t.year ≤ 9999

instance (t : ZonedTime) : Decidable t.HasFourDigits :=
  inferInstanceAs (Decidable (_ ∧ _))

/-- Where the wall clock shows one of these years, it is not far from one of
them in UTC. -/
theorem yearAllowed_in_utc {t : ZonedTime} (four : t.HasFourDigits) :
    yearAllowed (Date.ofDayNumber
      (t.instant.nanoseconds / Instant.perDay)).year = true := by
  obtain ⟨least, most⟩ := four
  obtain ⟨low, high⟩ :=
    Date.year_ofDayNumber (t.localNanoseconds / Instant.perDay)
  obtain ⟨lowUtc, highUtc⟩ :=
    Date.year_ofDayNumber (t.instant.nanoseconds / Instant.perDay)
  have day := t.offset_lt
  have early : -2 ≤ Date.cycleOf (t.localNanoseconds / Instant.perDay) ∧
      Date.cycleOf (t.localNanoseconds / Instant.perDay) ≤ 25 := by
    unfold year at least most
    omega
  have near : -3 ≤ Date.cycleOf (t.instant.nanoseconds / Instant.perDay) ∧
      Date.cycleOf (t.instant.nanoseconds / Instant.perDay) ≤ 26 := by
    unfold Date.cycleOf localNanoseconds Instant.perDay Instant.perMinute
      Instant.perSecond at *
    omega
  rw [yearAllowed, Bool.and_eq_true, decide_eq_true_eq, decide_eq_true_eq]
  omega

/-- No digit and no point stands at the front of an offset. -/
theorem offsetChars_ends (offset : Int) :
    NoDigit (offsetChars offset) ∧ (offsetChars offset).head? ≠ some '.' := by
  rw [offsetChars]
  split
  · exact ⟨noDigit_cons rfl _, by decide⟩
  · split
    · exact ⟨noDigit_cons rfl _, by rw [List.head?_cons]; decide⟩
    · exact ⟨noDigit_cons rfl _, by rw [List.head?_cons]; decide⟩

/-- What becomes of the parts of a text that were read: the instant that they
tell, if there is one. -/
def ofParts? (date : Date) (hour minute second nanosecond : Nat)
    (offset : Int) : Option ZonedTime := do
  guard (hour < 24 && minute < 60 && second < 60)
  guard (yearAllowed date.year && decide date.Exists)
  let inDay : Int := (hour * 60 + minute) * 60 + second
  let shown := date.dayNumber * Instant.perDay +
    inDay * Instant.perSecond + nanosecond
  let instant : Instant := ⟨shown - offset * Instant.perMinute⟩
  let dayInUtc := Date.ofDayNumber (instant.nanoseconds / Instant.perDay)
  guard (yearAllowed dayInUtc.year)
  if offset_lt : offset.natAbs < 1440 then
    return { instant, offset, offset_lt }
  else
    none

/-- Each part of a text is read up to where the next begins. -/
theorem ofChars?_parts {year offset : Int}
    {month day hour minute second nanosecond : Nat}
    (fourDigits : 0 ≤ year ∧ year ≤ 9999)
    (twoDigits : month < 100 ∧ day < 100 ∧ hour < 100 ∧ minute < 100 ∧
      second < 100)
    (inSecond : nanosecond < 10 ^ 9) (inDay : offset.natAbs < 1440) :
    ofChars? (yearChars year ++
      '-' :: fixedDigits 2 month ++
      '-' :: fixedDigits 2 day ++
      'T' :: fixedDigits 2 hour ++
      ':' :: fixedDigits 2 minute ++
      ':' :: fixedDigits 2 second ++
      fractionChars nanosecond ++
      offsetChars offset) =
    ofParts? ⟨year, month, day⟩ hour minute second nanosecond offset := by
  obtain ⟨months, days, hours, minutes, seconds⟩ := twoDigits
  obtain ⟨ends, point⟩ := offsetChars_ends offset
  simp only [List.append_assoc, List.cons_append]
  exact read_then (yearField_append fourDigits _) <|
    read_then (mark_cons _ rfl) <| read_then (field_two _ months) <|
    read_then (mark_cons _ rfl) <| read_then (field_two _ days) <|
    read_then (divider_letter _) <| read_then (field_two _ hours) <|
    read_then (mark_cons _ rfl) <| read_then (field_two _ minutes) <|
    read_then (mark_cons _ rfl) <| read_then (field_two _ seconds) <|
    read_then (fraction_append inSecond ends point) <|
    read_then (offset?_offsetChars inDay) rfl

/-- The parts tell the instant whose wall clock shows them. -/
theorem ofParts?_eq {t : ZonedTime} {date : Date}
    {hour minute second nanosecond : Nat}
    (clock : hour < 24 ∧ minute < 60 ∧ second < 60)
    (known : yearAllowed date.year = true ∧ date.Exists)
    (shown : date.dayNumber * Instant.perDay +
      ((hour * 60 + minute) * 60 + second : Int) * Instant.perSecond +
        nanosecond = t.localNanoseconds)
    (inUtc : yearAllowed (Date.ofDayNumber
      (t.instant.nanoseconds / Instant.perDay)).year = true) :
    ofParts? date hour minute second nanosecond t.offset = some t := by
  have instant :
      t.localNanoseconds - t.offset * Instant.perMinute =
        t.instant.nanoseconds :=
    Int.add_sub_cancel _ _
  have onClock : (hour < 24 && minute < 60 && second < 60) = true := by
    simp [clock]
  have inCalendar :
      (yearAllowed date.year && decide date.Exists) = true := by
    simp [known]
  rw [ofParts?]
  simp only [shown, instant]
  exact read_then (if_pos onClock) <| read_then (if_pos inCalendar) <|
    read_then (if_pos inUtc) (dif_pos t.offset_lt)

theorem ofChars?_toChars {t : ZonedTime} (four : t.HasFourDigits) :
    ofChars? t.toChars = some t := by
  obtain ⟨day, dayNumber⟩ :
      ∃ day, day = t.localNanoseconds / Instant.perDay := ⟨_, rfl⟩
  obtain ⟨inDay, rest⟩ :
      ∃ inDay, inDay = (t.localNanoseconds % Instant.perDay).toNat := ⟨_, rfl⟩
  have sum : day * Instant.perDay + inDay = t.localNanoseconds := by
    unfold Instant.perDay Instant.perSecond at *
    omega
  have within : inDay < 86400 * 1000000000 := by
    unfold Instant.perDay Instant.perSecond at *
    omega
  have fourDigits :
      0 ≤ (Date.ofDayNumber day).year ∧ (Date.ofDayNumber day).year ≤ 9999 :=
    dayNumber ▸ four
  have allowed : yearAllowed (Date.ofDayNumber day).year = true := by
    rw [yearAllowed, Bool.and_eq_true, decide_eq_true_eq, decide_eq_true_eq]
    omega
  obtain ⟨monthLow, monthHigh⟩ := Date.month_ofDayNumber day
  obtain ⟨dayLow, dayHigh⟩ := Date.day_ofDayNumber day
  have date : (⟨(Date.ofDayNumber day).year,
      (Date.ofDayNumber day).month.toNat, (Date.ofDayNumber day).day.toNat⟩ :
        Date) = Date.ofDayNumber day := by
    rw [Int.toNat_of_nonneg (by omega), Int.toNat_of_nonneg (by omega)]
  rw [toChars]
  simp only [← dayNumber, ← rest]
  rw [ofChars?_parts fourDigits (by omega) (by omega) t.offset_lt, date]
  refine ofParts?_eq (by omega) ⟨allowed, Date.exists_ofDayNumber day⟩ ?_
    (yearAllowed_in_utc four)
  rw [Date.dayNumber_ofDayNumber, ← sum]
  unfold Instant.perSecond
  omega

/-- Reading the text of an instant gives it back, with its offset. -/
theorem ofText?_text {t : ZonedTime} (four : t.HasFourDigits) :
    ofText? t.text = some t := by
  rw [ofText?, text, String.toList_ofList, ofChars?_toChars four]

end ZonedTime

theorem Instant.ofText?_text {t : Instant}
    (four : (ZonedTime.ofInstant t).HasFourDigits) :
    Instant.ofText? t.text = some t := by
  rw [Instant.ofText?, Instant.text, ZonedTime.ofText?_text four]
  rfl

end Workforce
