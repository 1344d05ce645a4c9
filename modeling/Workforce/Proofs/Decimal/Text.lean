import Mathlib.Data.List.TakeWhile
import Workforce.Decimal.Text
import Workforce.Proofs.Decimal.Rounding
import Workforce.Proofs.Text.Digits

/-!
# Decimals are read back from their texts

A decimal is written with all the places of its scale, so that reading its text
gives it back, scale and all (`ofText?_text`).  The one thing that a text does
not keep is the minus sign of a zero (`settled`).
-/

namespace Workforce.Decimal

open Workforce.Text

/-- The decimal as its text gives it back: a zero has no minus sign. -/
def settled (d : Decimal) : Decimal :=
  if d.magnitude = 0 then { d with negative := false } else d

theorem settled_eq_self {d : Decimal}
    (plain : d.magnitude = 0 → d.negative = false) : d.settled = d := by
  obtain ⟨negative, magnitude, scale, _, _⟩ := d
  rw [settled]
  split
  · rename_i zero
    cases (plain zero : negative = false)
    rfl
  · rfl

theorem ofParts?_coefficient (d : Decimal) :
    ofParts? d.coefficient d.scale = some d.settled := by
  rw [ofParts?, natAbs_coefficient, ofSigned?,
    dif_pos ⟨d.magnitude_lt, d.scale_le⟩, settled]
  obtain ⟨negative, magnitude, scale, magnitude_lt, scale_le⟩ := d
  simp only [coefficient]
  by_cases zero : magnitude = 0
  · subst zero
    cases negative with
    | true =>
        rfl
    | false =>
        rfl
  · rw [if_neg zero]
    cases negative with
    | true =>
        have below : -(magnitude : Int) < 0 := by omega
        simp only [if_true, below, decide_true]
    | false =>
        have above : ¬ (magnitude : Int) < 0 := by omega
        simp only [Bool.false_eq_true, if_false, above, decide_false]

/-! ## Rows without underscores -/

section Rows

variable {cs : List Char} {ds : List Nat}

theorem groupedDigits_of_spells (row : Spells cs ds) (begun : Bool) :
    groupedDigits begun cs = some ds := by
  induction row generalizing begun with
  | nil =>
      rfl
  | @cons c d _ _ spelled row inductionHypothesis =>
      have digit : c ≠ '_' := by
        rintro rfl
        cases spelled
      rw [groupedDigits, if_neg digit, spelled, Option.bind_eq_bind,
        Option.bind_some, inductionHypothesis]
      rfl

theorem dropDigitChars_of_spells {n : Nat} (row : Spells cs ds)
    (short : cs.length ≤ n) : dropDigitChars n cs = [] := by
  induction row generalizing n with
  | nil =>
      cases n with
      | zero =>
          rfl
      | succ n =>
          rfl
  | cons spelled row inductionHypothesis =>
      cases n with
      | zero =>
          exact absurd short (Nat.not_succ_le_zero _)
      | succ n =>
          rw [dropDigitChars, spelled]
          exact inductionHypothesis (Nat.le_of_succ_le_succ short)

/-- All places count of a row that fits. -/
theorem countedPlaces_of_spells (whole : List Nat) (row : Spells cs ds)
    (short : cs.length ≤ 28) : countedPlaces whole ds cs = ds := by
  rw [countedPlaces, dropDigitChars_of_spells row short]
  simp

end Rows

/-! ## Numerals -/

/-- The numeral of a decimal: its digits in front of and behind the point. -/
def numeral (d : Decimal) : Numeral :=
  { negative := d.negative
    whole := figures (d.magnitude / tenTo d.scale)
    places := lastFigures d.scale d.magnitude }

theorem ofNumeral?_numeral (d : Decimal) :
    ofNumeral? d.numeral = some d.settled := by
  have length : d.numeral.places.length = d.scale :=
    length_lastFigures d.scale d.magnitude
  have magnitude :
      ofDigits (d.numeral.whole ++ d.numeral.places) = d.magnitude := by
    rw [ofDigits_append, length, numeral, ofDigits_figures,
      ofDigits_lastFigures]
    exact Nat.div_add_mod' _ _
  have whole : roundHalfUp d.magnitude (tenTo 0) = d.magnitude := by
    have one : tenTo 0 = 1 := rfl
    rw [roundHalfUp, one]
    omega
  have first := ofParts?_coefficient d
  rw [coefficient] at first
  rw [ofNumeral?]
  simp only [length, magnitude, List.range_succ_eq_map, List.findSome?_cons,
    whole]
  rw [numeral, Nat.sub_zero, first]

/-! ## Texts -/

/-- The places behind the point, if there are any. -/
def pointed (d : Decimal) : List Char :=
  if d.scale = 0 then [] else '.' :: fixedDigits d.scale d.magnitude

/-- The text of a decimal without its sign. -/
def unsigned (d : Decimal) : List Char :=
  digits (d.magnitude / tenTo d.scale) ++ d.pointed

theorem toChars_eq (d : Decimal) :
    d.toChars = (if d.negative then ['-'] else []) ++ d.unsigned := by
  rw [toChars, unsigned, pointed]
  split
  · rw [List.append_nil]
  · rw [List.append_assoc]

theorem mem_unsigned {d : Decimal} {c : Char} (member : c ∈ d.unsigned) :
    c = '.' ∨ ∃ n, digit? c = some n := by
  rcases List.mem_append.1 member with front | behind
  · exact .inr ((spells_digits _).digit_of_mem front)
  · rw [pointed] at behind
    split at behind
    · exact absurd behind List.not_mem_nil
    · rcases List.mem_cons.1 behind with point | back
      · exact .inl point
      · exact .inr ((spells_fixedDigits _ _).digit_of_mem back)

theorem ne_of_mem_unsigned {d : Decimal} {c m : Char}
    (member : c ∈ d.unsigned) (mark : m ≠ '.' ∧ digit? m = none) : c ≠ m := by
  rintro rfl
  rcases mem_unsigned member with point | ⟨n, spelled⟩
  · exact mark.1 point
  · rw [mark.2] at spelled
    cases spelled

theorem splitSign_of_ne {cs : List Char}
    (plain : ∀ c ∈ cs.head?, c ≠ '-' ∧ c ≠ '+') :
    splitSign cs = (false, cs) := by
  unfold splitSign
  split
  · exact absurd rfl (plain '-' rfl).1
  · exact absurd rfl (plain '+' rfl).2
  · rfl

theorem splitSign_toChars (d : Decimal) :
    splitSign d.toChars = (d.negative, d.unsigned) := by
  rw [toChars_eq]
  cases sign : d.negative with
  | true =>
      rfl
  | false =>
      refine splitSign_of_ne ?_
      intro c first
      have member : c ∈ d.unsigned := List.mem_of_mem_head? first
      exact ⟨ne_of_mem_unsigned member (by decide),
        ne_of_mem_unsigned member (by decide)⟩

/-- The point stands between the whole part and the places. -/
theorem split_unsigned (d : Decimal) :
    d.unsigned.takeWhile (· ≠ '.') = digits (d.magnitude / tenTo d.scale) ∧
      (d.unsigned.dropWhile (· ≠ '.')).drop 1 =
        fixedDigits d.scale d.magnitude := by
  have front : ∀ c ∈ digits (d.magnitude / tenTo d.scale),
      decide (c ≠ '.') = true := by
    intro c member
    obtain ⟨n, spelled⟩ := (spells_digits _).digit_of_mem member
    refine decide_eq_true ?_
    rintro rfl
    cases spelled
  rw [unsigned, List.takeWhile_append_of_pos front,
    List.dropWhile_append_of_pos front, pointed]
  split
  · rename_i whole
    rw [whole, List.takeWhile_nil, List.append_nil]
    exact ⟨rfl, rfl⟩
  · exact ⟨List.append_nil _, rfl⟩

theorem ofChars?_toChars (d : Decimal) :
    Numeral.ofChars? d.toChars = some d.numeral := by
  obtain ⟨front, back⟩ := d.split_unsigned
  have whole := spells_digits (d.magnitude / tenTo d.scale)
  have places := spells_fixedDigits d.scale d.magnitude
  have short : (fixedDigits d.scale d.magnitude).length ≤ 28 := by
    rw [places.length_eq, length_lastFigures]
    exact d.scale_le
  rw [Numeral.ofChars?, splitSign_toChars]
  dsimp only
  rw [front, back, groupedDigits_of_spells whole, Option.bind_eq_bind,
    Option.bind_some, groupedDigits_of_spells places, Option.bind_some,
    countedPlaces_of_spells _ places short]
  have some : (figures (d.magnitude / tenTo d.scale)).isEmpty = false :=
    List.isEmpty_eq_false_iff.2 (figures_ne_nil _)
  rw [some]
  rfl

/-- Reading the text of a decimal gives it back, but for the minus sign of a
zero. -/
theorem ofText?_text (d : Decimal) : ofText? d.text = some d.settled := by
  have plain : ∀ c ∈ d.toChars, (!(c == 'e' || c == 'E')) = true := by
    intro c member
    rw [toChars_eq] at member
    rcases List.mem_append.1 member with sign | behind
    · split at sign
      · rw [List.mem_singleton.1 sign]
        rfl
      · exact absurd sign List.not_mem_nil
    · have lower : c ≠ 'e' := ne_of_mem_unsigned behind (by decide)
      have upper : c ≠ 'E' := ne_of_mem_unsigned behind (by decide)
      simp [lower, upper]
  rw [ofText?, text, String.toList_ofList, ofChars?,
    List.takeWhile_eq_self_iff.2 plain, List.dropWhile_eq_nil_iff.2 plain,
    ofChars?_toChars]
  exact congrArg (Option.bind · _) (ofNumeral?_numeral d)

end Workforce.Decimal
