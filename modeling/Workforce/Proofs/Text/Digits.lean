import Mathlib.Data.List.Forall2
import Mathlib.Data.List.Induction
import Mathlib.Tactic.Ring
import Workforce.Text.Digits

/-!
# Rows of digits

A number is written as a row of digits, as many as it needs or as many as a
field has.  This module shows that the row stands for the number:

* a row of characters spells a list of digits if each spells its own
  (`Spells`); what stops at the first other character then stops at the end
  of the row;
* the row of a number begins with a zero only if the number is zero;
* a field of fixed width holds the number up to its last places.
-/

namespace Workforce.Text

/-! ## Reading in steps -/

/-- What reads one thing after the other goes on with the first that it
reads. -/
theorem read_then {α β : Type} {first : Option α} {rest : α → Option β}
    {a : α} {b : Option β} (found : first = some a) (next : rest a = b) :
    first >>= rest = b := by
  rw [found]
  exact next

/-- What reads one thing after the other fails with the first. -/
theorem fails_then {α β : Type} {first : Option α} {rest : α → Option β}
    (refused : first = none) : first >>= rest = none := by
  rw [refused]
  rfl

/-! ## Rows that spell digits -/

/-- A row of characters that spells these digits. -/
def Spells (cs : List Char) (ds : List Nat) : Prop :=
  List.Forall₂ (fun c d => digit? c = some d) cs ds

/-- No digit comes next. -/
def NoDigit (cs : List Char) : Prop :=
  ∀ c ∈ cs.head?, digit? c = none

theorem noDigit_nil : NoDigit [] := by
  intro c first
  cases first

theorem noDigit_cons {c : Char} (other : digit? c = none) (cs : List Char) :
    NoDigit (c :: cs) := by
  intro first same
  cases same
  exact other

section Marks

variable {marks : List Char} (plain : (marks.all fun m => (digit? m).isNone))
include plain

theorem digit?_of_mem {c : Char} (member : c ∈ marks) : digit? c = none :=
  Option.isNone_iff_eq_none.1 (List.all_eq_true.1 plain c member)

theorem not_mem_of_digit {c : Char} {d : Nat} (spelled : digit? c = some d) :
    c ∉ marks := by
  intro member
  rw [digit?_of_mem plain member] at spelled
  cases spelled

end Marks

theorem digit?_digitChar (n : Nat) : digit? (digitChar n) = some (n % 10) := by
  have each : ∀ d < 10, digit? (Char.ofNat (48 + d)) = some d := by
    decide
  exact each (n % 10) (Nat.mod_lt n (by decide))

theorem spells_digitChar (n : Nat) : Spells [digitChar n] [n % 10] :=
  .cons (digit?_digitChar n) .nil

namespace Spells

variable {cs more : List Char} {ds others : List Nat}

theorem append (row : Spells cs ds) (next : Spells more others) :
    Spells (cs ++ more) (ds ++ others) :=
  List.rel_append row next

theorem length_eq (row : Spells cs ds) : cs.length = ds.length :=
  List.Forall₂.length_eq row

theorem digit_of_mem (row : Spells cs ds) {c : Char} (member : c ∈ cs) :
    ∃ d, digit? c = some d := by
  induction row with
  | nil =>
      exact absurd member List.not_mem_nil
  | cons spelled row inductionHypothesis =>
      rcases List.mem_cons.1 member with rfl | later
      · exact ⟨_, spelled⟩
      · exact inductionHypothesis later

theorem cons_of_ne_nil (row : Spells cs ds) (some : ds ≠ []) :
    ∃ c rest d, cs = c :: rest ∧ digit? c = .some d := by
  cases row with
  | nil =>
      exact absurd rfl some
  | cons spelled row =>
      exact ⟨_, _, _, rfl, spelled⟩

/-- A row of digits ends where none comes next. -/
theorem spanDigits_append (row : Spells cs ds) (ends : NoDigit more) :
    spanDigits (cs ++ more) = (ds, more) := by
  induction row with
  | nil =>
      cases more with
      | nil =>
          rfl
      | cons c rest =>
          rw [List.nil_append, spanDigits, ends c rfl]
  | cons spelled row inductionHypothesis =>
      rw [List.cons_append, spanDigits, spelled, inductionHypothesis]

theorem spanDigits_eq (row : Spells cs ds) : spanDigits cs = (ds, []) := by
  have whole := row.spanDigits_append noDigit_nil
  rwa [List.append_nil] at whole

theorem readDigits_eq (row : Spells cs ds) :
    readDigits cs = some (ofDigits ds) := by
  have each : cs.mapM digit? = some ds := by
    induction row with
    | nil =>
        rfl
    | cons spelled row inductionHypothesis =>
        rw [List.mapM_cons, spelled, inductionHypothesis]
        rfl
  rw [readDigits, each]
  rfl

end Spells

/-! ## The number of a row -/

theorem ofDigits_concat (ds : List Nat) (d : Nat) :
    ofDigits (ds ++ [d]) = 10 * ofDigits ds + d := by
  rw [ofDigits, List.foldl_append]
  rfl

theorem ofDigits_append (ds others : List Nat) :
    ofDigits (ds ++ others) =
      ofDigits ds * 10 ^ others.length + ofDigits others := by
  induction others using List.reverseRecOn with
  | nil =>
      simp [ofDigits]
  | append_singleton others d inductionHypothesis =>
      rw [← List.append_assoc, ofDigits_concat, ofDigits_concat,
        inductionHypothesis, List.length_append, List.length_singleton]
      ring

theorem ofDigits_zeros (n : Nat) : ofDigits (List.replicate n 0) = 0 := by
  induction n with
  | zero =>
      rfl
  | succ n inductionHypothesis =>
      rw [List.replicate_succ', ofDigits_concat, inductionHypothesis]

/-! ## Numbers with as many digits as they need -/

/-- The digits of `n`, without leading zeros. -/
def figures (n : Nat) : List Nat :=
  if n < 10 then [n % 10] else figures (n / 10) ++ [n % 10]

theorem spells_digits (n : Nat) : Spells (digits n) (figures n) := by
  induction n using digits.induct with
  | case1 n small =>
      rw [digits, figures, if_pos small, if_pos small]
      exact spells_digitChar n
  | case2 n large inductionHypothesis =>
      rw [digits, figures, if_neg large, if_neg large]
      exact inductionHypothesis.append (spells_digitChar n)

theorem ofDigits_figures (n : Nat) : ofDigits (figures n) = n := by
  induction n using digits.induct with
  | case1 n small =>
      rw [figures, if_pos small, Nat.mod_eq_of_lt small]
      exact Nat.zero_add n
  | case2 n large inductionHypothesis =>
      rw [figures, if_neg large, ofDigits_concat, inductionHypothesis,
        Nat.div_add_mod]

theorem figures_ne_nil (n : Nat) : figures n ≠ [] := by
  rw [figures]
  split
  · exact List.cons_ne_nil _ _
  · exact List.append_ne_nil_of_right_ne_nil _ (List.cons_ne_nil _ _)

theorem digits_cons (n : Nat) :
    ∃ c cs d, digits n = c :: cs ∧ digit? c = some d :=
  (spells_digits n).cons_of_ne_nil (figures_ne_nil n)

/-- Only zero begins with a zero, and then nothing follows it. -/
theorem head_figures (n : Nat) :
    (figures n).length = 1 ∨ (figures n).head? ≠ some 0 := by
  induction n using digits.induct with
  | case1 n small =>
      rw [figures, if_pos small]
      exact .inl rfl
  | case2 n large inductionHypothesis =>
      right
      have first : (figures n).head? = (figures (n / 10)).head? := by
        obtain ⟨d, ds, shape⟩ :=
          List.exists_cons_of_ne_nil (figures_ne_nil (n / 10))
        rw [figures, if_neg large, shape]
        rfl
      rw [first]
      rcases inductionHypothesis with single | other
      · have tens : n / 10 < 10 := by
          by_contra more
          rw [figures, if_neg more, List.length_append] at single
          have := List.length_pos_of_ne_nil (figures_ne_nil (n / 10 / 10))
          simp only [List.length_singleton] at single
          omega
        rw [figures, if_pos tens, List.head?_cons, ne_eq, Option.some_inj]
        omega
      · exact other

/-! ## Fields of fixed width -/

/-- The last `width` digits of `n`. -/
def lastFigures : Nat → Nat → List Nat
  | 0, _ => []
  | width + 1, n => lastFigures width (n / 10) ++ [n % 10]

theorem spells_fixedDigits (width n : Nat) :
    Spells (fixedDigits width n) (lastFigures width n) := by
  induction width generalizing n with
  | zero =>
      exact .nil
  | succ width inductionHypothesis =>
      exact (inductionHypothesis (n / 10)).append (spells_digitChar n)

theorem length_lastFigures (width n : Nat) :
    (lastFigures width n).length = width := by
  induction width generalizing n with
  | zero =>
      rfl
  | succ width inductionHypothesis =>
      rw [lastFigures, List.length_append, inductionHypothesis,
        List.length_singleton]

theorem isEmpty_lastFigures {width : Nat} (some : 0 < width) (n : Nat) :
    (lastFigures width n).isEmpty = false := by
  rw [List.isEmpty_eq_false_iff, ← List.length_pos_iff, length_lastFigures]
  exact some

theorem fixedDigits_cons {width : Nat} (some : 0 < width) (n : Nat) :
    ∃ c cs d, fixedDigits width n = c :: cs ∧ digit? c = .some d :=
  (spells_fixedDigits width n).cons_of_ne_nil
    (List.isEmpty_eq_false_iff.1 (isEmpty_lastFigures some n))

theorem ofDigits_lastFigures (width n : Nat) :
    ofDigits (lastFigures width n) = n % 10 ^ width := by
  induction width generalizing n with
  | zero =>
      rw [Nat.pow_zero, Nat.mod_one]
      rfl
  | succ width inductionHypothesis =>
      rw [lastFigures, ofDigits_concat, inductionHypothesis, Nat.pow_succ',
        Nat.mod_mul]
      omega

end Workforce.Text
