import Mathlib.Algebra.Ring.Int.Defs
import Mathlib.Data.List.Nodup
import Workforce.Store.Table

/-!
# Rows of tables

What putting a row into a table does to the table as a whole: to its members,
to a sum over them, and to a row that was put in before under the same key.
-/

namespace Workforce.Table

variable {α : Type} [Keyed α]

/-! ## Members -/

/-- What is found under a key is found under its own. -/
theorem get?_key {t : Table α} {key : String} {a : α}
    (found : t.get? key = some a) : t.get? (Keyed.key a) = some a := by
  rw [key_of_get? found]
  exact found

/-- No other row stands under the key of a row that is there. -/
theorem eq_of_get?_key {t : Table α} {key : String} {a old : α}
    (found : t.get? key = some a)
    (here : t.get? (Keyed.key a) = some old) : old = a := by
  rw [get?_key found] at here
  exact (Option.some.inj here).symm

theorem get?_put_self (t : Table α) (a : α) :
    (t.put a).get? (Keyed.key a) = some a := by
  rw [get?_put, if_pos rfl]

theorem get?_put_of_ne (t : Table α) {a : α} {key : String}
    (other : Keyed.key a ≠ key) : (t.put a).get? key = t.get? key := by
  rw [get?_put, if_neg other]

theorem mem_rows_put {t : Table α} {a b : α} :
    b ∈ (t.put a).rows ↔
      b = a ∨ (b ∈ t.rows ∧ Keyed.key b ≠ Keyed.key a) := by
  rw [mem_rows_iff, mem_rows_iff]
  by_cases same : Keyed.key a = Keyed.key b
  · rw [get?_put, if_pos same]
    constructor
    · intro found
      exact Or.inl (Option.some.inj found).symm
    · rintro (rfl | ⟨_, other⟩)
      · rfl
      · exact absurd same.symm other
  · rw [get?_put_of_ne t same]
    constructor
    · intro found
      exact Or.inr ⟨found, Ne.symm same⟩
    · rintro (rfl | ⟨found, _⟩)
      · exact absurd rfl same
      · exact found

/-- What holds between any two rows of a table goes on to do so when a row is
put in, if it holds between that row and the others. -/
theorem pairwise_put {R : α → α → Prop} (symm : ∀ {a b}, R a b → R b a)
    {t : Table α}
    (law : ∀ a ∈ t.rows, ∀ b ∈ t.rows, Keyed.key a ≠ Keyed.key b → R a b)
    {new : α} (others : ∀ a ∈ t.rows, Keyed.key a ≠ Keyed.key new → R a new) :
    ∀ a ∈ (t.put new).rows, ∀ b ∈ (t.put new).rows,
      Keyed.key a ≠ Keyed.key b → R a b := by
  intro a memberA b memberB distinct
  rcases mem_rows_put.1 memberA with rfl | ⟨keptA, otherA⟩
  · rcases mem_rows_put.1 memberB with rfl | ⟨keptB, otherB⟩
    · exact absurd rfl distinct
    · exact symm (others b keptB otherB)
  · rcases mem_rows_put.1 memberB with rfl | ⟨keptB, otherB⟩
    · exact others a keptA otherA
    · exact law a keptA b keptB distinct

theorem rows_nodup (t : Table α) : t.rows.Nodup :=
  List.Nodup.of_map Keyed.key t.nodup

/-- A row that is there already changes nothing when it is put in again. -/
theorem put_of_get? {t : Table α} {a : α}
    (found : t.get? (Keyed.key a) = some a) : t.put a = t := by
  have unchanged : ∀ {rows : List α}, (rows.map Keyed.key).Nodup →
      a ∈ rows → place a rows = rows := by
    intro rows
    induction rows with
    | nil =>
        intro _ member
        cases member
    | cons r rest inductionHypothesis =>
        intro nodup member
        obtain ⟨fresh, others⟩ := List.nodup_cons.1 nodup
        rcases List.mem_cons.1 member with rfl | later
        · simp [place]
        · have other : Keyed.key r ≠ Keyed.key a := fun same =>
            fresh (same ▸ List.mem_map_of_mem later)
          rw [place, if_neg other, inductionHypothesis others later]
  cases t with
  | mk rows nodup =>
      simp only [put, Table.mk.injEq]
      exact unchanged nodup (mem_of_get? found)

/-- Of two rows of one key that are put in, the second stays. -/
theorem put_put (t : Table α) {a b : α} (same : Keyed.key a = Keyed.key b) :
    (t.put a).put b = t.put b := by
  have replaced : ∀ rows : List α,
      place b (place a rows) = place b rows := by
    intro rows
    induction rows with
    | nil =>
        simp [place, same]
    | cons r rest inductionHypothesis =>
        by_cases here : Keyed.key r = Keyed.key b
        · simp [place, here, same]
        · simp [place, here, same, inductionHypothesis]
  simp only [put, Table.mk.injEq]
  exact replaced t.rows

/-- The table with a row put in, if there is one to put in. -/
def putAny (t : Table α) : Option α → Table α
  | none => t
  | some a => t.put a

theorem get?_putAny_of_ne (t : Table α) {row : Option α} {key : String}
    (other : ∀ a, row = some a → Keyed.key a ≠ key) :
    (t.putAny row).get? key = t.get? key := by
  cases row with
  | none =>
      rfl
  | some a =>
      exact get?_put_of_ne t (other a rfl)

theorem mem_rows_putAny {t : Table α} {row : Option α} {a : α}
    (kept : a ∈ (t.putAny row).rows) : a ∈ t.rows ∨ row = some a := by
  cases row with
  | none =>
      exact Or.inl kept
  | some b =>
      rcases mem_rows_put.1 kept with rfl | ⟨before, _⟩
      · exact Or.inr rfl
      · exact Or.inl before

/-- What holds of every row goes on to do so if it holds of a row that is put
in. -/
theorem forall_mem_putAny {P : α → Prop} {t : Table α} {row : Option α}
    (kept : ∀ a ∈ t.rows, P a) (new : ∀ a, row = some a → P a) :
    ∀ a ∈ (t.putAny row).rows, P a := by
  intro a member
  rcases mem_rows_putAny member with before | put
  · exact kept a before
  · exact new a put

theorem contains_of_get? {t : Table α} {key : String} {a : α}
    (found : t.get? key = some a) : t.contains key = true := by
  rw [contains, found]
  rfl

/-- Under a key that has a row there is always one. -/
theorem contains_putAny {t : Table α} {key : String}
    (known : t.contains key = true) (row : Option α) :
    (t.putAny row).contains key = true := by
  cases row with
  | none =>
      exact known
  | some a =>
      by_cases here : Keyed.key a = key
      · rw [← here]
        exact contains_of_get? (t.get?_put_self a)
      · rw [contains, putAny, t.get?_put_of_ne here]
        exact known

/-! ## Sums -/

/-- The sum of an amount over all rows. -/
def total (t : Table α) (amount : α → Int) : Int :=
  (t.rows.map amount).sum

/-- A row that is put in brings its amount and takes away that of the row it
replaces.  The amounts may change with it, but not for other rows. -/
theorem total_put (t : Table α) {first second : α → Int} (a : α)
    (agree : ∀ r ∈ t.rows, Keyed.key r ≠ Keyed.key a →
      first r = second r) :
    (t.put a).total second =
      t.total first - ((t.get? (Keyed.key a)).map first).getD 0 +
        second a := by
  have placed : ∀ rows : List α, (rows.map Keyed.key).Nodup →
      (∀ r ∈ rows, Keyed.key r ≠ Keyed.key a → first r = second r) →
      ((place a rows).map second).sum =
        (rows.map first).sum -
          ((rows.find? fun r => Keyed.key r == Keyed.key a).map
            first).getD 0 + second a := by
    intro rows
    induction rows with
    | nil =>
        intro _ _
        simp [place]
    | cons r rest inductionHypothesis =>
        intro nodup agree
        obtain ⟨fresh, others⟩ := List.nodup_cons.1 nodup
        by_cases here : Keyed.key r = Keyed.key a
        · have unchanged : rest.map second = rest.map first := by
            apply List.map_congr_left
            intro other member
            have apart : Keyed.key other ≠ Keyed.key a := by
              intro same
              rw [here, ← same] at fresh
              exact fresh (List.mem_map_of_mem member)
            exact (agree other (List.mem_cons_of_mem r member) apart).symm
          simp [place, here, unchanged]
          omega
        · have missed : ¬ (Keyed.key r == Keyed.key a) = true := by
            simpa using here
          have before := inductionHypothesis others
            fun other member => agree other (List.mem_cons_of_mem r member)
          have same := agree r List.mem_cons_self here
          rw [place, if_neg here, List.find?_cons_of_neg (by exact missed)]
          simp only [List.map_cons, List.sum_cons]
          omega
  exact placed t.rows t.nodup agree

/-- Where two amounts agree on all rows, so do the sums. -/
theorem total_congr {t : Table α} {first second : α → Int}
    (agree : ∀ a ∈ t.rows, first a = second a) :
    t.total first = t.total second := by
  unfold total
  rw [List.map_congr_left agree]

end Workforce.Table
