import Mathlib.Data.List.Sort
import Workforce.Sorting

/-!
# Sorting

Lists are sorted by insertion, in an order that is given as a test, so that
sorting them can be computed in a proof.  What is known of sorting is known of
the sorts of the library, with which this module identifies it:

* whatever the test is, it is the insertion sort for the relation of the test,
  which neither loses nor adds members;
* in an order, in which any two members can be compared, it is the merge sort,
  which puts them in order and keeps the order of equal ones.
-/

namespace Workforce

variable {α : Type} {le : α → α → Bool}

theorem insertBy_eq_orderedInsert (le : α → α → Bool) (a : α)
    (items : List α) :
    insertBy le a items = items.orderedInsert (le · ·) a := by
  induction items with
  | nil =>
      rfl
  | cons b rest inductionHypothesis =>
      rw [insertBy, inductionHypothesis, List.orderedInsert_cons]

theorem sortBy_eq_insertionSort (le : α → α → Bool) (items : List α) :
    sortBy le items = items.insertionSort (le · ·) := by
  induction items with
  | nil =>
      rfl
  | cons a rest inductionHypothesis =>
      rw [sortBy, insertBy_eq_orderedInsert, inductionHypothesis,
        List.insertionSort_cons]

/-- Sorting neither loses nor adds members. -/
theorem sortBy_perm (le : α → α → Bool) (items : List α) :
    (sortBy le items).Perm items := by
  rw [sortBy_eq_insertionSort]
  exact List.perm_insertionSort _ items

@[simp]
theorem mem_sortBy {a : α} {items : List α} :
    a ∈ sortBy le items ↔ a ∈ items :=
  (sortBy_perm le items).mem_iff

/-! ## Orders -/

section Orders

variable (trans : ∀ a b c, le a b → le b c → le a c)
  (total : ∀ a b, le a b ∨ le b a)

/-- A member that may not precede those in front goes behind them, and in front
of those in order that it may precede. -/
theorem insertBy_append {a : α} {front rest : List α}
    (behind : ∀ b ∈ front, (!le a b) = true)
    (before : ∀ b ∈ rest, le a b = true) :
    insertBy le a (front ++ rest) = front ++ a :: rest := by
  induction front with
  | nil =>
      cases rest with
      | nil =>
          rfl
      | cons b rest =>
          exact if_pos (before b List.mem_cons_self)
  | cons b front inductionHypothesis =>
      obtain ⟨here, later⟩ := List.forall_mem_cons.1 behind
      rw [Bool.not_eq_true'] at here
      rw [List.cons_append, insertBy, here, inductionHypothesis later]
      rfl

include trans total in
/-- In an order that compares any two members, sorting is the stable merge sort
of the library. -/
theorem sortBy_eq_mergeSort (items : List α) :
    sortBy le items = items.mergeSort le := by
  have compares : ∀ a b, (le a b || le b a) = true :=
    fun a b => Bool.or_eq_true_iff.2 (total a b)
  induction items with
  | nil =>
      exact List.mergeSort_nil.symm
  | cons a rest inductionHypothesis =>
      obtain ⟨front, back, whole, others, behind⟩ :=
        List.mergeSort_cons trans compares a rest
      have sorted := List.pairwise_mergeSort trans compares (a :: rest)
      rw [whole] at sorted
      have before : ∀ b ∈ back, le a b = true :=
        (List.pairwise_cons.1 (List.pairwise_append.1 sorted).2.1).1
      rw [sortBy, inductionHypothesis, others, whole]
      exact insertBy_append behind before

include trans total in
/-- Every member of a sorted list may precede those behind it. -/
theorem sortBy_pairwise (items : List α) :
    (sortBy le items).Pairwise (le · ·) := by
  rw [sortBy_eq_mergeSort trans total]
  exact List.pairwise_mergeSort trans
    (fun a b => Bool.or_eq_true_iff.2 (total a b)) items

end Orders

end Workforce
