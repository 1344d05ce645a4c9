import Mathlib.Algebra.BigOperators.Group.Finset.Basic
import Mathlib.Algebra.BigOperators.Group.List.Basic
import Mathlib.Data.List.Fold
import Workforce.Proofs.Attendance.Approval
import Workforce.Proofs.Attendance.Split
import Workforce.Proofs.Listing

/-!
# What shifts come to

The minutes of a period are added up in two ways: in one sum over all closed
records, and by employee.  This module shows that these are the same minutes,
and that neither depends on an order.

* Both are functions of the minutes to be paid for each closed shift, with
  whose they are (`paidMinutes`), and both fail exactly if one of the shifts
  cannot be divided (`AttendanceRecord.Splittable`).
* A sum over the items of each key, for keys that are all there and each of
  them once, is the sum over all items (`sum_by_key`).  So no shift is lost by
  employee, and none counts twice.
* Of a record only its shift matters, not its id or the times at which it was
  made and approved.  A list of the approved records of a store is, shift by
  shift, a part of the approved shifts in some order (`listApproved_shifts`).
-/

namespace Workforce

open Service

/-! ## Sums of minutes -/

attribute [ext] PayableMinutes

namespace PayableMinutes

instance : Zero PayableMinutes := ⟨zero⟩

instance : AddCommMonoid PayableMinutes where
  add_assoc a b c := by
    ext <;> exact Int.add_assoc ..
  zero_add a := by
    ext <;> exact Int.zero_add _
  add_zero a := by
    ext <;> exact Int.add_zero _
  add_comm a b := by
    ext <;> exact Int.add_comm ..
  nsmul := nsmulRec

theorem sum_eq (ms : List PayableMinutes) : sum ms = ms.sum :=
  List.foldl_eq_foldr

end PayableMinutes

/-! ## Sums by key -/

section Keys

variable {α β M : Type} [DecidableEq β] [AddCommMonoid M]

theorem nodup_eraseDups (keys : List β) : keys.eraseDups.Nodup := by
  match keys with
  | [] =>
      simp
  | key :: rest =>
      rw [List.eraseDups_cons, List.nodup_cons]
      refine ⟨?_, nodup_eraseDups _⟩
      simp
termination_by keys.length
decreasing_by
  exact Nat.lt_succ_of_le (List.length_filter_le ..)

/-- The sums over the items of each key add up to the sum over all items. -/
theorem sum_by_key {keys : List β} (once : keys.Nodup) (key : α → β)
    (amount : α → M) {items : List α} (listed : ∀ a ∈ items, key a ∈ keys) :
    (keys.map fun k =>
      ((items.filter (key · == k)).map amount).sum).sum =
      (items.map amount).sum := by
  induction items with
  | nil =>
      simp
  | cons a rest inductionHypothesis =>
      have others := inductionHypothesis
        fun b member => listed b (List.mem_cons_of_mem a member)
      have split : ∀ k, (((a :: rest).filter (key · == k)).map amount).sum =
          (if key a = k then amount a else 0) +
            ((rest.filter (key · == k)).map amount).sum := by
        intro k
        by_cases here : key a = k
        · simp [here]
        · simp [here]
      -- The first item counts under one of the keys, and under no other.
      have own : (keys.map fun k => if key a = k then amount a else 0).sum =
          amount a := by
        rw [List.sum_map_eq_nsmul_single (key a) _ fun k other _ =>
            if_neg other.symm,
          List.count_eq_one_of_mem once (listed a List.mem_cons_self),
          if_pos rfl, one_nsmul]
      simp only [split]
      rw [List.sum_map_add, others, own, List.map_cons, List.sum_cons]

end Keys

/-! ## Shifts -/

/-- What a record says of a shift, by whatever id and since when.  The shift is
open while there is no check-out. -/
structure Shift where
  employee : String
  organization : Option String
  checkIn : ZonedTime
  checkOut : Option ZonedTime
  breakMinutes : Int
  isHoliday : Bool
deriving DecidableEq, Repr

namespace Shift

/-- Whether a shift is asked for. -/
def isAsked (s : Shift) (period : Period) (owner : OwnerFilter) : Bool :=
  period.holds s.checkIn.instant && owner.passes s.organization s.employee

/-- Whose minutes are to be paid for a shift that is not open, and which. -/
def paid? (s : Shift) : Option (String × PayableMinutes) :=
  s.checkOut.map fun checkOut =>
    (s.employee,
      exactMinutes s.checkIn checkOut s.breakMinutes s.isHoliday)

end Shift

namespace AttendanceRecord

def shift (r : AttendanceRecord) : Shift :=
  { employee := r.employee
    organization := r.organization
    checkIn := r.checkIn
    checkOut := r.checkOut
    breakMinutes := r.breakMinutes
    isHoliday := r.isHoliday }

/-- Whether there is no check-out yet. -/
def IsOpen (r : AttendanceRecord) : Prop :=
  r.checkOut = none

instance (r : AttendanceRecord) : Decidable r.IsOpen :=
  inferInstanceAs (Decidable (_ = _))

/-- The minutes to be paid for a record. -/
def minutes (r : AttendanceRecord) : PayableMinutes :=
  match r.checkOut with
  | some checkOut =>
    exactMinutes r.checkIn checkOut r.breakMinutes r.isHoliday
  | none => 0

/-- A record that is open, or whose shift can be divided. -/
def Splittable (r : AttendanceRecord) : Prop :=
  ∀ w ∈ r.workInterval, w.Splittable

instance : DecidablePred Splittable := fun r =>
  inferInstanceAs (Decidable (∀ w ∈ r.workInterval, w.Splittable))

end AttendanceRecord

theorem paid?_shift (r : AttendanceRecord) :
    r.shift.paid? = r.workInterval.map fun w => (r.employee, w.minutes) := by
  rw [AttendanceRecord.workInterval, Option.map_map]
  rfl

/-- The minutes to be paid for shifts, each with whose they are. -/
def paidMinutes (shifts : List Shift) : List (String × PayableMinutes) :=
  shifts.filterMap Shift.paid?

/-- The minutes that are paid for records are those of the closed ones. -/
theorem paidMinutes_shift (records : List AttendanceRecord) :
    (paidMinutes (records.map AttendanceRecord.shift)).map Prod.snd =
      (records.filter fun r => ¬ r.IsOpen).map AttendanceRecord.minutes := by
  rw [paidMinutes, List.filterMap_map, List.map_filterMap]
  induction records with
  | nil =>
      rfl
  | cons r rest inductionHypothesis =>
      rw [List.filterMap_cons, List.filter_cons]
      cases closed : r.checkOut with
      | none =>
          simpa [Shift.paid?, AttendanceRecord.shift,
            AttendanceRecord.IsOpen, closed] using inductionHypothesis
      | some checkOut =>
          simpa [Shift.paid?, AttendanceRecord.shift,
            AttendanceRecord.IsOpen, AttendanceRecord.minutes, closed]
            using inductionHypothesis

theorem paidMinutes_map_shift (records : List AttendanceRecord) :
    paidMinutes (records.map AttendanceRecord.shift) =
      records.filterMap fun r =>
        r.workInterval.map fun w => (r.employee, w.minutes) := by
  rw [paidMinutes, List.filterMap_map]
  congr 1
  funext r
  exact paid?_shift r

/-- Where an operation on each item has a value or one and the same failure,
that on all of them has a value if each has. -/
theorem mapM_ite {α β ε : Type} {p : α → Prop} [DecidablePred p]
    {f : α → Except ε β} {g : α → β} {failure : ε}
    (each : ∀ a, f a = if p a then .ok (g a) else .error failure)
    (items : List α) :
    items.mapM f =
      if ∀ a ∈ items, p a then .ok (items.map g) else .error failure := by
  induction items with
  | nil =>
      rfl
  | cons a rest inductionHypothesis =>
      rw [List.mapM_cons, inductionHypothesis, each]
      by_cases first : p a
      · rw [if_pos first]
        by_cases others : ∀ b ∈ rest, p b
        · rw [if_pos others, if_pos (List.forall_mem_cons.2 ⟨first, others⟩)]
          rfl
        · rw [if_neg others,
            if_neg fun all => others (List.forall_mem_cons.1 all).2]
          rfl
      · rw [if_neg first,
          if_neg fun all => first (List.forall_mem_cons.1 all).1]
        rfl

/-- A total over records is the sum of the minutes to be paid, if they can be
divided. -/
theorem totalMinutes_eq (records : List AttendanceRecord) :
    totalMinutes records =
      if ∀ r ∈ records, r.Splittable then
        .ok ((paidMinutes (records.map AttendanceRecord.shift)).map
          Prod.snd).sum
      else .error .instant := by
  have closed : (∀ w ∈ records.filterMap AttendanceRecord.workInterval,
      w.Splittable) ↔ ∀ r ∈ records, r.Splittable := by
    simp only [List.mem_filterMap, AttendanceRecord.Splittable]
    exact ⟨fun each r kept w shift => each w ⟨r, kept, shift⟩,
      fun each w ⟨r, kept, shift⟩ => each r kept w shift⟩
  rw [totalMinutes, mapM_ite WorkInterval.split_eq, paidMinutes_map_shift,
    List.map_filterMap, List.map_filterMap]
  simp only [closed, Option.map_map, Function.comp_def]
  split
  · rw [← PayableMinutes.sum_eq]
    rfl
  · rfl

/-! ## Aggregates -/

namespace AttendanceAggregate

/-- The employees of minutes, in the order of their ids. -/
def employees (items : List (String × PayableMinutes)) : List String :=
  sortBy (· ≤ ·) (items.map Prod.fst).eraseDups

/-- What minutes come to by employee. -/
def ofMinutes (items : List (String × PayableMinutes)) :
    List AttendanceAggregate :=
  (employees items).map fun employee =>
    let own := items.filter (·.1 == employee)
    { employee
      recordCount := own.length
      totals := PayableMinutes.sum (own.map Prod.snd) }

/-- The aggregates of records are those of the minutes to be paid, if they can
be divided. -/
theorem ofRecords_eq (records : List AttendanceRecord) :
    ofRecords records =
      if ∀ r ∈ records, r.Splittable then
        .ok (ofMinutes (paidMinutes (records.map AttendanceRecord.shift)))
      else .error .instant := by
  have each : ∀ s : String × WorkInterval,
      (do return (s.1, ← s.2.split) :
        Except Overflow (String × PayableMinutes)) =
        if s.2.Splittable then .ok (s.1, s.2.minutes)
        else .error .instant := by
    intro s
    rw [s.2.split_eq]
    split
    · rfl
    · rfl
  have closed : (∀ s ∈ records.filterMap fun r =>
      r.workInterval.map fun w => (r.employee, w), s.2.Splittable) ↔
        ∀ r ∈ records, r.Splittable := by
    simp only [List.mem_filterMap, Option.map_eq_some_iff,
      AttendanceRecord.Splittable]
    constructor
    · intro each r kept w shift
      exact each (r.employee, w) ⟨r, kept, w, shift, rfl⟩
    · rintro each _ ⟨r, kept, w, shift, rfl⟩
      exact each r kept w shift
  rw [ofRecords, mapM_ite each, paidMinutes_map_shift, List.map_filterMap]
  simp only [closed, Option.map_map, Function.comp_def]
  split
  · rfl
  · rfl

theorem eq_of_ofRecords {records : List AttendanceRecord}
    {rows : List AttendanceAggregate} (counted : ofRecords records = .ok rows) :
    rows = ofMinutes (paidMinutes (records.map AttendanceRecord.shift)) := by
  rw [ofRecords_eq] at counted
  split at counted
  · cases counted
    rfl
  · cases counted

section Employees

variable (items : List (String × PayableMinutes))

theorem nodup_employees : (employees items).Nodup :=
  (sortBy_perm _ _).nodup_iff.2 (nodup_eraseDups _)

theorem mem_employees {employee : String} :
    employee ∈ employees items ↔ employee ∈ items.map Prod.fst := by
  rw [employees, mem_sortBy, List.mem_eraseDups]

/-- Every item counts for the employee it is of. -/
theorem sum_ofMinutes_totals :
    ((ofMinutes items).map totals).sum = (items.map Prod.snd).sum := by
  rw [ofMinutes, List.map_map,
    ← sum_by_key (nodup_employees items) Prod.fst Prod.snd
      fun item member =>
        (mem_employees items).2 (List.mem_map_of_mem member)]
  simp only [Function.comp_def, PayableMinutes.sum_eq]

theorem sum_ofMinutes_recordCount :
    ((ofMinutes items).map recordCount).sum = items.length := by
  have counted := sum_by_key (nodup_employees items) Prod.fst
    (fun _ => 1) fun item member =>
      (mem_employees items).2 (List.mem_map_of_mem member)
  simpa [ofMinutes, Function.comp_def] using counted

end Employees

/-- There is one list of the employees of minutes. -/
theorem employees_of_perm {items others : List (String × PayableMinutes)}
    (same : items.Perm others) :
    employees others = employees items := by
  have sorted : ∀ names : List String,
      (sortBy (· ≤ ·) names).Pairwise fun a b => decide (a ≤ b) = true := by
    apply sortBy_pairwise
    · intro a b c before after
      rw [decide_eq_true_iff] at before after ⊢
      exact before.trans after
    · intro a b
      rw [decide_eq_true_iff, decide_eq_true_iff]
      exact le_total a b
  refine List.Perm.eq_of_pairwise ?_ (sorted _) (sorted _) ?_
  · intro a b _ _ before after
    rw [decide_eq_true_iff] at before after
    exact le_antisymm before after
  · refine (List.perm_ext_iff_of_nodup (nodup_employees others)
      (nodup_employees items)).2 ?_
    intro employee
    rw [mem_employees, mem_employees, (same.map Prod.fst).mem_iff]

/-- What minutes come to does not depend on their order. -/
theorem ofMinutes_of_perm {items others : List (String × PayableMinutes)}
    (same : items.Perm others) : ofMinutes others = ofMinutes items := by
  rw [ofMinutes, ofMinutes, employees_of_perm same]
  apply List.map_congr_left
  intro employee _
  have own := same.filter (·.1 == employee)
  simp only [PayableMinutes.sum_eq, own.length_eq,
    (own.map Prod.snd).sum_eq]

end AttendanceAggregate

/-! ## What is counted -/

section Counted

variable {st other : Store} {scope : TenantScope} {employee : Option String}
  {period : Period}

instance (scope : TenantScope) (owner : Option String) :
    Decidable (scope.Covers owner) :=
  decidable_of_iff _ TenantScope.covers_iff.symm

instance (period : Period) (t : Instant) : Decidable (period.Contains t) :=
  decidable_of_iff _ Period.holds_iff

/-- Whether a record counts within a scope, for an employee if one is asked
for, and in a period. -/
structure AttendanceRecord.Counts (r : AttendanceRecord)
    (scope : TenantScope) (employee : Option String) (period : Period) :
    Prop where
  approved : r.state = .approved
  owner : scope.Covers r.organization
  employee : ∀ id ∈ employee, r.employee = id
  within : period.Contains r.checkIn.instant

theorem AttendanceRecord.counts_iff {r : AttendanceRecord} :
    r.Counts scope employee period ↔
      scope.Covers r.organization ∧ (∀ id ∈ employee, r.employee = id) ∧
        (∀ s ∈ some AttendanceState.approved, r.state = s) ∧
          period.Contains r.checkIn.instant := by
  constructor
  · rintro ⟨approved, owner, own, within⟩
    exact ⟨owner, own, by rintro s ⟨⟩; exact approved, within⟩
  · rintro ⟨owner, own, approved, within⟩
    exact ⟨approved _ rfl, owner, own, within⟩

instance (r : AttendanceRecord) :
    Decidable (r.Counts scope employee period) :=
  decidable_of_iff _ AttendanceRecord.counts_iff.symm

/-- The records that count. -/
def Store.counted (st : Store) (scope : TenantScope)
    (employee : Option String) (period : Period) : Finset AttendanceRecord :=
  {r ∈ st.attendance.rows.toFinset | r.Counts scope employee period}

/-- The approved records, as they are listed. -/
def Store.listApproved (st : Store) (scope : TenantScope)
    (employee : Option String) (period : Period) : List AttendanceRecord :=
  st.listRecords period ⟨scope.organization?, employee⟩ (some .approved)

theorem nodup_listApproved :
    (st.listApproved scope employee period).Nodup :=
  Store.listRecords_listing.once

/-- The approved records that are listed are those that count. -/
theorem counted_eq :
    st.counted scope employee period =
      (st.listApproved scope employee period).toFinset := by
  have listing := @Store.listRecords_listing st period scope employee
    (some .approved)
  ext r
  rw [Store.counted, Finset.mem_filter, List.mem_toFinset,
    List.mem_toFinset, Store.listApproved, AttendanceRecord.counts_iff,
    listing.mem_iff]

theorem length_listApproved :
    (st.listApproved scope employee period).length =
      (st.counted scope employee period).card := by
  rw [counted_eq, List.toFinset_card_of_nodup nodup_listApproved]

/-- The records that count and are closed, as they are listed. -/
theorem counted_closed_eq :
    (st.counted scope employee period).filter (¬ ·.IsOpen) =
      ((st.listApproved scope employee period).filter
        fun r => ¬ r.IsOpen).toFinset := by
  ext r
  rw [counted_eq, Finset.mem_filter, List.mem_toFinset, List.mem_toFinset,
    List.mem_filter, decide_eq_true_iff]

/-- The minutes of the approved records that are listed. -/
def Store.paidMinutes (st : Store) (scope : TenantScope)
    (employee : Option String) (period : Period) : PayableMinutes :=
  ((Workforce.paidMinutes ((st.listApproved scope employee period).map
    AttendanceRecord.shift)).map Prod.snd).sum

/-- They are those of the closed ones among the records that count. -/
theorem paidMinutes_listApproved :
    st.paidMinutes scope employee period =
      ∑ r ∈ st.counted scope employee period with ¬ r.IsOpen,
        r.minutes := by
  rw [Store.paidMinutes, paidMinutes_shift, counted_closed_eq,
    List.sum_toFinset _ (nodup_listApproved.filter _)]

/-- All records that count can be divided. -/
def Store.Splittable (st : Store) (scope : TenantScope)
    (employee : Option String) (period : Period) : Prop :=
  ∀ r ∈ st.counted scope employee period, r.Splittable

instance : Decidable (st.Splittable scope employee period) :=
  inferInstanceAs (Decidable
    (∀ r ∈ st.counted scope employee period, r.Splittable))

/-- The total over the approved records is that of the minutes to be paid. -/
theorem totalMinutes_listApproved :
    totalMinutes (st.listApproved scope employee period) =
      if st.Splittable scope employee period then
        .ok (st.paidMinutes scope employee period)
      else .error .instant := by
  rw [totalMinutes_eq]
  simp only [Store.Splittable, counted_eq, List.mem_toFinset]
  rfl

/-- Each closed record that counts is paid once. -/
theorem length_paidMinutes_listApproved :
    (paidMinutes ((st.listApproved scope employee period).map
        AttendanceRecord.shift)).length =
      ((st.counted scope employee period).filter (¬ ·.IsOpen)).card := by
  have paid := congrArg List.length
    (paidMinutes_shift (st.listApproved scope employee period))
  rw [List.length_map, List.length_map] at paid
  rw [paid, counted_closed_eq,
    List.toFinset_card_of_nodup (nodup_listApproved.filter _)]

/-- The shifts that are listed are the approved ones that are asked for. -/
theorem listApproved_shifts :
    ((st.listApproved scope employee period).map
        AttendanceRecord.shift).Perm
      ((st.approved.map AttendanceRecord.shift).filter
        (·.isAsked period ⟨scope.organization?, employee⟩)) := by
  refine ((sortBy_perm _ _).map _).trans (.of_eq ?_)
  rw [Store.approved, List.filter_map, List.filter_filter]
  congr 2
  funext r
  rw [wanted, Option.all_some, Bool.and_assoc, Bool.and_comm, BEq.comm]
  rfl

/-- What is listed of approved shifts does not depend on their order. -/
theorem listApproved_of_perm
    (same : (st.approved.map AttendanceRecord.shift).Perm
      (other.approved.map AttendanceRecord.shift)) :
    ((st.listApproved scope employee period).map
        AttendanceRecord.shift).Perm
      ((other.listApproved scope employee period).map
        AttendanceRecord.shift) :=
  (listApproved_shifts.trans (same.filter _)).trans
    listApproved_shifts.symm

end Counted

end Workforce
