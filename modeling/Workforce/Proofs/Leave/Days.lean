import Mathlib.Algebra.BigOperators.Ring.Finset
import Workforce.Proofs.Run
import Workforce.Proofs.Sorting

/-!
# No day of leave is taken twice

Leave is counted in civil days.  In every store that can be reached, also if
sinks were out of order on the way,

* a request ends no earlier than it starts, and its days are the civil days
  from its start to its end;
* the active requests of an employee have no civil day in common, so that
  their days add up to the number of civil days they cover;
* a request is refused as overlapping exactly if another active one of the
  employee has a civil day in common with it.

The store does not look for overlaps when it keeps a request.  What keeps the
requests apart is that each operation which makes a request or moves it looks
for them, and that each other one leaves the days as they are or frees them.
-/

namespace Workforce

/-! ## Civil days -/

theorem civilDay_mono {start finish : Instant} (ordered : start ≤ finish) :
    civilDay start ≤ civilDay finish := by
  have seconds : start.nanoseconds / Instant.perSecond ≤
      finish.nanoseconds / Instant.perSecond :=
    Int.ediv_le_ediv (by decide) ordered
  unfold civilDay
  omega

/-- A leave that does not end before it starts takes at least a day. -/
theorem leaveDays_eq_ok {start finish : Instant} {days : Int} :
    leaveDays start finish = .ok days ↔
      start ≤ finish ∧ days = civilDay finish - civilDay start + 1 := by
  simp only [leaveDays, Outcome.bind_eq_ok, Outcome.ensure_eq_ok,
    Outcome.pure_eq_ok, DayRange.length, DayRange.ofInstants]
  constructor
  · rintro ⟨_, ordered, _, _, rfl⟩
    exact ⟨ordered, rfl⟩
  · rintro ⟨ordered, rfl⟩
    have forward := civilDay_mono ordered
    have positive : 0 < civilDay finish - civilDay start + 1 := by omega
    exact ⟨(), ordered, (), Outcome.ensure_of positive, rfl⟩

namespace DayRange

/-- The civil days of a range. -/
def civilDays (r : DayRange) : Finset Int :=
  (Finset.range r.length.toNat).image fun n : Nat => r.first + (n : Int)

theorem ofInstants_forward {start finish : Instant}
    (ordered : start ≤ finish) :
    (ofInstants start finish).first ≤ (ofInstants start finish).last :=
  civilDay_mono ordered

theorem mem_civilDays {r : DayRange} {day : Int} :
    day ∈ r.civilDays ↔ r.first ≤ day ∧ day ≤ r.last := by
  simp only [civilDays, length, Finset.mem_image, Finset.mem_range]
  constructor
  · rintro ⟨n, within, rfl⟩
    omega
  · rintro ⟨after, before⟩
    refine ⟨(day - r.first).toNat, ?_, ?_⟩
    · omega
    · omega

theorem card_civilDays {r : DayRange} (forward : r.first ≤ r.last) :
    (r.civilDays.card : Int) = r.length := by
  have distinct : Function.Injective fun n : Nat => r.first + (n : Int) := by
    intro first second same
    have equal : r.first + (first : Int) = r.first + (second : Int) := same
    omega
  rw [civilDays, Finset.card_image_of_injective _ distinct,
    Finset.card_range, Int.toNat_of_nonneg]
  unfold length
  omega

/-- Ranges overlap if there is a day that both have. -/
theorem overlaps_iff {a b : DayRange} (forwardA : a.first ≤ a.last)
    (forwardB : b.first ≤ b.last) :
    a.overlaps b = true ↔ ∃ day ∈ b.civilDays, day ∈ a.civilDays := by
  simp only [overlaps, Bool.and_eq_true, decide_eq_true_eq, mem_civilDays]
  constructor
  · rintro ⟨before, after⟩
    refine ⟨max a.first b.first, ?_, ?_⟩
    · omega
    · omega
  · rintro ⟨day, here, there⟩
    omega

end DayRange

/-- The civil days of a request. -/
def LeaveRequest.civilDays (r : LeaveRequest) : Finset Int :=
  r.dayRange.civilDays

/-- A request whose days are counted from its start to its end. -/
structure LeaveRequest.Spans (r : LeaveRequest) : Prop where
  ordered : r.start.instant ≤ r.finish.instant
  counted :
    r.days = civilDay r.finish.instant - civilDay r.start.instant + 1

namespace LeaveRequest.Spans

variable {r : LeaveRequest}

theorem forward (spans : r.Spans) : r.dayRange.first ≤ r.dayRange.last :=
  DayRange.ofInstants_forward spans.ordered

theorem one_le_days (spans : r.Spans) : 1 ≤ r.days := by
  have forward := civilDay_mono spans.ordered
  have counted := spans.counted
  omega

theorem card_civilDays (spans : r.Spans) :
    (r.civilDays.card : Int) = r.days := by
  rw [civilDays, DayRange.card_civilDays spans.forward, spans.counted]
  rfl

end LeaveRequest.Spans

/-! ## Overlapping requests -/

namespace Store

/-- The active requests of an employee. -/
def activeLeave (st : Store) (employee : String) : List LeaveRequest :=
  st.leave.rows.filter fun r => r.employee == employee && r.state.isActive

/-- The civil days that the active requests of an employee cover. -/
def coveredDays (st : Store) (employee : String) : Finset Int :=
  (st.activeLeave employee).toFinset.biUnion LeaveRequest.civilDays

/-- Whether an active request of an employee, other than the excluded one, has
a civil day of a range. -/
def DayTaken (st : Store) (employee : String) (days : DayRange)
    (excluded : Option String) : Prop :=
  ∃ r ∈ st.activeLeave employee, excluded ≠ some r.id ∧
    ∃ day ∈ days.civilDays, day ∈ r.civilDays

theorem mem_activeLeave {st : Store} {employee : String} {r : LeaveRequest} :
    r ∈ st.activeLeave employee ↔
      r ∈ st.leave.rows ∧ r.employee = employee ∧ r.state.isActive = true := by
  simp [activeLeave, List.mem_filter]

theorem mem_overlappingLeave {st : Store} {employee : String}
    {days : DayRange} {excluded : Option String} {r : LeaveRequest} :
    r ∈ st.overlappingLeave employee days excluded ↔
      r ∈ st.activeLeave employee ∧ excluded ≠ some r.id ∧
        r.dayRange.overlaps days = true := by
  rw [overlappingLeave, mem_sortBy, mem_activeLeave, List.mem_filter]
  simp only [Bool.and_eq_true, beq_iff_eq, bne_iff_ne]
  tauto

end Store

/-! ## Requests that are kept apart -/

/-- The law of leave requests: all are counted, and no two active ones of an
employee overlap. -/
structure LeaveApart (t : Table LeaveRequest) : Prop where
  spans : ∀ r ∈ t.rows, r.Spans
  apart : ∀ a ∈ t.rows, ∀ b ∈ t.rows, a.id ≠ b.id →
    a.employee = b.employee → a.state.isActive = true →
      b.state.isActive = true → a.dayRange.overlaps b.dayRange = false

namespace LeaveApart

theorem overlaps_comm (a b : DayRange) : a.overlaps b = b.overlaps a :=
  Bool.and_comm _ _

/-- Whether two requests may stand beside each other. -/
private def Beside (a b : LeaveRequest) : Prop :=
  a.employee = b.employee → a.state.isActive = true →
    b.state.isActive = true → a.dayRange.overlaps b.dayRange = false

private theorem Beside.symm {a b : LeaveRequest}
    (beside : Beside a b) : Beside b a := by
  intro same activeB activeA
  rw [overlaps_comm]
  exact beside same.symm activeA activeB

/-- A request may be put in if it is counted and, unless it is inactive,
overlaps with no other active one of the employee. -/
theorem put {t : Table LeaveRequest} (law : LeaveApart t) {r : LeaveRequest}
    (spans : r.Spans)
    (free : r.state.isActive = true → ∀ other ∈ t.rows, other.id ≠ r.id →
      other.employee = r.employee → other.state.isActive = true →
        other.dayRange.overlaps r.dayRange = false) :
    LeaveApart (t.put r) where
  spans := by
    intro a member
    rcases Table.mem_rows_put.1 member with rfl | ⟨kept, _⟩
    · exact spans
    · exact law.spans a kept
  apart := by
    apply Table.pairwise_put Beside.symm law.apart
    intro other kept distinct same active activeR
    exact free activeR other kept distinct same active

/-- A request that keeps its days, or gives them up, may take its own place. -/
theorem put_decided {t : Table LeaveRequest} (law : LeaveApart t)
    {id : String} {existing : LeaveRequest}
    (found : t.get? id = some existing) (pending : existing.state = .pending)
    (actor : Actor) (action : LeaveAction) (reason : Option String)
    (now : Instant) :
    LeaveApart (t.put (existing.decide actor action reason now)) := by
  have member := Table.mem_of_get? found
  have before := law.spans existing member
  have spans : (existing.decide actor action reason now).Spans :=
    ⟨before.ordered, before.counted⟩
  apply law.put spans
  -- Whatever becomes of it, the request was pending, so its days were free.
  intro _ other kept distinct same active
  have held : existing.state.isActive = true := by
    rw [pending]
    rfl
  exact law.apart other kept existing member distinct same active held

/-- A store without overlaps with a request, apart from one that it may
replace. -/
theorem free_of_overlappingLeave {st : Store} {r : LeaveRequest}
    {excluded : Option String}
    (free : st.overlappingLeave r.employee r.dayRange excluded = [])
    (self : ∀ id, excluded = some id → id = r.id) :
    ∀ other ∈ st.leave.rows, other.id ≠ r.id →
      other.employee = r.employee → other.state.isActive = true →
        other.dayRange.overlaps r.dayRange = false := by
  intro other kept distinct same active
  rw [← Bool.not_eq_true]
  intro overlaps
  have listed : other ∈ st.overlappingLeave r.employee r.dayRange excluded := by
    refine Store.mem_overlappingLeave.2 ⟨?_, ?_, overlaps⟩
    · exact Store.mem_activeLeave.2 ⟨kept, same, active⟩
    · intro itself
      exact distinct (self other.id itself)
  rw [free] at listed
  cases listed

/-- Every deed keeps the requests apart. -/
theorem deed {ctx : Context} {st : Store} {actor : Actor}
    {scope : TenantScope} {c : Call} {w : Write} {notice : Notice}
    {reply : Reply} (law : LeaveApart st.leave)
    (does : c.Does ctx st actor scope w notice reply) :
    LeaveApart (st.write w).leave := by
  cases does with
  | createLeave permitted span found visible own made free =>
      subst made
      obtain ⟨ordered, counted⟩ := leaveDays_eq_ok.1 span
      apply law.put ⟨ordered, counted⟩
      intro _
      exact free_of_overlappingLeave free nofun
  | updateLeave permitted found visible pending own made span free =>
      obtain ⟨ordered, counted⟩ := leaveDays_eq_ok.1 span
      have days := congrArg LeaveRequest.days made
      apply law.put ⟨ordered, days.trans counted⟩
      intro _
      apply free_of_overlappingLeave free
      intro id same
      exact (Option.some.inj same).symm
  | approveLeave permitted found visible pending =>
      exact law.put_decided found pending actor .approved none ctx.now
  | rejectLeave permitted reasoned found visible pending =>
      exact law.put_decided found pending actor .rejected _ ctx.now
  | cancelLeave permitted found visible pending own =>
      exact law.put_decided found pending actor .canceled _ ctx.now
  | _ =>
      -- The other deeds do not touch the requests.
      exact law

theorem of_reachable {st : Store} (reachable : Reachable st) :
    LeaveApart st.leave := by
  refine Reachable.invariant (P := fun st => LeaveApart st.leave) ?_ ?_ ?_
    reachable
  · refine ⟨?_, ?_⟩
    · intro r member
      cases member
    · intro r member
      cases member
  · intro st audit events law
    exact law
  · intro ctx st actor scope c w notice reply law new does
    exact deed law does

/-- Distinct active requests of an employee have no day in common. -/
theorem disjoint_civilDays {t : Table LeaveRequest} (law : LeaveApart t)
    {a b : LeaveRequest} (memberA : a ∈ t.rows) (memberB : b ∈ t.rows)
    (distinct : a ≠ b) (same : a.employee = b.employee)
    (activeA : a.state.isActive = true) (activeB : b.state.isActive = true) :
    Disjoint a.civilDays b.civilDays := by
  have otherId : a.id ≠ b.id := by
    intro sameId
    have foundA := Table.mem_rows_iff.1 memberA
    have foundB := Table.mem_rows_iff.1 memberB
    rw [show Keyed.key a = Keyed.key b from sameId, foundB] at foundA
    exact distinct (Option.some.inj foundA).symm
  rw [Finset.disjoint_left]
  intro day here there
  have overlaps : a.dayRange.overlaps b.dayRange = true :=
    (DayRange.overlaps_iff (law.spans a memberA).forward
      (law.spans b memberB).forward).2 ⟨day, there, here⟩
  rw [law.apart a memberA b memberB otherId same activeA activeB] at overlaps
  cases overlaps

/-- The days of the active requests of an employee add up to the days they
cover. -/
theorem sum_days {st : Store} (law : LeaveApart st.leave)
    (employee : String) :
    ((st.activeLeave employee).map LeaveRequest.days).sum =
      ((st.coveredDays employee).card : Int) := by
  have nodup : (st.activeLeave employee).Nodup :=
    (Table.rows_nodup st.leave).filter _
  have apart : ((st.activeLeave employee).toFinset : Set LeaveRequest).PairwiseDisjoint
      LeaveRequest.civilDays := by
    intro a memberA b memberB distinct
    obtain ⟨keptA, ownA, activeA⟩ :=
      Store.mem_activeLeave.1 (List.mem_toFinset.1 memberA)
    obtain ⟨keptB, ownB, activeB⟩ :=
      Store.mem_activeLeave.1 (List.mem_toFinset.1 memberB)
    exact law.disjoint_civilDays keptA keptB distinct (ownA.trans ownB.symm)
      activeA activeB
  rw [Store.coveredDays, Finset.card_biUnion apart, Nat.cast_sum,
    ← List.sum_toFinset LeaveRequest.days nodup]
  apply Finset.sum_congr rfl
  intro r member
  have kept := (Store.mem_activeLeave.1 (List.mem_toFinset.1 member)).1
  exact (law.spans r kept).card_civilDays.symm

/-- Requests stand in the way exactly if a civil day of the range is taken. -/
theorem overlapping_iff {st : Store} (law : LeaveApart st.leave)
    (employee : String) {days : DayRange} (forward : days.first ≤ days.last)
    (excluded : Option String) :
    ¬ (st.overlappingLeave employee days excluded).isEmpty = true ↔
      st.DayTaken employee days excluded := by
  have common : ∀ r ∈ st.activeLeave employee,
      (r.dayRange.overlaps days = true ↔
        ∃ day ∈ days.civilDays, day ∈ r.civilDays) := by
    intro r active
    have kept := (Store.mem_activeLeave.1 active).1
    exact DayRange.overlaps_iff (law.spans r kept).forward forward
  rw [List.isEmpty_iff]
  constructor
  · intro nonempty
    obtain ⟨r, listed⟩ := List.exists_mem_of_ne_nil _ nonempty
    obtain ⟨active, other, overlaps⟩ := Store.mem_overlappingLeave.1 listed
    exact ⟨r, active, other, (common r active).1 overlaps⟩
  · rintro ⟨r, active, other, shared⟩ empty
    have listed := Store.mem_overlappingLeave.2
      ⟨active, other, (common r active).2 shared⟩
    rw [empty] at listed
    cases listed

end LeaveApart

/-! ## When a request is refused as overlapping -/

namespace Service

/-- What is answered to a request that overlaps with another. -/
def overlapConflict : Fault :=
  .conflict "overlapping leave request exists"

/-- A request for leave that passes all checks but the one for overlaps. -/
structure Asks (ctx : Context) (st : Store) (actor : Actor)
    (scope : TenantScope) (input : NewLeave) (employee : Employee) :
    Prop where
  authorized : ctx.authorize = .ok (actor, scope)
  permitted : actor.mayAny OwnOrAny.leaveWrite.permissions = true
  ordered : input.start.instant ≤ input.finish.instant
  found : st.employees.get? input.employee = some employee
  visible : scope.permits employee.organization = true
  own : OwnOrAny.leaveWrite.admits actor employee.id = true

/-- A change of a request, to one from `start` to `finish`, that passes all
checks but the one for overlaps. -/
structure Amends (ctx : Context) (st : Store) (actor : Actor)
    (scope : TenantScope) (id : String) (changes : LeaveChanges)
    (existing : LeaveRequest) (start finish : ZonedTime) : Prop where
  authorized : ctx.authorize = .ok (actor, scope)
  permitted : actor.mayAny OwnOrAny.leaveWrite.permissions = true
  found : st.leave.get? id = some existing
  visible : scope.permits existing.organization = true
  pending : existing.state = .pending
  own : OwnOrAny.leaveWrite.admits actor existing.employee = true
  starts : start = changes.start.getD existing.start
  ends : finish = changes.finish.getD existing.finish
  ordered : start.instant ≤ finish.instant

variable {ctx : Context} {st : Store} {actor : Actor} {scope : TenantScope}

/-- The last check of a request is the one for overlaps. -/
theorem Asks.createLeave_eq {input : NewLeave} {employee : Employee}
    (asks : Asks ctx st actor scope input employee) :
    ∃ e : Effect LeaveRequest, (∃ r, e.reply = .ok r) ∧
      createLeave ctx st input =
        (ensureNoOverlap st employee.id input.start input.finish none >>=
          fun _ => .ok e) := by
  have writer : requireLeaveWriter actor = .ok () :=
    Actor.requireAny_eq_ok.2 asks.permitted
  have span := leaveDays_eq_ok.2 ⟨asks.ordered, rfl⟩
  have lookup : requireEmployee st scope input.employee = .ok employee :=
    TenantScope.visible_eq_ok.2 ⟨asks.found, asks.visible⟩
  have own : OwnOrAny.leaveWrite.require actor employee.id
      "insufficient permissions" = .ok () :=
    OwnOrAny.require_eq_ok.2 asks.own
  simp only [createLeave, asks.authorized, Outcome.ok_bind, writer, span,
    lookup, own]
  exact ⟨_, ⟨_, rfl⟩, rfl⟩

theorem Amends.updateLeave_eq {id : String} {changes : LeaveChanges}
    {existing : LeaveRequest} {start finish : ZonedTime}
    (amends : Amends ctx st actor scope id changes existing start finish) :
    ∃ e : Effect LeaveRequest, (∃ r, e.reply = .ok r) ∧
      updateLeave ctx st id changes =
        (ensureNoOverlap st existing.employee start finish
          (some existing.id) >>= fun _ => .ok e) := by
  have writer : requireLeaveWriter actor = .ok () :=
    Actor.requireAny_eq_ok.2 amends.permitted
  have lookup : requireLeave st scope id = .ok existing :=
    TenantScope.visible_eq_ok.2 ⟨amends.found, amends.visible⟩
  have pending : ensurePendingLeave existing = .ok () :=
    Outcome.ensure_of amends.pending
  have own : OwnOrAny.leaveWrite.require actor existing.employee
      "insufficient permissions" = .ok () :=
    OwnOrAny.require_eq_ok.2 amends.own
  have ordered := amends.ordered
  rw [amends.starts, amends.ends] at ordered ⊢
  have span := leaveDays_eq_ok.2 ⟨ordered, rfl⟩
  have changed : ∀ days : Int,
      st.updatePendingLeave (existing.amend changes days ctx.now) =
        (.ok (existing.amend changes days ctx.now),
          st.write
            { leave := some (existing.amend changes days ctx.now) }) := by
    intro days
    have kept := Table.get?_key amends.found
    exact Store.updatePendingLeave_of_pending kept amends.pending
  simp only [updateLeave, amends.authorized, Outcome.ok_bind, writer, lookup,
    pending, own, span]
  refine ⟨_, ?_, rfl⟩
  rw [changed]
  exact ⟨_, rfl⟩

end Service

/-- A call is refused as overlapping exactly if days are taken; if they are
not, it goes through, unless a sink is out of order. -/
structure Call.RefusedFor (c : Call) (ctx : Context) (sinks : Sinks)
    (st : Store) (taken : Prop) : Prop where
  refused : (c.perform ctx sinks st).1 =
    Outcome.refuse Service.overlapConflict ↔ taken
  passes : ¬ taken → sinks = .working →
    ∃ r, (c.perform ctx sinks st).1 = .ok r

section Refusals

variable {ctx : Context} {st : Store} {actor : Actor} {scope : TenantScope}

/-- What becomes of a call whose last check is the one for overlaps. -/
theorem Call.refusedFor_of_last_check {α : Type} {c : Call}
    {employee : String} {start finish : ZonedTime}
    {excluded : Option String} {e : Effect α} {reply : α → Reply}
    (law : LeaveApart st.leave) (ordered : start.instant ≤ finish.instant)
    (done : ∃ a, e.reply = .ok a)
    (checked : c.effect ctx st = Call.changing st
      (Service.ensureNoOverlap st employee start finish excluded >>=
        fun _ => .ok e) reply) (sinks : Sinks) :
    c.RefusedFor ctx sinks st
      (st.DayTaken employee (.ofInstants start.instant finish.instant)
        excluded) := by
  obtain ⟨a, done⟩ := done
  have taken := law.overlapping_iff employee
    (DayRange.ofInstants_forward ordered) excluded
  have replied : (c.perform ctx sinks st).1 =
      (c.effect ctx st).answered sinks :=
    Effect.record_reply _ sinks
  by_cases free : (st.overlappingLeave employee
      (.ofInstants start.instant finish.instant) excluded).isEmpty = true
  · have passed : (c.effect ctx st).reply = .ok (reply a) := by
      rw [checked, Service.ensureNoOverlap, Outcome.ensure_of free]
      exact congrArg (Except.map reply) done
    have untaken := mt taken.2 (not_not.2 free)
    refine ⟨?_, ?_⟩
    · rw [replied]
      constructor
      · intro refused
        rcases Effect.answered_of_ok passed sinks with value | ⟨_, fault⟩
        · rw [value] at refused
          cases refused
        · rw [fault] at refused
          cases refused
      · intro here
        exact absurd here untaken
    · intro _ working
      rw [replied, working, Effect.answered_of_working]
      exact ⟨reply a, passed⟩
  · have here := taken.1 free
    refine ⟨?_, ?_⟩
    · rw [replied, checked, Service.ensureNoOverlap,
        Outcome.ensure_of_not free]
      exact ⟨fun _ => here, fun _ => rfl⟩
    · intro untaken
      exact absurd here untaken

/-- A request that is valid and permitted is refused for days that are
taken. -/
theorem Service.Asks.refusedFor {input : NewLeave} {employee : Employee}
    (asks : Asks ctx st actor scope input employee)
    (law : LeaveApart st.leave) (sinks : Sinks) :
    (Call.createLeave input).RefusedFor ctx sinks st
      (st.DayTaken employee.id
        (.ofInstants input.start.instant input.finish.instant) none) := by
  obtain ⟨e, done, checked⟩ := asks.createLeave_eq
  have effect : (Call.createLeave input).effect ctx st =
      Call.changing st (createLeave ctx st input) .leave :=
    rfl
  rw [checked] at effect
  exact Call.refusedFor_of_last_check law asks.ordered done effect sinks

/-- A change that is valid and permitted is refused for days that other
requests have. -/
theorem Service.Amends.refusedFor {id : String} {changes : LeaveChanges}
    {existing : LeaveRequest} {start finish : ZonedTime}
    (amends : Amends ctx st actor scope id changes existing start finish)
    (law : LeaveApart st.leave) (sinks : Sinks) :
    (Call.updateLeave id changes).RefusedFor ctx sinks st
      (st.DayTaken existing.employee
        (.ofInstants start.instant finish.instant) (some existing.id)) := by
  obtain ⟨e, done, checked⟩ := amends.updateLeave_eq
  have effect : (Call.updateLeave id changes).effect ctx st =
      Call.changing st (updateLeave ctx st id changes) .leave :=
    rfl
  rw [checked] at effect
  exact Call.refusedFor_of_last_check law amends.ordered done effect sinks

end Refusals

/-- Leave in a store that can be reached.  Every request spans at least a day
and is counted in civil days; distinct active requests of an employee have no
day in common, so their days add up to the days they cover; and a request or a
change that is valid and permitted is refused as overlapping exactly if
another active request of the employee has one of its days. -/
theorem leave_days_of_reachable {st : Store} (reachable : Reachable st) :
    (∀ r ∈ st.leave.rows, r.start.instant ≤ r.finish.instant ∧
      r.days = civilDay r.finish.instant - civilDay r.start.instant + 1 ∧
      1 ≤ r.days) ∧
    (∀ a ∈ st.leave.rows, ∀ b ∈ st.leave.rows, a ≠ b →
      a.employee = b.employee → a.state.isActive = true →
        b.state.isActive = true → Disjoint a.civilDays b.civilDays) ∧
    (∀ employee, ((st.activeLeave employee).map LeaveRequest.days).sum =
      ((st.coveredDays employee).card : Int)) ∧
    (∀ ctx sinks actor scope input employee,
      Service.Asks ctx st actor scope input employee →
        (Call.createLeave input).RefusedFor ctx sinks st
          (st.DayTaken employee.id
            (.ofInstants input.start.instant input.finish.instant) none)) ∧
    (∀ ctx sinks actor scope id changes existing start finish,
      Service.Amends ctx st actor scope id changes existing start finish →
        (Call.updateLeave id changes).RefusedFor ctx sinks st
          (st.DayTaken existing.employee
            (.ofInstants start.instant finish.instant)
            (some existing.id))) := by
  have law := LeaveApart.of_reachable reachable
  refine ⟨?_, ?_, law.sum_days, ?_, ?_⟩
  · intro r member
    have spans := law.spans r member
    exact ⟨spans.ordered, spans.counted, spans.one_le_days⟩
  · intro a memberA b memberB distinct same activeA activeB
    exact law.disjoint_civilDays memberA memberB distinct same activeA activeB
  · intro ctx sinks actor scope input employee asks
    exact asks.refusedFor law sinks
  · intro ctx sinks actor scope id changes existing start finish amends
    exact amends.refusedFor law sinks

/-- The day of an approved request cannot be asked for again. -/
theorem leave_day_of_officeRun :
    Reachable approving.after ∧
      ∀ sinks, ((Call.createLeave ⟨"emp-001", .sick, .ofInstant ⟨0⟩,
        .ofInstant ⟨0⟩, none⟩).perform approving.ctx sinks
          approving.after).1 = Outcome.refuse Service.overlapConflict := by
  have reachable : Reachable approving.after := ⟨officeRun, run_officeRun⟩
  refine ⟨reachable, ?_⟩
  intro sinks
  obtain ⟨_, _, _, creating, _⟩ := leave_days_of_reachable reachable
  have asks : Service.Asks approving.ctx approving.after
      { id := "adm-001", role := .admin, organization := none } .everything
      ⟨"emp-001", .sick, .ofInstant ⟨0⟩, .ofInstant ⟨0⟩, none⟩
      { id := "emp-001", organization := none, name := none, email := none
        active := true, createdAt := ⟨0⟩, updatedAt := ⟨0⟩ } :=
    { authorized := rfl
      permitted := by decide
      ordered := by decide
      found := by decide
      visible := rfl
      own := by decide }
  have taken : approving.after.DayTaken "emp-001" (.ofInstants ⟨0⟩ ⟨0⟩)
      none := by
    unfold Store.DayTaken
    decide
  exact (creating approving.ctx sinks _ _ _ _ asks).refused.2 taken

end Workforce
