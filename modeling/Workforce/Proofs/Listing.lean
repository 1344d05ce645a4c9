import Mathlib.Data.Int.Order.Basic
import Mathlib.Data.List.Perm.Basic
import Mathlib.Data.Prod.Lex
import Mathlib.Data.String.Basic
import Workforce.Proofs.Leave.Days
import Workforce.Proofs.Schedule

/-!
# What lists hold

A list is made from a table by two things: a test that its rows pass, and an
order into which they are sorted.  This module shows what that comes to, for
the six lists that can be asked for:

* a list holds the stored entities of the scope, of the employee and in the
  state that are asked for, as far as they are, and that meet the period, and
  no others, each of them once;
* it is strictly sorted, by a time and then by id or by id alone, so that there
  is one such list;
* it therefore does not depend on the order in which a table has its rows.

No two rows of a table have one key.  That is why an order which ends in the
key leaves nothing open, and everything else rests on it.
-/

namespace Workforce

/-! ## Sorted rows of a table -/

section Rows

variable {α : Type} [Keyed α]

theorem Table.eq_of_key {t : Table α} {a b : α} (here : a ∈ t.rows)
    (there : b ∈ t.rows) (same : Keyed.key a = Keyed.key b) : a = b := by
  rw [Table.mem_rows_iff] at here there
  rw [same, there] at here
  exact (Option.some.inj here).symm

/-- What a key finds does not depend on the order of the rows. -/
theorem Table.get?_of_perm {t other : Table α}
    (same : t.rows.Perm other.rows) (key : String) :
    other.get? key = t.get? key := by
  have finds : ∀ {table : Table α} {a : α},
      table.get? key = some a ↔ a ∈ table.rows ∧ Keyed.key a = key := by
    intro table a
    constructor
    · intro found
      exact ⟨mem_of_get? found, key_of_get? found⟩
    · rintro ⟨member, rfl⟩
      exact mem_rows_iff.1 member
  apply Option.ext
  intro a
  rw [finds, finds, same.mem_iff]

/-- The rows of a table that have a property, each of them once and strictly
sorted by a rank. -/
structure Table.Listing {β : Type} [LT β] (t : Table α) (P : α → Prop)
    (rank : α → β) (rows : List α) : Prop where
  mem_iff : ∀ a, a ∈ rows ↔ a ∈ t.rows ∧ P a
  once : rows.Nodup
  sorted : rows.Pairwise fun a b => rank a < rank b

/-- An order by a rank that tells keys apart. -/
structure RanksBy {β : Type} [LinearOrder β] (le : α → α → Bool)
    (rank : α → β) : Prop where
  le_iff : ∀ a b, le a b = true ↔ rank a ≤ rank b
  key_eq : ∀ {a b}, rank a = rank b → Keyed.key a = Keyed.key b

namespace Table

variable {β : Type} [LinearOrder β] {rank : α → β} {le : α → α → Bool}
  {t other : Table α} {P Q : α → Prop} {rows : List α}

/-- To sort the rows that pass a test is to list them. -/
theorem listing_sortBy (ranks : RanksBy le rank) {test : α → Bool}
    (passes : ∀ a ∈ t.rows, test a = true ↔ P a) :
    t.Listing P rank (sortBy le (t.rows.filter test)) := by
  have members : ∀ a, a ∈ sortBy le (t.rows.filter test) ↔
      a ∈ t.rows ∧ P a := by
    intro a
    rw [mem_sortBy, List.mem_filter]
    exact and_congr_right (passes a)
  have once : (sortBy le (t.rows.filter test)).Nodup :=
    (sortBy_perm le _).nodup_iff.2 (t.rows_nodup.filter test)
  refine ⟨members, once, ?_⟩
  have trans : ∀ a b c, le a b = true → le b c = true → le a c = true := by
    intro a b c before after
    rw [ranks.le_iff] at before after ⊢
    exact before.trans after
  have total : ∀ a b, le a b = true ∨ le b a = true := by
    intro a b
    rw [ranks.le_iff, ranks.le_iff]
    exact le_total (rank a) (rank b)
  have sorted := (sortBy_pairwise trans total (t.rows.filter test)).and once
  refine sorted.imp_of_mem ?_
  rintro a b memberA memberB ⟨before, distinct⟩
  refine lt_of_le_of_ne ((ranks.le_iff a b).1 before) ?_
  intro tied
  exact distinct (eq_of_key ((members a).1 memberA).1
    ((members b).1 memberB).1 (ranks.key_eq tied))

namespace Listing

theorem filter (listing : t.Listing P rank rows) {test : α → Bool}
    (passes : ∀ a, test a = true ↔ Q a) :
    t.Listing (fun a => P a ∧ Q a) rank (rows.filter test) where
  mem_iff := by
    intro a
    rw [List.mem_filter, listing.mem_iff, passes, and_assoc]
  once := listing.once.filter test
  sorted := listing.sorted.filter test

/-- There is one list of the rows that have a property, in whatever order the
table has its rows. -/
theorem eq_of_perm {rows' : List α} (listing : t.Listing P rank rows)
    (listing' : other.Listing P rank rows')
    (same : t.rows.Perm other.rows) : rows = rows' := by
  have members : rows.Perm rows' := by
    rw [List.perm_ext_iff_of_nodup listing.once listing'.once]
    intro a
    rw [listing.mem_iff, listing'.mem_iff, same.mem_iff]
  refine List.Perm.eq_of_pairwise ?_ listing.sorted listing'.sorted members
  intro a b _ _ before after
  exact absurd after before.asymm

end Listing

theorem sortBy_filter_of_perm (ranks : RanksBy le rank) (test : α → Bool)
    (same : t.rows.Perm other.rows) :
    sortBy le (other.rows.filter test) = sortBy le (t.rows.filter test) := by
  have lists : ∀ table : Table α, table.Listing (fun a => test a = true) rank
      (sortBy le (table.rows.filter test)) :=
    fun table => listing_sortBy ranks fun _ _ => Iff.rfl
  exact ((lists t).eq_of_perm (lists other) same).symm

end Table

/-! ## Ranks -/

theorem Instant.le_of_lt {s t : Instant} (before : s < t) : s ≤ t :=
  Int.le_of_lt before

theorem Instant.eq_iff {s t : Instant} :
    s = t ↔ s.nanoseconds = t.nanoseconds := by
  cases s
  cases t
  rw [Instant.mk.injEq]

/-- The rank by an instant and then by key. -/
def timeRank (time : α → Instant) (a : α) : Int ×ₗ String :=
  toLex ((time a).nanoseconds, Keyed.key a)

/-- The rank by an instant, the latest first, and then by key. -/
def timeRankDown (time : α → Instant) (a : α) : Intᵒᵈ ×ₗ String :=
  toLex (OrderDual.toDual (time a).nanoseconds, Keyed.key a)

theorem byTime_ranks (time : α → Instant) :
    RanksBy (byTime time) (timeRank time) where
  le_iff := by
    intro a b
    simp [byTime, timeRank, Prod.Lex.toLex_le_toLex, Instant.lt_iff,
      Instant.eq_iff]
  key_eq := fun tied => congrArg (fun rank => (ofLex rank).2) tied

theorem byTimeDown_ranks (time : α → Instant) :
    RanksBy (byTimeDown time) (timeRankDown time) where
  le_iff := by
    intro a b
    simp [byTimeDown, timeRankDown, Prod.Lex.toLex_le_toLex, Instant.lt_iff,
      Instant.eq_iff]
  key_eq := fun tied => congrArg (fun rank => (ofLex rank).2) tied

theorem byKey_ranks : RanksBy (byKey (α := α)) Keyed.key where
  le_iff := by
    intro a b
    rw [byKey, decide_eq_true_iff]
  key_eq := id

end Rows

/-! ## What is asked for -/

theorem wanted_iff {α : Type} [BEq α] [LawfulBEq α] {asked : Option α}
    {value : α} : wanted asked value = true ↔ ∀ a ∈ asked, value = a := by
  cases asked with
  | none =>
      simp [wanted]
  | some a =>
      simp only [wanted, Option.all_some, beq_iff_eq, Option.mem_some,
        forall_eq']
      exact eq_comm

theorem wantedOwner_iff {asked owner : Option String} :
    wantedOwner asked owner = true ↔ ∀ id ∈ asked, owner = some id := by
  cases asked with
  | none =>
      simp [wantedOwner]
  | some id =>
      simp [wantedOwner]

/-- Whether an owner is the organization of a scope, if the scope has one. -/
def TenantScope.Covers (scope : TenantScope) (owner : Option String) : Prop :=
  ∀ id ∈ scope.organization?, owner = some id

theorem TenantScope.covers_iff {scope : TenantScope}
    {owner : Option String} :
    scope.Covers owner ↔ scope.permits owner = true := by
  cases scope with
  | everything =>
      simp [Covers, organization?, permits]
  | organization id =>
      simp [Covers, organization?]

theorem OwnerFilter.passes_iff {scope : TenantScope}
    {employee organization : Option String} {owner : String} :
    OwnerFilter.passes ⟨scope.organization?, employee⟩ organization owner =
        true ↔
      scope.Covers organization ∧ ∀ id ∈ employee, owner = id := by
  rw [passes, Bool.and_eq_true, wantedOwner_iff, wanted_iff]
  rfl

namespace Period

/-- An instant of a closed period. -/
def Contains (p : Period) (t : Instant) : Prop :=
  p.start ≤ t ∧ t ≤ p.finish

/-- Whether a closed period has an instant in common with the time from
`start` to `finish`, ends included. -/
def Touches (p : Period) (start finish : Instant) : Prop :=
  ∃ t, p.Contains t ∧ start ≤ t ∧ t ≤ finish

theorem holds_iff {p : Period} {t : Instant} :
    p.holds t = true ↔ p.Contains t := by
  simp [holds, Contains]

/-- Two comparisons tell whether a period is touched, by a time that does not
end before it starts. -/
theorem meets_iff {p : Period} {start finish : Instant}
    (forward : p.start ≤ p.finish) (ordered : start ≤ finish) :
    p.meets start finish = true ↔ p.Touches start finish := by
  simp only [meets, Bool.and_eq_true, decide_eq_true_eq, Touches, Contains,
    Instant.le_iff] at forward ordered ⊢
  constructor
  · rintro ⟨before, after⟩
    -- The later of the two starts lies in both.
    by_cases later : start.nanoseconds ≤ p.start.nanoseconds
    · exact ⟨p.start, ⟨Int.le_refl _, forward⟩, later, after⟩
    · exact ⟨start, ⟨by omega, before⟩, Int.le_refl _, ordered⟩
  · rintro ⟨t, ⟨started, unfinished⟩, begun, unended⟩
    omega

end Period

theorem Service.ensurePeriod_eq_ok {p : Period} {u : Unit} :
    ensurePeriod p = .ok u ↔ p.start < p.finish :=
  Outcome.ensure_eq_ok

/-! ## The employee of a list -/

/-- The employee whose entries an actor is listed: employees see their own
alone, and anybody else sees whose they ask for. -/
def Actor.listedEmployee (a : Actor) (requested : Option String) :
    Option String :=
  if a.role = .employee then some a.id else requested

namespace ListPermissions

/-- Permissions that let employees see their own alone, and nobody else. -/
structure Usual (p : ListPermissions) : Prop where
  limited : Role.employee.permissions.contains p.any = false
  own : ∀ role : Role,
    role.permissions.contains p.own = true →
      role.permissions.contains p.any = true ∨ role = .employee
  employee : Role.employee.permissions.contains p.own = true

theorem usual {p : ListPermissions}
    (known : p ∈ [records, aggregates, leave, schedules]) : p.Usual := by
  simp only [List.mem_cons, List.not_mem_nil, or_false] at known
  rcases known with rfl | rfl | rfl | rfl
  all_goals
    refine ⟨rfl, ?_, rfl⟩
    intro role
    cases role <;> decide

/-- The filter that is resolved for a list is whose entries the role gets to
see. -/
theorem Usual.filter_eq_ok {p : ListPermissions} (usual : p.Usual)
    {a : Actor} {requested employee : Option String}
    (passed : p.filter a requested = .ok employee) :
    employee = a.listedEmployee requested := by
  unfold filter at passed
  split at passed
  · rename_i any
    have other : a.role ≠ .employee := by
      intro role
      rw [Actor.may, role, usual.limited] at any
      cases any
    cases passed
    rw [Actor.listedEmployee, if_neg other]
  · rename_i limited
    split at passed
    · rename_i own
      have role : a.role = .employee :=
        (usual.own a.role own).resolve_left limited
      split at passed
      · cases passed
        rw [Actor.listedEmployee, if_pos role]
      · exact absurd passed Outcome.refuse_ne_ok
    · rename_i notOwn
      have other : a.role ≠ .employee := by
        intro role
        rw [Actor.may, role] at notOwn
        exact notOwn usual.employee
      rw [Actor.listedEmployee, if_neg other]
      split at passed
      · split at passed
        · split at passed
          · exact absurd passed Outcome.refuse_ne_ok
          · cases passed
            rfl
        · exact absurd passed Outcome.refuse_ne_ok
      · exact absurd passed Outcome.refuse_ne_ok

end ListPermissions

/-! ## Lists of the store -/

namespace Store

variable {st other : Store} {period : Period} {scope : TenantScope}
  {employee : Option String}

theorem listRecords_listing {state : Option AttendanceState} :
    st.attendance.Listing
      (fun r => scope.Covers r.organization ∧
        (∀ id ∈ employee, r.employee = id) ∧ (∀ s ∈ state, r.state = s) ∧
          period.Contains r.checkIn.instant)
      (timeRank fun r => r.checkIn.instant)
      (st.listRecords period ⟨scope.organization?, employee⟩ state) := by
  apply Table.listing_sortBy (byTime_ranks _)
  intro r _
  rw [Bool.and_eq_true, Bool.and_eq_true, wanted_iff, Period.holds_iff,
    OwnerFilter.passes_iff]
  tauto

theorem listLeave_listing {state : Option LeaveState}
    (forward : period.start ≤ period.finish)
    (ordered : ∀ r ∈ st.leave.rows, r.start.instant ≤ r.finish.instant) :
    st.leave.Listing
      (fun r => scope.Covers r.organization ∧
        (∀ id ∈ employee, r.employee = id) ∧ (∀ s ∈ state, r.state = s) ∧
          period.Touches r.start.instant r.finish.instant)
      (timeRank fun r => r.start.instant)
      (st.listLeave period ⟨scope.organization?, employee⟩ state) := by
  apply Table.listing_sortBy (byTime_ranks _)
  intro r kept
  rw [Bool.and_eq_true, Bool.and_eq_true, wanted_iff,
    Period.meets_iff forward (ordered r kept), OwnerFilter.passes_iff]
  tauto

theorem listSchedules_listing (forward : period.start ≤ period.finish)
    (ordered : ∀ s ∈ st.schedules.rows, s.start.instant ≤ s.finish.instant) :
    st.schedules.Listing
      (fun s => scope.Covers s.organization ∧
        (∀ id ∈ employee, s.employee = id) ∧
          period.Touches s.start.instant s.finish.instant)
      (timeRank fun s => s.start.instant)
      (st.listSchedules period ⟨scope.organization?, employee⟩) := by
  apply Table.listing_sortBy (byTime_ranks _)
  intro s kept
  rw [Bool.and_eq_true, Period.meets_iff forward (ordered s kept),
    OwnerFilter.passes_iff]
  tauto

theorem listRuns_listing {state : Option PayrollState} :
    st.payroll.Listing
      (fun r => scope.Covers r.organization ∧
        (∀ id ∈ employee, r.employee = some id) ∧ ∀ s ∈ state, r.state = s)
      (timeRankDown fun r => r.createdAt)
      (st.listRuns scope.organization? employee state) := by
  apply Table.listing_sortBy (byTimeDown_ranks _)
  intro r _
  rw [Bool.and_eq_true, Bool.and_eq_true, wantedOwner_iff, wantedOwner_iff,
    wanted_iff, and_assoc]
  rfl

theorem listEmployees_listing :
    st.employees.Listing (fun e => scope.Covers e.organization) Keyed.key
      (st.listEmployees scope.organization?) := by
  apply Table.listing_sortBy byKey_ranks
  intro e _
  exact wantedOwner_iff

theorem listOrganizations_listing :
    st.organizations.Listing (fun o => scope.Covers (some o.id))
      (timeRank fun o => o.createdAt)
      (st.listOrganizations scope.organization?) := by
  apply Table.listing_sortBy (byTime_ranks _)
  intro o _
  rw [wanted_iff, TenantScope.Covers]
  simp only [Option.some.injEq]

/-- Two stores that keep the same entities, each in tables of an order of its
own. -/
structure SameRows (st other : Store) : Prop where
  attendance : st.attendance.rows.Perm other.attendance.rows
  leave : st.leave.rows.Perm other.leave.rows
  balances : st.balances.rows.Perm other.balances.rows
  schedules : st.schedules.rows.Perm other.schedules.rows
  profiles : st.profiles.rows.Perm other.profiles.rows
  payroll : st.payroll.rows.Perm other.payroll.rows
  employees : st.employees.rows.Perm other.employees.rows
  organizations : st.organizations.rows.Perm other.organizations.rows

namespace SameRows

variable (same : st.SameRows other)
include same

theorem listRecords_eq (owner : OwnerFilter)
    (state : Option AttendanceState) :
    other.listRecords period owner state =
      st.listRecords period owner state :=
  Table.sortBy_filter_of_perm (byTime_ranks _) _ same.attendance

theorem listLeave_eq (owner : OwnerFilter) (state : Option LeaveState) :
    other.listLeave period owner state = st.listLeave period owner state :=
  Table.sortBy_filter_of_perm (byTime_ranks _) _ same.leave

theorem listSchedules_eq (owner : OwnerFilter) :
    other.listSchedules period owner = st.listSchedules period owner :=
  Table.sortBy_filter_of_perm (byTime_ranks _) _ same.schedules

theorem listRuns_eq (organization : Option String)
    (state : Option PayrollState) :
    other.listRuns organization employee state =
      st.listRuns organization employee state :=
  Table.sortBy_filter_of_perm (byTimeDown_ranks _) _ same.payroll

theorem listEmployees_eq (organization : Option String) :
    other.listEmployees organization = st.listEmployees organization :=
  Table.sortBy_filter_of_perm byKey_ranks _ same.employees

theorem listOrganizations_eq (organization : Option String) :
    other.listOrganizations organization =
      st.listOrganizations organization :=
  Table.sortBy_filter_of_perm (byTime_ranks _) _ same.organizations

theorem requireEmployee_eq (id : String) :
    Service.requireEmployee other scope id =
      Service.requireEmployee st scope id := by
  rw [Service.requireEmployee, Table.get?_of_perm same.employees]
  rfl

end SameRows

end Store

/-! ## Lists that are asked for -/

namespace Call

open Service

/-- Whether a call asks for a list of entities. -/
def isList : Call → Bool
  | listOrganizations => true
  | listEmployees _ => true
  | listRecords _ => true
  | listLeave _ => true
  | listSchedules _ => true
  | listRuns _ _ => true
  | _ => false

/-- `c.Lists st actor scope reply`: what is replied lists, out of a store, the
entities that an actor asks for within a scope. -/
inductive Lists (st : Store) (actor : Actor) (scope : TenantScope) :
    Call → Reply → Prop
  | records {query : RecordQuery} {rs : List AttendanceRecord}
      (filtered : ListPermissions.records.filter actor query.employee =
        .ok (actor.listedEmployee query.employee))
      (listing : st.attendance.Listing
        (fun r => scope.Covers r.organization ∧
          (∀ id ∈ actor.listedEmployee query.employee, r.employee = id) ∧
            (∀ s ∈ query.state, r.state = s) ∧
              query.period.Contains r.checkIn.instant)
        (timeRank fun r => r.checkIn.instant) rs) :
      Lists st actor scope (.listRecords query) (.records rs)
  | leaves {query : LeaveQuery} {rs : List LeaveRequest}
      (filtered : ListPermissions.leave.filter actor query.employee =
        .ok (actor.listedEmployee query.employee))
      (listing : st.leave.Listing
        (fun r => scope.Covers r.organization ∧
          (∀ id ∈ actor.listedEmployee query.employee, r.employee = id) ∧
            (∀ s ∈ query.state, r.state = s) ∧
              query.period.Touches r.start.instant r.finish.instant)
        (timeRank fun r => r.start.instant) rs) :
      Lists st actor scope (.listLeave query) (.leaves rs)
  | schedules {query : ScheduleQuery} {rows : List WorkSchedule}
      (filtered : ListPermissions.schedules.filter actor query.employee =
        .ok (actor.listedEmployee query.employee))
      (listing : st.schedules.Listing
        (fun s => scope.Covers s.organization ∧
          (∀ id ∈ actor.listedEmployee query.employee, s.employee = id) ∧
            query.period.Touches s.start.instant s.finish.instant)
        (timeRank fun s => s.start.instant) rows) :
      Lists st actor scope (.listSchedules query) (.schedules rows)
  | runs {employee : Option String} {state : Option PayrollState}
      {rs : List PayrollRun}
      (listing : st.payroll.Listing
        (fun r => scope.Covers r.organization ∧
          (∀ id ∈ employee, r.employee = some id) ∧ ∀ s ∈ state, r.state = s)
        (timeRankDown fun r => r.createdAt) rs) :
      Lists st actor scope (.listRuns employee state) (.runs rs)
  | employees {active : Option Bool} {es : List Employee}
      (listing : st.employees.Listing
        (fun e => scope.Covers e.organization ∧ ∀ a ∈ active, e.active = a)
        Keyed.key es) :
      Lists st actor scope (.listEmployees active) (.employees es)
  | organizations {os : List Organization}
      (listing : st.organizations.Listing
        (fun o => scope.Covers (some o.id))
        (timeRank fun o => o.createdAt) os) :
      Lists st actor scope .listOrganizations (.organizations os)

section Replies

variable {ctx : Context} {st other : Store}

/-- A list that is replied is what was asked for, if no leave and no shift
that is kept ends before it starts. -/
theorem lists_of_reply {c : Call} {reply : Reply}
    (leaves : ∀ r ∈ st.leave.rows, r.start.instant ≤ r.finish.instant)
    (shifts : ∀ s ∈ st.schedules.rows, s.start.instant ≤ s.finish.instant)
    (list : c.isList = true) (done : (c.effect ctx st).reply = .ok reply) :
    ∃ actor scope, ctx.authorize = .ok (actor, scope) ∧
      c.Lists st actor scope reply := by
  cases c with
  | listRecords query =>
      obtain ⟨rs, listed, rfl⟩ := reading_eq_ok done
      simp only [Service.listRecords, Outcome.bind_eq_ok,
        Outcome.pure_eq_ok] at listed
      obtain ⟨⟨actor, scope⟩, authorized, _, _, employee, filtered, rfl⟩ :=
        listed
      have usual := ListPermissions.usual (p := .records) (by simp)
      have own := usual.filter_eq_ok filtered
      subst own
      exact ⟨actor, scope, authorized,
        .records filtered Store.listRecords_listing⟩
  | listLeave query =>
      obtain ⟨rs, listed, rfl⟩ := reading_eq_ok done
      simp only [Service.listLeave, Outcome.bind_eq_ok, ensurePeriod_eq_ok,
        Outcome.pure_eq_ok] at listed
      obtain ⟨⟨actor, scope⟩, authorized, _, ordered, employee, filtered,
        rfl⟩ := listed
      have usual := ListPermissions.usual (p := .leave) (by simp)
      have own := usual.filter_eq_ok filtered
      subst own
      exact ⟨actor, scope, authorized, .leaves filtered
        (Store.listLeave_listing (Instant.le_of_lt ordered) leaves)⟩
  | listSchedules query =>
      obtain ⟨rows, listed, rfl⟩ := reading_eq_ok done
      obtain ⟨actor, scope, employee, authorized, period, filtered, rfl⟩ :=
        listSchedules_eq_ok listed
      have ordered := ensurePeriod_eq_ok.1 period
      have usual := ListPermissions.usual (p := .schedules) (by simp)
      have own := usual.filter_eq_ok filtered
      subst own
      exact ⟨actor, scope, authorized, .schedules filtered
        (Store.listSchedules_listing (Instant.le_of_lt ordered) shifts)⟩
  | listRuns employee state =>
      obtain ⟨rs, listed, rfl⟩ := reading_eq_ok done
      simp only [Service.listRuns, Outcome.bind_eq_ok,
        Outcome.pure_eq_ok] at listed
      obtain ⟨⟨actor, scope⟩, authorized, _, _, rfl⟩ := listed
      exact ⟨actor, scope, authorized, .runs Store.listRuns_listing⟩
  | listEmployees active =>
      obtain ⟨es, listed, rfl⟩ := reading_eq_ok done
      simp only [Service.listEmployees, Outcome.bind_eq_ok,
        Outcome.pure_eq_ok] at listed
      obtain ⟨⟨actor, scope⟩, authorized, rfl⟩ := listed
      exact ⟨actor, scope, (authorizePeople_eq_ok.1 authorized).1,
        .employees (Store.listEmployees_listing.filter
          fun e => wanted_iff)⟩
  | listOrganizations =>
      obtain ⟨os, listed, rfl⟩ := reading_eq_ok done
      simp only [Service.listOrganizations, Outcome.bind_eq_ok,
        Outcome.pure_eq_ok] at listed
      obtain ⟨⟨actor, scope⟩, authorized, rfl⟩ := listed
      exact ⟨actor, scope, (authorizePeople_eq_ok.1 authorized).1,
        .organizations Store.listOrganizations_listing⟩
  | _ =>
      cases list

/-- A list does not depend on the order in which the tables have their
rows. -/
theorem effect_of_sameRows (same : st.SameRows other) {c : Call}
    (list : c.isList = true) :
    c.effect ctx other = { c.effect ctx st with store := other } := by
  cases c with
  | listRecords query =>
      simp only [effect, Service.listRecords, same.listRecords_eq]
      rfl
  | listLeave query =>
      simp only [effect, Service.listLeave, same.listLeave_eq]
      rfl
  | listSchedules query =>
      simp only [effect, Service.listSchedules, same.listSchedules_eq,
        same.requireEmployee_eq]
      rfl
  | listRuns employee state =>
      simp only [effect, Service.listRuns, same.listRuns_eq]
      rfl
  | listEmployees active =>
      simp only [effect, Service.listEmployees, same.listEmployees_eq]
      rfl
  | listOrganizations =>
      simp only [effect, Service.listOrganizations,
        same.listOrganizations_eq]
      rfl
  | _ =>
      cases list

end Replies

end Call

/-- Every list that is replied out of a reachable store holds what was asked
for, each entity once and in the strict order of the list.  Any store with the
same entities gives the same reply, whatever order its tables have. -/
theorem lists_of_reachable {st : Store} (reachable : Reachable st)
    {ctx : Context} (sinks : Sinks) {c : Call} {reply : Reply}
    (list : c.isList = true)
    (succeeded : (c.perform ctx sinks st).1 = .ok reply) :
    (∃ actor scope, ctx.authorize = .ok (actor, scope) ∧
      c.Lists st actor scope reply) ∧
    ∀ other, st.SameRows other →
      (c.perform ctx sinks other).1 = .ok reply := by
  obtain ⟨past, run⟩ := reachable
  refine ⟨?_, ?_⟩
  · have leaves : ∀ r ∈ st.leave.rows,
        r.start.instant ≤ r.finish.instant := by
      intro r kept
      exact ((LeaveApart.of_reachable ⟨past, run⟩).spans r kept).ordered
    have shifts : ∀ s ∈ st.schedules.rows,
        s.start.instant ≤ s.finish.instant := by
      intro s kept
      exact Instant.le_of_lt (run.shiftsForward s kept)
    exact Call.lists_of_reply leaves shifts list
      (Call.reply_of_perform succeeded)
  · intro other same
    have replied := @Call.effect_of_sameRows ctx st other same c list
    rw [Call.perform_reply_of_store replied, succeeded]

/-! ## Two shifts that start together -/

/-- A shift from the start of 1970, a holiday, is recorded, which is on until
there is a check-out. -/
def clocking (before : Store) (fresh : String)
    (checkOut : Option ZonedTime) : Step :=
  officeStep before fresh
    (.createRecord
      ⟨"emp-001", .ofInstant ⟨0⟩, checkOut, 0, true, none⟩)

/-- A shift of an hour. -/
def clockingHour : Step :=
  clocking hiring.after "2" (some (.ofInstant ⟨3600000000000⟩))

/-- Another shift of the same start, which is still on. -/
def clockingOpen : Step :=
  clocking clockingHour.after "10" none

theorem run_clockingOpen :
    Run [clockingOpen, clockingHour, hiring] clockingOpen.after := by
  refine .step (.step (.step .start ?_) ?_) ?_
  · exact ⟨rfl, rfl, rfl, rfl, rfl⟩
  · exact ⟨by decide, rfl, rfl, rfl, rfl⟩
  · exact ⟨by decide, rfl, rfl, rfl, rfl⟩

/-- The records of an employee whose check-in is in the first second. -/
def earlyRecords : Service.RecordQuery :=
  ⟨⟨⟨0⟩, ⟨1000000000⟩⟩, some "emp-001", none⟩

/-- Of two shifts that start together the one with the lesser id is listed
first. -/
theorem lists_of_clockingOpen :
    Reachable clockingOpen.after ∧
      ∃ rs, ((Call.listRecords earlyRecords).perform clockingOpen.ctx
            .working clockingOpen.after).1 = .ok (.records rs) ∧
        rs.map AttendanceRecord.id = ["10", "2"] ∧
        ∃ actor scope, clockingOpen.ctx.authorize = .ok (actor, scope) ∧
          (Call.listRecords earlyRecords).Lists clockingOpen.after actor
            scope (.records rs) := by
  have reachable : Reachable clockingOpen.after := ⟨_, run_clockingOpen⟩
  refine ⟨reachable, _, rfl, by decide, ?_⟩
  exact (lists_of_reachable reachable .working rfl rfl).1

end Workforce
