import Workforce.Proofs.Run

/-!
# When an actor's organization does not matter

The organization that an actor states is asked for in one place only, where the
scope is resolved.  Without tenancy, and for an actor of the platform, it is not
asked for at all (`Context.Unconfined`).  This module shows that then nothing
else depends on it: the same call of an actor who states another organization,
or none, is answered alike and leaves the same store, logs included.

To state another organization can be taken along an operation.  It goes through
the authorization (`authorize_reassigned`) and through every check, as these
look at the role and the id of the actor, and ends up in the notice, of whose
actor only the role and the id are recorded (`record_reassigned`).
-/

namespace Workforce

open Service

/-! ## Another organization -/

/-- The actor, with another organization or none. -/
def Actor.reassigned (a : Actor) (organization : Option String) : Actor :=
  { a with organization }

/-- What an operation is given, by the actor with another organization. -/
def Context.reassigned (ctx : Context) (organization : Option String) :
    Context :=
  { ctx with actor := ctx.actor.map (·.reassigned organization) }

/-- Tenancy is off, or whoever asks belongs to the platform. -/
def Context.Unconfined (ctx : Context) : Prop :=
  ctx.config.features.tenancy = false ∨
    ∀ actor, ctx.actor = some actor → actor.role = .system

/-- A notice, by the actor with another organization. -/
def Notice.reassigned (n : Notice) (organization : Option String) : Notice :=
  { n with actor := n.actor.reassigned organization }

/-- An effect, by the actor with another organization. -/
def Effect.reassigned {α : Type} (e : Effect α)
    (organization : Option String) : Effect α :=
  { e with notice := e.notice.map (·.reassigned organization) }

/-- Of the actor of a notice no more than the role and the id is recorded. -/
theorem Effect.record_reassigned {α : Type} (e : Effect α)
    (organization : Option String) (sinks : Sinks) :
    (e.reassigned organization).record sinks = e.record sinks := by
  obtain ⟨st, notice, reply⟩ := e
  cases notice with
  | none =>
      rfl
  | some n =>
      rfl

theorem Effect.ofChange_reassigned {α : Type} (change : Outcome α × Store)
    (tell : α → Notice) (organization : Option String) :
    (ofChange change tell).reassigned organization =
      ofChange change fun a => (tell a).reassigned organization := by
  obtain ⟨result, st⟩ := change
  cases result with
  | error failure =>
      rfl
  | ok a =>
      rfl

theorem Effect.afterChange_reassigned {α : Type}
    (change : Outcome α × Store) (tell : α → Outcome Notice)
    (organization : Option String) :
    (afterChange change tell).reassigned organization =
      afterChange change fun a =>
        (tell a).map (·.reassigned organization) := by
  obtain ⟨result, st⟩ := change
  cases result with
  | error failure =>
      rfl
  | ok a =>
      cases told : tell a with
      | error failure =>
          simp only [afterChange, told]
          rfl
      | ok notice =>
          simp only [afterChange, told]
          rfl

/-! ## Authorization -/

theorem Outcome.map_pure {α β : Type} (f : α → β) (a : α) :
    (pure a : Outcome α).map f = pure (f a) :=
  rfl

theorem Outcome.bind_map {α β γ : Type} (x : Outcome α) (g : α → β)
    (f : β → Outcome γ) : x.map g >>= f = x >>= fun a => f (g a) := by
  cases x with
  | error failure =>
      rfl
  | ok a =>
      rfl

section Unconfined

variable {ctx : Context} {organization : Option String}

/-- Whose organization does not matter is given everything for a scope. -/
theorem Context.Unconfined.resolve_eq {actor : Actor}
    (unconfined : ctx.Unconfined) (called : ctx.actor = some actor) :
    TenantScope.resolve ctx.actor ctx.config.features.tenancy =
      .ok .everything := by
  rw [called]
  rcases unconfined with off | platform
  · rw [off]
    rfl
  · have system : actor.isPlatform = true := by
      rw [Actor.isPlatform, platform actor called]
      rfl
    cases ctx.config.features.tenancy with
    | false =>
        rfl
    | true =>
        simp [TenantScope.resolve, requireActor, Outcome.demand, system]

theorem Context.Unconfined.reassigned (unconfined : ctx.Unconfined)
    (organization : Option String) :
    (ctx.reassigned organization).Unconfined := by
  refine unconfined.imp id ?_
  intro platform other called
  obtain ⟨actor, asked, rfl⟩ := Option.map_eq_some_iff.1 called
  exact platform actor asked

theorem authorize_reassigned (unconfined : ctx.Unconfined) :
    (ctx.reassigned organization).authorize =
      ctx.authorize.map fun passed =>
        (passed.1.reassigned organization, passed.2) := by
  cases called : ctx.actor with
  | none =>
      have nobody : ctx.reassigned organization = ctx := by
        rw [Context.reassigned, called, Option.map_none, ← called]
      rw [nobody, Context.authorize, requireActor, called]
      cases TenantScope.resolve none ctx.config.features.tenancy with
      | error failure =>
          rfl
      | ok scope =>
          rfl
  | some actor =>
      have calledAgain : (ctx.reassigned organization).actor =
          some (actor.reassigned organization) := by
        rw [Context.reassigned, called, Option.map_some]
      rw [Context.authorize_eq_ok.2 ⟨called, unconfined.resolve_eq called⟩,
        Context.authorize_eq_ok.2 ⟨calledAgain,
          (unconfined.reassigned organization).resolve_eq calledAgain⟩]
      rfl

theorem authorizePeople_reassigned (unconfined : ctx.Unconfined)
    (p : Permission) (deed : String) :
    authorizePeople (ctx.reassigned organization) p deed =
      (authorizePeople ctx p deed).map fun passed =>
        (passed.1.reassigned organization, passed.2) := by
  simp only [authorizePeople, authorize_reassigned unconfined,
    Outcome.bind_map, Outcome.map_bind]
  rfl

/-! ## Operations -/

variable {st : Store}

theorem Call.changing_reassigned {α : Type} {x y : Outcome (Effect α)}
    (same : y = x.map (·.reassigned organization)) (reply : α → Reply) :
    changing st y reply = (changing st x reply).reassigned organization := by
  subst same
  cases x with
  | error failure =>
      rfl
  | ok e =>
      rfl

theorem Call.reading_reassigned {α : Type} {x y : Outcome α} (same : y = x)
    (reply : α → Reply) :
    reading st y reply = (reading st x reply).reassigned organization := by
  rw [same]
  rfl

theorem updateEmployee_reassigned (unconfined : ctx.Unconfined) (id : String)
    (changes : EmployeeChanges) :
    updateEmployee (ctx.reassigned organization) st id changes =
      (updateEmployee ctx st id changes).map (·.reassigned organization) := by
  unfold updateEmployee
  cases changes.organization with
  | none =>
      simp only [authorizePeople_reassigned unconfined, Outcome.bind_map,
        Outcome.map_bind, Outcome.map_pure, Effect.ofChange_reassigned]
      rfl
  | some requested =>
      simp only [authorizePeople_reassigned unconfined, Outcome.bind_map,
        Outcome.map_bind, Outcome.map_pure, Effect.ofChange_reassigned]
      rfl

theorem previewNet_reassigned (actor : Actor) (scope : TenantScope)
    (input : PreviewInput) (request : DeductionRequest) :
    previewNet (ctx.reassigned organization) st
        (actor.reassigned organization) scope input request =
      (previewNet ctx st actor scope input request).map
        (·.reassigned organization) := by
  simp only [previewNet, Outcome.map_bind]
  rfl

theorem previewPayrollWithDeductions_reassigned (unconfined : ctx.Unconfined)
    (input : PreviewInput) (request : DeductionRequest) :
    previewPayrollWithDeductions (ctx.reassigned organization) st input
        request =
      (previewPayrollWithDeductions ctx st input request).map
        (·.reassigned organization) := by
  simp only [previewPayrollWithDeductions, authorize_reassigned unconfined,
    Outcome.bind_map, Outcome.map_bind]
  refine congrArg (ctx.authorize >>= ·) (funext ?_)
  rintro ⟨actor, scope⟩
  refine congrArg (requirePreviewer actor >>= ·) (funext ?_)
  intro _
  rw [previewNet_reassigned]
  have sameFeatures : (ctx.reassigned organization).config.features =
      ctx.config.features := rfl
  rw [sameFeatures]
  split
  · rfl
  · split
    · rfl
    · cases previewNet ctx st actor scope input request with
      | ok e =>
          rfl
      | error failure =>
          cases failure with
          | overflow cause =>
              rfl
          | refused fault =>
              dsimp only [Except.map]
              split
              · rfl
              · rfl

/-- A call whose actor states another organization comes to the same, but for
the actor of the notice. -/
theorem Call.effect_reassigned (unconfined : ctx.Unconfined)
    (organization : Option String) (st : Store) (c : Call) :
    c.effect (ctx.reassigned organization) st =
      (c.effect ctx st).reassigned organization := by
  cases c with
  | updateEmployee id changes =>
      exact changing_reassigned (updateEmployee_reassigned unconfined id
        changes) _
  | previewPayrollWithDeductions input request =>
      exact changing_reassigned (previewPayrollWithDeductions_reassigned
        unconfined input request) _
  | createOrganization _ | createEmployee _ =>
      refine changing_reassigned ?_ _
      simp only [Service.createOrganization, Service.createEmployee,
        authorizePeople_reassigned unconfined, Outcome.bind_map,
        Outcome.map_bind, Outcome.map_pure, Effect.ofChange_reassigned]
      rfl
  | listOrganizations | getOrganization _ | listEmployees _
  | getEmployee _ =>
      refine reading_reassigned ?_ _
      simp only [Service.listOrganizations, Service.getOrganization,
        Service.listEmployees, Service.getEmployee,
        authorizePeople_reassigned unconfined, Outcome.bind_map]
  | listRecords _ | listAggregates _ | listLeave _ | listDecisions _
  | listSchedules _ | listRuns _ _ =>
      refine reading_reassigned ?_ _
      simp only [Service.listRecords, Service.listAggregates,
        Service.listLeave, Service.listDecisions, Service.listSchedules,
        Service.listRuns, authorize_reassigned unconfined, Outcome.bind_map]
      rfl
  | _ =>
      -- These begin with the authorization and end in a change.
      refine changing_reassigned ?_ _
      simp only [Service.createRecord, Service.updateRecord,
        Service.approveRecord, Service.rejectRecord, Service.createLeave,
        Service.updateLeave, Service.approveLeave, Service.rejectLeave,
        Service.cancelLeave, Service.declineLeave, Service.readBalance,
        Service.settleAccrual, Service.createSchedule,
        Service.previewPayroll, Service.confirmRun, Service.readProfile,
        Service.upsertProfile, authorize_reassigned unconfined,
        Outcome.bind_map, Outcome.map_bind, Outcome.map_pure,
        Effect.ofChange_reassigned, Effect.afterChange_reassigned]
      rfl

end Unconfined

/-! ## Steps and runs -/

/-- The step, by the actor with another organization. -/
def Step.reassigned (s : Step) (organization : Option String) : Step :=
  { s with ctx := s.ctx.reassigned organization }

theorem Step.perform_reassigned (s : Step) (unconfined : s.ctx.Unconfined)
    (organization : Option String) :
    (s.reassigned organization).reply = s.reply ∧
      (s.reassigned organization).after = s.after := by
  have sameRecord : ((s.reassigned organization).call.effect
        (s.reassigned organization).ctx
        (s.reassigned organization).before).record s.sinks =
      (s.call.effect s.ctx s.before).record s.sinks := by
    rw [← Effect.record_reassigned (s.call.effect s.ctx s.before)
      organization, ← Call.effect_reassigned unconfined organization]
    rfl
  exact ⟨congrArg Prod.fst sameRecord, congrArg Prod.snd sameRecord⟩

/-- A run whose actors state other organizations, each another one at every
step, leaves the same store. -/
theorem Run.reassigned {past : List Step} {st : Store} (run : Run past st)
    (unconfined : ∀ s ∈ past, s.ctx.Unconfined)
    (organization : Step → Option String) :
    Run (past.map fun s => s.reassigned (organization s)) st := by
  induction run with
  | start =>
      exact .start
  | @step past s run new inductionHypothesis =>
      have earlier := inductionHypothesis fun t member =>
        unconfined t (List.mem_cons_of_mem s member)
      have newAgain :
          (s.reassigned (organization s)).ctx.NewIds s.before :=
        ⟨new.record, new.leave, new.schedule, new.run, new.organization⟩
      rw [List.map_cons, ← (s.perform_reassigned
        (unconfined s List.mem_cons_self) (organization s)).2]
      exact .step earlier newAgain

/-- Without tenancy, and for an actor of the platform with it, nothing depends
on the organization that the actor states.  The same call with the same new
ids and the same clock is answered alike if the actor states another one, or
none, and it leaves the same store, with the same entries in the audit log and
the same events. -/
theorem perform_of_reassigned {ctx : Context}
    (unconfined : ctx.config.features.tenancy = false ∨
      ∀ actor, ctx.actor = some actor → actor.role = .system)
    (organization : Option String) (sinks : Sinks) (st : Store) (c : Call) :
    c.perform (ctx.reassigned organization) sinks st =
      c.perform ctx sinks st := by
  rw [Call.perform, Call.perform,
    Call.effect_reassigned unconfined organization,
    Effect.record_reassigned]

/-- Somebody of the platform, with tenancy on. -/
def platformContext : Context :=
  { hiring.ctx with
    config := { Config.standard with features := .allOn }
    actor := some { id := "sys-001", role := .system, organization := none } }

/-- Without tenancy an admin who states an organization approves leave as one
who states none, and with tenancy somebody of the platform founds an
organization as if they were of no other. -/
theorem answered_alike_to_reassigned :
    (approving.ctx.config.features.tenancy = false ∧
      (Call.approveLeave "2").perform
          (approving.ctx.reassigned (some "ORG-9")) .working settling.after =
        (Call.approveLeave "2").perform approving.ctx .working
          settling.after ∧
      approving.succeeds = true) ∧
    platformContext.config.features.tenancy = true ∧
      (∀ actor, platformContext.actor = some actor →
        actor.role = .system) ∧
      (Call.createOrganization "A").perform
          (platformContext.reassigned (some "ORG-9")) .working Store.empty =
        (Call.createOrganization "A").perform platformContext .working
          Store.empty ∧
      ((Call.createOrganization "A").perform platformContext .working
        Store.empty).1.isOk = true := by
  have platform : ∀ actor, platformContext.actor = some actor →
      actor.role = .system := by
    rintro actor ⟨⟩
    rfl
  exact ⟨⟨rfl, perform_of_reassigned (.inl rfl) _ _ _ _, by decide⟩,
    rfl, platform, perform_of_reassigned (.inr platform) _ _ _ _, by decide⟩

end Workforce
