import Workforce.Service.Context

/-!
# When checks pass

An operation is a chain of checks that ends in a value.  This module says, for
each kind of check, exactly when it passes:

* a chain has a value if every link has one;
* a condition passes if it holds, a permission if the role has it, and an
  entity if it is there and within the scope;
* a caller is authorized if there is one and the scope can be resolved.

A caller of an organization, while tenancy is on, has that organization as the
scope.  This is what all statements about tenants begin with.
-/

namespace Workforce

/-! ## Chains, conditions and values -/

namespace Outcome

variable {α β : Type}

theorem bind_eq_ok {x : Outcome α} {f : α → Outcome β} {b : β} :
    x >>= f = .ok b ↔ ∃ a, x = .ok a ∧ f a = .ok b := by
  cases x with
  | error failure =>
      simp [bind, Except.bind]
  | ok a =>
      simp [bind, Except.bind]

@[simp]
theorem ok_bind (a : α) (f : α → Outcome β) :
    (Except.ok a : Outcome α) >>= f = f a :=
  rfl

/-- A chain fails where its first link does, or behind it. -/
theorem bind_eq_error {x : Outcome α} {f : α → Outcome β}
    {failure : Failure} :
    x >>= f = .error failure ↔
      x = .error failure ∨ ∃ a, x = .ok a ∧ f a = .error failure := by
  cases x with
  | error other =>
      simp [bind, Except.bind]
  | ok a =>
      simp [bind, Except.bind]

/-- A list of checks passes if each of them does. -/
theorem forM_eq_ok {items : List α} {check : α → Outcome Unit} :
    items.forM check = .ok () ↔ ∀ a ∈ items, check a = .ok () := by
  induction items with
  | nil =>
      simp [pure, Except.pure]
  | cons a rest inductionHypothesis =>
      rw [List.forM, bind_eq_ok, List.forall_mem_cons,
        ← inductionHypothesis]
      constructor
      · rintro ⟨_, passed, others⟩
        exact ⟨passed, others⟩
      · rintro ⟨passed, others⟩
        exact ⟨(), passed, others⟩

/-- A list of checks fails as one of them does. -/
theorem forM_eq_error {items : List α} {check : α → Outcome Unit}
    {failure : Failure} (failed : items.forM check = .error failure) :
    ∃ a ∈ items, check a = .error failure := by
  induction items with
  | nil =>
      cases failed
  | cons a rest inductionHypothesis =>
      rw [List.forM, bind_eq_error] at failed
      rcases failed with here | ⟨_, _, later⟩
      · exact ⟨a, List.mem_cons_self, here⟩
      · obtain ⟨b, member, failed⟩ := inductionHypothesis later
        exact ⟨b, List.mem_cons_of_mem a member, failed⟩

/-- What is done to the result of a chain can be done to that of its last
link. -/
theorem map_bind {γ : Type} (x : Outcome α) (f : α → Outcome β)
    (h : β → γ) : (x >>= f).map h = x >>= fun a => (f a).map h := by
  cases x with
  | error failure =>
      rfl
  | ok a =>
      rfl

@[simp]
theorem pure_eq_ok {a b : α} : (pure a : Outcome α) = .ok b ↔ a = b := by
  simp [pure, Except.pure]

@[simp]
theorem refuse_ne_ok {fault : Fault} {a : α} :
    ¬ (refuse fault : Outcome α) = .ok a := by
  simp [refuse]

theorem ensure_eq_ok {condition : Prop} [Decidable condition] {fault : Fault}
    {u : Unit} : ensure condition fault = .ok u ↔ condition := by
  unfold ensure
  by_cases holds : condition
  · simp [holds]
  · simp [holds]

theorem ensure_eq_error {condition : Prop} [Decidable condition]
    {fault : Fault} {failure : Failure} :
    ensure condition fault = .error failure ↔
      ¬ condition ∧ failure = .refused fault := by
  unfold ensure
  by_cases holds : condition
  · simp [holds]
  · simp [holds, refuse, eq_comm]

theorem ensure_of {condition : Prop} [Decidable condition] {fault : Fault}
    (holds : condition) : ensure condition fault = .ok () :=
  if_pos holds

theorem ensure_of_not {condition : Prop} [Decidable condition] {fault : Fault}
    (fails : ¬ condition) : ensure condition fault = refuse fault :=
  if_neg fails

theorem demand_eq_ok {value : Option α} {fault : Fault} {a : α} :
    demand value fault = .ok a ↔ value = some a := by
  cases value with
  | none =>
      simp [demand]
  | some found =>
      simp [demand]

theorem demand_eq_error {value : Option α} {fault : Fault}
    {failure : Failure} :
    demand value fault = .error failure ↔
      value = none ∧ failure = .refused fault := by
  cases value with
  | none =>
      simp [demand, refuse, eq_comm]
  | some found =>
      simp [demand]

theorem ofAmount_eq_ok {x : Except Overflow α} {a : α} :
    ofAmount x = .ok a ↔ x = .ok a := by
  cases x with
  | error cause =>
      simp [ofAmount]
  | ok found =>
      simp [ofAmount]

/-- If this fails, it is by a fault. -/
def NeverOverflows (x : Outcome α) : Prop :=
  ∀ cause, x ≠ .error (.overflow cause)

theorem neverOverflows_ok (a : α) : NeverOverflows (.ok a : Outcome α) :=
  nofun

theorem neverOverflows_ensure {condition : Prop} [Decidable condition]
    (fault : Fault) : NeverOverflows (ensure condition fault) := by
  intro cause overflow
  cases (ensure_eq_error.1 overflow).2

theorem neverOverflows_demand (value : Option α) (fault : Fault) :
    NeverOverflows (demand value fault) := by
  intro cause overflow
  cases (demand_eq_error.1 overflow).2

/-- A chain never overflows if no link does. -/
theorem NeverOverflows.bind {x : Outcome α} {f : α → Outcome β}
    (first : NeverOverflows x) (rest : ∀ a, NeverOverflows (f a)) :
    NeverOverflows (x >>= f) := by
  intro cause overflow
  rcases bind_eq_error.1 overflow with here | ⟨a, _, later⟩
  · exact first cause here
  · exact rest a cause later

end Outcome

/-! ## Scopes -/

namespace TenantScope

variable {α : Type} [Owned α]

theorem visible_eq_ok {scope : TenantScope} {entity : Option α}
    {message : String} {a : α} :
    scope.visible entity message = .ok a ↔
      entity = some a ∧ scope.permits (Owned.owner a) = true := by
  rw [visible, Outcome.demand_eq_ok, Option.filter_eq_some_iff]

/-- What is outside the scope is answered for as what is not there. -/
theorem visible_of_hidden {scope : TenantScope} {entity : Option α}
    (hidden :
      ∀ a, entity = some a → scope.permits (Owned.owner a) = false)
    (message : String) :
    scope.visible entity message = Outcome.refuse (.notFound message) := by
  have nothing :
      (entity.filter fun a => scope.permits (Owned.owner a)) = none := by
    rw [Option.filter_eq_none_iff]
    intro a found
    rw [hidden a found]
    exact Bool.false_ne_true
  rw [visible, nothing]
  rfl

/-- Without a scope one is told to authenticate. -/
theorem resolve_eq_error {actor : Option Actor} {tenancy : Bool}
    {failure : Failure} (refused : resolve actor tenancy = .error failure) :
    ∃ message, failure = .refused (.unauthenticated message) := by
  cases tenancy with
  | false =>
      cases refused
  | true =>
      cases actor with
      | none =>
          cases refused
          exact ⟨_, rfl⟩
      | some a =>
          simp only [resolve, requireActor, Outcome.demand, Bool.not_true,
            Bool.false_eq_true, if_false, Outcome.ok_bind] at refused
          split at refused
          · cases refused
          · split at refused
            · split at refused
              · cases refused
                exact ⟨_, rfl⟩
              · cases refused
            · cases refused
              exact ⟨_, rfl⟩

@[simp]
theorem permits_organization {id : String} {owner : Option String} :
    (organization id).permits owner = true ↔ owner = some id := by
  simp [permits]

end TenantScope

/-! ## Permissions -/

theorem Actor.requireAny_eq_ok {a : Actor} {ps : List Permission}
    {message : String} {u : Unit} :
    a.requireAny ps message = .ok u ↔ a.mayAny ps = true :=
  Outcome.ensure_eq_ok

theorem Actor.require_eq_ok {a : Actor} {p : Permission} {message : String}
    {u : Unit} : a.require p message = .ok u ↔ a.may p = true := by
  rw [Actor.require, Actor.requireAny_eq_ok]
  simp [Actor.mayAny]

theorem OwnOrAny.require_eq_ok {p : OwnOrAny} {a : Actor}
    {employee message : String} {u : Unit} :
    p.require a employee message = .ok u ↔ p.admits a employee = true :=
  Outcome.ensure_eq_ok

/-! ## Callers -/

namespace Context

theorem authorize_eq_ok {ctx : Context} {actor : Actor}
    {scope : TenantScope} :
    ctx.authorize = .ok (actor, scope) ↔
      ctx.actor = some actor ∧
        TenantScope.resolve ctx.actor ctx.config.features.tenancy =
          .ok scope := by
  simp only [authorize, requireActor, Outcome.bind_eq_ok,
    Outcome.demand_eq_ok, Outcome.pure_eq_ok, Prod.mk.injEq]
  constructor
  · rintro ⟨found, resolved, caller, called, rfl, rfl⟩
    exact ⟨called, resolved⟩
  · rintro ⟨called, resolved⟩
    exact ⟨scope, resolved, actor, called, rfl, rfl⟩

/-- Tenancy is on, and an actor of an organization asks who does not belong
to the platform. -/
structure ConfinedTo (ctx : Context) (actor : Actor) (home : String) :
    Prop where
  tenancy : ctx.config.features.tenancy = true
  caller : ctx.actor = some actor
  role : actor.role ≠ .system
  organization : actor.organization = some home

/-- A caller of an organization is refused, or is confined to it. -/
theorem ConfinedTo.resolve_eq {ctx : Context} {actor : Actor} {home : String}
    (confined : ctx.ConfinedTo actor home) :
    TenantScope.resolve ctx.actor ctx.config.features.tenancy =
      if Text.allBlank home then
        Outcome.refuse (.unauthenticated "missing tenant context")
      else
        .ok (.organization home) := by
  have notPlatform : actor.isPlatform = false := by
    simpa [Actor.isPlatform] using confined.role
  rw [confined.tenancy, confined.caller]
  simp [TenantScope.resolve, requireActor, Outcome.demand, notPlatform,
    confined.organization]
  rfl

/-- Who may not ask at all is told to authenticate. -/
theorem authorize_eq_error {ctx : Context} {failure : Failure}
    (refused : ctx.authorize = .error failure) :
    ∃ message, failure = .refused (.unauthenticated message) := by
  simp only [authorize, Outcome.bind_eq_error, requireActor,
    Outcome.demand_eq_error] at refused
  rcases refused with unresolved | ⟨scope, _, ⟨_, rfl⟩ | ⟨actor, _, none⟩⟩
  · exact TenantScope.resolve_eq_error unresolved
  · exact ⟨_, rfl⟩
  · cases none

/-- Nobody is kept from asking by an overflow. -/
theorem authorize_neverOverflows (ctx : Context) :
    Outcome.NeverOverflows ctx.authorize := by
  intro cause overflow
  obtain ⟨message, same⟩ := authorize_eq_error overflow
  cases same

theorem ConfinedTo.of_authorize {ctx : Context} {actor caller : Actor}
    {home : String} {scope : TenantScope}
    (confined : ctx.ConfinedTo actor home)
    (authorized : ctx.authorize = .ok (caller, scope)) :
    caller = actor ∧ scope = .organization home := by
  obtain ⟨called, resolved⟩ := authorize_eq_ok.1 authorized
  constructor
  · rw [confined.caller] at called
    exact (Option.some.inj called).symm
  · rw [confined.resolve_eq] at resolved
    by_cases blank : Text.allBlank home = true
    · simp [blank] at resolved
    · simpa [blank] using resolved.symm

end Context
end Workforce
