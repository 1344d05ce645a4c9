import Workforce.Proofs.Effect

/-!
# Runs

What recording does to an effect, and the runs of the system: one call after
another from the empty store, by any actors, with any arguments, and with
sinks that may be out of order.

* Recording touches nothing but the two logs, and what it adds to them depends
  on the notice alone.
* The ids for new entities are taken to be new: no entity of the kind that is
  kept has the id.  Nothing else is asked of a call.
* `Reachable.invariant` turns a property that every deed keeps into one of
  every reachable store.
-/

namespace Workforce

/-! ## Recording -/

namespace Effect

variable {α : Type}

/-- What an effect adds to the audit log. -/
def entries (e : Effect α) (sinks : Sinks) : List AuditEntry :=
  if sinks.audit.isNone then (e.notice.map Notice.auditEntry).toList else []

/-- What an effect adds to the events.  Nothing is published that could not be
entered in the audit log. -/
def published (e : Effect α) (sinks : Sinks) : List DomainEvent :=
  if sinks.audit.isNone && sinks.events.isNone then
    (e.notice.bind Notice.event).toList
  else []

/-- Recording only adds to the two logs. -/
theorem record_store (e : Effect α) (sinks : Sinks) :
    (e.record sinks).2 =
      { e.store with
        audit := e.store.audit ++ e.entries sinks
        events := e.store.events ++ e.published sinks } := by
  obtain ⟨st, notice, reply⟩ := e
  obtain ⟨audit, events⟩ := sinks
  cases notice with
  | none =>
      simp [record, entries, published]
  | some n =>
      cases audit with
      | some message =>
          simp [record, tell, Store.appendAudit, Outcome.refuse, entries,
            published]
      | none =>
          cases event : n.event with
          | none =>
              simp [record, tell, Store.appendAudit, event, entries,
                published]
          | some published =>
              cases events with
              | some message =>
                  simp [record, tell, Store.appendAudit, Store.publish,
                    Outcome.refuse, event, entries, Effect.published]
              | none =>
                  simp [record, tell, Store.appendAudit, Store.publish,
                    event, entries, Effect.published]

/-- What comes of telling a notice: a sink that is out of order refuses it,
the audit log before the events. -/
def delivery (n : Notice) (sinks : Sinks) : Outcome Unit :=
  match sinks.audit with
  | some message => Outcome.refuse (.storage message)
  | none =>
    match n.event, sinks.events with
    | some _, some message => Outcome.refuse (.storage message)
    | _, _ => .ok ()

/-- The reply behind the sinks: the effect's own, unless telling fails. -/
def answered (e : Effect α) (sinks : Sinks) : Outcome α :=
  match e.notice with
  | some n => delivery n sinks >>= fun _ => e.reply
  | none => e.reply

theorem record_reply (e : Effect α) (sinks : Sinks) :
    (e.record sinks).1 = e.answered sinks := by
  obtain ⟨st, notice, reply⟩ := e
  obtain ⟨audit, events⟩ := sinks
  cases notice with
  | none =>
      rfl
  | some n =>
      cases audit with
      | some message =>
          rfl
      | none =>
          cases event : n.event with
          | none =>
              simp [record, tell, Store.appendAudit, answered, delivery,
                event]
          | some published =>
              cases events with
              | some message =>
                  simp [record, tell, Store.appendAudit, Store.publish,
                    Outcome.refuse, answered, delivery, event, bind,
                    Except.bind]
              | none =>
                  simp [record, tell, Store.appendAudit, Store.publish,
                    answered, delivery, event]

/-- With both sinks in order the reply is the effect's own. -/
theorem answered_of_working (e : Effect α) :
    e.answered .working = e.reply := by
  obtain ⟨st, notice, reply⟩ := e
  cases notice with
  | none =>
      rfl
  | some n =>
      cases event : n.event with
      | none =>
          simp [answered, delivery, Sinks.working, event]
      | some published =>
          simp [answered, delivery, Sinks.working, event]

/-- With both sinks in order everything there is to tell is appended. -/
theorem record_working (e : Effect α) :
    e.record .working =
      (e.reply,
        { e.store with
          audit :=
            e.store.audit ++ (e.notice.map Notice.auditEntry).toList
          events := e.store.events ++ (e.notice.bind Notice.event).toList }) :=
  Prod.ext ((record_reply e .working).trans e.answered_of_working)
    (record_store e .working)

/-- An effect that is no failure is answered by its own reply, or by the fault
of a sink. -/
theorem answered_of_ok {e : Effect α} {a : α} (done : e.reply = .ok a)
    (sinks : Sinks) :
    e.answered sinks = .ok a ∨
      ∃ message, e.answered sinks = Outcome.refuse (.storage message) := by
  unfold answered
  rw [done]
  cases e.notice with
  | none =>
      exact Or.inl rfl
  | some n =>
      simp only [delivery]
      cases sinks.audit with
      | some message =>
          exact Or.inr ⟨message, rfl⟩
      | none =>
          cases n.event with
          | none =>
              exact Or.inl rfl
          | some published =>
              cases sinks.events with
              | none =>
                  exact Or.inl rfl
              | some message =>
                  exact Or.inr ⟨message, rfl⟩

/-- A failed effect is answered by a failure. -/
theorem answered_of_error {e : Effect α} {failure : Failure}
    (failed : e.reply = .error failure) (sinks : Sinks) :
    ∃ told, e.answered sinks = .error told := by
  unfold answered
  rw [failed]
  cases e.notice with
  | none =>
      exact ⟨failure, rfl⟩
  | some n =>
      cases delivered : delivery n sinks with
      | error storage =>
          refine ⟨storage, ?_⟩
          simp only [delivered]
          rfl
      | ok u =>
          refine ⟨failure, ?_⟩
          simp only [delivered]
          rfl

/-- A value that is answered is the effect's own. -/
theorem reply_of_answered {e : Effect α} {sinks : Sinks} {a : α}
    (answered : e.answered sinks = .ok a) : e.reply = .ok a := by
  cases replied : e.reply with
  | error failure =>
      obtain ⟨told, failed⟩ := answered_of_error replied sinks
      rw [answered] at failed
      cases failed
  | ok b =>
      rcases answered_of_ok replied sinks with same | ⟨message, refused⟩
      · rw [← answered, same]
      · rw [answered] at refused
        cases refused

/-- A failure that is answered is the fault of a sink, or the effect's own. -/
theorem error_of_answered {e : Effect α} {sinks : Sinks} {failure : Failure}
    (answered : e.answered sinks = .error failure) :
    (∃ message, failure = .refused (.storage message)) ∨
      e.reply = .error failure := by
  unfold Effect.answered at answered
  split at answered
  · rename_i n told
    rw [Outcome.bind_eq_error] at answered
    rcases answered with undelivered | ⟨_, _, failed⟩
    · unfold delivery at undelivered
      split at undelivered
      · cases undelivered
        exact Or.inl ⟨_, rfl⟩
      · split at undelivered
        · cases undelivered
          exact Or.inl ⟨_, rfl⟩
        · cases undelivered
    · exact Or.inr failed
  · exact Or.inr answered

end Effect

namespace Call

variable {ctx : Context} {st other : Store} {sinks : Sinks} {c : Call}

/-- A value that is replied is what the call comes to. -/
theorem reply_of_perform {reply : Reply}
    (done : (c.perform ctx sinks st).1 = .ok reply) :
    (c.effect ctx st).reply = .ok reply :=
  Effect.reply_of_answered ((Effect.record_reply _ sinks).symm.trans done)

/-- What is replied does not depend on the store that is left. -/
theorem perform_reply_of_store {after : Store}
    (same : c.effect ctx other = { c.effect ctx st with store := after }) :
    (c.perform ctx sinks other).1 = (c.perform ctx sinks st).1 := by
  rw [perform, perform, same, Effect.record_reply, Effect.record_reply]
  rfl

end Call

/-! ## Steps -/

/-- The ids for new entities are new: no entity of the kind has them. -/
structure Context.NewIds (ctx : Context) (st : Store) : Prop where
  record : st.attendance.get? (ctx.fresh .record) = none
  leave : st.leave.get? (ctx.fresh .leave) = none
  schedule : st.schedules.get? (ctx.fresh .schedule) = none
  run : st.payroll.get? (ctx.fresh .run) = none
  organization : st.organizations.get? (ctx.fresh .organization) = none

/-- A call with all that it meets. -/
structure Step where
  before : Store
  ctx : Context
  sinks : Sinks
  call : Call

namespace Step

/-- What is replied. -/
def reply (s : Step) : Outcome Reply :=
  (s.call.perform s.ctx s.sinks s.before).1

/-- The store that is left. -/
def after (s : Step) : Store :=
  (s.call.perform s.ctx s.sinks s.before).2

/-- Whether the call succeeded. -/
def succeeds (s : Step) : Bool :=
  s.reply.isOk

/-- Whether the step stopped half-way. -/
def halts (s : Step) : Bool :=
  match s.reply with
  | .ok _ => false
  | .error failure => s.call.haltsWith failure

/-- A step leaves the effect of its call, with more in the logs. -/
theorem after_eq (s : Step) :
    ∃ audit events,
      s.after =
        { (s.call.effect s.ctx s.before).store with
          audit := audit
          events := events } :=
  ⟨_, _, Effect.record_store (s.call.effect s.ctx s.before) s.sinks⟩

/-- With both sinks in order a step is answered by what its call does. -/
theorem reply_of_working (s : Step) (working : s.sinks = .working) :
    s.reply = (s.call.effect s.ctx s.before).reply := by
  rw [← Effect.answered_of_working, ← working]
  exact Effect.record_reply _ s.sinks

/-- A step whose effect is a failure does not succeed. -/
theorem succeeds_of_error {s : Step} {failure : Failure}
    (failed : (s.call.effect s.ctx s.before).reply = .error failure) :
    s.succeeds = false := by
  obtain ⟨told, answered⟩ := Effect.answered_of_error failed s.sinks
  have replied : s.reply = .error told :=
    (Effect.record_reply _ s.sinks).trans answered
  rw [succeeds, replied]
  rfl

/-- With both sinks in order a step succeeds if its effect does. -/
theorem succeeds_of_ok {s : Step} {reply : Reply}
    (working : s.sinks = .working)
    (done : (s.call.effect s.ctx s.before).reply = .ok reply) :
    s.succeeds = true := by
  have replied : s.reply = .ok reply := by
    refine (Effect.record_reply _ s.sinks).trans ?_
    rw [working, Effect.answered_of_working, done]
  rw [succeeds, replied]
  rfl

/-- A call that assigns a shift and overflows stops half-way. -/
theorem halts_of_overflow {s : Step} {input : Service.NewSchedule}
    {cause : Overflow}
    (call : s.call = .createSchedule input)
    (overflow : s.reply = .error (.overflow cause)) : s.halts = true := by
  rw [halts, overflow, call]
  rfl

/-- Only a call that assigns a shift stops half-way. -/
theorem call_of_halts {s : Step} (halted : s.halts = true) :
    ∃ input cause, s.call = .createSchedule input ∧
      s.reply = .error (.overflow cause) := by
  unfold halts at halted
  split at halted
  · cases halted
  · rename_i failure replied
    unfold Call.haltsWith at halted
    split at halted
    · rename_i input cause call
      exact ⟨input, cause, call, replied⟩
    · cases halted

/-- A step changes no table, and fails or only looks at the store; or it is a
deed, and succeeds if the sinks are in order, unless it stops half-way. -/
theorem after_cases (s : Step) :
    ((s.succeeds = true → s.call.looksOnly = true) ∧
      ∃ audit events,
        s.after = { s.before with audit := audit, events := events }) ∨
    ∃ actor scope w notice reply audit events,
      (s.sinks = .working → s.succeeds = true ∨ s.halts = true) ∧
        s.call.Does s.ctx s.before actor scope w notice reply ∧
        s.after =
          { s.before.write w with audit := audit, events := events } := by
  obtain ⟨audit, events, left⟩ := s.after_eq
  have fails := @succeeds_of_error s
  have passes := @succeeds_of_ok s
  have replied : s.reply = _ :=
    Effect.record_reply (s.call.effect s.ctx s.before) s.sinks
  have comes := Call.effect_comes s.ctx s.before s.call
  generalize s.call.effect s.ctx s.before = effect
    at left fails passes replied comes
  cases comes with
  | failed failure =>
      refine Or.inl ⟨?_, audit, events, left⟩
      intro succeeded
      rw [fails rfl] at succeeded
      cases succeeded
  | looked reply only =>
      exact Or.inl ⟨fun _ => only, audit, events, left⟩
  | warned authorized call conflict silent =>
      refine Or.inl ⟨?_, audit, events, left⟩
      intro succeeded
      rw [fails rfl] at succeeded
      cases succeeded
  | done authorized does =>
      exact Or.inr ⟨_, _, _, _, _, audit, events,
        fun working => .inl (passes working rfl), does, left⟩
  | halted authorized call does beyond =>
      exact Or.inr ⟨_, _, _, _, _, audit, events,
        fun _ => .inr (halts_of_overflow call replied), does, left⟩

end Step

/-! ## Runs and reachable stores -/

/-- The runs from the empty store: the steps that were taken, the latest
first, and the store they leave. -/
inductive Run : List Step → Store → Prop
  | start : Run [] Store.empty
  | step {past : List Step} {s : Step} (run : Run past s.before)
      (new : s.ctx.NewIds s.before) : Run (s :: past) s.after

/-- A store that some run leaves. -/
def Reachable (st : Store) : Prop :=
  ∃ past, Run past st

/-- Every step of a run ends a run itself, that of the steps up to it. -/
theorem Run.upto {past : List Step} {st : Store} (run : Run past st)
    {s : Step} (member : s ∈ past) :
    ∃ later earlier, past = later ++ s :: earlier ∧
      Run (s :: earlier) s.after := by
  induction run with
  | start =>
      cases member
  | @step past latest run new inductionHypothesis =>
      rcases List.mem_cons.1 member with rfl | before
      · exact ⟨[], past, rfl, .step run new⟩
      · obtain ⟨later, earlier, split, upto⟩ := inductionHypothesis before
        rw [split]
        exact ⟨latest :: later, earlier, rfl, upto⟩

/-- The new ids of a run were new to the store at each step. -/
theorem Run.newIds {past : List Step} {st : Store} (run : Run past st) :
    ∀ s ∈ past, s.ctx.NewIds s.before := by
  intro s member
  obtain ⟨_, _, _, upto⟩ := run.upto member
  cases upto with
  | step _ new =>
      exact new

/-- What relates the store before every step to the one after it relates any
two in the order of the run. -/
theorem Run.relates {R : Store → Store → Prop} (refl : ∀ st, R st st)
    (trans : ∀ {first second third}, R first second → R second third →
      R first third)
    (step : ∀ {past : List Step} {s : Step}, Run past s.before →
      s.ctx.NewIds s.before → R s.before s.after)
    {past : List Step} {st : Store} (run : Run past st) :
    ∀ s ∈ past, R s.before s.after ∧ R s.after st := by
  induction run with
  | start =>
      exact fun s member => absurd member List.not_mem_nil
  | @step past latest run new inductionHypothesis =>
      have kept := step run new
      intro s member
      rcases List.mem_cons.1 member with rfl | earlier
      · exact ⟨kept, refl s.after⟩
      · obtain ⟨here, since⟩ := inductionHypothesis s earlier
        exact ⟨here, trans since kept⟩

/-- A property of the tables and the log of decisions holds of every reachable
store if it holds of the empty one and every deed keeps it. -/
theorem Reachable.invariant {P : Store → Prop} (empty : P Store.empty)
    (logs : ∀ {st audit events}, P st →
      P { st with audit := audit, events := events })
    (deeds : ∀ {ctx st actor scope c w notice reply}, P st →
      ctx.NewIds st → Call.Does ctx st actor scope c w notice reply →
        P (st.write w))
    {st : Store} (reachable : Reachable st) : P st := by
  obtain ⟨past, run⟩ := reachable
  induction run with
  | start =>
      exact empty
  | @step past s run new inductionHypothesis =>
      rcases s.after_cases with
        ⟨_, audit, events, left⟩ |
        ⟨actor, scope, w, notice, reply, audit, events, _, does, left⟩
      · rw [left]
        exact logs inductionHypothesis
      · rw [left]
        exact logs (deeds inductionHypothesis new does)

/-! ## A short run -/

/-- A step of an admin under the standard configuration. -/
def officeStep (before : Store) (fresh : String) (call : Call) : Step :=
  { before
    ctx :=
      { config := Config.standard
        actor :=
          some { id := "adm-001", role := .admin, organization := none }
        now := ⟨0⟩
        fresh := fun _ => fresh }
    sinks := .working
    call }

/-- Somebody is hired. -/
def hiring : Step :=
  officeStep Store.empty "1"
    (.createEmployee ⟨"emp-001", none, none, none, none⟩)

/-- Who is hired there. -/
def hired : Employee :=
  { id := "emp-001"
    organization := none
    name := none
    email := none
    active := true
    createdAt := ⟨0⟩
    updatedAt := ⟨0⟩ }

/-- A day of leave is asked for. -/
def asking : Step :=
  officeStep hiring.after "2"
    (.createLeave ⟨"emp-001", .annual, .ofInstant ⟨0⟩, .ofInstant ⟨0⟩, none⟩)

/-- A year is settled. -/
def settling : Step :=
  officeStep asking.after "3" (.settleAccrual ⟨"emp-001", 2026, none, none⟩)

/-- The leave is approved. -/
def approving : Step :=
  officeStep settling.after "4" (.approveLeave "2")

/-- The steps of the run, the latest first. -/
def officeRun : List Step :=
  [approving, settling, asking, hiring]

theorem run_officeRun : Run officeRun approving.after := by
  refine .step (.step (.step (.step .start ?_) ?_) ?_) ?_
  · exact ⟨rfl, rfl, rfl, rfl, rfl⟩
  · exact ⟨rfl, rfl, rfl, rfl, rfl⟩
  · exact ⟨rfl, by decide, rfl, rfl, rfl⟩
  · exact ⟨rfl, by decide, rfl, rfl, rfl⟩

end Workforce
