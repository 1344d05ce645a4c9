import Workforce.Proofs.Atomicity
import Workforce.Proofs.Trail

/-!
# Sinks that are out of order

Whatever an operation has to tell is recorded last, in the audit log first and
then as an event.  This module compares a step with the same step, of the same
ids and the same time, while one of the two sinks takes nothing:

* tables, decisions and ledgers end as they would have, so nothing is taken
  back or written twice;
* what there was to tell to that sink is missing, and behind the audit log the
  event as well;
* the reply is the fault of the sink if there was something to tell it, also
  where the operation is refused, and the operation's own reply otherwise.
-/

namespace Workforce

namespace Effect

variable {α : Type} (e : Effect α) (message : String)

/-- With an audit log that takes nothing, an effect is answered by its own
reply only if it has no entry to append. -/
theorem answered_without_audit (events : Option String) :
    e.entries .working = [] ∧
        e.answered ⟨some message, events⟩ = e.reply ∨
      ∃ entry, e.entries .working = [entry] ∧
        e.answered ⟨some message, events⟩ =
          Outcome.refuse (.storage message) := by
  obtain ⟨st, notice, reply⟩ := e
  cases notice with
  | none =>
      exact Or.inl ⟨rfl, rfl⟩
  | some n =>
      exact Or.inr ⟨n.auditEntry, rfl, rfl⟩

/-- With nobody to publish for, an effect is answered by its own reply only if
it has no event to publish. -/
theorem answered_without_events :
    e.published .working = [] ∧
        e.answered ⟨none, some message⟩ = e.reply ∨
      ∃ event, e.published .working = [event] ∧
        e.answered ⟨none, some message⟩ =
          Outcome.refuse (.storage message) := by
  obtain ⟨st, notice, reply⟩ := e
  cases notice with
  | none =>
      exact Or.inl ⟨rfl, rfl⟩
  | some n =>
      cases event : n.event with
      | none =>
          refine Or.inl ⟨?_, ?_⟩
          · simp [published, event]
          · simp [answered, delivery, event]
      | some told =>
          refine Or.inr ⟨told, ?_, ?_⟩
          · simp [published, Sinks.working, event]
          · simp only [answered, delivery, event]
            rfl

end Effect

namespace Step

/-- The same step with the sinks as they are given. -/
def under (s : Step) (sinks : Sinks) : Step :=
  { s with sinks }

/-- The sinks have no part in what becomes of the tables, the decisions and
the ledgers. -/
theorem under_entities (s : Step) (first second : Sinks) :
    (s.under first).after.entities = (s.under second).after.entities := by
  rw [after_entities, after_entities]
  rfl

theorem under_reply (s : Step) (sinks : Sinks) :
    (s.under sinks).reply =
      (s.call.effect s.ctx s.before).answered sinks :=
  Effect.record_reply _ sinks

theorem under_audit (s : Step) (sinks : Sinks) :
    (s.under sinks).after.audit =
      s.before.audit ++ (s.call.effect s.ctx s.before).entries sinks :=
  (s.under sinks).after_audit

theorem under_events (s : Step) (sinks : Sinks) :
    (s.under sinks).after.events =
      s.before.events ++ (s.call.effect s.ctx s.before).published sinks :=
  (s.under sinks).after_events

/-- What becomes of a step whose audit log takes nothing: both logs stay as
they were, and everything else ends as with sinks in order.  The reply is the
fault of the log if an entry is lost, and else the same. -/
structure LosesAudit (s : Step) (message : String)
    (publisher : Option String) : Prop where
  entities :
    (s.under ⟨some message, publisher⟩).after.entities =
      (s.under .working).after.entities
  audit : (s.under ⟨some message, publisher⟩).after.audit = s.before.audit
  events : (s.under ⟨some message, publisher⟩).after.events = s.before.events
  reply :
    (s.under .working).after.audit = s.before.audit ∧
        (s.under ⟨some message, publisher⟩).reply =
          (s.under .working).reply ∨
      ∃ entry, (s.under .working).after.audit = s.before.audit ++ [entry] ∧
        (s.under ⟨some message, publisher⟩).reply =
          Outcome.refuse (.storage message)

/-- What becomes of a step that nothing can be published of: the events stay
as they were, and everything else, the audit log included, ends as with sinks
in order.  The reply is the fault of the sink if an event is lost, and else the
same. -/
structure LosesEvents (s : Step) (message : String) : Prop where
  entities :
    (s.under ⟨none, some message⟩).after.entities =
      (s.under .working).after.entities
  audit :
    (s.under ⟨none, some message⟩).after.audit =
      (s.under .working).after.audit
  events : (s.under ⟨none, some message⟩).after.events = s.before.events
  reply :
    (s.under .working).after.events = s.before.events ∧
        (s.under ⟨none, some message⟩).reply = (s.under .working).reply ∨
      ∃ event, (s.under .working).after.events = s.before.events ++ [event] ∧
        (s.under ⟨none, some message⟩).reply =
          Outcome.refuse (.storage message)

theorem losesAudit (s : Step) (message : String)
    (publisher : Option String) : s.LosesAudit message publisher where
  entities := s.under_entities _ _
  audit := (s.under_audit _).trans (List.append_nil _)
  events := (s.under_events _).trans (List.append_nil _)
  reply := by
    rw [under_audit, under_reply, under_reply, Effect.answered_of_working]
    rcases (s.call.effect s.ctx s.before).answered_without_audit message
      publisher with ⟨silent, answered⟩ | ⟨entry, told, answered⟩
    · rw [silent]
      exact Or.inl ⟨List.append_nil _, answered⟩
    · rw [told]
      exact Or.inr ⟨entry, rfl, answered⟩

theorem losesEvents (s : Step) (message : String) :
    s.LosesEvents message where
  entities := s.under_entities _ _
  audit := (s.under_audit _).trans (s.under_audit .working).symm
  events := (s.under_events _).trans (List.append_nil _)
  reply := by
    rw [under_events, under_reply, under_reply, Effect.answered_of_working]
    rcases (s.call.effect s.ctx s.before).answered_without_events message
      with ⟨silent, answered⟩ | ⟨event, told, answered⟩
    · rw [silent]
      exact Or.inl ⟨List.append_nil _, answered⟩
    · rw [told]
      exact Or.inr ⟨event, rfl, answered⟩

end Step

/-- A sink that takes nothing loses what a step has to tell it and changes
nothing else that is kept, whatever the step is and from whatever store it is
taken.  The reply is the fault of the sink exactly if something is lost. -/
theorem step_without_sinks (s : Step) (message : String) :
    (∀ publisher, s.LosesAudit message publisher) ∧ s.LosesEvents message :=
  ⟨s.losesAudit message, s.losesEvents message⟩

/-- A preview of net pay that is refused, as the feature is off. -/
def refusing : Step :=
  officeStep approving.after "5" previewingNet

/-- The refusal gives way to the fault of the audit log, which it is entered
in, but not to that of the events, which it is none of. -/
theorem refusing_without_sinks :
    (refusing.under ⟨some "audit unavailable", none⟩).reply =
        Outcome.refuse (.storage "audit unavailable") ∧
      (refusing.under ⟨none, some "events unavailable"⟩).reply =
        Outcome.refuse
          (.conflict "payroll_deductions_v1 feature flag is disabled") := by
  have entered :
      (refusing.under .working).after.audit ≠ refusing.before.audit := by
    intro same
    exact absurd (congrArg List.length same) (by decide)
  have unpublished : (refusing.under .working).after.events.length =
      refusing.before.events.length := by
    decide
  constructor
  · obtain ⟨lost, _⟩ := step_without_sinks refusing "audit unavailable"
    rcases (lost none).reply with ⟨same, _⟩ | ⟨_, _, refused⟩
    · exact absurd same entered
    · exact refused
  · obtain ⟨_, lost⟩ := step_without_sinks refusing "events unavailable"
    rcases lost.reply with ⟨_, same⟩ | ⟨event, published, _⟩
    · exact same.trans rfl
    · rw [published, List.length_append] at unpublished
      simp at unpublished

end Workforce
