import Workforce.Store.Basic

/-!
The audit log and the events, each behind a sink that may be out of order.
-/

namespace Workforce

/-- Why a sink takes nothing at present, if it does not. -/
structure Sinks where
  audit : Option String
  events : Option String
deriving DecidableEq, Repr

/-- Both sinks in order. -/
def Sinks.working : Sinks := ⟨none, none⟩

namespace Store

/-- Appends an entry to the audit log. -/
def appendAudit (st : Store) (sinks : Sinks) (entry : AuditEntry) :
    Outcome Unit × Store :=
  match sinks.audit with
  | some message => (Outcome.refuse (.storage message), st)
  | none => (.ok (), { st with audit := st.audit ++ [entry] })

/-- Appends an event to the list of events. -/
def publish (st : Store) (sinks : Sinks) (event : DomainEvent) :
    Outcome Unit × Store :=
  match sinks.events with
  | some message => (Outcome.refuse (.storage message), st)
  | none => (.ok (), { st with events := st.events ++ [event] })

end Store
end Workforce
