import Workforce.Store.Logs

/-!
What an operation comes to, before anything of it is recorded: the store it
leaves, what there is to tell, and the reply. Recording is the same for all
operations and comes last; it can turn a reply into a storage fault, but takes
nothing back.
-/

namespace Workforce

/-- A store, a notice if there is something to tell, and a reply. -/
structure Effect (α : Type) where
  store : Store
  notice : Option Notice
  reply : Outcome α

namespace Effect

/-- A reply that leaves the store as it is, with nothing to tell. -/
def answer {α : Type} (st : Store) (reply : Outcome α) : Effect α :=
  ⟨st, none, reply⟩

/-- A value, with something to tell. -/
def told {α : Type} (st : Store) (notice : Notice) (value : α) : Effect α :=
  ⟨st, some notice, .ok value⟩

/-- A refusal, with something to tell. -/
def refused {α : Type} (st : Store) (notice : Notice) (fault : Fault) :
    Effect α :=
  ⟨st, some notice, Outcome.refuse fault⟩

/-- What a change of the store comes to: there is something to tell if it was
made. -/
def ofChange {α : Type} (change : Outcome α × Store) (tell : α → Notice) :
    Effect α :=
  match change with
  | (.ok a, st) => told st (tell a) a
  | (.error e, st) => answer st (.error e)

/-- What a change of the store comes to where it has still to be worked out what
there is to tell of it. If that fails the change stays, and is not told. -/
def afterChange {α : Type} (change : Outcome α × Store)
    (tell : α → Outcome Notice) : Effect α :=
  match change with
  | (.ok a, st) =>
    match tell a with
    | .ok notice => told st notice a
    | .error e => answer st (.error e)
  | (.error e, st) => answer st (.error e)

/-- The effect of an operation that may fail before it changes anything. -/
def ofOutcome {α : Type} (st : Store) : Outcome (Effect α) → Effect α
  | .ok effect => effect
  | .error e => answer st (.error e)

/-- The effect with another form of the reply. -/
def map {α β : Type} (f : α → β) (e : Effect α) : Effect β :=
  { e with reply := e.reply.map f }

/-- Records a notice: first in the audit log and then, for an action that has
one, as an event. -/
def tell (st : Store) (sinks : Sinks) (n : Notice) : Outcome Unit × Store :=
  match st.appendAudit sinks n.auditEntry with
  | (.ok (), st) =>
    match n.event with
    | some event => st.publish sinks event
    | none => (.ok (), st)
  | (.error e, st) => (.error e, st)

/-- Records what there is to tell and gives the reply, unless a sink is out of
order. -/
def record {α : Type} (e : Effect α) (sinks : Sinks) : Outcome α × Store :=
  match e.notice with
  | some n =>
    match tell e.store sinks n with
    | (.ok (), st) => (e.reply, st)
    | (.error fault, st) => (.error fault, st)
  | none => (e.reply, e.store)

end Effect
end Workforce
