import Workforce.Activity
import Workforce.Wire.Basic

/-!
The wire form of audit entries, events and the bodies of fault responses.
-/

namespace Workforce.Wire

instance : Wire AuditEntry where
  encode e := .obj
    [("action", encode e.action), ("entity_type", encode e.entityType),
      ("entity_id", encode e.entity),
      ("organization_id", encode e.organization),
      ("actor_role", encode e.role), ("actor_id", encode e.actor),
      ("payload", encode e.payload), ("recorded_at", encode e.recordedAt)]
  decode j := do
    let ms ← members?
      ["action", "entity_type", "entity_id", "organization_id", "actor_role",
        "actor_id", "payload", "recorded_at"] 8 j
    return {
      action := ← required ms "action"
      entityType := ← required ms "entity_type"
      entity := ← optional ms "entity_id"
      organization := ← optional ms "organization_id"
      role := ← required ms "actor_role"
      actor := ← required ms "actor_id"
      payload := ← optional ms "payload"
      recordedAt := ← required ms "recorded_at" }

/-- A member for a value that is there, and none for want of one. -/
def present {α : Type} [Wire α] (name : String) (value : Option α) :
    List (String × Json) :=
  match value with
  | some a => [(name, encode a)]
  | none => []

/-- The wire form of an event, without members that have no value. -/
def encodeEvent (e : DomainEvent) : Json :=
  .obj ([("name", encode e.name), ("occurredAt", encode e.occurredAt),
    ("entityType", encode e.entityType)] ++
    present "entityId" e.entity ++ present "actorRole" e.role ++
    present "actorId" e.actor ++ present "payload" e.payload)

/-- Details are left out for want of any. -/
instance : Wire Fault.Body where
  encode b := .obj ([("code", encode b.code), ("message", encode b.message)] ++
    present "details" b.details)
  decode j := do
    let ms ← members? ["code", "message", "details"] 3 j
    return {
      code := ← required ms "code"
      message := ← required ms "message"
      details := ← optional ms "details" }

end Workforce.Wire
