import Workforce.People
import Workforce.Wire.Basic

/-!
The wire form of actors, organizations and employees.
-/

namespace Workforce.Wire

instance : Wire Actor where
  encode a := .obj
    [("id", encode a.id), ("role", encode a.role),
      ("organization_id", encode a.organization)]
  decode j := do
    let ms ← members? ["id", "role", "organization_id"] 2 j
    return {
      id := ← required ms "id"
      role := ← required ms "role"
      organization := ← optional ms "organization_id" }

instance : Wire Organization where
  encode o := .obj
    [("id", encode o.id), ("name", encode o.name),
      ("created_at", encode o.createdAt)]
  decode j := do
    let ms ← members? ["id", "name", "created_at"] 3 j
    return {
      id := ← required ms "id"
      name := ← required ms "name"
      createdAt := ← required ms "created_at" }

instance : Wire Employee where
  encode e := .obj
    [("id", encode e.id), ("organization_id", encode e.organization),
      ("name", encode e.name), ("email", encode e.email),
      ("active", encode e.active), ("created_at", encode e.createdAt),
      ("updated_at", encode e.updatedAt)]
  decode j := do
    let ms ← members?
      ["id", "organization_id", "name", "email", "active", "created_at",
        "updated_at"] 7 j
    return {
      id := ← required ms "id"
      organization := ← optional ms "organization_id"
      name := ← optional ms "name"
      email := ← optional ms "email"
      active := ← required ms "active"
      createdAt := ← required ms "created_at"
      updatedAt := ← required ms "updated_at" }

end Workforce.Wire
