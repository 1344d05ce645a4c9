/-!
Tables: rows that are known by a key of their own, at most one for each key.
The laws say which row a key finds after an operation.
-/

namespace Workforce

/-- What is known by a key. -/
class Keyed (α : Type) where
  key : α → String

/-- Rows in the order in which their keys first came, no two with one key. -/
structure Table (α : Type) [Keyed α] where
  rows : List α
  nodup : (rows.map Keyed.key).Nodup

namespace Table

variable {α : Type} [Keyed α]

/-- No rows. -/
def empty : Table α := ⟨[], List.nodup_nil⟩

instance : Inhabited (Table α) := ⟨empty⟩

/-- The row with this key. -/
def get? (t : Table α) (key : String) : Option α :=
  t.rows.find? fun r => Keyed.key r == key

/-- Whether a row has this key. -/
def contains (t : Table α) (key : String) : Bool :=
  (t.get? key).isSome

/-- Rows with one more; a row of the same key gives its place to it. -/
def place (a : α) : List α → List α
  | [] => [a]
  | r :: rest =>
    if Keyed.key r = Keyed.key a then a :: rest else r :: place a rest

theorem mem_keys_place {a : α} {rows : List α} {key : String} :
    key ∈ (place a rows).map Keyed.key ↔
      key = Keyed.key a ∨ key ∈ rows.map Keyed.key := by
  induction rows with
  | nil => simp [place]
  | cons r rest ih =>
    by_cases same : Keyed.key r = Keyed.key a
    · simp [place, same]
    · simp only [place, same, if_false, List.map_cons, List.mem_cons, ih]
      constructor
      · rintro (h | h | h) <;> simp [h]
      · rintro (h | h | h) <;> simp [h]

theorem nodup_place {a : α} {rows : List α}
    (h : (rows.map Keyed.key).Nodup) :
    ((place a rows).map Keyed.key).Nodup := by
  induction rows with
  | nil => simp [place]
  | cons r rest ih =>
    obtain ⟨fresh, others⟩ := List.nodup_cons.1 h
    by_cases same : Keyed.key r = Keyed.key a
    · simp only [place, same, if_true, List.map_cons, List.nodup_cons]
      exact ⟨same ▸ fresh, others⟩
    · simp only [place, same, if_false, List.map_cons, List.nodup_cons]
      refine ⟨?_, ih others⟩
      rw [mem_keys_place]
      rintro (h | h)
      · exact same h
      · exact fresh h

/-- The table with a row added, or put in the place of the row with its
key. -/
def put (t : Table α) (a : α) : Table α :=
  ⟨place a t.rows, nodup_place t.nodup⟩

/-- The table without the row of this key. -/
def erase (t : Table α) (key : String) : Table α where
  rows := t.rows.filter fun r => !(Keyed.key r == key)
  nodup := t.nodup.sublist (List.filter_sublist.map _)

/-! ## Which row a key finds -/

@[simp]
theorem get?_empty (key : String) : (empty : Table α).get? key = none := rfl

theorem key_of_get? {t : Table α} {key : String} {a : α}
    (h : t.get? key = some a) : Keyed.key a = key := by
  simpa using List.find?_some h

theorem mem_of_get? {t : Table α} {key : String} {a : α}
    (h : t.get? key = some a) : a ∈ t.rows :=
  List.mem_of_find?_eq_some h

private theorem find?_place (a : α) (rows : List α) (key : String) :
    ((place a rows).find? fun r => Keyed.key r == key) =
      if Keyed.key a = key then some a
      else rows.find? fun r => Keyed.key r == key := by
  induction rows with
  | nil => by_cases h : Keyed.key a = key <;> simp [place, h]
  | cons r rest ih =>
    by_cases same : Keyed.key r = Keyed.key a
    · by_cases h : Keyed.key a = key <;> simp [place, same, h]
    · by_cases h : Keyed.key a = key
      · have other : Keyed.key r ≠ key := fun e => same (e.trans h.symm)
        simp [place, other, ih, h]
      · by_cases found : Keyed.key r = key
        · have other : key ≠ Keyed.key a := fun e => h e.symm
          simp [place, found, other, h]
        · simp [place, same, found, ih, h]

/-- A row that was put in is found under its key, and nothing else changes. -/
theorem get?_put (t : Table α) (a : α) (key : String) :
    (t.put a).get? key = if Keyed.key a = key then some a else t.get? key :=
  find?_place a t.rows key

/-- A row that was erased is not found, and nothing else changes. -/
theorem get?_erase (t : Table α) (erased key : String) :
    (t.erase erased).get? key =
      if erased = key then none else t.get? key := by
  by_cases h : erased = key
  · subst h
    simp only [get?, erase, if_true, List.find?_eq_none, List.mem_filter]
    rintro r ⟨-, hr⟩
    simpa using hr
  · simp only [get?, erase, h, if_false]
    rw [List.find?_filter]
    congr 1
    funext r
    by_cases found : Keyed.key r = key
    · have other : key ≠ erased := fun e => h e.symm
      simp [found, other]
    · simp [found]

private theorem find?_of_mem {rows : List α} {a : α}
    (nodup : (rows.map Keyed.key).Nodup) (h : a ∈ rows) :
    (rows.find? fun r => Keyed.key r == Keyed.key a) = some a := by
  induction rows with
  | nil => simp at h
  | cons r rest ih =>
    obtain ⟨fresh, others⟩ := List.nodup_cons.1 nodup
    rcases List.mem_cons.1 h with rfl | h
    · simp
    · have other : Keyed.key r ≠ Keyed.key a := fun e =>
        fresh (e ▸ List.mem_map_of_mem h)
      simp [other, ih others h]

/-- The rows of a table are what its keys find. -/
theorem mem_rows_iff {t : Table α} {a : α} :
    a ∈ t.rows ↔ t.get? (Keyed.key a) = some a :=
  ⟨find?_of_mem t.nodup, mem_of_get?⟩

end Table
end Workforce
