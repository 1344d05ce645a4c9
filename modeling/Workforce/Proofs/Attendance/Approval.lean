import Mathlib.Data.List.Perm.Basic
import Workforce.Proofs.Permanence

/-!
# Approved records

A record that is approved stays as it is, and nothing else than an approval
makes it so.  This module shows that the approved records of a store are, up to
their order, those that the steps of its run approved, each of them once.

What became of telling an approval does not matter: a record whose approval
could not be entered in the audit log is approved all the same.
-/

namespace Workforce

/-! ## Rows that pass a test -/

/-- A row that takes the place of none that passes a test is one more that
does, if it passes itself. -/
theorem Table.filter_putAny {α : Type} [Keyed α] {t : Table α}
    {row : Option α} {test : α → Bool}
    (replaced : ∀ a, row = some a → ∀ old,
      t.get? (Keyed.key a) = some old → test old = false) :
    ((t.putAny row).rows.filter test).Perm
      ((row.filter test).toList ++ t.rows.filter test) := by
  cases row with
  | none =>
      exact List.Perm.refl _
  | some a =>
      have fails : ∀ old ∈ t.rows, Keyed.key old = Keyed.key a →
          test old = false := by
        intro old kept same
        apply replaced a rfl
        rw [← same]
        exact mem_rows_iff.1 kept
      have members : ∀ b, b ∈ (t.put a).rows.filter test ↔
          a = b ∧ test b = true ∨ b ∈ t.rows.filter test := by
        intro b
        rw [List.mem_filter, List.mem_filter, mem_rows_put]
        constructor
        · rintro ⟨rfl | ⟨kept, _⟩, passed⟩
          · exact Or.inl ⟨rfl, passed⟩
          · exact Or.inr ⟨kept, passed⟩
        · rintro (⟨rfl, passed⟩ | ⟨kept, passed⟩)
          · exact ⟨Or.inl rfl, passed⟩
          · refine ⟨Or.inr ⟨kept, ?_⟩, passed⟩
            intro same
            rw [fails b kept same] at passed
            cases passed
      -- If the row itself was there and passed, it would replace itself.
      have apart : a ∉ t.rows.filter test := by
        intro member
        obtain ⟨kept, passed⟩ := List.mem_filter.1 member
        rw [fails a kept rfl] at passed
        cases passed
      have once := t.rows_nodup.filter test
      have nodup : (((some a).filter test).toList ++
          t.rows.filter test).Nodup := by
        cases passes : test a with
        | false =>
            simpa [Option.filter, passes] using once
        | true =>
            simpa [Option.filter, passes] using
              List.nodup_cons.2 ⟨apart, once⟩
      refine (List.perm_ext_iff_of_nodup
        ((t.put a).rows_nodup.filter test) nodup).2 ?_
      intro b
      rw [members, List.mem_append, Option.mem_toList,
        Option.filter_eq_some_iff, Option.some.injEq]

/-! ## Approvals -/

/-- Whether a record is approved. -/
def AttendanceRecord.isApproved (r : AttendanceRecord) : Bool :=
  r.state == .approved

/-- The records of a store that are approved. -/
def Store.approved (st : Store) : List AttendanceRecord :=
  st.attendance.rows.filter AttendanceRecord.isApproved

/-- The record that a call approves, by what it comes to. -/
def Call.approval? : Call → Outcome Reply → Option AttendanceRecord
  | .approveRecord _, .ok (.record r) => some r
  | _, _ => none

/-- The record that a step approves, if the approval reached the store. -/
def Step.approval? (s : Step) : Option AttendanceRecord :=
  s.call.approval? (s.call.effect s.ctx s.before).reply

/-- The records that steps approve, in their order. -/
def approvals (past : List Step) : List AttendanceRecord :=
  past.filterMap Step.approval?

/-- The record that a deed leaves approved is the one that it approves. -/
theorem Call.Does.approval_eq {ctx : Context} {st : Store} {actor : Actor}
    {scope : TenantScope} {c : Call} {w : Write} {notice : Notice}
    {reply : Reply} (does : c.Does ctx st actor scope w notice reply) :
    c.approval? (.ok reply) =
      w.record.filter AttendanceRecord.isApproved := by
  cases does with
  | createRecord permitted shift found visible own made =>
      subst made
      rfl
  | @updateRecord id changes existing _ permitted found visible own pending
      shift =>
      have unapproved :
          (existing.amend changes ctx.now).isApproved = false := by
        rw [AttendanceRecord.isApproved, AttendanceRecord.amend, pending]
        rfl
      simp only [approval?, Option.filter_some, unapproved]
      rfl
  | _ =>
      rfl

/-- Only what was not approved is replaced by a deed. -/
theorem Call.Does.replaces_unapproved {ctx : Context} {st : Store}
    {actor : Actor} {scope : TenantScope} {c : Call} {w : Write}
    {notice : Notice} {reply : Reply}
    (does : c.Does ctx st actor scope w notice reply)
    (new : ctx.NewIds st) :
    ∀ r, w.record = some r → ∀ old,
      st.attendance.get? r.id = some old → old.isApproved = false := by
  intro r written old found
  obtain ⟨_, stillOpen⟩ := (does.extends new).record r written old found
  rw [AttendanceRecord.isApproved, beq_eq_false_iff_ne]
  exact fun approved => stillOpen (Or.inl approved)

/-- After a step that record is approved which the step approves, and those
that were before. -/
theorem Step.approved_after {s : Step} (new : s.ctx.NewIds s.before) :
    s.after.approved.Perm (s.approval?.toList ++ s.before.approved) := by
  have left : s.after.approved =
      (s.call.effect s.ctx s.before).store.approved := by
    obtain ⟨audit, events, after⟩ := s.after_eq
    rw [after]
    rfl
  rw [left, Step.approval?]
  have comes := Call.effect_comes s.ctx s.before s.call
  generalize s.call.effect s.ctx s.before = e at comes
  cases comes with
  | failed failure =>
      cases s.call <;> exact List.Perm.refl _
  | looked reply only =>
      cases call : s.call with
      | approveRecord id =>
          rw [call] at only
          cases only
      | _ =>
          exact List.Perm.refl _
  | warned authorized call conflict silent =>
      rw [call]
      exact List.Perm.refl _
  | halted authorized call does beyond =>
      rw [call]
      exact List.Perm.refl _
  | done authorized does =>
      rw [Effect.told, does.approval_eq]
      exact Table.filter_putAny (does.replaces_unapproved new)

/-- The approved records that a run leaves are those that it approves. -/
theorem Run.approved {past : List Step} {st : Store} (run : Run past st) :
    st.approved.Perm (approvals past) := by
  induction run with
  | start =>
      exact List.Perm.refl _
  | @step past s run new inductionHypothesis =>
      have latest := Step.approved_after new
      have earlier : approvals (s :: past) =
          s.approval?.toList ++ approvals past := by
        rw [approvals, List.filterMap_cons]
        cases s.approval? <;> rfl
      rw [earlier]
      exact latest.trans (inductionHypothesis.append_left _)

end Workforce
