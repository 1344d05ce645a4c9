import Workforce.Proofs.Run

/-!
# A call that fails leaves nothing behind

An operation may write before it is sure to succeed: a ledger is opened before
it is settled, and a decision is logged before its days are charged.  This
module shows that no trace of that is left when the call fails:

* a failed call leaves every table, the log of decisions, the ledgers and the
  events as they were;
* so it does with the audit log, but for one entry of a net preview that is
  refused because of the state it met (`Call.previewsNet`);
* lists and lookups change nothing even when they succeed.

That a failed effect carries the unchanged store is `Call.effect_comes`, for
every fault and for every overflow but that of a shift which is assigned and
cannot be divided (`Call.haltsWith`).  What remains is to tell the failures that
are entered in the audit log from those that are not.
-/

namespace Workforce

/-- Whether a call has no value because of the state it met. -/
def Failure.isConflict : Failure → Bool
  | .refused fault => fault.isConflict
  | .overflow _ => false

/-- Whether a call is a preview of net pay. -/
def Call.previewsNet : Call → Bool
  | .previewPayrollWithDeductions _ _ => true
  | _ => false

/-! ## Failures that are not told -/

/-- A net preview that fails without an effect was not refused because of the
state: such a refusal is an effect, with a notice. -/
theorem Service.previewPayrollWithDeductions_eq_error {ctx : Context}
    {st : Store} {input : PreviewInput} {request : DeductionRequest}
    {failure : Failure}
    (failed : previewPayrollWithDeductions ctx st input request =
      .error failure) : failure.isConflict = false := by
  simp only [previewPayrollWithDeductions, Outcome.bind_eq_error,
    requirePreviewer, Actor.require, Actor.requireAny,
    Outcome.ensure_eq_error] at failed
  rcases failed with
    unauthorized | ⟨⟨actor, scope⟩, _, ⟨_, rfl⟩ | ⟨_, _, failed⟩⟩
  · obtain ⟨message, rfl⟩ := Context.authorize_eq_error unauthorized
    rfl
  · rfl
  · split at failed
    · cases failed
    · split at failed
      · cases failed
      · split at failed
        · rename_i fault _
          split at failed
          · cases failed
          · rename_i unconflicted
            cases failed
            exact Bool.not_eq_true _ ▸ unconflicted
        · rename_i result notRefused
          cases failure with
          | refused fault =>
              exact absurd failed (notRefused fault)
          | overflow cause =>
              rfl

/-- A net preview that comes to an effect has something to tell. -/
theorem Service.previewPayrollWithDeductions_told {ctx : Context}
    {st : Store} {input : PreviewInput} {request : DeductionRequest}
    {e : Effect PayrollPreview}
    (passed : previewPayrollWithDeductions ctx st input request = .ok e) :
    e.notice.isSome = true := by
  simp only [previewPayrollWithDeductions, Outcome.bind_eq_ok] at passed
  obtain ⟨⟨actor, scope⟩, _, _, _, passed⟩ := passed
  split at passed
  · cases passed
    rfl
  · split at passed
    · cases passed
      rfl
    · split at passed
      · split at passed
        · cases passed
          rfl
        · exact absurd passed Outcome.refuse_ne_ok
      · obtain ⟨priced, summary, payload, _, _, rfl⟩ :=
          Call.previewNet_eq_ok passed
        rfl

/-- A call that fails silently is no net preview that the state stood in the
way of. -/
theorem Call.not_conflict_of_silent {ctx : Context} {st : Store} {c : Call}
    {failure : Failure}
    (silent : c.effect ctx st = .answer st (.error failure)) :
    (c.previewsNet && failure.isConflict) = false := by
  cases c with
  | previewPayrollWithDeductions input request =>
      have effect : changing st
          (Service.previewPayrollWithDeductions ctx st input request)
          .preview = .answer st (.error failure) :=
        silent
      cases result :
          Service.previewPayrollWithDeductions ctx st input request with
      | error other =>
          rw [result] at effect
          cases effect
          exact Service.previewPayrollWithDeductions_eq_error result
      | ok e =>
          have told := Service.previewPayrollWithDeductions_told result
          rw [result] at effect
          have untold : e.notice = none := congrArg Effect.notice effect
          rw [untold] at told
          cases told
  | _ =>
      rfl

/-! ## Failed calls -/

/-- What a failed call adds to the audit log. -/
structure Call.LeavesBehind (c : Call) (failure : Failure)
    (before after : Store) (entries : List AuditEntry) : Prop where
  /-- Nothing but the audit log is different. -/
  kept : after = { before with audit := before.audit ++ entries }
  /-- Only a net preview that the state stood in the way of is entered. -/
  entered : entries.length =
    if c.previewsNet && failure.isConflict then 1 else 0

/-- What is recorded of a failed effect, with both sinks in order. -/
private theorem leavesBehind_of_comes {ctx : Context} {st : Store} {c : Call}
    {e : Effect Reply} {failure : Failure} (comes : c.Comes ctx st e)
    (failed : e.reply = .error failure)
    (unhalted : c.haltsWith failure = false)
    (silent : e = .answer st (.error failure) →
      (c.previewsNet && failure.isConflict) = false) :
    c.LeavesBehind failure st (e.record .working).2 (e.entries .working) := by
  rw [Effect.record_store]
  cases comes with
  | failed other =>
      have same : other = failure := Except.error.inj failed
      subst same
      refine ⟨?_, ?_⟩
      · simp [Effect.answer, Effect.published]
      · rw [silent rfl]
        rfl
  | looked reply only =>
      cases failed
  | warned authorized call conflict mute =>
      cases failed
      subst call
      refine ⟨?_, ?_⟩
      · simp [Effect.refused, Effect.published, Sinks.working, Notice.event,
          Context.notice, mute]
      · rw [Call.previewsNet, Failure.isConflict, conflict]
        rfl
  | done authorized does =>
      cases failed
  | halted authorized call does beyond =>
      cases failed
      rw [call] at unhalted
      cases unhalted

/-- A list or a lookup comes to an answer and to nothing else. -/
private theorem answer_of_looksOnly {ctx : Context} {st : Store} {c : Call}
    {e : Effect Reply} (comes : c.Comes ctx st e)
    (looks : c.looksOnly = true) : e = .answer st e.reply := by
  cases comes with
  | failed failure =>
      rfl
  | looked reply only =>
      rfl
  | warned authorized call conflict mute =>
      rw [call] at looks
      cases looks
  | done authorized does =>
      cases does <;> cases looks
  | halted authorized call does beyond =>
      rw [call] at looks
      cases looks

/-- With both sinks in order a call that fails, and does not stop half-way,
leaves the store as it was, but for one audit entry if it is a net preview that
the state stood in the way of.  A call that is answered by a fault never stops
half-way.  Lists and lookups leave the store as it was in any case. -/
theorem failed_call_keeps_store (ctx : Context) (st : Store) (c : Call) :
    (∀ failure, (c.perform ctx .working st).1 = .error failure →
      c.haltsWith failure = false →
        ∃ entries, c.LeavesBehind failure st (c.perform ctx .working st).2
          entries) ∧
    (∀ fault, c.haltsWith (.refused fault) = false) ∧
    (c.looksOnly = true →
      ∀ sinks, (c.perform ctx sinks st).2 = st) := by
  have comes := c.effect_comes ctx st
  refine ⟨?_, ?_, ?_⟩
  · intro failure failed unhalted
    have replied := Effect.record_reply (c.effect ctx st) .working
    rw [Effect.answered_of_working] at replied
    exact ⟨_, leavesBehind_of_comes comes (replied.symm.trans failed)
      unhalted Call.not_conflict_of_silent⟩
  · intro fault
    cases c <;> rfl
  · intro looks sinks
    rw [Call.perform, answer_of_looksOnly comes looks]
    rfl

/-- A year that is settled already. -/
def settlingAgain : Call :=
  .settleAccrual ⟨"emp-001", 2026, none, none⟩

/-- A net preview while the feature is off. -/
def previewingNet : Call :=
  .previewPayrollWithDeductions
    ⟨.ofInstant ⟨0⟩, .ofInstant ⟨1⟩, none, none, none⟩
    (.manual ⟨0, 0, 0, .empty⟩)

/-- The second settlement of a year is refused without a trace, and a net
preview with the feature off is refused with one entry in the audit log. -/
theorem failures_of_officeRun :
    (settlingAgain.perform approving.ctx .working approving.after).2 =
        approving.after ∧
      ∃ entry,
        (previewingNet.perform approving.ctx .working approving.after).2 =
          { approving.after with
            audit := approving.after.audit ++ [entry] } := by
  refine ⟨?_, ?_⟩
  · have refused : (settlingAgain.perform approving.ctx .working
        approving.after).1 = Outcome.refuse (.conflict
          "leave accrual already settled for the same or newer year") :=
      rfl
    obtain ⟨entries, kept, entered⟩ :=
      (failed_call_keeps_store approving.ctx approving.after
        settlingAgain).1 _ refused rfl
    rw [List.eq_nil_of_length_eq_zero entered, List.append_nil] at kept
    exact kept
  · have refused : (previewingNet.perform approving.ctx .working
        approving.after).1 = Outcome.refuse (.conflict
          "payroll_deductions_v1 feature flag is disabled") :=
      rfl
    obtain ⟨entries, kept, entered⟩ :=
      (failed_call_keeps_store approving.ctx approving.after
        previewingNet).1 _ refused rfl
    obtain ⟨entry, rfl⟩ := List.length_eq_one_iff.1 entered
    exact ⟨entry, kept⟩

end Workforce
