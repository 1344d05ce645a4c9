import Mathlib.Data.List.DropRight
import Workforce.Proofs.Run

/-!
# The log of decisions says what became of each request

A request, the log of decisions and the ledger are written together when the
request is decided, and the request alone when it is asked for or changed.
This module shows that the log and the requests never disagree, whatever was
done before and whether or not the sinks were in order:

* nothing is logged of a pending request, and it bears no mark of a decision;
* of any other request there is one entry, which says who decided it, how, why
  and when, as the request itself does;
* a request is rejected for a reason, and approved without one;
* the log only grows, and no request is entered twice.

An entry is made for a request that is pending and leaves it decided.  That
the request was not entered before rests on the law itself.
-/

namespace Workforce

/-! ## Trimmed texts -/

namespace Text

theorem trimChars_eq_rdropWhile (cs : List Char) :
    trimChars cs = (cs.dropWhile isBlank).rdropWhile isBlank :=
  rfl

/-- There is nothing to trim where something was trimmed. -/
theorem trimChars_trimChars (cs : List Char) :
    trimChars (trimChars cs) = trimChars cs := by
  have started : (trimChars cs).dropWhile isBlank = trimChars cs := by
    rw [List.dropWhile_eq_self_iff]
    intro nonempty
    have bound : 0 < (cs.dropWhile isBlank).length :=
      Nat.lt_of_lt_of_le nonempty
        (List.rdropWhile_prefix isBlank _).length_le
    -- The first character is also the first behind the leading blanks.
    have first : (trimChars cs)[0] = (cs.dropWhile isBlank)[0] :=
      (List.rdropWhile_prefix isBlank _).getElem nonempty
    rw [first]
    exact List.dropWhile_eq_self_iff.1 (List.dropWhile_idempotent _ _) _
  rw [trimChars_eq_rdropWhile (trimChars cs), started,
    trimChars_eq_rdropWhile, List.rdropWhile_idempotent]

theorem trim_trim (s : String) : trim (trim s) = trim s := by
  simp [trim, trimChars_trimChars]

/-- Of a text without a character that is not blank nothing is left. -/
theorem trim_of_allBlank {s : String} (blank : allBlank s = true) :
    trim s = "" := by
  have dropped : s.toList.dropWhile isBlank = [] := by
    rw [List.dropWhile_eq_nil_iff]
    exact List.all_eq_true.1 blank
  simp [trim, trimChars, dropped]

theorem not_allBlank_trim {s : String} (nonempty : trim s ≠ "") :
    allBlank (trim s) = false := by
  rw [← Bool.not_eq_true]
  intro blank
  apply nonempty
  rw [← trim_trim s]
  exact trim_of_allBlank blank

end Text

/-! ## What the log says of a request -/

namespace LeaveRequest

/-- A request that bears no mark of a decision. -/
structure Undecided (r : LeaveRequest) : Prop where
  reason : r.decisionReason = none
  actor : r.decidedBy = none
  time : r.decidedAt = none

/-- A request that is as a decision left it. -/
structure DecidedBy (r : LeaveRequest) (d : LeaveDecision) : Prop where
  state : r.state = d.action.resultingState
  actor : r.decidedBy = some d.actor
  reason : r.decisionReason = d.reason
  time : r.decidedAt = some d.recordedAt

/-- The reason that an action calls for: a text that is not blank, and trimmed,
for a rejection, and none for an approval. -/
def Reasoned (action : LeaveAction) (reason : Option String) : Prop :=
  match action with
  | .approved => reason = none
  | .rejected => ∃ text, reason = some text ∧
      Text.trim text = text ∧ Text.allBlank text = false
  | .canceled => True

/-- A request and a log that do not disagree. -/
structure Logged (r : LeaveRequest) (log : List LeaveDecision) : Prop where
  /-- Nothing is logged of a pending request. -/
  pending : r.state = .pending →
    log.filter (·.request == r.id) = [] ∧ r.Undecided
  /-- Of another request there is the entry of its decision. -/
  decided : r.state ≠ .pending →
    ∃ d, log.filter (·.request == r.id) = [d] ∧ r.DecidedBy d
  rejected : r.state = .rejected →
    ∃ text, r.decisionReason = some text ∧ Text.trim text = text ∧
      Text.allBlank text = false
  approved : r.state = .approved → r.decisionReason = none

/-- A request that was decided for a proper reason is as its only entry says. -/
theorem logged_of_decision {r : LeaveRequest} {log : List LeaveDecision}
    {d : LeaveDecision} (only : log.filter (·.request == r.id) = [d])
    (decided : r.DecidedBy d) (reasoned : Reasoned d.action d.reason) :
    r.Logged log := by
  obtain ⟨state, actor, reason, time⟩ := decided
  have found : ∃ d, log.filter (·.request == r.id) = [d] ∧ r.DecidedBy d :=
    ⟨d, only, state, actor, reason, time⟩
  have other : ∀ s : LeaveState, s ≠ d.action.resultingState → r.state ≠ s := by
    intro s distinct same
    exact distinct (same.symm.trans state)
  rw [← reason] at reasoned
  cases action : d.action with
  | approved =>
      rw [action] at reasoned other
      exact ⟨fun pending => absurd pending (other _ nofun), fun _ => found,
        fun rejected => absurd rejected (other _ nofun), fun _ => reasoned⟩
  | rejected =>
      rw [action] at reasoned other
      exact ⟨fun pending => absurd pending (other _ nofun), fun _ => found,
        fun _ => reasoned, fun approved => absurd approved (other _ nofun)⟩
  | canceled =>
      rw [action] at other
      exact ⟨fun pending => absurd pending (other _ nofun), fun _ => found,
        fun rejected => absurd rejected (other _ nofun),
        fun approved => absurd approved (other _ nofun)⟩

/-- What is logged of others does not matter to a request. -/
theorem Logged.append {r : LeaveRequest} {log : List LeaveDecision}
    (logged : r.Logged log) {d : LeaveDecision} (foreign : d.request ≠ r.id) :
    r.Logged (log ++ [d]) := by
  have same : (log ++ [d]).filter (·.request == r.id) =
      log.filter (·.request == r.id) := by
    simp [foreign]
  refine ⟨?_, ?_, logged.rejected, logged.approved⟩
  · rw [same]
    exact logged.pending
  · rw [same]
    exact logged.decided

end LeaveRequest

/-- The law of decisions: every request agrees with the log, and every entry
of the log names a request. -/
structure DecisionsAgree (t : Table LeaveRequest)
    (log : List LeaveDecision) : Prop where
  requests : ∀ r ∈ t.rows, r.Logged log
  named : ∀ d ∈ log, ∃ r ∈ t.rows, r.id = d.request

namespace DecisionsAgree

variable {t : Table LeaveRequest} {log : List LeaveDecision}

/-- Nothing is logged under the id of a pending request, or under one that no
request has. -/
theorem silent (law : DecisionsAgree t log) {id : String}
    (pending : ∀ old, t.get? id = some old → old.state = .pending) :
    log.filter (·.request == id) = [] := by
  cases found : t.get? id with
  | some old =>
      have logged := law.requests old (Table.mem_of_get? found)
      have same : old.id = id := Table.key_of_get? found
      rw [← same]
      exact (logged.pending (pending old found)).1
  | none =>
      rw [List.filter_eq_nil_iff]
      intro d member named
      obtain ⟨r, kept, same⟩ := law.named d member
      have here : t.get? r.id = some r := Table.mem_rows_iff.1 kept
      rw [same, beq_iff_eq.1 named, found] at here
      cases here

/-- The requests that entries name are still there when another is put in. -/
private theorem named_put (law : DecisionsAgree t log) (r : LeaveRequest) :
    ∀ d ∈ log, ∃ kept ∈ (t.put r).rows, kept.id = d.request := by
  intro d member
  obtain ⟨old, kept, same⟩ := law.named d member
  by_cases here : old.id = r.id
  · exact ⟨r, Table.mem_rows_put.2 (.inl rfl), here.symm.trans same⟩
  · exact ⟨old, Table.mem_rows_put.2 (.inr ⟨kept, here⟩), same⟩

/-- A pending request may be put in as a new one, or in the place of a pending
one. -/
theorem put_pending (law : DecisionsAgree t log) {r : LeaveRequest}
    (pending : r.state = .pending) (undecided : r.Undecided)
    (replaced : ∀ old, t.get? r.id = some old → old.state = .pending) :
    DecisionsAgree (t.put r) log where
  requests := by
    intro a member
    rcases Table.mem_rows_put.1 member with rfl | ⟨kept, _⟩
    · refine ⟨fun _ => ⟨law.silent replaced, undecided⟩, ?_, ?_, ?_⟩
      · intro decided
        exact absurd pending decided
      · intro rejected
        rw [pending] at rejected
        cases rejected
      · intro _
        exact undecided.reason
    · exact law.requests a kept
  named := law.named_put r

/-- A decided request may take its own place together with its decision. -/
theorem put_decided (law : DecisionsAgree t log) {id : String}
    {existing : LeaveRequest} (found : t.get? id = some existing)
    (pending : existing.state = .pending) (actor : Actor)
    (action : LeaveAction) (reason : Option String)
    (reasoned : LeaveRequest.Reasoned action reason) (now : Instant) :
    DecisionsAgree (t.put (existing.decide actor action reason now))
      (log ++ [existing.decision actor action reason now]) where
  requests := by
    intro a member
    rcases Table.mem_rows_put.1 member with rfl | ⟨kept, other⟩
    · have silent : log.filter (·.request == existing.id) = [] := by
        apply law.silent
        intro old here
        rw [Table.eq_of_get?_key found here]
        exact pending
      refine LeaveRequest.logged_of_decision
        (d := existing.decision actor action reason now) ?_
        ⟨rfl, rfl, rfl, rfl⟩ reasoned
      rw [List.filter_append]
      simp [LeaveRequest.decide, LeaveRequest.decision, silent]
    · exact (law.requests a kept).append (Ne.symm other)
  named := by
    intro d member
    rcases List.mem_append.1 member with earlier | latest
    · exact law.named_put _ d earlier
    · cases List.mem_singleton.1 latest
      exact ⟨_, Table.mem_rows_put.2 (.inl rfl), rfl⟩

/-- Every deed keeps the requests and the log in agreement. -/
theorem deed {ctx : Context} {st : Store} {actor : Actor}
    {scope : TenantScope} {c : Call} {w : Write} {notice : Notice}
    {reply : Reply} (law : DecisionsAgree st.leave st.decisions)
    (new : ctx.NewIds st)
    (does : c.Does ctx st actor scope w notice reply) :
    DecisionsAgree (st.write w).leave (st.write w).decisions := by
  cases does with
  | createLeave permitted span found visible own made free =>
      subst made
      rw [Store.write_decisions rfl]
      refine law.put_pending rfl ⟨rfl, rfl, rfl⟩ ?_
      intro old kept
      have absent := new.leave.symm.trans kept
      cases absent
  | updateLeave permitted found visible pending own made span free =>
      subst made
      rw [Store.write_decisions rfl]
      have marks := (law.requests _ (Table.mem_of_get? found)).pending pending
      refine law.put_pending pending
        ⟨marks.2.reason, marks.2.actor, marks.2.time⟩ ?_
      intro old here
      rw [Table.eq_of_get?_key found here]
      exact pending
  | approveLeave permitted found visible pending =>
      exact law.put_decided found pending actor .approved none rfl ctx.now
  | rejectLeave permitted reasoned found visible pending =>
      exact law.put_decided found pending actor .rejected _
        ⟨_, rfl, Text.trim_trim _, Text.not_allBlank_trim reasoned⟩ ctx.now
  | cancelLeave permitted found visible pending own =>
      exact law.put_decided found pending actor .canceled _ trivial ctx.now
  | _ =>
      -- The other deeds touch neither the requests nor the log.
      rw [Store.write_decisions rfl]
      exact law

theorem of_reachable {st : Store} (reachable : Reachable st) :
    DecisionsAgree st.leave st.decisions := by
  refine Reachable.invariant
    (P := fun st => DecisionsAgree st.leave st.decisions) ?_ ?_ ?_ reachable
  · refine ⟨?_, ?_⟩
    · intro r member
      cases member
    · intro d member
      cases member
  · intro st audit events law
    exact law
  · intro ctx st actor scope c w notice reply law new does
    exact deed law new does

/-- No request is entered twice. -/
theorem nodup (law : DecisionsAgree t log) :
    (log.map LeaveDecision.request).Nodup := by
  rw [List.nodup_iff_count_le_one]
  intro id
  have counted : (log.map LeaveDecision.request).count id =
      (log.filter (·.request == id)).length := by
    rw [List.count_eq_countP, List.countP_map, List.countP_eq_length_filter]
    rfl
  rw [counted]
  by_cases pending : ∀ old, t.get? id = some old → old.state = .pending
  · rw [law.silent pending]
    exact Nat.zero_le 1
  · simp only [not_forall] at pending
    obtain ⟨r, found, decided⟩ := pending
    have same : r.id = id := Table.key_of_get? found
    obtain ⟨d, only, _⟩ :=
      (law.requests r (Table.mem_of_get? found)).decided decided
    rw [← same, only]
    exact Nat.le_refl 1

end DecisionsAgree

/-! ## The log through a run -/

/-- A step adds to the log of decisions at its end, if at all. -/
theorem Step.decisions_grow (s : Step) :
    s.before.decisions <+: s.after.decisions := by
  rcases s.after_cases with
    ⟨_, audit, events, left⟩ |
    ⟨actor, scope, w, notice, reply, audit, events, _, does, left⟩
  · have kept : s.after.decisions = s.before.decisions := by rw [left]
    exact kept ▸ List.prefix_rfl
  · rw [left]
    exact List.prefix_append _ _

/-- What a step of a run found or left in the log is where the log begins
afterwards. -/
theorem Run.decisions_grow {past : List Step} {st : Store}
    (run : Run past st) :
    ∀ s ∈ past, s.before.decisions <+: s.after.decisions ∧
      s.after.decisions <+: st.decisions :=
  Run.relates (R := fun before after => before.decisions <+: after.decisions)
    (fun _ => List.prefix_rfl) List.IsPrefix.trans
    (fun {_ s} _ _ => s.decisions_grow) run

/-- The requests and the log of decisions after any run.  Of a pending request
nothing is logged and it bears no mark of a decision; of any other there is
one entry, and the request is as the entry says.  A rejection has a reason,
which is trimmed and not blank, and an approval has none.  Every entry names a
request, no request is entered twice, and the log only grows at its end. -/
theorem decisions_of_run {past : List Step} {st : Store}
    (run : Run past st) :
    (∀ r ∈ st.leave.rows, r.Logged st.decisions) ∧
      (∀ d ∈ st.decisions, ∃ r ∈ st.leave.rows, r.id = d.request) ∧
      (st.decisions.map LeaveDecision.request).Nodup ∧
      ∀ s ∈ past, s.before.decisions <+: s.after.decisions ∧
        s.after.decisions <+: st.decisions := by
  have law := DecisionsAgree.of_reachable ⟨past, run⟩
  exact ⟨law.requests, law.named, law.nodup, run.decisions_grow⟩

/-- The leave that was approved at last, with the entry that was made of it. -/
theorem decisions_of_officeRun :
    Run officeRun approving.after ∧
      ∃ r ∈ approving.after.leave.rows,
        r.Logged approving.after.decisions ∧
          ∃ d, approving.after.decisions.filter (·.request == r.id) = [d] ∧
            r.DecidedBy d := by
  obtain ⟨r, kept, decided⟩ : ∃ r ∈ approving.after.leave.rows,
      r.state ≠ .pending := by
    decide
  have logged := (decisions_of_run run_officeRun).1 r kept
  exact ⟨run_officeRun, r, kept, logged, logged.decided decided⟩

end Workforce
