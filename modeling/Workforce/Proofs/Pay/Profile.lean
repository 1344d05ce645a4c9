import Workforce.Proofs.Run

/-!
# The versions of a deduction profile

A profile is written as a whole by each upsert that reaches the store, and
nothing else writes it.  So the profile that is kept under an id is given by
the upserts of the id (`DeductionProfile.ofWritings`):

* the version is their number;
* the owner and the time of creation are those of the first;
* all the rest is that of the latest.

An upsert that is refused, such as one from another organization, does not
count.  One that is kept counts even if telling of it fails.
-/

namespace Workforce

open Service

/-! ## Upserts that reached the store -/

/-- The organization to which the caller is confined, if to any. -/
def Context.home? (ctx : Context) : Option String :=
  match ctx.authorize with
  | .ok (_, scope) => scope.organization?
  | .error _ => none

/-- An upsert of a profile: for which organization, of what, and when. -/
structure ProfileWriting where
  organization : Option String
  input : ProfileInput
  time : Instant
deriving DecidableEq, Repr

namespace Step

/-- The upsert of a profile that a step is, if it reached the store.  What
became of telling it does not matter. -/
def writing? (p : String) (s : Step) : Option ProfileWriting :=
  match s.call, (s.call.effect s.ctx s.before).reply with
  | .upsertProfile id input, .ok _ =>
    if Text.trim id = p then some ⟨s.ctx.home?, input, s.ctx.now⟩
    else none
  | _, _ => none

end Step

/-- The upserts of a profile that reached the store, the latest first. -/
def writings (p : String) (past : List Step) : List ProfileWriting :=
  past.filterMap (Step.writing? p)

/-- The profile that upserts leave, which are given the latest first. -/
def profileOf (p : String) : List ProfileWriting → Option DeductionProfile
  | [] => none
  | latest :: earlier =>
    let first := earlier.getLastD latest
    some
      { id := p
        organization := first.organization
        name := Text.trim latest.input.name
        mode := latest.input.mode
        withholdingRate := latest.input.withholdingRate
        socialInsuranceRate := latest.input.socialInsuranceRate
        fixedOther := latest.input.fixedOther
        active := latest.input.active
        version := (latest :: earlier).length
        createdAt := first.time
        updatedAt := latest.time }

/-! ## One step -/

/-- What the store keeps of a draft is what the upserts leave with one more. -/
theorem drafted_eq_profileOf {st : Store} {scope : TenantScope} {id : String}
    {ws : List ProfileWriting} {w : ProfileWriting}
    (owner : w.organization = scope.organization?)
    (kept : st.profiles.get? (Text.trim id) =
      profileOf (Text.trim id) ws) :
    some (st.drafted (w.input.toDraft id scope) w.time) =
      profileOf (Text.trim id) (w :: ws) := by
  unfold Store.drafted
  simp only [ProfileInput.toDraft, kept]
  cases ws with
  | nil =>
      simp [profileOf, Store.ProfileDraft.create, owner]
  | cons latest earlier =>
      simp only [profileOf, Store.ProfileDraft.revise,
        Store.ProfileDraft.create, List.getLastD_cons, List.length_cons]
      push_cast
      rfl

/-- An upsert of a profile, by a caller within a scope, that passed its
checks. -/
structure Step.Writes (s : Step) (id : String) (w : ProfileWriting)
    (scope : TenantScope) : Prop where
  call : s.call = .upsertProfile id w.input
  authorized : ∃ actor, s.ctx.authorize = .ok (actor, scope)
  owner : w.organization = scope.organization?
  time : w.time = s.ctx.now
  valid : ensureProfile id w.input = .ok ()
  store : (s.call.effect s.ctx s.before).store =
    s.before.write
      { profile := some (s.before.drafted (w.input.toDraft id scope) w.time) }

namespace Step

variable {s : Step} {p : String}

/-- What an upsert that reached the store has done there. -/
theorem writes_of_writing? {w : ProfileWriting}
    (writing : s.writing? p = some w) :
    ∃ id scope, Text.trim id = p ∧ s.Writes id w scope := by
  have comes := Call.effect_comes s.ctx s.before s.call
  unfold writing? at writing
  split at writing
  · rename_i id input reply call replied
    split at writing
    · rename_i named
      cases writing
      generalize effect : s.call.effect s.ctx s.before = e at comes replied
      cases comes with
      | failed failure =>
          cases replied
      | looked reply only =>
          rw [call] at only
          cases only
      | warned authorized other conflict silent =>
          rw [call] at other
          cases other
      | halted authorized other does beyond =>
          rw [call] at other
          cases other
      | @done actor scope _ _ _ authorized does =>
          rw [call] at does
          cases does with
          | upsertProfile permitted valid within made =>
              subst made
              refine ⟨id, scope, named, call, ⟨actor, authorized⟩, ?_, rfl,
                valid, ?_⟩
              · simp only [Context.home?, authorized]
              · rw [effect]
                rfl
    · cases writing
  · cases writing

/-- Any other step leaves the profile as it was. -/
theorem profile_unchanged (other : s.writing? p = none) :
    s.after.profiles.get? p = s.before.profiles.get? p := by
  obtain ⟨audit, events, left⟩ := s.after_eq
  have comes := Call.effect_comes s.ctx s.before s.call
  unfold writing? at other
  rw [left]
  generalize s.call.effect s.ctx s.before = e at comes other
  cases comes with
  | failed failure =>
      rfl
  | looked reply only =>
      rfl
  | warned authorized call conflict silent =>
      rfl
  | halted authorized call does beyond =>
      rfl
  | done authorized does =>
      generalize s.call = call at does other
      cases does with
      | @upsertProfile id input profile payload permitted valid within made =>
          have elsewhere : Text.trim id ≠ p := by
            intro here
            simp [Effect.told, here] at other
          have key : Keyed.key profile = Text.trim id := by
            rw [made]
            exact Store.drafted_id _ _ _
          exact Table.get?_put_of_ne _ (key ▸ elsewhere)
      | _ =>
          rfl

/-- A step leaves the profile that the upserts leave with the one that the
step is, if it is one. -/
theorem profile_after {ws : List ProfileWriting}
    (kept : s.before.profiles.get? p = profileOf p ws) :
    s.after.profiles.get? p =
      profileOf p ((s.writing? p).toList ++ ws) := by
  cases writing : s.writing? p with
  | none =>
      rw [profile_unchanged writing]
      exact kept
  | some w =>
      obtain ⟨id, scope, rfl, writes⟩ := writes_of_writing? writing
      obtain ⟨audit, events, left⟩ := s.after_eq
      rw [left, writes.store]
      refine Eq.trans ?_ (drafted_eq_profileOf writes.owner kept)
      have key := Store.drafted_id s.before (w.input.toDraft id scope) w.time
      refine Eq.trans ?_ (Table.get?_put_self s.before.profiles _)
      exact congrArg _ key.symm

end Step

/-! ## Runs -/

theorem writings_cons (p : String) (s : Step) (past : List Step) :
    writings p (s :: past) = (s.writing? p).toList ++ writings p past := by
  unfold writings
  cases writing : s.writing? p with
  | none =>
      simp [writing]
  | some w =>
      simp [writing]

/-- The profile that is kept after a run is the one that the upserts leave. -/
theorem Run.profile {past : List Step} {st : Store} (run : Run past st)
    (p : String) : st.profiles.get? p = profileOf p (writings p past) := by
  induction run with
  | start =>
      rfl
  | @step past s run new inductionHypothesis =>
      rw [writings_cons]
      exact s.profile_after inductionHypothesis

/-- The profile stays, with its owner and the time of its creation. -/
def KeepsOrigin (before after : Option DeductionProfile) : Prop :=
  ∀ old, before = some old → ∃ new, after = some new ∧
    new.organization = old.organization ∧ new.createdAt = old.createdAt

theorem KeepsOrigin.refl (profile : Option DeductionProfile) :
    KeepsOrigin profile profile :=
  fun old kept => ⟨old, kept, rfl, rfl⟩

theorem KeepsOrigin.trans {first second third : Option DeductionProfile}
    (left : KeepsOrigin first second) (right : KeepsOrigin second third) :
    KeepsOrigin first third := by
  intro old kept
  obtain ⟨new, found, owner, time⟩ := left old kept
  obtain ⟨latest, here, sameOwner, sameTime⟩ := right new found
  exact ⟨latest, here, sameOwner.trans owner, sameTime.trans time⟩

/-- One more upsert keeps the origin. -/
theorem keepsOrigin_cons (p : String) (w : ProfileWriting)
    (ws : List ProfileWriting) :
    KeepsOrigin (profileOf p ws) (profileOf p (w :: ws)) := by
  cases ws with
  | nil =>
      intro old kept
      cases kept
  | cons latest earlier =>
      rintro old ⟨⟩
      exact ⟨_, rfl, by rw [List.getLastD_cons], by rw [List.getLastD_cons]⟩

/-- In a run each step keeps the origin of a profile, and so do all that come
after it. -/
theorem Run.keepsOrigin {past : List Step} {st : Store} (run : Run past st)
    (p : String) :
    ∀ s ∈ past,
      KeepsOrigin (s.before.profiles.get? p) (s.after.profiles.get? p) ∧
        KeepsOrigin (s.after.profiles.get? p) (st.profiles.get? p) := by
  refine Run.relates
    (R := fun before after =>
      KeepsOrigin (before.profiles.get? p) (after.profiles.get? p))
    (fun _ => KeepsOrigin.refl _) KeepsOrigin.trans ?_ run
  intro past last run _
  have kept := run.profile p
  rw [last.profile_after kept, kept]
  cases last.writing? p with
  | none =>
      exact KeepsOrigin.refl _
  | some w =>
      exact keepsOrigin_cons p w _

/-- The rates of a profile that is kept are between zero and one. -/
theorem Run.rates {past : List Step} {st : Store} (run : Run past st)
    {p : String} {profile : DeductionProfile}
    (found : st.profiles.get? p = some profile) :
    profile.withholdingRate.all Decimal.isFraction = true ∧
      profile.socialInsuranceRate.all Decimal.isFraction = true := by
  rw [run.profile p] at found
  cases written : writings p past with
  | nil =>
      rw [written] at found
      cases found
  | cons latest earlier =>
      rw [written] at found
      cases found
      have member : latest ∈ writings p past := by
        rw [written]
        exact List.mem_cons_self
      obtain ⟨s, _, writing⟩ := List.mem_filterMap.1 member
      obtain ⟨id, scope, _, writes⟩ := Step.writes_of_writing? writing
      have valid := writes.valid
      simp only [ensureProfile, ensureRate, Outcome.bind_eq_ok,
        Outcome.ensure_eq_ok] at valid
      obtain ⟨_, _, _, _, _, withholding, _, social, _⟩ := valid
      exact ⟨withholding, social⟩

end Workforce
