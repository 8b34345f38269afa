import LightStream.Proofs.PrincipalKeys

/-!
How commands move leases.  A stored lease is ended by a clock, renewed or released by a request that
names it, or left alone; a lease is stored under the identity of the request that admitted it.
-/

namespace LightStream

def GroupCommand.leaseClock : GroupCommand → Option ClockObservation
  | .admitReplayLease _ observation => some observation
  | .renewReplayLease _ observation => some observation
  | .releaseReplayLease _ observation => some observation
  | .maintainRetention _ _ _ _ observation => some observation
  | _ => none

namespace GroupView

variable {view other final : GroupView} {logId : GroupLogId} {clock : SafeLeaseClock}
  {observation : ClockObservation} {command : GroupCommand} {result : ApplyResult}
  {write : WriteBatch}

inductive LeaseMove (view : GroupView) (command : GroupCommand) (lease : ReplayLease) :
    ReplayLease → Prop
  | kept : LeaseMove view command lease lease
  | expired (observation : ClockObservation) (clock : SafeLeaseClock)
      (observed : command.leaseClock = some observation)
      (advanced : view.advanceLeaseClock observation = .ok clock)
      (due : isDue clock lease = true) : LeaseMove view command lease lease.expired
  | renewed (renewal : LeaseRenewal) (observation : ClockObservation) (clock : SafeLeaseClock)
      (renews : command = .renewReplayLease renewal observation) (named : renewal.lease = lease.id)
      (ranged : lease.range.partition = renewal.partition)
      (fresh : view.priorMutationResult renewal.request (.renew renewal) = none)
      (advanced : view.advanceLeaseClock observation = .ok clock) (expiresAt : Nat) :
      LeaseMove view command lease
        { lease with expiresAt, generation := saturatingAdd lease.generation 1 }
  | released (release : LeaseRelease) (observation : ClockObservation) (clock : SafeLeaseClock)
      (releases : command = .releaseReplayLease release observation)
      (named : release.lease = lease.id) (ranged : lease.range.partition = release.partition)
      (fresh : view.priorMutationResult release.request (.release release) = none)
      (advanced : view.advanceLeaseClock observation = .ok clock) :
      LeaseMove view command lease lease.released

theorem LeaseMove.request {lease later : ReplayLease} (move : view.LeaseMove command lease later) :
    later.request = lease.request := by
  cases move <;> rfl

theorem LeaseMove.id {lease later : ReplayLease} (move : view.LeaseMove command lease later) :
    later.id = lease.id := by
  cases move <;> rfl

/-- What a command does to the leases: it moves the stored ones and stores the lease that it
admits. -/
structure LeasesMove (view : GroupView) (command : GroupCommand) (final : GroupView) : Prop where
  moved : ∀ id lease, view.get (.leaseId id) = some lease →
    ∃ later, final.get (.leaseId id) = some later ∧ view.LeaseMove command lease later
  admitted : ∀ (id : ReplayLeaseId) (lease : ReplayLease), view.get (.leaseId id) = none →
    final.get (.leaseId id) = some lease → ∃ request observation,
      command = .admitReplayLease request observation ∧ lease.id = id ∧
        id = .derived request.request ∧ lease.request = request

theorem LeasesMove.congr (moves : view.LeasesMove command other)
    (same : ∀ id : ReplayLeaseId, final.get (.leaseId id) = other.get (.leaseId id)) :
    view.LeasesMove command final := by
  constructor
  · intro id lease stored
    rw [same]
    exact moves.moved id lease stored
  · intro id lease absent stored
    rw [same] at stored
    exact moves.admitted id lease absent stored

theorem leasesMove_refl : view.LeasesMove command view := by
  constructor
  · intro id lease stored
    exact ⟨lease, stored, .kept⟩
  · intro id lease absent stored
    rw [absent] at stored
    simp at stored

theorem expired_moves (listed : view.Listed) (observed : command.leaseClock = some observation)
    (advanced : view.advanceLeaseClock observation = .ok clock) :
    view.LeasesMove command (view.expired clock) := by
  constructor
  · intro id lease stored
    rw [expired_lease listed, stored, Option.map_some]
    by_cases due : isDue clock lease = true
    · rw [if_pos due]
      exact ⟨_, rfl, .expired observation clock observed advanced due⟩
    · rw [if_neg due]
      exact ⟨_, rfl, .kept⟩
  · intro id lease absent stored
    rw [expired_lease listed, absent] at stored
    simp at stored

section Commands

variable {request : MutationRequestId} {fingerprint : MutationFingerprint}
  {decision : SafeLeaseClock → LeaseExpiryState → LeaseDecision}

theorem LeaseCase.leasesMove
    (case : view.LeaseCase request fingerprint observation decision result write)
    (moves : ∀ clock, view.priorMutationResult request fingerprint = none →
      view.advanceLeaseClock observation = .ok clock → view.LeasesMove command
        ((view.expired clock).after (decision clock (view.expireDueLeases clock)).2)) :
    view.LeasesMove command (view.after write.state) := by
  cases case with
  | answered => exact leasesMove_refl
  | unclocked =>
      refine leasesMove_refl.congr fun id => ?_
      exact after_get_of_within (storeMutationResult_within _ _ _) (by simp [StateKey.family])
  | decided fresh clock advanced =>
      refine (moves clock fresh advanced).congr fun id => ?_
      exact LeaseCase.decided_get (by simp [StateKey.family])

theorem stored_moves {id : ReplayLeaseId} {lease : ReplayLease} {families : List StateFamily}
    {rest : StateBatch} (listed : view.Listed) (observed : command.leaseClock = some observation)
    (advanced : view.advanceLeaseClock observation = .ok clock)
    (within : Within families rest) (outside : StateFamily.lease ∉ families)
    (moved : ∀ old, view.get (.leaseId id) = some old → view.LeaseMove command old lease)
    (admitted : view.get (.leaseId id) = none → ∃ request observation,
      command = .admitReplayLease request observation ∧ lease.id = id ∧
        id = .derived request.request ∧ lease.request = request) :
    view.LeasesMove command ((view.expired clock).after (.put (.leaseId id) lease :: rest)) := by
  have expiry : view.LeasesMove command (view.expired clock) :=
    expired_moves listed observed advanced
  constructor
  · intro other old stored
    rw [storeLease_get within outside]
    split
    · rename_i own
      subst own
      exact ⟨lease, rfl, moved old stored⟩
    · exact expiry.moved other old stored
  · intro other later absent stored
    rw [storeLease_get within outside] at stored
    split at stored
    · rename_i own
      subst own
      cases stored
      exact admitted absent
    · exact expiry.admitted other later absent stored

theorem applyAdmitReplayLease_moves {admission : ReplayLeaseRequest} (listed : view.Listed)
    (requested : view.Requested)
    (done : view.applyAdmitReplayLease admission observation = .ok (result, write)) :
    view.LeasesMove (.admitReplayLease admission observation) (view.after write.state) := by
  refine (applyAdmitReplayLease_case done).leasesMove fun clock fresh advanced => ?_
  have case := @admitDecision_case view clock (view.expireDueLeases clock) admission
  generalize view.admitDecision admission clock (view.expireDueLeases clock) = decision at case ⊢
  cases case with
  | refused => exact expired_moves listed rfl advanced
  | admitted bytes lease sized admits =>
      obtain ⟨id, same, _⟩ := admit_ok admits
      refine stored_moves listed rfl advanced (show Within [.leaseRequest, .leaseBudget, .leaseClock] _ by
        simp [StateKey.family]) (by decide) ?_ ?_
      · intro old stored
        rw [id, requested.unadmitted fresh] at stored
        simp at stored
      · intro _
        exact ⟨admission, observation, rfl, rfl, id, same⟩

theorem renewDecision_ranged {renewal : LeaseRenewal} {lease renewed : ReplayLease}
    {writes : StateBatch} (stored : view.get (.leaseId renewal.lease) = some lease)
    (granted : view.renewDecision renewal clock = (.replayLease renewed, writes)) :
    lease.range.partition = renewal.partition := by
  unfold renewDecision at granted
  rw [stored] at granted
  dsimp only at granted
  split at granted
  · simp at granted
  · rename_i ranged
    exact not_not.mp ranged

theorem releaseDecision_ranged {release : LeaseRelease} {expiry : LeaseExpiryState}
    {lease released : ReplayLease} {writes : StateBatch}
    (stored : view.get (.leaseId release.lease) = some lease)
    (granted : view.releaseDecision release clock expiry = (.replayLease released, writes)) :
    lease.range.partition = release.partition := by
  unfold releaseDecision at granted
  rw [stored] at granted
  dsimp only at granted
  split at granted
  · simp at granted
  · rename_i ranged
    exact not_not.mp ranged

theorem applyRenewReplayLease_moves {renewal : LeaseRenewal} (listed : view.Listed)
    (done : view.applyRenewReplayLease renewal observation = .ok (result, write)) :
    view.LeasesMove (.renewReplayLease renewal observation) (view.after write.state) := by
  refine (applyRenewReplayLease_case done).leasesMove fun clock fresh advanced => ?_
  have case := @renewDecision_case view clock renewal
  generalize granted : view.renewDecision renewal clock = decision at case ⊢
  cases case with
  | refused => exact expired_moves listed rfl advanced
  | renewed lease renewed expiresAt stored effective later renews =>
      obtain ⟨same, _⟩ := renewed_kept renews
      refine stored_moves listed rfl advanced (show Within [.leaseClock] _ by simp [StateKey.family])
        (by decide) ?_ ?_
      · intro old found
        obtain rfl : lease = old := Option.some.inj (stored.symm.trans found)
        rw [same]
        exact .renewed renewal observation clock rfl (listed.keyed _ _ stored).symm
          (renewDecision_ranged stored granted) fresh advanced expiresAt
      · intro absent
        rw [absent] at stored
        simp at stored

theorem applyReleaseReplayLease_moves {release : LeaseRelease} (listed : view.Listed)
    (done : view.applyReleaseReplayLease release observation = .ok (result, write)) :
    view.LeasesMove (.releaseReplayLease release observation) (view.after write.state) := by
  refine (applyReleaseReplayLease_case done).leasesMove fun clock fresh advanced => ?_
  have case := @releaseDecision_case view clock (view.expireDueLeases clock) release
  generalize granted : view.releaseDecision release clock (view.expireDueLeases clock) = decision
    at case ⊢
  cases case with
  | refused => exact expired_moves listed rfl advanced
  | released lease stored effective =>
      have rest := @releaseWrites_within view (view.expireDueLeases clock) lease
        ⟨(view.expireDueLeases clock).budget.activeLeases - 1,
          (view.expireDueLeases clock).budget.reservedBytes - lease.protectedBytes⟩ clock
      refine stored_moves listed rfl advanced rest (by decide) ?_ ?_
      · intro old found
        obtain rfl : lease = old := Option.some.inj (stored.symm.trans found)
        exact .released release observation clock rfl (listed.keyed _ _ stored).symm
          (releaseDecision_ranged stored granted) fresh advanced
      · intro absent
        rw [absent] at stored
        simp at stored

theorem reclaimStep_appends {partition : PartitionKey} {ranges : List ReplayRange}
    {maxPayloadBytes : Nat} {reclaim next : ReclaimState}
    (done : view.reclaimStep partition ranges maxPayloadBytes reclaim = .ok (some next)) :
    ∃ added, next.write.state = reclaim.write.state ++ added ∧ Within [.record] added := by
  unfold reclaimStep at done
  dsimp only at done
  split at done
  · cases done
    exact ⟨[], (List.append_nil _).symm, within_nil _⟩
  split at done
  · cases done
    exact ⟨[], (List.append_nil _).symm, within_nil _⟩
  split at done
  · simp at done
  split at done
  · simp at done
  · cases done
    exact ⟨_, rfl, by simp [StateKey.family]⟩

theorem reclaimLoop_appends {partition : PartitionKey} {ranges : List ReplayRange}
    {maxRecords maxPayloadBytes : Nat} : ∀ {fuel : Nat} {reclaim after : ReclaimState},
      view.reclaimLoop partition ranges maxRecords maxPayloadBytes fuel reclaim = .ok after →
      ∃ added, after.write.state = reclaim.write.state ++ added ∧ Within [.record] added := by
  intro fuel
  induction fuel with
  | zero =>
      intro reclaim after looped
      cases looped
      exact ⟨[], (List.append_nil _).symm, within_nil _⟩
  | succ fuel ih =>
      intro reclaim after looped
      rw [reclaimLoop] at looped
      split at looped
      · split at looped
        · simp at looped
        · cases looped
          exact ⟨[], (List.append_nil _).symm, within_nil _⟩
        · rename_i next stepped
          obtain ⟨first, appended, within⟩ := reclaimStep_appends stepped
          obtain ⟨rest, extended, others⟩ := ih looped
          refine ⟨first ++ rest, ?_, within_append.mpr ⟨within, others⟩⟩
          rw [extended, appended, List.append_assoc]
      · cases looped
        exact ⟨[], (List.append_nil _).symm, within_nil _⟩

theorem applyMaintainRetention_moves {partition : PartitionKey}
    {expectedCursor maxRecords maxPayloadBytes : Nat} (listed : view.Listed)
    (observed : command.leaseClock = some observation)
    (done : view.applyMaintainRetention partition expectedCursor maxRecords maxPayloadBytes
      observation = .ok (result, write)) :
    view.LeasesMove command (view.after write.state) := by
  rcases applyMaintainRetention_looped done with rfl | ⟨clock, after, _, advanced, looped, _, rfl⟩
  · exact leasesMove_refl
  obtain ⟨added, appended, within⟩ := reclaimLoop_appends looped
  have rest : Within [.record, .retention, .leaseClock]
      (added ++ [.put (.retention partition) after.retention, .put .leaseClock clock]) := by
    rw [within_append]
    exact ⟨within.mono (by decide), by simp [StateKey.family]⟩
  refine (expired_moves listed observed advanced).congr fun id => ?_
  dsimp only
  rw [appended, List.append_assoc, after_append]
  exact after_get_of_within rest (by simp [StateKey.family])

end Commands

theorem dispatch_leasesMove (listed : view.Listed) (requested : view.Requested)
    (done : view.dispatch logId command = .ok (result, write)) :
    view.LeasesMove command (view.after write.state) := by
  have quiet (outside : StateFamily.lease ∉ command.families) :
      view.LeasesMove command (view.after write.state) := by
    refine leasesMove_refl.congr fun id => ?_
    exact after_get_of_within (dispatch_within command result write done) outside
  cases command with
  | admitReplayLease request observation =>
      exact applyAdmitReplayLease_moves listed requested done
  | renewReplayLease request observation => exact applyRenewReplayLease_moves listed done
  | releaseReplayLease request observation => exact applyReleaseReplayLease_moves listed done
  | maintainRetention => exact applyMaintainRetention_moves listed rfl done
  | publish | publishMany => exact quiet (show StateFamily.lease ∉ publishAllFamilies by decide)
  | exportProtocol command => cases command <;> exact quiet (by simp [GroupCommand.families])
  | _ => exact quiet (by simp [GroupCommand.families])

structure LeasesNamed (view : GroupView) : Prop where
  named : ∀ id lease, view.get (.leaseId id) = some lease →
    lease.id = id ∧ id = .derived lease.request.request
  requested : view.Requested

theorem leasesNamed_empty (empty : ∀ key, view.get key = none) : view.LeasesNamed := by
  constructor
  · intro id lease stored
    rw [empty] at stored
    simp at stored
  · intro id present
    rw [empty] at present
    simp at present

def namedFamilies : List StateFamily := [.lease, .mutation]

theorem LeasesNamed.congr (named : view.LeasesNamed)
    (same : ∀ key : StateKey, key.family ∈ namedFamilies → other.get key = view.get key) :
    other.LeasesNamed := by
  have lease (id : ReplayLeaseId) : other.get (.leaseId id) = view.get (.leaseId id) :=
    same _ (by simp [StateKey.family, namedFamilies])
  constructor
  · intro id stored found
    rw [lease] at found
    exact named.named id stored found
  · refine named.requested.kept (fun key inside => same key (by simp [inside, namedFamilies])) ?_
    intro id present
    rwa [lease] at present

theorem LeasesNamed.listed {db : GroupDb} (named : db.view.LeasesNamed) : db.view.Listed where
  leases := fun _ => mem_scanLeases
  hints := fun _ _ => mem_scanHints
  keyed := fun id lease stored => (named.named id lease stored).1

theorem LeasesMove.named (named : view.LeasesNamed) (moves : view.LeasesMove command final) :
    ∀ id lease, final.get (.leaseId id) = some lease →
      lease.id = id ∧ id = .derived lease.request.request := by
  intro id lease stored
  cases found : view.get (.leaseId id) with
  | none =>
      obtain ⟨request, observation, _, own, derived, same⟩ := moves.admitted id lease found stored
      rw [same]
      exact ⟨own, derived⟩
  | some old =>
      obtain ⟨later, reached, move⟩ := moves.moved id old found
      obtain rfl : later = lease := Option.some.inj (reached.symm.trans stored)
      rw [move.id, move.request]
      exact named.named id old found

theorem dispatch_leasesNamed (listed : view.Listed) (named : view.LeasesNamed)
    (done : view.dispatch logId command = .ok (result, write)) :
    (view.after write.state).LeasesNamed := by
  have moves := dispatch_leasesMove listed named.requested done
  have earlier {request : MutationRequestId} {fingerprint : MutationFingerprint}
      (carries : command.mutation = some (request, fingerprint)) (id : ReplayLeaseId)
      (present : ((view.after write.state).get (.leaseId id)).isSome = true) :
      id = .derived request ∨ (view.get (.leaseId id)).isSome = true := by
    cases found : view.get (.leaseId id) with
    | some old => exact .inr rfl
    | none =>
        obtain ⟨lease, stored⟩ := Option.isSome_iff_exists.mp present
        obtain ⟨admission, observation, rfl, _, derived, _⟩ := moves.admitted id lease found stored
        cases carries
        exact .inl derived
  refine ⟨moves.named named, ?_⟩
  cases carries : command.mutation with
  | none =>
      refine named.requested.kept (dispatch_unmutated carries done) fun id present => ?_
      cases found : view.get (.leaseId id) with
      | some old => rfl
      | none =>
          obtain ⟨lease, stored⟩ := Option.isSome_iff_exists.mp present
          obtain ⟨admission, observation, rfl, _⟩ := moves.admitted id lease found stored
          cases carries
  | some carried =>
      obtain ⟨request, fingerprint⟩ := carried
      have present := earlier carries
      cases dispatch_mutation carries done with
      | silent => exact named.requested
      | stored fresh result writes apart =>
          rw [after_append]
          refine named.requested.recorded fresh apart fun id stored => present id ?_
          dsimp only
          rw [after_append, after_get_of_within (storeMutationResult_within _ _ _)
            (by simp [StateKey.family])]
          exact stored

end GroupView

namespace GroupDb

variable {identity : GroupIdentity} {window : Nat} {content : PayloadId → Record}
  {Allowed : GroupDb → GroupEntry → Prop} {history : List GroupEntry} {db : GroupDb}

theorem Ran.leasesNamed (ran : Ran identity window content Allowed history db) :
    db.view.LeasesNamed := by
  refine @Ran.upheld identity window content Allowed history db GroupView.LeasesNamed
    GroupView.namedFamilies (by decide) ?_ GroupView.leasesNamed_empty ?_ ran
  · intro view other named same
    exact named.congr same
  · intro history db logId command result write ran named due allowed free done
    exact GroupView.dispatch_leasesNamed named.listed named done

end GroupDb

end LightStream
