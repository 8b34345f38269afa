import LightStream.Proofs.ExportMoves
import LightStream.Proofs.Fence
import LightStream.Proofs.LeaseMoves
import LightStream.Proofs.RecordMoves

/-!
What a data group keeps over its history: no record is rewritten or comes back, a fence that is
gone stays gone, and a lease that has ended stays as it ended.
-/

namespace LightStream

structure ReplayLease.Lasts (lease later : ReplayLease) : Prop where
  id : later.id = lease.id
  request : later.request = lease.request
  protectedBytes : later.protectedBytes = lease.protectedBytes
  hardExpiresAt : later.hardExpiresAt = lease.hardExpiresAt
  expiresAt : lease.expiresAt ≤ later.expiresAt
  extended : later.expiresAt = lease.expiresAt ∨ later.expiresAt ≤ lease.hardExpiresAt
  ended : lease.lifecycle ≠ .active → later = lease

theorem ReplayLease.lasts_refl (lease : ReplayLease) : lease.Lasts lease :=
  ⟨rfl, rfl, rfl, rfl, le_rfl, .inl rfl, fun _ => rfl⟩

theorem ReplayLease.Lasts.trans {lease later last : ReplayLease} (first : lease.Lasts later)
    (second : later.Lasts last) : lease.Lasts last := by
  constructor
  · exact second.id.trans first.id
  · exact second.request.trans first.request
  · exact second.protectedBytes.trans first.protectedBytes
  · exact second.hardExpiresAt.trans first.hardExpiresAt
  · exact first.expiresAt.trans second.expiresAt
  · have hard := first.hardExpiresAt
    have former := first.extended
    have latter := second.extended
    omega
  · intro ended
    obtain rfl := first.ended ended
    exact second.ended ended

namespace GroupView

variable {view other final : GroupView} {logId : GroupLogId} {clock : SafeLeaseClock}
  {observation : ClockObservation} {result : ApplyResult} {write : WriteBatch}

def LeasesLast (view final : GroupView) : Prop :=
  ∀ id lease, view.get (.leaseId id) = some lease →
    ∃ later, final.get (.leaseId id) = some later ∧ lease.Lasts later

theorem leasesLast_refl : view.LeasesLast view :=
  fun _ lease stored => ⟨lease, stored, lease.lasts_refl⟩

theorem LeasesLast.congr (lasts : view.LeasesLast other)
    (same : ∀ id : ReplayLeaseId, final.get (.leaseId id) = other.get (.leaseId id)) :
    view.LeasesLast final := by
  intro id lease stored
  rw [same]
  exact lasts id lease stored

theorem due_lasts {lease : ReplayLease} (due : isDue clock lease = true) :
    lease.Lasts lease.expired := by
  have active : lease.lifecycle = .active := by
    simp only [isDue, Bool.and_eq_true, decide_eq_true_eq] at due
    exact due.1
  exact ⟨rfl, rfl, rfl, rfl, le_rfl, .inl rfl, fun ended => absurd active ended⟩

theorem expired_lasts (listed : view.Listed) : view.LeasesLast (view.expired clock) := by
  intro id lease stored
  rw [expired_lease listed, stored, Option.map_some]
  by_cases due : isDue clock lease = true
  · rw [if_pos due]
    exact ⟨_, rfl, due_lasts due⟩
  · rw [if_neg due]
    exact ⟨_, rfl, lease.lasts_refl⟩

theorem stored_lasts {id : ReplayLeaseId} {lease later : ReplayLease}
    {families : List StateFamily} {rest : StateBatch} (listed : view.Listed)
    (within : Within families rest) (outside : StateFamily.lease ∉ families)
    (stored : view.get (.leaseId id) = some lease) (lasts : lease.Lasts later) :
    view.LeasesLast ((view.expired clock).after (.put (.leaseId id) later :: rest)) := by
  intro other old found
  rw [storeLease_get within outside]
  by_cases own : other = id
  · subst own
    obtain rfl : lease = old := Option.some.inj (stored.symm.trans found)
    rw [if_pos rfl]
    exact ⟨later, rfl, lasts⟩
  · rw [if_neg own]
    exact expired_lasts listed other old found

theorem effective_active {lease : ReplayLease}
    (effective : leaseIsEffectivelyActive lease clock = true) : lease.lifecycle = .active := by
  unfold leaseIsEffectivelyActive at effective
  simp only [Bool.and_eq_true, decide_eq_true_eq] at effective
  exact effective.1.1

theorem LeaseCase.lasts {request : MutationRequestId} {fingerprint : MutationFingerprint}
    {decision : SafeLeaseClock → LeaseExpiryState → LeaseDecision}
    (case : view.LeaseCase request fingerprint observation decision result write)
    (decided : ∀ clock, view.LeasesLast
      ((view.expired clock).after (decision clock (view.expireDueLeases clock)).2)) :
    view.LeasesLast (view.after write.state) := by
  cases case with
  | answered => exact leasesLast_refl
  | unclocked =>
      refine leasesLast_refl.congr fun id => ?_
      exact after_get_of_within (storeMutationResult_within _ _ _) (by simp [StateKey.family])
  | decided fresh clock advanced =>
      refine (decided clock).congr fun id => ?_
      exact LeaseCase.decided_get (by simp [StateKey.family])

theorem RenewCase.lasts {renewal : LeaseRenewal} {decision : LeaseDecision}
    (listed : view.Listed) (case : view.RenewCase renewal clock decision) :
    view.LeasesLast ((view.expired clock).after decision.2) := by
  cases case with
  | refused => exact expired_lasts listed
  | renewed lease renewed expiresAt stored effective later renews =>
      obtain ⟨rfl, active, longer, below⟩ := renewed_kept renews
      refine stored_lasts listed (show Within [.leaseClock] _ by simp [StateKey.family])
        (by decide) stored ?_
      exact ⟨rfl, rfl, rfl, rfl, longer.le, .inr below, fun ended => absurd active ended⟩

theorem ReleaseCase.lasts {release : LeaseRelease} {decision : LeaseDecision}
    (listed : view.Listed)
    (case : view.ReleaseCase release clock (view.expireDueLeases clock) decision) :
    view.LeasesLast ((view.expired clock).after decision.2) := by
  cases case with
  | refused => exact expired_lasts listed
  | released lease stored effective =>
      have rest := @releaseWrites_within view (view.expireDueLeases clock) lease
        ⟨(view.expireDueLeases clock).budget.activeLeases - 1,
          (view.expireDueLeases clock).budget.reservedBytes - lease.protectedBytes⟩ clock
      refine stored_lasts listed rest (by decide) stored ?_
      exact ⟨rfl, rfl, rfl, rfl, le_rfl, .inl rfl,
        fun ended => absurd (effective_active effective) ended⟩

theorem dispatch_leasesLast {command : GroupCommand} (listed : view.Listed)
    (requested : view.Requested) (done : view.dispatch logId command = .ok (result, write)) :
    view.LeasesLast (view.after write.state) := by
  have moves := dispatch_leasesMove listed requested done
  cases command with
  | renewReplayLease renewal observation =>
      refine (applyRenewReplayLease_case done).lasts fun clock => ?_
      exact (renewDecision_case renewal).lasts listed
  | releaseReplayLease release observation =>
      refine (applyReleaseReplayLease_case done).lasts fun clock => ?_
      exact (releaseDecision_case release).lasts listed
  | _ =>
      intro id lease stored
      obtain ⟨later, reached, move⟩ := moves.moved id lease stored
      refine ⟨later, reached, ?_⟩
      cases move with
      | kept => exact lease.lasts_refl
      | expired observation clock observed advanced due => exact due_lasts due
      | renewed renewal observation clock renews => cases renews
      | released release observation clock releases => cases releases

end GroupView

namespace GroupDb

variable {identity : GroupIdentity} {window : Nat} {content : PayloadId → Record}
  {Allowed : GroupDb → GroupEntry → Prop} {steps : List Step} {db next : GroupDb}
  {entry : GroupEntry} {result : ApplyResult}

theorem applyEntry_leasesLast (named : db.view.LeasesNamed)
    (done : db.applyEntry entry = .ok (result, next)) : db.view.LeasesLast next.view := by
  cases applyEntry_case done with
  | quiet silent noop same =>
      exact GroupView.leasesLast_refl.congr fun id => same _ (by simp [StateKey.family])
  | fenced command held normal included isHeld answer replayed answered same =>
      exact GroupView.leasesLast_refl.congr fun id => same _ (by simp [StateKey.family])
  | dispatched command write normal free dispatched reads =>
      exact (GroupView.dispatch_leasesLast named.listed named.requested dispatched).congr
        fun id => reads _ (by simp [StateKey.family])

/-- No tail falls, and what lies below an earlier tail is what lay there. -/
structure RecordsLast (earlier later : GroupDb) : Prop where
  tail : ∀ partition, earlier.view.nextOffsetOf partition ≤ later.view.nextOffsetOf partition
  record : ∀ (partition : PartitionKey) (offset : Nat) (record : StoredRecord),
    offset < earlier.view.nextOffsetOf partition →
    later.get (.record partition offset) = some record →
    earlier.get (.record partition offset) = some record

/-- The watermark never falls; a held token is held with its cut until the watermark reaches it, and
a token that is newly held lies above the earlier watermark. -/
structure FenceLasts (earlier later : GroupDb) : Prop where
  through : earlier.mutationFence.throughEpoch ≤ later.mutationFence.throughEpoch
  kept : ∀ held, earlier.mutationFence.held = some held →
    later.mutationFence.held = some held ∨
      held.token.epoch.value ≤ later.mutationFence.throughEpoch
  newer : ∀ held, later.mutationFence.held = some held →
    earlier.mutationFence.held = some held ∨
      earlier.mutationFence.throughEpoch < held.token.epoch.value

theorem nextOffsetOf_of_get {first second : GroupDb} (reads : second.get = first.get)
    (partition : PartitionKey) :
    second.view.nextOffsetOf partition = first.view.nextOffsetOf partition := by
  rw [GroupView.nextOffsetOf, GroupView.nextOffsetOf, view_get, view_get, reads]

theorem fenceLasts_of_same (same : next.mutationFence = db.mutationFence) : FenceLasts db next := by
  constructor
  · rw [same]
  · intro held isHeld
    rw [same]
    exact .inl isHeld
  · intro held isHeld
    rw [same] at isHeld
    exact .inl isHeld

theorem fenceLasts_of_move {command : ExportCommand}
    (move : FenceMove db.mutationFence next.mutationFence command) : FenceLasts db next := by
  cases move with
  | kept same => exact fenceLasts_of_same same
  | acquired token cut sent free newer held through =>
      refine ⟨through.ge, ?_, ?_⟩
      · intro old isHeld
        rw [free] at isHeld
        cases isHeld
      · intro new isHeld
        rw [held] at isHeld
        cases isHeld
        exact .inr newer
  | released token sent own free through =>
      refine ⟨by omega, ?_, ?_⟩
      · intro old isHeld
        rw [own old isHeld]
        exact .inr (by omega)
      · intro new isHeld
        rw [free] at isHeld
        cases isHeld

theorem FenceLasts.trans {last : GroupDb} (first : FenceLasts db next)
    (second : FenceLasts next last) : FenceLasts db last := by
  have rises := first.through
  have risesAgain := second.through
  refine ⟨rises.trans risesAgain, ?_, ?_⟩
  · intro held isHeld
    rcases first.kept held isHeld with kept | passed
    · exact second.kept held kept
    · exact .inr (passed.trans risesAgain)
  · intro held isHeld
    rcases second.newer held isHeld with kept | above
    · exact first.newer held kept
    · exact .inr (rises.trans_lt above)

def historyEntries : List GroupEntry :=
  replayEntries ++
    [⟨⟨1, 1, 7⟩, .normal (.releaseReplayLease
        ⟨sampleRequest 2, samplePartition, .derived (sampleRequest 0)⟩ sampleClock)⟩,
      ⟨⟨1, 1, 8⟩, .normal (.exportProtocol (.acquireFence sampleToken))⟩,
      ⟨⟨1, 1, 9⟩, .normal (.exportProtocol (.releaseFence sampleToken))⟩]

/-- The end of the sample: a record is gone below the tail, the lease is released and the fence has
passed. -/
abbrev SampleHistory (db : GroupDb) : Prop :=
  db.view.nextOffsetOf samplePartition = 2 ∧ db.get (.record samplePartition 1) = none ∧
    (db.get (.leaseId (.derived (sampleRequest 0)))).map ReplayLease.lifecycle = some .released ∧
    db.mutationFence.held = none ∧ db.mutationFence.throughEpoch = 1

theorem sampleHistory : ∃ (steps : List Step) (db : GroupDb),
    SampleHistory db ∧ Traced freshData.identity 2 (fun _ => [7]) (fun _ _ => True) steps db := by
  have passed : yields (freshData.submitSteps historyEntries)
      (fun done => decide (SampleHistory done.2)) = true := by decide
  obtain ⟨done, submitted, passed⟩ := yields_iff.mp passed
  have traced : Traced freshData.identity 2 (fun _ => [7]) (fun _ _ => True)
      ([] ++ done.1) done.2 :=
    Traced.submitSteps .created (create_usedBelow _ _) (by decide) (by decide)
      (fun _ _ => trivial) submitted
  exact ⟨done.1, done.2, of_decide_eq_true passed, traced⟩

/-- What was read once at an offset of a data group is never read otherwise: whatever is found there
at a later moment of the history is that record, and a reclaimed one stays absent. -/
theorem records_last (data : identity.kind = .data)
    (traced : Traced identity window content Allowed steps db) :
    ∀ taken ∈ steps, RecordsLast taken.before db ∧ RecordsLast taken.after db := by
  refine traced.onward ?_ ?_ ?_
  · intro first second reads
    constructor
    · intro partition
      rw [nextOffsetOf_of_get reads]
    · intro partition offset record _ stored
      rwa [reads] at stored
  · intro first second third earlier later
    constructor
    · intro partition
      exact (earlier.tail partition).trans (later.tail partition)
    · intro partition offset record below stored
      have reached := later.record partition offset record
        (below.trans_le (earlier.tail partition)) stored
      exact earlier.record partition offset record below reached
  · intro steps db next entry result traced done
    have gains := applyEntry_gains (traced.ran.guarded data) done
    constructor
    · exact gains.tail
    · intro partition offset record below stored
      rcases gains.record partition offset record stored with old | ⟨past, _⟩
      · exact old
      · omega

theorem records_last_sample : ∃ (steps : List Step) (db : GroupDb), SampleHistory db ∧
    ∀ taken ∈ steps, RecordsLast taken.before db ∧ RecordsLast taken.after db := by
  obtain ⟨steps, db, history, traced⟩ := sampleHistory
  exact ⟨steps, db, history, records_last rfl traced⟩

/-- A fence of a data group is held with one cut until it is released, and no token is held again
once the watermark has reached it. -/
theorem fences_last (data : identity.kind = .data)
    (traced : Traced identity window content Allowed steps db) :
    ∀ taken ∈ steps, FenceLasts taken.before db ∧ FenceLasts taken.after db := by
  refine traced.onward ?_ ?_ ?_
  · intro first second reads
    apply fenceLasts_of_same
    exact mutationFence_of_get (congrFun reads _)
  · intro first second third earlier later
    exact earlier.trans later
  · intro steps db next entry result traced done
    have kind : db.identity.kind = .data := by rw [traced.ran.settings.1, data]
    rcases applyEntry_fenceMove kind done with same | ⟨command, _, move⟩
    · exact fenceLasts_of_same same
    · exact fenceLasts_of_move move

theorem fences_last_sample : ∃ (steps : List Step) (db : GroupDb), SampleHistory db ∧
    ∀ taken ∈ steps, FenceLasts taken.before db ∧ FenceLasts taken.after db := by
  obtain ⟨steps, db, history, traced⟩ := sampleHistory
  exact ⟨steps, db, history, fences_last rfl traced⟩

/-- A lease stays stored under its identity for the request that admitted it, within its hard
expiry, and once it is expired or released nothing about it changes. -/
theorem leases_last (traced : Traced identity window content Allowed steps db) :
    ∀ taken ∈ steps,
      taken.before.view.LeasesLast db.view ∧ taken.after.view.LeasesLast db.view := by
  refine @Traced.onward identity window content Allowed steps db
    (fun earlier later => earlier.view.LeasesLast later.view) ?_ ?_ ?_ traced
  · intro first second reads
    apply GroupView.leasesLast_refl.congr
    intro id
    rw [view_get, view_get, reads]
  · intro first second third earlier later id lease stored
    obtain ⟨middle, found, lasts⟩ := earlier id lease stored
    obtain ⟨last, reached, again⟩ := later id middle found
    exact ⟨last, reached, lasts.trans again⟩
  · intro steps db next entry result traced done
    exact applyEntry_leasesLast traced.ran.leasesNamed done

theorem leases_last_sample : ∃ (steps : List Step) (db : GroupDb), SampleHistory db ∧
    ∀ taken ∈ steps,
      taken.before.view.LeasesLast db.view ∧ taken.after.view.LeasesLast db.view := by
  obtain ⟨steps, db, history, traced⟩ := sampleHistory
  exact ⟨steps, db, history, leases_last traced⟩

end GroupDb

end LightStream
