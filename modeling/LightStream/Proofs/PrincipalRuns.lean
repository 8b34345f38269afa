import LightStream.Proofs.LeaseClock
import LightStream.Proofs.PrincipalAnswers

/-!
The leases and receipts of a principal over the runs of a group.  Every entry is proposed for
admitted requests; the principals of those requests are the only ones whose leases and receipts it
touches or shows, in every run that decides renewals and releases on leases of their own principal.
A renewal or a release is admitted without a look at the lease, so a principal that may manage
replay on a stream can release the lease of another one.
-/

namespace LightStream

namespace Step

/-- How a stored lease comes out of a step: unchanged, ended by the clock of the step, or renewed
or released by a request of its own principal. -/
inductive MovesLease (step : Step) (principals : List PrincipalId) (lease : ReplayLease) :
    ReplayLease → Prop
  | kept : MovesLease step principals lease lease
  | expired (command : GroupCommand) (observation : ClockObservation) (clock : SafeLeaseClock)
      (normal : step.entry.payload = .normal command)
      (observed : command.leaseClock = some observation)
      (advanced : step.before.view.advanceLeaseClock observation = .ok clock)
      (due : isDue clock lease = true) : MovesLease step principals lease lease.expired
  | renewed (renewal : LeaseRenewal) (observation : ClockObservation)
      (normal : step.entry.payload = .normal (.renewReplayLease renewal observation))
      (named : renewal.lease = lease.id)
      (own : principals = [lease.request.request.principal]) (expiresAt : Nat) :
      MovesLease step principals lease
        { lease with expiresAt, generation := saturatingAdd lease.generation 1 }
  | released (release : LeaseRelease) (observation : ClockObservation)
      (normal : step.entry.payload = .normal (.releaseReplayLease release observation))
      (named : release.lease = lease.id)
      (own : principals = [lease.request.request.principal]) :
      MovesLease step principals lease lease.released

/-- What a step does to leases and receipts, and shows of them, when its requests are authenticated
as the given principals. -/
structure Respects (step : Step) (principals : List PrincipalId) : Prop where
  leases : ∀ id lease, step.before.get (.leaseId id) = some lease →
    ∃ later, step.after.get (.leaseId id) = some later ∧ step.MovesLease principals lease later
  admitted : ∀ (id : ReplayLeaseId) (lease : ReplayLease),
    step.before.get (.leaseId id) = none → step.after.get (.leaseId id) = some lease →
      principals = [lease.request.request.principal]
  /-- The receipts and sessions of everybody else stay as they are. -/
  spares : step.before.view.SparesOthers step.after.view principals
  shown : ∀ name ∈ step.result.shown, name ∈ principals
  /-- Each request of a batch is answered with a receipt of its own. -/
  batches : ∀ batch outcomes, step.entry.payload = .normal (.publishMany batch) →
    step.result = .publishedMany outcomes → GroupView.AnswersBatch batch outcomes
  /-- No renewal or release learns of another principal's lease from its refusal. -/
  refused : ∀ command request fingerprint admission lifecycle,
    step.entry.payload = .normal command → command.mutation = some (request, fingerprint) →
    fingerprint.lease ≠ none →
    step.result = .rejected (.replayLeaseInactive (.derived admission) lifecycle) →
      admission.principal = request.principal

end Step

namespace GroupDb

variable {identity : GroupIdentity} {window : Nat} {content : PayloadId → Record}
  {history : List GroupEntry} {steps : List Step} {db next : GroupDb} {entry : GroupEntry}
  {result : ApplyResult}

/-- The condition on an entry: a renewal or a release is decided on a lease of its own principal. -/
def OwnsLeases (db : GroupDb) (entry : GroupEntry) : Prop :=
  ∀ command, entry.payload = .normal command → db.view.CommandOwns command

theorem Ran.mutationsOwned (ran : Ran identity window content OwnsLeases history db) :
    db.view.MutationsOwned := by
  refine @Ran.upheld identity window content OwnsLeases history db GroupView.MutationsOwned
    [.mutation] (by decide) ?_ GroupView.mutationsOwned_empty ?_ ran
  · intro view other owned same
    exact owned.congr fun key inside => same key (by simp [inside])
  · intro history db logId command result write ran owned due allowed free done
    exact GroupView.dispatch_mutationsOwned owned ran.leasesNamed (allowed command rfl) done

theorem fenced_lease {view : GroupView} {command : GroupCommand} {exportId : ExportId}
    {answer : Option ApplyResult} {request : MutationRequestId}
    {fingerprint : MutationFingerprint} (carries : command.mutation = some (request, fingerprint))
    (names : fingerprint.lease ≠ none)
    (replayed : view.replayIncludedCommand exportId command = .ok answer) : answer = none := by
  cases command <;> cases carries <;> first | exact absurd rfl names | (cases replayed; rfl)

section Steps

variable {command : GroupCommand}

theorem movesLease {lease later : ReplayLease} (owns : db.OwnsLeases entry)
    (normal : entry.payload = .normal command)
    (stored : db.view.get (.leaseId lease.id) = some lease)
    (move : db.view.LeaseMove command lease later) :
    Step.MovesLease ⟨db, entry, result, next⟩ entry.payload.claims lease later := by
  have meets := owns command normal
  cases move with
  | kept => exact .kept
  | expired observation clock observed advanced due =>
      exact .expired command observation clock normal observed advanced due
  | renewed renewal observation clock renews called ranged fresh advanced expiresAt =>
      subst renews
      have own := meets fresh clock _ _ lease advanced rfl (by rw [called]; exact stored) ranged
      refine .renewed renewal observation normal called ?_ expiresAt
      rw [normal, own]
      rfl
  | released release observation clock releases called ranged fresh advanced =>
      subst releases
      have own := meets fresh clock _ _ lease advanced rfl (by rw [called]; exact stored) ranged
      refine .released release observation normal called ?_
      rw [normal, own]
      rfl

theorem leases_kept {principals : List PrincipalId}
    (same : ∀ id : ReplayLeaseId, next.get (.leaseId id) = db.get (.leaseId id)) :
    (∀ id lease, db.get (.leaseId id) = some lease →
      ∃ later, next.get (.leaseId id) = some later ∧
        Step.MovesLease ⟨db, entry, result, next⟩ principals lease later) ∧
    ∀ (id : ReplayLeaseId) (lease : ReplayLease), db.get (.leaseId id) = none →
      next.get (.leaseId id) = some lease → principals = [lease.request.request.principal] := by
  refine ⟨fun id lease stored => ⟨lease, by rw [same]; exact stored, .kept⟩, ?_⟩
  intro id lease absent stored
  rw [same, absent] at stored
  simp at stored

theorem applyEntry_leases (named : db.view.LeasesNamed) (owns : db.OwnsLeases entry)
    (done : db.applyEntry entry = .ok (result, next)) :
    (∀ id lease, db.get (.leaseId id) = some lease →
      ∃ later, next.get (.leaseId id) = some later ∧
        Step.MovesLease ⟨db, entry, result, next⟩ entry.payload.claims lease later) ∧
    ∀ (id : ReplayLeaseId) (lease : ReplayLease), db.get (.leaseId id) = none →
      next.get (.leaseId id) = some lease →
        entry.payload.claims = [lease.request.request.principal] := by
  cases applyEntry_case done with
  | quiet silent noop same => exact leases_kept fun id => same _ (by simp [StateKey.family])
  | fenced command held normal included isHeld answer replayed answered same =>
      exact leases_kept fun id => same _ (by simp [StateKey.family])
  | dispatched command write normal free dispatched reads =>
      have moves := GroupView.dispatch_leasesMove named.listed named.requested dispatched
      constructor
      · intro id lease stored
        obtain ⟨later, found, move⟩ := moves.moved id lease stored
        refine ⟨later, by rw [reads _ (by simp [StateKey.family])]; exact found, ?_⟩
        refine movesLease owns normal ?_ move
        rw [(named.named id lease stored).1]
        exact stored
      · intro id lease absent stored
        rw [reads _ (by simp [StateKey.family])] at stored
        obtain ⟨request, observation, rfl, _, _, same⟩ := moves.admitted id lease absent stored
        rw [normal, same]
        rfl

theorem applyEntry_shown (receipts : db.view.ReceiptsOwned) (mutations : db.view.MutationsOwned)
    (named : db.view.LeasesNamed) (owns : db.OwnsLeases entry)
    (done : db.applyEntry entry = .ok (result, next)) :
    ∀ name ∈ result.shown, name ∈ entry.payload.claims := by
  cases applyEntry_case done with
  | quiet silent noop same =>
      rw [noop]
      simp [ApplyResult.shown]
  | fenced command held normal included isHeld answer replayed answered same =>
      rw [normal, answered]
      cases answer with
      | none => simp
      | some answer => exact GroupView.replayIncludedCommand_shown receipts mutations replayed
  | dispatched command write normal free dispatched reads =>
      rw [normal]
      exact GroupView.dispatch_shown receipts mutations named (owns command normal) dispatched

theorem applyEntry_batches {batch : ReplicatedPublishBatch} {outcomes : List PublishItemOutcome}
    (receipts : db.view.ReceiptsOwned) (publishes : entry.payload = .normal (.publishMany batch))
    (answers : result = .publishedMany outcomes)
    (done : db.applyEntry entry = .ok (result, next)) :
    GroupView.AnswersBatch batch outcomes := by
  cases applyEntry_case done with
  | quiet silent => exact absurd publishes (silent _)
  | fenced command held normal included isHeld answer replayed answered same =>
      rw [publishes] at normal
      cases normal
      obtain rfl : some _ = answer := Except.ok.inj replayed
      have shown : db.view.replayPublishMany batch held.token.exportId = .publishedMany outcomes :=
        answered.symm.trans answers
      rcases @GroupView.replayPublishMany_case db.view batch held.token.exportId receipts with
        ⟨answered, same, own⟩ | ⟨error, same⟩
      · rw [same] at shown
        cases shown
        exact own
      · rw [same] at shown
        simp at shown
  | dispatched command write normal free dispatched reads =>
      rw [publishes] at normal
      cases normal
      subst answers
      have case := GroupView.applyPublishMany_case receipts dispatched
      generalize shown : ApplyResult.publishedMany outcomes = result at case
      cases case with
      | refused => simp at shown
      | traced trace last own =>
          cases shown
          exact own.answers

theorem applyEntry_refused {request : MutationRequestId} {fingerprint : MutationFingerprint}
    {admission : MutationRequestId} {lifecycle : ReplayLeaseLifecycle}
    (mutations : db.view.MutationsOwned) (named : db.view.LeasesNamed) (owns : db.OwnsLeases entry)
    (normal : entry.payload = .normal command)
    (carries : command.mutation = some (request, fingerprint)) (names : fingerprint.lease ≠ none)
    (refuses : result = .rejected (.replayLeaseInactive (.derived admission) lifecycle))
    (done : db.applyEntry entry = .ok (result, next)) :
    admission.principal = request.principal := by
  cases applyEntry_case done with
  | quiet silent => exact absurd normal (silent _)
  | fenced other held same included isHeld answer replayed answered reads =>
      rw [normal] at same
      cases same
      obtain rfl := fenced_lease carries names replayed
      rw [refuses] at answered
      simp [GroupView.exportInProgress] at answered
  | dispatched other write same free dispatched reads =>
      rw [normal] at same
      cases same
      have own := GroupView.dispatch_own mutations named (owns command normal) carries dispatched
      exact own.refused names _ _ refuses

end Steps

theorem Traced.respects (traced : Traced identity window content OwnsLeases steps db) :
    ∀ step ∈ steps, step.Respects step.entry.payload.claims := by
  refine @Traced.invariant identity window content OwnsLeases steps db
    (fun steps _ => ∀ step ∈ steps, step.Respects step.entry.payload.claims) (by simp) ?_ traced
  intro steps db next entry result traced held due owns done step member
  rcases List.mem_append.mp member with earlier | last
  · exact held step earlier
  obtain rfl := List.mem_singleton.mp last
  have named := traced.ran.leasesNamed
  have receipts := traced.ran.receiptsOwned
  have mutations := traced.ran.mutationsOwned
  obtain ⟨leases, admitted⟩ := applyEntry_leases named owns done
  exact {
    leases, admitted
    spares := applyEntry_spares receipts done
    shown := applyEntry_shown receipts mutations named owns done
    batches := fun _ _ publishes answers => applyEntry_batches receipts publishes answers done
    refused := fun _ _ _ _ _ normal carries names refuses =>
      applyEntry_refused mutations named owns normal carries names refuses done }

/-- What the handlers that read a store show: a receipt or a lease goes to its own principal, and
records are read through a lease by its own principal. -/
structure ReadsOwn (db : GroupDb) : Prop where
  /-- The identity of a lease tells its principal. -/
  named : ∀ id lease, db.get (.leaseId id) = some lease →
    lease.id = id ∧ id = .derived lease.request.request
  receipts : ∀ policy evidence cluster partition request receipt,
    db.getReceipt (some policy) evidence cluster partition request = .ok (.ok receipt) →
    ∃ principal, RuntimeSecurityConfig.authorize (some policy) ⟨evidence, .receiptRead,
        .stream cluster partition.stream, some request.principal⟩ = .ok principal ∧
      request.principal = principal.principal ∧ receipt.request.principal = principal.principal
  leases : ∀ policy evidence cluster partition id lease,
    db.getReplayLease (some policy) evidence cluster partition id = .ok (.ok lease) →
    ∃ principal, RuntimeSecurityConfig.authorize (some policy) ⟨evidence, .replayRead,
        .stream cluster partition.stream, none⟩ = .ok principal ∧
      lease.request.request.principal = principal.principal
  records : ∀ fetched rest policy evidence cluster partition id offset limit answer,
    db.serveFetchProtected fetched rest (some policy) evidence cluster partition id offset limit =
      .ok answer →
    ∃ principal admission, RuntimeSecurityConfig.authorize (some policy) ⟨evidence, .replayRead,
        .stream cluster partition.stream, none⟩ = .ok principal ∧
      id = .derived admission ∧ admission.principal = principal.principal

theorem receipt_own {partition : PartitionKey} {request : ProducerRequestId}
    {receipt : PublishReceipt} (receipts : db.view.ReceiptsOwned)
    (read : db.receipt partition request = .ok receipt) : receipt.request = request := by
  unfold GroupDb.receipt at read
  split at read
  · simp at read
  rename_i stored found
  refine receipts partition request stored found receipt ?_
  cases stored with
  | legacy stored =>
      rw [← read]
  | versioned stored => exact read

theorem replayLease_named {partition : PartitionKey} {id : ReplayLeaseId} {lease : ReplayLease}
    (named : db.view.LeasesNamed) (read : db.replayLease partition id = .ok lease) :
    id = .derived lease.request.request := by
  unfold replayLease at read
  split at read
  · simp at read
  rename_i stored found
  split at read
  · simp at read
  cases read
  exact (named.named id _ found).2

theorem readsOwn (receipts : db.view.ReceiptsOwned) (named : db.view.LeasesNamed) :
    db.ReadsOwn := by
  constructor
  · exact named.named
  · intro policy evidence cluster partition request receipt served
    unfold getReceipt at served
    split at served
    · simp at served
    rename_i principal authorized
    obtain ⟨_, _, _, _, _, claims⟩ := RuntimeSecurityConfig.authorize_ok authorized
    have own : receipt.request = request := receipt_own receipts (Except.ok.inj served)
    exact ⟨principal, authorized, claims _ rfl, by rw [own]; exact claims _ rfl⟩
  · intro policy evidence cluster partition id lease served
    unfold getReplayLease at served
    split at served
    · simp at served
    rename_i principal authorized
    split at served
    · simp at served
    split at served
    · simp at served
    rename_i own
    cases served
    exact ⟨principal, authorized, (not_not.mp own).symm⟩
  · intro fetched rest policy evidence cluster partition id offset limit answer served
    unfold serveFetchProtected at served
    split at served
    · simp at served
    rename_i principal authorized
    split at served
    · simp at served
    rename_i lease read
    split at served
    · simp at served
    rename_i own
    exact ⟨principal, lease.request.request, authorized, replayLease_named named read,
      (not_not.mp own).symm⟩

/-- In every run whose entries are proposed for admitted requests, and whose renewals and releases
are decided on leases of their own principal, each step respects the principals of its requests and
each state is read by the principals that own what they read. -/
theorem leases_and_receipts_owned {proposals : List GroupProposal}
    (traced : Traced identity window content OwnsLeases steps db)
    (proposed : (steps.map fun step => step.entry.payload) =
      proposals.map GroupProposal.payload) :
    List.Forall₂ (fun step proposal => step.Respects proposal.principals) steps proposals ∧
      db.ReadsOwn := by
  refine ⟨?_, readsOwn traced.ran.receiptsOwned traced.ran.leasesNamed⟩
  have paired : List.Forall₂ (· = ·) (steps.map fun step => step.entry.payload)
      (proposals.map GroupProposal.payload) := by
    rw [List.forall₂_eq_eq_eq]
    exact proposed
  rw [List.forall₂_map_left_iff, List.forall₂_map_right_iff] at paired
  refine ((List.forall₂_and_left _ _).mpr ⟨traced.respects, paired⟩).imp ?_
  rintro step proposal ⟨respects, same⟩
  rw [same, proposal.claims_eq] at respects
  exact respects

section Sample

def replayPolicy : SecurityPolicy where
  cluster := ⟨1⟩
  revision := ⟨1, Nat.one_ne_zero⟩
  revocationRevision := 0
  grants := (((∅ : Kv.TreeMap PrincipalId (Finset Grant)).insert ⟨"writer"⟩
    {⟨.securityAdmin, .cluster ⟨1⟩⟩, ⟨.publish, .allStreams ⟨1⟩⟩}).insert ⟨"reader"⟩
      {⟨.replayManage, .allStreams ⟨1⟩⟩}).insert ⟨"other"⟩ {⟨.replayManage, .allStreams ⟨1⟩⟩}
  tokenVerifiers := [⟨⟨⟨"other"⟩, ⟨1, Nat.one_ne_zero⟩⟩, ⟨"other"⟩, ⟨1⟩, .active⟩,
    ⟨⟨⟨"reader"⟩, ⟨1, Nat.one_ne_zero⟩⟩, ⟨"reader"⟩, ⟨2⟩, .active⟩,
    ⟨⟨⟨"writer"⟩, ⟨1, Nat.one_ne_zero⟩⟩, ⟨"writer"⟩, ⟨3⟩, .active⟩]
  peerCertificates := ∅
  valid := by decide

def replayPrincipal (name : String) : AuthenticatedPrincipal :=
  ⟨⟨name⟩, ⟨⟨name⟩, ⟨1, Nat.one_ne_zero⟩⟩, ⟨1, Nat.one_ne_zero⟩, 0⟩

def publishCall : AdmittedCall where
  policy := replayPolicy
  evidence := some (⟨⟨"writer"⟩, ⟨1, Nat.one_ne_zero⟩⟩, ⟨3⟩)
  call := .commitPublish (samplePublish sampleCluster 0 none)
  principal := replayPrincipal "writer"
  admitted := by decide

def admitCall : AdmittedCall where
  policy := replayPolicy
  evidence := some (⟨⟨"reader"⟩, ⟨1, Nat.one_ne_zero⟩⟩, ⟨2⟩)
  call := .admitReplayLease ⟨sampleRequest 0, sampleCluster, ⟨samplePartition, 0, 1, Nat.one_pos⟩,
    1, 1, Nat.one_ne_zero, Nat.one_ne_zero⟩
  principal := replayPrincipal "reader"
  admitted := by decide

def ownRelease : AdmittedCall where
  policy := replayPolicy
  evidence := some (⟨⟨"reader"⟩, ⟨1, Nat.one_ne_zero⟩⟩, ⟨2⟩)
  call := .releaseReplayLease sampleCluster
    ⟨sampleRequest 1, samplePartition, .derived (sampleRequest 0)⟩
  principal := replayPrincipal "reader"
  admitted := by decide

def otherRelease : AdmittedCall where
  policy := replayPolicy
  evidence := some (⟨⟨"other"⟩, ⟨1, Nat.one_ne_zero⟩⟩, ⟨1⟩)
  call := .releaseReplayLease sampleCluster
    ⟨⟨⟨"other"⟩, ⟨1⟩, 0⟩, samplePartition, .derived (sampleRequest 0)⟩
  principal := replayPrincipal "other"
  admitted := by decide

def releaseProposals (release : AdmittedCall) : List GroupProposal :=
  [.unclaimed (.normal (.bootstrapData sampleSpec)) rfl, .call publishCall sampleClock,
    .call admitCall sampleClock, .call release sampleClock]

def releaseEntries (release : AdmittedCall) : List GroupEntry :=
  (releaseProposals release).mapIdx fun index proposal => ⟨⟨1, 1, index + 1⟩, proposal.payload⟩

theorem releaseEntries_proposed {release : AdmittedCall} {last : GroupDb}
    (submitted : freshData.submitSteps (releaseEntries release) = .ok (steps, last)) :
    (steps.map fun step => step.entry.payload) =
      (releaseProposals release).map GroupProposal.payload := by
  have entries := submitSteps_entries submitted
  calc (steps.map fun step => step.entry.payload)
    _ = (steps.map Step.entry).map GroupEntry.payload := by
        rw [List.map_map]
        rfl
    _ = (releaseProposals release).map GroupProposal.payload := by
        rw [entries]
        rfl

/-- A reader that releases its own lease meets the condition. -/
theorem leases_and_receipts_owned_sample : ∃ steps db,
    Traced freshData.identity 2 (fun _ => [7]) OwnsLeases steps db ∧
    (db.get (.leaseId (.derived (sampleRequest 0)))).any
      (fun lease => decide (lease.lifecycle = .released)) = true ∧
    List.Forall₂ (fun step proposal => step.Respects proposal.principals) steps
      (releaseProposals ownRelease) ∧ db.ReadsOwn := by
  have released : yields (freshData.submitSteps (releaseEntries ownRelease)) (fun done =>
      (done.2.get (.leaseId (.derived (sampleRequest 0)))).any
        (fun lease => decide (lease.lifecycle = .released)) &&
      done.1.all fun step => (step.before.get (.leaseId (.derived (sampleRequest 0)))).all
        fun lease => decide (lease.request.request.principal = ⟨"reader"⟩)) = true := by decide
  obtain ⟨done, submitted, released⟩ := yields_iff.mp released
  obtain ⟨steps, db⟩ := done
  simp only [Bool.and_eq_true, List.all_eq_true] at released
  obtain ⟨released, own⟩ := released
  have owns : ∀ step ∈ steps, OwnsLeases step.before step.entry := by
    intro step member command normal
    have proposed : EntryPayload.normal command ∈
        (releaseProposals ownRelease).map GroupProposal.payload := by
      rw [← releaseEntries_proposed submitted, ← normal]
      exact List.mem_map_of_mem member
    simp only [releaseProposals, List.map_cons, List.map_nil, List.mem_cons, List.not_mem_nil,
      or_false] at proposed
    rcases proposed with same | same | same | same <;> cases same
    · trivial
    · trivial
    · trivial
    · intro _ clock _ _ lease _ names stored _
      cases names
      have owner := own step member
      rw [show step.before.get _ = some lease from stored] at owner
      exact of_decide_eq_true owner
  have traced : Traced freshData.identity 2 (fun _ => [7]) OwnsLeases steps db :=
    Traced.submitSteps .created (create_usedBelow _ _) (by decide) (by decide) owns submitted
  obtain ⟨respected, reads⟩ :=
    leases_and_receipts_owned traced (releaseEntries_proposed submitted)
  exact ⟨steps, db, traced, released, respected, reads⟩

/-- The other principal releases the lease and is answered with it. -/
theorem other_principal_releases_lease : ∃ steps db,
    Traced freshData.identity 2 (fun _ => [7]) (fun _ _ => True) steps db ∧
    (steps.map fun step => step.entry.payload) =
      (releaseProposals otherRelease).map GroupProposal.payload ∧
    ∃ step ∈ steps, ∃ lease, step.before.get (.leaseId (.derived (sampleRequest 0))) = some lease ∧
      lease.request.request.principal = ⟨"reader"⟩ ∧ lease.lifecycle = .active ∧
      step.after.get (.leaseId (.derived (sampleRequest 0))) = some lease.released ∧
      step.result = .replayLease lease.released ∧
      step.entry.payload = (GroupProposal.call otherRelease sampleClock).payload ∧
      (GroupProposal.call otherRelease sampleClock).principals = [⟨"other"⟩] ∧
      ¬step.Respects (GroupProposal.call otherRelease sampleClock).principals := by
  have stolen : yields (freshData.submitSteps (releaseEntries otherRelease)) (fun done =>
      done.1.getLast?.any fun step =>
        (step.before.get (.leaseId (.derived (sampleRequest 0)))).any fun lease =>
          decide (lease.request.request.principal = ⟨"reader"⟩ ∧ lease.lifecycle = .active ∧
            step.after.get (.leaseId (.derived (sampleRequest 0))) = some lease.released ∧
            step.result = .replayLease lease.released)) = true := by decide
  obtain ⟨done, submitted, stolen⟩ := yields_iff.mp stolen
  obtain ⟨steps, db⟩ := done
  obtain ⟨step, last, stolen⟩ := (Option.any_eq_true _ _).mp stolen
  obtain ⟨lease, stored, stolen⟩ := (Option.any_eq_true _ _).mp stolen
  obtain ⟨owner, active, after, answered⟩ := of_decide_eq_true stolen
  have traced : Traced freshData.identity 2 (fun _ => [7]) (fun _ _ => True) steps db :=
    Traced.submitSteps .created (create_usedBelow _ _) (by decide) (by decide)
      (fun _ _ => trivial) submitted
  have payload : step.entry.payload =
      (GroupProposal.call otherRelease sampleClock).payload := by
    have payloads := congrArg List.getLast? (releaseEntries_proposed submitted)
    rw [List.getLast?_map, last] at payloads
    exact Option.some.inj payloads
  refine ⟨steps, db, traced, releaseEntries_proposed submitted, step,
    List.mem_of_getLast? last, lease, stored, owner, active, after, answered, payload, rfl, ?_⟩
  intro respects
  have shown := respects.shown lease.request.request.principal
    (by rw [answered]; exact List.mem_singleton_self _)
  rw [owner] at shown
  exact absurd shown (by decide)

end Sample

end GroupDb

end LightStream
