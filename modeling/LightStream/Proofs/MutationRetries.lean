import LightStream.Proofs.Entries
import LightStream.Proofs.LeaseSpec
import LightStream.Proofs.MutationTable
import LightStream.Proofs.Replay
import LightStream.Proofs.Traces

/-!
Mutation retries are idempotent.  Every command with a mutation request either changes nothing but
the applied position or stores the receipt of a fresh request, so a request takes effect at most
once and is answered from its receipt afterwards.
-/

namespace LightStream

def GroupCommand.mutation : GroupCommand → Option (MutationRequestId × MutationFingerprint)
  | .advanceRetention request _ => some (request.request, .retention request)
  | .admitReplayLease request _ => some (request.request, .admitLease request)
  | .renewReplayLease request _ => some (request.request, .renew request)
  | .releaseReplayLease request _ => some (request.request, .release request)
  | .compareAndSetCheckpoint mutation => some (mutation.request, .checkpoint mutation)
  | .applySecurityMutation mutation => some (mutation.request, .security mutation)
  | .activateSecuredTransport request topology policy =>
      some (request, .transport request topology policy)
  | _ => none

def GroupEntry.mutation (entry : GroupEntry) : Option (MutationRequestId × MutationFingerprint) :=
  match entry.payload with
  | .normal command => command.mutation
  | _ => none

namespace GroupView

variable {view : GroupView} {request : MutationRequestId} {fingerprint : MutationFingerprint}
  {observation : ClockObservation} {result : ApplyResult} {write : WriteBatch}

/-- What a command with a mutation request does: it writes nothing, or it stores the receipt of a
fresh request beside its own writes. -/
inductive MutationCase (view : GroupView) (request : MutationRequestId)
    (fingerprint : MutationFingerprint) : ApplyResult → WriteBatch → Prop
  | silent (result : ApplyResult) : MutationCase view request fingerprint result ⟨[], []⟩
  | stored (fresh : view.priorMutationResult request fingerprint = none) (result : ApplyResult)
      (writes : StateBatch)
      (apart : ∀ key : StateKey, key.family = .mutation →
        (view.after writes).get key = view.get key) :
      MutationCase view request fingerprint result
        ⟨writes ++ view.storeMutationResult request fingerprint result, []⟩

theorem MutationCase.within {families : List StateFamily} {writes : StateBatch}
    (fresh : view.priorMutationResult request fingerprint = none) (within : Within families writes)
    (outside : StateFamily.mutation ∉ families) : view.MutationCase request fingerprint result
      ⟨writes ++ view.storeMutationResult request fingerprint result, []⟩ :=
  .stored fresh result writes fun key inside =>
    after_get_of_within within (by rw [inside]; exact outside)

theorem LeaseCase.mutation {decision : SafeLeaseClock → LeaseExpiryState → LeaseDecision}
    (within : ∀ clock expiry, Within decisionFamilies (decision clock expiry).2)
    (case : view.LeaseCase request fingerprint observation decision result write) :
    view.MutationCase request fingerprint result write := by
  cases case with
  | answered => exact .silent _
  | unclocked fresh error => exact .within fresh (within_nil []) (by simp)
  | decided fresh clock advanced =>
      have expiry := @expiryWrites_within view (view.expireDueLeases clock)
      have both : Within decisionFamilies (view.expiryWrites (view.expireDueLeases clock) ++
          (decision clock (view.expireDueLeases clock)).2) := by
        rw [within_append]
        exact ⟨expiry.mono (by decide), within _ _⟩
      exact .within fresh both (by decide)

theorem AdvanceCase.mutation {request : RetentionRequest}
    (case : view.AdvanceCase request observation result write) :
    view.MutationCase request.request (.retention request) result write := by
  cases case with
  | foreign => exact .silent _
  | answered => exact .silent _
  | refused fresh error => exact .within fresh (within_nil []) (by simp)
  | unbounded => exact .silent _
  | advanced fresh floor bytes clock advanced clocked bounded =>
      have raised : Within [.retention, .leaseClock]
          [.put (.retention request.partition) { view.retentionOf request.partition with
            logicalFloor := floor, floorBytePosition := bytes }, .put .leaseClock clock] := by
        simp [StateKey.family]
      exact .within fresh raised (by decide)

theorem applyCheckpointMutation_mutation {mutation : CheckpointMutation}
    (done : view.applyCheckpointMutation mutation = .ok (result, write)) :
    view.MutationCase mutation.request (.checkpoint mutation) result write := by
  unfold applyCheckpointMutation at done
  split at done
  · cases done
    exact .silent _
  split at done
  · cases done
    exact .silent _
  split at done
  · cases done
    exact .silent _
  rename_i fresh
  split at done
  · cases done
    exact .silent _
  dsimp only at done
  split at done
  · cases done
    exact .within fresh (within_nil []) (by simp)
  split at done
  · cases done
    exact .within fresh (within_nil []) (by simp)
  split at done
  · cases done
    exact .within fresh (within_nil []) (by simp)
  split at done
  · simp at done
  · rename_i revision _
    cases done
    have advanced (checkpoint : CommittedCheckpoint) : Within [.checkpoint]
        [.put (.checkpoint mutation.key.partition mutation.key.consumer) checkpoint] := by
      simp [StateKey.family]
    exact .within fresh (advanced _) (by decide)

theorem applySecurityMutation_mutation {mutation : SecurityMutation}
    (done : view.applySecurityMutation mutation = .ok (result, write)) :
    view.MutationCase mutation.request (.security mutation) result write := by
  unfold applySecurityMutation at done
  split at done
  · cases done
    exact .silent _
  split at done
  · cases done
    exact .silent _
  rename_i fresh
  split at done
  · cases done
    exact .silent _
  split at done
  · cases done
    exact .within fresh (within_nil []) (by simp)
  · rename_i next _
    cases done
    have stored : Within [.policy] [(.put .securityPolicy next : Kv.Op StateKey StateVal)] := by
      simp [StateKey.family]
    exact .within fresh stored (by decide)

theorem applySecuredTransport_mutation {topology : ClusterTopology} {policy : SecurityPolicy}
    (done : view.applySecuredTransport request topology policy = .ok (result, write)) :
    view.MutationCase request (.transport request topology policy) result write := by
  unfold applySecuredTransport at done
  split at done
  · cases done
    exact .silent _
  split at done
  · cases done
    exact .silent _
  rename_i fresh
  split at done
  · simp at done
  split at done
  · split at done <;> cases done <;> exact .silent _
  split at done
  · cases done
    have stored : Within [.topology, .policy]
        [.put .clusterTopology topology, (.put .securityPolicy policy : Kv.Op StateKey StateVal)] := by
      simp [StateKey.family]
    exact .within fresh stored (by decide)
  · cases done
    exact .silent _

theorem dispatch_mutation {logId : GroupLogId} {command : GroupCommand}
    (carries : command.mutation = some (request, fingerprint))
    (done : view.dispatch logId command = .ok (result, write)) :
    view.MutationCase request fingerprint result write := by
  cases command with
  | advanceRetention retention clock =>
      cases carries
      exact (applyAdvanceRetention_case done).mutation
  | admitReplayLease admission clock =>
      cases carries
      exact (applyAdmitReplayLease_case done).mutation fun _ _ => admitDecision_within _ _ _
  | renewReplayLease renewal clock =>
      cases carries
      exact (applyRenewReplayLease_case done).mutation fun _ _ => renewDecision_within _ _
  | releaseReplayLease release clock =>
      cases carries
      exact (applyReleaseReplayLease_case done).mutation fun _ _ => releaseDecision_within _ _ _
  | compareAndSetCheckpoint mutation =>
      cases carries
      exact applyCheckpointMutation_mutation done
  | applySecurityMutation mutation =>
      cases carries
      exact applySecurityMutation_mutation done
  | activateSecuredTransport transport topology policy =>
      cases carries
      exact applySecuredTransport_mutation done
  | _ => cases carries

theorem dispatch_unmutated {logId : GroupLogId} {command : GroupCommand}
    (carries : command.mutation = none)
    (done : view.dispatch logId command = .ok (result, write)) :
    ∀ key : StateKey, key.family = .mutation → (view.after write.state).get key = view.get key := by
  have within := dispatch_within command result write done
  have outside : StateFamily.mutation ∉ command.families := by
    cases command with
    | exportProtocol command =>
        cases command <;> simp [GroupCommand.families]
    | advanceRetention | admitReplayLease | renewReplayLease | releaseReplayLease
    | compareAndSetCheckpoint | applySecurityMutation | activateSecuredTransport => cases carries
    | _ => simp [GroupCommand.families, publishAllFamilies, maintainFamilies]
  intro key inside
  exact after_get_of_within within (by rw [inside]; exact outside)

section Retried

variable {first : MutationFingerprint} {answer : ApplyResult}

def mutationAnswer (view : GroupView) (request : MutationRequestId) (first : MutationFingerprint)
    (answer : ApplyResult) (fingerprint : MutationFingerprint) : ApplyResult :=
  if (view.get (.mutationReceipt request)).isSome = true then
    if fingerprint = first then answer else .rejected .mutationConflict
  else .rejected .mutationReceiptExpired

/-- What the handlers of commands with a mutation request check before they look for a receipt. -/
def Addressed (view : GroupView) : GroupCommand → Prop
  | .advanceRetention .. => view.identity.kind = .data
  | .compareAndSetCheckpoint _ =>
      view.identity.kind = .data ∧ (view.get .bootstrap).isSome = true
  | .applySecurityMutation _ => view.identity.kind = .control
  | .activateSecuredTransport .. => view.identity.kind = .control
  | _ => True

inductive Misplaced : ApplyResult → Prop
  | kind (reason : String) : Misplaced (.rejected (.identityMismatch reason))
  | unstarted : Misplaced (.rejected .notBootstrapped)

theorem Recorded.prior (recorded : view.Recorded request first answer)
    (fingerprint : MutationFingerprint) : view.priorMutationResult request fingerprint =
      some (view.mutationAnswer request first answer fingerprint) := by
  unfold priorMutationResult mutationAnswer
  cases found : view.get (.mutationReceipt request) with
  | none =>
      have passed := recorded.passed
      unfold Passed at passed
      simp [passed]
  | some stored =>
      obtain rfl := recorded.retained stored found
      simp only [Option.isSome_some, if_true]
      by_cases same : first = fingerprint
      · rw [if_pos same, if_pos same.symm]
      · rw [if_neg same, if_neg (Ne.symm same)]

/-- What a retry of a recorded request comes to: it writes nothing, and once it reaches its group it
is answered from the receipt. -/
def Retries (view : GroupView) (logId : GroupLogId) (command : GroupCommand)
    (retried : ApplyResult) : Prop :=
  ∃ result, view.applyCommand logId command = .ok (result, ⟨[], []⟩) ∧
    (view.Addressed command → result = retried) ∧ (result = retried ∨ Misplaced result)

theorem applyCommand_retries {logId : GroupLogId} {command : GroupCommand}
    (recorded : view.Recorded request first answer)
    (carries : command.mutation = some (request, fingerprint)) :
    view.Retries logId command (view.mutationAnswer request first answer fingerprint) := by
  have prior := recorded.prior fingerprint
  have answered (handled : view.applyCommand logId command =
      .ok (view.mutationAnswer request first answer fingerprint, ⟨[], []⟩)) :
      view.Retries logId command (view.mutationAnswer request first answer fingerprint) :=
    ⟨_, handled, fun _ => rfl, .inl rfl⟩
  have refused {error : DomainError} (misplaced : Misplaced (.rejected error))
      (astray : ¬view.Addressed command)
      (handled : view.applyCommand logId command = .ok (.rejected error, ⟨[], []⟩)) :
      view.Retries logId command (view.mutationAnswer request first answer fingerprint) :=
    ⟨_, handled, fun addressed => absurd addressed astray, .inr misplaced⟩
  have leased (observation : ClockObservation)
      (decision : SafeLeaseClock → LeaseExpiryState → LeaseDecision) :
      view.leaseCommand request fingerprint observation decision =
        .ok (view.mutationAnswer request first answer fingerprint, ⟨[], []⟩) := by
    rw [leaseCommand, prior]
    rfl
  cases command with
  | advanceRetention retention clock =>
      cases carries
      cases unfenced : view.mutationFenceState.held with
      | some held =>
          apply answered
          simp [applyCommand, GroupCommand.fenceClass, unfenced, replayIncludedCommand, prior, reply]
      | none =>
          have dispatched : view.applyCommand logId (.advanceRetention retention clock) =
              view.applyAdvanceRetention retention clock := by
            simp [applyCommand, GroupCommand.fenceClass, unfenced, dispatch]
          by_cases kind : view.identity.kind = .data
          · apply answered
            rw [dispatched, applyAdvanceRetention, if_neg (not_not.mpr kind), prior]
            rfl
          · refine refused (.kind "retention command reached the control group") kind ?_
            rw [dispatched, applyAdvanceRetention, if_pos kind]
            rfl
  | admitReplayLease admission clock =>
      cases carries
      exact answered (leased clock (view.admitDecision admission))
  | renewReplayLease renewal clock =>
      cases carries
      exact answered (leased clock (fun clock _ => view.renewDecision renewal clock))
  | releaseReplayLease release clock =>
      cases carries
      exact answered (leased clock (view.releaseDecision release))
  | compareAndSetCheckpoint mutation =>
      cases carries
      have dispatched : view.applyCommand logId (.compareAndSetCheckpoint mutation) =
          view.applyCheckpointMutation mutation := rfl
      by_cases kind : view.identity.kind = .data
      · cases bootstrap : view.get .bootstrap with
        | none =>
            refine refused .unstarted (fun addressed => ?_) ?_
            · have started := addressed.2
              rw [bootstrap] at started
              simp at started
            · rw [dispatched, applyCheckpointMutation, if_neg (not_not.mpr kind), bootstrap]
              rfl
        | some spec =>
            apply answered
            rw [dispatched, applyCheckpointMutation, if_neg (not_not.mpr kind), bootstrap]
            dsimp only
            rw [prior]
            rfl
      · refine refused (.kind "checkpoint mutation reached the control group")
          (fun addressed => kind addressed.1) ?_
        rw [dispatched, applyCheckpointMutation, if_pos kind]
        rfl
  | applySecurityMutation mutation =>
      cases carries
      have dispatched : view.applyCommand logId (.applySecurityMutation mutation) =
          view.applySecurityMutation mutation := rfl
      by_cases kind : view.identity.kind = .control
      · apply answered
        rw [dispatched, applySecurityMutation, if_neg (not_not.mpr kind), prior]
        rfl
      · refine refused (.kind "security policy mutation reached a data group") kind ?_
        rw [dispatched, applySecurityMutation, if_pos kind]
        rfl
  | activateSecuredTransport transport topology policy =>
      cases carries
      have dispatched : view.applyCommand logId
          (.activateSecuredTransport request topology policy) =
            view.applySecuredTransport request topology policy := rfl
      by_cases kind : view.identity.kind = .control
      · apply answered
        rw [dispatched, applySecuredTransport, if_neg (not_not.mpr kind), prior]
        rfl
      · refine refused (.kind "secured transport activation reached a data group") kind ?_
        rw [dispatched, applySecuredTransport, if_pos kind]
        rfl
  | _ => cases carries

end Retried

end GroupView

def Step.Unchanged (step : Step) : Prop :=
  step.after = step.before.commit ⟨[.put .applied step.entry.logId], []⟩

/-- The step is the recorded execution of a request: it let the session pass the request. -/
def Step.Records (step : Step) (request : MutationRequestId) (fingerprint : MutationFingerprint) :
    Prop :=
  step.entry.mutation = some (request, fingerprint) ∧ ¬step.before.view.Passed request ∧
    step.after.view.Passed request

instance passedDecidable (view : GroupView) (request : MutationRequestId) :
    Decidable (view.Passed request) := inferInstanceAs (Decidable (_ = true))

instance recordsDecidable (step : Step) (request : MutationRequestId)
    (fingerprint : MutationFingerprint) : Decidable (step.Records request fingerprint) :=
  inferInstanceAs (Decidable (_ ∧ _ ∧ _))

namespace GroupDb

variable {identity : GroupIdentity} {window : Nat} {content : PayloadId → Record}
  {Allowed : GroupDb → GroupEntry → Prop} {history : List GroupEntry} {steps : List Step}
  {db next : GroupDb} {entry : GroupEntry} {result : ApplyResult} {request : MutationRequestId}
  {fingerprint : MutationFingerprint}

def Stores (db next : GroupDb) (request : MutationRequestId) (fingerprint : MutationFingerprint)
    (result : ApplyResult) : Prop :=
  db.view.priorMutationResult request fingerprint = none ∧
    ∃ base : GroupView, (∀ key : StateKey, key.family = .mutation →
        base.get key = db.view.get key) ∧
      ∀ key : StateKey, key.family = .mutation → next.view.get key =
        (base.after (db.view.storeMutationResult request fingerprint result)).get key

theorem applyEntry_unmutated (carries : entry.mutation = none)
    (done : db.applyEntry entry = .ok (result, next)) :
    ∀ key : StateKey, key.family = .mutation → next.view.get key = db.view.get key := by
  intro key inside
  rw [view_get, view_get]
  cases applyEntry_case done with
  | quiet silent noop same => exact same key (by simp [inside])
  | fenced command held normal included isHeld answer replayed answered same =>
      exact same key (by simp [inside])
  | dispatched command write normal free dispatched reads =>
      have unmutated : command.mutation = none := by
        rwa [GroupEntry.mutation, normal] at carries
      rw [reads key (by simp [inside]), GroupView.dispatch_unmutated unmutated dispatched key inside,
        view_get]

theorem applyEntry_mutation (carries : entry.mutation = some (request, fingerprint))
    (done : db.applyEntry entry = .ok (result, next)) :
    next = db.commit ⟨[.put .applied entry.logId], []⟩ ∨
      db.Stores next request fingerprint result := by
  obtain ⟨logId, payload⟩ := entry
  cases payload with
  | blank => simp [GroupEntry.mutation] at carries
  | membership membership => simp [GroupEntry.mutation] at carries
  | normal command =>
      unfold applyEntry at done
      split at done
      · simp at done
      rename_i answer write handled
      cases done
      have handled : db.view.applyCommand logId command = .ok (result, write) := handled
      rcases GroupView.applyCommand_dispatched handled with dispatched | rfl
      · cases GroupView.dispatch_mutation carries dispatched with
        | silent => exact .inl rfl
        | stored fresh result writes apart =>
            refine .inr ⟨fresh, db.view.after writes, apart, fun key inside => ?_⟩
            have read := @commit_applied_get db logId ⟨writes ++ db.view.storeMutationResult request
              fingerprint result, []⟩ key (by rw [inside]; decide)
            rw [read, GroupView.after_append]
      · exact .inl rfl

section Steps

variable {first : MutationFingerprint} {answer : ApplyResult} {earlier : MutationRequestId}

theorem commit_applied_mutation {logId : GroupLogId} {key : StateKey}
    (inside : key.family = .mutation) :
    (db.commit ⟨[.put .applied logId], []⟩).view.get key = db.view.get key :=
  @commit_applied_get db logId ⟨[], []⟩ key (by rw [inside]; decide)

theorem applyEntry_receiptTable (table : db.view.ReceiptTable db.receiptWindow)
    (done : db.applyEntry entry = .ok (result, next)) :
    next.view.ReceiptTable db.receiptWindow := by
  cases carries : entry.mutation with
  | none => exact table.congr (applyEntry_unmutated carries done)
  | some mutation =>
      rcases applyEntry_mutation carries done with rfl | ⟨fresh, base, apart, reads⟩
      · exact table.congr fun key inside => commit_applied_mutation inside
      · have stored : (base.after (db.view.storeMutationResult mutation.1 mutation.2
            result)).ReceiptTable db.receiptWindow :=
          GroupView.ReceiptTable.stored apart fresh table
        exact stored.congr reads

theorem applyEntry_recorded (recorded : db.view.Recorded earlier first answer)
    (done : db.applyEntry entry = .ok (result, next)) :
    next.view.Recorded earlier first answer := by
  cases carries : entry.mutation with
  | none => exact recorded.congr (applyEntry_unmutated carries done)
  | some mutation =>
      rcases applyEntry_mutation carries done with rfl | ⟨fresh, base, apart, reads⟩
      · exact recorded.congr fun key inside => commit_applied_mutation inside
      · have stored : (base.after (db.view.storeMutationResult mutation.1 mutation.2
            result)).Recorded earlier first answer :=
          GroupView.Recorded.stored apart fresh recorded
        exact stored.congr reads

theorem applyEntry_records (carries : entry.mutation = some (request, fingerprint))
    (done : db.applyEntry entry = .ok (result, next)) :
    Step.Unchanged ⟨db, entry, result, next⟩ ∨
      Step.Records ⟨db, entry, result, next⟩ request fingerprint := by
  rcases applyEntry_mutation carries done with unchanged | ⟨fresh, base, apart, reads⟩
  · exact .inl unchanged
  · refine .inr ⟨carries, ?_, ?_⟩
    · show ¬db.view.Passed request
      rw [GroupView.Passed, GroupView.priorMutationResult_fresh fresh]
      simp
    · have stored : (base.after (db.view.storeMutationResult request fingerprint result)).Recorded
          request fingerprint result := GroupView.stored_recorded apart fresh
      exact (stored.congr reads).passed

theorem Records.recorded (records : Step.Records ⟨db, entry, result, next⟩ request fingerprint)
    (done : db.applyEntry entry = .ok (result, next)) :
    next.view.Recorded request fingerprint result := by
  obtain ⟨carries, before, after⟩ := records
  have carried : entry.mutation = some (request, fingerprint) := carries
  rcases applyEntry_mutation carried done with rfl | ⟨fresh, base, apart, reads⟩
  · refine absurd ?_ before
    have passed : (db.commit ⟨[.put .applied entry.logId], []⟩).view.Passed request := after
    rw [GroupView.Passed, commit_applied_mutation rfl] at passed
    exact passed
  · have stored : (base.after (db.view.storeMutationResult request fingerprint result)).Recorded
        request fingerprint result := GroupView.stored_recorded apart fresh
    exact stored.congr reads

end Steps

theorem Ran.receiptTable (ran : Ran identity window content Allowed history db) :
    db.view.ReceiptTable window := by
  have reached : ∀ view : GroupView, view.get = db.get → view.ReceiptTable window := by
    refine @Ran.invariant identity window content Allowed history db
      (fun get => ∀ view : GroupView, view.get = get → view.ReceiptTable window) ?_ ?_ ran
    · intro view empty
      exact GroupView.receiptTable_empty fun key => by rw [empty]
    · intro history db next entry result ran held due allowed done view same
      have settings : db.receiptWindow = window := ran.settings.2
      have table := held db.view rfl
      rw [← settings] at table ⊢
      exact (applyEntry_receiptTable table done).congr fun key _ => by rw [same, view_get]
  exact reached db.view rfl

theorem Traced.recorded (traced : Traced identity window content Allowed steps db) :
    ∀ step ∈ steps, ∀ request fingerprint, step.Records request fingerprint →
      db.view.Recorded request fingerprint step.result := by
  have reached : ∀ view : GroupView, view.get = db.get → ∀ step ∈ steps,
      ∀ request fingerprint, step.Records request fingerprint →
        view.Recorded request fingerprint step.result := by
    refine @Traced.invariant identity window content Allowed steps db
      (fun steps get => ∀ view : GroupView, view.get = get → ∀ step ∈ steps,
        ∀ request fingerprint, step.Records request fingerprint →
          view.Recorded request fingerprint step.result) (by simp) ?_ traced
    intro steps db next entry result traced held due allowed done view same step member request
      fingerprint records
    have reads (key : StateKey) (_ : key.family = .mutation) :
        view.get key = next.view.get key := by rw [same, view_get]
    rcases List.mem_append.mp member with earlier | last
    · exact (applyEntry_recorded (held db.view rfl step earlier _ _ records) done).congr reads
    · obtain rfl := List.mem_singleton.mp last
      exact (Records.recorded records done).congr reads
  exact reached db.view rfl

/-- The steps that carry the same request: one of the two changes nothing. -/
def TakesOnce (first later : Step) : Prop :=
  ∀ request fingerprint other, first.entry.mutation = some (request, fingerprint) →
    later.entry.mutation = some (request, other) → first.Unchanged ∨ later.Unchanged

theorem Traced.takesOnce (traced : Traced identity window content Allowed steps db) :
    (∀ step ∈ steps, ∀ request fingerprint, step.entry.mutation = some (request, fingerprint) →
      step.Unchanged ∨ step.Records request fingerprint) ∧ steps.Pairwise TakesOnce := by
  refine @Traced.invariant identity window content Allowed steps db
    (fun steps _ => (∀ step ∈ steps, ∀ request fingerprint,
      step.entry.mutation = some (request, fingerprint) →
        step.Unchanged ∨ step.Records request fingerprint) ∧ steps.Pairwise TakesOnce)
    ⟨by simp, .nil⟩ ?_ traced
  intro steps db next entry result traced held due allowed done
  obtain ⟨recording, once⟩ := held
  constructor
  · intro step member request fingerprint carries
    rcases List.mem_append.mp member with earlier | last
    · exact recording step earlier request fingerprint carries
    · obtain rfl := List.mem_singleton.mp last
      exact applyEntry_records carries done
  · refine List.pairwise_append.mpr ⟨once, List.pairwise_singleton _ _, ?_⟩
    intro first earlier later last request fingerprint other carries again
    obtain rfl := List.mem_singleton.mp last
    rcases recording first earlier request fingerprint carries with unchanged | records
    · exact .inl unchanged
    · have recorded := traced.recorded first earlier request fingerprint records
      rcases applyEntry_mutation again done with unchanged | ⟨fresh, _⟩
      · exact .inr unchanged
      · rw [recorded.prior other] at fresh
        simp at fresh

/-- The steps of a trace take each mutation request once, a recorded request is answered from its
receipt wherever a command with it reaches its group, and the receipts are those of the windows. -/
structure MutationsIdempotent (db : GroupDb) (window : Nat) (steps : List Step) : Prop where
  once : steps.Pairwise TakesOnce
  retried : ∀ first ∈ steps, ∀ request fingerprint, first.Records request fingerprint →
    ∀ logId command other, command.mutation = some (request, other) →
      ∃ result, db.applyEntry ⟨logId, .normal command⟩ =
          .ok (result, db.commit ⟨[.put .applied logId], []⟩) ∧
        (db.view.Addressed command →
          result = db.view.mutationAnswer request fingerprint first.result other) ∧
        (result = db.view.mutationAnswer request fingerprint first.result other ∨
          GroupView.Misplaced result)
  table : db.view.ReceiptTable window

/-- Mutation retries are idempotent in every run of every group. -/
theorem mutation_retries_idempotent (traced : Traced identity window content Allowed steps db) :
    db.MutationsIdempotent window steps := by
  refine ⟨traced.takesOnce.2, ?_, traced.ran.receiptTable⟩
  intro first member request fingerprint records logId command other carries
  have recorded := traced.recorded first member request fingerprint records
  obtain ⟨result, handled, addressed, answer⟩ :=
    @GroupView.applyCommand_retries db.view request other fingerprint first.result logId command
      recorded carries
  exact ⟨result, applyEntry_normal handled, addressed, answer⟩

theorem mutation_retries_idempotent_sample : ∃ (steps : List Step) (db : GroupDb),
    steps.map Step.entry = replayEntries ∧
    (db.get (.mutationReceipt (sampleRequest 1))).isSome = true ∧
    db.MutationsIdempotent 2 steps := by
  have recorded : yields (freshData.submitSteps replayEntries)
      (fun done => (done.2.get (.mutationReceipt (sampleRequest 1))).isSome) = true := by decide
  obtain ⟨done, submitted, recorded⟩ := yields_iff.mp recorded
  have traced : Traced freshData.identity 2 (fun _ => [7]) (fun _ _ => True)
      ([] ++ done.1) done.2 :=
    Traced.submitSteps .created (create_usedBelow _ _) (by decide) (by decide)
      (fun _ _ => trivial) submitted
  exact ⟨done.1, done.2, submitSteps_entries submitted, recorded,
    mutation_retries_idempotent traced⟩

def strayMutation : SecurityMutation :=
  ⟨sampleRequest 0, ⟨1, Nat.one_ne_zero⟩, .replacePrincipalGrants ⟨"reader"⟩ ∅⟩

/-- A command that reaches the wrong group under a recorded request is not answered from the
receipt. -/
theorem stray_mutation_not_retried : ∃ (steps : List Step) (db : GroupDb),
    Traced freshData.identity 2 (fun _ => [7]) (fun _ _ => True) steps db ∧
    ¬∀ first ∈ steps, ∀ request fingerprint, first.Records request fingerprint →
      ∀ logId command other, command.mutation = some (request, other) →
        ∃ result next, db.applyEntry ⟨logId, .normal command⟩ = .ok (result, next) ∧
          result = db.view.mutationAnswer request fingerprint first.result other := by
  have strayed : yields (freshData.submitSteps replayEntries)
      (fun done => (done.1.any fun first => first.entry.mutation.any fun mutation =>
          decide (mutation.1 = sampleRequest 0 ∧ mutation.2 ≠ .security strayMutation ∧
            first.Records mutation.1 mutation.2)) &&
        (done.2.get (.mutationReceipt (sampleRequest 0))).isSome &&
        decide ((done.2.applyEntry ⟨⟨1, 1, 7⟩, .normal (.applySecurityMutation
          strayMutation)⟩).map Prod.fst = .ok (.rejected (.identityMismatch
            "security policy mutation reached a data group")))) = true := by decide
  obtain ⟨done, submitted, strayed⟩ := yields_iff.mp strayed
  have traced : Traced freshData.identity 2 (fun _ => [7]) (fun _ _ => True)
      ([] ++ done.1) done.2 :=
    Traced.submitSteps .created (create_usedBelow _ _) (by decide) (by decide)
      (fun _ _ => trivial) submitted
  refine ⟨done.1, done.2, traced, fun claimed => ?_⟩
  simp only [Bool.and_eq_true, List.any_eq_true,
    Option.any_eq_true, decide_eq_true_eq] at strayed
  obtain ⟨⟨⟨first, member, ⟨request, fingerprint⟩, _, own, different, records⟩, retained⟩,
    refused⟩ := strayed
  obtain ⟨result, next, applied, answer⟩ := claimed first member request fingerprint records
    ⟨1, 1, 7⟩ (.applySecurityMutation strayMutation) (.security strayMutation)
    (by rw [show request = sampleRequest 0 from own]; rfl)
  rw [applied] at refused
  have conflict : result = .rejected .mutationConflict := by
    rw [answer, GroupView.mutationAnswer, show request = sampleRequest 0 from own, view_get,
      if_pos retained, if_neg (Ne.symm different)]
  simp [Except.map, conflict] at refused

end GroupDb

end LightStream
