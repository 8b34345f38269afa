import LightStream.Kv.Confined
import LightStream.Proofs.MutationRetries
import LightStream.Proofs.Publications
import LightStream.Server.PrincipalRequests

/-!
The receipts and sessions of a principal.  A command writes those of the principals of its request
identities and of nobody else, and what a publish receipt answers is about its own request.
-/

namespace LightStream

def StateKey.owner : StateKey → Option PrincipalId
  | .receipt _ request => some request.principal
  | .session _ principal _ => some principal
  | .mutationReceipt request => some request.principal
  | .mutationSession principal _ => some principal
  | _ => none

theorem GroupCommand.mutation_claims {command : GroupCommand} {request : MutationRequestId}
    {fingerprint : MutationFingerprint} (carries : command.mutation = some (request, fingerprint)) :
    command.claims = [request.principal] := by
  cases command <;> cases carries <;> rfl

theorem GroupCommand.families_unpublished {command : GroupCommand}
    (unpublished : command.publishing = none) :
    ∀ family ∈ [StateFamily.receipt, .session], family ∉ command.families := by
  cases command with
  | publish | publishMany => cases unpublished
  | maintainRetention => simp [families, GroupView.maintainFamilies]
  | admitReplayLease | renewReplayLease | releaseReplayLease =>
      simp [families, GroupView.leaseFamilies, GroupView.decisionFamilies]
  | exportProtocol command => cases command <;> simp [families]
  | _ => simp [families]

namespace GroupView

variable {view other : GroupView} {logId : GroupLogId} {cluster : ClusterId}
  {requestOrdinal slot : Nat} {batch : PublishBatch} {stored : StoredPublishOutcome}
  {writes : StateBatch} {outcome : PublishItemOutcome} {write : WriteBatch}
  {owners : List PrincipalId}

def SparesOthers (view other : GroupView) (owners : List PrincipalId) : Prop :=
  ∀ key name, StateKey.owner key = some name → name ∉ owners → other.get key = view.get key

theorem sparesOthers_of_confined
    (confined : Kv.Batch.Confined StateKey.owner owners writes) :
    view.SparesOthers (view.after writes) owners :=
  fun _ _ owned stranger => confined.pending owned stranger

theorem unowned_of_family {key : StateKey}
    (outside : key.family ∉ [StateFamily.receipt, .session, .mutation]) : key.owner = none := by
  cases key <;> first | rfl | simp [StateKey.family] at outside

theorem within_confined {families : List StateFamily} (within : Within families writes)
    (unowned : ∀ family ∈ [StateFamily.receipt, .session, .mutation], family ∉ families) :
    Kv.Batch.Confined StateKey.owner owners writes :=
  Kv.Batch.confined_of_unowned fun op member =>
    unowned_of_family fun inside => unowned _ inside (within op member)

theorem storeMutationResult_confined {request : MutationRequestId}
    {fingerprint : MutationFingerprint} {result : ApplyResult} :
    Kv.Batch.Confined StateKey.owner [request.principal]
      (view.storeMutationResult request fingerprint result) := by
  unfold storeMutationResult
  rw [Kv.Batch.confined_cons]
  refine ⟨by simp [StateKey.owner], ?_⟩
  split <;> simp [Kv.Batch.Confined, StateKey.owner, mutationSessionKey]

theorem receiptWrites_confined {session : SessionState} :
    Kv.Batch.Confined StateKey.owner [batch.request.principal]
      (view.receiptWrites batch session stored) := by
  unfold receiptWrites
  rw [Kv.Batch.confined_cons]
  refine ⟨by simp [StateKey.owner], ?_⟩
  split <;> simp [Kv.Batch.Confined, StateKey.owner, sessionKey, expiredRequest]

theorem Records.confined (records : view.Records batch stored writes) :
    Kv.Batch.Confined StateKey.owner [batch.request.principal] writes := by
  obtain ⟨before, rfl, within⟩ := records.split
  rw [Kv.Batch.confined_append]
  exact ⟨within_confined within (by decide), receiptWrites_confined⟩

def ReceiptsOwned (view : GroupView) : Prop :=
  ∀ partition request stored, view.get (.receipt partition request) = some stored →
    ∀ receipt, stored.outcome = .ok receipt → receipt.request = request

theorem receiptsOwned_empty (empty : ∀ key, view.get key = none) : view.ReceiptsOwned := by
  intro partition request stored found
  rw [empty] at found
  simp at found

theorem ReceiptsOwned.congr (owned : view.ReceiptsOwned)
    (same : ∀ key : StateKey, key.family = .receipt → other.get key = view.get key) :
    other.ReceiptsOwned := by
  intro partition request stored found
  rw [same _ rfl] at found
  exact owned partition request stored found

theorem answer_outcome {receipt : PublishReceipt} (answered : stored.answer batch = .ok receipt) :
    stored.outcome = .ok receipt := by
  unfold StoredPublishOutcome.answer at answered
  split at answered
  · split at answered
    · exact answered
    · simp at answered
  · split at answered
    · exact answered
    · simp at answered

theorem ReceiptsOwned.records (owned : view.ReceiptsOwned)
    (records : view.Records batch stored writes)
    (own : ∀ receipt, stored.outcome = .ok receipt → receipt.request = batch.request) :
    (view.after writes).ReceiptsOwned := by
  intro partition request found read receipt answers
  unfold GroupView.after Kv.pending at read
  dsimp only at read
  rw [records.effect (by simp [StateKey.family, publishFamilies]),
    receiptWrites_effect_receipt] at read
  split at read
  · simp at read
  split at read
  · rename_i same
    rw [same.2]
    cases read
    exact own receipt answers
  · exact owned partition request found read receipt answers

section Batches

variable {txn : PublishApplyTxn}

theorem PublishCase.own (owned : view.ReceiptsOwned)
    (done : PublishCase view logId cluster requestOrdinal slot batch outcome write) :
    ∀ receipt, outcome.result = .ok receipt → receipt.request = batch.request := by
  intro receipt answered
  cases done with
  | foreign => simp at answered
  | answered own stored found => exact owned _ _ stored found receipt (answer_outcome answered)
  | expired => simp at answered
  | refused own absent newer rejection => cases rejection <;> simp [StoredPublishResult.asResult] at answered
  | accepted =>
      cases answered
      rfl

theorem ItemCase.own (base : view.ReceiptsOwned) (owned : (txn.committed view).ReceiptsOwned)
    (item : ItemCase view txn logId cluster requestOrdinal slot batch outcome write) :
    ∀ receipt, outcome.result = .ok receipt → receipt.request = batch.request := by
  cases item with
  | stale own evicted stored found =>
      intro receipt answered
      exact base _ _ stored found receipt (answer_outcome answered)
  | current present done => exact done.own owned

theorem ItemCase.confined
    (item : ItemCase view txn logId cluster requestOrdinal slot batch outcome write) :
    Kv.Batch.Confined StateKey.owner [batch.request.principal] write.state := by
  cases item with
  | stale => exact Kv.Batch.confined_nil
  | current present done =>
      rcases done.quiet_or_records with rfl | ⟨_, _, _, records⟩
      · exact Kv.Batch.confined_nil
      · exact records.confined

theorem ItemCase.receiptsOwned (base : view.ReceiptsOwned)
    (owned : (txn.committed view).ReceiptsOwned)
    (item : ItemCase view txn logId cluster requestOrdinal slot batch outcome write) :
    ((txn.committed view).after write.state).ReceiptsOwned := by
  have own := item.own base owned
  cases item with
  | stale => exact owned
  | current present done =>
      rcases done.quiet_or_records with rfl | ⟨result, _, answer, records⟩
      · exact owned
      · refine owned.records records fun receipt answers => own receipt ?_
        rw [answer]
        exact answers

structure OwnTrace (view : GroupView) (requests : List PublishBatch) (txn last : PublishApplyTxn)
    (trace : List Occurrence) : Prop where
  owned : (last.committed view).ReceiptsOwned
  batches : trace.map Occurrence.batch = requests
  own : ∀ this ∈ trace, ∀ receipt, this.result = .ok receipt → receipt.request = this.batch.request
  confined : ∃ added, last.write.state = txn.write.state ++ added ∧
    Kv.Batch.Confined StateKey.owner (requests.map fun publish => publish.request.principal) added

theorem publishTrace_own (base : view.ReceiptsOwned) : ∀ {requests : List PublishBatch}
      {requestOrdinal slot : Nat} {txn last : PublishApplyTxn} {trace : List Occurrence},
      txn.Sound view → (txn.committed view).ReceiptsOwned →
      view.publishTrace logId cluster requests requestOrdinal slot txn = .ok (trace, last) →
      view.OwnTrace requests txn last trace := by
  intro requests
  induction requests with
  | nil =>
      intro requestOrdinal slot txn last trace sound owned traced
      cases traced
      exact ⟨owned, rfl, by simp, [], (List.append_nil _).symm, Kv.Batch.confined_nil⟩
  | cons publish rest ih =>
      intro requestOrdinal slot txn last trace sound owned traced
      rw [publishTrace] at traced
      split at traced
      · simp at traced
      rename_i outcome next item
      split at traced
      · simp at traced
      rename_i others final tail
      cases traced
      obtain ⟨nextSound, write, written, itemCase⟩ := publishItem_cases sound item
      have nextOwned : (next.committed view).ReceiptsOwned := by
        rw [committed_append written]
        exact itemCase.receiptsOwned base owned
      obtain ⟨lastOwned, batches, own, added, appended, confined⟩ := ih nextSound nextOwned tail
      refine ⟨lastOwned, ?_, ?_, write.state ++ added, ?_, ?_⟩
      · rw [List.map_cons, batches]
      · intro this member receipt answered
        rcases List.mem_cons.mp member with rfl | inRest
        · exact itemCase.own base owned receipt answered
        · exact own this inRest receipt answered
      · rw [appended, written]
        exact List.append_assoc _ _ _
      · rw [Kv.Batch.confined_append]
        refine ⟨itemCase.confined.mono (by simp), confined.mono fun name member => ?_⟩
        exact List.mem_cons_of_mem _ member

inductive PublishManyCase (view : GroupView) (batch : ReplicatedPublishBatch) :
    ApplyResult → WriteBatch → Prop
  | refused (error : DomainError) : PublishManyCase view batch (.rejected error) ⟨[], []⟩
  | traced (trace : List Occurrence) (last : PublishApplyTxn)
      (own : view.OwnTrace batch.requests PublishApplyTxn.new last trace) :
      PublishManyCase view batch (.publishedMany (trace.map Occurrence.outcome)) last.write

theorem applyPublishMany_case {batch : ReplicatedPublishBatch} {result : ApplyResult}
    (owned : view.ReceiptsOwned)
    (done : view.applyPublishMany logId batch = .ok (result, write)) :
    view.PublishManyCase batch result write := by
  unfold applyPublishMany at done
  split at done
  · cases done
    exact .refused _
  split at done
  · cases done
    exact .refused _
  rename_i spec bootstrapped
  rw [publishLoop_eq_publishTrace PublishApplyTxn.new_sound] at done
  split at done
  · simp at done
  rename_i outcomes txn looped
  split at looped
  · simp at looped
  rename_i trace last traced
  cases looped
  cases done
  exact .traced trace txn (publishTrace_own owned PublishApplyTxn.new_sound owned traced)

theorem applyPublish_answered {result : ApplyResult} (owned : view.ReceiptsOwned)
    (done : view.applyPublish logId batch = .ok (result, write)) :
    (∃ receipt, result = .published receipt ∧ receipt.request = batch.request) ∨
      ∃ error, result = .rejected error := by
  unfold applyPublish reject reply at done
  split at done
  · cases done
    exact .inr ⟨_, rfl⟩
  split at done
  · cases done
    exact .inr ⟨_, rfl⟩
  split at done
  · cases done
    exact .inr ⟨_, rfl⟩
  split at done
  · simp at done
  · rename_i existing found
    split at done
    · cases done
      exact .inl ⟨_, rfl, owned _ _ _ found _ rfl⟩
    · cases done
      exact .inr ⟨_, rfl⟩
  rename_i absent
  dsimp only at done
  split at done
  · cases done
    exact .inr ⟨_, rfl⟩
  rename_i newer
  simp only [Bool.not_eq_true] at newer
  unfold publishUnbatchedNew at done
  split at done
  · simp at done
  split at done
  · obtain ⟨published, _⟩ := publishUnbatched_records (within_nil _) rfl absent newer done
    exact .inl ⟨_, published, rfl⟩
  · split at done
    · simp at done
    · rename_i bookmark bookmarkWrite created
      have within := (createBookmarkRecord_footprint _ _ _ _ _ _ _ created).1
      obtain ⟨published, _⟩ := publishUnbatched_records within rfl absent newer done
      exact .inl ⟨_, published, rfl⟩
    · cases done
      exact .inr ⟨_, rfl⟩
    · simp at done

theorem applyPublish_own {result : ApplyResult} (owned : view.ReceiptsOwned)
    (done : view.applyPublish logId batch = .ok (result, write)) :
    Kv.Batch.Confined StateKey.owner [batch.request.principal] write.state ∧
      (view.after write.state).ReceiptsOwned := by
  rcases applyPublish_quiet_or_records done with quiet | ⟨receipt, published, _, records⟩
  · rw [quiet]
    exact ⟨Kv.Batch.confined_nil, owned⟩
  · subst published
    refine ⟨records.confined, owned.records records fun answered same => ?_⟩
    cases same
    rcases applyPublish_answered owned done with ⟨_, same, own⟩ | ⟨_, same⟩
    · cases same
      exact own
    · cases same

end Batches

section Commands

variable {command : GroupCommand} {result : ApplyResult}

theorem dispatch_sparesOthers (owned : view.ReceiptsOwned)
    (done : view.dispatch logId command = .ok (result, write)) :
    view.SparesOthers (view.after write.state) command.claims := by
  have others (unpublished : command.publishing = none) :
      view.SparesOthers (view.after write.state) command.claims := by
    intro key name belongs stranger
    have silent (inside : key.family ∈ [StateFamily.receipt, .session]) :
        (view.after write.state).get key = view.get key :=
      after_get_of_within (dispatch_within command result write done)
        (GroupCommand.families_unpublished unpublished _ inside)
    by_cases mutation : key.family = .mutation
    · cases carries : command.mutation with
      | none => exact dispatch_unmutated carries done key mutation
      | some carried =>
          obtain ⟨request, fingerprint⟩ := carried
          rw [GroupCommand.mutation_claims carries] at stranger
          cases dispatch_mutation carries done with
          | silent => rfl
          | stored fresh result writes apart =>
              rw [after_append]
              exact (storeMutationResult_confined.pending belongs stranger).trans
                (apart key mutation)
    · refine silent ?_
      by_contra outside
      rw [unowned_of_family (by simp_all)] at belongs
      simp at belongs
  cases command with
  | publish batch => exact sparesOthers_of_confined (applyPublish_own owned done).1
  | publishMany batch =>
      cases applyPublishMany_case owned done with
      | refused => exact fun _ _ _ _ => rfl
      | traced trace last own =>
          obtain ⟨added, appended, confined⟩ := own.confined
          rw [appended]
          exact sparesOthers_of_confined confined
  | _ => exact others rfl

theorem dispatch_receiptsOwned (owned : view.ReceiptsOwned)
    (done : view.dispatch logId command = .ok (result, write)) :
    (view.after write.state).ReceiptsOwned := by
  have others (unpublished : command.publishing = none) :
      (view.after write.state).ReceiptsOwned := by
    refine owned.congr fun key inside => ?_
    refine after_get_of_within (dispatch_within command result write done) ?_
    exact GroupCommand.families_unpublished unpublished _ (by simp [inside])
  cases command with
  | publish batch => exact (applyPublish_own owned done).2
  | publishMany batch =>
      cases applyPublishMany_case owned done with
      | refused => exact owned
      | traced trace last own => exact own.owned
  | _ => exact others rfl

end Commands

end GroupView

namespace GroupDb

variable {identity : GroupIdentity} {window : Nat} {content : PayloadId → Record}
  {Allowed : GroupDb → GroupEntry → Prop} {history : List GroupEntry} {db next : GroupDb}
  {entry : GroupEntry} {result : ApplyResult}

theorem Ran.receiptsOwned (ran : Ran identity window content Allowed history db) :
    db.view.ReceiptsOwned := by
  refine @Ran.upheld identity window content Allowed history db GroupView.ReceiptsOwned
    [.receipt] (by decide) ?_ GroupView.receiptsOwned_empty ?_ ran
  · intro view other owned same
    exact owned.congr fun key inside => same key (by simp [inside])
  · intro history db logId command result write ran owned due allowed free done
    exact GroupView.dispatch_receiptsOwned owned done

theorem applyEntry_spares (owned : db.view.ReceiptsOwned)
    (done : db.applyEntry entry = .ok (result, next)) :
    db.view.SparesOthers next.view entry.payload.claims := by
  have stored {key : StateKey} {name : PrincipalId} (belongs : key.owner = some name) :
      key.family ∈ [StateFamily.receipt, .session, .mutation] := by
    by_contra outside
    rw [GroupView.unowned_of_family outside] at belongs
    simp at belongs
  intro key name belongs stranger
  have inside := stored belongs
  rw [view_get, view_get]
  cases applyEntry_case done with
  | quiet silent noop same =>
      refine same key ?_
      simp only [List.mem_cons, List.not_mem_nil, or_false] at inside ⊢
      rcases inside with inside | inside | inside <;> simp [inside]
  | fenced command held normal included isHeld answer replayed answered same =>
      refine same key ?_
      simp only [List.mem_cons, List.not_mem_nil, or_false] at inside ⊢
      rcases inside with inside | inside | inside <;> simp [inside]
  | dispatched command write normal free dispatched reads =>
      have outside : key.family ∉ [StateFamily.applied] := by
        simp only [List.mem_cons, List.not_mem_nil, or_false] at inside ⊢
        rcases inside with inside | inside | inside <;> simp [inside]
      rw [normal] at stranger
      rw [reads key outside]
      exact GroupView.dispatch_sparesOthers owned dispatched key name belongs stranger

end GroupDb

end LightStream
