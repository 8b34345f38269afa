import LightStream.Proofs.StateMachine

/-!
Stores that differ in their payloads only.  A handler reads of a payload whether it has owners, and
a reclaim whether the log is one of them; where these agree it answers and writes the same state, or
fails alike.
-/

namespace LightStream

/-- Two computations fail with the same error, or their results are related. -/
def Alike {α β : Type} (related : α → β → Prop) (first : Except IoError α)
    (second : Except IoError β) : Prop :=
  (∃ error, first = .error error ∧ second = .error error) ∨
    ∃ left right, first = .ok left ∧ second = .ok right ∧ related left right

section Alike

variable {α β : Type} {related : α → β → Prop}

theorem alike_error (error : IoError) : Alike related (.error error) (.error error) :=
  .inl ⟨error, rfl, rfl⟩

theorem alike_ok {left : α} {right : β} (same : related left right) :
    Alike related (.ok left) (.ok right) :=
  .inr ⟨left, right, rfl, rfl, same⟩

end Alike

def SameAnswer (first second : ApplyResult × WriteBatch) : Prop :=
  second.1 = first.1 ∧ second.2.state = first.2.state

def PublishApplyTxn.withPayload (txn : PublishApplyTxn) (payload : PayloadBatch) :
    PublishApplyTxn :=
  { txn with write := ⟨txn.write.state, payload⟩ }

def SameTxn {α : Type} (first second : α × PublishApplyTxn) : Prop :=
  ∃ payload, second = (first.1, first.2.withPayload payload)

namespace GroupView

def reowned (bank : StateBank) (owners : PayloadId → Option PayloadOwners) (view : GroupView) :
    GroupView :=
  { view with activeBank := bank, owners := owners }

variable {view : GroupView} {logId : GroupLogId} {bank : StateBank}
  {owners : PayloadId → Option PayloadOwners}

def SlotsAgree (view : GroupView) (owners : PayloadId → Option PayloadOwners) (logId : GroupLogId)
    (slot count : Nat) : Prop :=
  ∀ place, slot ≤ place → place < slot + count →
    (owners ⟨logId, place⟩).isSome = (view.owners ⟨logId, place⟩).isSome

theorem SlotsAgree.within {slot count first length : Nat}
    (agree : view.SlotsAgree owners logId slot count) (low : slot ≤ first)
    (high : first + length ≤ slot + count) : view.SlotsAgree owners logId first length :=
  fun place after before => agree place (by omega) (by omega)

theorem storeRecords_reowned {partition : PartitionKey} {records : List Record} {slot offset : Nat}
    {retention : PartitionRetentionState} {write : WriteBatch}
    (agree : view.SlotsAgree owners logId slot records.length) (payload : PayloadBatch) :
    Alike (fun first second => ∃ moved, second = (first.1, ⟨first.2.state, moved⟩))
      (view.storeRecords logId partition records slot offset retention write)
      ((view.reowned bank owners).storeRecords logId partition records slot offset retention
        ⟨write.state, payload⟩) := by
  induction records generalizing slot offset retention write payload with
  | nil => exact alike_ok ⟨payload, rfl⟩
  | cons record rest ih =>
      have length : (record :: rest).length = rest.length + 1 := List.length_cons
      have head := agree slot le_rfl (by omega)
      have tail : view.SlotsAgree owners logId (slot + 1) rest.length :=
        agree.within (by omega) (by omega)
      unfold storeRecords
      have reads : (view.reowned bank owners).owners = owners := rfl
      have active : (view.reowned bank owners).activeBank = bank := rfl
      rw [reads, active]
      cases held : view.owners ⟨logId, slot⟩ with
      | none =>
          rw [held, Option.isSome_none, Option.isSome_eq_false_iff, Option.isNone_iff_eq_none]
            at head
          rw [head]
          exact alike_error _
      | some mine =>
          rw [held, Option.isSome_some, Option.isSome_iff_exists] at head
          obtain ⟨theirs, head⟩ := head
          rw [head]
          dsimp only
          split
          · exact alike_error _
          · exact ih tail _

end GroupView

namespace PublishApplyTxn

variable {view : GroupView} {logId : GroupLogId} {bank : StateBank}
  {owners : PayloadId → Option PayloadOwners} (txn : PublishApplyTxn) (payload : PayloadBatch)
  (batch : PublishBatch)

theorem record_reowned (session : SessionState) (result : StoredPublishResult) :
    (txn.withPayload payload).record (view.reowned bank owners) batch session result =
      (txn.record view batch session result).withPayload payload := by
  have window : (view.reowned bank owners).receiptWindow = view.receiptWindow := rfl
  unfold record advanceSession storeOutcome
  rw [window]
  generalize session.advance view.receiptWindow batch.request.sequence = advanced
  obtain ⟨next, evicted⟩ := advanced
  cases evicted <;> rfl

theorem session_reowned : (txn.withPayload payload).session (view.reowned bank owners) batch =
    ((txn.session view batch).1, (txn.session view batch).2.withPayload payload) := by
  have cached : (txn.withPayload payload).sessions = txn.sessions := rfl
  unfold session
  rw [cached]
  cases txn.sessions (sessionIndex batch) <;> rfl

theorem bookmarkNameIsUsed_reowned (partition : PartitionKey) (name : BookmarkName) :
    (txn.withPayload payload).bookmarkNameIsUsed (view.reowned bank owners) partition name =
      ((txn.bookmarkNameIsUsed view partition name).1,
        (txn.bookmarkNameIsUsed view partition name).2.withPayload payload) := by
  have cached : (txn.withPayload payload).bookmarkNames = txn.bookmarkNames := rfl
  unfold bookmarkNameIsUsed
  rw [cached]
  cases txn.bookmarkNames (partition, name) <;> rfl

theorem nextOffset_reowned (partition : PartitionKey) :
    (txn.withPayload payload).nextOffset (view.reowned bank owners) partition =
      ((txn.nextOffset view partition).1,
        (txn.nextOffset view partition).2.withPayload payload) := by
  have cached : (txn.withPayload payload).nextOffsets = txn.nextOffsets := rfl
  unfold nextOffset
  rw [cached]
  cases txn.nextOffsets partition <;> rfl

theorem retention_reowned (partition : PartitionKey) :
    (txn.withPayload payload).retention (view.reowned bank owners) partition =
      ((txn.retention view partition).1,
        (txn.retention view partition).2.withPayload payload) := by
  have cached : (txn.withPayload payload).retentions = txn.retentions := rfl
  unfold retention
  rw [cached]
  cases txn.retentions partition <;> rfl

theorem bookmarkId_reowned (id : BookmarkId) :
    (txn.withPayload payload).bookmarkId (view.reowned bank owners) id =
      ((txn.bookmarkId view id).1, (txn.bookmarkId view id).2.withPayload payload) := by
  have cached : (txn.withPayload payload).bookmarkIds = txn.bookmarkIds := rfl
  unfold bookmarkId
  rw [cached]
  cases txn.bookmarkIds id <;> rfl

theorem bookmarkPublication_reowned (partition : PartitionKey) :
    (txn.withPayload payload).bookmarkPublication (view.reowned bank owners) partition =
      ((txn.bookmarkPublication view partition).1,
        (txn.bookmarkPublication view partition).2.withPayload payload) := by
  have cached : (txn.withPayload payload).bookmarkPublications = txn.bookmarkPublications := rfl
  unfold bookmarkPublication
  rw [cached]
  cases txn.bookmarkPublications partition <;> rfl

theorem createPublishBookmark_reowned (ordinal : Nat) (partition : PartitionKey)
    (name : BookmarkName) (offset : Nat) :
    Alike SameTxn (txn.createPublishBookmark view logId ordinal partition name offset)
      ((txn.withPayload payload).createPublishBookmark (view.reowned bank owners) logId ordinal
        partition name offset) := by
  unfold createPublishBookmark
  simp only [bookmarkId_reowned, bookmarkPublication_reowned]
  split
  · exact alike_ok ⟨payload, rfl⟩
  split
  · exact alike_error _
  · exact alike_ok ⟨payload, rfl⟩

theorem publishBookmark_reowned (ordinal offset : Nat) :
    Alike SameTxn (txn.publishBookmark view logId ordinal batch offset)
      ((txn.withPayload payload).publishBookmark (view.reowned bank owners) logId ordinal batch
        offset) := by
  unfold publishBookmark
  split
  · exact alike_ok ⟨payload, rfl⟩
  rename_i name _
  rcases @createPublishBookmark_reowned view logId bank owners txn payload ordinal batch.partition
    name offset with ⟨error, first, second⟩ | ⟨⟨answer, after⟩, _, first, second, moved, rfl⟩
  · rw [first, second]
    exact alike_error _
  · rw [first, second]
    cases answer with
    | error error => exact alike_ok ⟨moved, rfl⟩
    | ok bookmark => exact alike_ok ⟨moved, rfl⟩

end PublishApplyTxn

namespace GroupView

variable {view : GroupView} {logId : GroupLogId} {bank : StateBank}
  {owners : PayloadId → Option PayloadOwners} (payload : PayloadBatch)

theorem publishRecords_reowned (txn : PublishApplyTxn) {slot : Nat} {batch : PublishBatch}
    (agree : view.SlotsAgree owners logId slot batch.records.length) (session : SessionState)
    (retention : PartitionRetentionState) (range : CommittedRecordRange)
    (bookmark : Option CommittedBookmark) :
    Alike SameTxn
      (view.publishRecords logId txn slot batch session retention range bookmark)
      ((view.reowned bank owners).publishRecords logId (txn.withPayload payload) slot batch session
        retention range bookmark) := by
  have start : (txn.withPayload payload).write = ⟨txn.write.state, payload⟩ := rfl
  unfold publishRecords
  rw [start]
  rcases @storeRecords_reowned view logId bank owners batch.partition batch.records slot range.first
    retention txn.write agree payload with
      ⟨error, first, second⟩ | ⟨⟨final, written⟩, _, first, second, moved, rfl⟩
  · rw [first, second]
    exact alike_error _
  · rw [first, second]
    refine alike_ok ⟨moved, ?_⟩
    dsimp only
    rw [← PublishApplyTxn.record_reowned]
    rfl

theorem publishNew_reowned (txn : PublishApplyTxn) (ordinal : Nat) {slot : Nat}
    {batch : PublishBatch} (agree : view.SlotsAgree owners logId slot batch.records.length)
    (session : SessionState) :
    Alike SameTxn (view.publishNew logId txn ordinal slot batch session)
      ((view.reowned bank owners).publishNew logId (txn.withPayload payload) ordinal slot batch
        session) := by
  unfold publishNew
  simp only [PublishApplyTxn.nextOffset_reowned, PublishApplyTxn.retention_reowned,
    PublishApplyTxn.record_reowned]
  split
  · exact alike_ok ⟨payload, rfl⟩
  · exact alike_error _
  rename_i range _
  split
  · exact alike_ok ⟨payload, rfl⟩
  rcases @PublishApplyTxn.publishBookmark_reowned view logId bank owners
    (((txn.nextOffset view batch.partition).2.retention view batch.partition).2) payload batch
    ordinal range.next with
      ⟨error, first, second⟩ | ⟨⟨answer, after⟩, _, first, second, moved, rfl⟩
  · rw [first, second]
    exact alike_error _
  · rw [first, second]
    cases answer with
    | error error => exact alike_ok ⟨moved, by rw [← PublishApplyTxn.record_reowned]⟩
    | ok bookmark => exact publishRecords_reowned moved _ agree _ _ _ _

theorem applyOne_reowned (txn : PublishApplyTxn) (ordinal : Nat) {slot : Nat}
    {batch : PublishBatch} (agree : view.SlotsAgree owners logId slot batch.records.length) :
    Alike SameTxn (view.applyOne logId txn ordinal slot batch)
      ((view.reowned bank owners).applyOne logId (txn.withPayload payload) ordinal slot batch) := by
  have identity : (view.reowned bank owners).identity = view.identity := rfl
  have prior : (txn.withPayload payload).priorOutcome (view.reowned bank owners) batch =
      txn.priorOutcome view batch := rfl
  unfold applyOne
  simp only [identity, prior, PublishApplyTxn.session_reowned,
    PublishApplyTxn.bookmarkNameIsUsed_reowned, PublishApplyTxn.record_reowned]
  split
  · exact alike_ok ⟨payload, rfl⟩
  split
  · exact alike_ok ⟨payload, rfl⟩
  split
  · exact alike_ok ⟨payload, rfl⟩
  split
  · exact publishNew_reowned payload _ _ agree _
  split
  · exact alike_ok ⟨payload, rfl⟩
  · exact publishNew_reowned payload _ _ agree _

def slotCount (requests : List PublishBatch) : Nat :=
  (requests.map fun publish => publish.records.length).sum

theorem publishLoop_reowned (cluster : ClusterId) {requests : List PublishBatch} (ordinal : Nat)
    {slot : Nat} (txn : PublishApplyTxn)
    (agree : view.SlotsAgree owners logId slot (slotCount requests)) :
    Alike SameTxn (view.publishLoop logId cluster requests ordinal slot txn)
      ((view.reowned bank owners).publishLoop logId cluster requests ordinal slot
        (txn.withPayload payload)) := by
  induction requests generalizing ordinal slot txn payload with
  | nil => exact alike_ok ⟨payload, rfl⟩
  | cons publish rest ih =>
      have count : slotCount (publish :: rest) = publish.records.length + slotCount rest := by
        simp [slotCount]
      have item : Alike SameTxn (view.publishItem logId cluster txn ordinal slot publish)
          ((view.reowned bank owners).publishItem logId cluster (txn.withPayload payload) ordinal
            slot publish) := by
        unfold publishItem
        split
        · exact alike_ok ⟨payload, rfl⟩
        · exact applyOne_reowned payload _ _ (agree.within le_rfl (by omega))
      unfold publishLoop
      rcases item with ⟨error, first, second⟩ | ⟨⟨outcome, middle⟩, _, first, second, moved, rfl⟩
      · rw [first, second]
        exact alike_error _
      rw [first, second]
      dsimp only
      rcases ih moved (ordinal + 1) middle
        (agree.within (Nat.le_add_right slot publish.records.length) (by omega)) with
          ⟨error, first, second⟩ | ⟨⟨outcomes, last⟩, _, first, second, final, rfl⟩
      · rw [first, second]
        exact alike_error _
      · rw [first, second]
        exact alike_ok ⟨final, rfl⟩

theorem applyPublishMany_reowned {batch : ReplicatedPublishBatch}
    (agree : view.SlotsAgree owners logId 0 (slotCount batch.requests)) :
    Alike SameAnswer (view.applyPublishMany logId batch)
      ((view.reowned bank owners).applyPublishMany logId batch) := by
  have identity : (view.reowned bank owners).identity = view.identity := rfl
  have spec : (view.reowned bank owners).get .bootstrap = view.get .bootstrap := rfl
  unfold applyPublishMany
  rw [identity, spec]
  split
  · exact alike_ok ⟨rfl, rfl⟩
  split
  · exact alike_ok ⟨rfl, rfl⟩
  rename_i spec _
  have start : (PublishApplyTxn.new).withPayload [] = .new := rfl
  rcases @publishLoop_reowned view logId bank owners [] spec.cluster batch.requests 0 0 .new agree
    with ⟨error, first, second⟩ | ⟨⟨outcomes, last⟩, _, first, second, moved, rfl⟩
  · rw [start] at second
    rw [first, second]
    exact alike_error _
  · rw [start] at second
    rw [first, second]
    exact alike_ok ⟨rfl, rfl⟩

theorem publishUnbatched_reowned {batch : PublishBatch}
    (agree : view.SlotsAgree owners logId 0 batch.records.length) (session : SessionState)
    (range : CommittedRecordRange) (bookmark : Option CommittedBookmark) (writes : StateBatch) :
    Alike SameAnswer (view.publishUnbatched logId batch session range bookmark writes)
      ((view.reowned bank owners).publishUnbatched logId batch session range bookmark writes) := by
  have retention : (view.reowned bank owners).retentionOf batch.partition =
      view.retentionOf batch.partition := rfl
  unfold publishUnbatched
  rw [retention]
  rcases @storeRecords_reowned view logId bank owners batch.partition batch.records 0 range.first
    (view.retentionOf batch.partition) ⟨writes, []⟩ agree [] with
      ⟨error, first, second⟩ | ⟨⟨final, written⟩, _, first, second, moved, rfl⟩
  · rw [first, second]
    exact alike_error _
  · rw [first, second]
    exact alike_ok ⟨rfl, rfl⟩

theorem alike_refl (applied : Applied) : Alike SameAnswer applied applied := by
  cases applied with
  | error error => exact alike_error error
  | ok done => exact alike_ok ⟨rfl, rfl⟩

theorem applyPublish_reowned {batch : PublishBatch}
    (agree : view.SlotsAgree owners logId 0 batch.records.length) :
    Alike SameAnswer (view.applyPublish logId batch)
      ((view.reowned bank owners).applyPublish logId batch) := by
  have identity : (view.reowned bank owners).identity = view.identity := rfl
  have reads : (view.reowned bank owners).get = view.get := rfl
  have tail : (view.reowned bank owners).nextOffsetOf batch.partition =
      view.nextOffsetOf batch.partition := rfl
  have bookmark (name : BookmarkName) (offset : Nat) :
      (view.reowned bank owners).createBookmarkRecord (publishBookmarkId logId none)
          batch.partition name offset offset =
        view.createBookmarkRecord (publishBookmarkId logId none) batch.partition name offset
          offset := rfl
  unfold applyPublish
  simp only [identity, reads]
  split
  · exact alike_refl _
  split
  · exact alike_refl _
  split
  · exact alike_refl _
  split
  · exact alike_refl _
  · split
    · exact alike_refl _
    · exact alike_refl _
  split
  · exact alike_refl _
  unfold publishUnbatchedNew
  rw [tail]
  split
  · exact alike_error _
  split
  · exact publishUnbatched_reowned agree _ _ _ _
  simp only [bookmark]
  split
  · exact alike_error _
  · exact publishUnbatched_reowned agree _ _ _ _
  · exact alike_ok ⟨rfl, rfl⟩
  · exact alike_error _

/-! ### Reclaims -/

/-- Both views know the payload of a record, with the log among its owners or not, or neither. -/
def LogsAgree (view : GroupView) (owners : PayloadId → Option PayloadOwners)
    (partition : PartitionKey) (floor : Nat) : Prop :=
  ∀ offset < floor, ∀ record, view.get (.record partition offset) = some record →
    (owners record.payloadKey).map PayloadOwners.raftLog =
      (view.owners record.payloadKey).map PayloadOwners.raftLog

def SameReclaim (first second : ReclaimState) : Prop :=
  ∃ payload, second = { first with write := ⟨first.write.state, payload⟩ }

theorem raftLog_reachable (owners : PayloadOwners) (bank : StateBank) (applied : Bool) :
    ((owners.setAppliedIn bank applied).reachable = true ∧
      (owners.setAppliedIn bank applied).raftLog = true) ↔ owners.raftLog = true := by
  have kept : (owners.setAppliedIn bank applied).raftLog = owners.raftLog := rfl
  rw [kept]
  constructor
  · exact And.right
  · intro logged
    refine ⟨?_, logged⟩
    rw [PayloadOwners.reachable, kept, logged]
    rfl

theorem reclaim_sameReclaim {first second : ReclaimState} (same : SameReclaim first second)
    (partition : PartitionKey) (record : StoredRecord) {mine theirs : PayloadOwners}
    (logged : theirs.raftLog = mine.raftLog) (bank other : StateBank) :
    SameReclaim (first.reclaim partition record (mine.setAppliedIn bank false))
      (second.reclaim partition record (theirs.setAppliedIn other false)) := by
  obtain ⟨payload, rfl⟩ := same
  refine ⟨payload ++ releasePayload record.payloadKey (theirs.setAppliedIn other false), ?_⟩
  unfold ReclaimState.reclaim
  simp only [raftLog_reachable, logged]

theorem reclaimStep_reowned {partition : PartitionKey} {ranges : List ReplayRange}
    {maxPayloadBytes : Nat} {first second : ReclaimState} (same : SameReclaim first second)
    (agree : ∀ record, view.get (.record partition first.retention.reclaimCursor) = some record →
      (owners record.payloadKey).map PayloadOwners.raftLog =
        (view.owners record.payloadKey).map PayloadOwners.raftLog) :
    Alike (Option.Rel SameReclaim) (view.reclaimStep partition ranges maxPayloadBytes first)
      ((view.reowned bank owners).reclaimStep partition ranges maxPayloadBytes second) := by
  have reads : (view.reowned bank owners).get = view.get := rfl
  have owned : (view.reowned bank owners).owners = owners := rfl
  have active : (view.reowned bank owners).activeBank = bank := rfl
  have whole := same
  obtain ⟨payload, rfl⟩ := same
  unfold reclaimStep
  rw [reads, owned, active]
  dsimp only
  split
  · exact alike_ok (.some ⟨payload, rfl⟩)
  split
  · exact alike_ok (.some ⟨payload, rfl⟩)
  rename_i record stored
  split
  · exact alike_ok .none
  have logged := agree record stored
  cases held : view.owners record.payloadKey with
  | none =>
      rw [held, Option.map_none, Option.map_eq_none_iff] at logged
      rw [logged]
      exact alike_error _
  | some mine =>
      rw [held, Option.map_some, Option.map_eq_some_iff] at logged
      obtain ⟨theirs, found, flag⟩ := logged
      rw [found]
      exact alike_ok (.some (reclaim_sameReclaim whole partition record flag _ _))

theorem reclaimStep_floor {partition : PartitionKey} {ranges : List ReplayRange}
    {maxPayloadBytes : Nat} {reclaim next : ReclaimState}
    (stepped : view.reclaimStep partition ranges maxPayloadBytes reclaim = .ok (some next)) :
    next.retention.logicalFloor = reclaim.retention.logicalFloor := by
  unfold reclaimStep at stepped
  dsimp only at stepped
  split at stepped
  · cases stepped
    rfl
  split at stepped
  · cases stepped
    rfl
  split at stepped
  · cases stepped
  split at stepped
  · cases stepped
  · cases stepped
    rfl

theorem reclaimLoop_reowned {partition : PartitionKey} {ranges : List ReplayRange}
    {maxRecords maxPayloadBytes fuel : Nat} {first second : ReclaimState}
    (same : SameReclaim first second) {floor : Nat} (top : first.retention.logicalFloor = floor)
    (agree : view.LogsAgree owners partition floor) :
    Alike SameReclaim
      (view.reclaimLoop partition ranges maxRecords maxPayloadBytes fuel first)
      ((view.reowned bank owners).reclaimLoop partition ranges maxRecords maxPayloadBytes fuel
        second) := by
  induction fuel generalizing first second with
  | zero => exact alike_ok same
  | succ fuel ih =>
      have retention : second.retention = first.retention := by
        obtain ⟨payload, rfl⟩ := same
        rfl
      have examined : second.examined = first.examined := by
        obtain ⟨payload, rfl⟩ := same
        rfl
      unfold reclaimLoop
      rw [retention, examined]
      split
      · rename_i going
        rcases @reclaimStep_reowned view bank owners partition ranges maxPayloadBytes first second
          same (fun record stored => agree _ (by omega) record stored) with
            ⟨error, left, right⟩ | ⟨stepped, _, left, right, related⟩
        · rw [left, right]
          exact alike_error _
        · rw [left, right]
          cases related with
          | none => exact alike_ok same
          | some next => exact ih next (by rw [reclaimStep_floor left, top])
      · exact alike_ok same

theorem expireRetention_reowned (range : ReplayRange)
    (retentions : List (PartitionKey × PartitionRetentionState)) :
    (view.reowned bank owners).expireRetention range retentions =
      view.expireRetention range retentions := by
  induction retentions with
  | nil => rfl
  | cons entry rest ih => rw [expireRetention, expireRetention, ih]

theorem expireDueLeases_reowned (clock : SafeLeaseClock) :
    (view.reowned bank owners).expireDueLeases clock = view.expireDueLeases clock := by
  have step : (view.reowned bank owners).expireLease clock = view.expireLease clock := by
    funext expiry lease
    rw [expireLease, expireRetention_reowned]
    rfl
  rw [expireDueLeases, step]
  rfl

theorem leaseCommand_reowned (request : MutationRequestId) (fingerprint : MutationFingerprint)
    (observation : ClockObservation) (decide : SafeLeaseClock → LeaseExpiryState → LeaseDecision) :
    (view.reowned bank owners).leaseCommand request fingerprint observation decide =
      view.leaseCommand request fingerprint observation decide := by
  unfold leaseCommand
  simp only [expireDueLeases_reowned]
  rfl

theorem checkSelection_reowned (cluster : ClusterId) (streams : List StreamId) :
    (view.reowned bank owners).checkSelection cluster streams =
      view.checkSelection cluster streams := by
  induction streams with
  | nil => rfl
  | cons stream rest ih =>
      unfold checkSelection
      rw [ih]
      rfl

theorem applyExport_reowned (command : ExportCommand) :
    (view.reowned bank owners).applyExport logId command = view.applyExport logId command := by
  cases command with
  | begin intent deadline =>
      show (view.reowned bank owners).applyBeginExport logId intent deadline =
        view.applyBeginExport logId intent deadline
      unfold applyBeginExport startExport
      rw [checkSelection_reowned]
      rfl
  | _ => rfl

theorem applyMaintainRetention_reowned {partition : PartitionKey}
    {expectedCursor maxRecords maxPayloadBytes : Nat} {observation : ClockObservation}
    (agree : view.LogsAgree owners partition (view.retentionOf partition).logicalFloor) :
    Alike SameAnswer
      (view.applyMaintainRetention partition expectedCursor maxRecords maxPayloadBytes observation)
      ((view.reowned bank owners).applyMaintainRetention partition expectedCursor maxRecords
        maxPayloadBytes observation) := by
  have stored : (view.reowned bank owners).retentionOf partition = view.retentionOf partition := rfl
  have advanced : (view.reowned bank owners).advanceLeaseClock observation =
      view.advanceLeaseClock observation := rfl
  have retention (expiry : LeaseExpiryState) :
      expiry.retentionFor (view.reowned bank owners) partition =
        expiry.retentionFor view partition := rfl
  have writes (expiry : LeaseExpiryState) :
      (view.reowned bank owners).expiryWrites expiry = view.expiryWrites expiry := rfl
  unfold applyMaintainRetention
  simp only [stored, advanced, expireDueLeases_reowned, retention, writes]
  split
  · exact alike_refl _
  split
  · exact alike_refl _
  split
  · exact alike_refl _
  rename_i clock _
  have floor := @expireDueLeases_floor view clock partition
  rcases @reclaimLoop_reowned view bank owners partition
    (activeRanges (view.expireDueLeases clock) partition) maxRecords maxPayloadBytes
    (((view.expireDueLeases clock).retentionFor view partition).logicalFloor -
      ((view.expireDueLeases clock).retentionFor view partition).reclaimCursor)
    ⟨(view.expireDueLeases clock).retentionFor view partition, 0, 0,
      ⟨view.expiryWrites (view.expireDueLeases clock), []⟩⟩ _ ⟨[], rfl⟩ _ floor agree with
        ⟨error, first, second⟩ | ⟨after, _, first, second, moved, rfl⟩
  · rw [first, second]
    exact alike_error _
  · rw [first, second]
    exact alike_ok ⟨rfl, rfl⟩

def PayloadsAgree (view : GroupView) (owners : PayloadId → Option PayloadOwners)
    (logId : GroupLogId) : GroupCommand → Prop
  | .publish batch => view.SlotsAgree owners logId 0 batch.records.length
  | .publishMany batch => view.SlotsAgree owners logId 0 (slotCount batch.requests)
  | .maintainRetention partition _ _ _ _ =>
      view.LogsAgree owners partition (view.retentionOf partition).logicalFloor
  | _ => True

theorem dispatch_reowned {command : GroupCommand}
    (agree : view.PayloadsAgree owners logId command) :
    Alike SameAnswer (view.dispatch logId command)
      ((view.reowned bank owners).dispatch logId command) := by
  cases command with
  | publish batch => exact applyPublish_reowned agree
  | publishMany batch => exact applyPublishMany_reowned agree
  | maintainRetention partition expectedCursor maxRecords maxPayloadBytes clock =>
      exact applyMaintainRetention_reowned agree
  | admitReplayLease request clock =>
      have same : (view.reowned bank owners).dispatch logId (.admitReplayLease request clock) =
          view.dispatch logId (.admitReplayLease request clock) := leaseCommand_reowned _ _ _ _
      rw [same]
      exact alike_refl _
  | renewReplayLease request clock =>
      have same : (view.reowned bank owners).dispatch logId (.renewReplayLease request clock) =
          view.dispatch logId (.renewReplayLease request clock) :=
        @leaseCommand_reowned view bank owners request.request (.renew request) clock
          fun clock _ => view.renewDecision request clock
      rw [same]
      exact alike_refl _
  | releaseReplayLease request clock =>
      have same : (view.reowned bank owners).dispatch logId (.releaseReplayLease request clock) =
          view.dispatch logId (.releaseReplayLease request clock) := leaseCommand_reowned _ _ _ _
      rw [same]
      exact alike_refl _
  | exportProtocol command =>
      have same : (view.reowned bank owners).dispatch logId (.exportProtocol command) =
          view.dispatch logId (.exportProtocol command) := applyExport_reowned command
      rw [same]
      exact alike_refl _
  | _ => exact alike_refl _

theorem applyCommand_reowned {command : GroupCommand}
    (agree : view.PayloadsAgree owners logId command) :
    Alike SameAnswer (view.applyCommand logId command)
      ((view.reowned bank owners).applyCommand logId command) := by
  have fence : (view.reowned bank owners).mutationFenceState = view.mutationFenceState := rfl
  have replay (exportId : ExportId) :
      (view.reowned bank owners).replayIncludedCommand exportId command =
        view.replayIncludedCommand exportId command := rfl
  unfold applyCommand
  simp only [fence, replay]
  split
  · split
    · exact dispatch_reowned agree
    · exact alike_refl _
  · exact dispatch_reowned agree

theorem applyPayload_reowned {payload : EntryPayload}
    (agree : ∀ command, payload = .normal command → view.PayloadsAgree owners logId command) :
    Alike SameAnswer (view.applyPayload logId payload)
      ((view.reowned bank owners).applyPayload logId payload) := by
  cases payload with
  | blank => exact alike_refl _
  | membership membership => exact alike_refl _
  | normal command => exact applyCommand_reowned (agree command rfl)

end GroupView

end LightStream
