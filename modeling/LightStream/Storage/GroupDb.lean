import LightStream.Storage.Keys

/-!
The store of one replica of a group.  `GroupDb` holds the column families; `GroupView` is what
the apply path reads of them: the active state bank, its prefix scans and the payload owners.
Reads go to the committed store and never see the write batch that is being built.
-/

namespace LightStream

instance : LinearOrder PartitionKey :=
  LinearOrder.lift'
    (fun partition => (toLex (partition.stream.uuid, partition.partition) : Nat ×ₗ Nat))
    fun first second same => by
      obtain ⟨⟨_⟩, _⟩ := first
      obtain ⟨⟨_⟩, _⟩ := second
      simp_all

instance : LinearOrder MutationRequestId :=
  LinearOrder.lift'
    (fun request => (toLex (request.principal.text, toLex (request.session.uuid,
      request.sequence)) : String ×ₗ Nat ×ₗ Nat))
    fun first second same => by
      obtain ⟨⟨_⟩, ⟨_⟩, _⟩ := first
      obtain ⟨⟨_⟩, ⟨_⟩, _⟩ := second
      simp_all

def ReplayLeaseId.rank : ReplayLeaseId → Nat ×ₗ String ×ₗ Nat ×ₗ Nat
  | .uuid value => toLex (0, toLex ("", toLex (value, 0)))
  | .derived request =>
      toLex (1, toLex (request.principal.text, toLex (request.session.uuid, request.sequence)))

/-- The order of lease keys.  Identities derived from a digest are ordered by what was hashed,
which stands for the order of the digest bytes. -/
instance : LinearOrder ReplayLeaseId :=
  LinearOrder.lift' ReplayLeaseId.rank fun first second same => by
    cases first with
    | uuid => cases second <;> simp_all [ReplayLeaseId.rank]
    | derived request =>
        cases second with
        | uuid => simp_all [ReplayLeaseId.rank]
        | derived other =>
            obtain ⟨⟨_⟩, ⟨_⟩, _⟩ := request
            obtain ⟨⟨_⟩, ⟨_⟩, _⟩ := other
            simp_all [ReplayLeaseId.rank]

abbrev StateStore := Kv.Store StateKey StateVal
abbrev StateBatch := Kv.Batch StateKey StateVal
abbrev PayloadStore := Kv.Store PayloadKey PayloadVal
abbrev PayloadBatch := Kv.Batch PayloadKey PayloadVal

structure WriteBatch where
  state : StateBatch
  payload : PayloadBatch

namespace WriteBatch

def empty : WriteBatch := ⟨[], []⟩

def append (first second : WriteBatch) : WriteBatch :=
  ⟨first.state ++ second.state, first.payload ++ second.payload⟩

end WriteBatch

def leaseIndex : StateKey → Option ReplayLeaseId
  | .leaseId id => some id
  | _ => none

def hintIndex : StateKey → Option PartitionKey
  | .reclaimHint partition => some partition
  | _ => none

def exportReceiptIndex : StateKey → Option MutationRequestId
  | .exportReceipt request => some request
  | _ => none

def streamIndex : StateKey → Option StreamId
  | .stream stream => some stream
  | _ => none

def scanLeases (store : StateStore) : List ReplayLease :=
  (store.scan leaseIndex).filterMap fun id => store.get (.leaseId id)

def scanHints (store : StateStore) : List (PartitionKey × Nat) :=
  (store.scan hintIndex).filterMap fun partition =>
    (store.get (.reclaimHint partition)).map fun cursor => (partition, cursor)

def scanExportReceipts (store : StateStore) : List (MutationRequestId × ExportReceipt) :=
  (store.scan exportReceiptIndex).filterMap fun request =>
    (store.get (.exportReceipt request)).map fun receipt => (request, receipt)

def scanStreams (store : StateStore) : List StreamDescriptor :=
  (store.scan streamIndex).filterMap fun stream => store.get (.stream stream)

structure GroupView where
  identity : GroupIdentity
  receiptWindow : Nat
  get : (key : StateKey) → Option (StateVal key)
  leases : List ReplayLease
  hints : List (PartitionKey × Nat)
  exportReceipts : List (MutationRequestId × ExportReceipt)
  streams : List StreamDescriptor
  activeBank : StateBank
  owners : PayloadId → Option PayloadOwners

/-- One log entry as stored: a publish keeps the ids of its payloads, not their bytes. -/
structure ThinPublish where
  cluster : ClusterId
  partition : PartitionKey
  request : ProducerRequestId
  fingerprint : PublishFingerprint
  payloadKeys : List PayloadId
  bookmark : Option BookmarkName

inductive ThinCommand where
  | publish (request : ThinPublish)
  | publishMany (requests : List ThinPublish)
  | other (command : GroupCommand)

inductive ThinPayload where
  | blank
  | membership (membership : Membership)
  | normal (command : ThinCommand)

structure ThinEntry where
  logId : GroupLogId
  payload : ThinPayload

structure SnapshotMeta where
  lastLogId : Option GroupLogId
  lastMembership : GroupMembership
deriving DecidableEq

/-- What a sealed snapshot artifact decodes to. -/
structure SnapshotArtifact where
  formatVersion : Nat
  identity : GroupIdentity
  metadata : SnapshotMeta
  state : List ((key : StateKey) × StateVal key)
  payloads : List (PayloadId × Record)

structure GroupDb where
  identity : GroupIdentity
  receiptWindow : Nat
  raftLog : Kv.Store Nat (fun _ => ThinEntry)
  purged : Option GroupLogId
  payload : PayloadStore
  banks : StateBank → StateStore
  activeBank : StateBank
  currentSnapshot : Option SnapshotArtifact

namespace GroupDb

def state (db : GroupDb) : StateStore := db.banks db.activeBank

def get (db : GroupDb) (key : StateKey) : Option (StateVal key) := db.state.get key

def view (db : GroupDb) : GroupView where
  identity := db.identity
  receiptWindow := db.receiptWindow
  get := db.state.get
  leases := scanLeases db.state
  hints := scanHints db.state
  exportReceipts := scanExportReceipts db.state
  streams := scanStreams db.state
  activeBank := db.activeBank
  owners := fun id => db.payload.get (.owners id)

/-- `write_sync` of a batch on the active bank and the payload column family. -/
def commit (db : GroupDb) (write : WriteBatch) : GroupDb :=
  { db with
    banks := Function.update db.banks db.activeBank (db.state.commit write.state)
    payload := db.payload.commit write.payload }

def create (identity : GroupIdentity) (receiptWindow : Nat) : GroupDb where
  identity := identity
  receiptWindow := receiptWindow
  raftLog := Kv.Store.empty
  purged := none
  payload := Kv.Store.empty
  banks := fun _ => Kv.Store.empty
  activeBank := .a
  currentSnapshot := none

@[simp] theorem commit_payload (db : GroupDb) (write : WriteBatch) :
    (db.commit write).payload = db.payload.commit write.payload := rfl

@[simp] theorem commit_state (db : GroupDb) (write : WriteBatch) :
    (db.commit write).state = db.state.commit write.state := by
  simp [state, commit]

theorem get_commit (db : GroupDb) (write : WriteBatch) (key : StateKey) :
    (db.commit write).get key = (write.state.effect key).getD (db.get key) := by
  rw [get, commit_state, Kv.Store.get_commit]
  rfl

@[simp] theorem view_identity (db : GroupDb) : db.view.identity = db.identity := rfl

@[simp] theorem view_get (db : GroupDb) (key : StateKey) : db.view.get key = db.get key := rfl

@[simp] theorem view_owners (db : GroupDb) (id : PayloadId) :
    db.view.owners id = db.payload.get (.owners id) := rfl

end GroupDb

/-- What applying a command gives: a storage failure, or the reply and the batch to commit. -/
abbrev Applied := Except IoError (ApplyResult × WriteBatch)

def reply (result : ApplyResult) (state : StateBatch) : Applied := .ok (result, ⟨state, []⟩)

def reject (error : DomainError) : Applied := reply (.rejected error) []

theorem leaseIndex_some {key : StateKey} {id : ReplayLeaseId} :
    leaseIndex key = some id ↔ key = .leaseId id := by
  cases key <;> simp [leaseIndex]

theorem hintIndex_some {key : StateKey} {partition : PartitionKey} :
    hintIndex key = some partition ↔ key = .reclaimHint partition := by
  cases key <;> simp [hintIndex]

theorem mem_scanLeases {store : StateStore} {lease : ReplayLease} :
    lease ∈ scanLeases store ↔ ∃ id, store.get (.leaseId id) = some lease := by
  simp only [scanLeases, List.mem_filterMap, Kv.Store.mem_scan, leaseIndex_some]
  constructor
  · rintro ⟨id, _, stored⟩
    exact ⟨id, stored⟩
  · rintro ⟨id, stored⟩
    exact ⟨id, ⟨_, by rw [stored]; rfl, rfl⟩, stored⟩

theorem mem_scanHints {store : StateStore} {partition : PartitionKey} {cursor : Nat} :
    (partition, cursor) ∈ scanHints store ↔ store.get (.reclaimHint partition) = some cursor := by
  simp only [scanHints, List.mem_filterMap, Kv.Store.mem_scan, hintIndex_some, Option.map_eq_some_iff,
    Prod.mk.injEq]
  constructor
  · rintro ⟨other, _, value, stored, rfl, rfl⟩
    exact stored
  · intro stored
    exact ⟨partition, ⟨_, by rw [stored]; rfl, rfl⟩, cursor, stored, rfl, rfl⟩

end LightStream
