import LightStream.Server.StreamRoutes
import LightStream.Storage.Reader

/-!
The retention and replay lease operations of `runtime.rs`, on a node that admits mutations and
leads its groups with their quorums: a write is committed and applied before it is answered, and a
linearizable read finds the node's own copy current.
-/

namespace LightStream

def leaseClockSkew : Nat := 2000

/-- The observation made of a system clock, in milliseconds since the epoch. -/
def leaseClockObservation (now : Int) : Except DomainError ClockObservation :=
  if unavailable : now < 0 ∨ u64Max < now then .error .leaseClockUnavailable
  else
    .ok ⟨now.toNat - leaseClockSkew, saturatingAdd now.toNat leaseClockSkew, by
      unfold saturatingAdd
      omega⟩

def GroupDb.retentionStatus (db : GroupDb) (partition : PartitionKey) : RetentionStatus :=
  let value := db.view.retentionOf partition
  ⟨partition, value.logicalFloor, value.reclaimCursor, value.logicallyExpiredBytes,
    value.raftOnlyBytes⟩

def ReplayLease.due (lease : ReplayLease) (partition : PartitionKey)
    (safeLowerBound : Nat) : Bool :=
  decide (lease.range.partition = partition) && decide (lease.lifecycle = .active) &&
    (decide (lease.expiresAt ≤ safeLowerBound) || decide (lease.hardExpiresAt ≤ safeLowerBound))

def GroupDb.retentionMaintenanceNeeded (db : GroupDb) (partition : PartitionKey)
    (safeLowerBound : Nat) : Bool :=
  let status := db.view.retentionOf partition
  decide (status.reclaimCursor < status.logicalFloor) ||
    db.view.leases.any fun lease => lease.due partition safeLowerBound

/-- The texts of the results and of the storage errors that the runtime puts in its own errors. -/
structure RuntimeTexts where
  display : ApplyResult → String
  fatal : IoError → String

/-- A data group that the node leads, with what the system clock shows at its readings to come, the
log positions of the entries to come, and the commands that a call has submitted. -/
structure DataGroup where
  db : GroupDb
  clock : Nat → Int
  logIds : Nat → GroupLogId
  submitted : List GroupCommand

/-- What a call answers, and the group after it. -/
abbrev GroupOutcome (α : Type) := Except DomainError α × DataGroup

/-- Goes on with the value of a call, or fails with its error. -/
def attempt {α β : Type} (call : GroupOutcome α) (next : α → DataGroup → GroupOutcome β) :
    GroupOutcome β :=
  match call with
  | (.error error, group) => (.error error, group)
  | (.ok value, group) => next value group

namespace DataGroup

variable (texts : RuntimeTexts)

def observe (group : DataGroup) : GroupOutcome ClockObservation :=
  (leaseClockObservation (group.clock 0),
    { group with clock := fun reading => group.clock (reading + 1) })

def submit (group : DataGroup) (command : GroupCommand) : GroupOutcome ApplyResult :=
  let group := { group with submitted := group.submitted ++ [command] }
  match group.db.applyEntry ⟨group.logIds 0, .normal command⟩ with
  | .error error => (.error (.storage (texts.fatal error)), group)
  | .ok (result, db) =>
      (.ok result, { group with db, logIds := fun entry => group.logIds (entry + 1) })

/-- How a round of `maintain_group_retention` that met a status takes the result of its write. -/
def maintenanceAnswer (status : RetentionStatus) : ApplyResult → Except DomainError Unit
  | .retentionStatus next =>
      if next.reclaimCursor = status.reclaimCursor ∧ next.logicalFloor ≠ next.reclaimCursor then
        .error (.storage "retention maintenance made no progress")
      else .ok ()
  | .rejected error => .error error
  | other => .error (.storage ("unexpected retention maintenance result " ++ texts.display other))

def maintenanceCommand (partition : PartitionKey) (status : RetentionStatus)
    (observation : ClockObservation) : GroupCommand :=
  .maintainRetention partition status.reclaimCursor 1024 (8 * 1024 * 1024) observation

def maintainRounds (partition : PartitionKey) : Nat → DataGroup → GroupOutcome RetentionStatus
  | 0, group => (.error (.resourceLimit "retention_maintenance_steps" 64), group)
  | rounds + 1, group =>
      attempt group.observe fun observation group =>
        if group.db.retentionMaintenanceNeeded partition observation.lowerBound = true then
          let status := group.db.retentionStatus partition
          attempt (group.submit texts (maintenanceCommand partition status observation))
            fun result group =>
              attempt (maintenanceAnswer texts status result, group) fun _ group =>
                maintainRounds partition rounds group
        else (.ok (group.db.retentionStatus partition), group)

def maintainGroupRetention (group : DataGroup) (partition : PartitionKey) :
    GroupOutcome RetentionStatus :=
  group.maintainRounds texts partition 64

/-- The write of a lease operation, with the text of its error for an unexpected result. -/
def leaseWrite (group : DataGroup) (command : ClockObservation → GroupCommand)
    (unexpected : String) : GroupOutcome ReplayLease :=
  attempt group.observe fun observation group =>
    attempt (group.submit texts (command observation)) fun result group =>
      match result with
      | .replayLease lease => (.ok lease, group)
      | .rejected error => (.error error, group)
      | other => (.error (.storage (unexpected ++ texts.display other)), group)

def admitReplayLease (group : DataGroup) (request : ReplayLeaseRequest) :
    GroupOutcome ReplayLease :=
  attempt (group.maintainGroupRetention texts request.range.partition) fun _ group =>
    group.leaseWrite texts (.admitReplayLease request) "unexpected replay lease apply result "

def renewReplayLease (group : DataGroup) (request : LeaseRenewal) : GroupOutcome ReplayLease :=
  attempt (group.maintainGroupRetention texts request.partition) fun _ group =>
    group.leaseWrite texts (.renewReplayLease request) "unexpected replay lease renewal result "

/-- A release maintains the retention after its write, and only logs that it failed. -/
def releaseReplayLease (group : DataGroup) (request : LeaseRelease) : GroupOutcome ReplayLease :=
  attempt
    (group.leaseWrite texts (.releaseReplayLease request) "unexpected replay lease release result ")
    fun lease group => (.ok lease, (group.maintainGroupRetention texts request.partition).2)

def replayLease (group : DataGroup) (partition : PartitionKey) (lease : ReplayLeaseId) :
    GroupOutcome ReplayLease :=
  attempt (group.maintainGroupRetention texts partition) fun _ group =>
    (group.db.replayLease partition lease, group)

structure ProtectedFetchRequest where
  cluster : ClusterId
  partition : PartitionKey
  lease : ReplayLeaseId
  offset : Nat
  limit : Nat
deriving DecidableEq

/-- `rest` is what follows the text of a key in the state column family, as in `fetch`. -/
def fetchProtected (rest : StateKey → Kv.Bytes) (group : DataGroup)
    (request : ProtectedFetchRequest) : GroupOutcome FetchPage :=
  attempt (group.maintainGroupRetention texts request.partition) fun _ group =>
    (group.db.fetchProtected rest request.cluster request.partition request.lease request.offset
      request.limit, group)

/-- An advance maintains the retention before its write, and after it, where it only logs that it
failed. -/
def advanceRetention (group : DataGroup) (request : RetentionRequest) :
    GroupOutcome RetentionResult :=
  attempt (group.maintainGroupRetention texts request.partition) fun _ group =>
    attempt group.observe fun observation group =>
      attempt (group.submit texts (.advanceRetention request observation)) fun result group =>
        match result with
        | .retention result =>
            (.ok result, (group.maintainGroupRetention texts result.partition).2)
        | .rejected error => (.error error, group)
        | other =>
            (.error (.storage ("unexpected retention apply result " ++ texts.display other)), group)

end DataGroup

/-- What a node holds of the cluster it leads. -/
structure ActiveCluster where
  manifest : ClusterId
  control : GroupDb
  data : GroupId → Option DataGroup

namespace ActiveCluster

variable (texts : RuntimeTexts) (active : ActiveCluster) (cluster : ClusterId)

def validateCluster : Except DomainError Unit :=
  if cluster ≠ active.manifest then
    .error (.identityMismatch "request cluster does not match the durable manifest")
  else .ok ()

def resolveDataRoute (partition : PartitionKey) (suppliedGroup : Option GroupId)
    (suppliedRevision : Option Nat) : Except DomainError PartitionRoute :=
  match active.validateCluster cluster with
  | .error error => .error error
  | .ok () =>
      match resolveLocally active.control partition suppliedGroup suppliedRevision with
      | .error error => .error error
      | .ok (some route) => .ok route
      | .ok none => active.control.route partition.stream partition.partition

def dataGroup (partition : PartitionKey) (suppliedGroup : Option GroupId)
    (suppliedRevision : Option Nat) : Except DomainError DataGroup :=
  match active.resolveDataRoute cluster partition suppliedGroup suppliedRevision with
  | .error error => .error error
  | .ok route =>
      match active.data route.group with
      | none => .error .staleRoute
      | some group => .ok group

def call {α : Type} (partition : PartitionKey) (suppliedGroup : Option GroupId)
    (suppliedRevision : Option Nat) (operation : DataGroup → GroupOutcome α) :
    Except DomainError α :=
  match active.dataGroup cluster partition suppliedGroup suppliedRevision with
  | .error error => .error error
  | .ok group => (operation group).1

variable (suppliedGroup : Option GroupId) (suppliedRevision : Option Nat)

def advanceRetention (request : RetentionRequest) : Except DomainError RetentionResult :=
  active.call cluster request.partition suppliedGroup suppliedRevision fun group =>
    group.advanceRetention texts request

def admitReplayLease (request : ReplayLeaseRequest) : Except DomainError ReplayLease :=
  active.call cluster request.range.partition suppliedGroup suppliedRevision fun group =>
    group.admitReplayLease texts request

def renewReplayLease (request : LeaseRenewal) : Except DomainError ReplayLease :=
  active.call cluster request.partition suppliedGroup suppliedRevision fun group =>
    group.renewReplayLease texts request

def releaseReplayLease (request : LeaseRelease) : Except DomainError ReplayLease :=
  active.call cluster request.partition suppliedGroup suppliedRevision fun group =>
    group.releaseReplayLease texts request

def replayLease (partition : PartitionKey) (lease : ReplayLeaseId) :
    Except DomainError ReplayLease :=
  active.call cluster partition suppliedGroup suppliedRevision fun group =>
    group.replayLease texts partition lease

def fetchProtected (rest : StateKey → Kv.Bytes) (request : DataGroup.ProtectedFetchRequest) :
    Except DomainError FetchPage :=
  active.call request.cluster request.partition suppliedGroup suppliedRevision fun group =>
    group.fetchProtected texts rest request

end ActiveCluster

end LightStream
