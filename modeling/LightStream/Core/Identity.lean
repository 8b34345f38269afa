import Mathlib.Order.Lattice
import Mathlib.Order.Compare
import Mathlib.Order.Basic
import Mathlib.Data.Finset.Basic
import Mathlib.Algebra.GroupWithZero.Nat

/-!
Identities, cursors and errors of `light-stream-core`.  Unsigned 64-bit values are natural
numbers; every operation that can leave the 64-bit range is written with its own check.
Digests are symbolic: a value derived from SHA-256 is the constructor applied to what was
hashed, so two digests are equal exactly when the hashed bodies are.
-/

namespace LightStream

def u64Max : Nat := 2 ^ 64 - 1

def checkedAdd (left right : Nat) : Option Nat :=
  if left + right ≤ u64Max then some (left + right) else none

def saturatingAdd (left right : Nat) : Nat := min (left + right) u64Max

theorem checkedAdd_some {left right total : Nat} :
    checkedAdd left right = some total ↔ left + right = total ∧ total ≤ u64Max := by
  unfold checkedAdd
  split
  · rename_i fits
    simp only [Option.some.injEq]
    constructor
    · intro same
      exact ⟨same, same ▸ fits⟩
    · exact fun sum => sum.1
  · rename_i overflow
    simp only [reduceCtorEq, false_iff, not_and]
    intro sum
    omega

theorem checkedAdd_of_le {left right : Nat} (fits : left + right ≤ u64Max) :
    checkedAdd left right = some (left + right) := by
  simp [checkedAdd, fits]

def yields (result : Except ε α) (check : α → Bool) : Bool :=
  match result with
  | .ok value => check value
  | .error _ => false

theorem yields_iff {result : Except ε α} {check : α → Bool} :
    yields result check = true ↔ ∃ value, result = .ok value ∧ check value = true := by
  cases result with
  | error error => simp [yields]
  | ok value => simp [yields]

structure ClusterId where
  uuid : Nat
deriving DecidableEq

structure StreamId where
  uuid : Nat
deriving DecidableEq

structure CatalogRequestId where
  uuid : Nat
deriving DecidableEq

structure ProducerSessionId where
  uuid : Nat
deriving DecidableEq

structure MutationSessionId where
  uuid : Nat
deriving DecidableEq

structure AdministrationRequestId where
  uuid : Nat
deriving DecidableEq

structure PrincipalId where
  text : String
deriving DecidableEq

structure ConsumerId where
  text : String
deriving DecidableEq

structure StreamName where
  text : String
deriving DecidableEq

structure BookmarkName where
  text : String
deriving DecidableEq

/-- A nonzero 64-bit identity: `NonZeroU64` behind `nonzero_id!`. -/
structure NodeId where
  value : Nat
  nonzero : value ≠ 0
deriving DecidableEq

structure GroupId where
  value : Nat
  nonzero : value ≠ 0
deriving DecidableEq

instance : LinearOrder StreamId :=
  LinearOrder.lift' StreamId.uuid fun first second same => by
    cases first; cases second; simp_all

instance : LinearOrder NodeId :=
  LinearOrder.lift' NodeId.value fun first second same => by
    cases first; cases second; simp_all

instance nodeOrd : Std.TransCmp (compare : NodeId → NodeId → Ordering) := inferInstance

instance : LinearOrder GroupId :=
  LinearOrder.lift' GroupId.value fun first second same => by
    cases first; cases second; simp_all

instance groupOrd : Std.TransCmp (compare : GroupId → GroupId → Ordering) := inferInstance
instance groupTrans : IsTrans GroupId (· ≤ ·) := inferInstance
instance groupAntisymm : Std.Antisymm ((· ≤ ·) : GroupId → GroupId → Prop) := inferInstance
instance groupTotal : Std.Total ((· ≤ ·) : GroupId → GroupId → Prop) := inferInstance

theorem two_nonzero : (2 : Nat) ≠ 0 := by decide

structure PartitionKey where
  stream : StreamId
  partition : Nat
deriving DecidableEq

structure ProducerRequestId where
  principal : PrincipalId
  session : ProducerSessionId
  sequence : Nat
deriving DecidableEq

structure MutationRequestId where
  principal : PrincipalId
  session : MutationSessionId
  sequence : Nat
deriving DecidableEq

structure GroupLogId where
  term : Nat
  nodeId : Nat
  index : Nat
deriving DecidableEq

/-- A bookmark identity: chosen by a client, or derived by `publish_bookmark_id` from the
log position and, for a request of a batch, its ordinal. -/
inductive BookmarkId where
  | uuid (value : Nat)
  | derived (logId : GroupLogId) (requestOrdinal : Option Nat)
deriving DecidableEq

/-- A lease identity: presented by a client, or the digest of the admitting request. -/
inductive ReplayLeaseId where
  | uuid (value : Nat)
  | derived (request : MutationRequestId)
deriving DecidableEq

inductive ExportFormatVersion where
  | v1
deriving DecidableEq

inductive ExportRequestDigest where
  | bytes (value : Nat)
  | canonical (request : MutationRequestId) (cluster : ClusterId) (streams : List StreamId)
      (format : ExportFormatVersion)
deriving DecidableEq

/-- `export_id_from_digest`: the export identity is a function of the request digest. -/
structure ExportId where
  digest : ExportRequestDigest
deriving DecidableEq

structure CommittedCursor where
  cluster : ClusterId
  partition : PartitionKey
  nextOffset : Nat
deriving DecidableEq

inductive ReplayLeaseLifecycle where
  | active
  | released
  | expired
deriving DecidableEq

inductive ConsensusGroup where
  | control
  | data
deriving DecidableEq

structure LeaderHint where
  nodeId : NodeId
  publicUri : String
deriving DecidableEq

inductive RequestOutcome where
  | definiteNoCommit
  | ambiguousCommit
  | notApplicable
deriving DecidableEq

inductive AmbiguousRequest where
  | publish (request : ProducerRequestId)
  | mutation (request : MutationRequestId)
deriving DecidableEq

inductive DomainError where
  | invalidIdentity (kind reason : String)
  | invalidName (kind reason : String)
  | invalidRange (reason : String)
  | invalidPayload (reason : String)
  | notBootstrapped
  | bootstrapConflict (reason : String)
  | identityMismatch (reason : String)
  | receiptConflict
  | receiptExpired
  | receiptNotFound
  | storage (reason : String)
  | notLeader (group : ConsensusGroup) (leader : Option LeaderHint)
  | quorumUnavailable (group : ConsensusGroup) (outcome : RequestOutcome)
      (request : Option AmbiguousRequest)
  | clusterForming
  | streamNotFound
  | streamNotActive
  | streamNameConflict
  | bookmarkNotFound
  | bookmarkNameConflict
  | checkpointNotFound
  | checkpointAheadOfTail (candidate tail : Nat)
  | checkpointRegression (current candidate : Nat)
  | cursorExpired (requested availableFrom : Nat)
  | replayLeaseNotFound (lease : ReplayLeaseId)
  | replayLeaseInactive (lease : ReplayLeaseId) (lifecycle : ReplayLeaseLifecycle)
  | replayLeaseConflict
  | replayLeaseRangeViolation
  | replayLeaseLifetimeExhausted
  | mutationConflict
  | mutationReceiptExpired
  | exportConflict
  | exportInProgress (exportId : ExportId) (outcome : RequestOutcome)
  | leaseClockUnavailable
  | publishOverloaded (resource : String) (limit : Nat)
  | resourceLimit (resource : String) (limit : Nat)
  | securityAuthenticationFailed
  | securityPermissionDenied
  | securityPolicyConflict
  | securityPolicyStale
  | shuttingDown (outcome : RequestOutcome)
  | staleRoute
  | unsupportedOperation (operation availablePhase : String)
deriving DecidableEq

/-- A storage failure: `io::Error`.  `decode` is a stored value of another format. -/
inductive IoError where
  | other (message : String)
  | decode
  | domain (error : DomainError)
deriving DecidableEq

def NodeId.new (value : Nat) : Except DomainError NodeId :=
  if nonzero : value = 0 then .error (.invalidIdentity "node ID" "zero is reserved")
  else .ok ⟨value, nonzero⟩

structure CommittedRecordRange where
  partition : PartitionKey
  first : Nat
  count : Nat
  nonempty : count ≠ 0
  bounded : first + count ≤ u64Max
deriving DecidableEq

def CommittedRecordRange.new (partition : PartitionKey) (first : Nat) (count : Nat) :
    Except DomainError CommittedRecordRange :=
  if nonempty : count = 0 then .error (.invalidRange "a committed range cannot be empty")
  else if bounded : first + count ≤ u64Max then
    .ok ⟨partition, first, count, nonempty, bounded⟩
  else .error (.invalidRange "record offset overflow")

def CommittedRecordRange.next (range : CommittedRecordRange) : Nat :=
  range.first + range.count

end LightStream
