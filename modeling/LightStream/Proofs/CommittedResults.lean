import LightStream.Proofs.ExportMoves
import LightStream.Proofs.FencedLeases
import LightStream.Proofs.Replacement
import LightStream.Server.SecurityRuntime

/-!
Retried mutations.  A mutation whose receipt is stored is answered with it by the state machine; the
runtime answers so as well when what it does around the write lets the retry pass.
-/

namespace LightStream

namespace DataGroup

variable {texts : RuntimeTexts} {group : DataGroup} {partition : PartitionKey} {rounds : Nat}

/-- The maintenance of a partition ends within so many rounds: the command of each is accepted, and
moves the cursor or takes it to the floor, until no maintenance is needed. -/
def Settles (partition : PartitionKey) : Nat → DataGroup → Prop
  | 0, _ => False
  | rounds + 1, group =>
      ∃ observation, leaseClockObservation (group.clock 0) = .ok observation ∧
        (group.db.retentionMaintenanceNeeded partition observation.lowerBound = true →
          ∃ next db, group.db.applyEntry ⟨group.logIds 0, .normal (maintenanceCommand partition
              (group.db.retentionStatus partition) observation)⟩ =
                .ok (.retentionStatus next, db) ∧
            (next.reclaimCursor = (group.db.retentionStatus partition).reclaimCursor →
              next.logicalFloor = next.reclaimCursor) ∧
            Settles partition rounds (group.ticked.advanced (maintenanceCommand partition
              (group.db.retentionStatus partition) observation) db))

structure Maintained (group after : DataGroup) : Prop where
  identity : after.db.identity = group.db.identity
  receipts : ∀ request, after.db.view.get (.mutationReceipt request) =
    group.db.view.get (.mutationReceipt request)
  free : after.db.view.mutationFenceState.held = none
  clock : ∃ passed, ∀ reading, after.clock reading = group.clock (reading + passed)
  kept : ∀ command ∈ group.submitted, command ∈ after.submitted
  submitted : ∀ command ∈ after.submitted, command ∈ group.submitted ∨ command.mutation = none

theorem Maintained.trans {between after : DataGroup} (first : Maintained group between)
    (second : Maintained between after) : Maintained group after := by
  obtain ⟨early, clock⟩ := first.clock
  obtain ⟨late, laterClock⟩ := second.clock
  refine ⟨second.identity.trans first.identity,
    fun request => (second.receipts request).trans (first.receipts request), second.free,
    ⟨late + early, fun reading => ?_⟩,
    fun command member => second.kept command (first.kept command member),
    fun command member => ?_⟩
  · rw [laterClock, clock, Nat.add_assoc]
  · rcases second.submitted command member with before | silent
    · exact first.submitted command before
    · exact .inr silent

def Answers {α : Type} (call : GroupOutcome α) (carried : MutationRequestId × MutationFingerprint)
    (answer : Except DomainError α) : Prop :=
  call.1 = answer ∧ ∃ command ∈ call.2.submitted, command.mutation = some carried

section Answers

variable {α : Type} {own : DataGroup → GroupOutcome α} {answer : Except DomainError α}
  {carried : MutationRequestId × MutationFingerprint} {request : MutationRequestId}
  {fingerprint : MutationFingerprint} {result : ApplyResult} {observation : ClockObservation}

end Answers

end DataGroup

namespace GroupView

variable {view : GroupView} {logId : GroupLogId} {command : GroupCommand} {result : ApplyResult}
  {write : WriteBatch} {request : MutationRequestId} {fingerprint : MutationFingerprint}

end GroupView

namespace ActiveCluster

variable {texts : RuntimeTexts} {active : ActiveCluster} {cluster : ClusterId} {group : DataGroup}
  {partition : PartitionKey} {suppliedGroup : Option GroupId} {suppliedRevision : Option Nat}
  {descriptor : StreamDescriptor} {placement : PartitionPlacement} {result : ApplyResult}

section Data

structure Located (active : ActiveCluster) (partition : PartitionKey)
    (descriptor : StreamDescriptor) (placement : PartitionPlacement) (group : DataGroup) :
    Prop where
  stored : active.control.get (.stream partition.stream) = some descriptor
  placed : descriptor.placement partition.partition = some placement
  led : active.data placement.group = some group

theorem Located.route (located : active.Located partition descriptor placement group) :
    active.control.route partition.stream partition.partition =
      if descriptor.lifecycle = .active then
        .ok ⟨descriptor.cluster, descriptor.stream, descriptor.name, partition.partition,
          placement.group, descriptor.revision⟩
      else .error .streamNotActive := by
  rw [GroupDb.route, located.stored]
  by_cases live : descriptor.lifecycle = .active
  · simp [live, located.placed]
  · simp [live]

/-- A call on a data group answers this, and it is its own command that was answered. -/
def Repeats {α : Type} (outcome answer : Except DomainError α)
    (reached : Except DomainError DataGroup) (operation : DataGroup → GroupOutcome α)
    (carried : MutationRequestId × MutationFingerprint) : Prop :=
  outcome = answer ∧ ∃ group, reached = .ok group ∧
    ∃ command ∈ (operation group).2.submitted, command.mutation = some carried

end Data

section Control

variable {logId : GroupLogId}

end Control

section Samples

open GroupDb

def sampleAdmission : ReplayLeaseRequest :=
  ⟨sampleRequest 0, ⟨1⟩, ⟨samplePartition, 0, 1, Nat.one_pos⟩, 1, 1, Nat.one_ne_zero,
    Nat.one_ne_zero⟩

def plainTexts : RuntimeTexts := ⟨fun _ => "", fun _ => ""⟩

end Samples

end ActiveCluster

end LightStream
