import LightStream.Proofs.Frame

/-!
The part of a replica's state that every replica of the group shares.  A view is compared with
one that has one bank, no log and no payloads: its handlers do the same, up to `raftOnlyBytes`,
what a replica counts of the payloads that its own log still holds.
-/

namespace LightStream

/-- What the state machine makes of `raftOnlyBytes`: it drops the count, or counts as a log that
holds the given payloads would. -/
inductive LogCount where
  | dropped
  | kept (logged : PayloadId → Bool)

namespace LogCount

def bytes : LogCount → Nat → Nat
  | .dropped, _ => 0
  | .kept _, bytes => bytes

def holds : LogCount → PayloadId → Bool
  | .dropped, _ => false
  | .kept logged, id => logged id

def owners (count : LogCount) (id : PayloadId) : PayloadOwners :=
  { PayloadOwners.default with raftLog := count.holds id }

/-- Whether the count of a replica with these owners is the one the state machine makes. -/
def Fits (count : LogCount) (id : PayloadId) (owners : PayloadOwners) : Prop :=
  match count with
  | .dropped => True
  | .kept logged => owners.raftLog = logged id

@[simp] theorem bytes_zero (count : LogCount) : count.bytes 0 = 0 := by
  cases count <;> rfl

end LogCount

def PartitionRetentionState.shared (count : LogCount) (retention : PartitionRetentionState) :
    PartitionRetentionState :=
  { retention with raftOnlyBytes := count.bytes retention.raftOnlyBytes }

def ApplyResult.shared (count : LogCount) : ApplyResult → ApplyResult
  | .retentionStatus status =>
      .retentionStatus { status with raftOnlyBytes := count.bytes status.raftOnlyBytes }
  | result => result

def StateKey.sharedValue (count : LogCount) : (key : StateKey) → StateVal key → StateVal key
  | .retention _ => PartitionRetentionState.shared count
  | _ => id

def sharedGet (count : LogCount) (get : (key : StateKey) → Option (StateVal key)) :
    (key : StateKey) → Option (StateVal key)
  | .retention partition => (get (.retention partition)).map (PartitionRetentionState.shared count)
  | key => get key

def sharedOp (count : LogCount) : Kv.Op StateKey StateVal → Kv.Op StateKey StateVal
  | .put key value => .put key (key.sharedValue count value)
  | .delete key => .delete key

def sharedOps (count : LogCount) (ops : StateBatch) : StateBatch := ops.map (sharedOp count)

variable {count : LogCount}

theorem sharedGet_eq (get : (key : StateKey) → Option (StateVal key)) (key : StateKey) :
    sharedGet count get key = (get key).map (key.sharedValue count) := by
  cases key with
  | retention => rfl
  | _ => exact (Option.map_id' ..).symm

theorem sharedGet_isSome (get : (key : StateKey) → Option (StateVal key)) (key : StateKey) :
    (sharedGet count get key).isSome = (get key).isSome := by
  rw [sharedGet_eq, Option.isSome_map]

theorem sharedOp_key (op : Kv.Op StateKey StateVal) : (sharedOp count op).key = op.key := by
  cases op <;> rfl

theorem sharedOp_same {op : Kv.Op StateKey StateVal} (other : op.key.family ≠ .retention) :
    sharedOp count op = op := by
  cases op with
  | delete => rfl
  | put key value =>
      cases key with
      | retention => exact absurd rfl other
      | _ => rfl

@[simp] theorem sharedOps_nil : sharedOps count [] = [] := rfl

@[simp] theorem sharedOps_cons (op : Kv.Op StateKey StateVal) (ops : StateBatch) :
    sharedOps count (op :: ops) = sharedOp count op :: sharedOps count ops := rfl

@[simp] theorem sharedOps_append (first second : StateBatch) :
    sharedOps count (first ++ second) = sharedOps count first ++ sharedOps count second :=
  List.map_append ..

theorem sharedOps_same {families : List StateFamily} {ops : StateBatch}
    (within : Within families ops) (outside : .retention ∉ families) :
    sharedOps count ops = ops := by
  refine (List.map_congr_left fun op member => sharedOp_same ?_).trans (List.map_id' ops)
  intro retention
  exact outside (retention ▸ within op member)

theorem sharedOp_effect (op : Kv.Op StateKey StateVal) (key : StateKey) :
    (sharedOp count op).effect key = (op.effect key).map (Option.map (key.sharedValue count)) := by
  by_cases same : op.key = key
  · subst same
    cases op with
    | put target value =>
        rw [sharedOp, Kv.Op.key_put, Kv.Op.effect_put_self, Kv.Op.effect_put_self]
        rfl
    | delete target =>
        rw [sharedOp, Kv.Op.key_delete, Kv.Op.effect_delete_self]
        rfl
  · rw [Kv.Op.effect_of_ne same, Kv.Op.effect_of_ne ((sharedOp_key op).trans_ne same)]
    rfl

theorem sharedOps_effect (ops : StateBatch) (key : StateKey) :
    Kv.Batch.effect (sharedOps count ops) key =
      (Kv.Batch.effect ops key).map (Option.map (key.sharedValue count)) := by
  induction ops with
  | nil => rfl
  | cons op rest ih =>
      rw [sharedOps_cons, Kv.Batch.effect_cons, Kv.Batch.effect_cons, ih, sharedOp_effect]
      cases Kv.Batch.effect rest key <;> rfl

theorem sharedOps_pending (get : (key : StateKey) → Option (StateVal key)) (ops : StateBatch) :
    Kv.pending (sharedGet count get) (sharedOps count ops) =
      sharedGet count (Kv.pending get ops) := by
  funext key
  rw [Kv.pending, sharedGet_eq, sharedGet_eq, sharedOps_effect, Kv.pending]
  cases Kv.Batch.effect ops key <;> rfl

/-! ### Views of the replicated state -/

namespace GroupView

def shared (count : LogCount) (view : GroupView) : GroupView :=
  { view with
    get := sharedGet count view.get
    activeBank := .a
    owners := fun id => some (count.owners id) }

def Refines (count : LogCount) (concrete abstract : Applied) : Prop :=
  ∀ result write, concrete = .ok (result, write) → ∃ answer payload,
    abstract = .ok (answer, ⟨sharedOps count write.state, payload⟩) ∧
      answer.shared count = result.shared count

theorem refines_error (error : IoError) (abstract : Applied) :
    Refines count (.error error) abstract := by
  intro result write impossible
  simp at impossible

theorem refines_reply (result : ApplyResult) (ops : StateBatch) :
    Refines count (reply result ops) (reply result (sharedOps count ops)) := by
  rintro _ _ ⟨⟩
  exact ⟨result, [], rfl, rfl⟩

theorem refines_reject (error : DomainError) : Refines count (reject error) (reject error) :=
  refines_reply (.rejected error) []

theorem refines_same {families : List StateFamily} {concrete abstract : Applied}
    (within : Applied.All (fun _ write => Within families write.state) concrete)
    (outside : .retention ∉ families) (same : abstract = concrete) :
    Refines count concrete abstract := by
  intro result write done
  refine ⟨result, write.payload, ?_, rfl⟩
  rw [same, done, sharedOps_same (within result write done) outside]

variable {view : GroupView} {logId : GroupLogId}

theorem shared_retentionOf (partition : PartitionKey) :
    (view.shared count).retentionOf partition = (view.retentionOf partition).shared count := by
  simp only [retentionOf, shared, sharedGet]
  cases view.get (.retention partition) with
  | some retention => rfl
  | none =>
      rw [Option.map_none, Option.getD_none, PartitionRetentionState.shared,
        PartitionRetentionState.default, LogCount.bytes_zero]

theorem storeMutationResult_shared (request : MutationRequestId)
    (fingerprint : MutationFingerprint) (result : ApplyResult) :
    sharedOps count (view.storeMutationResult request fingerprint result) =
      (view.shared count).storeMutationResult request fingerprint result := by
  rw [sharedOps_same (storeMutationResult_within request fingerprint result) (by decide)]
  rfl

theorem checkSelection_shared (cluster : ClusterId) (streams : List StreamId) :
    (view.shared count).checkSelection cluster streams = view.checkSelection cluster streams := by
  induction streams with
  | nil => rfl
  | cons stream rest ih =>
      unfold checkSelection
      rw [ih]
      rfl

theorem applyBeginExport_shared (intent : ExportIntent) (deadline : ExportDeadline) :
    (view.shared count).applyBeginExport logId intent deadline =
      view.applyBeginExport logId intent deadline := by
  unfold applyBeginExport startExport
  rw [checkSelection_shared]
  rfl

end GroupView

def GroupCommand.meetsRetention : GroupCommand → Bool
  | .publish _ | .publishMany _ | .advanceRetention .. | .admitReplayLease ..
  | .renewReplayLease .. | .releaseReplayLease .. | .maintainRetention ..
  | .exportProtocol (.releaseFence _) => true
  | _ => false

namespace GroupView

variable {view : GroupView} {logId : GroupLogId}

theorem dispatch_same {command : GroupCommand} (apart : command.meetsRetention = false) :
    Refines count (view.dispatch logId command) ((view.shared count).dispatch logId command) := by
  refine refines_same (dispatch_within command) ?_ ?_
  · cases command with
    | exportProtocol command =>
        cases command <;> simp_all [GroupCommand.meetsRetention, GroupCommand.families]
    | _ => simp_all [GroupCommand.meetsRetention, GroupCommand.families]
  · cases command with
    | exportProtocol command =>
        cases command with
        | releaseFence => simp [GroupCommand.meetsRetention] at apart
        | begin intent deadline => exact applyBeginExport_shared intent deadline
        | _ => rfl
    | publish | publishMany | advanceRetention | admitReplayLease | renewReplayLease
    | releaseReplayLease | maintainRetention => simp [GroupCommand.meetsRetention] at apart
    | _ => rfl

end GroupView

end LightStream
