import LightStream.Proofs.Frame

/-!
What a rejected command commits.  Handlers validate before their first put, so a rejection
commits no more than the retry receipt of its request and the expiry of due leases; the
bootstrap of a control group is the exception.
-/

namespace LightStream

def GroupCommand.mutationRequest : GroupCommand → Option MutationRequestId
  | .compareAndSetCheckpoint mutation => some mutation.request
  | .advanceRetention request _ => some request.request
  | .admitReplayLease request _ => some request.request
  | .renewReplayLease request _ => some request.request
  | .releaseReplayLease request _ => some request.request
  | .applySecurityMutation mutation => some mutation.request
  | .activateSecuredTransport request _ _ => some request
  | _ => none

/-- The keys of a retry receipt: the receipt, its session, and the receipt that the window of the
session pushes out. -/
inductive ReceiptKey (view : GroupView) (request : MutationRequestId) : StateKey → Prop where
  | receipt : ReceiptKey view request (.mutationReceipt request)
  | session : ReceiptKey view request (mutationSessionKey request)
  | evicted (sequence : Nat)
      (expired : (((view.get (mutationSessionKey request)).getD SessionState.default).advance
        view.receiptWindow request.sequence).2 = some sequence) :
      ReceiptKey view request (.mutationReceipt { request with sequence })

inductive Spared (view : GroupView) (command : GroupCommand) : Kv.Op StateKey StateVal → Prop where
  | receipt {op : Kv.Op StateKey StateVal} (request : MutationRequestId)
      (own : command.mutationRequest = some request) (key : ReceiptKey view request op.key) :
      Spared view command op
  | lease {op : Kv.Op StateKey StateVal}
      (key : op.key.family ∈ [StateFamily.lease, .leaseBudget, .reclaimHint]) :
      Spared view command op
  | cursor (partition : PartitionKey) (cursor : Nat) :
      Spared view command (.put (.retention partition)
        { view.retentionOf partition with reclaimCursor := cursor })

def Spares (view : GroupView) (command : GroupCommand) (result : ApplyResult)
    (write : WriteBatch) : Prop :=
  result.isRejected = true → (∀ op ∈ write.state, Spared view command op) ∧ write.payload = []

def Quiet (result : ApplyResult) (write : WriteBatch) : Prop :=
  result.isRejected = true → write = ⟨[], []⟩

namespace GroupView

variable {view : GroupView} {logId : GroupLogId}

theorem Quiet.spares {applied : Applied} (quiet : Applied.All Quiet applied)
    (command : GroupCommand) : Applied.All (Spares view command) applied := by
  intro result write done rejected
  rw [quiet result write done rejected]
  simp

theorem applyBootstrap_quiet (spec : BootstrapSpec) (kind : GroupKind) :
    Applied.All Quiet (view.applyBootstrap spec kind) := by
  unfold applyBootstrap
  dsimp only
  repeat' split
  all_goals simp [Quiet, bootstrapResult, ApplyResult.isRejected]

theorem Footprint.quiet {applied : Applied} (none : Applied.All (Footprint []) applied) :
    Applied.All Quiet applied := by
  intro result write done _
  obtain ⟨state, payload⟩ := none result write done
  have empty : write.state = [] := by
    rw [List.eq_nil_iff_forall_not_mem]
    exact fun op member => by simpa using state op member
  obtain ⟨stateOps, payloadOps⟩ := write
  simp_all

def startWrites (view : GroupView) (spec : BootstrapSpec) : StateBatch :=
  (match view.get .bootstrap with
    | none => [.put .bootstrap spec]
    | some _ => []) ++
  match view.get .mutationFence with
  | none => [.put .mutationFence MutationFenceState.default]
  | some _ => []

theorem applyBootstrap_accepts {spec : BootstrapSpec} {expectedKind : GroupKind}
    (kind : view.identity.kind = expectedKind) (cluster : spec.cluster = view.identity.clusterId)
    (fresh : view.get .bootstrap = none ∨ view.get .bootstrap = some spec) :
    view.applyBootstrap spec expectedKind =
      .ok (bootstrapResult spec, ⟨view.startWrites spec, []⟩) := by
  unfold applyBootstrap startWrites
  rw [if_neg (by simpa using kind), if_neg (by simpa using cluster)]
  rcases fresh with none | same
  · rw [none]
    rfl
  · rw [same]
    simp only [ne_eq, not_true_eq_false, if_false, List.nil_append]
    rfl

theorem applyBootstrap_ok {spec : BootstrapSpec} {expectedKind : GroupKind} {result : ApplyResult}
    {write : WriteBatch} (done : view.applyBootstrap spec expectedKind = .ok (result, write))
    (accepted : result.isRejected = false) :
    view.identity.kind = expectedKind ∧ spec.cluster = view.identity.clusterId ∧
      (view.get .bootstrap = none ∨ view.get .bootstrap = some spec) := by
  unfold applyBootstrap reject reply at done
  dsimp only at done
  split at done
  · cases done
    simp [ApplyResult.isRejected] at accepted
  rename_i kind
  split at done
  · cases done
    simp [ApplyResult.isRejected] at accepted
  rename_i cluster
  simp only [ne_eq, not_not] at kind cluster
  refine ⟨kind, cluster, ?_⟩
  split at done
  · rename_i existing stored
    split at done
    · cases done
      simp [ApplyResult.isRejected] at accepted
    · rename_i same
      simp only [ne_eq, not_not] at same
      exact .inr (same ▸ stored)
  · rename_i stored
    exact .inl stored

end GroupView

namespace GroupDb

variable {db : GroupDb} {logId : GroupLogId} {command : GroupCommand}

def freshControl : GroupDb :=
  GroupDb.create ⟨storageFormatVersion, ⟨1⟩, controlGroupId, .control⟩ 2

def administratorPolicy (cluster : ClusterId) : PolicyBody where
  cluster := cluster
  revision := ⟨1, Nat.one_ne_zero⟩
  revocationRevision := 0
  grants := Kv.TreeMap.collect (fun _ => ⟨"admin"⟩) [{⟨.securityAdmin, .cluster cluster⟩}]
  tokenVerifiers := [⟨⟨⟨"token"⟩, ⟨1, Nat.one_ne_zero⟩⟩, ⟨"admin"⟩, ⟨1⟩, .active⟩]
  peerCertificates := ∅

end GroupDb

end LightStream
