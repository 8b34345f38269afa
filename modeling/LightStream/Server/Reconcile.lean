import Mathlib.Data.Finset.Sort
import LightStream.Storage.Apply

/-!
The export reconciler of `light-stream-server`: what one tick of a node proposes, from the copies
of the groups that the node reads, its leaderships, its clocks and its materialization.
-/

namespace LightStream

def ExportFenceObservation.new (group : GroupId) (throughEpoch : Nat)
    (held : Option HeldExportFence) : Except DomainError ExportFenceObservation :=
  if held.any (fun fence => decide (fence.cut.group ≠ group)) then
    .error (.invalidIdentity "export fence observation" "held fence cut belongs to another group")
  else if held.any (fun fence => decide (fence.token.epoch.value ≤ throughEpoch)) then
    .error (.invalidIdentity "export fence observation"
      "held fence is not newer than the release watermark")
  else .ok ⟨group, throughEpoch, held⟩

/-- What `poll_materialization` answers; a cancelled one answers as one that is not done. -/
inductive MaterializationPoll where
  | pending
  | ready (artifact : ArtifactIdentity)
  | retryable
  | failed
deriving DecidableEq

/-- What `recover_ready` finds of an artifact on disk. -/
inductive RecoveredArtifact where
  | found (artifact : ArtifactIdentity)
  | absent
  | retryable
  | invalid
deriving DecidableEq

/-- What one tick of a node reads.  A data group can be read twice, and the clock and the
materialization can change between two readings. -/
structure ExportNode where
  control : GroupDb
  data : GroupId → Option GroupDb
  again : GroupId → Option GroupDb
  controlLeader : Bool
  dataLeader : GroupId → Bool
  authority : Bool
  proposing : Bool
  clock : Nat → ExportDeadline
  owns : Bool
  polled : MaterializationPoll
  recovered : RecoveredArtifact
  releaseCursor : Nat

inductive Proposal where
  | control (command : ExportCommand)
  | data (group : GroupId) (command : ExportCommand)
deriving DecidableEq

/-- An export that ends: its release is decided. -/
def ActiveExportPhase.ends : ActiveExportPhase → Bool
  | .releasing _ _ _ => true
  | .aborting _ _ => true
  | _ => false

def ActiveExportPhase.materializes : ActiveExportPhase → Bool
  | .materializing _ => true
  | .available _ _ => true
  | _ => false

def ActiveExport.expired (active : ActiveExport) (clock : ExportDeadline) : Bool :=
  decide (active.spec.deadline.upperBound ≤ clock.lowerBound)

/-- The configured data groups in the order of the `BTreeSet` that holds them. -/
def ExportSpec.groups (spec : ExportSpec) : List GroupId :=
  spec.configuredDataGroups.sort (· ≤ ·)

def GroupDb.activeExport (db : GroupDb) : Option ActiveExport := db.view.controlActiveExport

def GroupDb.mutationFence (db : GroupDb) : MutationFenceState := db.view.mutationFenceState

namespace ExportNode

variable (node : ExportNode) (active : ActiveExport)

def proposeControl (command : ExportCommand) : List Proposal :=
  if node.controlLeader then [.control command] else []

def requestAbort (reason : ExportAbortReason) (clock : ExportDeadline) : List Proposal :=
  node.proposeControl (.requestAbort active.spec.intent.request reason clock)

def requestDeadlineAbort : List Proposal := node.requestAbort active .deadlineExceeded (node.clock 2)

def requestMaterializationAbort : List Proposal :=
  node.requestAbort active .materializationFailed (node.clock 2)

/-- The observation of the first missing group whose copy holds the token.  A copy that makes no
observation ends the tick. -/
def observeFence : List GroupId → Except DomainError (Option ExportFenceObservation)
  | [] => .ok none
  | group :: rest =>
      match node.data group with
      | none => observeFence rest
      | some copy =>
          let fence := copy.mutationFence
          match ExportFenceObservation.new group fence.throughEpoch fence.held with
          | .error error => .error error
          | .ok observation =>
              if observation.held.any (fun held => decide (held.token = active.spec.token)) then
                .ok (some observation)
              else observeFence rest

def acquireFence (group : GroupId) : List Proposal :=
  match node.again group with
  | none => []
  | some copy =>
      if copy.mutationFence.held.any (fun held => decide (held.token = active.spec.token)) then []
      else if node.dataLeader group then [.data group (.acquireFence active.spec.token)]
      else []

def reconcilePreparing (fencedGroups : Kv.TreeMap GroupId GroupCut) : List Proposal :=
  let missing := active.spec.groups.filter fun group => decide (group ∉ fencedGroups)
  let acquired := missing.flatMap (node.acquireFence active)
  if node.controlLeader then
    match node.observeFence active missing with
    | .error _ => []
    | .ok none => acquired
    | .ok (some observation) =>
        .control (.recordFence active.spec.token observation) :: acquired
  else acquired

def publish (cut : QuiescentCut) (artifact : ArtifactIdentity) : List Proposal :=
  if active.expired (node.clock 1) then node.requestDeadlineAbort active
  else [.control (.publishArtifact active.spec.token artifact cut)]

/-- `poll_export_materialization`, and what becomes of a ready artifact. -/
def pollMaterialization (ready : ArtifactIdentity → List Proposal) : List Proposal :=
  match node.polled with
  | .pending => []
  | .retryable => []
  | .failed => node.requestMaterializationAbort active
  | .ready artifact => ready artifact

def reconcileMaterializing (cut : QuiescentCut) : List Proposal :=
  if node.owns then node.pollMaterialization active (node.publish active cut)
  else
    match node.recovered with
    | .found artifact => node.publish active cut artifact
    | .absent => node.pollMaterialization active (node.publish active cut)
    | .retryable => []
    | .invalid => node.requestMaterializationAbort active

def recoverAvailable (available : ArtifactIdentity) : List Proposal :=
  match node.recovered with
  | .found _ => []
  | .absent => node.pollMaterialization active fun artifact =>
      if artifact = available then
        if active.expired (node.clock 1) then node.requestDeadlineAbort active else []
      else node.requestMaterializationAbort active
  | .retryable => []
  | .invalid => node.requestMaterializationAbort active

def reconcileAvailable (available : ArtifactIdentity) : List Proposal :=
  if node.owns then
    node.pollMaterialization active fun artifact =>
      if artifact = available then node.recoverAvailable active available
      else node.requestMaterializationAbort active
  else node.recoverAvailable active available

def releaseNeeded (fence : MutationFenceState) : Bool :=
  fence.held.any (fun held => decide (held.token = active.spec.token)) ||
    (fence.held.isNone && decide (fence.throughEpoch < active.spec.epoch.value))

def releaseFence (group : GroupId) : List Proposal :=
  match node.data group with
  | none => []
  | some copy =>
      if releaseNeeded active copy.mutationFence && node.dataLeader group then
        [.data group (.releaseFence active.spec.token)]
      else []

def releaseCandidate : Option GroupId :=
  active.spec.groups[node.releaseCursor % active.spec.groups.length]?

def recordRelease : List Proposal :=
  match node.releaseCandidate active with
  | none => []
  | some group =>
      match node.again group with
      | none => []
      | some copy =>
          let fence := copy.mutationFence
          if fence.held = none ∧ active.spec.epoch.value ≤ fence.throughEpoch then
            match ExportFenceObservation.new group fence.throughEpoch none with
            | .error _ => []
            | .ok observation => [.control (.recordRelease active.spec.token observation)]
          else []

def reconcileExportRelease : List Proposal :=
  if active.isReadyToFinish then node.proposeControl (.finish active.spec.token)
  else
    active.spec.groups.flatMap (node.releaseFence active) ++
      if node.controlLeader then node.recordRelease active else []

/-- What one tick proposes, in order.  A tick that stops early, on a rejected proposal or on a
changed reading, proposes a prefix of it. -/
def reconcileExportTick : List Proposal :=
  match node.control.activeExport with
  | none => []
  | some active =>
      if active.phase.materializes && !node.authority then []
      else if node.proposing then []
      else if !active.phase.ends && active.expired (node.clock 0) then
        node.requestAbort active .deadlineExceeded (node.clock 1)
      else
        match active.phase with
        | .preparing _ fencedGroups => node.reconcilePreparing active fencedGroups
        | .frozen _ => node.proposeControl (.beginMaterialization active.spec.token)
        | .materializing cut => node.reconcileMaterializing active cut
        | .available _ artifact => node.reconcileAvailable active artifact
        | .releasing _ _ _ => node.reconcileExportRelease active
        | .aborting _ _ => node.reconcileExportRelease active

end ExportNode

end LightStream
