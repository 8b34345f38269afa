import Mathlib.Data.Finset.Card
import LightStream.Kv.TreeMap
import LightStream.Core.Domain

/-!
The export protocol of `light-stream-core`: export intents and fence tokens, the phases of an
active export, and the mutation fence of a group.
-/

namespace LightStream

open Kv (TreeMap)

def maxExportStreams : Nat := 1024
def maxDataGroups : Nat := 32

@[ext]
structure ExportEpoch where
  value : Nat
  nonzero : value ≠ 0

instance : DecidableEq ExportEpoch := fun _ _ => decidable_of_iff _ ExportEpoch.ext_iff.symm

/-- What `ExportSelection::try_new` accepts, in its canonical order. -/
structure ExportSelection where
  streams : List StreamId
  nonempty : streams ≠ []
  bounded : streams.length ≤ maxExportStreams
  sorted : streams.Pairwise (· < ·)
deriving DecidableEq

theorem sampleStreams_nonempty : [(⟨1⟩ : StreamId)] ≠ [] := List.cons_ne_nil _ _

theorem sampleStreams_strict : [(⟨1⟩ : StreamId)].Pairwise (· < ·) := List.pairwise_singleton _ _

structure ExportDeadline where
  lowerBound : Nat
  upperBound : Nat
  ordered : lowerBound ≤ upperBound
deriving DecidableEq

structure ExportIntent where
  request : MutationRequestId
  cluster : ClusterId
  selection : ExportSelection
  format : ExportFormatVersion
deriving DecidableEq

def ExportIntent.requestDigest (intent : ExportIntent) : ExportRequestDigest :=
  .canonical intent.request intent.cluster intent.selection.streams intent.format

def ExportIntent.exportId (intent : ExportIntent) : ExportId := ⟨intent.requestDigest⟩

structure ExportFenceToken where
  epoch : ExportEpoch
  requestDigest : ExportRequestDigest
deriving DecidableEq

def ExportFenceToken.exportId (token : ExportFenceToken) : ExportId := ⟨token.requestDigest⟩

structure GroupCut where
  group : GroupId
  term : Nat
  leader : NodeId
  appliedIndex : Nat
deriving DecidableEq

structure QuiescentCut where
  control : GroupCut
  data : TreeMap GroupId GroupCut
  keyed : TreeMap.Keyed GroupCut.group data
deriving DecidableEq

def QuiescentCut.tryNew (control : GroupCut) (data : List GroupCut) :
    Except DomainError QuiescentCut :=
  let collected := TreeMap.collect GroupCut.group data
  if collected.size ≠ data.length then
    .error (.invalidIdentity "quiescent cut" "data group cuts must be unique")
  else .ok ⟨control, collected, TreeMap.collect_keyed _ data⟩

theorem QuiescentCut.tryNew_values {control : GroupCut} {data : TreeMap GroupId GroupCut}
    (keyed : TreeMap.Keyed GroupCut.group data) :
    QuiescentCut.tryNew control (TreeMap.values data) = .ok ⟨control, data, keyed⟩ := by
  simp only [QuiescentCut.tryNew, TreeMap.collect_values keyed, TreeMap.length_values, ne_eq,
    not_true_eq_false, if_false]

structure ExportSpec where
  intent : ExportIntent
  epoch : ExportEpoch
  configuredDataGroups : Finset GroupId
  deadline : ExportDeadline
  hasGroup : configuredDataGroups ≠ ∅
  bounded : configuredDataGroups.card ≤ maxDataGroups
deriving DecidableEq

def ExportSpec.tryNew (intent : ExportIntent) (epoch : ExportEpoch) (groups : List GroupId)
    (deadline : ExportDeadline) : Except DomainError ExportSpec :=
  if empty : groups = [] then
    .error (.invalidRange "export requires at least one configured data group")
  else if large : groups.length > maxDataGroups then
    .error (.resourceLimit "export_data_groups" maxDataGroups)
  else if groups.toFinset.card ≠ groups.length then
    .error (.invalidIdentity "export data groups" "configured data group IDs must be unique")
  else
    .ok ⟨intent, epoch, groups.toFinset, deadline, by simpa [List.toFinset_eq_empty_iff] using empty,
      le_trans (List.toFinset_card_le groups) (by omega)⟩

def ExportSpec.token (spec : ExportSpec) : ExportFenceToken :=
  ⟨spec.epoch, spec.intent.requestDigest⟩

@[ext]
structure ArtifactIdentity where
  length : Nat
  sha256 : Nat
  nonempty : length ≠ 0

instance : DecidableEq ArtifactIdentity := fun _ _ => decidable_of_iff _ ArtifactIdentity.ext_iff.symm

inductive ExportAbortReason where
  | operatorRequested
  | deadlineExceeded
  | materializationFailed
deriving DecidableEq

inductive ActiveExportPhase where
  | preparing (controlCut : GroupCut) (fencedGroups : TreeMap GroupId GroupCut)
  | frozen (cut : QuiescentCut)
  | materializing (cut : QuiescentCut)
  | available (cut : QuiescentCut) (artifact : ArtifactIdentity)
  | releasing (cut : QuiescentCut) (artifact : ArtifactIdentity) (releasedGroups : Finset GroupId)
  | aborting (reason : ExportAbortReason) (releasedGroups : Finset GroupId)
deriving DecidableEq

/-- What decoding an active export checks of its phase against the configured groups. -/
def ActiveExportPhase.Matches (configured : Finset GroupId) : ActiveExportPhase → Prop
  | .preparing _ fencedGroups =>
      TreeMap.keySet fencedGroups ⊂ configured ∧ TreeMap.Keyed GroupCut.group fencedGroups
  | .frozen cut => TreeMap.keySet cut.data = configured
  | .materializing cut => TreeMap.keySet cut.data = configured
  | .available cut _ => TreeMap.keySet cut.data = configured
  | .releasing cut _ releasedGroups =>
      TreeMap.keySet cut.data = configured ∧ releasedGroups ⊆ configured
  | .aborting _ releasedGroups => releasedGroups ⊆ configured

structure ActiveExport where
  spec : ExportSpec
  phase : ActiveExportPhase
  valid : phase.Matches spec.configuredDataGroups
deriving DecidableEq

structure HeldExportFence where
  token : ExportFenceToken
  cut : GroupCut
deriving DecidableEq

structure ExportFenceObservation where
  group : GroupId
  throughEpoch : Nat
  held : Option HeldExportFence
deriving DecidableEq

inductive ExportReceiptOutcome where
  | completed (artifact : ArtifactIdentity)
  | aborted (reason : ExportAbortReason)
deriving DecidableEq

structure ExportReceipt where
  request : MutationRequestId
  epoch : ExportEpoch
  requestDigest : ExportRequestDigest
  deadline : Option ExportDeadline
  outcome : ExportReceiptOutcome
deriving DecidableEq

inductive ExportStatusPhase where
  | preparing
  | frozen
  | materializing
  | available
  | releasing
  | aborting
deriving DecidableEq

inductive ExportStatus where
  | active (exportId : ExportId) (epoch : ExportEpoch) (phase : ExportStatusPhase)
  | terminal (receipt : ExportReceipt)
deriving DecidableEq

namespace ActiveExport

theorem preparing_matches (configured : Finset GroupId) (hasGroup : configured ≠ ∅)
    (controlCut : GroupCut) :
    (ActiveExportPhase.preparing controlCut ∅).Matches configured := by
  refine ⟨?_, ?_⟩
  · have empty : TreeMap.keySet (∅ : TreeMap GroupId GroupCut) = ∅ := by
      ext index
      simp [TreeMap.mem_keySet]
    rw [empty]
    exact Finset.empty_ssubset.mpr (Finset.nonempty_iff_ne_empty.mpr hasGroup)
  · intro index value stored
    simp at stored

def preparing (spec : ExportSpec) (controlCut : GroupCut) : ActiveExport :=
  ⟨spec, .preparing controlCut ∅,
    preparing_matches spec.configuredDataGroups spec.hasGroup controlCut⟩

def cut (active : ActiveExport) : Option QuiescentCut :=
  match active.phase with
  | .frozen cut => some cut
  | .materializing cut => some cut
  | .available cut _ => some cut
  | .releasing cut _ _ => some cut
  | .preparing _ _ => none
  | .aborting _ _ => none

theorem insert_fence_matches {configured : Finset GroupId} {controlCut : GroupCut}
    {fencedGroups : TreeMap GroupId GroupCut}
    (preparing : (ActiveExportPhase.preparing controlCut fencedGroups).Matches configured)
    {cut : GroupCut} (member : cut.group ∈ configured)
    (incomplete : TreeMap.keySet (fencedGroups.insert cut.group cut) ≠ configured) :
    (ActiveExportPhase.preparing controlCut (fencedGroups.insert cut.group cut)).Matches
      configured := by
  refine ⟨lt_of_le_of_ne ?_ incomplete, TreeMap.insert_keyed preparing.2 cut⟩
  intro index indexMember
  rw [TreeMap.mem_keySet, Std.ExtTreeMap.mem_insert] at indexMember
  rcases indexMember with same | old
  · exact compare_eq_iff_eq.mp same ▸ member
  · exact preparing.1.1 (TreeMap.mem_keySet.mpr old)

def recordFence (active : ActiveExport) (observation : ExportFenceObservation) :
    Except DomainError ActiveExport :=
  match current : active.phase with
  | .preparing controlCut fencedGroups =>
      if outside : observation.group ∉ active.spec.configuredDataGroups then
        .error (.invalidIdentity "export fence observation"
          "group is not in the configured data-group set")
      else
        match observation.held.filter (fun held => held.token = active.spec.token) with
        | none => .error .exportConflict
        | some held =>
            if differs : held.cut.group ≠ observation.group then
              .error (.invalidIdentity "export fence observation"
                "observation group does not match the held cut")
            else
              match fencedGroups[observation.group]? with
              | some existing =>
                  if existing = held.cut then .ok active else .error .exportConflict
              | none =>
                  let fenced := fencedGroups.insert held.cut.group held.cut
                  if complete : TreeMap.keySet fenced = active.spec.configuredDataGroups then
                    match frozen : QuiescentCut.tryNew controlCut (TreeMap.values fenced) with
                    | .error error => .error error
                    | .ok cut =>
                        .ok ⟨active.spec, .frozen cut, by
                          have keyed : TreeMap.Keyed GroupCut.group fenced :=
                            TreeMap.insert_keyed (current ▸ active.valid).2 held.cut
                          rw [QuiescentCut.tryNew_values keyed] at frozen
                          cases frozen
                          exact complete⟩
                  else
                    .ok ⟨active.spec, .preparing controlCut fenced,
                      insert_fence_matches (current ▸ active.valid)
                        (not_not.mp differs ▸ not_not.mp outside) complete⟩
  | _ =>
      match active.cut with
      | some cut =>
          if cut.data[observation.group]? = observation.held.map HeldExportFence.cut then .ok active
          else .error .exportConflict
      | none => .error .exportConflict

def beginMaterialization (active : ActiveExport) : Except DomainError ActiveExport :=
  match current : active.phase with
  | .frozen cut =>
      .ok ⟨active.spec, .materializing cut, by
        have valid := active.valid
        rw [current] at valid
        exact valid⟩
  | .materializing _ => .ok active
  | _ => .error .exportConflict

def publishArtifact (active : ActiveExport) (artifact : ArtifactIdentity) (cut : QuiescentCut) :
    Except DomainError ActiveExport :=
  match current : active.phase with
  | .materializing expected =>
      if same : expected = cut then
        .ok ⟨active.spec, .available cut artifact, by
          have valid := active.valid
          rw [current, same] at valid
          exact valid⟩
      else .error .exportConflict
  | .available existing published =>
      if existing = cut ∧ published = artifact then .ok active else .error .exportConflict
  | _ => .error .exportConflict

def requestCompletion (active : ActiveExport) (artifact : ArtifactIdentity) :
    Except DomainError ActiveExport :=
  match current : active.phase with
  | .available cut published =>
      if published = artifact then
        .ok ⟨active.spec, .releasing cut artifact ∅, by
          have valid := active.valid
          rw [current] at valid
          exact ⟨valid, Finset.empty_subset _⟩⟩
      else .error .exportConflict
  | .releasing _ published _ =>
      if published = artifact then .ok active else .error .exportConflict
  | _ => .error .exportConflict

def requestAbort (active : ActiveExport) (reason : ExportAbortReason) :
    Except DomainError ActiveExport :=
  match active.phase with
  | .aborting existing _ => if existing = reason then .ok active else .error .exportConflict
  | .releasing _ _ _ => .error .exportConflict
  | _ => .ok ⟨active.spec, .aborting reason ∅, Finset.empty_subset _⟩

def recordRelease (active : ActiveExport) (observation : ExportFenceObservation) :
    Except DomainError ActiveExport :=
  if member : observation.group ∉ active.spec.configuredDataGroups then
    .error (.invalidIdentity "export release observation"
      "group is not in the configured data-group set")
  else if observation.throughEpoch < active.spec.epoch.value ∨ observation.held.isSome = true then
    .error .exportConflict
  else
    match current : active.phase with
    | .releasing cut artifact releasedGroups =>
        .ok ⟨active.spec, .releasing cut artifact (insert observation.group releasedGroups), by
          have valid := active.valid
          rw [current] at valid
          exact ⟨valid.1, Finset.insert_subset (not_not.mp member) valid.2⟩⟩
    | .aborting reason releasedGroups =>
        .ok ⟨active.spec, .aborting reason (insert observation.group releasedGroups), by
          have valid := active.valid
          rw [current] at valid
          exact Finset.insert_subset (not_not.mp member) valid⟩
    | _ => .error .exportConflict

def isReadyToFinish (active : ActiveExport) : Bool :=
  match active.phase with
  | .releasing _ _ releasedGroups => decide (releasedGroups = active.spec.configuredDataGroups)
  | .aborting _ releasedGroups => decide (releasedGroups = active.spec.configuredDataGroups)
  | _ => false

def receipt (active : ActiveExport) : Except DomainError ExportReceipt :=
  if active.isReadyToFinish = false then .error .exportConflict
  else
    match active.phase with
    | .releasing _ artifact _ =>
        .ok ⟨active.spec.intent.request, active.spec.epoch, active.spec.intent.requestDigest,
          some active.spec.deadline, .completed artifact⟩
    | .aborting reason _ =>
        .ok ⟨active.spec.intent.request, active.spec.epoch, active.spec.intent.requestDigest,
          some active.spec.deadline, .aborted reason⟩
    | _ => .error .exportConflict

def statusPhase (active : ActiveExport) : ExportStatusPhase :=
  match active.phase with
  | .preparing _ _ => .preparing
  | .frozen _ => .frozen
  | .materializing _ => .materializing
  | .available _ _ => .available
  | .releasing _ _ _ => .releasing
  | .aborting _ _ => .aborting

def status (active : ActiveExport) : ExportStatus :=
  .active active.spec.intent.exportId active.spec.epoch active.statusPhase

end ActiveExport

/-- The mutation fence of a group.  A held fence is newer than every released epoch. -/
structure MutationFenceState where
  throughEpoch : Nat
  held : Option HeldExportFence
  newer : ∀ fence, held = some fence → throughEpoch < fence.token.epoch.value
deriving DecidableEq

namespace MutationFenceState

def default : MutationFenceState := ⟨0, none, by simp⟩

def observation (fence : MutationFenceState) (group : GroupId) : ExportFenceObservation :=
  ⟨group, fence.throughEpoch, fence.held⟩

def acquire (fence : MutationFenceState) (token : ExportFenceToken) (cut : GroupCut) :
    Except DomainError (MutationFenceState × ExportFenceObservation) :=
  if released : token.epoch.value ≤ fence.throughEpoch then
    .ok (fence, fence.observation cut.group)
  else
    match fence.held with
    | some held =>
        if held.token = token then .ok (fence, fence.observation held.cut.group)
        else .error .exportConflict
    | none =>
        let next : MutationFenceState := ⟨fence.throughEpoch, some ⟨token, cut⟩, by
          intro stored same
          cases same
          exact Nat.lt_of_not_le released⟩
        .ok (next, next.observation cut.group)

def releaseForGroup (fence : MutationFenceState) (token : ExportFenceToken) (group : GroupId) :
    Except DomainError (MutationFenceState × ExportFenceObservation) :=
  let next : MutationFenceState :=
    ⟨max fence.throughEpoch token.epoch.value, none, by simp⟩
  match fence.held with
  | some held =>
      if held.token ≠ token then .error .exportConflict else .ok (next, next.observation group)
  | none => .ok (next, next.observation group)

end MutationFenceState

end LightStream
