import Mathlib.Data.Finset.Sort
import LightStream.Core.Operations

/-!
How an active export is stored: the `Wire` records of `operations.rs` and what decoding checks
before it builds a value.  Types whose decoding has no check of its own carry over as they are.
-/

namespace LightStream

open Kv (TreeMap)

/-- What a decoder reports: a failed constructor, or a text of its own. -/
inductive WireError where
  | domain (error : DomainError)
  | custom (reason : String)
deriving DecidableEq

def checkedWire {α : Type} : Except DomainError α → Except WireError α
  | .ok value => .ok value
  | .error error => .error (.domain error)

def ExportEpoch.new (value : Nat) : Except DomainError ExportEpoch :=
  if nonzero : value = 0 then .error (.invalidIdentity "export epoch" "zero is reserved")
  else .ok ⟨value, nonzero⟩

def ExportDeadline.new (lowerBound upperBound : Nat) : Except DomainError ExportDeadline :=
  if ordered : lowerBound ≤ upperBound then .ok ⟨lowerBound, upperBound, ordered⟩
  else .error (.invalidRange "export deadline lower bound exceeds upper bound")

def ArtifactIdentity.new (length sha256 : Nat) : Except DomainError ArtifactIdentity :=
  if nonempty : length = 0 then
    .error (.invalidRange "export artifact length must be greater than zero")
  else .ok ⟨length, sha256, nonempty⟩

theorem sortedStreams_pairwise {streams : List StreamId} (distinct : streams.Nodup) :
    (streams.insertionSort (· ≤ ·)).Pairwise (· < ·) := by
  have sorted := streams.pairwise_insertionSort (· ≤ ·)
  have nodup := ((streams.perm_insertionSort (· ≤ ·)).nodup_iff).mpr distinct
  exact sorted.imp₂ (fun _ _ below different => lt_of_le_of_ne below different) nodup

def ExportSelection.tryNew (streams : List StreamId) : Except DomainError ExportSelection :=
  if nonempty : streams = [] then
    .error (.invalidRange "export selection must contain at least one stream")
  else if bounded : streams.length ≤ maxExportStreams then
    if distinct : streams.Nodup then
      .ok ⟨streams.insertionSort (· ≤ ·), by
        intro empty
        have perm := streams.perm_insertionSort (· ≤ ·)
        rw [empty] at perm
        exact nonempty perm.symm.eq_nil, by
        rw [(streams.perm_insertionSort (· ≤ ·)).length_eq]
        exact bounded, sortedStreams_pairwise distinct⟩
    else .error (.invalidIdentity "export selection" "stream IDs must be unique")
  else .error (.resourceLimit "export_streams" maxExportStreams)

structure ExportIntentWire where
  request : MutationRequestId
  cluster : ClusterId
  streams : List StreamId
  format : ExportFormatVersion
  requestDigest : ExportRequestDigest
  exportId : ExportId
deriving DecidableEq

structure ExportSpecWire where
  intent : ExportIntentWire
  epoch : Nat
  configuredDataGroups : List GroupId
  deadline : Nat × Nat
deriving DecidableEq

structure QuiescentCutWire where
  control : GroupCut
  data : TreeMap GroupId GroupCut
deriving DecidableEq

inductive ActiveExportPhaseWire where
  | preparing (controlCut : GroupCut) (fencedGroups : TreeMap GroupId GroupCut)
  | frozen (cut : QuiescentCutWire)
  | materializing (cut : QuiescentCutWire)
  | available (cut : QuiescentCutWire) (artifact : Nat × Nat)
  | releasing (cut : QuiescentCutWire) (artifact : Nat × Nat) (releasedGroups : Finset GroupId)
  | aborting (reason : ExportAbortReason) (releasedGroups : Finset GroupId)
deriving DecidableEq

structure ActiveExportWire where
  spec : ExportSpecWire
  phase : ActiveExportPhaseWire
deriving DecidableEq

/-! ### Writing -/

def ExportIntent.serialize (intent : ExportIntent) : ExportIntentWire :=
  ⟨intent.request, intent.cluster, intent.selection.streams, intent.format, intent.requestDigest,
    intent.exportId⟩

def ExportSpec.serialize (spec : ExportSpec) : ExportSpecWire :=
  ⟨spec.intent.serialize, spec.epoch.value, spec.configuredDataGroups.sort (· ≤ ·),
    (spec.deadline.lowerBound, spec.deadline.upperBound)⟩

def QuiescentCut.serialize (cut : QuiescentCut) : QuiescentCutWire := ⟨cut.control, cut.data⟩

def ArtifactIdentity.serialize (artifact : ArtifactIdentity) : Nat × Nat :=
  (artifact.length, artifact.sha256)

def ActiveExportPhase.serialize : ActiveExportPhase → ActiveExportPhaseWire
  | .preparing controlCut fencedGroups => .preparing controlCut fencedGroups
  | .frozen cut => .frozen cut.serialize
  | .materializing cut => .materializing cut.serialize
  | .available cut artifact => .available cut.serialize artifact.serialize
  | .releasing cut artifact releasedGroups =>
      .releasing cut.serialize artifact.serialize releasedGroups
  | .aborting reason releasedGroups => .aborting reason releasedGroups

def ActiveExport.serialize (active : ActiveExport) : ActiveExportWire :=
  ⟨active.spec.serialize, active.phase.serialize⟩

/-! ### Reading -/

def ExportIntentWire.deserialize (wire : ExportIntentWire) : Except WireError ExportIntent := do
  let selection ← checkedWire (ExportSelection.tryNew wire.streams)
  let intent : ExportIntent := ⟨wire.request, wire.cluster, selection, wire.format⟩
  if intent.requestDigest ≠ wire.requestDigest ∨ intent.exportId ≠ wire.exportId then
    .error (.custom "export intent identity does not match its canonical fields")
  else .ok intent

def ExportSpecWire.deserialize (wire : ExportSpecWire) : Except WireError ExportSpec := do
  let intent ← wire.intent.deserialize
  let epoch ← checkedWire (ExportEpoch.new wire.epoch)
  let deadline ← checkedWire (ExportDeadline.new wire.deadline.1 wire.deadline.2)
  checkedWire (ExportSpec.tryNew intent epoch wire.configuredDataGroups deadline)

def QuiescentCutWire.deserialize (wire : QuiescentCutWire) : Except WireError QuiescentCut :=
  if wire.data.toList.any (fun entry => entry.1 ≠ entry.2.group) then
    .error (.custom "quiescent cut key does not match its group cut")
  else checkedWire (QuiescentCut.tryNew wire.control (TreeMap.values wire.data))

def ActiveExportPhaseWire.deserialize :
    ActiveExportPhaseWire → Except WireError ActiveExportPhase
  | .preparing controlCut fencedGroups => .ok (.preparing controlCut fencedGroups)
  | .frozen cut => do
      let cut ← cut.deserialize
      .ok (.frozen cut)
  | .materializing cut => do
      let cut ← cut.deserialize
      .ok (.materializing cut)
  | .available cut artifact => do
      let cut ← cut.deserialize
      let artifact ← checkedWire (ArtifactIdentity.new artifact.1 artifact.2)
      .ok (.available cut artifact)
  | .releasing cut artifact releasedGroups => do
      let cut ← cut.deserialize
      let artifact ← checkedWire (ArtifactIdentity.new artifact.1 artifact.2)
      .ok (.releasing cut artifact releasedGroups)
  | .aborting reason releasedGroups => .ok (.aborting reason releasedGroups)

def ActiveExportPhase.matchesGroups (configured : Finset GroupId) : ActiveExportPhase → Bool
  | .preparing _ fencedGroups =>
      decide (fencedGroups.size < configured.card) &&
        fencedGroups.toList.all fun entry =>
          decide (entry.1 ∈ configured) && decide (entry.1 = entry.2.group)
  | .frozen cut => decide (TreeMap.keySet cut.data = configured)
  | .materializing cut => decide (TreeMap.keySet cut.data = configured)
  | .available cut _ => decide (TreeMap.keySet cut.data = configured)
  | .releasing cut _ releasedGroups =>
      decide (TreeMap.keySet cut.data = configured) && decide (releasedGroups ⊆ configured)
  | .aborting _ releasedGroups => decide (releasedGroups ⊆ configured)

theorem ActiveExportPhase.matchesGroups_iff {configured : Finset GroupId}
    {phase : ActiveExportPhase} :
    phase.matchesGroups configured = true ↔ phase.Matches configured := by
  cases phase with
  | preparing controlCut fencedGroups =>
      simp only [matchesGroups, Matches, Bool.and_eq_true, decide_eq_true_eq, List.all_eq_true]
      have counted := TreeMap.card_keySet fencedGroups
      constructor
      · rintro ⟨fewer, checked⟩
        refine ⟨⟨?_, ?_⟩, ?_⟩
        · intro group member
          obtain ⟨cut, stored⟩ := TreeMap.mem_keySet_iff.mp member
          exact (checked (group, cut) (Std.ExtTreeMap.mem_toList_iff_getElem?_eq_some.mpr stored)).1
        · intro every
          have more := Finset.card_le_card every
          omega
        · intro group cut stored
          exact (checked (group, cut)
            (Std.ExtTreeMap.mem_toList_iff_getElem?_eq_some.mpr stored)).2.symm
      · rintro ⟨fewer, keyed⟩
        refine ⟨?_, ?_⟩
        · have less := Finset.card_lt_card fewer
          omega
        · rintro ⟨group, cut⟩ member
          have stored := Std.ExtTreeMap.mem_toList_iff_getElem?_eq_some.mp member
          exact ⟨fewer.1 (TreeMap.mem_keySet_iff.mpr ⟨cut, stored⟩), (keyed group cut stored).symm⟩
  | frozen cut => simp [matchesGroups, Matches]
  | materializing cut => simp [matchesGroups, Matches]
  | available cut artifact => simp [matchesGroups, Matches]
  | releasing cut artifact releasedGroups => simp [matchesGroups, Matches]
  | aborting reason releasedGroups => simp [matchesGroups, Matches]

def ActiveExportWire.deserialize (wire : ActiveExportWire) : Except WireError ActiveExport := do
  let spec ← wire.spec.deserialize
  let phase ← wire.phase.deserialize
  if valid : phase.matchesGroups spec.configuredDataGroups = true then
    .ok ⟨spec, phase, ActiveExportPhase.matchesGroups_iff.mp valid⟩
  else .error (.custom "active export phase does not match its configured groups")

/-! ### Reading what was written -/

theorem ExportEpoch.new_value (epoch : ExportEpoch) : ExportEpoch.new epoch.value = .ok epoch := by
  rw [ExportEpoch.new, dif_neg epoch.nonzero]

theorem ExportDeadline.new_bounds (deadline : ExportDeadline) :
    ExportDeadline.new deadline.lowerBound deadline.upperBound = .ok deadline := by
  rw [ExportDeadline.new, dif_pos deadline.ordered]

theorem ArtifactIdentity.new_fields (artifact : ArtifactIdentity) :
    ArtifactIdentity.new artifact.length artifact.sha256 = .ok artifact := by
  rw [ArtifactIdentity.new, dif_neg artifact.nonempty]

theorem ExportSelection.tryNew_streams (selection : ExportSelection) :
    ExportSelection.tryNew selection.streams = .ok selection := by
  have distinct : selection.streams.Nodup := selection.sorted.imp fun below => ne_of_lt below
  have same : selection.streams.insertionSort (· ≤ ·) = selection.streams :=
    (selection.sorted.imp fun below => le_of_lt below).insertionSort_eq
  unfold ExportSelection.tryNew
  rw [dif_neg selection.nonempty, dif_pos selection.bounded, dif_pos distinct]
  congr 1
  simp only [same]

theorem ExportIntent.deserialize_serialize (intent : ExportIntent) :
    intent.serialize.deserialize = .ok intent := by
  simp only [ExportIntentWire.deserialize, serialize, ExportSelection.tryNew_streams, checkedWire,
    bind, Except.bind]
  refine if_neg ?_
  rintro (differs | differs)
  · exact differs rfl
  · exact differs rfl

theorem ExportSpec.tryNew_sorted (spec : ExportSpec) :
    ExportSpec.tryNew spec.intent spec.epoch (spec.configuredDataGroups.sort (· ≤ ·))
      spec.deadline = .ok spec := by
  have some : spec.configuredDataGroups.sort (· ≤ ·) ≠ [] := by
    intro empty
    apply spec.hasGroup
    rw [← Finset.sort_toFinset spec.configuredDataGroups (· ≤ ·), empty]
    rfl
  unfold ExportSpec.tryNew
  rw [dif_neg some, dif_neg, if_neg]
  · simp only [Finset.sort_toFinset]
  · simp
  · have bounded := spec.bounded
    rw [Finset.length_sort]
    omega

theorem ExportSpec.deserialize_serialize (spec : ExportSpec) :
    spec.serialize.deserialize = .ok spec := by
  simp only [ExportSpecWire.deserialize, serialize, ExportIntent.deserialize_serialize,
    ExportEpoch.new_value, ExportDeadline.new_bounds, ExportSpec.tryNew_sorted, checkedWire, bind,
    Except.bind]

theorem QuiescentCut.deserialize_serialize (cut : QuiescentCut) :
    cut.serialize.deserialize = .ok cut := by
  have named : cut.data.toList.any (fun entry => entry.1 ≠ entry.2.group) = false := by
    rw [List.any_eq_false]
    rintro ⟨group, stored⟩ member
    have found := Std.ExtTreeMap.mem_toList_iff_getElem?_eq_some.mp member
    simp [cut.keyed group stored found]
  unfold QuiescentCutWire.deserialize serialize
  rw [if_neg (by rw [named]; simp), QuiescentCut.tryNew_values cut.keyed, checkedWire]

theorem ActiveExportPhase.deserialize_serialize (phase : ActiveExportPhase) :
    phase.serialize.deserialize = .ok phase := by
  cases phase with
  | preparing controlCut fencedGroups => rfl
  | frozen cut =>
      simp only [serialize, ActiveExportPhaseWire.deserialize, QuiescentCut.deserialize_serialize]
      rfl
  | materializing cut =>
      simp only [serialize, ActiveExportPhaseWire.deserialize, QuiescentCut.deserialize_serialize]
      rfl
  | available cut artifact =>
      simp only [serialize, ActiveExportPhaseWire.deserialize, QuiescentCut.deserialize_serialize,
        ArtifactIdentity.serialize, ArtifactIdentity.new_fields, checkedWire]
      rfl
  | releasing cut artifact releasedGroups =>
      simp only [serialize, ActiveExportPhaseWire.deserialize, QuiescentCut.deserialize_serialize,
        ArtifactIdentity.serialize, ArtifactIdentity.new_fields, checkedWire]
      rfl
  | aborting reason releasedGroups => rfl

/-- A stored export is read back as it was. -/
theorem ActiveExport.deserialize_serialize (active : ActiveExport) :
    active.serialize.deserialize = .ok active := by
  have valid := ActiveExportPhase.matchesGroups_iff.mpr active.valid
  simp only [ActiveExportWire.deserialize, serialize, ExportSpec.deserialize_serialize,
    ActiveExportPhase.deserialize_serialize, bind, Except.bind]
  rw [dif_pos valid]

end LightStream
