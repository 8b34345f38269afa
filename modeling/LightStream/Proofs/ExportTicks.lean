import LightStream.Proofs.ExportMoves

/-!
What ticks propose from late copies.  What a proposal or a copy says holds now, or the epoch it
speaks of is behind the watermark of its group.
-/

namespace LightStream

open Kv (TreeMap)

namespace ActiveExportPhase

variable {phase : ActiveExportPhase}

theorem recordedCuts_of_ends (ends : phase.ends = true) : phase.recordedCuts = none := by
  cases phase with
  | releasing cut artifact releasedGroups => rfl
  | aborting reason releasedGroups => rfl
  | _ => simp [ActiveExportPhase.ends] at ends

end ActiveExportPhase

theorem ActiveExport.releasedGroups_of_ready (active : ActiveExport)
    (ready : active.isReadyToFinish = true) :
    active.phase.releasedGroups = active.spec.configuredDataGroups := by
  unfold ActiveExport.isReadyToFinish at ready
  split at ready
  · rename_i phase
    rw [phase]
    exact of_decide_eq_true ready
  · rename_i phase
    rw [phase]
    exact of_decide_eq_true ready
  · simp at ready

namespace PhaseMove

variable {spec : ExportSpec} {command : ExportCommand} {phase next : ActiveExportPhase}

theorem ends (move : PhaseMove spec command phase next) (ending : phase.ends = true) :
    next.ends = true := by
  cases move with
  | kept => exact ending
  | released => rfl
  | dropped => rfl
  | aborted => rfl
  | _ => simp [ActiveExportPhase.ends] at ending

theorem recordedCuts (move : PhaseMove spec command phase next) {cuts : TreeMap GroupId GroupCut}
    (recorded : next.recordedCuts = some cuts) {group : GroupId} {cut : GroupCut}
    (found : cuts[group]? = some cut) :
    (∃ earlier, phase.recordedCuts = some earlier ∧ earlier[group]? = some cut) ∨
      phase.ends = false ∧ ∃ observation, command = .recordFence spec.token observation ∧
        observation.group = group ∧ group ∈ spec.configuredDataGroups ∧
        observation.held = some ⟨spec.token, cut⟩ := by
  have inserted {fencedGroups : TreeMap GroupId GroupCut} {observation : ExportFenceObservation}
      {held : HeldExportFence} (member : observation.group ∈ spec.configuredDataGroups)
      (isHeld : observation.held = some held) (own : held.token = spec.token)
      (found : (fencedGroups.insert observation.group held.cut)[group]? = some cut) :
      fencedGroups[group]? = some cut ∨ ∃ other,
        ExportCommand.recordFence spec.token observation = .recordFence spec.token other ∧
          other.group = group ∧ group ∈ spec.configuredDataGroups ∧
          other.held = some ⟨spec.token, cut⟩ := by
    rw [TreeMap.get_insert] at found
    split at found
    · rename_i same
      cases found
      subst same
      rw [← own]
      exact .inr ⟨observation, rfl, rfl, member, isHeld⟩
    · exact .inl found
  cases move with
  | kept => exact .inl ⟨cuts, recorded, found⟩
  | fenced controlCut fencedGroups observation held member isHeld own missing =>
      cases recorded
      rcases inserted member isHeld own found with earlier | now
      · exact .inl ⟨fencedGroups, rfl, earlier⟩
      · exact .inr ⟨rfl, now⟩
  | froze controlCut fencedGroups observation held member isHeld own missing cut complete =>
      cases recorded
      rw [complete] at found
      rcases inserted member isHeld own found with earlier | now
      · exact .inl ⟨fencedGroups, rfl, earlier⟩
      · exact .inr ⟨rfl, now⟩
  | materialized cut => exact .inl ⟨cuts, recorded, found⟩
  | published cut artifact => exact .inl ⟨cuts, recorded, found⟩
  | _ => cases recorded

theorem releasedGroups (move : PhaseMove spec command phase next) {group : GroupId}
    (member : group ∈ next.releasedGroups) :
    group ∈ phase.releasedGroups ∨ ∃ observation,
      command = .recordRelease spec.token observation ∧ observation.group = group ∧
        spec.epoch.value ≤ observation.throughEpoch := by
  cases move with
  | kept => exact .inl member
  | released cut artifact releasedGroups observation through =>
      rcases Finset.mem_insert.mp member with same | earlier
      · exact .inr ⟨observation, rfl, same.symm, through⟩
      · exact .inl earlier
  | dropped reason releasedGroups observation through =>
      rcases Finset.mem_insert.mp member with same | earlier
      · exact .inr ⟨observation, rfl, same.symm, through⟩
      · exact .inl earlier
  | _ => simp [ActiveExportPhase.releasedGroups] at member

end PhaseMove

theorem ExportFenceObservation.new_ok {group : GroupId} {throughEpoch : Nat}
    {held : Option HeldExportFence} {observation : ExportFenceObservation}
    (done : ExportFenceObservation.new group throughEpoch held = .ok observation) :
    observation = ⟨group, throughEpoch, held⟩ := by
  unfold ExportFenceObservation.new at done
  split at done
  · simp at done
  split at done
  · simp at done
  · cases done
    rfl

/-- A fence that was seen is the present one, or its epoch is released since. -/
structure MutationFenceState.Covers (fence : MutationFenceState) (throughEpoch : Nat)
    (held : Option HeldExportFence) : Prop where
  through : throughEpoch ≤ fence.throughEpoch
  still : ∀ fenced, held = some fenced →
    fence.held = some fenced ∨ fenced.token.epoch.value ≤ fence.throughEpoch

namespace MutationFenceState.Covers

variable {fence next : MutationFenceState}

theorem refl (fence : MutationFenceState) : fence.Covers fence.throughEpoch fence.held :=
  ⟨le_rfl, fun _ held => .inl held⟩

theorem trans {throughEpoch : Nat} {held : Option HeldExportFence}
    (covers : fence.Covers throughEpoch held) (later : next.Covers fence.throughEpoch fence.held) :
    next.Covers throughEpoch held := by
  refine ⟨covers.through.trans later.through, fun fenced seen => ?_⟩
  rcases covers.still fenced seen with still | released
  · exact later.still fenced still
  · exact .inr (released.trans later.through)

end MutationFenceState.Covers

theorem FenceMove.covers {fence next : MutationFenceState} {command : ExportCommand}
    (move : FenceMove fence next command) : next.Covers fence.throughEpoch fence.held := by
  cases move with
  | kept same =>
      rw [same]
      exact .refl fence
  | acquired token cut sent free newer held through =>
      exact ⟨through.ge, fun fenced seen => by simp [free] at seen⟩
  | released token sent own free through =>
      rw [← Nat.max_comm] at through
      refine ⟨by omega, fun fenced seen => .inr ?_⟩
      rw [own fenced seen]
      omega

namespace Cluster

variable {cluster next : Cluster}

def activeExport (cluster : Cluster) : Option ActiveExport := cluster.control.get .activeExport

def exportEpoch (cluster : Cluster) : Nat := (cluster.control.get .exportEpoch).getD 0

def fence (cluster : Cluster) (group : GroupId) : MutationFenceState :=
  (cluster.data group).mutationFence

/-- A token that the active export has, which ends if it has to, or that is behind the watermark of
the group. -/
def Claimed (cluster : Cluster) (token : ExportFenceToken) (group : GroupId) (ending : Prop) :
    Prop :=
  (∃ active, cluster.activeExport = some active ∧ active.spec.token = token ∧
    group ∈ active.spec.configuredDataGroups ∧ (ending → active.phase.ends = true)) ∨
  token.epoch.value ≤ (cluster.fence group).throughEpoch

def Sound (cluster : Cluster) : Proposal → Prop
  | .data group (.acquireFence token) => cluster.Claimed token group False
  | .data group (.releaseFence token) => cluster.Claimed token group True
  | .control (.recordFence _ observation) =>
      (cluster.fence observation.group).Covers observation.throughEpoch observation.held
  | .control (.recordRelease _ observation) =>
      observation.throughEpoch ≤ (cluster.fence observation.group).throughEpoch
  | _ => True

/-- An export that a copy shows is the active one, possibly in an earlier phase, or it is over and
released everywhere. -/
inductive Stale (cluster : Cluster) (old : ActiveExport) : Prop
  | current (active : ActiveExport) (found : cluster.activeExport = some active)
      (same : active.spec = old.spec) (ends : old.phase.ends = true → active.phase.ends = true) :
      Stale cluster old
  | closed (issued : old.spec.epoch.value ≤ cluster.exportEpoch)
      (past : ∀ active, cluster.activeExport = some active →
        old.spec.epoch.value < active.spec.epoch.value)
      (through : ∀ group ∈ old.spec.configuredDataGroups,
        old.spec.epoch.value ≤ (cluster.fence group).throughEpoch) : Stale cluster old

structure Fenced (cluster : Cluster) : Prop where
  issued : ∀ group, (cluster.fence group).throughEpoch ≤ cluster.exportEpoch
  owned : ∀ group held, (cluster.fence group).held = some held →
    ∃ active, cluster.activeExport = some active ∧ held.token = active.spec.token ∧
      group ∈ active.spec.configuredDataGroups
  recorded : ∀ active cuts group cut, cluster.activeExport = some active →
    active.phase.recordedCuts = some cuts → cuts[group]? = some cut →
      (cluster.fence group).held = some ⟨active.spec.token, cut⟩
  unreleased : ∀ active, cluster.activeExport = some active → active.phase.ends = false →
    ∀ group ∈ active.spec.configuredDataGroups,
      (cluster.fence group).throughEpoch < active.spec.epoch.value
  released : ∀ active, cluster.activeExport = some active →
    ∀ group ∈ active.phase.releasedGroups,
      active.spec.epoch.value ≤ (cluster.fence group).throughEpoch

structure CutInvariant (cluster : Cluster) : Prop where
  controlKind : cluster.control.identity.kind = .control
  dataKind : ∀ group, (cluster.data group).identity.kind = .data
  exclusive : cluster.control.view.ExportExclusive
  fenced : cluster.Fenced
  controlCopies : ∀ copy ∈ cluster.controlSeen, ∀ old, copy.activeExport = some old →
    cluster.Stale old
  dataCopies : ∀ group, ∀ copy ∈ cluster.dataSeen group,
    (cluster.fence group).Covers copy.mutationFence.throughEpoch copy.mutationFence.held
  sound : ∀ proposal ∈ cluster.proposals, cluster.Sound proposal

section Ticks

variable {node : ExportNode} {active : ActiveExport}

theorem proposeControl_sound {command : ExportCommand} (sound : cluster.Sound (.control command)) :
    ∀ proposal ∈ node.proposeControl command, cluster.Sound proposal := by
  intro proposal member
  unfold ExportNode.proposeControl at member
  split at member
  · rwa [List.mem_singleton.mp member]
  · simp at member

theorem requestAbort_sound {reason : ExportAbortReason} {clock : ExportDeadline} :
    ∀ proposal ∈ node.requestAbort active reason clock, cluster.Sound proposal :=
  proposeControl_sound trivial

theorem publish_sound {cut : QuiescentCut} {artifact : ArtifactIdentity} :
    ∀ proposal ∈ node.publish active cut artifact, cluster.Sound proposal := by
  intro proposal member
  unfold ExportNode.publish at member
  split at member
  · exact requestAbort_sound proposal member
  · rw [List.mem_singleton.mp member]
    trivial

theorem pollMaterialization_sound {ready : ArtifactIdentity → List Proposal}
    (sound : ∀ artifact, ∀ proposal ∈ ready artifact, cluster.Sound proposal) :
    ∀ proposal ∈ node.pollMaterialization active ready, cluster.Sound proposal := by
  intro proposal member
  unfold ExportNode.pollMaterialization at member
  split at member
  · simp at member
  · simp at member
  · exact requestAbort_sound proposal member
  · exact sound _ proposal member

theorem reconcileMaterializing_sound {cut : QuiescentCut} :
    ∀ proposal ∈ node.reconcileMaterializing active cut, cluster.Sound proposal := by
  intro proposal member
  unfold ExportNode.reconcileMaterializing at member
  split at member
  · exact pollMaterialization_sound (fun _ => publish_sound) proposal member
  split at member
  · exact publish_sound proposal member
  · exact pollMaterialization_sound (fun _ => publish_sound) proposal member
  · simp at member
  · exact requestAbort_sound proposal member

theorem recoverAvailable_sound {available : ArtifactIdentity} :
    ∀ proposal ∈ node.recoverAvailable active available, cluster.Sound proposal := by
  intro proposal member
  unfold ExportNode.recoverAvailable at member
  split at member
  · simp at member
  · refine pollMaterialization_sound (fun artifact other member => ?_) proposal member
    split at member
    · split at member
      · exact requestAbort_sound other member
      · simp at member
    · exact requestAbort_sound other member
  · simp at member
  · exact requestAbort_sound proposal member

theorem reconcileAvailable_sound {available : ArtifactIdentity} :
    ∀ proposal ∈ node.reconcileAvailable active available, cluster.Sound proposal := by
  intro proposal member
  unfold ExportNode.reconcileAvailable at member
  split at member
  · refine pollMaterialization_sound (fun artifact other member => ?_) proposal member
    split at member
    · exact recoverAvailable_sound other member
    · exact requestAbort_sound other member
  · exact recoverAvailable_sound proposal member

theorem observeFence_ok {groups : List GroupId} {observation : ExportFenceObservation}
    (done : node.observeFence active groups = .ok (some observation)) :
    ∃ copy, node.data observation.group = some copy ∧
      observation = copy.mutationFence.observation observation.group := by
  induction groups with
  | nil => simp [ExportNode.observeFence] at done
  | cons group rest ih =>
      unfold ExportNode.observeFence at done
      split at done
      · exact ih done
      rename_i copy found
      dsimp only at done
      split at done
      · simp at done
      rename_i seen made
      obtain rfl := ExportFenceObservation.new_ok made
      split at done
      · cases done
        exact ⟨copy, found, rfl⟩
      · exact ih done

theorem acquireFence_mem {group : GroupId} {proposal : Proposal}
    (member : proposal ∈ node.acquireFence active group) :
    proposal = .data group (.acquireFence active.spec.token) := by
  unfold ExportNode.acquireFence at member
  split at member
  · simp at member
  split at member
  · simp at member
  split at member
  · exact List.mem_singleton.mp member
  · simp at member

theorem releaseFence_mem {group : GroupId} {proposal : Proposal}
    (member : proposal ∈ node.releaseFence active group) :
    proposal = .data group (.releaseFence active.spec.token) := by
  unfold ExportNode.releaseFence at member
  split at member
  · simp at member
  split at member
  · exact List.mem_singleton.mp member
  · simp at member

theorem Stale.claims (stale : cluster.Stale active) {group : GroupId} {ending : Prop}
    (member : group ∈ active.spec.groups) (ends : ending → active.phase.ends = true) :
    cluster.Claimed active.spec.token group ending := by
  have member : group ∈ active.spec.configuredDataGroups := (Finset.mem_sort _).mp member
  cases stale with
  | current now found same kept =>
      exact .inl ⟨now, found, by rw [ExportSpec.token, same, ExportSpec.token], by rwa [same],
        fun wanted => kept (ends wanted)⟩
  | closed issued past through => exact .inr (through group member)

section Copies

variable (hosts : cluster.Hosts node)
  (copies : ∀ group, ∀ copy ∈ cluster.dataSeen group,
    (cluster.fence group).Covers copy.mutationFence.throughEpoch copy.mutationFence.held)
  (stale : cluster.Stale active)

include hosts copies

theorem recordRelease_sound :
    ∀ proposal ∈ node.recordRelease active, cluster.Sound proposal := by
  intro proposal member
  unfold ExportNode.recordRelease at member
  split at member
  · simp at member
  rename_i group _
  split at member
  · simp at member
  rename_i copy found
  dsimp only at member
  split at member
  · split at member
    · simp at member
    · rename_i observation made
      obtain rfl := ExportFenceObservation.new_ok made
      rw [List.mem_singleton.mp member]
      exact (copies group copy (hosts.2.2 group copy found)).through
  · simp at member

include stale

theorem reconcilePreparing_sound {fencedGroups : TreeMap GroupId GroupCut} :
    ∀ proposal ∈ node.reconcilePreparing active fencedGroups, cluster.Sound proposal := by
  have acquired : ∀ proposal ∈ (active.spec.groups.filter fun group =>
      decide (group ∉ fencedGroups)).flatMap (node.acquireFence active),
        cluster.Sound proposal := by
    intro proposal member
    obtain ⟨group, missing, member⟩ := List.mem_flatMap.mp member
    rw [acquireFence_mem member]
    exact stale.claims (List.mem_filter.mp missing).1 False.elim
  intro proposal member
  unfold ExportNode.reconcilePreparing at member
  dsimp only at member
  split at member
  · split at member
    · simp at member
    · exact acquired proposal member
    · rename_i observation observed
      rcases List.mem_cons.mp member with rfl | member
      · obtain ⟨copy, found, same⟩ := observeFence_ok observed
        have covers := copies _ copy (hosts.2.1 _ copy found)
        rw [same] at covers ⊢
        exact covers
      · exact acquired proposal member
  · exact acquired proposal member

theorem reconcileExportRelease_sound (ends : active.phase.ends = true) :
    ∀ proposal ∈ node.reconcileExportRelease active, cluster.Sound proposal := by
  intro proposal member
  unfold ExportNode.reconcileExportRelease at member
  split at member
  · exact proposeControl_sound (by trivial) proposal member
  rcases List.mem_append.mp member with release | record
  · obtain ⟨group, configured, member⟩ := List.mem_flatMap.mp release
    rw [releaseFence_mem member]
    exact stale.claims configured fun _ => ends
  · split at record
    · exact recordRelease_sound hosts copies proposal record
    · simp at record

end Copies

theorem CutInvariant.tick (invariant : cluster.CutInvariant) (hosts : cluster.Hosts node) :
    ∀ proposal ∈ node.reconcileExportTick, cluster.Sound proposal := by
  intro proposal member
  unfold ExportNode.reconcileExportTick at member
  split at member
  · simp at member
  rename_i active shown
  have stale := invariant.controlCopies node.control hosts.1 active shown
  have copies := invariant.dataCopies
  split at member
  · simp at member
  split at member
  · simp at member
  split at member
  · exact requestAbort_sound proposal member
  split at member
  · exact reconcilePreparing_sound hosts copies stale proposal member
  · exact proposeControl_sound (by trivial) proposal member
  · exact reconcileMaterializing_sound proposal member
  · exact reconcileAvailable_sound proposal member
  · rename_i phase
    exact reconcileExportRelease_sound hosts copies stale (by rw [phase]; rfl) proposal member
  · rename_i phase
    exact reconcileExportRelease_sound hosts copies stale (by rw [phase]; rfl) proposal member

end Ticks

end Cluster

end LightStream
