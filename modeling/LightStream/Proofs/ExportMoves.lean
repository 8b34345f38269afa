import LightStream.Proofs.Exclusion
import LightStream.Server.Cluster

/-!
The moves of the export protocol: the phases an active export passes through, and what a command
does to the mutation fence of a data group.
-/

namespace LightStream

open Kv (TreeMap)

def ActiveExportPhase.recordedCuts : ActiveExportPhase → Option (TreeMap GroupId GroupCut)
  | .preparing _ fencedGroups => some fencedGroups
  | .frozen cut => some cut.data
  | .materializing cut => some cut.data
  | .available cut _ => some cut.data
  | .releasing _ _ _ => none
  | .aborting _ _ => none

def ActiveExportPhase.releasedGroups : ActiveExportPhase → Finset GroupId
  | .releasing _ _ releasedGroups => releasedGroups
  | .aborting _ releasedGroups => releasedGroups
  | _ => ∅

def ExportStatusPhase.rank : ExportStatusPhase → Nat
  | .preparing => 0
  | .frozen => 1
  | .materializing => 2
  | .available => 3
  | .releasing => 4
  | .aborting => 4

inductive PhaseMove (spec : ExportSpec) :
    ExportCommand → ActiveExportPhase → ActiveExportPhase → Prop
  | kept (command : ExportCommand) (phase : ActiveExportPhase) : PhaseMove spec command phase phase
  | fenced (controlCut : GroupCut) (fencedGroups : TreeMap GroupId GroupCut)
      (observation : ExportFenceObservation) (held : HeldExportFence)
      (member : observation.group ∈ spec.configuredDataGroups)
      (isHeld : observation.held = some held) (own : held.token = spec.token)
      (missing : fencedGroups[observation.group]? = none) :
      PhaseMove spec (.recordFence spec.token observation) (.preparing controlCut fencedGroups)
        (.preparing controlCut (fencedGroups.insert observation.group held.cut))
  | froze (controlCut : GroupCut) (fencedGroups : TreeMap GroupId GroupCut)
      (observation : ExportFenceObservation) (held : HeldExportFence)
      (member : observation.group ∈ spec.configuredDataGroups)
      (isHeld : observation.held = some held) (own : held.token = spec.token)
      (missing : fencedGroups[observation.group]? = none) (cut : QuiescentCut)
      (complete : cut.data = fencedGroups.insert observation.group held.cut) :
      PhaseMove spec (.recordFence spec.token observation) (.preparing controlCut fencedGroups)
        (.frozen cut)
  | materialized (cut : QuiescentCut) :
      PhaseMove spec (.beginMaterialization spec.token) (.frozen cut) (.materializing cut)
  | published (cut : QuiescentCut) (artifact : ArtifactIdentity) :
      PhaseMove spec (.publishArtifact spec.token artifact cut) (.materializing cut)
        (.available cut artifact)
  | completed (cut : QuiescentCut) (artifact : ArtifactIdentity) (request : MutationRequestId)
      (exportId : ExportId) : PhaseMove spec (.requestCompletion request exportId artifact)
        (.available cut artifact) (.releasing cut artifact ∅)
  | aborted (phase : ActiveExportPhase) (reversible : phase.ends = false)
      (request : MutationRequestId) (reason : ExportAbortReason) (clock : ExportDeadline) :
      PhaseMove spec (.requestAbort request reason clock) phase (.aborting reason ∅)
  | released (cut : QuiescentCut) (artifact : ArtifactIdentity) (releasedGroups : Finset GroupId)
      (observation : ExportFenceObservation)
      (through : spec.epoch.value ≤ observation.throughEpoch) :
      PhaseMove spec (.recordRelease spec.token observation)
        (.releasing cut artifact releasedGroups)
        (.releasing cut artifact (insert observation.group releasedGroups))
  | dropped (reason : ExportAbortReason) (releasedGroups : Finset GroupId)
      (observation : ExportFenceObservation)
      (through : spec.epoch.value ≤ observation.throughEpoch) :
      PhaseMove spec (.recordRelease spec.token observation) (.aborting reason releasedGroups)
        (.aborting reason (insert observation.group releasedGroups))

namespace ActiveExport

variable {active next : ActiveExport}

theorem recordFence_move {observation : ExportFenceObservation}
    (done : active.recordFence observation = .ok next) :
    PhaseMove active.spec (.recordFence active.spec.token observation) active.phase next.phase := by
  unfold recordFence at done
  dsimp only at done
  split at done
  · rename_i controlCut fencedGroups current
    split at done
    · simp at done
    rename_i inside
    have member := not_not.mp inside
    split at done
    · simp at done
    rename_i held found
    obtain ⟨isHeld, own⟩ := Option.filter_eq_some_iff.mp found
    have own : held.token = active.spec.token := by simpa using own
    split at done
    · simp at done
    rename_i named
    have named : held.cut.group = observation.group := not_not.mp named
    split at done
    · split at done
      · cases done
        exact .kept _ _
      · simp at done
    · rename_i missing
      have valid := active.valid
      rw [current] at valid
      have keyed := TreeMap.insert_keyed valid.2 held.cut
      split at done
      · split at done
        · simp at done
        · rename_i complete cut frozen
          cases done
          rw [QuiescentCut.tryNew_values keyed] at frozen
          cases frozen
          dsimp only
          rw [current]
          exact .froze controlCut fencedGroups observation held member isHeld own missing _
            (congrArg (fencedGroups.insert · held.cut) named)
      · cases done
        dsimp only
        rw [current, named]
        exact .fenced controlCut fencedGroups observation held member isHeld own missing
  · split at done
    · split at done
      · cases done
        exact .kept _ _
      · simp at done
    · simp at done

theorem beginMaterialization_move (done : active.beginMaterialization = .ok next) :
    PhaseMove active.spec (.beginMaterialization active.spec.token) active.phase next.phase := by
  unfold beginMaterialization at done
  split at done
  · rename_i cut current
    cases done
    dsimp only
    rw [current]
    exact .materialized cut
  · cases done
    exact .kept _ _
  · simp at done

theorem publishArtifact_move {artifact : ArtifactIdentity} {cut : QuiescentCut}
    (done : active.publishArtifact artifact cut = .ok next) :
    PhaseMove active.spec (.publishArtifact active.spec.token artifact cut) active.phase
      next.phase := by
  unfold publishArtifact at done
  split at done
  · rename_i expected current
    split at done
    · rename_i same
      cases done
      dsimp only
      rw [current, same]
      exact .published cut artifact
    · simp at done
  · split at done
    · cases done
      exact .kept _ _
    · simp at done
  · simp at done

theorem requestCompletion_move {artifact : ArtifactIdentity} {request : MutationRequestId}
    {exportId : ExportId} (done : active.requestCompletion artifact = .ok next) :
    PhaseMove active.spec (.requestCompletion request exportId artifact) active.phase
      next.phase := by
  unfold requestCompletion at done
  split at done
  · rename_i cut published current
    split at done
    · rename_i same
      cases done
      dsimp only
      rw [current, same]
      exact .completed cut artifact request exportId
    · simp at done
  · split at done
    · cases done
      exact .kept _ _
    · simp at done
  · simp at done

theorem requestAbort_move {reason : ExportAbortReason} {request : MutationRequestId}
    {clock : ExportDeadline} (done : active.requestAbort reason = .ok next) :
    PhaseMove active.spec (.requestAbort request reason clock) active.phase next.phase := by
  unfold requestAbort at done
  split at done
  · split at done
    · cases done
      exact .kept _ _
    · simp at done
  · simp at done
  · rename_i notAborting notReleasing
    cases done
    refine .aborted active.phase ?_ request reason clock
    unfold ActiveExportPhase.ends
    split
    · rename_i same
      exact absurd same (notReleasing _ _ _)
    · rename_i same
      exact absurd same (notAborting _ _)
    · rfl

theorem recordRelease_move {observation : ExportFenceObservation}
    (done : active.recordRelease observation = .ok next) :
    PhaseMove active.spec (.recordRelease active.spec.token observation) active.phase
      next.phase := by
  unfold recordRelease at done
  split at done
  · simp at done
  split at done
  · simp at done
  rename_i unheld
  have through : active.spec.epoch.value ≤ observation.throughEpoch := by
    by_contra early
    exact unheld (.inl (by omega))
  split at done
  · rename_i cut artifact releasedGroups current
    cases done
    dsimp only
    rw [current]
    exact .released cut artifact releasedGroups observation through
  · rename_i reason releasedGroups current
    cases done
    dsimp only
    rw [current]
    exact .dropped reason releasedGroups observation through
  · simp at done

end ActiveExport

namespace GroupView

variable {view : GroupView} {logId : GroupLogId} {result : ApplyResult} {write : WriteBatch}
  {active next : ActiveExport}

theorem put_activeExport (view : GroupView) (next : ActiveExport) :
    (view.after [.put .activeExport next]).get .activeExport = some next := by
  simp [after, Kv.pending, Kv.Op.effect]

section Moves

variable (control : view.identity.kind = .control) (found : view.get .activeExport = some active)
  {command : ExportCommand} {moved : Except DomainError ActiveExport}

include found

theorem answered_move (stored : view.get .activeExport = some next) :
    next.spec = active.spec ∧ PhaseMove active.spec command active.phase next.phase := by
  obtain rfl : active = next := Option.some.inj (found.symm.trans stored)
  exact ⟨rfl, .kept _ _⟩

theorem storeActiveExport_move (done : storeActiveExport moved = .ok (result, write))
    (stored : (view.after write.state).get .activeExport = some next)
    (move : ∀ next, moved = .ok next →
      next.spec = active.spec ∧ PhaseMove active.spec command active.phase next.phase) :
    next.spec = active.spec ∧ PhaseMove active.spec command active.phase next.phase := by
  unfold storeActiveExport at done
  split at done
  · cases done
    exact answered_move found stored
  · rename_i other
    cases done
    cases (put_activeExport view other).symm.trans stored
    exact move next rfl

include control

theorem updateActiveExport_move {token : ExportFenceToken}
    {transition : ActiveExport → Except DomainError ActiveExport}
    (done : view.updateActiveExport token transition = .ok (result, write))
    (stored : (view.after write.state).get .activeExport = some next)
    (move : ∀ next, active.spec.token = token → transition active = .ok next →
      next.spec = active.spec ∧ PhaseMove active.spec command active.phase next.phase) :
    next.spec = active.spec ∧ PhaseMove active.spec command active.phase next.phase := by
  unfold updateActiveExport exportConflict at done
  rw [controlActiveExport_eq control, found] at done
  dsimp only at done
  split at done
  · cases done
    exact answered_move found stored
  · rename_i own
    exact storeActiveExport_move found done stored fun next => move next (not_not.mp own)

theorem applyExport_move (done : view.applyExport logId command = .ok (result, write))
    (stored : (view.after write.state).get .activeExport = some next) :
    next.spec = active.spec ∧ PhaseMove active.spec command active.phase next.phase := by
  cases command with
  | begin intent deadline =>
      cases applyExport_case control done with
      | began intent deadline result write case =>
          cases case with
          | answered => exact answered_move found stored
          | started fresh idle => simp [idle] at found
      | answered => exact answered_move found stored
      | moved command other moved later => exact absurd rfl (later intent deadline)
  | acquireFence token =>
      simp only [applyExport, applyAcquireExportFence, control] at done
      cases done
      exact answered_move found stored
  | releaseFence token =>
      simp only [applyExport, applyReleaseExportFence, control] at done
      cases done
      exact answered_move found stored
  | recordFence token observation =>
      refine updateActiveExport_move control found done stored ?_
      rintro next rfl moves
      exact ⟨ActiveExport.recordFence_spec moves, ActiveExport.recordFence_move moves⟩
  | beginMaterialization token =>
      refine updateActiveExport_move control found done stored ?_
      rintro next rfl moves
      exact ⟨ActiveExport.beginMaterialization_spec moves,
        ActiveExport.beginMaterialization_move moves⟩
  | publishArtifact token artifact cut =>
      refine updateActiveExport_move control found done stored ?_
      rintro next rfl moves
      exact ⟨ActiveExport.publishArtifact_spec moves, ActiveExport.publishArtifact_move moves⟩
  | recordRelease token observation =>
      refine updateActiveExport_move control found done stored ?_
      rintro next rfl moves
      exact ⟨ActiveExport.recordRelease_spec moves, ActiveExport.recordRelease_move moves⟩
  | requestCompletion request exportId artifact =>
      simp only [applyExport, applyRequestExportCompletion, exportConflict,
        controlActiveExport_eq control, found] at done
      split at done
      · cases done
        exact answered_move found stored
      · exact storeActiveExport_move found done stored fun next moves =>
          ⟨ActiveExport.requestCompletion_spec moves, ActiveExport.requestCompletion_move moves⟩
  | requestAbort request reason clock =>
      simp only [applyExport, applyRequestExportAbort, exportConflict,
        controlActiveExport_eq control, found] at done
      split at done
      · cases done
        exact answered_move found stored
      split at done
      · cases done
        exact answered_move found stored
      · exact storeActiveExport_move found done stored fun next moves =>
          ⟨ActiveExport.requestAbort_spec moves, ActiveExport.requestAbort_move moves⟩
  | finish token =>
      simp only [applyExport, applyFinishExport, exportConflict, controlActiveExport_eq control,
        found] at done
      split at done
      · cases done
        exact answered_move found stored
      split at done
      · cases done
        exact answered_move found stored
      split at done
      · cases done
        exact answered_move found stored
      · rename_i receipt _ _ fence _ _
        cases done
        have gone := (@finish_activeExport view fence receipt).symm.trans stored
        simp at gone

end Moves

end GroupView

inductive FenceMove (fence next : MutationFenceState) (command : ExportCommand) : Prop
  | kept (same : next = fence) : FenceMove fence next command
  | acquired (token : ExportFenceToken) (cut : GroupCut)
      (sent : command = .acquireFence token) (free : fence.held = none)
      (newer : fence.throughEpoch < token.epoch.value) (held : next.held = some ⟨token, cut⟩)
      (through : next.throughEpoch = fence.throughEpoch) : FenceMove fence next command
  | released (token : ExportFenceToken) (sent : command = .releaseFence token)
      (own : ∀ held, fence.held = some held → held.token = token) (free : next.held = none)
      (through : next.throughEpoch = max fence.throughEpoch token.epoch.value) :
      FenceMove fence next command

namespace GroupView

section Fences

variable {view : GroupView} {logId : GroupLogId} {result : ApplyResult} {write : WriteBatch}
  {families : List StateFamily}

theorem fence_spared {first : StateBatch} (within : Within families first)
    (outside : StateFamily.fence ∉ families) :
    (view.after first).mutationFenceState = view.mutationFenceState := by
  rw [mutationFenceState, mutationFenceState,
    after_get_of_within within (by simpa [StateKey.family] using outside)]

theorem fence_after (view : GroupView) (fence : MutationFenceState) {rest : StateBatch}
    (within : Within families rest) (outside : StateFamily.fence ∉ families) :
    (view.after (.put .mutationFence fence :: rest)).mutationFenceState = fence := by
  have first : (.put .mutationFence fence :: rest : StateBatch) =
      [.put .mutationFence fence] ++ rest := rfl
  rw [first, after_append, fence_spared within outside]
  simp [mutationFenceState, after, Kv.pending, Kv.Op.effect]

theorem applyAcquireExportFence_move {token : ExportFenceToken}
    (done : view.applyAcquireExportFence logId token = .ok (result, write)) :
    FenceMove view.mutationFenceState (view.after write.state).mutationFenceState
      (.acquireFence token) := by
  unfold applyAcquireExportFence at done
  split at done
  · cases done
    exact .kept rfl
  split at done
  · simp at done
  rename_i cut _
  split at done
  · cases done
    exact .kept rfl
  rename_i fence observation acquired
  cases done
  rw [fence_after view fence (within_nil []) (by simp)]
  unfold MutationFenceState.acquire at acquired
  split at acquired
  · cases acquired
    exact .kept rfl
  rename_i newer
  split at acquired
  · split at acquired
    · cases acquired
      exact .kept rfl
    · simp at acquired
  · rename_i free
    cases acquired
    exact .acquired token cut rfl free (by omega) rfl rfl

theorem applyReleaseExportFence_move {token : ExportFenceToken}
    (done : view.applyReleaseExportFence token = .ok (result, write)) :
    FenceMove view.mutationFenceState (view.after write.state).mutationFenceState
      (.releaseFence token) := by
  unfold applyReleaseExportFence at done
  split at done
  · cases done
    exact .kept rfl
  split at done
  · cases done
    exact .kept rfl
  rename_i fence observation released
  cases done
  rw [fence_after view fence resumeDeferredReclaim_within (by decide)]
  obtain ⟨free, through⟩ := MutationFenceState.releaseForGroup_ok released
  refine .released token rfl (fun held isHeld => ?_) free through
  rw [MutationFenceState.releaseForGroup, isHeld] at released
  by_contra other
  simp [other] at released

theorem applyExport_fenceMove {command : ExportCommand} (data : view.identity.kind = .data)
    (done : view.applyExport logId command = .ok (result, write)) :
    FenceMove view.mutationFenceState (view.after write.state).mutationFenceState command := by
  have quiet (footprint : Footprint [.exportState] result write) :
      FenceMove view.mutationFenceState (view.after write.state).mutationFenceState command :=
    .kept (fence_spared footprint.1 (by decide))
  have idle : view.controlActiveExport = none := if_pos (by simp [data])
  cases command with
  | begin intent deadline =>
      simp only [applyExport, applyBeginExport, data] at done
      cases done
      exact .kept rfl
  | acquireFence token => exact applyAcquireExportFence_move done
  | recordFence token observation =>
      exact quiet (updateActiveExport_footprint token _ result write done)
  | beginMaterialization token =>
      exact quiet (updateActiveExport_footprint token _ result write done)
  | publishArtifact token artifact cut =>
      exact quiet (updateActiveExport_footprint token _ result write done)
  | requestCompletion request exportId artifact =>
      exact quiet (applyRequestExportCompletion_footprint request exportId artifact result write
        done)
  | requestAbort request reason observedClock =>
      exact quiet (applyRequestExportAbort_footprint request reason observedClock result write done)
  | releaseFence token => exact applyReleaseExportFence_move done
  | recordRelease token observation =>
      exact quiet (updateActiveExport_footprint token _ result write done)
  | finish token =>
      simp only [applyExport, applyFinishExport, idle] at done
      exact .kept (fence_spared (exportReceiptForToken_footprint token result write done).1
        (by simp))

theorem dispatch_fence {command : GroupCommand}
    (other : ∀ exported, command ≠ .exportProtocol exported)
    (done : view.dispatch logId command = .ok (result, write)) :
    (view.after write.state).mutationFenceState = view.mutationFenceState := by
  have within := dispatch_within command result write done
  cases command with
  | bootstrapControl spec topology security dataGroups maxStreams maxPartitions =>
      exact applyBootstrapControl_fence done
  | bootstrapData spec => exact applyBootstrap_fence done
  | exportProtocol exported => exact absurd rfl (other exported)
  | _ => exact fence_spared within (by simp [GroupCommand.families, publishAllFamilies,
      leaseFamilies, decisionFamilies, maintainFamilies])

end Fences

end GroupView

namespace GroupDb

variable {db next : GroupDb} {entry : GroupEntry} {result : ApplyResult}

theorem activeExport_eq (control : db.identity.kind = .control) :
    db.activeExport = db.get .activeExport := GroupView.controlActiveExport_eq control

theorem mutationFence_of_get {view : GroupView}
    (same : next.get .mutationFence = view.get .mutationFence) :
    next.mutationFence = view.mutationFenceState := by
  show (next.get .mutationFence).getD _ = _
  rw [same]
  rfl

theorem applyEntry_fence (other : ∀ command, entry.payload ≠ .normal (.exportProtocol command))
    (done : db.applyEntry entry = .ok (result, next)) : next.mutationFence = db.mutationFence := by
  cases applyEntry_case done with
  | quiet silent noop same => exact mutationFence_of_get (same _ (by simp [StateKey.family]))
  | fenced command held normal included isHeld answer replayed answered same =>
      exact mutationFence_of_get (same _ (by simp [StateKey.family]))
  | dispatched command write normal free dispatched reads =>
      rw [mutationFence_of_get (reads _ (by simp [StateKey.family]))]
      refine GroupView.dispatch_fence (fun exported sent => ?_) dispatched
      exact other exported (by rw [normal, sent])

theorem applyEntry_exported {command : ExportCommand}
    (sent : entry.payload = .normal (.exportProtocol command))
    (done : db.applyEntry entry = .ok (result, next)) :
    ∃ write, db.view.applyExport entry.logId command = .ok (result, write) ∧
      ∀ key : StateKey, key.family ∉ [StateFamily.applied] →
        next.get key = (db.view.after write.state).get key := by
  cases applyEntry_case done with
  | quiet silent => exact absurd sent (silent _)
  | fenced other held normal included =>
      rw [sent] at normal
      cases normal
      simp [GroupCommand.fenceClass] at included
  | dispatched dispatchedCommand write normal free dispatched reads =>
      rw [sent] at normal
      cases normal
      exact ⟨write, dispatched, reads⟩

theorem applyEntry_fenceMove (data : db.identity.kind = .data)
    (done : db.applyEntry entry = .ok (result, next)) :
    next.mutationFence = db.mutationFence ∨ ∃ command,
      entry.payload = .normal (.exportProtocol command) ∧
        FenceMove db.mutationFence next.mutationFence command := by
  by_cases exported : ∃ command, entry.payload = .normal (.exportProtocol command)
  · obtain ⟨command, sent⟩ := exported
    obtain ⟨write, applied, reads⟩ := applyEntry_exported sent done
    refine .inr ⟨command, sent, ?_⟩
    rw [mutationFence_of_get (reads _ (by simp [StateKey.family]))]
    exact GroupView.applyExport_fenceMove data applied
  · exact .inl (applyEntry_fence (fun command sent => exported ⟨command, sent⟩) done)

theorem applyEntry_identity (done : db.applyEntry entry = .ok (result, next)) :
    next.identity = db.identity := by
  unfold applyEntry at done
  split at done
  · simp at done
  · cases done
    rfl

theorem applyEntry_exclusive (control : db.identity.kind = .control)
    (exclusive : db.view.ExportExclusive) (done : db.applyEntry entry = .ok (result, next)) :
    next.view.ExportExclusive := by
  have outside {key : StateKey} (inside : key.family ∈ GroupView.exclusionFamilies) :
      key.family ∉ [StateFamily.applied, .membership] :=
    (by decide : ∀ family ∈ GroupView.exclusionFamilies,
      family ∉ [StateFamily.applied, .membership]) _ inside
  cases applyEntry_case done with
  | quiet silent noop same => exact exclusive.frame fun key inside => same key (outside inside)
  | fenced command held normal included isHeld answer replayed answered same =>
      exact exclusive.frame fun key inside =>
        same key fun applied => outside inside (by simp_all)
  | dispatched command write normal free dispatched reads =>
      exact (GroupView.dispatch_exclusive control exclusive dispatched).frame fun key inside =>
        reads key fun applied => outside inside (by simp_all)

inductive ControlMove (db next : GroupDb) (entry : GroupEntry) : Prop
  | kept (same : next.get .activeExport = db.get .activeExport)
      (epoch : next.get .exportEpoch = db.get .exportEpoch)
      (through : db.mutationFence.throughEpoch = next.mutationFence.throughEpoch) :
      ControlMove db next entry
  | began (idle : db.get .activeExport = none) (spec : ExportSpec) (cut : GroupCut)
      (started : next.get .activeExport = some (.preparing spec cut))
      (newer : (db.get .exportEpoch).getD 0 < spec.epoch.value)
      (epoch : next.get .exportEpoch = some spec.epoch.value)
      (through : db.mutationFence.throughEpoch = next.mutationFence.throughEpoch) :
      ControlMove db next entry
  | moved (active moved : ActiveExport) (command : ExportCommand)
      (sent : entry.payload = .normal (.exportProtocol command))
      (found : db.get .activeExport = some active) (stored : next.get .activeExport = some moved)
      (same : moved.spec = active.spec)
      (move : PhaseMove active.spec command active.phase moved.phase)
      (epoch : next.get .exportEpoch = db.get .exportEpoch)
      (through : db.mutationFence.throughEpoch = next.mutationFence.throughEpoch) :
      ControlMove db next entry
  | finished (active : ActiveExport) (found : db.get .activeExport = some active)
      (ready : active.isReadyToFinish = true) (gone : next.get .activeExport = none)
      (epoch : next.get .exportEpoch = db.get .exportEpoch)
      (through : db.mutationFence.throughEpoch ≤ next.mutationFence.throughEpoch) :
      ControlMove db next entry

theorem applyEntry_controlMove (control : db.identity.kind = .control)
    (exclusive : db.view.ExportExclusive) (done : db.applyEntry entry = .ok (result, next)) :
    ControlMove db next entry := by
  by_cases exported : ∃ command, entry.payload = .normal (.exportProtocol command)
  · obtain ⟨command, sent⟩ := exported
    obtain ⟨write, applied, reads⟩ := applyEntry_exported sent done
    have activeExport := reads .activeExport (by simp [StateKey.family])
    have exportEpoch := reads .exportEpoch (by simp [StateKey.family])
    have fence := mutationFence_of_get (reads .mutationFence (by simp [StateKey.family]))
    cases GroupView.applyExport_case control applied with
    | answered => exact .kept activeExport exportEpoch (by rw [fence]; rfl)
    | began intent deadline result write case =>
        cases case with
        | answered => exact .kept activeExport exportEpoch (by rw [fence]; rfl)
        | started fresh idle unadministered spec made counted cut fenceState observation acquired =>
            rw [GroupView.start_activeExport] at activeExport
            rw [GroupView.start_exportEpoch] at exportEpoch
            rw [GroupView.start_fence] at fence
            obtain ⟨counted, _⟩ := checkedAdd_some.mp counted
            have newer : (db.get .exportEpoch).getD 0 < spec.epoch.value := Nat.lt_of_succ_le counted.le
            have through := exclusive.through
            have fresh : db.view.mutationFenceState.throughEpoch < spec.token.epoch.value :=
              lt_of_le_of_lt through newer
            obtain ⟨_, watermark⟩ := MutationFenceState.acquire_newer fresh acquired
            exact .began idle spec cut activeExport newer exportEpoch (by rw [fence, watermark]; rfl)
    | moved command active moved later found same =>
        have spared : (db.view.after [.put .activeExport moved]).mutationFenceState =
            db.view.mutationFenceState :=
          GroupView.fence_spared (show Within [.exportState] _ by simp [StateKey.family]) (by decide)
        have stored := activeExport.trans (GroupView.put_activeExport db.view moved)
        refine .moved active moved command sent found stored same ?_ ?_ (by rw [fence, spared]; rfl)
        · exact (GroupView.applyExport_move control found applied
            (GroupView.put_activeExport db.view moved)).2
        · rw [exportEpoch]
          simp [GroupView.after, Kv.pending, Kv.Op.effect]
    | finished active receipt fenceState observation found made released =>
        obtain ⟨_, watermark⟩ := MutationFenceState.releaseForGroup_ok released
        rw [GroupView.finish_activeExport] at activeExport
        rw [GroupView.finish_exportEpoch] at exportEpoch
        rw [GroupView.finish_fence] at fence
        refine .finished active found ?_ activeExport exportEpoch ?_
        · by_contra unready
          rw [ActiveExport.receipt, if_pos (Bool.eq_false_iff.mpr unready)] at made
          cases made
        · rw [fence, watermark]
          exact le_max_left ..
  · have other : ∀ command, entry.payload ≠ .normal (.exportProtocol command) :=
      fun command sent => exported ⟨command, sent⟩
    have fence := applyEntry_fence other done
    rcases applyEntry_export control done with ⟨command, _, sent, _⟩ | ⟨_, same⟩
    · exact absurd sent (other command)
    · exact .kept (same _ rfl) (same _ rfl) (by rw [fence])

end GroupDb

end LightStream
