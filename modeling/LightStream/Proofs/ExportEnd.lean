import LightStream.Proofs.ExportCut

/-!
An export can always be ended: from every reachable state there are accepted commands, each a
request of a client or proposed by a node, that release every fence.
-/

namespace LightStream

open Kv (TreeMap)

def ExportCommand.closes : ExportCommand → Bool
  | .requestCompletion _ _ _ => true
  | .requestAbort _ _ _ => true
  | .releaseFence _ => true
  | .recordRelease _ _ => true
  | .finish _ => true
  | _ => false

def GroupDb.nextLogId (db : GroupDb) : GroupLogId :=
  match db.get .applied with
  | none => ⟨1, 1, 1⟩
  | some applied => { applied with index := applied.index + 1 }

def GroupDb.exportEntry (db : GroupDb) (command : ExportCommand) : GroupEntry :=
  ⟨db.nextLogId, .normal (.exportProtocol command)⟩

theorem PhaseMove.forward {spec : ExportSpec} {command : ExportCommand} {active next : ActiveExport}
    (move : PhaseMove spec command active.phase next.phase) :
    next.statusPhase = active.statusPhase ∨ active.statusPhase.rank < next.statusPhase.rank := by
  unfold ActiveExport.statusPhase
  generalize active.phase = phase at move
  generalize next.phase = later at move
  cases move with
  | kept => exact .inl rfl
  | fenced => exact .inl rfl
  | released => exact .inl rfl
  | dropped => exact .inl rfl
  | froze => exact .inr (by simp [ExportStatusPhase.rank])
  | materialized => exact .inr (by simp [ExportStatusPhase.rank])
  | published => exact .inr (by simp [ExportStatusPhase.rank])
  | completed => exact .inr (by simp [ExportStatusPhase.rank])
  | aborted phase reversible =>
      cases phase with
      | releasing => simp [ActiveExportPhase.ends] at reversible
      | aborting => simp [ActiveExportPhase.ends] at reversible
      | _ => exact .inr (by simp [ExportStatusPhase.rank])

theorem ActiveExportPhase.ends_cases {phase : ActiveExportPhase} (ends : phase.ends = true) :
    (∃ cut artifact releasedGroups, phase = .releasing cut artifact releasedGroups) ∨
      ∃ reason releasedGroups, phase = .aborting reason releasedGroups := by
  cases phase with
  | releasing cut artifact releasedGroups => exact .inl ⟨cut, artifact, releasedGroups, rfl⟩
  | aborting reason releasedGroups => exact .inr ⟨reason, releasedGroups, rfl⟩
  | _ => simp [ActiveExportPhase.ends] at ends

namespace ActiveExport

variable {active : ActiveExport}

theorem requestAbort_reversible (reversible : active.phase.ends = false)
    (reason : ExportAbortReason) : ∃ next, active.requestAbort reason = .ok next ∧
      next.spec = active.spec ∧ next.phase = .aborting reason ∅ := by
  unfold requestAbort
  split
  · rename_i phase
    simp [phase, ActiveExportPhase.ends] at reversible
  · rename_i phase
    simp [phase, ActiveExportPhase.ends] at reversible
  · exact ⟨_, rfl, rfl, rfl⟩

theorem recordRelease_ends (ends : active.phase.ends = true) {observation : ExportFenceObservation}
    (member : observation.group ∈ active.spec.configuredDataGroups)
    (through : active.spec.epoch.value ≤ observation.throughEpoch)
    (free : observation.held = none) : ∃ next, active.recordRelease observation = .ok next ∧
      next.spec = active.spec ∧ next.phase.ends = true ∧
      next.phase.releasedGroups = insert observation.group active.phase.releasedGroups := by
  unfold recordRelease
  rw [dif_neg (not_not.mpr member), if_neg (by simp [free]; omega)]
  split
  · rename_i phase
    exact ⟨_, rfl, rfl, rfl, by dsimp only; rw [phase]; rfl⟩
  · rename_i phase
    exact ⟨_, rfl, rfl, rfl, by dsimp only; rw [phase]; rfl⟩
  · rename_i notReleasing notAborting
    rcases ActiveExportPhase.ends_cases ends with ⟨_, _, _, phase⟩ | ⟨_, _, phase⟩
    · exact absurd phase (notReleasing _ _ _)
    · exact absurd phase (notAborting _ _)

theorem ready_of_released (ends : active.phase.ends = true)
    (released : active.phase.releasedGroups = active.spec.configuredDataGroups) :
    active.isReadyToFinish = true := by
  unfold isReadyToFinish
  split
  · rename_i phase
    rw [phase] at released
    exact decide_eq_true released
  · rename_i phase
    rw [phase] at released
    exact decide_eq_true released
  · rename_i notReleasing notAborting
    rcases ActiveExportPhase.ends_cases ends with ⟨_, _, _, phase⟩ | ⟨_, _, phase⟩
    · exact absurd phase (notReleasing _ _ _)
    · exact absurd phase (notAborting _ _)

theorem receipt_of_ready (ready : active.isReadyToFinish = true) :
    ∃ receipt, active.receipt = .ok receipt := by
  unfold receipt
  rw [if_neg (by simp [ready])]
  unfold isReadyToFinish at ready
  split at ready
  · exact ⟨_, rfl⟩
  · exact ⟨_, rfl⟩
  · simp at ready

theorem releasedGroups_subset (active : ActiveExport) :
    active.phase.releasedGroups ⊆ active.spec.configuredDataGroups := by
  have valid := active.valid
  cases phase : active.phase with
  | releasing cut artifact releasedGroups =>
      rw [phase] at valid
      exact valid.2
  | aborting reason releasedGroups =>
      rw [phase] at valid
      exact valid
  | _ => exact Finset.empty_subset _

end ActiveExport

theorem MutationFenceState.releaseForGroup_own {fence : MutationFenceState}
    {token : ExportFenceToken} (own : ∀ held, fence.held = some held → held.token = token)
    (group : GroupId) :
    ∃ next observation, fence.releaseForGroup token group = .ok (next, observation) := by
  unfold MutationFenceState.releaseForGroup
  cases isHeld : fence.held with
  | none => exact ⟨_, _, rfl⟩
  | some held =>
      dsimp only
      rw [if_neg (not_not.mpr (own held isHeld))]
      exact ⟨_, _, rfl⟩

namespace GroupDb

variable {db : GroupDb} {active : ActiveExport}

theorem shows_active (control : db.identity.kind = .control)
    (found : db.get .activeExport = some active) :
    db.view.controlActiveExport = some active :=
  (activeExport_eq control).trans found

theorem applyEntry_exporting {command : ExportCommand} {result : ApplyResult} {write : WriteBatch}
    (applied : db.view.applyExport db.nextLogId command = .ok (result, write)) :
    ∃ next, db.applyEntry (db.exportEntry command) = .ok (result, next) ∧
      ∀ key : StateKey, key.family ∉ [StateFamily.applied] →
        next.get key = (db.view.after write.state).get key := by
  have handled : db.view.applyPayload db.nextLogId (.normal (.exportProtocol command)) =
      .ok (result, write) := by
    rw [← applied]
    rfl
  refine ⟨db.commit ⟨write.state ++ [.put .applied db.nextLogId], write.payload⟩, ?_,
    fun key other => ?_⟩
  · rw [applyEntry, exportEntry, handled]
  · exact commit_applied_get (by simpa using other)

theorem applyEntry_stores {command : ExportCommand} {next : ActiveExport}
    (applied : db.view.applyExport db.nextLogId command =
      GroupView.storeActiveExport (.ok next)) : ∃ result after,
    db.applyEntry (db.exportEntry command) = .ok (result, after) ∧ result.isRejected = false ∧
      after.get .activeExport = some next := by
  obtain ⟨after, done, reads⟩ := applyEntry_exporting applied
  refine ⟨_, after, done, rfl, ?_⟩
  rw [reads .activeExport (by simp [StateKey.family])]
  exact GroupView.put_activeExport db.view next

theorem applyEntry_abort (control : db.identity.kind = .control)
    (found : db.get .activeExport = some active) (reversible : active.phase.ends = false)
    (clock : ExportDeadline) : ∃ result after next,
    db.applyEntry (db.exportEntry (.requestAbort active.spec.intent.request .operatorRequested
      clock)) = .ok (result, after) ∧ result.isRejected = false ∧
      after.get .activeExport = some next ∧ next.spec = active.spec ∧ next.phase.ends = true := by
  obtain ⟨next, moved, same, phase⟩ :=
    ActiveExport.requestAbort_reversible reversible .operatorRequested
  have applied : db.view.applyExport db.nextLogId (.requestAbort active.spec.intent.request
      .operatorRequested clock) = GroupView.storeActiveExport (.ok next) := by
    simp only [GroupView.applyExport, GroupView.applyRequestExportAbort,
      shows_active control found, moved]
    simp
  obtain ⟨result, after, done, accepted, stored⟩ := applyEntry_stores applied
  exact ⟨result, after, next, done, accepted, stored, same, by rw [phase]; rfl⟩

theorem applyEntry_recordRelease (control : db.identity.kind = .control)
    (found : db.get .activeExport = some active) (ends : active.phase.ends = true)
    {observation : ExportFenceObservation}
    (member : observation.group ∈ active.spec.configuredDataGroups)
    (through : active.spec.epoch.value ≤ observation.throughEpoch)
    (free : observation.held = none) : ∃ result after next,
    db.applyEntry (db.exportEntry (.recordRelease active.spec.token observation)) =
        .ok (result, after) ∧ result.isRejected = false ∧
      after.get .activeExport = some next ∧ next.spec = active.spec ∧ next.phase.ends = true ∧
      next.phase.releasedGroups = insert observation.group active.phase.releasedGroups := by
  obtain ⟨next, moved, same, still, released⟩ :=
    ActiveExport.recordRelease_ends ends member through free
  have applied : db.view.applyExport db.nextLogId (.recordRelease active.spec.token observation) =
      GroupView.storeActiveExport (.ok next) := by
    simp only [GroupView.applyExport, GroupView.updateActiveExport, shows_active control found,
      moved]
    simp
  obtain ⟨result, after, done, accepted, stored⟩ := applyEntry_stores applied
  exact ⟨result, after, next, done, accepted, stored, same, still, released⟩

theorem applyEntry_release (data : db.identity.kind = .data) {token : ExportFenceToken}
    (own : ∀ held, db.mutationFence.held = some held → held.token = token) : ∃ result after,
    db.applyEntry (db.exportEntry (.releaseFence token)) = .ok (result, after) ∧
      result.isRejected = false ∧ token.epoch.value ≤ after.mutationFence.throughEpoch := by
  obtain ⟨fence, observation, released⟩ :=
    MutationFenceState.releaseForGroup_own own db.identity.groupId
  have applied : db.view.applyExport db.nextLogId (.releaseFence token) =
      .ok (.exportResult (.fence observation),
        ⟨.put .mutationFence fence :: db.view.resumeDeferredReclaim, []⟩) := by
    have released : db.view.mutationFenceState.releaseForGroup token db.identity.groupId =
        .ok (fence, observation) := released
    simp only [GroupView.applyExport, GroupView.applyReleaseExportFence, view_identity, data,
      released]
    rfl
  obtain ⟨after, done, reads⟩ := applyEntry_exporting applied
  refine ⟨_, after, done, rfl, ?_⟩
  rw [mutationFence_of_get (reads .mutationFence (by simp [StateKey.family])),
    GroupView.fence_after db.view fence GroupView.resumeDeferredReclaim_within (by decide),
    (MutationFenceState.releaseForGroup_ok released).2]
  exact le_max_right ..

theorem applyEntry_finish (control : db.identity.kind = .control)
    (exclusive : db.view.ExportExclusive) (found : db.get .activeExport = some active)
    (ready : active.isReadyToFinish = true) : ∃ result after,
    db.applyEntry (db.exportEntry (.finish active.spec.token)) = .ok (result, after) ∧
      result.isRejected = false ∧ after.get .activeExport = none := by
  obtain ⟨receipt, made⟩ := ActiveExport.receipt_of_ready ready
  obtain ⟨fence, observation, released⟩ := MutationFenceState.releaseForGroup_own
    (fun held isHeld => exclusive.token active held found isHeld) db.identity.groupId
  have applied : db.view.applyExport db.nextLogId (.finish active.spec.token) =
      .ok (GroupView.exportStatus (.terminal receipt),
        ⟨db.view.finishedWrites receipt fence, []⟩) := by
    have released : db.view.mutationFenceState.releaseForGroup active.spec.token
        db.view.identity.groupId = .ok (fence, observation) := released
    simp only [GroupView.applyExport, GroupView.applyFinishExport, shows_active control found,
      made, released]
    simp [GroupView.finishedWrites, reply]
  obtain ⟨after, done, reads⟩ := applyEntry_exporting applied
  refine ⟨_, after, done, rfl, ?_⟩
  rw [reads .activeExport (by simp [StateKey.family])]
  exact GroupView.finish_activeExport

end GroupDb

namespace Cluster

variable {cluster last : Cluster} {active : ActiveExport}

/-- Steps that end an export: nodes tick, and commands that close the export are accepted. -/
inductive Ending : Cluster → Cluster → Prop
  | done (cluster : Cluster) : Ending cluster cluster
  | proposed {cluster last : Cluster} (node : ExportNode) (hosts : cluster.Hosts node)
      (rest : Ending (cluster.propose node.reconcileExportTick) last) : Ending cluster last
  | control {cluster last : Cluster} (command : ExportCommand) (closes : command.closes = true)
      (allowed : command.requested = true ∨ .control command ∈ cluster.proposals)
      (result : ApplyResult) (next : GroupDb)
      (done : cluster.control.applyEntry (cluster.control.exportEntry command) =
        .ok (result, next))
      (accepted : result.isRejected = false) (rest : Ending (cluster.commitControl next) last) :
      Ending cluster last
  | data {cluster last : Cluster} (group : GroupId) (command : ExportCommand)
      (closes : command.closes = true) (allowed : .data group command ∈ cluster.proposals)
      (result : ApplyResult) (next : GroupDb)
      (done : (cluster.data group).applyEntry ((cluster.data group).exportEntry command) =
        .ok (result, next))
      (accepted : result.isRejected = false) (rest : Ending (cluster.commitData group next) last) :
      Ending cluster last

theorem Ending.trans {middle : Cluster} (first : cluster.Ending middle)
    (rest : middle.Ending last) : cluster.Ending last := by
  induction first with
  | done => exact rest
  | proposed node hosts _ ih => exact .proposed node hosts (ih rest)
  | control command closes allowed result next done accepted _ ih =>
      exact .control command closes allowed result next done accepted (ih rest)
  | data group command closes allowed result next done accepted _ ih =>
      exact .data group command closes allowed result next done accepted (ih rest)

theorem Ending.reachable {identifier : ClusterId} {window : Nat} (ending : cluster.Ending last)
    (reached : Reachable identifier window cluster) : Reachable identifier window last := by
  induction ending with
  | done => exact reached
  | proposed node hosts _ ih => exact ih (reached.step (.reconciled node hosts))
  | control command closes allowed result next done accepted _ ih =>
      refine ih (reached.step (.controlCommitted _ ?_ result next done))
      rintro other ⟨⟩
      exact allowed
  | data group command closes allowed result next done accepted _ ih =>
      refine ih (reached.step (.dataCommitted group _ ?_ result next done))
      rintro other ⟨⟩
      exact allowed

section Leader

theorem leader_tick (control : cluster.control.identity.kind = .control)
    (found : cluster.activeExport = some active) (ends : active.phase.ends = true) (cursor : Nat) :
    (cluster.leader cursor).reconcileExportTick =
      (cluster.leader cursor).reconcileExportRelease active := by
  have shown : (cluster.leader cursor).control.activeExport = some active :=
    (GroupDb.activeExport_eq control).trans found
  unfold ExportNode.reconcileExportTick
  rw [shown]
  rcases ActiveExportPhase.ends_cases ends with ⟨_, _, _, phase⟩ | ⟨_, _, phase⟩ <;>
    simp [phase, ActiveExportPhase.materializes, ActiveExportPhase.ends, leader]

theorem leader_releases (unready : active.isReadyToFinish = false) {group : GroupId}
    (member : group ∈ active.spec.configuredDataGroups)
    (needed : ExportNode.releaseNeeded active (cluster.fence group) = true) (cursor : Nat) :
    .data group (.releaseFence active.spec.token) ∈
      (cluster.leader cursor).reconcileExportRelease active := by
  unfold ExportNode.reconcileExportRelease
  rw [if_neg (by simp [unready])]
  refine List.mem_append_left _ (List.mem_flatMap.mpr ⟨group, (Finset.mem_sort _).mpr member, ?_⟩)
  have needed : ExportNode.releaseNeeded active (cluster.data group).mutationFence = true := needed
  simp [ExportNode.releaseFence, leader, needed]

theorem leader_records (unready : active.isReadyToFinish = false) {group : GroupId}
    (member : group ∈ active.spec.configuredDataGroups)
    (free : (cluster.fence group).held = none)
    (through : active.spec.epoch.value ≤ (cluster.fence group).throughEpoch) : ∃ cursor,
    .control (.recordRelease active.spec.token ⟨group, (cluster.fence group).throughEpoch, none⟩) ∈
      (cluster.leader cursor).reconcileExportRelease active := by
  have member : group ∈ active.spec.groups := (Finset.mem_sort _).mpr member
  obtain ⟨cursor, small, turn⟩ := List.mem_iff_getElem.mp member
  refine ⟨cursor, ?_⟩
  have candidate : (cluster.leader cursor).releaseCandidate active = some group := by
    show active.spec.groups[cursor % active.spec.groups.length]? = some group
    rw [Nat.mod_eq_of_lt small, List.getElem?_eq_getElem small, turn]
  have free : (cluster.data group).mutationFence.held = none := free
  have through : active.spec.epoch.value ≤ (cluster.data group).mutationFence.throughEpoch :=
    through
  unfold ExportNode.reconcileExportRelease
  rw [if_neg (by simp [unready])]
  refine List.mem_append_right _ ?_
  show _ ∈ (cluster.leader cursor).recordRelease active
  rw [ExportNode.recordRelease, candidate]
  simp [leader, free, through, ExportFenceObservation.new, fence]

theorem leader_finishes (ready : active.isReadyToFinish = true) (cursor : Nat) :
    .control (.finish active.spec.token) ∈
      (cluster.leader cursor).reconcileExportRelease active := by
  unfold ExportNode.reconcileExportRelease
  rw [if_pos ready]
  exact List.mem_singleton_self _

end Leader

section Stages

variable {identifier : ClusterId} {window : Nat}

theorem ending_begins (reached : Reachable identifier window cluster)
    (found : cluster.activeExport = some active) : ∃ last now, cluster.Ending last ∧
      last.activeExport = some now ∧ now.spec = active.spec ∧ now.phase.ends = true := by
  cases ends : active.phase.ends with
  | true => exact ⟨cluster, active, .done cluster, found, rfl, ends⟩
  | false =>
      obtain ⟨result, after, now, done, accepted, stored, same, ends⟩ :=
        GroupDb.applyEntry_abort reached.cutInvariant.controlKind found ends ⟨0, 0, le_rfl⟩
      exact ⟨cluster.commitControl after, now,
        .control _ rfl (.inl rfl) result after done accepted (.done _), stored, same, ends⟩

section Release

variable (ends : active.phase.ends = true)

include ends

theorem ending_releases (reached : Reachable identifier window cluster)
    (found : cluster.activeExport = some active) {group : GroupId}
    (member : group ∈ active.spec.configuredDataGroups) : ∃ last, cluster.Ending last ∧
      last.activeExport = some active ∧
      active.spec.epoch.value ≤ (last.fence group).throughEpoch ∧
      ∀ other, (cluster.fence other).throughEpoch ≤ (last.fence other).throughEpoch := by
  have invariant := reached.cutInvariant
  by_cases behind : active.spec.epoch.value ≤ (cluster.fence group).throughEpoch
  · exact ⟨cluster, .done cluster, found, behind, fun _ => le_rfl⟩
  have unready : active.isReadyToFinish = false := by
    by_contra ready
    refine behind (invariant.fenced.released active found group ?_)
    rwa [active.releasedGroups_of_ready (by simpa using ready)]
  have own : ∀ held, (cluster.fence group).held = some held →
      held.token = active.spec.token := by
    intro held isHeld
    obtain ⟨other, present, same, _⟩ := invariant.fenced.owned group held isHeld
    cases found.symm.trans present
    exact same
  have needed : ExportNode.releaseNeeded active (cluster.fence group) = true := by
    unfold ExportNode.releaseNeeded
    cases isHeld : (cluster.fence group).held with
    | none => simp only [Option.any_none, Option.isNone_none, Bool.true_and, Bool.false_or,
        decide_eq_true_eq]; omega
    | some held => simp [own held isHeld]
  have proposed := leader_releases unready member needed 0
  rw [← leader_tick invariant.controlKind found ends] at proposed
  obtain ⟨result, after, done, accepted, through⟩ :=
    GroupDb.applyEntry_release (invariant.dataKind group) own
  let middle := cluster.propose (cluster.leader 0).reconcileExportTick
  have ending : cluster.Ending (middle.commitData group after) :=
    .proposed _ (reached.leads 0) (.data group (.releaseFence active.spec.token) rfl
      (List.mem_append_left _ proposed) result after done accepted (.done _))
  refine ⟨middle.commitData group after, ending, found, ?_, fun other => ?_⟩
  · rw [commitData_fence]
    exact through
  · by_cases here : other = group
    · rw [here, commitData_fence]
      exact (Nat.le_of_not_le behind).trans through
    · rw [commitData_other middle after here]
      exact le_rfl

theorem ending_releases_all (reached : Reachable identifier window cluster)
    (found : cluster.activeExport = some active) (groups : Finset GroupId)
    (configured : groups ⊆ active.spec.configuredDataGroups) : ∃ last, cluster.Ending last ∧
      last.activeExport = some active ∧
      ∀ group ∈ groups, active.spec.epoch.value ≤ (last.fence group).throughEpoch := by
  induction groups using Finset.induction_on with
  | empty => exact ⟨cluster, .done cluster, found, by simp⟩
  | insert group rest fresh ih =>
      obtain ⟨middle, first, still, through⟩ :=
        ih ((Finset.subset_insert group rest).trans configured)
      obtain ⟨last, second, kept, here, later⟩ :=
        ending_releases ends (first.reachable reached) still
          (configured (Finset.mem_insert_self group rest))
      refine ⟨last, first.trans second, kept, fun other member => ?_⟩
      rcases Finset.mem_insert.mp member with rfl | earlier
      · exact here
      · exact (through other earlier).trans (later other)

end Release

theorem ending_records (reached : Reachable identifier window cluster)
    (found : cluster.activeExport = some active) (ends : active.phase.ends = true)
    {group : GroupId} (member : group ∈ active.spec.configuredDataGroups)
    (through : active.spec.epoch.value ≤ (cluster.fence group).throughEpoch) :
    ∃ last now, cluster.Ending last ∧ last.activeExport = some now ∧ now.spec = active.spec ∧
      now.phase.ends = true ∧ last.data = cluster.data ∧
      now.phase.releasedGroups = insert group active.phase.releasedGroups := by
  have invariant := reached.cutInvariant
  by_cases recorded : group ∈ active.phase.releasedGroups
  · exact ⟨cluster, active, .done cluster, found, rfl, ends, rfl,
      (Finset.insert_eq_of_mem recorded).symm⟩
  have unready : active.isReadyToFinish = false := by
    by_contra ready
    refine recorded ?_
    rwa [active.releasedGroups_of_ready (by simpa using ready)]
  have free : (cluster.fence group).held = none := by
    cases isHeld : (cluster.fence group).held with
    | none => rfl
    | some held =>
        obtain ⟨other, present, same, _⟩ := invariant.fenced.owned group held isHeld
        cases found.symm.trans present
        have newer := (cluster.fence group).newer held isHeld
        rw [same] at newer
        exact absurd newer (Nat.not_lt_of_le through)
  obtain ⟨cursor, proposed⟩ := leader_records unready member free through
  rw [← leader_tick invariant.controlKind found ends] at proposed
  obtain ⟨result, after, now, done, accepted, stored, same, still, released⟩ :=
    @GroupDb.applyEntry_recordRelease cluster.control active invariant.controlKind found ends
      ⟨group, (cluster.fence group).throughEpoch, none⟩ member through rfl
  exact ⟨(cluster.propose (cluster.leader cursor).reconcileExportTick).commitControl after, now,
    .proposed _ (reached.leads cursor) (.control _ rfl (.inr (List.mem_append_left _ proposed))
      result after done accepted (.done _)), stored, same, still, rfl, released⟩

theorem ending_records_all (reached : Reachable identifier window cluster)
    (found : cluster.activeExport = some active) (ends : active.phase.ends = true)
    (groups : Finset GroupId) (configured : groups ⊆ active.spec.configuredDataGroups)
    (through : ∀ group ∈ active.spec.configuredDataGroups,
      active.spec.epoch.value ≤ (cluster.fence group).throughEpoch) :
    ∃ last now, cluster.Ending last ∧ last.activeExport = some now ∧ now.spec = active.spec ∧
      now.phase.ends = true ∧ last.data = cluster.data ∧ groups ⊆ now.phase.releasedGroups := by
  induction groups using Finset.induction_on with
  | empty => exact ⟨cluster, active, .done cluster, found, rfl, ends, rfl, Finset.empty_subset _⟩
  | insert group rest fresh ih =>
      obtain ⟨middle, between, first, stored, same, still, data, earlier⟩ :=
        ih ((Finset.subset_insert group rest).trans configured)
      have member := configured (Finset.mem_insert_self group rest)
      have behind : between.spec.epoch.value ≤ (middle.fence group).throughEpoch := by
        rw [same, fence, data]
        exact through group member
      obtain ⟨last, now, second, found, kept, ended, sameData, released⟩ :=
        ending_records (first.reachable reached) stored still (by rwa [same]) behind
      refine ⟨last, now, first.trans second, found, kept.trans same, ended, sameData.trans data, ?_⟩
      rw [released]
      exact Finset.insert_subset_insert group earlier

theorem ending_exists (reached : Reachable identifier window cluster)
    (found : cluster.activeExport = some active) : ∃ last, cluster.Ending last ∧
      last.activeExport = none ∧ last.control.mutationFence.held = none ∧
      ∀ group, (last.fence group).held = none := by
  obtain ⟨first, begun, toFirst, stored, _, ends⟩ := ending_begins reached found
  have reached := toFirst.reachable reached
  obtain ⟨second, toSecond, stored, through⟩ :=
    ending_releases_all ends reached stored _ (Finset.Subset.refl _)
  have reached := toSecond.reachable reached
  obtain ⟨third, now, toThird, stored, same, ends, _, released⟩ :=
    ending_records_all reached stored ends _ (Finset.Subset.refl _) through
  have reached := toThird.reachable reached
  have invariant := reached.cutInvariant
  have ready : now.isReadyToFinish = true := by
    refine ActiveExport.ready_of_released ends (now.releasedGroups_subset.antisymm ?_)
    rwa [same]
  have proposed := @leader_finishes third now ready 0
  rw [← leader_tick invariant.controlKind stored ends] at proposed
  obtain ⟨result, after, done, accepted, gone⟩ :=
    GroupDb.applyEntry_finish invariant.controlKind invariant.exclusive stored ready
  let last := (third.propose (third.leader 0).reconcileExportTick).commitControl after
  have toLast : third.Ending last :=
    .proposed _ (reached.leads 0) (.control _ rfl (.inr (List.mem_append_left _ proposed)) result
      after done accepted (.done _))
  have invariant := (toLast.reachable reached).cutInvariant
  have idle : last.activeExport = none := gone
  refine ⟨last, ((toFirst.trans toSecond).trans toThird).trans toLast, idle, ?_,
    invariant.consistentCut.idle idle⟩
  cases isHeld : last.control.mutationFence.held with
  | none => rfl
  | some held =>
      have exporting : (last.control.view.get .activeExport).isSome = true :=
        invariant.exclusive.fenced.mpr (Option.isSome_of_eq_some isHeld)
      rw [show last.control.view.get .activeExport = none from idle] at exporting
      simp at exporting

theorem Reachable.forward {next : Cluster} (reached : Reachable identifier window cluster)
    (found : cluster.activeExport = some active) (taken : cluster.Step next) :
    (∃ now, next.activeExport = some now ∧ now.spec = active.spec ∧
        (now.statusPhase = active.statusPhase ∨
          active.statusPhase.rank < now.statusPhase.rank)) ∨
      next.activeExport = none ∧ active.phase.ends = true := by
  have invariant := reached.cutInvariant
  have stays (same : next.activeExport = cluster.activeExport) :
      (∃ now, next.activeExport = some now ∧ now.spec = active.spec ∧
        (now.statusPhase = active.statusPhase ∨
          active.statusPhase.rank < now.statusPhase.rank)) ∨
        next.activeExport = none ∧ active.phase.ends = true :=
    .inl ⟨active, same.trans found, rfl, .inl rfl⟩
  cases taken with
  | reconciled => exact stays rfl
  | dataCommitted => exact stays rfl
  | controlCommitted entry allowed result db done =>
      cases GroupDb.applyEntry_controlMove invariant.controlKind invariant.exclusive done with
      | kept same epoch through => exact stays same
      | began idle => exact absurd (idle.symm.trans found) (by simp)
      | moved other moved command sent present stored same move =>
          cases found.symm.trans present
          exact .inl ⟨moved, stored, same, move.forward⟩
      | finished other present ready gone =>
          cases found.symm.trans present
          refine .inr ⟨gone, ?_⟩
          unfold ActiveExport.isReadyToFinish at ready
          split at ready
          · rename_i phase
            rw [phase]
            rfl
          · rename_i phase
            rw [phase]
            rfl
          · simp at ready

end Stages

/-- From every reachable state with an active export accepted commands end it, without a fence
left, and no step leads back to an earlier phase. -/
theorem export_can_end {identifier : ClusterId} {window : Nat}
    (reached : Reachable identifier window cluster) (found : cluster.activeExport = some active) :
    (∃ last, cluster.Ending last ∧ last.activeExport = none ∧
      last.control.mutationFence.held = none ∧ ∀ group, (last.fence group).held = none) ∧
    ∀ next, cluster.Step next →
      (∃ now, next.activeExport = some now ∧ now.spec = active.spec ∧
        (now.statusPhase = active.statusPhase ∨
          active.statusPhase.rank < now.statusPhase.rank)) ∨
      next.activeExport = none ∧ active.phase.ends = true :=
  ⟨ending_exists reached found, fun _ taken => reached.forward found taken⟩

/-- The export that froze can be ended. -/
theorem export_can_end_sample : ∃ cluster : Cluster, ∃ active,
    cluster.activeExport = some active ∧ active.statusPhase = .frozen ∧
    ∃ last, cluster.Ending last ∧ last.activeExport = none ∧
      last.control.mutationFence.held = none ∧ ∀ group, (last.fence group).held = none := by
  have frozen : ((created ⟨1⟩ 2).performAll frozenExport).any (fun cluster =>
      decide (cluster.activeExport.map ActiveExport.statusPhase = some .frozen)) = true := by
    decide +kernel
  obtain ⟨cluster, performed, phase⟩ := (Option.any_eq_true _ _).mp frozen
  obtain ⟨active, found, phase⟩ := Option.map_eq_some_iff.mp (of_decide_eq_true phase)
  exact ⟨cluster, active, found, phase,
    (export_can_end (Reachable.created.performAll performed) found).1⟩

end Cluster

end LightStream
