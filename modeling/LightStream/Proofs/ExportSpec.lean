import LightStream.Proofs.Entries

/-!
What each export command of the control group does: it answers without writing, starts an export,
moves the active export on, or finishes it.
-/

namespace LightStream

namespace ActiveExport

variable {active next : ActiveExport}

theorem recordFence_spec {observation : ExportFenceObservation}
    (done : active.recordFence observation = .ok next) : next.spec = active.spec := by
  unfold recordFence at done
  dsimp only at done
  split at done
  · split at done
    · simp at done
    split at done
    · simp at done
    split at done
    · simp at done
    split at done
    · split at done
      · cases done
        rfl
      · simp at done
    · split at done
      · split at done
        · simp at done
        · cases done
          rfl
      · cases done
        rfl
  · split at done
    · split at done
      · cases done
        rfl
      · simp at done
    · simp at done

theorem beginMaterialization_spec (done : active.beginMaterialization = .ok next) :
    next.spec = active.spec := by
  unfold beginMaterialization at done
  split at done
  · cases done
    rfl
  · cases done
    rfl
  · simp at done

theorem publishArtifact_spec {artifact : ArtifactIdentity} {cut : QuiescentCut}
    (done : active.publishArtifact artifact cut = .ok next) : next.spec = active.spec := by
  unfold publishArtifact at done
  split at done
  · split at done
    · cases done
      rfl
    · simp at done
  · split at done
    · cases done
      rfl
    · simp at done
  · simp at done

theorem requestCompletion_spec {artifact : ArtifactIdentity}
    (done : active.requestCompletion artifact = .ok next) : next.spec = active.spec := by
  unfold requestCompletion at done
  split at done
  · split at done
    · cases done
      rfl
    · simp at done
  · split at done
    · cases done
      rfl
    · simp at done
  · simp at done

theorem requestAbort_spec {reason : ExportAbortReason}
    (done : active.requestAbort reason = .ok next) : next.spec = active.spec := by
  unfold requestAbort at done
  split at done
  · split at done
    · cases done
      rfl
    · simp at done
  · simp at done
  · cases done
    rfl

theorem recordRelease_spec {observation : ExportFenceObservation}
    (done : active.recordRelease observation = .ok next) : next.spec = active.spec := by
  unfold recordRelease at done
  split at done
  · simp at done
  split at done
  · simp at done
  split at done
  · cases done
    rfl
  · cases done
    rfl
  · simp at done

theorem receipt_ok {receipt : ExportReceipt} (done : active.receipt = .ok receipt) :
    receipt.request = active.spec.intent.request ∧ receipt.epoch = active.spec.epoch ∧
      receipt.requestDigest = active.spec.intent.requestDigest ∧
      receipt.deadline = some active.spec.deadline := by
  unfold ActiveExport.receipt at done
  split at done
  · simp at done
  split at done
  · cases done
    exact ⟨rfl, rfl, rfl, rfl⟩
  · cases done
    exact ⟨rfl, rfl, rfl, rfl⟩
  · simp at done

end ActiveExport

theorem ExportSpec.tryNew_ok {intent : ExportIntent} {epoch : ExportEpoch} {groups : List GroupId}
    {deadline : ExportDeadline} {spec : ExportSpec}
    (done : ExportSpec.tryNew intent epoch groups deadline = .ok spec) :
    spec.intent = intent ∧ spec.epoch = epoch ∧ spec.deadline = deadline := by
  unfold ExportSpec.tryNew at done
  split at done
  · simp at done
  split at done
  · simp at done
  split at done
  · simp at done
  · cases done
    exact ⟨rfl, rfl, rfl⟩

namespace MutationFenceState

variable {fence next : MutationFenceState} {token : ExportFenceToken}
  {observation : ExportFenceObservation}

theorem acquire_newer {cut : GroupCut} (newer : fence.throughEpoch < token.epoch.value)
    (done : fence.acquire token cut = .ok (next, observation)) :
    (∃ held, next.held = some held ∧ held.token = token) ∧
      next.throughEpoch = fence.throughEpoch := by
  unfold acquire at done
  rw [dif_neg (by omega)] at done
  split at done
  · rename_i held found
    split at done
    · rename_i same
      cases done
      exact ⟨⟨held, found, same⟩, rfl⟩
    · simp at done
  · cases done
    exact ⟨⟨⟨token, cut⟩, rfl, rfl⟩, rfl⟩

theorem releaseForGroup_ok {group : GroupId}
    (done : fence.releaseForGroup token group = .ok (next, observation)) :
    next.held = none ∧ next.throughEpoch = max fence.throughEpoch token.epoch.value := by
  unfold releaseForGroup at done
  dsimp only at done
  split at done
  · split at done
    · simp at done
    · cases done
      exact ⟨rfl, rfl⟩
  · cases done
    exact ⟨rfl, rfl⟩

end MutationFenceState

namespace GroupView

variable {view : GroupView} {logId : GroupLogId} {result : ApplyResult} {write : WriteBatch}

def startedWrites (spec : ExportSpec) (cut : GroupCut) (fence : MutationFenceState) : StateBatch :=
  [.put .exportEpoch spec.epoch.value, .put .mutationFence fence,
    .put .activeExport (ActiveExport.preparing spec cut)]

def finishedWrites (view : GroupView) (receipt : ExportReceipt) (fence : MutationFenceState) :
    StateBatch :=
  [.put .mutationFence fence, .delete .activeExport,
      .put (.exportReceipt receipt.request) receipt,
      .put (exportSessionKey receipt.request) (view.advanceExportSession receipt.request)] ++
    view.evictExportReceipts receipt.request

section Writes

variable {spec : ExportSpec} {cut : GroupCut} {fence : MutationFenceState} {receipt : ExportReceipt}

theorem start_activeExport : (view.after (startedWrites spec cut fence)).get .activeExport =
    some (ActiveExport.preparing spec cut) := by
  simp [after, Kv.pending, startedWrites, Kv.Op.effect]

theorem start_exportEpoch :
    (view.after (startedWrites spec cut fence)).get .exportEpoch = some spec.epoch.value := by
  simp [after, Kv.pending, startedWrites, Kv.Op.effect]

theorem start_fence : (view.after (startedWrites spec cut fence)).mutationFenceState = fence := by
  simp [mutationFenceState, after, Kv.pending, startedWrites, Kv.Op.effect]

theorem start_other {key : StateKey} (epoch : key ≠ .exportEpoch) (fenced : key ≠ .mutationFence)
    (active : key ≠ .activeExport) :
    (view.after (startedWrites spec cut fence)).get key = view.get key := by
  simp [after, Kv.pending, startedWrites, Kv.Op.effect, epoch.symm, fenced.symm, active.symm]

theorem evictExportReceipts_effect {request : MutationRequestId} {key : StateKey}
    (other : ∀ evicted, evicted ≠ request → .exportReceipt evicted ≠ key) :
    Kv.Batch.effect (view.evictExportReceipts request) key = none := by
  rw [Kv.Batch.effect_eq_none_iff]
  intro op member same
  obtain ⟨entry, taken, rfl⟩ := List.mem_map.mp member
  refine other entry.1 ?_ same
  have kept := List.mem_of_mem_take taken
  rw [List.mem_insertionSort, List.mem_filter] at kept
  simpa using kept.2

theorem finish_get {key : StateKey}
    (kept : ∀ evicted, evicted ≠ receipt.request → .exportReceipt evicted ≠ key) :
    (view.after (view.finishedWrites receipt fence)).get key =
      (view.after [.put .mutationFence fence, .delete .activeExport,
        .put (.exportReceipt receipt.request) receipt,
        .put (exportSessionKey receipt.request)
          (view.advanceExportSession receipt.request)]).get key := by
  rw [finishedWrites, after_append]
  exact Kv.pending_of_untouched (evictExportReceipts_effect kept)

theorem finish_activeExport :
    (view.after (view.finishedWrites receipt fence)).get .activeExport = none := by
  rw [finish_get (by simp)]
  simp [after, Kv.pending, Kv.Op.effect]

theorem finish_exportEpoch :
    (view.after (view.finishedWrites receipt fence)).get .exportEpoch = view.get .exportEpoch := by
  rw [finish_get (by simp)]
  simp [after, Kv.pending, Kv.Op.effect]

theorem finish_fence :
    (view.after (view.finishedWrites receipt fence)).mutationFenceState = fence := by
  rw [mutationFenceState, finish_get (by simp)]
  simp [after, Kv.pending, Kv.Op.effect]

end Writes

inductive BeginCase (view : GroupView) (intent : ExportIntent) : ApplyResult → WriteBatch → Prop
  | answered (result : ApplyResult) : BeginCase view intent result ⟨[], []⟩
  | started (fresh : view.exportRequestExpired intent.request = false)
      (idle : view.get .activeExport = none)
      (unadministered : view.get .activeAdministration = none) (spec : ExportSpec)
      (made : spec.intent = intent)
      (next : checkedAdd ((view.get .exportEpoch).getD 0) 1 = some spec.epoch.value)
      (cut : GroupCut) (fence : MutationFenceState) (observation : ExportFenceObservation)
      (acquired : view.mutationFenceState.acquire spec.token cut = .ok (fence, observation)) :
      BeginCase view intent (exportStatus (ActiveExport.preparing spec cut).status)
        ⟨startedWrites spec cut fence, []⟩

theorem applyBeginExport_case {intent : ExportIntent} {deadline : ExportDeadline}
    (done : view.applyBeginExport logId intent deadline = .ok (result, write)) :
    view.BeginCase intent result write := by
  unfold applyBeginExport exportConflict at done
  split at done
  · cases done
    exact .answered _
  split at done
  · cases done
    exact .answered _
  split at done
  · split at done <;> cases done <;> exact .answered _
  split at done
  · split at done
    · split at done <;> cases done <;> exact .answered _
    · cases done
      exact .answered _
  rename_i idle
  split at done
  · cases done
    exact .answered _
  rename_i fresh
  split at done
  · cases done
    exact .answered _
  rename_i unadministered
  unfold startExport at done
  split at done
  · cases done
    exact .answered _
  split at done
  · simp at done
  split at done
  · simp at done
  rename_i epoch counted
  split at done
  · simp at done
  split at done
  · cases done
    exact .answered _
  rename_i spec made
  split at done
  · simp at done
  rename_i cut found
  split at done
  · cases done
    exact .answered _
  rename_i fence observation acquired
  cases done
  obtain ⟨sameIntent, sameEpoch, _⟩ := ExportSpec.tryNew_ok made
  have value : spec.epoch.value = epoch := by rw [sameEpoch]
  rw [← value]
  refine .started (by simpa using fresh) idle (by simpa using unadministered) spec sameIntent ?_ cut
    fence observation acquired
  rw [value]
  exact counted

inductive ExportCase (view : GroupView) (logId : GroupLogId) :
    ExportCommand → ApplyResult → WriteBatch → Prop
  | began (intent : ExportIntent) (deadline : ExportDeadline) (result : ApplyResult)
      (write : WriteBatch) (case : view.BeginCase intent result write) :
      ExportCase view logId (.begin intent deadline) result write
  | answered (command : ExportCommand) (result : ApplyResult)
      (later : ∀ intent deadline, command ≠ .begin intent deadline) :
      ExportCase view logId command result ⟨[], []⟩
  | moved (command : ExportCommand) (active next : ActiveExport)
      (later : ∀ intent deadline, command ≠ .begin intent deadline)
      (found : view.get .activeExport = some active) (same : next.spec = active.spec) :
      ExportCase view logId command (exportStatus next.status) ⟨[.put .activeExport next], []⟩
  | finished (active : ActiveExport) (receipt : ExportReceipt) (fence : MutationFenceState)
      (observation : ExportFenceObservation) (found : view.get .activeExport = some active)
      (made : active.receipt = .ok receipt)
      (released : view.mutationFenceState.releaseForGroup active.spec.token view.identity.groupId =
        .ok (fence, observation)) :
      ExportCase view logId (.finish active.spec.token) (exportStatus (.terminal receipt))
        ⟨view.finishedWrites receipt fence, []⟩

theorem exportReceiptForToken_answers {token : ExportFenceToken}
    (done : view.exportReceiptForToken token = .ok (result, write)) : write = ⟨[], []⟩ := by
  unfold exportReceiptForToken exportConflict at done
  split at done <;> cases done <;> rfl

theorem terminalAnswer_answers {request : MutationRequestId} {exportId : Option ExportId}
    {outcome : ExportReceiptOutcome}
    (done : view.terminalAnswer request exportId outcome = .ok (result, write)) :
    write = ⟨[], []⟩ := by
  unfold terminalAnswer exportConflict at done
  split at done
  · split at done <;> cases done <;> rfl
  · cases done
    rfl

theorem controlActiveExport_eq (control : view.identity.kind = .control) :
    view.controlActiveExport = view.get .activeExport := by
  rw [controlActiveExport, if_neg (by simp [control])]

section Moves

variable {command : ExportCommand} (later : ∀ intent deadline, command ≠ .begin intent deadline)

include later

theorem storeActiveExport_case {active : ActiveExport} {moved : Except DomainError ActiveExport}
    (found : view.get .activeExport = some active)
    (same : ∀ next, moved = .ok next → next.spec = active.spec)
    (done : storeActiveExport moved = .ok (result, write)) :
    view.ExportCase logId command result write := by
  unfold storeActiveExport at done
  split at done
  · cases done
    exact .answered command _ later
  · rename_i next
    cases done
    exact .moved command active next later found (same next rfl)

theorem updateActiveExport_case (control : view.identity.kind = .control)
    {token : ExportFenceToken} {transition : ActiveExport → Except DomainError ActiveExport}
    (same : ∀ active next, transition active = .ok next → next.spec = active.spec)
    (done : view.updateActiveExport token transition = .ok (result, write)) :
    view.ExportCase logId command result write := by
  unfold updateActiveExport exportConflict at done
  rw [controlActiveExport_eq control] at done
  split at done
  · obtain rfl := exportReceiptForToken_answers done
    exact .answered command result later
  · rename_i active found
    split at done
    · cases done
      exact .answered command _ later
    · exact storeActiveExport_case later found (same active) done

end Moves

theorem applyExport_case (control : view.identity.kind = .control) {command : ExportCommand}
    (done : view.applyExport logId command = .ok (result, write)) :
    view.ExportCase logId command result write := by
  cases command with
  | begin intent deadline => exact .began intent deadline result write (applyBeginExport_case done)
  | acquireFence token =>
      simp only [applyExport, applyAcquireExportFence, control] at done
      cases done
      exact .answered _ _ (by simp)
  | releaseFence token =>
      simp only [applyExport, applyReleaseExportFence, control] at done
      cases done
      exact .answered _ _ (by simp)
  | recordFence token observation =>
      exact updateActiveExport_case (by simp) control
        (fun _ _ moved => ActiveExport.recordFence_spec moved) done
  | beginMaterialization token =>
      exact updateActiveExport_case (by simp) control
        (fun _ _ moved => ActiveExport.beginMaterialization_spec moved) done
  | publishArtifact token artifact cut =>
      exact updateActiveExport_case (by simp) control
        (fun _ _ moved => ActiveExport.publishArtifact_spec moved) done
  | recordRelease token observation =>
      exact updateActiveExport_case (by simp) control
        (fun _ _ moved => ActiveExport.recordRelease_spec moved) done
  | requestCompletion request exportId artifact =>
      simp only [applyExport, applyRequestExportCompletion, exportConflict,
        controlActiveExport_eq control] at done
      split at done
      · obtain rfl := terminalAnswer_answers done
        exact .answered _ result (by simp)
      · rename_i active found
        split at done
        · cases done
          exact .answered _ _ (by simp)
        · exact storeActiveExport_case (by simp) found
            (fun _ moved => ActiveExport.requestCompletion_spec moved) done
  | requestAbort request reason observedClock =>
      simp only [applyExport, applyRequestExportAbort, exportConflict,
        controlActiveExport_eq control] at done
      split at done
      · obtain rfl := terminalAnswer_answers done
        exact .answered _ result (by simp)
      · rename_i active found
        split at done
        · cases done
          exact .answered _ _ (by simp)
        split at done
        · cases done
          exact .answered _ _ (by simp)
        · exact storeActiveExport_case (by simp) found
            (fun _ moved => ActiveExport.requestAbort_spec moved) done
  | finish token =>
      simp only [applyExport, applyFinishExport, exportConflict,
        controlActiveExport_eq control] at done
      split at done
      · obtain rfl := exportReceiptForToken_answers done
        exact .answered _ result (by simp)
      · rename_i active found
        split at done
        · cases done
          exact .answered _ _ (by simp)
        rename_i own
        have own : active.spec.token = token := not_not.mp own
        subst own
        split at done
        · cases done
          exact .answered _ _ (by simp)
        rename_i receipt made
        split at done
        · cases done
          exact .answered _ _ (by simp)
        rename_i fence observation released
        cases done
        exact .finished active receipt fence observation found made released

end GroupView

namespace GroupDb

variable {db next : GroupDb} {entry : GroupEntry} {result : ApplyResult}

theorem applyEntry_export (control : db.identity.kind = .control)
    (done : db.applyEntry entry = .ok (result, next)) :
    (∃ command write, entry.payload = .normal (.exportProtocol command) ∧
      db.view.ExportCase entry.logId command result write ∧
      ∀ key : StateKey, key.family = .exportState →
        next.get key = (db.view.after write.state).get key) ∨
    (∀ command, entry.payload ≠ .normal (.exportProtocol command)) ∧
      ∀ key : StateKey, key.family = .exportState → next.get key = db.get key := by
  cases applyEntry_case done with
  | quiet silent noop same =>
      exact .inr ⟨fun _ => silent _, fun key inside => same key (by simp [inside])⟩
  | fenced command held normal included isHeld answer replayed answered same =>
      refine .inr ⟨fun command sent => ?_, fun key inside => same key (by simp [inside])⟩
      rw [normal] at sent
      cases sent
      simp [GroupCommand.fenceClass] at included
  | dispatched command write normal free dispatched reads =>
      have read (key : StateKey) (inside : key.family = .exportState) :
          next.get key = (db.view.after write.state).get key := reads key (by simp [inside])
      have untouched (outside : StateFamily.exportState ∉ command.families)
          (other : ∀ exported, command ≠ .exportProtocol exported) :
          (∀ exported, entry.payload ≠ .normal (.exportProtocol exported)) ∧
            ∀ key : StateKey, key.family = .exportState → next.get key = db.get key := by
        have within := GroupView.dispatch_within command result write dispatched
        refine ⟨fun exported sent => ?_, fun key inside => ?_⟩
        · rw [normal] at sent
          cases sent
          exact other exported rfl
        · rw [read key inside, GroupView.after_get_of_within within (by rwa [inside]), view_get]
      cases command with
      | exportProtocol command =>
          exact .inl ⟨command, write, normal, GroupView.applyExport_case control dispatched, read⟩
      | _ =>
          refine .inr (untouched ?_ (by simp))
          simp [GroupCommand.families, GroupView.publishAllFamilies, GroupView.leaseFamilies,
            GroupView.decisionFamilies, GroupView.maintainFamilies]

end GroupDb

end LightStream
