import LightStream.Proofs.SharedPublish
import LightStream.Proofs.SharedRetention
import LightStream.Proofs.Traces

/-!
The replicated state machine of a group: a store that only applied entries change, with no log,
no payloads and one bank.  Every run of a replica refines it.
-/

namespace LightStream

variable {count : LogCount}

namespace GroupView

variable {view : GroupView} {logId : GroupLogId}

/-- The condition under which the count of a replica follows that of the state machine. -/
def Tallies (count : LogCount) (view : GroupView) : GroupCommand → Prop
  | .maintainRetention partition _ _ _ _ => view.Tallied count partition
  | _ => True

theorem dispatch_shared {command : GroupCommand} (tallied : view.Tallies count command) :
    Refines count (view.dispatch logId command) ((view.shared count).dispatch logId command) := by
  cases meets : command.meetsRetention with
  | false => exact dispatch_same meets
  | true =>
      cases command with
      | publish batch => exact applyPublish_shared batch
      | publishMany batch => exact applyPublishMany_shared batch
      | advanceRetention request clock => exact applyAdvanceRetention_shared request clock
      | admitReplayLease request clock =>
          exact leaseCommand_shared _ _ _ (admitDecision_shared request)
      | renewReplayLease request clock =>
          exact @leaseCommand_shared count view request.request (.renew request) clock
            (fun clock _ => view.renewDecision request clock)
            (fun clock _ => (view.shared count).renewDecision request clock)
            fun clock _ => renewDecision_shared request clock
      | releaseReplayLease request clock =>
          exact leaseCommand_shared _ _ _ (releaseDecision_shared request)
      | maintainRetention partition expectedCursor maxRecords maxPayloadBytes clock =>
          exact applyMaintainRetention_shared tallied expectedCursor maxRecords maxPayloadBytes
            clock
      | exportProtocol command =>
          cases command with
          | releaseFence token => exact applyReleaseExportFence_shared token
          | _ => simp [GroupCommand.meetsRetention] at meets
      | _ => simp [GroupCommand.meetsRetention] at meets

theorem replayIncludedCommand_shared (exportId : ExportId) (command : GroupCommand)
    {replayed : Option ApplyResult}
    (done : view.replayIncludedCommand exportId command = .ok replayed) :
    ∃ answer, (view.shared count).replayIncludedCommand exportId command = .ok answer ∧
      answer.map (ApplyResult.shared count) = replayed.map (ApplyResult.shared count) := by
  cases command with
  | maintainRetention partition expectedCursor maxRecords maxPayloadBytes clock =>
      unfold replayIncludedCommand at done ⊢
      cases done
      have cursor : ((view.retentionOf partition).shared count).reclaimCursor =
          (view.retentionOf partition).reclaimCursor := rfl
      simp only [shared_retentionOf, cursor, retentionStatus_shared]
      refine ⟨_, rfl, ?_⟩
      split
      · exact congrArg some (shared_twice _)
      · rfl
  | _ => exact ⟨replayed, done, rfl⟩

theorem applyCommand_shared {command : GroupCommand} (tallied : view.Tallies count command) :
    Refines count (view.applyCommand logId command)
      ((view.shared count).applyCommand logId command) := by
  have fence : (view.shared count).mutationFenceState = view.mutationFenceState := rfl
  unfold applyCommand
  rw [fence]
  split
  · split
    · exact dispatch_shared tallied
    · rename_i held _
      split
      · exact refines_error _ _
      · rename_i result replayed
        obtain ⟨answer, shared, same⟩ := replayIncludedCommand_shared _ _ replayed
        obtain ⟨answer, rfl, same⟩ := Option.map_eq_some_iff.mp same
        rw [shared]
        rintro _ _ ⟨⟩
        exact ⟨answer, [], rfl, Option.some.inj same⟩
      · rename_i replayed
        obtain ⟨answer, shared, same⟩ := replayIncludedCommand_shared _ _ replayed
        obtain rfl := Option.map_eq_none_iff.mp same
        rw [shared]
        exact refines_reject _
  · exact dispatch_shared tallied

theorem applyPayload_shared {payload : EntryPayload}
    (tallied : ∀ command, payload = .normal command → view.Tallies count command) :
    Refines count (view.applyPayload logId payload)
      ((view.shared count).applyPayload logId payload) := by
  cases payload with
  | blank => exact refines_reply _ []
  | membership membership => exact refines_reply _ _
  | normal command => exact applyCommand_shared (tallied command rfl)

end GroupView

/-! ### Runs -/

structure StateMachine where
  identity : GroupIdentity
  receiptWindow : Nat
  store : StateStore

namespace StateMachine

def create (identity : GroupIdentity) (receiptWindow : Nat) : StateMachine :=
  ⟨identity, receiptWindow, Kv.Store.empty⟩

def view (count : LogCount) (machine : StateMachine) : GroupView where
  identity := machine.identity
  receiptWindow := machine.receiptWindow
  get := machine.store.get
  leases := scanLeases machine.store
  hints := scanHints machine.store
  exportReceipts := scanExportReceipts machine.store
  streams := scanStreams machine.store
  activeBank := .a
  owners := fun id => some (count.owners id)

def apply (counts : GroupLogId → LogCount) (machine : StateMachine) (entry : GroupEntry) :
    Except IoError (ApplyResult × StateMachine) :=
  match (machine.view (counts entry.logId)).applyPayload entry.logId entry.payload with
  | .error error => .error error
  | .ok (result, write) =>
      .ok (result, { machine with
        store := machine.store.commit (write.state ++ [.put .applied entry.logId]) })

def replay (counts : GroupLogId → LogCount) (machine : StateMachine) :
    List GroupEntry → Except IoError (List ApplyResult × StateMachine)
  | [] => .ok ([], machine)
  | entry :: rest =>
      match machine.apply counts entry with
      | .error error => .error error
      | .ok (result, next) =>
          match next.replay counts rest with
          | .error error => .error error
          | .ok (results, last) => .ok (result :: results, last)

variable {counts : GroupLogId → LogCount} {machine : StateMachine} {db : GroupDb}

theorem replay_append {first second : List GroupEntry} {results more : List ApplyResult}
    {middle last : StateMachine} (done : machine.replay counts first = .ok (results, middle))
    (later : middle.replay counts second = .ok (more, last)) :
    machine.replay counts (first ++ second) = .ok (results ++ more, last) := by
  induction first generalizing machine results with
  | nil =>
      cases done
      exact later
  | cons entry rest ih =>
      simp only [replay] at done
      split at done
      · simp at done
      rename_i result next applied
      split at done
      · simp at done
      rename_i tailResults tailLast replayed
      cases done
      simp only [List.cons_append, replay, applied, ih replayed]

structure Shows (count : LogCount) (machine : StateMachine) (db : GroupDb) : Prop where
  identity : machine.identity = db.identity
  receiptWindow : machine.receiptWindow = db.receiptWindow
  state : machine.store.get = sharedGet count db.get

theorem Shows.view (shows : machine.Shows count db) :
    machine.view count = db.view.shared count := by
  have held (key : StateKey) : (machine.store.get key).isSome = (db.state.get key).isSome := by
    rw [shows.state]
    exact sharedGet_isSome ..
  have scans {ι : Type} [LinearOrder ι] (index : StateKey → Option ι) :
      machine.store.scan index = db.state.scan index := Kv.Store.scan_of_held held index
  have leases : scanLeases machine.store = scanLeases db.state := by
    simp only [scanLeases, scans, shows.state]
    rfl
  have hints : scanHints machine.store = scanHints db.state := by
    simp only [scanHints, scans, shows.state]
    rfl
  have exportReceipts : scanExportReceipts machine.store = scanExportReceipts db.state := by
    simp only [scanExportReceipts, scans, shows.state]
    rfl
  have streams : scanStreams machine.store = scanStreams db.state := by
    simp only [scanStreams, scans, shows.state]
    rfl
  rw [StateMachine.view, shows.identity, shows.receiptWindow, shows.state, leases, hints,
    exportReceipts, streams]
  rfl

theorem Shows.recount {other : LogCount} (shows : machine.Shows count db)
    (same : other.bytes = count.bytes) : machine.Shows other db := by
  refine ⟨shows.identity, shows.receiptWindow, ?_⟩
  funext key
  rw [shows.state, sharedGet_eq, sharedGet_eq]
  congr 1
  cases key with
  | retention =>
      funext retention
      simp only [StateKey.sharedValue, PartitionRetentionState.shared, same]
  | _ => rfl

theorem Shows.apply {entry : GroupEntry} {result : ApplyResult} {next : GroupDb}
    (shows : machine.Shows (counts entry.logId) db)
    (tallied : ∀ command, entry.payload = .normal command →
      db.view.Tallies (counts entry.logId) command)
    (done : db.applyEntry entry = .ok (result, next)) :
    ∃ answer later, machine.apply counts entry = .ok (answer, later) ∧
      later.Shows (counts entry.logId) next ∧
      answer.shared (counts entry.logId) = result.shared (counts entry.logId) := by
  unfold GroupDb.applyEntry at done
  split at done
  · simp at done
  rename_i answer write applied
  cases done
  obtain ⟨same, payload, machineApplied, results⟩ :=
    GroupView.applyPayload_shared tallied _ _ applied
  unfold StateMachine.apply
  rw [shows.view, machineApplied]
  refine ⟨same, _, rfl, ⟨shows.identity, shows.receiptWindow, ?_⟩, results⟩
  funext key
  have pending := congrFun (@sharedOps_pending (counts entry.logId) db.get
    (write.state ++ [.put .applied entry.logId])) key
  have position : sharedOps (counts entry.logId) [.put .applied entry.logId] =
      [.put .applied entry.logId] := rfl
  rw [sharedOps_append, position] at pending
  rw [Kv.Store.get_commit, shows.state]
  refine pending.trans ?_
  congr 1
  funext other
  exact (GroupDb.get_commit db ⟨write.state ++ [.put .applied entry.logId], write.payload⟩
    other).symm

end StateMachine

namespace GroupDb

variable {identity : GroupIdentity} {window : Nat} {content : PayloadId → Record} {db : GroupDb}

/-- Where the count of a replica follows the state machine's at the entry it applies. -/
def Tallies (counts : GroupLogId → LogCount) (db : GroupDb) (entry : GroupEntry) : Prop :=
  ∀ command, entry.payload = .normal command → db.view.Tallies (counts entry.logId) command

/-- Every run of a replica is a run of the state machine over the entries it has applied. -/
theorem Traced.replayed {counts : GroupLogId → LogCount}
    (uniform : ∀ logId, (counts logId).bytes = count.bytes)
    {Allowed : GroupDb → GroupEntry → Prop} {steps : List Step}
    (tallied : ∀ db entry, Allowed db entry → db.Tallies counts entry)
    (traced : Traced identity window content Allowed steps db) :
    ∃ answers machine, (StateMachine.create identity window).replay counts
        (steps.map Step.entry) = .ok (answers, machine) ∧ machine.Shows count db ∧
      answers.map (ApplyResult.shared count) =
        steps.map fun step => step.result.shared count := by
  have carried {machine : StateMachine} {first second : GroupDb}
      (shows : machine.Shows count first) (sameIdentity : second.identity = first.identity)
      (sameWindow : second.receiptWindow = first.receiptWindow)
      (sameState : second.get = first.get) : machine.Shows count second :=
    ⟨shows.identity.trans sameIdentity.symm, shows.receiptWindow.trans sameWindow.symm,
      by rw [sameState]; exact shows.state⟩
  have reads {first second : GroupDb} (banks : first.banks = second.banks)
      (bank : first.activeBank = second.activeBank) : first.get = second.get := by
    funext key
    rw [get, get, GroupDb.state, GroupDb.state, banks, bank]
  induction traced with
  | created =>
      refine ⟨[], _, rfl, ⟨rfl, rfl, ?_⟩, rfl⟩
      funext key
      rw [sharedGet_eq]
      rfl
  | appended traced appendable ih =>
      obtain ⟨answers, machine, replayed, shows, results⟩ := ih
      exact ⟨answers, machine, replayed, carried shows rfl rfl rfl, results⟩
  | truncated traced done ih =>
      obtain ⟨answers, machine, replayed, shows, results⟩ := ih
      obtain ⟨first, second, banks, bank⟩ := removeLogRange_frame done
      exact ⟨answers, machine, replayed, carried shows first second (reads banks bank), results⟩
  | purged traced done ih =>
      obtain ⟨answers, machine, replayed, shows, results⟩ := ih
      obtain ⟨first, second, banks, bank⟩ := removeLogRange_frame done
      exact ⟨answers, machine, replayed, carried shows first second (reads banks bank), results⟩
  | applied traced due allowed done ih =>
      obtain ⟨answers, machine, replayed, shows, results⟩ := ih
      rename_i entry _
      obtain ⟨answer, later, applied, shows, result⟩ :=
        (shows.recount (uniform entry.logId)).apply (tallied _ _ allowed) done
      have counted (result : ApplyResult) :
          result.shared (counts entry.logId) = result.shared count := by
        cases result with
        | retentionStatus => simp only [ApplyResult.shared, uniform]
        | _ => rfl
      rw [counted, counted] at result
      refine ⟨answers ++ [answer], later, ?_, shows.recount (uniform entry.logId).symm, ?_⟩
      · rw [List.map_append]
        refine StateMachine.replay_append replayed ?_
        simp only [List.map_cons, List.map_nil, StateMachine.replay, applied]
      · simp only [List.map_append, results, List.map_cons, List.map_nil, result]
  | built traced done ih =>
      obtain ⟨answers, machine, replayed, shows, results⟩ := ih
      obtain ⟨_, _, rfl⟩ := buildSnapshot_ok done
      exact ⟨answers, machine, replayed, carried shows rfl rfl rfl, results⟩
  | installed traced sourceTraced done install ih sourceIh =>
      obtain ⟨answers, machine, replayed, shows, results⟩ := sourceIh
      obtain ⟨first, second, _, _⟩ := installSnapshot_frame install
      have settings := traced.ran.settings
      have sourceSettings := sourceTraced.ran.settings
      refine ⟨answers, machine, replayed, carried shows ?_ ?_
        (funext (installSnapshot_get done install)), results⟩
      · rw [first, settings.1, sourceSettings.1]
      · rw [second, settings.2, sourceSettings.2]

end GroupDb

end LightStream
