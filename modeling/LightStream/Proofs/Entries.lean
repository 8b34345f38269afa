import LightStream.Proofs.Frame
import LightStream.Proofs.Replica

/-!
What an applied entry does to the stored values, case by case, and the run rule for invariants
that read what commands write.
-/

namespace LightStream

namespace GroupDb

variable {identity : GroupIdentity} {window : Nat} {content : PayloadId → Record}
  {Allowed : GroupDb → GroupEntry → Prop} {history : List GroupEntry} {db next : GroupDb}
  {entry : GroupEntry} {result : ApplyResult}

/-- What an applied entry does: nothing to the values of commands, an answer under a held fence, or
what its command does. -/
inductive EntryCase (db : GroupDb) (entry : GroupEntry) (result : ApplyResult) (next : GroupDb) :
    Prop
  | quiet (silent : ∀ command, entry.payload ≠ .normal command) (noop : result = .noop)
      (same : ∀ key : StateKey, key.family ∉ [StateFamily.applied, .membership] →
        next.get key = db.get key) : EntryCase db entry result next
  | fenced (command : GroupCommand) (held : HeldExportFence)
      (normal : entry.payload = .normal command)
      (included : command.fenceClass = .includedMutation)
      (isHeld : db.view.mutationFenceState.held = some held) (answer : Option ApplyResult)
      (replayed : db.view.replayIncludedCommand held.token.exportId command = .ok answer)
      (answered : result = answer.getD (.rejected (GroupView.exportInProgress held.token.exportId)))
      (same : ∀ key : StateKey, key.family ∉ [StateFamily.applied] →
        next.get key = db.get key) : EntryCase db entry result next
  | dispatched (command : GroupCommand) (write : WriteBatch)
      (normal : entry.payload = .normal command)
      (free : command.fenceClass = .includedMutation → db.view.mutationFenceState.held = none)
      (done : db.view.dispatch entry.logId command = .ok (result, write))
      (reads : ∀ key : StateKey, key.family ∉ [StateFamily.applied] →
        next.get key = (db.view.after write.state).get key) : EntryCase db entry result next

theorem applyEntry_case (done : db.applyEntry entry = .ok (result, next)) :
    EntryCase db entry result next := by
  unfold applyEntry at done
  split at done
  · simp at done
  rename_i answer write handled
  cases done
  have reads (key : StateKey) (other : key.family ∉ [StateFamily.applied]) :
      (db.commit ⟨write.state ++ [.put .applied entry.logId], write.payload⟩).get key =
        (db.view.after write.state).get key := commit_applied_get (by simpa using other)
  cases payload : entry.payload with
  | blank =>
      rw [payload] at handled
      cases handled
      refine .quiet (by simp [payload]) rfl fun key other => ?_
      exact reads key fun applied => other (by simp_all)
  | membership membership =>
      rw [payload] at handled
      cases handled
      refine .quiet (by simp [payload]) rfl fun key other => ?_
      rw [reads key fun applied => other (by simp_all)]
      exact GroupView.after_get_of_within (show Within [.membership] _ by simp [StateKey.family])
        fun inside => other (List.mem_cons_of_mem _ inside)
  | normal command =>
      rw [payload] at handled
      have handled : db.view.applyCommand entry.logId command = .ok (result, write) := handled
      unfold GroupView.applyCommand at handled
      split at handled
      · rename_i included
        split at handled
        · rename_i free
          exact .dispatched command write payload (fun _ => free) handled reads
        rename_i held isHeld
        split at handled
        · simp at handled
        · rename_i answer replayed
          cases handled
          exact .fenced command held payload included isHeld _ replayed rfl reads
        · rename_i replayed
          cases handled
          exact .fenced command held payload included isHeld _ replayed rfl reads
      · rename_i other
        exact .dispatched command write payload (fun included => absurd included other) handled reads

theorem applyEntry_dispatched {logId : GroupLogId} {command : GroupCommand} {write : WriteBatch}
    (free : db.view.mutationFenceState.held = none)
    (done : db.view.dispatch logId command = .ok (result, write)) :
    ∃ next, db.applyEntry ⟨logId, .normal command⟩ = .ok (result, next) ∧
      ∀ key : StateKey, key.family ∉ [StateFamily.applied] →
        next.get key = (db.view.after write.state).get key := by
  have handled : db.view.applyPayload logId (.normal command) = .ok (result, write) := by
    rw [← done, ← GroupView.applyCommand_free free]
    rfl
  refine ⟨db.commit ⟨write.state ++ [.put .applied logId], write.payload⟩, ?_, fun key other => ?_⟩
  · rw [applyEntry, handled]
  · exact commit_applied_get (by simpa using other)

/-- An invariant of the values that commands write, true of the empty state and kept by every
command, holds of every reachable state. -/
theorem Ran.upheld {Inv : GroupView → Prop} {families : List StateFamily}
    (written : ∀ family ∈ [StateFamily.applied, .membership], family ∉ families)
    (frame : ∀ {view other : GroupView}, Inv view →
      (∀ key : StateKey, key.family ∈ families → other.get key = view.get key) → Inv other)
    (initial : ∀ {view : GroupView}, (∀ key, view.get key = none) → Inv view)
    (step : ∀ {history : List GroupEntry} {db : GroupDb} {logId : GroupLogId}
      {command : GroupCommand} {result : ApplyResult} {write : WriteBatch},
      Ran identity window content Allowed history db → Inv db.view →
      Due content db ⟨logId, .normal command⟩ → Allowed db ⟨logId, .normal command⟩ →
      (command.fenceClass = .includedMutation → db.view.mutationFenceState.held = none) →
      db.view.dispatch logId command = .ok (result, write) → Inv (db.view.after write.state))
    (ran : Ran identity window content Allowed history db) : Inv db.view := by
  have outside {key : StateKey} (inside : key.family ∈ families) :
      key.family ∉ [StateFamily.applied, .membership] := fun other => written _ other inside
  have reached : ∀ view : GroupView, view.get = db.get → Inv view := by
    refine @Ran.invariant identity window content Allowed history db
      (fun get => ∀ view : GroupView, view.get = get → Inv view) ?_ ?_ ran
    · intro view empty
      exact initial fun key => by rw [empty]
    · intro history db next entry result ran held due allowed done view same
      have kept := held db.view rfl
      cases applyEntry_case done with
      | quiet silent noop reads =>
          exact frame kept fun key inside => by rw [same, reads key (outside inside), view_get]
      | fenced command held normal included isHeld answer replayed answered reads =>
          refine frame kept fun key inside => ?_
          rw [same, reads key fun applied => outside inside (List.mem_cons.mpr
            (.inl (List.mem_singleton.mp applied))), view_get]
      | dispatched command write normal free dispatched reads =>
          obtain ⟨logId, payload⟩ := entry
          obtain rfl : payload = .normal command := normal
          refine frame (step ran kept due allowed free dispatched) fun key inside => ?_
          rw [same, reads key fun applied => outside inside (List.mem_cons.mpr
            (.inl (List.mem_singleton.mp applied)))]
  exact reached db.view rfl

end GroupDb

end LightStream
