import LightStream.Proofs.Custody
import LightStream.Proofs.StateMachine

/-!
Replicas that have applied the same entries, whatever each did to its log and its snapshots.
They share everything but what they count of their own logs; that agrees too where their logs
owned the same payloads at every reclaim.
-/

namespace LightStream

variable {count : LogCount}

theorem sharedGet_kept (logged : PayloadId → Bool) (get : (key : StateKey) → Option (StateVal key)) :
    sharedGet (.kept logged) get = get := by
  funext key
  cases key with
  | retention partition =>
      have kept : PartitionRetentionState.shared (.kept logged) = id := rfl
      rw [sharedGet, kept, Option.map_id]
      rfl
  | _ => rfl

theorem ApplyResult.shared_kept (logged : PayloadId → Bool) (result : ApplyResult) :
    result.shared (.kept logged) = result := by
  cases result <;> rfl

def GroupEntry.maintained (entry : GroupEntry) : Option PartitionKey :=
  match entry.payload with
  | .normal (.maintainRetention partition _ _ _ _) => some partition
  | _ => none

namespace GroupDb

variable {identity : GroupIdentity} {window : Nat} {content : PayloadId → Record}
  {firstSteps secondSteps : List Step} {first second : GroupDb}

/-- The log of a replica owns, of the payloads below the floor of a partition that is maintained,
the given ones. -/
def OwnsAs (logged : GroupLogId → PayloadId → Bool) (db : GroupDb) (entry : GroupEntry) : Prop :=
  ∀ partition ∈ entry.maintained, ∀ offset < (db.view.retentionOf partition).logicalFloor,
    ∀ record ∈ db.get (.record partition offset),
      ∀ owners ∈ db.payload.get (.owners record.payloadKey),
        owners.raftLog = logged entry.logId record.payloadKey

instance (logged : GroupLogId → PayloadId → Bool) (db : GroupDb) (entry : GroupEntry) :
    Decidable (db.OwnsAs logged entry) :=
  inferInstanceAs (Decidable (∀ partition ∈ entry.maintained, _))

theorem OwnsAs.tallies {logged : GroupLogId → PayloadId → Bool} {db : GroupDb} {entry : GroupEntry}
    (owns : db.OwnsAs logged entry) : db.Tallies (fun logId => .kept (logged logId)) entry := by
  intro command carried
  cases command with
  | maintainRetention partition expectedCursor maxRecords maxPayloadBytes clock =>
      have maintains : partition ∈ entry.maintained := by
        rw [GroupEntry.maintained, carried]
        rfl
      intro offset record owners below stored owned
      exact owns partition maintains offset below record stored owners owned
  | _ => trivial

theorem Traced.agree {counts : GroupLogId → LogCount}
    (uniform : ∀ logId, (counts logId).bytes = count.bytes)
    {Allowed : GroupDb → GroupEntry → Prop}
    (tallied : ∀ db entry, Allowed db entry → db.Tallies counts entry)
    (firstTraced : Traced identity window content Allowed firstSteps first)
    (secondTraced : Traced identity window content Allowed secondSteps second)
    (same : firstSteps.map Step.entry = secondSteps.map Step.entry) :
    sharedGet count first.get = sharedGet count second.get ∧
      firstSteps.map (fun step => step.result.shared count) =
        secondSteps.map fun step => step.result.shared count := by
  obtain ⟨answers, machine, replayed, shows, results⟩ := firstTraced.replayed uniform tallied
  obtain ⟨others, other, otherReplayed, otherShows, otherResults⟩ :=
    secondTraced.replayed uniform tallied
  rw [same] at replayed
  cases replayed.symm.trans otherReplayed
  exact ⟨shows.state.symm.trans otherShows.state, results.symm.trans otherResults⟩

/-- Replicas whose logs own the same payloads at every maintenance agree on every key and on
every result. -/
theorem replicas_agree {logged : GroupLogId → PayloadId → Bool}
    (firstTraced : Traced identity window content (OwnsAs logged) firstSteps first)
    (secondTraced : Traced identity window content (OwnsAs logged) secondSteps second)
    (same : firstSteps.map Step.entry = secondSteps.map Step.entry) :
    first.get = second.get ∧ firstSteps.map Step.result = secondSteps.map Step.result := by
  have uniform (logId : GroupLogId) :
      (LogCount.kept (logged logId)).bytes = (LogCount.kept fun _ => false).bytes := rfl
  obtain ⟨state, results⟩ :=
    Traced.agree uniform (fun _ _ owns => owns.tallies) firstTraced secondTraced same
  rw [sharedGet_kept, sharedGet_kept] at state
  simp only [ApplyResult.shared_kept] at results
  exact ⟨state, results⟩

/-- One replica purges its log once the entries are applied, the other keeps it. -/
theorem replicas_agree_sample : ∃ firstSteps first secondSteps second,
    Traced freshData.identity 2 (fun _ => [7]) (OwnsAs fun _ _ => true) firstSteps first ∧
    Traced freshData.identity 2 (fun _ => [7]) (OwnsAs fun _ _ => true) secondSteps second ∧
    (first.raftLog.get 6).isSome = true ∧ second.raftLog.get 6 = none ∧
    first.get = second.get ∧ firstSteps.map Step.result = secondSteps.map Step.result := by
  have kept : yields (freshData.submitSteps replayEntries) (fun done =>
      decide (∀ step ∈ done.1, step.before.OwnsAs (fun _ _ => true) step.entry) &&
        (done.2.raftLog.get 6).isSome &&
        yields (done.2.purge ⟨1, 1, 6⟩) fun purged =>
          decide ((purged.raftLog.get 6).isSome = false)) = true := by decide
  obtain ⟨⟨steps, db⟩, submitted, kept⟩ := yields_iff.mp kept
  simp only [Bool.and_eq_true, decide_eq_true_eq] at kept
  obtain ⟨⟨owns, logged⟩, cleared⟩ := kept
  obtain ⟨next, purged, cleared⟩ := yields_iff.mp cleared
  rw [decide_eq_true_eq] at cleared
  have traced : Traced freshData.identity 2 (fun _ => [7]) (OwnsAs fun _ _ => true) steps db :=
    Traced.submitSteps .created (create_usedBelow _ _) (by decide) (by decide) owns submitted
  exact ⟨steps, db, steps, next, traced, traced.purged purged, logged,
    Option.isSome_eq_false_iff.mp cleared |> Option.isNone_iff_eq_none.mp,
    replicas_agree traced (traced.purged purged) rfl⟩

theorem UsedBelow.purge {db next : GroupDb} {bound : Nat} {logId : GroupLogId}
    (used : db.UsedBelow bound) (done : db.purge logId = .ok next) : next.UsedBelow bound := by
  obtain ⟨_, _, banks, bank⟩ := removeLogRange_frame done
  refine ⟨?_, ?_⟩
  · intro index outside
    rw [removeLogRange_raftLog done, used.1 index outside, ite_self]
  · intro position applied
    rw [get, GroupDb.state, banks, bank] at applied
    exact used.2 position applied

/-- A replica that purges its log before it reclaims a record counts other bytes than one that
purges it afterwards. -/
theorem early_purge_diverges : ∃ firstSteps first secondSteps second,
    Traced freshData.identity 2 (fun _ => [7]) (fun _ _ => True) firstSteps first ∧
    Traced freshData.identity 2 (fun _ => [7]) (fun _ _ => True) secondSteps second ∧
    firstSteps.map Step.entry = replayEntries ∧ secondSteps.map Step.entry = replayEntries ∧
    first.get (.retention samplePartition) ≠ second.get (.retention samplePartition) := by
  have counted : freshData.leaves (replayEntries.take 5) (fun db =>
      db.leaves (replayEntries.drop 5) fun late =>
        yields (db.purge ⟨1, 1, 5⟩) fun purged =>
          purged.leaves (replayEntries.drop 5) fun early =>
            decide (late.get (.retention samplePartition) ≠
              early.get (.retention samplePartition))) = true := by decide
  obtain ⟨results, db, prepared, counted⟩ := leaves_iff.mp counted
  obtain ⟨_, late, submitted, counted⟩ := leaves_iff.mp counted
  obtain ⟨purged, cleared, counted⟩ := yields_iff.mp counted
  obtain ⟨_, early, resubmitted, counted⟩ := leaves_iff.mp counted
  rw [decide_eq_true_eq] at counted
  have ran : Ran freshData.identity 2 (fun _ => [7]) (fun _ _ => True) (replayEntries.take 5) db :=
    Ran.submitAll .created (create_usedBelow _ _) (by decide) (by decide) (fun _ _ _ => trivial)
      prepared
  have used : db.UsedBelow 6 := (create_usedBelow freshData.identity 2).submitAll
    (by decide) (by decide) (by decide) prepared
  have growing : (6 :: (replayEntries.drop 5).map fun entry =>
      entry.logId.index + 1).Pairwise (· < ·) := by decide
  have lateRan := ran.submitAll used growing (by decide) (fun _ _ _ => trivial) submitted
  have earlyRan := (ran.purged cleared).submitAll (used.purge cleared) growing (by decide)
    (fun _ _ _ => trivial) resubmitted
  rw [List.take_append_drop] at lateRan earlyRan
  obtain ⟨firstSteps, firstEntries, firstTraced⟩ := lateRan.traced
  obtain ⟨secondSteps, secondEntries, secondTraced⟩ := earlyRan.traced
  exact ⟨firstSteps, _, secondSteps, _, firstTraced, secondTraced, firstEntries, secondEntries,
    counted⟩

end GroupDb

end LightStream
