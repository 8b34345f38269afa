import LightStream.Proofs.Footprint
import LightStream.Server.PublishScheduler

/-!
What the state machine answers to a batch of publishes: never an error that the scheduler gives
to requests that it did not submit.
-/

namespace LightStream

def Answers (result : PublishReply) : Prop :=
  ∀ error, result = .error error → error.isAdmission = false

theorem StoredPublishOutcome.answers (stored : StoredPublishOutcome) (batch : PublishBatch) :
    Answers (stored.answer batch) := by
  intro error failed
  unfold StoredPublishOutcome.answer at failed
  split at failed
  · rename_i stored
    split at failed
    · cases result : stored.result with
      | published receipt =>
          rw [result] at failed
          simp [StoredPublishResult.asResult] at failed
      | rejected rejection =>
          rw [result] at failed
          cases rejection <;> cases failed <;> rfl
    · cases failed
      rfl
  · split at failed
    · simp at failed
    · cases failed
      rfl

namespace GroupView

variable {view : GroupView} {logId : GroupLogId} {txn next : PublishApplyTxn}
  {outcome : PublishItemOutcome}

theorem publishRecords_answers {slot : Nat} {batch : PublishBatch} {session : SessionState}
    {retention : PartitionRetentionState} {range : CommittedRecordRange}
    {bookmark : Option CommittedBookmark}
    (done : view.publishRecords logId txn slot batch session retention range bookmark =
      .ok (outcome, next)) : Answers outcome.result := by
  unfold publishRecords at done
  split at done
  · simp at done
  · cases done
    intro error failed
    simp at failed

theorem publishBookmark_answers {ordinal offset : Nat} {batch : PublishBatch}
    {error : DomainError}
    (done : txn.publishBookmark view logId ordinal batch offset = .ok (.error error, next)) :
    error.isAdmission = false := by
  unfold PublishApplyTxn.publishBookmark at done
  split at done
  · simp at done
  split at done
  · simp at done
  · rename_i created
    cases done
    simp only [PublishApplyTxn.createPublishBookmark] at created
    split at created
    · cases created
      rfl
    split at created
    · simp at created
    · simp at created
  · simp at done

theorem publishNew_answers {ordinal slot : Nat} {batch : PublishBatch} {session : SessionState}
    (done : view.publishNew logId txn ordinal slot batch session = .ok (outcome, next)) :
    Answers outcome.result := by
  simp only [publishNew] at done
  split at done
  · cases done
    rintro _ ⟨⟩
    rfl
  · simp at done
  split at done
  · cases done
    rintro _ ⟨⟩
    rfl
  split at done
  · simp at done
  · rename_i refused
    cases done
    rintro _ ⟨⟩
    exact publishBookmark_answers refused
  · exact publishRecords_answers done

theorem applyOne_answers {ordinal slot : Nat} {batch : PublishBatch}
    (done : view.applyOne logId txn ordinal slot batch = .ok (outcome, next)) :
    Answers outcome.result := by
  unfold applyOne at done
  split at done
  · cases done
    rintro _ ⟨⟩
    rfl
  split at done
  · rename_i result prior
    cases done
    unfold PublishApplyTxn.priorOutcome at prior
    split at prior
    · cases prior
      exact (StoredPublishOutcome.versioned _).answers batch
    · obtain ⟨stored, _, rfl⟩ := Option.map_eq_some_iff.mp prior
      exact stored.answers batch
  dsimp only at done
  split at done
  · cases done
    rintro _ ⟨⟩
    rfl
  split at done
  · exact publishNew_answers done
  split at done
  · cases done
    rintro _ ⟨⟩
    rfl
  · exact publishNew_answers done

theorem publishLoop_answers {cluster : ClusterId} {requests : List PublishBatch}
    {ordinal slot : Nat} {outcomes : List PublishItemOutcome}
    (done : view.publishLoop logId cluster requests ordinal slot txn = .ok (outcomes, next)) :
    ∀ outcome ∈ outcomes, Answers outcome.result := by
  induction requests generalizing ordinal slot txn outcomes with
  | nil =>
      cases done
      simp
  | cons publish rest ih =>
      unfold publishLoop at done
      split at done
      · simp at done
      rename_i first _ applied
      split at done
      · simp at done
      rename_i remaining _ looped
      cases done
      intro outcome member
      rcases List.mem_cons.mp member with rfl | later
      · unfold publishItem at applied
        split at applied
        · cases applied
          rintro _ ⟨⟩
          rfl
        · exact applyOne_answers applied
      · exact ih looped outcome later

/-- What the state machine answers to a batch of publishes never speaks of admission. -/
theorem publishMany_answers (batch : ReplicatedPublishBatch) :
    Applied.All (fun result _ => result.answersPublish)
      (view.applyCommand logId (.publishMany batch)) := by
  intro result write done
  have replays (exportId : ExportId) : (view.replayPublishMany batch exportId).answersPublish := by
    unfold replayPublishMany
    dsimp only
    split
    · intro outcome member
      obtain ⟨item, itemMember, rfl⟩ := List.mem_map.mp member
      obtain ⟨publish, _, rfl⟩ := List.mem_map.mp itemMember
      unfold replayItem
      split
      · rename_i stored prior
        obtain ⟨outcome, _, rfl⟩ := Option.map_eq_some_iff.mp prior
        exact outcome.answers publish
      split
      · rintro _ ⟨⟩
        rfl
      · rintro _ ⟨⟩
        rfl
    · trivial
  have dispatched (done : view.dispatch logId (.publishMany batch) = .ok (result, write)) :
      result.answersPublish := by
    simp only [dispatch, applyPublishMany] at done
    split at done
    · cases done
      trivial
    split at done
    · cases done
      trivial
    split at done
    · simp at done
    · rename_i looped
      cases done
      exact publishLoop_answers looped
  unfold applyCommand at done
  split at done
  · split at done
    · exact dispatched done
    · rename_i held _
      simp only [replayIncludedCommand] at done
      cases done
      exact replays held.token.exportId
  · exact dispatched done

end GroupView

end LightStream
