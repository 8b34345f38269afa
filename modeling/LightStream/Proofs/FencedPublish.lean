import LightStream.Proofs.Fence
import LightStream.Proofs.FencedReplay

/-!
Publish retries under a held fence, request by request, and with them the agreement of the fenced
lookup with the handlers for every included command.
-/

namespace LightStream

theorem StoredPublishOutcome.answer_error {stored : StoredPublishOutcome} {batch : PublishBatch}
    {error : DomainError} (answered : stored.answer batch = .error error) :
    error = .receiptConflict ∨ error = .bookmarkNameConflict ∨
      ∃ reason, error = .invalidRange reason := by
  cases stored with
  | legacy stored =>
      simp only [StoredPublishOutcome.answer] at answered
      split at answered
      · simp at answered
      · cases answered
        exact .inl rfl
  | versioned stored =>
      simp only [StoredPublishOutcome.answer] at answered
      split at answered
      · cases result : stored.result with
        | published receipt => simp [result, StoredPublishResult.asResult] at answered
        | rejected rejection =>
            cases rejection with
            | bookmarkNameConflict =>
                rw [result] at answered
                cases answered
                exact .inr (.inl rfl)
            | invalidRange reason =>
                rw [result] at answered
                cases answered
                exact .inr (.inr ⟨reason, rfl⟩)
      · cases answered
        exact .inl rfl

namespace GroupView

variable {view other : GroupView} {logId : GroupLogId} {exportId : ExportId}

inductive RetryAnswer (view : GroupView) (batch : PublishBatch) :
    Except DomainError PublishReceipt → Prop where
  | stored (outcome : StoredPublishOutcome)
      (found : view.get (.receipt batch.partition batch.request) = some outcome) :
      RetryAnswer view batch (outcome.answer batch)
  | expired (absent : view.get (.receipt batch.partition batch.request) = none)
      (covered : view.publishSessionCovers batch = true) :
      RetryAnswer view batch (.error .receiptExpired)

theorem RetryAnswer.retried {batch : PublishBatch} {answer : Except DomainError PublishReceipt}
    (retry : view.RetryAnswer batch answer) : view.Retried batch := by
  cases retry with
  | stored outcome found => exact .inl (by rw [found]; rfl)
  | expired absent covered => exact .inr covered

theorem RetryAnswer.error {batch : PublishBatch} {error : DomainError}
    (retry : view.RetryAnswer batch (.error error)) :
    error = .receiptConflict ∨ error = .bookmarkNameConflict ∨ error = .receiptExpired ∨
      ∃ reason, error = .invalidRange reason := by
  generalize same : Except.error error = answer at retry
  cases retry with
  | stored outcome found =>
      rcases StoredPublishOutcome.answer_error same.symm with conflict | name | range
      · exact .inl conflict
      · exact .inr (.inl name)
      · exact .inr (.inr (.inr range))
  | expired =>
      cases same
      exact .inr (.inr (.inl rfl))

theorem RetryAnswer.placed {batch : PublishBatch} {answer : Except DomainError PublishReceipt}
    (retry : view.RetryAnswer batch answer) {error : DomainError}
    (misplaced : error = .notBootstrapped ∨ ∃ reason, error = .identityMismatch reason) :
    answer ≠ .error error := by
  rintro rfl
  rcases retry.error with rfl | rfl | rfl | ⟨reason, rfl⟩ <;> simp at misplaced

theorem RetryAnswer.settled {batch : PublishBatch} {answer : Except DomainError PublishReceipt}
    (retry : view.RetryAnswer batch answer) : answer ≠ .error (exportInProgress exportId) := by
  rintro rfl
  rcases retry.error with same | same | same | ⟨reason, same⟩ <;> simp [exportInProgress] at same

theorem replayItem_cases (batch : PublishBatch) :
    ¬view.Retried batch ∧
        view.replayItem exportId batch = (⟨batch.request, .error (exportInProgress exportId)⟩, false) ∨
      ∃ answer, view.RetryAnswer batch answer ∧
        view.replayItem exportId batch = (⟨batch.request, answer⟩, true) := by
  unfold replayItem priorPublishOutcome
  cases found : view.get (.receipt batch.partition batch.request) with
  | some outcome => exact .inr ⟨_, .stored outcome found, rfl⟩
  | none =>
      by_cases covered : view.publishSessionCovers batch = true
      · refine .inr ⟨_, .expired found covered, ?_⟩
        simp [covered]
      · refine .inl ⟨?_, by simp [covered]⟩
        simp [Retried, found, covered]

def retryResult : Except DomainError PublishReceipt → ApplyResult
  | .ok receipt => .published receipt
  | .error error => .rejected error

theorem replayPublish_cases (batch : PublishBatch) :
    ¬view.Retried batch ∧ view.replayPublish batch = none ∨
      ∃ answer, view.RetryAnswer batch answer ∧
        view.replayPublish batch = some (retryResult answer) := by
  unfold replayPublish priorPublishOutcome
  cases found : view.get (.receipt batch.partition batch.request) with
  | some outcome =>
      refine .inr ⟨_, .stored outcome found, ?_⟩
      simp only [Option.map_some]
      cases outcome.answer batch <;> rfl
  | none =>
      by_cases covered : view.publishSessionCovers batch = true
      · refine .inr ⟨_, .expired found covered, ?_⟩
        simp [covered, retryResult]
      · refine .inl ⟨?_, by simp [covered]⟩
        simp [Retried, found, covered]

section Single

variable (free : view.Unfences other)
include free

theorem Unfences.located (batch : PublishBatch) : other.Located batch ↔ view.Located batch := by
  simp only [Located, free.identity, free.same .bootstrap (by simp)]

theorem applyPublish_misplaced {batch : PublishBatch} (misplaced : ¬view.Located batch) :
    ∃ error, other.applyPublish logId batch = reject error ∧
      (error = .notBootstrapped ∨ ∃ reason, error = .identityMismatch reason) := by
  rw [← free.located] at misplaced
  unfold applyPublish
  by_cases kind : other.identity.kind = .data
  · rw [if_neg (by simpa using kind)]
    cases started : other.get .bootstrap with
    | none => exact ⟨_, rfl, .inl rfl⟩
    | some spec =>
        dsimp only
        rw [if_pos]
        · exact ⟨_, rfl, .inr ⟨_, rfl⟩⟩
        · by_contra fine
          rw [not_or, not_not, not_not] at fine
          exact misplaced ⟨kind, fine.1, spec, started, fine.2⟩
  · rw [if_pos kind]
    exact ⟨_, rfl, .inr ⟨_, rfl⟩⟩

theorem publish_compared (batch : PublishBatch) :
    view.Compared other logId exportId (.publish batch) := by
  rcases @replayPublish_cases view batch with ⟨fresh, silent⟩ | ⟨answer, retry, replayed⟩
  · refine .unanswered (fun retried => absurd retried fresh) ?_
    simp [replayIncludedCommand, silent]
  have replayed : view.replayIncludedCommand exportId (.publish batch) =
      .ok (some (retryResult answer)) := by
    rw [replayIncludedCommand, replayed]
  by_cases located : view.Located batch
  · have receipt := free.same (.receipt batch.partition batch.request) (by simp)
    have session := free.same (sessionKey batch.partition batch.request) (by simp)
    have bootstrap := free.same .bootstrap (by simp)
    have place := located
    obtain ⟨kind, cluster, spec, started, own⟩ := place
    rw [started] at bootstrap
    have absentCase (absent : view.get (.receipt batch.partition batch.request) = none) :
        other.dispatch logId (.publish batch) =
          if view.publishSessionCovers batch then reject .receiptExpired
          else other.publishUnbatchedNew logId batch
            ((view.get (sessionKey batch.partition batch.request)).getD SessionState.default) := by
      simp only [dispatch, applyPublish, free.identity, bootstrap, receipt, session, absent]
      rw [if_neg (by simpa using kind), if_neg (by simp [cluster, ← own])]
      rfl
    have legacyCase (stored : StoredReceipt)
        (found : view.get (.receipt batch.partition batch.request) = some (.legacy stored)) :
        other.dispatch logId (.publish batch) =
          if stored.fingerprint = legacyFingerprint batch then reply (.published stored.receipt) []
          else reject .receiptConflict := by
      simp only [dispatch, applyPublish, free.identity, bootstrap, receipt, found]
      rw [if_neg (by simpa using kind), if_neg (by simp [cluster, ← own])]
    have versionedCase (stored : VersionedStoredPublishOutcome)
        (found : view.get (.receipt batch.partition batch.request) = some (.versioned stored)) :
        other.dispatch logId (.publish batch) = .error .decode := by
      simp only [dispatch, applyPublish, free.identity, bootstrap, receipt, found]
      rw [if_neg (by simpa using kind), if_neg (by simp [cluster, ← own])]
    cases retry with
    | expired absent covered =>
        refine .repeats (fun _ => ⟨located, fun stored found => ?_⟩) replayed ?_
        · rw [absent] at found
          simp at found
        · rw [absentCase absent]
          simp only [covered, if_true]
          rfl
    | stored outcome found =>
        by_cases alike : ReadsAlike batch outcome
        · refine .repeats (fun _ => ⟨located, fun stored same => ?_⟩) replayed ?_
          · rw [found] at same
            cases same
            exact alike
          · cases outcome with
            | versioned stored => exact absurd alike (by simp [ReadsAlike])
            | legacy stored =>
                rw [legacyCase stored found, StoredPublishOutcome.answer]
                by_cases same : stored.fingerprint = legacyFingerprint batch
                · rw [if_pos same, if_pos ⟨same, alike same⟩]
                  rfl
                · rw [if_neg same, if_neg (fun both => same both.1)]
                  rfl
        · refine .diverges (fun checks => ?_) replayed ?_
          · exact alike ((checks (.inl (by rw [found]; rfl))).2 outcome found)
          · intro write
            cases outcome with
            | versioned stored =>
                rw [versionedCase stored found]
                simp
            | legacy stored =>
                simp only [ReadsAlike, not_forall] at alike
                obtain ⟨same, named⟩ := alike
                rw [legacyCase stored found, StoredPublishOutcome.answer]
                rw [if_pos same, if_neg (fun both => named both.2)]
                simp [reply, retryResult]
  · obtain ⟨error, refused, misplaced⟩ := @applyPublish_misplaced view other logId free batch located
    refine .diverges (fun checks => located (checks retry.retried).1) replayed ?_
    intro write
    have handled : other.dispatch logId (.publish batch) = reject error := refused
    rw [handled]
    intro done
    cases answer with
    | ok receipt => simp [reject, reply, retryResult] at done
    | error other =>
        simp only [reject, reply, retryResult, Except.ok.injEq, Prod.mk.injEq,
          ApplyResult.rejected.injEq] at done
        exact retry.placed misplaced (by rw [done.1])

end Single

section Batch

variable {cluster : ClusterId} {txn next : PublishApplyTxn} {publish batch : PublishBatch}
  {requestOrdinal slot : Nat} {outcome : PublishItemOutcome} {write : WriteBatch}

structure Undecided (view : GroupView) (txn : PublishApplyTxn) (publish : PublishBatch) : Prop where
  kept : (view.get (.receipt publish.partition publish.request)).isSome = true →
    Kv.Batch.effect txn.write.state (.receipt publish.partition publish.request) = none ∨
      Kv.Batch.effect txn.write.state (.receipt publish.partition publish.request) = some none
  expired : view.get (.receipt publish.partition publish.request) = none →
    (txn.committed view).get (.receipt publish.partition publish.request) = none ∧
      ((txn.committed view).sessionOf publish).covers publish.request.sequence = true

theorem Undecided.start (retried : view.Retried publish) :
    view.Undecided PublishApplyTxn.new publish := by
  constructor
  · exact fun _ => .inl rfl
  · intro absent
    refine ⟨absent, ?_⟩
    have covered : view.publishSessionCovers publish = true :=
      retried.resolve_left (by simp [absent])
    exact covered

theorem Undecided.answered (undecided : view.Undecided txn publish)
    (own : publish.cluster = cluster) (located : publish.cluster = view.identity.clusterId)
    {answer : Except DomainError PublishReceipt} (retry : view.RetryAnswer publish answer)
    (item : ItemCase view txn logId cluster requestOrdinal slot publish outcome write) :
    outcome = ⟨publish.request, answer⟩ ∧ write = .empty := by
  cases item with
  | stale _ evicted stored found =>
      cases retry with
      | stored outcome same =>
          rw [found] at same
          cases same
          exact ⟨rfl, rfl⟩
      | expired absent =>
          rw [found] at absent
          simp at absent
  | current current done =>
      have fresh := current own located
      have pending : (txn.committed view).get (.receipt publish.partition publish.request) =
          view.get (.receipt publish.partition publish.request) := by
        cases found : view.get (.receipt publish.partition publish.request) with
        | none => exact (undecided.expired found).1
        | some stored =>
            rcases undecided.kept (by rw [found]; rfl) with silent | deleted
            · rw [← found]
              exact Kv.pending_of_untouched silent
            · exact absurd ⟨deleted, by rw [found]; rfl⟩ fresh
      have uncovered : view.get (.receipt publish.partition publish.request) = none →
          ((txn.committed view).sessionOf publish).covers publish.request.sequence = false →
          False := by
        intro absent newer
        rw [(undecided.expired absent).2] at newer
        simp at newer
      cases done with
      | foreign mismatch => exact absurd located (mismatch.resolve_left (by simpa using own))
      | answered _ stored found =>
          rw [pending] at found
          cases retry with
          | stored outcome same =>
              rw [found] at same
              cases same
              exact ⟨rfl, rfl⟩
          | expired absent =>
              rw [found] at absent
              simp at absent
      | expired _ absent =>
          rw [pending] at absent
          cases retry with
          | stored outcome same =>
              rw [absent] at same
              simp at same
          | expired => exact ⟨rfl, rfl⟩
      | refused _ absent newer =>
          rw [pending] at absent
          exact (uncovered absent newer).elim
      | accepted _ absent newer =>
          rw [pending] at absent
          exact (uncovered absent newer).elim

theorem Undecided.item (undecided : view.Undecided txn publish)
    (located : view.identity.clusterId = cluster)
    (item : ItemCase view txn logId cluster requestOrdinal slot batch outcome write)
    (written : next.write = txn.write.append write) : view.Undecided next publish := by
  have state : next.write.state = txn.write.state ++ write.state := by rw [written]; rfl
  have quiet (empty : write = .empty) : view.Undecided next publish := by
    subst empty
    have same : next.write.state = txn.write.state := by
      rw [state]
      exact List.append_nil _
    have committed : next.committed view = txn.committed view := by
      rw [PublishApplyTxn.committed, PublishApplyTxn.committed, same]
    refine ⟨?_, ?_⟩
    · rw [same]
      exact undecided.kept
    · rw [committed]
      exact undecided.expired
  cases item with
  | stale => exact quiet rfl
  | current current done =>
      rcases done.quiet_or_records with empty | ⟨result, own, _, records⟩
      · exact quiet empty
      have effect : Kv.Batch.effect write.state (.receipt publish.partition publish.request) =
          if publish.partition = batch.partition ∧
              (((txn.committed view).sessionOf batch).advance view.receiptWindow
                batch.request.sequence).2.map (expiredRequest batch.request) =
                  some publish.request then some none
          else if publish.partition = batch.partition ∧ publish.request = batch.request then
            some (some (.versioned ⟨fingerprint batch, result⟩))
          else none := by
        rw [records.effect (by simp [StateKey.family, publishFamilies])]
        exact receiptWrites_effect_receipt ..
      constructor
      · intro present
        rw [state, Kv.Batch.effect_append, effect]
        split
        · exact .inr rfl
        · split
          · rename_i same
            exfalso
            have absent := records.absent
            rw [← same.1, ← same.2] at absent
            rcases undecided.kept present with silent | deleted
            · have read : (txn.committed view).get (.receipt publish.partition publish.request) =
                  view.get (.receipt publish.partition publish.request) :=
                Kv.pending_of_untouched silent
              rw [read] at absent
              rw [absent] at present
              simp at present
            · refine current own (own.trans located.symm) ⟨?_, ?_⟩
              · rw [← same.1, ← same.2]
                exact deleted
              · rw [← same.1, ← same.2]
                exact present
          · rw [Option.none_or]
            exact undecided.kept present
      · intro absent
        obtain ⟨pendingAbsent, covered⟩ := undecided.expired absent
        let this : Occurrence := ⟨publish, .error .receiptExpired, []⟩
        have remembered : this.Remembered (txn.committed view) := by
          refine ⟨covered, fun stored found => ?_⟩
          have found : (txn.committed view).get (.receipt publish.partition publish.request) =
            some stored := found
          rw [pendingAbsent] at found
          simp at found
        have committed : next.committed view = (txn.committed view).after write.state := by
          rw [PublishApplyTxn.committed, state, after_append]
          rfl
        rw [committed]
        refine ⟨?_, (remembered.records records).covered⟩
        have different := remembered.other_request records.newer
        show Kv.pending _ _ _ = none
        rw [Kv.pending, effect]
        split
        · rfl
        · rw [if_neg fun same => different ⟨same.1.symm, same.2.symm⟩]
          exact pendingAbsent

theorem publishLoop_retried (own : publish.cluster = cluster)
    (located : publish.cluster = view.identity.clusterId)
    {answer : Except DomainError PublishReceipt} (retry : view.RetryAnswer publish answer) :
    ∀ {requests : List PublishBatch} {requestOrdinal slot : Nat} {txn last : PublishApplyTxn}
      {outcomes : List PublishItemOutcome}, txn.Sound view → view.Undecided txn publish →
      view.publishLoop logId cluster requests requestOrdinal slot txn = .ok (outcomes, last) →
      ∀ index : Nat, requests[index]? = some publish →
        outcomes[index]? = some ⟨publish.request, answer⟩ := by
  intro requests
  induction requests with
  | nil =>
      intro requestOrdinal slot txn last outcomes _ _ _ index found
      simp at found
  | cons head rest ih =>
      intro requestOrdinal slot txn last outcomes sound undecided done
      rw [publishLoop] at done
      split at done
      · simp at done
      rename_i outcome next applied
      split at done
      · simp at done
      rename_i others final tail
      cases done
      obtain ⟨nextSound, write, written, item⟩ := publishItem_cases sound applied
      intro index found
      cases index with
      | zero =>
          simp only [List.getElem?_cons_zero, Option.some.injEq] at found ⊢
          subst found
          exact (undecided.answered own located retry item).1
      | succ index =>
          simp only [List.getElem?_cons_succ] at found ⊢
          exact ih nextSound (undecided.item (located.symm.trans own) item written) tail index found

variable (free : view.Unfences other)
include free

theorem applyPublishMany_single (located : view.Located publish)
    {answer : Except DomainError PublishReceipt} (retry : view.RetryAnswer publish answer) :
    other.applyPublishMany logId (.single publish) =
      reply (.publishedMany [⟨publish.request, answer⟩]) [] := by
  obtain ⟨kind, own, spec, started, same⟩ := located
  have bootstrap := free.same .bootstrap (by simp)
  have receipt := free.same (.receipt publish.partition publish.request) (by simp)
  have session := free.same (sessionKey publish.partition publish.request) (by simp)
  rw [started] at bootstrap
  have answered : ∃ txn : PublishApplyTxn, txn.write = .empty ∧
      other.publishItem logId spec.cluster PublishApplyTxn.new 0 0 publish =
        .ok (⟨publish.request, answer⟩, txn) := by
    unfold publishItem applyOne
    rw [if_neg (by simpa using same), if_neg (by simpa [free.identity] using own)]
    cases retry with
    | stored outcome found =>
        refine ⟨PublishApplyTxn.new, rfl, ?_⟩
        simp only [PublishApplyTxn.priorOutcome, PublishApplyTxn.new, receipt, found, Option.map_some]
    | expired absent covered =>
        rw [publishSessionCovers] at covered
        refine ⟨(PublishApplyTxn.new.session other publish).2, rfl, ?_⟩
        simp only [PublishApplyTxn.priorOutcome, PublishApplyTxn.new, PublishApplyTxn.session,
          receipt, session, absent, covered, Option.map_none, if_true]
  obtain ⟨txn, empty, item⟩ := answered
  simp only [applyPublishMany, free.identity, bootstrap, ReplicatedPublishBatch.single, publishLoop,
    item, empty]
  rw [if_neg (by simpa using kind)]
  rfl

theorem applyPublishMany_misplaced (misplaced : ¬view.Located publish)
    {answer : Except DomainError PublishReceipt} (retry : view.RetryAnswer publish answer)
    (write : WriteBatch) :
    other.applyPublishMany logId (.single publish) ≠
      .ok (.publishedMany [⟨publish.request, answer⟩], write) := by
  rw [← free.located] at misplaced
  intro done
  unfold applyPublishMany at done
  split at done
  · simp [reject, reply] at done
  rename_i kind
  split at done
  · simp [reject, reply] at done
  rename_i spec started
  have foreign : publish.cluster ≠ spec.cluster ∨ publish.cluster ≠ other.identity.clusterId := by
    by_contra fine
    rw [not_or, not_not, not_not] at fine
    exact misplaced ⟨by simpa using kind, fine.2, spec, started, fine.1⟩
  have item : other.publishItem logId spec.cluster PublishApplyTxn.new 0 0 publish =
      .ok (⟨publish.request, .error clusterMismatch⟩, PublishApplyTxn.new) := by
    unfold publishItem applyOne
    by_cases own : publish.cluster ≠ spec.cluster
    · rw [if_pos own]
    · rw [if_neg own, if_pos (foreign.resolve_left own)]
  simp only [ReplicatedPublishBatch.single, publishLoop, item, Except.ok.injEq, Prod.mk.injEq,
    ApplyResult.publishedMany.injEq, List.cons.injEq, PublishItemOutcome.mk.injEq, true_and,
    and_true] at done
  exact retry.placed (.inr ⟨_, rfl⟩) done.1.symm

end Batch

end GroupView

namespace GroupDb

open GroupView

variable {db : GroupDb} {logId : GroupLogId} {command : GroupCommand} {result : ApplyResult}

def unfenced (db : GroupDb) : GroupDb :=
  db.commit ⟨[.put .mutationFence ⟨db.view.mutationFenceState.throughEpoch, none, by simp⟩], []⟩

theorem unfenced_unfences (db : GroupDb) : db.view.Unfences db.unfenced.view where
  identity := rfl
  same := by
    intro key other
    rw [view_get, view_get, unfenced, get_commit]
    simp [Kv.Op.effect, Ne.symm other]
  present := by
    rw [view_get, unfenced, get_commit]
    simp
  unheld := by
    rw [mutationFenceState, view_get, unfenced, get_commit]
    simp

def OnlyAnswers (db : GroupDb) (logId : GroupLogId) (command : GroupCommand)
    (result : ApplyResult) : Prop :=
  db.applyEntry ⟨logId, .normal command⟩ = .ok (result, db.commit ⟨[.put .applied logId], []⟩)

theorem onlyAnswers_of_reply (handled : db.view.applyCommand logId command = reply result []) :
    db.OnlyAnswers logId command result := applyEntry_normal handled

theorem OnlyAnswers.handled (answers : db.OnlyAnswers logId command result) :
    ∃ write, db.view.applyCommand logId command = .ok (result, write) := by
  unfold OnlyAnswers applyEntry applyPayload at answers
  dsimp only at answers
  split at answers
  · simp at answers
  · rename_i answer write handled
    simp only [Except.ok.injEq, Prod.mk.injEq] at answers
    exact ⟨write, by rw [handled, answers.1]⟩

/-- Without the fence a command answers what the fenced lookup has answered, and changes nothing.
A batch does so request by request, for the requests that are not left to the end of the export:
alone, and in its place in the batch. -/
def AnswersAlike (db : GroupDb) (logId : GroupLogId) (exportId : ExportId) :
    GroupCommand → ApplyResult → Prop
  | .publishMany batch, .publishedMany outcomes =>
      ∀ (index : Nat) (publish : PublishBatch) (outcome : PublishItemOutcome),
        batch.requests[index]? = some publish → outcomes[index]? = some outcome →
        outcome.result ≠ .error (exportInProgress exportId) →
        db.unfenced.OnlyAnswers logId (.publishMany (.single publish)) (.publishedMany [outcome]) ∧
          ∀ others next, db.unfenced.applyEntry ⟨logId, .normal (.publishMany batch)⟩ =
            .ok (.publishedMany others, next) → others[index]? = some outcome
  | .publishMany _, _ => True
  | command, result => db.unfenced.OnlyAnswers logId command result

/-- While a fence is held, an included command is refused for the export without any effect, or
answered without any effect as it would be without the fence. -/
structure ReplaysAlike (db : GroupDb) (logId : GroupLogId) (exportId : ExportId)
    (command : GroupCommand) : Prop where
  refused : db.view.replayIncludedCommand exportId command = .ok none →
    db.OnlyAnswers logId command (.rejected (exportInProgress exportId))
  answered : ∀ result, db.view.replayIncludedCommand exportId command = .ok (some result) →
    db.OnlyAnswers logId command result ∧ db.AnswersAlike logId exportId command result

theorem included_compared {view other : GroupView} (free : view.Unfences other) (exportId : ExportId)
    (included : command.fenceClass = .includedMutation)
    (whole : ∀ batch, command ≠ .publishMany batch) :
    view.Compared other logId exportId command := by
  cases command with
  | bootstrapControl spec topology security dataGroups maxStreams maxPartitions =>
      exact bootstrapControl_compared free spec topology security dataGroups maxStreams maxPartitions
  | bootstrapData spec => exact bootstrapData_compared free spec
  | createStreamIntent spec streamId => exact createStreamIntent_compared free spec streamId
  | replicaReady streamId groupId => exact replicaReady_compared free streamId groupId
  | activateStream streamId => exact activateStream_compared free streamId
  | beginDeleteStream streamId => exact beginDeleteStream_compared free streamId
  | finishDeleteStream streamId => exact finishDeleteStream_compared free streamId
  | publish batch => exact publish_compared free batch
  | publishMany batch => exact absurd rfl (whole batch)
  | createBookmark id partition name offset =>
      exact createBookmark_compared free id partition name offset
  | deleteBookmark partition id => exact deleteBookmark_compared free partition id
  | createStreamBookmark id name vector => exact createStreamBookmark_compared free id name vector
  | deleteStreamBookmark streamId id => exact deleteStreamBookmark_compared free streamId id
  | advanceRetention request clock => exact advanceRetention_compared free request clock
  | maintainRetention partition expectedCursor maxRecords maxPayloadBytes clock =>
      exact maintainRetention_compared free partition expectedCursor maxRecords maxPayloadBytes clock
  | beginAdministration intent => exact beginAdministration_compared free intent
  | _ => simp [GroupCommand.fenceClass] at included

theorem answersAlike_iff {exportId : ExportId} (included : command.fenceClass = .includedMutation)
    (whole : ∀ batch, command ≠ .publishMany batch) :
    (∀ result, db.view.replayIncludedCommand exportId command = .ok (some result) →
      db.AnswersAlike logId exportId command result) ↔ db.view.ChecksRetry command := by
  have alike (result : ApplyResult) : db.AnswersAlike logId exportId command result ↔
      db.unfenced.OnlyAnswers logId command result := by
    unfold AnswersAlike
    split
    · exact absurd rfl (whole _)
    · exact absurd rfl (whole _)
    · rfl
  have free := db.unfenced_unfences
  simp only [alike]
  rcases @included_compared logId command _ _ free exportId included whole with
    ⟨checks, repeats⟩ | ⟨unchecked, differs⟩
  · refine ⟨fun _ => checks, fun _ result replayed => onlyAnswers_of_reply ?_⟩
    rw [free.dispatched]
    exact repeats result replayed
  · refine ⟨fun answers => absurd ?_ differs, fun checks => absurd checks unchecked⟩
    intro result replayed
    obtain ⟨write, handled⟩ := (answers result replayed).handled
    rw [free.dispatched] at handled
    exact ⟨write, handled⟩

theorem replayPublishMany_item {view : GroupView} {exportId : ExportId}
    {batch : ReplicatedPublishBatch} {outcomes : List PublishItemOutcome}
    (replayed : view.replayPublishMany batch exportId = .publishedMany outcomes) {index : Nat}
    {publish : PublishBatch} (found : batch.requests[index]? = some publish) :
    outcomes[index]? = some (view.replayItem exportId publish).1 := by
  unfold replayPublishMany at replayed
  dsimp only at replayed
  split at replayed
  · simp only [ApplyResult.publishedMany.injEq] at replayed
    rw [← replayed]
    simp [found]
  · simp at replayed

theorem replayPublishMany_answers {view : GroupView} {exportId : ExportId}
    {batch : ReplicatedPublishBatch} {publish : PublishBatch} (member : publish ∈ batch.requests)
    (retried : view.Retried publish) :
    ∃ outcomes, view.replayPublishMany batch exportId = .publishedMany outcomes := by
  unfold replayPublishMany
  dsimp only
  rw [if_pos]
  · exact ⟨_, rfl⟩
  · rw [List.any_eq_true]
    refine ⟨_, List.mem_map.mpr ⟨publish, member, rfl⟩, ?_⟩
    rcases @replayItem_cases view exportId publish with ⟨fresh, _⟩ | ⟨answer, _, item⟩
    · exact absurd retried fresh
    · rw [item]

theorem unfenced_batch_retried {batch : ReplicatedPublishBatch} {publish : PublishBatch}
    (located : db.view.Located publish) {answer : Except DomainError PublishReceipt}
    (retry : db.view.RetryAnswer publish answer) {index : Nat}
    (found : batch.requests[index]? = some publish) {others : List PublishItemOutcome}
    {next : GroupDb}
    (done : db.unfenced.applyEntry ⟨logId, .normal (.publishMany batch)⟩ =
      .ok (.publishedMany others, next)) :
    others[index]? = some ⟨publish.request, answer⟩ := by
  have free := db.unfenced_unfences
  have freed : db.unfenced.view.RetryAnswer publish answer := by
    have receipt := free.same (.receipt publish.partition publish.request) (by simp)
    have session := free.same (sessionKey publish.partition publish.request) (by simp)
    cases retry with
    | stored outcome found => exact .stored outcome (receipt.trans found)
    | expired absent covered =>
        refine .expired (receipt.trans absent) ?_
        rw [publishSessionCovers, session]
        exact covered
  obtain ⟨kind, own, spec, started, same⟩ := (free.located publish).mpr located
  unfold applyEntry applyPayload at done
  dsimp only at done
  rw [free.dispatched] at done
  simp only [dispatch, applyPublishMany, started] at done
  rw [if_neg (by simpa using kind)] at done
  cases looped : db.unfenced.view.publishLoop logId spec.cluster batch.requests 0 0
      PublishApplyTxn.new with
  | error error =>
      rw [looped] at done
      simp at done
  | ok looped' =>
      obtain ⟨outcomes, txn⟩ := looped'
      rw [looped] at done
      simp only [Except.ok.injEq, Prod.mk.injEq, ApplyResult.publishedMany.injEq] at done
      rw [← done.1]
      exact publishLoop_retried same own freed PublishApplyTxn.new_sound
        (Undecided.start freed.retried) looped index found

theorem publishMany_answersAlike_iff {exportId : ExportId} (batch : ReplicatedPublishBatch) :
    db.AnswersAlike logId exportId (.publishMany batch)
        (db.view.replayPublishMany batch exportId) ↔
      db.view.ChecksRetry (.publishMany batch) := by
  have free := db.unfenced_unfences
  constructor
  · intro alike publish member retried
    obtain ⟨outcomes, replayed⟩ := @replayPublishMany_answers _ exportId _ _ member retried
    rw [replayed] at alike
    obtain ⟨index, found⟩ := List.mem_iff_getElem?.mp member
    have outcome := replayPublishMany_item replayed found
    rcases @replayItem_cases db.view exportId publish with ⟨fresh, _⟩ | ⟨answer, retry, item⟩
    · exact absurd retried fresh
    rw [item] at outcome
    obtain ⟨alone, _⟩ := alike index publish _ found outcome retry.settled
    obtain ⟨write, handled⟩ := alone.handled
    rw [free.dispatched] at handled
    by_contra misplaced
    exact applyPublishMany_misplaced free misplaced retry write handled
  · intro checks
    cases replayed : db.view.replayPublishMany batch exportId with
    | publishedMany outcomes =>
        intro index publish outcome found placed different
        have outcomeIs := replayPublishMany_item replayed found
        rw [placed] at outcomeIs
        cases outcomeIs
        rcases @replayItem_cases db.view exportId publish with ⟨_, item⟩ | ⟨answer, retry, item⟩
        · rw [item] at different
          exact absurd rfl different
        rw [item]
        have located := checks publish (List.mem_of_getElem? found) retry.retried
        constructor
        · refine onlyAnswers_of_reply ?_
          rw [free.dispatched]
          exact applyPublishMany_single free located retry
        · intro others next done
          exact unfenced_batch_retried located retry found done
    | _ => trivial

/-- While an export fence is held, an included command answers as it would without the fence
exactly if its handler's own checks pass wherever the fenced lookup answers. -/
theorem fenced_replay_agrees (db : GroupDb) (logId : GroupLogId) (command : GroupCommand)
    (held : HeldExportFence) (fenced : db.view.mutationFenceState.held = some held)
    (included : command.fenceClass = .includedMutation) :
    db.ReplaysAlike logId held.token.exportId command ↔ db.view.ChecksRetry command := by
  have alike : db.ReplaysAlike logId held.token.exportId command ↔
      ∀ result, db.view.replayIncludedCommand held.token.exportId command = .ok (some result) →
        db.AnswersAlike logId held.token.exportId command result := by
    constructor
    · intro replays result replayed
      exact (replays.answered result replayed).2
    · intro answers
      constructor
      · intro replayed
        refine onlyAnswers_of_reply ?_
        unfold applyCommand
        rw [if_pos included, fenced]
        dsimp only
        rw [replayed]
        rfl
      · intro result replayed
        refine ⟨onlyAnswers_of_reply ?_, answers result replayed⟩
        unfold applyCommand
        rw [if_pos included, fenced]
        dsimp only
        rw [replayed]
  rw [alike]
  by_cases whole : ∀ batch, command ≠ .publishMany batch
  · exact answersAlike_iff included whole
  · simp only [not_forall, not_not] at whole
    obtain ⟨batch, rfl⟩ := whole
    rw [← @publishMany_answersAlike_iff db logId held.token.exportId batch]
    simp only [replayIncludedCommand, Except.ok.injEq, Option.some.injEq, forall_eq']

def fencedBookmark : List GroupEntry :=
  [⟨⟨1, 1, 1⟩, .normal (.bootstrapData sampleSpec)⟩,
    ⟨⟨1, 1, 2⟩, .normal (.createBookmark (.uuid 1) samplePartition ⟨"mark"⟩ 0)⟩,
    ⟨⟨1, 1, 3⟩, .normal (.exportProtocol (.acquireFence sampleToken))⟩]

def bookmarkRetry (offset : Nat) : GroupCommand :=
  .createBookmark (.uuid 1) samplePartition ⟨"mark"⟩ offset

theorem fencedBookmark_ran : ∃ db held,
    Ran freshData.identity 2 (fun _ => [7]) (fun _ _ => True) fencedBookmark db ∧
    db.view.mutationFenceState.held = some held ∧
    (db.view.get (.bookmarkId (.uuid 1))).isSome = true ∧
    db.view.identity.kind = .data ∧ db.view.nextOffsetOf samplePartition = 0 := by
  have kept : freshData.leaves fencedBookmark (fun db =>
      db.view.mutationFenceState.held.isSome &&
          (db.view.get (.bookmarkId (.uuid 1))).isSome && decide (db.view.identity.kind = .data) &&
          decide (db.view.nextOffsetOf samplePartition = 0)) = true := by decide
  obtain ⟨results, db, submitted, kept⟩ := leaves_iff.mp kept
  simp only [Bool.and_eq_true, decide_eq_true_eq] at kept
  obtain ⟨⟨⟨fenced, stored⟩, kind⟩, empty⟩ := kept
  obtain ⟨held, fenced⟩ := Option.isSome_iff_exists.mp fenced
  have ran : Ran freshData.identity 2 (fun _ => [7]) (fun _ _ => True) ([] ++ fencedBookmark)
      db :=
    Ran.submitAll .created (create_usedBelow _ _) (by decide) (by decide)
      (fun _ _ _ => trivial) submitted
  rw [List.nil_append] at ran
  exact ⟨db, held, ran, fenced, stored, kind, empty⟩

/-- The bookmark command at its own offset repeats, also while the fence is held. -/
theorem fenced_replay_agrees_retry : ∃ db held,
    Ran freshData.identity 2 (fun _ => [7]) (fun _ _ => True) fencedBookmark db ∧
    db.view.mutationFenceState.held = some held ∧
    db.ReplaysAlike ⟨1, 1, 4⟩ held.token.exportId (bookmarkRetry 0) := by
  obtain ⟨db, held, ran, fenced, _, kind, _⟩ := fencedBookmark_ran
  refine ⟨db, held, ran, fenced, ?_⟩
  refine (fenced_replay_agrees db ⟨1, 1, 4⟩ (bookmarkRetry 0) held fenced rfl).mpr ?_
  exact fun _ => ⟨kind, Nat.zero_le _⟩

/-- The bookmark command at an offset past the tail is a name conflict while the fence is held,
and out of range otherwise. -/
theorem fenced_replay_skips_checks : ∃ db held,
    Ran freshData.identity 2 (fun _ => [7]) (fun _ _ => True) fencedBookmark db ∧
    db.view.mutationFenceState.held = some held ∧
    ¬db.ReplaysAlike ⟨1, 1, 4⟩ held.token.exportId (bookmarkRetry 5) := by
  obtain ⟨db, held, ran, fenced, stored, _, empty⟩ := fencedBookmark_ran
  refine ⟨db, held, ran, fenced, fun replays => ?_⟩
  have checks : db.view.ChecksRetry (bookmarkRetry 5) :=
    (@answersAlike_iff db ⟨1, 1, 4⟩ _ held.token.exportId rfl (by simp [bookmarkRetry])).mp
      fun result replayed => (replays.answered result replayed).2
  have tail := (checks stored).2
  rw [empty] at tail
  omega

end GroupDb

end LightStream
