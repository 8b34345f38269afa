import LightStream.Proofs.Replay

/-!
A held fence answers the retries of included commands by a lookup of its own.  It agrees with the
handlers exactly where the checks that they make ahead of their lookup pass.
-/

namespace LightStream

namespace GroupView

variable {view other : GroupView} {logId : GroupLogId} {exportId : ExportId}

structure Unfences (view other : GroupView) : Prop where
  identity : other.identity = view.identity
  same : ∀ key : StateKey, key ≠ .mutationFence → other.get key = view.get key
  present : (other.get .mutationFence).isSome = true
  unheld : other.mutationFenceState.held = none

theorem Unfences.dispatched (free : view.Unfences other) (command : GroupCommand) :
    other.applyCommand logId command = other.dispatch logId command := by
  unfold applyCommand
  rw [free.unheld]
  split <;> rfl

def Retried (view : GroupView) (batch : PublishBatch) : Prop :=
  (view.get (.receipt batch.partition batch.request)).isSome = true ∨
    view.publishSessionCovers batch = true

def Located (view : GroupView) (batch : PublishBatch) : Prop :=
  view.identity.kind = .data ∧ batch.cluster = view.identity.clusterId ∧
    ∃ spec, view.get .bootstrap = some spec ∧ batch.cluster = spec.cluster

/-- A receipt that `apply_publish` decodes, and whose bookmark is the one of the retry. -/
def ReadsAlike (batch : PublishBatch) : StoredPublishOutcome → Prop
  | .versioned _ => False
  | .legacy stored => stored.fingerprint = legacyFingerprint batch →
      stored.receipt.bookmark.map CommittedBookmark.name = batch.bookmark

def retentionMisrouted : DomainError :=
  .identityMismatch "retention command reached the control group"

/-- The checks that a handler makes before it looks for a retry pass wherever there is one. -/
def ChecksRetry (view : GroupView) : GroupCommand → Prop
  | .bootstrapControl spec _ _ dataGroups maxStreams maxPartitions =>
      (view.identity.kind = .control → (view.get .bootstrap).isSome = true) →
        dataGroups ≠ [] ∧ maxStreams ≠ 0 ∧ maxPartitions ≠ 0 ∧ controlGroupId ∉ dataGroups ∧
          (view.identity.kind = .control → spec.cluster = view.identity.clusterId ∧
            (view.get .bootstrap = some spec → (view.get .dataGroupPool).isSome = true))
  | .bootstrapData spec =>
      view.identity.kind = .data → (view.get .bootstrap).isSome = true →
        spec.cluster = view.identity.clusterId
  | .createStreamIntent spec _ => ∀ existing,
      view.get (.createIntent spec.requestId) = some existing →
      (existing.spec = spec → (view.get (.stream existing.streamId)).isSome = true) →
        view.identity.kind = .control ∧ (view.get .bootstrap).isSome = true
  | .replicaReady streamId groupId => ∀ descriptor,
      view.get (.stream streamId) = some descriptor → descriptor.lifecycle = .preparing →
        groupId ∈ descriptor.readyGroups →
        ∃ placement ∈ descriptor.placements, placement.group = groupId
  | .publish batch =>
      view.Retried batch → view.Located batch ∧ ∀ stored,
        view.get (.receipt batch.partition batch.request) = some stored → ReadsAlike batch stored
  | .publishMany batch => ∀ publish ∈ batch.requests, view.Retried publish → view.Located publish
  | .createBookmark id partition _ offset =>
      (view.get (.bookmarkId id)).isSome = true →
        view.identity.kind = .data ∧ offset ≤ view.nextOffsetOf partition
  | .createStreamBookmark id _ vector =>
      (view.get (.streamBookmarkId id)).isSome = true →
        view.identity.kind = .control ∧ vector.cluster = view.identity.clusterId ∧
          ∃ stream, view.get (.stream vector.stream) = some stream ∧ stream.lifecycle = .active ∧
            coversPartitions stream vector = true
  | .advanceRetention request _ =>
      ((view.get (.mutationReceipt request.request)).isSome = true ∨
        ((view.get (mutationSessionKey request.request)).getD SessionState.default).covers
          request.request.sequence = true) →
        view.identity.kind = .data ∨ view.get (.mutationReceipt request.request) =
          some ⟨.retention request, .rejected retentionMisrouted⟩
  | .maintainRetention partition expectedCursor maxRecords maxPayloadBytes _ =>
      (view.retentionOf partition).reclaimCursor ≠ expectedCursor →
        maxRecords ≠ 0 ∧ maxPayloadBytes ≠ 0
  | .beginAdministration intent =>
      (view.get (.administrationRequest intent.request)).isSome = true →
        view.identity.kind = .control
  | _ => True

/-- The handler answers a retry as the fenced lookup does, without writing. -/
def Repeats (view other : GroupView) (logId : GroupLogId) (exportId : ExportId)
    (command : GroupCommand) : Prop :=
  ∀ result, view.replayIncludedCommand exportId command = .ok (some result) →
    other.dispatch logId command = reply result []

def Echoes (view other : GroupView) (logId : GroupLogId) (exportId : ExportId)
    (command : GroupCommand) : Prop :=
  ∀ result, view.replayIncludedCommand exportId command = .ok (some result) →
    ∃ write, other.dispatch logId command = .ok (result, write)

def Compared (view other : GroupView) (logId : GroupLogId) (exportId : ExportId)
    (command : GroupCommand) : Prop :=
  view.ChecksRetry command ∧ view.Repeats other logId exportId command ∨
    ¬view.ChecksRetry command ∧ ¬view.Echoes other logId exportId command

section Compared

variable {command : GroupCommand} {result : ApplyResult}

theorem Compared.unanswered (checks : view.ChecksRetry command)
    (silent : ∀ result, view.replayIncludedCommand exportId command ≠ .ok (some result)) :
    view.Compared other logId exportId command :=
  .inl ⟨checks, fun result replayed => absurd replayed (silent result)⟩

theorem Compared.repeats (checks : view.ChecksRetry command)
    (replayed : view.replayIncludedCommand exportId command = .ok (some result))
    (answered : other.dispatch logId command = reply result []) :
    view.Compared other logId exportId command := by
  refine .inl ⟨checks, fun another same => ?_⟩
  rw [replayed] at same
  cases same
  exact answered

theorem Compared.diverges (unchecked : ¬view.ChecksRetry command)
    (replayed : view.replayIncludedCommand exportId command = .ok (some result))
    (different : ∀ write, other.dispatch logId command ≠ .ok (result, write)) :
    view.Compared other logId exportId command := by
  refine .inr ⟨unchecked, fun echoes => ?_⟩
  obtain ⟨write, done⟩ := echoes result replayed
  exact different write done

end Compared

section Catalog

variable (free : view.Unfences other)
include free

theorem createBookmark_compared (id : BookmarkId) (partition : PartitionKey) (name : BookmarkName)
    (offset : Nat) :
    view.Compared other logId exportId (.createBookmark id partition name offset) := by
  have stored := free.same (.bookmarkId id) (by simp)
  have next := free.same (.nextOffset partition) (by simp)
  cases found : view.get (.bookmarkId id) with
  | none =>
      refine .unanswered ?_ ?_
      · simp [ChecksRetry, found]
      · simp [replayIncludedCommand, found]
  | some existing =>
      rw [found] at stored
      have replayed : view.replayIncludedCommand exportId (.createBookmark id partition name offset) =
          .ok (some (if existing.name = name ∧ existing.cursor.partition = partition ∧
            existing.cursor.nextOffset = offset then .bookmark existing
            else .rejected .bookmarkNameConflict)) := by
        rw [replayIncludedCommand, found]
        rfl
      by_cases checks : view.ChecksRetry (.createBookmark id partition name offset)
      · refine .repeats checks replayed ?_
        obtain ⟨kind, tail⟩ := checks (by rw [found]; rfl)
        rw [nextOffsetOf] at tail
        simp only [dispatch, applyCreateBookmark, createBookmarkRecord, free.identity, kind, next,
          stored]
        rw [if_neg (by simp), if_neg (by omega)]
        split <;> rfl
      · refine .diverges checks replayed ?_
        simp only [ChecksRetry, found, Option.isSome_some, forall_const, not_and_or, Nat.not_le,
          nextOffsetOf] at checks
        intro write
        simp only [dispatch, applyCreateBookmark, createBookmarkRecord, free.identity, next, stored]
        by_cases kind : view.identity.kind = .data
        · rw [if_neg (by simpa using kind), if_pos (checks.resolve_left (by simpa using kind))]
          split <;> simp [reject, reply]
        · rw [if_pos kind]
          split <;> simp [reject, reply]

theorem createStreamBookmark_compared (id : BookmarkId) (name : BookmarkName)
    (vector : StreamCursorVector) :
    view.Compared other logId exportId (.createStreamBookmark id name vector) := by
  have stored := free.same (.streamBookmarkId id) (by simp)
  have stream := free.same (.stream vector.stream) (by simp)
  cases found : view.get (.streamBookmarkId id) with
  | none =>
      refine .unanswered ?_ ?_
      · simp [ChecksRetry, found]
      · simp [replayIncludedCommand, found]
  | some existing =>
      rw [found] at stored
      have replayed : view.replayIncludedCommand exportId (.createStreamBookmark id name vector) =
          .ok (some (if existing.name = name ∧ existing.vector = vector then
            .streamBookmark existing else .rejected .bookmarkNameConflict)) := by
        rw [replayIncludedCommand, found]
        rfl
      by_cases checks : view.ChecksRetry (.createStreamBookmark id name vector)
      · refine .repeats checks replayed ?_
        obtain ⟨kind, cluster, descriptor, streamed, active, covers⟩ := checks (by rw [found]; rfl)
        rw [streamed] at stream
        simp only [dispatch, applyCreateStreamBookmark, free.identity, kind, cluster, stream, stored,
          active, covers]
        rw [if_neg (by simp), if_neg (by simp), if_neg (by simp), if_neg (by simp)]
        split <;> rfl
      · refine .diverges checks replayed ?_
        intro write done
        refine checks fun _ => ?_
        simp only [dispatch, applyCreateStreamBookmark, free.identity, stream, stored] at done
        split at done
        · split at done <;> simp [reject, reply] at done
        rename_i kind
        split at done
        · split at done <;> simp [reject, reply] at done
        rename_i cluster
        split at done
        · split at done <;> simp [reject, reply] at done
        rename_i descriptor streamed
        split at done
        · split at done <;> simp [reject, reply] at done
        rename_i active
        split at done
        · split at done <;> simp [reject, reply] at done
        rename_i covers
        exact ⟨by simpa using kind, by simpa using cluster, descriptor, streamed, by simpa using active,
          by simpa using covers⟩

theorem deleteBookmark_compared (partition : PartitionKey) (id : BookmarkId) :
    view.Compared other logId exportId (.deleteBookmark partition id) := by
  have stored := free.same (.bookmarkId id) (by simp)
  refine .inl ⟨trivial, fun result replayed => ?_⟩
  simp only [replayIncludedCommand, Except.ok.injEq, Option.map_eq_some_iff,
    Option.filter_eq_some_iff, decide_eq_true_eq] at replayed
  obtain ⟨bookmark, ⟨found, own, deleted⟩, rfl⟩ := replayed
  rw [found] at stored
  simp only [dispatch, applyDeleteBookmark, stored]
  rw [if_neg (by simpa using own), if_pos deleted]

theorem deleteStreamBookmark_compared (streamId : StreamId) (id : BookmarkId) :
    view.Compared other logId exportId (.deleteStreamBookmark streamId id) := by
  have stored := free.same (.streamBookmarkId id) (by simp)
  refine .inl ⟨trivial, fun result replayed => ?_⟩
  simp only [replayIncludedCommand, Except.ok.injEq, Option.map_eq_some_iff,
    Option.filter_eq_some_iff, decide_eq_true_eq] at replayed
  obtain ⟨bookmark, ⟨found, own, deleted⟩, rfl⟩ := replayed
  rw [found] at stored
  simp only [dispatch, applyDeleteStreamBookmark, stored]
  rw [if_neg (by simpa using own), if_pos deleted]

theorem replayStream_some {streamId : StreamId} {settled : StreamDescriptor → Bool}
    {result : ApplyResult} (replayed : view.replayStream streamId settled = some result) :
    ∃ descriptor, other.get (.stream streamId) = some descriptor ∧ settled descriptor = true ∧
      result = .stream descriptor := by
  simp only [replayStream, Option.map_eq_some_iff, Option.filter_eq_some_iff] at replayed
  obtain ⟨descriptor, ⟨found, holds⟩, rfl⟩ := replayed
  exact ⟨descriptor, (free.same _ (by simp)).trans found, holds, rfl⟩

theorem activateStream_compared (streamId : StreamId) :
    view.Compared other logId exportId (.activateStream streamId) := by
  refine .inl ⟨trivial, fun result replayed => ?_⟩
  simp only [replayIncludedCommand, Except.ok.injEq] at replayed
  obtain ⟨descriptor, found, active, rfl⟩ := replayStream_some free replayed
  simp only [decide_eq_true_eq] at active
  simp only [dispatch, applyActivateStream, found]
  rw [if_pos active]

theorem beginDeleteStream_compared (streamId : StreamId) :
    view.Compared other logId exportId (.beginDeleteStream streamId) := by
  refine .inl ⟨trivial, fun result replayed => ?_⟩
  simp only [replayIncludedCommand, Except.ok.injEq] at replayed
  obtain ⟨descriptor, found, ended, rfl⟩ := replayStream_some free replayed
  simp only [Bool.or_eq_true, decide_eq_true_eq] at ended
  simp only [dispatch, applyBeginDelete, found]
  rw [if_pos ended]

theorem finishDeleteStream_compared (streamId : StreamId) :
    view.Compared other logId exportId (.finishDeleteStream streamId) := by
  refine .inl ⟨trivial, fun result replayed => ?_⟩
  simp only [replayIncludedCommand, Except.ok.injEq] at replayed
  obtain ⟨descriptor, found, deleted, rfl⟩ := replayStream_some free replayed
  simp only [decide_eq_true_eq] at deleted
  simp only [dispatch, applyFinishDelete, found]
  rw [if_pos deleted]

theorem replicaReady_compared (streamId : StreamId) (groupId : GroupId) :
    view.Compared other logId exportId (.replicaReady streamId groupId) := by
  have stored := free.same (.stream streamId) (by simp)
  cases found : view.get (.stream streamId) with
  | none =>
      refine .unanswered ?_ ?_
      · simp [ChecksRetry, found]
      · simp [replayIncludedCommand, replayStream, found]
  | some descriptor =>
      rw [found] at stored
      by_cases settled : descriptor.lifecycle ≠ .preparing ∨ groupId ∈ descriptor.readyGroups
      · have replayed : view.replayIncludedCommand exportId (.replicaReady streamId groupId) =
            .ok (some (.stream descriptor)) := by
          rw [replayIncludedCommand, replayStream, found]
          simp [Option.filter, settled]
        by_cases checks : view.ChecksRetry (.replicaReady streamId groupId)
        · refine .repeats checks replayed ?_
          simp only [dispatch, applyReplicaReady, stored]
          split
          · rfl
          rename_i preparing
          have ready := settled.resolve_left preparing
          rw [if_neg (not_not.mpr (checks descriptor found (by simpa using preparing) ready)),
            if_pos ready]
        · refine .diverges checks replayed ?_
          simp only [ChecksRetry, found, Option.some.injEq, forall_eq', not_forall] at checks
          obtain ⟨preparing, _, unplaced⟩ := checks
          intro write
          simp only [dispatch, applyReplicaReady, stored]
          rw [if_neg (by simp [preparing]), if_pos unplaced]
          simp [reject, reply]
      · refine .unanswered ?_ ?_
        · intro another same preparing ready
          rw [found] at same
          cases same
          exact absurd (.inr ready) settled
        · rw [not_or] at settled
          simp [replayIncludedCommand, replayStream, found, Option.filter, settled]

theorem createStreamIntent_compared (spec : CreateStreamSpec) (streamId : StreamId) :
    view.Compared other logId exportId (.createStreamIntent spec streamId) := by
  have stored := free.same (.createIntent spec.requestId) (by simp)
  have bootstrap := free.same .bootstrap (by simp)
  cases found : view.get (.createIntent spec.requestId) with
  | none =>
      refine .unanswered ?_ ?_
      · simp [ChecksRetry, found]
      · simp [replayIncludedCommand, found]
  | some existing =>
      rw [found] at stored
      have target := free.same (.stream existing.streamId) (by simp)
      by_cases missing : existing.spec = spec ∧ view.get (.stream existing.streamId) = none
      · refine .unanswered ?_ ?_
        · intro another same present
          rw [found] at same
          cases same
          have there := present missing.1
          rw [missing.2] at there
          simp at there
        · simp [replayIncludedCommand, found, missing]
      obtain ⟨result, replayed, settled⟩ : ∃ result,
          view.replayIncludedCommand exportId (.createStreamIntent spec streamId) =
            .ok (some result) ∧
          ((existing.spec ≠ spec ∧ result = .rejected (.bootstrapConflict
              "catalog request identity was reused with different intent")) ∨
            existing.spec = spec ∧ ∃ descriptor,
              view.get (.stream existing.streamId) = some descriptor ∧
                result = .stream descriptor) := by
        rw [replayIncludedCommand, found]
        dsimp only
        by_cases same : existing.spec = spec
        · rw [if_neg (by simpa using same)]
          cases there : view.get (.stream existing.streamId) with
          | none => exact absurd ⟨same, there⟩ missing
          | some descriptor => exact ⟨_, rfl, .inr ⟨same, descriptor, rfl, rfl⟩⟩
        · rw [if_pos same]
          exact ⟨_, rfl, .inl ⟨same, rfl⟩⟩
      have present : existing.spec = spec →
          (view.get (.stream existing.streamId)).isSome = true := by
        intro same
        rcases settled with ⟨different, _⟩ | ⟨_, descriptor, there, _⟩
        · exact absurd same different
        · rw [there]
          rfl
      by_cases checks : view.ChecksRetry (.createStreamIntent spec streamId)
      · refine .repeats checks replayed ?_
        obtain ⟨kind, started⟩ := checks existing found present
        obtain ⟨first, started⟩ := Option.isSome_iff_exists.mp started
        rw [started] at bootstrap
        simp only [dispatch, applyCreateStream, free.identity, bootstrap, stored]
        rw [if_neg (by simpa using kind)]
        rcases settled with ⟨different, rfl⟩ | ⟨same, descriptor, there, rfl⟩
        · rw [if_pos different]
          rfl
        · rw [if_neg (by simpa using same), target, there]
      · refine .diverges checks replayed ?_
        intro write done
        refine checks fun another same _ => ?_
        simp only [dispatch, applyCreateStream, free.identity, bootstrap] at done
        split at done
        · rcases settled with ⟨_, rfl⟩ | ⟨_, _, _, rfl⟩ <;> simp [reject, reply] at done
        rename_i kind
        split at done
        · rcases settled with ⟨_, rfl⟩ | ⟨_, _, _, rfl⟩ <;> simp [reject, reply] at done
        rename_i first started
        exact ⟨by simpa using kind, by rw [started]; rfl⟩

theorem bootstrapData_compared (spec : BootstrapSpec) :
    view.Compared other logId exportId (.bootstrapData spec) := by
  have stored := free.same .bootstrap (by simp)
  obtain ⟨fence, present⟩ := Option.isSome_iff_exists.mp free.present
  by_cases kind : view.identity.kind = .data
  · cases found : view.get .bootstrap with
    | none =>
        refine .unanswered ?_ ?_
        · simp [ChecksRetry, found]
        · simp [replayIncludedCommand, replayBootstrap, kind, found]
    | some existing =>
        rw [found] at stored
        have replayed : view.replayIncludedCommand exportId (.bootstrapData spec) =
            .ok (some (if existing ≠ spec then
              .rejected (.bootstrapConflict "bootstrap stream identity differs")
              else bootstrapResult spec)) := by
          simp only [replayIncludedCommand, replayBootstrap, found]
          rw [if_neg (by simpa using kind)]
          split <;> rfl
        by_cases cluster : spec.cluster = view.identity.clusterId
        · refine .repeats (fun _ _ => cluster) replayed ?_
          simp only [dispatch, applyBootstrap, free.identity, stored, present]
          rw [if_neg (by simpa using kind), if_neg (by simpa using cluster)]
          split <;> rfl
        · refine .diverges (fun checks => cluster (checks kind (by rw [found]; rfl))) replayed ?_
          intro write
          simp only [dispatch, applyBootstrap, free.identity, stored, present]
          rw [if_neg (by simpa using kind), if_pos cluster]
          split <;> simp [reject, reply, bootstrapResult]
  · have replayed : view.replayIncludedCommand exportId (.bootstrapData spec) =
        .ok (some (.rejected (wrongKind .data view.identity.kind))) := by
      simp only [replayIncludedCommand, replayBootstrap]
      rw [if_pos kind]
    refine .repeats (fun own => absurd own kind) replayed ?_
    simp only [dispatch, applyBootstrap, free.identity]
    rw [if_pos kind]
    rfl

theorem bootstrapControl_compared (spec : BootstrapSpec) (topology : Option ClusterTopology)
    (security : Option SecurityPolicy) (dataGroups : List GroupId)
    (maxStreams maxPartitions : Nat) :
    view.Compared other logId exportId
      (.bootstrapControl spec topology security dataGroups maxStreams maxPartitions) := by
  have stored := free.same .bootstrap (by simp)
  have pool := free.same .dataGroupPool (by simp)
  have same : other.SameConfiguration topology security dataGroups maxStreams maxPartitions ↔
      view.SameConfiguration topology security dataGroups maxStreams maxPartitions := by
    simp only [SameConfiguration, free.same .dataGroupPool (by simp),
      free.same .clusterTopology (by simp), free.same .securityPolicy (by simp),
      free.same .maxStreams (by simp), free.same .maxPartitions (by simp)]
  obtain ⟨fence, present⟩ := Option.isSome_iff_exists.mp free.present
  by_cases fresh : view.identity.kind = .control ∧ view.get .bootstrap = none
  · refine .unanswered ?_ ?_
    · intro known
      have found := known fresh.1
      rw [fresh.2] at found
      simp at found
    · simp [replayIncludedCommand, replayBootstrap, fresh.1, fresh.2]
  obtain ⟨result, replayed, shape⟩ : ∃ result, view.replayIncludedCommand exportId
      (.bootstrapControl spec topology security dataGroups maxStreams maxPartitions) =
        .ok (some result) ∧
      (view.identity.kind ≠ .control ∧
          result = .rejected (wrongKind .control view.identity.kind) ∨
        view.identity.kind = .control ∧ ∃ existing, view.get .bootstrap = some existing ∧
          result = if existing ≠ spec then
              .rejected (.bootstrapConflict "bootstrap stream identity differs")
            else if view.SameConfiguration topology security dataGroups maxStreams maxPartitions then
              bootstrapResult spec
            else .rejected configurationDiffers) := by
    by_cases kind : view.identity.kind = .control
    · cases found : view.get .bootstrap with
      | none => exact absurd ⟨kind, found⟩ fresh
      | some existing =>
          simp only [replayIncludedCommand, replayBootstrap, found]
          rw [if_neg (by simpa using kind)]
          refine ⟨_, ?_, .inr ⟨kind, existing, rfl, rfl⟩⟩
          split <;> rfl
    · simp only [replayIncludedCommand, replayBootstrap]
      rw [if_pos kind]
      exact ⟨_, rfl, .inl ⟨kind, rfl⟩⟩
  have known : view.identity.kind = .control → (view.get .bootstrap).isSome = true := by
    intro kind
    rcases shape with ⟨other, _⟩ | ⟨_, existing, found, _⟩
    · exact absurd kind other
    · rw [found]
      rfl
  have plain : ∀ reason, result ≠ .rejected (.invalidRange reason) := by
    intro reason
    rcases shape with ⟨_, rfl⟩ | ⟨_, existing, _, rfl⟩
    · simp [wrongKind]
    · split
      · simp
      · split <;> simp [bootstrapResult, configurationDiffers]
  cases dataGroups with
  | nil =>
      refine .diverges (fun checks => (checks known).1 rfl) replayed ?_
      rintro write done
      cases done
      exact plain _ rfl
  | cons group rest =>
      by_cases invalid : maxStreams = 0 ∨ maxPartitions = 0 ∨ controlGroupId ∈ group :: rest
      · refine .diverges (fun checks => ?_) replayed ?_
        · obtain ⟨_, streams, partitions, control, _⟩ := checks known
          tauto
        · intro write done
          simp only [dispatch, applyBootstrapControl] at done
          rw [if_pos invalid] at done
          cases done
          exact plain _ rfl
      have valid := invalid
      simp only [not_or] at valid
      rcases shape with ⟨kind, rfl⟩ | ⟨kind, existing, found, rfl⟩
      · refine .repeats (fun _ => ?_) replayed ?_
        · exact ⟨by simp, valid.1, valid.2.1, valid.2.2, fun own => absurd own kind⟩
        · simp only [dispatch, applyBootstrapControl, applyBootstrap, free.identity]
          rw [if_neg invalid, if_pos kind]
          rfl
      rw [found] at stored
      by_cases cluster : spec.cluster = view.identity.clusterId
      · by_cases own : existing = spec
        · subst own
          rw [if_neg (by simp)] at replayed
          cases configured : view.get .dataGroupPool with
          | none =>
              rw [configured] at pool
              have differs : ¬view.SameConfiguration topology security (group :: rest) maxStreams
                  maxPartitions := by
                rintro ⟨same, _⟩
                rw [configured] at same
                simp at same
              rw [if_neg differs] at replayed
              refine .diverges (fun checks => ?_) replayed ?_
              · have there := (checks known).2.2.2.2 kind |>.2 found
                rw [configured] at there
                simp at there
              · intro write
                simp only [dispatch, applyBootstrapControl, applyBootstrap, free.identity, stored,
                  present, pool]
                rw [if_neg invalid, if_neg (by simpa using kind), if_neg (by simpa using cluster),
                  if_neg (by simp)]
                simp only [reply, bootstrapResult]
                split
                · simp [configurationDiffers]
                · split <;> simp [configurationDiffers]
          | some groups =>
              rw [configured] at pool
              refine .repeats (fun _ => ?_) replayed ?_
              · refine ⟨by simp, valid.1, valid.2.1, valid.2.2, fun _ => ⟨cluster, fun _ => ?_⟩⟩
                rw [configured]
                rfl
              · simp only [dispatch, applyBootstrapControl, applyBootstrap, free.identity, stored,
                  present, pool, same]
                rw [if_neg invalid, if_neg (by simpa using kind), if_neg (by simpa using cluster),
                  if_neg (by simp)]
                simp only [reply, bootstrapResult]
                split <;> rfl
        · rw [if_pos own] at replayed
          refine .repeats (fun _ => ?_) replayed ?_
          · refine ⟨by simp, valid.1, valid.2.1, valid.2.2, fun _ => ⟨cluster, fun equal => ?_⟩⟩
            rw [found] at equal
            exact absurd (Option.some.inj equal) own
          · simp only [dispatch, applyBootstrapControl, applyBootstrap, free.identity, stored,
              present]
            rw [if_neg invalid, if_neg (by simpa using kind), if_neg (by simpa using cluster),
              if_pos own]
            rfl
      · refine .diverges (fun checks => cluster ((checks known).2.2.2.2 kind).1) replayed ?_
        intro write
        simp only [dispatch, applyBootstrapControl, applyBootstrap, free.identity, stored, present]
        rw [if_neg invalid, if_neg (by simpa using kind), if_pos cluster]
        simp only [reject, reply]
        split
        · simp
        · split <;> simp [bootstrapResult, configurationDiffers]

theorem advanceRetention_compared (request : RetentionRequest) (clock : ClockObservation) :
    view.Compared other logId exportId (.advanceRetention request clock) := by
  have prior : other.priorMutationResult request.request (.retention request) =
      view.priorMutationResult request.request (.retention request) := by
    simp only [priorMutationResult, free.same (.mutationReceipt request.request) (by simp),
      free.same (mutationSessionKey request.request) (by simp)]
  cases found : view.priorMutationResult request.request (.retention request) with
  | none =>
      refine .unanswered ?_ ?_
      · intro known
        rw [priorMutationResult] at found
        split at found
        · split at found <;> simp at found
        rename_i absent
        split at found
        · simp at found
        rename_i uncovered
        simp [absent, uncovered] at known
      · simp [replayIncludedCommand, found]
  | some result =>
      rw [found] at prior
      have replayed : view.replayIncludedCommand exportId (.advanceRetention request clock) =
          .ok (some result) := by
        rw [replayIncludedCommand, found]
      by_cases kind : view.identity.kind = .data
      · refine .repeats (fun _ => .inl kind) replayed ?_
        simp only [dispatch, applyAdvanceRetention, free.identity, prior]
        rw [if_neg (by simpa using kind)]
      have handled : other.dispatch logId (.advanceRetention request clock) =
          reject retentionMisrouted := by
        simp only [dispatch, applyAdvanceRetention, free.identity]
        rw [if_pos kind]
        rfl
      by_cases recorded : view.get (.mutationReceipt request.request) =
          some ⟨.retention request, .rejected retentionMisrouted⟩
      · refine .repeats (fun _ => .inr recorded) replayed ?_
        rw [priorMutationResult, recorded] at found
        dsimp only at found
        rw [if_pos rfl] at found
        cases found
        exact handled
      · refine .diverges (fun checks => ?_) replayed ?_
        · refine (checks ?_).elim kind recorded
          rw [priorMutationResult] at found
          split at found
          · rename_i existing there
            exact .inl (by rw [there]; rfl)
          · split at found
            · rename_i covered
              exact .inr covered
            · simp at found
        · rintro write done
          rw [handled] at done
          cases done
          rw [priorMutationResult] at found
          split at found
          · rename_i existing there
            split at found
            · rename_i own
              obtain ⟨fingerprint, answer⟩ := existing
              simp only [Option.some.injEq] at found own
              exact recorded (by rw [there, own, found])
            · simp [retentionMisrouted] at found
          · split at found <;> simp [retentionMisrouted] at found

theorem maintainRetention_compared (partition : PartitionKey)
    (expectedCursor maxRecords maxPayloadBytes : Nat) (clock : ClockObservation) :
    view.Compared other logId exportId
      (.maintainRetention partition expectedCursor maxRecords maxPayloadBytes clock) := by
  have stored : other.retentionOf partition = view.retentionOf partition := by
    rw [retentionOf, retentionOf, free.same _ (by simp)]
  by_cases moved : (view.retentionOf partition).reclaimCursor ≠ expectedCursor
  · have replayed : view.replayIncludedCommand exportId
        (.maintainRetention partition expectedCursor maxRecords maxPayloadBytes clock) =
          .ok (some (retentionStatus partition (view.retentionOf partition))) := by
      simp only [replayIncludedCommand]
      rw [if_pos moved]
    by_cases limits : maxRecords = 0 ∨ maxPayloadBytes = 0
    · refine .diverges (fun checks => ?_) replayed ?_
      · have fine := checks moved
        omega
      · intro write
        simp only [dispatch, applyMaintainRetention]
        rw [if_pos limits]
        simp [reject, reply, retentionStatus]
    · rw [not_or] at limits
      refine .repeats (fun _ => limits) replayed ?_
      simp only [dispatch, applyMaintainRetention, stored]
      rw [if_neg (by simpa using limits), if_pos moved]
  · refine .unanswered (fun other => absurd other moved) ?_
    simp only [replayIncludedCommand]
    rw [if_neg moved]
    simp

theorem beginAdministration_compared (intent : AdministrationIntent) :
    view.Compared other logId exportId (.beginAdministration intent) := by
  have stored := free.same (.administrationRequest intent.request) (by simp)
  cases found : view.get (.administrationRequest intent.request) with
  | none =>
      refine .unanswered ?_ ?_
      · simp [ChecksRetry, found]
      · simp [replayIncludedCommand, found]
  | some existing =>
      rw [found] at stored
      have replayed : view.replayIncludedCommand exportId (.beginAdministration intent) =
          .ok (some (if existing.intent = intent then .administration existing
            else .rejected .mutationConflict)) := by
        rw [replayIncludedCommand, found]
        rfl
      by_cases kind : view.identity.kind = .control
      · refine .repeats (fun _ => kind) replayed ?_
        simp only [dispatch, applyBeginAdministration, free.identity, stored]
        rw [if_neg (by simpa using kind)]
        split <;> rfl
      · refine .diverges (fun checks => kind (checks (by rw [found]; rfl))) replayed ?_
        intro write
        simp only [dispatch, applyBeginAdministration, free.identity]
        rw [if_pos kind]
        split <;> simp [reject, reply]

end Catalog

end GroupView

end LightStream
