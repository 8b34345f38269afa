import LightStream.Proofs.BookmarkIndexes
import LightStream.Proofs.MutationRetries

/-!
Consumer checkpoints as a register.  The writes that a checkpoint accepted form a log: the stored
checkpoint is its last entry, an expectation names one place of it, and a request stands in it once.
-/

namespace LightStream

def CheckpointExpectation.accepted : CheckpointExpectation → Nat
  | .missing => 0
  | .revision expected => expected.value

namespace GroupView

variable {view : GroupView} {mutation : CheckpointMutation} {result : ApplyResult}
  {write : WriteBatch} {current : Option CommittedCheckpoint}

def checkpointAt (view : GroupView) (mutation : CheckpointMutation) : Option CommittedCheckpoint :=
  view.get (.checkpoint mutation.key.partition mutation.key.consumer)

def revisionOf (current : Option CommittedCheckpoint) : Nat :=
  match current with
  | none => 0
  | some checkpoint => checkpoint.revision.value

/-- What a compare and set can do: refuse, answer from its receipt, store another answer than an
advance, or advance. -/
inductive CheckpointCase (view : GroupView) (mutation : CheckpointMutation) :
    ApplyResult → WriteBatch → Prop
  | refused (error : DomainError) : CheckpointCase view mutation (.rejected error) ⟨[], []⟩
  | answered (result : ApplyResult)
      (prior : view.priorMutationResult mutation.request (.checkpoint mutation) = some result) :
      CheckpointCase view mutation result ⟨[], []⟩
  | kept (fresh : view.priorMutationResult mutation.request (.checkpoint mutation) = none)
      (result : ApplyResult)
      (still : ∀ request previous checkpoint,
        result ≠ .checkpoint (.advanced request previous checkpoint)) :
      CheckpointCase view mutation result
        ⟨view.storeMutationResult mutation.request (.checkpoint mutation) result, []⟩
  | advanced (fresh : view.priorMutationResult mutation.request (.checkpoint mutation) = none)
      (checkpoint : CommittedCheckpoint)
      (expected : mutation.expected.accepted = revisionOf (view.checkpointAt mutation))
      (next : checkpoint.revision.value = revisionOf (view.checkpointAt mutation) + 1)
      (cursor : checkpoint.cursor = mutation.candidate)
      (committed : checkpoint.cursor.nextOffset ≤ view.nextOffsetOf mutation.key.partition)
      (forward : ∀ current, view.checkpointAt mutation = some current →
        current.cursor.nextOffset ≤ checkpoint.cursor.nextOffset) :
      CheckpointCase view mutation
        (.checkpoint (.advanced mutation.request (view.checkpointAt mutation) checkpoint))
        ⟨.put (.checkpoint mutation.key.partition mutation.key.consumer) checkpoint ::
          view.storeMutationResult mutation.request (.checkpoint mutation)
            (.checkpoint (.advanced mutation.request (view.checkpointAt mutation) checkpoint)), []⟩

theorem expectationMatches_accepted {expected : CheckpointExpectation}
    (holds : expectationMatches expected current = true) :
    expected.accepted = revisionOf current := by
  cases expected with
  | missing =>
      cases current with
      | none => rfl
      | some checkpoint => simp [expectationMatches] at holds
  | revision revision =>
      cases current with
      | none => simp [expectationMatches] at holds
      | some checkpoint =>
          simp only [expectationMatches, decide_eq_true_eq] at holds
          rw [holds]
          rfl

theorem nextCheckpointRevision_ok {revision : CheckpointRevision}
    (next : nextCheckpointRevision current = .ok revision) :
    revision.value = revisionOf current + 1 := by
  unfold nextCheckpointRevision at next
  split at next
  · unfold CheckpointRevision.checkedNext at next
    split at next
    · cases next
      rfl
    · simp at next
  · cases next
    rfl

theorem applyCheckpointMutation_case
    (done : view.applyCheckpointMutation mutation = .ok (result, write)) :
    view.CheckpointCase mutation result write := by
  unfold applyCheckpointMutation at done
  split at done
  · cases done
    exact .refused _
  split at done
  · cases done
    exact .refused _
  split at done
  · rename_i prior
    cases done
    exact .answered _ prior
  rename_i fresh
  split at done
  · cases done
    exact .refused _
  dsimp only at done
  split at done
  · cases done
    exact .kept fresh _ (by simp)
  rename_i holds
  split at done
  · cases done
    exact .kept fresh _ (by simp)
  rename_i within
  split at done
  · cases done
    exact .kept fresh _ (by simp)
  rename_i forward
  split at done
  · simp at done
  · rename_i revision next
    cases done
    refine .advanced fresh ⟨mutation.key, mutation.candidate, revision⟩
      (expectationMatches_accepted (by simpa [checkpointAt] using holds))
      (nextCheckpointRevision_ok next) rfl (by simpa using within) ?_
    intro current stored
    rw [checkpointAt] at stored
    rw [stored, regresses] at forward
    simpa using forward

end GroupView

/-- The write that a step made its checkpoint accept: an advance of a request that its session had
not passed. -/
def Step.advance (partition : PartitionKey) (consumer : ConsumerId) (step : Step) :
    Option (MutationRequestId × CommittedCheckpoint) :=
  match step.entry.payload, step.result with
  | .normal (.compareAndSetCheckpoint mutation), .checkpoint (.advanced request _ checkpoint) =>
      if mutation.key.partition = partition ∧ mutation.key.consumer = consumer ∧
          ¬step.before.view.Passed mutation.request then some (request, checkpoint)
      else none
  | _, _ => none

def acceptedWrites (partition : PartitionKey) (consumer : ConsumerId) (steps : List Step) :
    List (MutationRequestId × CommittedCheckpoint) :=
  steps.filterMap (Step.advance partition consumer)

structure Step.Answers (step : Step) (mutation : CheckpointMutation) (request : MutationRequestId)
    (checkpoint : CommittedCheckpoint) : Prop where
  command : step.entry.payload = .normal (.compareAndSetCheckpoint mutation)
  result : ∃ previous, step.result = .checkpoint (.advanced request previous checkpoint)

namespace GroupDb

variable {identity : GroupIdentity} {window : Nat} {content : PayloadId → Record}
  {Allowed : GroupDb → GroupEntry → Prop} {steps : List Step} {db next : GroupDb}
  {entry : GroupEntry} {result : ApplyResult} {mutation : CheckpointMutation}
  {request : MutationRequestId} {partition : PartitionKey} {consumer : ConsumerId}

theorem applyEntry_checkpoint (command : entry.payload = .normal (.compareAndSetCheckpoint mutation))
    (done : db.applyEntry entry = .ok (result, next)) : ∃ write,
      db.view.CheckpointCase mutation result write ∧
        ∀ key : StateKey, key.family ∉ [StateFamily.applied] →
          next.get key = (db.view.after write.state).get key := by
  cases applyEntry_case done with
  | quiet silent noop same => exact absurd command (silent _)
  | fenced command' held normal included isHeld answer replayed answered same =>
      rw [command] at normal
      cases normal
      simp [GroupCommand.fenceClass] at included
  | dispatched command' write normal free dispatched reads =>
      rw [command] at normal
      cases normal
      exact ⟨write, GroupView.applyCheckpointMutation_case dispatched, reads⟩

theorem applyEntry_uncheckpointed
    (other : ∀ mutation, entry.payload ≠ .normal (.compareAndSetCheckpoint mutation))
    (done : db.applyEntry entry = .ok (result, next)) :
    next.get (.checkpoint partition consumer) = db.get (.checkpoint partition consumer) := by
  cases applyEntry_case done with
  | quiet silent noop same => exact same _ (by simp [StateKey.family])
  | fenced command held normal included isHeld answer replayed answered same =>
      exact same _ (by simp [StateKey.family])
  | dispatched command write normal free dispatched reads =>
      rw [reads _ (by simp [StateKey.family])]
      refine GroupView.after_get_of_within (GroupView.dispatch_within command _ _ dispatched) ?_
      rw [normal] at other
      cases command with
      | compareAndSetCheckpoint mutation => exact absurd rfl (other mutation)
      | exportProtocol command =>
          cases command <;> simp [GroupCommand.families, StateKey.family]
      | _ =>
          simp [GroupCommand.families, StateKey.family, GroupView.publishAllFamilies,
            GroupView.maintainFamilies, GroupView.leaseFamilies, GroupView.decisionFamilies]

theorem applyEntry_receipt {stored : StoredMutationReceipt} (done : db.applyEntry entry = .ok (result, next))
    (found : next.view.get (.mutationReceipt request) = some stored) :
    db.view.get (.mutationReceipt request) = some stored ∨
      entry.mutation = some (request, stored.fingerprint) ∧ stored.result = result := by
  cases carries : entry.mutation with
  | none =>
      rw [applyEntry_unmutated carries done _ rfl] at found
      exact .inl found
  | some mutation =>
      rcases applyEntry_mutation carries done with rfl | ⟨fresh, base, apart, reads⟩
      · rw [commit_applied_mutation rfl] at found
        exact .inl found
      · rw [reads _ rfl, GroupView.storeMutationResult_receipt, apart _ rfl] at found
        split at found
        · simp at found
        split at found
        · rename_i own
          cases found
          rw [← own]
          exact .inr ⟨rfl, rfl⟩
        · exact .inl found

theorem applyEntry_passed (done : db.applyEntry entry = .ok (result, next))
    (passed : db.view.Passed request) : next.view.Passed request := by
  have kept (same : ∀ key : StateKey, key.family = .mutation →
      next.view.get key = db.view.get key) : next.view.Passed request := by
    rw [GroupView.Passed, same _ rfl]
    exact passed
  cases carries : entry.mutation with
  | none => exact kept (applyEntry_unmutated carries done)
  | some mutation =>
      rcases applyEntry_mutation carries done with rfl | ⟨fresh, base, apart, reads⟩
      · exact kept fun key inside => commit_applied_mutation inside
      · rw [GroupView.Passed, reads _ rfl]
        exact GroupView.storeMutationResult_passed apart fresh (.inr passed)

theorem mutation_checkpoint (carries : entry.mutation = some (request, .checkpoint mutation)) :
    entry.payload = .normal (.compareAndSetCheckpoint mutation) ∧ request = mutation.request := by
  unfold GroupEntry.mutation at carries
  split at carries
  · rename_i command payload
    rw [payload]
    cases command <;> simp [GroupCommand.mutation] at carries
    obtain ⟨rfl, rfl⟩ := carries
    exact ⟨rfl, rfl⟩
  · simp at carries

section Registers

structure Registers (steps : List Step) (view : GroupView) : Prop where
  current : ∀ partition consumer, view.get (.checkpoint partition consumer) =
    (acceptedWrites partition consumer steps).getLast?.map Prod.snd
  revisions : ∀ partition consumer index write,
    (acceptedWrites partition consumer steps)[index]? = some write →
      write.2.revision.value = index + 1
  forward : ∀ partition consumer, (acceptedWrites partition consumer steps).Pairwise
    fun first second => first.2.cursor.nextOffset ≤ second.2.cursor.nextOffset
  committed : ∀ partition consumer, ∀ write ∈ acceptedWrites partition consumer steps,
    write.2.cursor.nextOffset ≤ view.nextOffsetOf partition
  passed : ∀ partition consumer, ∀ write ∈ acceptedWrites partition consumer steps,
    view.Passed write.1
  once : ∀ partition consumer, ((acceptedWrites partition consumer steps).map Prod.fst).Nodup
  receipts : ∀ request stored mutation answered previous checkpoint,
    view.get (.mutationReceipt request) = some stored →
    stored.fingerprint = .checkpoint mutation →
    stored.result = .checkpoint (.advanced answered previous checkpoint) →
      answered = mutation.request ∧
        (acceptedWrites mutation.key.partition mutation.key.consumer steps)[
          mutation.expected.accepted]? = some (mutation.request, checkpoint)
  answers : ∀ step ∈ steps, ∀ mutation request checkpoint,
    step.Answers mutation request checkpoint →
      request = mutation.request ∧
        (acceptedWrites mutation.key.partition mutation.key.consumer steps)[
          mutation.expected.accepted]? = some (mutation.request, checkpoint)

theorem acceptedWrites_append (steps : List Step) (step : Step) :
    acceptedWrites partition consumer (steps ++ [step]) =
      acceptedWrites partition consumer steps ++ (step.advance partition consumer).toList := by
  rw [acceptedWrites, List.filterMap_append]
  cases advanced : step.advance partition consumer with
  | none => simp [acceptedWrites, advanced]
  | some write => simp [acceptedWrites, advanced]

theorem getElem?_acceptedWrites {step : Step} {index : Nat}
    {write : MutationRequestId × CommittedCheckpoint}
    (found : (acceptedWrites partition consumer steps)[index]? = some write) :
    (acceptedWrites partition consumer (steps ++ [step]))[index]? = some write := by
  rw [acceptedWrites_append, List.getElem?_append_left (List.getElem?_eq_some_iff.mp found).1]
  exact found

theorem Registers.revisionOf_length {view : GroupView} (held : Registers steps view) :
    GroupView.revisionOf (view.get (.checkpoint partition consumer)) =
      (acceptedWrites partition consumer steps).length := by
  rw [held.current]
  have numbered := held.revisions partition consumer
  generalize acceptedWrites partition consumer steps = log at numbered
  rcases List.eq_nil_or_concat' log with rfl | ⟨front, last, rfl⟩
  · rfl
  · have own := numbered front.length last (by simp)
    simp [GroupView.revisionOf, own]

theorem Registers.kept {step : Step} {view other : GroupView} (held : Registers steps view)
    (still : ∀ partition consumer, step.advance partition consumer = none)
    (same : ∀ partition consumer, other.get (.checkpoint partition consumer) =
      view.get (.checkpoint partition consumer))
    (grown : view.Grown other) (passed : ∀ request, view.Passed request → other.Passed request)
    (receipts : ∀ request stored, other.get (.mutationReceipt request) = some stored →
      view.get (.mutationReceipt request) = some stored ∨
        ∀ mutation answered previous checkpoint, stored.fingerprint = .checkpoint mutation →
          stored.result ≠ .checkpoint (.advanced answered previous checkpoint))
    (answers : ∀ mutation request checkpoint, step.Answers mutation request checkpoint →
      request = mutation.request ∧
        (acceptedWrites mutation.key.partition mutation.key.consumer steps)[
          mutation.expected.accepted]? = some (mutation.request, checkpoint)) :
    Registers (steps ++ [step]) other := by
  have log (partition : PartitionKey) (consumer : ConsumerId) :
      acceptedWrites partition consumer (steps ++ [step]) =
        acceptedWrites partition consumer steps := by
    rw [acceptedWrites_append, still, Option.toList_none, List.append_nil]
  constructor
  · intro partition consumer
    rw [log, same]
    exact held.current partition consumer
  · intro partition consumer
    rw [log]
    exact held.revisions partition consumer
  · intro partition consumer
    rw [log]
    exact held.forward partition consumer
  · intro partition consumer write member
    rw [log] at member
    exact le_trans (held.committed partition consumer write member) (grown partition)
  · intro partition consumer write member
    rw [log] at member
    exact passed _ (held.passed partition consumer write member)
  · intro partition consumer
    rw [log]
    exact held.once partition consumer
  · intro request stored mutation answered previous checkpoint found own advanced
    rw [log]
    rcases receipts request stored found with before | other
    · exact held.receipts request stored mutation answered previous checkpoint before own advanced
    · exact absurd advanced (other mutation answered previous checkpoint own)
  · intro earlier member mutation request checkpoint answer
    rw [log]
    rcases List.mem_append.mp member with before | last
    · exact held.answers earlier before mutation request checkpoint answer
    · rw [List.mem_singleton.mp last] at answer
      exact answers mutation request checkpoint answer

theorem advancedWrites_checkpoint {view : GroupView} {checkpoint : CommittedCheckpoint}
    {fingerprint : MutationFingerprint} (partition : PartitionKey) (consumer : ConsumerId) :
    (view.after (.put (.checkpoint mutation.key.partition mutation.key.consumer) checkpoint ::
      view.storeMutationResult request fingerprint result)).get (.checkpoint partition consumer) =
        if partition = mutation.key.partition ∧ consumer = mutation.key.consumer then
          some checkpoint
        else view.get (.checkpoint partition consumer) := by
  rw [← List.singleton_append, GroupView.after_append, GroupView.after_get_of_within
    (GroupView.storeMutationResult_within _ _ _) (by simp [StateKey.family])]
  by_cases same : partition = mutation.key.partition ∧ consumer = mutation.key.consumer
  · obtain ⟨rfl, rfl⟩ := same
    simp [GroupView.after, Kv.pending]
  · have different : ¬(mutation.key.partition = partition ∧ mutation.key.consumer = consumer) :=
      fun equal => same ⟨equal.1.symm, equal.2.symm⟩
    simp [GroupView.after, Kv.pending, Kv.Op.effect, same, different]

theorem Registers.advanced {checkpoint : CommittedCheckpoint} (held : Registers steps db.view)
    (command : entry.payload = .normal (.compareAndSetCheckpoint mutation))
    (fresh : db.view.priorMutationResult mutation.request (.checkpoint mutation) = none)
    (expected : mutation.expected.accepted = GroupView.revisionOf (db.view.checkpointAt mutation))
    (numbered : checkpoint.revision.value =
      GroupView.revisionOf (db.view.checkpointAt mutation) + 1)
    (committed : checkpoint.cursor.nextOffset ≤ db.view.nextOffsetOf mutation.key.partition)
    (forward : ∀ current, db.view.checkpointAt mutation = some current →
      current.cursor.nextOffset ≤ checkpoint.cursor.nextOffset)
    (answer : result = .checkpoint
      (.advanced mutation.request (db.view.checkpointAt mutation) checkpoint))
    (grown : db.view.Grown next.view) (reads : ∀ partition consumer,
      next.view.get (.checkpoint partition consumer) =
        if partition = mutation.key.partition ∧ consumer = mutation.key.consumer then
          some checkpoint
        else db.view.get (.checkpoint partition consumer))
    (passes : next.view.Passed mutation.request)
    (done : db.applyEntry entry = .ok (result, next)) :
    Registers (steps ++ [⟨db, entry, result, next⟩]) next.view := by
  have unpassed : ¬db.view.Passed mutation.request := by
    rw [GroupView.Passed, GroupView.priorMutationResult_fresh fresh]
    simp
  have own : Step.advance mutation.key.partition mutation.key.consumer ⟨db, entry, result, next⟩ =
      some (mutation.request, checkpoint) := by
    simp [Step.advance, command, answer, unpassed]
  have others (partition : PartitionKey) (consumer : ConsumerId)
      (other : ¬(partition = mutation.key.partition ∧ consumer = mutation.key.consumer)) :
      Step.advance partition consumer ⟨db, entry, result, next⟩ = none := by
    have different : ¬(mutation.key.partition = partition ∧ mutation.key.consumer = consumer ∧
        ¬db.view.Passed mutation.request) := fun equal => other ⟨equal.1.symm, equal.2.1.symm⟩
    simp only [Step.advance, command, answer]
    rw [if_neg different]
  have log (partition : PartitionKey) (consumer : ConsumerId) :
      acceptedWrites partition consumer (steps ++ [⟨db, entry, result, next⟩]) =
        if partition = mutation.key.partition ∧ consumer = mutation.key.consumer then
          acceptedWrites partition consumer steps ++ [(mutation.request, checkpoint)]
        else acceptedWrites partition consumer steps := by
    rw [acceptedWrites_append]
    split
    · rename_i same
      rw [same.1, same.2, own, Option.toList_some]
    · rename_i other
      rw [others partition consumer other, Option.toList_none, List.append_nil]
  have place : mutation.expected.accepted =
      (acceptedWrites mutation.key.partition mutation.key.consumer steps).length :=
    expected.trans held.revisionOf_length
  have here : (acceptedWrites mutation.key.partition mutation.key.consumer
      (steps ++ [⟨db, entry, result, next⟩]))[mutation.expected.accepted]? =
        some (mutation.request, checkpoint) := by
    rw [log, if_pos ⟨rfl, rfl⟩, place]
    simp
  constructor
  · intro partition consumer
    rw [log, reads]
    split
    · simp
    · exact held.current partition consumer
  · intro partition consumer index write found
    rw [log] at found
    split at found
    · rename_i same
      obtain ⟨rfl, rfl⟩ := same
      rcases Nat.lt_or_ge index
          (acceptedWrites mutation.key.partition mutation.key.consumer steps).length with
        before | last
      · rw [List.getElem?_append_left before] at found
        exact held.revisions _ _ index write found
      · have bound := (List.getElem?_eq_some_iff.mp found).1
        rw [List.length_append, List.length_singleton] at bound
        have newest : index =
            (acceptedWrites mutation.key.partition mutation.key.consumer steps).length := by omega
        subst newest
        simp only [List.getElem?_concat_length, Option.some.injEq] at found
        rw [← found, numbered, ← expected, place]
    · exact held.revisions partition consumer index write found
  · intro partition consumer
    rw [log]
    split
    · rename_i same
      obtain ⟨rfl, rfl⟩ := same
      refine List.pairwise_append.mpr ⟨held.forward _ _, List.pairwise_singleton _ _, ?_⟩
      intro first earlier second last
      rw [List.mem_singleton.mp last]
      have ordered := held.forward mutation.key.partition mutation.key.consumer
      have stored := held.current mutation.key.partition mutation.key.consumer
      rcases List.eq_nil_or_concat' (acceptedWrites mutation.key.partition mutation.key.consumer
        steps) with empty | ⟨front, latest, split⟩
      · rw [empty] at earlier
        simp at earlier
      · rw [split] at ordered stored earlier
        have below := forward latest.2 (by rw [GroupView.checkpointAt, stored]; simp)
        rcases List.mem_append.mp earlier with inFront | single
        · exact le_trans ((List.pairwise_append.mp ordered).2.2 first inFront latest
            (List.mem_singleton_self _)) below
        · rw [List.mem_singleton.mp single]
          exact below
    · exact held.forward partition consumer
  · intro partition consumer write member
    rw [log] at member
    refine le_trans ?_ (grown partition)
    split at member
    · rename_i same
      rcases List.mem_append.mp member with earlier | last
      · exact held.committed partition consumer write earlier
      · rw [List.mem_singleton.mp last, same.1]
        exact committed
    · exact held.committed partition consumer write member
  · intro partition consumer write member
    rw [log] at member
    split at member
    · rcases List.mem_append.mp member with earlier | last
      · exact applyEntry_passed done (held.passed partition consumer write earlier)
      · rw [List.mem_singleton.mp last]
        exact passes
    · exact applyEntry_passed done (held.passed partition consumer write member)
  · intro partition consumer
    rw [log]
    split
    · rw [List.map_append, List.map_singleton]
      refine List.nodup_append.mpr ⟨held.once partition consumer, List.nodup_singleton _, ?_⟩
      intro first earlier second last same
      obtain ⟨write, member, rfl⟩ := List.mem_map.mp earlier
      have passed := held.passed partition consumer write member
      rw [same, List.mem_singleton.mp last] at passed
      exact unpassed passed
    · exact held.once partition consumer
  · intro request stored advanced answered previous other found fingerprint result
    rcases applyEntry_receipt done found with before | ⟨carries, given⟩
    · obtain ⟨rfl, listed⟩ := held.receipts request stored advanced answered previous other before
        fingerprint result
      exact ⟨rfl, getElem?_acceptedWrites listed⟩
    · rw [fingerprint] at carries
      obtain ⟨payload, rfl⟩ := mutation_checkpoint carries
      rw [command] at payload
      cases payload
      rw [given, answer] at result
      cases result
      exact ⟨rfl, here⟩
  · intro step member advanced request other answers
    rcases List.mem_append.mp member with before | last
    · obtain ⟨rfl, listed⟩ := held.answers step before advanced request other answers
      exact ⟨rfl, getElem?_acceptedWrites listed⟩
    · obtain rfl := List.mem_singleton.mp last
      obtain ⟨payload, previous, given⟩ := answers
      rw [command] at payload
      cases payload
      rw [answer] at given
      cases given
      exact ⟨rfl, here⟩

theorem applyEntry_grown (done : db.applyEntry entry = .ok (result, next)) :
    db.view.Grown next.view := by
  have moves := @applyEntry_bookmarkMoves (fun _ _ => True) db next entry result
    (fun _ _ _ _ _ _ => trivial) done
  generalize next.view = other at moves ⊢
  induction moves with
  | refl => exact fun _ => le_rfl
  | tail moves move ih =>
      intro partition
      refine le_trans (ih partition) ?_
      cases move with
      | kept grown | created grown | deleted grown => exact grown partition

theorem priorMutationResult_advanced {view : GroupView} {previous : Option CommittedCheckpoint}
    {checkpoint : CommittedCheckpoint} {fingerprint : MutationFingerprint}
    {answered : MutationRequestId} (prior : view.priorMutationResult request fingerprint =
      some (.checkpoint (.advanced answered previous checkpoint))) :
    ∃ stored, view.get (.mutationReceipt request) = some stored ∧
      stored.fingerprint = fingerprint ∧
      stored.result = .checkpoint (.advanced answered previous checkpoint) := by
  unfold GroupView.priorMutationResult at prior
  split at prior
  · rename_i stored found
    split at prior
    · rename_i same
      exact ⟨stored, found, same, Option.some.inj prior⟩
    · simp at prior
  · split at prior <;> simp at prior

theorem Registers.replayed {view : GroupView} {previous : Option CommittedCheckpoint}
    {checkpoint : CommittedCheckpoint} {answered : MutationRequestId} (held : Registers steps view)
    (prior : view.priorMutationResult mutation.request (.checkpoint mutation) =
      some (.checkpoint (.advanced answered previous checkpoint))) :
    answered = mutation.request ∧
      (acceptedWrites mutation.key.partition mutation.key.consumer steps)[
        mutation.expected.accepted]? = some (mutation.request, checkpoint) := by
  obtain ⟨stored, found, fingerprint, given⟩ := priorMutationResult_advanced prior
  exact held.receipts _ stored mutation answered previous checkpoint found fingerprint given

theorem Registers.step (held : Registers steps db.view)
    (done : db.applyEntry entry = .ok (result, next)) :
    Registers (steps ++ [⟨db, entry, result, next⟩]) next.view := by
  have grown := applyEntry_grown done
  have passed (request : MutationRequestId) : db.view.Passed request → next.view.Passed request :=
    applyEntry_passed done
  by_cases checkpointed : ∃ mutation, entry.payload = .normal (.compareAndSetCheckpoint mutation)
  · obtain ⟨mutation, command⟩ := checkpointed
    obtain ⟨write, case, reads⟩ := applyEntry_checkpoint command done
    have unadvanced (still : ∀ request previous checkpoint,
        result ≠ .checkpoint (.advanced request previous checkpoint))
        (same : ∀ partition consumer, next.get (.checkpoint partition consumer) =
          db.get (.checkpoint partition consumer)) :
        Registers (steps ++ [⟨db, entry, result, next⟩]) next.view := by
      refine held.kept ?_ same grown passed ?_ ?_
      · intro partition consumer
        unfold Step.advance
        split
        · rename_i given
          exact absurd given (still _ _ _)
        · rfl
      · intro request stored found
        rcases applyEntry_receipt done found with before | ⟨carries, given⟩
        · exact .inl before
        · exact .inr fun mutation answered previous checkpoint _ => given ▸ still _ _ _
      · rintro mutation request checkpoint ⟨_, previous, given⟩
        exact absurd given (still _ _ _)
    cases case with
    | refused error =>
        refine unadvanced (by simp) fun partition consumer => ?_
        rw [reads _ (by simp [StateKey.family])]
        rfl
    | answered result prior =>
        have same (key : StateKey) (other : key.family ∉ [StateFamily.applied]) :
            next.view.get key = db.view.get key := reads key other
        refine held.kept ?_ ?_ grown passed ?_ ?_
        · intro partition consumer
          unfold Step.advance
          split
          · rename_i payload given
            dsimp only at payload given
            rw [command] at payload
            cases payload
            subst given
            obtain ⟨_, listed⟩ := held.replayed prior
            have passed := held.passed _ _ _ (List.mem_of_getElem? listed)
            rw [if_neg fun all => all.2.2 passed]
          · rfl
        · intro partition consumer
          exact same _ (by simp [StateKey.family])
        · intro request stored found
          rw [same _ (by simp [StateKey.family])] at found
          exact .inl found
        · rintro again request checkpoint ⟨payload, previous, given⟩
          dsimp only at payload given
          rw [command] at payload
          cases payload
          subst given
          exact held.replayed prior
    | kept fresh result still =>
        refine unadvanced still fun partition consumer => ?_
        rw [reads _ (by simp [StateKey.family])]
        exact GroupView.after_get_of_within (GroupView.storeMutationResult_within _ _ _)
          (by simp [StateKey.family])
    | advanced fresh checkpoint expected numbered cursor committed forward =>
        refine held.advanced command fresh expected numbered committed forward rfl grown ?_ ?_ done
        · intro partition consumer
          rw [view_get, reads _ (by simp [StateKey.family])]
          exact advancedWrites_checkpoint partition consumer
        · rw [GroupView.Passed, view_get, reads _ (by simp [StateKey.family])]
          dsimp only
          rw [← List.singleton_append, GroupView.after_append]
          refine GroupView.storeMutationResult_passed (fun key family => ?_) fresh (.inl rfl)
          refine GroupView.after_get_of_within (show Within [.checkpoint] _ by
            simp [StateKey.family]) (by simp [family])
  · have other (mutation : CheckpointMutation) :
        entry.payload ≠ .normal (.compareAndSetCheckpoint mutation) :=
      fun command => checkpointed ⟨mutation, command⟩
    refine held.kept ?_ (fun _ _ => applyEntry_uncheckpointed other done) grown passed ?_ ?_
    · intro partition consumer
      unfold Step.advance
      split
      · rename_i payload _
        exact absurd payload (other _)
      · rfl
    · intro request stored found
      rcases applyEntry_receipt done found with before | ⟨carries, given⟩
      · exact .inl before
      · refine .inr fun mutation answered previous checkpoint fingerprint => ?_
        rw [fingerprint] at carries
        exact absurd (mutation_checkpoint carries).1 (other mutation)
    · rintro mutation request checkpoint ⟨command, _⟩
      exact absurd command (other mutation)

end Registers

/-- What a step does to a checkpoint: it accepts a write of the next revision that does not lie
behind, or the checkpoint stays. -/
def StepMoves (partition : PartitionKey) (consumer : ConsumerId) (step : Step) : Prop :=
  match step.advance partition consumer with
  | none =>
      step.after.get (.checkpoint partition consumer) =
        step.before.get (.checkpoint partition consumer)
  | some write =>
      step.after.get (.checkpoint partition consumer) = some write.2 ∧
        write.2.revision.value =
          GroupView.revisionOf (step.before.get (.checkpoint partition consumer)) + 1 ∧
        ∀ current, step.before.get (.checkpoint partition consumer) = some current →
          current.cursor.nextOffset ≤ write.2.cursor.nextOffset

theorem Registers.moves {step : Step} (held : Registers steps step.before.view)
    (stepped : Registers (steps ++ [step]) step.after.view) : StepMoves partition consumer step := by
  have before := held.current partition consumer
  have after := stepped.current partition consumer
  have length := @Registers.revisionOf_length steps partition consumer _ held
  have forward := stepped.forward partition consumer
  have numbered := stepped.revisions partition consumer
  rw [view_get] at before after length
  rw [acceptedWrites_append] at after forward numbered
  unfold StepMoves
  cases advanced : step.advance partition consumer with
  | none =>
      rw [advanced, Option.toList_none, List.append_nil] at after
      exact after.trans before.symm
  | some write =>
      rw [advanced, Option.toList_some] at after forward numbered
      refine ⟨by simpa using after, ?_, ?_⟩
      · rw [length]
        exact numbered _ write (by simp)
      · intro current stored
        rw [before] at stored
        obtain ⟨last, isLast, rfl⟩ := Option.map_eq_some_iff.mp stored
        exact (List.pairwise_append.mp forward).2.2 last (List.mem_of_getLast? isLast) write
          (List.mem_singleton_self _)

theorem Traced.registers (traced : Traced identity window content Allowed steps db) :
    Registers steps db.view ∧ ∀ step ∈ steps, ∀ partition consumer,
      StepMoves partition consumer step := by
  have reached : (∀ view : GroupView, view.get = db.get → Registers steps view) ∧
      ∀ step ∈ steps, ∀ partition consumer, StepMoves partition consumer step := by
    refine @Traced.invariant identity window content Allowed steps db
      (fun steps get => (∀ view : GroupView, view.get = get → Registers steps view) ∧
        ∀ step ∈ steps, ∀ partition consumer, StepMoves partition consumer step) ?_ ?_ traced
    · refine ⟨fun view empty => ?_, by simp⟩
      constructor <;> simp [acceptedWrites, empty]
    · rintro steps db next entry result traced ⟨held, moves⟩ due allowed done
      have before := held db.view rfl
      have after := before.step done
      constructor
      · intro view same
        have reads : view.get = next.view.get := by
          rw [same]
          rfl
        obtain ⟨current, revisions, forward, committed, passed, once, receipts, answers⟩ := after
        refine ⟨?_, revisions, forward, ?_, ?_, once, ?_, answers⟩
        · rwa [reads]
        · simpa only [GroupView.nextOffsetOf, reads] using committed
        · simpa only [GroupView.Passed, reads] using passed
        · rwa [reads]
      · intro step member partition consumer
        rcases List.mem_append.mp member with earlier | last
        · exact moves step earlier partition consumer
        · rw [List.mem_singleton.mp last]
          exact Registers.moves before after
  exact ⟨reached.1 db.view rfl, reached.2⟩

/-- A checkpoint is a linear register: its accepted writes, one for each request that was answered
with an advance, carry the revisions from the first on, and each expectation admits one. -/
structure LinearRegister (steps : List Step) (db : GroupDb) (partition : PartitionKey)
    (consumer : ConsumerId) : Prop where
  moves : ∀ step ∈ steps, StepMoves partition consumer step
  current : db.get (.checkpoint partition consumer) =
    (acceptedWrites partition consumer steps).getLast?.map Prod.snd
  revisions : ∀ index write, (acceptedWrites partition consumer steps)[index]? = some write →
    write.2.revision.value = CheckpointRevision.initial.value + index
  once : ((acceptedWrites partition consumer steps).map Prod.fst).Nodup
  committed : ∀ checkpoint, db.get (.checkpoint partition consumer) = some checkpoint →
    checkpoint.cursor.nextOffset ≤ db.view.nextOffsetOf partition
  answered : ∀ step ∈ steps, ∀ mutation request checkpoint,
    step.Answers mutation request checkpoint → mutation.key.partition = partition →
      mutation.key.consumer = consumer → request = mutation.request ∧
        (mutation.request, checkpoint) ∈ acceptedWrites partition consumer steps
  exclusive : ∀ first ∈ steps, ∀ second ∈ steps, ∀ mutation other request answer checkpoint later,
    first.Answers mutation request checkpoint → second.Answers other answer later →
      mutation.key.partition = partition → mutation.key.consumer = consumer →
        other.key.partition = partition → other.key.consumer = consumer →
          mutation.expected = other.expected → mutation.request = other.request

/-- In every run of a group every checkpoint is a linear register. -/
theorem checkpoints_linear (traced : Traced identity window content Allowed steps db)
    (partition : PartitionKey) (consumer : ConsumerId) :
    LinearRegister steps db partition consumer := by
  obtain ⟨held, moves⟩ := traced.registers
  constructor
  · exact fun step member => moves step member partition consumer
  · exact held.current partition consumer
  · intro index write found
    rw [held.revisions partition consumer index write found, Nat.add_comm]
    rfl
  · exact held.once partition consumer
  · intro checkpoint stored
    have current := held.current partition consumer
    rw [view_get, stored] at current
    obtain ⟨write, isLast, rfl⟩ := Option.map_eq_some_iff.mp current.symm
    exact held.committed partition consumer write (List.mem_of_getLast? isLast)
  · rintro step member mutation request checkpoint answers rfl rfl
    obtain ⟨rfl, listed⟩ := held.answers step member mutation request checkpoint answers
    exact ⟨rfl, List.mem_of_getElem? listed⟩
  · intro first member second among mutation other request answer checkpoint later answers again
      partition consumer samePartition sameConsumer expected
    obtain ⟨_, listed⟩ := held.answers first member mutation request checkpoint answers
    obtain ⟨_, listedAgain⟩ := held.answers second among other answer later again
    rw [samePartition, sameConsumer, ← partition, ← consumer, ← expected, listed] at listedAgain
    exact congrArg Prod.fst (Option.some.inj listedAgain)

def checkpointEntries : List GroupEntry :=
  [⟨⟨1, 1, 1⟩, .normal (.bootstrapData sampleSpec)⟩,
    ⟨⟨1, 1, 2⟩, .normal (.publish (samplePublish sampleCluster 0 none))⟩,
    ⟨⟨1, 1, 3⟩, .normal (.compareAndSetCheckpoint (checkpointMutation 0 .missing 0))⟩,
    ⟨⟨1, 1, 4⟩, .normal (.compareAndSetCheckpoint (checkpointMutation 1 .missing 1))⟩,
    ⟨⟨1, 1, 5⟩, .normal (.compareAndSetCheckpoint (checkpointMutation 0 .missing 0))⟩,
    ⟨⟨1, 1, 6⟩, .normal (.compareAndSetCheckpoint
      (checkpointMutation 2 (.revision CheckpointRevision.initial) 1))⟩]
where
  checkpointMutation (sequence : Nat) (expected : CheckpointExpectation) (offset : Nat) :
      CheckpointMutation :=
    ⟨sampleRequest sequence, ⟨sampleCluster, samplePartition, ⟨"reader"⟩⟩, expected,
      ⟨sampleCluster, samplePartition, offset⟩, rfl, rfl⟩

theorem checkpoints_linear_sample : ∃ (steps : List Step) (db : GroupDb),
    steps.map Step.entry = checkpointEntries ∧
    ((acceptedWrites samplePartition ⟨"reader"⟩ steps).map Prod.fst =
      [sampleRequest 0, sampleRequest 2]) ∧
    LinearRegister steps db samplePartition ⟨"reader"⟩ := by
  have accepted : yields (freshData.submitSteps checkpointEntries) (fun done =>
      decide ((acceptedWrites samplePartition ⟨"reader"⟩ done.1).map Prod.fst =
        [sampleRequest 0, sampleRequest 2])) = true := by decide
  obtain ⟨done, submitted, accepted⟩ := yields_iff.mp accepted
  simp only [decide_eq_true_eq] at accepted
  have traced : Traced freshData.identity 2 (fun _ => [7]) (fun _ _ => True)
      ([] ++ done.1) done.2 :=
    Traced.submitSteps .created (create_usedBelow _ _) (by decide) (by decide)
      (fun _ _ => trivial) submitted
  exact ⟨done.1, done.2, submitSteps_entries submitted, accepted,
    checkpoints_linear traced samplePartition ⟨"reader"⟩⟩

end GroupDb

end LightStream
