import LightStream.Proofs.Fetch
import LightStream.Proofs.PrincipalKeys

/-!
What the answers to publishes promise over the history of a data group, whatever else it applies:
the requests of a session are decided in the order of their sequences, and every receipt that was
ever answered names records that were published once, under its range.
-/

namespace LightStream

def GroupDb.requestsOf (db : GroupDb) (entry : GroupEntry) : List Occurrence :=
  match entry.payload with
  | .normal command =>
      match db.view.mutationFenceState.held, db.get .bootstrap, command.publishing with
      | none, some spec, some publish =>
          match db.occurrences spec entry.logId publish with
          | .ok occurrences => occurrences
          | .error _ => []
      | _, _, _ => []
  | _ => []

def requestsIn (steps : List Step) : List Occurrence :=
  steps.flatMap fun step => step.before.requestsOf step.entry

theorem GroupDb.publications_requests (db : GroupDb) (entry : GroupEntry) :
    db.publications entry = (db.requestsOf entry).filterMap Occurrence.publication := by
  unfold publications requestsOf
  cases entry.payload with
  | normal command =>
      dsimp only
      cases db.view.mutationFenceState.held with
      | some held => rfl
      | none =>
          cases db.get .bootstrap with
          | none => rfl
          | some spec =>
              cases command.publishing with
              | none => rfl
              | some publish =>
                  dsimp only
                  cases db.occurrences spec entry.logId publish <;> rfl
  | _ => rfl

theorem publishedIn_requests (steps : List Step) :
    publishedIn steps = (requestsIn steps).filterMap Occurrence.publication := by
  unfold publishedIn requestsIn
  rw [List.filterMap_flatMap]
  simp only [GroupDb.publications_requests]

def Occurrence.Precedes (earlier later : Occurrence) : Prop :=
  earlier.writes ≠ [] → later.writes ≠ [] → sessionIndex earlier.batch = sessionIndex later.batch →
    earlier.batch.request.sequence < later.batch.request.sequence

def StoredPublishOutcome.Grants (stored : StoredPublishOutcome) (batch : PublishBatch)
    (receipt : PublishReceipt) : Prop :=
  match stored with
  | .versioned stored =>
      stored.fingerprint = fingerprint batch ∧ stored.result.asResult = .ok receipt
  | .legacy stored => stored.fingerprint = legacyFingerprint batch ∧ stored.receipt = receipt

def Stored (seen : List Occurrence) (partition : PartitionKey) (request : ProducerRequestId)
    (stored : StoredPublishOutcome) : Prop :=
  ∃ original ∈ seen, original.writes ≠ [] ∧ original.batch.partition = partition ∧
    original.batch.request = request ∧ original.Holds stored

/-- One of the requests published the records of a batch under the range of a receipt. -/
def Promised (seen : List Occurrence) (batch : PublishBatch) (receipt : PublishReceipt) : Prop :=
  ∃ original ∈ seen, original.batch.partition = batch.partition ∧
    original.batch.request = batch.request ∧
    original.publication = some ⟨receipt.range, batch.records⟩

/-- What the requests of the identity of a batch published: its records, once, under the range of a
receipt. -/
def PublishedOnce (seen : List Occurrence) (batch : PublishBatch) (receipt : PublishReceipt) :
    Prop :=
  seen.filterMap (fun this =>
    if this.batch.partition = batch.partition ∧ this.batch.request = batch.request then
      this.publication
    else none) = [⟨receipt.range, batch.records⟩]

section Promises

variable {seen : List Occurrence} {batch : PublishBatch} {receipt : PublishReceipt}
  {partition : PartitionKey} {request : ProducerRequestId} {stored : StoredPublishOutcome}
  {this : Occurrence}

theorem Stored.later (kept : Stored seen partition request stored) (more : List Occurrence) :
    Stored (seen ++ more) partition request stored := by
  obtain ⟨original, member, rest⟩ := kept
  exact ⟨original, List.mem_append_left _ member, rest⟩

theorem Promised.later (promised : Promised seen batch receipt) (more : List Occurrence) :
    Promised (seen ++ more) batch receipt := by
  obtain ⟨original, member, rest⟩ := promised
  exact ⟨original, List.mem_append_left _ member, rest⟩

theorem Occurrence.publication_of (answered : this.result = .ok receipt)
    (recorded : this.writes ≠ []) :
    this.publication = some ⟨receipt.range, this.batch.records⟩ := by
  unfold Occurrence.publication
  rw [answered]
  simp [recorded]

theorem Occurrence.recorded_of_publication {publication : Publication}
    (published : this.publication = some publication) : this.writes ≠ [] := by
  intro silent
  unfold Occurrence.publication at published
  split at published
  · cases published
  · simp [silent] at published

theorem Promised.once (promised : Promised seen batch receipt)
    (ordered : seen.Pairwise Occurrence.Precedes) : PublishedOnce seen batch receipt := by
  obtain ⟨original, member, partition, request, published⟩ := promised
  obtain ⟨before, after, rfl⟩ := List.append_of_mem member
  have recorded := Occurrence.recorded_of_publication published
  obtain ⟨_, later, earlier⟩ := List.pairwise_append.mp ordered
  have silent {other : Occurrence} (apart : other.writes ≠ [] →
      sessionIndex other.batch = sessionIndex original.batch →
      other.batch.request.sequence ≠ original.batch.request.sequence) :
      (if other.batch.partition = batch.partition ∧ other.batch.request = batch.request then
        other.publication else none) = none := by
    split
    · rename_i own
      rw [← partition, ← request] at own
      cases told : other.publication with
      | none => rfl
      | some publication =>
          have differ := apart (Occurrence.recorded_of_publication told)
            (by simp [sessionIndex, own.1, own.2])
          exact absurd (congrArg ProducerRequestId.sequence own.2) differ
    · rfl
  unfold PublishedOnce
  rw [List.filterMap_append, List.filterMap_cons, if_pos ⟨partition, request⟩, published,
    List.filterMap_eq_nil_iff.mpr, List.filterMap_eq_nil_iff.mpr, List.nil_append]
  · intro other inside
    refine silent fun decided same => ?_
    exact ((List.pairwise_cons.mp later).1 other inside recorded decided same.symm).ne'
  · intro other inside
    refine silent fun decided same => ?_
    exact (earlier other inside original (List.mem_cons_self ..) decided recorded same).ne

theorem StoredPublishOutcome.grants_of_answer (answered : stored.answer batch = .ok receipt) :
    stored.Grants batch receipt := by
  cases stored with
  | versioned stored =>
      simp only [StoredPublishOutcome.answer] at answered
      split at answered
      · rename_i same
        exact ⟨same, answered⟩
      · cases answered
  | legacy stored =>
      simp only [StoredPublishOutcome.answer] at answered
      split at answered
      · rename_i same
        cases answered
        exact ⟨same.1, rfl⟩
      · cases answered

theorem Stored.promised (kept : Stored seen batch.partition batch.request stored)
    (grants : stored.Grants batch receipt) : Promised seen batch receipt := by
  obtain ⟨original, member, recorded, partition, request, holds⟩ := kept
  refine ⟨original, member, partition, request, ?_⟩
  cases stored with
  | versioned stored =>
      obtain ⟨own, result⟩ := holds
      have same := (fingerprint_eq_iff.mp (own.symm.trans grants.1)).1
      simp only [legacyFingerprint, PublishFingerprint.legacy.injEq] at same
      rw [Occurrence.publication_of (result.symm.trans grants.2) recorded, same.2.2.2]
  | legacy stored =>
      obtain ⟨own, result, _⟩ := holds
      have same := own.symm.trans grants.1
      simp only [legacyFingerprint, PublishFingerprint.legacy.injEq] at same
      rw [Occurrence.publication_of (result.symm.trans (congrArg _ grants.2)) recorded,
        same.2.2.2]

end Promises

namespace GroupView

variable {view base : GroupView} {logId : GroupLogId} {cluster : ClusterId}
  {requestOrdinal slot : Nat} {batch : PublishBatch} {receipt : PublishReceipt}
  {stored : StoredPublishOutcome} {seen : List Occurrence} {this : Occurrence}

/-- A state recalls the requests so far: the decided ones by their sessions, and every stored
receipt is the outcome of one of them. -/
structure Recalls (view : GroupView) (seen : List Occurrence) : Prop where
  remembered : ∀ earlier ∈ seen, earlier.writes ≠ [] → earlier.Remembered view
  receipts : ∀ partition request stored, view.get (.receipt partition request) = some stored →
    Stored seen partition request stored
  ordered : seen.Pairwise Occurrence.Precedes
  named : ∀ answered ∈ seen, ∀ receipt, answered.result = .ok receipt →
    Promised seen answered.batch receipt
  homed : ∀ original ∈ seen, ∀ publication, original.publication = some publication →
    publication.range.partition = original.batch.partition

theorem Recalls.quiet (recalls : view.Recalls seen) (silent : this.writes = [])
    (named : ∀ receipt, this.result = .ok receipt → Promised seen this.batch receipt) :
    view.Recalls (seen ++ [this]) := by
  constructor
  · intro earlier member recorded
    rcases List.mem_append.mp member with old | new
    · exact recalls.remembered earlier old recorded
    · obtain rfl := List.mem_singleton.mp new
      exact absurd silent recorded
  · intro partition request stored found
    exact (recalls.receipts partition request stored found).later _
  · refine List.pairwise_append.mpr ⟨recalls.ordered, List.pairwise_singleton _ _, ?_⟩
    intro earlier _ later member _ recorded
    obtain rfl := List.mem_singleton.mp member
    exact absurd silent recorded
  · intro answered member receipt result
    rcases List.mem_append.mp member with old | new
    · exact (recalls.named answered old receipt result).later _
    · obtain rfl := List.mem_singleton.mp new
      exact (named receipt result).later _
  · intro original member publication published
    rcases List.mem_append.mp member with old | new
    · exact recalls.homed original old publication published
    · obtain rfl := List.mem_singleton.mp new
      exact absurd silent (Occurrence.recorded_of_publication published)

theorem Records.nonempty {writes : StateBatch} (records : view.Records batch stored writes) :
    writes ≠ [] := by
  obtain ⟨before, rfl, _⟩ := records.split
  simp [receiptWrites]

theorem Recalls.records (recalls : view.Recalls seen)
    (records : view.Records this.batch stored this.writes) (holds : this.Holds stored)
    (homed : ∀ publication ∈ this.publication.toList,
      publication.range.partition = this.batch.partition) :
    (view.after this.writes).Recalls (seen ++ [this]) := by
  have recorded := records.nonempty
  have last : this ∈ seen ++ [this] := List.mem_append_right _ (List.mem_singleton_self _)
  constructor
  · intro earlier member decided
    rcases List.mem_append.mp member with old | new
    · exact (recalls.remembered earlier old decided).records records
    · obtain rfl := List.mem_singleton.mp new
      exact Occurrence.remembered_of_records records rfl holds
  · intro partition request outcome found
    unfold after Kv.pending at found
    dsimp only at found
    rw [records.effect (by simp [StateKey.family, publishFamilies]),
      receiptWrites_effect_receipt] at found
    split at found
    · cases found
    split at found
    · rename_i own
      obtain ⟨rfl, rfl⟩ := own
      cases found
      exact ⟨this, last, recorded, rfl, rfl, holds⟩
    · exact (recalls.receipts partition request outcome found).later _
  · refine List.pairwise_append.mpr ⟨recalls.ordered, List.pairwise_singleton _ _, ?_⟩
    intro earlier member later new decided _ same
    obtain rfl := List.mem_singleton.mp new
    have covered := (recalls.remembered earlier member decided).covered
    rw [sessionOf_congr same] at covered
    exact SessionState.below_of_uncovered records.newer covered
  · intro answered member receipt result
    rcases List.mem_append.mp member with old | new
    · exact (recalls.named answered old receipt result).later _
    · obtain rfl := List.mem_singleton.mp new
      exact ⟨_, last, rfl, rfl, Occurrence.publication_of result recorded⟩
  · intro original member publication published
    rcases List.mem_append.mp member with old | new
    · exact recalls.homed original old publication published
    · obtain rfl := List.mem_singleton.mp new
      exact homed publication (Option.mem_toList.mpr published)

theorem Publishes.homed {write : WriteBatch} {more : List Publication}
    (publishes : view.Publishes logId slot batch write more) :
    ∀ publication ∈ more, publication.range.partition = batch.partition := by
  cases publishes with
  | quiet writes within => simp
  | appended range allocated owned before after =>
      intro publication member
      obtain rfl := List.mem_singleton.mp member
      exact (allocated_identity allocated).1

theorem Recalls.congr {other : GroupView} (recalls : view.Recalls seen)
    (same : ∀ key : StateKey, key.family ∈ [StateFamily.receipt, .session] →
      other.get key = view.get key) : other.Recalls seen := by
  refine ⟨?_, ?_, recalls.ordered, recalls.named, recalls.homed⟩
  · intro earlier member recorded
    exact (recalls.remembered earlier member recorded).of_get same
  · intro partition request stored found
    rw [same _ (by simp [StateKey.family])] at found
    exact recalls.receipts partition request stored found

theorem PublishCase.granted {outcome : PublishItemOutcome} {write : WriteBatch}
    (done : PublishCase view logId cluster requestOrdinal slot batch outcome write)
    (answered : outcome.result = .ok receipt) :
    write.state ≠ [] ∨ ∃ stored, view.get (.receipt batch.partition batch.request) = some stored ∧
      stored.Grants batch receipt := by
  cases done with
  | foreign => cases answered
  | answered own stored found => exact .inr ⟨stored, found, stored.grants_of_answer answered⟩
  | expired => cases answered
  | refused own absent newer rejection => exact .inl (by simp [recordWrites, receiptWrites])
  | accepted =>
      refine .inl ?_
      simp [publishWrites, recordWrites, receiptWrites]

theorem ItemCase.recalls {txn next : PublishApplyTxn} {outcome : PublishItemOutcome}
    {write : WriteBatch}
    (item : ItemCase view txn logId cluster requestOrdinal slot batch outcome write)
    (base : ∀ partition request stored, view.get (.receipt partition request) = some stored →
      Stored seen partition request stored)
    (recalls : (txn.committed view).Recalls seen) (written : next.write = txn.write.append write) :
    (next.committed view).Recalls (seen ++ [⟨batch, outcome.result, write.state⟩]) := by
  rw [committed_append written]
  have homed := item.publishes.homed
  cases item with
  | stale own evicted stored found =>
      refine recalls.quiet rfl fun receipt answered => ?_
      exact (base _ _ stored found).promised (stored.grants_of_answer answered)
  | current present done =>
      rcases done.quiet_or_records with rfl | ⟨result, own, answer, records⟩
      · refine recalls.quiet rfl fun receipt answered => ?_
        rcases done.granted answered with recorded | ⟨stored, found, grants⟩
        · exact absurd rfl recorded
        · exact (recalls.receipts _ _ stored found).promised grants
      · have holds : Occurrence.Holds ⟨batch, outcome.result, write.state⟩
            (.versioned ⟨fingerprint batch, result⟩) := ⟨rfl, answer.symm⟩
        exact Recalls.records recalls records holds homed

theorem publishTrace_recalls : ∀ {requests : List PublishBatch} {requestOrdinal slot : Nat}
    {txn last : PublishApplyTxn} {seen trace : List Occurrence}, txn.Sound view →
    (∀ partition request stored, view.get (.receipt partition request) = some stored →
      Stored seen partition request stored) →
    (txn.committed view).Recalls seen →
    view.publishTrace logId cluster requests requestOrdinal slot txn = .ok (trace, last) →
    (last.committed view).Recalls (seen ++ trace) ∧ trace.map Occurrence.batch = requests := by
  intro requests
  induction requests with
  | nil =>
      intro requestOrdinal slot txn last seen trace sound base recalls traced
      cases traced
      rw [List.append_nil]
      exact ⟨recalls, rfl⟩
  | cons publish rest ih =>
      intro requestOrdinal slot txn last seen trace sound base recalls traced
      rw [publishTrace] at traced
      split at traced
      · simp at traced
      rename_i outcome next item
      split at traced
      · simp at traced
      rename_i others final tail
      cases traced
      obtain ⟨nextSound, write, written, itemCase⟩ := publishItem_cases sound item
      have writes : next.write.state.drop txn.write.state.length = write.state := by
        rw [written]
        exact List.drop_left
      have stepped := itemCase.recalls base recalls written
      obtain ⟨reached, batches⟩ := ih nextSound
        (fun partition request stored found =>
          (base partition request stored found).later _) stepped tail
      rw [List.append_assoc, List.singleton_append] at reached
      rw [writes, List.map_cons, batches]
      exact ⟨reached, rfl⟩

theorem applyPublish_granted {write : WriteBatch}
    (done : view.applyPublish logId batch = .ok (.published receipt, write)) :
    write.state ≠ [] ∨ ∃ stored, view.get (.receipt batch.partition batch.request) = some stored ∧
      stored.Grants batch receipt := by
  unfold applyPublish reject reply at done
  split at done
  · cases done
  split at done
  · cases done
  split at done
  · cases done
  split at done
  · cases done
  · rename_i existing found
    split at done
    · rename_i own
      cases done
      exact .inr ⟨_, found, own, rfl⟩
    · cases done
  rename_i absent
  dsimp only at done
  split at done
  · cases done
  rename_i newer
  simp only [Bool.not_eq_true] at newer
  unfold publishUnbatchedNew at done
  split at done
  · cases done
  split at done
  · obtain ⟨_, records⟩ := publishUnbatched_records (within_nil _) rfl absent newer done
    exact .inl records.nonempty
  · split at done
    · cases done
    · rename_i bookmark bookmarkWrite created
      have within := (createBookmarkRecord_footprint _ _ _ _ _ _ _ created).1
      obtain ⟨_, records⟩ := publishUnbatched_records within rfl absent newer done
      exact .inl records.nonempty
    · cases done
    · cases done

def requestOf (batch : PublishBatch) (result : ApplyResult) (write : WriteBatch) :
    List Occurrence :=
  match result with
  | .published receipt => [⟨batch, .ok receipt, write.state⟩]
  | .rejected error => [⟨batch, .error error, write.state⟩]
  | _ => []

theorem applyPublish_recalls {result : ApplyResult} {write : WriteBatch}
    (recalls : view.Recalls seen) (done : view.applyPublish logId batch = .ok (result, write)) :
    (view.after write.state).Recalls (seen ++ requestOf batch result write) := by
  rcases applyPublish_quiet_or_records done with quiet | ⟨receipt, rfl, named, records⟩
  · rw [quiet]
    cases result with
    | published receipt =>
        refine recalls.quiet quiet fun receipt same => ?_
        cases same
        rcases applyPublish_granted done with recorded | ⟨stored, found, grants⟩
        · exact absurd quiet recorded
        · exact (recalls.receipts _ _ stored found).promised grants
    | rejected error =>
        refine recalls.quiet quiet fun receipt same => ?_
        cases same
    | _ =>
        show view.Recalls (seen ++ [])
        rw [List.append_nil]
        exact recalls
  · have holds : Occurrence.Holds ⟨batch, .ok receipt, write.state⟩
        (.legacy ⟨legacyFingerprint batch, receipt⟩) := ⟨rfl, rfl, named⟩
    exact Recalls.records recalls records holds (applyPublish_publishes done).homed

theorem Recalls.prior (recalls : view.Recalls seen)
    (answered : view.priorPublishOutcome batch = some (.ok receipt)) :
    Promised seen batch receipt := by
  obtain ⟨stored, found, granted⟩ := Option.map_eq_some_iff.mp answered
  exact (recalls.receipts _ _ stored found).promised (stored.grants_of_answer granted)

theorem applyPublishMany_recalls {many : ReplicatedPublishBatch} {result : ApplyResult}
    {write : WriteBatch} {spec : BootstrapSpec} (recalls : view.Recalls seen)
    (bootstrapped : view.get .bootstrap = some spec) (data : view.identity.kind = .data)
    (done : view.applyPublishMany logId many = .ok (result, write)) :
    ∃ trace last, view.publishTrace logId spec.cluster many.requests 0 0 PublishApplyTxn.new =
        .ok (trace, last) ∧ result = .publishedMany (trace.map Occurrence.outcome) ∧
      (view.after write.state).Recalls (seen ++ trace) ∧
      trace.map Occurrence.batch = many.requests := by
  unfold applyPublishMany at done
  rw [if_neg (not_not.mpr data), bootstrapped] at done
  dsimp only at done
  rw [publishLoop_eq_publishTrace PublishApplyTxn.new_sound] at done
  cases traced : view.publishTrace logId spec.cluster many.requests 0 0 PublishApplyTxn.new with
  | error error =>
      rw [traced] at done
      cases done
  | ok trace =>
      obtain ⟨trace, last⟩ := trace
      rw [traced] at done
      cases done
      obtain ⟨reached, batches⟩ := publishTrace_recalls PublishApplyTxn.new_sound
        recalls.receipts recalls traced
      exact ⟨trace, last, rfl, rfl, reached, batches⟩

end GroupView

def Step.Acknowledges (step : Step) (batch : PublishBatch) (receipt : PublishReceipt) : Prop :=
  (step.entry.payload = .normal (.publish batch) ∧ step.result = .published receipt) ∨
    ∃ many outcomes, step.entry.payload = .normal (.publishMany many) ∧
      step.result = .publishedMany outcomes ∧
      (batch, ⟨batch.request, .ok receipt⟩) ∈ many.requests.zip outcomes

namespace GroupDb

variable {identity : GroupIdentity} {window : Nat} {content : PayloadId → Record}
  {Allowed : GroupDb → GroupEntry → Prop} {steps : List Step} {db next : GroupDb}
  {entry : GroupEntry} {result : ApplyResult} {seen : List Occurrence} {batch : PublishBatch}
  {receipt : PublishReceipt}

theorem replayed_promised {command : GroupCommand} {answer : Option ApplyResult}
    {exportId : ExportId} (recalls : db.view.Recalls seen) (normal : entry.payload = .normal command)
    (replayed : db.view.replayIncludedCommand exportId command = .ok answer)
    (answered : result = answer.getD (.rejected (GroupView.exportInProgress exportId)))
    (acknowledged : Step.Acknowledges ⟨db, entry, result, next⟩ batch receipt) :
    Promised seen batch receipt := by
  rcases acknowledged with ⟨published, told⟩ | ⟨many, outcomes, published, told, member⟩
  · cases normal.symm.trans published
    cases replayed
    dsimp only at told
    rw [answered] at told
    unfold GroupView.replayPublish at told
    split at told
    · rename_i prior
      cases told
      exact recalls.prior prior
    · cases told
    · split at told <;> cases told
  · cases normal.symm.trans published
    cases replayed
    dsimp only at told
    rw [answered] at told
    simp only [Option.getD_some, GroupView.replayPublishMany] at told
    split at told
    · cases told
      have told := @List.zip_map' _ _ _ id (Prod.fst ∘ db.view.replayItem exportId) many.requests
      rw [List.map_id] at told
      rw [List.map_map, told, List.mem_map] at member
      obtain ⟨own, _, same⟩ := member
      simp only [id_eq, Function.comp_apply, Prod.mk.injEq] at same
      obtain ⟨rfl, same⟩ := same
      unfold GroupView.replayItem at same
      split at same
      · rename_i prior
        simp only [PublishItemOutcome.mk.injEq, true_and] at same
        rw [same] at prior
        exact recalls.prior prior
      · split at same <;> cases same
    · cases told

/-- What a step keeps: the requests of its entry are recalled, and so is what it acknowledges. -/
structure StepRecalls (seen : List Occurrence) (step : Step) : Prop where
  recalls : step.after.view.Recalls (seen ++ step.before.requestsOf step.entry)
  promised : ∀ batch receipt, step.Acknowledges batch receipt →
    Promised (seen ++ step.before.requestsOf step.entry) batch receipt

/-- An entry without requests keeps the receipts and acknowledges nothing. -/
theorem StepRecalls.unrequested (recalls : db.view.Recalls seen) (none : db.requestsOf entry = [])
    (same : ∀ key : StateKey, key.family ∈ [StateFamily.receipt, .session] →
      next.view.get key = db.view.get key)
    (silent : ∀ batch receipt, ¬ Step.Acknowledges ⟨db, entry, result, next⟩ batch receipt) :
    StepRecalls seen ⟨db, entry, result, next⟩ := by
  refine ⟨?_, fun batch receipt acknowledged => absurd acknowledged (silent batch receipt)⟩
  dsimp only
  rw [none, List.append_nil]
  exact recalls.congr same

theorem rejected_silent {error : DomainError} :
    ¬ Step.Acknowledges ⟨db, entry, .rejected error, next⟩ batch receipt := by
  rintro (⟨_, told⟩ | ⟨_, _, _, told, _⟩) <;> cases told

theorem dispatchedPublish {write : WriteBatch} (data : db.identity.kind = .data)
    (recalls : db.view.Recalls seen) (normal : entry.payload = .normal (.publish batch))
    (free : db.view.mutationFenceState.held = none)
    (done : db.view.applyPublish entry.logId batch = .ok (result, write))
    (same : ∀ key : StateKey, key.family ∈ [StateFamily.receipt, .session] →
      next.view.get key = (db.view.after write.state).get key) :
    StepRecalls seen ⟨db, entry, result, next⟩ := by
  cases bootstrapped : db.get .bootstrap with
  | none =>
      have kind : db.view.identity.kind = .data := data
      unfold GroupView.applyPublish at done
      rw [if_neg (not_not.mpr kind), view_get, bootstrapped] at done
      cases done
      refine .unrequested recalls ?_ same fun _ _ => rejected_silent
      simp [requestsOf, normal, free, bootstrapped]
  | some spec =>
      have own : db.requestsOf entry = GroupView.requestOf batch result write := by
        simp only [requestsOf, normal, free, bootstrapped, GroupCommand.publishing, occurrences, done]
        cases result <;> rfl
      have reached := (GroupView.applyPublish_recalls recalls done).congr same
      rw [← own] at reached
      refine ⟨reached, ?_⟩
      rintro other receipt (⟨published, told⟩ | ⟨many, _, published, _⟩)
      · cases normal.symm.trans published
        cases told
        refine reached.named ⟨batch, .ok receipt, write.state⟩ (List.mem_append_right _ ?_) receipt rfl
        rw [own]
        exact List.mem_singleton_self _
      · cases normal.symm.trans published

theorem dispatchedMany {many : ReplicatedPublishBatch} {write : WriteBatch}
    (data : db.identity.kind = .data) (recalls : db.view.Recalls seen)
    (normal : entry.payload = .normal (.publishMany many))
    (free : db.view.mutationFenceState.held = none)
    (done : db.view.applyPublishMany entry.logId many = .ok (result, write))
    (same : ∀ key : StateKey, key.family ∈ [StateFamily.receipt, .session] →
      next.view.get key = (db.view.after write.state).get key) :
    StepRecalls seen ⟨db, entry, result, next⟩ := by
  cases bootstrapped : db.get .bootstrap with
  | none =>
      have kind : db.view.identity.kind = .data := data
      unfold GroupView.applyPublishMany at done
      rw [if_neg (not_not.mpr kind), view_get, bootstrapped] at done
      cases done
      refine .unrequested recalls ?_ same fun _ _ => rejected_silent
      simp [requestsOf, normal, free, bootstrapped]
  | some spec =>
      obtain ⟨trace, last, traced, rfl, reached, batches⟩ :=
        GroupView.applyPublishMany_recalls recalls bootstrapped data done
      have own : db.requestsOf entry = trace := by
        simp only [requestsOf, normal, free, bootstrapped, GroupCommand.publishing, occurrences,
          traced]
      have reached := reached.congr same
      rw [← own] at reached
      refine ⟨reached, ?_⟩
      rintro other receipt (⟨published, _⟩ | ⟨_, _, published, told, member⟩)
      · cases normal.symm.trans published
      · cases normal.symm.trans published
        cases told
        rw [← batches, List.zip_map', List.mem_map] at member
        obtain ⟨answered, inside, pair⟩ := member
        simp only [Prod.mk.injEq, Occurrence.outcome, PublishItemOutcome.mk.injEq] at pair
        obtain ⟨rfl, _, told⟩ := pair
        rw [← own] at inside
        exact reached.named answered (List.mem_append_right _ inside) receipt told

theorem applyEntry_recalls (data : db.identity.kind = .data) (recalls : db.view.Recalls seen)
    (done : db.applyEntry entry = .ok (result, next)) :
    StepRecalls seen ⟨db, entry, result, next⟩ := by
  cases applyEntry_case done with
  | quiet silent noop same =>
      refine .unrequested recalls ?_ (fun key inside => ?_) ?_
      · unfold requestsOf
        split
        · rename_i command normal
          exact absurd normal (silent command)
        · rfl
      · exact same key fun either => by
          simp only [List.mem_cons, List.not_mem_nil, or_false] at inside either
          rcases inside with own | own <;> rw [own] at either <;> simp at either
      · rintro batch receipt (⟨published, _⟩ | ⟨many, _, published, _⟩)
        · exact absurd published (silent _)
        · exact absurd published (silent _)
  | fenced command held normal included isHeld answer replayed answered same =>
      have none : db.requestsOf entry = [] := by simp [requestsOf, normal, isHeld]
      constructor <;> dsimp only <;> rw [none, List.append_nil]
      · refine recalls.congr fun key inside => same key fun applied => ?_
        simp only [List.mem_cons, List.not_mem_nil, or_false] at inside applied
        rcases inside with own | own <;> rw [own] at applied <;> cases applied
      · intro batch receipt acknowledged
        exact replayed_promised recalls normal replayed answered acknowledged
  | dispatched command write normal free dispatched reads =>
      have same (key : StateKey) (inside : key.family ∈ [StateFamily.receipt, .session]) :
          next.view.get key = (db.view.after write.state).get key := reads key fun applied => by
        simp only [List.mem_cons, List.not_mem_nil, or_false] at inside applied
        rcases inside with own | own <;> rw [own] at applied <;> cases applied
      cases command with
      | publish batch => exact dispatchedPublish data recalls normal (free rfl) dispatched same
      | publishMany many => exact dispatchedMany data recalls normal (free rfl) dispatched same
      | _ =>
          refine .unrequested recalls ?_ (fun key inside => ?_) ?_
          · simp [requestsOf, normal, GroupCommand.publishing]
          · rw [same key inside]
            exact GroupView.after_get_of_within
              (GroupView.dispatch_within _ result write dispatched)
              (GroupCommand.families_unpublished rfl _ inside)
          · rintro batch receipt (⟨published, _⟩ | ⟨many, _, published, _⟩)
            · cases normal.symm.trans published
            · cases normal.symm.trans published

/-- What a run recalls: the requests in its state, their receipts in every state since, and what was
acknowledged. -/
structure RunRecalls (steps : List Step) (view : GroupView) : Prop where
  recalls : view.Recalls (requestsIn steps)
  receipts : ∀ step ∈ steps, ∀ partition request stored,
    step.after.get (.receipt partition request) = some stored →
    Stored (requestsIn steps) partition request stored
  promised : ∀ step ∈ steps, ∀ batch receipt, step.Acknowledges batch receipt →
    Promised (requestsIn steps) batch receipt

theorem Traced.recalls (data : identity.kind = .data)
    (traced : Traced identity window content Allowed steps db) : RunRecalls steps db.view := by
  have reached : ∀ view : GroupView, view.get = db.get → RunRecalls steps view := by
    refine @Traced.invariant identity window content Allowed steps db
      (fun steps get => ∀ view : GroupView, view.get = get → RunRecalls steps view) ?_ ?_ traced
    · intro view empty
      refine ⟨⟨?_, ?_, .nil, ?_, ?_⟩, ?_, ?_⟩
      all_goals simp [requestsIn, empty]
    · intro steps db next entry result traced held due allowed done view same
      have kind : db.identity.kind = .data := by rw [traced.ran.settings.1, data]
      obtain ⟨recalls, receipts, promised⟩ := held db.view rfl
      obtain ⟨kept, answered⟩ := applyEntry_recalls kind recalls done
      have grown : requestsIn (steps ++ [⟨db, entry, result, next⟩]) =
          requestsIn steps ++ db.requestsOf entry := by
        rw [requestsIn, List.flatMap_append, List.flatMap_singleton]
        rfl
      refine ⟨?_, ?_, ?_⟩ <;> rw [grown]
      · exact kept.congr fun key _ => by rw [same, view_get]
      · intro step member partition request stored found
        rcases List.mem_append.mp member with earlier | last
        · exact (receipts step earlier partition request stored found).later _
        · obtain rfl := List.mem_singleton.mp last
          exact kept.receipts partition request stored found
      · intro step member batch receipt acknowledged
        rcases List.mem_append.mp member with earlier | last
        · exact (promised step earlier batch receipt acknowledged).later _
        · obtain rfl := List.mem_singleton.mp last
          exact answered batch receipt acknowledged
  exact reached db.view rfl

theorem Traced.published_forward (data : identity.kind = .data)
    (traced : Traced identity window content Allowed steps db) :
    (publishedIn steps).Pairwise fun earlier later =>
      earlier.range.partition = later.range.partition → earlier.range.next ≤ later.range.first := by
  rw [List.pairwise_iff_forall_sublist]
  intro earlier later sublist same
  have both : [earlier, later].Sublist (publishedTo (publishedIn steps) later.range.partition) := by
    have kept := sublist.filter fun publication =>
      decide (publication.range.partition = later.range.partition)
    simpa [same, publishedTo] using kept
  have ranges := ((traced.indexed data).tiles later.range.partition).disjoint
  have pair := ranges.sublist (both.map _)
  exact (List.pairwise_cons.mp pair).1 _ (List.mem_singleton_self _)

/-- Whatever a data group applies, the requests of a producer session are decided in the order of
their sequences, each once, and their records lie in the log in the order of the decisions. -/
theorem producers_publish_in_order (data : identity.kind = .data)
    (traced : Traced identity window content Allowed steps db) :
    (requestsIn steps).Pairwise fun earlier later => earlier.Precedes later ∧
      ∀ first second, earlier.publication = some first → later.publication = some second →
        first.range.partition = second.range.partition →
        first.range.next ≤ second.range.first := by
  have forward := traced.published_forward data
  rw [publishedIn_requests, List.pairwise_filterMap] at forward
  refine ((traced.recalls data).recalls.ordered.and forward).imp ?_
  rintro earlier later ⟨ordered, forward⟩
  exact ⟨ordered, fun first second published after => forward first published second after⟩

def retriedEntries : List GroupEntry :=
  replayEntries.take 3 ++ [⟨⟨1, 1, 4⟩, .normal (.publish (samplePublish sampleCluster 0 none))⟩]

theorem firstRange_bounded : 0 + 1 ≤ u64Max := by decide

def firstReceipt : PublishReceipt :=
  ⟨(samplePublish sampleCluster 0 none).request,
    ⟨samplePartition, 0, 1, Nat.one_ne_zero, firstRange_bounded⟩, none⟩

theorem sampleRetry : ∃ (steps : List Step) (db : GroupDb),
    Traced freshData.identity 2 (fun _ => [7]) (fun _ _ => True) steps db ∧
    steps.map Step.entry = retriedEntries ∧ (publishedIn steps).length = 2 ∧
    (steps.map Step.result)[3]? = some (.published firstReceipt) ∧
    (db.view.retentionOf samplePartition).logicalFloor = 0 ∧
    ∀ request ∈ requestsIn steps, request.batch.records = [[7]] := by
  have ended : yields (freshData.submitSteps retriedEntries) (fun done =>
      decide ((publishedIn done.1).length = 2 ∧
        (done.1.map Step.result)[3]? = some (.published firstReceipt) ∧
        (done.2.view.retentionOf samplePartition).logicalFloor = 0 ∧
        ∀ request ∈ requestsIn done.1, request.batch.records = [[7]])) = true := by decide
  obtain ⟨done, submitted, ended⟩ := yields_iff.mp ended
  have traced : Traced freshData.identity 2 (fun _ => [7]) (fun _ _ => True)
      ([] ++ done.1) done.2 :=
    Traced.submitSteps .created (create_usedBelow _ _) (by decide) (by decide)
      (fun _ _ => trivial) submitted
  exact ⟨done.1, done.2, traced, submitSteps_entries submitted, of_decide_eq_true ended⟩

theorem retriedEntries_acknowledged (entries : steps.map Step.entry = retriedEntries)
    (answered : (steps.map Step.result)[3]? = some (.published firstReceipt)) :
    ∃ retry ∈ steps, retry.Acknowledges (samplePublish sampleCluster 0 none) firstReceipt := by
  rw [List.getElem?_map, Option.map_eq_some_iff] at answered
  obtain ⟨retry, found, answered⟩ := answered
  have sent : (steps.map Step.entry)[3]? = some retry.entry := by
    rw [List.getElem?_map, found]
    rfl
  rw [entries] at sent
  have same := congrArg GroupEntry.payload (Option.some.inj sent)
  exact ⟨retry, List.mem_of_getElem? found, .inl ⟨same.symm, answered⟩⟩

theorem producers_publish_in_order_sample : ∃ steps : List Step, (publishedIn steps).length = 2 ∧
    (requestsIn steps).Pairwise fun earlier later => earlier.Precedes later ∧
      ∀ first second, earlier.publication = some first → later.publication = some second →
        first.range.partition = second.range.partition →
        first.range.next ≤ second.range.first := by
  obtain ⟨steps, db, traced, _, two, _⟩ := sampleRetry
  exact ⟨steps, two, producers_publish_in_order rfl traced⟩

/-- A store keeps the records of a batch under the range of a receipt: at or above the floor they
are stored, and what is stored there are these records. -/
structure KeepsRecords (db : GroupDb) (batch : PublishBatch) (receipt : PublishReceipt) : Prop where
  home : receipt.range.partition = batch.partition
  retained : ∀ index < batch.records.length,
    (db.view.retentionOf batch.partition).logicalFloor ≤ receipt.range.first + index →
    (db.get (.record batch.partition (receipt.range.first + index))).isSome = true
  bytes : ∀ index record stored, batch.records[index]? = some record →
    db.get (.record batch.partition (receipt.range.first + index)) = some stored →
    db.payload.get (.bytes stored.payloadKey) = some record

theorem Traced.keeps_promised (data : identity.kind = .data)
    (traced : Traced identity window content Allowed steps db)
    (promised : Promised (requestsIn steps) batch receipt) : db.KeepsRecords batch receipt := by
  obtain ⟨original, inside, partition, request, published⟩ := promised
  have home : receipt.range.partition = batch.partition :=
    ((traced.recalls data).recalls.homed original inside _ published).trans partition
  have listed : (⟨receipt.range, batch.records⟩ : Publication) ∈
      publishedTo (publishedIn steps) batch.partition := by
    rw [publishedIn_requests]
    exact List.mem_filter.mpr
      ⟨List.mem_filterMap.mpr ⟨original, inside, published⟩, by simpa using home⟩
  have tiles := publications_tile (traced.indexed data) batch.partition
  have below := (tiles.inside (List.mem_map_of_mem listed)).2.2
  dsimp only at below
  refine ⟨home, ?_, ?_⟩
  · intro index within above
    exact (traced.ran.guarded data).records.retained batch.partition _ above (by omega)
  · intro index record stored found place
    have body := tiles.item listed (List.getElem?_eq_some_iff.mp found).1
    dsimp only at body
    rw [Nat.sub_zero, found] at body
    obtain ⟨_, other, held, read, bytes, at', _⟩ :=
      traced.record_body data (Option.isSome_iff_exists.mpr ⟨stored, place⟩)
    obtain rfl := Option.some.inj (place.symm.trans read)
    obtain rfl := Option.some.inj (body.symm.trans at')
    exact bytes

/-- A receipt that was ever answered, also to a retry or under a fence, is kept: the records of its
request were published once, under its range, and the group keeps them there. -/
theorem acknowledged_records_kept (data : identity.kind = .data)
    (traced : Traced identity window content Allowed steps db) :
    ∀ step ∈ steps, ∀ batch receipt, step.Acknowledges batch receipt →
      PublishedOnce (requestsIn steps) batch receipt ∧ db.KeepsRecords batch receipt := by
  intro step member batch receipt acknowledged
  have recalls := traced.recalls data
  have promised := recalls.promised step member batch receipt acknowledged
  exact ⟨promised.once recalls.recalls.ordered, traced.keeps_promised data promised⟩

theorem acknowledged_records_kept_sample : ∃ (steps : List Step) (db : GroupDb),
    steps.map Step.entry = retriedEntries ∧
    PublishedOnce (requestsIn steps) (samplePublish sampleCluster 0 none) firstReceipt ∧
    (db.get (.record samplePartition 0)).isSome = true := by
  obtain ⟨steps, db, traced, entries, _, answered, floor, _⟩ := sampleRetry
  obtain ⟨retry, taken, acknowledges⟩ := retriedEntries_acknowledged entries answered
  obtain ⟨once, kept⟩ := acknowledged_records_kept rfl traced retry taken _ _ acknowledges
  have low : (db.view.retentionOf samplePartition).logicalFloor ≤ 0 := floor.le
  exact ⟨steps, db, entries, once, kept.retained 0 (by decide) low⟩

end GroupDb

end LightStream
