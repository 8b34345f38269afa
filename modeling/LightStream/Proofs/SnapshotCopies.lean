import LightStream.Proofs.Agreement
import LightStream.Proofs.CrashRuns
import LightStream.Proofs.Reowned

/-!
A store that installs a snapshot is a copy of its source: the same state, the same payloads, and the
same answers to every further entry, as long as a reclaim does not count what only one of the two
logs still holds.
-/

namespace LightStream

namespace GroupDb

variable {db next source built first second : GroupDb} {content : PayloadId → Record}
  {artifact : SnapshotArtifact} {encodedBytes : SnapshotRecord → Nat} {identity : GroupIdentity}
  {window : Nat} {Allowed : GroupDb → GroupEntry → Prop}

/-! ### Building and installing -/

theorem snapshotPayloads_total {ids : List PayloadId}
    (stored : ∀ id ∈ ids, (db.payload.get (.bytes id)).isSome = true) :
    ∃ payloads, db.snapshotPayloads ids = .ok payloads := by
  induction ids with
  | nil => exact ⟨[], rfl⟩
  | cons id rest ih =>
      obtain ⟨bytes, found⟩ := Option.isSome_iff_exists.mp (stored id (List.mem_cons_self ..))
      obtain ⟨payloads, collected⟩ := ih fun other member =>
        stored other (List.mem_cons_of_mem _ member)
      exact ⟨(id, bytes) :: payloads, by rw [snapshotPayloads, found, collected]⟩

theorem Sound.builds (sound : Sound identity window content db) :
    ∃ artifact built, db.buildSnapshot = .ok (artifact, built) := by
  obtain ⟨payloads, collected⟩ := @snapshotPayloads_total db
    (((scanOwners db.payload).filter fun entry => entry.2.appliedIn db.activeBank).map Prod.fst)
    (by
      intro id member
      obtain ⟨⟨_, owners⟩, listed, same⟩ := List.mem_map.mp member
      have stored := mem_scanOwners.mp (List.mem_filter.mp listed).1
      dsimp only at same
      rw [same] at stored
      obtain ⟨_, _, _, _, _, owned⟩ := sound.custody.account id
      rw [(owned.stored stored).2.2]
      rfl)
  unfold buildSnapshot
  dsimp only
  rw [collected]
  exact ⟨_, _, rfl⟩

theorem installSnapshot_bytes
    (bodies : ∀ payload ∈ artifact.payloads, payload.2 = content payload.1)
    (install : db.installSnapshot encodedBytes artifact.metadata artifact = .ok next)
    {id : PayloadId} (member : id ∈ artifact.payloads.map Prod.fst) :
    next.payload.get (.bytes id) = some (content id) := by
  obtain ⟨_, rfl⟩ := installSnapshot_ok install
  have loaded := @foldl_installChunk_payload (db.clearStateBank db.activeBank.inactive)
    db.activeBank.inactive content (Kv.chunk (installFull encodedBytes) artifact.records [])
    (by rwa [Kv.flatten_chunk, List.nil_append, carried_records]) id
  rw [Kv.flatten_chunk, List.nil_append, carried_records, if_pos member, if_pos member] at loaded
  obtain ⟨ownersRead, bytesRead⟩ := loaded
  generalize ((db.clearStateBank db.activeBank.inactive).payload.get (.owners id)).getD
    PayloadOwners.default = before at ownersRead
  have ownersRead : (db.switchBank encodedBytes artifact).payload.get (.owners id) =
      some (before.setAppliedIn db.activeBank.inactive true) := ownersRead
  have bytesRead : (db.switchBank encodedBytes artifact).payload.get (.bytes id) =
      some (content id) := bytesRead
  -- The new bank still reaches the payload when the old one lets go.
  have reaches : ((before.setAppliedIn db.activeBank.inactive true).setAppliedIn db.activeBank
      false).reachable = true := by
    cases db.activeBank <;>
      simp [PayloadOwners.setAppliedIn, PayloadOwners.reachable, StateBank.inactive]
  by_cases mine : (before.setAppliedIn db.activeBank.inactive true).appliedIn db.activeBank = true
  · obtain ⟨_, bytes⟩ := clearStateBank_owned ownersRead mine
    rw [bytes, PayloadOwners.keptBytes, if_pos reaches]
    exact bytesRead
  · obtain ⟨_, bytes⟩ := @clearStateBank_unowned (db.switchBank encodedBytes artifact) db.activeBank
      id fun owners stored => by
        rw [ownersRead] at stored
        cases stored
        exact Bool.eq_false_of_not_eq_true mine
    rw [bytes]
    exact bytesRead

theorem Sound.copied (sourceSound : Sound identity window content source)
    (done : source.buildSnapshot = .ok (artifact, built)) (same : db.identity = identity) :
    ∃ next, db.installSnapshot encodedBytes artifact.metadata artifact = .ok next ∧
      next.ReadsAs source := by
  obtain ⟨own, _, _⟩ := buildSnapshot_ok done
  have install := @installSnapshot_batches db artifact encodedBytes (buildSnapshot_format done)
    (by rw [own, sourceSound.identified, same])
  obtain ⟨keys, bodies⟩ := sourceSound.custody.snapshot done
  refine ⟨_, install, installSnapshot_get done install, ?_⟩
  intro partition offset record stored
  have holds : source.view.HoldsPayload record.payloadKey :=
    ⟨partition, offset, record, stored, rfl⟩
  obtain ⟨_, _, _, _, bytes⟩ :=
    (sourceSound.custody.account record.payloadKey).held (.inr holds)
  exact ⟨_, bytes, installSnapshot_bytes bodies install ((keys _).mpr holds)⟩

/-! ### What follows on both stores -/

/-- The stores that a replica reaches from a given one, each with the steps its state has taken
since. -/
inductive Resumed (content : PayloadId → Record) (Allowed : GroupDb → GroupEntry → Prop)
    (start : GroupDb) : List Step → GroupDb → Prop
  | started : Resumed content Allowed start [] start
  | appended {steps : List Step} {db : GroupDb} {entries : List GroupEntry}
      (resumed : Resumed content Allowed start steps db)
      (appendable : Appendable content db entries) :
      Resumed content Allowed start steps (db.append entries)
  | truncated {steps : List Step} {db next : GroupDb} {lastLogId : Option GroupLogId}
      (resumed : Resumed content Allowed start steps db)
      (done : db.truncateAfter lastLogId = .ok next) : Resumed content Allowed start steps next
  | purged {steps : List Step} {db next : GroupDb} {logId : GroupLogId}
      (resumed : Resumed content Allowed start steps db) (done : db.purge logId = .ok next) :
      Resumed content Allowed start steps next
  | applied {steps : List Step} {db next : GroupDb} {entry : GroupEntry} {result : ApplyResult}
      (resumed : Resumed content Allowed start steps db) (due : Due content db entry)
      (allowed : Allowed db entry) (done : db.applyEntry entry = .ok (result, next)) :
      Resumed content Allowed start (steps ++ [⟨db, entry, result, next⟩]) next
  | built {steps : List Step} {db next : GroupDb} {artifact : SnapshotArtifact}
      (resumed : Resumed content Allowed start steps db)
      (done : db.buildSnapshot = .ok (artifact, next)) : Resumed content Allowed start steps next

theorem Resumed.sound {start : GroupDb} {steps : List Step}
    (resumed : Resumed content Allowed start steps db)
    (sound : Sound identity window content start) : Sound identity window content db := by
  induction resumed with
  | started => exact sound
  | appended resumed appendable ih =>
      exact ih.moved ih.identified ih.configured
        (ih.custody.appended (strayAccount_accounting content) appendable) rfl
  | truncated resumed done ih => exact ih.cut done
  | purged resumed done ih => exact ih.cut done
  | applied resumed due allowed done ih => exact ih.applied due done
  | built resumed done ih =>
      obtain ⟨_, _, rfl⟩ := buildSnapshot_ok done
      exact ih.moved ih.identified ih.configured
        ⟨ih.custody.named, ih.custody.account, ih.custody.seated⟩ rfl

theorem removeLogRange_get {start : Nat} {stop : Option Nat} {purged : Option GroupLogId}
    (done : db.removeLogRange start stop purged = .ok next) : next.get = db.get := by
  obtain ⟨_, _, banks, bank⟩ := removeLogRange_frame done
  exact get_of_bank bank (by rw [banks])

theorem Resumed.unstepped {start : GroupDb} {steps : List Step}
    (resumed : Resumed content Allowed start steps db) (none : steps = []) :
    db.get = start.get := by
  induction resumed with
  | started => rfl
  | appended resumed appendable ih => exact ih none
  | truncated resumed done ih => exact (removeLogRange_get done).trans (ih none)
  | purged resumed done ih => exact (removeLogRange_get done).trans (ih none)
  | applied resumed due allowed done ih => simp at none
  | built resumed done ih =>
      obtain ⟨_, _, rfl⟩ := buildSnapshot_ok done
      exact ih none

theorem Resumed.last {start : GroupDb} {steps whole : List Step} {step : Step}
    (resumed : Resumed content Allowed start whole db) (ends : whole = steps ++ [step]) :
    Resumed content Allowed start steps step.before ∧ Due content step.before step.entry ∧
      Allowed step.before step.entry ∧
      step.before.applyEntry step.entry = .ok (step.result, step.after) ∧
      db.get = step.after.get := by
  induction resumed with
  | started => simp at ends
  | appended resumed appendable ih => exact ih ends
  | truncated resumed done ih =>
      obtain ⟨earlier, due, allowed, applied, reads⟩ := ih ends
      exact ⟨earlier, due, allowed, applied, (removeLogRange_get done).trans reads⟩
  | purged resumed done ih =>
      obtain ⟨earlier, due, allowed, applied, reads⟩ := ih ends
      exact ⟨earlier, due, allowed, applied, (removeLogRange_get done).trans reads⟩
  | applied resumed due allowed done ih =>
      obtain ⟨rfl, rfl⟩ := List.append_inj' ends rfl |>.imp id List.singleton_inj.mp
      exact ⟨resumed, due, allowed, done, rfl⟩
  | built resumed done ih =>
      obtain ⟨_, _, rfl⟩ := buildSnapshot_ok done
      exact ih ends

/-! ### Two stores with the same state -/

theorem view_reowned (sameIdentity : second.identity = first.identity)
    (sameWindow : second.receiptWindow = first.receiptWindow) (same : second.get = first.get) :
    second.view = first.view.reowned second.activeBank second.view.owners := by
  have held (key : StateKey) : (second.state.get key).isSome = (first.state.get key).isSome := by
    rw [show second.state.get key = first.state.get key from congrFun same key]
  have reads : second.state.get = first.state.get := same
  have scans {ι : Type} [LinearOrder ι] (index : StateKey → Option ι) :
      second.state.scan index = first.state.scan index := Kv.Store.scan_of_held held index
  have leases : scanLeases second.state = scanLeases first.state := by
    simp only [scanLeases, scans, reads]
  have hints : scanHints second.state = scanHints first.state := by
    simp only [scanHints, scans, reads]
  have exportReceipts : scanExportReceipts second.state = scanExportReceipts first.state := by
    simp only [scanExportReceipts, scans, reads]
  have streams : scanStreams second.state = scanStreams first.state := by
    simp only [scanStreams, scans, reads]
  simp only [view, GroupView.reowned, sameIdentity, sameWindow, reads, leases, hints,
    exportReceipts, streams]

theorem publish_slot {logId : GroupLogId} {batch : PublishBatch} {place : Nat}
    (below : place < batch.records.length) :
    (⟨logId, place⟩ : PayloadId) ∈
      (thinEntry ⟨logId, .normal (.publish batch)⟩).1.payloadKeys := by
  rw [thinEntry_payloadKeys]
  refine mem_payloadsFrom_keys.mpr ⟨place, below, ?_⟩
  rw [Nat.zero_add]

theorem slottedRequests_slot {requests : List PublishBatch} {slot place : Nat} (low : slot ≤ place)
    (high : place < slot + GroupView.slotCount requests) :
    ∃ start publish, (start, publish) ∈ slottedRequests slot requests ∧ start ≤ place ∧
      place < start + publish.records.length := by
  induction requests generalizing slot with
  | nil =>
      have none : GroupView.slotCount [] = 0 := rfl
      omega
  | cons publish rest ih =>
      have count : GroupView.slotCount (publish :: rest) =
          publish.records.length + GroupView.slotCount rest := by
        simp [GroupView.slotCount]
      by_cases here : place < slot + publish.records.length
      · exact ⟨slot, publish, List.mem_cons_self .., low, here⟩
      · obtain ⟨start, other, member, below, above⟩ :=
          @ih (slot + publish.records.length) (by omega) (by omega)
        exact ⟨start, other, List.mem_cons_of_mem _ member, below, above⟩

theorem publishMany_slot {logId : GroupLogId} {batch : ReplicatedPublishBatch} {place : Nat}
    (below : place < GroupView.slotCount batch.requests) :
    (⟨logId, place⟩ : PayloadId) ∈
      (thinEntry ⟨logId, .normal (.publishMany batch)⟩).1.payloadKeys := by
  obtain ⟨start, publish, member, low, high⟩ :=
    @slottedRequests_slot batch.requests 0 place (Nat.zero_le _) (by omega)
  rw [thinEntry_payloadKeys]
  show _ ∈ List.map Prod.fst (List.flatMap _ _)
  rw [List.map_flatMap, List.mem_flatMap]
  have inside : place - start < publish.records.length := by omega
  refine ⟨(start, publish), member, mem_payloadsFrom_keys.mpr ⟨place - start, inside, ?_⟩⟩
  rw [Nat.add_sub_cancel' low]

theorem Sound.owners_logged (sound : Sound identity window content db) {entry : GroupEntry}
    (due : Due content db entry) {id : PayloadId} (own : id ∈ (thinEntry entry).1.payloadKeys) :
    (db.view.owners id).isSome = true := by
  obtain ⟨owners, stored, _⟩ :=
    (sound.custody.account id).held (.inl ⟨_, _, due.logged, own⟩)
  rw [view_owners, stored]
  rfl

/-- Stores of the group with the same state agree on the payloads that an entry needs, when its
payloads are in both logs and both own the same ones of what it may reclaim. -/
theorem Sound.payloadsAgree {logged : GroupLogId → PayloadId → Bool} {entry : GroupEntry}
    {command : GroupCommand} (firstSound : Sound identity window content first)
    (secondSound : Sound identity window content second) (same : second.get = first.get)
    (firstDue : Due content first entry) (secondDue : Due content second entry)
    (firstOwns : first.OwnsAs logged entry) (secondOwns : second.OwnsAs logged entry)
    (carries : entry.payload = .normal command) :
    first.view.PayloadsAgree second.view.owners entry.logId command := by
  obtain ⟨logId, payload⟩ := entry
  dsimp only at carries ⊢
  subst carries
  have slots {count : Nat} (own : ∀ place < count, (⟨logId, place⟩ : PayloadId) ∈
      (thinEntry ⟨logId, .normal command⟩).1.payloadKeys) :
      first.view.SlotsAgree second.view.owners logId 0 count := by
    intro place _ below
    have member := own place (by omega)
    rw [firstSound.owners_logged firstDue member, secondSound.owners_logged secondDue member]
  cases command with
  | publish batch => exact slots fun place below => publish_slot below
  | publishMany batch => exact slots fun place below => publishMany_slot below
  | maintainRetention partition expectedCursor maxRecords maxPayloadBytes clock =>
      intro offset below record stored
      have storedToo : second.get (.record partition offset) = some record := by
        rw [same]
        exact stored
      have floor : (second.view.retentionOf partition).logicalFloor =
          (first.view.retentionOf partition).logicalFloor := by
        rw [GroupView.retentionOf, GroupView.retentionOf, view_get, view_get, same]
      obtain ⟨mine, found, _⟩ := (firstSound.custody.account record.payloadKey).held
        (.inr ⟨partition, offset, record, stored, rfl⟩)
      obtain ⟨theirs, foundToo, _⟩ := (secondSound.custody.account record.payloadKey).held
        (.inr ⟨partition, offset, record, storedToo, rfl⟩)
      have one := firstOwns partition rfl offset below record stored mine found
      have two := secondOwns partition rfl offset (by rw [floor]; exact below) record storedToo
        theirs foundToo
      rw [view_owners, view_owners, found, foundToo, Option.map_some, Option.map_some, one, two]
  | _ => exact trivial

theorem applyEntry_same {logged : GroupLogId → PayloadId → Bool} {entry : GroupEntry}
    (firstSound : Sound identity window content first)
    (secondSound : Sound identity window content second) (same : second.get = first.get)
    (firstDue : Due content first entry) (secondDue : Due content second entry)
    (firstOwns : first.OwnsAs logged entry) (secondOwns : second.OwnsAs logged entry) :
    Alike (fun one two => two.1 = one.1 ∧ two.2.get = one.2.get) (first.applyEntry entry)
      (second.applyEntry entry) := by
  have applied := @GroupView.applyPayload_reowned first.view entry.logId second.activeBank
    second.view.owners entry.payload fun command carries =>
      firstSound.payloadsAgree secondSound same firstDue secondDue firstOwns secondOwns carries
  rw [← view_reowned (secondSound.identified.trans firstSound.identified.symm)
    (secondSound.configured.trans firstSound.configured.symm) same] at applied
  unfold applyEntry
  rcases applied with ⟨error, one, two⟩ | ⟨⟨result, write⟩, ⟨_, other⟩, one, two, rfl, state⟩
  · rw [one, two]
    exact alike_error _
  · rw [one, two]
    refine alike_ok ⟨rfl, ?_⟩
    funext key
    dsimp only at state ⊢
    rw [get_commit, get_commit, same, state]

theorem Resumed.agree {logged : GroupLogId → PayloadId → Bool} {firstStart secondStart : GroupDb}
    {firstSteps secondSteps : List Step} (firstSound : Sound identity window content firstStart)
    (secondSound : Sound identity window content secondStart)
    (same : secondStart.get = firstStart.get)
    (firstResumed : Resumed content (OwnsAs logged) firstStart firstSteps first)
    (secondResumed : Resumed content (OwnsAs logged) secondStart secondSteps second)
    (entries : secondSteps.map Step.entry = firstSteps.map Step.entry) :
    secondSteps.map Step.result = firstSteps.map Step.result ∧ second.get = first.get := by
  induction firstResumed generalizing secondSteps second with
  | started =>
      have none : secondSteps = [] := List.map_eq_nil_iff.mp entries
      rw [none]
      exact ⟨rfl, (secondResumed.unstepped none).trans same⟩
  | appended resumed appendable ih => exact ih secondResumed entries
  | truncated resumed done ih =>
      obtain ⟨results, reads⟩ := ih secondResumed entries
      exact ⟨results, reads.trans (removeLogRange_get done).symm⟩
  | purged resumed done ih =>
      obtain ⟨results, reads⟩ := ih secondResumed entries
      exact ⟨results, reads.trans (removeLogRange_get done).symm⟩
  | @applied steps db next entry result resumed due allowed done ih =>
      -- The second replica took its last step over the same entry.
      rw [List.map_append] at entries
      obtain ⟨earlier, last, rfl, before, lastEntry⟩ := List.map_eq_append_iff.mp entries
      obtain ⟨step, rfl, theirs⟩ := List.map_eq_singleton_iff.mp lastEntry
      dsimp only at theirs
      obtain ⟨otherResumed, otherDue, otherOwns, otherDone, reads⟩ := secondResumed.last rfl
      rw [theirs] at otherDue otherOwns otherDone
      obtain ⟨results, sameBefore⟩ := ih otherResumed before
      rcases applyEntry_same (resumed.sound firstSound) (otherResumed.sound secondSound) sameBefore
        due otherDue allowed otherOwns with ⟨_, failed, _⟩ | ⟨_, _, one, two, answer, state⟩
      · rw [done] at failed
        cases failed
      · cases done.symm.trans one
        cases otherDone.symm.trans two
        refine ⟨?_, reads.trans state⟩
        rw [List.map_append, List.map_append, results]
        dsimp only at answer
        simp only [List.map_cons, List.map_nil, answer]
  | built resumed done ih =>
      obtain ⟨_, _, rfl⟩ := buildSnapshot_ok done
      exact ih secondResumed entries

/-- A snapshot of any store can be installed on any store with the same identity, and then that one
reads as its source.  From there both answer the same entries alike, if the logs of both own the
same payloads wherever a reclaim may count them. -/
theorem snapshot_round_trip {logged : GroupLogId → PayloadId → Bool}
    (sourceSurvived : Survived identity window content source) :
    ∃ artifact built, source.buildSnapshot = .ok (artifact, built) ∧
      ∀ (db : GroupDb) (encodedBytes : SnapshotRecord → Nat), db.identity = identity →
        ∃ next, db.installSnapshot encodedBytes artifact.metadata artifact = .ok next ∧
          next.ReadsAs source ∧
          (Survived identity window content db →
            ∀ firstSteps first secondSteps second,
              Resumed content (OwnsAs logged) source firstSteps first →
              Resumed content (OwnsAs logged) next secondSteps second →
              secondSteps.map Step.entry = firstSteps.map Step.entry →
              secondSteps.map Step.result = firstSteps.map Step.result ∧
                second.get = first.get ∧
                ∀ entry, Due content first entry → Due content second entry →
                  first.OwnsAs logged entry → second.OwnsAs logged entry →
                  (second.applyEntry entry).map Prod.fst =
                    (first.applyEntry entry).map Prod.fst) := by
  have sourceSound := sourceSurvived.sound
  obtain ⟨artifact, built, done⟩ := sourceSound.builds
  refine ⟨artifact, built, done, fun db encodedBytes own => ?_⟩
  obtain ⟨next, install, reads⟩ := @Sound.copied db source built content artifact encodedBytes
    identity window sourceSound done own
  refine ⟨next, install, reads, fun survived firstSteps first secondSteps second firstResumed
    secondResumed entries => ?_⟩
  obtain ⟨final, again, _, sound⟩ := @Sound.installs db source built content artifact encodedBytes
    identity window survived.sound sourceSound done
  cases install.symm.trans again
  obtain ⟨results, same⟩ := firstResumed.agree sourceSound sound (funext reads.state) secondResumed
    entries
  refine ⟨results, same, fun entry firstDue secondDue firstOwns secondOwns => ?_⟩
  rcases applyEntry_same (firstResumed.sound sourceSound) (secondResumed.sound sound) same firstDue
    secondDue firstOwns secondOwns with ⟨error, one, two⟩ | ⟨left, right, one, two, answer, _⟩
  · rw [one, two]
  · rw [one, two]
    exact congrArg Except.ok answer

/-! ### A source with its log, and one without -/

def copyOf (db source : GroupDb) : Except IoError GroupDb :=
  match source.buildSnapshot with
  | .error error => .error error
  | .ok (artifact, _) => db.installSnapshot (fun _ => 0) artifact.metadata artifact

theorem copyOf_ok (done : db.copyOf source = .ok next) : ∃ artifact built,
    source.buildSnapshot = .ok (artifact, built) ∧
      db.installSnapshot (fun _ => 0) artifact.metadata artifact = .ok next := by
  unfold copyOf at done
  split at done
  · simp at done
  · rename_i artifact built build
    exact ⟨artifact, built, build, done⟩

theorem UsedBelow.copyOf {bound : Nat} (used : db.UsedBelow bound)
    (sourceUsed : source.UsedBelow bound) (done : db.copyOf source = .ok next) :
    next.UsedBelow bound := by
  obtain ⟨artifact, built, build, install⟩ := copyOf_ok done
  refine ⟨fun index outside => ?_, fun position applied => ?_⟩
  · rw [(installSnapshot_frame install).2.2.1]
    exact used.1 index outside
  · rw [installSnapshot_get build install] at applied
    exact sourceUsed.2 position applied

theorem Resumed.submit {start : GroupDb} {steps : List Step} {entry : GroupEntry}
    {result : ApplyResult} {bound : Nat} (resumed : Resumed content Allowed start steps db)
    (used : db.UsedBelow bound) (above : bound ≤ entry.logId.index)
    (bytes : ∀ payload ∈ (thinEntry entry).2, content payload.1 = payload.2)
    (allowed : Allowed (db.append [entry]) entry) (done : db.submit entry = .ok (result, next)) :
    Resumed content Allowed start (steps ++ [⟨db.append [entry], entry, result, next⟩]) next := by
  obtain ⟨appendable, due⟩ := used.due above bytes
  exact (resumed.appended appendable).applied due allowed done

def reclaimEntry : GroupEntry :=
  ⟨⟨1, 1, 6⟩, .normal (.maintainRetention samplePartition 0 9 9 sampleClock)⟩

/-- A new replica installs the snapshot of one that has purged its log, and both reclaim. -/
theorem snapshot_round_trip_sample : ∃ source next firstSteps first secondSteps second,
    Survived freshData.identity 2 (fun _ => [7]) source ∧ freshData.copyOf source = .ok next ∧
    next.ReadsAs source ∧
    Resumed (fun _ => [7]) (OwnsAs fun _ _ => false) source firstSteps first ∧
    Resumed (fun _ => [7]) (OwnsAs fun _ _ => false) next secondSteps second ∧
    firstSteps.map Step.entry = [reclaimEntry] ∧ secondSteps.map Step.entry = [reclaimEntry] ∧
    secondSteps.map Step.result = firstSteps.map Step.result ∧ second.get = first.get := by
  have runs : freshData.leaves (replayEntries.take 5) (fun db =>
      yields (db.purge ⟨1, 1, 5⟩) fun source => yields (freshData.copyOf source) fun next =>
        yields (source.submit reclaimEntry) fun _ => yields (next.submit reclaimEntry) fun _ =>
          decide ((source.append [reclaimEntry]).OwnsAs (fun _ _ => false) reclaimEntry) &&
            decide ((next.append [reclaimEntry]).OwnsAs (fun _ _ => false) reclaimEntry)) =
      true := by decide
  obtain ⟨results, db, submitted, runs⟩ := leaves_iff.mp runs
  obtain ⟨source, purged, runs⟩ := yields_iff.mp runs
  obtain ⟨next, copied, runs⟩ := yields_iff.mp runs
  obtain ⟨⟨firstResult, first⟩, firstDone, runs⟩ := yields_iff.mp runs
  obtain ⟨⟨secondResult, second⟩, secondDone, runs⟩ := yields_iff.mp runs
  simp only [Bool.and_eq_true, decide_eq_true_eq] at runs
  have ran : Ran freshData.identity 2 (fun _ => [7]) (fun _ _ => True) (replayEntries.take 5) db :=
    Ran.submitAll .created (create_usedBelow _ _) (by decide) (by decide) (fun _ _ _ => trivial)
      submitted
  have used : source.UsedBelow 6 := ((create_usedBelow freshData.identity 2).submitAll (by decide)
    (by decide) (by decide) submitted).purge purged
  have nextUsed : next.UsedBelow 6 :=
    ((create_usedBelow freshData.identity 2).mono (Nat.zero_le 6)).copyOf used copied
  have sourceSurvived := (ran.purged purged).survived
  obtain ⟨artifact, built, done, installs⟩ := @snapshot_round_trip source _ _ _
    (fun _ _ => false) sourceSurvived
  obtain ⟨copy, install, reads, answers⟩ := installs freshData (fun _ => 0) rfl
  obtain ⟨_, _, rebuild, reinstall⟩ := copyOf_ok copied
  cases done.symm.trans rebuild
  cases install.symm.trans reinstall
  have firstResumed := (Resumed.started : Resumed (fun _ => [7]) (OwnsAs fun _ _ => false) source
    [] source).submit used (by decide) (by decide) runs.1 firstDone
  have secondResumed := (Resumed.started : Resumed (fun _ => [7]) (OwnsAs fun _ _ => false) next
    [] next).submit nextUsed (by decide) (by decide) runs.2 secondDone
  obtain ⟨results, same, _⟩ := answers .created _ _ _ _ firstResumed secondResumed rfl
  exact ⟨source, next, _, first, _, second, sourceSurvived, copied, reads, firstResumed,
    secondResumed, rfl, rfl, results, same⟩

def copyDiverges : Bool :=
  match freshData.submitAll (replayEntries.take 5) with
  | .ok (_, source) => match freshData.copyOf source with
      | .ok next => match source.submit reclaimEntry, next.submit reclaimEntry with
          | .ok (.retentionStatus one, _), .ok (.retentionStatus two, _) =>
              decide (two.raftOnlyBytes ≠ one.raftOnlyBytes)
          | _, _ => false
      | .error _ => false
  | .error _ => false

/-- A new replica installs the snapshot of one that has kept its log.  Both then reclaim a record
whose payload only the log of the source still owns, and answer with other counts of its bytes. -/
theorem copied_log_diverges : ∃ source next firstSteps first secondSteps second,
    Survived freshData.identity 2 (fun _ => [7]) source ∧ freshData.copyOf source = .ok next ∧
    Resumed (fun _ => [7]) (fun _ _ => True) source firstSteps first ∧
    Resumed (fun _ => [7]) (fun _ _ => True) next secondSteps second ∧
    firstSteps.map Step.entry = [reclaimEntry] ∧ secondSteps.map Step.entry = [reclaimEntry] ∧
    secondSteps.map Step.result ≠ firstSteps.map Step.result := by
  have runs : copyDiverges = true := by decide
  unfold copyDiverges at runs
  split at runs
  case h_2 => simp at runs
  rename_i results source submitted
  split at runs
  case h_2 => simp at runs
  rename_i next copied
  split at runs
  case h_2 => simp at runs
  rename_i one first two second firstDone secondDone
  have differ := of_decide_eq_true runs
  have ran : Ran freshData.identity 2 (fun _ => [7]) (fun _ _ => True) (replayEntries.take 5)
      source :=
    Ran.submitAll .created (create_usedBelow _ _) (by decide) (by decide) (fun _ _ _ => trivial)
      submitted
  have used : source.UsedBelow 6 := (create_usedBelow freshData.identity 2).submitAll (by decide)
    (by decide) (by decide) submitted
  have nextUsed : next.UsedBelow 6 :=
    ((create_usedBelow freshData.identity 2).mono (Nat.zero_le 6)).copyOf used copied
  have firstResumed := (Resumed.started : Resumed (fun _ => [7]) (fun _ _ => True) source
    [] source).submit used (by decide) (by decide) trivial firstDone
  have secondResumed := (Resumed.started : Resumed (fun _ => [7]) (fun _ _ => True) next
    [] next).submit nextUsed (by decide) (by decide) trivial secondDone
  refine ⟨source, next, _, first, _, second, ran.survived, copied, firstResumed, secondResumed,
    rfl, rfl, fun same => differ ?_⟩
  obtain ⟨answers, _⟩ := List.cons_eq_cons.mp same
  cases answers
  rfl

end GroupDb

end LightStream
