import LightStream.Proofs.InstallPoints

/-!
Stores that outlive broken installations.  Behind every batch of an installation the store shows
the old state or the whole snapshot, each with its payloads, and the next installation starts from
there.
-/

namespace LightStream

/-! ### Control groups hold no records -/

namespace GroupView

variable {view : GroupView} {logId : GroupLogId} {partition : PartitionKey}

def Recordless (view : GroupView) : Prop :=
  ∀ partition offset, view.get (.record partition offset) = none

theorem reclaimLoop_recordless (recordless : view.Recordless) {ranges : List ReplayRange}
    {maxRecords maxPayloadBytes fuel : Nat} {start after : ReclaimState}
    (done : view.reclaimLoop partition ranges maxRecords maxPayloadBytes fuel start = .ok after) :
    after.write = start.write := by
  induction fuel generalizing start with
  | zero =>
      cases done
      rfl
  | succ fuel ih =>
      rw [reclaimLoop] at done
      split at done
      · split at done
        · simp at done
        · cases done
          rfl
        · rename_i next stepped
          rw [ih done]
          unfold reclaimStep at stepped
          dsimp only at stepped
          rw [recordless partition] at stepped
          split at stepped
          · cases stepped
            rfl
          · cases stepped
            rfl
      · cases done
        rfl

theorem dispatch_recordless (control : view.identity.kind = .control)
    (recordless : view.Recordless) {command : GroupCommand} {result : ApplyResult}
    {write : WriteBatch} (done : view.dispatch logId command = .ok (result, write)) :
    write.payload = [] ∧ (view.after write.state).Recordless := by
  have outside {families : List StateFamily} {state : StateBatch} (within : Within families state)
      (apart : StateFamily.record ∉ families) : (view.after state).Recordless := by
    intro partition offset
    rw [← recordless partition offset]
    exact after_get_of_within within apart
  cases moves : command.movesPayloads with
  | false =>
      obtain ⟨within, payload⟩ := dispatch_footprint moves result write done
      refine ⟨payload, outside within ?_⟩
      cases command with
      | exportProtocol command => cases command <;> simp [GroupCommand.families]
      | publish | publishMany | maintainRetention => simp [GroupCommand.movesPayloads] at moves
      | _ => simp [GroupCommand.families, leaseFamilies, decisionFamilies]
  | true =>
      have unserved : view.identity.kind ≠ .data := by
        rw [control]
        decide
      cases command with
      | publish batch =>
          have refused : view.dispatch logId (.publish batch) =
              reject (.identityMismatch "publish reached the control group") := if_pos unserved
          rw [refused] at done
          cases done
          exact ⟨rfl, recordless⟩
      | publishMany batch =>
          have refused : view.dispatch logId (.publishMany batch) =
              reject (.identityMismatch "publish reached the control group") := if_pos unserved
          rw [refused] at done
          cases done
          exact ⟨rfl, recordless⟩
      | maintainRetention partition expectedCursor maxRecords maxPayloadBytes clock =>
          rcases applyMaintainRetention_looped done with
            rfl | ⟨advanced, after, _, _, looped, _, rfl⟩
          · exact ⟨rfl, recordless⟩
          · have written := reclaimLoop_recordless recordless looped
            rw [written]
            have within : Within (maintainFamilies.erase .record)
                (view.expiryWrites (view.expireDueLeases advanced) ++
                  [.put (.retention partition) after.retention, .put .leaseClock advanced]) := by
              rw [within_append]
              exact ⟨(expiryWrites_within _).mono (by decide), by simp [StateKey.family]; decide⟩
            exact ⟨rfl, outside within (by decide)⟩
      | _ => simp [GroupCommand.movesPayloads] at moves

end GroupView

namespace GroupDb

variable {db next left source built : GroupDb} {content : PayloadId → Record}
  {artifact : SnapshotArtifact} {encodedBytes : SnapshotRecord → Nat} {identity : GroupIdentity}
  {window : Nat}

theorem applyEntry_recordless {entry : GroupEntry} {result : ApplyResult}
    (control : db.identity.kind = .control) (recordless : db.view.Recordless)
    (done : db.applyEntry entry = .ok (result, next)) :
    next.payload.get = db.payload.get ∧ next.view.Recordless := by
  unfold applyEntry at done
  split at done
  · simp at done
  rename_i answer write handled
  cases done
  have kept : write.payload = [] ∧ (db.view.after write.state).Recordless := by
    cases payload : entry.payload with
    | blank =>
        rw [payload] at handled
        cases handled
        exact ⟨rfl, recordless⟩
    | membership membership =>
        rw [payload] at handled
        cases handled
        refine ⟨rfl, fun partition offset => ?_⟩
        rw [← recordless partition offset]
        exact GroupView.after_get_of_within (show Within [.membership] _ by simp [StateKey.family])
          (by simp [StateKey.family])
    | normal command =>
        rw [payload] at handled
        rcases GroupView.applyCommand_dispatched handled with dispatched | rfl
        · exact GroupView.dispatch_recordless control recordless dispatched
        · exact ⟨rfl, recordless⟩
  refine ⟨?_, fun partition offset => ?_⟩
  · funext key
    rw [commit_payload, kept.1]
    rfl
  · rw [commit_applied_record]
    exact kept.2 partition offset

theorem Custody.recordless {accounted : PayloadAccount} (lawful : Accounting content accounted)
    (held : Custody accounted db) (before : db.view.Recordless) (after : next.view.Recordless)
    (payload : next.payload.get = db.payload.get) (raftLog : next.raftLog = db.raftLog)
    (bank : next.activeBank = db.activeBank) : Custody accounted next where
  named := by
    rw [raftLog]
    exact held.named
  account := by
    intro id
    have holds := @GroupView.holdsPayload_congr db.view next.view (fun partition offset => by
      rw [after partition offset, before partition offset]) id
    rw [bank]
    refine PayloadAccount.congr (lawful.frame (held.account id) ?_ ?_) ?_ holds
    · rw [payload]
    · rw [payload]
    · rw [LogHolds, LogHolds, raftLog]
  seated := by
    refine fun _ _ => ⟨fun partition offset record stored => ?_,
      fun partition _ offset _ record _ stored => ?_⟩
    · rw [after partition offset] at stored
      cases stored
    · rw [after partition offset] at stored
      cases stored

/-! ### Runs -/

/-- The stores of a replica whose installations may break off behind any of their batches. -/
inductive Survived (identity : GroupIdentity) (window : Nat) (content : PayloadId → Record) :
    GroupDb → Prop
  | created : Survived identity window content (create identity window)
  | appended {db : GroupDb} {entries : List GroupEntry}
      (survived : Survived identity window content db)
      (appendable : Appendable content db entries) :
      Survived identity window content (db.append entries)
  | truncated {db next : GroupDb} {lastLogId : Option GroupLogId}
      (survived : Survived identity window content db)
      (done : db.truncateAfter lastLogId = .ok next) : Survived identity window content next
  | purged {db next : GroupDb} {logId : GroupLogId} (survived : Survived identity window content db)
      (done : db.purge logId = .ok next) : Survived identity window content next
  | applied {db next : GroupDb} {entry : GroupEntry} {result : ApplyResult}
      (survived : Survived identity window content db) (due : Due content db entry)
      (done : db.applyEntry entry = .ok (result, next)) : Survived identity window content next
  | built {db next : GroupDb} {artifact : SnapshotArtifact}
      (survived : Survived identity window content db)
      (done : db.buildSnapshot = .ok (artifact, next)) : Survived identity window content next
  | installed {db source built : GroupDb} {artifact : SnapshotArtifact}
      {encodedBytes : SnapshotRecord → Nat} (survived : Survived identity window content db)
      (sourceSurvived : Survived identity window content source)
      (done : source.buildSnapshot = .ok (artifact, built)) (count : Nat) :
      Survived identity window content
        (db.writeAll ((db.installBatches encodedBytes artifact).take count))

structure Sound (identity : GroupIdentity) (window : Nat) (content : PayloadId → Record)
    (db : GroupDb) : Prop where
  identified : db.identity = identity
  configured : db.receiptWindow = window
  custody : Custody (StrayAccount content) db
  guarded : identity.kind = .data → db.view.Guarded
  recordless : identity.kind = .control → db.view.Recordless

theorem sound_created : Sound identity window content (create identity window) where
  identified := rfl
  configured := rfl
  custody := custody_created (strayAccount_accounting content) identity window
  guarded := fun data => Ran.guarded data (.created : Ran identity window content
    (fun _ _ => True) [] _)
  recordless := fun _ _ _ => rfl

theorem Sound.moved (sound : Sound identity window content source)
    (identified : left.identity = identity) (configured : left.receiptWindow = window)
    (custody : Custody (StrayAccount content) left) (state : left.get = source.get) :
    Sound identity window content left where
  identified := identified
  configured := configured
  custody := custody
  guarded := fun data => (sound.guarded data).of_get fun key _ => by
    rw [view_get, view_get, state]
  recordless := fun control partition offset => by
    rw [view_get, state]
    exact sound.recordless control partition offset

theorem Sound.cut {start : Nat} {stop : Option Nat} {purged : Option GroupLogId}
    (sound : Sound identity window content db)
    (done : db.removeLogRange start stop purged = .ok next) :
    Sound identity window content next := by
  obtain ⟨sameIdentity, sameWindow, banks, bank⟩ := removeLogRange_frame done
  refine sound.moved (sameIdentity.trans sound.identified) (sameWindow.trans sound.configured)
    (sound.custody.cut (strayAccount_accounting content) done) ?_
  exact get_of_bank bank (by rw [banks])

theorem Sound.applied {entry : GroupEntry} {result : ApplyResult}
    (sound : Sound identity window content db) (due : Due content db entry)
    (done : db.applyEntry entry = .ok (result, next)) : Sound identity window content next := by
  have lawful := strayAccount_accounting content
  obtain ⟨sameIdentity, sameWindow, raftLog, bank⟩ := applyEntry_frame done
  have guarded (data : identity.kind = .data) : next.view.Guarded :=
    applyEntry_guarded (by rw [sound.identified, data]) (sound.guarded data) done
  have recordless (control : identity.kind = .control) :=
    applyEntry_recordless (by rw [sound.identified, control]) (sound.recordless control) done
  refine ⟨sameIdentity.trans sound.identified, sameWindow.trans sound.configured, ?_, guarded,
    fun control => (recordless control).2⟩
  cases kind : identity.kind with
  | data =>
      exact sound.custody.applied lawful (sound.guarded kind) (guarded kind) due.unapplied done
  | control =>
      exact sound.custody.recordless lawful (sound.recordless kind) (recordless kind).2
        (recordless kind).1 raftLog bank

theorem Sound.installed (sound : Sound identity window content db)
    (sourceSound : Sound identity window content source)
    (done : source.buildSnapshot = .ok (artifact, built)) (count : Nat) :
    ∃ shown, (shown = db ∨ shown = source) ∧
      (db.writeAll ((db.installBatches encodedBytes artifact).take count)).get = shown.get ∧
      Sound identity window content
        (db.writeAll ((db.installBatches encodedBytes artifact).take count)) := by
  have bodies := (sourceSound.custody.snapshot done).2
  rcases @installBatches_cut db content artifact encodedBytes bodies count with loading | switched
  · exact ⟨db, .inl rfl, loading.state, sound.moved (loading.group.identity.trans sound.identified)
      (loading.group.receiptWindow.trans sound.configured) (loading.custody sound.custody)
      loading.state⟩
  · have state : (db.writeAll ((db.installBatches encodedBytes artifact).take count)).get =
        source.get := funext fun key => (switched.state key).trans (buildSnapshot_reads done key)
    exact ⟨source, .inr rfl, state, sourceSound.moved
      (switched.group.identity.trans sound.identified)
      (switched.group.receiptWindow.trans sound.configured)
      (switched.custody sound.custody sourceSound.custody done) state⟩

theorem Survived.sound (survived : Survived identity window content db) :
    Sound identity window content db := by
  induction survived with
  | created => exact sound_created
  | appended survived appendable ih =>
      exact ih.moved ih.identified ih.configured
        (ih.custody.appended (strayAccount_accounting content) appendable) rfl
  | truncated survived done ih => exact ih.cut done
  | purged survived done ih => exact ih.cut done
  | applied survived due done ih => exact ih.applied due done
  | built survived done ih =>
      obtain ⟨_, _, rfl⟩ := buildSnapshot_ok done
      exact ih.moved ih.identified ih.configured
        ⟨ih.custody.named, ih.custody.account, ih.custody.seated⟩ rfl
  | installed survived sourceSurvived done count ih sourceIh =>
      obtain ⟨_, _, _, sound⟩ := ih.installed sourceIh done count
      exact sound

/-- A store reads as another: the same state through its active bank, and for every record the
payload of the other. -/
structure ReadsAs (db other : GroupDb) : Prop where
  state : ∀ key, db.get key = other.get key
  payloads : ∀ (partition : PartitionKey) (offset : Nat) (record : StoredRecord),
    other.get (.record partition offset) = some record → ∃ bytes,
      other.payload.get (.bytes record.payloadKey) = some bytes ∧
      db.payload.get (.bytes record.payloadKey) = some bytes

theorem Sound.readsAs (sound : Sound identity window content db)
    (sourceSound : Sound identity window content source) (same : db.get = source.get) :
    db.ReadsAs source where
  state := fun key => by rw [same]
  payloads := by
    intro partition offset record stored
    have sourceHolds : source.view.HoldsPayload record.payloadKey :=
      ⟨partition, offset, record, stored, rfl⟩
    have holds : db.view.HoldsPayload record.payloadKey := by
      refine ⟨partition, offset, record, ?_, rfl⟩
      rw [view_get, same]
      exact stored
    obtain ⟨_, _, _, _, sourceBytes⟩ :=
      (sourceSound.custody.account record.payloadKey).held (.inr sourceHolds)
    obtain ⟨_, _, _, _, bytes⟩ := (sound.custody.account record.payloadKey).held (.inr holds)
    exact ⟨_, sourceBytes, bytes⟩

theorem buildSnapshot_format (done : source.buildSnapshot = .ok (artifact, built)) :
    artifact.formatVersion = storageFormatVersion := by
  unfold buildSnapshot at done
  dsimp only at done
  split at done
  · simp at done
  · cases done
    rfl

theorem installSnapshot_batches (format : artifact.formatVersion = storageFormatVersion)
    (own : artifact.identity = db.identity) :
    db.installSnapshot encodedBytes artifact.metadata artifact =
      .ok (db.writeAll (db.installBatches encodedBytes artifact)) := by
  have clears := writeAll_clear (switchTo db.activeBank.inactive artifact
    (db.loadSnapshot encodedBytes artifact)) db.activeBank
  rw [installSnapshot, if_neg (by simp [format, own]), if_neg (by simp), installBatches,
    writeAll_append, writeAll_load, writeAll_cons, clears]
  rfl

theorem Sound.installs (sound : Sound identity window content db)
    (sourceSound : Sound identity window content source)
    (done : source.buildSnapshot = .ok (artifact, built)) :
    ∃ final, db.installSnapshot encodedBytes artifact.metadata artifact = .ok final ∧
      final.ReadsAs source ∧ Sound identity window content final := by
  obtain ⟨own, _, _⟩ := buildSnapshot_ok done
  have install := @installSnapshot_batches db artifact encodedBytes (buildSnapshot_format done)
    (by rw [own, sourceSound.identified, sound.identified])
  obtain ⟨_, _, _, installed⟩ := @Sound.installed db source built content artifact encodedBytes
    identity window sound sourceSound done (db.installBatches encodedBytes artifact).length
  rw [List.take_length] at installed
  have state := funext (installSnapshot_get done install)
  exact ⟨_, install, installed.readsAs sourceSound state, installed⟩

theorem files_restart (db : GroupDb) (legacyState : StateStore) (memory : StateBank) :
    (db.files legacyState memory).migrateStateBanks.db = db := rfl

theorem interruptedInstall_point {read remaining : List SnapshotRecord}
    (records : artifact.records = read ++ remaining) :
    ∃ count, db.interruptedInstall encodedBytes read =
      db.writeAll ((db.installBatches encodedBytes artifact).take count) := by
  obtain ⟨later, whole⟩ :=
    Kv.fullChunks_prefix (installFull encodedBytes) read remaining []
  let written := db.clearBatches db.activeBank.inactive ++
    (Kv.fullChunks (installFull encodedBytes) read []).map fun records store =>
      installChunk db.activeBank.inactive store records
  have cut : (db.installBatches encodedBytes artifact).take written.length = written := by
    rw [installBatches, loadBatches, records, ← whole, List.map_append, ← List.append_assoc,
      List.append_assoc]
    exact List.take_left
  refine ⟨written.length, ?_⟩
  rw [cut, writeAll_append, writeAll_clear, writeAll_chunks]
  rfl

/-- An installation is crash atomic.  Cut behind any of its batches, or by an error of the reader, a
restart finds a store that reads as before or as the source of the snapshot; and from there every
snapshot of the group can be installed, and the store then reads as its source. -/
theorem installation_crash_atomic (survived : Survived identity window content db)
    (sourceSurvived : Survived identity window content source)
    (done : source.buildSnapshot = .ok (artifact, built)) (encodedBytes : SnapshotRecord → Nat) :
    db.installSnapshot encodedBytes artifact.metadata artifact =
        .ok (db.writeAll (db.installBatches encodedBytes artifact)) ∧
      (∀ read remaining, artifact.records = read ++ remaining → ∃ count,
        db.interruptedInstall encodedBytes read =
          db.writeAll ((db.installBatches encodedBytes artifact).take count)) ∧
      ∀ (count : Nat) (legacyState : StateStore) (memory : StateBank),
        let crashed := db.writeAll ((db.installBatches encodedBytes artifact).take count)
        let reopened := (crashed.files legacyState memory).migrateStateBanks.db
        (reopened.ReadsAs db ∨ reopened.ReadsAs source) ∧
          ∀ (later laterBuilt : GroupDb) (laterArtifact : SnapshotArtifact)
            (laterBytes : SnapshotRecord → Nat), Survived identity window content later →
            later.buildSnapshot = .ok (laterArtifact, laterBuilt) → ∃ final,
              reopened.installSnapshot laterBytes laterArtifact.metadata laterArtifact =
                .ok final ∧ final.ReadsAs later := by
  have sound := survived.sound
  have sourceSound := sourceSurvived.sound
  obtain ⟨own, _, _⟩ := buildSnapshot_ok done
  refine ⟨installSnapshot_batches (buildSnapshot_format done) ?_,
    fun read remaining records => interruptedInstall_point records, ?_⟩
  · rw [own, sourceSound.identified, sound.identified]
  · intro count legacyState memory
    dsimp only
    rw [files_restart]
    obtain ⟨shown, which, state, point⟩ := sound.installed sourceSound done count
    refine ⟨?_, fun later laterBuilt laterArtifact laterBytes laterSurvived laterDone => ?_⟩
    · rcases which with old | new
      · rw [old] at state
        exact .inl (point.readsAs sound state)
      · rw [new] at state
        exact .inr (point.readsAs sourceSound state)
    · obtain ⟨final, install, reads, _⟩ := point.installs laterSurvived.sound laterDone
      exact ⟨final, install, reads⟩

theorem Ran.survived {Allowed : GroupDb → GroupEntry → Prop} {history : List GroupEntry}
    (ran : Ran identity window content Allowed history db) :
    Survived identity window content db := by
  induction ran with
  | created => exact .created
  | appended ran appendable ih => exact ih.appended appendable
  | truncated ran done ih => exact ih.truncated done
  | purged ran done ih => exact ih.purged done
  | applied ran due allowed done ih => exact ih.applied due done
  | built ran done ih => exact ih.built done
  | @installed _ _ db next source built artifact encodedBytes ran sourceRan done install ih sourceIh =>
      obtain ⟨own, _⟩ := installSnapshot_ok install
      rw [installSnapshot_batches (buildSnapshot_format done) own] at install
      cases install
      have whole := @Survived.installed identity window content db source built artifact
        encodedBytes ih sourceIh done (db.installBatches encodedBytes artifact).length
      rwa [List.take_length] at whole

/-- A new replica installs the snapshot of another, and crashes behind the first batch. -/
theorem installation_crash_atomic_sample : ∃ source built artifact,
    freshData.submitAll replayEntries = .ok source ∧
    source.2.buildSnapshot = .ok (artifact, built) ∧
    let crashed := freshData.writeAll ((freshData.installBatches (fun _ => 0) artifact).take 1)
    let reopened := (crashed.files Kv.Store.empty .b).migrateStateBanks.db
    (reopened.ReadsAs freshData ∨ reopened.ReadsAs source.2) ∧ ∃ final,
      reopened.installSnapshot (fun _ => 0) artifact.metadata artifact = .ok final ∧
        final.ReadsAs source.2 := by
  have builds : freshData.leaves replayEntries (fun db =>
      yields db.buildSnapshot fun _ => true) = true := by decide
  obtain ⟨results, source, submitted, builds⟩ := leaves_iff.mp builds
  obtain ⟨⟨artifact, built⟩, done, _⟩ := yields_iff.mp builds
  have ran : Ran freshData.identity 2 (fun _ => [7]) (fun _ _ => True) replayEntries source :=
    Ran.submitAll .created (create_usedBelow _ _) (by decide) (by decide)
      (fun _ _ _ => trivial) submitted
  have atomic := installation_crash_atomic
    (.created : Survived freshData.identity 2 (fun _ => [7]) freshData) ran.survived done
    fun _ => 0
  obtain ⟨reads, installs⟩ := atomic.2.2 1 Kv.Store.empty .b
  exact ⟨(results, source), built, artifact, submitted, done, reads,
    installs source built artifact (fun _ => 0) ran.survived done⟩

end GroupDb

end LightStream
