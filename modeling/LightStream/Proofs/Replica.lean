import LightStream.Storage.Snapshot

/-!
What a replica can do with its store: append to its log, cut it at either end, apply the
entries it holds, build a snapshot, and install one that another replica of the group built.
-/

namespace LightStream

theorem StateBank.inactive_ne (bank : StateBank) : bank.inactive ≠ bank := by
  cases bank <;> simp [StateBank.inactive]

namespace GroupDb

section Writes

variable {db : GroupDb} {bank : StateBank}

theorem writeSync_other (db : GroupDb) {write : SyncWrite} (other : bank ≠ write.bank) :
    (db.writeSync write).banks bank = db.banks bank := Function.update_of_ne other ..

theorem writeSync_same (db : GroupDb) (write : SyncWrite) :
    (db.writeSync write).banks write.bank = (db.banks write.bank).commit write.state :=
  Function.update_self ..

theorem foldl_writeSync_banks {writes : List SyncWrite} (onBank : ∀ write ∈ writes, write.bank = bank) :
    (writes.foldl writeSync db).banks bank =
      (db.banks bank).commit (writes.flatMap SyncWrite.state) := by
  induction writes generalizing db with
  | nil => rfl
  | cons write rest ih =>
      have same := onBank write (List.mem_cons_self ..)
      subst same
      rw [List.foldl_cons, ih fun other member => onBank other (List.mem_cons_of_mem _ member),
        writeSync_same, List.flatMap_cons, Kv.Store.commit_append]

theorem foldl_writeSync_other {writes : List SyncWrite} {other : StateBank}
    (onBank : ∀ write ∈ writes, write.bank = bank) (different : other ≠ bank) :
    (writes.foldl writeSync db).banks other = db.banks other := by
  induction writes generalizing db with
  | nil => rfl
  | cons write rest ih =>
      have same := onBank write (List.mem_cons_self ..)
      rw [List.foldl_cons, ih fun other member => onBank other (List.mem_cons_of_mem _ member),
        writeSync_other db (by rw [same]; exact different)]

theorem foldl_writeSync_payload (db : GroupDb) (writes : List SyncWrite) :
    (writes.foldl writeSync db).payload = db.payload.commit (writes.flatMap SyncWrite.payload) := by
  induction writes generalizing db with
  | nil => rfl
  | cons write rest ih =>
      rw [List.foldl_cons, ih, List.flatMap_cons, Kv.Store.commit_append]
      rfl

theorem foldl_writeSync_frame (db : GroupDb) (writes : List SyncWrite) :
    writes.foldl writeSync db =
      { db with
        banks := (writes.foldl writeSync db).banks
        payload := (writes.foldl writeSync db).payload } := by
  induction writes generalizing db with
  | nil => rfl
  | cons write rest ih =>
      rw [List.foldl_cons, ih]
      rfl

end Writes

section Clear

variable {db : GroupDb} {bank : StateBank}

theorem clearStateBankWrites_bank :
    ∀ write ∈ db.clearStateBankWrites bank, write.bank = bank := by
  intro write member
  simp only [clearStateBankWrites, List.mem_append, List.mem_map] at member
  rcases member with ⟨_, _, rfl⟩ | ⟨_, _, rfl⟩ <;> rfl

theorem clearStateBankWrites_state :
    (db.clearStateBankWrites bank).flatMap SyncWrite.state = (db.banks bank).keys.map .delete := by
  simp only [clearStateBankWrites, List.flatMap_append, List.flatMap_map]
  rw [Kv.flatMap_map_chunk, List.flatMap_eq_nil_iff.mpr fun _ _ => rfl, List.append_nil]

theorem clearStateBankWrites_payload :
    (db.clearStateBankWrites bank).flatMap SyncWrite.payload =
      ((scanOwners db.payload).filter fun entry => entry.2.appliedIn bank).flatMap
        (clearOwners bank) := by
  simp only [clearStateBankWrites, List.flatMap_append, List.flatMap_map]
  rw [Kv.flatMap_flatMap_chunk, List.flatMap_eq_nil_iff.mpr fun _ _ => rfl, List.nil_append]

theorem clearStateBank_get (db : GroupDb) (bank : StateBank) (key : StateKey) :
    ((db.clearStateBank bank).banks bank).get key = none := by
  rw [clearStateBank, foldl_writeSync_banks clearStateBankWrites_bank, clearStateBankWrites_state]
  exact Kv.Store.get_commit_delete_keys ..

theorem clearStateBank_other {other : StateBank} (different : other ≠ bank) :
    (db.clearStateBank bank).banks other = db.banks other :=
  foldl_writeSync_other clearStateBankWrites_bank different

theorem clearStateBank_frame (db : GroupDb) (bank : StateBank) :
    db.clearStateBank bank =
      { db with
        banks := (db.clearStateBank bank).banks
        payload := (db.clearStateBank bank).payload } :=
  foldl_writeSync_frame db _

end Clear

section Install

variable {db : GroupDb} {bank : StateBank}

theorem foldl_installChunk_banks (chunks : List (List SnapshotRecord)) :
    (chunks.foldl (installChunk bank) db).banks bank =
      (db.banks bank).commit (chunks.flatten.flatMap SnapshotRecord.stateOps) := by
  induction chunks generalizing db with
  | nil => rfl
  | cons records rest ih =>
      rw [List.foldl_cons, ih, List.flatten_cons, List.flatMap_append, Kv.Store.commit_append]
      congr 1
      exact writeSync_same db ⟨bank, _, _⟩

theorem foldl_installChunk_other {other : StateBank} (different : other ≠ bank)
    (chunks : List (List SnapshotRecord)) :
    (chunks.foldl (installChunk bank) db).banks other = db.banks other := by
  induction chunks generalizing db with
  | nil => rfl
  | cons records rest ih =>
      rw [List.foldl_cons, ih]
      exact writeSync_other db different

theorem foldl_installChunk_frame (chunks : List (List SnapshotRecord)) :
    chunks.foldl (installChunk bank) db =
      { db with
        banks := (chunks.foldl (installChunk bank) db).banks
        payload := (chunks.foldl (installChunk bank) db).payload } := by
  induction chunks generalizing db with
  | nil => rfl
  | cons records rest ih =>
      rw [List.foldl_cons, ih]
      rfl

theorem records_stateOps (artifact : SnapshotArtifact) :
    artifact.records.flatMap SnapshotRecord.stateOps = Kv.loads artifact.state := by
  simp only [SnapshotArtifact.records, List.flatMap_append, List.flatMap_map,
    SnapshotRecord.stateOps, Kv.loads]
  rw [List.flatMap_eq_nil_iff.mpr fun _ _ => rfl, List.append_nil, ← List.map_eq_flatMap]

def loadSnapshot (db : GroupDb) (encodedBytes : SnapshotRecord → Nat)
    (artifact : SnapshotArtifact) : GroupDb :=
  (Kv.chunk (installFull encodedBytes) artifact.records []).foldl
    (installChunk db.activeBank.inactive) (db.clearStateBank db.activeBank.inactive)

def switchBank (db : GroupDb) (encodedBytes : SnapshotRecord → Nat)
    (artifact : SnapshotArtifact) : GroupDb :=
  { db.loadSnapshot encodedBytes artifact with
    currentSnapshot := some artifact
    activeBank := db.activeBank.inactive }

variable {next source : GroupDb} {encodedBytes : SnapshotRecord → Nat} {metadata : SnapshotMeta}
  {artifact : SnapshotArtifact}

theorem installSnapshot_ok
    (installed : db.installSnapshot encodedBytes metadata artifact = .ok next) :
    artifact.identity = db.identity ∧
      next = (db.switchBank encodedBytes artifact).clearStateBank db.activeBank := by
  unfold installSnapshot at installed
  split at installed
  · simp at installed
  rename_i accepted
  split at installed
  · simp at installed
  cases installed
  simp only [not_or, ne_eq, not_not] at accepted
  exact ⟨accepted.2, rfl⟩

theorem loadSnapshot_get (artifact : SnapshotArtifact) (key : StateKey) :
    ((db.loadSnapshot encodedBytes artifact).banks db.activeBank.inactive).get key =
      ((Kv.loads artifact.state).effect key).getD none := by
  rw [loadSnapshot, foldl_installChunk_banks, Kv.flatten_chunk, List.nil_append,
    records_stateOps, Kv.Store.get_commit, clearStateBank_get]

theorem buildSnapshot_ok {built : GroupDb} (done : db.buildSnapshot = .ok (artifact, built)) :
    artifact.identity = db.identity ∧ artifact.state = db.state.entries ∧
      built = { db with currentSnapshot := some artifact } := by
  unfold buildSnapshot at done
  dsimp only at done
  split at done
  · simp at done
  · cases done
    exact ⟨rfl, rfl, rfl⟩

theorem installSnapshot_get {built : GroupDb} (done : source.buildSnapshot = .ok (artifact, built))
    (installed : db.installSnapshot encodedBytes metadata artifact = .ok next) (key : StateKey) :
    next.get key = source.get key := by
  obtain ⟨_, rfl⟩ := installSnapshot_ok installed
  obtain ⟨_, state, _⟩ := buildSnapshot_ok done
  have bank : ((db.switchBank encodedBytes artifact).clearStateBank db.activeBank).activeBank =
      db.activeBank.inactive := by
    rw [clearStateBank_frame]
    rfl
  rw [get, GroupDb.state, bank, clearStateBank_other (StateBank.inactive_ne _)]
  show ((db.loadSnapshot encodedBytes artifact).banks db.activeBank.inactive).get key = _
  rw [loadSnapshot_get, state]
  have loaded := Kv.Store.get_commit_entries (Kv.Store.empty : StateStore) source.state key
  rw [Kv.Store.get_commit, Kv.Store.get_empty, Option.or_none] at loaded
  exact loaded

theorem installSnapshot_frame
    (installed : db.installSnapshot encodedBytes metadata artifact = .ok next) :
    next.identity = db.identity ∧ next.receiptWindow = db.receiptWindow ∧
      next.raftLog = db.raftLog ∧ next.activeBank = db.activeBank.inactive := by
  obtain ⟨_, rfl⟩ := installSnapshot_ok installed
  rw [clearStateBank_frame]
  unfold switchBank loadSnapshot
  rw [foldl_installChunk_frame, clearStateBank_frame db]
  exact ⟨rfl, rfl, rfl, rfl⟩

end Install

theorem removeLogRange_frame {db next : GroupDb} {start : Nat} {stop : Option Nat}
    {purged : Option GroupLogId} (done : db.removeLogRange start stop purged = .ok next) :
    next.identity = db.identity ∧ next.receiptWindow = db.receiptWindow ∧
      next.banks = db.banks ∧ next.activeBank = db.activeBank := by
  unfold removeLogRange at done
  dsimp only at done
  split at done
  · simp at done
  · cases done
    exact ⟨rfl, rfl, rfl, rfl⟩

/-- The entries that a log accepts: at free indexes above the applied position, with bodies that
are the same on every replica. -/
structure Appendable (content : PayloadId → Record) (db : GroupDb) (entries : List GroupEntry) :
    Prop where
  free : ∀ entry ∈ entries, db.raftLog.get entry.logId.index = none
  unapplied : ∀ entry ∈ entries, ∀ position,
    db.get .applied = some position → position.index < entry.logId.index
  distinct : (entries.map fun entry => entry.logId.index).Nodup
  bytes : ∀ entry ∈ entries, ∀ payload ∈ (thinEntry entry).2, content payload.1 = payload.2

structure Due (content : PayloadId → Record) (db : GroupDb) (entry : GroupEntry) : Prop where
  logged : db.raftLog.get entry.logId.index = some (thinEntry entry).1
  unapplied : ∀ position, db.get .applied = some position → position.index < entry.logId.index
  bytes : ∀ payload ∈ (thinEntry entry).2, content payload.1 = payload.2

/-- The stores of a replica, each with the entries that its state has applied.  `Allowed`
restricts the entries by the store they meet. -/
inductive Ran (identity : GroupIdentity) (window : Nat) (content : PayloadId → Record)
    (Allowed : GroupDb → GroupEntry → Prop) : List GroupEntry → GroupDb → Prop
  | created : Ran identity window content Allowed [] (create identity window)
  | appended {history : List GroupEntry} {db : GroupDb} {entries : List GroupEntry}
      (ran : Ran identity window content Allowed history db)
      (appendable : Appendable content db entries) :
      Ran identity window content Allowed history (db.append entries)
  | truncated {history : List GroupEntry} {db next : GroupDb} {lastLogId : Option GroupLogId}
      (ran : Ran identity window content Allowed history db)
      (done : db.truncateAfter lastLogId = .ok next) :
      Ran identity window content Allowed history next
  | purged {history : List GroupEntry} {db next : GroupDb} {logId : GroupLogId}
      (ran : Ran identity window content Allowed history db)
      (done : db.purge logId = .ok next) : Ran identity window content Allowed history next
  | applied {history : List GroupEntry} {db next : GroupDb} {entry : GroupEntry}
      {result : ApplyResult} (ran : Ran identity window content Allowed history db)
      (due : Due content db entry) (allowed : Allowed db entry)
      (done : db.applyEntry entry = .ok (result, next)) :
      Ran identity window content Allowed (history ++ [entry]) next
  | built {history : List GroupEntry} {db next : GroupDb} {artifact : SnapshotArtifact}
      (ran : Ran identity window content Allowed history db)
      (done : db.buildSnapshot = .ok (artifact, next)) :
      Ran identity window content Allowed history next
  | installed {history stored : List GroupEntry} {db next source built : GroupDb}
      {artifact : SnapshotArtifact} {encodedBytes : SnapshotRecord → Nat}
      (ran : Ran identity window content Allowed history db)
      (sourceRan : Ran identity window content Allowed stored source)
      (done : source.buildSnapshot = .ok (artifact, built))
      (install : db.installSnapshot encodedBytes artifact.metadata artifact = .ok next) :
      Ran identity window content Allowed stored next

section Runs

variable {identity : GroupIdentity} {window : Nat} {content : PayloadId → Record}
  {Allowed : GroupDb → GroupEntry → Prop} {history : List GroupEntry} {db : GroupDb}

theorem applyEntry_frame {next : GroupDb} {entry : GroupEntry} {result : ApplyResult}
    (done : db.applyEntry entry = .ok (result, next)) :
    next.identity = db.identity ∧ next.receiptWindow = db.receiptWindow ∧
      next.raftLog = db.raftLog ∧ next.activeBank = db.activeBank := by
  unfold applyEntry at done
  split at done
  · simp at done
  · cases done
    exact ⟨rfl, rfl, rfl, rfl⟩

theorem Ran.weaken {Weaker : GroupDb → GroupEntry → Prop}
    (implied : ∀ db entry, Allowed db entry → Weaker db entry)
    (ran : Ran identity window content Allowed history db) :
    Ran identity window content Weaker history db := by
  induction ran with
  | created => exact .created
  | appended ran appendable ih => exact ih.appended appendable
  | truncated ran done ih => exact ih.truncated done
  | purged ran done ih => exact ih.purged done
  | applied ran due allowed done ih => exact ih.applied due (implied _ _ allowed) done
  | built ran done ih => exact ih.built done
  | installed ran sourceRan done install ih sourceIh => exact ih.installed sourceIh done install

theorem Ran.settings (ran : Ran identity window content Allowed history db) :
    db.identity = identity ∧ db.receiptWindow = window := by
  induction ran with
  | created => exact ⟨rfl, rfl⟩
  | appended ran appendable ih => exact ih
  | truncated ran done ih =>
      obtain ⟨first, second, _, _⟩ := removeLogRange_frame done
      exact ⟨first.trans ih.1, second.trans ih.2⟩
  | purged ran done ih =>
      obtain ⟨first, second, _, _⟩ := removeLogRange_frame done
      exact ⟨first.trans ih.1, second.trans ih.2⟩
  | applied ran due allowed done ih =>
      obtain ⟨first, second, _, _⟩ := applyEntry_frame done
      exact ⟨first.trans ih.1, second.trans ih.2⟩
  | built ran done ih =>
      obtain ⟨_, _, rfl⟩ := buildSnapshot_ok done
      exact ih
  | installed ran sourceRan done install ih sourceIh =>
      obtain ⟨first, second, _, _⟩ := installSnapshot_frame install
      exact ⟨first.trans ih.1, second.trans ih.2⟩

/-- A property of the replicated state that the empty state has and that every allowed entry
preserves holds after every run. -/
theorem Ran.invariant {Inv : ((key : StateKey) → Option (StateVal key)) → Prop}
    (initial : Inv fun _ => none)
    (step : ∀ {history : List GroupEntry} {db next : GroupDb} {entry : GroupEntry}
      {result : ApplyResult}, Ran identity window content Allowed history db → Inv db.get →
      Due content db entry → Allowed db entry → db.applyEntry entry = .ok (result, next) →
      Inv next.get)
    (ran : Ran identity window content Allowed history db) : Inv db.get := by
  have same {first second : GroupDb} (banks : first.banks = second.banks)
      (bank : first.activeBank = second.activeBank) : first.get = second.get := by
    funext key
    rw [get, get, GroupDb.state, GroupDb.state, banks, bank]
  induction ran with
  | created => exact initial
  | appended ran appendable ih => exact ih
  | truncated ran done ih =>
      obtain ⟨_, _, banks, bank⟩ := removeLogRange_frame done
      rw [same banks bank]
      exact ih
  | purged ran done ih =>
      obtain ⟨_, _, banks, bank⟩ := removeLogRange_frame done
      rw [same banks bank]
      exact ih
  | applied ran due allowed done ih => exact step ran ih due allowed done
  | built ran done ih =>
      obtain ⟨_, _, rfl⟩ := buildSnapshot_ok done
      exact ih
  | installed ran sourceRan done install ih sourceIh =>
      have reads := funext (installSnapshot_get done install)
      rw [reads]
      exact sourceIh

def submit (db : GroupDb) (entry : GroupEntry) : Except IoError (ApplyResult × GroupDb) :=
  (db.append [entry]).applyEntry entry

def submitAll (db : GroupDb) : List GroupEntry → Except IoError (List ApplyResult × GroupDb)
  | [] => .ok ([], db)
  | entry :: rest =>
      match db.submit entry with
      | .error error => .error error
      | .ok (result, next) =>
          match next.submitAll rest with
          | .error error => .error error
          | .ok (results, last) => .ok (result :: results, last)

def leaves (db : GroupDb) (entries : List GroupEntry) (check : GroupDb → Bool) : Bool :=
  yields (db.submitAll entries) fun done => check done.2

theorem leaves_iff {entries : List GroupEntry} {check : GroupDb → Bool} :
    db.leaves entries check = true ↔
      ∃ results last, db.submitAll entries = .ok (results, last) ∧ check last = true := by
  rw [leaves, yields_iff]
  constructor
  · rintro ⟨⟨results, last⟩, submitted, checked⟩
    exact ⟨results, last, submitted, checked⟩
  · rintro ⟨results, last, submitted, checked⟩
    exact ⟨(results, last), submitted, checked⟩

/-- Every index that the log or the applied position has used is below a bound. -/
def UsedBelow (db : GroupDb) (bound : Nat) : Prop :=
  (∀ index, bound ≤ index → db.raftLog.get index = none) ∧
    ∀ position, db.get .applied = some position → position.index < bound

theorem create_usedBelow (identity : GroupIdentity) (window : Nat) :
    (create identity window).UsedBelow 0 :=
  ⟨fun _ _ => rfl, fun _ impossible => by cases impossible⟩

theorem applyEntry_applied {next : GroupDb} {entry : GroupEntry} {result : ApplyResult}
    (done : db.applyEntry entry = .ok (result, next)) :
    next.get .applied = some entry.logId := by
  unfold applyEntry at done
  split at done
  · simp at done
  · cases done
    rw [get_commit, Kv.Batch.effect_append]
    simp

theorem append_logged (db : GroupDb) (entry : GroupEntry) (index : Nat) :
    (db.append [entry]).raftLog.get index =
      if index = entry.logId.index then some (thinEntry entry).1 else db.raftLog.get index := by
  have logId : (thinEntry entry).1.logId = entry.logId := by
    unfold thinEntry
    split <;> rfl
  simp only [append, List.map_cons, List.map_nil, Kv.Store.commit_cons, Kv.Store.commit_nil,
    Kv.Store.write, logId]
  split
  · rename_i same
    subst same
    exact Kv.Store.get_put_self ..
  · rename_i different
    exact Kv.Store.get_put_of_ne _ _ different

theorem UsedBelow.submit {next : GroupDb} {entry : GroupEntry} {result : ApplyResult} {bound : Nat}
    (used : db.UsedBelow bound) (above : bound ≤ entry.logId.index)
    (done : db.submit entry = .ok (result, next)) : next.UsedBelow (entry.logId.index + 1) := by
  refine ⟨?_, ?_⟩
  · intro index outside
    rw [(applyEntry_frame done).2.2.1, append_logged, if_neg (by omega)]
    exact used.1 index (by omega)
  · intro position applied
    rw [applyEntry_applied done] at applied
    cases applied
    omega

theorem UsedBelow.mono {bound above : Nat} (used : db.UsedBelow bound) (order : bound ≤ above) :
    db.UsedBelow above :=
  ⟨fun index outside => used.1 index (order.trans outside),
    fun position applied => (used.2 position applied).trans_le order⟩

theorem UsedBelow.submitAll {entries : List GroupEntry} {next : GroupDb}
    {results : List ApplyResult} {bound above : Nat} (used : db.UsedBelow bound)
    (order : bound ≤ above)
    (growing : (bound :: entries.map fun entry => entry.logId.index + 1).Pairwise (· < ·))
    (below : ∀ entry ∈ entries, entry.logId.index < above)
    (done : db.submitAll entries = .ok (results, next)) : next.UsedBelow above := by
  induction entries generalizing db bound results with
  | nil =>
      cases done
      exact used.mono order
  | cons entry rest ih =>
      simp only [GroupDb.submitAll] at done
      split at done
      · simp at done
      rename_i result middle submitted
      split at done
      · simp at done
      rename_i tailResults last submittedRest
      cases done
      obtain ⟨first, later⟩ := List.pairwise_cons.mp growing
      have start : bound ≤ entry.logId.index := by
        have step := first (entry.logId.index + 1) (by simp)
        omega
      exact ih (used.submit start submitted) (below entry (by simp)) (by simpa using later)
        (fun other member => below other (by simp [member])) submittedRest

theorem UsedBelow.due {entry : GroupEntry} {bound : Nat} (used : db.UsedBelow bound)
    (above : bound ≤ entry.logId.index)
    (bytes : ∀ payload ∈ (thinEntry entry).2, content payload.1 = payload.2) :
    Appendable content db [entry] ∧ Due content (db.append [entry]) entry := by
  have unapplied : ∀ position, db.get .applied = some position →
      position.index < entry.logId.index := by
    intro position applied
    have below := used.2 position applied
    omega
  refine ⟨⟨?_, ?_, by simp, by simpa using bytes⟩, ?_, unapplied, bytes⟩
  · intro other member
    rw [List.mem_singleton.mp member]
    exact used.1 _ above
  · intro other member
    rw [List.mem_singleton.mp member]
    exact unapplied
  · rw [append_logged, if_pos rfl]

section Submissions

variable (Inv : List GroupEntry → GroupDb → Prop)
  (appended : ∀ {history : List GroupEntry} {db : GroupDb} {entries : List GroupEntry},
    Inv history db → Appendable content db entries → Inv history (db.append entries))
  (applied : ∀ {history : List GroupEntry} {db next : GroupDb} {entry : GroupEntry}
    {result : ApplyResult}, Inv history db → Due content db entry → Allowed db entry →
    db.applyEntry entry = .ok (result, next) → Inv (history ++ [entry]) next)

include appended applied

/-- What appending and applying carry on, submitting an entry at a fresh index does. -/
theorem submit_rule {next : GroupDb} {entry : GroupEntry} {result : ApplyResult} {bound : Nat}
    (held : Inv history db) (used : db.UsedBelow bound) (above : bound ≤ entry.logId.index)
    (bytes : ∀ payload ∈ (thinEntry entry).2, content payload.1 = payload.2)
    (allowed : Allowed (db.append [entry]) entry) (done : db.submit entry = .ok (result, next)) :
    Inv (history ++ [entry]) next := by
  obtain ⟨appendable, due⟩ := used.due above bytes
  exact applied (appended held appendable) due allowed done

/-- A replica that submits entries at growing indexes, each one allowed wherever it is met. -/
theorem submitAll_rule {entries : List GroupEntry} {next : GroupDb} {results : List ApplyResult}
    {bound : Nat} (held : Inv history db) (used : db.UsedBelow bound)
    (growing : (bound :: entries.map fun entry => entry.logId.index + 1).Pairwise (· < ·))
    (bytes : ∀ entry ∈ entries, ∀ payload ∈ (thinEntry entry).2, content payload.1 = payload.2)
    (allowed : ∀ entry ∈ entries, ∀ met, Allowed met entry)
    (done : db.submitAll entries = .ok (results, next)) : Inv (history ++ entries) next := by
  induction entries generalizing db history bound results with
  | nil =>
      cases done
      rwa [List.append_nil]
  | cons entry rest ih =>
      simp only [GroupDb.submitAll] at done
      split at done
      · simp at done
      rename_i result middle submitted
      split at done
      · simp at done
      rename_i tailResults last submittedRest
      cases done
      obtain ⟨first, later⟩ := List.pairwise_cons.mp growing
      have above : bound ≤ entry.logId.index := by
        have below := first (entry.logId.index + 1) (by simp)
        omega
      have step := submit_rule Inv appended applied held used above (bytes entry (by simp))
        (allowed entry (by simp) _) submitted
      have rest := ih step (used.submit above submitted) (by simpa using later)
        (fun other member => bytes other (by simp [member]))
        (fun other member => allowed other (by simp [member])) submittedRest
      rwa [List.append_assoc, List.singleton_append] at rest

end Submissions

theorem Ran.submit {next : GroupDb} {entry : GroupEntry} {result : ApplyResult} {bound : Nat}
    (ran : Ran identity window content Allowed history db) (used : db.UsedBelow bound)
    (above : bound ≤ entry.logId.index)
    (bytes : ∀ payload ∈ (thinEntry entry).2, content payload.1 = payload.2)
    (allowed : Allowed (db.append [entry]) entry) (done : db.submit entry = .ok (result, next)) :
    Ran identity window content Allowed (history ++ [entry]) next :=
  submit_rule (Ran identity window content Allowed) Ran.appended Ran.applied ran used above bytes
    allowed done

theorem Ran.submitAll {entries : List GroupEntry} {next : GroupDb} {results : List ApplyResult}
    {bound : Nat} (ran : Ran identity window content Allowed history db) (used : db.UsedBelow bound)
    (growing : (bound :: entries.map fun entry => entry.logId.index + 1).Pairwise (· < ·))
    (bytes : ∀ entry ∈ entries, ∀ payload ∈ (thinEntry entry).2, content payload.1 = payload.2)
    (allowed : ∀ entry ∈ entries, ∀ met, Allowed met entry)
    (done : db.submitAll entries = .ok (results, next)) :
    Ran identity window content Allowed (history ++ entries) next :=
  submitAll_rule (Ran identity window content Allowed) Ran.appended Ran.applied ran used growing
    bytes allowed done

end Runs

end GroupDb

end LightStream
