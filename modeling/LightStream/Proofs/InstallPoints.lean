import LightStream.Proofs.Leftovers

/-!
The points of an installation.  Behind every one of its batches the store is still loading the
inactive bank, with the old state untouched, or has switched to the whole snapshot.
-/

namespace LightStream

theorem StateBank.inactive_inactive (bank : StateBank) : bank.inactive.inactive = bank := by
  cases bank <;> rfl

namespace GroupDb

variable {db next left source built : GroupDb} {content : PayloadId → Record}
  {artifact : SnapshotArtifact} {encodedBytes : SnapshotRecord → Nat}

theorem Custody.snapshot (held : Custody (StrayAccount content) source)
    (done : source.buildSnapshot = .ok (artifact, built)) :
    (∀ id, id ∈ artifact.payloads.map Prod.fst ↔ source.view.HoldsPayload id) ∧
      ∀ payload ∈ artifact.payloads, payload.2 = content payload.1 := by
  obtain ⟨keys, bodies⟩ := buildSnapshot_payloads done
  constructor
  · intro id
    obtain ⟨log, state, stale, _, isApplied, owned⟩ := held.account id
    rw [keys]
    constructor
    · rintro ⟨owners, stored, mine⟩
      obtain ⟨rfl, _, _⟩ := owned.stored stored
      rw [strayed_appliedIn] at mine
      exact isApplied.mp mine
    · intro holds
      obtain ⟨owners, stored, _, mine, _⟩ := (held.account id).held (.inr holds)
      exact ⟨owners, stored, mine.mpr holds⟩
  · intro payload member
    obtain ⟨owners, stored, _⟩ := (keys payload.1).mp (List.mem_map.mpr ⟨payload, member, rfl⟩)
    obtain ⟨log, state, stale, _, _, owned⟩ := held.account payload.1
    obtain ⟨_, _, bytes⟩ := owned.stored stored
    rw [bodies payload member] at bytes
    exact Option.some.inj bytes

/-! ### The three phases of an installation -/

structure SameGroup (left db : GroupDb) : Prop where
  identity : left.identity = db.identity
  receiptWindow : left.receiptWindow = db.receiptWindow
  raftLog : left.raftLog = db.raftLog

/-- Before the switch: the active bank is untouched, and the payloads have the owners that they had,
whatever is said of the other bank. -/
structure Loading (content : PayloadId → Record) (db left : GroupDb) : Prop where
  group : SameGroup left db
  bank : left.activeBank = db.activeBank
  state : left.get = db.get
  owned : ∀ id (log state stale : Bool),
    OwnedAs content db.payload.get id (strayed db.activeBank log state stale) →
    ∃ remains, OwnedAs content left.payload.get id (strayed db.activeBank log state remains)

structure Switched (content : PayloadId → Record) (db : GroupDb) (artifact : SnapshotArtifact)
    (left : GroupDb) : Prop where
  group : SameGroup left db
  bank : left.activeBank = db.activeBank.inactive
  state : ∀ key, left.get key = ((Kv.loads artifact.state).effect key).getD none
  owned : ∀ id (log state stale : Bool),
    OwnedAs content db.payload.get id (strayed db.activeBank log state stale) →
    ∃ remains, OwnedAs content left.payload.get id
      (strayed db.activeBank.inactive log (decide (id ∈ artifact.payloads.map Prod.fst)) remains)

theorem get_of_bank (bank : left.activeBank = db.activeBank)
    (banks : left.banks db.activeBank = db.banks db.activeBank) : left.get = db.get := by
  funext key
  rw [get, get, GroupDb.state, GroupDb.state, bank, banks]

theorem loading_cleared {writes : List SyncWrite}
    (inside : ∀ write ∈ writes, write ∈ db.clearStateBankWrites db.activeBank.inactive) :
    Loading content db (writes.foldl writeSync db) := by
  have frame := foldl_writeSync_frame db writes
  have bank : (writes.foldl writeSync db).activeBank = db.activeBank := by
    rw [frame]
  have onBank : ∀ write ∈ writes, write.bank = db.activeBank.inactive :=
    fun write member => clearStateBankWrites_bank write (inside write member)
  have untouched : (writes.foldl writeSync db).banks db.activeBank = db.banks db.activeBank :=
    foldl_writeSync_other onBank (StateBank.inactive_ne _).symm
  refine ⟨?_, bank, get_of_bank bank untouched, ?_⟩
  · rw [frame]
    exact ⟨rfl, rfl, rfl⟩
  · intro id log state stale owned
    rcases clearWrites_owned inside owned with same | released
    · exact ⟨stale, same⟩
    · rw [strayed_setInactive] at released
      exact ⟨false, released⟩

theorem loading_clear : Loading content db (db.clearStateBank db.activeBank.inactive) :=
  loading_cleared fun _ member => member

theorem cleared_owned {id : PayloadId} {log state stale : Bool}
    (owned : OwnedAs content db.payload.get id (strayed db.activeBank log state stale)) :
    OwnedAs content (db.clearStateBank db.activeBank.inactive).payload.get id
      (strayed db.activeBank log state false) := by
  have released := @clearStateBank_owned_as db db.activeBank.inactive content id _ rfl owned
  rwa [strayed_setInactive] at released

theorem loading_chunks {chunks : List (List SnapshotRecord)}
    (bodies : ∀ payload ∈ carried chunks.flatten, payload.2 = content payload.1) :
    Loading content db (chunks.foldl (installChunk db.activeBank.inactive)
      (db.clearStateBank db.activeBank.inactive)) := by
  have cleared := @loading_clear db content
  have frame := @foldl_installChunk_frame (db.clearStateBank db.activeBank.inactive)
    db.activeBank.inactive chunks
  have bank : (chunks.foldl (installChunk db.activeBank.inactive)
      (db.clearStateBank db.activeBank.inactive)).activeBank =
        (db.clearStateBank db.activeBank.inactive).activeBank := by
    rw [frame]
  have untouched := @foldl_installChunk_other (db.clearStateBank db.activeBank.inactive)
    db.activeBank.inactive db.activeBank (StateBank.inactive_ne _).symm chunks
  refine ⟨?_, bank.trans cleared.bank, ?_, ?_⟩
  · rw [frame]
    exact ⟨cleared.group.identity, cleared.group.receiptWindow, cleared.group.raftLog⟩
  · rw [← cleared.state]
    refine get_of_bank bank ?_
    rw [cleared.bank]
    exact untouched
  · intro id log state stale owned
    exact ⟨_, installChunks_owned bodies (cleared_owned owned)⟩

theorem switched_cleared {writes : List SyncWrite} {loaded : GroupDb}
    (bodies : ∀ payload ∈ artifact.payloads, payload.2 = content payload.1)
    (isLoaded : loaded = switchTo db.activeBank.inactive artifact
      (db.loadSnapshot encodedBytes artifact))
    (inside : ∀ write ∈ writes, write ∈ loaded.clearStateBankWrites db.activeBank) :
    Switched content db artifact (writes.foldl writeSync loaded) := by
  have carries : carried (Kv.chunk (installFull encodedBytes) artifact.records []).flatten =
      artifact.payloads := by
    rw [Kv.flatten_chunk, List.nil_append, carried_records]
  have loading : Loading content db (db.loadSnapshot encodedBytes artifact) :=
    loading_chunks (by rwa [carries])
  have frame := foldl_writeSync_frame loaded writes
  have active : loaded.activeBank = db.activeBank.inactive := by
    rw [isLoaded]
    rfl
  have onBank : ∀ write ∈ writes, write.bank = db.activeBank :=
    fun write member => clearStateBankWrites_bank write (inside write member)
  refine ⟨?_, ?_, ?_, ?_⟩
  · rw [frame, isLoaded]
    exact ⟨loading.group.identity, loading.group.receiptWindow, loading.group.raftLog⟩
  · rw [frame]
    exact active
  · intro key
    have untouched : (writes.foldl writeSync loaded).banks loaded.activeBank =
        loaded.banks loaded.activeBank := by
      refine foldl_writeSync_other onBank ?_
      rw [active]
      exact StateBank.inactive_ne _
    have bank : (writes.foldl writeSync loaded).activeBank = loaded.activeBank := by
      rw [frame]
    rw [get_of_bank bank untouched, isLoaded]
    exact loadSnapshot_get artifact key
  · intro id log state stale owned
    have brought := @installChunks_owned (db.clearStateBank db.activeBank.inactive) db.activeBank
      content id (Kv.chunk (installFull encodedBytes) artifact.records []) log state false
      (by rwa [carries]) (cleared_owned owned)
    rw [carries, Bool.or_false, strayed_switched] at brought
    have start : OwnedAs content loaded.payload.get id
        (strayed db.activeBank.inactive log (decide (id ∈ artifact.payloads.map Prod.fst)) state) := by
      rw [isLoaded]
      exact brought
    rcases clearWrites_owned inside start with same | released
    · exact ⟨state, same⟩
    · have brings := @strayed_setInactive db.activeBank.inactive log
        (decide (id ∈ artifact.payloads.map Prod.fst)) state false
      rw [StateBank.inactive_inactive] at brings
      rw [brings] at released
      exact ⟨false, released⟩

/-! ### Custody at every point -/

theorem Loading.custody (loading : Loading content db left)
    (held : Custody (StrayAccount content) db) : Custody (StrayAccount content) left where
  named := by
    rw [loading.group.raftLog]
    exact held.named
  account := by
    intro id
    obtain ⟨log, state, stale, isLogged, isApplied, owned⟩ := held.account id
    obtain ⟨remains, kept⟩ := loading.owned id log state stale owned
    rw [loading.bank]
    have holds := @GroupView.holdsPayload_congr db.view left.view
      (fun partition offset => congrFun loading.state _) id
    refine ⟨log, state, remains, ?_, isApplied.trans holds.symm, kept⟩
    rw [LogHolds, loading.group.raftLog]
    exact isLogged
  seated := by
    intro logId above
    rw [loading.state] at above
    refine (held.seated logId above).kept fun partition offset record found => ?_
    rwa [view_get, loading.state] at found

theorem buildSnapshot_reads (done : source.buildSnapshot = .ok (artifact, built)) (key : StateKey) :
    ((Kv.loads artifact.state).effect key).getD none = source.get key := by
  obtain ⟨_, state, _⟩ := buildSnapshot_ok done
  rw [state]
  have loaded := Kv.Store.get_commit_entries (Kv.Store.empty : StateStore) source.state key
  rwa [Kv.Store.get_commit, Kv.Store.get_empty, Option.or_none] at loaded

theorem Switched.custody (switched : Switched content db artifact left)
    (held : Custody (StrayAccount content) db) (sourceHeld : Custody (StrayAccount content) source)
    (done : source.buildSnapshot = .ok (artifact, built)) :
    Custody (StrayAccount content) left where
  named := by
    rw [switched.group.raftLog]
    exact held.named
  account := by
    intro id
    obtain ⟨log, state, stale, isLogged, _, owned⟩ := held.account id
    obtain ⟨remains, kept⟩ := switched.owned id log state stale owned
    rw [switched.bank]
    refine ⟨log, _, remains, ?_, ?_, kept⟩
    · rw [LogHolds, switched.group.raftLog]
      exact isLogged
    · rw [decide_eq_true_eq, (sourceHeld.snapshot done).1 id]
      refine (GroupView.holdsPayload_congr (fun partition offset => ?_) id).symm
      exact (switched.state _).trans (buildSnapshot_reads done _)
  seated := by
    intro logId above
    rw [switched.state, buildSnapshot_reads done] at above
    refine (sourceHeld.seated logId above).kept fun partition offset record found => ?_
    rwa [view_get, switched.state, buildSnapshot_reads done] at found

theorem take_around {α : Type} (first second : List α) (middle : α) (count : Nat) :
    (first ++ middle :: second).take count = first.take count ∨
      ∃ later, (first ++ middle :: second).take count = first ++ middle :: second.take later := by
  rw [List.take_append]
  by_cases within : count ≤ first.length
  · refine .inl ?_
    rw [Nat.sub_eq_zero_of_le within, List.take_zero, List.append_nil]
  · obtain ⟨later, rfl⟩ := Nat.exists_eq_add_of_lt (Nat.lt_of_not_le within)
    refine .inr ⟨later, ?_⟩
    rw [List.take_of_length_le (by omega),
      show first.length + later + 1 - first.length = later + 1 by omega, List.take_succ_cons]

theorem writeAll_cons (db : GroupDb) (batch : GroupDb → GroupDb) (rest : List (GroupDb → GroupDb)) :
    db.writeAll (batch :: rest) = (batch db).writeAll rest := rfl

theorem writeAll_append (db : GroupDb) (first second : List (GroupDb → GroupDb)) :
    db.writeAll (first ++ second) = (db.writeAll first).writeAll second := List.foldl_append

theorem writeAll_clearBatches (db other : GroupDb) (bank : StateBank) (count : Nat) :
    db.writeAll ((other.clearBatches bank).take count) =
      ((other.clearStateBankWrites bank).take count).foldl writeSync db := by
  rw [writeAll, clearBatches, ← List.map_take, List.foldl_map]

theorem writeAll_chunks (db : GroupDb) (bank : StateBank) (chunks : List (List SnapshotRecord)) :
    db.writeAll (chunks.map fun records store => installChunk bank store records) =
      chunks.foldl (installChunk bank) db := by
  rw [writeAll, List.foldl_map]

theorem writeAll_clear (db : GroupDb) (bank : StateBank) :
    db.writeAll (db.clearBatches bank) = db.clearStateBank bank := by
  have cleared := writeAll_clearBatches db db bank (db.clearBatches bank).length
  rwa [List.take_length, clearBatches, List.length_map, List.take_length] at cleared

theorem writeAll_load (db : GroupDb) (artifact : SnapshotArtifact) :
    db.writeAll (db.loadBatches encodedBytes artifact) = db.loadSnapshot encodedBytes artifact := by
  rw [loadBatches, writeAll_append, writeAll_clear, writeAll_chunks]
  rfl

theorem installBatches_cut (bodies : ∀ payload ∈ artifact.payloads, payload.2 = content payload.1)
    (count : Nat) :
    Loading content db (db.writeAll ((db.installBatches encodedBytes artifact).take count)) ∨
      Switched content db artifact
        (db.writeAll ((db.installBatches encodedBytes artifact).take count)) := by
  rw [installBatches]
  rcases take_around (db.loadBatches encodedBytes artifact) _ _ count with cut | ⟨later, cut⟩
  · refine .inl ?_
    rw [cut, loadBatches, List.take_append, writeAll_append]
    by_cases within : count ≤ (db.clearBatches db.activeBank.inactive).length
    · rw [Nat.sub_eq_zero_of_le within, List.take_zero, writeAll_clearBatches]
      exact loading_cleared fun write member => List.mem_of_mem_take member
    · rw [List.take_of_length_le (by omega), writeAll_clear, ← List.map_take, writeAll_chunks]
      refine loading_chunks fun payload member => bodies payload ?_
      have chunks := List.take_append_drop (count - (db.clearBatches
        db.activeBank.inactive).length) (Kv.chunk (installFull encodedBytes) artifact.records [])
      rw [← carried_records artifact, ← List.nil_append artifact.records,
        ← Kv.flatten_chunk (installFull encodedBytes), ← chunks, List.flatten_append,
        carried_append]
      exact List.mem_append_left _ member
  · refine .inr ?_
    rw [cut, writeAll_append, writeAll_load]
    rw [writeAll_cons, writeAll_clearBatches]
    exact switched_cleared bodies rfl fun write member => List.mem_of_mem_take member

end GroupDb

end LightStream
