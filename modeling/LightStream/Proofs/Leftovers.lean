import LightStream.Proofs.Custody
import LightStream.Storage.Restart

/-!
What an installation that is broken off leaves of the payloads: the bank that was being filled may
own some of them, and nothing else has changed.
-/

namespace LightStream

/-- The owners of a payload by whether the log, the bank and the other bank hold it. -/
def strayed (bank : StateBank) (logged applied stale : Bool) : PayloadOwners :=
  ⟨logged, false, fun other => if other = bank then applied else stale⟩

section Strayed

variable {bank : StateBank} {logged applied stale : Bool}

@[simp] theorem strayed_reachable :
    (strayed bank logged applied stale).reachable = (logged || applied || stale) := by
  cases bank <;> cases logged <;> cases applied <;> cases stale <;> rfl

@[simp] theorem strayed_appliedIn : (strayed bank logged applied stale).appliedIn bank = applied := by
  simp [strayed, PayloadOwners.appliedIn]

@[simp] theorem strayed_setAppliedIn (kept : Bool) :
    (strayed bank logged applied stale).setAppliedIn bank kept = strayed bank logged kept stale := by
  simp only [strayed, PayloadOwners.setAppliedIn, PayloadOwners.mk.injEq, true_and]
  funext other
  by_cases same : other = bank
  · subst same
    simp
  · simp [same]

@[simp] theorem strayed_setInactive (kept : Bool) :
    (strayed bank logged applied stale).setAppliedIn bank.inactive kept =
      strayed bank logged applied kept := by
  simp only [strayed, PayloadOwners.setAppliedIn, PayloadOwners.mk.injEq, true_and]
  funext other
  cases bank <;> cases other <;> simp [StateBank.inactive]

theorem strayed_switched :
    strayed bank logged applied stale = strayed bank.inactive logged stale applied := by
  simp only [strayed, PayloadOwners.mk.injEq, true_and]
  funext other
  cases bank <;> cases other <;> simp [StateBank.inactive]

theorem strayed_raftOwned : GroupDb.raftOwned = strayed bank true false false := by
  simp [GroupDb.raftOwned, strayed, PayloadOwners.default]

theorem strayed_kept_getD : (strayed bank logged applied stale).kept.getD PayloadOwners.default =
    strayed bank logged applied stale := by
  cases bank <;> cases logged <;> cases applied <;> cases stale <;>
    simp [PayloadOwners.kept, strayed, PayloadOwners.reachable, PayloadOwners.default]

end Strayed

def OwnedAs (content : PayloadId → Record) (read : PayloadRead) (id : PayloadId)
    (owners : PayloadOwners) : Prop :=
  read (.owners id) = owners.kept ∧ read (.bytes id) = owners.keptBytes (some (content id))

def StrayAccount (content : PayloadId → Record) (bank : StateBank) (read : PayloadRead)
    (id : PayloadId) (logged applied : Prop) : Prop :=
  ∃ log state stale : Bool, (log = true ↔ logged) ∧ (state = true ↔ applied) ∧
    OwnedAs content read id (strayed bank log state stale)

section Accounts

variable {content : PayloadId → Record} {bank : StateBank} {read next : PayloadRead}
  {id : PayloadId} {owners found : PayloadOwners} {logged applied : Prop}

theorem OwnedAs.stored (owned : OwnedAs content read id owners)
    (stored : read (.owners id) = some found) :
    found = owners ∧ owners.reachable = true ∧ read (.bytes id) = some (content id) := by
  obtain ⟨ownersRead, bytesRead⟩ := owned
  rw [ownersRead, PayloadOwners.kept] at stored
  split at stored
  · rename_i reachable
    rw [bytesRead, PayloadOwners.keptBytes, if_pos reachable]
    exact ⟨(Option.some.inj stored).symm, reachable, rfl⟩
  · simp at stored

theorem OwnedAs.held (owned : OwnedAs content read id owners)
    (reachable : owners.reachable = true) :
    read (.owners id) = some owners ∧ read (.bytes id) = some (content id) := by
  obtain ⟨ownersRead, bytesRead⟩ := owned
  rw [ownersRead, bytesRead, PayloadOwners.kept, PayloadOwners.keptBytes, if_pos reachable,
    if_pos reachable]
  exact ⟨rfl, rfl⟩

theorem OwnedAs.released {remaining : PayloadOwners} (owned : OwnedAs content read id owners)
    (stored : read (.owners id) = some found) (ownersRead : next (.owners id) = remaining.kept)
    (bytesRead : next (.bytes id) = remaining.keptBytes (read (.bytes id))) :
    OwnedAs content next id remaining := by
  obtain ⟨_, _, bytes⟩ := owned.stored stored
  rw [bytes] at bytesRead
  exact ⟨ownersRead, bytesRead⟩

theorem ownedAs_taken (ownersRead : next (.owners id) = some owners)
    (reachable : owners.reachable = true) (bytesRead : next (.bytes id) = some (content id)) :
    OwnedAs content next id owners := by
  rw [OwnedAs, ownersRead, bytesRead, PayloadOwners.kept, PayloadOwners.keptBytes, if_pos reachable,
    if_pos reachable]
  exact ⟨rfl, rfl⟩

theorem strayAccount_accounting (content : PayloadId → Record) :
    Accounting content (StrayAccount content) where
  frame := by
    rintro bank read next id logged applied ⟨log, state, stale, isLogged, isApplied, owned⟩ owners
      bytes
    refine ⟨log, state, stale, isLogged, isApplied, ?_⟩
    rw [OwnedAs, owners, bytes]
    exact owned
  absent := by
    intro bank read id owners bytes
    refine ⟨false, false, false, by simp, by simp, ?_⟩
    rw [OwnedAs, owners, bytes, PayloadOwners.kept, PayloadOwners.keptBytes, strayed_reachable]
    exact ⟨rfl, rfl⟩
  logged := by
    intro bank read id owners bytes
    refine ⟨true, false, false, by simp, by simp, ownedAs_taken ?_ strayed_reachable bytes⟩
    rw [owners, strayed_raftOwned]
  unlogged := by
    rintro bank read next id logged applied owners ⟨log, state, stale, _, isApplied, owned⟩ stored
      ownersRead bytesRead
    obtain ⟨rfl, _, _⟩ := owned.stored stored
    exact ⟨false, state, stale, by simp, isApplied, owned.released stored ownersRead bytesRead⟩
  unapplied := by
    rintro bank read next id logged applied owners ⟨log, state, stale, isLogged, _, owned⟩ stored
      ownersRead bytesRead
    obtain ⟨rfl, _, _⟩ := owned.stored stored
    rw [strayed_setAppliedIn] at ownersRead bytesRead
    exact ⟨log, false, stale, isLogged, by simp, owned.released stored ownersRead bytesRead⟩
  taken := by
    rintro bank read next id logged applied owners ⟨log, state, stale, isLogged, _, owned⟩ stored
      ownersRead bytesRead
    obtain ⟨rfl, _, bytes⟩ := owned.stored stored
    rw [strayed_setAppliedIn] at ownersRead
    refine ⟨log, true, stale, isLogged, by simp, ownedAs_taken ownersRead ?_ ?_⟩
    · rw [strayed_reachable, Bool.or_true, Bool.true_or]
    · rw [bytesRead, bytes]

theorem StrayAccount.held (account : StrayAccount content bank read id logged applied)
    (someone : logged ∨ applied) :
    ∃ owners : PayloadOwners, read (.owners id) = some owners ∧ (owners.raftLog = true ↔ logged) ∧
      (owners.appliedIn bank = true ↔ applied) ∧ read (.bytes id) = some (content id) := by
  obtain ⟨log, state, stale, isLogged, isApplied, owned⟩ := account
  have reachable : (strayed bank log state stale).reachable = true := by
    rw [strayed_reachable, Bool.or_eq_true, Bool.or_eq_true, isLogged, isApplied]
    exact .inl someone
  obtain ⟨stored, bytes⟩ := owned.held reachable
  exact ⟨_, stored, isLogged, by rw [strayed_appliedIn]; exact isApplied, bytes⟩

end Accounts

namespace GroupDb

variable {db : GroupDb} {bank : StateBank} {content : PayloadId → Record} {id : PayloadId}

theorem clearWrites_payload {writes : List SyncWrite}
    (inside : ∀ write ∈ writes, write ∈ db.clearStateBankWrites bank) :
    ∃ entries, (∀ entry ∈ entries, entry ∈ db.clearedEntries bank) ∧
      writes.flatMap SyncWrite.payload = releaseOps entries := by
  induction writes with
  | nil => exact ⟨[], by simp, rfl⟩
  | cons write rest ih =>
      obtain ⟨entries, cleared, later⟩ := ih fun other member =>
        inside other (List.mem_cons_of_mem _ member)
      have first := inside write (List.mem_cons_self ..)
      simp only [clearStateBankWrites, List.mem_append, List.mem_map] at first
      rw [List.flatMap_cons, later]
      rcases first with ⟨keys, _, rfl⟩ | ⟨chunk, member, rfl⟩
      · exact ⟨entries, cleared, rfl⟩
      · refine ⟨chunk.map (fun entry => (entry.1, entry.2.setAppliedIn bank false)) ++ entries,
          ?_, ?_⟩
        · intro entry either
          rcases List.mem_append.mp either with own | other
          · obtain ⟨owned, taken, rfl⟩ := List.mem_map.mp own
            have listed := List.mem_flatten.mpr ⟨chunk, member, taken⟩
            rw [Kv.flatten_chunk, List.nil_append] at listed
            exact List.mem_map.mpr ⟨owned, listed, rfl⟩
          · exact cleared entry other
        · simp only [releaseOps, List.flatMap_append, List.flatMap_map]
          rfl

theorem clearWrites_owned {writes : List SyncWrite} {owners : PayloadOwners}
    (inside : ∀ write ∈ writes, write ∈ db.clearStateBankWrites bank)
    (owned : OwnedAs content db.payload.get id owners) :
    OwnedAs content (writes.foldl writeSync db).payload.get id owners ∨
      OwnedAs content (writes.foldl writeSync db).payload.get id
        (owners.setAppliedIn bank false) := by
  obtain ⟨entries, cleared, payload⟩ := clearWrites_payload inside
  have reads (key : PayloadKey) : (writes.foldl writeSync db).payload.get key =
      Kv.pending db.payload.get (releaseOps entries) key := by
    rw [foldl_writeSync_payload, payload, Kv.Store.get_commit]
    rfl
  by_cases member : id ∈ entries.map Prod.fst
  · obtain ⟨⟨other, remaining⟩, own, same⟩ := List.mem_map.mp member
    have same : id = other := same.symm
    subst same
    obtain ⟨found, stored, _, rfl⟩ := mem_clearedEntries.mp (cleared _ own)
    obtain ⟨rfl, _, _⟩ := owned.stored stored
    have agree : ∀ entry ∈ entries, entry.1 = id → entry.2 = found.setAppliedIn bank false := by
      rintro ⟨other, rest⟩ inList same
      obtain ⟨others, otherStored, _, rfl⟩ := mem_clearedEntries.mp (cleared _ inList)
      dsimp only at same
      rw [same, stored] at otherStored
      cases otherStored
      rfl
    obtain ⟨ownersRead, bytesRead⟩ := @release_reads db.payload.get _ _ _ agree
    rw [if_pos member] at ownersRead bytesRead
    exact .inr (owned.released stored (by rw [reads, ownersRead]) (by rw [reads, bytesRead]))
  · have agree : ∀ entry ∈ entries, entry.1 = id → entry.2 = PayloadOwners.default := by
      intro entry inList same
      exact absurd (List.mem_map.mpr ⟨entry, inList, same⟩) member
    obtain ⟨ownersRead, bytesRead⟩ := @release_reads db.payload.get _ _ _ agree
    rw [if_neg member] at ownersRead bytesRead
    refine .inl ?_
    rw [OwnedAs, reads, reads, ownersRead, bytesRead]
    exact owned

theorem clearStateBank_owned_as {owners : PayloadOwners} (legacy : owners.appliedState = false)
    (owned : OwnedAs content db.payload.get id owners) :
    OwnedAs content (db.clearStateBank bank).payload.get id (owners.setAppliedIn bank false) := by
  by_cases mine : owners.appliedIn bank = true
  · have reachable : owners.reachable = true := by
      cases bank <;> simp_all [PayloadOwners.reachable, PayloadOwners.appliedIn]
    obtain ⟨stored, _⟩ := owned.held reachable
    obtain ⟨ownersRead, bytesRead⟩ := clearStateBank_owned stored mine
    exact owned.released stored ownersRead bytesRead
  · have same : owners.setAppliedIn bank false = owners := by
      obtain ⟨logged, state, banks⟩ := owners
      dsimp only [PayloadOwners.appliedIn] at legacy mine
      rw [PayloadOwners.setAppliedIn, legacy]
      congr 1
      rw [Function.update_eq_self_iff]
      exact (Bool.eq_false_of_not_eq_true mine).symm
    obtain ⟨ownersRead, bytesRead⟩ := @clearStateBank_unowned db bank id fun found stored => by
      obtain ⟨rfl, _, _⟩ := owned.stored stored
      exact Bool.eq_false_of_not_eq_true mine
    rw [same, OwnedAs, ownersRead, bytesRead]
    exact owned

theorem installChunks_owned {chunks : List (List SnapshotRecord)} {log state stale : Bool}
    (bodies : ∀ payload ∈ carried chunks.flatten, payload.2 = content payload.1)
    (owned : OwnedAs content db.payload.get id (strayed bank log state stale)) :
    OwnedAs content (chunks.foldl (installChunk bank.inactive) db).payload.get id
      (strayed bank log state (decide (id ∈ (carried chunks.flatten).map Prod.fst) || stale)) := by
  obtain ⟨ownersRead, bytesRead⟩ := @foldl_installChunk_payload db bank.inactive content chunks
    bodies id
  by_cases member : id ∈ (carried chunks.flatten).map Prod.fst
  · rw [if_pos member] at ownersRead bytesRead
    rw [owned.1, strayed_kept_getD, strayed_setInactive] at ownersRead
    rw [decide_eq_true member, Bool.true_or]
    exact ownedAs_taken ownersRead (by rw [strayed_reachable, Bool.or_true]) bytesRead
  · rw [if_neg member] at ownersRead bytesRead
    rw [decide_eq_false member, Bool.false_or, OwnedAs, ownersRead, bytesRead]
    exact owned

end GroupDb

end LightStream
