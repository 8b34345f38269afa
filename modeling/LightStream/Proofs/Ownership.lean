import LightStream.Proofs.Maintenance
import LightStream.Proofs.Owners

/-!
Payload ownership is exact: the payload column family of a replica holds what its log and the
records of its active bank refer to, with the owners that say so, and nothing else.
-/

namespace LightStream

def heldBy (bank : StateBank) (logged applied : Bool) : PayloadOwners :=
  ⟨logged, false, fun other => decide (other = bank) && applied⟩

section Held

variable {bank : StateBank} {logged applied : Bool}

@[simp] theorem heldBy_reachable : (heldBy bank logged applied).reachable = (logged || applied) := by
  cases bank <;> cases logged <;> cases applied <;> rfl

@[simp] theorem heldBy_appliedIn : (heldBy bank logged applied).appliedIn bank = applied := by
  simp [heldBy, PayloadOwners.appliedIn]

@[simp] theorem heldBy_setAppliedIn (kept : Bool) :
    (heldBy bank logged applied).setAppliedIn bank kept = heldBy bank logged kept := by
  simp only [heldBy, PayloadOwners.setAppliedIn, PayloadOwners.mk.injEq, true_and]
  funext other
  by_cases same : other = bank
  · subst same
    simp
  · simp [same]

@[simp] theorem heldBy_unlogged :
    GroupDb.unlogged (heldBy bank logged applied) = heldBy bank false applied := rfl

theorem heldBy_raftOwned : GroupDb.raftOwned = heldBy bank true false := by
  simp [GroupDb.raftOwned, heldBy, PayloadOwners.default]

end Held

/-- The payload of an id is stored exactly as long as the log or the state bank holds it, with
the owners that say which of them do. -/
def Account (content : PayloadId → Record) (bank : StateBank)
    (read : (key : PayloadKey) → Option (PayloadVal key)) (id : PayloadId)
    (logged applied : Prop) : Prop :=
  ∃ log state : Bool, (log = true ↔ logged) ∧ (state = true ↔ applied) ∧
    read (.owners id) = (heldBy bank log state).kept ∧
    read (.bytes id) = (heldBy bank log state).keptBytes (some (content id))

section Accounts

variable {content : PayloadId → Record} {bank : StateBank}
  {read next : (key : PayloadKey) → Option (PayloadVal key)} {id : PayloadId}
  {logged applied : Prop}

theorem Account.congr {loggedToo appliedToo : Prop} (account : Account content bank read id logged applied)
    (sameLog : loggedToo ↔ logged) (sameState : appliedToo ↔ applied) :
    Account content bank read id loggedToo appliedToo := by
  rw [Account, sameLog, sameState]
  exact account

theorem Account.frame (account : Account content bank read id logged applied)
    (owners : next (.owners id) = read (.owners id)) (bytes : next (.bytes id) = read (.bytes id)) :
    Account content bank next id logged applied := by
  rw [Account, owners, bytes]
  exact account

theorem Account.stored (account : Account content bank read id logged applied)
    {owners : PayloadOwners} (found : read (.owners id) = some owners) :
    ∃ log state : Bool, (log = true ↔ logged) ∧ (state = true ↔ applied) ∧
      (log || state) = true ∧ owners = heldBy bank log state ∧
      read (.bytes id) = some (content id) := by
  obtain ⟨log, state, isLogged, isApplied, ownersRead, bytesRead⟩ := account
  rw [ownersRead, PayloadOwners.kept, heldBy_reachable] at found
  rw [PayloadOwners.keptBytes, heldBy_reachable] at bytesRead
  split at found
  · rename_i held
    rw [if_pos held] at bytesRead
    exact ⟨log, state, isLogged, isApplied, held, (Option.some.inj found).symm, bytesRead⟩
  · simp at found

theorem Account.held (account : Account content bank read id logged applied)
    (someone : logged ∨ applied) :
    ∃ owners : PayloadOwners, read (.owners id) = some owners ∧ (owners.raftLog = true ↔ logged) ∧
      (owners.appliedIn bank = true ↔ applied) ∧ read (.bytes id) = some (content id) := by
  obtain ⟨log, state, isLogged, isApplied, ownersRead, bytesRead⟩ := account
  have reachable : (log || state) = true := by
    rw [Bool.or_eq_true, isLogged, isApplied]
    exact someone
  rw [PayloadOwners.kept, heldBy_reachable, if_pos reachable] at ownersRead
  rw [PayloadOwners.keptBytes, heldBy_reachable, if_pos reachable] at bytesRead
  refine ⟨_, ownersRead, isLogged, ?_, bytesRead⟩
  rw [heldBy_appliedIn]
  exact isApplied

theorem Account.absent (account : Account content bank read id logged applied)
    (unlogged : ¬logged) (unapplied : ¬applied) :
    read (.owners id) = none ∧ read (.bytes id) = none := by
  obtain ⟨log, state, isLogged, isApplied, ownersRead, bytesRead⟩ := account
  have noLog : log = false := by
    rw [← Bool.not_eq_true, isLogged]
    exact unlogged
  have noState : state = false := by
    rw [← Bool.not_eq_true, isApplied]
    exact unapplied
  subst noLog noState
  rw [ownersRead, bytesRead]
  simp [PayloadOwners.kept, PayloadOwners.keptBytes]

theorem account_logged (owners : read (.owners id) = some GroupDb.raftOwned)
    (bytes : read (.bytes id) = some (content id)) : Account content bank read id True False := by
  refine ⟨true, false, by simp, by simp, ?_, ?_⟩
  · rw [owners, heldBy_raftOwned, PayloadOwners.kept, heldBy_reachable]
    rfl
  · rw [bytes, PayloadOwners.keptBytes, heldBy_reachable]
    rfl

theorem Account.unlogged (account : Account content bank read id logged applied)
    {owners : PayloadOwners} (found : read (.owners id) = some owners)
    (ownersRead : next (.owners id) = (GroupDb.unlogged owners).kept)
    (bytesRead : next (.bytes id) = (GroupDb.unlogged owners).keptBytes (read (.bytes id))) :
    Account content bank next id False applied := by
  obtain ⟨log, state, _, isApplied, _, rfl, bytes⟩ := account.stored found
  rw [heldBy_unlogged] at ownersRead bytesRead
  rw [bytes] at bytesRead
  exact ⟨false, state, by simp, isApplied, ownersRead, bytesRead⟩

theorem Account.unapplied (account : Account content bank read id logged applied)
    {owners : PayloadOwners} (found : read (.owners id) = some owners)
    (ownersRead : next (.owners id) = (owners.setAppliedIn bank false).kept)
    (bytesRead : next (.bytes id) =
      (owners.setAppliedIn bank false).keptBytes (read (.bytes id))) :
    Account content bank next id logged False := by
  obtain ⟨log, state, isLogged, _, _, rfl, bytes⟩ := account.stored found
  rw [heldBy_setAppliedIn] at ownersRead bytesRead
  rw [bytes] at bytesRead
  exact ⟨log, false, isLogged, by simp, ownersRead, bytesRead⟩

theorem Account.taken (account : Account content bank read id logged applied)
    {owners : PayloadOwners} (found : read (.owners id) = some owners)
    (ownersRead : next (.owners id) = some (owners.setAppliedIn bank true))
    (bytesRead : next (.bytes id) = read (.bytes id)) :
    Account content bank next id logged True := by
  obtain ⟨log, state, isLogged, _, _, rfl, bytes⟩ := account.stored found
  refine ⟨log, true, isLogged, by simp, ?_, ?_⟩
  · rw [ownersRead, heldBy_setAppliedIn, PayloadOwners.kept, heldBy_reachable, Bool.or_true]
    rfl
  · rw [bytesRead, bytes, PayloadOwners.keptBytes, heldBy_reachable, Bool.or_true]
    rfl

end Accounts

abbrev PayloadRead := (key : PayloadKey) → Option (PayloadVal key)

/-- What is said of the stored owners and bytes of a payload, by whether the log and the state bank
hold it. -/
abbrev PayloadAccount := StateBank → PayloadRead → PayloadId → Prop → Prop → Prop

/-- An account reads one payload only, and follows its holders as they take it and let go. -/
structure Accounting (content : PayloadId → Record) (account : PayloadAccount) : Prop where
  frame : ∀ {bank : StateBank} {read next : PayloadRead} {id : PayloadId} {logged applied : Prop},
    account bank read id logged applied → next (.owners id) = read (.owners id) →
    next (.bytes id) = read (.bytes id) → account bank next id logged applied
  absent : ∀ {bank : StateBank} {read : PayloadRead} {id : PayloadId}, read (.owners id) = none →
    read (.bytes id) = none → account bank read id False False
  logged : ∀ {bank : StateBank} {read : PayloadRead} {id : PayloadId},
    read (.owners id) = some GroupDb.raftOwned → read (.bytes id) = some (content id) →
    account bank read id True False
  unlogged : ∀ {bank : StateBank} {read next : PayloadRead} {id : PayloadId} {logged applied : Prop}
    {owners : PayloadOwners}, account bank read id logged applied →
    read (.owners id) = some owners → next (.owners id) = (GroupDb.unlogged owners).kept →
    next (.bytes id) = (GroupDb.unlogged owners).keptBytes (read (.bytes id)) →
    account bank next id False applied
  unapplied : ∀ {bank : StateBank} {read next : PayloadRead} {id : PayloadId}
    {logged applied : Prop} {owners : PayloadOwners}, account bank read id logged applied →
    read (.owners id) = some owners →
    next (.owners id) = (owners.setAppliedIn bank false).kept →
    next (.bytes id) = (owners.setAppliedIn bank false).keptBytes (read (.bytes id)) →
    account bank next id logged False
  taken : ∀ {bank : StateBank} {read next : PayloadRead} {id : PayloadId} {logged applied : Prop}
    {owners : PayloadOwners}, account bank read id logged applied →
    read (.owners id) = some owners → next (.owners id) = some (owners.setAppliedIn bank true) →
    next (.bytes id) = read (.bytes id) → account bank next id logged True

theorem PayloadAccount.congr {account : PayloadAccount} {bank : StateBank} {read : PayloadRead}
    {id : PayloadId} {logged loggedToo applied appliedToo : Prop}
    (held : account bank read id logged applied) (sameLog : loggedToo ↔ logged)
    (sameState : appliedToo ↔ applied) : account bank read id loggedToo appliedToo := by
  rw [propext sameLog, propext sameState]
  exact held

theorem account_accounting (content : PayloadId → Record) :
    Accounting content (Account content) where
  frame := Account.frame
  absent := fun owners bytes => ⟨false, false, by simp, by simp,
    by rw [owners, PayloadOwners.kept, heldBy_reachable]; rfl,
    by rw [bytes, PayloadOwners.keptBytes, heldBy_reachable]; rfl⟩
  logged := account_logged
  unlogged := fun account found owners bytes => account.unlogged found owners bytes
  unapplied := fun account found owners bytes => account.unapplied found owners bytes
  taken := fun account found owners bytes => account.taken found owners bytes

theorem heldBy_switched (bank : StateBank) (log state : Bool) :
    ((heldBy bank log state).setAppliedIn bank.inactive true).setAppliedIn bank false =
      heldBy bank.inactive log true := by
  simp only [heldBy, PayloadOwners.setAppliedIn, PayloadOwners.mk.injEq, true_and]
  funext other
  cases bank <;> cases other <;> simp [StateBank.inactive]

theorem heldBy_inactive (bank : StateBank) (log state : Bool) :
    (heldBy bank log state).appliedIn bank.inactive = false := by
  simp [heldBy, PayloadOwners.appliedIn, StateBank.inactive_ne]

theorem heldBy_loaded (bank : StateBank) (log state : Bool) :
    ((heldBy bank log state).setAppliedIn bank.inactive true).appliedIn bank = state := by
  cases bank <;> simp [heldBy, PayloadOwners.setAppliedIn, PayloadOwners.appliedIn,
    StateBank.inactive]

theorem heldBy_unapplied (bank other : StateBank) (log : Bool) :
    heldBy bank log false = heldBy other log false := by
  simp [heldBy]

theorem heldBy_brought (bank : StateBank) (log : Bool) :
    (heldBy bank log false).setAppliedIn bank.inactive true = heldBy bank.inactive log true := by
  rw [heldBy_unapplied bank bank.inactive, heldBy_setAppliedIn]

theorem heldBy_kept_getD (bank : StateBank) (log state : Bool) :
    (heldBy bank log state).kept.getD PayloadOwners.default = heldBy bank log state := by
  cases bank <;> cases log <;> cases state <;>
    simp [PayloadOwners.kept, heldBy, PayloadOwners.reachable, PayloadOwners.default]

namespace GroupDb

variable {db : GroupDb} {content : PayloadId → Record}

theorem installSnapshot_account {encodedBytes : SnapshotRecord → Nat} {metadata : SnapshotMeta}
    {artifact : SnapshotArtifact} {next : GroupDb} {id : PayloadId} {logged applied : Prop}
    (account : Account content db.activeBank db.payload.get id logged applied)
    (bodies : ∀ payload ∈ artifact.payloads, payload.2 = content payload.1)
    (done : db.installSnapshot encodedBytes metadata artifact = .ok next) :
    Account content next.activeBank next.payload.get id logged
      (id ∈ artifact.payloads.map Prod.fst) := by
  obtain ⟨_, _, _, bank⟩ := installSnapshot_frame done
  obtain ⟨_, rfl⟩ := installSnapshot_ok done
  rw [bank]
  obtain ⟨log, state, isLogged, isApplied, ownersRead, bytesRead⟩ := account
  have cleared := @clearStateBank_unowned db db.activeBank.inactive id (by
    intro owners stored
    rw [ownersRead, PayloadOwners.kept] at stored
    split at stored
    · cases stored
      exact heldBy_inactive _ _ _
    · simp at stored)
  have loaded := @foldl_installChunk_payload (db.clearStateBank db.activeBank.inactive)
    db.activeBank.inactive content (Kv.chunk (installFull encodedBytes) artifact.records [])
    (by rwa [Kv.flatten_chunk, List.nil_append, carried_records]) id
  rw [Kv.flatten_chunk, List.nil_append, carried_records, cleared.1, cleared.2, ownersRead,
    bytesRead] at loaded
  have unread (key : PayloadKey) : (db.switchBank encodedBytes artifact).payload.get key =
      ((Kv.chunk (installFull encodedBytes) artifact.records []).foldl
        (installChunk db.activeBank.inactive)
        (db.clearStateBank db.activeBank.inactive)).payload.get key := rfl
  by_cases member : id ∈ artifact.payloads.map Prod.fst
  · rw [if_pos member, if_pos member] at loaded
    rw [heldBy_kept_getD] at loaded
    refine ⟨log, true, isLogged, by simp [member], ?_⟩
    -- The old bank's bit is the only one that the last clearing takes away.
    cases state with
    | true =>
        obtain ⟨owners, bytes⟩ := clearStateBank_owned ((unread _).trans loaded.1)
          (heldBy_loaded _ _ _)
        rw [owners, bytes, heldBy_switched, unread, loaded.2]
        exact ⟨rfl, rfl⟩
    | false =>
        obtain ⟨owners, bytes⟩ := @clearStateBank_unowned (db.switchBank encodedBytes artifact)
          db.activeBank id (by
            intro owners stored
            rw [unread, loaded.1] at stored
            cases stored
            exact heldBy_loaded _ _ _)
        rw [owners, bytes, unread, unread, loaded.1, loaded.2, heldBy_brought, PayloadOwners.kept,
          PayloadOwners.keptBytes, heldBy_reachable, Bool.or_true]
        exact ⟨rfl, rfl⟩
  · rw [if_neg member, if_neg member] at loaded
    refine ⟨log, false, isLogged, by simp [member], ?_⟩
    rw [heldBy_unapplied db.activeBank.inactive db.activeBank]
    cases state with
    | true =>
        rw [PayloadOwners.kept, PayloadOwners.keptBytes, heldBy_reachable, Bool.or_true, if_pos rfl,
          if_pos rfl] at loaded
        obtain ⟨owners, bytes⟩ := clearStateBank_owned ((unread _).trans loaded.1) heldBy_appliedIn
        rw [owners, bytes, heldBy_setAppliedIn, unread, loaded.2]
        exact ⟨rfl, rfl⟩
    | false =>
        obtain ⟨owners, bytes⟩ := @clearStateBank_unowned (db.switchBank encodedBytes artifact)
          db.activeBank id (by
            intro owners stored
            rw [unread, loaded.1, PayloadOwners.kept] at stored
            split at stored
            · cases stored
              exact heldBy_appliedIn
            · simp at stored)
        rw [owners, bytes, unread, unread, loaded.1, loaded.2]
        exact ⟨rfl, rfl⟩

end GroupDb

end LightStream
