import LightStream.Proofs.Custody
import LightStream.Proofs.IndexRuns
import LightStream.Proofs.RecordMoves

/-!
The records that a trace reclaimed: each was published once, its offset stays empty, and no record
refers to its payload again.
-/

namespace LightStream

def Step.reclaimed (step : Step) (partition : PartitionKey) : List (Nat × StoredRecord) :=
  (List.range (step.before.view.nextOffsetOf partition)).filterMap fun offset =>
    match step.before.get (.record partition offset), step.after.get (.record partition offset) with
    | some record, none => some (offset, record)
    | _, _ => none

def reclaimedIn (steps : List Step) (partition : PartitionKey) : List (Nat × StoredRecord) :=
  steps.flatMap fun step => step.reclaimed partition

section Steps

variable {step : Step} {partition : PartitionKey} {offset : Nat} {record : StoredRecord}

theorem mem_reclaimed : (offset, record) ∈ step.reclaimed partition ↔
    offset < step.before.view.nextOffsetOf partition ∧
      step.before.get (.record partition offset) = some record ∧
      step.after.get (.record partition offset) = none := by
  simp only [Step.reclaimed, List.mem_filterMap, List.mem_range]
  constructor
  · rintro ⟨position, below, found⟩
    split at found
    · rename_i present gone
      cases found
      exact ⟨below, present, gone⟩
    · simp at found
  · rintro ⟨below, present, gone⟩
    exact ⟨offset, below, by rw [present, gone]⟩

theorem reclaimed_distinct (step : Step) (partition : PartitionKey) :
    ((step.reclaimed partition).map Prod.fst).Nodup := by
  rw [Step.reclaimed, List.map_filterMap]
  refine List.Nodup.filterMap ?_ List.nodup_range
  intro first second offset firstFound secondFound
  simp only [Option.mem_def, Option.map_eq_some_iff] at firstFound secondFound
  obtain ⟨one, oneFound, oneOffset⟩ := firstFound
  obtain ⟨two, twoFound, twoOffset⟩ := secondFound
  split at oneFound
  · split at twoFound
    · cases oneFound
      cases twoFound
      exact oneOffset.trans twoOffset.symm
    · simp at twoFound
  · simp at oneFound

theorem reclaimedIn_append (steps more : List Step) (partition : PartitionKey) :
    reclaimedIn (steps ++ more) partition =
      reclaimedIn steps partition ++ reclaimedIn more partition := List.flatMap_append

theorem reclaimedIn_singleton (step : Step) (partition : PartitionKey) :
    reclaimedIn [step] partition = step.reclaimed partition := by simp [reclaimedIn]

end Steps

namespace GroupView

variable {view other : GroupView} {steps : List Step}

/-- The reclaimed records of a trace: each was published once and is gone for good, and so is every
reference to its payload from the records. -/
structure Forgotten (steps : List Step) (view : GroupView) : Prop where
  distinct : ∀ partition, ((reclaimedIn steps partition).map Prod.fst).Nodup
  absent : ∀ partition, ∀ entry ∈ reclaimedIn steps partition,
    entry.1 < view.nextOffsetOf partition ∧ view.get (.record partition entry.1) = none
  sized : ∀ partition, ∀ entry ∈ reclaimedIn steps partition,
    ∃ record, (recordsTo (publishedIn steps) partition)[entry.1]? = some record ∧
      entry.2.payloadBytes = record.length
  past : ∀ partition, ∀ entry ∈ reclaimedIn steps partition, ∀ logId : GroupLogId,
    (∀ position, view.get .applied = some position → position.index < logId.index) →
    entry.2.payloadKey.logId.index < logId.index
  gone : ∀ partition, ∀ entry ∈ reclaimedIn steps partition, ¬view.HoldsPayload entry.2.payloadKey

theorem forgotten_empty (view : GroupView) : Forgotten [] view where
  distinct := fun _ => List.nodup_nil
  absent := by simp [reclaimedIn]
  sized := by simp [reclaimedIn]
  past := by simp [reclaimedIn]
  gone := by simp [reclaimedIn]

theorem Forgotten.frame (forgotten : Forgotten steps view) (same : other.get = view.get) :
    Forgotten steps other := by
  have holds (id : PayloadId) : other.HoldsPayload id ↔ view.HoldsPayload id :=
    holdsPayload_congr (fun partition offset => by rw [same]) id
  constructor
  · exact forgotten.distinct
  · intro partition entry member
    rw [nextOffsetOf, same]
    exact forgotten.absent partition entry member
  · exact forgotten.sized
  · intro partition entry member logId above
    rw [same] at above
    exact forgotten.past partition entry member logId above
  · intro partition entry member held
    exact forgotten.gone partition entry member ((holds _).mp held)

theorem Forgotten.bytes_le {content : PayloadId → Record} (forgotten : Forgotten steps view)
    (indexed : Indexed content (publishedIn steps) view) (partition : PartitionKey) :
    Kv.weigh (fun entry => entry.2.payloadBytes) (reclaimedIn steps partition) ≤ u64Max := by
  have placed := Kv.weigh_placed (forgotten.distinct partition) (forgotten.sized partition)
  have total : Kv.weigh List.length (recordsTo (publishedIn steps) partition) =
      (view.retentionOf partition).nextBytePosition := by
    rw [indexed.position, ← indexed.counted]
    exact (Kv.sizeThrough_all _).symm
  have bounded := indexed.bounded partition
  omega

end GroupView

namespace GroupDb

variable {identity : GroupIdentity} {window : Nat} {content : PayloadId → Record}
  {Allowed : GroupDb → GroupEntry → Prop} {steps : List Step} {db next : GroupDb}

theorem forgotten_step {entry : GroupEntry} {result : ApplyResult}
    (forgotten : GroupView.Forgotten steps db.view)
    (indexed : GroupView.Indexed content (publishedIn steps) db.view) (exact : db.Exact content)
    (unapplied : ∀ position, db.get .applied = some position → position.index < entry.logId.index)
    (gains : GroupView.Gains entry.logId db.view next.view)
    (applied : next.get .applied = some entry.logId) :
    GroupView.Forgotten (steps ++ [⟨db, entry, result, next⟩]) next.view := by
  have seated := exact.seated entry.logId unapplied
  have split {partition : PartitionKey} {record : Nat × StoredRecord}
      (member : record ∈ reclaimedIn (steps ++ [⟨db, entry, result, next⟩]) partition) :
      record ∈ reclaimedIn steps partition ∨
        record.1 < db.view.nextOffsetOf partition ∧
          db.view.get (.record partition record.1) = some record.2 ∧
          next.view.get (.record partition record.1) = none := by
    rw [reclaimedIn_append, reclaimedIn_singleton, List.mem_append] at member
    exact member.imp id mem_reclaimed.mp
  have earlier {partition : PartitionKey} {record : Nat × StoredRecord}
      (member : record ∈ reclaimedIn (steps ++ [⟨db, entry, result, next⟩]) partition) :
      record.2.payloadKey.logId.index < entry.logId.index := by
    rcases split member with old | ⟨_, stored, _⟩
    · exact forgotten.past partition record old entry.logId unapplied
    · rcases seated.before partition record.1 record.2 stored with before | ⟨_, below⟩
      · exact before
      · omega
  constructor
  · intro partition
    rw [reclaimedIn_append, reclaimedIn_singleton, List.map_append, List.nodup_append]
    refine ⟨forgotten.distinct partition, reclaimed_distinct _ partition, ?_⟩
    intro first inOld second inNew same
    obtain ⟨old, oldMember, rfl⟩ := List.mem_map.mp inOld
    obtain ⟨new, newMember, rfl⟩ := List.mem_map.mp inNew
    have absent := (forgotten.absent partition old oldMember).2
    obtain ⟨_, present, _⟩ := mem_reclaimed.mp newMember
    have present : db.view.get (.record partition new.1) = some new.2 := present
    rw [← same, absent] at present
    simp at present
  · intro partition record member
    have tail := gains.tail partition
    rcases split member with old | ⟨below, _, lost⟩
    · obtain ⟨below, absent⟩ := forgotten.absent partition record old
      refine ⟨by omega, ?_⟩
      cases regained : next.view.get (.record partition record.1) with
      | none => rfl
      | some stored =>
          rcases gains.record partition record.1 stored regained with before | ⟨above, _⟩
          · rw [absent] at before
            simp at before
          · omega
    · exact ⟨by omega, lost⟩
  · intro partition record member
    have published : publishedIn (steps ++ [⟨db, entry, result, next⟩]) =
        publishedIn steps ++ publishedIn [⟨db, entry, result, next⟩] := List.flatMap_append
    have found : ∃ body, (recordsTo (publishedIn steps) partition)[record.1]? = some body ∧
        record.2.payloadBytes = body.length := by
      rcases split member with old | ⟨_, stored, _⟩
      · exact forgotten.sized partition record old
      · obtain ⟨body, at', _, bytes, _⟩ := indexed.record partition record.1 record.2 stored
        exact ⟨body, at', bytes⟩
    obtain ⟨body, at', bytes⟩ := found
    refine ⟨body, ?_, bytes⟩
    rw [published, recordsTo_append]
    obtain ⟨inside, _⟩ := List.getElem?_eq_some_iff.mp at'
    exact (List.getElem?_append_left inside).trans at'
  · intro partition record member logId above
    have later := above entry.logId applied
    have before := earlier member
    omega
  · rintro partition record member ⟨home, offset, stored, found, same⟩
    have before := earlier member
    rcases gains.record home offset stored found with old | ⟨_, own⟩
    · rcases split member with early | ⟨_, present, lost⟩
      · exact forgotten.gone partition record early ⟨home, offset, stored, old, same⟩
      · obtain ⟨rfl, rfl⟩ := seated.distinct home partition offset record.1 stored record.2 old
          present same
        rw [lost] at found
        simp at found
    · rw [same] at own
      rw [own] at before
      omega

theorem Traced.forgotten (data : identity.kind = .data)
    (traced : Traced identity window content Allowed steps db) :
    GroupView.Forgotten steps db.view := by
  have reached : ∀ view : GroupView, view.get = db.get → GroupView.Forgotten steps view := by
    refine @Traced.invariant identity window content Allowed steps db
      (fun steps get => ∀ view : GroupView, view.get = get → GroupView.Forgotten steps view)
      ?_ ?_ traced
    · exact fun view _ => GroupView.forgotten_empty view
    · intro steps db next entry result traced held due allowed done view same
      have guarded := traced.ran.guarded data
      refine (forgotten_step (held db.view rfl) (traced.indexed data) (traced.ran.exact data)
        due.unapplied (applyEntry_gains guarded done) (applyEntry_applied done)).frame ?_
      rw [same]
      rfl
  exact reached db.view rfl

end GroupDb

end LightStream
