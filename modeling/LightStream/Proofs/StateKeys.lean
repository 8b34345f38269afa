import LightStream.Codec.Tape
import LightStream.Proofs.Fetch
import LightStream.Proofs.KeyLayout

/-!
The keys of the state column family do not collide: a key tells what it is the key of, a scan of
one of the prefixes in use returns the keys that belong there, and the numbers at the end of record
and order keys come in their own order.
-/

namespace LightStream

open Kv (Bytes)
open StateKeys

/-! ### What is hashed -/

theorem textBytes_inj {first second : String} (same : textBytes first = textBytes second) :
    first = second := by
  have octets : first.toByteArray.data.toList = second.toByteArray.data.toList :=
    List.map_injective_iff.mpr (fun _ _ => UInt8.toNat_inj.mp) same
  exact String.toByteArray_inj.mp (ByteArray.ext (Array.toList_inj.mp octets))

theorem partitionBytes_length (partition : PartitionKey) :
    (partitionBytes partition).length = 20 := by
  rw [partitionBytes, uuidBytes, List.length_append, Kv.bigEndian_length, Kv.bigEndian_length]

theorem uuidBytes_length (uuid : Nat) : (uuidBytes uuid).length = 16 :=
  Kv.bigEndian_length 16 uuid

theorem partitionBytes_inj {first second : PartitionKey} (firstSized : first.Sized)
    (secondSized : second.Sized) (same : partitionBytes first = partitionBytes second) :
    first = second := by
  obtain ⟨⟨owner⟩, part⟩ := first
  obtain ⟨⟨other⟩, otherPart⟩ := second
  obtain ⟨owners, parts⟩ := List.append_inj same (by rw [uuidBytes_length, uuidBytes_length])
  have owners := Kv.bigEndian_inj firstSized.1 secondSized.1 owners
  have parts := Kv.bigEndian_inj firstSized.2 secondSized.2 parts
  simp only at owners parts
  rw [owners, parts]

theorem requestJson_inj {first second : PrincipalId} {session other sequence otherSequence : Nat}
    (fits : session < 256 ^ 16) (otherFits : other < 256 ^ 16)
    (same : requestJson first session sequence = requestJson second other otherSequence) :
    first = second ∧ session = other ∧ sequence = otherSequence := by
  have same := List.append_cancel_left same
  obtain ⟨names, same⟩ := Codec.jsonString_splits _ _ trivial trivial _ _ same
  have same := List.append_cancel_left same
  obtain ⟨sessions, same⟩ := Codec.uuidText_splits _ _ fits otherFits _ _ same
  have digits := List.append_cancel_right (List.append_cancel_left same)
  obtain ⟨name⟩ := first
  obtain ⟨otherName⟩ := second
  exact ⟨congrArg PrincipalId.mk (textBytes_inj names), sessions, Codec.decimal_inj digits⟩

theorem principalSession_inj {first second : PrincipalId} {session other : Nat}
    (fits : session < 256 ^ 16) (otherFits : other < 256 ^ 16)
    (same : textBytes first.text ++ uuidBytes session = textBytes second.text ++ uuidBytes other) :
    first = second ∧ session = other := by
  obtain ⟨names, sessions⟩ := List.append_inj' same (by rw [uuidBytes_length, uuidBytes_length])
  obtain ⟨name⟩ := first
  obtain ⟨otherName⟩ := second
  exact ⟨congrArg PrincipalId.mk (textBytes_inj names), Kv.bigEndian_inj fits otherFits sessions⟩

theorem HashedBody.bytes_inj {first second : HashedBody} (firstSized : first.Sized)
    (secondSized : second.Sized) (kinds : first.kind = second.kind)
    (same : first.bytes = second.bytes) : first = second := by
  cases first with
  | receipt partition request =>
      cases second with
      | receipt other otherRequest =>
          obtain ⟨partitions, requests⟩ := List.append_inj same
            (by rw [partitionBytes_length, partitionBytes_length])
          have partitions := partitionBytes_inj ⟨firstSized.1, firstSized.2.1⟩
            ⟨secondSized.1, secondSized.2.1⟩ partitions
          obtain ⟨principal, ⟨opened⟩, sequence⟩ := request
          obtain ⟨otherPrincipal, ⟨otherOpened⟩, otherSequence⟩ := otherRequest
          obtain ⟨rfl, rfl, rfl⟩ := requestJson_inj firstSized.2.2 secondSized.2.2 requests
          rw [partitions]
      | _ => cases kinds
  | session partition principal opened =>
      cases second with
      | session other otherPrincipal otherOpened =>
          obtain ⟨partitions, sessions⟩ := List.append_inj same
            (by rw [partitionBytes_length, partitionBytes_length])
          have partitions := partitionBytes_inj ⟨firstSized.1, firstSized.2.1⟩
            ⟨secondSized.1, secondSized.2.1⟩ partitions
          obtain ⟨opened⟩ := opened
          obtain ⟨otherOpened⟩ := otherOpened
          obtain ⟨rfl, rfl⟩ := principalSession_inj firstSized.2.2 secondSized.2.2 sessions
          rw [partitions]
      | _ => cases kinds
  | mutation request =>
      cases second with
      | mutation other =>
          obtain ⟨principal, ⟨opened⟩, sequence⟩ := request
          obtain ⟨otherPrincipal, ⟨otherOpened⟩, otherSequence⟩ := other
          obtain ⟨rfl, rfl, rfl⟩ := requestJson_inj firstSized secondSized same
          rfl
      | _ => cases kinds
  | mutationSession principal opened =>
      cases second with
      | mutationSession otherPrincipal otherOpened =>
          obtain ⟨opened⟩ := opened
          obtain ⟨otherOpened⟩ := otherOpened
          obtain ⟨rfl, rfl⟩ := principalSession_inj firstSized secondSized same
          rfl
      | _ => cases kinds

/-! ### What a key tells -/

theorem sha256_length (body : Bytes) : (sha256 body).length = 32 := by
  rw [sha256, List.length_map, Sha256.digest_length]

def keyLayout : Codec.Layout KeyPart PartKind where
  encode := KeyPart.bytes
  kind := KeyPart.kind
  Closed kind := kind ≠ .text

/-- A part that is sized and whose body is among these bodies, if it is a digest. -/
def KeyPart.Within (bodies : Set Bytes) (part : KeyPart) : Prop :=
  part.Sized ∧ ∀ body, part = .digest body → body.bytes ∈ bodies

theorem keyLayout_readable {bodies : Set Bytes} (hashes : Set.InjOn sha256 bodies) :
    keyLayout.Readable (KeyPart.Within bodies) where
  apart := by
    intro first second firstWithin secondWithin kinds same
    cases first with
    | number width value =>
        cases second with
        | number otherWidth other =>
            cases kinds
            rw [Kv.bigEndian_inj firstWithin.1 secondWithin.1 same]
        | _ => cases kinds
    | text content =>
        cases second with
        | text other => rw [textBytes_inj same]
        | _ => cases kinds
    | digest body =>
        cases second with
        | digest other =>
            have bodies := hashes (firstWithin.2 body rfl) (secondWithin.2 other rfl) same
            have kinds := PartKind.digest.inj kinds
            rw [HashedBody.bytes_inj firstWithin.1 secondWithin.1 kinds bodies]
        | _ => cases kinds
  even := by
    intro first second kinds closed
    cases first with
    | number width value =>
        cases second with
        | number otherWidth other =>
            cases kinds
            exact (Kv.bigEndian_length width value).trans (Kv.bigEndian_length width other).symm
        | _ => cases kinds
    | text content => exact absurd rfl closed
    | digest body =>
        cases second with
        | digest other => exact (sha256_length body.bytes).trans (sha256_length other.bytes).symm
        | _ => cases kinds

theorem KeyShape.kinds_closed (shape : KeyShape) :
    ∀ kind ∈ shape.kinds.dropLast, kind ≠ .text := by
  cases shape <;> decide

theorem StateKey.parts_closed (key : StateKey) :
    ∀ part ∈ key.parts.dropLast, keyLayout.Closed (keyLayout.kind part) := by
  intro part member
  have kinds := key.shape.kinds_closed part.kind
  rw [← key.kinds_parts, ← List.map_dropLast] at kinds
  exact kinds (List.mem_map_of_mem member)

theorem StateKey.label_start {shape : KeyShape} {behind : Bytes} {key : StateKey}
    (under : ascii shape.label ++ behind <+: key.bytes) :
    key.shape = shape ∧ behind <+: keyLayout.bytes key.parts := by
  rw [key.bytes_parts] at under
  have labels : shape = key.shape := by
    rcases List.prefix_or_prefix_of_prefix ((List.prefix_append _ behind).trans under)
      (List.prefix_append _ _) with shorter | longer
    · exact KeyShape.labels_apart shorter
    · exact (KeyShape.labels_apart longer).symm
  subst labels
  exact ⟨rfl, (List.prefix_append_right_inj _).mp under⟩

theorem StateKey.shape_of_bytes {first second : StateKey} (same : first.bytes = second.bytes) :
    first.shape = second.shape := by
  have start : ascii first.shape.label ++ keyLayout.bytes first.parts <+: second.bytes := by
    rw [← same, first.bytes_parts]
    exact List.prefix_rfl
  exact (label_start start).1.symm

def hashedBodies (keys : Set StateKey) : Set Bytes :=
  { bytes | ∃ key ∈ keys, ∃ body, .digest body ∈ key.parts ∧ body.bytes = bytes }

theorem StateKey.parts_within {keys : Set StateKey} {key : StateKey} (member : key ∈ keys)
    (sized : key.Sized) : ∀ part ∈ key.parts, part.Within (hashedBodies keys) := by
  intro part inside
  refine ⟨sized part inside, ?_⟩
  intro body digest
  exact ⟨key, member, body, digest ▸ inside, rfl⟩

theorem StateKey.bytes_inj {keys : Set StateKey} (hashes : Set.InjOn sha256 (hashedBodies keys))
    {first second : StateKey} (firstMember : first ∈ keys) (secondMember : second ∈ keys)
    (firstSized : first.Sized) (secondSized : second.Sized) (same : first.bytes = second.bytes) :
    first.identified = second.identified := by
  have shapes := (shape_of_bytes same).symm
  have tails : keyLayout.bytes first.parts = keyLayout.bytes second.parts := by
    rw [first.bytes_parts, second.bytes_parts, shapes] at same
    exact List.append_cancel_left same
  have kinds : first.parts.map keyLayout.kind = second.parts.map keyLayout.kind := by
    rw [show keyLayout.kind = KeyPart.kind from rfl, first.kinds_parts, second.kinds_parts, shapes]
  have parts := Codec.Layout.bytes_inj (keyLayout_readable hashes)
    (parts_within firstMember firstSized) (parts_within secondMember secondSized) kinds
    first.parts_closed tails
  have firstKey := KeyShape.key_parts first
  rw [parts, ← shapes, KeyShape.key_parts second, Option.some.injEq] at firstKey
  exact firstKey.symm

/-! ### Scans -/

inductive KeyScan where
  | records (partition : PartitionKey)
  | bookmarkOrders (partition : PartitionKey)
  | streamBookmarkOrders (owner : StreamId)
  | streams
  | retentions
  | reclaimHints
  | leases
  | exportReceipts
deriving DecidableEq

namespace KeyScan

def head : KeyScan → Bytes
  | records partition => recordPrefix partition
  | bookmarkOrders partition => bookmarkOrderPrefix partition
  | streamBookmarkOrders owner => streamBookmarkOrderPrefix owner
  | streams => ascii "stream/"
  | retentions => ascii "retention/"
  | reclaimHints => ascii "retention-reclaim-hint/"
  | leases => ascii "lease/id/"
  | exportReceipts => ascii "export/receipt/"

/-- The keys of the key function that a scan is for, at the argument of its prefix. -/
def Covers : KeyScan → StateKey → Prop
  | records partition, key => ∃ offset, key = .record partition offset
  | bookmarkOrders partition, key => ∃ publication, key = .bookmarkOrder partition publication
  | streamBookmarkOrders owner, key => ∃ publication, key = .streamBookmarkOrder owner publication
  | streams, key => ∃ owner, key = .stream owner
  | retentions, key => ∃ partition, key = .retention partition
  | reclaimHints, key => ∃ partition, key = .reclaimHint partition
  | leases, key => ∃ id, key = .leaseId id
  | exportReceipts, key => ∃ request, key = .exportReceipt request

def Sized : KeyScan → Prop
  | records partition => partition.Sized
  | bookmarkOrders partition => partition.Sized
  | streamBookmarkOrders owner => owner.uuid < 256 ^ 16
  | _ => True

def shape : KeyScan → KeyShape
  | records _ => .record
  | bookmarkOrders _ => .bookmarkOrder
  | streamBookmarkOrders _ => .streamBookmarkOrder
  | streams => .stream
  | retentions => .retention
  | reclaimHints => .reclaimHint
  | leases => .leaseId
  | exportReceipts => .exportReceipt

def parts : KeyScan → List KeyPart
  | records partition => KeyPart.partition partition
  | bookmarkOrders partition => KeyPart.partition partition
  | streamBookmarkOrders owner => [.number 16 owner.uuid]
  | _ => []

theorem head_parts (scan : KeyScan) :
    scan.head = ascii scan.shape.label ++ keyLayout.bytes scan.parts := by
  cases scan <;>
    simp [head, shape, parts, KeyShape.label, Codec.Layout.bytes, keyLayout, KeyPart.bytes,
      KeyPart.partition, recordPrefix, bookmarkOrderPrefix, streamBookmarkOrderPrefix,
      partitionBytes, uuidBytes]

theorem parts_within {scan : KeyScan} (sized : scan.Sized) (bodies : Set Bytes) :
    ∀ part ∈ scan.parts, part.Within bodies := by
  have partitioned : ∀ partition : PartitionKey, partition.Sized →
      ∀ part ∈ KeyPart.partition partition, part.Within bodies := by
    intro partition sized part member
    rcases List.mem_pair.mp member with rfl | rfl
    · exact ⟨sized.1, nofun⟩
    · exact ⟨sized.2, nofun⟩
  cases scan with
  | records partition => exact partitioned partition sized
  | bookmarkOrders partition => exact partitioned partition sized
  | streamBookmarkOrders owner =>
      intro part member
      obtain rfl := List.mem_singleton.mp member
      exact ⟨sized, nofun⟩
  | _ => simp [parts]

theorem parts_closed (scan : KeyScan) :
    ∀ part ∈ scan.parts, keyLayout.Closed (keyLayout.kind part) := by
  cases scan <;> simp [parts, KeyPart.partition, keyLayout, KeyPart.kind]

theorem kinds_start (scan : KeyScan) :
    scan.parts.map keyLayout.kind <+: scan.shape.kinds := by
  cases scan <;> simp [parts, KeyPart.partition, keyLayout, KeyPart.kind, shape, KeyShape.kinds]

theorem stream_eq_iff {first second : StreamId} : first = second ↔ second.uuid = first.uuid := by
  cases first
  cases second
  simp [eq_comm]

theorem partition_eq_iff {first second : PartitionKey} : first = second ↔
    second.stream.uuid = first.stream.uuid ∧ second.partition = first.partition := by
  cases first
  cases second
  simp [stream_eq_iff, eq_comm]

theorem covers_iff (scan : KeyScan) (key : StateKey) :
    scan.Covers key ↔ key.shape = scan.shape ∧ scan.parts <+: key.parts := by
  cases scan with
  | records partition =>
      cases key <;> simp [Covers, shape, parts, StateKey.shape, StateKey.parts, KeyPart.partition,
        partition_eq_iff]
  | bookmarkOrders partition =>
      cases key <;> simp [Covers, shape, parts, StateKey.shape, StateKey.parts, KeyPart.partition,
        partition_eq_iff]
  | streamBookmarkOrders owner =>
      cases key <;> simp [Covers, shape, parts, StateKey.shape, StateKey.parts, stream_eq_iff]
  | _ => cases key <;> simp [Covers, shape, parts, StateKey.shape]

theorem shape_within {scan : KeyScan} {key : StateKey} (sized : key.Sized)
    (shapes : key.shape = scan.shape) (some : scan.parts ≠ []) (bodies : Set Bytes) :
    ∀ part ∈ key.parts, part.Within bodies := by
  intro part member
  refine ⟨sized part member, ?_⟩
  intro body digest
  have kinds : part.kind ∈ scan.shape.kinds := by
    rw [← shapes, ← key.kinds_parts]
    exact List.mem_map_of_mem member
  rw [digest] at kinds
  cases scan <;> simp [shape, KeyShape.kinds, KeyPart.kind, parts] at kinds some

theorem head_iff {scan : KeyScan} {key : StateKey} (scanSized : scan.Sized) (sized : key.Sized) :
    scan.head <+: key.bytes ↔ scan.Covers key := by
  rw [covers_iff, head_parts]
  constructor
  · intro under
    obtain ⟨shapes, under⟩ := StateKey.label_start under
    refine ⟨shapes, ?_⟩
    by_cases some : scan.parts = []
    · rw [some]
      exact List.nil_prefix
    · have kinds : scan.parts.map keyLayout.kind <+: key.parts.map keyLayout.kind := by
        rw [show key.parts.map keyLayout.kind = key.shape.kinds from key.kinds_parts, shapes]
        exact scan.kinds_start
      exact Codec.Layout.bytes_start (keyLayout_readable (Set.injOn_empty sha256))
        (parts_within scanSized ∅) (shape_within sized shapes some ∅) kinds scan.parts_closed under
  · rintro ⟨shapes, rest, behind⟩
    rw [key.bytes_parts, shapes, ← behind, List.flatMap_append]
    exact ⟨rest.flatMap KeyPart.bytes, List.append_assoc _ _ _⟩


end KeyScan

theorem GroupDb.mem_scanPrefix {db : GroupDb} {head : Bytes} {key : StateKey} :
    key ∈ db.scanPrefix head ↔ (db.state.get key).isSome = true ∧ head <+: key.bytes := by
  rw [scanPrefix, Kv.Store.iterate_takeWhile List.prefix_rfl, List.mem_filter,
    Kv.Store.mem_iterate, List.isPrefixOf_iff_prefix, and_assoc]
  constructor
  · rintro ⟨held, _, under⟩
    exact ⟨held, under⟩
  · rintro ⟨held, under⟩
    exact ⟨held, Kv.prefix_le under, under⟩

theorem GroupDb.scanPrefix_sorted (db : GroupDb) (head : Bytes) :
    (db.scanPrefix head).Nodup ∧
      (db.scanPrefix head).Pairwise fun first second => first.bytes ≤ second.bytes := by
  have taken : (db.scanPrefix head).Sublist (db.state.iterate StateKey.bytes head) :=
    List.takeWhile_sublist _
  exact ⟨Kv.Store.iterate_nodup.sublist taken, Kv.Store.iterate_sorted.sublist taken⟩

/-! ### The order of numbers -/

theorem numbered_lt_iff {head : Bytes} {first second : Nat} (firstFits : first < 256 ^ 8)
    (secondFits : second < 256 ^ 8) :
    head ++ Kv.bigEndian 8 first < head ++ Kv.bigEndian 8 second ↔ first < second := by
  rw [Kv.prefix_lt_iff, Kv.bigEndian_lt_iff, Nat.mod_eq_of_lt firstFits,
    Nat.mod_eq_of_lt secondFits]

/-! ### State keys do not collide -/

theorem sessionKey_bytes (partition : PartitionKey) (request : ProducerRequestId) :
    StateKeys.sessionKey partition request =
      (StateKey.session partition request.principal request.session).bytes := rfl

theorem mutationSessionKey_bytes (request : MutationRequestId) :
    StateKeys.mutationSessionKey request =
      (StateKey.mutationSession request.principal request.session).bytes := rfl

theorem exportSessionKey_bytes (request : MutationRequestId) :
    StateKeys.exportSessionKey request =
      (StateKey.exportSession request.principal request.session).bytes := rfl

theorem checkpointKey_bytes {key : CheckpointKey} {bytes : Bytes} :
    StateKeys.checkpointKey key = .ok bytes ↔ (textBytes key.consumer.text).length < 256 ^ 4 ∧
      (StateKey.checkpoint key.partition key.consumer).bytes = bytes := by
  rw [StateKeys.checkpointKey, StateKey.bytes]
  split <;> simp_all

/-- The keys of a set are told apart by their bytes, and so are the keys that a scan returns. -/
structure StateKeysApart (keys : Set StateKey) : Prop where
  /-- Keys of one key function with other arguments, and keys of other key functions, differ. -/
  told : ∀ first ∈ keys, ∀ second ∈ keys, first.bytes = second.bytes →
    first.identified = second.identified
  /-- A scan returns the keys of its key function for its argument that the store holds. -/
  scanned : ∀ db : GroupDb, (∀ key, (db.state.get key).isSome = true → key ∈ keys) →
    ∀ scan : KeyScan, scan.Sized → (db.scanPrefix scan.head).Nodup ∧
      ∀ key, key ∈ db.scanPrefix scan.head ↔ (db.state.get key).isSome = true ∧ scan.Covers key
  /-- Record keys and order keys come in the order of their numbers. -/
  ordered : ∀ partition owner first second, first < 256 ^ 8 → second < 256 ^ 8 →
    (recordKey partition first < recordKey partition second ↔ first < second) ∧
    (bookmarkOrderKey partition first < bookmarkOrderKey partition second ↔ first < second) ∧
    (streamBookmarkOrderKey owner first < streamBookmarkOrderKey owner second ↔ first < second)
  /-- A session key is that of the session, whatever the sequence of the request. -/
  sessions : ∀ partition (request : ProducerRequestId) (mutation : MutationRequestId),
    StateKeys.sessionKey partition request =
      (StateKey.session partition request.principal request.session).bytes ∧
    StateKeys.mutationSessionKey mutation =
      (StateKey.mutationSession mutation.principal mutation.session).bytes ∧
    StateKeys.exportSessionKey mutation =
      (StateKey.exportSession mutation.principal mutation.session).bytes
  /-- A checkpoint key is that of the partition and the consumer, whatever the cluster. -/
  checkpoints : ∀ key bytes, StateKeys.checkpointKey key = .ok bytes ↔
    (textBytes key.consumer.text).length < 256 ^ 4 ∧
      (StateKey.checkpoint key.partition key.consumer).bytes = bytes

/-- State keys do not collide, where SHA-256 tells the bodies apart that are hashed for them. -/
theorem state_keys_apart {keys : Set StateKey} (sized : ∀ key ∈ keys, key.Sized)
    (hashes : Set.InjOn sha256 (hashedBodies keys)) : StateKeysApart keys where
  told := by
    intro first firstMember second secondMember same
    exact StateKey.bytes_inj hashes firstMember secondMember (sized first firstMember)
      (sized second secondMember) same
  scanned := by
    intro db held scan scanSized
    refine ⟨(db.scanPrefix_sorted scan.head).1, ?_⟩
    intro key
    rw [GroupDb.mem_scanPrefix]
    refine and_congr_right fun present => ?_
    exact KeyScan.head_iff scanSized (sized key (held key present))
  ordered := by
    intro partition owner first second firstFits secondFits
    refine ⟨?_, ?_, ?_⟩
    · exact numbered_lt_iff firstFits secondFits
    · exact numbered_lt_iff firstFits secondFits
    · exact numbered_lt_iff firstFits secondFits
  sessions := by
    intro partition request mutation
    exact ⟨sessionKey_bytes partition request, mutationSessionKey_bytes mutation,
      exportSessionKey_bytes mutation⟩
  checkpoints := by
    intro key bytes
    exact checkpointKey_bytes

def sampleKeys : List StateKey :=
  [.applied, .record ⟨⟨1⟩, 0⟩ 5, .session ⟨⟨1⟩, 0⟩ ⟨"a"⟩ ⟨2⟩, .mutationSession ⟨"a"⟩ ⟨2⟩,
    .leaseId (.uuid 3)]

theorem sample_digests : sha256 (sessionBody ⟨⟨1⟩, 0⟩ ⟨"a"⟩ ⟨2⟩) ≠
    sha256 (mutationSessionBody ⟨"a"⟩ ⟨2⟩) := by
  decide +kernel

theorem state_keys_apart_sample : StateKeysApart { key | key ∈ sampleKeys } := by
  apply state_keys_apart
  · intro key (member : key ∈ sampleKeys)
    simp only [sampleKeys, List.mem_cons, List.not_mem_nil, or_false] at member
    obtain rfl | rfl | rfl | rfl | rfl := member <;>
      simp [StateKey.Sized, StateKey.parts, KeyPart.partition, KeyPart.Sized, HashedBody.Sized,
        leaseUuid]
  · have bodies : ∀ bytes ∈ hashedBodies { key | key ∈ sampleKeys },
        bytes = sessionBody ⟨⟨1⟩, 0⟩ ⟨"a"⟩ ⟨2⟩ ∨ bytes = mutationSessionBody ⟨"a"⟩ ⟨2⟩ := by
      rintro bytes ⟨key, (member : key ∈ sampleKeys), body, digest, rfl⟩
      simp only [sampleKeys, List.mem_cons, List.not_mem_nil, or_false] at member
      obtain rfl | rfl | rfl | rfl | rfl := member <;>
        simp [StateKey.parts, KeyPart.partition] at digest
      · exact .inl (congrArg HashedBody.bytes digest)
      · exact .inr (congrArg HashedBody.bytes digest)
    intro first firstMember second secondMember same
    rcases bodies first firstMember with rfl | rfl <;>
      rcases bodies second secondMember with rfl | rfl
    · rfl
    · exact absurd same sample_digests
    · exact absurd same.symm sample_digests
    · rfl

/-- Two requests of one session have one session key, and the checkpoints of a consumer in two
clusters one checkpoint key. -/
theorem session_keys_collide :
    (StateKeys.sessionKey ⟨⟨1⟩, 0⟩ ⟨⟨"a"⟩, ⟨2⟩, 1⟩ =
        StateKeys.sessionKey ⟨⟨1⟩, 0⟩ ⟨⟨"a"⟩, ⟨2⟩, 2⟩ ∧
      (⟨⟨"a"⟩, ⟨2⟩, 1⟩ : ProducerRequestId) ≠ ⟨⟨"a"⟩, ⟨2⟩, 2⟩) ∧
    (StateKeys.checkpointKey ⟨⟨1⟩, ⟨⟨1⟩, 0⟩, ⟨"c"⟩⟩ =
        StateKeys.checkpointKey ⟨⟨2⟩, ⟨⟨1⟩, 0⟩, ⟨"c"⟩⟩ ∧
      (⟨⟨1⟩, ⟨⟨1⟩, 0⟩, ⟨"c"⟩⟩ : CheckpointKey) ≠ ⟨⟨2⟩, ⟨⟨1⟩, 0⟩, ⟨"c"⟩⟩) := by
  exact ⟨⟨rfl, by decide⟩, rfl, by decide⟩

end LightStream
