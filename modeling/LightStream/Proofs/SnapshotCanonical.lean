import LightStream.Proofs.SnapshotRoundTrip

/-!
The writer and the two decoders together: what is written is read back, and what is read is
what would be written.
-/

namespace LightStream.SnapshotV3

open Codec

/-! The order of the records -/

theorem admitsAll_payloads {phase : Phase} {payloads : List (Octets × Octets)}
    (after : ∀ previous ∈ phase.lastPayload, ∀ entry ∈ payloads, previous < entry.1)
    (ordered : (payloads.map Prod.fst).Pairwise (· < ·)) :
    phase.AdmitsAll (payloads.map fun entry => .payload entry.1 entry.2) := by
  induction payloads generalizing phase with
  | nil => exact trivial
  | cons entry rest ih =>
      rw [List.map_cons, List.pairwise_cons] at ordered
      refine ⟨fun previous last => after previous last entry (by simp), ih ?_ ordered.2⟩
      intro previous last other member
      obtain rfl := Option.mem_some_iff.mp last
      exact ordered.1 other.1 (List.mem_map_of_mem member)

theorem admitsAll_states {phase : Phase} {state : List (Octets × Octets)}
    {others : List SnapshotRecord} (unseen : phase.payloadSeen = false)
    (after : ∀ previous ∈ phase.lastState, ∀ entry ∈ state, previous < entry.1)
    (ordered : (state.map Prod.fst).Pairwise (· < ·))
    (later : ∀ last, Phase.AdmitsAll ⟨false, last, phase.lastPayload⟩ others) :
    phase.AdmitsAll (state.map (fun entry => .state entry.1 entry.2) ++ others) := by
  induction state generalizing phase with
  | nil =>
      obtain ⟨seen, last, lastPayload⟩ := phase
      obtain rfl : seen = false := unseen
      exact later last
  | cons entry rest ih =>
      rw [List.map_cons, List.pairwise_cons] at ordered
      refine ⟨⟨unseen, fun previous last => after previous last entry (by simp)⟩,
        ih unseen ?_ ordered.2 later⟩
      intro previous last other member
      obtain rfl := Option.mem_some_iff.mp last
      exact ordered.1 other.1 (List.mem_map_of_mem member)

theorem records_admitted {snapshot : DecodedSnapshotV3}
    (stateOrdered : (snapshot.state.map Prod.fst).Pairwise (· < ·))
    (payloadsOrdered : (snapshot.payloads.map Prod.fst).Pairwise (· < ·)) :
    Phase.start.AdmitsAll snapshot.records := by
  have nothing : ∀ (entries : List (Octets × Octets)) (previous : Octets),
      previous ∈ (none : Option Octets) → ∀ entry ∈ entries, previous < entry.1 := by
    intro entries previous never
    cases never
  exact admitsAll_states rfl (nothing _) stateOrdered fun last =>
    admitsAll_payloads (nothing _) payloadsOrdered

theorem statesOf_of_seen {phase : Phase} {records : List SnapshotRecord}
    (seen : phase.payloadSeen = true) (admitted : phase.AdmitsAll records) :
    statesOf records = [] := by
  induction records generalizing phase with
  | nil => rfl
  | cons record rest ih =>
      cases record with
      | state key value =>
          have unseen := admitted.1.1
          rw [seen] at unseen
          cases unseen
      | payload key value => exact @ih (phase.next (.payload key value)) rfl admitted.2

theorem admitted_split {phase : Phase} {records : List SnapshotRecord}
    (admitted : phase.AdmitsAll records) :
    records = (statesOf records).map (fun entry => .state entry.1 entry.2) ++
      (payloadsOf records).map fun entry => .payload entry.1 entry.2 := by
  induction records generalizing phase with
  | nil => rfl
  | cons record rest ih =>
      have split := ih admitted.2
      rw [statesOf_cons, payloadsOf_cons]
      cases record with
      | state key value => exact congrArg _ split
      | payload key value =>
          have noState := @statesOf_of_seen (phase.next (.payload key value)) rest rfl admitted.2
          rw [noState] at split ⊢
          exact congrArg _ split

/-! What the writer seals is read back -/

theorem records_within_iff {snapshot : DecodedSnapshotV3} :
    (∀ record ∈ snapshot.records, record.frame.WithinLimit) ↔
      ∀ entry ∈ snapshot.state ++ snapshot.payloads,
        entry.1.length + entry.2.length ≤ maxSnapshotFrameBytes := by
  rw [DecodedSnapshotV3.records]
  simp only [List.forall_mem_append, List.forall_mem_map]
  rfl

theorem accepted_of_written {hashes : Hashes} {catalog : SnapshotCatalog}
    {snapshot : DecodedSnapshotV3} {artifact : SnapshotArtifact}
    (stateOrdered : (snapshot.state.map Prod.fst).Pairwise (· < ·))
    (payloadsOrdered : (snapshot.payloads.map Prod.fst).Pairwise (· < ·))
    (apart : CollisionFree hashes catalog (snapshot.bytes hashes))
    (written : writeSnapshot hashes catalog snapshot = .ok artifact) :
    Accepted snapshot.header snapshot.records ∧ artifact.file = snapshot.bytes hashes := by
  obtain ⟨headerFits, fits, states, payloads, _, _, rfl⟩ := (writeSnapshot_ok apart).mp written
  refine ⟨⟨headerFits, fits, records_admitted stateOrdered payloadsOrdered, ?_⟩, rfl⟩
  rw [snapshot.statesOf_records, snapshot.payloadsOf_records]
  rw [u64Max] at states payloads
  omega

/-! A record over the frame limit -/

theorem error_of_second {σ α γ : Type} {first : StateT σ (Except Fault) α}
    {second : α → StateT σ (Except Fault) γ} {state middle : σ} {value : α} {fault : Fault}
    (ran : first state = .ok (value, middle)) (failed : second value middle = .error fault) :
    (first >>= second) state = .error fault :=
  bind_error_iff.mpr (.inr ⟨value, middle, ran, failed⟩)

namespace SnapshotArtifactReader

theorem readFrame_oversized (hashes : Hashes) (reader : SnapshotArtifactReader)
    (front rest : Octets) {frame : Frame} (fits : frame.Fits) (large : ¬ frame.WithinLimit) :
    readFrame hashes frame.tag (reader.bodyTape front (toOctets 4 frame.key.length ++
      toOctets 8 frame.value.length ++ rest)) =
        .error (.other "snapshot artifact record is oversized") := by
  have lengths := (takes_readBody reader 12).accepted front
    (toOctets 4 frame.key.length ++ toOctets 8 frame.value.length)
    ⟨rfl, by rw [List.length_append, toOctets_length, toOctets_length]⟩ rest
  have keyLen : ofOctets ((toOctets 4 frame.key.length ++ toOctets 8 frame.value.length).take 4) =
      frame.key.length := by
    rw [take_toOctets, ofOctets_toOctets fits.1]
  have valueLen : ofOctets ((toOctets 4 frame.key.length ++
      toOctets 8 frame.value.length).drop 4) = frame.value.length := by
    rw [drop_toOctets le_rfl, Nat.sub_self, List.drop_zero, ofOctets_toOctets fits.2]
  refine error_of_second lengths (bind_error_iff.mpr (.inl ?_))
  rw [keyLen, valueLen, refuse, if_pos (.inr (Nat.lt_of_not_le large))]
  rfl

theorem nextRecord_oversized (hashes : Hashes) {reader : SnapshotArtifactReader} (front : Octets)
    {record : SnapshotRecord} (rest : Octets) (reading : reader.finished = false)
    (fits : record.frame.Fits) (large : ¬ record.frame.WithinLimit) :
    nextRecord hashes (reader.bodyTape front (record.bytes hashes ++ rest)) =
      .error (.other "snapshot artifact record is oversized") := by
  obtain ⟨others, sealing⟩ : ∃ others, record.bytes hashes ++ rest = record.frame.tag ::
      (toOctets 4 record.frame.key.length ++ toOctets 8 record.frame.value.length ++ others) := by
    refine ⟨record.frame.key ++ record.frame.value ++
      toOctets 4 (hashes.crc32 record.frame.body).toNat ++ rest, ?_⟩
    simp only [SnapshotRecord.bytes, sealed, Frame.body, frameBody, List.cons_append,
      List.append_assoc]
  have differs : some record.frame.tag ≠ snapshotV3Footer.head? := by
    cases record with
    | state key value => exact (by decide : some stateRecord ≠ snapshotV3Footer.head?)
    | payload key value => exact (by decide : some payloadRecord ≠ snapshotV3Footer.head?)
  have taken := (Reads.octet (takes_readExact { reader with bodyDigest := front })
    Fault.panic).accepted [] record.frame.tag rfl (toOctets 4 record.frame.key.length ++
      toOctets 8 record.frame.value.length ++ others)
  rw [sealing]
  refine error_of_second (view_finished front _) ?_
  rw [reading, if_neg (by decide)]
  refine error_of_second taken ?_
  rw [if_neg differs]
  refine error_of_second (updateDigest_first reader front _ record.frame.tag) ?_
  exact bind_error_iff.mpr (.inl (readFrame_oversized hashes reader _ others fits large))

end SnapshotArtifactReader

theorem readSnapshot_oversized (hashes : Hashes) {header : Header} {record : SnapshotRecord}
    (rest : List SnapshotRecord) (headerFits : header.Fits) (within : header.WithinLimit)
    (fits : record.frame.Fits) (large : ¬ record.frame.WithinLimit) :
    readSnapshot hashes (encode hashes header (record :: rest)) =
      .error (.other "snapshot artifact record is oversized") := by
  obtain ⟨others, split⟩ : ∃ others, encode hashes header (record :: rest) =
      sealed hashes (headerBody header) ++ (record.bytes hashes ++ others) := by
    refine ⟨recordBytes hashes rest ++ sealedFooter hashes
      (sealed hashes (headerBody header) ++ recordBytes hashes (record :: rest))
      (statesOf (record :: rest)).length (payloadsOf (record :: rest)).length, ?_⟩
    simp only [encode, recordBytes, List.flatMap_cons, List.append_assoc]
  have opened := (@openFile_ok hashes _ _).mpr
    ⟨header, record.bytes hashes ++ others, headerFits, within, split, rfl⟩
  refine except_bind_error.mpr (.inr ⟨_, opened, except_bind_error.mpr (.inl ?_)⟩)
  exact bind_error_iff.mpr (.inl
    (SnapshotArtifactReader.nextRecord_oversized hashes _ others rfl fits large))

theorem sealed_length (hashes : Hashes) (body : Octets) :
    (sealed hashes body).length = body.length + 4 := by
  rw [sealed, List.length_append, toOctets_length]

theorem single_state_length (hashes : Hashes) (value : Octets) :
    (DecodedSnapshotV3.bytes hashes ⟨⟨1, [], []⟩, [([], value)], []⟩).length =
      value.length + 105 := by
  have header : (headerBody ⟨1, [], []⟩).length = 24 := by decide
  have record : (SnapshotRecord.frame (.state [] value)).body.length = value.length + 13 := by
    simp only [SnapshotRecord.frame, Frame.body, frameBody, List.length_append, List.length_cons,
      toOctets_length, List.length_nil]
    omega
  have footer : ∀ (states payloads : Nat) (digest : Digest),
      (footerBody states payloads digest).length = 56 := by
    intro states payloads digest
    rw [footerBody, List.length_append, List.length_append, List.length_append, toOctets_length,
      toOctets_length, digest.property]
    rfl
  rw [DecodedSnapshotV3.bytes, encode, List.length_append, List.length_append, sealedFooter,
    sealed_length, sealed_length, header, footer]
  simp only [DecodedSnapshotV3.records, List.map_cons, List.map_nil, List.append_nil, recordBytes,
    List.flatMap_cons, List.flatMap_nil, SnapshotRecord.bytes, sealed_length, record]
  omega

theorem single_state_refused (hashes : Hashes) (value : Octets)
    (large : maxSnapshotFrameBytes < value.length) (fits : value.length < 256 ^ 4) :
    ∃ artifact,
      writeSnapshot hashes ⟨fun _ => none⟩ ⟨⟨1, [], []⟩, [([], value)], []⟩ = .ok artifact ∧
      decodeSnapshotV3 hashes artifact.file = .ok (some ⟨⟨1, [], []⟩, [([], value)], []⟩) ∧
      readSnapshot hashes artifact.file =
        .error (.other "snapshot artifact record is oversized") := by
  have apart : CollisionFree hashes ⟨fun _ => none⟩
      (DecodedSnapshotV3.bytes hashes ⟨⟨1, [], []⟩, [([], value)], []⟩) := fun _ never => by
    cases never
  have headerFits : Header.Fits ⟨1, [], []⟩ := by
    constructor
    · decide
    · decide
  have recordFits : (SnapshotRecord.frame (.state [] value)).Fits := by
    constructor
    · change ([] : Octets).length < 256 ^ 4
      decide
    · change value.length < 256 ^ 8
      omega
  have oversized : ¬ (SnapshotRecord.frame (.state [] value)).WithinLimit := by
    intro within
    have bound : ([] : Octets).length + value.length ≤ maxSnapshotFrameBytes := within
    rw [List.length_nil, Nat.zero_add] at bound
    exact absurd large (Nat.not_lt.mpr bound)
  have written := (writeSnapshot_ok apart).mpr ⟨headerFits, by
      intro record member
      obtain rfl := List.mem_singleton.mp member
      exact recordFits, (by decide : 1 ≤ u64Max), (by decide : 0 ≤ u64Max), by
      rw [single_state_length, u64Max]
      omega, fun _ never => (by cases never), rfl⟩
  obtain ⟨accepted, _⟩ := accepted_of_written (by simp) (by simp) apart written
  refine ⟨_, written, decodeSnapshotV3_ok.mpr ⟨_, accepted, rfl, rfl, rfl⟩, ?_⟩
  exact readSnapshot_oversized hashes [] headerFits (by decide : 0 + 0 ≤ maxSnapshotFrameBytes)
    recordFits oversized

/-! What is written is read -/

/-- What the writer seals, the slice decoder takes back; the streaming reader does when neither
the header nor a record is over its frame limit. -/
theorem sealed_snapshot_read_back (hashes : Hashes) (catalog : SnapshotCatalog)
    (snapshot : DecodedSnapshotV3) (artifact : SnapshotArtifact)
    (stateOrdered : (snapshot.state.map Prod.fst).Pairwise (· < ·))
    (payloadsOrdered : (snapshot.payloads.map Prod.fst).Pairwise (· < ·))
    (apart : CollisionFree hashes catalog (snapshot.bytes hashes))
    (written : writeSnapshot hashes catalog snapshot = .ok artifact) :
    (decodeSnapshotV3 hashes artifact.file = .ok (some snapshot) ∧
      readSnapshot hashes artifact.file = .ok ⟨snapshot.header, snapshot.records⟩) ↔
      snapshot.header.identityJson.length + snapshot.header.metaJson.length ≤
          maxSnapshotFrameBytes ∧
        ∀ entry ∈ snapshot.state ++ snapshot.payloads,
          entry.1.length + entry.2.length ≤ maxSnapshotFrameBytes := by
  obtain ⟨accepted, file⟩ := accepted_of_written stateOrdered payloadsOrdered apart written
  have decoded : decodeSnapshotV3 hashes artifact.file = .ok (some snapshot) :=
    decodeSnapshotV3_ok.mpr ⟨snapshot.records, accepted, file, snapshot.statesOf_records.symm,
      snapshot.payloadsOf_records.symm⟩
  rw [← records_within_iff]
  constructor
  · rintro ⟨_, read⟩
    exact (readSnapshot_ok.mp read).2.1
  · intro within
    exact ⟨decoded, readSnapshot_ok.mpr ⟨accepted, within, file⟩⟩

/-- Hashes that do not tell any bytes apart. -/
def plainHashes : Hashes := ⟨fun _ => 0, fun _ => ⟨List.replicate 32 0, rfl⟩⟩

theorem sealed_snapshot_read_back_sample : ∃ artifact,
    writeSnapshot plainHashes ⟨fun _ => none⟩ ⟨⟨1, [], []⟩, [([1], [2])], [([3], [4])]⟩ =
      .ok artifact ∧
    readSnapshot plainHashes artifact.file =
      .ok ⟨⟨1, [], []⟩, [.state [1] [2], .payload [3] [4]]⟩ := by
  refine ⟨_, rfl, ?_⟩
  exact ((sealed_snapshot_read_back plainHashes ⟨fun _ => none⟩
    ⟨⟨1, [], []⟩, [([1], [2])], [([3], [4])]⟩ _ (by simp) (by simp)
    (fun _ never => by cases never) rfl).mpr ⟨by decide, by decide⟩).2

theorem oversized_record_unrecoverable : ∃ snapshot : DecodedSnapshotV3,
    snapshot = ⟨⟨1, [], []⟩, [([], List.replicate (8 * 1024 * 1024 + 1) 0)], []⟩ ∧
    ∀ hashes, ∃ artifact, writeSnapshot hashes ⟨fun _ => none⟩ snapshot = .ok artifact ∧
      decodeSnapshotV3 hashes artifact.file = .ok (some snapshot) ∧
      readSnapshot hashes artifact.file =
        .error (.other "snapshot artifact record is oversized") := by
  refine ⟨_, rfl, fun hashes => single_state_refused hashes _ ?_ ?_⟩
  · rw [List.length_replicate]
    decide
  · rw [List.length_replicate]
    decide

/-! What is read is what would be written -/

/-- Whatever header and records a byte string starts with, none of them is over the limit. -/
def WithinReaderLimits (hashes : Hashes) (bytes : Octets) : Prop :=
  ∀ header records rest, header.Fits → (∀ record ∈ records, record.frame.Fits) →
    bytes = sealed hashes (headerBody header) ++ recordBytes hashes records ++ rest →
      header.WithinLimit ∧ ∀ record ∈ records, record.frame.WithinLimit

/-- The bytes of a slice or of a file, whose number is a machine word. -/
def FileBytes : Type := { bytes : Octets // bytes.length ≤ u64Max }

theorem DecodedSnapshotV3.eq_of_admitted {snapshot : DecodedSnapshotV3}
    {records : List SnapshotRecord} (admitted : Phase.start.AdmitsAll records)
    (states : snapshot.state = statesOf records)
    (payloads : snapshot.payloads = payloadsOf records) :
    snapshot.records = records := by
  rw [DecodedSnapshotV3.records, states, payloads]
  exact (admitted_split admitted).symm

theorem decodeSnapshotV3_iff {hashes : Hashes} {bytes : Octets} {snapshot : DecodedSnapshotV3} :
    decodeSnapshotV3 hashes bytes = .ok (some snapshot) ↔
      Accepted snapshot.header snapshot.records ∧ bytes = snapshot.bytes hashes := by
  rw [decodeSnapshotV3_ok]
  constructor
  · rintro ⟨records, accepted, isBytes, states, payloads⟩
    have same := DecodedSnapshotV3.eq_of_admitted accepted.ordered states payloads
    rw [DecodedSnapshotV3.bytes, same]
    exact ⟨accepted, isBytes⟩
  · rintro ⟨accepted, isBytes⟩
    exact ⟨snapshot.records, accepted, isBytes, snapshot.statesOf_records.symm,
      snapshot.payloadsOf_records.symm⟩

/-- The two decoders accept the same byte strings within the reader's limits, with one result,
which the writer turns into the same bytes; neither panics nor loops. -/
theorem decoders_agree (hashes : Hashes) (bytes : FileBytes) :
    (WithinReaderLimits hashes bytes.val → ∀ streamed,
      readSnapshot hashes bytes.val = .ok streamed ↔ ∃ snapshot,
        decodeSnapshotV3 hashes bytes.val = .ok (some snapshot) ∧
        streamed = ⟨snapshot.header, snapshot.records⟩) ∧
    (∀ snapshot catalog, decodeSnapshotV3 hashes bytes.val = .ok (some snapshot) →
      (∀ stored, catalog.objects (hashes.sha256 bytes.val) = some stored → stored = bytes.val) →
        ∃ artifact, writeSnapshot hashes catalog snapshot = .ok artifact ∧
          artifact.file = bytes.val) ∧
    (∀ fault, decodeSnapshotV3 hashes bytes.val = .error fault → fault.Returned) ∧
    ∀ fault, readSnapshot hashes bytes.val = .error fault → fault.Returned := by
  obtain ⟨bytes, sized⟩ := bytes
  dsimp only
  refine ⟨?_, ?_, fun _ => decodeSnapshotV3_error, fun _ => readSnapshot_error sized⟩
  · intro within streamed
    rw [readSnapshot_ok]
    constructor
    · rintro ⟨accepted, _, isBytes⟩
      have same := @DecodedSnapshotV3.eq_of_admitted
        ⟨streamed.header, statesOf streamed.records, payloadsOf streamed.records⟩ _
        accepted.ordered rfl rfl
      refine ⟨⟨streamed.header, statesOf streamed.records, payloadsOf streamed.records⟩,
        decodeSnapshotV3_iff.mpr ?_, ?_⟩
      · rw [DecodedSnapshotV3.bytes, same]
        exact ⟨accepted, isBytes⟩
      · rw [same]
    · rintro ⟨snapshot, decoded, rfl⟩
      obtain ⟨accepted, isBytes⟩ := decodeSnapshotV3_iff.mp decoded
      refine ⟨accepted, ?_, isBytes⟩
      exact within _ _ _ accepted.headerFits accepted.framesFit isBytes
  · intro snapshot catalog decoded kept
    obtain ⟨accepted, rfl⟩ := decodeSnapshotV3_iff.mp decoded
    have counts := accepted.counts
    rw [snapshot.statesOf_records, snapshot.payloadsOf_records] at counts
    refine ⟨_, (writeSnapshot_ok fun stored found _ => kept stored found).mpr
      ⟨accepted.headerFits, accepted.framesFit, ?_, ?_, sized, kept, rfl⟩, rfl⟩
    · rw [u64Max]
      omega
    · rw [u64Max]
      omega

theorem withinReaderLimits_of_length {hashes : Hashes} {bytes : Octets}
    (short : bytes.length ≤ maxSnapshotFrameBytes) : WithinReaderLimits hashes bytes := by
  rintro header records rest _ _ rfl
  simp only [List.length_append, sealed_length] at short
  constructor
  · have inside : header.identityJson.length + header.metaJson.length ≤
        (headerBody header).length := by
      simp only [headerBody, List.length_append]
      omega
    rw [Header.WithinLimit]
    omega
  · intro record member
    have frame : record.frame.key.length + record.frame.value.length ≤
        (record.bytes hashes).length := by
      simp only [SnapshotRecord.bytes, sealed_length, Frame.body, frameBody, List.length_append]
      omega
    obtain ⟨before, after, rfl⟩ := List.append_of_mem member
    rw [recordBytes, List.flatMap_append, List.flatMap_cons] at short
    simp only [List.length_append] at short
    rw [Frame.WithinLimit]
    omega

theorem decoders_agree_sample : ∃ bytes : FileBytes,
    bytes.val = DecodedSnapshotV3.bytes plainHashes ⟨⟨1, [], []⟩, [([1], [2])], [([3], [4])]⟩ ∧
    readSnapshot plainHashes bytes.val =
      .ok ⟨⟨1, [], []⟩, [.state [1] [2], .payload [3] [4]]⟩ := by
  refine ⟨⟨DecodedSnapshotV3.bytes plainHashes ⟨⟨1, [], []⟩, [([1], [2])], [([3], [4])]⟩,
    by decide +kernel⟩, rfl, ?_⟩
  exact ((decoders_agree plainHashes _).1
    (withinReaderLimits_of_length (by decide +kernel)) _).mpr
      ⟨⟨⟨1, [], []⟩, [([1], [2])], [([3], [4])]⟩, by decide +kernel, rfl⟩

end LightStream.SnapshotV3
