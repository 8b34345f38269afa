import LightStream.Proofs.SnapshotStream

/-!
The writer.  It seals the canonical bytes of its header and records, for every length that fits
the length fields; the streaming reader takes them back within its frame limit only.
-/

namespace LightStream.SnapshotV3

open Codec

def DecodedSnapshotV3.records (snapshot : DecodedSnapshotV3) : List SnapshotRecord :=
  snapshot.state.map (fun entry => .state entry.1 entry.2) ++
    snapshot.payloads.map fun entry => .payload entry.1 entry.2

def CollisionFree (hashes : Hashes) (catalog : SnapshotCatalog) (bytes : Octets) : Prop :=
  ∀ stored, catalog.objects (hashes.sha256 bytes) = some stored →
    hashes.sha256 stored = hashes.sha256 bytes → stored = bytes

namespace SnapshotArtifactWriter

def wrote (bytes : Octets) (states payloads : Nat) : SnapshotArtifactWriter :=
  ⟨bytes, bytes, bytes.length, states, payloads⟩

def writeOne (hashes : Hashes) (writer : SnapshotArtifactWriter) :
    SnapshotRecord → Except Fault SnapshotArtifactWriter
  | .state key value => writer.writeState hashes (key, value)
  | .payload key value => writer.writePayload hashes (key, value)

theorem tryFromInt_ok {value max result : Nat} :
    tryFromInt value max = .ok result ↔ value ≤ max ∧ result = value := by
  rw [tryFromInt]
  split
  · rename_i small
    simp [small, eq_comm]
  · rename_i large
    simp [large]

theorem checkedAdd_ok {value increment result : Nat} {message : String} :
    checkedAdd value increment message = .ok result ↔
      value + increment ≤ u64Max ∧ result = value + increment := by
  rw [checkedAdd]
  split
  · rename_i small
    simp [small, eq_comm]
  · rename_i large
    simp [large]

theorem writeHashed_ok {bytes more : Octets} {states payloads : Nat}
    {after : SnapshotArtifactWriter} : (wrote bytes states payloads).writeHashed more = .ok after ↔
      (bytes ++ more).length ≤ u64Max ∧ after = wrote (bytes ++ more) states payloads := by
  rw [List.length_append]
  constructor
  · intro ran
    obtain ⟨byteLen, added, returned⟩ := except_bind_ok.mp ran
    obtain ⟨small, rfl⟩ := checkedAdd_ok.mp added
    cases returned
    refine ⟨small, ?_⟩
    rw [wrote, wrote, List.length_append]
  · rintro ⟨small, rfl⟩
    refine except_bind_ok.mpr ⟨_, checkedAdd_ok.mpr ⟨small, rfl⟩, ?_⟩
    rw [wrote, wrote, List.length_append]
    rfl

theorem writeRecord_ok {hashes : Hashes} {bytes : Octets} {states payloads : Nat} {tag : UInt8}
    {key value : Octets} {after : SnapshotArtifactWriter} :
    (wrote bytes states payloads).writeRecord hashes tag key value = .ok after ↔
      (Frame.mk tag key value).Fits ∧
        (bytes ++ sealed hashes (frameBody tag key value)).length ≤ u64Max ∧
        after = wrote (bytes ++ sealed hashes (frameBody tag key value)) states payloads := by
  have whole : ∀ checksum, bytes ++ (tag :: toOctets 4 key.length ++ toOctets 8 value.length) ++
      key ++ value ++ checksum = bytes ++ (frameBody tag key value ++ checksum) := by
    intro checksum
    simp only [frameBody, List.append_assoc, List.cons_append]
  constructor
  · intro ran
    obtain ⟨_, keyFits, ran⟩ := except_bind_ok.mp ran
    obtain ⟨keySmall, rfl⟩ := tryFromInt_ok.mp keyFits
    obtain ⟨_, valueFits, ran⟩ := except_bind_ok.mp ran
    obtain ⟨valueSmall, rfl⟩ := tryFromInt_ok.mp valueFits
    obtain ⟨_, first, ran⟩ := except_bind_ok.mp ran
    obtain ⟨_, rfl⟩ := writeHashed_ok.mp first
    obtain ⟨_, second, ran⟩ := except_bind_ok.mp ran
    obtain ⟨_, rfl⟩ := writeHashed_ok.mp second
    obtain ⟨_, third, ran⟩ := except_bind_ok.mp ran
    obtain ⟨_, rfl⟩ := writeHashed_ok.mp third
    obtain ⟨small, rfl⟩ := writeHashed_ok.mp ran
    rw [whole] at small ⊢
    refine ⟨⟨?_, ?_⟩, small, rfl⟩
    · change key.length < 256 ^ 4
      omega
    · change value.length < 256 ^ 8
      rw [u64Max] at valueSmall
      omega
  · rintro ⟨⟨keyFits, valueFits⟩, small, rfl⟩
    dsimp only at keyFits valueFits
    have sized := small
    rw [sealed, ← whole] at sized
    simp only [List.length_append] at sized
    refine except_bind_ok.mpr ⟨_, tryFromInt_ok.mpr ⟨by omega, rfl⟩, ?_⟩
    refine except_bind_ok.mpr ⟨_, tryFromInt_ok.mpr ⟨by rw [u64Max]; omega, rfl⟩, ?_⟩
    refine except_bind_ok.mpr ⟨_, writeHashed_ok.mpr ⟨?_, rfl⟩, ?_⟩
    · simp only [List.length_append]
      omega
    refine except_bind_ok.mpr ⟨_, writeHashed_ok.mpr ⟨?_, rfl⟩, ?_⟩
    · simp only [List.length_append]
      omega
    refine except_bind_ok.mpr ⟨_, writeHashed_ok.mpr ⟨?_, rfl⟩, ?_⟩
    · simp only [List.length_append]
      omega
    refine writeHashed_ok.mpr ⟨?_, ?_⟩
    · simp only [List.length_append]
      exact sized
    · rw [whole]
      rfl

theorem writeOne_ok {hashes : Hashes} {bytes : Octets} {states payloads : Nat}
    {record : SnapshotRecord} {after : SnapshotArtifactWriter} :
    (wrote bytes states payloads).writeOne hashes record = .ok after ↔
      record.frame.Fits ∧ (bytes ++ record.bytes hashes).length ≤ u64Max ∧
        (record.stateEntry.isSome → states + 1 ≤ u64Max) ∧
        (record.payloadEntry.isSome → payloads + 1 ≤ u64Max) ∧
        after = wrote (bytes ++ record.bytes hashes) (states + record.stateEntry.toList.length)
          (payloads + record.payloadEntry.toList.length) := by
  cases record with
  | state key value =>
      constructor
      · intro ran
        obtain ⟨_, recorded, ran⟩ := except_bind_ok.mp ran
        obtain ⟨fits, small, rfl⟩ := writeRecord_ok.mp recorded
        obtain ⟨_, counted, returned⟩ := except_bind_ok.mp ran
        obtain ⟨counts, rfl⟩ := checkedAdd_ok.mp counted
        cases returned
        exact ⟨fits, small, fun _ => counts, fun never => (by cases never), rfl⟩
      · rintro ⟨fits, small, counts, _, rfl⟩
        exact except_bind_ok.mpr ⟨_, writeRecord_ok.mpr ⟨fits, small, rfl⟩,
          except_bind_ok.mpr ⟨_, checkedAdd_ok.mpr ⟨counts rfl, rfl⟩, rfl⟩⟩
  | payload key value =>
      constructor
      · intro ran
        obtain ⟨_, recorded, ran⟩ := except_bind_ok.mp ran
        obtain ⟨fits, small, rfl⟩ := writeRecord_ok.mp recorded
        obtain ⟨_, counted, returned⟩ := except_bind_ok.mp ran
        obtain ⟨counts, rfl⟩ := checkedAdd_ok.mp counted
        cases returned
        exact ⟨fits, small, fun never => (by cases never), fun _ => counts, rfl⟩
      · rintro ⟨fits, small, _, counts, rfl⟩
        exact except_bind_ok.mpr ⟨_, writeRecord_ok.mpr ⟨fits, small, rfl⟩,
          except_bind_ok.mpr ⟨_, checkedAdd_ok.mpr ⟨counts rfl, rfl⟩, rfl⟩⟩

theorem writeAll_ok {hashes : Hashes} {bytes : Octets} {states payloads : Nat}
    {records : List SnapshotRecord} {after : SnapshotArtifactWriter}
    (room : bytes.length ≤ u64Max ∧ states ≤ u64Max ∧ payloads ≤ u64Max) :
    records.foldlM (writeOne hashes) (wrote bytes states payloads) = .ok after ↔
      (∀ record ∈ records, record.frame.Fits) ∧
        (bytes ++ recordBytes hashes records).length ≤ u64Max ∧
        states + (statesOf records).length ≤ u64Max ∧
        payloads + (payloadsOf records).length ≤ u64Max ∧
        after = wrote (bytes ++ recordBytes hashes records) (states + (statesOf records).length)
          (payloads + (payloadsOf records).length) := by
  induction records generalizing bytes states payloads with
  | nil =>
      simp only [List.foldlM_nil, recordBytes, statesOf, payloadsOf, List.flatMap_nil,
        List.filterMap_nil, List.append_nil, List.length_nil, Nat.add_zero, List.not_mem_nil,
        false_imp_iff, implies_true, true_and, room]
      constructor
      · intro ran
        exact (Except.ok.inj ran).symm
      · rintro rfl
        rfl
  | cons record rest ih =>
      have grouped : ∀ front, front ++ record.bytes hashes ++ recordBytes hashes rest =
          front ++ recordBytes hashes (record :: rest) := by
        intro front
        rw [recordBytes, recordBytes, List.flatMap_cons, List.append_assoc]
      have bounds := fun more : Octets => @List.length_append _ more (recordBytes hashes rest)
      have stateSum : states + (statesOf (record :: rest)).length =
          states + record.stateEntry.toList.length + (statesOf rest).length := by
        rw [statesOf_cons, List.length_append, Nat.add_assoc]
      have payloadSum : payloads + (payloadsOf (record :: rest)).length =
          payloads + record.payloadEntry.toList.length + (payloadsOf rest).length := by
        rw [payloadsOf_cons, List.length_append, Nat.add_assoc]
      rw [List.foldlM_cons, stateSum, payloadSum, ← grouped]
      constructor
      · intro ran
        obtain ⟨_, one, ran⟩ := except_bind_ok.mp ran
        obtain ⟨fits, small, stateWord, payloadWord, rfl⟩ := writeOne_ok.mp one
        have entries : states + record.stateEntry.toList.length ≤ u64Max ∧
            payloads + record.payloadEntry.toList.length ≤ u64Max := by
          cases record with
          | state key value => exact ⟨stateWord rfl, room.2.2⟩
          | payload key value => exact ⟨room.2.1, payloadWord rfl⟩
        obtain ⟨later, sized, stateCount, payloadCount, rfl⟩ := (ih ⟨small, entries⟩).mp ran
        exact ⟨List.forall_mem_cons.mpr ⟨fits, later⟩, sized, stateCount, payloadCount, rfl⟩
      · rintro ⟨fits, sized, stateCount, payloadCount, rfl⟩
        obtain ⟨first, later⟩ := List.forall_mem_cons.mp fits
        have small : (bytes ++ record.bytes hashes).length ≤ u64Max := by
          rw [bounds] at sized
          omega
        refine except_bind_ok.mpr ⟨_, writeOne_ok.mpr ⟨first, small, ?_, ?_, rfl⟩, ?_⟩
        · intro some
          cases record with
          | state key value =>
              rw [SnapshotRecord.stateEntry, Option.toList_some, List.length_singleton]
                at stateCount
              omega
          | payload key value => cases some
        · intro some
          cases record with
          | state key value => cases some
          | payload key value =>
              rw [SnapshotRecord.payloadEntry, Option.toList_some, List.length_singleton]
                at payloadCount
              omega
        · exact (ih ⟨small, by omega, by omega⟩).mpr ⟨later, sized, stateCount, payloadCount, rfl⟩

theorem openVerified_ok {file : Octets} {byteLen : Nat} {digest : Digest}
    {artifact : SnapshotArtifact} : openVerified file byteLen digest = .ok artifact ↔
      file.length = byteLen ∧ artifact = ⟨file, byteLen, digest⟩ := by
  rw [openVerified]
  split
  · rename_i differs
    simp [differs]
  · rename_i same
    rw [not_not] at same
    simp [same, eq_comm]

theorem verifyFile_ok {hashes : Hashes} {file : Octets} {byteLen : Nat} {digest : Digest} :
    verifyFile hashes file byteLen digest = .ok () ↔
      file.length = byteLen ∧ hashes.sha256 file = digest := by
  rw [verifyFile]
  split
  · rename_i differs
    simp [differs]
  · rename_i same
    rw [not_not] at same
    split
    · rename_i other
      simp [other]
    · rename_i equal
      rw [not_not] at equal
      simp [same, equal]

theorem finish_ok {hashes : Hashes} {catalog : SnapshotCatalog} {bytes whole : Octets}
    {states payloads : Nat} {artifact : SnapshotArtifact}
    (closed : whole = bytes ++ sealedFooter hashes bytes states payloads)
    (apart : CollisionFree hashes catalog whole) :
    (wrote bytes states payloads).finish hashes catalog = .ok artifact ↔ whole.length ≤ u64Max ∧
      (∀ stored, catalog.objects (hashes.sha256 whole) = some stored → stored = whole) ∧
      artifact = ⟨whole, whole.length, hashes.sha256 whole⟩ := by
  subst closed
  have footer : (wrote bytes states payloads).writeHashed
      (sealedFooter hashes bytes states payloads) =
        (wrote bytes states payloads).writeHashed
          (footerBody states payloads (hashes.sha256 bytes) ++
            toOctets 4 (hashes.crc32 (footerBody states payloads (hashes.sha256 bytes))).toNat) :=
    rfl
  generalize whole : bytes ++ sealedFooter hashes bytes states payloads = all at *
  constructor
  · intro ran
    obtain ⟨_, wroteFooter, ran⟩ := except_bind_ok.mp ran
    obtain ⟨small, rfl⟩ := writeHashed_ok.mp (footer.trans wroteFooter)
    rw [whole] at small ran
    dsimp only [wrote] at ran
    cases found : catalog.objects (hashes.sha256 all) with
    | none =>
        rw [found] at ran
        obtain ⟨_, rfl⟩ := openVerified_ok.mp ran
        exact ⟨small, fun _ never => (by cases never), rfl⟩
    | some stored =>
        rw [found] at ran
        obtain ⟨_, verified, opened⟩ := except_bind_ok.mp ran
        have same := apart stored found (verifyFile_ok.mp verified).2
        subst same
        obtain ⟨_, rfl⟩ := openVerified_ok.mp opened
        exact ⟨small, fun _ other => (Option.some.inj other).symm, rfl⟩
  · rintro ⟨small, kept, rfl⟩
    refine except_bind_ok.mpr ⟨_, footer.symm.trans (writeHashed_ok.mpr ⟨whole ▸ small, rfl⟩), ?_⟩
    rw [whole]
    dsimp only [wrote]
    cases found : catalog.objects (hashes.sha256 all) with
    | none => exact openVerified_ok.mpr ⟨rfl, rfl⟩
    | some stored =>
        obtain rfl := kept stored found
        exact except_bind_ok.mpr ⟨(), verifyFile_ok.mpr ⟨rfl, rfl⟩, openVerified_ok.mpr ⟨rfl, rfl⟩⟩

theorem beginArtifact_ok {hashes : Hashes} {header : Header} {after : SnapshotArtifactWriter} :
    beginArtifact hashes header = .ok after ↔ header.Fits ∧
      (sealed hashes (headerBody header)).length ≤ u64Max ∧
      after = wrote (sealed hashes (headerBody header)) 0 0 := by
  have opening : ([] : Octets) ++ sealed hashes (headerBody header) =
      sealed hashes (headerBody header) := List.nil_append _
  constructor
  · intro ran
    obtain ⟨_, identityFits, ran⟩ := except_bind_ok.mp ran
    obtain ⟨identitySmall, rfl⟩ := tryFromInt_ok.mp identityFits
    obtain ⟨_, metaFits, ran⟩ := except_bind_ok.mp ran
    obtain ⟨metaSmall, rfl⟩ := tryFromInt_ok.mp metaFits
    have written : (wrote [] 0 0).writeHashed (sealed hashes (headerBody header)) = .ok after := ran
    obtain ⟨small, rfl⟩ := writeHashed_ok.mp written
    rw [opening] at small ⊢
    refine ⟨⟨?_, ?_⟩, small, rfl⟩
    · omega
    · omega
  · rintro ⟨⟨identityFits, metaFits⟩, small, rfl⟩
    refine except_bind_ok.mpr ⟨_, tryFromInt_ok.mpr ⟨by omega, rfl⟩,
      except_bind_ok.mpr ⟨_, tryFromInt_ok.mpr ⟨by omega, rfl⟩, ?_⟩⟩
    have written := (@writeHashed_ok [] (sealed hashes (headerBody header)) 0 0 _).mpr
      ⟨by rw [opening]; exact small, rfl⟩
    rw [opening] at written
    exact written

end SnapshotArtifactWriter

open SnapshotArtifactWriter

namespace DecodedSnapshotV3

theorem statesOf_records (snapshot : DecodedSnapshotV3) :
    statesOf snapshot.records = snapshot.state := by
  rw [records, statesOf, List.filterMap_append, List.filterMap_map, List.filterMap_map]
  have states : (SnapshotRecord.stateEntry ∘ fun entry : Octets × Octets =>
      SnapshotRecord.state entry.1 entry.2) = some := rfl
  have payloads : (SnapshotRecord.stateEntry ∘ fun entry : Octets × Octets =>
      SnapshotRecord.payload entry.1 entry.2) = fun _ => none := rfl
  rw [states, payloads, List.filterMap_some]
  simp

theorem payloadsOf_records (snapshot : DecodedSnapshotV3) :
    payloadsOf snapshot.records = snapshot.payloads := by
  rw [records, payloadsOf, List.filterMap_append, List.filterMap_map, List.filterMap_map]
  have states : (SnapshotRecord.payloadEntry ∘ fun entry : Octets × Octets =>
      SnapshotRecord.state entry.1 entry.2) = fun _ => none := rfl
  have payloads : (SnapshotRecord.payloadEntry ∘ fun entry : Octets × Octets =>
      SnapshotRecord.payload entry.1 entry.2) = some := rfl
  rw [states, payloads, List.filterMap_some]
  simp

end DecodedSnapshotV3

theorem writeSnapshot_eq (hashes : Hashes) (catalog : SnapshotCatalog)
    (snapshot : DecodedSnapshotV3) : writeSnapshot hashes catalog snapshot =
      (beginArtifact hashes snapshot.header >>= fun writer =>
        snapshot.records.foldlM (writeOne hashes) writer >>= fun writer =>
          writer.finish hashes catalog) := by
  have folds : ∀ (writer : SnapshotArtifactWriter),
      snapshot.records.foldlM (writeOne hashes) writer =
        (snapshot.state.foldlM (writeState hashes) writer >>= fun writer =>
          snapshot.payloads.foldlM (writePayload hashes) writer) := by
    intro writer
    rw [DecodedSnapshotV3.records, List.foldlM_append, List.foldlM_map]
    simp only [List.foldlM_map]
    rfl
  simp only [folds, bind_assoc]
  rfl

def DecodedSnapshotV3.bytes (hashes : Hashes) (snapshot : DecodedSnapshotV3) : Octets :=
  encode hashes snapshot.header snapshot.records

theorem writeSnapshot_ok {hashes : Hashes} {catalog : SnapshotCatalog}
    {snapshot : DecodedSnapshotV3} {artifact : SnapshotArtifact}
    (apart : CollisionFree hashes catalog (snapshot.bytes hashes)) :
    writeSnapshot hashes catalog snapshot = .ok artifact ↔
      snapshot.header.Fits ∧ (∀ record ∈ snapshot.records, record.frame.Fits) ∧
        snapshot.state.length ≤ u64Max ∧ snapshot.payloads.length ≤ u64Max ∧
        (snapshot.bytes hashes).length ≤ u64Max ∧
        (∀ stored, catalog.objects (hashes.sha256 (snapshot.bytes hashes)) = some stored →
          stored = snapshot.bytes hashes) ∧
        artifact = ⟨snapshot.bytes hashes, (snapshot.bytes hashes).length,
          hashes.sha256 (snapshot.bytes hashes)⟩ := by
  have closed : snapshot.bytes hashes =
      sealed hashes (headerBody snapshot.header) ++ recordBytes hashes snapshot.records ++
        sealedFooter hashes
          (sealed hashes (headerBody snapshot.header) ++ recordBytes hashes snapshot.records)
          (0 + (statesOf snapshot.records).length) (0 + (payloadsOf snapshot.records).length) := by
    rw [Nat.zero_add, Nat.zero_add, DecodedSnapshotV3.bytes, encode]
  have words : ∀ count : Nat, 0 + count = count := Nat.zero_add
  rw [writeSnapshot_eq]
  constructor
  · intro ran
    obtain ⟨_, opened, ran⟩ := except_bind_ok.mp ran
    obtain ⟨headerFits, small, rfl⟩ := beginArtifact_ok.mp opened
    obtain ⟨_, all, ran⟩ := except_bind_ok.mp ran
    obtain ⟨fits, _, states, payloads, rfl⟩ :=
      (writeAll_ok ⟨small, Nat.zero_le _, Nat.zero_le _⟩).mp all
    obtain ⟨sized, kept, same⟩ := (finish_ok closed apart).mp ran
    rw [words, DecodedSnapshotV3.statesOf_records] at states
    rw [words, DecodedSnapshotV3.payloadsOf_records] at payloads
    exact ⟨headerFits, fits, states, payloads, sized, kept, same⟩
  · rintro ⟨headerFits, fits, states, payloads, sized, kept, same⟩
    rw [← snapshot.statesOf_records, ← words (statesOf _).length] at states
    rw [← snapshot.payloadsOf_records, ← words (payloadsOf _).length] at payloads
    have lengths := sized
    rw [closed, List.length_append] at lengths
    have body : (sealed hashes (headerBody snapshot.header) ++
        recordBytes hashes snapshot.records).length ≤ u64Max := by omega
    have small : (sealed hashes (headerBody snapshot.header)).length ≤ u64Max := by
      rw [List.length_append] at body
      omega
    exact except_bind_ok.mpr ⟨_, beginArtifact_ok.mpr ⟨headerFits, small, rfl⟩,
      except_bind_ok.mpr ⟨_, (writeAll_ok ⟨small, Nat.zero_le _, Nat.zero_le _⟩).mpr
        ⟨fits, body, states, payloads, rfl⟩, (finish_ok closed apart).mpr ⟨sized, kept, same⟩⟩⟩

end LightStream.SnapshotV3
