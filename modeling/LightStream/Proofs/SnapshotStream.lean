import LightStream.Proofs.SnapshotDecode

/-!
The streaming reader.  Read to the end it accepts the bytes that the slice decoder accepts, as
long as its header and each of its records stay within the frame limit.
-/

namespace LightStream.SnapshotV3

open Codec

namespace SnapshotArtifactReader

def phase (reader : SnapshotArtifactReader) : Phase :=
  ⟨reader.payloadCount != 0, reader.lastState, reader.lastPayload⟩

def push (reader : SnapshotArtifactReader) : SnapshotRecord → SnapshotArtifactReader
  | .state key _ => { reader with lastState := some key, stateCount := reader.stateCount + 1 }
  | .payload key _ =>
      { reader with lastPayload := some key, payloadCount := reader.payloadCount + 1 }

def Counted (reader : SnapshotArtifactReader) : Prop :=
  reader.stateCount ≤ u64Max ∧ reader.payloadCount ≤ u64Max

theorem phase_push (reader : SnapshotArtifactReader) (record : SnapshotRecord) :
    (reader.push record).phase = reader.phase.next record := by
  cases record with
  | state key value => rfl
  | payload key value => simp [push, phase, Phase.next]

theorem push_bodyTape (reader : SnapshotArtifactReader) (front back : Octets)
    (record : SnapshotRecord) :
    (reader.bodyTape front back).push record = (reader.push record).bodyTape front back := by
  cases record <;> rfl

theorem increment_ok {count result : Nat} :
    increment count = .ok result ↔ count + 1 ≤ u64Max ∧ result = count + 1 := by
  rw [increment]
  split
  · rename_i small
    simp [small, eq_comm]
  · rename_i large
    simp [large]

theorem admit_ok {frame : Frame} {reader after : SnapshotArtifactReader} {record : SnapshotRecord}
    (counted : reader.Counted) : admitFrame frame reader = .ok (record, after) ↔
      record.frame = frame ∧ reader.phase.Admits record ∧ (reader.push record).Counted ∧
        after = reader.push record := by
  obtain ⟨tag, key, value⟩ := frame
  constructor
  · intro admitted
    rw [admitFrame] at admitted
    split at admitted
    · rename_i isState
      split at admitted
      · cases admitted
      · rename_i ordered
        rw [not_or, not_not, Bool.not_eq_true, Phase.follows_iff] at ordered
        obtain ⟨count, grown, returned⟩ := except_bind_ok.mp admitted
        obtain ⟨small, rfl⟩ := increment_ok.mp grown
        cases returned
        refine ⟨?_, ⟨?_, ordered.2⟩, ⟨small, counted.2⟩, rfl⟩
        · rw [SnapshotRecord.frame, ← isState]
        · rw [phase, ordered.1]
          rfl
    · split at admitted
      · rename_i isPayload
        split at admitted
        · cases admitted
        · rename_i ordered
          rw [Bool.not_eq_true, Phase.follows_iff] at ordered
          obtain ⟨count, grown, returned⟩ := except_bind_ok.mp admitted
          obtain ⟨small, rfl⟩ := increment_ok.mp grown
          cases returned
          refine ⟨?_, ordered, ⟨counted.1, small⟩, rfl⟩
          rw [SnapshotRecord.frame, ← isPayload]
      · cases admitted
  · rintro ⟨same, admits, within, rfl⟩
    cases record with
    | state key value =>
        obtain ⟨rfl, rfl, rfl⟩ := Frame.mk.inj same
        have noPayload : reader.payloadCount = 0 := by
          have unseen := admits.1
          rw [phase, bne_eq_false_iff_eq] at unseen
          exact unseen
        have ordered := Phase.follows_iff.mpr admits.2
        rw [admitFrame, if_pos rfl, if_neg]
        · exact except_bind_ok.mpr ⟨_, increment_ok.mpr ⟨within.1, rfl⟩, rfl⟩
        · rw [not_or, not_not, Bool.not_eq_true]
          exact ⟨noPayload, ordered⟩
    | payload key value =>
        obtain ⟨rfl, rfl, rfl⟩ := Frame.mk.inj same
        have ordered := Phase.follows_iff.mpr admits
        rw [admitFrame, if_neg (by decide : ¬ payloadRecord = stateRecord), if_pos rfl, if_neg]
        · exact except_bind_ok.mpr ⟨_, increment_ok.mpr ⟨within.2, rfl⟩, rfl⟩
        · rw [Bool.not_eq_true]
          exact ordered

/-! One record -/

theorem view_finished {reader : SnapshotArtifactReader} (front back : Octets) :
    (view SnapshotArtifactReader.finished : Stream Bool) (reader.bodyTape front back) =
      .ok (reader.finished, reader.bodyTape front back) :=
  rfl

theorem bodyTape_eq_rawTape (reader : SnapshotArtifactReader) (front back : Octets) :
    reader.bodyTape front back = ({ reader with bodyDigest := front }).rawTape [] back :=
  rfl

theorem nextRecord_none {hashes : Hashes} {reader after : SnapshotArtifactReader}
    {front back : Octets} (reading : reader.finished = false)
    (ran : nextRecord hashes (reader.bodyTape front back) = .ok (none, after)) :
    (reader.stateCount < 256 ^ 8 ∧ reader.payloadCount < 256 ^ 8) ∧
      back = sealedFooter hashes front reader.stateCount reader.payloadCount ∧
      after.header = reader.header := by
  rw [nextRecord] at ran
  obtain ⟨finished, _, viewed, ran⟩ := bind_ok_iff.mp ran
  rw [view_finished, reading] at viewed
  obtain ⟨rfl, rfl⟩ := Prod.mk.inj (Except.ok.inj viewed)
  rw [if_neg (by decide)] at ran
  obtain ⟨first, _, taken, ran⟩ := bind_ok_iff.mp ran
  rw [bodyTape_eq_rawTape] at taken
  obtain ⟨_, rest, rfl, rfl, rfl⟩ := (Reads.octet (takes_readExact _) _ _ _ _ _).mp taken
  split at ran
  · obtain ⟨_, _, footer, ran⟩ := bind_ok_iff.mp ran
    obtain ⟨bytes, trailing, rfl, ⟨counts, sealing⟩, rfl⟩ :=
      (reads_readFooter hashes first _ _ _ _ _).mp footer
    obtain ⟨_, _, read, ran⟩ := bind_ok_iff.mp ran
    obtain ⟨rfl, rfl⟩ := Prod.mk.inj (Except.ok.inj read)
    obtain ⟨_, _, refused, ran⟩ := bind_ok_iff.mp ran
    have ended : trailing = [] := by
      by_contra more
      rw [refuse, if_pos] at refused
      · cases refused
      · rw [ne_eq, List.take_eq_nil_iff]
        simp [rawTape, more]
    rw [refuse, if_neg (by rw [ended]; simp [rawTape])] at refused
    obtain ⟨_, rfl⟩ := Prod.mk.inj (Except.ok.inj refused)
    obtain ⟨_, _, closed, returned⟩ := bind_ok_iff.mp ran
    obtain ⟨_, rfl⟩ := Prod.mk.inj (Except.ok.inj closed)
    obtain ⟨_, rfl⟩ := Prod.mk.inj (Except.ok.inj returned)
    refine ⟨counts, ?_, rfl⟩
    rw [ended, List.append_nil, List.singleton_append]
    exact sealing
  · obtain ⟨_, _, _, ran⟩ := bind_ok_iff.mp ran
    obtain ⟨_, _, _, ran⟩ := bind_ok_iff.mp ran
    obtain ⟨_, _, _, ran⟩ := bind_ok_iff.mp ran
    cases ran

theorem updateDigest_first (reader : SnapshotArtifactReader) (front rest : Octets) (first : UInt8) :
    updateDigest [first] (({ reader with bodyDigest := front }).rawTape ([] ++ [first]) rest) =
      .ok ((), reader.bodyTape (front ++ [first]) rest) :=
  rfl

theorem nextRecord_some {hashes : Hashes} {reader after : SnapshotArtifactReader}
    {front back : Octets} {record : SnapshotRecord} (counted : reader.Counted)
    (reading : reader.finished = false)
    (ran : nextRecord hashes (reader.bodyTape front back) = .ok (some record, after)) :
    ∃ rest, back = record.bytes hashes ++ rest ∧ record.frame.Fits ∧ record.frame.WithinLimit ∧
      reader.phase.Admits record ∧ (reader.push record).Counted ∧
      after = (reader.push record).bodyTape (front ++ record.bytes hashes) rest := by
  rw [nextRecord] at ran
  obtain ⟨finished, _, viewed, ran⟩ := bind_ok_iff.mp ran
  rw [view_finished, reading] at viewed
  obtain ⟨rfl, rfl⟩ := Prod.mk.inj (Except.ok.inj viewed)
  rw [if_neg (by decide)] at ran
  obtain ⟨first, _, taken, ran⟩ := bind_ok_iff.mp ran
  rw [bodyTape_eq_rawTape] at taken
  obtain ⟨_, rest, rfl, rfl, rfl⟩ := (Reads.octet (takes_readExact _) _ _ _ _ _).mp taken
  split at ran
  · obtain ⟨_, _, _, ran⟩ := bind_ok_iff.mp ran
    obtain ⟨_, _, _, ran⟩ := bind_ok_iff.mp ran
    obtain ⟨_, _, _, ran⟩ := bind_ok_iff.mp ran
    obtain ⟨_, _, _, ran⟩ := bind_ok_iff.mp ran
    cases ran
  · obtain ⟨_, _, updated, ran⟩ := bind_ok_iff.mp ran
    rw [updateDigest_first] at updated
    obtain ⟨_, rfl⟩ := Prod.mk.inj (Except.ok.inj updated)
    obtain ⟨frame, _, read, ran⟩ := bind_ok_iff.mp ran
    obtain ⟨bytes, rest, rfl, ⟨fits, within, rfl, sealing⟩, rfl⟩ :=
      (reads_readFrame hashes first reader _ _ _ _).mp read
    obtain ⟨other, _, admitted, returned⟩ := bind_ok_iff.mp ran
    obtain ⟨same, rfl⟩ := Prod.mk.inj (Except.ok.inj returned)
    cases same
    have counted' : (reader.bodyTape (front ++ [frame.tag] ++ bytes) rest).Counted := counted
    obtain ⟨rfl, admits, grown, rfl⟩ := (admit_ok counted').mp admitted
    refine ⟨rest, ?_, fits, within, admits, ?_, ?_⟩
    · rw [SnapshotRecord.bytes, ← sealing, List.cons_append, List.cons_append, List.nil_append]
    · rw [push_bodyTape] at grown
      exact grown
    · rw [push_bodyTape, SnapshotRecord.bytes, ← sealing, List.append_assoc, List.singleton_append]

theorem nextRecord_footer (hashes : Hashes) {reader : SnapshotArtifactReader} (front : Octets)
    (reading : reader.finished = false)
    (counts : reader.stateCount < 256 ^ 8 ∧ reader.payloadCount < 256 ^ 8) :
    nextRecord hashes (reader.bodyTape front
      (sealedFooter hashes front reader.stateCount reader.payloadCount)) =
      .ok (none, { reader.bodyTape front [] with finished := true }) := by
  obtain ⟨first, bytes, sealing, opens⟩ : ∃ first bytes,
      sealedFooter hashes front reader.stateCount reader.payloadCount = first :: bytes ∧
        some first = snapshotV3Footer.head? :=
    ⟨_, _, rfl, rfl⟩
  have taken := (Reads.octet (takes_readExact { reader with bodyDigest := front })
    Fault.panic).accepted [] first rfl bytes
  have footer := (reads_readFooter hashes first { reader with bodyDigest := front }).accepted
    ([] ++ [first]) () ⟨counts, sealing.symm⟩ []
  rw [List.append_nil] at footer
  rw [sealing, nextRecord]
  refine bind_ok_iff.mpr ⟨_, _, view_finished front _, ?_⟩
  rw [reading, if_neg (by decide)]
  refine bind_ok_iff.mpr ⟨first, _, taken, ?_⟩
  rw [if_pos opens]
  exact bind_ok_iff.mpr ⟨(), _, footer, bind_ok_iff.mpr ⟨[], _, rfl, bind_ok_iff.mpr
    ⟨(), _, rfl, rfl⟩⟩⟩

theorem nextRecord_record {hashes : Hashes} {reader : SnapshotArtifactReader} {front : Octets}
    {record : SnapshotRecord} (rest : Octets) (counted : reader.Counted)
    (reading : reader.finished = false) (fits : record.frame.Fits)
    (within : record.frame.WithinLimit) (admits : reader.phase.Admits record)
    (grown : (reader.push record).Counted) :
    nextRecord hashes (reader.bodyTape front (record.bytes hashes ++ rest)) =
      .ok (some record, (reader.push record).bodyTape (front ++ record.bytes hashes) rest) := by
  obtain ⟨first, bytes, sealing, differs⟩ := record.bytes_head hashes
  have isTag : record.frame.tag = first := by
    have head := congrArg List.head? sealing
    exact Option.some.inj head
  have taken := (Reads.octet (takes_readExact { reader with bodyDigest := front })
    Fault.panic).accepted [] first rfl (bytes ++ rest)
  have frame := (reads_readFrame hashes first reader).accepted (front ++ [first]) record.frame
    ⟨fits, within, isTag, sealing.symm⟩ rest
  have admitted := (@admit_ok record.frame (reader.bodyTape (front ++ [first] ++ bytes) rest) _
    record counted).mpr ⟨rfl, admits, by rw [push_bodyTape]; exact grown, rfl⟩
  rw [push_bodyTape] at admitted
  rw [sealing, List.cons_append, nextRecord]
  refine bind_ok_iff.mpr ⟨_, _, view_finished front _, ?_⟩
  rw [reading, if_neg (by decide)]
  refine bind_ok_iff.mpr ⟨first, _, taken, ?_⟩
  rw [if_neg differs]
  refine bind_ok_iff.mpr ⟨(), _, updateDigest_first reader front _ first,
    bind_ok_iff.mpr ⟨record.frame, _, frame, bind_ok_iff.mpr ⟨record, _, admitted, ?_⟩⟩⟩
  rw [List.append_assoc, List.singleton_append]
  rfl

/-! The whole file -/

structure StreamedTail (hashes : Hashes) (reader : SnapshotArtifactReader) (front back : Octets)
    (records : List SnapshotRecord) : Prop where
  ordered : reader.phase.AdmitsAll records
  fits : ∀ record ∈ records, record.frame.Fits
  within : ∀ record ∈ records, record.frame.WithinLimit
  counts : reader.stateCount + (statesOf records).length < 256 ^ 8 ∧
    reader.payloadCount + (payloadsOf records).length < 256 ^ 8
  bytes : back = recordBytes hashes records ++ sealedFooter hashes
    (front ++ recordBytes hashes records) (reader.stateCount + (statesOf records).length)
    (reader.payloadCount + (payloadsOf records).length)

theorem push_counts (reader : SnapshotArtifactReader) (record : SnapshotRecord)
    (rest : List SnapshotRecord) :
    (reader.push record).stateCount + (statesOf rest).length =
        reader.stateCount + (statesOf (record :: rest)).length ∧
      (reader.push record).payloadCount + (payloadsOf rest).length =
        reader.payloadCount + (payloadsOf (record :: rest)).length := by
  rw [statesOf_cons, payloadsOf_cons, List.length_append, List.length_append]
  cases record with
  | state key value =>
      simp only [push, SnapshotRecord.stateEntry, SnapshotRecord.payloadEntry, Option.toList_some,
        Option.toList_none, List.length_singleton, List.length_nil]
      omega
  | payload key value =>
      simp only [push, SnapshotRecord.stateEntry, SnapshotRecord.payloadEntry, Option.toList_some,
        Option.toList_none, List.length_singleton, List.length_nil]
      omega

theorem push_finished (reader : SnapshotArtifactReader) (record : SnapshotRecord) :
    (reader.push record).finished = reader.finished := by
  cases record <;> rfl

theorem push_header (reader : SnapshotArtifactReader) (record : SnapshotRecord) :
    (reader.push record).header = reader.header := by
  cases record <;> rfl

theorem readRecords_sound {hashes : Hashes} {fuel : Nat} {reader after : SnapshotArtifactReader}
    {front back : Octets} {records : List SnapshotRecord} (counted : reader.Counted)
    (reading : reader.finished = false)
    (ran : readRecords hashes fuel (reader.bodyTape front back) = .ok (records, after)) :
    StreamedTail hashes reader front back records ∧ after.header = reader.header := by
  induction fuel generalizing reader front back records with
  | zero => cases ran
  | succ fuel ih =>
      rw [readRecords] at ran
      obtain ⟨found, middle, next, ran⟩ := bind_ok_iff.mp ran
      cases found with
      | none =>
          obtain ⟨rfl, rfl⟩ := Prod.mk.inj (Except.ok.inj ran)
          obtain ⟨counts, sealing, header⟩ := nextRecord_none reading next
          refine ⟨⟨trivial, by simp, by simp, counts, ?_⟩, header⟩
          rw [recordBytes, List.flatMap_nil, List.nil_append, List.append_nil]
          exact sealing
      | some record =>
          obtain ⟨rest, rfl, fits, within, admits, grown, rfl⟩ :=
            nextRecord_some counted reading next
          obtain ⟨others, last, ranOthers, returned⟩ := bind_ok_iff.mp ran
          obtain ⟨rfl, rfl⟩ := Prod.mk.inj (Except.ok.inj returned)
          obtain ⟨later, header⟩ := ih grown (by rw [push_finished, reading]) ranOthers
          obtain ⟨states, payloads⟩ := reader.push_counts record others
          have bytes := later.bytes
          have counts := later.counts
          rw [states, payloads] at bytes counts
          refine ⟨⟨⟨admits, ?_⟩, ?_, ?_, counts, ?_⟩, ?_⟩
          · rw [← phase_push]
            exact later.ordered
          · exact List.forall_mem_cons.mpr ⟨fits, later.fits⟩
          · exact List.forall_mem_cons.mpr ⟨within, later.within⟩
          · rw [bytes]
            simp only [recordBytes, List.flatMap_cons, List.append_assoc]
          · rw [header, push_header]

theorem readRecords_complete {hashes : Hashes} {fuel : Nat} {reader : SnapshotArtifactReader}
    {front back : Octets} {records : List SnapshotRecord} (counted : reader.Counted)
    (reading : reader.finished = false) (enough : back.length < fuel)
    (streamed : StreamedTail hashes reader front back records) :
    ∃ after, readRecords hashes fuel (reader.bodyTape front back) = .ok (records, after) ∧
      after.header = reader.header := by
  induction records generalizing fuel reader front back with
  | nil =>
      obtain ⟨fuel, rfl⟩ := Nat.exists_eq_add_one.mpr (Nat.zero_lt_of_lt enough)
      have ahead := streamed.bytes
      have counts := streamed.counts
      simp only [recordBytes, statesOf, payloadsOf, List.flatMap_nil, List.filterMap_nil,
        List.length_nil, Nat.add_zero, List.nil_append, List.append_nil] at ahead counts
      rw [ahead, readRecords]
      exact ⟨_, bind_ok_iff.mpr ⟨none, _, nextRecord_footer hashes front reading counts, rfl⟩, rfl⟩
  | cons record rest ih =>
      obtain ⟨fuel, rfl⟩ := Nat.exists_eq_add_one.mpr (Nat.zero_lt_of_lt enough)
      obtain ⟨admits, ordered⟩ := streamed.ordered
      rw [← phase_push] at ordered
      obtain ⟨states, payloads⟩ := reader.push_counts record rest
      have counts := streamed.counts
      rw [← states, ← payloads] at counts
      obtain ⟨remaining, rfl, later⟩ : ∃ remaining, back = record.bytes hashes ++ remaining ∧
          remaining = recordBytes hashes rest ++ sealedFooter hashes
            (front ++ record.bytes hashes ++ recordBytes hashes rest)
            ((reader.push record).stateCount + (statesOf rest).length)
            ((reader.push record).payloadCount + (payloadsOf rest).length) := by
        refine ⟨_, ?_, rfl⟩
        rw [streamed.bytes, states, payloads]
        simp only [recordBytes, List.flatMap_cons, List.append_assoc]
      have grown : (reader.push record).Counted := by
        rw [Counted, u64Max]
        omega
      have shorter : remaining.length < fuel := by
        have some := record.bytes_length_pos hashes
        rw [List.length_append] at enough
        omega
      obtain ⟨fits, fitsRest⟩ := List.forall_mem_cons.mp streamed.fits
      obtain ⟨within, withinRest⟩ := List.forall_mem_cons.mp streamed.within
      obtain ⟨after, ran, header⟩ := ih grown (by rw [push_finished, reading]) shorter
        ⟨ordered, fitsRest, withinRest, counts, later⟩
      rw [readRecords]
      refine ⟨after, bind_ok_iff.mpr ⟨some record, _,
        nextRecord_record remaining counted reading fits within admits grown,
        bind_ok_iff.mpr ⟨rest, after, ran, rfl⟩⟩, ?_⟩
      rw [header, push_header]

end SnapshotArtifactReader

open SnapshotArtifactReader

def unread (header : Header) : SnapshotArtifactReader := ⟨[], [], header, 0, 0, none, none, false⟩

theorem counted_unread (header : Header) : (unread header).Counted :=
  ⟨Nat.zero_le _, Nat.zero_le _⟩

theorem openFile_ok {hashes : Hashes} {file : Octets} {reader : SnapshotArtifactReader} :
    openFile hashes file = .ok reader ↔ ∃ header rest, header.Fits ∧ header.WithinLimit ∧
      file = sealed hashes (headerBody header) ++ rest ∧
      reader = (unread header).bodyTape (sealed hashes (headerBody header)) rest := by
  have opening : (⟨file, [], ⟨0, [], []⟩, 0, 0, none, none, false⟩ : SnapshotArtifactReader) =
      (unread ⟨0, [], []⟩).bodyTape [] file := rfl
  constructor
  · intro opened
    obtain ⟨⟨header, value⟩, read, returned⟩ := except_bind_ok.mp opened
    rw [opening] at read
    obtain ⟨_, rest, rfl, ⟨fits, within, rfl⟩, rfl⟩ :=
      (reads_readHeader hashes (unread _) _ _ _ _).mp read
    cases returned
    exact ⟨header, rest, fits, within, rfl, rfl⟩
  · rintro ⟨header, rest, fits, within, rfl, rfl⟩
    have read := (reads_readHeader hashes (unread ⟨0, [], []⟩)).accepted [] header
      ⟨fits, within, rfl⟩ rest
    exact except_bind_ok.mpr ⟨(header, _), read, rfl⟩

def Streamed.WithinLimit (streamed : Streamed) : Prop :=
  streamed.header.WithinLimit ∧ ∀ record ∈ streamed.records, record.frame.WithinLimit

theorem readSnapshot_ok {hashes : Hashes} {file : Octets} {streamed : Streamed} :
    readSnapshot hashes file = .ok streamed ↔
      Accepted streamed.header streamed.records ∧ streamed.WithinLimit ∧
        file = encode hashes streamed.header streamed.records := by
  have zeros : ∀ header, (unread header).stateCount = 0 ∧ (unread header).payloadCount = 0 :=
    fun _ => ⟨rfl, rfl⟩
  constructor
  · intro read
    obtain ⟨reader, opened, read⟩ := except_bind_ok.mp read
    obtain ⟨⟨records, after⟩, ran, returned⟩ := except_bind_ok.mp read
    obtain ⟨header, rest, fits, within, rfl, rfl⟩ := openFile_ok.mp opened
    obtain ⟨tail, kept⟩ := readRecords_sound (counted_unread header) rfl ran
    have bytes := tail.bytes
    have counts := tail.counts
    rw [(zeros header).1, (zeros header).2, Nat.zero_add, Nat.zero_add] at bytes counts
    have shown : streamed = ⟨header, records⟩ := by
      cases returned
      rw [kept]
      rfl
    rw [shown]
    refine ⟨⟨fits, tail.fits, tail.ordered, counts⟩, ⟨within, tail.within⟩, ?_⟩
    rw [bytes, encode, List.append_assoc]
  · rintro ⟨accepted, ⟨within, framesWithin⟩, rfl⟩
    obtain ⟨header, records⟩ := streamed
    dsimp only at accepted within framesWithin ⊢
    obtain ⟨rest, split, later⟩ : ∃ rest, encode hashes header records =
        sealed hashes (headerBody header) ++ rest ∧
          rest = recordBytes hashes records ++ sealedFooter hashes
            (sealed hashes (headerBody header) ++ recordBytes hashes records)
            (statesOf records).length (payloadsOf records).length :=
      ⟨_, by rw [encode, List.append_assoc], rfl⟩
    have counts := accepted.counts
    rw [← Nat.zero_add (statesOf records).length, ← Nat.zero_add (payloadsOf records).length]
      at later counts
    have enough : rest.length < (encode hashes header records).length + 1 := by
      rw [split, List.length_append]
      omega
    obtain ⟨after, ran, kept⟩ := readRecords_complete (counted_unread header) rfl enough
      ⟨accepted.ordered, accepted.framesFit, framesWithin, counts, later⟩
    have opened := openFile_ok.mpr ⟨header, rest, accepted.headerFits, within, split, rfl⟩
    refine except_bind_ok.mpr ⟨_, opened, except_bind_ok.mpr ⟨(records, after), ran, ?_⟩⟩
    dsimp only
    rw [kept]
    rfl

/-! The faults of the reader -/

namespace SnapshotArtifactReader

theorem raises_readExact (len : Nat) : Raises Fault.Returned (readExact len) := by
  intro reader fault failed
  rw [readExact] at failed
  split at failed
  · cases failed
  · cases failed
    trivial

theorem readExact_length {len : Nat} {reader after : SnapshotArtifactReader} {value : Octets}
    (ran : readExact len reader = .ok (value, after)) : value.length = len := by
  rw [readExact] at ran
  split at ran
  · rename_i enough
    obtain ⟨rfl, _⟩ := Prod.mk.inj (Except.ok.inj ran)
    exact List.length_take_of_le enough
  · cases ran

theorem raises_updateDigest (bytes : Octets) : Raises Fault.Returned (updateDigest bytes) := by
  intro reader fault failed
  cases failed

theorem raises_readBody (len : Nat) : Raises Fault.Returned (readBody len) :=
  (raises_readExact len).bind fun _ => (raises_updateDigest _).bind fun _ => Raises.pure _

theorem raises_readBodyU32 (capture : Octets) : Raises Fault.Returned (readBodyU32 capture) :=
  (raises_readBody 4).bind fun _ => Raises.pure _

theorem readBodyU32_lt {capture : Octets} {reader after : SnapshotArtifactReader}
    {value : Nat × Octets} (ran : readBodyU32 capture reader = .ok (value, after)) :
    value.1 < 256 ^ 4 := by
  obtain ⟨bytes, _, read, returned⟩ := bind_ok_iff.mp ran
  obtain ⟨rfl, _⟩ := Prod.mk.inj (Except.ok.inj returned)
  obtain ⟨taken, _, exact, kept⟩ := bind_ok_iff.mp read
  obtain ⟨_, _, _, last⟩ := bind_ok_iff.mp kept
  obtain ⟨rfl, _⟩ := Prod.mk.inj (Except.ok.inj last)
  have bound := ofOctets_lt taken
  rwa [readExact_length exact] at bound

theorem raises_octet : Raises Fault.Returned (octet readExact Fault.panic) :=
  Raises.octet (raises_readExact 1) fun _ value _ ran nothing => by
    have one := readExact_length ran
    rw [nothing, List.length_nil] at one
    omega

theorem raises_addWords {first second : Nat} (firstFits : first < 256 ^ 4)
    (secondFits : second < 256 ^ 4) : Raises Fault.Returned (addWords first second) := by
  intro reader fault failed
  have small : first + second ≤ u64Max := by
    rw [u64Max]
    omega
  rw [addWords, if_pos small] at failed
  cases failed

theorem raises_readHeader (hashes : Hashes) : Raises Fault.Returned (readHeader hashes) :=
  (raises_readBody 8).bind fun _ => (Raises.refuse trivial).bind fun _ =>
    (raises_readBodyU32 _).bind fun _ => (Raises.refuse trivial).bind fun _ =>
    (raises_readBodyU32 _).bind fun _ =>
    (raises_readBodyU32 _).bind_of _ (fun _ _ _ => readBodyU32_lt) fun _ identityFits =>
    (raises_readBodyU32 _).bind_of _ (fun _ _ _ => readBodyU32_lt) fun _ metaFits =>
    (raises_addWords identityFits metaFits).bind fun _ => (Raises.refuse trivial).bind fun _ =>
    (raises_readBody _).bind fun _ => (raises_readBody _).bind fun _ =>
    (raises_readBodyU32 _).bind fun _ => (Raises.refuse trivial).bind fun _ => Raises.pure _

theorem raises_readFrame (hashes : Hashes) (tag : UInt8) :
    Raises Fault.Returned (readFrame hashes tag) :=
  (raises_readBody 12).bind fun _ => (Raises.refuse trivial).bind fun _ =>
    (raises_readBody _).bind fun _ => (raises_readBody _).bind fun _ =>
    (raises_readBodyU32 _).bind fun _ => (Raises.refuse trivial).bind fun _ => Raises.pure _

theorem raises_readFooter (hashes : Hashes) (first : UInt8) :
    Raises Fault.Returned (readFooter hashes first) :=
  (raises_readExact 7).bind fun _ => (Raises.refuse trivial).bind fun _ =>
    (Raises.number (raises_readExact 8)).bind fun _ =>
    (Raises.number (raises_readExact 8)).bind fun _ => (raises_readExact 32).bind fun _ =>
    (Raises.number (raises_readExact 4)).bind fun _ => (Raises.refuse trivial).bind fun _ =>
    (Raises.view _).bind fun _ => (Raises.refuse trivial).bind fun _ =>
    (Raises.view _).bind fun _ => (Raises.view _).bind fun _ => Raises.refuse trivial

theorem raises_footerEnd : Raises Fault.Returned (do
    let trailing ← readTrailing
    refuse (trailing ≠ []) (.other "snapshot artifact has trailing bytes")
    setFinished
    pure none : Stream (Option SnapshotRecord)) := by
  have reads : Raises Fault.Returned readTrailing := by
    intro reader fault failed
    cases failed
  have sets : Raises Fault.Returned setFinished := by
    intro reader fault failed
    cases failed
  exact reads.bind fun _ => (Raises.refuse trivial).bind fun _ => sets.bind fun _ => Raises.pure _

theorem admit_error {frame : Frame} {reader : SnapshotArtifactReader} {fault : Fault}
    (small : reader.stateCount < u64Max ∧ reader.payloadCount < u64Max)
    (failed : admitFrame frame reader = .error fault) : fault.Returned := by
  have counts : ∀ {count : Nat} {raised : Fault}, count < u64Max →
      increment count ≠ .error raised := by
    intro count raised below overflow
    rw [increment, if_pos (by omega)] at overflow
    cases overflow
  rw [admitFrame] at failed
  split at failed
  · split at failed
    · cases failed
      trivial
    · rcases except_bind_error.mp failed with overflow | ⟨_, _, never⟩
      · exact absurd overflow (counts small.1)
      · cases never
  · split at failed
    · split at failed
      · cases failed
        trivial
      · rcases except_bind_error.mp failed with overflow | ⟨_, _, never⟩
        · exact absurd overflow (counts small.2)
        · cases never
    · cases failed
      trivial

theorem nextRecord_error {hashes : Hashes} {reader : SnapshotArtifactReader} {fault : Fault}
    {front back : Octets}
    (words : reader.stateCount + back.length ≤ u64Max ∧ reader.payloadCount + back.length ≤ u64Max)
    (failed : nextRecord hashes (reader.bodyTape front back) = .error fault) : fault.Returned := by
  rw [nextRecord] at failed
  rcases bind_error_iff.mp failed with never | ⟨finished, _, viewed, failed⟩
  · cases never
  obtain ⟨rfl, rfl⟩ := Prod.mk.inj (Except.ok.inj viewed)
  split at failed
  · cases failed
  rcases bind_error_iff.mp failed with early | ⟨first, _, taken, failed⟩
  · exact raises_octet _ _ early
  rw [bodyTape_eq_rawTape] at taken
  obtain ⟨_, rest, rfl, rfl, rfl⟩ := (Reads.octet (takes_readExact _) _ _ _ _ _).mp taken
  split at failed
  · exact ((raises_readFooter hashes first).bind fun _ => raises_footerEnd) _ _ failed
  · rcases bind_error_iff.mp failed with never | ⟨_, _, updated, failed⟩
    · cases never
    rw [updateDigest_first] at updated
    obtain ⟨_, rfl⟩ := Prod.mk.inj (Except.ok.inj updated)
    rcases bind_error_iff.mp failed with early | ⟨frame, _, read, failed⟩
    · exact raises_readFrame hashes first _ _ early
    obtain ⟨_, _, _, _, rfl⟩ := (reads_readFrame hashes first reader _ _ _ _).mp read
    rcases bind_error_iff.mp failed with refused | ⟨_, _, _, never⟩
    · refine admit_error ?_ refused
      simp only [List.length_append, List.length_singleton] at words
      simp only [bodyTape]
      omega
    · cases never

theorem readRecords_error {hashes : Hashes} {fuel : Nat} {reader : SnapshotArtifactReader}
    {front back : Octets} {fault : Fault} (reading : reader.finished = false)
    (enough : back.length < fuel)
    (words : reader.stateCount + back.length ≤ u64Max ∧ reader.payloadCount + back.length ≤ u64Max)
    (failed : readRecords hashes fuel (reader.bodyTape front back) = .error fault) :
    fault.Returned := by
  induction fuel generalizing reader front back with
  | zero => omega
  | succ fuel ih =>
      rw [readRecords] at failed
      rcases bind_error_iff.mp failed with early | ⟨found, middle, next, failed⟩
      · exact nextRecord_error words early
      cases found with
      | none => cases failed
      | some record =>
          have counted : reader.Counted := by
            rw [Counted]
            omega
          obtain ⟨rest, rfl, _, _, _, _, rfl⟩ := nextRecord_some counted reading next
          have some := record.bytes_length_pos hashes
          rw [List.length_append] at enough words
          rcases bind_error_iff.mp failed with later | ⟨_, _, _, never⟩
          · refine ih (by rw [push_finished, reading]) (by omega) ?_ later
            cases record with
            | state key value =>
                simp only [push]
                omega
            | payload key value =>
                simp only [push]
                omega
          · cases never

end SnapshotArtifactReader

theorem readSnapshot_error {hashes : Hashes} {file : Octets} {fault : Fault}
    (sized : file.length ≤ u64Max) (failed : readSnapshot hashes file = .error fault) :
    fault.Returned := by
  rcases except_bind_error.mp failed with early | ⟨reader, opened, failed⟩
  · rcases except_bind_error.mp early with read | ⟨_, _, never⟩
    · exact raises_readHeader hashes _ _ read
    · cases never
  · obtain ⟨header, rest, _, _, rfl, rfl⟩ := openFile_ok.mp opened
    rw [List.length_append] at sized
    rcases except_bind_error.mp failed with later | ⟨_, _, never⟩
    · refine readRecords_error rfl ?_ ?_ later
      · rw [List.length_append]
        omega
      · simp only [unread]
        omega
    · cases never

end LightStream.SnapshotV3
