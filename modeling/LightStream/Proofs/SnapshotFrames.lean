import LightStream.Storage.SnapshotCodec

/-!
The frames of a snapshot artifact: which bytes each of the two decoders takes as a header, as a
record and as a footer.
-/

namespace LightStream.SnapshotV3

open Codec

def Header.Fits (header : Header) : Prop :=
  header.identityJson.length < 256 ^ 4 ∧ header.metaJson.length < 256 ^ 4

def Header.WithinLimit (header : Header) : Prop :=
  header.identityJson.length + header.metaJson.length ≤ maxSnapshotFrameBytes

namespace Frame

def Fits (frame : Frame) : Prop :=
  frame.key.length < 256 ^ 4 ∧ frame.value.length < 256 ^ 8

def WithinLimit (frame : Frame) : Prop :=
  frame.key.length + frame.value.length ≤ maxSnapshotFrameBytes

def body (frame : Frame) : Octets := frameBody frame.tag frame.key frame.value

end Frame

def sealedFooter (hashes : Hashes) (body : Octets) (states payloads : Nat) : Octets :=
  sealed hashes (footerBody states payloads (hashes.sha256 body))

theorem toNat_ofNat_of_fits {value : Nat} (fits : value < 256 ^ 4) :
    (UInt32.ofNat value).toNat = value := by
  rw [UInt32.toNat_ofNat']
  exact Nat.mod_eq_of_lt fits

/-! The tapes -/

def cursorTape (front back : Octets) : ByteCursor := ⟨front ++ back, front.length⟩

namespace SnapshotArtifactReader

def bodyTape (reader : SnapshotArtifactReader) (front back : Octets) : SnapshotArtifactReader :=
  { reader with bodyDigest := front, remaining := back }

def rawTape (reader : SnapshotArtifactReader) (_front back : Octets) : SnapshotArtifactReader :=
  { reader with remaining := back }

theorem takes_readExact (reader : SnapshotArtifactReader) : Takes reader.rawTape readExact := by
  apply Takes.of_split
  intro width front back
  rfl

theorem takes_readBody (reader : SnapshotArtifactReader) : Takes reader.bodyTape readBody := by
  apply @Takes.of_split _ _ _ _ Fault.unexpectedEof
  intro width front back
  change (readExact width (reader.bodyTape front back)).bind _ = _
  rw [readExact]
  have ahead : (reader.bodyTape front back).remaining = back := rfl
  rw [ahead]
  by_cases enough : width ≤ back.length
  · rw [if_pos enough, if_pos enough]
    rfl
  · rw [if_neg enough, if_neg enough]
    rfl

theorem bodyU32_then {γ : Type} (reader : SnapshotArtifactReader) (capture : Octets)
    {next : Nat × Octets → Stream γ} {later : Nat × Octets → Octets → Octets → γ → Prop}
    (reads : ∀ value, Reads reader.bodyTape (next value) (later value)) :
    Reads reader.bodyTape (readBodyU32 capture >>= next) fun front bytes result => ∃ number tail,
      number < 256 ^ 4 ∧ bytes = toOctets 4 number ++ tail ∧
        later (number, capture ++ toOctets 4 number) (front ++ toOctets 4 number) tail result := by
  have program : (readBodyU32 capture >>= next) = (readBody 4 >>= fun bytes =>
      next (ofOctets bytes, capture ++ bytes)) := by
    rw [readBodyU32, bind_assoc]
    rfl
  rw [program]
  refine (Reads.take_then (takes_readBody reader) fun bytes => reads _).congr ?_
  intro front bytes result
  constructor
  · rintro ⟨value, tail, sized, rfl, taken⟩
    have bound := ofOctets_lt value
    have digits := toOctets_ofOctets value
    rw [sized] at bound digits
    exact ⟨ofOctets value, tail, bound, by rw [digits], by rw [digits]; exact taken⟩
  · rintro ⟨number, tail, fits, rfl, taken⟩
    refine ⟨toOctets 4 number, tail, toOctets_length _ _, rfl, ?_⟩
    rw [ofOctets_toOctets fits]
    exact taken

end SnapshotArtifactReader

namespace ByteCursor

theorem remaining_tape (front back : Octets) : (cursorTape front back).remaining = back := by
  rw [remaining, cursorTape, List.drop_left]

theorem since_tape (start : Nat) (front back : Octets) :
    (cursorTape front back).since start = front.drop start := by
  rw [since, cursorTape, List.take_left]

theorem takes_take : Takes cursorTape take := by
  apply Takes.of_split
  intro width front back
  rw [take, remaining_tape]
  by_cases enough : width ≤ back.length
  · have inside : (cursorTape front back).offset + width ≤
        (cursorTape front back).bytes.length := by
      simp only [cursorTape, List.length_append]
      omega
    have moved : ({ cursorTape front back with
        offset := (cursorTape front back).offset + width } : ByteCursor) =
        cursorTape (front ++ back.take width) (back.drop width) := by
      simp [cursorTape, enough]
    rw [if_pos inside, if_pos enough, moved]
  · have outside : ¬ (cursorTape front back).offset + width ≤
        (cursorTape front back).bytes.length := by
      simp only [cursorTape, List.length_append]
      omega
    rw [if_neg outside, if_neg enough]

section
variable {γ : Type}

theorem since_then (start : Nat) {next : Octets → Cursor γ}
    {later : Octets → Octets → Octets → γ → Prop}
    (reads : ∀ value, Reads cursorTape (next value) (later value)) :
    Reads cursorTape (view (since start) >>= next) fun front => later (front.drop start) front :=
  Reads.view_then (fun front back => since_tape start front back) reads

theorem offset_then {next : Nat → Cursor γ} {later : Nat → Octets → Octets → γ → Prop}
    (reads : ∀ value, Reads cursorTape (next value) (later value)) :
    Reads cursorTape (view offset >>= next) fun front => later front.length front :=
  Reads.view_then (fun _ _ => rfl) reads

theorem u8_then {next : UInt8 → Cursor γ} {later : UInt8 → Octets → Octets → γ → Prop}
    (reads : ∀ value, Reads cursorTape (next value) (later value)) :
    Reads cursorTape (readU8 >>= next) fun front bytes result => ∃ value tail,
      bytes = value :: tail ∧ later value (front ++ [value]) tail result := by
  refine ((Reads.octet takes_take _).bind reads).congr ?_
  intro front bytes result
  constructor
  · rintro ⟨value, _, tail, rfl, rfl, taken⟩
    exact ⟨value, tail, rfl, taken⟩
  · rintro ⟨value, tail, rfl, taken⟩
    exact ⟨value, [value], tail, rfl, rfl, taken⟩

theorem expect_then (expected : Octets) {next : Unit → Cursor γ}
    {later : Octets → Octets → γ → Prop} (reads : ∀ passed, Reads cursorTape (next passed) later) :
    Reads cursorTape (expect expected >>= next) fun front bytes result => ∃ tail,
      bytes = expected ++ tail ∧ later (front ++ expected) tail result := by
  have program : (expect expected >>= next) = (take expected.length >>= fun value =>
      refuse (value ≠ expected) (.other "snapshot artifact magic mismatch") >>= next) := by
    rw [expect, bind_assoc]
  rw [program]
  refine (Reads.take_then takes_take fun value => Reads.refuse_then reads).congr ?_
  intro front bytes result
  constructor
  · rintro ⟨value, tail, _, rfl, same, taken⟩
    obtain rfl := not_not.mp same
    exact ⟨tail, rfl, taken⟩
  · rintro ⟨tail, rfl, taken⟩
    exact ⟨expected, tail, rfl, rfl, not_not.mpr rfl, taken⟩

end

end ByteCursor

/-! The frames as the slice decoder takes them -/

open ByteCursor in
theorem reads_decodeFrame (hashes : Hashes) : Reads cursorTape (decodeFrame hashes)
    fun _ bytes frame => frame.Fits ∧ bytes = sealed hashes frame.body := by
  refine Reads.congr (offset_then fun start => u8_then fun tag =>
    Reads.number_then takes_take fun keyLen => Reads.number_then takes_take fun valueLen =>
    Reads.take_then takes_take fun key => Reads.take_then takes_take fun value =>
    since_then start fun body => Reads.number_then takes_take fun crc =>
    Reads.refuse_then fun _ => Reads.pure _) ?_
  intro front bytes frame
  have whole : ∀ (key value : Octets) (tag : UInt8), (front ++ [tag] ++ toOctets 4 key.length ++
      toOctets 8 value.length ++ key ++ value).drop front.length = frameBody tag key value := by
    intro key value tag
    simp only [List.append_assoc, List.drop_left]
    simp only [frameBody, List.cons_append, List.nil_append, List.append_assoc]
  constructor
  · rintro ⟨tag, _, rfl, _, _, keyFits, rfl, _, _, valueFits, rfl, key, _, rfl, rfl,
      value, _, rfl, rfl, crc, _, _, rfl, same, rfl, rfl⟩
    rw [not_not, whole] at same
    refine ⟨⟨keyFits, valueFits⟩, ?_⟩
    simp only [sealed, Frame.body, same]
    simp only [frameBody, List.cons_append, List.append_assoc, List.append_nil]
  · rintro ⟨⟨keyFits, valueFits⟩, rfl⟩
    refine ⟨frame.tag, _, ?_, _, _, keyFits, rfl, _, _, valueFits, rfl, frame.key, _, rfl, rfl,
      frame.value, _, rfl, rfl, (hashes.crc32 frame.body).toNat, [], UInt32.toNat_lt _, rfl, ?_,
      rfl, rfl⟩
    · simp only [sealed, Frame.body, frameBody, List.cons_append, List.append_assoc,
        List.append_nil]
    · rw [whole, not_not]
      rfl

open ByteCursor in
theorem reads_decodeFooter (hashes : Hashes) (states payloads : Nat) :
    Reads cursorTape (decodeFooter hashes states payloads) fun front bytes _ =>
      (states < 256 ^ 8 ∧ payloads < 256 ^ 8) ∧
        bytes = sealedFooter hashes front states payloads := by
  refine Reads.congr (since_then 0 fun body => offset_then fun start => expect_then _ fun _ =>
    Reads.number_then takes_take fun stateCount => Reads.number_then takes_take fun payloadCount =>
    Reads.take_then takes_take fun digest => since_then start fun footer =>
    Reads.number_then takes_take fun crc => Reads.refuse_then fun _ => Reads.refuse_then fun _ =>
    Reads.refuse _ _) ?_
  intro front bytes _
  have whole : ∀ (stateCount payloadCount : Nat) (digest : Octets), (front ++ snapshotV3Footer ++
      toOctets 8 stateCount ++ toOctets 8 payloadCount ++ digest).drop front.length =
        snapshotV3Footer ++ toOctets 8 stateCount ++ toOctets 8 payloadCount ++ digest := by
    intro stateCount payloadCount digest
    simp only [List.append_assoc, List.drop_left]
  constructor
  · rintro ⟨_, rfl, stateCount, _, stateFits, rfl, payloadCount, _, payloadFits, rfl,
      digest, _, _, rfl, crc, _, _, rfl, sameCrc, sameDigest, rfl, counts⟩
    obtain ⟨rfl, rfl⟩ : stateCount = states ∧ payloadCount = payloads := by
      rw [not_or, not_not, not_not] at counts
      exact counts
    rw [not_not, whole] at sameCrc
    rw [not_not, List.drop_zero] at sameDigest
    refine ⟨⟨stateFits, payloadFits⟩, ?_⟩
    rw [sealedFooter, sealed, footerBody, sameDigest, sameCrc]
    simp only [List.append_assoc, List.append_nil]
  · rintro ⟨⟨stateFits, payloadFits⟩, rfl⟩
    refine ⟨_, ?_, states, _, stateFits, rfl, payloads, _, payloadFits, rfl,
      (hashes.sha256 front).val, _, (hashes.sha256 front).property, rfl,
      (hashes.crc32 (footerBody states payloads (hashes.sha256 front))).toNat, [],
      UInt32.toNat_lt _, rfl, ?_, ?_, rfl, ?_⟩
    · simp only [sealedFooter, sealed, footerBody, List.append_assoc, List.append_nil]
    · rw [whole, not_not]
      rfl
    · rw [List.drop_zero, not_not]
    · rw [not_or, not_not, not_not]
      exact ⟨rfl, rfl⟩

open ByteCursor in
theorem reads_decodeHeader (hashes : Hashes) : Reads cursorTape (decodeHeader hashes)
    fun front bytes header => header.Fits ∧ bytes = headerBody header ++
      toOctets 4 (hashes.crc32 (front ++ headerBody header)).toNat := by
  refine Reads.congr (expect_then _ fun _ => Reads.number_then takes_take fun format =>
    Reads.refuse_then fun _ => Reads.number_then takes_take fun version =>
    Reads.number_then takes_take fun identityLen => Reads.number_then takes_take fun metaLen =>
    Reads.take_then takes_take fun identity => Reads.take_then takes_take fun metadata =>
    since_then 0 fun body => Reads.number_then takes_take fun crc =>
    Reads.refuse_then fun _ => Reads.pure _) ?_
  intro front bytes header
  constructor
  · rintro ⟨_, rfl, format, _, _, rfl, known, version, _, versionFits, rfl, _, _, identityFits, rfl,
      _, _, metaFits, rfl, identity, _, rfl, rfl, metadata, _, rfl, rfl, crc, _, _, rfl, same,
      rfl, rfl⟩
    obtain rfl := not_not.mp known
    rw [not_not, List.drop_zero] at same
    refine ⟨⟨identityFits, metaFits⟩, ?_⟩
    rw [← same]
    simp only [headerBody, toNat_ofNat_of_fits versionFits, List.append_assoc, List.append_nil]
  · rintro ⟨⟨identityFits, metaFits⟩, rfl⟩
    refine ⟨_, ?_, snapshotV3Format, _, by decide, rfl, not_not.mpr rfl,
      header.storageFormatVersion.toNat, _, UInt32.toNat_lt _, rfl, _, _, identityFits, rfl,
      _, _, metaFits, rfl, header.identityJson, _, rfl, rfl, header.metaJson, _, rfl, rfl,
      (hashes.crc32 (front ++ headerBody header)).toNat, [], UInt32.toNat_lt _, rfl, ?_, rfl, ?_⟩
    · simp only [headerBody, List.append_assoc, List.append_nil]
    · simp only [headerBody, List.drop_zero, List.append_assoc, ne_eq, not_true_eq_false,
        not_false_eq_true]
    · rw [UInt32.ofNat_toNat]

/-! The frames as the streaming reader takes them -/

namespace SnapshotArtifactReader

theorem addWords_then {γ : Type} (reader : SnapshotArtifactReader) (first second : Nat)
    {next : Nat → Stream γ} {later : Nat → Octets → Octets → γ → Prop}
    (reads : ∀ value, Reads reader.bodyTape (next value) (later value)) :
    Reads reader.bodyTape (addWords first second >>= next) fun front bytes result =>
      first + second ≤ u64Max ∧ later (first + second) front bytes result := by
  rw [addWords]
  by_cases small : first + second ≤ u64Max
  · rw [if_pos small, pure_bind]
    exact (reads _).congr fun _ _ _ => by simp only [small, true_and]
  · rw [if_neg small]
    intro front back result after
    constructor
    · intro ran
      cases ran
    · rintro ⟨_, _, _, ⟨within, _⟩, _⟩
      exact absurd within small

theorem reads_readHeader (hashes : Hashes) (reader : SnapshotArtifactReader) :
    Reads reader.bodyTape (readHeader hashes) fun _ bytes header =>
      header.Fits ∧ header.WithinLimit ∧ bytes = sealed hashes (headerBody header) := by
  refine Reads.congr (Reads.take_then (takes_readBody reader) fun magic =>
    Reads.refuse_then fun _ => bodyU32_then reader magic fun format =>
    Reads.refuse_then fun _ => bodyU32_then reader format.2 fun version =>
    bodyU32_then reader version.2 fun identityLen =>
    bodyU32_then reader identityLen.2 fun metaLen =>
    addWords_then reader identityLen.1 metaLen.1 fun announced => Reads.refuse_then fun _ =>
    Reads.take_then (takes_readBody reader) fun identity =>
    Reads.take_then (takes_readBody reader) fun metadata => bodyU32_then reader [] fun crc =>
    Reads.refuse_then fun _ => Reads.pure _) ?_
  intro front bytes header
  constructor
  · rintro ⟨magic, _, _, rfl, isMagic, format, _, _, rfl, known, version, _, versionFits, rfl,
      _, _, identityFits, rfl, _, _, metaFits, rfl, _, small, identity, _, rfl, rfl,
      metadata, _, rfl, rfl, crc, _, _, rfl, same, rfl, rfl⟩
    obtain rfl := not_not.mp isMagic
    obtain rfl : format = snapshotV3Format := not_not.mp known
    rw [not_not] at same
    dsimp only at same
    refine ⟨⟨identityFits, metaFits⟩, Nat.le_of_not_lt small, ?_⟩
    rw [sealed, headerBody, toNat_ofNat_of_fits versionFits, same]
    simp only [List.append_assoc, List.append_nil]
  · rintro ⟨⟨identityFits, metaFits⟩, small, rfl⟩
    have word : header.identityJson.length + header.metaJson.length ≤ u64Max := by
      rw [u64Max]
      omega
    refine ⟨snapshotV3Magic, _, rfl, ?_, not_not.mpr rfl, snapshotV3Format, _, by decide, rfl,
      not_not.mpr rfl, header.storageFormatVersion.toNat, _, UInt32.toNat_lt _, rfl,
      _, _, identityFits, rfl, _, _, metaFits, rfl, word, Nat.not_lt.mpr small,
      header.identityJson, _, rfl, rfl, header.metaJson, _, rfl, rfl,
      (hashes.crc32 (headerBody header)).toNat, [], UInt32.toNat_lt _, rfl, ?_, rfl, ?_⟩
    · simp only [sealed, headerBody, List.append_assoc, List.append_nil]
    · simp only [headerBody, ne_eq, not_true_eq_false, not_false_eq_true]
    · dsimp only
      rw [UInt32.ofNat_toNat]

theorem lengths_split {header : Octets} (sized : header.length = 12) :
    header = toOctets 4 (ofOctets (header.take 4)) ++ toOctets 8 (ofOctets (header.drop 4)) := by
  have front : (header.take 4).length = 4 := by
    rw [List.length_take]
    omega
  have back : (header.drop 4).length = 8 := by
    rw [List.length_drop]
    omega
  have first := toOctets_ofOctets (header.take 4)
  have second := toOctets_ofOctets (header.drop 4)
  rw [front] at first
  rw [back] at second
  rw [first, second, List.take_append_drop]

theorem reads_readFrame (hashes : Hashes) (tag : UInt8) (reader : SnapshotArtifactReader) :
    Reads reader.bodyTape (readFrame hashes tag) fun _ bytes frame =>
      frame.Fits ∧ frame.WithinLimit ∧ frame.tag = tag ∧
        tag :: bytes = sealed hashes frame.body := by
  refine Reads.congr (Reads.take_then (takes_readBody reader) fun header =>
    Reads.refuse_then fun _ => Reads.take_then (takes_readBody reader) fun key =>
    Reads.take_then (takes_readBody reader) fun value => bodyU32_then reader [] fun crc =>
    Reads.refuse_then fun _ => Reads.pure _) ?_
  intro front bytes frame
  constructor
  · rintro ⟨header, _, sized, rfl, small, key, _, keyLen, rfl, value, _, valueLen, rfl,
      crc, _, _, rfl, same, rfl, rfl⟩
    rw [not_or] at small
    have split := lengths_split sized
    rw [← keyLen, ← valueLen] at split small
    have within : key.length + value.length ≤ maxSnapshotFrameBytes := Nat.le_of_not_lt small.2
    have bound : maxSnapshotFrameBytes < 256 ^ 4 := by decide
    refine ⟨⟨?_, ?_⟩, within, rfl, ?_⟩
    · change key.length < 256 ^ 4
      omega
    · change value.length < 256 ^ 8
      omega
    · have body : tag :: header ++ key ++ value = Frame.body ⟨tag, key, value⟩ := by
        rw [split]
        simp only [Frame.body, frameBody, List.cons_append, List.append_assoc]
      rw [not_not, body] at same
      rw [sealed, same, ← body]
      simp only [List.append_assoc, List.append_nil, List.cons_append]
  · rintro ⟨⟨keyFits, valueFits⟩, within, rfl, taken⟩
    have keyLen : ofOctets ((toOctets 4 frame.key.length ++ toOctets 8 frame.value.length).take 4) =
        frame.key.length := by
      rw [take_toOctets, ofOctets_toOctets keyFits]
    have valueLen :
        ofOctets ((toOctets 4 frame.key.length ++ toOctets 8 frame.value.length).drop 4) =
          frame.value.length := by
      rw [drop_toOctets le_rfl, Nat.sub_self, List.drop_zero, ofOctets_toOctets valueFits]
    have word : maxSnapshotFrameBytes ≤ u64Max := by decide
    have small : frame.key.length + frame.value.length ≤ maxSnapshotFrameBytes := within
    refine ⟨toOctets 4 frame.key.length ++ toOctets 8 frame.value.length, _,
      by rw [List.length_append, toOctets_length, toOctets_length], ?_, ?_,
      frame.key, _, keyLen.symm, rfl, frame.value, _, valueLen.symm, rfl,
      (hashes.crc32 frame.body).toNat, [], UInt32.toNat_lt _, rfl, ?_, rfl, rfl⟩
    · rw [sealed, Frame.body, frameBody, List.cons_append, List.cons_append, List.cons_append,
        List.cons_append, List.cons.injEq] at taken
      rw [taken.2]
      simp only [List.append_assoc, List.append_nil, Frame.body, frameBody,
        List.cons_append]
    · rw [keyLen, valueLen]
      omega
    · simp only [Frame.body, frameBody, List.cons_append, List.append_assoc, ne_eq,
        not_true_eq_false, not_false_eq_true]

theorem field_then {α γ : Type} (reader : SnapshotArtifactReader)
    {field : SnapshotArtifactReader → α} {next : α → Stream γ} {later : α → Octets → Octets → γ → Prop}
    (kept : ∀ back, field { reader with remaining := back } = field reader)
    (reads : ∀ value, Reads reader.rawTape (next value) (later value)) :
    Reads reader.rawTape (view field >>= next) (later (field reader)) :=
  Reads.view_then (fun _ back => kept back) reads

theorem reads_readFooter (hashes : Hashes) (first : UInt8) (reader : SnapshotArtifactReader) :
    Reads reader.rawTape (readFooter hashes first) fun _ bytes _ =>
      (reader.stateCount < 256 ^ 8 ∧ reader.payloadCount < 256 ^ 8) ∧ first :: bytes =
        sealedFooter hashes reader.bodyDigest reader.stateCount reader.payloadCount := by
  refine Reads.congr (Reads.take_then (takes_readExact reader) fun rest =>
    Reads.refuse_then fun _ => Reads.number_then (takes_readExact reader) fun stateCount =>
    Reads.number_then (takes_readExact reader) fun payloadCount =>
    Reads.take_then (takes_readExact reader) fun digest =>
    Reads.number_then (takes_readExact reader) fun crc => Reads.refuse_then fun _ =>
    field_then reader (fun _ => rfl) fun body => Reads.refuse_then fun _ =>
    field_then reader (fun _ => rfl) fun states =>
    field_then reader (fun _ => rfl) fun payloads => Reads.refuse _ _) ?_
  intro front bytes _
  constructor
  · rintro ⟨rest, _, _, rfl, isMagic, stateCount, _, stateFits, rfl, payloadCount, _, payloadFits,
      rfl, digest, _, _, rfl, crc, _, _, rfl, sameCrc, sameDigest, rfl, counts⟩
    obtain ⟨rfl, rfl⟩ : stateCount = reader.stateCount ∧ payloadCount = reader.payloadCount := by
      rw [not_or, not_not, not_not] at counts
      exact counts
    rw [not_not] at isMagic sameCrc sameDigest
    refine ⟨⟨stateFits, payloadFits⟩, ?_⟩
    rw [isMagic] at sameCrc
    rw [← List.cons_append, isMagic, ← sameDigest, sealedFooter, sealed, footerBody, ← sameCrc,
      ← sameDigest]
    simp only [List.append_assoc, List.append_nil]
  · rintro ⟨⟨stateFits, payloadFits⟩, taken⟩
    have split : snapshotV3Footer = first :: snapshotV3Footer.tail := by
      rw [sealedFooter, sealed, footerBody, snapshotV3Footer, List.cons_append, List.cons_append,
        List.cons_append, List.cons_append, List.cons.injEq] at taken
      rw [taken.1]
      rfl
    have opened : footerBody reader.stateCount reader.payloadCount
        (hashes.sha256 reader.bodyDigest) = first :: (snapshotV3Footer.tail ++
          (toOctets 8 reader.stateCount ++ (toOctets 8 reader.payloadCount ++
            (hashes.sha256 reader.bodyDigest).val))) := by
      rw [footerBody]
      conv_lhs => rw [split]
      simp only [List.cons_append, List.append_assoc]
    refine ⟨snapshotV3Footer.tail, _, rfl, ?_, not_not.mpr split.symm,
      reader.stateCount, _, stateFits, rfl, reader.payloadCount, _, payloadFits, rfl,
      (hashes.sha256 reader.bodyDigest).val, _, (hashes.sha256 _).property, rfl,
      (hashes.crc32 (footerBody reader.stateCount reader.payloadCount
        (hashes.sha256 reader.bodyDigest))).toNat, [], UInt32.toNat_lt _, rfl, ?_,
      not_not.mpr rfl, rfl, ?_⟩
    · rw [sealedFooter, sealed, opened, List.cons_append, List.cons.injEq] at taken
      rw [taken.2, opened]
      simp only [List.append_assoc, List.append_nil]
    · rw [← split, footerBody]
      exact not_not.mpr rfl
    · simp

end SnapshotArtifactReader

end LightStream.SnapshotV3
