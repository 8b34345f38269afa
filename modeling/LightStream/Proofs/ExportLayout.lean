import LightStream.Export.Decode
import LightStream.Proofs.ExportFields

/-!
Where the sections of an artifact lie: what an output holds after a section was written to it,
and that a reader finds the section there.
-/

namespace LightStream.Export

open Codec (Octets toOctets ofOctets except_bind_ok except_mapError_ok)

section
variable {ε : Type} {sha256 : Octets → Digest}

/-! ### Writing -/

def Output.extend (output : Output) (bytes : Octets) : Output :=
  { output with written := output.written ++ bytes, digested := output.digested ++ bytes }

theorem plain_ok {output after : Output} {bytes : Octets} :
    output.plain bytes = (.ok after : Except (ExportWriteError ε) Output) ↔
      { output with written := output.written ++ bytes } = after ∧
        after.written.length ≤ after.max ∧ after.written.length ≤ u64Max := by
  unfold Output.plain
  cases sum : checkedAdd output.offset bytes.length with
  | none =>
      simp only [reduceCtorEq, false_iff, not_and]
      rintro rfl _
      unfold checkedAdd at sum
      split at sum <;> simp at sum
      simp only [List.length_append, Output.offset] at *
      omega
  | some total =>
      obtain ⟨same, small⟩ := checkedAdd_some.mp sum
      dsimp only
      split
      · simp only [reduceCtorEq, false_iff, not_and]
        rintro rfl _
        simp only [List.length_append, Output.offset] at *
        omega
      · rw [Except.ok.injEq]
        constructor
        · rintro rfl
          simp only [List.length_append, Output.offset] at *
          exact ⟨trivial, by omega, by omega⟩
        · exact fun facts => facts.1

theorem hashed_ok {output after : Output} {bytes : Octets} :
    output.hashed bytes = (.ok after : Except (ExportWriteError ε) Output) ↔
      output.extend bytes = after ∧
        after.written.length ≤ after.max ∧ after.written.length ≤ u64Max := by
  unfold Output.hashed
  rw [except_bind_ok]
  constructor
  · rintro ⟨middle, wrote, same⟩
    cases same
    obtain ⟨rfl, small, word⟩ := plain_ok.mp wrote
    exact ⟨rfl, small, word⟩
  · rintro ⟨rfl, small, word⟩
    exact ⟨_, plain_ok.mpr ⟨rfl, small, word⟩, rfl⟩

theorem length_ok {α : Type} {values : List α} {limit : String} {amount : Nat} :
    length values limit = (.ok amount : Except (ExportWriteError ε) Nat) ↔
      values.length = amount ∧ amount ≤ u64Max := by
  unfold length
  split <;> rename_i small
  · rw [Except.ok.injEq]
    exact ⟨fun same => ⟨same, same ▸ small⟩, fun facts => facts.1⟩
  · simp only [reduceCtorEq, false_iff]
    omega

def describe (sha256 : Octets → Digest) (ordinal : Nat) (kind : SectionKindV1)
    (group : Option GroupId) (itemCount offset : Nat) (payload : Octets) : SectionDescriptorV1 where
  ordinal := ordinal
  kind := kind
  sectionVersion := kind.version
  group := group
  fileOffset := offset
  itemCount := itemCount
  payloadLength := payload.length
  payloadSha256 := sha256 payload

def headerBytes (descriptor : SectionDescriptorV1) : Octets :=
  toOctets 2 descriptor.kind.number ++ toOctets 2 descriptor.sectionVersion ++
    toOctets 8 descriptor.itemCount ++ toOctets 8 descriptor.payloadLength ++
    toOctets 32 descriptor.payloadSha256.toNat

theorem headerBytes_length (descriptor : SectionDescriptorV1) :
    (headerBytes descriptor).length = sectionHeaderBytes := by
  simp [headerBytes, Codec.toOctets_length, sectionHeaderBytes]

theorem extend_extend (output : Output) (first second : Octets) :
    (output.extend first).extend second = output.extend (first ++ second) := by
  simp [Output.extend]

theorem section_ok {output after : Output} {ordinal itemCount : Nat} {kind : SectionKindV1}
    {group : Option GroupId} {payload : Octets} {descriptor : SectionDescriptorV1}
    (wrote : output.section_ sha256 ordinal kind group itemCount payload =
      (.ok (after, descriptor) : Except (ExportWriteError ε) (Output × SectionDescriptorV1))) :
    descriptor = describe sha256 ordinal kind group itemCount output.offset payload ∧
      after = output.extend (headerBytes descriptor ++ payload) ∧
      payload.length ≤ u64Max ∧ after.written.length ≤ after.max ∧
      after.written.length ≤ u64Max := by
  simp only [Output.section_, except_bind_ok, length_ok, hashed_ok] at wrote
  obtain ⟨_, ⟨rfl, word⟩, _, ⟨rfl, _⟩, _, ⟨rfl, _⟩, _, ⟨rfl, _⟩, _, ⟨rfl, _⟩, _, ⟨rfl, _⟩, _,
    ⟨rfl, small, total⟩, same⟩ := wrote
  cases same
  refine ⟨rfl, ?_, word, small, total⟩
  simp only [extend_extend, headerBytes, List.append_assoc]

/-! ### Reading -/

theorem take_front {front back : Octets} {width : Nat} (size : front.length = width) :
    (front ++ back).take width = front := by
  rw [← size, List.take_left]

structure Reader.At (reader : Reader) (hashing : Bool) (before rest : Octets) : Prop where
  bytes : reader.bytes = before ++ rest
  position : reader.position = before.length
  digested : reader.digested = if hashing then some before else none

def Reader.Seeks (reader : Reader) (hashing : Bool) (before rest : Octets) : Prop :=
  ∃ found, reader.seek before.length = .ok found ∧ found.At hashing before rest

theorem Reader.At.seeks {reader : Reader} {hashing : Bool} {before rest : Octets}
    (at_ : reader.At hashing before rest) : reader.Seeks hashing before rest := by
  refine ⟨reader, ?_, at_⟩
  obtain ⟨content, position, digested⟩ := reader
  obtain ⟨bytes, same, state⟩ := at_
  dsimp only at same state
  subst same state
  cases hashing with
  | false => rfl
  | true => exact if_pos rfl

theorem Reader.seeks_plain {reader : Reader} {before rest : Octets}
    (plain : reader.digested = none) (bytes : reader.bytes = before ++ rest) :
    reader.Seeks false before rest := by
  refine ⟨{ reader with position := before.length }, ?_, bytes, rfl, plain⟩
  unfold Reader.seek
  rw [plain]

theorem Reader.At.read {reader : Reader} {hashing : Bool} {before chunk rest : Octets} {amount : Nat}
    (at_ : reader.At hashing before (chunk ++ rest)) (size : chunk.length = amount) :
    ∃ found, reader.readExact amount = .ok (chunk, found) ∧
      found.At hashing (before ++ chunk) rest := by
  have ahead : (reader.bytes.drop reader.position).take amount = chunk := by
    rw [at_.bytes, at_.position, List.drop_left, take_front size]
  refine ⟨⟨reader.bytes, reader.position + amount, reader.digested.map (· ++ chunk)⟩, ?_, ?_, ?_, ?_⟩
  · unfold Reader.readExact
    dsimp only
    rw [ahead, if_neg (by omega)]
  · rw [at_.bytes, List.append_assoc]
  · rw [at_.position, List.length_append, size]
  · rw [at_.digested]
    cases hashing <;> rfl

theorem sectionHeader_headerBytes {descriptor : SectionDescriptorV1}
    (version : descriptor.sectionVersion = descriptor.kind.version)
    (items : descriptor.itemCount ≤ u64Max) (size : descriptor.payloadLength ≤ u64Max) :
    sectionHeader (headerBytes descriptor) = descriptor.header := by
  have kind : descriptor.kind.number < 256 ^ 2 := by cases descriptor.kind <;> decide
  have small : descriptor.sectionVersion < 256 ^ 2 := by
    rw [version]
    cases descriptor.kind <;> decide
  have digest : descriptor.payloadSha256.toNat < 256 ^ 32 := by
    have bound := descriptor.payloadSha256.isLt
    omega
  have long {value : Nat} (fits : value ≤ u64Max) : value < 256 ^ 8 := by
    unfold u64Max at fits
    omega
  unfold sectionHeader headerBytes SectionDescriptorV1.header
  simp (disch := omega) only [List.append_assoc, Codec.drop_toOctets, Codec.take_toOctets,
    Codec.take_toOctets_self, Nat.reduceSub, List.drop_zero, Codec.ofOctets_toOctets kind,
    Codec.ofOctets_toOctets small, Codec.ofOctets_toOctets (long items),
    Codec.ofOctets_toOctets (long size), Codec.ofOctets_toOctets digest, BitVec.ofNat_toNat,
    BitVec.setWidth_eq]

theorem readSection_ok {reader : Reader} {hashing : Bool} {before payload rest : Octets}
    {limits : ExportLimits} {ordinal itemCount manifestOffset : Nat} {kind : SectionKindV1}
    {group : Option GroupId} {descriptor : SectionDescriptorV1}
    (described : descriptor = describe sha256 ordinal kind group itemCount before.length payload)
    (ahead : reader.Seeks hashing before (headerBytes descriptor ++ payload ++ rest))
    (items : itemCount ≤ u64Max) (size : payload.length ≤ limits.maxSectionBytes)
    (inside : before.length + sectionHeaderBytes + payload.length ≤ manifestOffset)
    (word : manifestOffset ≤ u64Max) :
    ∃ found, readSection sha256 reader descriptor ⟨ordinal, kind, group⟩ before.length manifestOffset
        limits =
        .ok (payload, before.length + sectionHeaderBytes + payload.length, found) ∧
      found.At hashing (before ++ (headerBytes descriptor ++ payload)) rest := by
  obtain ⟨placed, seek, at_⟩ := ahead
  rw [List.append_assoc] at at_
  obtain ⟨passed, readHeader, atPayload⟩ := at_.read (headerBytes_length descriptor)
  obtain ⟨found, readPayload, atEnd⟩ := @Reader.At.read _ _ _ _ _ payload.length atPayload rfl
  have header : sectionHeader (headerBytes descriptor) = descriptor.header := by
    subst described
    exact sectionHeader_headerBytes rfl items (by dsimp only [describe]; omega)
  rw [List.append_assoc] at atEnd
  refine ⟨found, ?_, atEnd⟩
  subst described
  have extent : (checkedAdd before.length sectionHeaderBytes).bind (checkedAdd · payload.length) =
      some (before.length + sectionHeaderBytes + payload.length) := by
    rw [checkedAdd_of_le (by omega), Option.bind_some, checkedAdd_of_le (by omega)]
  unfold readSection
  rw [if_neg (by simp [describe]), if_neg (by simp [describe])]
  refine except_bind_ok.mpr ⟨placed, seek, except_bind_ok.mpr ⟨_, readHeader, ?_⟩⟩
  dsimp only
  rw [header, if_neg (not_not.mpr rfl)]
  have small : ¬(describe sha256 ordinal kind group itemCount before.length
    payload).header.payloadLength > limits.maxSectionBytes := Nat.not_lt.mpr size
  rw [if_neg small]
  dsimp only [describe, SectionDescriptorV1.header]
  rw [extent]
  dsimp only
  rw [if_neg (Nat.not_lt.mpr inside)]
  exact except_bind_ok.mpr ⟨_, readPayload, if_neg (not_not.mpr rfl)⟩

end

end LightStream.Export
