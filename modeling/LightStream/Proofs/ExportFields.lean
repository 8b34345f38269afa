import LightStream.Export.Codec

/-!
The fields of an export section are read back as they were written, and a decode budget with
less in use covers whatever one with more in use covers.
-/

namespace LightStream.Export

open Codec (Octets Encoder Transfers toOctets ofOctets)

section
variable {budget before after : DecodeBudget} {width : Nat} {α : Type}

theorem transfers_guarded {encoder : Encoder Unit} {decoder : Decoder α} {value : α} {bad : Prop}
    [Decidable bad] (transfers : ¬bad → Transfers encoder decoder value width before after) :
    Transfers (if bad then throw .exceeded else encoder) decoder value width before after := by
  by_cases failed : bad
  · intro output written _ wrote
    rw [if_pos failed] at wrote
    cases wrote
  · rw [if_neg failed]
    exact transfers failed

theorem transfers_number {value : Nat} (fits : value < 256 ^ width) :
    Transfers (putNumber width value) (getNumber width) value width budget budget := by
  have bytes := Transfers.octets VerifyError.truncated (toOctets width value) budget
  rw [Codec.toOctets_length] at bytes
  have read := bytes.last ofOctets
  rwa [Codec.ofOctets_toOctets fits] at read

theorem transfers_u8 {value : Nat} (fits : value < 256) :
    Transfers (putU8 value) getU8 value 1 budget budget := transfers_number (by omega)

theorem transfers_u16 {value : Nat} (fits : value < 65536) :
    Transfers (putU16 value) getU16 value 2 budget budget := transfers_number (by omega)

theorem transfers_u32 {value : Nat} (fits : value ≤ u32Max) :
    Transfers (putU32 value) getU32 value 4 budget budget :=
  transfers_number (by unfold u32Max at fits; omega)

theorem transfers_u64 {value : Nat} (fits : value ≤ u64Max) :
    Transfers (putU64 value) getU64 value 8 budget budget :=
  transfers_number (by unfold u64Max at fits; omega)

theorem transfers_cluster {value : ClusterId} (fits : value.uuid < uuidBound) :
    Transfers (putCluster value) getCluster value 16 budget budget :=
  (transfers_number (by unfold uuidBound at fits; omega)).last ClusterId.mk

theorem transfers_stream {value : StreamId} (fits : value.uuid < uuidBound) :
    Transfers (putStream value) getStream value 16 budget budget :=
  (transfers_number (by unfold uuidBound at fits; omega)).last StreamId.mk

theorem transfers_export {value : ExportIdV1} (fits : value.uuid < uuidBound) :
    Transfers (putExport value) getExport value 16 budget budget :=
  (transfers_number (by unfold uuidBound at fits; omega)).last ExportIdV1.mk

theorem transfers_bookmark {value : BookmarkId} (typed : TypedBookmarkId value) :
    Transfers (putBookmark value) getBookmark value 16 budget budget := by
  cases value with
  | uuid value =>
      have fits : value < uuidBound := typed
      exact (transfers_number (by unfold uuidBound at fits; omega)).last BookmarkId.uuid
  | derived logId ordinal => exact typed.elim

theorem transfers_digest (value : Digest) :
    Transfers (putDigest value) getDigest value 32 budget budget := by
  have fits : value.toNat < 256 ^ 32 := by
    have bound := value.isLt
    omega
  have read := @Transfers.last _ _ _ _ _ _ _ _ _ _ (BitVec.ofNat 256)
    (@transfers_number budget 32 _ fits)
  rwa [BitVec.ofNat_toNat, BitVec.setWidth_eq] at read

theorem transfers_group {value : GroupId} (fits : value.value ≤ u64Max) :
    Transfers (putU64 value.value) getGroup value 8 budget budget :=
  (transfers_u64 fits).lastly (dif_neg value.nonzero)

theorem transfers_node {value : NodeId} (fits : value.value ≤ u64Max) :
    Transfers (putU64 value.value) getNode value 8 budget budget :=
  (transfers_u64 fits).lastly (dif_neg value.nonzero)

theorem parseName_ok {kind text result : String} (parsed : parseName kind text = .ok result) :
    result = text ∧ text.utf8ByteSize ≤ maxNameBytes := by
  unfold parseName at parsed
  split at parsed
  · cases parsed
  · split at parsed
    · cases parsed
    · rename_i short
      split at parsed
      · cases parsed
      · cases parsed
        exact ⟨rfl, by omega⟩

theorem transfers_string {text field : String} (short : text.utf8ByteSize ≤ maxNameBytes) :
    Transfers (putString text) (getString field) text 4 budget budget := by
  refine transfers_guarded fun fits => ?_
  have size : (utf8 text).length = text.utf8ByteSize := by
    rw [utf8, Array.length_toList]
    exact String.size_toByteArray
  have bytes := Transfers.octets VerifyError.truncated (utf8 text) budget
  rw [size] at bytes
  have small : text.utf8ByteSize ≤ u32Max := by omega
  refine Transfers.weaken ((transfers_u32 small).bind ?_) (Nat.le_add_right 4 text.utf8ByteSize)
  rw [if_neg (by omega)]
  refine bytes.lastly ?_
  have valid : (ByteArray.mk (utf8 text).toArray) = text.toByteArray := by
    simp [utf8]
  rw [valid, String.fromUTF8?, dif_pos text.isValidUTF8]
  rfl

theorem transfers_streamName {name : StreamName} (parsed : streamNameParse name.text = .ok name) :
    Transfers (putString name.text) getStreamName name 4 budget budget := by
  refine (transfers_string ?_).lastly (by rw [parsed])
  unfold streamNameParse at parsed
  cases checked : parseName "stream name" name.text with
  | error failure => simp [checked, Except.map] at parsed
  | ok text => exact (parseName_ok checked).2

theorem transfers_bookmarkName {name : BookmarkName}
    (parsed : bookmarkNameParse name.text = .ok name) :
    Transfers (putString name.text) getBookmarkName name 4 budget budget := by
  refine (transfers_string ?_).lastly (by rw [parsed])
  unfold bookmarkNameParse at parsed
  cases checked : parseName "bookmark name" name.text with
  | error failure => simp [checked, Except.map] at parsed
  | ok text => exact (parseName_ok checked).2

theorem transfers_count {values : List α} {limit minimum more : Nat} {name : String} {γ : Type}
    {next : Encoder Unit} {continuation : Nat → Decoder γ} {result : γ}
    (bounded : values.length ≤ limit) (enough : values.length * minimum ≤ more)
    (rest : Transfers next (continuation values.length) result more before after) :
    Transfers (putLength values >>= fun _ => next) (count limit name minimum >>= continuation)
      result (8 + more) before after := by
  intro output written room wrote
  obtain ⟨_, between, wroteLength, wroteRest⟩ := Codec.bind_ok_iff.mp wrote
  unfold putLength at wroteLength
  split at wroteLength
  · cases wroteLength
  rename_i fits
  obtain ⟨front, wideFront, grownFront, fitsFront, readFront⟩ :=
    @transfers_u64 before values.length (by omega) output between room wroteLength
  obtain ⟨back, wideBack, grownBack, fitsBack, readBack⟩ := rest between written fitsFront wroteRest
  refine ⟨front ++ back, ?_, ?_, fitsBack, fun remaining => ?_⟩
  · rw [List.length_append]
    omega
  · rw [grownBack, grownFront, Codec.Output.append_append]
  · have short : back.length ≤ u64Max := by
      have bound := fitsBack.2
      rw [grownBack] at bound
      simp only [Codec.Output.append, List.length_append, Codec.wordMax] at bound
      unfold u64Max
      omega
    rw [List.append_assoc]
    refine Codec.bind_ok_iff.mpr ⟨values.length, ⟨back ++ remaining, before⟩, ?_, readBack remaining⟩
    refine Codec.bind_ok_iff.mpr ⟨values.length, ⟨back ++ remaining, before⟩, readFront _, ?_⟩
    rw [if_neg (by omega), if_neg (by omega)]
    refine Codec.bind_ok_iff.mpr ⟨⟨back ++ remaining, before⟩, _, rfl, ?_⟩
    rw [if_neg]
    · rfl
    · simp only [List.length_append]
      omega

end

end LightStream.Export
