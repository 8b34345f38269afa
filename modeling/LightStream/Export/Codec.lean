import LightStream.Export.Model

/-!
The primitive encoders and decoders of `light-stream-export` and the budget that bounds what a
decoder allocates.  `usize` has 64 bits, so a conversion to it never fails.
-/

namespace LightStream.Export

open Codec (Octets Encoder Input toOctets ofOctets)

structure DecodeBudget where
  maxStreams : Nat
  maxPartitions : Nat
  maxRecords : Nat
  maxBookmarks : Nat
  maxPayloadBytes : Nat
  streams : Nat
  partitions : Nat
  records : Nat
  bookmarks : Nat
  payloadBytes : Nat
deriving DecidableEq

abbrev Decoder := Codec.Decoder VerifyError DecodeBudget

def reserve (used count limit : Nat) (name : String) : Except VerifyError Nat :=
  match checkedAdd used count with
  | none => .error (.limit name)
  | some next => if next > limit then .error (.limit name) else .ok next

def modelCount {α : Type} (values : List α) (limit : String) : Except VerifyError Nat :=
  if values.length ≤ u64Max then .ok values.length else .error (.limit limit)

namespace DecodeBudget

def new (limits : ExportLimits) : DecodeBudget where
  maxStreams := limits.maxStreams
  maxPartitions := limits.maxPartitions
  maxRecords := limits.maxRecords
  maxBookmarks := limits.maxBookmarks
  maxPayloadBytes := limits.maxPayloadBytes
  streams := 0
  partitions := 0
  records := 0
  bookmarks := 0
  payloadBytes := 0

def reserveStreams (count : Nat) (budget : DecodeBudget) : Except VerifyError DecodeBudget := do
  let streams ← reserve budget.streams count budget.maxStreams "streams"
  pure { budget with streams }

def reservePartitions (count : Nat) (budget : DecodeBudget) :
    Except VerifyError DecodeBudget := do
  let partitions ← reserve budget.partitions count budget.maxPartitions "partitions"
  pure { budget with partitions }

def reserveRecords (count : Nat) (budget : DecodeBudget) : Except VerifyError DecodeBudget := do
  let records ← reserve budget.records count budget.maxRecords "records"
  pure { budget with records }

def reserveBookmarks (count : Nat) (budget : DecodeBudget) : Except VerifyError DecodeBudget := do
  let bookmarks ← reserve budget.bookmarks count budget.maxBookmarks "bookmarks"
  pure { budget with bookmarks }

def reservePayloadBytes (count : Nat) (budget : DecodeBudget) :
    Except VerifyError DecodeBudget := do
  let payloadBytes ← reserve budget.payloadBytes count budget.maxPayloadBytes "payload bytes"
  pure { budget with payloadBytes }

def reserveManifestModel (selectedStreams : List StreamId) (budget : DecodeBudget) :
    Except VerifyError DecodeBudget := do
  budget.reserveStreams (← modelCount selectedStreams "streams")

def reserveStreamBookmarkModel (budget : DecodeBudget) (bookmark : CommittedStreamBookmark) :
    Except VerifyError DecodeBudget := do
  budget.reservePartitions (← modelCount bookmark.vector.positions "partitions")

def reserveStreamModel (budget : DecodeBudget) (stream : ActiveStreamV1) :
    Except VerifyError DecodeBudget := do
  let budget ← budget.reservePartitions (← modelCount stream.descriptor.placements "partitions")
  let budget ← budget.reserveBookmarks (← modelCount stream.bookmarks "bookmarks")
  stream.bookmarks.foldlM reserveStreamBookmarkModel budget

def reserveControlModel (control : ControlSectionV1) (budget : DecodeBudget) :
    Except VerifyError DecodeBudget := do
  let budget ← budget.reserveStreams (← modelCount control.streams "streams")
  control.streams.foldlM reserveStreamModel budget

def reserveRecordModel (budget : DecodeBudget) (record : CommittedRecord) :
    Except VerifyError DecodeBudget := do
  budget.reservePayloadBytes (← modelCount record.payload "payload bytes")

def reservePartitionModel (budget : DecodeBudget) (part : PartitionV1) :
    Except VerifyError DecodeBudget := do
  let budget ← budget.reserveRecords (← modelCount part.records "records")
  let budget ← part.records.foldlM reserveRecordModel budget
  budget.reserveBookmarks (← modelCount part.bookmarks "bookmarks")

def reserveDataGroupModel (data : DataGroupV1) (budget : DecodeBudget) :
    Except VerifyError DecodeBudget := do
  let budget ← budget.reservePartitions (← modelCount data.partitions "partitions")
  data.partitions.foldlM reservePartitionModel budget

end DecodeBudget

/-! ### The encoder -/

def putNumber (width value : Nat) : Encoder Unit := Codec.raw (toOctets width value)

def putU8 (value : Nat) : Encoder Unit := putNumber 1 value
def putU16 (value : Nat) : Encoder Unit := putNumber 2 value
def putU32 (value : Nat) : Encoder Unit := putNumber 4 value
def putU64 (value : Nat) : Encoder Unit := putNumber 8 value

def putCluster (value : ClusterId) : Encoder Unit := putNumber 16 value.uuid
def putStream (value : StreamId) : Encoder Unit := putNumber 16 value.uuid
def putExport (value : ExportIdV1) : Encoder Unit := putNumber 16 value.uuid
def putDigest (value : Digest) : Encoder Unit := putNumber 32 value.toNat

/-- A bookmark identity is a UUID here; how one is derived is the store's concern. -/
def putBookmark : BookmarkId → Encoder Unit
  | .uuid value => putNumber 16 value
  | .derived _ _ => throw .exceeded

def utf8 (text : String) : Octets := text.toByteArray.data.toList

def putString (value : String) : Encoder Unit :=
  if value.utf8ByteSize > u32Max then throw .exceeded
  else do
    putU32 value.utf8ByteSize
    Codec.raw (utf8 value)

def putBytes (value : Octets) : Encoder Unit :=
  if value.length > u64Max then throw .exceeded
  else do
    putU64 value.length
    Codec.raw value

def putLength {α : Type} (values : List α) : Encoder Unit :=
  if values.length > u64Max then throw .exceeded else putU64 values.length

/-! ### The decoder -/

def take (length : Nat) : Decoder Octets := Codec.take .truncated length

def getNumber (width : Nat) : Decoder Nat := do
  let bytes ← take width
  pure (ofOctets bytes)

def getU8 : Decoder Nat := getNumber 1
def getU16 : Decoder Nat := getNumber 2
def getU32 : Decoder Nat := getNumber 4
def getU64 : Decoder Nat := getNumber 8

/-- `parse_uuid` prints sixteen bytes as a UUID and parses the text, which never fails. -/
def getCluster : Decoder ClusterId := do
  let uuid ← getNumber 16
  pure ⟨uuid⟩

def getStream : Decoder StreamId := do
  let uuid ← getNumber 16
  pure ⟨uuid⟩

def getBookmark : Decoder BookmarkId := do
  let uuid ← getNumber 16
  pure (.uuid uuid)

def getExport : Decoder ExportIdV1 := do
  let uuid ← getNumber 16
  pure ⟨uuid⟩

def getDigest : Decoder Digest := do
  let value ← getNumber 32
  pure (BitVec.ofNat 256 value)

def getGroup : Decoder GroupId := do
  let value ← getU64
  if nonzero : value = 0 then throw (.invalid "group ID") else pure ⟨value, nonzero⟩

def getNode : Decoder NodeId := do
  let value ← getU64
  if nonzero : value = 0 then throw (.invalid "node ID") else pure ⟨value, nonzero⟩

def getString (field : String) : Decoder String := do
  let length ← getU32
  if length > maxNameBytes then throw (.limit field)
  else do
    let bytes ← take length
    match String.fromUTF8? ⟨bytes.toArray⟩ with
    | none => throw (.invalid "UTF-8 string")
    | some text => pure text

def getStreamName : Decoder StreamName := do
  let text ← getString "stream name bytes"
  match streamNameParse text with
  | .error _ => throw (.invalid "stream name")
  | .ok name => pure name

def getBookmarkName : Decoder BookmarkName := do
  let text ← getString "bookmark name bytes"
  match bookmarkNameParse text with
  | .error _ => throw (.invalid "bookmark name")
  | .ok name => pure name

/-- `count`: an announced count is held against its limit and against the bytes that are left. -/
def count (limit : Nat) (name : String) (minimumItemBytes : Nat) : Decoder Nat := do
  let value ← getU64
  if value > limit then throw (.limit name)
  else if value * minimumItemBytes > u64Max then throw (.limit name)
  else do
    let input ← get
    if value * minimumItemBytes > input.remaining.length then throw .truncated else pure value

end LightStream.Export
