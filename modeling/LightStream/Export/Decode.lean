import LightStream.Export.Encode

/-!
Verifying and reading an export: `decode.rs` of `light-stream-export`, with a reader whose own
input never fails and a caller that never cancels.
-/

namespace LightStream.Export

open Codec (Octets Input charge repeated finish ofOctets)
open Kv (TreeMap)
open DecodeBudget (reserveStreams reservePartitions reserveRecords reserveBookmarks
  reservePayloadBytes)

def prologueBytes : Nat := 20
def sectionHeaderBytes : Nat := 52

def decodeCut : Decoder GroupCut := do
  let group ← getGroup
  let term ← getU64
  let leader ← getNode
  let appliedIndex ← getU64
  pure ⟨group, term, leader, appliedIndex⟩

def decodeLifecycle : Decoder BookmarkLifecycle := do
  let value ← getU8
  if value = bookmarkLifecycleActiveV1 then pure .available
  else if value = bookmarkLifecycleDeletedV1 then pure .deleted
  else throw (.invalid "bookmark lifecycle")

def decodePosition (cluster : ClusterId) (stream : StreamId) : Decoder CommittedCursor := do
  let partition ← getU32
  let nextOffset ← getU64
  pure ⟨cluster, ⟨stream, partition⟩, nextOffset⟩

def newVector (stream : StreamId) (positions : List CommittedCursor) : Option StreamCursorVector :=
  match positions with
  | [] => none
  | first :: rest =>
      if valid : (∀ cursor ∈ first :: rest, cursor.cluster = first.cluster) ∧
          (∀ cursor ∈ first :: rest, cursor.partition.stream = stream) ∧
          ((first :: rest).map fun cursor => cursor.partition.partition).Nodup then
        some ⟨first.cluster, stream, first :: rest, List.cons_ne_nil _ _, valid.1, valid.2.1,
          valid.2.2⟩
      else none

def decodeStreamBookmark (limits : ExportLimits) : Decoder CommittedStreamBookmark := do
  let cluster ← getCluster
  let stream ← getStream
  let id ← getBookmark
  let name ← getBookmarkName
  let publication ← getU64
  let lifecycle ← decodeLifecycle
  let positionCount ← count limits.maxPartitions "stream bookmark positions" 12
  charge (reservePartitions positionCount)
  let positions ← repeated (decodePosition cluster stream) positionCount
  if ¬(positions.map fun position => position.partition.partition).IsChain (· < ·) then
    throw (.nonCanonical "stream bookmark positions")
  else
    match newVector stream positions with
    | none => throw (.invalid "stream bookmark positions")
    | some vector =>
        let bookmark := CommittedStreamBookmark.published id name vector publication
        pure (if lifecycle = .deleted then bookmark.markDeleted else bookmark)

def decodePlacement : Decoder PartitionPlacement := do
  let partition ← getU32
  let group ← getGroup
  pure ⟨partition, group⟩

def decodeStream (limits : ExportLimits) : Decoder ActiveStreamV1 := do
  let cluster ← getCluster
  let stream ← getStream
  let name ← getStreamName
  let lifecycle ← getU8
  if lifecycle ≠ streamLifecycleActiveV1 then throw (.invalid "stream lifecycle")
  else do
    let revision ← getU64
    let placementCount ← count limits.maxPartitions "partitions" 12
    charge (reservePartitions placementCount)
    let placements ← repeated decodePlacement placementCount
    let readyCount ← count maxDataGroups "ready data groups" 8
    let readyGroups ← repeated getGroup readyCount
    let bookmarkPublicationCeiling ← getU64
    let bookmarkCount ← count limits.maxBookmarks "bookmarks" 81
    charge (reserveBookmarks bookmarkCount)
    let bookmarks ← repeated (decodeStreamBookmark limits) bookmarkCount
    pure {
      descriptor := ⟨cluster, stream, name, .active, placements, readyGroups, revision⟩
      bookmarkPublicationCeiling, bookmarks }

def whole {α : Type} (decoder : Decoder α) (payload : String) : Decoder α := do
  let value ← decoder
  finish (.invalid payload)
  pure value

def decodeControlFields (limits : ExportLimits) : Decoder ControlSectionV1 := do
  let sourceCluster ← getCluster
  let exportId ← getExport
  let cut ← decodeCut
  let catalogRevision ← getU64
  let assignmentCursor ← getU64
  let maxStreams ← getU32
  let maxPartitionsPerStream ← getU32
  let groupCount ← count maxDataGroups "data groups" 8
  let configuredDataGroups ← repeated getGroup groupCount
  let streamCount ← count limits.maxStreams "streams" 77
  charge (reserveStreams streamCount)
  let streams ← repeated (decodeStream limits) streamCount
  pure {
    sourceCluster, exportId, cut, catalogRevision, assignmentCursor, maxStreams
    maxPartitionsPerStream, configuredDataGroups, streams }

def decodeControl (limits : ExportLimits) : Decoder ControlSectionV1 :=
  whole (decodeControlFields limits) "control payload"

def decodePartitionBookmark : Decoder CommittedBookmark := do
  let cluster ← getCluster
  let stream ← getStream
  let partition ← getU32
  let id ← getBookmark
  let name ← getBookmarkName
  let nextOffset ← getU64
  let publication ← getU64
  let lifecycle ← decodeLifecycle
  let bookmark := CommittedBookmark.published id name ⟨cluster, ⟨stream, partition⟩, nextOffset⟩
    publication
  pure (if lifecycle = .deleted then bookmark.markDeleted else bookmark)

def decodeRecord (limits : ExportLimits) : Decoder CommittedRecord := do
  let offset ← getU64
  let payloadLength ← getU64
  if payloadLength > limits.maxPayloadBytes then throw (.limit "payload bytes")
  else do
    let input ← get
    if payloadLength > input.remaining.length then throw .truncated
    else do
      charge (reservePayloadBytes payloadLength)
      let payload ← take payloadLength
      pure ⟨offset, payload⟩

def decodePartition (limits : ExportLimits) : Decoder PartitionV1 := do
  let sourceCluster ← getCluster
  let stream ← getStream
  let partition ← getU32
  let retentionFloor ← getU64
  let tail ← getU64
  let bookmarkPublicationCeiling ← getU64
  let recordCount ← count limits.maxRecords "records" 16
  charge (reserveRecords recordCount)
  let records ← repeated (decodeRecord limits) recordCount
  let bookmarkCount ← count limits.maxBookmarks "bookmarks" 73
  charge (reserveBookmarks bookmarkCount)
  let bookmarks ← repeated decodePartitionBookmark bookmarkCount
  pure {
    sourceCluster, stream, partition, retentionFloor, tail, bookmarkPublicationCeiling, records
    bookmarks }

def decodeDataGroupFields (limits : ExportLimits) : Decoder DataGroupV1 := do
  let sourceCluster ← getCluster
  let exportId ← getExport
  let group ← getGroup
  let cut ← decodeCut
  let partitionCount ← count limits.maxPartitions "partitions" 76
  charge (reservePartitions partitionCount)
  let partitions ← repeated (decodePartition limits) partitionCount
  pure { sourceCluster, exportId, group, cut, partitions }

def decodeDataGroup (limits : ExportLimits) : Decoder DataGroupV1 :=
  whole (decodeDataGroupFields limits) "data payload"

def decodeSectionKind : Decoder SectionKindV1 := do
  let number ← getU16
  if number = sectionKindControlV1 then pure .control
  else if number = sectionKindDataGroupV1 then pure .dataGroup
  else throw (.unsupported "section kind")

def decodeSectionGroup : Decoder (Option GroupId) := do
  let tag ← getU8
  if tag = optionNoneV1 then pure none
  else if tag = optionSomeV1 then do
    let group ← getGroup
    pure (some group)
  else throw (.invalid "section group option")

def decodeSectionDescriptor : Decoder SectionDescriptorV1 := do
  let ordinal ← getU64
  let kind ← decodeSectionKind
  let sectionVersion ← getU16
  let group ← decodeSectionGroup
  let fileOffset ← getU64
  let itemCount ← getU64
  let payloadLength ← getU64
  let payloadSha256 ← getDigest
  pure {
    ordinal, kind, sectionVersion, group, fileOffset, itemCount, payloadLength, payloadSha256 }

def decodeTotals : Decoder ExportTotalsV1 := do
  let configuredDataGroups ← getU64
  let streams ← getU64
  let partitions ← getU64
  let records ← getU64
  let payloadBytes ← getU64
  let partitionBookmarks ← getU64
  let streamBookmarks ← getU64
  pure {
    configuredDataGroups, streams, partitions, records, payloadBytes, partitionBookmarks
    streamBookmarks }

def decodeManifestFields (limits : ExportLimits) : Decoder ExportManifestV1 := do
  let formatVersion ← getU32
  let requiredFeatures ← getU64
  let sourceCluster ← getCluster
  let exportId ← getExport
  let selectedCount ← count limits.maxStreams "streams" 16
  charge (reserveStreams selectedCount)
  let selectedStreams ← repeated getStream selectedCount
  let controlCut ← decodeCut
  let dataCount ← count maxDataGroups "data groups" 32
  let dataCuts ← repeated decodeCut dataCount
  if ¬(dataCuts.map GroupCut.group).IsChain (· < ·) then throw (.nonCanonical "data cuts")
  else
    match QuiescentCut.tryNew controlCut dataCuts with
    | .error _ => throw (.nonCanonical "data cuts")
    | .ok cut => do
        let sectionCount ← count (maxDataGroups + 1) "section count" 69
        let sections ← repeated decodeSectionDescriptor sectionCount
        let totals ← decodeTotals
        let exclusions ← getU64
        pure {
          formatVersion, requiredFeatures, sourceCluster, exportId, selectedStreams, cut, sections
          totals, exclusions }

def decodeManifest (limits : ExportLimits) : Decoder ExportManifestV1 :=
  whole (decodeManifestFields limits) "manifest"

def decoded {α : Type} (decoder : Decoder α) (bytes : Octets) (budget : DecodeBudget) :
    Except VerifyError (α × DecodeBudget) :=
  (decoder ⟨bytes, budget⟩).map fun result => (result.1, result.2.budget)

def checkLimit (value limit : Nat) (name : String) : Except VerifyError Unit :=
  if value > limit then .error (.limit name) else .ok ()

def validateManifest (manifest : ExportManifestV1) (limits : ExportLimits) :
    Except VerifyError Unit :=
  if manifest.formatVersion ≠ formatVersionV1 then .error (.unsupported "format version")
  else if manifest.requiredFeatures ≠ requiredFeaturesV1 then
    .error (.unsupported "required feature bits")
  else if manifest.exclusions ≠ exclusionsV1 then .error (.inconsistent "fixed exclusions")
  else if ¬manifest.selectedStreams.IsChain (· < ·) then .error (.nonCanonical "selected streams")
  else do
    checkLimit manifest.totals.streams limits.maxStreams "streams"
    checkLimit manifest.totals.partitions limits.maxPartitions "partitions"
    checkLimit manifest.totals.records limits.maxRecords "records"
    checkLimit manifest.totals.payloadBytes limits.maxPayloadBytes "payload bytes"
    match checkedAdd manifest.totals.partitionBookmarks manifest.totals.streamBookmarks with
    | none => .error (.limit "bookmarks")
    | some bookmarks => do
        checkLimit bookmarks limits.maxBookmarks "bookmarks"
        if manifest.totals.configuredDataGroups ≠ manifest.cut.data.size then
          .error (.inconsistent "configured data groups")
        else .ok ()

/-- A seekable reader; `digested` is what a `HashingReader` has fed to its digest. -/
structure Reader where
  bytes : Octets
  position : Nat
  digested : Option Octets
deriving DecidableEq

namespace Reader

def new (bytes : Octets) : Reader := ⟨bytes, 0, none⟩

def hashing (reader : Reader) (stop : Nat) : Reader := ⟨reader.bytes.take stop, 0, some []⟩

def seek (reader : Reader) (target : Nat) : Except VerifyError Reader :=
  match reader.digested with
  | none => .ok { reader with position := target }
  | some _ =>
      if target = reader.position then .ok reader
      else .error (.io "hashed input may only seek to its current position")

def readExact (reader : Reader) (amount : Nat) : Except VerifyError (Octets × Reader) :=
  let read := (reader.bytes.drop reader.position).take amount
  if read.length < amount then .error .truncated
  else .ok (read, { reader with
    position := reader.position + amount
    digested := reader.digested.map (· ++ read) })

end Reader

structure ExpectedSection where
  ordinal : Nat
  kind : SectionKindV1
  group : Option GroupId

def ExpectedSection.scope (expected : ExpectedSection) : String :=
  match expected.kind with
  | .control => "control section"
  | .dataGroup => "data section"

structure SectionHeader where
  kind : Nat
  version : Nat
  itemCount : Nat
  payloadLength : Nat
  payloadSha256 : Digest
deriving DecidableEq

def SectionDescriptorV1.header (descriptor : SectionDescriptorV1) : SectionHeader where
  kind := descriptor.kind.number
  version := descriptor.sectionVersion
  itemCount := descriptor.itemCount
  payloadLength := descriptor.payloadLength
  payloadSha256 := descriptor.payloadSha256

/-- The section header is cut from exactly 52 bytes, so its decoder needs no budget. -/
def sectionHeader (bytes : Octets) : SectionHeader where
  kind := ofOctets (bytes.take 2)
  version := ofOctets ((bytes.drop 2).take 2)
  itemCount := ofOctets ((bytes.drop 4).take 8)
  payloadLength := ofOctets ((bytes.drop 12).take 8)
  payloadSha256 := BitVec.ofNat 256 (ofOctets ((bytes.drop 20).take 32))

def readSection (sha256 : Octets → Digest) (reader : Reader) (descriptor : SectionDescriptorV1)
    (expected : ExpectedSection) (offset manifestOffset : Nat) (limits : ExportLimits) :
    Except VerifyError (Octets × Nat × Reader) :=
  if descriptor.ordinal ≠ expected.ordinal ∨ descriptor.fileOffset ≠ offset then
    .error (.nonCanonical "section descriptors")
  else if descriptor.kind ≠ expected.kind ∨ descriptor.group ≠ expected.group ∨
      descriptor.sectionVersion ≠ expected.kind.version then
    .error (.inconsistent "section order")
  else do
    let reader ← reader.seek offset
    let (bytes, reader) ← reader.readExact sectionHeaderBytes
    let header := sectionHeader bytes
    if header ≠ descriptor.header then .error (.inconsistent "section descriptor")
    else if header.payloadLength > limits.maxSectionBytes then .error (.limit "section bytes")
    else
      match (checkedAdd offset sectionHeaderBytes).bind (checkedAdd · header.payloadLength) with
      | none => .error (.limit "section bytes")
      | some payloadEnd =>
          if payloadEnd > manifestOffset then .error .truncated
          else do
            let (payload, reader) ← reader.readExact header.payloadLength
            if sha256 payload ≠ header.payloadSha256 then .error (.digest expected.scope)
            else pure (payload, payloadEnd, reader)

section
variable {τ ε : Type}

abbrev Visitor (τ ε : Type) := τ → VerifiedSectionV1 → Except ε τ

def verifying {α : Type} (result : Except VerifyError α) : Except (VisitError ε) α :=
  result.mapError .verify

def validating {α : Type} (result : Except ModelError α) : Except (VisitError ε) α :=
  result.mapError fun
    | .limit limit => .verify (.limit limit)
    | .nonCanonical field => .verify (.nonCanonical field)
    | .inconsistent field => .verify (.inconsistent field)

structure WalkState (τ : Type) where
  reader : Reader
  budget : DecodeBudget
  validation : DataValidation
  offset : Nat
  visitor : τ

def walkDataGroup (sha256 : Octets → Digest) (manifest : ExportManifestV1) (manifestOffset : Nat)
    (limits : ExportLimits) (context : ValidationContext) (catalog : CatalogValidation)
    (visitor : Visitor τ ε) (ordinal : Nat) (group : GroupId) (cut : GroupCut)
    (state : WalkState τ) : Except (VisitError ε) (WalkState τ) :=
  match manifest.sections[ordinal]? with
  | none => .error (.verify (.inconsistent "section count"))
  | some descriptor => do
      let (payload, nextOffset, reader) ← verifying (readSection sha256 state.reader descriptor
        ⟨ordinal, .dataGroup, some group⟩ state.offset manifestOffset limits)
      let (data, budget) ← verifying (decoded (decodeDataGroup limits) payload state.budget)
      if data.partitions.length ≠ descriptor.itemCount then
        .error (.verify (.inconsistent "data item count"))
      else do
        let validation ← validating
          (validateDataGroup context group cut data catalog limits state.validation)
        let visited ← (visitor state.visitor (.dataGroup data)).mapError .visitor
        pure ⟨reader, budget, validation, nextOffset, visited⟩

def walkDataGroups (sha256 : Octets → Digest) (manifest : ExportManifestV1) (manifestOffset : Nat)
    (limits : ExportLimits) (context : ValidationContext) (catalog : CatalogValidation)
    (visitor : Visitor τ ε) :
    Nat → List (GroupId × GroupCut) → WalkState τ → Except (VisitError ε) (WalkState τ)
  | _, [], state => .ok state
  | ordinal, (group, cut) :: rest, state => do
      let state ← walkDataGroup sha256 manifest manifestOffset limits context catalog visitor
        ordinal group cut state
      walkDataGroups sha256 manifest manifestOffset limits context catalog visitor (ordinal + 1)
        rest state

/-- `walk_sections`: the reader, the budget and the visitor's state as it leaves them. -/
def walkSections (sha256 : Octets → Digest) (reader : Reader) (manifest : ExportManifestV1)
    (manifestOffset : Nat) (limits : ExportLimits) (budget : DecodeBudget)
    (visitor : Visitor τ ε) (initial : τ) : Except (VisitError ε) (Reader × τ) :=
  match manifest.sections with
  | [] => .error (.verify (.inconsistent "section count"))
  | controlDescriptor :: _ =>
      if manifest.sections.length ≠ manifest.cut.data.size + 1 then
        .error (.verify (.inconsistent "section count"))
      else do
        let (controlPayload, nextOffset, reader) ← verifying (readSection sha256 reader
          controlDescriptor ⟨0, .control, none⟩ prologueBytes manifestOffset limits)
        let (control, budget) ← verifying (decoded (decodeControl limits) controlPayload budget)
        if control.streams.length ≠ controlDescriptor.itemCount then
          .error (.verify (.inconsistent "control item count"))
        else do
          let context := ValidationContext.fromManifest manifest control
          let catalog ← validating (validateControl context limits)
          let visited ← (visitor initial (.control control)).mapError .visitor
          let state ← walkDataGroups sha256 manifest manifestOffset limits context catalog visitor
            1 manifest.cut.data.toList ⟨reader, budget, .initial, nextOffset, visited⟩
          if state.offset ≠ manifestOffset then .error (.verify (.invalid "section extent"))
          else do
            let validation ← validating
              (finishValidation context catalog limits state.validation)
            if validation.totals ≠ manifest.totals then
              .error (.verify (.inconsistent "manifest totals"))
            else pure (state.reader, state.visitor)

end

structure VerifiedExport where
  reader : Reader
  inspection : ExportInspection
  limits : ExportLimits
  manifestOffset : Nat

def VerifiedExport.manifest (verified : VerifiedExport) : ExportManifestV1 :=
  verified.inspection.manifest

def VerifiedExport.artifact (verified : VerifiedExport) : ArtifactIdentity :=
  verified.inspection.artifact

structure Trailer where
  manifestOffset : Nat
  declaredLength : Nat
  expectedDigest : Digest
  magic : Octets

def trailer (bytes : Octets) : Trailer where
  manifestOffset := ofOctets (bytes.take 8)
  declaredLength := ofOctets ((bytes.drop 8).take 8)
  expectedDigest := BitVec.ofNat 256 (ofOctets ((bytes.drop 16).take 32))
  magic := (bytes.drop 48).take 8

/-- The prologue is cut from exactly 20 bytes: its required features. -/
def prologueFeatures (bytes : Octets) : Except VerifyError Nat :=
  if bytes.take 8 ≠ magicV1 then .error (.invalid "prologue magic")
  else if ofOctets ((bytes.drop 8).take 4) ≠ formatVersionV1 then
    .error (.unsupported "format version")
  else if ofOctets ((bytes.drop 12).take 8) ≠ requiredFeaturesV1 then
    .error (.unsupported "required feature bits")
  else .ok (ofOctets ((bytes.drop 12).take 8))

def readTrailer (reader : Reader) (limits : ExportLimits) :
    Except VerifyError (Trailer × Reader) :=
  let actualLength := reader.bytes.length
  if actualLength > limits.maxArtifactBytes then .error (.limit "artifact bytes")
  else if actualLength < prologueBytes + sectionHeaderBytes + 8 + trailerBytesV1 then
    .error .truncated
  else do
    let reader ← reader.seek (actualLength - trailerBytesV1)
    let (bytes, reader) ← reader.readExact trailerBytesV1
    let found := trailer bytes
    if found.magic ≠ trailerMagicV1 then .error (.invalid "trailer magic")
    else if found.declaredLength < actualLength then .error .trailingBytes
    else if found.declaredLength > actualLength then .error .truncated
    else if found.manifestOffset < prologueBytes ∨
        actualLength - trailerBytesV1 ≤ found.manifestOffset then
      .error (.invalid "manifest offset")
    else pure (found, reader)

def readManifest (reader : Reader) (limits : ExportLimits) (manifestOffset manifestEnd : Nat) :
    Except VerifyError (Octets × Octets × Reader) := do
  let reader ← reader.seek manifestOffset
  let (lengthBytes, reader) ← reader.readExact 8
  let manifestLength := ofOctets lengthBytes
  if manifestLength > limits.maxManifestBytes then .error (.limit "manifest bytes")
  else
    match (checkedAdd manifestOffset 8).bind (checkedAdd · manifestLength) with
    | none => .error (.limit "manifest bytes")
    | some expectedEnd =>
        if expectedEnd < manifestEnd then .error (.invalid "manifest length")
        else if manifestEnd < expectedEnd then .error .truncated
        else do
          let (manifestBytes, reader) ← reader.readExact manifestLength
          pure (lengthBytes, manifestBytes, reader)

/-- `verify`, which is `verify_cancellable` with a caller that never cancels. -/
def verify (sha256 : Octets → Digest) (reader : Reader) (limits : ExportLimits) :
    Except VerifyError VerifiedExport := do
  let (found, reader) ← readTrailer reader limits
  let actualLength := reader.bytes.length
  let manifestEnd := actualLength - trailerBytesV1
  let (lengthBytes, manifestBytes, reader) ← readManifest reader limits found.manifestOffset
    manifestEnd
  let (manifest, budget) ← decoded (decodeManifest limits) manifestBytes (.new limits)
  validateManifest manifest limits
  let reader ← reader.seek 0
  let hashing := reader.hashing manifestEnd
  let (prologue, hashing) ← hashing.readExact prologueBytes
  let features ← prologueFeatures prologue
  if manifest.requiredFeatures ≠ features then .error (.inconsistent "required feature bits")
  else
    match walkSections sha256 hashing manifest found.manifestOffset limits budget
        (fun _ _ => (.ok () : Except Empty Unit)) () with
    | .error (.verify error) => .error error
    | .ok (hashing, _) => do
        let (verifiedLengthBytes, hashing) ← hashing.readExact 8
        if verifiedLengthBytes ≠ lengthBytes then .error (.digest "artifact")
        else do
          let (compared, hashing) ← hashing.readExact manifestBytes.length
          if compared ≠ manifestBytes then .error (.digest "artifact")
          else if sha256 (hashing.digested.getD []) ≠ found.expectedDigest then
            .error (.digest "artifact")
          else if nonempty : actualLength = 0 then .error (.invalid "artifact identity")
          else pure {
            reader := { reader with position := hashing.position }
            limits
            manifestOffset := found.manifestOffset
            inspection := {
              artifact := ⟨actualLength, found.expectedDigest.toNat, nonempty⟩
              manifest
              sections := manifest.sections
              artifactDigestCoverage := ⟨0, manifestEnd⟩ } }

/-- `visit_sections`, with the visitor's final state in place of the reader it returns. -/
def VerifiedExport.visitSections {τ ε : Type} (verified : VerifiedExport)
    (sha256 : Octets → Digest) (visitor : Visitor τ ε) (initial : τ) :
    Except (VisitError ε) τ :=
  (walkSections sha256 verified.reader verified.inspection.manifest verified.manifestOffset
    verified.limits (.new verified.limits) visitor initial).map Prod.snd

end LightStream.Export
