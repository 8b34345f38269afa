import LightStream.Codec.Tape
import LightStream.Core.Identity

/-!
The bytes of a snapshot artifact in format 3: the writer that seals them, the decoder that works
on a slice, and the reader that streams them from a file with a running digest.
-/

namespace LightStream.SnapshotV3

open Codec

def snapshotV3Magic : Octets := [0x4c, 0x53, 0x4e, 0x50, 0x30, 0x30, 0x30, 0x33]

def snapshotV3Footer : Octets := [0x4c, 0x53, 0x4e, 0x46, 0x30, 0x30, 0x30, 0x33]

def snapshotV3Format : Nat := 3

def stateRecord : UInt8 := 1

def payloadRecord : UInt8 := 2

def maxSnapshotFrameBytes : Nat := 8 * 1024 * 1024

def Digest : Type := { bytes : Octets // bytes.length = 32 }

instance : DecidableEq Digest :=
  inferInstanceAs (DecidableEq { bytes : Octets // bytes.length = 32 })

structure Hashes where
  crc32 : Octets → UInt32
  sha256 : Octets → Digest

/-- How a call ends when it does not return: an error with its message, the end of the file, a
panic, or a loop that is still running when its fuel is spent. -/
inductive Fault where
  | other (message : String)
  | unexpectedEof
  | panic
  | unfinished
deriving DecidableEq

inductive SnapshotRecord where
  | state (key value : Octets)
  | payload (key value : Octets)
deriving DecidableEq

structure Header where
  storageFormatVersion : UInt32
  identityJson : Octets
  metaJson : Octets
deriving DecidableEq

structure DecodedSnapshotV3 where
  header : Header
  state : List (Octets × Octets)
  payloads : List (Octets × Octets)
deriving DecidableEq

/-- A frame, or the header, followed by the checksum of its bytes. -/
def sealed (hashes : Hashes) (body : Octets) : Octets :=
  body ++ toOctets 4 (hashes.crc32 body).toNat

/-! The writer -/

/-- The files of the object directory, each under the digest that names it. -/
structure SnapshotCatalog where
  objects : Digest → Option Octets

structure SnapshotArtifact where
  file : Octets
  byteLen : Nat
  digest : Digest

structure SnapshotArtifactWriter where
  file : Octets
  digest : Octets
  byteLen : Nat
  stateCount : Nat
  payloadCount : Nat

def tryFromInt (value max : Nat) : Except Fault Nat :=
  if value ≤ max then .ok value
  else .error (.other "out of range integral type conversion attempted")

def checkedAdd (value increment : Nat) (message : String) : Except Fault Nat :=
  if value + increment ≤ u64Max then .ok (value + increment) else .error (.other message)

def headerBody (header : Header) : Octets :=
  snapshotV3Magic ++ toOctets 4 snapshotV3Format ++
    toOctets 4 header.storageFormatVersion.toNat ++ toOctets 4 header.identityJson.length ++
    toOctets 4 header.metaJson.length ++ header.identityJson ++ header.metaJson

def frameBody (tag : UInt8) (key value : Octets) : Octets :=
  tag :: toOctets 4 key.length ++ toOctets 8 value.length ++ key ++ value

def footerBody (stateCount payloadCount : Nat) (bodyDigest : Digest) : Octets :=
  snapshotV3Footer ++ toOctets 8 stateCount ++ toOctets 8 payloadCount ++ bodyDigest.val

def openVerified (file : Octets) (byteLen : Nat) (digest : Digest) :
    Except Fault SnapshotArtifact :=
  if file.length ≠ byteLen then
    .error (.other "snapshot artifact length does not match its descriptor")
  else .ok ⟨file, byteLen, digest⟩

def verifyFile (hashes : Hashes) (file : Octets) (byteLen : Nat) (digest : Digest) :
    Except Fault Unit :=
  if file.length ≠ byteLen then .error (.other "snapshot artifact length mismatch")
  else if hashes.sha256 file ≠ digest then .error (.other "snapshot artifact digest mismatch")
  else .ok ()

namespace SnapshotArtifactWriter

def writeHashed (writer : SnapshotArtifactWriter) (bytes : Octets) :
    Except Fault SnapshotArtifactWriter := do
  let byteLen ← checkedAdd writer.byteLen bytes.length "snapshot artifact length overflow"
  pure { writer with file := writer.file ++ bytes, digest := writer.digest ++ bytes, byteLen }

def writeRecord (hashes : Hashes) (writer : SnapshotArtifactWriter) (tag : UInt8)
    (key value : Octets) : Except Fault SnapshotArtifactWriter := do
  let keyLen ← tryFromInt key.length (2 ^ 32 - 1)
  let valueLen ← tryFromInt value.length u64Max
  let header := tag :: toOctets 4 keyLen ++ toOctets 8 valueLen
  let writer ← writer.writeHashed header
  let writer ← writer.writeHashed key
  let writer ← writer.writeHashed value
  writer.writeHashed (toOctets 4 (hashes.crc32 (header ++ key ++ value)).toNat)

def writeState (hashes : Hashes) (writer : SnapshotArtifactWriter) (entry : Octets × Octets) :
    Except Fault SnapshotArtifactWriter := do
  let writer ← writer.writeRecord hashes stateRecord entry.1 entry.2
  let stateCount ← checkedAdd writer.stateCount 1 "snapshot state count overflow"
  pure { writer with stateCount }

def writePayload (hashes : Hashes) (writer : SnapshotArtifactWriter) (entry : Octets × Octets) :
    Except Fault SnapshotArtifactWriter := do
  let writer ← writer.writeRecord hashes payloadRecord entry.1 entry.2
  let payloadCount ← checkedAdd writer.payloadCount 1 "snapshot payload count overflow"
  pure { writer with payloadCount }

/-- Seals the artifact.  A file that already has the digest's name is verified and stands for
the one just written. -/
def finish (hashes : Hashes) (catalog : SnapshotCatalog) (writer : SnapshotArtifactWriter) :
    Except Fault SnapshotArtifact := do
  let bodyDigest := hashes.sha256 writer.digest
  let footer := footerBody writer.stateCount writer.payloadCount bodyDigest
  let writer ← writer.writeHashed (footer ++ toOctets 4 (hashes.crc32 footer).toNat)
  let digest := hashes.sha256 writer.digest
  match catalog.objects digest with
  | none => openVerified writer.file writer.byteLen digest
  | some stored => do
      verifyFile hashes stored writer.byteLen digest
      openVerified stored writer.byteLen digest

end SnapshotArtifactWriter

def beginArtifact (hashes : Hashes) (header : Header) : Except Fault SnapshotArtifactWriter := do
  let writer : SnapshotArtifactWriter := ⟨[], [], 0, 0, 0⟩
  let identityLen ← tryFromInt header.identityJson.length (2 ^ 32 - 1)
  let metaLen ← tryFromInt header.metaJson.length (2 ^ 32 - 1)
  let bytes := snapshotV3Magic ++ toOctets 4 snapshotV3Format ++
    toOctets 4 header.storageFormatVersion.toNat ++ toOctets 4 identityLen ++
    toOctets 4 metaLen ++ header.identityJson ++ header.metaJson
  writer.writeHashed (bytes ++ toOctets 4 (hashes.crc32 bytes).toNat)

/-- Builds an artifact: its header, the state records, the payload records, the footer. -/
def writeSnapshot (hashes : Hashes) (catalog : SnapshotCatalog) (snapshot : DecodedSnapshotV3) :
    Except Fault SnapshotArtifact := do
  let writer ← beginArtifact hashes snapshot.header
  let writer ← snapshot.state.foldlM (SnapshotArtifactWriter.writeState hashes) writer
  let writer ← snapshot.payloads.foldlM (SnapshotArtifactWriter.writePayload hashes) writer
  writer.finish hashes catalog

/-! The decoder of a slice -/

structure ByteCursor where
  bytes : Octets
  offset : Nat

abbrev Cursor := StateT ByteCursor (Except Fault)

namespace ByteCursor

def remaining (cursor : ByteCursor) : Octets := cursor.bytes.drop cursor.offset

def since (start : Nat) (cursor : ByteCursor) : Octets :=
  (cursor.bytes.take cursor.offset).drop start

def take (len : Nat) : Cursor Octets := fun cursor =>
  -- A sum that leaves the machine word is past the slice as well.
  if cursor.offset + len ≤ cursor.bytes.length then
    .ok (cursor.remaining.take len, { cursor with offset := cursor.offset + len })
  else .error (.other "snapshot artifact frame is truncated")

def expect (expected : Octets) : Cursor Unit := do
  let value ← take expected.length
  refuse (value ≠ expected) (.other "snapshot artifact magic mismatch")

def readU8 : Cursor UInt8 := octet take .panic

def readU32 : Cursor Nat := number take 4

def readU64 : Cursor Nat := number take 8

def checkFinished : Cursor Unit := fun cursor =>
  if cursor.offset = cursor.bytes.length then .ok ((), cursor)
  else .error (.other "snapshot artifact has trailing bytes")

end ByteCursor

open ByteCursor in
def decodeHeader (hashes : Hashes) : Cursor Header := do
  expect snapshotV3Magic
  let format ← readU32
  refuse (format ≠ snapshotV3Format) (.other "unsupported streamed snapshot artifact version")
  let storageFormatVersion ← readU32
  let identityLen ← readU32
  let metaLen ← readU32
  let identityJson ← ByteCursor.take identityLen
  let metaJson ← ByteCursor.take metaLen
  let header ← view (since 0)
  let expectedHeaderCrc ← readU32
  refuse ((hashes.crc32 header).toNat ≠ expectedHeaderCrc)
    (.other "snapshot artifact header checksum mismatch")
  pure ⟨UInt32.ofNat storageFormatVersion, identityJson, metaJson⟩

open ByteCursor in
def decodeFooter (hashes : Hashes) (states payloads : Nat) : Cursor Unit := do
  let body ← view (since 0)
  let footerStart ← view ByteCursor.offset
  expect snapshotV3Footer
  let stateCount ← readU64
  let payloadCount ← readU64
  let expectedBodyDigest ← ByteCursor.take 32
  let footer ← view (since footerStart)
  let expectedFooterCrc ← readU32
  refuse ((hashes.crc32 footer).toNat ≠ expectedFooterCrc)
    (.other "snapshot artifact footer checksum mismatch")
  refuse ((hashes.sha256 body).val ≠ expectedBodyDigest)
    (.other "snapshot artifact body digest mismatch")
  refuse (stateCount ≠ states ∨ payloadCount ≠ payloads)
    (.other "snapshot artifact record counts mismatch")

structure Frame where
  tag : UInt8
  key : Octets
  value : Octets

open ByteCursor in
def decodeFrame (hashes : Hashes) : Cursor Frame := do
  let recordStart ← view ByteCursor.offset
  let tag ← readU8
  let keyLen ← readU32
  let valueLen ← readU64
  let key ← ByteCursor.take keyLen
  let value ← ByteCursor.take valueLen
  let frame ← view (since recordStart)
  let expectedCrc ← readU32
  refuse ((hashes.crc32 frame).toNat ≠ expectedCrc)
    (.other "snapshot artifact record checksum mismatch")
  pure ⟨tag, key, value⟩

structure DecodeLoop where
  state : List (Octets × Octets)
  payloads : List (Octets × Octets)
  lastState : Option Octets
  lastPayload : Option Octets

def DecodeLoop.admitFrame (loop : DecodeLoop) (frame : Frame) : Except Fault DecodeLoop :=
  if frame.tag = stateRecord then
    if loop.payloads ≠ [] ∨ loop.lastState.any (fun previous => decide (previous ≥ frame.key)) then
      .error (.other "snapshot state records are not strictly ordered")
    else .ok { loop with
      lastState := some frame.key, state := loop.state ++ [(frame.key, frame.value)] }
  else if frame.tag = payloadRecord then
    if loop.lastPayload.any (fun previous => decide (previous ≥ frame.key)) then
      .error (.other "snapshot payload records are not strictly ordered")
    else .ok { loop with
      lastPayload := some frame.key, payloads := loop.payloads ++ [(frame.key, frame.value)] }
  else .error (.other "unknown snapshot artifact record tag")

def decodeRecords (hashes : Hashes) : Nat → DecodeLoop → Cursor DecodeLoop
  | 0, _ => throw .unfinished
  | fuel + 1, loop => do
      let remaining ← view ByteCursor.remaining
      if snapshotV3Footer.isPrefixOf remaining then
        decodeFooter hashes loop.state.length loop.payloads.length
        ByteCursor.checkFinished
        pure loop
      else
        let frame ← decodeFrame hashes
        let loop ← loop.admitFrame frame
        decodeRecords hashes fuel loop

def decodeSnapshotV3 (hashes : Hashes) (bytes : Octets) :
    Except Fault (Option DecodedSnapshotV3) :=
  if snapshotV3Magic.isPrefixOf bytes then do
    let (header, cursor) ← decodeHeader hashes ⟨bytes, 0⟩
    let (loop, _) ← decodeRecords hashes (bytes.length + 1) ⟨[], [], none, none⟩ cursor
    pure (some ⟨header, loop.state, loop.payloads⟩)
  else pure none

/-! The streaming reader -/

/-- `remaining` is what the file still holds, `bodyDigest` the bytes fed to the digest. -/
structure SnapshotArtifactReader where
  remaining : Octets
  bodyDigest : Octets
  header : Header
  stateCount : Nat
  payloadCount : Nat
  lastState : Option Octets
  lastPayload : Option Octets
  finished : Bool

abbrev Stream := StateT SnapshotArtifactReader (Except Fault)

namespace SnapshotArtifactReader

def readExact (len : Nat) : Stream Octets := fun reader =>
  if len ≤ reader.remaining.length then
    .ok (reader.remaining.take len, { reader with remaining := reader.remaining.drop len })
  else .error .unexpectedEof

def updateDigest (bytes : Octets) : Stream Unit := fun reader =>
  .ok ((), { reader with bodyDigest := reader.bodyDigest ++ bytes })

def readBody (len : Nat) : Stream Octets := do
  let bytes ← readExact len
  updateDigest bytes
  pure bytes

def readBodyU32 (capture : Octets) : Stream (Nat × Octets) := do
  let bytes ← readBody 4
  pure (ofOctets bytes, capture ++ bytes)

def readU32 : Stream Nat := number readExact 4

def readU64 : Stream Nat := number readExact 8

def addWords (first second : Nat) : Stream Nat :=
  if first + second ≤ u64Max then pure (first + second) else throw .panic

def readHeader (hashes : Hashes) : Stream Header := do
  let magic ← readBody 8
  refuse (magic ≠ snapshotV3Magic) (.other "streaming snapshot reader requires LSNP0003")
  let (format, header) ← readBodyU32 magic
  refuse (format ≠ snapshotV3Format) (.other "unsupported streamed snapshot artifact version")
  let (storageFormatVersion, header) ← readBodyU32 header
  let (identityLen, header) ← readBodyU32 header
  let (metaLen, header) ← readBodyU32 header
  let announced ← addWords identityLen metaLen
  refuse (announced > maxSnapshotFrameBytes) (.other "snapshot artifact header is oversized")
  let identityJson ← readBody identityLen
  let metaJson ← readBody metaLen
  let (expectedCrc, _) ← readBodyU32 []
  refuse ((hashes.crc32 (header ++ identityJson ++ metaJson)).toNat ≠ expectedCrc)
    (.other "snapshot artifact header checksum mismatch")
  pure ⟨UInt32.ofNat storageFormatVersion, identityJson, metaJson⟩

def openFile (hashes : Hashes) (file : Octets) : Except Fault SnapshotArtifactReader := do
  let value : SnapshotArtifactReader := ⟨file, [], ⟨0, [], []⟩, 0, 0, none, none, false⟩
  let (header, value) ← readHeader hashes value
  pure { value with header }

def readFooter (hashes : Hashes) (first : UInt8) : Stream Unit := do
  let rest ← readExact 7
  let footerMagic := first :: rest
  refuse (footerMagic ≠ snapshotV3Footer) (.other "snapshot artifact footer magic mismatch")
  let stateCount ← readU64
  let payloadCount ← readU64
  let expectedBody ← readExact 32
  let expectedFooterCrc ← readU32
  let footer := footerMagic ++ toOctets 8 stateCount ++ toOctets 8 payloadCount ++ expectedBody
  refuse ((hashes.crc32 footer).toNat ≠ expectedFooterCrc)
    (.other "snapshot artifact footer checksum mismatch")
  let bodyDigest ← view SnapshotArtifactReader.bodyDigest
  refuse ((hashes.sha256 bodyDigest).val ≠ expectedBody)
    (.other "snapshot artifact body digest mismatch")
  let states ← view SnapshotArtifactReader.stateCount
  let payloads ← view SnapshotArtifactReader.payloadCount
  refuse (stateCount ≠ states ∨ payloadCount ≠ payloads)
    (.other "snapshot artifact record counts mismatch")

/-- A read of one byte that takes none at the end of the file. -/
def readTrailing : Stream Octets := fun reader =>
  .ok (reader.remaining.take 1, { reader with remaining := reader.remaining.drop 1 })

def setFinished : Stream Unit := fun reader => .ok ((), { reader with finished := true })

def readFrame (hashes : Hashes) (tag : UInt8) : Stream Frame := do
  let header ← readBody 12
  let keyLen := ofOctets (header.take 4)
  let valueLen := ofOctets (header.drop 4)
  refuse (keyLen + valueLen > u64Max ∨ keyLen + valueLen > maxSnapshotFrameBytes)
    (.other "snapshot artifact record is oversized")
  let key ← readBody keyLen
  let value ← readBody valueLen
  let (expectedCrc, _) ← readBodyU32 []
  refuse ((hashes.crc32 (tag :: header ++ key ++ value)).toNat ≠ expectedCrc)
    (.other "snapshot artifact record checksum mismatch")
  pure ⟨tag, key, value⟩

def increment (count : Nat) : Except Fault Nat :=
  if count + 1 ≤ u64Max then .ok (count + 1) else .error .panic

def admitFrame (frame : Frame) : Stream SnapshotRecord := fun reader =>
  if frame.tag = stateRecord then
    if reader.payloadCount ≠ 0 ∨
        reader.lastState.any (fun previous => decide (previous ≥ frame.key)) then
      .error (.other "snapshot state records are not strictly ordered")
    else do
      let stateCount ← increment reader.stateCount
      pure (.state frame.key frame.value, { reader with lastState := some frame.key, stateCount })
  else if frame.tag = payloadRecord then
    if reader.lastPayload.any (fun previous => decide (previous ≥ frame.key)) then
      .error (.other "snapshot payload records are not strictly ordered")
    else do
      let payloadCount ← increment reader.payloadCount
      pure (.payload frame.key frame.value,
        { reader with lastPayload := some frame.key, payloadCount })
  else .error (.other "unknown snapshot artifact record tag")

def nextRecord (hashes : Hashes) : Stream (Option SnapshotRecord) := do
  let finished ← view SnapshotArtifactReader.finished
  if finished then pure none
  else
    let first ← octet readExact .panic
    if some first = snapshotV3Footer.head? then
      readFooter hashes first
      let trailing ← readTrailing
      refuse (trailing ≠ []) (.other "snapshot artifact has trailing bytes")
      setFinished
      pure none
    else
      updateDigest [first]
      let frame ← readFrame hashes first
      let record ← admitFrame frame
      pure (some record)

def readRecords (hashes : Hashes) : Nat → Stream (List SnapshotRecord)
  | 0 => throw .unfinished
  | fuel + 1 => do
      match ← nextRecord hashes with
      | none => pure []
      | some record => do
          let records ← readRecords hashes fuel
          pure (record :: records)

end SnapshotArtifactReader

structure Streamed where
  header : Header
  records : List SnapshotRecord
deriving DecidableEq

open SnapshotArtifactReader in
def readSnapshot (hashes : Hashes) (file : Octets) : Except Fault Streamed := do
  let reader ← openFile hashes file
  let (records, reader) ← readRecords hashes (file.length + 1) reader
  pure ⟨reader.header, records⟩

end LightStream.SnapshotV3
