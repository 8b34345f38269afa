import LightStream.Core.Identity
import LightStream.Disk.Program

/-!
The snapshot transfer of `peer.rs`: the receiver's `begin_snapshot`, `put_snapshot_chunk`
and `finish_snapshot` over the three files of one transfer, and the sender's
`full_snapshot`.  Authentication and the checks of the target group come before the
transfer lock and are left out.  JSON, CRC-32 and SHA-256 are parameters.
-/

namespace LightStream

def snapshotChunkBytes : Nat := 1024 * 1024

inductive PeerStatus where
  | invalidArgument (message : String)
  | internal (message : String)
  | alreadyExists (message : String)
  | failedPrecondition (message : String)
  | resourceExhausted (message : String)
  | dataLoss (message : String)
  | permissionDenied (message : String)
deriving DecidableEq

/-- The files of one transfer in the incoming directory: `snapshot_paths`, and the
temporary file of `write_snapshot_progress`. -/
inductive SnapshotFile where
  | intent
  | part
  | progress
  | temporary
deriving DecidableEq

structure SnapshotIdentity where
  clusterId : String
  groupId : Nat
  senderNodeId : Nat
  targetNodeId : Nat
  transferId : String
deriving DecidableEq

structure SnapshotIntent where
  identity : SnapshotIdentity
  voteJson : Disk.Bytes
  metaJson : Disk.Bytes
  byteLen : Nat
  sha256 : Disk.Bytes
deriving DecidableEq

structure SnapshotCodec where
  intentBytes : SnapshotIntent → Disk.Bytes
  parseIntent : Disk.Bytes → Option SnapshotIntent
  progressBytes : Nat → Disk.Bytes
  parseProgress : Disk.Bytes → Option Nat
  crc32 : Disk.Bytes → Nat
  sha256 : Disk.Bytes → Disk.Bytes

abbrev StageFiles := Disk.Files SnapshotFile

abbrev StageProgram (α : Type) := Disk.Program SnapshotFile PeerStatus α

section Stage

variable (codec : SnapshotCodec)

def readFile (name : SnapshotFile) : StageProgram Disk.Bytes := Disk.look fun files =>
  match files name with
  | none => .error (.internal "No such file or directory")
  | some file => .ok file.current

def readSnapshotProgress : StageProgram Nat := do
  let bytes ← readFile .progress
  match codec.parseProgress bytes with
  | none => Disk.fail (.internal "invalid progress")
  | some offset => pure offset

def readSnapshotIntent : StageProgram SnapshotIntent := do
  let bytes ← readFile .intent
  match codec.parseIntent bytes with
  | none => Disk.fail (.internal "invalid intent")
  | some intent => pure intent

def writeSnapshotProgress (offset : Nat) : StageProgram Unit := do
  Disk.createTruncated .temporary
  Disk.writeAt .temporary 0 (codec.progressBytes offset)
  Disk.sync .temporary
  Disk.rename .temporary .progress
  Disk.syncDirectory

def resetSnapshotStage : StageProgram Unit := do
  Disk.createTruncated .part
  Disk.sync .part
  writeSnapshotProgress codec 0

def progressExists : StageProgram Bool := Disk.look fun files => .ok (files .progress).isSome

/-- A stage without a progress file starts at zero. -/
def startSnapshotProgress : StageProgram Unit := do
  let found ← progressExists
  if found then pure ()
  else
    Disk.sync .part
    writeSnapshotProgress codec 0

def recoverSnapshotStage (byteLen : Nat) : StageProgram Nat := do
  Disk.create .part
  startSnapshotProgress codec
  let offset ← readSnapshotProgress codec
  let part ← readFile .part
  if offset > byteLen ∨ offset > part.length then
    resetSnapshotStage codec
    pure 0
  else if part.length > offset then
    Disk.setLen .part offset
    Disk.sync .part
    pure offset
  else pure offset

def removeSnapshotStage : StageProgram Unit := do
  Disk.remove .intent
  Disk.remove .part
  Disk.remove .progress

def intentFile : StageProgram (Option Disk.Bytes) := Disk.look fun files =>
  .ok ((files .intent).map Disk.File.current)

/-- `remove_abandoned_snapshot_stages`, for this transfer: `aged` tells whether its intent
is at least `ABANDONED_SNAPSHOT_AGE` old. -/
def removeAbandonedSnapshotStage (aged : Bool) : StageProgram Unit := do
  let found ← intentFile
  if found.isSome ∧ aged then removeSnapshotStage else pure ()

def createIntent (intent : SnapshotIntent) : StageProgram Unit := do
  Disk.create .intent
  Disk.writeAt .intent 0 (codec.intentBytes intent)
  Disk.sync .intent
  Disk.syncDirectory

def adoptIntent (intent : SnapshotIntent) : StageProgram Unit := do
  let found ← intentFile
  match found with
  | none => createIntent codec intent
  | some bytes =>
    match codec.parseIntent bytes with
    | none => Disk.fail (.internal "invalid intent")
    | some existing =>
      if existing = intent then pure ()
      else Disk.fail (.alreadyExists "snapshot transfer ID has another descriptor")

def beginSnapshot (intent : SnapshotIntent) (aged : Bool) : StageProgram Nat := do
  if intent.sha256.length ≠ 32 then
    Disk.fail (.invalidArgument "snapshot descriptor has an invalid digest")
  else
    removeAbandonedSnapshotStage aged
    adoptIntent codec intent
    recoverSnapshotStage codec intent.byteLen

structure SnapshotChunk where
  identity : SnapshotIdentity
  offset : Nat
  data : Disk.Bytes
  crc32 : Nat
deriving DecidableEq

def validateSnapshotIntent (identity : SnapshotIdentity) (intent : SnapshotIntent) :
    StageProgram Unit :=
  if intent.identity = identity then pure ()
  else Disk.fail
    (.permissionDenied "snapshot identity conflicts with the durable transfer intent")

def putSnapshotChunk (chunk : SnapshotChunk) : StageProgram Nat := do
  if chunk.data = [] ∨ chunk.data.length > snapshotChunkBytes then
    Disk.fail (.resourceExhausted "snapshot chunk is empty or oversized")
  else if codec.crc32 chunk.data ≠ chunk.crc32 then
    Disk.fail (.dataLoss "snapshot chunk checksum mismatch")
  else
    let intent ← readSnapshotIntent codec
    validateSnapshotIntent chunk.identity intent
    let part ← readFile .part
    let offset ← readSnapshotProgress codec
    if chunk.offset ≠ offset ∨ part.length ≠ offset then
      Disk.fail (.failedPrecondition "snapshot chunk offset does not match the durable offset")
    else
      match checkedAdd offset chunk.data.length with
      | none => Disk.fail (.resourceExhausted "snapshot offset overflow")
      | some next =>
        if next > intent.byteLen then
          Disk.fail (.resourceExhausted "snapshot chunk exceeds the declared artifact")
        else
          Disk.writeAt .part offset chunk.data
          Disk.sync .part
          writeSnapshotProgress codec next
          pure next

/-- The checks of `finish_snapshot`: the intent and the bytes it hands to the state
machine. -/
def verifySnapshot (identity : SnapshotIdentity) : StageProgram (SnapshotIntent × Disk.Bytes) := do
  let intent ← readSnapshotIntent codec
  validateSnapshotIntent identity intent
  let part ← readFile .part
  let offset ← readSnapshotProgress codec
  if offset ≠ intent.byteLen ∨ part.length ≠ intent.byteLen ∨
      codec.sha256 part ≠ intent.sha256 then
    resetSnapshotStage codec
    Disk.fail (.dataLoss "snapshot length or digest does not match its descriptor")
  else pure (intent, part)

/-- What `install_received_snapshot` does: it completes, it is refused, or the request is
dropped while it waits. -/
inductive Installation where
  | completed
  | refused (status : PeerStatus)
  | dropped
deriving DecidableEq

def finishSnapshot (identity : SnapshotIdentity) (installation : Installation) :
    StageProgram Nat := do
  let verified ← verifySnapshot codec identity
  match installation with
  | .completed =>
    removeSnapshotStage
    pure verified.1.byteLen
  | .refused status => Disk.fail status
  | .dropped => Disk.fail (.internal "request dropped")

end Stage

section Sender

variable (codec : SnapshotCodec) (intent : SnapshotIntent) (artifact : Disk.Bytes)

def chunkAt (offset : Nat) : SnapshotChunk :=
  let data := (artifact.drop offset).take snapshotChunkBytes
  ⟨intent.identity, offset, data, codec.crc32 data⟩

/-- The chunk loop of `full_snapshot`.  The end of a chunk always passes its offset while
lengths are 64-bit values; the last branch is never taken. -/
def sendChunks (offset : Nat) : StageProgram Unit :=
  if _ : offset < artifact.length then do
    let stop := min (saturatingAdd offset snapshotChunkBytes) artifact.length
    let returned ← putSnapshotChunk codec (chunkAt codec intent artifact offset)
    if returned ≠ stop then
      Disk.fail (.internal "receiver returned an invalid snapshot offset")
    else if _ : offset < stop then sendChunks stop
    else Disk.fail (.internal "receiver returned an invalid snapshot offset")
  else pure ()
termination_by artifact.length - offset
decreasing_by omega

/-- The sender's `full_snapshot`, with a receiver that answers every request. -/
def fullSnapshot (aged : Bool) (installation : Installation) : StageProgram Nat := do
  let offset ← beginSnapshot codec intent aged
  if offset > artifact.length then
    Disk.fail (.internal "receiver snapshot offset exceeds the artifact")
  else
    sendChunks codec intent artifact offset
    finishSnapshot codec intent.identity installation

end Sender

end LightStream
