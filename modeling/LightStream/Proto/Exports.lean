import LightStream.Codec.Binary
import LightStream.Core.ExportWire
import LightStream.Proto.Convert

/-! The conversions of export artifacts and export statuses in `convert.rs`. -/

namespace LightStream

open Sha256 (Octets)

structure ExportArtifactWire where
  length : Nat
  sha256 : Octets
deriving DecidableEq

def bytes32 (value : Octets) (kind : String) : Except DomainError Octets :=
  if value.length = 32 then .ok value
  else .error (.invalidPayload s!"{kind} must be exactly 32 bytes, got {value.length}")

def exportArtifactToWire (artifact : ArtifactIdentity) : ExportArtifactWire :=
  ⟨artifact.length, Codec.toOctets 32 artifact.sha256⟩

def exportArtifactFromWire (artifact : ExportArtifactWire) : Except DomainError ArtifactIdentity := do
  let sha256 ← bytes32 artifact.sha256 "export artifact sha256"
  ArtifactIdentity.new artifact.length (Codec.ofOctets sha256)

structure ActiveExportViewWire where
  exportId : String
  epoch : Nat
  phase : String
deriving DecidableEq

structure ExportReceiptViewWire where
  requestId : Option MutationRequestWire
  exportId : String
  epoch : Nat
  requestDigest : Octets
  deadlineLowerUnixMs : Nat
  deadlineUpperUnixMs : Nat
  disposition : String
  artifact : Option ExportArtifactWire
  abortReason : String
deriving DecidableEq

/-- The state of an `ExportStatusView`, which may be missing. -/
inductive ExportStateWire where
  | active (view : ActiveExportViewWire)
  | terminal (view : ExportReceiptViewWire)
deriving DecidableEq

namespace Convert

variable (texts : IdTexts)

def exportPhaseToWire : ExportStatusPhase → String
  | .preparing => "preparing"
  | .frozen => "frozen"
  | .materializing => "materializing"
  | .available => "available"
  | .releasing => "releasing"
  | .aborting => "aborting"

def exportPhaseFromWire (value : String) : Except DomainError ExportStatusPhase :=
  match value with
  | "preparing" => .ok .preparing
  | "frozen" => .ok .frozen
  | "materializing" => .ok .materializing
  | "available" => .ok .available
  | "releasing" => .ok .releasing
  | "aborting" => .ok .aborting
  | value => .error (.invalidName "export phase" s!"unknown export phase {reprStr value}")

def exportAbortReasonToWire : ExportAbortReason → String
  | .operatorRequested => "operator_requested"
  | .deadlineExceeded => "deadline_exceeded"
  | .materializationFailed => "materialization_failed"

def exportAbortReasonFromWire (value : String) : Except DomainError ExportAbortReason :=
  match value with
  | "operator_requested" => .ok .operatorRequested
  | "deadline_exceeded" => .ok .deadlineExceeded
  | "materialization_failed" => .ok .materializationFailed
  | value =>
      .error (.invalidName "export abort reason" s!"unknown export abort reason {reprStr value}")

inductive ExportTerminalDisposition where
  | completed
  | aborted
deriving DecidableEq

def disposition : ExportReceiptOutcome → ExportTerminalDisposition
  | .completed _ => .completed
  | .aborted _ => .aborted

def exportDispositionToWire : ExportTerminalDisposition → String
  | .completed => "completed"
  | .aborted => "aborted"

def exportDispositionFromWire (value : String) : Except DomainError ExportTerminalDisposition :=
  match value with
  | "completed" => .ok .completed
  | "aborted" => .ok .aborted
  | value =>
      .error (.invalidName "export disposition" s!"unknown export disposition {reprStr value}")

def exportReceiptToWire (receipt : ExportReceipt) : ExportReceiptViewWire :=
  let (artifact, abortReason) := match receipt.outcome with
    | .completed artifact => (some (exportArtifactToWire artifact), "")
    | .aborted reason => (none, exportAbortReasonToWire reason)
  let (lower, upper) := match receipt.deadline with
    | some deadline => (deadline.lowerBound, deadline.upperBound)
    | none => (0, 0)
  { requestId := some (mutationRequestIdToWire texts receipt.request)
    exportId := texts.exportId.write ⟨receipt.requestDigest⟩
    epoch := receipt.epoch.value
    requestDigest := texts.digestBytes receipt.requestDigest
    deadlineLowerUnixMs := lower
    deadlineUpperUnixMs := upper
    disposition := exportDispositionToWire (disposition receipt.outcome)
    artifact
    abortReason }

def exportStatusToWire : ExportStatus → Option ExportStateWire
  | .active exportId epoch phase =>
      some (.active ⟨texts.exportId.write exportId, epoch.value, exportPhaseToWire phase⟩)
  | .terminal receipt => some (.terminal (exportReceiptToWire texts receipt))

/-- `serde_json::from_value` of an active status, whose three fields it reads one by one. -/
def activeStatusFromJson (exportId : String) (epoch : Nat) (phase : ExportStatusPhase) :
    Except String ExportStatus :=
  match ExportEpoch.new epoch with
  | .error _ => .error "invalid export epoch: zero is reserved"
  | .ok epoch =>
    match texts.exportId.read exportId with
    | .ok exportId => .ok (.active exportId epoch phase)
    | .error reason => .error reason

def parseExportId (value : String) : Except DomainError ExportId :=
  texts.exportId.parse "export ID" value

def exportReceiptFromWire (terminal : ExportReceiptViewWire) : Except DomainError ExportReceipt := do
  let requestId ← required requestIdRequired terminal.requestId
  let request ← mutationRequestIdFromWire texts requestId
  let exportId ← parseExportId texts terminal.exportId
  let epoch ← ExportEpoch.new terminal.epoch
  let digest ← bytes32 terminal.requestDigest "export request digest"
  let requestDigest := texts.digestFromBytes digest
  let deadline ← ExportDeadline.new terminal.deadlineLowerUnixMs terminal.deadlineUpperUnixMs
  if exportId ≠ ⟨requestDigest⟩ then
    .error (.invalidIdentity "export ID" "export_id does not match request_digest")
  else
    let outcome ← match ← exportDispositionFromWire terminal.disposition with
      | .completed => do
          let artifact ← required (.invalidPayload "completed export receipt omitted artifact")
            terminal.artifact
          (exportArtifactFromWire artifact).map ExportReceiptOutcome.completed
      | .aborted =>
          if terminal.abortReason = "" then
            .error (.invalidPayload "aborted export receipt omitted abort_reason")
          else (exportAbortReasonFromWire terminal.abortReason).map ExportReceiptOutcome.aborted
    .ok ⟨request, epoch, requestDigest, some deadline, outcome⟩

def exportStatusFromWire (status : Option ExportStateWire) : Except DomainError ExportStatus := do
  match ← required (.invalidPayload "export status omitted state") status with
  | .active active =>
      let phase ← exportPhaseFromWire active.phase
      match activeStatusFromJson texts active.exportId active.epoch phase with
      | .ok status => .ok status
      | .error reason => .error (.invalidPayload reason)
  | .terminal terminal => (exportReceiptFromWire texts terminal).map ExportStatus.terminal

end Convert

end LightStream
