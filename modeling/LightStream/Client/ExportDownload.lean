import LightStream.Client.Attempt
import LightStream.Client.ExportHash
import LightStream.Proto.Exports
import LightStream.Retry.Search
import Mathlib.Logic.Function.Basic

/-!
`export_to`: the download of an export artifact into a part file, its verification and its
publication at the output path.  What the server answers and how the operating system answers
each file operation are inputs.  A file is never longer than an `i64` says, so a write that would
make it longer fails.
-/

namespace LightStream

open Sha256 (Octets)

structure DownloadedExportChunk where
  artifact : ArtifactIdentity
  offset : Nat
  data : Octets
  last : Bool
deriving DecidableEq

structure ExportChunkWire where
  artifact : Option ExportArtifactWire
  offset : Nat
  data : Octets
  last : Bool
deriving DecidableEq

/-- What `download_export_once` makes of a response. -/
def downloadExportOnce (body : Body ExportChunkWire) : Except AttemptError DownloadedExportChunk := do
  let chunk ← body.read "download export"
  match chunk.artifact with
  | none => .error (.client (.domain (.invalidPayload "export chunk omitted artifact")))
  | some wire =>
    match exportArtifactFromWire wire with
    | .error error => .error (.client (.domain error))
    | .ok artifact => .ok ⟨artifact, chunk.offset, chunk.data, chunk.last⟩

/-- What `download_export_chunk` returns, from the response that ends its retries or the error
they end with. -/
def downloadExportChunk (answer : Except ClientError (Body ExportChunkWire)) :
    Except ClientError DownloadedExportChunk :=
  match answer with
  | .error error => .error error
  | .ok body =>
    match downloadExportOnce body with
    | .ok chunk => .ok chunk
    | .error .deadline => .error nonWriteDeadlineError
    | .error (.client error) => .error error

abbrev Files := String → Option Octets

def exportPartPath (output : String) : String := output ++ ".part"

def Files.write (files : Files) (path : String) (contents : Octets) : Files :=
  Function.update files path (some contents)

def Files.remove (files : Files) (path : String) : Files := Function.update files path none

def Files.contents (files : Files) (path : String) : Octets := (files path).getD []

/-- How the operating system answers a write: a failed one may have written a part. -/
inductive Written where
  | whole
  | failed (written : Nat) (reason : String)
deriving DecidableEq

def fileSizeLimit : Nat := 2 ^ 63

def writeAll (files : Files) (path : String) (data : Octets) :
    Written → Files × Except ClientError Unit
  | .failed written reason =>
      (files.write path (files.contents path ++ data.take written), .error (.request reason))
  | .whole =>
      if (files.contents path ++ data).length < fileSizeLimit then
        (files.write path (files.contents path ++ data), .ok ())
      else (files, .error (.request "File too large"))

/-- What `export_to` meets.  `begun` and `available` stand for the calls before the download,
`removed` for whether a part file can be removed, and the rest for the calls after it. -/
structure ExportRun where
  begun : Except ClientError Unit
  available : Except ClientError ArtifactIdentity
  opened : Except String Unit
  answers : Nat → Except ClientError (Body ExportChunkWire)
  writes : Nat → Written
  removed : Bool
  synced : Except String Unit
  completed : Except ClientError Unit
  renamed : Except String Unit
  parentSynced : Except String Unit

structure Download where
  files : Files
  hasher : ExportSha256
  offset : Nat

inductive DownloadEnd where
  | failed (error : ClientError)
  | finished
  | panicked
deriving DecidableEq

def ExportRun.discard (run : ExportRun) (output : String) (files : Files) : Files :=
  if run.removed then files.remove (exportPartPath output) else files

/-- One iteration of the download loop; `offset` wraps as a `u64` does. -/
def ExportRun.downloadTurn (run : ExportRun) (output : String) (artifact : ArtifactIdentity)
    (download : Download) (index : Nat) : Retry.Turned Download (Download × DownloadEnd) :=
  match downloadExportChunk (run.answers index) with
  | .error error => .returned (download, .failed error)
  | .ok chunk =>
    if chunk.artifact ≠ artifact then
      .returned ({ download with files := run.discard output download.files },
        .failed (.protocol "export artifact identity changed while downloading"))
    else if chunk.offset ≠ download.offset then
      .returned ({ download with files := run.discard output download.files },
        .failed (.protocol "export chunk offset did not match requested offset"))
    else
      match writeAll download.files (exportPartPath output) chunk.data (run.writes index) with
      | (files, .error error) => .returned ({ download with files }, .failed error)
      | (files, .ok ()) =>
        match download.hasher.update chunk.data with
        | none => .returned ({ download with files }, .panicked)
        | some hasher =>
          let offset := (download.offset + chunk.data.length) % 2 ^ 64
          if chunk.last then .returned (⟨files, hasher, offset⟩, .finished)
          else .again ⟨files, hasher, offset⟩

/-- The outcome of `export_to`: the files, and its result unless it panicked. -/
structure Exported where
  files : Files
  result : Option (Except ClientError ArtifactIdentity)

def Exported.failed (files : Files) (error : ClientError) : Exported := ⟨files, some (.error error)⟩

def ExportRun.publish (run : ExportRun) (output : String) (artifact : ArtifactIdentity)
    (download : Download) : Exported :=
  match download.hasher.finalize with
  | none => ⟨download.files, none⟩
  | some digest =>
    if download.offset ≠ artifact.length ∨ Codec.ofOctets digest ≠ artifact.sha256 then
      .failed (run.discard output download.files)
        (.protocol "downloaded export artifact failed integrity verification")
    else
      match run.synced with
      | .error reason => .failed download.files (.request reason)
      | .ok () =>
        match run.completed with
        | .error error => .failed download.files error
        | .ok () =>
          match run.renamed with
          | .error reason => .failed download.files (.request reason)
          | .ok () =>
            let files := (download.files.write output
              (download.files.contents (exportPartPath output))).remove (exportPartPath output)
            match run.parentSynced with
            | .error reason => .failed files (.request reason)
            | .ok () => ⟨files, some (.ok artifact)⟩

def ExportRun.ended (run : ExportRun) (output : String) (artifact : ArtifactIdentity) :
    Download × DownloadEnd → Exported
  | (download, .failed error) => .failed download.files error
  | (download, .finished) => run.publish output artifact download
  | (download, .panicked) => ⟨download.files, none⟩

def startDownload (output : String) (files : Files) : Download :=
  ⟨files.write (exportPartPath output) [], .new, 0⟩

/-- `export_to` over the first `responses` answers; `none` while it asks for more. -/
def ExportRun.exportTo (run : ExportRun) (output : String) (files : Files) (responses : Nat) :
    Option Exported :=
  match run.begun with
  | .error error => some (.failed files error)
  | .ok () =>
    match run.available with
    | .error error => some (.failed files error)
    | .ok artifact =>
      match run.opened with
      | .error reason => some (.failed files (.request reason))
      | .ok () =>
        (Retry.run (run.downloadTurn output artifact) (startDownload output files)
          (List.range responses)).map (run.ended output artifact)

end LightStream
