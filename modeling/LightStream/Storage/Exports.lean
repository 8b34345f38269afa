import LightStream.Storage.Leases

/-!
The export commands of a group: the control group's active export and its receipts, and the
mutation fence of every group.
-/

namespace LightStream

namespace GroupView

def exportConflict : Applied := reject .exportConflict

def exportStatus (status : ExportStatus) : ApplyResult := .exportResult (.status status)

def groupCut (view : GroupView) (logId : GroupLogId) : Except IoError GroupCut :=
  match NodeId.new logId.nodeId with
  | .error error => .error (.domain error)
  | .ok leader => .ok ⟨view.identity.groupId, logId.term, leader, logId.index⟩

def exportRequestExpired (view : GroupView) (request : MutationRequestId) : Bool :=
  match view.get (exportSessionKey request) with
  | none => false
  | some session =>
      match session.highestSequence with
      | none => false
      | some highest => decide (request.sequence ≤ highest)

def checkSelection (view : GroupView) (cluster : ClusterId) :
    List StreamId → Except DomainError Unit
  | [] => .ok ()
  | stream :: rest =>
      match view.get (.stream stream) with
      | none => .error .streamNotFound
      | some descriptor =>
          if descriptor.cluster ≠ cluster then
            .error (.identityMismatch "selected export stream belongs to another cluster")
          else if descriptor.lifecycle ≠ .active then .error .streamNotActive
          else view.checkSelection cluster rest

/-- `apply_begin_export` after its retry and exclusion checks. -/
def startExport (view : GroupView) (logId : GroupLogId) (intent : ExportIntent)
    (deadline : ExportDeadline) : Applied :=
  match view.checkSelection intent.cluster intent.selection.streams with
  | .error error => reject error
  | .ok () =>
      match view.get .dataGroupPool with
      | none => .error (.other "control data-group pool is missing")
      | some groups =>
          match checkedAdd ((view.get .exportEpoch).getD 0) 1 with
          | none => .error (.other "export epoch overflow")
          | some nextEpoch =>
              if nonzero : nextEpoch = 0 then
                .error (.domain (.invalidIdentity "export epoch" "zero is reserved"))
              else
                match ExportSpec.tryNew intent ⟨nextEpoch, nonzero⟩ groups deadline with
                | .error error => reject error
                | .ok spec =>
                    match view.groupCut logId with
                    | .error error => .error error
                    | .ok controlCut =>
                        match view.mutationFenceState.acquire spec.token controlCut with
                        | .error error => reject error
                        | .ok (fence, _) =>
                            let active := ActiveExport.preparing spec controlCut
                            reply (exportStatus active.status)
                              [.put .exportEpoch nextEpoch, .put .mutationFence fence,
                                .put .activeExport active]

def applyBeginExport (view : GroupView) (logId : GroupLogId) (intent : ExportIntent)
    (deadline : ExportDeadline) : Applied :=
  if view.identity.kind ≠ .control then
    reject (.identityMismatch "export begin reached a data group")
  else if intent.cluster ≠ view.identity.clusterId then
    reject (.identityMismatch "export cluster does not match the control group")
  else
    match view.get (.exportReceipt intent.request) with
    | some receipt =>
        if receipt.requestDigest = intent.requestDigest ∧
            (receipt.deadline = none ∨ receipt.deadline = some deadline) then
          reply (exportStatus (.terminal receipt)) []
        else exportConflict
    | none =>
        match view.get .activeExport with
        | some active =>
            if active.spec.intent.request = intent.request then
              if active.spec.intent.requestDigest = intent.requestDigest ∧
                  active.spec.deadline = deadline then reply (exportStatus active.status) []
              else exportConflict
            else reject (.resourceLimit "active_exports" 1)
        | none =>
            if view.exportRequestExpired intent.request then reject .mutationReceiptExpired
            else if (view.get .activeAdministration).isSome = true then
              reject (.resourceLimit "active_administration_operations" 1)
            else view.startExport logId intent deadline

def applyAcquireExportFence (view : GroupView) (logId : GroupLogId) (token : ExportFenceToken) :
    Applied :=
  if view.identity.kind ≠ .data then
    reject (.identityMismatch "export data fence reached the control group")
  else
    match view.groupCut logId with
    | .error error => .error error
    | .ok cut =>
        match view.mutationFenceState.acquire token cut with
        | .error error => reject error
        | .ok (fence, observation) =>
            reply (.exportResult (.fence observation)) [.put .mutationFence fence]

def controlActiveExport (view : GroupView) : Option ActiveExport :=
  if view.identity.kind ≠ .control then none else view.get .activeExport

def storeActiveExport (active : Except DomainError ActiveExport) : Applied :=
  match active with
  | .error error => reject error
  | .ok active => reply (exportStatus active.status) [.put .activeExport active]

def exportReceiptResult (view : GroupView) (request : MutationRequestId)
    (exportId : Option ExportId) : ApplyResult :=
  match view.get (.exportReceipt request) with
  | none =>
      if view.exportRequestExpired request then .rejected .mutationReceiptExpired
      else .rejected .exportConflict
  | some receipt =>
      if exportId.isSome = true ∧ exportId ≠ some ⟨receipt.requestDigest⟩ then
        .rejected .exportConflict
      else exportStatus (.terminal receipt)

def exportReceiptForToken (view : GroupView) (token : ExportFenceToken) : Applied :=
  match view.exportReceipts.find? (fun entry =>
      entry.2.epoch = token.epoch ∧ entry.2.requestDigest = token.requestDigest) with
  | some entry => reply (exportStatus (.terminal entry.2)) []
  | none => exportConflict

/-- The answer to a request about a finished export: its receipt if the outcome is the one
asked for. -/
def terminalAnswer (view : GroupView) (request : MutationRequestId) (exportId : Option ExportId)
    (outcome : ExportReceiptOutcome) : Applied :=
  match view.exportReceiptResult request exportId with
  | .exportResult (.status (.terminal receipt)) =>
      if receipt.outcome = outcome then reply (exportStatus (.terminal receipt)) []
      else exportConflict
  | other => reply other []

def applyRequestExportCompletion (view : GroupView) (request : MutationRequestId)
    (exportId : ExportId) (artifact : ArtifactIdentity) : Applied :=
  match view.controlActiveExport with
  | none => view.terminalAnswer request (some exportId) (.completed artifact)
  | some active =>
      if active.spec.intent.request ≠ request ∨ active.spec.intent.exportId ≠ exportId then
        exportConflict
      else storeActiveExport (active.requestCompletion artifact)

def applyRequestExportAbort (view : GroupView) (request : MutationRequestId)
    (reason : ExportAbortReason) (observedClock : ExportDeadline) : Applied :=
  match view.controlActiveExport with
  | none => view.terminalAnswer request none (.aborted reason)
  | some active =>
      if active.spec.intent.request ≠ request then exportConflict
      else if reason = .deadlineExceeded ∧
          observedClock.lowerBound < active.spec.deadline.upperBound then
        reject (.invalidRange "export deadline has not definitely elapsed")
      else storeActiveExport (active.requestAbort reason)

def resumeDeferredReclaim (view : GroupView) : StateBatch :=
  view.hints.flatMap fun hint =>
    let retention := view.retentionOf hint.1
    [.put (.retention hint.1)
        { retention with reclaimCursor := min retention.reclaimCursor hint.2 },
      .delete (.reclaimHint hint.1)]

def applyReleaseExportFence (view : GroupView) (token : ExportFenceToken) : Applied :=
  if view.identity.kind ≠ .data then
    reject (.identityMismatch "export data-fence release reached the control group")
  else
    match view.mutationFenceState.releaseForGroup token view.identity.groupId with
    | .error error => reject error
    | .ok (fence, observation) =>
        reply (.exportResult (.fence observation))
          (.put .mutationFence fence :: view.resumeDeferredReclaim)

def updateActiveExport (view : GroupView) (token : ExportFenceToken)
    (transition : ActiveExport → Except DomainError ActiveExport) : Applied :=
  match view.controlActiveExport with
  | none => view.exportReceiptForToken token
  | some active =>
      if active.spec.token ≠ token then exportConflict
      else storeActiveExport (transition active)

/-- The writes of `evict_export_receipts`: the oldest receipts beyond the window. -/
def evictExportReceipts (view : GroupView) (inserted : MutationRequestId) : StateBatch :=
  let receipts := (view.exportReceipts.filter fun entry => entry.1 ≠ inserted).insertionSort
    fun first second => first.2.epoch.value ≤ second.2.epoch.value
  (receipts.take (receipts.length + 1 - view.receiptWindow)).map fun entry =>
    .delete (.exportReceipt entry.1)

def advanceExportSession (view : GroupView) (request : MutationRequestId) : ExportSessionState :=
  match view.get (exportSessionKey request) with
  | some ⟨some highest⟩ => ⟨some (max highest request.sequence)⟩
  | _ => ⟨some request.sequence⟩

def applyFinishExport (view : GroupView) (token : ExportFenceToken) : Applied :=
  match view.controlActiveExport with
  | none => view.exportReceiptForToken token
  | some active =>
      if active.spec.token ≠ token then exportConflict
      else
        match active.receipt with
        | .error error => reject error
        | .ok receipt =>
            match view.mutationFenceState.releaseForGroup token view.identity.groupId with
            | .error error => reject error
            | .ok (fence, _) =>
                reply (exportStatus (.terminal receipt))
                  ([.put .mutationFence fence, .delete .activeExport,
                    .put (.exportReceipt receipt.request) receipt,
                    .put (exportSessionKey receipt.request)
                      (view.advanceExportSession receipt.request)] ++
                    view.evictExportReceipts receipt.request)

def applyExport (view : GroupView) (logId : GroupLogId) : ExportCommand → Applied
  | .begin intent deadline => view.applyBeginExport logId intent deadline
  | .acquireFence token => view.applyAcquireExportFence logId token
  | .recordFence token observation =>
      view.updateActiveExport token fun active => active.recordFence observation
  | .beginMaterialization token =>
      view.updateActiveExport token ActiveExport.beginMaterialization
  | .publishArtifact token artifact cut =>
      view.updateActiveExport token fun active => active.publishArtifact artifact cut
  | .requestCompletion request exportId artifact =>
      view.applyRequestExportCompletion request exportId artifact
  | .requestAbort request reason observedClock =>
      view.applyRequestExportAbort request reason observedClock
  | .releaseFence token => view.applyReleaseExportFence token
  | .recordRelease token observation =>
      view.updateActiveExport token fun active => active.recordRelease observation
  | .finish token => view.applyFinishExport token

end GroupView

end LightStream
