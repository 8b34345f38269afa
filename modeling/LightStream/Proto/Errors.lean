import LightStream.Core.Identity

/-!
Errors over the wire: `error.rs` of `light-stream-core` and the error conversions of `convert.rs`
in `light-stream-proto`.  JSON and the text forms of identities are parameters.
-/

namespace LightStream

inductive ErrorCode where
  | invalidIdentity
  | invalidName
  | invalidRange
  | invalidPayload
  | notBootstrapped
  | bootstrapConflict
  | identityMismatch
  | receiptConflict
  | receiptExpired
  | receiptNotFound
  | storage
  | notLeader
  | quorumUnavailable
  | clusterForming
  | streamNotFound
  | streamNotActive
  | streamNameConflict
  | bookmarkNotFound
  | bookmarkNameConflict
  | checkpointNotFound
  | checkpointAheadOfTail
  | checkpointRegression
  | cursorExpired
  | replayLeaseNotFound
  | replayLeaseInactive
  | replayLeaseConflict
  | replayLeaseRangeViolation
  | replayLeaseLifetimeExhausted
  | mutationConflict
  | mutationReceiptExpired
  | exportConflict
  | exportInProgress
  | leaseClockUnavailable
  | publishOverloaded
  | resourceLimit
  | securityAuthenticationFailed
  | securityPermissionDenied
  | securityPolicyConflict
  | securityPolicyStale
  | shuttingDown
  | staleRoute
  | unsupportedOperation
deriving DecidableEq

def ErrorCode.asStr : ErrorCode → String
  | .invalidIdentity => "invalid_identity"
  | .invalidName => "invalid_name"
  | .invalidRange => "invalid_range"
  | .invalidPayload => "invalid_payload"
  | .notBootstrapped => "not_bootstrapped"
  | .bootstrapConflict => "bootstrap_conflict"
  | .identityMismatch => "identity_mismatch"
  | .receiptConflict => "receipt_conflict"
  | .receiptExpired => "receipt_expired"
  | .receiptNotFound => "receipt_not_found"
  | .storage => "storage_error"
  | .notLeader => "not_leader"
  | .quorumUnavailable => "quorum_unavailable"
  | .clusterForming => "cluster_forming"
  | .streamNotFound => "stream_not_found"
  | .streamNotActive => "stream_not_active"
  | .streamNameConflict => "stream_name_conflict"
  | .bookmarkNotFound => "bookmark_not_found"
  | .bookmarkNameConflict => "bookmark_name_conflict"
  | .checkpointNotFound => "checkpoint_not_found"
  | .checkpointAheadOfTail => "checkpoint_ahead_of_tail"
  | .checkpointRegression => "checkpoint_regression"
  | .cursorExpired => "cursor_expired"
  | .replayLeaseNotFound => "replay_lease_not_found"
  | .replayLeaseInactive => "replay_lease_inactive"
  | .replayLeaseConflict => "replay_lease_conflict"
  | .replayLeaseRangeViolation => "replay_lease_range_violation"
  | .replayLeaseLifetimeExhausted => "replay_lease_lifetime_exhausted"
  | .mutationConflict => "mutation_conflict"
  | .mutationReceiptExpired => "mutation_receipt_expired"
  | .exportConflict => "export_conflict"
  | .exportInProgress => "export_in_progress"
  | .leaseClockUnavailable => "lease_clock_unavailable"
  | .publishOverloaded => "publish_overloaded"
  | .resourceLimit => "resource_limit"
  | .securityAuthenticationFailed => "security_authentication_failed"
  | .securityPermissionDenied => "security_permission_denied"
  | .securityPolicyConflict => "security_policy_conflict"
  | .securityPolicyStale => "security_policy_stale"
  | .shuttingDown => "shutting_down"
  | .staleRoute => "stale_route"
  | .unsupportedOperation => "unsupported_operation"

def DomainError.code : DomainError → ErrorCode
  | .invalidIdentity _ _ => .invalidIdentity
  | .invalidName _ _ => .invalidName
  | .invalidRange _ => .invalidRange
  | .invalidPayload _ => .invalidPayload
  | .notBootstrapped => .notBootstrapped
  | .bootstrapConflict _ => .bootstrapConflict
  | .identityMismatch _ => .identityMismatch
  | .receiptConflict => .receiptConflict
  | .receiptExpired => .receiptExpired
  | .receiptNotFound => .receiptNotFound
  | .storage _ => .storage
  | .notLeader _ _ => .notLeader
  | .quorumUnavailable _ _ _ => .quorumUnavailable
  | .clusterForming => .clusterForming
  | .streamNotFound => .streamNotFound
  | .streamNotActive => .streamNotActive
  | .streamNameConflict => .streamNameConflict
  | .bookmarkNotFound => .bookmarkNotFound
  | .bookmarkNameConflict => .bookmarkNameConflict
  | .checkpointNotFound => .checkpointNotFound
  | .checkpointAheadOfTail _ _ => .checkpointAheadOfTail
  | .checkpointRegression _ _ => .checkpointRegression
  | .cursorExpired _ _ => .cursorExpired
  | .replayLeaseNotFound _ => .replayLeaseNotFound
  | .replayLeaseInactive _ _ => .replayLeaseInactive
  | .replayLeaseConflict => .replayLeaseConflict
  | .replayLeaseRangeViolation => .replayLeaseRangeViolation
  | .replayLeaseLifetimeExhausted => .replayLeaseLifetimeExhausted
  | .mutationConflict => .mutationConflict
  | .mutationReceiptExpired => .mutationReceiptExpired
  | .exportConflict => .exportConflict
  | .exportInProgress _ _ => .exportInProgress
  | .leaseClockUnavailable => .leaseClockUnavailable
  | .publishOverloaded _ _ => .publishOverloaded
  | .resourceLimit _ _ => .resourceLimit
  | .securityAuthenticationFailed => .securityAuthenticationFailed
  | .securityPermissionDenied => .securityPermissionDenied
  | .securityPolicyConflict => .securityPolicyConflict
  | .securityPolicyStale => .securityPolicyStale
  | .shuttingDown _ => .shuttingDown
  | .staleRoute => .staleRoute
  | .unsupportedOperation _ _ => .unsupportedOperation

structure WireTexts where
  lease : ReplayLeaseId → String
  exportId : ExportId → String
  session : ProducerSessionId → String
  parseSession : String → Except String ProducerSessionId
  mutation : MutationRequestId → String
  parseMutation : String → Except String MutationRequestId
  detail : DomainError → String
  parseDetail : String → Except String DomainError

def ConsensusGroup.debug : ConsensusGroup → String
  | .control => "Control"
  | .data => "Data"

def ReplayLeaseLifecycle.debug : ReplayLeaseLifecycle → String
  | .active => "Active"
  | .released => "Released"
  | .expired => "Expired"

def offsetDebug (offset : Nat) : String := "RecordOffset(" ++ toString offset ++ ")"

def DomainError.message (texts : WireTexts) : DomainError → String
  | .invalidIdentity kind reason => "invalid " ++ kind ++ ": " ++ reason
  | .invalidName kind reason => "invalid " ++ kind ++ ": " ++ reason
  | .invalidRange reason => "invalid committed range: " ++ reason
  | .invalidPayload reason => "invalid publish payload: " ++ reason
  | .notBootstrapped => "cluster has not been bootstrapped"
  | .bootstrapConflict reason => "bootstrap conflicts with the existing cluster: " ++ reason
  | .identityMismatch reason =>
      "stored identity does not match the requested identity: " ++ reason
  | .receiptConflict => "producer request identity was already used for another payload"
  | .receiptExpired => "producer request identity is older than the retained receipt window"
  | .receiptNotFound => "producer receipt was not found"
  | .storage reason => "durable storage failed: " ++ reason
  | .notLeader group _ => "the local node is not the current " ++ group.debug ++ " leader"
  | .quorumUnavailable group _ _ => "the " ++ group.debug ++ " group has no available quorum"
  | .clusterForming => "cluster formation is not complete"
  | .streamNotFound => "stream was not found"
  | .streamNotActive => "stream is not active"
  | .streamNameConflict => "stream name is already active or fenced"
  | .bookmarkNotFound => "bookmark was not found"
  | .bookmarkNameConflict => "bookmark name is already active"
  | .checkpointNotFound => "consumer checkpoint was not found"
  | .checkpointAheadOfTail candidate tail =>
      "checkpoint offset " ++ offsetDebug candidate ++ " exceeds committed tail " ++
        offsetDebug tail
  | .checkpointRegression current candidate =>
      "checkpoint offset " ++ offsetDebug candidate ++ " precedes current offset " ++
        offsetDebug current
  | .cursorExpired requested availableFrom =>
      "record offset " ++ offsetDebug requested ++ " expired; earliest available offset is " ++
        offsetDebug availableFrom
  | .replayLeaseNotFound lease => "replay lease " ++ texts.lease lease ++ " was not found"
  | .replayLeaseInactive lease lifecycle =>
      "replay lease " ++ texts.lease lease ++ " is " ++ lifecycle.debug
  | .replayLeaseConflict => "replay lease request identity conflicts with an existing request"
  | .replayLeaseRangeViolation => "requested replay is outside the admitted lease range"
  | .replayLeaseLifetimeExhausted => "replay lease reached its maximum total lifetime"
  | .mutationConflict => "mutation request identity was already used for another operation"
  | .mutationReceiptExpired =>
      "mutation request identity is older than the retained receipt window"
  | .exportConflict => "export request identity was already used for another canonical intent"
  | .exportInProgress exportId _ =>
      "export " ++ texts.exportId exportId ++ " currently fences this mutation"
  | .leaseClockUnavailable => "the configured lease clock guarantee is unavailable"
  | .publishOverloaded resource limit =>
      resource ++ " limit " ++ toString limit ++ " was exceeded before publish admission"
  | .resourceLimit resource limit => resource ++ " limit " ++ toString limit ++ " was exceeded"
  | .securityAuthenticationFailed => "client authentication failed"
  | .securityPermissionDenied =>
      "the authenticated principal is not authorized for this operation"
  | .securityPolicyConflict => "the security policy mutation conflicts with committed policy"
  | .securityPolicyStale => "the local security policy is too stale to authorize work"
  | .shuttingDown _ => "the broker is draining and no longer accepts mutations"
  | .staleRoute => "routing metadata is stale"
  | .unsupportedOperation operation availablePhase =>
      operation ++ " is not supported until " ++ availablePhase

/-! ### The records of `public.proto` -/

structure ProducerRequestWire where
  principalId : String
  producerSessionId : String
  sequence : Nat
deriving DecidableEq

structure LeaderHintWire where
  nodeId : Nat
  publicUri : String
deriving DecidableEq

structure ErrorResult where
  code : String
  message : String
  group : Int
  leader : Option LeaderHintWire
  outcome : Int
  requestId : Option ProducerRequestWire
  mutationRequestJson : String
  detailJson : String
deriving DecidableEq

def consensusGroupUnspecified : Int := 0

def consensusGroupToWire : ConsensusGroup → Int
  | .control => 1
  | .data => 2

def consensusGroupFromWire (value : Int) : Except DomainError ConsensusGroup :=
  if value = 1 then .ok .control
  else if value = 2 then .ok .data
  else .error (.invalidName "consensus group" ("unknown protobuf value " ++ toString value))

def requestOutcomeUnspecified : Int := 0

def requestOutcomeToWire : RequestOutcome → Int
  | .definiteNoCommit => 1
  | .ambiguousCommit => 2
  | .notApplicable => 3

def requestOutcomeFromWire (value : Int) : Except DomainError RequestOutcome :=
  if value = 1 then .ok .definiteNoCommit
  else if value = 2 then .ok .ambiguousCommit
  else if value = 3 then .ok .notApplicable
  else .error (.invalidName "request outcome" ("unknown protobuf value " ++ toString value))

def leaderHintToWire (hint : LeaderHint) : LeaderHintWire := ⟨hint.nodeId.value, hint.publicUri⟩

def isControl (char : Char) : Bool :=
  char.toNat < 0x20 || (0x7f ≤ char.toNat && char.toNat < 0xa0)

def PrincipalId.parse (value : String) : Except DomainError PrincipalId :=
  if value = "" then .error (.invalidName "principal ID" "value is empty")
  else if value.utf8ByteSize > 128 then
    .error (.invalidName "principal ID" "value exceeds 128 UTF-8 bytes")
  else if value.toList.any isControl then
    .error (.invalidName "principal ID" "control characters are not allowed")
  else .ok ⟨value⟩

def requestIdToWire (texts : WireTexts) (value : ProducerRequestId) : ProducerRequestWire :=
  ⟨value.principal.text, texts.session value.session, value.sequence⟩

def requestIdFromWire (texts : WireTexts) (value : ProducerRequestWire) :
    Except DomainError ProducerRequestId := do
  let principal ← PrincipalId.parse value.principalId
  match texts.parseSession value.producerSessionId with
  | .ok session => .ok ⟨principal, session, value.sequence⟩
  | .error reason => .error (.invalidIdentity "producer session ID" reason)

/-! ### Conversions -/

/-- The typed fields that an error sets beside its code, message and detail. -/
def domainErrorFields (texts : WireTexts) :
    DomainError → Int × Option LeaderHintWire × Int × Option ProducerRequestWire × String
  | .notLeader group leader =>
      (consensusGroupToWire group, leader.map leaderHintToWire, requestOutcomeUnspecified, none, "")
  | .quorumUnavailable group outcome request =>
      let (requestId, mutationRequestJson) := match request with
        | some (.publish request) => (some (requestIdToWire texts request), "")
        | some (.mutation request) => (none, texts.mutation request)
        | none => (none, "")
      (consensusGroupToWire group, none, requestOutcomeToWire outcome, requestId,
        mutationRequestJson)
  | .publishOverloaded _ _ =>
      (consensusGroupToWire .data, none, requestOutcomeToWire .definiteNoCommit, none, "")
  | .shuttingDown outcome =>
      (consensusGroupUnspecified, none, requestOutcomeToWire outcome, none, "")
  | _ => (consensusGroupUnspecified, none, requestOutcomeUnspecified, none, "")

def domainErrorToWire (texts : WireTexts) (error : DomainError) : ErrorResult :=
  let (group, leader, outcome, requestId, mutationRequestJson) := domainErrorFields texts error
  { code := error.code.asStr
    message := error.message texts
    group, leader, outcome, requestId, mutationRequestJson
    detailJson := texts.detail error }

def decodeDomainErrorDetail (texts : WireTexts) (detailJson expectedCode : String) :
    Except DomainError DomainError :=
  match texts.parseDetail detailJson with
  | .error reason => .error (.invalidName "domain error detail" reason)
  | .ok error =>
      if error.code.asStr ≠ expectedCode then
        .error (.invalidIdentity "domain error detail"
          "detail code does not match the error envelope")
      else .ok error

def withoutPrefix (text start : String) : String :=
  match text.dropPrefix? start with
  | some rest => rest.copy
  | none => text

def leaderHintFromWire : Option LeaderHintWire → Except DomainError (Option LeaderHint)
  | none => .ok none
  | some leader => do
      let node ← NodeId.new leader.nodeId
      .ok (some ⟨node, leader.publicUri⟩)

def ambiguousRequestFromWire (texts : WireTexts) (value : ErrorResult) :
    Except DomainError (Option AmbiguousRequest) :=
  match value.requestId, decide (value.mutationRequestJson = "") with
  | some request, true => do
      let request ← requestIdFromWire texts request
      .ok (some (.publish request))
  | none, false =>
      match texts.parseMutation value.mutationRequestJson with
      | .ok request => .ok (some (.mutation request))
      | .error reason => .error (.invalidIdentity "mutation request ID" reason)
  | none, true => .ok none
  | some _, false =>
      .error (.invalidIdentity "ambiguous request" "wire error contained two request identities")

def domainErrorFromWire (texts : WireTexts) (value : ErrorResult) :
    Except DomainError DomainError :=
  match value.code with
  | "invalid_identity" => .ok (.invalidIdentity "remote identity" value.message)
  | "invalid_name" => .ok (.invalidName "remote name" value.message)
  | "invalid_range" => .ok (.invalidRange (withoutPrefix value.message "invalid committed range: "))
  | "invalid_payload" =>
      .ok (.invalidPayload (withoutPrefix value.message "invalid publish payload: "))
  | "not_bootstrapped" => .ok .notBootstrapped
  | "bootstrap_conflict" => .ok (.bootstrapConflict value.message)
  | "identity_mismatch" => .ok (.identityMismatch value.message)
  | "receipt_conflict" => .ok .receiptConflict
  | "receipt_expired" => .ok .receiptExpired
  | "receipt_not_found" => .ok .receiptNotFound
  | "storage_error" => .ok (.storage value.message)
  | "cluster_forming" => .ok .clusterForming
  | "stream_not_found" => .ok .streamNotFound
  | "stream_not_active" => .ok .streamNotActive
  | "stream_name_conflict" => .ok .streamNameConflict
  | "bookmark_not_found" => .ok .bookmarkNotFound
  | "bookmark_name_conflict" => .ok .bookmarkNameConflict
  | "checkpoint_not_found" => .ok .checkpointNotFound
  | "cursor_expired" | "checkpoint_ahead_of_tail" | "checkpoint_regression"
  | "replay_lease_not_found" | "replay_lease_inactive" | "replay_lease_conflict"
  | "replay_lease_range_violation" | "replay_lease_lifetime_exhausted" | "mutation_conflict"
  | "mutation_receipt_expired" | "lease_clock_unavailable" | "publish_overloaded"
  | "resource_limit" | "security_authentication_failed" | "security_permission_denied"
  | "security_policy_conflict" | "security_policy_stale" =>
      decodeDomainErrorDetail texts value.detailJson value.code
  | "shutting_down" => do
      let outcome ← requestOutcomeFromWire value.outcome
      .ok (.shuttingDown outcome)
  | "stale_route" => .ok .staleRoute
  | "unsupported_operation" => .ok (.unsupportedOperation "remote operation" "unknown")
  | "not_leader" => do
      let group ← consensusGroupFromWire value.group
      let leader ← leaderHintFromWire value.leader
      .ok (.notLeader group leader)
  | "quorum_unavailable" => do
      let group ← consensusGroupFromWire value.group
      let outcome ← requestOutcomeFromWire value.outcome
      let request ← ambiguousRequestFromWire texts value
      .ok (.quorumUnavailable group outcome request)
  | _ => .ok (.storage value.message)

end LightStream
