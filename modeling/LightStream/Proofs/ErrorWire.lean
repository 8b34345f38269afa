import LightStream.Proto.Errors

/-!
Which errors keep their meaning over the wire.  Two of them have a code that the decoder does not
know; every other error comes back with all that it carries beside its free text.
-/

namespace LightStream

/-- The error with its free text taken out: what is left is its code and its meaning. -/
def DomainError.withoutText : DomainError → DomainError
  | .invalidIdentity _ _ => .invalidIdentity "" ""
  | .invalidName _ _ => .invalidName "" ""
  | .invalidRange _ => .invalidRange ""
  | .invalidPayload _ => .invalidPayload ""
  | .bootstrapConflict _ => .bootstrapConflict ""
  | .identityMismatch _ => .identityMismatch ""
  | .storage _ => .storage ""
  | .unsupportedOperation _ _ => .unsupportedOperation "" ""
  | error => error

/-- What the texts of one error are relied on for: each reads back as what was written, and JSON
is never empty. -/
structure WireTexts.RoundTrip (texts : WireTexts) (error : DomainError) : Prop where
  detail : texts.parseDetail (texts.detail error) = .ok error
  session : ∀ group outcome request,
    error = .quorumUnavailable group outcome (some (.publish request)) →
      texts.parseSession (texts.session request.session) = .ok request.session
  mutation : ∀ group outcome request,
    error = .quorumUnavailable group outcome (some (.mutation request)) →
      texts.mutation request ≠ "" ∧ texts.parseMutation (texts.mutation request) = .ok request

/-- Neither of the two export errors, and a principal that its own constructor accepts. -/
structure DomainError.Known (error : DomainError) : Prop where
  noConflict : error ≠ .exportConflict
  notFenced : ∀ exportId outcome, error ≠ .exportInProgress exportId outcome
  principal : ∀ group outcome request,
    error = .quorumUnavailable group outcome (some (.publish request)) →
      PrincipalId.parse request.principal.text = .ok request.principal

/-- The error arrives as one of the same code that carries the same. -/
def ArrivesWhole (texts : WireTexts) (error : DomainError) : Prop :=
  ∃ arrived, domainErrorFromWire texts (domainErrorToWire texts error) = .ok arrived ∧
    arrived.code = error.code ∧ arrived.withoutText = error.withoutText

variable {texts : WireTexts} {error : DomainError}

theorem consensusGroupFromWire_toWire (group : ConsensusGroup) :
    consensusGroupFromWire (consensusGroupToWire group) = .ok group := by
  cases group <;> rfl

theorem requestOutcomeFromWire_toWire (outcome : RequestOutcome) :
    requestOutcomeFromWire (requestOutcomeToWire outcome) = .ok outcome := by
  cases outcome <;> rfl

theorem leaderHintFromWire_toWire (leader : Option LeaderHint) :
    leaderHintFromWire (leader.map leaderHintToWire) = .ok leader := by
  cases leader with
  | none => rfl
  | some hint =>
      have node : NodeId.new hint.nodeId.value = .ok hint.nodeId := by
        rw [NodeId.new, dif_neg hint.nodeId.nonzero]
      simp only [Option.map_some, leaderHintToWire, leaderHintFromWire, node, bind, Except.bind]

theorem PrincipalId.parse_text {value : String} {principal : PrincipalId}
    (parsed : PrincipalId.parse value = .ok principal) : principal = ⟨value⟩ := by
  unfold PrincipalId.parse at parsed
  split at parsed
  · cases parsed
  split at parsed
  · cases parsed
  split at parsed
  · cases parsed
  · cases parsed
    rfl

theorem requestIdFromWire_toWire {request : ProducerRequestId}
    (principal : PrincipalId.parse request.principal.text = .ok request.principal)
    (session : texts.parseSession (texts.session request.session) = .ok request.session) :
    requestIdFromWire texts (requestIdToWire texts request) = .ok request := by
  simp only [requestIdFromWire, requestIdToWire, principal, session, bind, Except.bind]

theorem requestIdFromWire_refused {request : ProducerRequestId}
    (principal : PrincipalId.parse request.principal.text ≠ .ok request.principal) :
    ∃ refusal, requestIdFromWire texts (requestIdToWire texts request) = .error refusal := by
  cases parsed : PrincipalId.parse request.principal.text with
  | error refusal =>
      refine ⟨refusal, ?_⟩
      simp only [requestIdFromWire, requestIdToWire, parsed, bind, Except.bind]
  | ok other =>
      rw [PrincipalId.parse_text parsed] at parsed
      exact absurd parsed principal

theorem decodeDomainErrorDetail_written (roundTrip : texts.RoundTrip error) :
    decodeDomainErrorDetail texts (texts.detail error) error.code.asStr = .ok error := by
  rw [decodeDomainErrorDetail, roundTrip.detail]
  simp

theorem quorumUnavailable_arrives {group : ConsensusGroup} {outcome : RequestOutcome}
    {request : Option AmbiguousRequest}
    (roundTrip : texts.RoundTrip (.quorumUnavailable group outcome request))
    (known : (DomainError.quorumUnavailable group outcome request).Known) :
    domainErrorFromWire texts
        (domainErrorToWire texts (.quorumUnavailable group outcome request)) =
      .ok (.quorumUnavailable group outcome request) := by
  cases request with
  | none =>
      simp [domainErrorFromWire, domainErrorToWire, domainErrorFields, DomainError.code,
        ErrorCode.asStr, consensusGroupFromWire_toWire, requestOutcomeFromWire_toWire,
        ambiguousRequestFromWire, bind, Except.bind]
  | some ambiguous =>
      cases ambiguous with
      | publish request =>
          have principal := known.principal group outcome request rfl
          have session := roundTrip.session group outcome request rfl
          simp [domainErrorFromWire, domainErrorToWire, domainErrorFields, DomainError.code,
            ErrorCode.asStr, consensusGroupFromWire_toWire, requestOutcomeFromWire_toWire,
            ambiguousRequestFromWire, requestIdFromWire_toWire principal session, bind,
            Except.bind]
      | mutation request =>
          obtain ⟨filled, parsed⟩ := roundTrip.mutation group outcome request rfl
          simp [domainErrorFromWire, domainErrorToWire, domainErrorFields, DomainError.code,
            ErrorCode.asStr, consensusGroupFromWire_toWire, requestOutcomeFromWire_toWire,
            ambiguousRequestFromWire, filled, parsed, bind, Except.bind]

theorem DomainError.Known.arrives (known : error.Known) (roundTrip : texts.RoundTrip error) :
    ArrivesWhole texts error := by
  have detail := decodeDomainErrorDetail_written roundTrip
  cases error with
  | exportConflict => exact absurd rfl known.noConflict
  | exportInProgress exportId outcome => exact absurd rfl (known.notFenced exportId outcome)
  | quorumUnavailable group outcome request =>
      exact ⟨_, quorumUnavailable_arrives roundTrip known, rfl, rfl⟩
  | notLeader group leader =>
      refine ⟨.notLeader group leader, ?_, rfl, rfl⟩
      simp [domainErrorFromWire, domainErrorToWire, domainErrorFields, DomainError.code,
        ErrorCode.asStr, consensusGroupFromWire_toWire, leaderHintFromWire_toWire, bind,
        Except.bind]
  | shuttingDown outcome =>
      refine ⟨.shuttingDown outcome, ?_, rfl, rfl⟩
      simp [domainErrorFromWire, domainErrorToWire, domainErrorFields, DomainError.code,
        ErrorCode.asStr, requestOutcomeFromWire_toWire, bind, Except.bind]
  | checkpointAheadOfTail | checkpointRegression | cursorExpired | replayLeaseNotFound
  | replayLeaseInactive | replayLeaseConflict | replayLeaseRangeViolation
  | replayLeaseLifetimeExhausted | mutationConflict | mutationReceiptExpired
  | leaseClockUnavailable | publishOverloaded | resourceLimit | securityAuthenticationFailed
  | securityPermissionDenied | securityPolicyConflict | securityPolicyStale =>
      exact ⟨_, detail, rfl, rfl⟩
  | _ => exact ⟨_, rfl, rfl, rfl⟩

theorem quorumUnavailable_refused {group : ConsensusGroup} {outcome : RequestOutcome}
    {request : ProducerRequestId}
    (principal : PrincipalId.parse request.principal.text ≠ .ok request.principal) :
    ∃ refusal, domainErrorFromWire texts (domainErrorToWire texts
      (.quorumUnavailable group outcome (some (.publish request)))) = .error refusal := by
  obtain ⟨refusal, refused⟩ := @requestIdFromWire_refused texts request principal
  refine ⟨refusal, ?_⟩
  simp [domainErrorFromWire, domainErrorToWire, domainErrorFields, DomainError.code,
    ErrorCode.asStr, consensusGroupFromWire_toWire, requestOutcomeFromWire_toWire,
    ambiguousRequestFromWire, refused, bind, Except.bind]

theorem domainError_roundTrip (texts : WireTexts) (error : DomainError)
    (roundTrip : texts.RoundTrip error) : ArrivesWhole texts error ↔ error.Known := by
  constructor
  · rintro ⟨arrived, decoded, code, _⟩
    refine ⟨?_, ?_, ?_⟩
    · rintro rfl
      cases decoded
      cases code
    · rintro exportId outcome rfl
      cases decoded
      cases code
    · rintro group outcome request rfl
      by_contra principal
      obtain ⟨refusal, refused⟩ := @quorumUnavailable_refused texts group outcome request principal
      rw [refused] at decoded
      cases decoded
  · intro known
    exact known.arrives roundTrip

def sampleTexts (error : DomainError) (json : String) : WireTexts where
  lease := fun _ => "00000000-0000-8000-8000-000000000001"
  exportId := fun _ => "00000000-0000-8000-8000-000000000000"
  session := fun _ => "00000000-0000-0000-0000-000000000007"
  parseSession := fun _ => .ok ⟨7⟩
  mutation := fun _ => "null"
  parseMutation := fun _ => .error "invalid type: null"
  detail := fun written => if written = error then json else "null"
  parseDetail := fun text => if text = json then .ok error else .error "missing field"

theorem domainError_roundTrip_sample :
    ArrivesWhole (sampleTexts (.cursorExpired 5 9)
        "\x7b\"code\":\"cursor_expired\",\"requested\":5,\"available_from\":9\x7d")
      (.cursorExpired 5 9) ↔ (DomainError.cursorExpired 5 9).Known :=
  domainError_roundTrip _ _ ⟨rfl, nofun, nofun⟩

/-- A write that a fence of an export turns away arrives as a storage failure. -/
theorem exportInProgress_lost : ∃ texts : WireTexts,
    texts.RoundTrip (.exportInProgress ⟨.bytes 0⟩ .definiteNoCommit) ∧
      domainErrorFromWire texts
          (domainErrorToWire texts (.exportInProgress ⟨.bytes 0⟩ .definiteNoCommit)) =
        .ok (.storage
          "export 00000000-0000-8000-8000-000000000000 currently fences this mutation") ∧
      ¬ArrivesWhole texts (.exportInProgress ⟨.bytes 0⟩ .definiteNoCommit) := by
  refine ⟨sampleTexts (.exportInProgress ⟨.bytes 0⟩ .definiteNoCommit)
    ("\x7b\"code\":\"export_in_progress\"," ++
      "\"export\":\"00000000-0000-8000-8000-000000000000\"," ++
      "\"outcome\":\"definite_no_commit\"\x7d"),
    ⟨rfl, nofun, nofun⟩, rfl, ?_⟩
  rintro ⟨arrived, decoded, code, _⟩
  cases decoded
  cases code

end LightStream
