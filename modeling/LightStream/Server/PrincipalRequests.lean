import LightStream.Server.PolicyLease
import LightStream.Storage.Apply
import LightStream.Storage.Reader

/-!
The public requests that carry a request identity, the handlers that read receipts and leases, and
what the runtime proposes to a group for them.  A handler admits a request before it reaches its
group; the group is the one that the route of the request resolves to.
-/

namespace LightStream

/-- A decoded request with a request identity.  The topology of a transport activation is the one
that the runtime derives from the nodes of the request. -/
inductive PrincipalCall where
  | commitPublish (batch : PublishBatch)
  | advanceRetention (cluster : ClusterId) (request : RetentionRequest)
  | admitReplayLease (request : ReplayLeaseRequest)
  | renewReplayLease (cluster : ClusterId) (request : LeaseRenewal)
  | releaseReplayLease (cluster : ClusterId) (request : LeaseRelease)
  | compareAndSetCheckpoint (mutation : CheckpointMutation)
  | applySecurityMutation (cluster : ClusterId) (mutation : SecurityMutation)
  | activateSecuredTransport (cluster : ClusterId) (request : MutationRequestId)
      (topology : ClusterTopology) (policy : SecurityPolicy)

namespace PrincipalCall

def permission : PrincipalCall → Permission
  | .commitPublish _ => .publish
  | .advanceRetention .. => .retentionManage
  | .admitReplayLease _ => .replayManage
  | .renewReplayLease .. => .replayManage
  | .releaseReplayLease .. => .replayManage
  | .compareAndSetCheckpoint _ => .checkpointManage
  | .applySecurityMutation .. => .securityAdmin
  | .activateSecuredTransport .. => .securityAdmin

def resource : PrincipalCall → ResourceScope
  | .commitPublish batch => .stream batch.cluster batch.partition.stream
  | .advanceRetention cluster request => .stream cluster request.partition.stream
  | .admitReplayLease request => .stream request.cluster request.range.partition.stream
  | .renewReplayLease cluster request => .stream cluster request.partition.stream
  | .releaseReplayLease cluster request => .stream cluster request.partition.stream
  | .compareAndSetCheckpoint mutation => .stream mutation.key.cluster mutation.key.partition.stream
  | .applySecurityMutation cluster _ => .cluster cluster
  | .activateSecuredTransport cluster .. => .cluster cluster

/-- The principal of the request identity: `producer_principal` and `mutation_principal`. -/
def claimed : PrincipalCall → PrincipalId
  | .commitPublish batch => batch.request.principal
  | .advanceRetention _ request => request.request.principal
  | .admitReplayLease request => request.request.principal
  | .renewReplayLease _ request => request.request.principal
  | .releaseReplayLease _ request => request.request.principal
  | .compareAndSetCheckpoint mutation => mutation.request.principal
  | .applySecurityMutation _ mutation => mutation.request.principal
  | .activateSecuredTransport _ request .. => request.principal

def admission (policy : Option SecurityPolicy)
    (evidence : Option (CredentialRef × TokenVerifierDigest)) (call : PrincipalCall) :
    Except ServiceStatus AuthenticatedPrincipal :=
  RuntimeSecurityConfig.authorize policy
    ⟨evidence, call.permission, call.resource, some call.claimed⟩

/-- The command proposed for a call, with the clock that the runtime observed. -/
def command (clock : ClockObservation) : PrincipalCall → GroupCommand
  | .commitPublish batch => .publish batch
  | .advanceRetention _ request => .advanceRetention request clock
  | .admitReplayLease request => .admitReplayLease request clock
  | .renewReplayLease _ request => .renewReplayLease request clock
  | .releaseReplayLease _ request => .releaseReplayLease request clock
  | .compareAndSetCheckpoint mutation => .compareAndSetCheckpoint mutation
  | .applySecurityMutation _ mutation => .applySecurityMutation mutation
  | .activateSecuredTransport _ request topology policy =>
      .activateSecuredTransport request topology policy

end PrincipalCall

/-- A call with the principal that its handler authenticated. -/
structure AdmittedCall where
  policy : SecurityPolicy
  evidence : Option (CredentialRef × TokenVerifierDigest)
  call : PrincipalCall
  principal : AuthenticatedPrincipal
  admitted : call.admission (some policy) evidence = .ok principal

/-- The principals of the request identities in a command. -/
def GroupCommand.claims : GroupCommand → List PrincipalId
  | .publish batch => [batch.request.principal]
  | .publishMany batch => batch.requests.map fun publish => publish.request.principal
  | .advanceRetention request _ => [request.request.principal]
  | .admitReplayLease request _ => [request.request.principal]
  | .renewReplayLease request _ => [request.request.principal]
  | .releaseReplayLease request _ => [request.request.principal]
  | .compareAndSetCheckpoint mutation => [mutation.request.principal]
  | .applySecurityMutation mutation => [mutation.request.principal]
  | .activateSecuredTransport request .. => [request.principal]
  | _ => []

def EntryPayload.claims : EntryPayload → List PrincipalId
  | .normal command => command.claims
  | _ => []

/-- What a leader proposes to a group: a payload without a request identity, be it the server's own
or for a public request that needs none; the command of one call; or a batch of publishes. -/
inductive GroupProposal where
  | unclaimed (payload : EntryPayload) (none : payload.claims = [])
  | call (admitted : AdmittedCall) (clock : ClockObservation)
  | publishes (batch : ReplicatedPublishBatch) (admitted : List AdmittedCall)
      (same : admitted.map AdmittedCall.call = batch.requests.map PrincipalCall.commitPublish)

namespace GroupProposal

def payload : GroupProposal → EntryPayload
  | .unclaimed payload _ => payload
  | .call admitted clock => .normal (admitted.call.command clock)
  | .publishes batch _ _ => .normal (.publishMany batch)

/-- The principals that the requests of a proposal were authenticated as. -/
def principals : GroupProposal → List PrincipalId
  | .unclaimed _ _ => []
  | .call admitted _ => [admitted.principal.principal]
  | .publishes _ admitted _ => admitted.map fun call => call.principal.principal

end GroupProposal

namespace GroupDb

def getReceipt (db : GroupDb) (policy : Option SecurityPolicy)
    (evidence : Option (CredentialRef × TokenVerifierDigest)) (cluster : ClusterId)
    (partition : PartitionKey) (request : ProducerRequestId) :
    Except ServiceStatus (Except DomainError PublishReceipt) :=
  match RuntimeSecurityConfig.authorize policy
      ⟨evidence, .receiptRead, .stream cluster partition.stream, some request.principal⟩ with
  | .error status => .error status
  | .ok _ => .ok (db.receipt partition request)

def foreignLease : ServiceStatus :=
  .permissionDenied "replay lease belongs to another principal"

def getReplayLease (db : GroupDb) (policy : Option SecurityPolicy)
    (evidence : Option (CredentialRef × TokenVerifierDigest)) (cluster : ClusterId)
    (partition : PartitionKey) (id : ReplayLeaseId) :
    Except ServiceStatus (Except DomainError ReplayLease) :=
  match RuntimeSecurityConfig.authorize policy
      ⟨evidence, .replayRead, .stream cluster partition.stream, none⟩ with
  | .error status => .error status
  | .ok principal =>
      match db.replayLease partition id with
      | .error error => .ok (.error error)
      | .ok lease =>
          if principal.principal ≠ lease.request.request.principal then .error foreignLease
          else .ok (.ok lease)

/-- How the handler of `FetchProtected` refuses: in its admission or for the lease. -/
inductive ReplayStatus where
  | service (status : ServiceStatus)
  | failedPrecondition (error : DomainError)

/-- The handler of `FetchProtected`: the lease is checked on one state of its group and the records
are read on a later one. -/
def serveFetchProtected (checked fetched : GroupDb) (rest : StateKey → Kv.Bytes)
    (policy : Option SecurityPolicy) (evidence : Option (CredentialRef × TokenVerifierDigest))
    (cluster : ClusterId) (partition : PartitionKey) (id : ReplayLeaseId) (offset limit : Nat) :
    Except ReplayStatus (Except DomainError FetchPage) :=
  match RuntimeSecurityConfig.authorize policy
      ⟨evidence, .replayRead, .stream cluster partition.stream, none⟩ with
  | .error status => .error (.service status)
  | .ok principal =>
      match checked.replayLease partition id with
      | .error error => .error (.failedPrecondition error)
      | .ok lease =>
          if principal.principal ≠ lease.request.request.principal then
            .error (.service foreignLease)
          else .ok (fetched.fetchProtected rest cluster partition id offset limit)

end GroupDb

theorem AdmittedCall.claims (admitted : AdmittedCall) :
    admitted.call.claimed = admitted.principal.principal := by
  obtain ⟨_, _, _, _, _, claims⟩ := RuntimeSecurityConfig.authorize_ok admitted.admitted
  exact claims _ rfl

theorem PrincipalCall.command_claims (call : PrincipalCall) (clock : ClockObservation) :
    (call.command clock).claims = [call.claimed] := by
  cases call <;> rfl

/-- The request identities in a proposal are those of the principals that it authenticated. -/
theorem GroupProposal.claims_eq (proposal : GroupProposal) :
    proposal.payload.claims = proposal.principals := by
  cases proposal with
  | unclaimed payload none => exact none
  | call admitted clock =>
      show (admitted.call.command clock).claims = [admitted.principal.principal]
      rw [PrincipalCall.command_claims, admitted.claims]
  | publishes batch admitted same =>
      have requests : admitted.map (fun call => call.call.claimed) =
          batch.requests.map fun publish => publish.request.principal := by
        have mapped := congrArg (List.map PrincipalCall.claimed) same
        rw [List.map_map, List.map_map] at mapped
        exact mapped
      show batch.requests.map (fun publish => publish.request.principal) =
        admitted.map fun call => call.principal.principal
      rw [← requests]
      exact List.map_congr_left fun call _ => call.claims

end LightStream
