import LightStream.Server.PolicyLease
import LightStream.Server.ReplayRuntime

/-!
The security operations of `runtime.rs` on the leader of the control group, and how `service.rs`
answers a security mutation.
-/

namespace LightStream

namespace ActiveCluster

variable (texts : RuntimeTexts) (active : ActiveCluster) (logId : GroupLogId)

/-- `submitted_control_write`, committed at a log position. -/
def submitControl (command : GroupCommand) : Except DomainError ApplyResult × ActiveCluster :=
  match active.control.applyEntry ⟨logId, .normal command⟩ with
  | .error error => (.error (.storage (texts.fatal error)), active)
  | .ok (result, control) => (.ok result, { active with control })

/-- The write of a security operation, with the text of its error for an unexpected result. -/
def policyWrite (command : GroupCommand) (unexpected : String) :
    Except DomainError SecurityPolicy × ActiveCluster :=
  match active.submitControl texts logId command with
  | (.error error, active) => (.error error, active)
  | (.ok (.securityPolicy policy), active) => (.ok policy, active)
  | (.ok (.rejected error), active) => (.error error, active)
  | (.ok other, active) => (.error (.storage (unexpected ++ texts.display other)), active)

def applySecurityMutation (mutation : SecurityMutation) :
    Except DomainError SecurityPolicy × ActiveCluster :=
  active.policyWrite texts logId (.applySecurityMutation mutation)
    "unexpected security policy apply result "

def activateSecuredTransport (cluster : ClusterId) (request : MutationRequestId)
    (expectedTopologyRevision : Nat) (nodes : List NodeDescriptor) (policy : SecurityPolicy) :
    Except DomainError SecurityPolicy × ActiveCluster :=
  match active.validateCluster cluster with
  | .error error => (.error error, active)
  | .ok () =>
      match active.control.get .clusterTopology with
      | none => (.error (.storage "control topology is missing"), active)
      | some current =>
          if current.revision ≠ expectedTopologyRevision then
            (.error .securityPolicyConflict, active)
          else
            match ClusterTopology.tryNew (saturatingAdd expectedTopologyRevision 1) nodes
                current.desiredVoters with
            | .error error => (.error error, active)
            | .ok topology =>
                active.policyWrite texts logId (.activateSecuredTransport request topology policy)
                  "unexpected secured transport apply result "

end ActiveCluster

/-- How a node authenticates requests: not at all, or by the leased policy of its cluster. -/
inductive RuntimeSecurity where
  | localInsecure
  | secured (cluster : ClusterId) (lease : PolicyLease)

namespace RuntimeSecurity

def configuredCluster : RuntimeSecurity → Option ClusterId
  | .localInsecure => none
  | .secured cluster _ => some cluster

def renewPolicy (policy : SecurityPolicy) (now : Nat) :
    RuntimeSecurity → Except DomainError RuntimeSecurity
  | .localInsecure => .ok .localInsecure
  | .secured cluster lease =>
      match lease.renewPolicyAt cluster policy now with
      | .error error => .error error
      | .ok lease => .ok (.secured cluster lease)

end RuntimeSecurity

structure SecurityPolicySummary where
  cluster : ClusterId
  policyRevision : PolicyRevision
  revocationRevision : Nat
deriving DecidableEq

def securityPolicySummary (policy : SecurityPolicy) : SecurityPolicySummary :=
  ⟨policy.cluster, policy.revision, policy.revocationRevision⟩

/-- What `PublicApi::apply_security_mutation` answers to a mutation that it has admitted. -/
def PublicApi.applySecurityMutation (texts : RuntimeTexts) (active : ActiveCluster)
    (security : RuntimeSecurity) (logId : GroupLogId) (now : Nat) (cluster : ClusterId)
    (mutation : SecurityMutation) :
    Except ServiceStatus (Except DomainError SecurityPolicySummary) :=
  if cluster ≠ security.configuredCluster.getD cluster then
    .error (.permissionDenied "security mutation targets another cluster")
  else
    match (active.applySecurityMutation texts logId mutation).1 with
    | .error error => .ok (.error error)
    | .ok policy =>
        match security.renewPolicy policy now with
        | .error error => .error (.unavailable error)
        | .ok _ => .ok (.ok (securityPolicySummary policy))

end LightStream
