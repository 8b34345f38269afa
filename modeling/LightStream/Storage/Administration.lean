import LightStream.Storage.Leases

/-!
Voter replacement and leader transfer, the cluster topology, the security policy and the
operational probe.
-/

namespace LightStream

def AdministrationLifecycle.isAborted : AdministrationLifecycle → Bool
  | .aborted _ => true
  | _ => false

def Endpoint.isHttps (endpoint : Endpoint) : Bool := "https://".isPrefixOf endpoint.text

namespace GroupView

def requestNotFound : DomainError :=
  .invalidIdentity "administration request" "request was not found"

/-- The topology a new administration operation stores, if it changes it. -/
def transitionalTopology (view : GroupView) (topology : ClusterTopology) :
    AdministrationIntent → Except DomainError (Option ClusterTopology)
  | .replaceVoter _ expectedTopologyRevision remove add =>
      match topology.replacementTransition expectedTopologyRevision remove add with
      | .error error => .error error
      | .ok transitional => .ok (some transitional)
  | .transferLeader _ group target =>
      if target ∉ topology.desiredVoters then
        .error (.invalidIdentity "leader transfer target" "target is not a desired voter")
      else if group ≠ controlGroupId ∧ group ∉ (view.get .dataGroupPool).getD [] then
        .error (.invalidIdentity "leader transfer group" "group is not in the bounded group pool")
      else .ok none

def beginWrites (intent : AdministrationIntent) (transitional : Option ClusterTopology) :
    StateBatch :=
  let operation := AdministrationOperation.pending intent
  let stored : StateBatch := [.put (.administrationRequest intent.request) operation,
    .put .activeAdministration operation]
  match transitional with
  | none => stored
  | some topology => .put .clusterTopology topology :: stored

def applyBeginAdministration (view : GroupView) (intent : AdministrationIntent) : Applied :=
  if view.identity.kind ≠ .control then
    reject (.identityMismatch "administration intent reached a data group")
  else
    match view.get (.administrationRequest intent.request) with
    | some existing =>
        if existing.intent = intent then reply (.administration existing) []
        else reject .mutationConflict
    | none =>
        match view.get .activeExport with
        | some active =>
            reject (.exportInProgress active.spec.intent.exportId .definiteNoCommit)
        | none =>
            if (view.get .activeAdministration).isSome = true then
              reject (.resourceLimit "active_administration_operations" 1)
            else
              match view.get .clusterTopology with
              | none => .error (.other "control topology is missing")
              | some topology =>
                  match view.transitionalTopology topology intent with
                  | .error error => reject error
                  | .ok transitional =>
                      reply (.administration (.pending intent)) (beginWrites intent transitional)

def applyCompleteAdministration (view : GroupView) (request : AdministrationRequestId) :
    Applied :=
  if view.identity.kind ≠ .control then
    reject (.identityMismatch "administration completion reached a data group")
  else
    match view.get (.administrationRequest request) with
    | none => reject requestNotFound
    | some operation =>
        if operation.lifecycle ≠ .pending then reply (.administration operation) []
        else if operation.intent.request ≠ request then reject .mutationConflict
        else
          match view.get .activeAdministration with
          | none => reject .mutationConflict
          | some active =>
              if active.intent.request ≠ request then reject .mutationConflict
              else
                match view.get .clusterTopology with
                | none => .error (.other "control topology is missing")
                | some current =>
                    let completed : Except DomainError ClusterTopology :=
                      match operation.intent with
                      | .replaceVoter _ expectedTopologyRevision remove add =>
                          current.replacementComplete expectedTopologyRevision remove add
                      | .transferLeader _ _ _ => .ok current
                    match completed with
                    | .error error => reject error
                    | .ok topology =>
                        reply (.administration (operation.completed topology.revision))
                          [.put .clusterTopology topology,
                            .put (.administrationRequest request)
                              (operation.completed topology.revision),
                            .delete .activeAdministration]

def applyAbortAdministration (view : GroupView) (request : AdministrationRequestId) : Applied :=
  if view.identity.kind ≠ .control then
    reject (.identityMismatch "administration abort reached a data group")
  else
    match view.get (.administrationRequest request) with
    | none => reject requestNotFound
    | some operation =>
        if operation.lifecycle ≠ .pending then reply (.administration operation) []
        else
          match view.get .activeAdministration with
          | none => reject .mutationConflict
          | some active =>
              if active.intent.request ≠ request then reject .mutationConflict
              else
                match view.get .clusterTopology with
                | none => .error (.other "control topology is missing")
                | some current =>
                    let finish (revision : Nat) (writes : StateBatch) : Applied :=
                      reply (.administration (operation.abort revision))
                        (writes ++ [.put (.administrationRequest request)
                            (operation.abort revision),
                          .put .activeAdministration (operation.abort revision)])
                    match operation.intent with
                    | .replaceVoter _ expectedTopologyRevision remove add =>
                        match current.replacementAbort expectedTopologyRevision remove add with
                        | .error error => reject error
                        | .ok topology =>
                            finish topology.revision [.put .clusterTopology topology]
                    | .transferLeader _ _ _ => finish current.revision []

def applyFinishAdministrationAbort (view : GroupView) (request : AdministrationRequestId) :
    Applied :=
  match view.get (.administrationRequest request) with
  | none => reject requestNotFound
  | some operation =>
      if operation.lifecycle.isAborted = false then
        reject .mutationConflict
      else
        match view.get .activeAdministration with
        | none => reply (.administration operation) []
        | some active =>
            if active.intent.request ≠ request then reject .mutationConflict
            else reply (.administration operation) [.delete .activeAdministration]

def applyInitializeClusterTopology (view : GroupView) (topology : ClusterTopology) : Applied :=
  if view.identity.kind ≠ .control then
    reject (.identityMismatch "cluster topology initialization reached a data group")
  else
    match view.get .clusterTopology with
    | some existing =>
        if existing = topology then reply .noop []
        else
          reject (.identityMismatch "cluster topology conflicts with existing control state")
    | none => reply .noop [.put .clusterTopology topology]

def applyInitializeSecurityPolicy (view : GroupView) (policy : SecurityPolicy) : Applied :=
  if view.identity.kind ≠ .control then
    reject (.identityMismatch "security policy initialization reached a data group")
  else if policy.cluster ≠ view.identity.clusterId then
    reject (.identityMismatch "security policy cluster does not match the control group")
  else
    match view.get .securityPolicy with
    | some existing =>
        if existing = policy then reply (.securityPolicy existing) []
        else reject .securityPolicyConflict
    | none => reply (.securityPolicy policy) [.put .securityPolicy policy]

def applySecurityMutation (view : GroupView) (mutation : SecurityMutation) : Applied :=
  if view.identity.kind ≠ .control then
    reject (.identityMismatch "security policy mutation reached a data group")
  else
    match view.priorMutationResult mutation.request (.security mutation) with
    | some result => reply result []
    | none =>
        match view.get .securityPolicy with
        | none => reject .securityPolicyConflict
        | some policy =>
            match policy.apply mutation with
            | .error error =>
                reply (.rejected error)
                  (view.storeMutationResult mutation.request (.security mutation)
                    (.rejected error))
            | .ok next =>
                reply (.securityPolicy next)
                  (.put .securityPolicy next ::
                    view.storeMutationResult mutation.request (.security mutation)
                      (.securityPolicy next))

/-- What `apply_secured_transport` requires of the new topology and policy. -/
def SecuredTransportValid (view : GroupView) (current topology : ClusterTopology)
    (policy : SecurityPolicy) : Prop :=
  topology.revision = saturatingAdd current.revision 1 ∧
    topology.desiredVoters = current.desiredVoters ∧
    Kv.TreeMap.keySet topology.authorizedNodes = Kv.TreeMap.keySet current.authorizedNodes ∧
    (∀ node ∈ Kv.TreeMap.values topology.authorizedNodes,
      node.publicUri.isHttps = true ∧ node.peerUri.isHttps = true) ∧
    policy.cluster = view.identity.clusterId ∧
    ∀ node ∈ Kv.TreeMap.keySet topology.authorizedNodes, policy.hasActivePeer node = true

instance (view : GroupView) (current topology : ClusterTopology) (policy : SecurityPolicy) :
    Decidable (view.SecuredTransportValid current topology policy) :=
  inferInstanceAs (Decidable (_ ∧ _ ∧ _ ∧ _ ∧ _ ∧ _))

def applySecuredTransport (view : GroupView) (request : MutationRequestId)
    (topology : ClusterTopology) (policy : SecurityPolicy) : Applied :=
  if view.identity.kind ≠ .control then
    reject (.identityMismatch "secured transport activation reached a data group")
  else
    match view.priorMutationResult request (.transport request topology policy) with
    | some result => reply result []
    | none =>
        match view.get .clusterTopology with
        | none => .error (.other "control topology is missing")
        | some current =>
            match view.get .securityPolicy with
            | some existing =>
                if existing = policy ∧ current = topology then reply (.securityPolicy existing) []
                else reject .securityPolicyConflict
            | none =>
                if view.SecuredTransportValid current topology policy then
                  reply (.securityPolicy policy)
                    (.put .clusterTopology topology :: .put .securityPolicy policy ::
                      view.storeMutationResult request (.transport request topology policy)
                        (.securityPolicy policy))
                else reject .securityPolicyConflict

def applyOperationalProbe (view : GroupView) (logId : GroupLogId) (group : GroupId) : Applied :=
  if group ≠ view.identity.groupId then
    reject (.identityMismatch "operational probe reached another group")
  else
    match NodeId.new logId.nodeId with
    | .error error => .error (.domain error)
    | .ok leader =>
        let proof : OperationalProof := ⟨group, leader, logId.term, logId.index⟩
        reply (.operationalProof proof) [.put .operationalProof proof]

end GroupView

end LightStream
