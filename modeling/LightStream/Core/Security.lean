import Mathlib.Data.Prod.Lex
import Mathlib.Data.String.Basic
import Mathlib.Data.Finset.Max
import LightStream.Kv.TreeMap
import LightStream.Core.Identity

/-!
The replicated security policy of `light-stream-core`: grants, token verifiers and peer
certificates, and the revisioned mutations that change them.
-/

namespace LightStream

open Kv (TreeMap)

def maxSecurityPrincipals : Nat := 4096
def maxSecurityGrants : Nat := 65536
def maxTokenVerifiers : Nat := 16384
def maxPeerCertificates : Nat := 4096

instance : LinearOrder PrincipalId :=
  LinearOrder.lift' PrincipalId.text fun first second same => by
    cases first; cases second; simp_all

instance principalOrd : Std.TransCmp (compare : PrincipalId → PrincipalId → Ordering) :=
  inferInstance

@[ext]
structure PolicyRevision where
  value : Nat
  nonzero : value ≠ 0

instance : DecidableEq PolicyRevision := fun _ _ => decidable_of_iff _ PolicyRevision.ext_iff.symm

def PolicyRevision.checkedNext (revision : PolicyRevision) : Except DomainError PolicyRevision :=
  if revision.value + 1 ≤ u64Max then .ok ⟨revision.value + 1, by omega⟩
  else .error (.invalidRange "security policy revision overflow")

def checkedNextRevocation (revision : Nat) :
    Except DomainError Nat :=
  if revision + 1 ≤ u64Max then .ok (revision + 1)
  else .error (.invalidRange "security revocation revision overflow")

structure CredentialId where
  text : String
deriving DecidableEq

@[ext]
structure CredentialGeneration where
  value : Nat
  nonzero : value ≠ 0

instance : DecidableEq CredentialGeneration := fun _ _ => decidable_of_iff _ CredentialGeneration.ext_iff.symm

structure CredentialRef where
  id : CredentialId
  generation : CredentialGeneration
deriving DecidableEq

structure TokenVerifierDigest where
  bytes : Nat
deriving DecidableEq

structure CertificateFingerprint where
  bytes : Nat
deriving DecidableEq

inductive CredentialStatus where
  | active
  | revoked (revision : Nat)
deriving DecidableEq

structure TokenVerifier where
  credential : CredentialRef
  principal : PrincipalId
  digest : TokenVerifierDigest
  status : CredentialStatus
deriving DecidableEq

structure PeerCertificateBinding where
  cluster : ClusterId
  node : NodeId
  generation : CredentialGeneration
  fingerprint : CertificateFingerprint
  status : CredentialStatus
deriving DecidableEq

/-- The position of a status in the derived order: active first, then by revocation. -/
def CredentialStatus.rank : CredentialStatus → Nat
  | .active => 0
  | .revoked revision => revision + 1

theorem CredentialStatus.rank_injective : Function.Injective CredentialStatus.rank := by
  intro first second same
  cases first <;> cases second <;> simp_all [CredentialStatus.rank]

def PeerCertificateBinding.rank (binding : PeerCertificateBinding) :
    Nat ×ₗ Nat ×ₗ Nat ×ₗ Nat ×ₗ Nat :=
  toLex (binding.cluster.uuid, toLex (binding.node.value, toLex (binding.generation.value,
    toLex (binding.fingerprint.bytes, binding.status.rank))))

theorem PeerCertificateBinding.rank_injective :
    Function.Injective PeerCertificateBinding.rank := by
  rintro ⟨⟨_⟩, ⟨_, _⟩, ⟨_, _⟩, ⟨_⟩, _⟩ ⟨⟨_⟩, ⟨_, _⟩, ⟨_, _⟩, ⟨_⟩, _⟩ same
  simp only [rank, EmbeddingLike.apply_eq_iff_eq, Prod.mk.injEq] at same
  obtain ⟨rfl, rfl, rfl, rfl, status⟩ := same
  rw [CredentialStatus.rank_injective status]

instance : LinearOrder PeerCertificateBinding :=
  LinearOrder.lift' PeerCertificateBinding.rank PeerCertificateBinding.rank_injective

inductive Permission where
  | clusterObserve
  | clusterBootstrap
  | streamDiscover
  | streamCreate
  | streamDescribe
  | streamDelete
  | routeResolve
  | publish
  | fetch
  | receiptRead
  | bookmarkRead
  | bookmarkManage
  | retentionRead
  | retentionManage
  | replayRead
  | replayManage
  | checkpointRead
  | checkpointManage
  | snapshotManage
  | clusterAdmin
  | securityObserve
  | securityAdmin
deriving DecidableEq

inductive ResourceScope where
  | cluster (cluster : ClusterId)
  | allStreams (cluster : ClusterId)
  | stream (cluster : ClusterId) (stream : StreamId)
deriving DecidableEq

def ResourceScope.clusterId : ResourceScope → ClusterId
  | .cluster owner => owner
  | .allStreams owner => owner
  | .stream owner _ => owner

structure Grant where
  permission : Permission
  scope : ResourceScope
deriving DecidableEq

/-- `scope_covers`: a cluster grant covers no stream and a stream grant covers no cluster. -/
def scopeCovers : ResourceScope → ResourceScope → Bool
  | .cluster grant, .cluster requested => decide (grant = requested)
  | .allStreams grant, .allStreams requested => decide (grant = requested)
  | .allStreams grant, .stream requested _ => decide (grant = requested)
  | .stream grantCluster grantStream, .stream requestedCluster requestedStream =>
      decide (grantCluster = requestedCluster) && decide (grantStream = requestedStream)
  | _, _ => false

structure AuthenticatedPrincipal where
  principal : PrincipalId
  credential : CredentialRef
  policyRevision : PolicyRevision
  revocationRevision : Nat
deriving DecidableEq

structure PolicyBody where
  cluster : ClusterId
  revision : PolicyRevision
  revocationRevision : Nat
  grants : TreeMap PrincipalId (Finset Grant)
  tokenVerifiers : List TokenVerifier
  peerCertificates : TreeMap NodeId (Finset PeerCertificateBinding)
deriving DecidableEq

def PolicyBody.hasSecurityAdmin (policy : PolicyBody) : Bool :=
  policy.tokenVerifiers.any fun verifier =>
    decide (verifier.status = .active) &&
      match policy.grants[verifier.principal]? with
      | none => false
      | some grants => decide (⟨.securityAdmin, .cluster policy.cluster⟩ ∈ grants)

def PolicyBody.validate (policy : PolicyBody) : Except DomainError Unit :=
  if policy.grants.size > maxSecurityPrincipals ∨
      ((TreeMap.values policy.grants).map Finset.card).sum > maxSecurityGrants ∨
      policy.tokenVerifiers.length > maxTokenVerifiers ∨
      ((TreeMap.values policy.peerCertificates).map Finset.card).sum > maxPeerCertificates then
    .error (.resourceLimit "security policy entries" maxSecurityGrants)
  else if ∃ grants ∈ TreeMap.values policy.grants, ∃ grant ∈ grants,
      grant.scope.clusterId ≠ policy.cluster then .error .securityPolicyConflict
  else if ¬(policy.tokenVerifiers.map TokenVerifier.credential).Nodup ∨
      ¬(policy.tokenVerifiers.map TokenVerifier.digest).Nodup then .error .securityPolicyConflict
  else if ∃ entry ∈ policy.peerCertificates.toList, ∃ binding ∈ entry.2,
      binding.node ≠ entry.1 ∨ binding.cluster ≠ policy.cluster then .error .securityPolicyConflict
  else if policy.hasSecurityAdmin then .ok ()
  else .error .securityPolicyConflict

structure SecurityPolicy extends PolicyBody where
  valid : toPolicyBody.validate = .ok ()
deriving DecidableEq

def SecurityPolicy.tryNew (body : PolicyBody) : Except DomainError SecurityPolicy :=
  match valid : body.validate with
  | .error error => .error error
  | .ok () => .ok ⟨body, valid⟩

def PolicyBody.authenticate (policy : PolicyBody) (credential : CredentialRef)
    (presented : TokenVerifierDigest) : Except DomainError AuthenticatedPrincipal :=
  match policy.tokenVerifiers.find? fun verifier => verifier.credential = credential with
  | none => .error .securityAuthenticationFailed
  | some verifier =>
      if verifier.status ≠ .active ∨ verifier.digest ≠ presented then
        .error .securityAuthenticationFailed
      else .ok ⟨verifier.principal, credential, policy.revision, policy.revocationRevision⟩

def PolicyBody.authorize (policy : PolicyBody) (principal : PrincipalId) (permission : Permission)
    (resource : ResourceScope) : Except DomainError Unit :=
  match policy.grants[principal]? with
  | none => .error .securityPermissionDenied
  | some grants =>
      if ∃ grant ∈ grants, grant.permission = permission ∧ scopeCovers grant.scope resource then
        .ok ()
      else .error .securityPermissionDenied

def PolicyBody.validateActiveCredentialBinding (policy : PolicyBody)
    (authenticated : AuthenticatedPrincipal) : Except DomainError Unit :=
  if ∃ verifier ∈ policy.tokenVerifiers, verifier.status = .active ∧
      verifier.credential = authenticated.credential ∧
      verifier.principal = authenticated.principal then .ok ()
  else .error .securityAuthenticationFailed

def PolicyBody.bindingsOf (policy : PolicyBody) (node : NodeId) : Finset PeerCertificateBinding :=
  policy.peerCertificates[node]?.getD ∅

def PolicyBody.authenticatePeer (policy : PolicyBody) (cluster : ClusterId) (node : NodeId)
    (fingerprint : CertificateFingerprint) : Except DomainError Unit :=
  if cluster ≠ policy.cluster then .error .securityAuthenticationFailed
  else if ∃ binding ∈ policy.bindingsOf node, binding.status = .active ∧
      binding.cluster = cluster ∧ binding.node = node ∧ binding.fingerprint = fingerprint then
    .ok ()
  else .error .securityAuthenticationFailed

def SecurityPolicy.hasActivePeer (policy : SecurityPolicy) (node : NodeId) : Bool :=
  match policy.peerCertificates[node]? with
  | none => false
  | some bindings => decide (∃ binding ∈ bindings, binding.status = .active)

inductive SecurityChange where
  | replacePrincipalGrants (principal : PrincipalId) (grants : Finset Grant)
  | addTokenGeneration (verifier : TokenVerifier)
  | revokeTokenGeneration (credential : CredentialRef)
  | addPeerCertificate (binding : PeerCertificateBinding)
  | revokePeerCertificate (node : NodeId) (generation : CredentialGeneration)
deriving DecidableEq

structure SecurityMutation where
  request : MutationRequestId
  expectedRevision : PolicyRevision
  change : SecurityChange
deriving DecidableEq

def revokeVerifier (credential : CredentialRef) (revocation : Nat) :
    List TokenVerifier → Option (List TokenVerifier)
  | [] => none
  | verifier :: rest =>
      if verifier.credential = credential then
        some ({ verifier with status := .revoked revocation } :: rest)
      else (revokeVerifier credential revocation rest).map (verifier :: ·)

def firstBinding (bindings : Finset PeerCertificateBinding) (generation : CredentialGeneration) :
    Option PeerCertificateBinding :=
  let candidates := bindings.filter fun binding => binding.generation = generation
  if found : candidates.Nonempty then some (candidates.min' found) else none

def PolicyBody.change (next : PolicyBody) : SecurityChange → Except DomainError PolicyBody
  | .replacePrincipalGrants principal grants =>
      .ok { next with grants := next.grants.insert principal grants }
  | .addTokenGeneration verifier =>
      if ∃ existing ∈ next.tokenVerifiers, existing.credential.id = verifier.credential.id ∧
          verifier.credential.generation.value ≤ existing.credential.generation.value then
        .error .securityPolicyConflict
      else if ∃ existing ∈ next.tokenVerifiers,
          existing.digest = verifier.digest ∨ existing.credential = verifier.credential then
        .error .securityPolicyConflict
      else .ok { next with tokenVerifiers := next.tokenVerifiers ++ [verifier] }
  | .revokeTokenGeneration credential =>
      match checkedNextRevocation next.revocationRevision with
      | .error error => .error error
      | .ok revocation =>
          match revokeVerifier credential revocation next.tokenVerifiers with
          | none => .error .securityPolicyConflict
          | some tokenVerifiers =>
              .ok { next with tokenVerifiers, revocationRevision := revocation }
  | .addPeerCertificate binding =>
      if binding.cluster ≠ next.cluster then .error .securityPolicyConflict
      else
        let bindings := next.peerCertificates[binding.node]?.getD ∅
        if ∃ existing ∈ bindings, binding.generation.value ≤ existing.generation.value then
          .error .securityPolicyConflict
        else
          .ok { next with
            peerCertificates := next.peerCertificates.insert binding.node (insert binding bindings) }
  | .revokePeerCertificate node generation =>
      match checkedNextRevocation next.revocationRevision with
      | .error error => .error error
      | .ok revocation =>
          match next.peerCertificates[node]? with
          | none => .error .securityPolicyConflict
          | some bindings =>
              match firstBinding bindings generation with
              | none => .error .securityPolicyConflict
              | some binding =>
                  let revoked := { binding with status := .revoked revocation }
                  .ok { next with
                    peerCertificates := next.peerCertificates.insert node
                      (insert revoked (bindings.erase binding)),
                    revocationRevision := revocation }

def SecurityPolicy.apply (policy : SecurityPolicy) (mutation : SecurityMutation) :
    Except DomainError SecurityPolicy :=
  if mutation.expectedRevision ≠ policy.revision then .error .securityPolicyConflict
  else
    match policy.revision.checkedNext with
    | .error error => .error error
    | .ok revision =>
        match { policy.toPolicyBody with revision }.change mutation.change with
        | .error error => .error error
        | .ok next => SecurityPolicy.tryNew next

end LightStream
