import LightStream.Core.Security

/-!
Public admission in secured mode: the `PolicyLease` of a node and
`RuntimeSecurityConfig::authorize`.  Instants and durations are nanoseconds; the evidence of
a request is what `bearer_evidence` reads from its metadata.
-/

namespace LightStream

inductive ServiceStatus where
  | unavailable (error : DomainError)
  | policyUnavailable
  | unauthenticated (message : String)
  | permissionDenied (message : String)
deriving DecidableEq

def instantMax : Nat := (2 ^ 63 - 1) * 10 ^ 9 + 999999999

def policyDeadline (confirmedAt interval : Nat) : Except DomainError Nat :=
  if confirmedAt + interval ≤ instantMax then .ok (confirmedAt + interval)
  else .error (.storage "security policy lease deadline overflow")

structure PolicyLease where
  policy : SecurityPolicy
  confirmedAt : Nat
deriving DecidableEq

def PolicyLease.current (lease : PolicyLease) (now maximumPolicyStaleness : Nat) :
    Except DomainError SecurityPolicy :=
  match policyDeadline lease.confirmedAt maximumPolicyStaleness with
  | .error error => .error error
  | .ok freshUntil => if now < freshUntil then .ok lease.policy else .error .securityPolicyStale

def PolicyLease.renew (lease : PolicyLease) (policy : SecurityPolicy) (now : Nat) :
    Except DomainError PolicyLease :=
  if policy.revision.value < lease.policy.revision.value then .error .securityPolicyConflict
  else if policy.revision = lease.policy.revision ∧ policy ≠ lease.policy then
    .error .securityPolicyConflict
  else .ok ⟨policy, max lease.confirmedAt now⟩

def PolicyLease.renewPolicyAt (lease : PolicyLease) (cluster : ClusterId)
    (policy : SecurityPolicy) (now : Nat) : Except DomainError PolicyLease :=
  if policy.cluster ≠ cluster then
    .error (.identityMismatch "refreshed security policy belongs to another cluster")
  else lease.renew policy now

structure PublicRequest where
  evidence : Option (CredentialRef × TokenVerifierDigest)
  permission : Permission
  resource : ResourceScope
  claimedPrincipal : Option PrincipalId
deriving DecidableEq

def authorizationStatus : DomainError → ServiceStatus
  | .securityPolicyStale => .unavailable .securityPolicyStale
  | _ => .permissionDenied "client is not authorized for this operation"

def RuntimeSecurityConfig.authorize (policy : Option SecurityPolicy) (request : PublicRequest) :
    Except ServiceStatus AuthenticatedPrincipal :=
  match policy with
  | none => .error .policyUnavailable
  | some policy =>
    match request.evidence with
    | none => .error (.unauthenticated "client authentication failed")
    | some (credential, digest) =>
      match policy.authenticate credential digest with
      | .error _ => .error (.unauthenticated "client authentication failed")
      | .ok principal =>
        match policy.authorize principal.principal request.permission request.resource with
        | .error error => .error (authorizationStatus error)
        | .ok () =>
          if ∃ claimed ∈ request.claimedPrincipal, claimed ≠ principal.principal then
            .error (.permissionDenied
              "request principal does not match the authenticated principal")
          else .ok principal

/-- The admission of a public request on a node of a cluster, after the attempt to renew. -/
def PolicyLease.admission (lease : PolicyLease) (now maximumPolicyStaleness : Nat)
    (request : PublicRequest) : Except ServiceStatus AuthenticatedPrincipal :=
  match lease.current now maximumPolicyStaleness with
  | .error error => .error (.unavailable error)
  | .ok policy => RuntimeSecurityConfig.authorize (some policy) request

theorem PolicyLease.current_ok {lease : PolicyLease} {now maximumPolicyStaleness : Nat}
    {policy : SecurityPolicy}
    (fresh : lease.current now maximumPolicyStaleness = .ok policy) :
    policy = lease.policy ∧ now < lease.confirmedAt + maximumPolicyStaleness := by
  unfold current policyDeadline at fresh
  split at fresh
  · simp at fresh
  · rename_i freshUntil deadline
    split at deadline
    · cases deadline
      split at fresh
      · rename_i live
        cases fresh
        exact ⟨rfl, live⟩
      · simp at fresh
    · simp at deadline

theorem PolicyLease.current_live {lease : PolicyLease} {now maximumPolicyStaleness : Nat}
    (live : now < lease.confirmedAt + maximumPolicyStaleness)
    (bounded : lease.confirmedAt + maximumPolicyStaleness ≤ instantMax) :
    lease.current now maximumPolicyStaleness = .ok lease.policy := by
  simp only [current, policyDeadline, if_pos bounded, if_pos live]

theorem PolicyLease.renewPolicyAt_ok {lease next : PolicyLease} {cluster : ClusterId}
    {policy : SecurityPolicy} {now : Nat}
    (renewed : lease.renewPolicyAt cluster policy now = .ok next) :
    lease.policy.revision.value ≤ policy.revision.value ∧
      next = ⟨policy, max lease.confirmedAt now⟩ := by
  unfold renewPolicyAt at renewed
  split at renewed
  · simp at renewed
  · unfold renew at renewed
    split at renewed
    · simp at renewed
    · rename_i newer
      split at renewed
      · simp at renewed
      · cases renewed
        exact ⟨not_lt.mp newer, rfl⟩

theorem PolicyLease.admit_ok {lease : PolicyLease} {now maximumPolicyStaleness : Nat}
    {request : PublicRequest} {principal : AuthenticatedPrincipal}
    (admitted : lease.admission now maximumPolicyStaleness request = .ok principal) :
    lease.current now maximumPolicyStaleness = .ok lease.policy ∧
      RuntimeSecurityConfig.authorize (some lease.policy) request = .ok principal := by
  unfold admission at admitted
  split at admitted
  · simp at admitted
  · rename_i policy fresh
    obtain ⟨rfl, _⟩ := current_ok fresh
    exact ⟨fresh, admitted⟩

theorem RuntimeSecurityConfig.authorize_ok {policy : SecurityPolicy} {request : PublicRequest}
    {principal : AuthenticatedPrincipal}
    (authorized : RuntimeSecurityConfig.authorize (some policy) request = .ok principal) :
    ∃ credential digest, request.evidence = some (credential, digest) ∧
      policy.authenticate credential digest = .ok principal ∧
      policy.authorize principal.principal request.permission request.resource = .ok () ∧
      ∀ claimed ∈ request.claimedPrincipal, claimed = principal.principal := by
  unfold RuntimeSecurityConfig.authorize at authorized
  split at authorized
  · simp at authorized
  · rename_i held same
    cases same
    split at authorized
    · simp at authorized
    · rename_i credential digest evidence
      split at authorized
      · simp at authorized
      · rename_i found authenticated
        split at authorized
        · simp at authorized
        · rename_i granted
          split at authorized
          · simp at authorized
          · rename_i claims
            cases authorized
            push Not at claims
            exact ⟨credential, digest, evidence, authenticated, granted, claims⟩

end LightStream
