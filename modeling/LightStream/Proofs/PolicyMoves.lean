import LightStream.Core.Security

/-!
What an accepted security mutation does to the policy, and the policies that a sequence of
mutations leads to.
-/

namespace LightStream

open Kv (TreeMap)

theorem PolicyRevision.checkedNext_ok {revision next : PolicyRevision}
    (done : revision.checkedNext = .ok next) :
    next.value = revision.value + 1 ∧ next.value ≤ u64Max := by
  unfold checkedNext at done
  split at done
  · rename_i fits
    cases done
    exact ⟨rfl, fits⟩
  · simp at done

theorem checkedNextRevocation_ok {revision next : Nat}
    (done : checkedNextRevocation revision = .ok next) : next = revision + 1 := by
  unfold checkedNextRevocation at done
  split at done
  · cases done
    rfl
  · simp at done

theorem revokeVerifier_some {credential : CredentialRef} {revocation : Nat}
    {verifiers revoked : List TokenVerifier}
    (done : revokeVerifier credential revocation verifiers = some revoked) :
    ∃ before verifier after, verifiers = before ++ verifier :: after ∧
      verifier.credential = credential ∧
      revoked = before ++ { verifier with status := .revoked revocation } :: after := by
  induction verifiers generalizing revoked with
  | nil => simp [revokeVerifier] at done
  | cons verifier rest ih =>
      rw [revokeVerifier] at done
      split at done
      · rename_i same
        cases done
        exact ⟨[], verifier, rest, rfl, same, rfl⟩
      · obtain ⟨tail, revokedTail, rfl⟩ := Option.map_eq_some_iff.mp done
        obtain ⟨before, found, after, rfl, same, rfl⟩ := ih revokedTail
        exact ⟨verifier :: before, found, after, rfl, same, rfl⟩

theorem firstBinding_some {bindings : Finset PeerCertificateBinding}
    {generation : CredentialGeneration} {binding : PeerCertificateBinding}
    (found : firstBinding bindings generation = some binding) :
    binding ∈ bindings ∧ binding.generation = generation := by
  simp only [firstBinding] at found
  split at found
  · rename_i nonempty
    cases found
    exact Finset.mem_filter.mp (Finset.min'_mem _ nonempty)
  · simp at found

theorem PolicyBody.mem_bindingsOf {policy : PolicyBody} {node : NodeId}
    {binding : PeerCertificateBinding} :
    binding ∈ policy.bindingsOf node ↔
      ∃ bindings, policy.peerCertificates[node]? = some bindings ∧ binding ∈ bindings := by
  rw [bindingsOf]
  cases policy.peerCertificates[node]? <;> simp

/-- What each change does to a policy body, with the checks it passed. -/
inductive PolicyBody.Move (body : PolicyBody) : SecurityChange → PolicyBody → Prop
  | granted (principal : PrincipalId) (grants : Finset Grant) :
      body.Move (.replacePrincipalGrants principal grants)
        { body with grants := body.grants.insert principal grants }
  | tokenAdded (verifier : TokenVerifier)
      (newer : ∀ existing ∈ body.tokenVerifiers,
        existing.credential.id = verifier.credential.id →
          existing.credential.generation.value < verifier.credential.generation.value)
      (fresh : ∀ existing ∈ body.tokenVerifiers,
        existing.digest ≠ verifier.digest ∧ existing.credential ≠ verifier.credential) :
      body.Move (.addTokenGeneration verifier)
        { body with tokenVerifiers := body.tokenVerifiers ++ [verifier] }
  | tokenRevoked (before : List TokenVerifier) (verifier : TokenVerifier)
      (after : List TokenVerifier)
      (stored : body.tokenVerifiers = before ++ verifier :: after) :
      body.Move (.revokeTokenGeneration verifier.credential)
        { body with
          tokenVerifiers :=
            before ++ { verifier with status := .revoked (body.revocationRevision + 1) } :: after
          revocationRevision := body.revocationRevision + 1 }
  | peerAdded (binding : PeerCertificateBinding) (sameCluster : binding.cluster = body.cluster)
      (newer : ∀ existing ∈ body.bindingsOf binding.node,
        existing.generation.value < binding.generation.value) :
      body.Move (.addPeerCertificate binding)
        { body with
          peerCertificates := body.peerCertificates.insert binding.node
            (insert binding (body.bindingsOf binding.node)) }
  | peerRevoked (node : NodeId) (generation : CredentialGeneration)
      (binding : PeerCertificateBinding)
      (found : firstBinding (body.bindingsOf node) generation = some binding) :
      body.Move (.revokePeerCertificate node generation)
        { body with
          peerCertificates := body.peerCertificates.insert node
            (insert { binding with status := .revoked (body.revocationRevision + 1) }
              ((body.bindingsOf node).erase binding))
          revocationRevision := body.revocationRevision + 1 }

theorem PolicyBody.change_ok {body next : PolicyBody} {change : SecurityChange}
    (done : body.change change = .ok next) : body.Move change next := by
  cases change with
  | replacePrincipalGrants principal grants =>
      cases done
      exact .granted principal grants
  | addTokenGeneration verifier =>
      simp only [PolicyBody.change] at done
      split at done
      · simp at done
      · rename_i newer
        split at done
        · simp at done
        · rename_i fresh
          cases done
          push Not at newer fresh
          exact .tokenAdded verifier newer fresh
  | revokeTokenGeneration credential =>
      simp only [PolicyBody.change] at done
      split at done
      · simp at done
      · rename_i revocation next
        obtain rfl := checkedNextRevocation_ok next
        split at done
        · simp at done
        · rename_i tokenVerifiers revoked
          cases done
          obtain ⟨before, verifier, after, stored, rfl, rfl⟩ := revokeVerifier_some revoked
          exact .tokenRevoked before verifier after stored
  | addPeerCertificate binding =>
      simp only [PolicyBody.change] at done
      split at done
      · simp at done
      · rename_i sameCluster
        split at done
        · simp at done
        · rename_i newer
          cases done
          push Not at newer
          exact .peerAdded binding (not_not.mp sameCluster) newer
  | revokePeerCertificate node generation =>
      simp only [PolicyBody.change] at done
      split at done
      · simp at done
      · rename_i revocation next
        obtain rfl := checkedNextRevocation_ok next
        split at done
        · simp at done
        · rename_i bindings stored
          split at done
          · simp at done
          · rename_i binding found
            cases done
            have same : body.bindingsOf node = bindings := by
              rw [bindingsOf, stored, Option.getD_some]
            rw [← same] at found ⊢
            exact .peerRevoked node generation binding found

structure PolicyBody.Sound (body : PolicyBody) : Prop where
  credentials : (body.tokenVerifiers.map TokenVerifier.credential).Nodup
  digests : (body.tokenVerifiers.map TokenVerifier.digest).Nodup
  bindings : ∀ node, ∀ binding ∈ body.bindingsOf node,
    binding.node = node ∧ binding.cluster = body.cluster
  securityAdmin : body.hasSecurityAdmin = true

theorem PolicyBody.validate_ok {body : PolicyBody} (valid : body.validate = .ok ()) :
    body.Sound := by
  unfold validate at valid
  split at valid
  · simp at valid
  split at valid
  · simp at valid
  split at valid
  · simp at valid
  rename_i unique
  split at valid
  · simp at valid
  rename_i owned
  split at valid
  · rename_i securityAdmin
    push Not at unique owned
    refine ⟨unique.1, unique.2, ?_, securityAdmin⟩
    intro node binding member
    obtain ⟨bindings, stored, member⟩ := mem_bindingsOf.mp member
    exact owned (node, bindings) (Std.ExtTreeMap.mem_toList_iff_getElem?_eq_some.mpr stored)
      binding member
  · simp at valid

theorem PolicyBody.Sound.revised {body : PolicyBody} (sound : body.Sound)
    (revision : PolicyRevision) : PolicyBody.Sound { body with revision } :=
  ⟨sound.credentials, sound.digests, sound.bindings, sound.securityAdmin⟩

namespace SecurityPolicy

theorem sound (policy : SecurityPolicy) : policy.Sound := PolicyBody.validate_ok policy.valid

theorem tryNew_ok {body : PolicyBody} {policy : SecurityPolicy}
    (done : tryNew body = .ok policy) : policy.toPolicyBody = body := by
  unfold tryNew at done
  split at done
  · simp at done
  · cases done
    rfl

theorem apply_ok {policy next : SecurityPolicy} {mutation : SecurityMutation}
    (accepted : policy.apply mutation = .ok next) :
    mutation.expectedRevision = policy.revision ∧
      ∃ revision, policy.revision.checkedNext = .ok revision ∧
        PolicyBody.Move { policy.toPolicyBody with revision } mutation.change
          next.toPolicyBody := by
  unfold apply at accepted
  split at accepted
  · simp at accepted
  · rename_i expected
    refine ⟨not_not.mp expected, ?_⟩
    split at accepted
    · simp at accepted
    · rename_i revision advanced
      split at accepted
      · simp at accepted
      · rename_i body changed
        rw [tryNew_ok accepted]
        exact ⟨revision, advanced, PolicyBody.change_ok changed⟩

/-- The policies reached from a start, with the mutations that were accepted on the way.  A
rejected mutation leaves the policy as it is. -/
inductive Evolved (Allowed : SecurityPolicy → SecurityMutation → Prop) (start : SecurityPolicy) :
    List SecurityMutation → SecurityPolicy → Prop
  | start : Evolved Allowed start [] start
  | accepted {history : List SecurityMutation} {policy next : SecurityPolicy}
      {mutation : SecurityMutation} (evolved : Evolved Allowed start history policy)
      (allowed : Allowed policy mutation) (applied : policy.apply mutation = .ok next) :
      Evolved Allowed start (history ++ [mutation]) next
  | rejected {history : List SecurityMutation} {policy : SecurityPolicy}
      {mutation : SecurityMutation} {error : DomainError}
      (evolved : Evolved Allowed start history policy)
      (refused : policy.apply mutation = .error error) : Evolved Allowed start history policy

end SecurityPolicy

end LightStream
