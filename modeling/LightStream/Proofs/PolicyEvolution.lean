import LightStream.Proofs.Revocation

/-!
How a security policy evolves: the effect of one mutation, and what the verifiers of a policy
have in common after any history in which tokens are rotated for their own principal.
-/

namespace LightStream

def SecurityChange.grantee : SecurityChange → Option PrincipalId
  | .replacePrincipalGrants principal _ => some principal
  | _ => none

def SecurityChange.credential : SecurityChange → Option CredentialRef
  | .addTokenGeneration verifier => some verifier.credential
  | .revokeTokenGeneration credential => some credential
  | _ => none

def SecurityChange.isRevocation : SecurityChange → Bool
  | .revokeTokenGeneration _ => true
  | .revokePeerCertificate _ _ => true
  | _ => false

def SecurityChange.addedToken : SecurityChange → Option CredentialRef
  | .addTokenGeneration verifier => some verifier.credential
  | _ => none

/-- Whom a policy authenticates, without the revisions of the policy that did it. -/
def PolicyBody.identify (policy : PolicyBody) (credential : CredentialRef)
    (presented : TokenVerifierDigest) : Except DomainError (PrincipalId × CredentialRef) :=
  (policy.authenticate credential presented).map fun authenticated =>
    (authenticated.principal, authenticated.credential)

namespace PolicyBody

def Coherent (policy : PolicyBody) : Prop :=
  ∀ first ∈ policy.tokenVerifiers, ∀ second ∈ policy.tokenVerifiers,
    first.credential.id = second.credential.id → first.principal = second.principal

instance (policy : PolicyBody) : Decidable policy.Coherent :=
  inferInstanceAs (Decidable (∀ first ∈ _, _))

/-- What a list of verifiers keeps for good: each one's credential, principal and digest. -/
def tokens (policy : PolicyBody) : List (CredentialRef × PrincipalId × TokenVerifierDigest) :=
  policy.tokenVerifiers.map fun verifier =>
    (verifier.credential, verifier.principal, verifier.digest)

theorem identify_eq (policy : PolicyBody) (credential : CredentialRef)
    (presented : TokenVerifierDigest) :
    policy.identify credential presented =
      match policy.tokenVerifiers.find? fun verifier => verifier.credential = credential with
      | none => .error .securityAuthenticationFailed
      | some verifier =>
          if verifier.status ≠ .active ∨ verifier.digest ≠ presented then
            .error .securityAuthenticationFailed
          else .ok (verifier.principal, credential) := by
  unfold identify authenticate
  cases policy.tokenVerifiers.find? fun verifier => verifier.credential = credential with
  | none => rfl
  | some verifier =>
      by_cases denied : verifier.status ≠ .active ∨ verifier.digest ≠ presented
      · simp only [if_pos denied]
        rfl
      · simp only [if_neg denied]
        rfl

theorem Move.grants {body next : PolicyBody} {change : SecurityChange}
    (move : body.Move change next) (principal : PrincipalId)
    (other : change.grantee ≠ some principal) :
    next.grants[principal]? = body.grants[principal]? := by
  cases move with
  | granted target grants =>
      rw [Kv.TreeMap.get_insert, if_neg]
      rintro rfl
      exact other rfl
  | tokenAdded | tokenRevoked | peerAdded | peerRevoked => rfl

theorem Move.find {body next : PolicyBody} {change : SecurityChange}
    (move : body.Move change next) (credential : CredentialRef)
    (other : change.credential ≠ some credential) :
    (next.tokenVerifiers.find? fun verifier => verifier.credential = credential) =
      body.tokenVerifiers.find? fun verifier => verifier.credential = credential := by
  cases move with
  | granted | peerAdded | peerRevoked => rfl
  | tokenAdded verifier =>
      have different : ¬verifier.credential = credential := fun same => other (congrArg some same)
      rw [List.find?_append, List.find?_cons_of_neg (by simpa using different), List.find?_nil,
        Option.or_none]
  | tokenRevoked before verifier after stored =>
      have different : ¬verifier.credential = credential := fun same => other (congrArg some same)
      rw [stored, List.find?_append, List.find?_append,
        List.find?_cons_of_neg (by simpa using different),
        List.find?_cons_of_neg (by simpa using different)]

theorem Move.tokens {body next : PolicyBody} {change : SecurityChange}
    (move : body.Move change next) :
    ∃ added, next.tokens = body.tokens ++ added ∧
      added.map Prod.fst = change.addedToken.toList := by
  cases move with
  | granted | peerAdded | peerRevoked => exact ⟨[], (List.append_nil _).symm, rfl⟩
  | tokenAdded verifier => exact ⟨[_], List.map_append .., rfl⟩
  | tokenRevoked before verifier after stored =>
      refine ⟨[], ?_, rfl⟩
      rw [List.append_nil, PolicyBody.tokens, PolicyBody.tokens, stored]
      simp only [List.map_append, List.map_cons]

/-- From the given position on, every token has a generation above all earlier ones of its
credential id. -/
def Ascending (position : Nat)
    (tokens : List (CredentialRef × PrincipalId × TokenVerifierDigest)) : Prop :=
  ∀ before token after, tokens = before ++ token :: after → position ≤ before.length →
    ∀ earlier ∈ before, earlier.1.id = token.1.id →
      earlier.1.generation.value < token.1.generation.value

theorem Ascending.start (tokens : List (CredentialRef × PrincipalId × TokenVerifierDigest)) :
    Ascending tokens.length tokens := by
  intro before token after split outside
  have count := congrArg List.length split
  rw [List.length_append, List.length_cons] at count
  omega

theorem Ascending.concat {position : Nat}
    {tokens : List (CredentialRef × PrincipalId × TokenVerifierDigest)}
    {added : CredentialRef × PrincipalId × TokenVerifierDigest}
    (ascending : Ascending position tokens)
    (newer : ∀ earlier ∈ tokens, earlier.1.id = added.1.id →
      earlier.1.generation.value < added.1.generation.value) :
    Ascending position (tokens ++ [added]) := by
  intro before token after split outside
  rcases List.eq_nil_or_concat after with rfl | ⟨rest, last, rfl⟩
  · obtain ⟨rfl, same⟩ := List.append_inj' split rfl
    cases same
    exact newer
  · have shorter : tokens ++ [added] = (before ++ token :: rest) ++ [last] := by
      rw [split, List.concat_eq_append, List.append_assoc, List.cons_append]
    exact ascending before token rest (List.append_inj' shorter rfl).1 outside

theorem Move.ascending {body next : PolicyBody} {change : SecurityChange} {position : Nat}
    (move : body.Move change next) (ascending : Ascending position body.tokens) :
    Ascending position next.tokens := by
  cases move with
  | granted | peerAdded | peerRevoked => exact ascending
  | tokenAdded verifier newer =>
      have concat : PolicyBody.tokens
          { body with tokenVerifiers := body.tokenVerifiers ++ [verifier] } =
            body.tokens ++ [(verifier.credential, verifier.principal, verifier.digest)] :=
        List.map_append ..
      rw [concat]
      refine ascending.concat ?_
      intro earlier member same
      obtain ⟨existing, stored, rfl⟩ := List.mem_map.mp member
      exact newer existing stored same
  | tokenRevoked before verifier after stored =>
      rw [PolicyBody.tokens, stored] at ascending
      rw [PolicyBody.tokens]
      simp only [List.map_append, List.map_cons] at ascending ⊢
      exact ascending

theorem Move.revocationRevision {body next : PolicyBody} {change : SecurityChange}
    (move : body.Move change next) :
    next.revocationRevision =
      if change.isRevocation then body.revocationRevision + 1 else body.revocationRevision := by
  cases move with
  | granted | tokenAdded | tokenRevoked | peerAdded | peerRevoked => rfl

theorem Move.revision {body next : PolicyBody} {change : SecurityChange}
    (move : body.Move change next) : next.revision = body.revision := by
  cases move with
  | granted | tokenAdded | tokenRevoked | peerAdded | peerRevoked => rfl

theorem Move.mem_verifiers {body next : PolicyBody} {change : SecurityChange}
    (move : body.Move change next) {verifier : TokenVerifier}
    (other : change.credential ≠ some verifier.credential) :
    verifier ∈ next.tokenVerifiers ↔ verifier ∈ body.tokenVerifiers := by
  cases move with
  | granted | peerAdded | peerRevoked => rfl
  | tokenAdded added =>
      have different : verifier ≠ added := by
        rintro rfl
        exact other rfl
      simp only [List.mem_append, List.mem_singleton, different, or_false]
  | tokenRevoked before revoked after stored =>
      have different : verifier ≠ revoked := by
        rintro rfl
        exact other rfl
      have changed : verifier ≠
          { revoked with status := .revoked (body.revocationRevision + 1) } := by
        rintro rfl
        exact other rfl
      simp only [stored, List.mem_append, List.mem_cons, different, changed, false_or]

theorem Move.coherent {body next : PolicyBody} {change : SecurityChange}
    (move : body.Move change next)
    (rotates : ∀ verifier, change = .addTokenGeneration verifier →
      ∀ existing ∈ body.tokenVerifiers, existing.credential.id = verifier.credential.id →
        existing.principal = verifier.principal)
    (coherent : body.Coherent) : next.Coherent := by
  cases move with
  | granted | peerAdded | peerRevoked => exact coherent
  | tokenAdded verifier =>
      have rotates := rotates verifier rfl
      intro first firstMember second secondMember same
      rcases List.mem_append.mp firstMember with old | new
      · rcases List.mem_append.mp secondMember with old' | new
        · exact coherent first old second old' same
        · obtain rfl := List.mem_singleton.mp new
          exact rotates first old same
      · obtain rfl := List.mem_singleton.mp new
        rcases List.mem_append.mp secondMember with old | new
        · exact (rotates second old same.symm).symm
        · rw [List.mem_singleton.mp new]
  | tokenRevoked before revoked after stored =>
      -- Every verifier afterwards has the credential and the principal of one from before.
      have origin {verifier : TokenVerifier}
          (member : verifier ∈ before ++
            { revoked with status := .revoked (body.revocationRevision + 1) } :: after) :
          ∃ old ∈ body.tokenVerifiers, old.credential = verifier.credential ∧
            old.principal = verifier.principal := by
        rw [stored]
        rcases List.mem_append.mp member with early | rest
        · exact ⟨verifier, List.mem_append_left _ early, rfl, rfl⟩
        · rcases List.mem_cons.mp rest with rfl | late
          · exact ⟨revoked, List.mem_append_right _ List.mem_cons_self, rfl, rfl⟩
          · exact ⟨verifier, List.mem_append_right _ (List.mem_cons_of_mem _ late), rfl, rfl⟩
      intro first firstMember second secondMember same
      obtain ⟨old, oldMember, credential, principal⟩ := origin firstMember
      obtain ⟨other, otherMember, otherCredential, otherPrincipal⟩ := origin secondMember
      rw [← principal, ← otherPrincipal]
      refine coherent old oldMember other otherMember ?_
      rw [credential, otherCredential, same]

end PolicyBody

namespace SecurityPolicy

/-- A token generation is added for the principal that the credential id already has. -/
def RotatesPrincipal (policy : SecurityPolicy) (mutation : SecurityMutation) : Prop :=
  match mutation.change with
  | .addTokenGeneration verifier => ∀ existing ∈ policy.tokenVerifiers,
      existing.credential.id = verifier.credential.id → existing.principal = verifier.principal
  | _ => True

structure MutationEffect (policy : SecurityPolicy) (mutation : SecurityMutation)
    (next : SecurityPolicy) : Prop where
  expected : mutation.expectedRevision = policy.revision
  revision : next.revision.value = policy.revision.value + 1
  revocationRevision : next.revocationRevision =
    if mutation.change.isRevocation then policy.revocationRevision + 1
    else policy.revocationRevision
  authorize : ∀ principal, mutation.change.grantee ≠ some principal → ∀ permission resource,
    next.authorize principal permission resource = policy.authorize principal permission resource
  authenticate : ∀ credential, mutation.change.credential ≠ some credential → ∀ presented,
    next.identify credential presented = policy.identify credential presented
  binding : ∀ authenticated, mutation.change.credential ≠ some authenticated.credential →
    next.validateActiveCredentialBinding authenticated =
      policy.validateActiveCredentialBinding authenticated

theorem apply_effect {policy next : SecurityPolicy} {mutation : SecurityMutation}
    (accepted : policy.apply mutation = .ok next) : MutationEffect policy mutation next := by
  obtain ⟨expected, revision, advanced, move⟩ := apply_ok accepted
  refine ⟨expected, ?_, move.revocationRevision, ?_, ?_, ?_⟩
  · rw [move.revision]
    exact (PolicyRevision.checkedNext_ok advanced).1
  · intro principal other permission resource
    rw [PolicyBody.authorize, PolicyBody.authorize, move.grants principal other]
  · intro credential other presented
    rw [PolicyBody.identify_eq, PolicyBody.identify_eq, move.find credential other]
  · intro authenticated other
    have same : (∃ verifier ∈ next.tokenVerifiers, verifier.status = .active ∧
          verifier.credential = authenticated.credential ∧
          verifier.principal = authenticated.principal) ↔
        ∃ verifier ∈ policy.tokenVerifiers, verifier.status = .active ∧
          verifier.credential = authenticated.credential ∧
          verifier.principal = authenticated.principal := by
      constructor
      · rintro ⟨verifier, member, active, credential, principal⟩
        exact ⟨verifier, (move.mem_verifiers (credential ▸ other)).mp member, active, credential,
          principal⟩
      · rintro ⟨verifier, member, active, credential, principal⟩
        exact ⟨verifier, (move.mem_verifiers (credential ▸ other)).mpr member, active, credential,
          principal⟩
    simp only [PolicyBody.validateActiveCredentialBinding, same]

structure PolicyHistory (start : SecurityPolicy) (history : List SecurityMutation)
    (policy : SecurityPolicy) : Prop where
  revision : policy.revision.value = start.revision.value + history.length
  revocationRevision : policy.revocationRevision = start.revocationRevision +
    (history.filter fun mutation => mutation.change.isRevocation).length
  /-- Tokens are only added, in the order of the mutations that add them. -/
  tokens : ∃ added, policy.tokens = start.tokens ++ added ∧
    added.map Prod.fst = history.filterMap fun mutation => mutation.change.addedToken
  /-- Every added generation is above all earlier ones of its credential id. -/
  increasing : PolicyBody.Ascending start.tokens.length policy.tokens
  coherent : policy.Coherent
  /-- The principal bound to a credential stays. -/
  bound : ∀ first ∈ start.tokenVerifiers, ∀ second ∈ policy.tokenVerifiers,
    second.credential = first.credential → second.principal = first.principal
  securityAdmin : ∃ verifier ∈ policy.tokenVerifiers, verifier.status = .active ∧
    policy.authorize verifier.principal .securityAdmin (.cluster policy.cluster) = .ok ()

theorem securityAdmin_active (policy : SecurityPolicy) :
    ∃ verifier ∈ policy.tokenVerifiers, verifier.status = .active ∧
      policy.authorize verifier.principal .securityAdmin (.cluster policy.cluster) = .ok () := by
  have held := policy.sound.securityAdmin
  unfold PolicyBody.hasSecurityAdmin at held
  obtain ⟨verifier, member, granted⟩ := List.any_eq_true.mp held
  rw [Bool.and_eq_true, decide_eq_true_eq] at granted
  obtain ⟨active, granted⟩ := granted
  refine ⟨verifier, member, active, ?_⟩
  unfold PolicyBody.authorize
  split at granted
  · simp at granted
  · rename_i grants stored
    rw [decide_eq_true_eq] at granted
    refine if_pos ⟨_, granted, rfl, ?_⟩
    simp [scopeCovers]

section
variable {Allowed : SecurityPolicy → SecurityMutation → Prop} {start policy : SecurityPolicy}
  {history : List SecurityMutation}

theorem Evolved.revision (evolved : Evolved Allowed start history policy) :
    policy.revision.value = start.revision.value + history.length := by
  induction evolved with
  | start => rfl
  | accepted _ _ applied ih =>
      rw [(apply_effect applied).revision, ih, List.length_append, List.length_singleton]
      omega
  | rejected _ _ ih => exact ih

theorem Evolved.revocationRevision (evolved : Evolved Allowed start history policy) :
    policy.revocationRevision = start.revocationRevision +
      (history.filter fun mutation => mutation.change.isRevocation).length := by
  induction evolved with
  | start => rfl
  | @accepted _ _ _ mutation _ _ applied ih =>
      rw [(apply_effect applied).revocationRevision, ih, List.filter_append, List.length_append]
      cases revokes : mutation.change.isRevocation <;> simp [revokes, Nat.add_assoc]
  | rejected _ _ ih => exact ih

theorem Evolved.ascending (evolved : Evolved Allowed start history policy) :
    PolicyBody.Ascending start.tokens.length policy.tokens := by
  induction evolved with
  | start => exact .start start.tokens
  | accepted _ _ applied ih =>
      obtain ⟨_, revision, _, move⟩ := apply_ok applied
      exact move.ascending ih
  | rejected _ _ ih => exact ih

theorem Evolved.coherent (evolved : Evolved RotatesPrincipal start history policy)
    (coherent : start.Coherent) : policy.Coherent := by
  induction evolved with
  | start => exact coherent
  | accepted _ rotates applied ih =>
      obtain ⟨_, revision, _, move⟩ := apply_ok applied
      refine move.coherent ?_ ih
      intro verifier adds
      rw [RotatesPrincipal, adds] at rotates
      exact rotates
  | rejected _ _ ih => exact ih

theorem Evolved.tokens (evolved : Evolved Allowed start history policy) :
    ∃ added, policy.tokens = start.tokens ++ added ∧
      added.map Prod.fst = history.filterMap fun mutation => mutation.change.addedToken := by
  induction evolved with
  | start => exact ⟨[], (List.append_nil _).symm, rfl⟩
  | @accepted _ _ _ mutation _ _ applied ih =>
      obtain ⟨added, tokens, credentials⟩ := ih
      obtain ⟨_, revision, _, move⟩ := apply_ok applied
      obtain ⟨last, moved, lastCredential⟩ := move.tokens
      refine ⟨added ++ last, ?_, ?_⟩
      · rw [moved, ← List.append_assoc, ← tokens]
        rfl
      · rw [List.map_append, credentials, lastCredential, List.filterMap_append]
        cases named : mutation.change.addedToken <;> simp [named]
  | rejected _ _ ih => exact ih

theorem Evolved.bound (evolved : Evolved Allowed start history policy) :
    ∀ first ∈ start.tokenVerifiers, ∀ second ∈ policy.tokenVerifiers,
      second.credential = first.credential → second.principal = first.principal := by
  intro first firstMember second secondMember same
  obtain ⟨added, tokens, _⟩ := evolved.tokens
  have kept : (first.credential, first.principal, first.digest) ∈ policy.tokens := by
    rw [tokens]
    exact List.mem_append_left _ (List.mem_map_of_mem firstMember)
  obtain ⟨stored, storedMember, equal⟩ := List.mem_map.mp kept
  have credential : stored.credential = first.credential := congrArg Prod.fst equal
  have principal : stored.principal = first.principal :=
    congrArg (fun token => token.2.1) equal
  have one := List.inj_on_of_nodup_map policy.sound.credentials secondMember storedMember
    (same.trans credential.symm)
  rw [one]
  exact principal

end

/-- Every policy of a history that rotates tokens for their own principal obeys the laws of the
history, and so does every mutation that is then accepted. -/
theorem policy_evolution {start policy : SecurityPolicy} {history : List SecurityMutation}
    (coherent : start.Coherent) (evolved : Evolved RotatesPrincipal start history policy) :
    PolicyHistory start history policy ∧ ∀ mutation next, policy.apply mutation = .ok next →
      MutationEffect policy mutation next := by
  refine ⟨?_, fun mutation next => apply_effect⟩
  exact ⟨evolved.revision, evolved.revocationRevision, evolved.tokens, evolved.ascending,
    evolved.coherent coherent, evolved.bound, securityAdmin_active policy⟩

def sampleRotation (principal : PrincipalId) : SecurityMutation where
  request := sampleRequest 1
  expectedRevision := ⟨1, Nat.one_ne_zero⟩
  change := .addTokenGeneration ⟨⟨⟨"admin"⟩, ⟨2, two_nonzero⟩⟩, principal, ⟨2⟩, .active⟩

theorem policy_evolution_sample : ∃ next,
    samplePolicy.apply (sampleRotation ⟨"admin"⟩) = .ok next ∧
    PolicyHistory samplePolicy [sampleRotation ⟨"admin"⟩] next := by
  cases accepted : samplePolicy.apply (sampleRotation ⟨"admin"⟩) with
  | error error =>
      have applies : (samplePolicy.apply (sampleRotation ⟨"admin"⟩)).toOption.isSome = true := by
        decide
      rw [accepted] at applies
      simp [Except.toOption] at applies
  | ok next =>
      refine ⟨next, rfl, ?_⟩
      have evolved : Evolved RotatesPrincipal samplePolicy [sampleRotation ⟨"admin"⟩] next :=
        .accepted .start (show ∀ existing ∈ samplePolicy.tokenVerifiers, _ from by decide) accepted
      exact (policy_evolution (by decide) evolved).1

/-- A second generation can be added for another principal. -/
theorem rotation_changes_principal : ∃ next,
    Evolved (fun _ _ => True) samplePolicy [sampleRotation ⟨"other"⟩] next ∧
    ¬next.Coherent := by
  have applies : yields (samplePolicy.apply (sampleRotation ⟨"other"⟩))
      (fun next => decide ¬next.Coherent) = true := by decide
  obtain ⟨next, accepted, applies⟩ := yields_iff.mp applies
  exact ⟨next, .accepted .start trivial accepted, of_decide_eq_true applies⟩

end SecurityPolicy

end LightStream
