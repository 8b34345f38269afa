import LightStream.Proofs.PolicyMoves

/-!
Revoked credentials stay revoked: a token for good, a peer certificate as long as nobody adds
its fingerprint again.
-/

namespace LightStream

def SecurityMutation.rebinds (mutation : SecurityMutation) : Option CertificateFingerprint :=
  match mutation.change with
  | .addPeerCertificate binding =>
      if binding.status = .active then some binding.fingerprint else none
  | _ => none

namespace PolicyBody

def fingerprintsAt (policy : PolicyBody) (node : NodeId) (generation : CredentialGeneration) :
    Finset CertificateFingerprint :=
  ((policy.bindingsOf node).filter fun binding => binding.generation = generation).image
    PeerCertificateBinding.fingerprint

/-- Every active binding, of any node, of a fingerprint that the node was given at the generation
is the one that a revocation of the generation finds. -/
def SolelyBound (policy : PolicyBody) (node : NodeId) (generation : CredentialGeneration) : Prop :=
  ∀ entry ∈ policy.peerCertificates.toList, ∀ binding ∈ entry.2, binding.status = .active →
    binding.fingerprint ∈ policy.fingerprintsAt node generation →
      firstBinding (policy.bindingsOf node) generation = some binding

instance (policy : PolicyBody) (node : NodeId) (generation : CredentialGeneration) :
    Decidable (policy.SolelyBound node generation) :=
  inferInstanceAs (Decidable (∀ entry ∈ _, _))

def Retired (policy : PolicyBody) (credential : CredentialRef) (digest : TokenVerifierDigest) :
    Prop :=
  ∃ verifier ∈ policy.tokenVerifiers, verifier.credential = credential ∧
    verifier.digest = digest ∧ verifier.status ≠ .active

def Disowned (policy : PolicyBody) (fingerprint : CertificateFingerprint) : Prop :=
  ∀ node, ∀ binding ∈ policy.bindingsOf node, binding.fingerprint = fingerprint →
    binding.status ≠ .active

theorem authenticate_error {policy : PolicyBody} {credential : CredentialRef}
    {presented : TokenVerifierDigest}
    (denied : ∀ verifier ∈ policy.tokenVerifiers, verifier.credential = credential →
      verifier.digest = presented → verifier.status ≠ .active) :
    policy.authenticate credential presented = .error .securityAuthenticationFailed := by
  unfold authenticate
  split
  · rfl
  · rename_i verifier found
    have same := List.find?_some found
    rw [decide_eq_true_eq] at same
    by_cases matching : verifier.digest = presented
    · rw [if_pos (.inl (denied verifier (List.mem_of_find?_eq_some found) same matching))]
    · rw [if_pos (.inr matching)]

theorem authenticatePeer_error {policy : PolicyBody} {fingerprint : CertificateFingerprint}
    (disowned : policy.Disowned fingerprint) (cluster : ClusterId) (node : NodeId) :
    policy.authenticatePeer cluster node fingerprint = .error .securityAuthenticationFailed := by
  unfold authenticatePeer
  split
  · rfl
  · rw [if_neg]
    rintro ⟨binding, member, active, _, _, same⟩
    exact disowned node binding member same active

theorem Retired.denies {policy : PolicyBody} {credential : CredentialRef}
    {digest : TokenVerifierDigest} (sound : policy.Sound)
    (retired : policy.Retired credential digest) :
    (∀ presented, policy.authenticate credential presented =
        .error .securityAuthenticationFailed) ∧
      ∀ other, policy.authenticate other digest = .error .securityAuthenticationFailed := by
  obtain ⟨verifier, member, rfl, rfl, inactive⟩ := retired
  constructor
  · intro presented
    refine authenticate_error fun other otherMember same _ => ?_
    rw [List.inj_on_of_nodup_map sound.credentials otherMember member same]
    exact inactive
  · intro credential
    refine authenticate_error fun other otherMember _ same => ?_
    rw [List.inj_on_of_nodup_map sound.digests otherMember member same]
    exact inactive

theorem Move.retired {body next : PolicyBody} {change : SecurityChange}
    {credential : CredentialRef} {digest : TokenVerifierDigest} (move : body.Move change next)
    (retired : body.Retired credential digest) : next.Retired credential digest := by
  obtain ⟨verifier, member, sameCredential, sameDigest, inactive⟩ := retired
  cases move with
  | granted | peerAdded | peerRevoked =>
      exact ⟨verifier, member, sameCredential, sameDigest, inactive⟩
  | tokenAdded =>
      exact ⟨verifier, List.mem_append_left _ member, sameCredential, sameDigest, inactive⟩
  | tokenRevoked before revoked after stored =>
      rw [stored, List.mem_append, List.mem_cons] at member
      rcases member with early | rfl | late
      · exact ⟨verifier, List.mem_append_left _ early, sameCredential, sameDigest, inactive⟩
      · refine ⟨_, List.mem_append_right _ List.mem_cons_self, sameCredential, sameDigest, ?_⟩
        simp
      · exact ⟨verifier, List.mem_append_right _ (List.mem_cons_of_mem _ late), sameCredential,
          sameDigest, inactive⟩

theorem mem_bindingsOf_insert {body : PolicyBody} {node other : NodeId}
    {bindings : Finset PeerCertificateBinding} {binding : PeerCertificateBinding} {revocation : Nat}
    (member : binding ∈ PolicyBody.bindingsOf
      { body with
        peerCertificates := body.peerCertificates.insert node bindings
        revocationRevision := revocation } other) :
    other = node ∧ binding ∈ bindings ∨ binding ∈ body.bindingsOf other := by
  obtain ⟨found, stored, member⟩ := mem_bindingsOf.mp member
  dsimp only at stored
  rw [Kv.TreeMap.get_insert] at stored
  split at stored
  · rename_i same
    cases stored
    exact .inl ⟨same, member⟩
  · exact .inr (mem_bindingsOf.mpr ⟨found, stored, member⟩)

theorem Move.disowned {body next : PolicyBody} {change : SecurityChange}
    {fingerprint : CertificateFingerprint} (move : body.Move change next)
    (spares : ∀ binding, change = .addPeerCertificate binding → binding.status = .active →
      binding.fingerprint ≠ fingerprint)
    (disowned : body.Disowned fingerprint) : next.Disowned fingerprint := by
  cases move with
  | granted | tokenAdded | tokenRevoked => exact disowned
  | peerAdded binding =>
      intro node other member same active
      rcases mem_bindingsOf_insert member with ⟨_, inserted⟩ | old
      · rcases Finset.mem_insert.mp inserted with rfl | old
        · exact spares other rfl active same
        · exact disowned binding.node other old same active
      · exact disowned node other old same active
  | peerRevoked node generation binding found =>
      intro target other member same active
      rcases mem_bindingsOf_insert member with ⟨_, inserted⟩ | old
      · rcases Finset.mem_insert.mp inserted with rfl | old
        · simp at active
        · exact disowned node other (Finset.mem_of_mem_erase old) same active
      · exact disowned target other old same active

theorem Move.retires {body next : PolicyBody} {credential : CredentialRef} (sound : body.Sound)
    (move : body.Move (.revokeTokenGeneration credential) next) :
    ∃ revoked ∈ body.tokenVerifiers, revoked.credential = credential ∧
      (∀ verifier ∈ body.tokenVerifiers, verifier.credential = credential →
        verifier = revoked) ∧
      next.Retired credential revoked.digest := by
  cases move with
  | tokenRevoked before revoked after stored =>
      have member : revoked ∈ body.tokenVerifiers := by
        rw [stored]
        exact List.mem_append_right _ List.mem_cons_self
      refine ⟨revoked, member, rfl, ?_, ?_⟩
      · intro verifier other same
        exact List.inj_on_of_nodup_map sound.credentials other member same
      · refine ⟨_, List.mem_append_right _ List.mem_cons_self, rfl, rfl, ?_⟩
        simp

theorem Move.disowns {body next : PolicyBody} {node : NodeId} {generation : CredentialGeneration}
    {fingerprint : CertificateFingerprint} (sound : body.Sound)
    (solely : body.SolelyBound node generation)
    (move : body.Move (.revokePeerCertificate node generation) next)
    (bound : fingerprint ∈ body.fingerprintsAt node generation) : next.Disowned fingerprint := by
  have only {target : NodeId} {other : PeerCertificateBinding}
      (member : other ∈ body.bindingsOf target) (same : other.fingerprint = fingerprint)
      (active : other.status = .active) :
      firstBinding (body.bindingsOf node) generation = some other := by
    obtain ⟨bindings, stored, member⟩ := mem_bindingsOf.mp member
    exact solely (target, bindings) (Std.ExtTreeMap.mem_toList_iff_getElem?_eq_some.mpr stored)
      other member active (same ▸ bound)
  cases move with
  | peerRevoked _ _ binding found =>
      intro target other member same active
      have first : other ∈ body.bindingsOf target → other = binding := by
        intro old
        exact Option.some.inj ((only old same active).symm.trans found)
      have stored := firstBinding_some found
      by_cases here : target = node
      · subst here
        rw [bindingsOf, Kv.TreeMap.get_insert, if_pos rfl, Option.getD_some,
          Finset.mem_insert] at member
        rcases member with rfl | old
        · simp at active
        · obtain ⟨different, old⟩ := Finset.mem_erase.mp old
          exact different (first old)
      · rcases mem_bindingsOf_insert member with ⟨same, _⟩ | old
        · exact here same
        · obtain rfl := first old
          have owner := (sound.bindings target other old).1
          exact here (owner.symm.trans (sound.bindings node other stored.1).1)

end PolicyBody

namespace SecurityPolicy

variable {Allowed : SecurityPolicy → SecurityMutation → Prop} {start policy : SecurityPolicy}
  {history : List SecurityMutation}

theorem Evolved.retired {credential : CredentialRef} {digest : TokenVerifierDigest}
    (evolved : Evolved Allowed start history policy) (retired : start.Retired credential digest) :
    policy.Retired credential digest := by
  induction evolved with
  | start => exact retired
  | accepted _ _ applied ih =>
      obtain ⟨_, revision, _, move⟩ := apply_ok applied
      exact move.retired ih
  | rejected _ _ ih => exact ih

theorem Evolved.disowned {fingerprint : CertificateFingerprint}
    (spares : ∀ policy mutation, Allowed policy mutation →
      mutation.rebinds ≠ some fingerprint)
    (evolved : Evolved Allowed start history policy) (disowned : start.Disowned fingerprint) :
    policy.Disowned fingerprint := by
  induction evolved with
  | start => exact disowned
  | accepted _ allowed applied ih =>
      obtain ⟨_, revision, _, move⟩ := apply_ok applied
      refine move.disowned ?_ ih
      intro binding adds active same
      refine spares _ _ allowed ?_
      rw [SecurityMutation.rebinds, adds]
      simp only [active, if_true, same]
  | rejected _ _ ih => exact ih

/-- A revoked token never authenticates again.  A revoked peer certificate does not as long as
the revocation found the only active binding of its fingerprint and none is added again. -/
theorem revocation_permanent {policy revoked : SecurityPolicy} {mutation : SecurityMutation}
    (accepted : policy.apply mutation = .ok revoked) :
    (∀ credential, mutation.change = .revokeTokenGeneration credential →
      ∀ history later, Evolved (fun _ _ => True) revoked history later →
        (∀ presented, later.authenticate credential presented =
          .error .securityAuthenticationFailed) ∧
        ∀ verifier ∈ policy.tokenVerifiers, verifier.credential = credential → ∀ other,
          later.authenticate other verifier.digest = .error .securityAuthenticationFailed) ∧
    (∀ node generation, mutation.change = .revokePeerCertificate node generation →
      policy.SolelyBound node generation →
      ∀ history later, Evolved (fun _ next => ∀ fingerprint ∈ next.rebinds,
          fingerprint ∉ policy.fingerprintsAt node generation) revoked history later →
        ∀ fingerprint ∈ policy.fingerprintsAt node generation, ∀ cluster other,
          later.authenticatePeer cluster other fingerprint =
            .error .securityAuthenticationFailed) := by
  obtain ⟨_, revision, _, move⟩ := apply_ok accepted
  constructor
  · intro credential changed history later evolved
    rw [changed] at move
    obtain ⟨verifier, _, _, unique, retired⟩ := move.retires (policy.sound.revised revision)
    obtain ⟨denied, deniedDigest⟩ := (evolved.retired retired).denies later.sound
    refine ⟨denied, ?_⟩
    intro other member same
    rw [unique other member same]
    exact deniedDigest
  · intro node generation changed solely history later evolved fingerprint bound cluster other
    rw [changed] at move
    have disowned : revoked.Disowned fingerprint :=
      PolicyBody.Move.disowns (policy.sound.revised revision) solely move bound
    refine PolicyBody.authenticatePeer_error (evolved.disowned ?_ disowned) cluster other
    intro _ next spares rebinds
    exact spares fingerprint rebinds bound

def samplePolicy : SecurityPolicy where
  cluster := ⟨1⟩
  revision := ⟨1, Nat.one_ne_zero⟩
  revocationRevision := 0
  grants := (∅ : Kv.TreeMap PrincipalId (Finset Grant)).insert ⟨"admin"⟩
    {⟨.securityAdmin, .cluster ⟨1⟩⟩}
  tokenVerifiers := [⟨⟨⟨"admin"⟩, ⟨1, Nat.one_ne_zero⟩⟩, ⟨"admin"⟩, ⟨1⟩, .active⟩]
  peerCertificates := (∅ : Kv.TreeMap NodeId (Finset PeerCertificateBinding)).insert
    ⟨1, Nat.one_ne_zero⟩
    {⟨⟨1⟩, ⟨1, Nat.one_ne_zero⟩, ⟨1, Nat.one_ne_zero⟩, ⟨7⟩, .active⟩}
  valid := by decide

def sampleRequest (sequence : Nat) : MutationRequestId := ⟨⟨"admin"⟩, ⟨1⟩, sequence⟩

def sampleRevocation : SecurityMutation where
  request := sampleRequest 1
  expectedRevision := ⟨1, Nat.one_ne_zero⟩
  change := .revokePeerCertificate ⟨1, Nat.one_ne_zero⟩ ⟨1, Nat.one_ne_zero⟩

def sampleAddition (fingerprint : CertificateFingerprint) : SecurityMutation where
  request := sampleRequest 2
  expectedRevision := ⟨2, two_nonzero⟩
  change := .addPeerCertificate
    ⟨⟨1⟩, ⟨1, Nat.one_ne_zero⟩, ⟨2, two_nonzero⟩, fingerprint, .active⟩

/-- After the revocation the node gets a certificate with a new fingerprint. -/
theorem revocation_permanent_sample : ∃ revoked later,
    samplePolicy.apply sampleRevocation = .ok revoked ∧
    revoked.apply (sampleAddition ⟨8⟩) = .ok later ∧
    later.authenticatePeer ⟨1⟩ ⟨1, Nat.one_ne_zero⟩ ⟨8⟩ = .ok () ∧
    later.authenticatePeer ⟨1⟩ ⟨1, Nat.one_ne_zero⟩ ⟨7⟩ =
      .error .securityAuthenticationFailed := by
  have steps : yields (samplePolicy.apply sampleRevocation) (fun revoked =>
      yields (revoked.apply (sampleAddition ⟨8⟩)) fun later =>
        decide (later.authenticatePeer ⟨1⟩ ⟨1, Nat.one_ne_zero⟩ ⟨8⟩ = .ok ())) = true := by decide
  obtain ⟨revoked, accepted, steps⟩ := yields_iff.mp steps
  obtain ⟨later, added, steps⟩ := yields_iff.mp steps
  rw [decide_eq_true_eq] at steps
  refine ⟨revoked, later, accepted, added, steps, ?_⟩
  refine (revocation_permanent accepted).2 _ _ rfl (by decide) [sampleAddition ⟨8⟩] later ?_ ⟨7⟩
    (by decide) _ _
  exact Evolved.accepted .start (by decide) added

/-- A revoked fingerprint that is added again, as the next generation, is accepted again. -/
theorem readded_fingerprint_authenticates : ∃ revoked later,
    samplePolicy.apply sampleRevocation = .ok revoked ∧
    Evolved (fun _ _ => True) revoked [sampleAddition ⟨7⟩] later ∧
    ⟨7⟩ ∈ samplePolicy.fingerprintsAt ⟨1, Nat.one_ne_zero⟩ ⟨1, Nat.one_ne_zero⟩ ∧
    later.authenticatePeer ⟨1⟩ ⟨1, Nat.one_ne_zero⟩ ⟨7⟩ = .ok () := by
  have steps : yields (samplePolicy.apply sampleRevocation) (fun revoked =>
      yields (revoked.apply (sampleAddition ⟨7⟩)) fun later =>
        decide (later.authenticatePeer ⟨1⟩ ⟨1, Nat.one_ne_zero⟩ ⟨7⟩ = .ok ())) = true := by decide
  obtain ⟨revoked, accepted, steps⟩ := yields_iff.mp steps
  obtain ⟨later, added, steps⟩ := yields_iff.mp steps
  rw [decide_eq_true_eq] at steps
  exact ⟨revoked, later, accepted, Evolved.accepted .start trivial added, by decide, steps⟩

end SecurityPolicy

end LightStream
