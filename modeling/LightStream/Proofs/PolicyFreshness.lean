import Mathlib.Data.List.Pairwise
import LightStream.Lease.Freshness
import LightStream.Server.PolicyRefresh
import LightStream.Proofs.PolicyEvolution

/-!
How far behind the control log public admission can be: a lease is as fresh as the policies
it was renewed with.
-/

namespace LightStream

namespace ControlPlane

variable {cluster : ClusterId} {staleness : Nat} {plane next : ControlPlane}

def policies (plane : ControlPlane) : List SecurityPolicy := plane.committed.map Prod.snd

def Current (plane : ControlPlane) (policy : SecurityPolicy) : Prop :=
  Lease.Covers (fun entry : SecurityPolicy => entry.revision.value) plane.committed plane.clock
    policy.revision.value

def Refuses (plane : ControlPlane) (node : NodeId) (policy : SecurityPolicy) : Prop :=
  ∃ process, (plane.nodes node).process = some process ∧
    policy.revision.value < process.lease.policy.revision.value

/-- While it is live, the lease has what was committed before it was confirmed, from the
log. -/
structure Fresh (staleness : Nat) (plane : ControlPlane) (lease : PolicyLease) : Prop where
  covers : plane.clock < lease.confirmedAt + staleness →
    Lease.Covers (fun entry : SecurityPolicy => entry.revision.value) plane.committed
      lease.confirmedAt lease.policy.revision.value
  logged : plane.clock < lease.confirmedAt + staleness → plane.committed ≠ [] →
    lease.policy ∈ plane.policies

/-- A node enters the cluster with a fresh lease, renews it with a policy that nothing
committed earlier replaces, and the first commit is of the policy that live leases hold. -/
def Prompt (staleness : Nat) (plane : ControlPlane) : PolicyStep → Prop
  | .activate node => ∀ process, (plane.nodes node).process = some process →
      plane.Fresh staleness process.lease
  | .restore node => ∀ policy, plane.securityPolicy node = some policy →
      plane.Current policy ∨ plane.Refuses node policy
  | .appendEntries node => ∀ process, (plane.nodes node).process = some process →
      process.member = true → ∀ policy, plane.securityPolicy node = some policy →
        plane.Current policy ∨ plane.Refuses node policy
  | .renew node policy => plane.Current policy ∨ plane.Refuses node policy
  | .bootstrap policy => ∀ node process, (plane.nodes node).process = some process →
      process.member = true → plane.clock < process.lease.confirmedAt + staleness →
        process.lease.policy = policy
  | _ => True

inductive Reached (cluster : ClusterId) (Allowed : ControlPlane → PolicyStep → Prop) :
    ControlPlane → Prop
  | initial : Reached cluster Allowed .initial
  | stepped {plane next : ControlPlane} (action : PolicyStep) :
      Reached cluster Allowed plane → Allowed plane action →
      plane.step cluster action = some next → Reached cluster Allowed next

structure Held (staleness : Nat) (plane : ControlPlane) (process : PolicyProcess) : Prop where
  confirmedAt : process.lease.confirmedAt ≤ plane.clock
  fresh : process.member = true → plane.Fresh staleness process.lease
  confirmed : ∀ policy ∈ process.confirmed, policy ∈ plane.policies

def Descends (earlier later : Nat × SecurityPolicy) : Prop :=
  earlier.2.revision.value < later.2.revision.value ∧
  ∃ history, SecurityPolicy.Evolved (fun _ _ => True) earlier.2 history later.2

structure Sound (staleness : Nat) (plane : ControlPlane) : Prop where
  chain : plane.committed.Pairwise Descends
  held : ∀ node process, (plane.nodes node).process = some process →
    plane.Held staleness process

theorem Sound.setNode (sound : plane.Sound staleness) {node : NodeId} {changed : PolicyNode}
    (held : ∀ process, changed.process = some process → plane.Held staleness process) :
    (plane.setNode node changed).Sound staleness := by
  refine ⟨sound.chain, ?_⟩
  intro other process found
  have kept : plane.Held staleness process := by
    by_cases same : other = node
    · subst same
      simp only [ControlPlane.setNode, Function.update_self] at found
      exact held process found
    · simp only [ControlPlane.setNode, Function.update_of_ne same] at found
      exact sound.held other process found
  refine ⟨kept.confirmedAt, fun member => ?_, kept.confirmed⟩
  exact ⟨(kept.fresh member).covers, (kept.fresh member).logged⟩

theorem Sound.setProcess (sound : plane.Sound staleness) {node : NodeId}
    {process : PolicyProcess} (held : plane.Held staleness process) :
    (plane.setProcess node process).Sound staleness := by
  refine sound.setNode ?_
  intro found same
  cases same
  exact held

theorem Current.fresh {policy : SecurityPolicy} (current : plane.Current policy)
    (logged : policy ∈ plane.policies) : plane.Fresh staleness ⟨policy, plane.clock⟩ :=
  ⟨fun _ => current, fun _ _ => logged⟩

theorem Held.renewed {process : PolicyProcess} {policy : SecurityPolicy}
    (held : plane.Held staleness process) (logged : policy ∈ plane.policies)
    (current : process.member = true → plane.Current policy ∨
      policy.revision.value < process.lease.policy.revision.value) :
    plane.Held staleness (plane.renewed cluster process policy) := by
  unfold ControlPlane.renewed
  split
  · exact held
  · rename_i lease accepted
    obtain ⟨newer, rfl⟩ := PolicyLease.renewPolicyAt_ok accepted
    rw [max_eq_right held.confirmedAt]
    refine ⟨le_refl _, fun member => ?_, held.confirmed⟩
    rcases current member with current | older
    · exact current.fresh logged
    · omega

theorem securityPolicy_mem {node : NodeId} {policy : SecurityPolicy}
    (applied : plane.securityPolicy node = some policy) : policy ∈ plane.policies := by
  simp only [securityPolicy, Option.map_eq_some_iff] at applied
  obtain ⟨entry, last, rfl⟩ := applied
  exact List.mem_map_of_mem (List.mem_of_mem_take (List.mem_of_getLast? last))

theorem latest_mem {policy : SecurityPolicy} (newest : plane.latest = some policy) :
    policy ∈ plane.policies := by
  simp only [latest, Option.map_eq_some_iff] at newest
  obtain ⟨entry, last, rfl⟩ := newest
  exact List.mem_map_of_mem (List.mem_of_getLast? last)

theorem Fresh.commit {lease : PolicyLease} {policy : SecurityPolicy}
    (fresh : plane.Fresh staleness lease) (confirmedAt : lease.confirmedAt ≤ plane.clock)
    (first : plane.committed = [] → plane.clock < lease.confirmedAt + staleness →
      lease.policy = policy) : (plane.commit policy).Fresh staleness lease := by
  refine ⟨fun live => (fresh.covers live).record confirmedAt, fun live _ => ?_⟩
  have grown : (plane.commit policy).policies = plane.policies ++ [policy] := by
    simp [policies, ControlPlane.commit]
  rw [grown]
  by_cases empty : plane.committed = []
  · rw [first empty live]
    exact List.mem_append_right _ List.mem_cons_self
  · exact List.mem_append_left _ (fresh.logged live empty)

theorem Held.commit {process : PolicyProcess} {policy : SecurityPolicy}
    (held : plane.Held staleness process)
    (first : process.member = true → plane.committed = [] →
      plane.clock < process.lease.confirmedAt + staleness → process.lease.policy = policy) :
    (plane.commit policy).Held staleness process := by
  refine ⟨held.confirmedAt, fun member => ?_, ?_⟩
  · exact (held.fresh member).commit held.confirmedAt (first member)
  · intro read member
    have before := held.confirmed read member
    simp only [policies, ControlPlane.commit, List.map_append]
    exact List.mem_append_left _ before

theorem Held.tick {process : PolicyProcess} (held : plane.Held staleness process)
    (elapsed : Nat) :
    Held staleness { plane with clock := plane.clock + elapsed } process := by
  have before := held.confirmedAt
  refine ⟨?_, fun member => ⟨fun live => ?_, fun live => ?_⟩, held.confirmed⟩
  · show _ ≤ plane.clock + elapsed
    omega
  · refine (held.fresh member).covers ?_
    dsimp only at live
    omega
  · refine (held.fresh member).logged ?_
    dsimp only at live
    omega

theorem chain_mutated {mutation : SecurityMutation} {policy changed : SecurityPolicy}
    (chain : plane.committed.Pairwise Descends) (newest : plane.latest = some policy)
    (applied : policy.apply mutation = .ok changed) :
    (plane.commit changed).committed.Pairwise Descends := by
  simp only [latest, Option.map_eq_some_iff] at newest
  obtain ⟨last, found, rfl⟩ := newest
  have split : plane.committed = plane.committed.dropLast ++ [last] :=
    (List.dropLast_append_getLast? last found).symm
  have advances : Descends last (plane.clock, changed) := by
    refine ⟨?_, [] ++ [mutation], .accepted .start trivial applied⟩
    rw [(SecurityPolicy.apply_effect applied).revision]
    omega
  show (plane.committed ++ [(plane.clock, changed)]).Pairwise Descends
  rw [List.pairwise_append]
  refine ⟨chain, List.pairwise_singleton _ _, ?_⟩
  intro earlier member later single
  obtain rfl := List.mem_singleton.mp single
  rw [split, List.mem_append, List.mem_singleton] at member
  rcases member with before | rfl
  · rw [split, List.pairwise_append] at chain
    obtain ⟨below, history, evolved⟩ :=
      chain.2.2 earlier before last (List.mem_singleton_self _)
    exact ⟨below.trans advances.1, history ++ [mutation], .accepted evolved trivial applied⟩
  · exact advances

theorem Sound.commit {policy : SecurityPolicy} (sound : plane.Sound staleness)
    (chain : (plane.commit policy).committed.Pairwise Descends)
    (first : plane.committed = [] → ∀ node process, (plane.nodes node).process = some process →
      process.member = true → plane.clock < process.lease.confirmedAt + staleness →
        process.lease.policy = policy) :
    (plane.commit policy).Sound staleness := by
  refine ⟨chain, ?_⟩
  intro node process found
  exact (sound.held node process found).commit fun member empty =>
    first empty node process found member

theorem Refuses.older {node : NodeId} {process : PolicyProcess} {policy : SecurityPolicy}
    (found : (plane.nodes node).process = some process)
    (current : plane.Current policy ∨ plane.Refuses node policy) :
    plane.Current policy ∨ policy.revision.value < process.lease.policy.revision.value := by
  rcases current with current | ⟨other, same, older⟩
  · exact .inl current
  · rw [found] at same
    cases same
    exact .inr older

theorem Held.changed {process : PolicyProcess} (held : plane.Held staleness process)
    {reads : List SecurityPolicy} (confirmed : ∀ policy ∈ reads, policy ∈ plane.policies) :
    plane.Held staleness { process with confirmed := reads } :=
  ⟨held.confirmedAt, held.fresh, confirmed⟩

theorem Sound.step {action : PolicyStep} (sound : plane.Sound staleness)
    (prompt : plane.Prompt staleness action) (taken : plane.step cluster action = some next) :
    next.Sound staleness := by
  cases action with
  | tick elapsed =>
      simp only [ControlPlane.step, Option.some.injEq] at taken
      subst taken
      exact ⟨sound.chain, fun node process found => (sound.held node process found).tick elapsed⟩
  | bootstrap policy =>
      simp only [ControlPlane.step] at taken
      split at taken
      · rename_i fresh
        cases taken
        refine sound.commit ?_ fun _ => prompt
        simp [ControlPlane.commit, fresh.1]
      · cases taken
  | mutate mutation =>
      simp only [ControlPlane.step] at taken
      split at taken
      · cases taken
      · rename_i policy newest
        split at taken
        · cases taken
          exact sound
        · rename_i changed applied
          cases taken
          refine sound.commit (chain_mutated sound.chain newest applied) ?_
          intro empty
          simp [latest, empty] at newest
  | start node file =>
      simp only [ControlPlane.step] at taken
      split at taken
      · cases taken
        refine sound.setProcess ⟨le_refl _, fun member => ?_, fun policy member => ?_⟩
        · cases member
        · cases member
      · cases taken
  | activate node =>
      simp only [ControlPlane.step] at taken
      split at taken
      · cases taken
      · rename_i process found
        split at taken
        · cases taken
        · cases taken
          refine sound.setNode fun changed same => ?_
          cases same
          have held := sound.held node process found
          exact ⟨held.confirmedAt, fun _ => prompt process found, held.confirmed⟩
  | restore node =>
      simp only [ControlPlane.step] at taken
      split at taken
      · rename_i process policy found applied
        split at taken
        · split at taken
          · cases taken
          · rename_i lease accepted
            cases taken
            have held := sound.held node process found
            obtain ⟨newer, rfl⟩ := PolicyLease.renewPolicyAt_ok accepted
            rw [max_eq_right held.confirmedAt]
            refine sound.setProcess ⟨le_refl _, fun _ => ?_, held.confirmed⟩
            rcases Refuses.older found (prompt policy applied) with current | older
            · exact current.fresh (securityPolicy_mem applied)
            · omega
        · cases taken
      · cases taken
  | apply node =>
      simp only [ControlPlane.step] at taken
      split at taken
      · cases taken
        exact sound.setNode fun process found => sound.held node process found
      · cases taken
  | appendEntries node =>
      simp only [ControlPlane.step] at taken
      split at taken
      · cases taken
      · rename_i process found
        split at taken
        · cases taken
          exact sound
        · rename_i policy applied
          cases taken
          refine sound.setProcess ((sound.held node process found).renewed
            (securityPolicy_mem applied) fun member => ?_)
          exact Refuses.older found (prompt process found member policy applied)
  | confirm node =>
      simp only [ControlPlane.step] at taken
      split at taken
      · rename_i process policy found newest
        split at taken
        · cases taken
          have held := sound.held node process found
          refine sound.setProcess (held.changed ?_)
          intro read member
          rcases List.mem_cons.mp member with rfl | earlier
          · exact latest_mem newest
          · exact held.confirmed read earlier
        · cases taken
      · cases taken
  | renew node policy =>
      simp only [ControlPlane.step] at taken
      split at taken
      · cases taken
      · rename_i process found
        split at taken
        · rename_i member
          cases taken
          have held := sound.held node process found
          have shorter : plane.Held staleness
              { process with confirmed := process.confirmed.erase policy } := by
            refine held.changed ?_
            intro read left
            exact held.confirmed read (List.mem_of_mem_erase left)
          have current := Refuses.older found prompt
          exact sound.setProcess (shorter.renewed (held.confirmed policy member) fun _ => current)
        · cases taken

theorem Reached.sound (reached : Reached cluster (Prompt staleness) plane) :
    plane.Sound staleness := by
  induction reached with
  | initial => exact ⟨.nil, fun _ _ => nofun⟩
  | stepped action _ prompt taken ih => exact ih.step prompt taken

/-- What a node admits now: by a policy that is at least as new as everything committed
`staleness` ago, and that the log holds as soon as it holds any. -/
structure Admits (staleness : Nat) (plane : ControlPlane) (policy : SecurityPolicy)
    (request : PublicRequest) : Prop where
  newest : ∀ entry ∈ plane.committed, entry.1 + staleness ≤ plane.clock →
    entry.2.revision.value ≤ policy.revision.value
  logged : plane.committed ≠ [] → policy ∈ plane.policies
  unrevoked : ∀ entry ∈ plane.committed, entry.1 + staleness ≤ plane.clock →
    ∀ credential digest, request.evidence = some (credential, digest) →
      ¬entry.2.Retired credential digest

def FreshlyAdmits (staleness : Nat) (plane : ControlPlane) : Prop :=
  ∀ node process, (plane.nodes node).process = some process → process.member = true →
    ∀ request principal,
      process.lease.admission plane.clock staleness request = .ok principal →
        plane.Admits staleness process.lease.policy request

theorem Sound.denies {earlier : Nat × SecurityPolicy} {policy : SecurityPolicy}
    (sound : plane.Sound staleness) (member : earlier ∈ plane.committed)
    (logged : policy ∈ plane.policies)
    (newer : earlier.2.revision.value ≤ policy.revision.value) {credential : CredentialRef}
    {digest : TokenVerifierDigest} (retired : earlier.2.Retired credential digest) :
    policy.Retired credential digest := by
  obtain ⟨later, found, rfl⟩ := List.mem_map.mp logged
  by_cases same : earlier = later
  · rw [← same]
    exact retired
  · let Related (first second : Nat × SecurityPolicy) : Prop :=
      Descends first second ∨ Descends second first
    have symmetric : Std.Symm Related := ⟨fun _ _ => Or.symm⟩
    have related : plane.committed.Pairwise Related := sound.chain.imp Or.inl
    rcases related.forall member found same with ⟨_, history, evolved⟩ | ⟨below, _⟩
    · exact evolved.retired retired
    · omega

/-- In a run of prompt steps a revoked token is refused everywhere within the staleness
bound. -/
theorem revocation_within_staleness (reached : Reached cluster (Prompt staleness) plane) :
    plane.FreshlyAdmits staleness := by
  intro node process found joined request principal admitted
  have sound := reached.sound
  have held := (sound.held node process found).fresh joined
  obtain ⟨fresh, authorized⟩ := PolicyLease.admit_ok admitted
  have live := (PolicyLease.current_ok fresh).2
  have newest := (held.covers live).bounded live
  have logged := held.logged live
  refine ⟨newest, logged, ?_⟩
  intro entry member old credential digest evidence retired
  obtain ⟨other, presented, same, authenticated, _⟩ :=
    RuntimeSecurityConfig.authorize_ok authorized
  rw [evidence] at same
  cases same
  have revoked := sound.denies member (logged (List.ne_nil_of_mem member))
    (newest entry member old) retired
  rw [(revoked.denies process.lease.policy.sound).1 digest] at authenticated
  cases authenticated

theorem stale_lease_exposed {process : PolicyProcess} (positive : 0 < staleness)
    (live : plane.clock < process.lease.confirmedAt + staleness)
    (bounded : process.lease.confirmedAt + staleness ≤ instantMax)
    (missed : ¬plane.Fresh staleness process.lease) :
    ∃ elapsed, process.lease.current (plane.clock + elapsed) staleness =
        .ok process.lease.policy ∧
      ((∃ entry ∈ plane.committed, entry.1 + staleness ≤ plane.clock + elapsed ∧
          process.lease.policy.revision.value < entry.2.revision.value) ∨
        plane.committed ≠ [] ∧ process.lease.policy ∉ plane.policies) := by
  by_cases covers : Lease.Covers (fun entry : SecurityPolicy => entry.revision.value)
      plane.committed process.lease.confirmedAt process.lease.policy.revision.value
  · refine ⟨0, PolicyLease.current_live live bounded, .inr ?_⟩
    by_contra logged
    push Not at logged
    exact missed ⟨fun _ => covers, fun _ => logged⟩
  · obtain ⟨later, after, before, entry, member, old, behind⟩ :=
      Lease.Covers.exposed positive live covers
    refine ⟨later - plane.clock, ?_, .inl ⟨entry, member, ?_, not_le.mp behind⟩⟩
    · exact PolicyLease.current_live (by omega) bounded
    · omega

def run (cluster : ClusterId) : List PolicyStep → ControlPlane → Option ControlPlane
  | [], plane => some plane
  | action :: rest, plane =>
    match plane.step cluster action with
    | none => none
    | some next => run cluster rest next

theorem Reached.run {Allowed : ControlPlane → PolicyStep → Prop} {actions : List PolicyStep}
    (reached : Reached cluster Allowed plane) (allows : ∀ plane action, Allowed plane action)
    (ran : ControlPlane.run cluster actions plane = some next) :
    Reached cluster Allowed next := by
  induction actions generalizing plane with
  | nil =>
      cases ran
      exact reached
  | cons action rest ih =>
      simp only [ControlPlane.run] at ran
      split at ran
      · cases ran
      · rename_i middle taken
        exact ih (.stepped action reached (allows plane action) taken) ran

end ControlPlane

section Sample

def readerPolicy : SecurityPolicy where
  cluster := ⟨1⟩
  revision := ⟨1, Nat.one_ne_zero⟩
  revocationRevision := 0
  grants := ((∅ : Kv.TreeMap PrincipalId (Finset Grant)).insert ⟨"admin"⟩
    {⟨.securityAdmin, .cluster ⟨1⟩⟩}).insert ⟨"reader"⟩ {⟨.fetch, .allStreams ⟨1⟩⟩}
  tokenVerifiers := [⟨⟨⟨"admin"⟩, ⟨1, Nat.one_ne_zero⟩⟩, ⟨"admin"⟩, ⟨1⟩, .active⟩,
    ⟨⟨⟨"reader"⟩, ⟨1, Nat.one_ne_zero⟩⟩, ⟨"reader"⟩, ⟨2⟩, .active⟩]
  peerCertificates := ∅
  valid := by decide

def readerToken : CredentialRef := ⟨⟨"reader"⟩, ⟨1, Nat.one_ne_zero⟩⟩

def readerRevocation : SecurityMutation where
  request := ⟨⟨"admin"⟩, ⟨1⟩, 1⟩
  expectedRevision := ⟨1, Nat.one_ne_zero⟩
  change := .revokeTokenGeneration readerToken

def readerRequest : PublicRequest :=
  ⟨some (readerToken, ⟨2⟩), .fetch, .allStreams ⟨1⟩, none⟩

def second : Nat := 10 ^ 9

def follower : NodeId := ⟨2, two_nonzero⟩

/-- The follower enters the cluster with the first policy; the revocation is committed one
second later and the follower does not apply it.  Its lease, renewed by an accepted
`append_entries` at ten seconds, is five seconds old at most. -/
def laggingFollower : List PolicyStep :=
  [.start follower readerPolicy, .bootstrap readerPolicy, .activate follower, .apply follower,
    .tick second, .mutate readerRevocation, .tick (9 * second), .appendEntries follower]

/-- The start of the run is prompt: the follower enters with the policy of the log. -/
theorem revocation_within_staleness_sample :
    ∃ plane, ControlPlane.run ⟨1⟩ (laggingFollower.take 3) .initial = some plane ∧
      plane.FreshlyAdmits (5 * second) := by
  let started := ControlPlane.initial.setProcess follower ⟨⟨readerPolicy, 0⟩, false, []⟩
  let formed := started.commit readerPolicy
  let entered := formed.setNode follower ⟨true, 0, some ⟨⟨readerPolicy, 0⟩, true, []⟩⟩
  have starts : ControlPlane.Reached ⟨1⟩ (ControlPlane.Prompt (5 * second)) started :=
    .stepped (.start follower readerPolicy) .initial trivial rfl
  have forms : ControlPlane.Reached ⟨1⟩ (ControlPlane.Prompt (5 * second)) formed := by
    refine .stepped (.bootstrap readerPolicy) starts ?_ rfl
    intro node process found member
    by_cases same : node = follower
    · subst same
      cases found
      cases member
    · simp [started, ControlPlane.initial, ControlPlane.setProcess, ControlPlane.setNode,
        same] at found
  have enters : ControlPlane.Reached ⟨1⟩ (ControlPlane.Prompt (5 * second)) entered := by
    refine .stepped (.activate follower) forms ?_ rfl
    intro process found
    cases found
    refine ⟨fun _ entry _ => nofun, fun _ _ => List.mem_singleton_self _⟩
  exact ⟨entered, rfl, ControlPlane.revocation_within_staleness enters⟩

def followerLags : Bool :=
  match ControlPlane.run ⟨1⟩ laggingFollower .initial with
  | none => false
  | some plane =>
    match (plane.nodes follower).process with
    | none => false
    | some process =>
      decide (process.member = true) &&
      (match process.lease.admission plane.clock (5 * second) readerRequest with
        | .ok _ => true
        | .error _ => false) &&
      decide (∃ entry ∈ plane.committed, entry.1 + 5 * second ≤ plane.clock ∧
        ∃ verifier ∈ entry.2.tokenVerifiers, verifier.credential = readerToken ∧
          verifier.digest = ⟨2⟩ ∧ verifier.status ≠ .active)

theorem lagging_follower_admits_revoked :
    ∃ plane, ControlPlane.Reached ⟨1⟩ (fun _ _ => True) plane ∧
      ∃ process, (plane.nodes follower).process = some process ∧ process.member = true ∧
        (∃ principal, process.lease.admission plane.clock (5 * second) readerRequest =
          .ok principal) ∧
        (∃ entry ∈ plane.committed, entry.1 + 5 * second ≤ plane.clock ∧
          entry.2.Retired readerToken ⟨2⟩) ∧
        ¬plane.FreshlyAdmits (5 * second) := by
  have outcome : followerLags = true := by decide
  unfold followerLags at outcome
  split at outcome
  · cases outcome
  · rename_i plane ran
    split at outcome
    · cases outcome
    · rename_i process found
      simp only [Bool.and_eq_true, decide_eq_true_eq] at outcome
      obtain ⟨⟨member, admits⟩, revoked⟩ := outcome
      split at admits
      · rename_i principal admitted
        refine ⟨plane, ControlPlane.Reached.initial.run (fun _ _ => trivial) ran, process, found,
          member, ⟨principal, admitted⟩, revoked, ?_⟩
        intro fresh
        obtain ⟨entry, logged, old, retired⟩ := revoked
        exact (fresh follower process found member readerRequest principal admitted).unrevoked
          entry logged old readerToken ⟨2⟩ rfl retired
      · cases admits

end Sample

end LightStream
