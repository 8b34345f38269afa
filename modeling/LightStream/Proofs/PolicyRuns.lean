import LightStream.Proofs.PolicyEvolution
import LightStream.Proofs.Rejection
import LightStream.Proofs.StreamMoves
import LightStream.Proofs.Traces

/-!
The security policy over the history of a control group.  Once the group is configured its policy is
never lost or replaced: it changes by accepted mutations only, and what was revoked stays revoked.
-/

namespace LightStream

theorem SecurityPolicy.Evolved.trans {Allowed : SecurityPolicy → SecurityMutation → Prop}
    {start middle last : SecurityPolicy} {first second : List SecurityMutation}
    (earlier : Evolved Allowed start first middle) (later : Evolved Allowed middle second last) :
    Evolved Allowed start (first ++ second) last := by
  induction later with
  | start => rwa [List.append_nil]
  | accepted _ allowed applied ih =>
      rw [← List.append_assoc]
      exact ih.accepted allowed applied
  | rejected _ _ ih => exact ih

namespace GroupView

variable {view : GroupView} {logId : GroupLogId} {result : ApplyResult} {write : WriteBatch}
  {policy : SecurityPolicy}

/-- A stored policy is kept, or one mutation was accepted on it. -/
def PolicyMoves (view : GroupView) (policy : SecurityPolicy) (applied : Applied) : Prop :=
  Applied.All (fun _ write => ∃ history last,
    (view.after write.state).get .securityPolicy = some last ∧
      SecurityPolicy.Evolved (fun _ _ => True) policy history last) applied

theorem policyMoves_of_kept {applied : Applied} (stored : view.get .securityPolicy = some policy)
    (kept : Applied.All (fun _ write =>
      (view.after write.state).get .securityPolicy = view.get .securityPolicy) applied) :
    view.PolicyMoves policy applied := by
  intro result write done
  exact ⟨[], policy, (kept result write done).trans stored, .start⟩

theorem applyBootstrapControl_policy {spec : BootstrapSpec} {topology : Option ClusterTopology}
    {security : Option SecurityPolicy} {dataGroups : List GroupId} {maxStreams maxPartitions : Nat}
    (configured : (view.get .dataGroupPool).isSome = true) :
    Applied.All (fun _ write =>
        (view.after write.state).get .securityPolicy = view.get .securityPolicy)
      (view.applyBootstrapControl spec topology security dataGroups maxStreams maxPartitions) := by
  obtain ⟨pool, found⟩ := Option.isSome_iff_exists.mp configured
  have booted := @applyBootstrap_footprint view spec .control
  unfold applyBootstrapControl
  split
  · simp
  split
  · simp
  rw [found]
  intro result write done
  split at done
  · cases done
  · rename_i began
    cases done
    exact after_get_of_within (booted _ _ began).1 (by simp [StateKey.family])
  · rename_i began
    dsimp only at done
    split at done <;> cases done <;>
      exact after_get_of_within (booted _ _ began).1 (by simp [StateKey.family])

theorem applySecurityMutation_policy (mutation : SecurityMutation)
    (stored : view.get .securityPolicy = some policy) :
    view.PolicyMoves policy (view.applySecurityMutation mutation) := by
  have receipt (answer : ApplyResult) :=
    @storeMutationResult_within view mutation.request (.security mutation) answer
  unfold applySecurityMutation
  rw [stored]
  dsimp only
  split
  · exact policyMoves_of_kept stored (by simp)
  split
  · exact policyMoves_of_kept stored (by simp)
  split
  · refine policyMoves_of_kept stored ?_
    rw [Applied.all_reply]
    exact after_get_of_within (receipt _) (by simp [StateKey.family])
  · rename_i next applied
    intro result write done
    cases done
    refine ⟨[mutation], next, ?_, .accepted .start trivial applied⟩
    have silent := @Within.effect_none _ _ (receipt (.securityPolicy next)) .securityPolicy
      (by simp [StateKey.family])
    simp [after, Kv.pending, Kv.Batch.effect_cons, silent, Kv.Op.effect]

theorem dispatch_policyMoves {command : GroupCommand}
    (configured : (view.get .dataGroupPool).isSome = true)
    (stored : view.get .securityPolicy = some policy) :
    view.PolicyMoves policy (view.dispatch logId command) := by
  have outside (apart : .policy ∉ command.families) :
      view.PolicyMoves policy (view.dispatch logId command) := by
    refine policyMoves_of_kept stored fun result write done => ?_
    exact after_get_of_within (dispatch_within command result write done) apart
  cases command with
  | bootstrapControl spec topology security dataGroups maxStreams maxPartitions =>
      exact policyMoves_of_kept stored (applyBootstrapControl_policy configured)
  | applySecurityMutation mutation => exact applySecurityMutation_policy mutation stored
  | initializeSecurityPolicy given =>
      change view.PolicyMoves policy (view.applyInitializeSecurityPolicy given)
      refine policyMoves_of_kept stored ?_
      unfold applyInitializeSecurityPolicy
      rw [stored]
      dsimp only
      repeat' split
      all_goals simp [stored]
  | activateSecuredTransport request topology given =>
      change view.PolicyMoves policy (view.applySecuredTransport request topology given)
      refine policyMoves_of_kept stored ?_
      unfold applySecuredTransport
      rw [stored]
      dsimp only
      repeat' split
      all_goals simp [stored]
  | exportProtocol command => cases command <;> exact outside (by simp [GroupCommand.families])
  | _ =>
      exact outside (by simp [GroupCommand.families, publishAllFamilies, leaseFamilies,
        decisionFamilies, maintainFamilies])

end GroupView

namespace GroupDb

variable {identity : GroupIdentity} {window : Nat} {content : PayloadId → Record}
  {Allowed : GroupDb → GroupEntry → Prop} {steps : List Step} {db next : GroupDb}
  {entry : GroupEntry} {result : ApplyResult}

/-- A configured group stays configured, and its policy is the earlier one after some accepted
mutations. -/
structure PolicyLasts (earlier later : GroupDb) : Prop where
  configured : (later.get .dataGroupPool).isSome = true
  descends : ∀ policy, earlier.get .securityPolicy = some policy → ∃ history last,
    later.get .securityPolicy = some last ∧
      SecurityPolicy.Evolved (fun _ _ => True) policy history last

theorem applyEntry_policyLasts (configured : (db.get .dataGroupPool).isSome = true)
    (done : db.applyEntry entry = .ok (result, next)) : PolicyLasts db next := by
  constructor
  · have move := applyEntry_moves done
    obtain ⟨pool, found⟩ := Option.isSome_iff_exists.mp configured
    have before : db.view.catalog.pool = some pool := found
    change next.view.catalog.pool.isSome = true
    generalize next.view.catalog = after at move
    cases move with
    | idle | created | changed => exact configured
    | pooled | booted => rfl
  · intro policy stored
    cases applyEntry_case done with
    | quiet silent noop same =>
        exact ⟨[], policy, (same .securityPolicy (by simp [StateKey.family])).trans stored, .start⟩
    | fenced command held normal included isHeld answer replayed answered same =>
        exact ⟨[], policy, (same .securityPolicy (by simp [StateKey.family])).trans stored, .start⟩
    | dispatched command write normal free dispatched reads =>
        obtain ⟨history, last, found, evolved⟩ :=
          GroupView.dispatch_policyMoves configured stored _ _ dispatched
        exact ⟨history, last, (reads .securityPolicy (by simp [StateKey.family])).trans found,
          evolved⟩

/-- In every later state of a configured group the policy comes from the earlier one by accepted
mutations, and a token that was revoked then does not authenticate. -/
theorem policies_descend (traced : Traced identity window content Allowed steps db) :
    ∀ taken ∈ steps, (taken.after.get .dataGroupPool).isSome = true →
      ∀ policy, taken.after.get .securityPolicy = some policy → ∃ history last,
        db.get .securityPolicy = some last ∧
        SecurityPolicy.Evolved (fun _ _ => True) policy history last ∧
        ∀ credential digest, policy.Retired credential digest →
          (∀ presented, last.authenticate credential presented =
            .error .securityAuthenticationFailed) ∧
          ∀ other, last.authenticate other digest = .error .securityAuthenticationFailed := by
  have lasts : ∀ taken ∈ steps,
      ((taken.before.get .dataGroupPool).isSome = true → PolicyLasts taken.before db) ∧
        ((taken.after.get .dataGroupPool).isSome = true → PolicyLasts taken.after db) := by
    refine @Traced.onward identity window content Allowed steps db (fun earlier later =>
      (earlier.get .dataGroupPool).isSome = true → PolicyLasts earlier later) ?_ ?_ ?_ traced
    · intro first second reads configured
      rw [← reads] at configured
      exact ⟨configured, fun policy stored => ⟨[], policy, reads ▸ stored, .start⟩⟩
    · intro first second third earlier later configured
      obtain ⟨kept, descends⟩ := earlier configured
      obtain ⟨again, onward⟩ := later kept
      refine ⟨again, fun policy stored => ?_⟩
      obtain ⟨begun, middle, found, evolved⟩ := descends policy stored
      obtain ⟨more, last, reached, further⟩ := onward middle found
      exact ⟨begun ++ more, last, reached, evolved.trans further⟩
    · intro steps db next entry result traced done configured
      exact applyEntry_policyLasts configured done
  intro taken member configured policy stored
  obtain ⟨history, last, found, evolved⟩ := ((lasts taken member).2 configured).descends policy stored
  exact ⟨history, last, found, evolved,
    fun credential digest retired => (evolved.retired retired).denies last.sound⟩

/-- The first token of the administrator is replaced and revoked, and once more in vain. -/
def revocationEntries : List GroupEntry :=
  [⟨⟨1, 1, 1⟩, .normal (.bootstrapControl ⟨⟨1⟩, ⟨1⟩, ⟨"events"⟩⟩ none (some SecurityPolicy.samplePolicy)
      [dataGroupId] 1 1)⟩,
    ⟨⟨1, 1, 2⟩, .normal (.applySecurityMutation (SecurityPolicy.sampleRotation ⟨"admin"⟩))⟩,
    ⟨⟨1, 1, 3⟩, .normal (.applySecurityMutation ⟨SecurityPolicy.sampleRequest 2, ⟨2, two_nonzero⟩,
      .revokeTokenGeneration ⟨⟨"admin"⟩, ⟨1, Nat.one_ne_zero⟩⟩⟩)⟩,
    ⟨⟨1, 1, 4⟩, .normal (.applySecurityMutation ⟨SecurityPolicy.sampleRequest 3, ⟨2, two_nonzero⟩,
      .revokeTokenGeneration ⟨⟨"admin"⟩, ⟨1, Nat.one_ne_zero⟩⟩⟩)⟩]

theorem policies_descend_sample : ∃ (steps : List Step) (db : GroupDb) (last : SecurityPolicy),
    steps.map Step.entry = revocationEntries ∧ db.get .securityPolicy = some last ∧
    ∀ other, last.authenticate other ⟨1⟩ = .error .securityAuthenticationFailed := by
  have revoked : yields (freshControl.submitSteps revocationEntries) (fun done =>
      done.1.any fun taken => (taken.after.get .dataGroupPool).isSome &&
        (taken.after.get .securityPolicy).any fun policy => policy.tokenVerifiers.any fun verifier =>
          decide (verifier.digest = ⟨1⟩ ∧ verifier.status ≠ .active)) = true := by decide
  obtain ⟨done, submitted, revoked⟩ := yields_iff.mp revoked
  simp only [List.any_eq_true, Bool.and_eq_true, Option.any_eq_true, decide_eq_true_eq] at revoked
  obtain ⟨taken, member, configured, policy, stored, verifier, held, digest, inactive⟩ := revoked
  have traced : Traced freshControl.identity 2 (fun _ => []) (fun _ _ => True)
      ([] ++ done.1) done.2 :=
    Traced.submitSteps .created (create_usedBelow _ _) (by decide) (by decide)
      (fun _ _ => trivial) submitted
  obtain ⟨history, last, found, _, denies⟩ :=
    policies_descend traced taken member configured policy stored
  exact ⟨done.1, done.2, last, submitSteps_entries submitted, found,
    (denies verifier.credential ⟨1⟩ ⟨verifier, held, rfl, digest, inactive⟩).2⟩

end GroupDb

end LightStream
