import LightStream.Proofs.Rejection
import LightStream.Proofs.Replica

/-!
A started voter replacement.  While it is pending the stored topology is the one its start left,
so both of its ends are accepted; a command that installs another topology meanwhile breaks this.
-/

namespace LightStream

abbrev pendingReplacement (request : AdministrationRequestId) (expectedTopologyRevision : Nat)
    (remove : NodeId) (add : NodeDescriptor) : AdministrationOperation :=
  .pending (.replaceVoter request expectedTopologyRevision remove add)

/-- The active replacement is stored under its request, and the topology is between its ends. -/
def ReplacementReady (get : (key : StateKey) → Option (StateVal key)) : Prop :=
  ∀ (request : AdministrationRequestId) (expectedTopologyRevision : Nat) (remove : NodeId)
    (add : NodeDescriptor),
    get .activeAdministration =
        some (pendingReplacement request expectedTopologyRevision remove add) →
      get (.administrationRequest request) =
          some (pendingReplacement request expectedTopologyRevision remove add) ∧
        ∃ topology, get .clusterTopology = some topology ∧
          topology.InReplacement expectedTopologyRevision remove add

namespace GroupView

variable {view : GroupView} {logId : GroupLogId}

/-- The commands that store a topology without regard to the active operation: a first bootstrap
that carries one, and the activation of the secured transport. -/
def Installs (view : GroupView) (topology : ClusterTopology) : GroupCommand → Prop
  | .bootstrapControl spec given _ dataGroups maxStreams maxPartitions =>
      given = some topology ∧ view.mutationFenceState.held = none ∧
        (dataGroups ≠ [] ∧ ¬(maxStreams = 0 ∨ maxPartitions = 0 ∨ controlGroupId ∈ dataGroups)) ∧
        view.identity.kind = .control ∧ spec.cluster = view.identity.clusterId ∧
        (view.get .bootstrap = none ∨ view.get .bootstrap = some spec) ∧
        view.get .dataGroupPool = none
  | .activateSecuredTransport request given policy =>
      given = topology ∧ view.identity.kind = .control ∧
        view.priorMutationResult request (.transport request given policy) = none ∧
        view.get .securityPolicy = none ∧
        ∃ current, view.get .clusterTopology = some current ∧
          view.SecuredTransportValid current given policy
  | _ => False

/-- The commands that store a topology that the pending replacement cannot end from. -/
def Displaces (view : GroupView) (command : GroupCommand) : Prop :=
  ∃ (request : AdministrationRequestId) (expectedTopologyRevision : Nat) (remove : NodeId)
    (add : NodeDescriptor) (topology : ClusterTopology),
    view.get .activeAdministration =
        some (pendingReplacement request expectedTopologyRevision remove add) ∧
      view.Installs topology command ∧
      ¬topology.InReplacement expectedTopologyRevision remove add

abbrev KeepsReady (view : GroupView) (applied : Applied) : Prop :=
  Applied.All (fun _ write => ReplacementReady (view.after write.state).get) applied

theorem ready_of_within {families : List StateFamily} {writes : StateBatch}
    (ready : ReplacementReady view.get) (within : Within families writes)
    (topology : .topology ∉ families) (administration : .administration ∉ families) :
    ReplacementReady (view.after writes).get := by
  intro request expectedTopologyRevision remove add active
  rw [after_get_of_within within (by exact administration)] at active
  rw [after_get_of_within within (by exact administration),
    after_get_of_within within (by exact topology)]
  exact ready request expectedTopologyRevision remove add active

theorem ready_of_settled {writes : StateBatch} (operation : Option AdministrationOperation)
    (written : writes.effect .activeAdministration = some operation)
    (settled : ∀ active, operation = some active → active.lifecycle ≠ .pending) :
    ReplacementReady (view.after writes).get := by
  intro request expectedTopologyRevision remove add active
  simp only [after, Kv.pending, written, Option.getD_some] at active
  exact absurd rfl (settled _ active)

theorem applyBeginAdministration_ready (ready : ReplacementReady view.get)
    (intent : AdministrationIntent) : view.KeepsReady (view.applyBeginAdministration intent) := by
  unfold applyBeginAdministration
  repeat' split
  any_goals simp only [KeepsReady, Applied.all_reply, Applied.all_reject, Applied.all_error]
  any_goals exact ready
  rename_i topology _ transitional started
  intro request expectedTopologyRevision remove add active
  cases intent with
  | transferLeader other group target =>
      cases transitional <;>
        simp [after, Kv.pending, beginWrites, Kv.Op.effect, AdministrationOperation.pending] at active
  | replaceVoter other expected removed added =>
      simp only [transitionalTopology] at started
      split at started
      · simp at started
      rename_i next accepted
      cases started
      have between := (ClusterTopology.replacementTransition_inReplacement accepted).1
      have same : other = request ∧ expected = expectedTopologyRevision ∧ removed = remove ∧
          added = add := by
        simpa [after, Kv.pending, beginWrites, Kv.Op.effect, AdministrationOperation.pending]
          using active
      obtain ⟨rfl, rfl, rfl, rfl⟩ := same
      simp [after, Kv.pending, beginWrites, Kv.Op.effect, AdministrationIntent.request]
      exact between

theorem applyCompleteAdministration_ready (ready : ReplacementReady view.get)
    (request : AdministrationRequestId) :
    view.KeepsReady (view.applyCompleteAdministration request) := by
  unfold applyCompleteAdministration
  dsimp only
  repeat' split
  any_goals simp only [KeepsReady, Applied.all_reply, Applied.all_reject, Applied.all_error]
  any_goals exact ready
  exact ready_of_settled none (by simp [Kv.Op.effect]) (by simp)

theorem applyAbortAdministration_ready (ready : ReplacementReady view.get)
    (request : AdministrationRequestId) :
    view.KeepsReady (view.applyAbortAdministration request) := by
  unfold applyAbortAdministration
  dsimp only
  repeat' split
  any_goals simp only [KeepsReady, Applied.all_reply, Applied.all_reject, Applied.all_error]
  any_goals exact ready
  all_goals
    refine ready_of_settled (some (AdministrationOperation.abort _ _)) (by simp [Kv.Op.effect]; rfl) ?_
    simp [AdministrationOperation.abort]

theorem applyFinishAdministrationAbort_ready (ready : ReplacementReady view.get)
    (request : AdministrationRequestId) :
    view.KeepsReady (view.applyFinishAdministrationAbort request) := by
  unfold applyFinishAdministrationAbort
  repeat' split
  any_goals simp only [KeepsReady, Applied.all_reply, Applied.all_reject]
  any_goals exact ready
  exact ready_of_settled none (by simp [Kv.Op.effect]) (by simp)

theorem ready_of_topology {writes : StateBatch} (topology : ClusterTopology)
    (ready : ReplacementReady view.get)
    (written : writes.effect .clusterTopology = some (some topology))
    (silent : ∀ key : StateKey, key.family = .administration → writes.effect key = none)
    (between : ∀ (request : AdministrationRequestId) (expectedTopologyRevision : Nat)
      (remove : NodeId) (add : NodeDescriptor),
      view.get .activeAdministration =
          some (pendingReplacement request expectedTopologyRevision remove add) →
        topology.InReplacement expectedTopologyRevision remove add) :
    ReplacementReady (view.after writes).get := by
  intro request expectedTopologyRevision remove add active
  simp only [after, Kv.pending, written, silent .activeAdministration rfl,
    silent (.administrationRequest request) rfl, Option.getD_none, Option.getD_some] at active ⊢
  exact ⟨(ready request expectedTopologyRevision remove add active).1, topology, rfl,
    between request expectedTopologyRevision remove add active⟩

theorem applyInitializeClusterTopology_ready (ready : ReplacementReady view.get)
    (topology : ClusterTopology) :
    view.KeepsReady (view.applyInitializeClusterTopology topology) := by
  unfold applyInitializeClusterTopology
  repeat' split
  any_goals simp only [KeepsReady, Applied.all_reply, Applied.all_reject]
  any_goals exact ready
  rename_i missing
  refine ready_of_topology topology ready (by simp) ?_ ?_
  · intro key administration
    cases key <;> simp_all [StateKey.family, Kv.Op.effect]
  · intro request expectedTopologyRevision remove add active
    obtain ⟨_, stored, present, _⟩ := ready request expectedTopologyRevision remove add active
    rw [missing] at present
    simp at present

theorem applySecuredTransport_ready (ready : ReplacementReady view.get)
    {request : MutationRequestId} {topology : ClusterTopology} {policy : SecurityPolicy}
    (kept : ¬view.Displaces (.activateSecuredTransport request topology policy)) :
    view.KeepsReady (view.applySecuredTransport request topology policy) := by
  unfold applySecuredTransport
  repeat' split
  any_goals simp only [KeepsReady, Applied.all_reply, Applied.all_reject, Applied.all_error]
  any_goals exact ready
  rename_i kind _ prior _ current stored _ policyMissing valid
  have receipt := @storeMutationResult_within view request (.transport request topology policy)
    (.securityPolicy policy)
  refine ready_of_topology topology ready ?_ ?_ ?_
  · rw [Kv.Batch.effect_cons, Kv.Batch.effect_cons, receipt.effect_none (by simp [StateKey.family])]
    simp [Kv.Op.effect]
  · intro key administration
    rw [Kv.Batch.effect_cons, Kv.Batch.effect_cons,
      receipt.effect_none (by simp [administration])]
    cases key <;> simp_all [StateKey.family, Kv.Op.effect]
  · intro other expectedTopologyRevision remove add active
    by_contra outside
    exact kept ⟨other, expectedTopologyRevision, remove, add, topology, active,
      ⟨rfl, by simpa using kind, prior, policyMissing, current, stored, valid⟩, outside⟩

theorem bootstrapConfiguration_ready (ready : ReplacementReady view.get)
    {topology : Option ClusterTopology} {dataGroups : List GroupId} {first rest : StateBatch}
    (started : Within [.bootstrap, .fence] first) (catalog : Within [.catalog, .policy, .stream] rest)
    (between : ∀ installed, topology = some installed →
      ∀ (request : AdministrationRequestId) (expectedTopologyRevision : Nat)
        (remove : NodeId) (add : NodeDescriptor),
        view.get .activeAdministration =
            some (pendingReplacement request expectedTopologyRevision remove add) →
          installed.InReplacement expectedTopologyRevision remove add) :
    ReplacementReady (view.after (first ++ bootstrapConfiguration topology dataGroups ++ rest)).get := by
  cases topology with
  | none =>
      have within : Within [.bootstrap, .fence, .catalog, .policy, .stream]
          (first ++ bootstrapConfiguration none dataGroups ++ rest) := by
        simp only [within_append, bootstrapConfiguration, within_cons, within_nil]
        exact ⟨⟨started.mono (by decide), by simp [StateKey.family]⟩, catalog.mono (by decide)⟩
      exact ready_of_within ready within (by decide) (by decide)
  | some installed =>
      refine ready_of_topology installed ready ?_ ?_ (between installed rfl)
      · rw [Kv.Batch.effect_append, catalog.effect_none (by simp [StateKey.family]),
          Kv.Batch.effect_append]
        simp [bootstrapConfiguration, Kv.Op.effect]
      · intro key administration
        rw [Kv.Batch.effect_append, catalog.effect_none (by simp [administration]),
          Kv.Batch.effect_append, started.effect_none (by simp [administration])]
        cases key <;> simp_all [StateKey.family, Kv.Op.effect, bootstrapConfiguration]

theorem applyBootstrapControl_ready (ready : ReplacementReady view.get) {spec : BootstrapSpec}
    {topology : Option ClusterTopology} {security : Option SecurityPolicy}
    {dataGroups : List GroupId} {maxStreams maxPartitions : Nat}
    (unfenced : view.mutationFenceState.held = none)
    (kept : ¬view.Displaces
      (.bootstrapControl spec topology security dataGroups maxStreams maxPartitions)) :
    view.KeepsReady
      (view.applyBootstrapControl spec topology security dataGroups maxStreams maxPartitions) := by
  intro result write done
  unfold applyBootstrapControl at done
  split at done
  · cases done
    exact ready
  rename_i group others
  split at done
  · cases done
    exact ready
  rename_i valid
  split at done
  · simp at done
  · rename_i error bootstrapWrite started
    cases done
    exact ready_of_within ready (applyBootstrap_footprint spec .control _ _ started).1 (by decide)
      (by decide)
  rename_i answer bootstrapWrite notRejected started
  have within := (applyBootstrap_footprint spec .control _ _ started).1
  split at done
  · split at done <;> cases done <;>
      exact ready_of_within ready within (by decide) (by decide)
  rename_i pool
  have accepted : answer.isRejected = false := by
    cases answer <;> first | rfl | exact (notRejected _ rfl).elim
  obtain ⟨kind, cluster, fresh⟩ := applyBootstrap_ok started accepted
  have between : ∀ installed, topology = some installed →
      ∀ (request : AdministrationRequestId) (expectedTopologyRevision : Nat)
        (remove : NodeId) (add : NodeDescriptor),
        view.get .activeAdministration =
            some (pendingReplacement request expectedTopologyRevision remove add) →
          installed.InReplacement expectedTopologyRevision remove add := by
    intro installed given request expectedTopologyRevision remove add active
    by_contra outside
    exact kept ⟨request, expectedTopologyRevision, remove, add, installed, active,
      ⟨given, unfenced, ⟨by simp, valid⟩, kind, cluster, fresh, pool⟩, outside⟩
  have catalog : Within [.catalog, .policy, .stream]
      (bootstrapCatalog spec group maxStreams maxPartitions) := by
    simp [bootstrapCatalog, StateKey.family]
  split at done
  · cases done
    exact bootstrapConfiguration_ready ready within catalog between
  split at done
  · cases done
    have alone := @bootstrapConfiguration_ready view ready topology (group :: others)
      bootstrapWrite.state [] within (within_nil _) between
    rwa [List.append_nil] at alone
  · cases done
    refine bootstrapConfiguration_ready ready within ?_ between
    simp [StateKey.family, catalog]

theorem dispatch_ready (ready : ReplacementReady view.get) {command : GroupCommand}
    (free : view.mutationFenceState.held = none ∨ command.fenceClass ≠ .includedMutation)
    (kept : ¬view.Displaces command) : view.KeepsReady (view.dispatch logId command) := by
  have outside (topology : .topology ∉ command.families)
      (administration : .administration ∉ command.families) :
      view.KeepsReady (view.dispatch logId command) := by
    intro result write done
    exact ready_of_within ready (dispatch_within command result write done) topology administration
  cases command with
  | bootstrapControl spec topology security dataGroups maxStreams maxPartitions =>
      exact applyBootstrapControl_ready ready (free.resolve_right (by simp [GroupCommand.fenceClass]))
        kept
  | beginAdministration intent => exact applyBeginAdministration_ready ready intent
  | completeAdministration request => exact applyCompleteAdministration_ready ready request
  | abortAdministration request => exact applyAbortAdministration_ready ready request
  | finishAdministrationAbort request => exact applyFinishAdministrationAbort_ready ready request
  | initializeClusterTopology topology =>
      exact applyInitializeClusterTopology_ready ready topology
  | activateSecuredTransport request topology policy => exact applySecuredTransport_ready ready kept
  | exportProtocol command =>
      cases command <;> exact outside (by simp [GroupCommand.families])
        (by simp [GroupCommand.families])
  | _ =>
      exact outside
        (by simp [GroupCommand.families, publishAllFamilies, leaseFamilies, decisionFamilies, maintainFamilies])
        (by simp [GroupCommand.families, publishAllFamilies, leaseFamilies, decisionFamilies, maintainFamilies])

theorem applyCommand_ready (ready : ReplacementReady view.get) {command : GroupCommand}
    (kept : ¬view.Displaces command) : view.KeepsReady (view.applyCommand logId command) := by
  by_cases included : command.fenceClass = .includedMutation
  · cases held : view.mutationFenceState.held with
    | none =>
        rw [KeepsReady, applyCommand, if_pos included, held]
        exact dispatch_ready ready (.inl held) kept
    | some fence =>
        intro result write done
        rw [applyCommand_fenced held included result write done]
        exact ready
  · rw [KeepsReady, applyCommand, if_neg included]
    exact dispatch_ready ready (.inr included) kept

end GroupView

namespace GroupDb

/-- The entries that do not displace the topology of a pending replacement. -/
def Undisplaced (db : GroupDb) (entry : GroupEntry) : Prop :=
  ∀ command, entry.payload = .normal command → ¬db.view.Displaces command

theorem applyEntry_ready {db next : GroupDb} {entry : GroupEntry} {result : ApplyResult}
    (ready : ReplacementReady db.get) (kept : db.Undisplaced entry)
    (done : db.applyEntry entry = .ok (result, next)) : ReplacementReady next.get := by
  have committed {write : WriteBatch} (after : ReplacementReady (db.view.after write.state).get) :
      ReplacementReady
        (db.commit ⟨write.state ++ [.put .applied entry.logId], write.payload⟩).get := by
    intro request expectedTopologyRevision remove add active
    rw [← view_get, commit_applied_get (by simp [StateKey.family])] at active
    rw [← view_get, ← view_get, commit_applied_get (by simp [StateKey.family]),
      commit_applied_get (by simp [StateKey.family])]
    exact after request expectedTopologyRevision remove add active
  unfold applyEntry at done
  split at done
  · simp at done
  rename_i answer write handled
  cases done
  refine committed ?_
  cases payload : entry.payload with
  | blank =>
      rw [payload] at handled
      cases handled
      exact ready
  | membership membership =>
      rw [payload] at handled
      cases handled
      have within : Within [.membership]
          [.put .membership ⟨some entry.logId, membership⟩] := by
        simp [StateKey.family]
      exact GroupView.ready_of_within ready within (by decide) (by decide)
  | normal command =>
      rw [payload] at handled
      exact GroupView.applyCommand_ready ready (kept command payload) _ _ handled

/-- Both ends of the active replacement are accepted as long as no entry displaced its topology. -/
theorem started_replacement_ends {identity : GroupIdentity} {window : Nat}
    {content : PayloadId → Record} {history : List GroupEntry} {db : GroupDb}
    (kind : identity.kind = .control)
    (ran : Ran identity window content Undisplaced history db)
    {request : AdministrationRequestId} {expectedTopologyRevision : Nat} {remove : NodeId}
    {add : NodeDescriptor}
    (active : db.get .activeAdministration =
      some (pendingReplacement request expectedTopologyRevision remove add))
    (bounded : ∀ topology, db.get .clusterTopology = some topology →
      topology.revision ≤ 2 ^ 64 - 3) (logId : GroupLogId) :
    (∃ revision next, db.applyEntry ⟨logId, .normal (.completeAdministration request)⟩ =
      .ok (.administration ((pendingReplacement request expectedTopologyRevision remove
        add).completed revision), next)) ∧
    ∃ revision next, db.applyEntry ⟨logId, .normal (.abortAdministration request)⟩ =
      .ok (.administration ((pendingReplacement request expectedTopologyRevision remove
        add).abort revision), next) := by
  have ready : ReplacementReady db.get :=
    ran.invariant (fun _ _ _ _ impossible => by simp at impossible)
      fun _ ready _ kept done => applyEntry_ready ready kept done
  have isControl : db.identity.kind = .control := by
    rw [ran.settings.1, kind]
  obtain ⟨stored, topology, present, between⟩ :=
    ready request expectedTopologyRevision remove add active
  have fits : topology.revision + 1 ≤ u64Max := by
    have small := bounded topology present
    simp only [u64Max]
    omega
  refine ⟨?_, ?_⟩
  · obtain ⟨after, completed, _⟩ :=
      ClusterTopology.replacementComplete_of_inReplacement between fits
    have handled : ∃ write, db.view.applyCommand logId (.completeAdministration request) =
        .ok (.administration ((pendingReplacement request expectedTopologyRevision remove
          add).completed after.revision), write) := by
      simp [GroupView.applyCommand, GroupCommand.fenceClass, GroupView.dispatch,
        GroupView.applyCompleteAdministration, isControl, stored, active, present, completed,
        AdministrationOperation.pending, AdministrationIntent.request, reply]
    obtain ⟨write, handled⟩ := handled
    exact ⟨after.revision, _, applyEntry_normal handled⟩
  · obtain ⟨after, aborted, _⟩ := ClusterTopology.replacementAbort_of_inReplacement between fits
    have handled : ∃ write, db.view.applyCommand logId (.abortAdministration request) =
        .ok (.administration ((pendingReplacement request expectedTopologyRevision remove
          add).abort after.revision), write) := by
      simp [GroupView.applyCommand, GroupCommand.fenceClass, GroupView.dispatch,
        GroupView.applyAbortAdministration, isControl, stored, active, present, aborted,
        AdministrationOperation.pending, AdministrationIntent.request, reply]
    obtain ⟨write, handled⟩ := handled
    exact ⟨after.revision, _, applyEntry_normal handled⟩

def sampleEndpoint (scheme authority text : String) : Endpoint :=
  ⟨text, .ok ⟨some scheme, some authority⟩⟩

def keptNode : NodeDescriptor :=
  ⟨⟨1, Nat.one_ne_zero⟩, sampleEndpoint "http" "a" "http://a", sampleEndpoint "http" "b" "http://b"⟩

def addedNode : NodeDescriptor :=
  ⟨⟨2, Nat.succ_ne_zero 1⟩, sampleEndpoint "http" "c" "http://c", sampleEndpoint "http" "d" "http://d"⟩

def soloTopology : ClusterTopology where
  revision := 1
  authorizedNodes := Kv.TreeMap.collect NodeDescriptor.nodeId [keptNode]
  desiredVoters := {keptNode.nodeId}
  valid := ⟨Kv.TreeMap.collect_keyed _ _, by decide, by decide, by decide⟩

def soloReplacement : AdministrationOperation :=
  pendingReplacement ⟨9⟩ 1 keptNode.nodeId addedNode

def replacementEntries : List GroupEntry :=
  [⟨⟨1, 1, 1⟩, .normal (.initializeClusterTopology soloTopology)⟩,
    ⟨⟨1, 1, 2⟩, .normal (.beginAdministration soloReplacement.intent)⟩]

theorem freshControl_usedBelow : freshControl.UsedBelow 0 :=
  create_usedBelow _ _

theorem started_replacement_ends_sample : ∃ history db,
    Ran freshControl.identity 2 (fun _ => []) Undisplaced history db ∧
    (∃ revision next, db.applyEntry ⟨⟨1, 1, 3⟩, .normal (.completeAdministration ⟨9⟩)⟩ =
      .ok (.administration (soloReplacement.completed revision), next)) ∧
    ∃ revision next, db.applyEntry ⟨⟨1, 1, 3⟩, .normal (.abortAdministration ⟨9⟩)⟩ =
      .ok (.administration (soloReplacement.abort revision), next) := by
  have started : freshControl.leaves replacementEntries (fun db =>
      decide (db.get .activeAdministration = some soloReplacement) &&
          (db.get .clusterTopology).all fun topology => decide (topology.revision ≤ 2 ^ 64 - 3)) = true := by decide
  obtain ⟨results, db, submitted, started⟩ := leaves_iff.mp started
  simp only [Bool.and_eq_true, decide_eq_true_eq, Option.all_eq_true] at started
  have ran : Ran freshControl.identity 2 (fun _ => []) Undisplaced replacementEntries db := by
    refine Ran.submitAll .created freshControl_usedBelow (by decide) ?_ ?_ submitted
    · simp [thinEntry, thinCommand]
    · intro entry member met command normal displaced
      obtain ⟨_, _, _, _, _, _, installs, _⟩ := displaced
      simp only [List.mem_cons, List.not_mem_nil, or_false] at member
      rcases member with rfl | rfl <;> cases normal <;> exact installs
  exact ⟨replacementEntries, db, ran, started_replacement_ends rfl ran started.1 started.2 _⟩

def securedNodes : List NodeDescriptor :=
  [⟨keptNode.nodeId, sampleEndpoint "https" "a" "https://a", sampleEndpoint "https" "b" "https://b"⟩,
    ⟨addedNode.nodeId, sampleEndpoint "https" "c" "https://c",
      sampleEndpoint "https" "d" "https://d"⟩]

def securedTopology : ClusterTopology where
  revision := 3
  authorizedNodes := Kv.TreeMap.collect NodeDescriptor.nodeId securedNodes
  desiredVoters := {addedNode.nodeId}
  valid := ⟨Kv.TreeMap.collect_keyed _ _, by decide, by decide, by decide⟩

def peerPolicy : PolicyBody :=
  { administratorPolicy ⟨1⟩ with
    peerCertificates := Std.ExtTreeMap.ofList (securedNodes.map fun node =>
      (node.nodeId, {⟨⟨1⟩, node.nodeId, ⟨1, Nat.one_ne_zero⟩, ⟨1⟩, .active⟩})) compare }

theorem peerPolicy_valid : peerPolicy.validate = .ok () := by decide

def activation : GroupCommand :=
  .activateSecuredTransport ⟨⟨"admin"⟩, ⟨1⟩, 0⟩ securedTopology ⟨peerPolicy, peerPolicy_valid⟩

def strandedEntries : List GroupEntry :=
  replacementEntries ++ [⟨⟨1, 1, 3⟩, .normal activation⟩]

/-- After the secured transport is activated the pending replacement cannot end either way. -/
theorem activation_strands_replacement : ∃ db,
    Ran freshControl.identity 2 (fun _ => []) (fun _ _ => True) strandedEntries db ∧
    db.get .activeAdministration = some soloReplacement ∧
    db.get .clusterTopology = some securedTopology ∧
    securedTopology.revision ≤ 2 ^ 64 - 3 ∧
    (db.applyEntry ⟨⟨1, 1, 4⟩, .normal (.completeAdministration ⟨9⟩)⟩).map Prod.fst =
      .ok (.rejected .mutationConflict) ∧
    (db.applyEntry ⟨⟨1, 1, 4⟩, .normal (.abortAdministration ⟨9⟩)⟩).map Prod.fst =
      .ok (.rejected .mutationConflict) := by
  have stranded : freshControl.leaves strandedEntries (fun db =>
      decide (db.get .activeAdministration = some soloReplacement) &&
      decide (db.get .clusterTopology = some securedTopology) &&
      decide ((db.applyEntry ⟨⟨1, 1, 4⟩, .normal (.completeAdministration ⟨9⟩)⟩).map Prod.fst =
        .ok (.rejected .mutationConflict)) &&
      decide ((db.applyEntry ⟨⟨1, 1, 4⟩, .normal (.abortAdministration ⟨9⟩)⟩).map Prod.fst =
        .ok (.rejected .mutationConflict))) = true := by decide +kernel
  obtain ⟨results, db, submitted, stranded⟩ := leaves_iff.mp stranded
  simp only [Bool.and_eq_true, decide_eq_true_eq] at stranded
  obtain ⟨⟨⟨active, topology⟩, complete⟩, abort⟩ := stranded
  have ran : Ran freshControl.identity 2 (fun _ => []) (fun _ _ => True)
      ([] ++ strandedEntries) db :=
    Ran.submitAll .created freshControl_usedBelow (by decide)
      (by simp [strandedEntries, replacementEntries, activation, thinEntry, thinCommand])
      (fun _ _ _ => trivial) submitted
  exact ⟨db, ran, active, topology, by decide, complete, abort⟩

end GroupDb

end LightStream
