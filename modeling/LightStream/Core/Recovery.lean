import Mathlib.Data.List.Flatten
import LightStream.Kv.TreeMap
import LightStream.Core.Identity

/-!
Cluster topology and administration operations of `light-stream-core`.  An endpoint carries
the result of parsing its text as a URI, since the parser is outside this repository; the
scheme and authority checks on that result are here.
-/

namespace LightStream

open Kv (TreeMap)

structure UriParts where
  scheme : Option String
  authority : Option String
deriving DecidableEq

structure Endpoint where
  text : String
  parsed : Except String UriParts
deriving DecidableEq

structure NodeDescriptor where
  nodeId : NodeId
  publicUri : Endpoint
  peerUri : Endpoint
deriving DecidableEq

def NodeDescriptor.endpoints (node : NodeDescriptor) : List Endpoint :=
  [node.publicUri, node.peerUri]

def Endpoint.check (endpoint : Endpoint) : Except DomainError Unit :=
  match endpoint.parsed with
  | .error reason => .error (.invalidName "node endpoint" reason)
  | .ok uri =>
      if (uri.scheme = some "http" ∨ uri.scheme = some "https") ∧ uri.authority.isSome then .ok ()
      else .error (.invalidName "node endpoint" "endpoint must be an absolute HTTP or HTTPS URI")

/-- The endpoint loop of `ClusterTopology::try_new`, with the texts already seen. -/
def checkEndpoints : List Endpoint → List String → Except DomainError Unit
  | [], _ => .ok ()
  | endpoint :: rest, seen =>
      match endpoint.check with
      | .error error => .error error
      | .ok () =>
          if endpoint.text ∈ seen then
            .error (.invalidIdentity "cluster topology" "node endpoints must be globally unique")
          else checkEndpoints rest (endpoint.text :: seen)

theorem checkEndpoints_ok {endpoints : List Endpoint} {seen : List String} :
    checkEndpoints endpoints seen = .ok () ↔
      (∀ endpoint ∈ endpoints, endpoint.check = .ok ()) ∧
      (endpoints.map Endpoint.text).Nodup ∧
      ∀ endpoint ∈ endpoints, endpoint.text ∉ seen := by
  induction endpoints generalizing seen with
  | nil => simp [checkEndpoints]
  | cons endpoint rest ih =>
      rw [checkEndpoints]
      cases checked : endpoint.check with
      | error error => simp [checked]
      | ok value =>
          by_cases repeated : endpoint.text ∈ seen
          · simp [repeated]
          · simp only [repeated, if_false, ih, List.mem_cons, List.map_cons, List.nodup_cons,
              List.mem_map, not_or, forall_eq_or_imp, checked, not_false_eq_true, true_and]
            constructor
            · rintro ⟨checks, distinct, fresh⟩
              refine ⟨checks, ⟨?_, distinct⟩, fun other member => (fresh other member).2⟩
              rintro ⟨other, member, same⟩
              exact (fresh other member).1 same
            · rintro ⟨checks, ⟨unique, distinct⟩, fresh⟩
              refine ⟨checks, distinct, fun other member => ⟨?_, fresh other member⟩⟩
              intro same
              exact unique ⟨other, member, same⟩

structure TopologyValid (authorizedNodes : TreeMap NodeId NodeDescriptor)
    (desiredVoters : Finset NodeId) : Prop where
  keyed : TreeMap.Keyed NodeDescriptor.nodeId authorizedNodes
  hasVoter : desiredVoters ≠ ∅
  authorized : ∀ voter ∈ desiredVoters, voter ∈ authorizedNodes
  endpoints : checkEndpoints ((TreeMap.values authorizedNodes).flatMap NodeDescriptor.endpoints)
    [] = .ok ()

structure ClusterTopology where
  revision : Nat
  authorizedNodes : TreeMap NodeId NodeDescriptor
  desiredVoters : Finset NodeId
  valid : TopologyValid authorizedNodes desiredVoters
deriving DecidableEq

namespace ClusterTopology

/-- The checks of `try_new` on the collected nodes and voters, in its order. -/
def build (revision : Nat) (authorizedNodes : TreeMap NodeId NodeDescriptor)
    (keyed : TreeMap.Keyed NodeDescriptor.nodeId authorizedNodes) (authorizedCount : Nat)
    (desiredVoters : Finset NodeId) : Except DomainError ClusterTopology :=
  if empty : authorizedNodes.isEmpty = true ∨ desiredVoters = ∅ then
    .error (.invalidRange "cluster topology requires authorized nodes and desired voters")
  else if authorizedNodes.size ≠ authorizedCount then
    .error (.invalidIdentity "cluster topology" "authorized node IDs must be unique")
  else
    match checked : checkEndpoints
        ((TreeMap.values authorizedNodes).flatMap NodeDescriptor.endpoints) [] with
    | .error error => .error error
    | .ok () =>
        if authorized : ∀ voter ∈ desiredVoters, voter ∈ authorizedNodes then
          .ok ⟨revision, authorizedNodes, desiredVoters,
            ⟨keyed, fun none => empty (.inr none), authorized, checked⟩⟩
        else
          .error (.invalidIdentity "cluster topology"
            "every desired voter must be an authorized node")

def tryNew (revision : Nat) (nodes : List NodeDescriptor) (desiredVoters : Finset NodeId) :
    Except DomainError ClusterTopology :=
  build revision (TreeMap.collect NodeDescriptor.nodeId nodes) (TreeMap.collect_keyed _ nodes)
    nodes.length desiredVoters

def revisionOverflow : DomainError := .invalidRange "cluster topology revision overflow"

/-- `try_new` at the next revision, as the three replacement steps call it. -/
def advance (topology : ClusterTopology) (authorizedNodes : TreeMap NodeId NodeDescriptor)
    (desiredVoters : Finset NodeId) : Except DomainError ClusterTopology :=
  match checkedAdd topology.revision 1 with
  | none => .error revisionOverflow
  | some revision => tryNew revision (TreeMap.values authorizedNodes) desiredVoters

def replacementTransition (topology : ClusterTopology) (expectedRevision : Nat) (remove : NodeId)
    (add : NodeDescriptor) : Except DomainError ClusterTopology :=
  if topology.revision ≠ expectedRevision then .error .staleRoute
  else if remove ∉ topology.desiredVoters then
    .error (.invalidIdentity "replacement voter" "removed node is not a desired voter")
  else if add.nodeId = remove ∨ add.nodeId ∈ topology.authorizedNodes then
    .error (.invalidIdentity "replacement voter" "replacement node ID must be new")
  else
    topology.advance (topology.authorizedNodes.insert add.nodeId add)
      (insert add.nodeId (topology.desiredVoters.erase remove))

/-- The guard shared by `replacement_complete` and `replacement_abort`. -/
def InReplacement (topology : ClusterTopology) (expectedRevision : Nat) (remove : NodeId)
    (add : NodeDescriptor) : Prop :=
  topology.revision = saturatingAdd expectedRevision 1 ∧
    topology.authorizedNodes[add.nodeId]? = some add ∧
    remove ∈ topology.authorizedNodes ∧
    remove ∉ topology.desiredVoters ∧
    add.nodeId ∈ topology.desiredVoters

instance (topology : ClusterTopology) (expectedRevision : Nat) (remove : NodeId)
    (add : NodeDescriptor) : Decidable (topology.InReplacement expectedRevision remove add) :=
  inferInstanceAs (Decidable (_ ∧ _ ∧ _ ∧ _ ∧ _))

def replacementComplete (topology : ClusterTopology) (expectedRevision : Nat) (remove : NodeId)
    (add : NodeDescriptor) : Except DomainError ClusterTopology :=
  if topology.InReplacement expectedRevision remove add then
    topology.advance (topology.authorizedNodes.erase remove) topology.desiredVoters
  else .error .mutationConflict

def replacementAbort (topology : ClusterTopology) (expectedRevision : Nat) (remove : NodeId)
    (add : NodeDescriptor) : Except DomainError ClusterTopology :=
  if topology.InReplacement expectedRevision remove add then
    topology.advance (topology.authorizedNodes.erase add.nodeId)
      (insert remove (topology.desiredVoters.erase add.nodeId))
  else .error .mutationConflict

theorem build_of_valid {revision : Nat} {authorizedNodes : TreeMap NodeId NodeDescriptor}
    {desiredVoters : Finset NodeId} (valid : TopologyValid authorizedNodes desiredVoters) :
    build revision authorizedNodes valid.keyed authorizedNodes.size desiredVoters =
      .ok ⟨revision, authorizedNodes, desiredVoters, valid⟩ := by
  obtain ⟨voter, voterMember⟩ := Finset.nonempty_iff_ne_empty.mpr valid.hasVoter
  have member : voter ∈ authorizedNodes := valid.authorized voter voterMember
  have nonempty : authorizedNodes.isEmpty = false := by
    rw [Std.ExtTreeMap.isEmpty_eq_false_iff]
    exact Std.ExtTreeMap.ne_empty_of_mem member
  have guard : ¬(authorizedNodes.isEmpty = true ∨ desiredVoters = ∅) := by
    simp [nonempty, valid.hasVoter]
  rw [build, dif_neg guard, if_neg (by simp)]
  split
  · rename_i error failed
    rw [valid.endpoints] at failed
    simp at failed
  · rw [dif_pos valid.authorized]

theorem tryNew_of_valid {revision : Nat} {authorizedNodes : TreeMap NodeId NodeDescriptor}
    {desiredVoters : Finset NodeId} (valid : TopologyValid authorizedNodes desiredVoters) :
    tryNew revision (TreeMap.values authorizedNodes) desiredVoters =
      .ok ⟨revision, authorizedNodes, desiredVoters, valid⟩ := by
  rw [← build_of_valid valid, tryNew, TreeMap.length_values]
  congr 1
  exact TreeMap.collect_values valid.keyed

theorem build_ok {revision count : Nat} {authorizedNodes : TreeMap NodeId NodeDescriptor}
    {keyed : TreeMap.Keyed NodeDescriptor.nodeId authorizedNodes} {desiredVoters : Finset NodeId}
    {next : ClusterTopology}
    (built : build revision authorizedNodes keyed count desiredVoters = .ok next) :
    next.revision = revision ∧ next.authorizedNodes = authorizedNodes ∧
      next.desiredVoters = desiredVoters := by
  rw [build] at built
  split at built
  · simp at built
  split at built
  · simp at built
  split at built
  · simp at built
  split at built
  · cases built
    exact ⟨rfl, rfl, rfl⟩
  · simp at built

theorem advance_ok {topology next : ClusterTopology}
    {authorizedNodes : TreeMap NodeId NodeDescriptor} {desiredVoters : Finset NodeId}
    (keyed : TreeMap.Keyed NodeDescriptor.nodeId authorizedNodes)
    (advanced : topology.advance authorizedNodes desiredVoters = .ok next) :
    next.revision = topology.revision + 1 ∧ next.authorizedNodes = authorizedNodes ∧
      next.desiredVoters = desiredVoters := by
  rw [advance] at advanced
  split at advanced
  · simp at advanced
  · rename_i revision sum
    obtain ⟨same, _⟩ := checkedAdd_some.mp sum
    obtain ⟨nextRevision, nextNodes, nextVoters⟩ := build_ok advanced
    exact ⟨nextRevision.trans same.symm, nextNodes.trans (TreeMap.collect_values keyed), nextVoters⟩

theorem advance_of_valid {topology : ClusterTopology}
    {authorizedNodes : TreeMap NodeId NodeDescriptor} {desiredVoters : Finset NodeId}
    (valid : TopologyValid authorizedNodes desiredVoters)
    (bounded : topology.revision + 1 ≤ u64Max) :
    topology.advance authorizedNodes desiredVoters =
      .ok ⟨topology.revision + 1, authorizedNodes, desiredVoters, valid⟩ := by
  rw [advance, checkedAdd_of_le bounded]
  exact tryNew_of_valid valid

/-- An accepted transition leaves a topology that both replacement ends accept. -/
theorem replacementTransition_inReplacement {topology next : ClusterTopology}
    {expectedRevision : Nat} {remove : NodeId} {add : NodeDescriptor}
    (accepted : topology.replacementTransition expectedRevision remove add = .ok next) :
    next.InReplacement expectedRevision remove add ∧ next.revision = expectedRevision + 1 := by
  rw [replacementTransition] at accepted
  split at accepted
  · simp at accepted
  rename_i sameRevision
  split at accepted
  · simp at accepted
  rename_i isVoter
  split at accepted
  · simp at accepted
  rename_i isNew
  simp only [not_or, ne_eq, Decidable.not_not] at sameRevision isVoter isNew
  have bounded : topology.revision + 1 ≤ u64Max := by
    rw [advance] at accepted
    split at accepted
    · simp at accepted
    · rename_i revision sum
      obtain ⟨same, fits⟩ := checkedAdd_some.mp sum
      exact same ▸ fits
  obtain ⟨revision, nodes, voters⟩ :=
    advance_ok (TreeMap.insert_keyed topology.valid.keyed add) accepted
  have removeAuthorized : remove ∈ topology.authorizedNodes :=
    topology.valid.authorized remove isVoter
  refine ⟨⟨?_, ?_, ?_, ?_, ?_⟩, by omega⟩
  · rw [revision, saturatingAdd, ← sameRevision]
    omega
  · rw [nodes, TreeMap.get_insert, if_pos rfl]
  · rw [nodes, Std.ExtTreeMap.mem_insert]
    exact .inr removeAuthorized
  · rw [voters]
    simp [Ne.symm isNew.1]
  · rw [voters]
    simp

theorem erase_valid {topology : ClusterTopology} {removed : NodeId} {voters : Finset NodeId}
    (hasVoter : voters ≠ ∅)
    (authorized : ∀ voter ∈ voters, voter ∈ topology.authorizedNodes ∧ voter ≠ removed) :
    TopologyValid (topology.authorizedNodes.erase removed) voters := by
  refine ⟨TreeMap.erase_keyed topology.valid.keyed removed, hasVoter, ?_, ?_⟩
  · intro voter member
    obtain ⟨present, different⟩ := authorized voter member
    rw [Std.ExtTreeMap.mem_erase]
    exact ⟨fun equal => different (compare_eq_iff_eq.mp equal).symm, present⟩
  · obtain ⟨checks, distinct, _⟩ := checkEndpoints_ok.mp topology.valid.endpoints
    have kept : ((TreeMap.values (topology.authorizedNodes.erase removed)).flatMap
        NodeDescriptor.endpoints).Sublist
        ((TreeMap.values topology.authorizedNodes).flatMap NodeDescriptor.endpoints) :=
      (TreeMap.values_erase_sublist topology.authorizedNodes removed).flatMap _
    refine checkEndpoints_ok.mpr ⟨?_, distinct.sublist (kept.map _), by simp⟩
    intro endpoint member
    exact checks endpoint (kept.subset member)

theorem replacementComplete_of_inReplacement {topology : ClusterTopology} {expectedRevision : Nat}
    {remove : NodeId} {add : NodeDescriptor}
    (current : topology.InReplacement expectedRevision remove add)
    (bounded : topology.revision + 1 ≤ u64Max) :
    ∃ next, topology.replacementComplete expectedRevision remove add = .ok next ∧
      next.revision = topology.revision + 1 := by
  rw [replacementComplete, if_pos current]
  obtain ⟨_, _, _, removed, _⟩ := current
  refine ⟨_, advance_of_valid (erase_valid topology.valid.hasVoter ?_) bounded, rfl⟩
  intro voter member
  refine ⟨topology.valid.authorized voter member, ?_⟩
  rintro rfl
  exact removed member

theorem replacementAbort_of_inReplacement {topology : ClusterTopology} {expectedRevision : Nat}
    {remove : NodeId} {add : NodeDescriptor}
    (current : topology.InReplacement expectedRevision remove add)
    (bounded : topology.revision + 1 ≤ u64Max) :
    ∃ next, topology.replacementAbort expectedRevision remove add = .ok next ∧
      next.revision = topology.revision + 1 := by
  rw [replacementAbort, if_pos current]
  obtain ⟨_, _, removePresent, removed, added⟩ := current
  refine ⟨_, advance_of_valid (erase_valid (Finset.insert_ne_empty _ _) ?_) bounded, rfl⟩
  intro voter member
  rcases Finset.mem_insert.mp member with rfl | kept
  · refine ⟨removePresent, ?_⟩
    rintro rfl
    exact removed added
  · obtain ⟨different, isVoter⟩ := Finset.mem_erase.mp kept
    exact ⟨topology.valid.authorized voter isVoter, different⟩

end ClusterTopology

inductive AdministrationIntent where
  | replaceVoter (request : AdministrationRequestId) (expectedTopologyRevision : Nat)
      (remove : NodeId) (add : NodeDescriptor)
  | transferLeader (request : AdministrationRequestId) (group : GroupId) (target : NodeId)
deriving DecidableEq

def AdministrationIntent.request : AdministrationIntent → AdministrationRequestId
  | .replaceVoter request _ _ _ => request
  | .transferLeader request _ _ => request

inductive AdministrationLifecycle where
  | pending
  | complete (completedTopologyRevision : Nat)
  | aborted (completedTopologyRevision : Nat)
deriving DecidableEq

structure AdministrationOperation where
  intent : AdministrationIntent
  lifecycle : AdministrationLifecycle
deriving DecidableEq

def AdministrationOperation.pending (intent : AdministrationIntent) : AdministrationOperation :=
  ⟨intent, .pending⟩

def AdministrationOperation.completed (operation : AdministrationOperation)
    (completedTopologyRevision : Nat) : AdministrationOperation :=
  ⟨operation.intent, .complete completedTopologyRevision⟩

def AdministrationOperation.abort (operation : AdministrationOperation)
    (completedTopologyRevision : Nat) : AdministrationOperation :=
  ⟨operation.intent, .aborted completedTopologyRevision⟩

structure OperationalProof where
  group : GroupId
  leader : NodeId
  term : Nat
  logIndex : Nat
deriving DecidableEq

end LightStream
