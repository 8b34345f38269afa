import LightStream.Proofs.Replacement

/-!
The three steps of a voter replacement as an algebra on topologies: both ends of an accepted
transition are accepted, aborting undoes it, and completing it swaps one node for the other.
-/

namespace LightStream.ClusterTopology

open Kv (TreeMap)
open GroupDb (soloTopology keptNode addedNode)

/-- The rules of `try_new`, on the nodes and voters that a topology lists. -/
structure Sound (topology : ClusterTopology) : Prop where
  nodeIds : ((TreeMap.values topology.authorizedNodes).map NodeDescriptor.nodeId).Nodup
  endpoints : (((TreeMap.values topology.authorizedNodes).flatMap NodeDescriptor.endpoints).map
    Endpoint.text).Nodup
  absolute : ∀ node ∈ TreeMap.values topology.authorizedNodes, ∀ endpoint ∈ node.endpoints,
    endpoint.check = .ok ()
  authorized : ∀ voter ∈ topology.desiredVoters,
    ∃ node ∈ TreeMap.values topology.authorizedNodes, node.nodeId = voter
  nonempty : TreeMap.values topology.authorizedNodes ≠ [] ∧ topology.desiredVoters ≠ ∅
  accepted : tryNew topology.revision (TreeMap.values topology.authorizedNodes)
    topology.desiredVoters = .ok topology

theorem sound (topology : ClusterTopology) : topology.Sound := by
  obtain ⟨checks, distinct, _⟩ := checkEndpoints_ok.mp topology.valid.endpoints
  have authorized : ∀ voter ∈ topology.desiredVoters,
      ∃ node ∈ TreeMap.values topology.authorizedNodes, node.nodeId = voter := by
    intro voter isVoter
    have present := topology.valid.authorized voter isVoter
    rw [Std.ExtTreeMap.mem_iff_isSome_getElem?, Option.isSome_iff_exists] at present
    obtain ⟨node, stored⟩ := present
    exact ⟨node, TreeMap.mem_values.mpr ⟨voter, stored⟩, topology.valid.keyed voter node stored⟩
  refine ⟨?_, distinct, ?_, authorized, ⟨?_, topology.valid.hasVoter⟩, ?_⟩
  · rw [TreeMap.map_values topology.valid.keyed]
    exact Std.ExtTreeMap.nodup_keys
  · intro node listed endpoint member
    exact checks endpoint (List.mem_flatMap.mpr ⟨node, listed, member⟩)
  · intro none
    obtain ⟨voter, isVoter⟩ := Finset.nonempty_iff_ne_empty.mpr topology.valid.hasVoter
    obtain ⟨node, listed, _⟩ := authorized voter isVoter
    rw [none] at listed
    simp at listed
  · exact tryNew_of_valid topology.valid

theorem replacementTransition_ok {topology next : ClusterTopology} {expectedRevision : Nat}
    {remove : NodeId} {add : NodeDescriptor}
    (accepted : topology.replacementTransition expectedRevision remove add = .ok next) :
    remove ∈ topology.desiredVoters ∧ add.nodeId ≠ remove ∧
      add.nodeId ∉ topology.authorizedNodes ∧ next.revision = topology.revision + 1 ∧
      next.authorizedNodes = topology.authorizedNodes.insert add.nodeId add ∧
      next.desiredVoters = insert add.nodeId (topology.desiredVoters.erase remove) := by
  rw [replacementTransition] at accepted
  split at accepted
  · simp at accepted
  split at accepted
  · simp at accepted
  rename_i isVoter
  split at accepted
  · simp at accepted
  rename_i isNew
  rw [not_or] at isNew
  exact ⟨Decidable.not_not.mp isVoter, isNew.1, isNew.2,
    advance_ok (TreeMap.insert_keyed topology.valid.keyed add) accepted⟩

theorem replacementComplete_ok {topology next : ClusterTopology} {expectedRevision : Nat}
    {remove : NodeId} {add : NodeDescriptor}
    (completed : topology.replacementComplete expectedRevision remove add = .ok next) :
    next.revision = topology.revision + 1 ∧
      next.authorizedNodes = topology.authorizedNodes.erase remove ∧
      next.desiredVoters = topology.desiredVoters := by
  rw [replacementComplete] at completed
  split at completed
  · exact advance_ok (TreeMap.erase_keyed topology.valid.keyed remove) completed
  · simp at completed

theorem replacementAbort_ok {topology next : ClusterTopology} {expectedRevision : Nat}
    {remove : NodeId} {add : NodeDescriptor}
    (aborted : topology.replacementAbort expectedRevision remove add = .ok next) :
    next.revision = topology.revision + 1 ∧
      next.authorizedNodes = topology.authorizedNodes.erase add.nodeId ∧
      next.desiredVoters = insert remove (topology.desiredVoters.erase add.nodeId) := by
  rw [replacementAbort] at aborted
  split at aborted
  · exact advance_ok (TreeMap.erase_keyed topology.valid.keyed add.nodeId) aborted
  · simp at aborted

theorem eq_of_data {first second : ClusterTopology} (revision : first.revision = second.revision)
    (nodes : first.authorizedNodes = second.authorizedNodes)
    (voters : first.desiredVoters = second.desiredVoters) : first = second := by
  cases first
  cases second
  subst revision nodes voters
  rfl

theorem card_swap {voters : Finset NodeId} {remove add : NodeId} (isVoter : remove ∈ voters)
    (isNew : add ∉ voters) : (insert add (voters.erase remove)).card = voters.card := by
  have positive : 0 < voters.card := Finset.card_pos.mpr ⟨remove, isVoter⟩
  have absent : add ∉ voters.erase remove := fun member => isNew (Finset.mem_of_mem_erase member)
  rw [Finset.card_insert_of_notMem absent, Finset.card_erase_of_mem isVoter]
  omega

theorem swap_swap {voters : Finset NodeId} {remove add : NodeId} (isVoter : remove ∈ voters)
    (isNew : add ∉ voters) :
    insert remove ((insert add (voters.erase remove)).erase add) = voters := by
  have absent : add ∉ voters.erase remove := fun member => isNew (Finset.mem_of_mem_erase member)
  rw [Finset.erase_insert absent, Finset.insert_erase isVoter]

/-- Every accepted transition has both ends: aborting gives the topology back two revisions
later, completing swaps the two nodes, and all of them keep the rules and the voter count. -/
theorem replacement_laws {topology next : ClusterTopology} {remove : NodeId}
    {add : NodeDescriptor} (bounded : topology.revision ≤ 2 ^ 64 - 3)
    (accepted : topology.replacementTransition topology.revision remove add = .ok next) :
    next.replacementAbort topology.revision remove add =
        .ok { topology with revision := topology.revision + 2 } ∧
      ∃ completed, next.replacementComplete topology.revision remove add = .ok completed ∧
        completed.revision = topology.revision + 2 ∧
        completed.authorizedNodes =
          (topology.authorizedNodes.erase remove).insert add.nodeId add ∧
        completed.desiredVoters = insert add.nodeId (topology.desiredVoters.erase remove) ∧
        next.Sound ∧ completed.Sound ∧
        ({ topology with revision := topology.revision + 2 } : ClusterTopology).Sound ∧
        next.desiredVoters.card = topology.desiredVoters.card ∧
        completed.desiredVoters.card = topology.desiredVoters.card := by
  obtain ⟨between, _⟩ := replacementTransition_inReplacement accepted
  obtain ⟨isVoter, different, isNew, revision, nodes, voters⟩ := replacementTransition_ok accepted
  have fits : next.revision + 1 ≤ u64Max := by
    rw [revision, u64Max]
    omega
  have notVoter : add.nodeId ∉ topology.desiredVoters := fun member =>
    isNew (topology.valid.authorized _ member)
  obtain ⟨aborted, abort, _⟩ := replacementAbort_of_inReplacement between fits
  obtain ⟨abortRevision, abortNodes, abortVoters⟩ := replacementAbort_ok abort
  obtain ⟨completed, complete, _⟩ := replacementComplete_of_inReplacement between fits
  obtain ⟨completeRevision, completeNodes, completeVoters⟩ := replacementComplete_ok complete
  have restored : aborted = { topology with revision := topology.revision + 2 } := by
    refine eq_of_data ?_ ?_ ?_
    · rw [abortRevision, revision]
    · rw [abortNodes, nodes, TreeMap.erase_insert isNew]
    · rw [abortVoters, voters, swap_swap isVoter notVoter]
  have swapped : completed.desiredVoters =
      insert add.nodeId (topology.desiredVoters.erase remove) := completeVoters.trans voters
  refine ⟨restored ▸ abort, completed, complete, ?_, ?_, swapped, sound _, sound _, sound _, ?_, ?_⟩
  · rw [completeRevision, revision]
  · rw [completeNodes, nodes, TreeMap.erase_insert_comm different]
  · rw [voters, card_swap isVoter notVoter]
  · rw [swapped, card_swap isVoter notVoter]

/-- Replacing the voter of a one-node cluster. -/
theorem replacement_laws_sample : ∃ next,
    soloTopology.replacementTransition soloTopology.revision keptNode.nodeId addedNode = .ok next ∧
    next.replacementAbort soloTopology.revision keptNode.nodeId addedNode =
      .ok { soloTopology with revision := soloTopology.revision + 2 } := by
  have valid : TopologyValid (soloTopology.authorizedNodes.insert addedNode.nodeId addedNode)
      (insert addedNode.nodeId (soloTopology.desiredVoters.erase keptNode.nodeId)) :=
    ⟨TreeMap.insert_keyed soloTopology.valid.keyed addedNode, by decide, by decide, by decide⟩
  have accepted : soloTopology.replacementTransition soloTopology.revision keptNode.nodeId
      addedNode = .ok ⟨soloTopology.revision + 1, _, _, valid⟩ := by
    rw [replacementTransition, if_neg (by simp), if_neg (by decide), if_neg (by decide)]
    exact advance_of_valid valid (by decide)
  exact ⟨_, accepted, (replacement_laws (by decide) accepted).1⟩

end LightStream.ClusterTopology
