import LightStream.Server.PolicyLease

/-!
Where the policy leases of a cluster are renewed: process start, activation, the control
group's `append_entries` and confirmed reads.  The control log is reduced to the policies it
commits, each with the instant of its commit, and a node to how many of them it has applied.
-/

namespace LightStream

/-- What a node keeps in memory: its lease, whether `identity` answers, and the confirmed
policies that handlers and the refresh loop hold but have not renewed with yet. -/
structure PolicyProcess where
  lease : PolicyLease
  member : Bool
  confirmed : List SecurityPolicy
deriving DecidableEq

structure PolicyNode where
  active : Bool
  applied : Nat
  process : Option PolicyProcess
deriving DecidableEq

structure ControlPlane where
  clock : Nat
  committed : List (Nat × SecurityPolicy)
  nodes : NodeId → PolicyNode

def ControlPlane.initial : ControlPlane := ⟨0, [], fun _ => ⟨false, 0, none⟩⟩

inductive PolicyStep where
  | tick (elapsed : Nat)
  | bootstrap (policy : SecurityPolicy)
  | mutate (mutation : SecurityMutation)
  | start (node : NodeId) (file : SecurityPolicy)
  | activate (node : NodeId)
  | restore (node : NodeId)
  | apply (node : NodeId)
  | appendEntries (node : NodeId)
  | confirm (node : NodeId)
  | renew (node : NodeId) (policy : SecurityPolicy)
deriving DecidableEq

namespace ControlPlane

def latest (plane : ControlPlane) : Option SecurityPolicy :=
  plane.committed.getLast?.map Prod.snd

def securityPolicy (plane : ControlPlane) (node : NodeId) : Option SecurityPolicy :=
  (plane.committed.take (plane.nodes node).applied).getLast?.map Prod.snd

def commit (plane : ControlPlane) (policy : SecurityPolicy) : ControlPlane :=
  { plane with committed := plane.committed ++ [(plane.clock, policy)] }

def setNode (plane : ControlPlane) (node : NodeId) (next : PolicyNode) : ControlPlane :=
  { plane with nodes := Function.update plane.nodes node next }

def setProcess (plane : ControlPlane) (node : NodeId) (process : PolicyProcess) :
    ControlPlane :=
  plane.setNode node { plane.nodes node with process := some process }

def renewed (plane : ControlPlane) (cluster : ClusterId) (process : PolicyProcess)
    (policy : SecurityPolicy) : PolicyProcess :=
  match process.lease.renewPolicyAt cluster policy plane.clock with
  | .error _ => process
  | .ok lease => { process with lease }

def step (cluster : ClusterId) (plane : ControlPlane) : PolicyStep → Option ControlPlane
  | .tick elapsed => some { plane with clock := plane.clock + elapsed }
  | .bootstrap policy =>
    if plane.committed = [] ∧ policy.cluster = cluster then some (plane.commit policy) else none
  | .mutate mutation =>
    match plane.latest with
    | none => none
    | some policy =>
      match policy.apply mutation with
      | .error _ => some plane
      | .ok next => some (plane.commit next)
  | .start node file =>
    if file.cluster = cluster then
      some (plane.setProcess node ⟨⟨file, plane.clock⟩, false, []⟩)
    else none
  | .activate node =>
    match (plane.nodes node).process with
    | none => none
    | some process =>
      if (plane.nodes node).active then none
      else
        some (plane.setNode node
          { plane.nodes node with
            active := true, process := some { process with member := true } })
  -- An active node that starts renews with what it has applied, or does not start.
  | .restore node =>
    match (plane.nodes node).process, plane.securityPolicy node with
    | some process, some policy =>
      if (plane.nodes node).active then
        match process.lease.renewPolicyAt cluster policy plane.clock with
        | .error _ => none
        | .ok lease => some (plane.setProcess node { process with lease, member := true })
      else none
    | _, _ => none
  | .apply node =>
    if (plane.nodes node).applied < plane.committed.length then
      some (plane.setNode node
        { plane.nodes node with applied := (plane.nodes node).applied + 1 })
    else none
  | .appendEntries node =>
    match (plane.nodes node).process with
    | none => none
    | some process =>
      match plane.securityPolicy node with
      | none => some plane
      | some policy => some (plane.setProcess node (plane.renewed cluster process policy))
  -- A linearizable read answers with everything that was committed applied.
  | .confirm node =>
    match (plane.nodes node).process, plane.latest with
    | some process, some policy =>
      if process.member = true ∧ (plane.nodes node).applied = plane.committed.length then
        some (plane.setProcess node
          { process with confirmed := policy :: process.confirmed })
      else none
    | _, _ => none
  | .renew node policy =>
    match (plane.nodes node).process with
    | none => none
    | some process =>
      if policy ∈ process.confirmed then
        some (plane.setProcess node (plane.renewed cluster
          { process with confirmed := process.confirmed.erase policy } policy))
      else none

end ControlPlane

end LightStream
