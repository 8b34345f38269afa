import LightStream.Storage.Apply

/-!
Stream deletion and publish routes across nodes: `delete_stream`, `publish` and
`resolve_data_route` of `runtime.rs` over the committed log of the control group.  Every node has
its own copy of the control group, which has applied a prefix of that log.
-/

namespace LightStream

def GroupDb.route (db : GroupDb) (stream : StreamId) (partition : Nat) :
    Except DomainError PartitionRoute :=
  match db.get (.stream stream) with
  | none => .error .streamNotFound
  | some descriptor =>
      if descriptor.lifecycle ≠ .active then .error .streamNotActive
      else
        match descriptor.placement partition with
        | none => .error (.invalidRange "partition is outside the stream partition set")
        | some placement =>
            .ok ⟨descriptor.cluster, descriptor.stream, descriptor.name, partition,
              placement.group, descriptor.revision⟩

/-- The first part of `resolve_data_route`: a route, or that the node has to linearize first. -/
def resolveLocally (db : GroupDb) (partition : PartitionKey) (suppliedGroup : Option GroupId)
    (suppliedRevision : Option Nat) : Except DomainError (Option PartitionRoute) := do
  let localRoute ← db.route partition.stream partition.partition
  match suppliedGroup, suppliedRevision with
  | some group, some revision =>
      if group = localRoute.group ∧ revision = localRoute.routeRevision then
        .ok (some localRoute)
      else .error .staleRoute
  | some _, none => .error .staleRoute
  | none, some _ => .error .staleRoute
  | none, none => .ok none

structure CommittedEntry where
  entry : GroupEntry
  result : ApplyResult
  after : GroupDb

/-- Where a `delete_stream` is: its first write, made when the log had this length, is not answered
yet, or it was answered by the entry at this index and the second one is not. -/
inductive DeleteStage where
  | beginning (since : Nat)
  | finishing (begun : Nat)
deriving DecidableEq

structure DeleteCall where
  stream : StreamId
  stage : DeleteStage
deriving DecidableEq

/-- A publish on a node.  `deleted` is the entry that began a deletion of its stream, if a
`delete_stream` had returned when the publish started. -/
structure PublishCall where
  node : NodeId
  partition : PartitionKey
  suppliedGroup : Option GroupId
  suppliedRevision : Option Nat
  deleted : Option Nat
deriving DecidableEq

inductive RoutingStage where
  | started
  /-- Waits for a read index, which is at least the length of the log at this point. -/
  | linearizing (readIndex : Nat)
  | linearized
  | routed (route : PartitionRoute)
deriving DecidableEq

structure StreamCluster where
  origin : GroupDb
  log : List CommittedEntry
  applied : NodeId → Nat
  deletes : List DeleteCall
  /-- The streams that a `delete_stream` returned for, with the entry that began it. -/
  deleted : List (StreamId × Nat)
  publishes : List (PublishCall × RoutingStage)
  admitted : List PublishCall

inductive StreamEvent where
  | committed (entry : GroupEntry)
  | applied (node : NodeId) (index : Nat)
  | deleteCalled (stream : StreamId)
  /-- The entry at this index answers the first write of a `delete_stream`. -/
  | deleteBegun (stream : StreamId) (since index : Nat)
  | deleteReturned (call : DeleteCall) (index : Nat)
  | publishCalled (node : NodeId) (partition : PartitionKey) (suppliedGroup : Option GroupId)
      (suppliedRevision : Option Nat)
  | resolved (call : PublishCall)
  | readIndex (call : PublishCall) (readIndex : Nat)
  | reread (call : PublishCall)
  /-- The data group leads on the node and its scheduler has room. -/
  | admitted (call : PublishCall) (route : PartitionRoute)
  /-- A publish failed. -/
  | dropped (call : PublishCall) (stage : RoutingStage)

namespace StreamCluster

def created (cluster : ClusterId) (window : Nat) : StreamCluster where
  origin := GroupDb.create ⟨storageFormatVersion, cluster, controlGroupId, .control⟩ window
  log := []
  applied := fun _ => 0
  deletes := []
  deleted := []
  publishes := []
  admitted := []

def stateAt (cluster : StreamCluster) : Nat → GroupDb
  | 0 => cluster.origin
  | index + 1 => (cluster.log[index]?.map CommittedEntry.after).getD cluster.origin

def copy (cluster : StreamCluster) (node : NodeId) : GroupDb := cluster.stateAt (cluster.applied node)

def Answered (cluster : StreamCluster) (index : Nat) (command : GroupCommand) : Prop :=
  ∃ committed, cluster.log[index]? = some committed ∧
    committed.entry.payload = .normal command ∧ ∃ descriptor, committed.result = .stream descriptor

def deletionOf (cluster : StreamCluster) (stream : StreamId) : Option Nat :=
  (cluster.deleted.find? fun entry => entry.1 = stream).map Prod.snd

def call (cluster : StreamCluster) (node : NodeId) (partition : PartitionKey)
    (suppliedGroup : Option GroupId) (suppliedRevision : Option Nat) : PublishCall :=
  ⟨node, partition, suppliedGroup, suppliedRevision, cluster.deletionOf partition.stream⟩

def advance (cluster : StreamCluster) (call : PublishCall) (stage next : RoutingStage) :
    StreamCluster :=
  { cluster with publishes := (call, next) :: cluster.publishes.erase (call, stage) }

def drop (cluster : StreamCluster) (call : PublishCall) (stage : RoutingStage) : StreamCluster :=
  { cluster with publishes := cluster.publishes.erase (call, stage) }

/-- What a publish does with what `resolve_data_route` made of its route. -/
def settle (cluster : StreamCluster) (call : PublishCall) (stage : RoutingStage) :
    Except DomainError (Option PartitionRoute) → StreamCluster
  | .error _ => cluster.drop call stage
  | .ok none => cluster.advance call stage (.linearizing cluster.log.length)
  | .ok (some route) => cluster.advance call stage (.routed route)

inductive Step (cluster : StreamCluster) : StreamEvent → StreamCluster → Prop
  | committed {entry : GroupEntry} {result : ApplyResult} {next : GroupDb}
      (done : (cluster.stateAt cluster.log.length).applyEntry entry = .ok (result, next)) :
      Step cluster (.committed entry)
        { cluster with log := cluster.log ++ [⟨entry, result, next⟩] }
  | applied {node : NodeId} {index : Nat} (forward : cluster.applied node ≤ index)
      (known : index ≤ cluster.log.length) :
      Step cluster (.applied node index)
        { cluster with applied := Function.update cluster.applied node index }
  | deleteCalled (stream : StreamId) :
      Step cluster (.deleteCalled stream)
        { cluster with deletes := ⟨stream, .beginning cluster.log.length⟩ :: cluster.deletes }
  | deleteBegun {stream : StreamId} {since index : Nat}
      (called : ⟨stream, .beginning since⟩ ∈ cluster.deletes) (later : since ≤ index)
      (answered : cluster.Answered index (.beginDeleteStream stream)) :
      Step cluster (.deleteBegun stream since index)
        { cluster with
          deletes := ⟨stream, .finishing index⟩ ::
            cluster.deletes.erase ⟨stream, .beginning since⟩ }
  | deleteReturned {stream : StreamId} {begun index : Nat}
      (called : ⟨stream, .finishing begun⟩ ∈ cluster.deletes) (later : begun < index)
      (answered : cluster.Answered index (.finishDeleteStream stream)) :
      Step cluster (.deleteReturned ⟨stream, .finishing begun⟩ index)
        { cluster with
          deletes := cluster.deletes.erase ⟨stream, .finishing begun⟩
          deleted := cluster.deleted ++ [(stream, begun)] }
  | publishCalled (node : NodeId) (partition : PartitionKey) (suppliedGroup : Option GroupId)
      (suppliedRevision : Option Nat) :
      Step cluster (.publishCalled node partition suppliedGroup suppliedRevision)
        { cluster with
          publishes :=
            (cluster.call node partition suppliedGroup suppliedRevision, .started) ::
              cluster.publishes }
  | resolved {call : PublishCall} (called : (call, .started) ∈ cluster.publishes) :
      Step cluster (.resolved call)
        (cluster.settle call .started (resolveLocally (cluster.copy call.node) call.partition
          call.suppliedGroup call.suppliedRevision))
  | readIndex {call : PublishCall} {readIndex : Nat}
      (called : (call, .linearizing readIndex) ∈ cluster.publishes)
      (reached : readIndex ≤ cluster.applied call.node) :
      Step cluster (.readIndex call readIndex)
        (cluster.advance call (.linearizing readIndex) .linearized)
  | reread {call : PublishCall} (called : (call, .linearized) ∈ cluster.publishes) :
      Step cluster (.reread call)
        (cluster.settle call .linearized
          (((cluster.copy call.node).route call.partition.stream call.partition.partition).map some))
  | admitted {call : PublishCall} {route : PartitionRoute}
      (called : (call, .routed route) ∈ cluster.publishes) :
      Step cluster (.admitted call route)
        { cluster.drop call (.routed route) with admitted := call :: cluster.admitted }
  | dropped {call : PublishCall} {stage : RoutingStage}
      (called : (call, stage) ∈ cluster.publishes) :
      Step cluster (.dropped call stage) (cluster.drop call stage)

/-- A publish that began after a deletion of its stream had returned, and carries a route, is
resolved on a copy that has applied the beginning of that deletion. -/
def Current (cluster : StreamCluster) : StreamEvent → Prop
  | .resolved call => call.suppliedGroup.isSome = true → call.suppliedRevision.isSome = true →
      ∀ begun, call.deleted = some begun → begun < cluster.applied call.node
  | _ => True

/-- The runs whose steps all meet a condition. -/
inductive Reached (Allowed : StreamCluster → StreamEvent → Prop) (cluster : ClusterId)
    (window : Nat) : StreamCluster → Prop
  | created : Reached Allowed cluster window (created cluster window)
  | step {before next : StreamCluster} {event : StreamEvent}
      (reached : Reached Allowed cluster window before) (allowed : Allowed before event)
      (taken : Step before event next) : Reached Allowed cluster window next

end StreamCluster

end LightStream
