import LightStream.Server.Reconcile

/-!
A cluster during exports: the committed states of the control group and of every data group, the
states that a lagging copy may still show, and the proposals in flight.
-/

namespace LightStream

/-- The commands of clients of the control group; a tick proposes the others. -/
def ExportCommand.requested : ExportCommand → Bool
  | .begin _ _ => true
  | .requestCompletion _ _ _ => true
  | .requestAbort _ _ _ => true
  | _ => false

/-- A copy of a group shows one of its committed states. -/
structure Cluster where
  control : GroupDb
  data : GroupId → GroupDb
  controlSeen : List GroupDb
  dataSeen : GroupId → List GroupDb
  proposals : List Proposal

namespace Cluster

def created (cluster : ClusterId) (window : Nat) : Cluster :=
  let control := GroupDb.create ⟨storageFormatVersion, cluster, controlGroupId, .control⟩ window
  let data (group : GroupId) :=
    GroupDb.create ⟨storageFormatVersion, cluster, group, .data⟩ window
  ⟨control, data, [control], fun group => [data group], []⟩

def propose (cluster : Cluster) (proposals : List Proposal) : Cluster :=
  { cluster with proposals := proposals ++ cluster.proposals }

def commitControl (cluster : Cluster) (next : GroupDb) : Cluster :=
  { cluster with control := next, controlSeen := next :: cluster.controlSeen }

def commitData (cluster : Cluster) (group : GroupId) (next : GroupDb) : Cluster :=
  { cluster with
    data := Function.update cluster.data group next
    dataSeen := Function.update cluster.dataSeen group (next :: cluster.dataSeen group) }

def Hosts (cluster : Cluster) (node : ExportNode) : Prop :=
  node.control ∈ cluster.controlSeen ∧
    (∀ group copy, node.data group = some copy → copy ∈ cluster.dataSeen group) ∧
    ∀ group copy, node.again group = some copy → copy ∈ cluster.dataSeen group

/-- What may be committed in the control group: entries that are no export commands, requests of
clients, and proposals.  A proposal stays, so it can be late, repeated, overtaken or lost. -/
def ControlEntry (cluster : Cluster) (entry : GroupEntry) : Prop :=
  ∀ command, entry.payload = .normal (.exportProtocol command) →
    command.requested = true ∨ .control command ∈ cluster.proposals

def DataEntry (cluster : Cluster) (group : GroupId) (entry : GroupEntry) : Prop :=
  ∀ command, entry.payload = .normal (.exportProtocol command) →
    .data group command ∈ cluster.proposals

inductive Step (cluster : Cluster) : Cluster → Prop
  | reconciled (node : ExportNode) (hosts : cluster.Hosts node) :
      Step cluster (cluster.propose node.reconcileExportTick)
  | controlCommitted (entry : GroupEntry) (allowed : cluster.ControlEntry entry)
      (result : ApplyResult) (next : GroupDb)
      (done : cluster.control.applyEntry entry = .ok (result, next)) :
      Step cluster (cluster.commitControl next)
  | dataCommitted (group : GroupId) (entry : GroupEntry) (allowed : cluster.DataEntry group entry)
      (result : ApplyResult) (next : GroupDb)
      (done : (cluster.data group).applyEntry entry = .ok (result, next)) :
      Step cluster (cluster.commitData group next)

inductive Reachable (identifier : ClusterId) (window : Nat) : Cluster → Prop
  | created : Reachable identifier window (Cluster.created identifier window)
  | step {cluster next : Cluster} (reached : Reachable identifier window cluster)
      (taken : Step cluster next) : Reachable identifier window next

def exportCommand (entry : GroupEntry) : Option ExportCommand :=
  match entry.payload with
  | .normal (.exportProtocol command) => some command
  | _ => none

theorem exportCommand_eq {entry : GroupEntry} {command : ExportCommand}
    (sent : entry.payload = .normal (.exportProtocol command)) :
    exportCommand entry = some command := by
  rw [exportCommand, sent]

def leader (cluster : Cluster) (cursor : Nat) : ExportNode where
  control := cluster.control
  data group := some (cluster.data group)
  again group := some (cluster.data group)
  controlLeader := true
  dataLeader _ := true
  authority := true
  proposing := false
  clock _ := ⟨0, 0, le_rfl⟩
  owns := false
  polled := .pending
  recovered := .absent
  releaseCursor := cursor

inductive Action where
  | tick (cursor : Nat)
  | control (entry : GroupEntry)
  | data (group : GroupId) (entry : GroupEntry)

def perform (cluster : Cluster) : Action → Option Cluster
  | .tick cursor => some (cluster.propose (cluster.leader cursor).reconcileExportTick)
  | .control entry =>
      if (exportCommand entry).all fun command =>
          command.requested || decide (.control command ∈ cluster.proposals) then
        (cluster.control.applyEntry entry).toOption.map fun done => cluster.commitControl done.2
      else none
  | .data group entry =>
      if (exportCommand entry).all fun command =>
          decide (.data group command ∈ cluster.proposals) then
        ((cluster.data group).applyEntry entry).toOption.map fun done =>
          cluster.commitData group done.2
      else none

def performAll (cluster : Cluster) (actions : List Action) : Option Cluster :=
  actions.foldlM perform cluster

end Cluster

end LightStream
