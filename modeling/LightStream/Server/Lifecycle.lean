import LightStream.Core.Identity
import LightStream.Run.Reached

/-!
The lifecycle of a server: `lifecycle.rs` of `light-stream-server`.  Two pieces of state are locked
separately: the watched operational state, and the gate that counts mutations.  Nothing panics
while it holds the gate's lock, so the branches for a poisoned lock are not here.
-/

namespace LightStream

inductive NodePhase where
  | starting
  | running
  | draining
  | stopping
  | failed
deriving DecidableEq

inductive ReadinessReason where
  | starting
  | notBootstrapped
  | forming
  | retired
  | groupLeaderUnknown (group : GroupId)
  | groupAuthorityStale (group : GroupId)
  | probeUnsupported (group : GroupId)
  | securityPolicyStale
  | exportInProgress
  | draining
  | storageFailure
deriving DecidableEq

inductive WriteReadiness where
  | ready
  | notReady (reasons : List ReadinessReason)
deriving DecidableEq

structure OperationalState where
  generation : Nat
  phase : NodePhase
  readiness : WriteReadiness
deriving DecidableEq

structure ReadinessSampleTicket where
  generation : Nat
deriving DecidableEq

namespace OperationalState

def starting : OperationalState := ⟨0, .starting, .notReady [.starting]⟩

def markRunning (state : OperationalState) (readiness : WriteReadiness) : OperationalState :=
  ⟨saturatingAdd state.generation 1, .running, readiness⟩

def beginReadinessSample (state : OperationalState) : Option ReadinessSampleTicket :=
  if state.phase = .running then some ⟨state.generation⟩ else none

def commitReadiness (state : OperationalState) (ticket : ReadinessSampleTicket)
    (readiness : WriteReadiness) : Bool × OperationalState :=
  if state.phase ≠ .running ∨ state.generation ≠ ticket.generation then (false, state)
  else if state.readiness ≠ readiness then
    (true, { state with generation := saturatingAdd state.generation 1, readiness })
  else (true, state)

def startDrain (state : OperationalState) : OperationalState :=
  ⟨saturatingAdd state.generation 1, .draining, .notReady [.draining]⟩

def markStopping (state : OperationalState) : OperationalState :=
  { state with generation := saturatingAdd state.generation 1, phase := .stopping }

end OperationalState

inductive MutationAdmission where
  | isOpen
  | closed
deriving DecidableEq

structure MutationGate where
  admission : MutationAdmission
  accepted : Nat
  inFlight : Nat
deriving DecidableEq

structure DrainTicket where
  accepted : Nat
deriving DecidableEq

inductive DrainOutcome where
  | completed (accepted : Nat)
  | deadlineExceeded (accepted unresolved : Nat)
deriving DecidableEq

namespace MutationGate

def opened : MutationGate := ⟨.isOpen, 0, 0⟩

def tryAdmit (gate : MutationGate) : Except DomainError MutationGate :=
  if gate.admission = .closed then .error (.shuttingDown .definiteNoCommit)
  else .ok { gate with
    accepted := saturatingAdd gate.accepted 1, inFlight := saturatingAdd gate.inFlight 1 }

def close (gate : MutationGate) : Nat × MutationGate :=
  (gate.accepted, { gate with admission := .closed })

def release (gate : MutationGate) : Bool × MutationGate :=
  (decide (gate.inFlight - 1 = 0), { gate with inFlight := gate.inFlight - 1 })

end MutationGate

def DrainTicket.outcome (ticket : DrainTicket) (unresolved : Nat) : DrainOutcome :=
  if unresolved = 0 then .completed ticket.accepted
  else .deadlineExceeded ticket.accepted unresolved

/-- Where a call of `wait_drained` stands.  A notification reaches every call that holds a
`notified` future, whether or not it has looked at the gate yet. -/
inductive DrainWait where
  | listening (woken : Bool)
  | waiting (woken : Bool)
  | expired
  | returned (unresolved : Nat)
deriving DecidableEq

namespace DrainWait

def notify : DrainWait → DrainWait
  | .listening _ => .listening true
  | .waiting _ => .waiting true
  | other => other

/-- What the call does with the number that it reads from the gate. -/
def look (inFlight : Nat) : DrainWait → Option DrainWait
  | .listening woken => some (if inFlight = 0 then .returned 0 else .waiting woken)
  | .expired => some (.returned inFlight)
  | _ => none

end DrainWait

structure DrainFinish where
  ticket : DrainTicket
  wait : DrainWait
deriving DecidableEq

def DrainFinish.outcome (finish : DrainFinish) : Option DrainOutcome :=
  match finish.wait with
  | .returned unresolved => some (finish.ticket.outcome unresolved)
  | _ => none

/-- A call of `start_drain`: it closes the gate, then announces the phase and returns. -/
structure DrainStart where
  ticket : DrainTicket
  returned : Bool
deriving DecidableEq

/-- A readiness sample, until its readiness is committed or its task stops. -/
structure ReadinessSample where
  ticket : ReadinessSampleTicket
  outstanding : Bool
deriving DecidableEq

/-- A server's controller with everything that was made from it.  A lease is the number of its
permits that are alive.  `confirmed` lists the samples whose commits were accepted for the
readiness that is held. -/
structure LifecycleController where
  state : OperationalState
  gate : MutationGate
  leases : List Nat
  starts : List DrainStart
  finishes : List DrainFinish
  samples : List ReadinessSample
  confirmed : List Nat
deriving DecidableEq

inductive LifecycleAction where
  | tryAdmitMutation
  | clonePermit (lease : Nat)
  | dropPermit (lease : Nat)
  | markRunning (readiness : WriteReadiness)
  | beginReadinessSample
  | commitReadiness (sample : Nat) (readiness : WriteReadiness)
  | abandonSample (sample : Nat)
  | closeGate
  | announceDrain (start : Nat)
  | finishDrain (start : Nat)
  | look (finish : Nat)
  | wake (finish : Nat)
  | expire (finish : Nat)
  | markStopping
deriving DecidableEq

namespace LifecycleController

def starting : LifecycleController := ⟨.starting, .opened, [], [], [], [], []⟩

def tryAdmitMutation (lifecycle : LifecycleController) : LifecycleController :=
  match lifecycle.gate.tryAdmit with
  | .ok gate => { lifecycle with gate, leases := lifecycle.leases ++ [1] }
  | .error _ => lifecycle

def dropPermit (lifecycle : LifecycleController) (lease permits : Nat) : LifecycleController :=
  let leases := lifecycle.leases.set lease (permits - 1)
  if permits = 1 then
    let (notifies, gate) := lifecycle.gate.release
    { lifecycle with
      gate, leases
      finishes := if notifies then
          lifecycle.finishes.map fun finish => { finish with wait := finish.wait.notify }
        else lifecycle.finishes }
  else { lifecycle with leases }

def commitReadiness (lifecycle : LifecycleController) (sample : Nat)
    (ticket : ReadinessSampleTicket) (readiness : WriteReadiness) : LifecycleController :=
  let (accepted, state) := lifecycle.state.commitReadiness ticket readiness
  { lifecycle with
    state
    samples := lifecycle.samples.set sample ⟨ticket, false⟩
    confirmed := if accepted then
        if lifecycle.state.readiness = readiness then sample :: lifecycle.confirmed else [sample]
      else lifecycle.confirmed }

def closeGate (lifecycle : LifecycleController) : LifecycleController :=
  let (accepted, gate) := lifecycle.gate.close
  { lifecycle with gate, starts := lifecycle.starts ++ [⟨⟨accepted⟩, false⟩] }

/-- What can happen next.  A server is marked running only before a drain has started. -/
def step (lifecycle : LifecycleController) : LifecycleAction → Option LifecycleController
  | .tryAdmitMutation => some lifecycle.tryAdmitMutation
  | .clonePermit lease =>
      match lifecycle.leases[lease]? with
      | some permits =>
          if permits = 0 then none
          else some { lifecycle with leases := lifecycle.leases.set lease (permits + 1) }
      | none => none
  | .dropPermit lease =>
      match lifecycle.leases[lease]? with
      | some permits => if permits = 0 then none else some (lifecycle.dropPermit lease permits)
      | none => none
  | .markRunning readiness =>
      if lifecycle.starts = [] then
        some { lifecycle with state := lifecycle.state.markRunning readiness, confirmed := [] }
      else none
  | .beginReadinessSample =>
      match lifecycle.state.beginReadinessSample with
      | some ticket => some { lifecycle with samples := lifecycle.samples ++ [⟨ticket, true⟩] }
      | none => some lifecycle
  | .commitReadiness sample readiness =>
      match lifecycle.samples[sample]? with
      | some ⟨ticket, true⟩ => some (lifecycle.commitReadiness sample ticket readiness)
      | _ => none
  | .abandonSample sample =>
      match lifecycle.samples[sample]? with
      | some ⟨ticket, true⟩ =>
          some { lifecycle with samples := lifecycle.samples.set sample ⟨ticket, false⟩ }
      | _ => none
  | .closeGate => some lifecycle.closeGate
  | .announceDrain start =>
      match lifecycle.starts[start]? with
      | some ⟨ticket, false⟩ =>
          some { lifecycle with
            state := lifecycle.state.startDrain
            starts := lifecycle.starts.set start ⟨ticket, true⟩
            confirmed := [] }
      | _ => none
  | .finishDrain start =>
      match lifecycle.starts[start]? with
      | some ⟨ticket, true⟩ =>
          some { lifecycle with
            finishes := lifecycle.finishes ++ [⟨ticket, .listening false⟩] }
      | _ => none
  | .look finish =>
      match lifecycle.finishes[finish]? with
      | some ⟨ticket, wait⟩ =>
          (wait.look lifecycle.gate.inFlight).map fun next =>
            { lifecycle with finishes := lifecycle.finishes.set finish ⟨ticket, next⟩ }
      | none => none
  | .wake finish =>
      match lifecycle.finishes[finish]? with
      | some ⟨ticket, .waiting true⟩ =>
          some { lifecycle with
            finishes := lifecycle.finishes.set finish ⟨ticket, .listening false⟩ }
      | _ => none
  | .expire finish =>
      match lifecycle.finishes[finish]? with
      | some ⟨ticket, .waiting _⟩ =>
          some { lifecycle with finishes := lifecycle.finishes.set finish ⟨ticket, .expired⟩ }
      | _ => none
  | .markStopping => some { lifecycle with state := lifecycle.state.markStopping }

end LifecycleController

end LightStream
