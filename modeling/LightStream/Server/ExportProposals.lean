import LightStream.Storage.Apply
import LightStream.Run.Reached

/-!
The proposal slot of the export coordinator, with the writers that use it: `start_proposal`,
`poll_proposal` and `wait_proposal_until` of `export.rs`, and `export_control_write` and
`export_data_write` of `runtime.rs`.  The slot's lock is held throughout a wait; every other use
of the slot takes the lock for one step.
-/

namespace LightStream

/-- How the task of a proposal ends: with what the write answered, or without an answer. -/
inductive ProposalEnd where
  | written (result : Except DomainError ApplyResult)
  | failed (reason : String)
deriving DecidableEq

def ProposalEnd.join : ProposalEnd → Except DomainError (Except DomainError ApplyResult)
  | .written result => .ok result
  | .failed reason => .error (.storage ("export proposal task failed: " ++ reason))

inductive ProposalTask where
  | unspawned
  | running
  | ended (ended : ProposalEnd)
deriving DecidableEq

/-- The proposal in the slot: the request it was started with, and the write whose task it is. -/
structure OwnedProposal where
  request : Option AmbiguousRequest
  owner : Nat
deriving DecidableEq

inductive ProposalStart where
  | started
  | busy (request : Option AmbiguousRequest)
deriving DecidableEq

inductive ProposalPoll where
  | idle
  | pending (request : Option AmbiguousRequest)
  | resolved (result : Except DomainError ApplyResult)
deriving DecidableEq

/-- The command of an `export_control_write` or of an `export_data_write`. -/
inductive ExportWrite where
  | control (command : GroupCommand) (request : Option AmbiguousRequest)
  | data (command : GroupCommand)

namespace ExportWrite

def group : ExportWrite → ConsensusGroup
  | .control _ _ => .control
  | .data _ => .data

def request : ExportWrite → Option AmbiguousRequest
  | .control _ request => request
  | .data _ => none

def timeoutError (group : ConsensusGroup) (request : Option AmbiguousRequest) : DomainError :=
  .quorumUnavailable group .ambiguousCommit request

def busyError (group : ConsensusGroup) (request : Option AmbiguousRequest) : DomainError :=
  .quorumUnavailable group .definiteNoCommit request

def busyAnswer (write : ExportWrite) (retained : Option AmbiguousRequest) : DomainError :=
  match write with
  | .control _ request =>
      if retained = request ∧ request.isSome then timeoutError .control request
      else busyError .control request
  | .data _ => busyError .data none

def pollAnswer (write : ExportWrite) : ProposalPoll → Except DomainError ApplyResult
  | .resolved result => result
  | .pending retained =>
      .error (match write with
        | .control _ request => timeoutError .control (retained.or request)
        | .data _ => timeoutError .data retained)
  | .idle =>
      .error (.storage (match write with
        | .control _ _ => "submitted export control proposal lost coordinator ownership"
        | .data _ => "submitted export data proposal lost coordinator ownership"))

end ExportWrite

inductive ExportCallStage where
  | calling
  | refused
  | busy (retained : Option AmbiguousRequest)
  | started
  | waiting
  | answered (polled : Except DomainError ProposalPoll)
  | dropped
deriving DecidableEq

/-- A call of one of the two writers, with the task it has spawned. -/
structure ExportCall where
  write : ExportWrite
  stage : ExportCallStage
  task : ProposalTask

def ExportCall.answer (call : ExportCall) : Option (Except DomainError ApplyResult) :=
  match call.stage with
  | .refused => some (.error (.shuttingDown .definiteNoCommit))
  | .busy retained => some (.error (call.write.busyAnswer retained))
  | .answered polled => some (polled.bind call.write.pollAnswer)
  | _ => none

/-- `holder` is the call that holds the slot's lock while it waits. -/
structure ExportProposals where
  stopping : Bool
  proposal : Option OwnedProposal
  holder : Option Nat
  calls : List ExportCall

inductive ProposalAction where
  | call (write : ExportWrite)
  | start (caller : Nat)
  | beginWait (caller : Nat)
  | join (caller : Nat)
  | timeout (caller : Nat)
  | drop (caller : Nat)
  | complete (caller : Nat) (ended : ProposalEnd)
  | poll

namespace ExportProposals

def opened : ExportProposals := ⟨false, none, none, []⟩

def task (state : ExportProposals) (caller : Nat) : ProposalTask :=
  (state.calls[caller]?.map ExportCall.task).getD .unspawned

def startProposal (state : ExportProposals) (request : Option AmbiguousRequest) (owner : Nat) :
    Except DomainError (ProposalStart × Option OwnedProposal) :=
  if state.stopping then .error (.shuttingDown .definiteNoCommit)
  else
    match state.proposal with
    | some proposal => .ok (.busy proposal.request, some proposal)
    | none => .ok (.started, some ⟨request, owner⟩)

/-- `poll_proposal`, as the reconciler calls it: the answer, and the slot after it. -/
def pollProposal (state : ExportProposals) :
    Except DomainError ProposalPoll × Option OwnedProposal :=
  match state.proposal with
  | none => (.ok .idle, none)
  | some proposal =>
      match state.task proposal.owner with
      | .ended ended => (ended.join.map .resolved, none)
      | _ => (.ok (.pending proposal.request), some proposal)

def setCall (state : ExportProposals) (caller : Nat) (call : ExportCall) : ExportProposals :=
  { state with calls := state.calls.set caller call }

def start (state : ExportProposals) (caller : Nat) (call : ExportCall) : ExportProposals :=
  match state.startProposal call.write.request caller with
  | .error _ => state.setCall caller { call with stage := .refused }
  | .ok (.busy retained, _) => state.setCall caller { call with stage := .busy retained }
  | .ok (.started, proposal) =>
      { state.setCall caller ⟨call.write, .started, .running⟩ with proposal }

/-- The call takes the lock; an empty slot answers at once, else the call waits with the lock. -/
def beginWait (state : ExportProposals) (caller : Nat) (call : ExportCall) : ExportProposals :=
  match state.proposal with
  | none => state.setCall caller { call with stage := .answered (.ok .idle) }
  | some _ => { state.setCall caller { call with stage := .waiting } with holder := some caller }

def endWait (state : ExportProposals) (caller : Nat) (call : ExportCall)
    (stage : ExportCallStage) (proposal : Option OwnedProposal) : ExportProposals :=
  { state.setCall caller { call with stage } with proposal, holder := none }

def step (state : ExportProposals) : ProposalAction → Option ExportProposals
  | .call write => some { state with calls := state.calls ++ [⟨write, .calling, .unspawned⟩] }
  | .start caller =>
      match state.calls[caller]? with
      | some ⟨write, .calling, task⟩ =>
          if state.holder = none then some (state.start caller ⟨write, .calling, task⟩) else none
      | _ => none
  | .beginWait caller =>
      match state.calls[caller]? with
      | some ⟨write, .started, task⟩ =>
          if state.holder = none then some (state.beginWait caller ⟨write, .started, task⟩)
          else none
      | _ => none
  | .join caller =>
      match state.calls[caller]?, state.proposal with
      | some ⟨write, .waiting, task⟩, some proposal =>
          match state.task proposal.owner with
          | .ended ended => some (state.endWait caller ⟨write, .waiting, task⟩
              (.answered (ended.join.map .resolved)) none)
          | _ => none
      | _, _ => none
  | .timeout caller =>
      match state.calls[caller]?, state.proposal with
      | some ⟨write, .waiting, task⟩, some proposal =>
          match state.task proposal.owner with
          | .running => some (state.endWait caller ⟨write, .waiting, task⟩
              (.answered (.ok (.pending proposal.request))) (some proposal))
          | _ => none
      | _, _ => none
  | .drop caller =>
      match state.calls[caller]? with
      | some ⟨write, .calling, task⟩ => some (state.setCall caller ⟨write, .dropped, task⟩)
      | some ⟨write, .started, task⟩ => some (state.setCall caller ⟨write, .dropped, task⟩)
      | some ⟨write, .waiting, task⟩ =>
          some (state.endWait caller ⟨write, .waiting, task⟩ .dropped state.proposal)
      | _ => none
  | .complete caller ended =>
      match state.calls[caller]? with
      | some ⟨write, stage, .running⟩ =>
          some (state.setCall caller ⟨write, stage, .ended ended⟩)
      | _ => none
  | .poll =>
      if state.holder = none then some { state with proposal := state.pollProposal.2 } else none

end ExportProposals

end LightStream
