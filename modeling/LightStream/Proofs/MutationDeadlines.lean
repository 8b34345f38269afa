import LightStream.Proofs.MutationCertainty

/-!
The loops that never restore their flag, and those whose deadline error has a certainty
fixed by the place where the deadline is noticed.
-/

namespace LightStream

section Routed

variable {α : Type} (client : Client) (once : OnceCall α) (operation : String)
  (early : String → Deadline → Attempt α → Prop)

/-- How a `_once` function reports a failure: before the request was sent, with the flag
raised too `early`, or of a request that was sent. -/
def Client.Reports : Prop :=
  ∀ endpoint deadline attempt before reached failure,
    once endpoint deadline attempt before = (reached, .error failure) →
    (client.sent endpoint deadline attempt = none ∧ ¬early endpoint deadline attempt ∧
      reached = before) ∨
    (client.sent endpoint deadline attempt = none ∧ early endpoint deadline attempt ∧
      reached = true ∧ failure = .deadline) ∨
    (client.sent endpoint deadline attempt = some (attempt.exchange.fate deadline) ∧
      ¬early endpoint deadline attempt ∧ reached = true ∧
      attempt.receive operation deadline = .error failure)

variable (request : MutationRequestId) (deadline : Deadline)

section Turn

variable {client once operation early request deadline} {noCommit : NoCommit}
  {past : List Fate} {mutating next : Mutating} {turn : MutationTurn α} {returned : Returned α}

end Turn

end Routed

section Administration

variable {α : Type} (client : Client) (call : AdministrationCall) (deadline : Deadline)

end Administration

section Policy

variable {α : Type} (client : Client) (request : MutationRequestId) (deadline : Deadline)

end Policy

section Whole

variable {α : Type} (client : Client)

def Meets {σ τ : Type} (sent : σ → τ → Option Fate) (Condition : List Fate → σ → τ → Prop)
    (steps : List (σ × τ)) : Prop :=
  Retry.Throughout
    (fun past state turn => Condition (sentDuring sent (past ++ [(state, turn)])) state turn) []
    steps

end Whole

namespace Client

def sampleCall (reply : Reply (Body Unit)) : CallTurn Unit :=
  ⟨⟨connects, 1, reply, 1⟩, ⟨1, 100⟩⟩

end Client

end LightStream
