import LightStream.Client.Mutations
import LightStream.Proofs.PublishCertainty

/-!
The certainty of the mutation loops.  Each loop is right exactly when its turns avoid a
branch of its own: a lost route while a mutation is unresolved, a flag that is not restored
after a refusal, or a deadline error of a fixed certainty.
-/

namespace LightStream

section Endings

variable {α : Type} (noCommit : NoCommit) (attempts : List Fate)

end Endings

section Rule

variable {σ τ α : Type} {onward : σ → τ → Onward σ α} {late : σ → ClientError}
  {sleep : τ → Sleep} {deadline : Deadline} {sent : σ → τ → Option Fate}
  {Inv : List Fate → σ → Prop} {Condition : List Fate → σ → τ → Prop} {noCommit : NoCommit}

def sentDuring (sent : σ → τ → Option Fate) (steps : List (σ × τ)) : List Fate :=
  steps.filterMap fun step => sent step.1 step.2

end Rule

section Attempts

variable {α : Type} (client : Client)

def Client.sent (endpoint : String) (deadline : Deadline) (attempt : Attempt α) : Option Fate :=
  match client.prepare endpoint deadline attempt with
  | .ok _ => some (attempt.exchange.fate deadline)
  | .error _ => none

end Attempts

section Routing

variable {α : Type} (client : Client)

end Routing

section Checkpoint

variable {α : Type} (client : Client) (request : MutationRequestId) (deadline : Deadline)

section Turn

variable {client request deadline} {noCommit : NoCommit} {past : List Fate}
  {mutating next : Mutating} {turn : MutationTurn α} {returned : Returned α}

end Turn

end Checkpoint

end LightStream
