import LightStream.Client.Attempt

/-!
What a client can know of the requests it sent.  The fate of a request is read off the
exchange; `NoCommit` is the assumption about which typed errors mean that the attempt did
not commit.
-/

namespace LightStream

def DomainError.outcome : DomainError → Option RequestOutcome
  | .quorumUnavailable _ outcome _ => some outcome
  | .exportInProgress _ outcome => some outcome
  | .shuttingDown outcome => some outcome
  | _ => none

def DomainError.ambiguousRequest : DomainError → Option AmbiguousRequest
  | .quorumUnavailable _ _ request => request
  | _ => none

def ClientError.outcome : ClientError → Option RequestOutcome
  | .interrupted _ outcome _ => some outcome
  | .domain error => error.outcome
  | _ => none

def ClientError.ambiguousRequest : ClientError → Option AmbiguousRequest
  | .interrupted _ _ named => named
  | .domain error => error.ambiguousRequest
  | _ => none

/-- The typed errors that mean that the attempt did not commit. -/
structure NoCommit where
  definite : DomainError → Bool
  notLeader : ∀ group leader, definite (.notLeader group leader) = true
  staleRoute : definite .staleRoute = true
  marked : ∀ error, error.outcome = some .definiteNoCommit → definite error = true
  uncertain : ∀ error outcome, error.outcome = some outcome → outcome ≠ .definiteNoCommit →
    definite error = false

inductive Fate where
  | answered
  | refused (error : DomainError)
  | unanswered
deriving DecidableEq

def Exchange.fate {α : Type} (deadline : Deadline) (exchange : Exchange (Body α)) : Fate :=
  match awaitRpc deadline exchange with
  | .ok (.success (.ok _)) => .answered
  | .ok (.error (.ok error)) => .refused error
  | .error (.client (.domain error)) => .refused error
  | _ => .unanswered

def Fate.mayHaveCommitted (noCommit : NoCommit) : Fate → Bool
  | .refused error => !noCommit.definite error
  | _ => true

def Unresolved (noCommit : NoCommit) (attempts : List Fate) : Prop :=
  ∃ fate ∈ attempts, fate.mayHaveCommitted noCommit = true

theorem unresolved_append (noCommit : NoCommit) (first second : List Fate) :
    Unresolved noCommit (first ++ second) ↔
      Unresolved noCommit first ∨ Unresolved noCommit second := by
  simp only [Unresolved, List.mem_append, or_and_right, exists_or]

/-- The flag of a loop covers what was sent: it is raised when something may have
committed, and only after something was sent. -/
structure Covers (noCommit : NoCommit) (attempts : List Fate) (flag : Bool) : Prop where
  raised : Unresolved noCommit attempts → flag = true
  sent : flag = true → attempts ≠ []

theorem Covers.restored {noCommit : NoCommit} {attempts : List Fate} {flag : Bool} {fate : Fate}
    (covers : Covers noCommit attempts flag)
    (refused : fate.mayHaveCommitted noCommit = false) :
    Covers noCommit (attempts ++ [fate]) flag := by
  refine ⟨?_, ?_⟩
  · intro unresolved
    rw [unresolved_append] at unresolved
    rcases unresolved with earlier | ⟨last, member, may⟩
    · exact covers.raised earlier
    · rw [List.mem_singleton.mp member, refused] at may
      cases may
  · intro _
    simp

/-- The typed failures a routed loop acts on: they come from the server alone. -/
def AttemptError.routed : AttemptError → Bool
  | .client (.domain (.notLeader _ _)) => true
  | .client (.domain .staleRoute) => true
  | .client (.domain (.quorumUnavailable _ _ _)) => true
  | _ => false

def AttemptError.keeps : AttemptError → Bool
  | .client (.domain (.quorumUnavailable _ outcome _)) => decide (outcome ≠ .definiteNoCommit)
  | .client (.connection _) => true
  | .client (.request _) => true
  | _ => false

section Once

variable {α : Type} {client : Client} {operation endpoint : String} {deadline : Deadline}
  {attempt : Attempt α} {before reached : Bool} {failure : AttemptError}

end Once

end LightStream
