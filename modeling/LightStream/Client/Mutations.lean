import LightStream.Client.Publish

/-!
The mutation loops of the client: checkpoint updates, retention, replay leases, voter
administration and security policy mutations.  The bodies of the requests play no part; a
loop carries the route it sends, its endpoints and its flag.
-/

namespace LightStream

structure Mutating where
  routeGroupId : Nat
  routeRevision : Nat
  endpoints : Endpoints
  index : Nat
  requestMayHaveReached : Bool

/-- The environment of one iteration.  `rerouting` is the clock when a new route lookup
takes its own deadline. -/
structure MutationTurn (α : Type) where
  checked : Instant
  attempt : Attempt α
  rerouting : Instant
  routes : List RouteTurn
  sleep : Sleep

/-- What an iteration decides before its back-off. -/
inductive Onward (σ α : Type) where
  | retry (next : σ)
  | leave (returned : Returned α)
  | waiting

/-- The back-off at the end of an iteration; `late` is the error of an expired deadline. -/
def Onward.backOff {σ α : Type} (deadline : Deadline) (late : σ → ClientError) (sleep : Sleep) :
    Onward σ α → Retry.Turned σ (Returned α)
  | .retry next =>
    match retrySleep deadline sleep with
    | .error _ => .returned (fail .interrupted (late next))
    | .ok () => .again next
  | .leave returned => .returned returned
  | .waiting => .waiting

section Routed

variable {α : Type} (client : Client)

/-- The next iteration goes to the hinted leader, or to the next endpoint. -/
def Client.follow (ending : Ending) (mutating : Mutating) (leader : Option LeaderHint) :
    Onward Mutating α :=
  match client.addLeader mutating.endpoints (wrappingNext mutating.index) leader with
  | .error error => .leave (fail ending error)
  | .ok (endpoints, index) => .retry { mutating with endpoints, index }

/-- The stale-route arm: resolve again until `deadline`, then go to the new leader. -/
def Client.reroute (deadline : Deadline) (mutating : Mutating) (turn : MutationTurn α) :
    Onward Mutating α :=
  match client.resolveRouteUntil deadline turn.routes with
  | none => .waiting
  | some { result := .error error, .. } => .leave (fail .unrouted error)
  | some { result := .ok found, .. } =>
    client.follow .unrouted
      { mutating with
        routeGroupId := found.route.group.value
        routeRevision := found.route.routeRevision }
      found.leader

def Mutating.onward (mutating : Mutating) (reached : Bool) : Mutating :=
  { mutating with index := wrappingNext mutating.index, requestMayHaveReached := reached }

def Client.checkpointFailed (request : MutationRequestId) (deadline : Deadline)
    (mutating : Mutating) (turn : MutationTurn α) (reached : Bool) :
    AttemptError → Onward Mutating α
  | .deadline => .leave (fail .interrupted (mutationDeadlineError request reached))
  | .client (.domain (.notLeader _ leader)) =>
    if client.retry then client.follow .answered mutating leader
    else .leave (fail .answered (.domain (.notLeader .data leader)))
  | .client (.domain (.quorumUnavailable group outcome named)) =>
    if client.retry then
      .retry (mutating.onward
        (if outcome = .definiteNoCommit then mutating.requestMayHaveReached else reached))
    else .leave (fail .answered (.domain (.quorumUnavailable group outcome named)))
  | .client (.connection message) =>
    if client.retry then .retry (mutating.onward reached)
    else .leave (fail .answered (.connection message))
  | .client (.request message) =>
    if client.retry then .retry (mutating.onward reached)
    else .leave (fail .answered (.request message))
  | .client (.domain .staleRoute) =>
    if client.retry then client.reroute deadline mutating turn
    else .leave (fail .answered (.domain .staleRoute))
  | .client error => .leave (fail .answered error)

def Client.checkpointOnward (request : MutationRequestId) (deadline : Deadline)
    (mutating : Mutating) (turn : MutationTurn α) : Onward Mutating α :=
  match client.callOnce "checkpoint CAS" (mutating.endpoints.at mutating.index) deadline
      turn.attempt mutating.requestMayHaveReached with
  | (_, .ok value) => .leave ⟨.answered, .ok value⟩
  | (reached, .error failure) =>
    client.checkpointFailed request deadline mutating turn reached failure

def Client.checkpointTurn (request : MutationRequestId) (deadline : Deadline)
    (mutating : Mutating) (turn : MutationTurn α) : Retry.Turned Mutating (Returned α) :=
  (client.checkpointOnward request deadline mutating turn).backOff deadline
    (fun next => mutationDeadlineError request next.requestMayHaveReached) turn.sleep

def Client.startMutation (route : ResolvedRoute) : Except ClientError Mutating :=
  match client.addLeader client.endpoints 0 route.leader with
  | .error error => .error error
  | .ok (endpoints, _) =>
    .ok ⟨route.route.group.value, route.route.routeRevision, endpoints, 0, false⟩

/-- `compare_and_set_checkpoint`: one deadline serves the route lookups and the loop. -/
def Client.compareAndSetCheckpoint (request : MutationRequestId) (started : Instant)
    (routes : List RouteTurn) (script : List (MutationTurn α)) : Option (Returned α) :=
  let deadline := Deadline.after started client.deadline
  match client.resolveRouteUntil deadline routes with
  | none => none
  | some { ending, result := .error error } => some (fail ending error)
  | some { result := .ok route, .. } =>
    match client.startMutation route with
    | .error error => some (fail .answered error)
    | .ok mutating => Retry.run (client.checkpointTurn request deadline) mutating script

abbrev OnceCall (α : Type) :=
  String → Deadline → Attempt α → Bool → Bool × Except AttemptError α

def Client.advanceRetentionOnce : OnceCall α := client.callOnce "retention"

/-- The error arms shared by `advance_retention` and `execute_replay_mutation`: the flag is
never restored, and a new route lookup has a deadline of its own. -/
def Client.routedFailed (request : MutationRequestId) (mutating : Mutating)
    (turn : MutationTurn α) (reached : Bool) : AttemptError → Onward Mutating α
  | .deadline => .leave (fail .interrupted (mutationDeadlineError request reached))
  | .client (.domain (.notLeader group leader)) =>
    if client.retry then
      client.follow .answered { mutating with requestMayHaveReached := reached } leader
    else .leave (fail .answered (.domain (.notLeader group leader)))
  | .client (.domain (.quorumUnavailable group outcome named)) =>
    if client.retry then .retry (mutating.onward reached)
    else .leave (fail .answered (.domain (.quorumUnavailable group outcome named)))
  | .client (.connection message) =>
    if client.retry then .retry (mutating.onward reached)
    else .leave (fail .answered (.connection message))
  | .client (.request message) =>
    if client.retry then .retry (mutating.onward reached)
    else .leave (fail .answered (.request message))
  | .client (.domain .staleRoute) =>
    if client.retry then
      client.reroute (Deadline.after turn.rerouting client.deadline)
        { mutating with requestMayHaveReached := reached } turn
    else .leave (fail .answered (.domain .staleRoute))
  | .client error => .leave (fail .answered error)

def Client.routedOnward (once : OnceCall α) (request : MutationRequestId) (deadline : Deadline)
    (mutating : Mutating) (turn : MutationTurn α) : Onward Mutating α :=
  if deadline.expired turn.checked then
    .leave (fail .interrupted (mutationDeadlineError request mutating.requestMayHaveReached))
  else
    match once (mutating.endpoints.at mutating.index) deadline turn.attempt
        mutating.requestMayHaveReached with
    | (_, .ok value) => .leave ⟨.answered, .ok value⟩
    | (reached, .error failure) => client.routedFailed request mutating turn reached failure

def Client.routedTurn (once : OnceCall α) (request : MutationRequestId) (deadline : Deadline)
    (mutating : Mutating) (turn : MutationTurn α) : Retry.Turned Mutating (Returned α) :=
  (client.routedOnward once request deadline mutating turn).backOff deadline
    (fun next => mutationDeadlineError request next.requestMayHaveReached) turn.sleep

def Client.routedLoop (once : OnceCall α) (request : MutationRequestId) (route : ResolvedRoute)
    (started : Instant) (script : List (MutationTurn α)) : Option (Returned α) :=
  match client.startMutation route with
  | .error error => some (fail .answered error)
  | .ok mutating =>
    Retry.run (client.routedTurn once request (Deadline.after started client.deadline)) mutating
      script

/-- `advance_retention`; `resolving` is the clock when the first route lookup starts. -/
def Client.advanceRetention (request : MutationRequestId) (resolving : Instant)
    (routes : List RouteTurn) (started : Instant) (script : List (MutationTurn α)) :
    Option (Returned α) :=
  match client.resolveRouteUntil (Deadline.after resolving client.deadline) routes with
  | none => none
  | some { ending, result := .error error } => some (fail ending error)
  | some { result := .ok route, .. } =>
    client.routedLoop client.advanceRetentionOnce request route started script

end Routed

structure CallTurn (α : Type) where
  attempt : Attempt α
  sleep : Sleep

structure Calling where
  endpoints : Endpoints
  index : Nat

section Calls

variable {α : Type} (client : Client)

def Calling.onward (calling : Calling) : Calling :=
  { calling with index := wrappingNext calling.index }

end Calls

end LightStream
