import LightStream.Client.Attempt
import LightStream.Retry.Loop

/-!
`Client::publish_with`: the route lookup, the publish loop and the receipt lookup.  Each
loop consumes a script of turns; a turn holds everything the environment may answer during
one iteration.
-/

namespace LightStream

structure ResolvedRoute where
  route : PartitionRoute
  leader : Option LeaderHint
deriving DecidableEq

/-- What ended a call: an answer or a fault of its own, the deadline or a cancellation, or
a route that could not be resolved again.  The code returns only the result. -/
inductive Ending where
  | answered
  | interrupted
  | unrouted
deriving DecidableEq

structure Returned (α : Type) where
  ending : Ending
  result : Except ClientError α

structure RouteSearch where
  endpoints : Endpoints
  index : Nat

structure RouteTurn where
  attempt : Attempt ResolvedRoute
  sleep : Sleep

def RouteTurn.backOff (deadline : Deadline) (turn : RouteTurn) (next : RouteSearch) :
    Retry.Turned RouteSearch (Returned ResolvedRoute) :=
  match retrySleep deadline turn.sleep with
  | .error _ => .returned ⟨.interrupted, .error nonWriteDeadlineError⟩
  | .ok () => .again next

def Client.resolveRouteOnce (client : Client) (endpoint : String) (deadline : Deadline)
    (attempt : Attempt ResolvedRoute) : Except AttemptError (Body ResolvedRoute) :=
  match client.prepare endpoint deadline attempt with
  | .error error => .error error
  | .ok _ => awaitRpc deadline attempt.exchange

def Client.routeTurn (client : Client) (deadline : Deadline) (search : RouteSearch)
    (turn : RouteTurn) : Retry.Turned RouteSearch (Returned ResolvedRoute) :=
  match client.resolveRouteOnce (search.endpoints.at search.index) deadline turn.attempt with
  | .ok (.success (.ok value)) => .returned ⟨.answered, .ok value⟩
  | .ok (.success (.error fault)) => .returned ⟨.answered, .error fault.toClient⟩
  | .ok (.error (.ok (.notLeader group leader))) =>
    if client.retry then
      match client.addLeader search.endpoints search.index leader with
      | .error error => .returned ⟨.answered, .error error⟩
      | .ok (endpoints, index) => turn.backOff deadline ⟨endpoints, index⟩
    else .returned ⟨.answered, .error (.domain (.notLeader group leader))⟩
  | .ok (.error value) => .returned ⟨.answered, .error (decodeDomainError value)⟩
  | .ok .omitted =>
    .returned ⟨.answered, .error (.protocol "route response omitted its typed result")⟩
  | .error .deadline =>
    .returned ⟨.interrupted, .error (requestAttemptError "resolve route" .deadline)⟩
  | .error (.client (.connection message)) =>
    if client.retry then
      turn.backOff deadline { search with index := wrappingNext search.index }
    else .returned ⟨.answered, .error (.connection message)⟩
  | .error (.client (.request message)) =>
    if client.retry then
      turn.backOff deadline { search with index := wrappingNext search.index }
    else .returned ⟨.answered, .error (.request message)⟩
  | .error (.client error) => .returned ⟨.answered, .error error⟩

/-- `resolve_route_until`; `none` while the script has not ended the search. -/
def Client.resolveRouteUntil (client : Client) (deadline : Deadline)
    (script : List RouteTurn) : Option (Returned ResolvedRoute) :=
  Retry.run (client.routeTurn deadline) ⟨client.endpoints, 0⟩ script

structure ReceiptRequest where
  cluster : ClusterId
  partition : PartitionKey
  request : ProducerRequestId
  routeGroupId : Nat
  routeRevision : Nat
deriving DecidableEq

structure ReceiptSearch where
  request : ReceiptRequest
  endpoints : Endpoints
  index : Nat

structure ReceiptTurn where
  checked : Instant
  attempt : Attempt PublishReceipt
  routes : List RouteTurn
  sleep : Sleep

def ReceiptTurn.backOff (deadline : Deadline) (turn : ReceiptTurn) (next : ReceiptSearch) :
    Retry.Turned ReceiptSearch (Except ClientError PublishReceipt) :=
  match retrySleep deadline turn.sleep with
  | .error _ => .returned (.error (.domain .receiptNotFound))
  | .ok () => .again next

def Client.receiptTurn (client : Client) (deadline : Deadline) (search : ReceiptSearch)
    (turn : ReceiptTurn) :
    Retry.Turned ReceiptSearch (Except ClientError PublishReceipt) :=
  if deadline.expired turn.checked then .returned (.error (.domain .receiptNotFound))
  else
    let endpoint := search.endpoints.at search.index
    let onward := { search with index := wrappingNext search.index }
    match (client.callOnce "receipt" endpoint deadline turn.attempt false).2 with
    | .ok receipt => .returned (.ok receipt)
    | .error .deadline => .returned (.error (.domain .receiptNotFound))
    | .error (.client (.domain .receiptNotFound)) => turn.backOff deadline onward
    | .error (.client (.domain (.quorumUnavailable _ _ _))) => turn.backOff deadline onward
    | .error (.client (.connection _)) => turn.backOff deadline onward
    | .error (.client (.request _)) => turn.backOff deadline onward
    | .error (.client (.domain (.notLeader _ leader))) =>
      match client.addLeader search.endpoints onward.index leader with
      | .error error => .returned (.error error)
      | .ok (endpoints, index) => turn.backOff deadline { search with endpoints, index }
    | .error (.client (.domain .staleRoute)) =>
      match client.resolveRouteUntil deadline turn.routes with
      | none => .waiting
      | some { result := .error error, .. } => .returned (.error error)
      | some { result := .ok found, .. } =>
        match client.addLeader search.endpoints onward.index found.leader with
        | .error error => .returned (.error error)
        | .ok (endpoints, index) =>
          turn.backOff deadline
            { request :=
                { search.request with
                  routeGroupId := found.route.group.value
                  routeRevision := found.route.routeRevision }
              endpoints
              index }
    | .error (.client error) => .returned (.error error)

def Client.receiptUntil (client : Client) (request : ReceiptRequest) (deadline : Deadline)
    (script : List ReceiptTurn) : Option (Except ClientError PublishReceipt) :=
  Retry.run (client.receiptTurn deadline) ⟨request, client.endpoints, 0⟩ script

/-- `PublishOptions`; `cancellation` tells whether a token was supplied. -/
structure PublishOptions where
  cancellation : Bool
  resolveAmbiguousReceipt : Bool
deriving DecidableEq

structure PublishRequest where
  batch : PublishBatch
  routeGroupId : Nat
  routeRevision : Nat
deriving DecidableEq

def publishRequestToWire (batch : PublishBatch) (route : PartitionRoute) : PublishRequest :=
  ⟨batch, route.group.value, route.routeRevision⟩

/-- The await point of `publish_once` at which a cancellation is seen. -/
inductive PublishStage where
  | connecting
  | awaiting
deriving DecidableEq

/-- The environment of one iteration of the publish loop.  `cancelled` is the token when
it is read, `cancelledDuring` and `cancelledAsleep` a cancellation that arrives at an await
point; `finishing` and `lookup` serve `finish_interrupted_publish`. -/
structure PublishTurn where
  cancelled : Bool
  checked : Instant
  cancelledDuring : Option PublishStage
  attempt : Attempt PublishReceipt
  routes : List RouteTurn
  cancelledAsleep : Bool
  sleep : Sleep
  finishing : Instant
  lookup : List ReceiptTurn

structure Publishing where
  request : PublishRequest
  endpoints : Endpoints
  index : Nat
  requestMayHaveReached : Bool

/-- How a turn leaves the loop: with a result, or through a tail call of
`finish_interrupted_publish`. -/
inductive PublishExit where
  | returned (value : Returned PublishReceipt)
  | interrupted (reason : Interruption) (request : PublishRequest) (reached : Bool)
      (finishing : Instant) (lookup : List ReceiptTurn)

def PublishTurn.interrupt (turn : PublishTurn) (reason : Interruption)
    (publishing : Publishing) (reached : Bool) : Retry.Turned Publishing PublishExit :=
  .returned (.interrupted reason publishing.request reached turn.finishing turn.lookup)

def fail {α : Type} (ending : Ending) (error : ClientError) : Returned α :=
  ⟨ending, .error error⟩

def PublishTurn.backOff (options : PublishOptions) (deadline : Deadline) (turn : PublishTurn)
    (next : Publishing) : Retry.Turned Publishing PublishExit :=
  if options.cancellation ∧ turn.cancelledAsleep then
    turn.interrupt .cancelled next next.requestMayHaveReached
  else
    match retrySleep deadline turn.sleep with
    | .error _ => turn.interrupt .deadline next next.requestMayHaveReached
    | .ok () => .again next

def Client.publishTransport (client : Client) (options : PublishOptions) (deadline : Deadline)
    (publishing : Publishing) (turn : PublishTurn) (reached : Bool) (error : ClientError) :
    Retry.Turned Publishing PublishExit :=
  if client.retry then
    turn.backOff options deadline
      { publishing with
        index := wrappingNext publishing.index
        requestMayHaveReached := reached }
  else if options.resolveAmbiguousReceipt ∧ reached then
    turn.interrupt .transport publishing true
  else .returned (.returned (fail .answered error))

/-- The error arms of `publish_with_resolved_route`; `reached` is the flag after the
attempt, `publishing.requestMayHaveReached` the one before it. -/
def Client.publishFailed (client : Client) (options : PublishOptions) (deadline : Deadline)
    (publishing : Publishing) (turn : PublishTurn) (reached : Bool) :
    AttemptError → Retry.Turned Publishing PublishExit
  | .deadline => turn.interrupt .deadline publishing reached
  | .client (.domain (.notLeader _ leader)) =>
    if client.retry then
      match client.addLeader publishing.endpoints (wrappingNext publishing.index) leader with
      | .error error => .returned (.returned (fail .answered error))
      | .ok (endpoints, index) =>
        turn.backOff options deadline { publishing with endpoints, index }
    else .returned (.returned (fail .answered (.domain (.notLeader .data leader))))
  | .client (.domain (.quorumUnavailable group outcome request)) =>
    if client.retry then
      turn.backOff options deadline
        { publishing with
          index := wrappingNext publishing.index
          requestMayHaveReached :=
            if outcome = .definiteNoCommit then publishing.requestMayHaveReached else reached }
    else if outcome = .ambiguousCommit ∧ options.resolveAmbiguousReceipt ∧ reached then
      turn.interrupt .transport publishing true
    else
      .returned (.returned (fail .answered (.domain (.quorumUnavailable group outcome request))))
  | .client (.connection message) =>
    client.publishTransport options deadline publishing turn reached (.connection message)
  | .client (.request message) =>
    client.publishTransport options deadline publishing turn reached (.request message)
  | .client (.domain .staleRoute) =>
    if client.retry then
      match client.resolveRouteUntil deadline turn.routes with
      | none => .waiting
      | some { result := .error error, .. } => .returned (.returned (fail .unrouted error))
      | some { result := .ok found, .. } =>
        match client.addLeader publishing.endpoints (wrappingNext publishing.index)
            found.leader with
        | .error error => .returned (.returned (fail .unrouted error))
        | .ok (endpoints, index) =>
          turn.backOff options deadline
            { request :=
                { publishing.request with
                  routeGroupId := found.route.group.value
                  routeRevision := found.route.routeRevision }
              endpoints
              index
              requestMayHaveReached := publishing.requestMayHaveReached }
    else .returned (.returned (fail .answered (.domain .staleRoute)))
  | .client error => .returned (.returned (fail .answered error))

def Client.publishTurn (client : Client) (options : PublishOptions) (deadline : Deadline)
    (publishing : Publishing) (turn : PublishTurn) : Retry.Turned Publishing PublishExit :=
  if options.cancellation ∧ turn.cancelled then
    turn.interrupt .cancelled publishing publishing.requestMayHaveReached
  else if deadline.expired turn.checked then
    turn.interrupt .deadline publishing publishing.requestMayHaveReached
  else
    let endpoint := publishing.endpoints.at publishing.index
    let cancelled := if options.cancellation then turn.cancelledDuring else none
    match cancelled, client.prepare endpoint deadline turn.attempt with
    | some .connecting, _ =>
      turn.interrupt .cancelled publishing publishing.requestMayHaveReached
    | some .awaiting, .ok _ => turn.interrupt .cancelled publishing true
    | _, _ =>
      match client.callOnce "publish" endpoint deadline turn.attempt
          publishing.requestMayHaveReached with
      | (_, .ok receipt) => .returned (.returned ⟨.answered, .ok receipt⟩)
      | (reached, .error failure) =>
        client.publishFailed options deadline publishing turn reached failure

def receiptRequest (batch : PublishBatch) (request : PublishRequest) : ReceiptRequest :=
  ⟨batch.cluster, batch.partition, batch.request, request.routeGroupId, request.routeRevision⟩

def Client.finishInterruptedPublish (client : Client) (options : PublishOptions)
    (batch : PublishBatch) (deadline : Deadline) (reason : Interruption)
    (request : PublishRequest) (reached : Bool) (finishing : Instant)
    (lookup : List ReceiptTurn) : Option (Returned PublishReceipt) :=
  let interrupted := fail .interrupted (interruptedPublishError reason batch.request reached)
  if reached ∧ options.resolveAmbiguousReceipt ∧ deadline.expired finishing = false then
    match client.receiptUntil (receiptRequest batch request) deadline lookup with
    | none => none
    | some (.ok receipt) => some ⟨.interrupted, .ok receipt⟩
    | some (.error (.domain .receiptNotFound)) => some interrupted
    | some (.error error) => some (fail .interrupted error)
  else some interrupted

def Client.leavePublish (client : Client) (options : PublishOptions) (batch : PublishBatch)
    (deadline : Deadline) : PublishExit → Option (Returned PublishReceipt)
  | .returned value => some value
  | .interrupted reason request reached finishing lookup =>
    client.finishInterruptedPublish options batch deadline reason request reached finishing
      lookup

def Client.startPublish (client : Client) (batch : PublishBatch) (route : ResolvedRoute) :
    Except ClientError Publishing :=
  match client.addLeader client.endpoints 0 route.leader with
  | .error error => .error error
  | .ok (endpoints, _) => .ok ⟨publishRequestToWire batch route.route, endpoints, 0, false⟩

/-- `publish_with_resolved_route`; `none` while the script has not ended the call. -/
def Client.publishWithResolvedRoute (client : Client) (batch : PublishBatch)
    (route : ResolvedRoute) (deadline : Deadline) (options : PublishOptions)
    (script : List PublishTurn) : Option (Returned PublishReceipt) :=
  match client.startPublish batch route with
  | .error error => some (fail .answered error)
  | .ok publishing =>
    match Retry.run (client.publishTurn options deadline) publishing script with
    | none => none
    | some exit => client.leavePublish options batch deadline exit

structure PublishEntry where
  started : Instant
  cancelled : Bool
  cancelledResolving : Bool
  routes : List RouteTurn

def Client.publishWith (client : Client) (batch : PublishBatch) (options : PublishOptions)
    (entry : PublishEntry) (script : List PublishTurn) : Option (Returned PublishReceipt) :=
  let deadline := Deadline.after entry.started client.deadline
  if options.cancellation ∧ (entry.cancelled ∨ entry.cancelledResolving) then
    some (fail .interrupted (interruptedPublishError .cancelled batch.request false))
  else
    match client.resolveRouteUntil deadline entry.routes with
    | none => none
    | some { ending, result := .error error } => some (fail ending error)
    | some { result := .ok route, .. } =>
      client.publishWithResolvedRoute batch route deadline options script

/-- The route of a caller that names the group and the revision itself. -/
def hintedRoute (batch : PublishBatch) (group : GroupId) (routeRevision : Nat) :
    ResolvedRoute :=
  ⟨⟨batch.cluster, batch.partition.stream, ⟨"cached-route"⟩, batch.partition.partition, group,
    routeRevision⟩, none⟩

end LightStream
