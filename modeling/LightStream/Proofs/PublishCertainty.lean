import LightStream.Client.Publish
import LightStream.Proofs.Certainty

/-!
The certainty of a publish.  The flag of the loop covers every request that may have
committed, so each exit through `finish_interrupted_publish` reports the right certainty;
the exits that return another error do so exactly when nothing sent may have committed.
-/

namespace LightStream

/-- An error that tells the producer to resolve `request`. -/
def ClientError.MarksAmbiguous (request : ProducerRequestId) (error : ClientError) : Prop :=
  error.outcome = some .ambiguousCommit ∧ error.ambiguousRequest = some (.publish request)

section Loop

variable (client : Client) (options : PublishOptions) (batch : PublishBatch)
  (deadline : Deadline)

/-- A cancellation or the deadline seen before the attempt is over, and the flag then. -/
def PublishTurn.cut (publishing : Publishing) (turn : PublishTurn) :
    Option (Interruption × Bool) :=
  if options.cancellation ∧ turn.cancelled then
    some (.cancelled, publishing.requestMayHaveReached)
  else if deadline.expired turn.checked then
    some (.deadline, publishing.requestMayHaveReached)
  else
    match if options.cancellation then turn.cancelledDuring else none,
      client.prepare (publishing.endpoints.at publishing.index) deadline turn.attempt with
    | some .connecting, _ => some (.cancelled, publishing.requestMayHaveReached)
    | some .awaiting, .ok _ => some (.cancelled, true)
    | _, _ => none

def PublishTurn.sent (publishing : Publishing) (turn : PublishTurn) : Option Fate :=
  if options.cancellation ∧ turn.cancelled then none
  else if deadline.expired turn.checked then none
  else
    match if options.cancellation then turn.cancelledDuring else none,
      client.prepare (publishing.endpoints.at publishing.index) deadline turn.attempt with
    | some .connecting, _ => none
    | some .awaiting, .ok _ => some .unanswered
    | _, .ok _ => some (turn.attempt.exchange.fate deadline)
    | _, .error _ => none

/-- The result of the attempt of a turn that is not cut short, with the flag after it. -/
def PublishTurn.attempted (publishing : Publishing) (turn : PublishTurn) :
    Bool × Except AttemptError PublishReceipt :=
  client.callOnce "publish" (publishing.endpoints.at publishing.index) deadline turn.attempt
    publishing.requestMayHaveReached

theorem Client.publishTurn_eq (publishing : Publishing) (turn : PublishTurn) :
    client.publishTurn options deadline publishing turn =
      match turn.cut client options deadline publishing with
      | some (reason, reached) => turn.interrupt reason publishing reached
      | none =>
        match turn.attempted client deadline publishing with
        | (_, .ok receipt) => .returned (.returned ⟨.answered, .ok receipt⟩)
        | (reached, .error failure) =>
          client.publishFailed options deadline publishing turn reached failure := by
  unfold Client.publishTurn PublishTurn.cut PublishTurn.attempted
  split
  · rfl
  · split
    · rfl
    · dsimp only
      generalize (if options.cancellation = true then turn.cancelledDuring else none) = stage
      cases stage with
      | none => rfl
      | some stage =>
          cases stage with
          | connecting => rfl
          | awaiting =>
              cases client.prepare (publishing.endpoints.at publishing.index) deadline
                turn.attempt <;> rfl

theorem PublishTurn.backOff_cases (turn : PublishTurn) (next : Publishing) :
    turn.backOff options deadline next = .again next ∨
      ∃ reason, turn.backOff options deadline next =
        turn.interrupt reason next next.requestMayHaveReached := by
  unfold PublishTurn.backOff
  split
  · exact .inr ⟨.cancelled, rfl⟩
  · split
    · exact .inr ⟨.deadline, rfl⟩
    · exact .inl rfl

def ClientError.retriedPublish : ClientError → Bool
  | .domain (.notLeader _ _) => true
  | .domain (.quorumUnavailable _ _ _) => true
  | .domain .staleRoute => true
  | .connection _ => true
  | .request _ => true
  | _ => false

/-- What a turn meets when it leaves the loop with an error of its own that is not marked
for the producer request: an error the loop does not act on, a leader or a new route that
cannot be used, or a receipt lookup that fails otherwise than by `ReceiptNotFound`. -/
inductive PublishTurn.Strands (publishing : Publishing) (turn : PublishTurn) : Prop where
  | unretried (reached : Bool) (error : ClientError)
      (uncut : turn.cut client options deadline publishing = none)
      (failed : turn.attempted client deadline publishing = (reached, .error (.client error)))
      (unretried : error.retriedPublish = false)
      (unmarked : ¬error.MarksAmbiguous batch.request)
  | hint (reached : Bool) (group : ConsensusGroup) (leader : LeaderHint) (reason : String)
      (uncut : turn.cut client options deadline publishing = none)
      (failed : turn.attempted client deadline publishing =
        (reached, .error (.client (.domain (.notLeader group (some leader))))))
      (fault : client.uriFault leader.publicUri = some reason)
  | reroute (reached : Bool) (ending : Ending) (error : ClientError)
      (uncut : turn.cut client options deadline publishing = none)
      (failed : turn.attempted client deadline publishing =
        (reached, .error (.client (.domain .staleRoute))))
      (lost : client.resolveRouteUntil deadline turn.routes = some ⟨ending, .error error⟩)
      (unmarked : ¬error.MarksAmbiguous batch.request)
  | newLeader (reached : Bool) (ending : Ending) (found : ResolvedRoute)
      (leader : LeaderHint) (reason : String)
      (uncut : turn.cut client options deadline publishing = none)
      (failed : turn.attempted client deadline publishing =
        (reached, .error (.client (.domain .staleRoute))))
      (resolved : client.resolveRouteUntil deadline turn.routes = some ⟨ending, .ok found⟩)
      (led : found.leader = some leader)
      (fault : client.uriFault leader.publicUri = some reason)
  | lookup (reason : Interruption) (request : PublishRequest) (error : ClientError)
      (interrupted : client.publishTurn options deadline publishing turn =
        .returned (.interrupted reason request true turn.finishing turn.lookup))
      (asks : options.resolveAmbiguousReceipt = true)
      (early : deadline.expired turn.finishing = false)
      (failed : client.receiptUntil (receiptRequest batch request) deadline turn.lookup =
        some (.error error))
      (unknown : error ≠ .domain .receiptNotFound)
      (unmarked : ¬error.MarksAmbiguous batch.request)

theorem Client.publishFailed_unretried {publishing : Publishing} {turn : PublishTurn}
    {reached : Bool} {error : ClientError} (unretried : error.retriedPublish = false) :
    client.publishFailed options deadline publishing turn reached (.client error) =
      .returned (.returned (fail .answered error)) := by
  unfold Client.publishFailed
  split
  · rename_i same
    cases same
  · rename_i same
    cases same
    cases unretried
  · rename_i same
    cases same
    cases unretried
  · rename_i same
    cases same
    cases unretried
  · rename_i same
    cases same
    cases unretried
  · rename_i same
    cases same
    cases unretried
  · rename_i same
    cases same
    rfl

theorem ClientError.invalidEndpoint_unmarked (request : ProducerRequestId)
    (endpoint reason : String) :
    ¬(ClientError.invalidEndpoint endpoint reason).MarksAmbiguous request := by
  intro marks
  cases marks.1

theorem PublishTurn.Strands.leaves (retry : client.retry = true) {publishing : Publishing}
    {turn : PublishTurn} (strands : turn.Strands client options batch deadline publishing) :
    ∃ exit, client.publishTurn options deadline publishing turn = .returned exit ∧
      ∃ ending error, client.leavePublish options batch deadline exit = some (fail ending error) ∧
        ¬error.MarksAmbiguous batch.request := by
  cases strands with
  | unretried reached error uncut failed unretried unmarked =>
      refine ⟨.returned (fail .answered error), ?_, .answered, error, rfl, unmarked⟩
      simp only [client.publishTurn_eq, uncut, failed,
        client.publishFailed_unretried options deadline unretried]
  | hint reached group leader reason uncut failed fault =>
      refine ⟨.returned (fail .answered (.invalidEndpoint leader.publicUri reason)), ?_,
        .answered, _, rfl, ClientError.invalidEndpoint_unmarked _ _ _⟩
      simp only [client.publishTurn_eq, uncut, failed, Client.publishFailed, retry, if_true,
        Client.addLeader, Client.addHint, Client.validateEndpoint, fault]
  | reroute reached ending error uncut failed lost unmarked =>
      refine ⟨.returned (fail .unrouted error), ?_, .unrouted, error, rfl, unmarked⟩
      simp only [client.publishTurn_eq, uncut, failed, Client.publishFailed, retry, if_true, lost]
  | newLeader reached ending found leader reason uncut failed resolved led fault =>
      refine ⟨.returned (fail .unrouted (.invalidEndpoint leader.publicUri reason)), ?_,
        .unrouted, _, rfl, ClientError.invalidEndpoint_unmarked _ _ _⟩
      simp only [client.publishTurn_eq, uncut, failed, Client.publishFailed, retry, if_true,
        resolved, led, Client.addLeader, Client.addHint, Client.validateEndpoint, fault]
  | lookup reason request error interrupted asks early failed unknown unmarked =>
      refine ⟨_, interrupted, .interrupted, error, ?_, unmarked⟩
      unfold Client.leavePublish Client.finishInterruptedPublish
      simp only [asks, early, and_self, if_true, failed]

end Loop

namespace Client

def sampleClient : Client := ⟨["http://a"], by decide, 100, true, .localInsecure, fun _ => none⟩

def sampleBatch : PublishBatch :=
  ⟨⟨1⟩, ⟨⟨1⟩, 0⟩, ⟨⟨"producer"⟩, ⟨1⟩, 1⟩, [[7]], none, sampleRecords_valid⟩

def sampleOptions : PublishOptions := ⟨false, false⟩

def connects : Connection := ⟨1, none, .connected, 1, none⟩

def sampleRoute : ResolvedRoute := hintedRoute sampleBatch ⟨2, two_nonzero⟩ 1

def sampleEntry : PublishEntry :=
  ⟨0, false, false, [⟨⟨connects, 1, .response (.success (.ok sampleRoute)), 1⟩, ⟨1, 1⟩⟩]⟩

def sampleTurn (reply : Reply (Body PublishReceipt)) : PublishTurn :=
  ⟨false, 1, none, ⟨connects, 1, reply, 1⟩, [], false, ⟨1, 2⟩, 2, []⟩

end Client

end LightStream
