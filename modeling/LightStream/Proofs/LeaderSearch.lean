import LightStream.Client.Publish
import LightStream.Retry.Search

/-!
The search for the leader in `publish_with_resolved_route`, when every endpoint has one fixed
answer and neither the deadline nor a cancellation ends the call: which endpoints it comes to.
-/

namespace LightStream

open Retry (Search)

inductive EndpointAnswer where
  | success (receipt : PublishReceipt)
  | connectionFailure (message : String)
  | notLeader (group : ConsensusGroup) (hint : Option LeaderHint)
deriving DecidableEq

namespace EndpointAnswer

def result : EndpointAnswer → Except AttemptError PublishReceipt
  | .success receipt => .ok receipt
  | .connectionFailure message => .error (.client (.connection message))
  | .notLeader group hint => .error (.client (.domain (.notLeader group hint)))

def answer : EndpointAnswer → Retry.Answer String
  | .success _ => .found
  | .connectionFailure _ => .passed
  | .notLeader _ none => .passed
  | .notLeader _ (some hint) => .referred hint.publicUri

theorem answer_found {given : EndpointAnswer} :
    given.answer = .found ↔ ∃ receipt, given = .success receipt := by
  cases given with
  | success receipt => exact iff_of_true rfl ⟨receipt, rfl⟩
  | connectionFailure message => simp [answer]
  | notLeader group hint => cases hint <;> simp [answer]

end EndpointAnswer

/-- A turn of the publish loop in which an endpoint gives its answer, before the deadline and
without a cancellation. -/
structure PublishTurn.Gives (client : Client) (options : PublishOptions) (deadline : Deadline)
    (endpoint : String) (given : EndpointAnswer) (turn : PublishTurn) : Prop where
  early : deadline.expired turn.checked = false
  rested : retrySleep deadline turn.sleep = .ok ()
  uncancelled : options.cancellation = true →
    turn.cancelled = false ∧ turn.cancelledDuring = none ∧ turn.cancelledAsleep = false
  answered : ∀ reached,
    (client.callOnce "publish" endpoint deadline turn.attempt reached).2 = given.result

namespace Publishing

def endpoint (publishing : Publishing) : String := publishing.endpoints.at publishing.index

def search (publishing : Publishing) : Search String :=
  ⟨publishing.endpoints.list, publishing.endpoints.nonempty, publishing.index⟩

theorem search_tried (publishing : Publishing) : publishing.search.tried = publishing.endpoint := rfl

end Publishing

variable {client : Client} {options : PublishOptions} {deadline : Deadline}
  {respond : String → EndpointAnswer}

theorem PublishTurn.Gives.backOff {endpoint : String} {given : EndpointAnswer} {turn : PublishTurn}
    (gives : turn.Gives client options deadline endpoint given) (next : Publishing) :
    turn.backOff options deadline next = .again next := by
  have awake : ¬(options.cancellation = true ∧ turn.cancelledAsleep = true) := by
    rintro ⟨token, asleep⟩
    rw [(gives.uncancelled token).2.2] at asleep
    cases asleep
  rw [PublishTurn.backOff, if_neg awake, gives.rested]

def answers (respond : String → EndpointAnswer) (endpoint : String) : Retry.Answer String :=
  (respond endpoint).answer

theorem Client.publishTurn_step (retry : client.retry = true)
    (valid : ∀ endpoint group hint, respond endpoint = .notLeader group (some hint) →
      client.uriFault hint.publicUri = none)
    {publishing : Publishing} {turn : PublishTurn}
    (gives : turn.Gives client options deadline publishing.endpoint
      (respond publishing.endpoint)) :
    (client.publishTurn options deadline publishing turn).onward.map Publishing.search =
      publishing.search.step (2 ^ 64) (answers respond) := by
  have running : ¬(options.cancellation = true ∧ turn.cancelled = true) := by
    rintro ⟨token, cancelled⟩
    rw [(gives.uncancelled token).1] at cancelled
    cases cancelled
  have through : (if options.cancellation = true then turn.cancelledDuring else none) = none := by
    split
    · rename_i token
      exact (gives.uncancelled token).2.1
    · rfl
  have early : ¬deadline.expired turn.checked = true := by
    rw [gives.early]
    exact Bool.false_ne_true
  obtain ⟨reached, result, call⟩ : ∃ reached result, client.callOnce "publish"
      publishing.endpoint deadline turn.attempt publishing.requestMayHaveReached =
        (reached, result) := ⟨_, _, rfl⟩
  have fixed := gives.answered publishing.requestMayHaveReached
  rw [call] at fixed
  change result = _ at fixed
  subst fixed
  rw [Publishing.endpoint] at call
  simp only [Client.publishTurn, if_neg running, if_neg early, through, call]
  rw [← Publishing.endpoint, Search.step, Publishing.search_tried, answers]
  cases given : respond publishing.endpoint with
  | success receipt => rfl
  | connectionFailure message =>
      simp only [EndpointAnswer.result, Client.publishFailed, Client.publishTransport, if_pos retry]
      rw [gives.backOff]
      rfl
  | notLeader group hint =>
      cases hint with
      | none =>
          simp only [EndpointAnswer.result, Client.publishFailed, if_pos retry, Client.addLeader]
          rw [gives.backOff]
          rfl
      | some hint =>
          simp only [EndpointAnswer.result, Client.publishFailed, if_pos retry, Client.addLeader,
            Client.addHint, Client.validateEndpoint, valid _ _ _ given]
          rw [gives.backOff]
          rfl

theorem Client.states_search (retry : client.retry = true)
    (valid : ∀ endpoint group hint, respond endpoint = .notLeader group (some hint) →
      client.uriFault hint.publicUri = none)
    {start : Publishing} {turns : Nat → PublishTurn} (count : Nat)
    (gives : ∀ earlier < count, ∀ publishing,
      Retry.states (client.publishTurn options deadline) turns start earlier = some publishing →
      (turns earlier).Gives client options deadline publishing.endpoint
        (respond publishing.endpoint)) :
    (Retry.states (client.publishTurn options deadline) turns start count).map
      Publishing.search = start.search.after (2 ^ 64) (answers respond) count := by
  induction count with
  | zero => rfl
  | succ count ih =>
      have earlier := ih fun step before => gives step (by omega)
      rw [Retry.states, Search.after, ← earlier]
      cases state : Retry.states (client.publishTurn options deadline) turns start count with
      | none => rfl
      | some publishing =>
          rw [Option.map_some, Option.bind_some]
          have given := gives count (by omega) publishing state
          exact Client.publishTurn_step retry valid given

theorem Client.startPublish_ok {batch : PublishBatch} {route : ResolvedRoute} {start : Publishing}
    (started : client.startPublish batch route = .ok start) (distinct : client.seeds.Nodup) :
    start.index = 0 ∧ start.endpoints.list.Nodup ∧ client.seeds ⊆ start.endpoints.list ∧
      start.endpoints.list.length ≤ client.seeds.length + 1 := by
  cases leader : route.leader with
  | none =>
      simp only [Client.startPublish, Client.addLeader, leader] at started
      cases started
      exact ⟨rfl, distinct, List.Subset.refl _, Nat.le_succ _⟩
  | some hint =>
      simp only [Client.startPublish, Client.addLeader, leader, Client.addHint] at started
      cases checked : client.validateEndpoint hint.publicUri with
      | error error => simp [checked] at started
      | ok _ =>
          rw [checked] at started
          cases started
          refine ⟨rfl, List.nodup_cons.mpr ⟨distinct.not_mem_erase, distinct.erase _⟩, ?_, ?_⟩
          · intro seed listed
            by_cases same : seed = hint.publicUri
            · rw [same]
              exact List.mem_cons_self
            · exact List.mem_cons_of_mem _ ((List.mem_erase_of_ne same).mpr listed)
          · exact Nat.succ_le_succ List.erase_sublist.length_le

/-- The search for the leader keeps every seed and lists no endpoint twice; it comes to an
endpoint that succeeds exactly when the first endpoint that does more than fail to connect or
refuse without a hint succeeds itself or, hint by hint, leads to one that does. -/
theorem Client.leader_search (retry : client.retry = true) (distinct : client.seeds.Nodup)
    -- the length of a vector is a `usize`
    (sized : client.seeds.length < 2 ^ 64)
    (valid : ∀ endpoint group hint, respond endpoint = .notLeader group (some hint) →
      client.uriFault hint.publicUri = none)
    {batch : PublishBatch} {route : ResolvedRoute} {start : Publishing}
    (started : client.startPublish batch route = .ok start) {turns : Nat → PublishTurn}
    (gives : ∀ count publishing,
      Retry.states (client.publishTurn options deadline) turns start count = some publishing →
      (turns count).Gives client options deadline publishing.endpoint
        (respond publishing.endpoint)) :
    ((∀ count publishing,
        Retry.states (client.publishTurn options deadline) turns start count = some publishing →
        publishing.endpoints.list.Nodup ∧ client.seeds ⊆ publishing.endpoints.list) ∧
      ∃ count publishing receipt,
        Retry.states (client.publishTurn options deadline) turns start count = some publishing ∧
        respond publishing.endpoint = .success receipt) ↔
    ∃ endpoint, start.endpoints.list.find? (fun endpoint => answers respond endpoint ≠ .passed) =
      some endpoint ∧ Search.Leads (answers respond) endpoint := by
  obtain ⟨index, listed, seeds, length⟩ := Client.startPublish_ok started distinct
  have followed : ∀ count,
      (Retry.states (client.publishTurn options deadline) turns start count).map
        Publishing.search = start.search.after (2 ^ 64) (answers respond) count :=
    fun count => Client.states_search retry valid count fun earlier _ => gives earlier
  have kept : ∀ count publishing,
      Retry.states (client.publishTurn options deadline) turns start count = some publishing →
      publishing.endpoints.list.Nodup ∧ client.seeds ⊆ publishing.endpoints.list := by
    intro count publishing state
    have reached := followed count
    rw [state] at reached
    have invariant : ∀ search next : Search String,
        search.candidates.Nodup ∧ client.seeds ⊆ search.candidates →
        search.step (2 ^ 64) (answers respond) = some next →
        next.candidates.Nodup ∧ client.seeds ⊆ next.candidates := by
      intro search next held moved
      obtain ⟨distinct, onward⟩ := Search.step_keeps moved held.1
      exact ⟨distinct, fun _ seed => onward (held.2 seed)⟩
    exact Search.after_invariant invariant ⟨listed, seeds⟩ count _ reached.symm
  have room : start.search.candidates.length ≤ 2 ^ 64 := by
    change start.endpoints.list.length ≤ 2 ^ 64
    omega
  rw [and_iff_right kept]
  refine Iff.trans ?_ (Search.reaches_iff index room)
  constructor
  · rintro ⟨count, publishing, receipt, state, success⟩
    have reached := followed count
    rw [state] at reached
    exact ⟨count, publishing.search, reached.symm, EndpointAnswer.answer_found.mpr ⟨_, success⟩⟩
  · rintro ⟨count, search, reached, found⟩
    rw [← followed count, Option.map_eq_some_iff] at reached
    obtain ⟨publishing, state, rfl⟩ := reached
    obtain ⟨receipt, success⟩ := EndpointAnswer.answer_found.mp found
    exact ⟨count, publishing, receipt, state, success⟩

/-! ### Turns for any answers -/

def answerTurn (given : EndpointAnswer) : PublishTurn where
  cancelled := false
  checked := 1
  cancelledDuring := none
  attempt :=
    { connection := ⟨1, none, match given with
        | .connectionFailure message => .failed message
        | _ => .connected, 1, none⟩
      asked := 1
      exchange := ⟨.response (match given with
        | .success receipt => .success (.ok receipt)
        | .connectionFailure _ => .omitted
        | .notLeader group hint => .error (.ok (.notLeader group hint))), 1⟩ }
  routes := []
  cancelledAsleep := false
  sleep := ⟨1, 1⟩
  finishing := 1
  lookup := []

theorem answerTurn_gives (plain : client.security = .localInsecure) {endpoint : String}
    (scheme : "http://".toList.isPrefixOf endpoint.toList = true)
    (fault : client.uriFault endpoint = none) (given : EndpointAnswer) :
    (answerTurn given).Gives client options ⟨2⟩ endpoint given where
  early := rfl
  rested := rfl
  uncancelled := fun _ => ⟨rfl, rfl, rfl⟩
  answered := by
    intro reached
    have matching : validateSecurityEndpoint .localInsecure endpoint = .ok () := by
      simp only [validateSecurityEndpoint, scheme, if_true]
    cases given <;> simp only [Client.callOnce, Client.prepare, Client.connectClient,
      Client.connectChannel, plain, matching, fault, answerTurn] <;> rfl

def steadyTurns (respond : String → EndpointAnswer) (search : Search String) (count : Nat) :
    PublishTurn :=
  match search.after (2 ^ 64) (answers respond) count with
  | none => answerTurn (.connectionFailure "")
  | some reached => answerTurn (respond reached.tried)

theorem steadyTurns_give (retry : client.retry = true) (plain : client.security = .localInsecure)
    (fault : ∀ endpoint, client.uriFault endpoint = none) {start : Publishing}
    (scheme : ∀ count reached,
      start.search.after (2 ^ 64) (answers respond) count = some reached →
      "http://".toList.isPrefixOf reached.tried.toList = true) :
    ∀ count publishing,
      Retry.states (client.publishTurn options ⟨2⟩) (steadyTurns respond start.search) start
        count = some publishing →
      (steadyTurns respond start.search count).Gives client options ⟨2⟩ publishing.endpoint
        (respond publishing.endpoint) := by
  intro count
  induction count using Nat.strongRecOn with
  | ind count ih =>
      intro publishing state
      have reached := Client.states_search retry (fun _ _ hint _ => fault hint.publicUri) count
        (fun earlier before => ih earlier before)
      rw [state] at reached
      rw [steadyTurns, ← reached]
      exact answerTurn_gives plain (scheme count _ reached.symm) (fault _) _

/-! ### A leader behind a stale hint -/

namespace Client

def ringSeeds : List String := ["http://a", "http://b", "http://c"]

def ringClient : Client := ⟨ringSeeds, by decide, 100, true, .localInsecure, fun _ => none⟩

def ringBatch : PublishBatch :=
  ⟨⟨1⟩, ⟨⟨1⟩, 0⟩, ⟨⟨"producer"⟩, ⟨1⟩, 1⟩, [[7]], none, sampleRecords_valid⟩

def ringReceipt : PublishReceipt :=
  ⟨ringBatch.request, ⟨⟨⟨1⟩, 0⟩, 0, 1, Nat.one_ne_zero, by decide⟩, none⟩

/-- The old leader is down, one node still names it, and the new leader would answer. -/
def staleHint (endpoint : String) : EndpointAnswer :=
  if endpoint = "http://a" then .notLeader .data (some ⟨⟨2, two_nonzero⟩, "http://b"⟩)
  else if endpoint = "http://b" then .connectionFailure "connection refused"
  else .success ringReceipt

def freshHint (endpoint : String) : EndpointAnswer :=
  if endpoint = "http://a" then .notLeader .data (some ⟨⟨3, by decide⟩, "http://c"⟩)
  else if endpoint = "http://b" then .connectionFailure "connection refused"
  else .success ringReceipt

def ringOptions : PublishOptions := ⟨false, false⟩

def ringStart : Publishing :=
  ⟨publishRequestToWire ringBatch (hintedRoute ringBatch ⟨2, two_nonzero⟩ 1).route,
    ringClient.endpoints, 0, false⟩

theorem ringStart_started :
    ringClient.startPublish ringBatch (hintedRoute ringBatch ⟨2, two_nonzero⟩ 1) = .ok ringStart := rfl

theorem ring_scheme (referred : ∀ endpoint next, answers respond endpoint = .referred next →
    next ∈ ringSeeds) : ∀ count reached,
    ringStart.search.after (2 ^ 64) (answers respond) count = some reached →
    "http://".toList.isPrefixOf reached.tried.toList = true := by
  intro count reached taken
  have inside : ∀ search next : Search String, search.candidates ⊆ ringSeeds →
      search.step (2 ^ 64) (answers respond) = some next → next.candidates ⊆ ringSeeds :=
    fun search next within moved => Search.step_within referred moved within
  have listed := Search.after_invariant inside (List.Subset.refl ringSeeds) count reached taken
  have every : ∀ endpoint ∈ ringSeeds, "http://".toList.isPrefixOf endpoint.toList = true := by
    decide
  exact every _ (listed Search.tried_listed)

theorem staleHint_referred (endpoint next : String)
    (answer : answers staleHint endpoint = .referred next) : next ∈ ringSeeds := by
  simp only [answers, staleHint] at answer
  split at answer
  · cases answer
    decide
  · split at answer <;> cases answer

theorem freshHint_referred (endpoint next : String)
    (answer : answers freshHint endpoint = .referred next) : next ∈ ringSeeds := by
  simp only [answers, freshHint] at answer
  split at answer
  · cases answer
    decide
  · split at answer <;> cases answer

theorem leader_search_sample :
    (∀ count publishing,
        Retry.states (ringClient.publishTurn ringOptions ⟨2⟩)
          (steadyTurns freshHint ringStart.search) ringStart count = some publishing →
        publishing.endpoints.list.Nodup ∧ ringClient.seeds ⊆ publishing.endpoints.list) ∧
      ∃ count publishing receipt,
        Retry.states (ringClient.publishTurn ringOptions ⟨2⟩)
          (steadyTurns freshHint ringStart.search) ringStart count = some publishing ∧
        freshHint publishing.endpoint = .success receipt := by
  refine (leader_search rfl (by decide) (by decide) (fun _ _ _ _ => rfl) ringStart_started
    (steadyTurns_give rfl rfl (fun _ => rfl) (ring_scheme freshHint_referred))).mpr ?_
  exact ⟨"http://a", by decide, .referred rfl (.found rfl)⟩

/-- The seed that would answer is never tried: each failure of the old leader is followed by the
node that names it, which sends the search back to the front. -/
theorem stale_hint_starves_leader :
    ringClient.seeds.Nodup ∧
      (∃ seed ∈ ringClient.seeds, ∃ receipt, staleHint seed = .success receipt) ∧
      (∀ count publishing,
        Retry.states (ringClient.publishTurn ringOptions ⟨2⟩)
          (steadyTurns staleHint ringStart.search) ringStart count = some publishing →
        (steadyTurns staleHint ringStart.search count).Gives ringClient ringOptions ⟨2⟩
          publishing.endpoint (staleHint publishing.endpoint)) ∧
      ¬∃ count publishing receipt,
        Retry.states (ringClient.publishTurn ringOptions ⟨2⟩)
          (steadyTurns staleHint ringStart.search) ringStart count = some publishing ∧
        staleHint publishing.endpoint = .success receipt := by
  have gives := @steadyTurns_give ringClient ringOptions staleHint rfl rfl (fun _ => rfl) ringStart
    (ring_scheme staleHint_referred)
  refine ⟨by decide, ⟨"http://c", by decide, ringReceipt, rfl⟩, gives, ?_⟩
  rintro ⟨count, publishing, receipt, state, success⟩
  have reached := states_search rfl (fun _ _ _ _ => rfl) count fun earlier _ => gives earlier
  rw [state] at reached
  obtain ⟨first, front, leads⟩ := (Search.reaches_iff rfl (by decide)).mp
    ⟨count, _, reached.symm, EndpointAnswer.answer_found.mpr ⟨receipt, success⟩⟩
  have named : first = "http://a" := by
    have found : ringStart.search.candidates.find?
        (fun endpoint => answers staleHint endpoint ≠ .passed) = some "http://a" := by decide
    exact Option.some.inj (front.symm.trans found)
  subst named
  cases leads with
  | found answer => exact absurd answer (by decide)
  | referred answer leads =>
      have old : answers staleHint "http://a" = .referred "http://b" := by decide
      rw [old] at answer
      cases answer
      cases leads with
      | found answer => exact absurd answer (by decide)
      | referred answer _ =>
          have down : answers staleHint "http://b" = .passed := by decide
          rw [down] at answer
          cases answer

end Client

end LightStream
