import LightStream.Proofs.Acknowledgements
import LightStream.Proofs.PublishCertainty

/-!
From the call of a producer to the log: a receipt that `publish_with` returns came with an answer to
one of its attempts or lookups, and what the answers of a data group name is published once and kept.
-/

namespace LightStream

def Attempt.Gives {α : Type} (attempt : Attempt α) (value : α) : Prop :=
  attempt.exchange.reply = .response (.success (.ok value))

/-- A receipt came with an answer to an attempt of a script, or to a lookup. -/
def Told (script : List PublishTurn) (receipt : PublishReceipt) : Prop :=
  ∃ turn ∈ script, turn.attempt.Gives receipt ∨ ∃ look ∈ turn.lookup, look.attempt.Gives receipt

theorem awaitRpc_response {ρ : Type} {deadline : Deadline} {exchange : Exchange ρ} {value : ρ}
    (awaited : awaitRpc deadline exchange = .ok value) : exchange.reply = .response value := by
  unfold awaitRpc at awaited
  split at awaited
  · rename_i reply
    cases awaited
    exact reply
  · repeat' split at awaited
    all_goals cases awaited
  · cases awaited

theorem Body.read_success {α : Type} {operation : String} {body : Body α} {value : α}
    (done : body.read operation = .ok value) : body = .success (.ok value) := by
  cases body with
  | success result =>
      cases result with
      | ok given =>
          cases done
          rfl
      | error fault => cases done
  | error fault => cases done
  | omitted => cases done

namespace Client

variable {client : Client} {options : PublishOptions} {batch : PublishBatch} {deadline : Deadline}
  {receipt : PublishReceipt}

theorem callOnce_gives {α : Type} {operation endpoint : String} {attempt : Attempt α}
    {reached : Bool} {value : α}
    (done : (client.callOnce operation endpoint deadline attempt reached).2 = .ok value) :
    attempt.Gives value := by
  unfold callOnce at done
  split at done
  · cases done
  · unfold Attempt.receive at done
    dsimp only at done
    split at done
    · cases done
    · rename_i body awaited
      rw [Body.read_success done] at awaited
      exact awaitRpc_response awaited

theorem receiptTurn_told {search : ReceiptSearch} {turn : ReceiptTurn}
    (left : client.receiptTurn deadline search turn = .returned (.ok receipt)) :
    turn.attempt.Gives receipt := by
  have asleep (next : ReceiptSearch) : turn.backOff deadline next ≠ .returned (.ok receipt) := by
    unfold ReceiptTurn.backOff
    split <;> simp
  unfold receiptTurn at left
  split at left
  · cases left
  dsimp only at left
  split at left
  · rename_i given
    cases left
    exact callOnce_gives given
  all_goals
    repeat' split at left
    all_goals first
      | cases left
      | exact absurd left (asleep _)

/-- How a turn ends that was not answered with a receipt: by an interruption, or in an error. -/
def Fails (turn : PublishTurn) (exit : PublishExit) : Prop :=
  (∃ reason request flag, exit = .interrupted reason request flag turn.finishing turn.lookup) ∨
    ∃ ending error, exit = .returned (fail ending error)

theorem backOff_fails {turn : PublishTurn} {next : Publishing} {exit : PublishExit}
    (left : turn.backOff options deadline next = .returned exit) : Fails turn exit := by
  rcases turn.backOff_cases options deadline next with again | ⟨reason, gone⟩
  · rw [again] at left
    cases left
  · rw [gone] at left
    cases left
    exact .inl ⟨_, _, _, rfl⟩

theorem publishFailed_fails {publishing : Publishing} {turn : PublishTurn} {reached : Bool}
    {failure : AttemptError} {exit : PublishExit}
    (left : client.publishFailed options deadline publishing turn reached failure =
      .returned exit) : Fails turn exit := by
  unfold publishFailed publishTransport at left
  repeat' split at left
  all_goals first
    | exact backOff_fails left
    | (cases left; exact .inl ⟨_, _, _, rfl⟩)
    | (cases left; exact .inr ⟨_, _, rfl⟩)
    | cases left

theorem publishTurn_told {publishing : Publishing} {turn : PublishTurn} {exit : PublishExit}
    (left : client.publishTurn options deadline publishing turn = .returned exit) :
    (∃ receipt, exit = .returned ⟨.answered, .ok receipt⟩ ∧ turn.attempt.Gives receipt) ∨
      Fails turn exit := by
  rw [client.publishTurn_eq] at left
  split at left
  · cases left
    exact .inr (.inl ⟨_, _, _, rfl⟩)
  split at left
  · rename_i reached receipt attempted
    cases left
    exact .inl ⟨receipt, rfl, callOnce_gives (congrArg Prod.snd attempted)⟩
  · exact .inr (publishFailed_fails left)

theorem receiptUntil_told {request : ReceiptRequest} {script : List ReceiptTurn}
    (found : client.receiptUntil request deadline script = some (.ok receipt)) :
    ∃ look ∈ script, look.attempt.Gives receipt := by
  obtain ⟨search, look, member, left⟩ := Retry.run_returned found
  exact ⟨look, member, receiptTurn_told left⟩

theorem publishWithResolvedRoute_told {route : ResolvedRoute} {script : List PublishTurn}
    {ending : Ending}
    (returned : client.publishWithResolvedRoute batch route deadline options script =
      some ⟨ending, .ok receipt⟩) : Told script receipt := by
  unfold publishWithResolvedRoute at returned
  split at returned
  · cases returned
  split at returned
  · cases returned
  rename_i exit ended
  obtain ⟨publishing, turn, member, left⟩ := Retry.run_returned ended
  refine ⟨turn, member, ?_⟩
  rcases publishTurn_told left with ⟨given, rfl, gives⟩ | ⟨reason, request, flag, rfl⟩ |
    ⟨failed, error, rfl⟩
  · cases returned
    exact .inl gives
  · unfold leavePublish finishInterruptedPublish at returned
    dsimp only at returned
    split at returned
    · split at returned
      · cases returned
      · rename_i found
        cases returned
        exact .inr (receiptUntil_told found)
      · cases returned
      · cases returned
    · cases returned
  · cases returned

/-- The receipt that `publish_with` returns came with an answer, whatever else its attempts met. -/
theorem publishWith_told {entry : PublishEntry} {script : List PublishTurn} {ending : Ending}
    (returned : client.publishWith batch options entry script = some ⟨ending, .ok receipt⟩) :
    Told script receipt := by
  unfold publishWith at returned
  dsimp only at returned
  split at returned
  · cases returned
  split at returned
  · cases returned
  · cases returned
  · exact publishWithResolvedRoute_told returned

end Client

namespace GroupDb

variable {identity : GroupIdentity} {window : Nat} {content : PayloadId → Record}
  {Allowed : GroupDb → GroupEntry → Prop} {steps : List Step} {db : GroupDb}

/-- The answers to a call come from a data group: an attempt is answered with a receipt that a step
gives to its batch, and a lookup with the one that `receipt` reads after a step. -/
structure Serves (steps : List Step) (batch : PublishBatch) (script : List PublishTurn) : Prop where
  attempts : ∀ turn ∈ script, ∀ receipt, turn.attempt.Gives receipt →
    ∃ step ∈ steps, step.Acknowledges batch receipt
  lookups : ∀ turn ∈ script, ∀ look ∈ turn.lookup, ∀ receipt, look.attempt.Gives receipt →
    ∃ step ∈ steps, step.after.receipt batch.partition batch.request = .ok receipt

/-- A producer uses the sequences of its session for one content each. -/
def OneContent (steps : List Step) (batch : PublishBatch) : Prop :=
  ∀ request ∈ requestsIn steps, request.batch.partition = batch.partition →
    request.batch.request = batch.request → request.batch.records = batch.records

/-- A receipt that `publish_with` returns is true, through any retries, redirections, lost answers and
lookups: the records of the batch were published once, under its range, and the group keeps them. -/
theorem returned_receipts_kept (data : identity.kind = .data)
    (traced : Traced identity window content Allowed steps db) (client : Client)
    (batch : PublishBatch) (options : PublishOptions) (entry : PublishEntry)
    (script : List PublishTurn) (ending : Ending) (receipt : PublishReceipt)
    (serves : Serves steps batch script) (single : OneContent steps batch)
    (returned : client.publishWith batch options entry script = some ⟨ending, .ok receipt⟩) :
    PublishedOnce (requestsIn steps) batch receipt ∧ db.KeepsRecords batch receipt := by
  have recalls := traced.recalls data
  have promised : Promised (requestsIn steps) batch receipt := by
    obtain ⟨turn, member, gives | ⟨look, looked, gives⟩⟩ := Client.publishWith_told returned
    · obtain ⟨step, taken, acknowledged⟩ := serves.attempts turn member receipt gives
      exact recalls.promised step taken batch receipt acknowledged
    · obtain ⟨step, taken, read⟩ := serves.lookups turn member look looked receipt gives
      unfold GroupDb.receipt at read
      split at read
      · cases read
      rename_i stored found
      obtain ⟨original, inside, recorded, partition, request, holds⟩ :=
        recalls.receipts step taken batch.partition batch.request stored found
      have result : original.result = .ok receipt := by
        cases stored with
        | versioned stored => exact holds.2.symm.trans read
        | legacy stored => exact holds.2.1.symm.trans read
      refine ⟨original, inside, partition, request, ?_⟩
      rw [Occurrence.publication_of result recorded, single original inside partition request]
  exact ⟨promised.once recalls.recalls.ordered, traced.keeps_promised data promised⟩

def lostThenAnswered : List PublishTurn :=
  [Client.sampleTurn (.status ⟨.other, "transport error", "transport error"⟩),
    Client.sampleTurn (.response (.success (.ok firstReceipt)))]

theorem returned_receipts_kept_sample : ∃ (steps : List Step) (db : GroupDb),
    Client.sampleClient.publishWith (samplePublish sampleCluster 0 none) Client.sampleOptions
      Client.sampleEntry lostThenAnswered = some ⟨.answered, .ok firstReceipt⟩ ∧
    PublishedOnce (requestsIn steps) (samplePublish sampleCluster 0 none) firstReceipt ∧
    db.KeepsRecords (samplePublish sampleCluster 0 none) firstReceipt := by
  obtain ⟨steps, db, traced, entries, _, answered, _, contents⟩ := sampleRetry
  have acknowledged := retriedEntries_acknowledged entries answered
  have returned : Client.sampleClient.publishWith (samplePublish sampleCluster 0 none)
      Client.sampleOptions Client.sampleEntry lostThenAnswered =
        some ⟨.answered, .ok firstReceipt⟩ := by rfl
  refine ⟨steps, db, returned, returned_receipts_kept rfl traced Client.sampleClient _
    Client.sampleOptions Client.sampleEntry lostThenAnswered .answered firstReceipt ?_ ?_ returned⟩
  · constructor
    · intro turn member receipt gives
      simp only [lostThenAnswered, List.mem_cons, List.not_mem_nil, or_false] at member
      rcases member with rfl | rfl
      · cases gives
      · cases gives
        exact acknowledged
    · intro turn member look looked
      simp only [lostThenAnswered, List.mem_cons, List.not_mem_nil, or_false] at member
      rcases member with rfl | rfl <;> cases looked
  · exact fun request inside _ _ => contents request inside

end GroupDb

end LightStream
