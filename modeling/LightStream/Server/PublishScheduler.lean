import LightStream.Storage.Apply

/-!
The publish scheduler of a data group: `publish_scheduler.rs` of `light-stream-server`.  Callers
reserve room, then send their request to the worker; the worker gathers requests into batches
and writes them to Raft.  A step is what one party does between two points where others can run.
Sizes are sizes of things in memory, so their additions never reach the bound of `usize`.
-/

namespace LightStream

def requestOverheadBytes : Nat := 256

def recordOverheadBytes : Nat := 24 + 32

/-- What `PublishSchedulerConfig::try_new` accepts. -/
structure PublishSchedulerConfig where
  queueRequests : Nat
  queueRecords : Nat
  queueResidentBytes : Nat
  batchRequests : Nat
  batchRecords : Nat
  batchPayloadBytes : Nat
  maxCoalesceDelay : Nat
  positive : 0 < queueRequests ∧ 0 < queueRecords ∧ 0 < queueResidentBytes ∧ 0 < batchRequests ∧
    0 < batchRecords ∧ 0 < batchPayloadBytes
  delayed : 0 < maxCoalesceDelay
  replicated : batchRequests ≤ maxRequestsPerReplicatedPublish ∧
    batchRecords ≤ maxRecordsPerReplicatedPublish ∧ batchPayloadBytes ≤ maxReplicatedPublishBytes
  fitsRequest : maxRecordsPerPublish ≤ batchRecords ∧ maxPublishBytes ≤ batchPayloadBytes
  holdsBatch : batchRequests ≤ queueRequests ∧ batchRecords ≤ queueRecords ∧
    maxPublishBytes + maxRecordsPerPublish * recordOverheadBytes + requestOverheadBytes ≤
      queueResidentBytes
deriving DecidableEq

namespace PublishSchedulerConfig

def tryNew (queueRequests queueRecords queueResidentBytes batchRequests batchRecords
    batchPayloadBytes maxCoalesceDelay : Nat) : Except String PublishSchedulerConfig :=
  if positive : 0 < queueRequests ∧ 0 < queueRecords ∧ 0 < queueResidentBytes ∧
      0 < batchRequests ∧ 0 < batchRecords ∧ 0 < batchPayloadBytes then
    if delayed : 0 < maxCoalesceDelay then
      if replicated : batchRequests ≤ maxRequestsPerReplicatedPublish ∧
          batchRecords ≤ maxRecordsPerReplicatedPublish ∧
          batchPayloadBytes ≤ maxReplicatedPublishBytes then
        if fitsRequest : maxRecordsPerPublish ≤ batchRecords ∧
            maxPublishBytes ≤ batchPayloadBytes then
          if holdsBatch : batchRequests ≤ queueRequests ∧ batchRecords ≤ queueRecords ∧
              maxPublishBytes + maxRecordsPerPublish * recordOverheadBytes +
                requestOverheadBytes ≤ queueResidentBytes then
            .ok ⟨queueRequests, queueRecords, queueResidentBytes, batchRequests, batchRecords,
              batchPayloadBytes, maxCoalesceDelay, positive, delayed, replicated, fitsRequest,
              holdsBatch⟩
          else .error "publish queue limits must contain one complete physical batch"
        else .error "publish batch limits must fit one maximum-size request"
      else .error "publish batch limits exceed the replicated command limits"
    else .error "publish coalesce delay must be greater than zero"
  else .error "publish queue and batch limits must be greater than zero"

/-- `PublishSchedulerConfig::default`, with the delay in nanoseconds. -/
def standard : PublishSchedulerConfig where
  queueRequests := 512
  queueRecords := 8192
  queueResidentBytes := 32 * 1024 * 1024
  batchRequests := 64
  batchRecords := 512
  batchPayloadBytes := 8 * 1024 * 1024
  maxCoalesceDelay := 200000
  positive := by decide
  delayed := by decide
  replicated := by decide
  fitsRequest := by decide
  holdsBatch := by decide

end PublishSchedulerConfig

structure PublishCharge where
  records : Nat
  residentBytes : Nat
deriving DecidableEq

/-- `PublishCharge::for_batch`.  A valid batch is far below the sizes at which its sums overflow. -/
def PublishCharge.forBatch (batch : PublishBatch) : PublishCharge where
  records := batch.records.length
  residentBytes := payloadTotal batch.records + batch.records.length * recordOverheadBytes +
    requestOverheadBytes

structure AdmissionUsage where
  accepting : Bool
  requests : Nat
  records : Nat
  residentBytes : Nat
  rejectedTotal : Nat
deriving DecidableEq

namespace AdmissionUsage

def new : AdmissionUsage := ⟨true, 0, 0, 0, 0⟩

def reject (usage : AdmissionUsage) : AdmissionUsage :=
  { usage with rejectedTotal := saturatingAdd usage.rejectedTotal 1 }

def reserve (usage : AdmissionUsage) (config : PublishSchedulerConfig) (charge : PublishCharge) :
    Except DomainError Unit × AdmissionUsage :=
  let requests := usage.requests + 1
  let records := usage.records + charge.records
  let residentBytes := usage.residentBytes + charge.residentBytes
  if usage.accepting = false then (.error .clusterForming, usage)
  else if requests > config.queueRequests then
    (.error (.publishOverloaded "publish queue requests" config.queueRequests), usage.reject)
  else if records > config.queueRecords then
    (.error (.publishOverloaded "publish queue records" config.queueRecords), usage.reject)
  else if residentBytes > config.queueResidentBytes then
    (.error (.publishOverloaded "publish queue resident bytes" config.queueResidentBytes),
      usage.reject)
  else (.ok (), { usage with requests, records, residentBytes })

def release (usage : AdmissionUsage) (charge : PublishCharge) : AdmissionUsage :=
  { usage with
    requests := usage.requests - 1
    records := usage.records - charge.records
    residentBytes := usage.residentBytes - charge.residentBytes }

def close (usage : AdmissionUsage) : AdmissionUsage := { usage with accepting := false }

end AdmissionUsage

/-- An admitted request.  The ticket stands for its reply channel. -/
structure QueuedPublish where
  ticket : Nat
  admittedAt : Nat
  charge : PublishCharge
  batch : PublishBatch
deriving DecidableEq

abbrev PublishReply := Except DomainError PublishReceipt

structure SubmittedBatch where
  selected : List QueuedPublish
  batch : ReplicatedPublishBatch
  built : batch.requests = selected.map QueuedPublish.batch
deriving DecidableEq

/-- Where the worker is.  A write that was never polled has not reached Raft. -/
inductive Worker where
  /-- The head of the loop in `run_worker`. -/
  | top
  /-- Waits for a first request or for the shutdown. -/
  | idle
  | examining
  /-- Waits for more requests until the delay of the oldest one is over. -/
  | gathering
  | selected (selected : List QueuedPublish)
  /-- `submit_batch` waits for the verification delay. -/
  | delayed (selected : List QueuedPublish)
  | writing (submitted : SubmittedBatch) (polled : Bool)
  /-- The write succeeded; the verification delay after the commit runs. -/
  | committed (submitted : SubmittedBatch) (result : ApplyResult)
  /-- The operation timed out and every request was told so. -/
  | expired (submitted : SubmittedBatch) (polled : Bool)
  /-- Answers the requests in order and releases each. -/
  | completing (polled : Bool) (replies : List (QueuedPublish × PublishReply))
  /-- Releases requests that were already answered. -/
  | releasing (answered : List QueuedPublish)
  /-- Left the loop. -/
  | leaving
  /-- Answers what is still queued. -/
  | draining
  /-- `try_recv` found nothing more. -/
  | drained
  /-- Returned, and with it dropped the receiver and whatever it still held. -/
  | stopped
deriving DecidableEq

structure PublishScheduler where
  usage : AdmissionUsage
  shutdown : Bool
  calls : Nat
  /-- Callers between `reserve` and `try_send`. -/
  entering : List QueuedPublish
  channel : List QueuedPublish
  pending : List QueuedPublish
  worker : Worker
  /-- Requests whose client dropped the waiter. -/
  cancelled : List QueuedPublish
  /-- The requests that `try_send` took, in order. -/
  admitted : List QueuedPublish
  refused : List (QueuedPublish × DomainError)
  submitted : List SubmittedBatch
  replies : List (QueuedPublish × PublishReply)

def PublishScheduler.spawn : PublishScheduler where
  usage := .new
  shutdown := false
  calls := 0
  entering := []
  channel := []
  pending := []
  worker := .top
  cancelled := []
  admitted := []
  refused := []
  submitted := []
  replies := []

/-! ### The functions of the worker -/

def batchUsageFrom (config : PublishSchedulerConfig) :
    Nat → Nat → Nat → List QueuedPublish → Bool
  | _, _, _, [] => false
  | requests, records, payloadBytes, queued :: rest =>
      let nextRecords := records + queued.batch.records.length
      let nextPayloadBytes := payloadBytes + payloadTotal queued.batch.records
      if requests = config.batchRequests ∨ nextRecords > config.batchRecords ∨
          nextPayloadBytes > config.batchPayloadBytes then decide (requests > 0)
      else if requests + 1 = config.batchRequests ∨ nextRecords = config.batchRecords ∨
          nextPayloadBytes = config.batchPayloadBytes then true
      else batchUsageFrom config (requests + 1) nextRecords nextPayloadBytes rest

/-- Whether the pending requests fill a batch: `flush_now` of `batch_usage`. -/
def batchUsage (config : PublishSchedulerConfig) (pending : List QueuedPublish) : Bool :=
  batchUsageFrom config 0 0 0 pending

def takeBatchFrom (config : PublishSchedulerConfig) (records payloadBytes : Nat)
    (selected : List QueuedPublish) : List QueuedPublish → List QueuedPublish × List QueuedPublish
  | [] => (selected, [])
  | next :: rest =>
      let nextRecords := records + next.batch.records.length
      let nextPayloadBytes := payloadBytes + payloadTotal next.batch.records
      if config.batchRequests ≤ selected.length then (selected, next :: rest)
      else if selected ≠ [] ∧ (nextRecords > config.batchRecords ∨
          nextPayloadBytes > config.batchPayloadBytes) then (selected, next :: rest)
      else takeBatchFrom config nextRecords nextPayloadBytes (selected ++ [next]) rest

/-- `take_batch`: the selected requests and those that stay pending. -/
def takeBatch (config : PublishSchedulerConfig) (pending : List QueuedPublish) :
    List QueuedPublish × List QueuedPublish :=
  takeBatchFrom config 0 0 [] pending

/-- `discard_cancelled`, which is also what `submit_batch` does to its requests. -/
def discardCancelled (cancelled : List QueuedPublish) :
    List QueuedPublish → AdmissionUsage → List QueuedPublish × AdmissionUsage
  | [], usage => ([], usage)
  | queued :: rest, usage =>
      if queued ∈ cancelled then discardCancelled cancelled rest (usage.release queued.charge)
      else
        let kept := discardCancelled cancelled rest usage
        (queued :: kept.1, kept.2)

def completeAll (selected : List QueuedPublish) (error : DomainError) :
    List (QueuedPublish × PublishReply) :=
  selected.map fun queued => (queued, .error error)

/-- Which reply each request gets from a committed write: `complete_response`.  A result prints
itself into the error. -/
def completeResponse (display : ApplyResult → String) (selected : List QueuedPublish) :
    ApplyResult → List (QueuedPublish × PublishReply)
  | .publishedMany outcomes =>
      if outcomes.length ≠ selected.length ∨
          outcomes.map PublishItemOutcome.request ≠
            selected.map fun queued => queued.batch.request then
        completeAll selected (.storage "publish batch returned mismatched outcomes")
      else selected.zip (outcomes.map PublishItemOutcome.result)
  | result =>
      completeAll selected (.storage ("unexpected publish apply result " ++ display result))

inductive WriteError where
  | forwardToLeader (leader : Option Nat)
  | changeMembership (reason : String)
  | fatal (reason : String)
deriving DecidableEq

def mapWriteError (leaderHints : Nat → Option LeaderHint) : WriteError → DomainError
  | .forwardToLeader leader => .notLeader .data (leader.bind leaderHints)
  | .changeMembership reason => .storage reason
  | .fatal reason => .storage reason

def ambiguousPublish (queued : QueuedPublish) : DomainError :=
  .quorumUnavailable .data .ambiguousCommit (some (.publish queued.batch.request))

/-- The errors that say that a request was never submitted. -/
def DomainError.isAdmission : DomainError → Bool
  | .clusterForming => true
  | .publishOverloaded _ _ => true
  | _ => false

/-- The outcomes of a publish are those of the state machine, which never rejects a request for
want of admission. -/
def ApplyResult.answersPublish : ApplyResult → Prop
  | .publishedMany outcomes =>
      ∀ outcome ∈ outcomes, ∀ error, outcome.result = .error error → error.isAdmission = false
  | _ => True

/-- The data that the scheduler was spawned with, and how a result prints. -/
structure SchedulerSetting where
  config : PublishSchedulerConfig
  beforeSubmit : Bool
  afterCommit : Bool
  leaderHints : Nat → Option LeaderHint
  display : ApplyResult → String

theorem ReplicatedPublishBatch.new_ok {requests : List PublishBatch}
    {batch : ReplicatedPublishBatch} (done : ReplicatedPublishBatch.new requests = .ok batch) :
    batch.requests = requests := by
  unfold ReplicatedPublishBatch.new at done
  split at done
  · simp at done
  split at done
  · split at done
    · split at done
      · cases done
        rfl
      · simp at done
    · simp at done
  · simp at done

/-- The end of what `submit_batch` does before the write. -/
def beginWrite (selected : List QueuedPublish) : Worker :=
  match built : ReplicatedPublishBatch.new (selected.map QueuedPublish.batch) with
  | .ok batch => .writing ⟨selected, batch, ReplicatedPublishBatch.new_ok built⟩ false
  | .error error => .completing false (completeAll selected error)

namespace PublishScheduler

def examine (setting : SchedulerSetting) (now : Nat) (scheduler : PublishScheduler) :
    PublishScheduler :=
  let kept := discardCancelled scheduler.cancelled scheduler.pending scheduler.usage
  match kept.1 with
  | [] => { scheduler with pending := [], usage := kept.2, worker := .top }
  | oldest :: _ =>
      if batchUsage setting.config kept.1 = false ∧
          now < oldest.admittedAt + setting.config.maxCoalesceDelay then
        { scheduler with pending := kept.1, usage := kept.2, worker := .gathering }
      else
        let taken := takeBatch setting.config kept.1
        if taken.1 = [] then
          { scheduler with pending := taken.2, usage := kept.2, worker := .top }
        else
          { scheduler with
            pending := taken.2, usage := kept.2, worker := .selected taken.1 }

/-- `submit_batch` before its delay and, with `ready`, after it. -/
def retain (ready : Bool) (scheduler : PublishScheduler) (selected : List QueuedPublish) :
    PublishScheduler :=
  let kept := discardCancelled scheduler.cancelled selected scheduler.usage
  { scheduler with
    usage := kept.2
    worker :=
      if kept.1 = [] then .top else if ready then beginWrite kept.1 else .delayed kept.1 }

def finish (scheduler : PublishScheduler) (queued : QueuedPublish) (reply : PublishReply) :
    PublishScheduler :=
  { scheduler with
    replies := scheduler.replies ++ [(queued, reply)]
    usage := scheduler.usage.release queued.charge }

def call (scheduler : PublishScheduler) (batch : PublishBatch) (now : Nat) : QueuedPublish :=
  ⟨scheduler.calls, now, .forBatch batch, batch⟩

def wait (scheduler : PublishScheduler) (queued : QueuedPublish) : Option PublishReply :=
  match scheduler.replies.find? fun entry => entry.1 = queued with
  | some entry => some entry.2
  | none =>
      if scheduler.worker = .stopped then
        some (.error (.storage "publish scheduler stopped before completing the request"))
      else none

end PublishScheduler

/-- What callers, clients, the shutdown and the worker can do next. -/
inductive SchedulerStep (setting : SchedulerSetting) : PublishScheduler → PublishScheduler → Prop
  | reserved {scheduler : PublishScheduler} (batch : PublishBatch) (now : Nat)
      {usage : AdmissionUsage}
      (room : scheduler.usage.reserve setting.config (.forBatch batch) = (.ok (), usage)) :
      SchedulerStep setting scheduler { scheduler with
        usage := usage
        calls := scheduler.calls + 1
        entering := scheduler.entering ++ [scheduler.call batch now] }
  | refused {scheduler : PublishScheduler} (batch : PublishBatch) (now : Nat)
      {usage : AdmissionUsage} {error : DomainError}
      (full : scheduler.usage.reserve setting.config (.forBatch batch) = (.error error, usage)) :
      SchedulerStep setting scheduler { scheduler with
        usage := usage
        calls := scheduler.calls + 1
        refused := scheduler.refused ++ [(scheduler.call batch now, error)] }
  | sent {scheduler : PublishScheduler} (queued : QueuedPublish)
      (reserved : queued ∈ scheduler.entering) (receives : scheduler.worker ≠ .stopped)
      (room : scheduler.channel.length < setting.config.queueRequests) :
      SchedulerStep setting scheduler { scheduler with
        entering := scheduler.entering.erase queued
        channel := scheduler.channel ++ [queued]
        admitted := scheduler.admitted ++ [queued] }
  | unsent {scheduler : PublishScheduler} (queued : QueuedPublish)
      (reserved : queued ∈ scheduler.entering)
      (unable : scheduler.worker = .stopped ∨
        setting.config.queueRequests ≤ scheduler.channel.length) :
      SchedulerStep setting scheduler { scheduler with
        entering := scheduler.entering.erase queued
        usage := (scheduler.usage.release queued.charge).reject
        refused := scheduler.refused ++ [(queued,
          .publishOverloaded "publish queue requests" setting.config.queueRequests)] }
  | cancelled {scheduler : PublishScheduler} (queued : QueuedPublish)
      (admitted : queued ∈ scheduler.admitted) :
      SchedulerStep setting scheduler
        { scheduler with cancelled := scheduler.cancelled ++ [queued] }
  /-- `shutdown` closes the admission, then tells the worker. -/
  | closed {scheduler : PublishScheduler} :
      SchedulerStep setting scheduler { scheduler with usage := scheduler.usage.close }
  | signalled {scheduler : PublishScheduler} (closed : scheduler.usage.accepting = false) :
      SchedulerStep setting scheduler { scheduler with shutdown := true }
  | looped {scheduler : PublishScheduler} (top : scheduler.worker = .top) :
      SchedulerStep setting scheduler { scheduler with
        worker := if scheduler.shutdown then .leaving
          else if scheduler.pending = [] then .idle else .examining }
  | received {scheduler : PublishScheduler} {queued : QueuedPublish} {rest : List QueuedPublish}
      (idle : scheduler.worker = .idle) (first : scheduler.channel = queued :: rest) :
      SchedulerStep setting scheduler { scheduler with
        channel := rest, pending := scheduler.pending ++ [queued], worker := .examining }
  | noticed {scheduler : PublishScheduler}
      (waits : scheduler.worker = .idle ∨ scheduler.worker = .gathering)
      (shutdown : scheduler.shutdown = true) :
      SchedulerStep setting scheduler { scheduler with worker := .leaving }
  | gathered {scheduler : PublishScheduler} {queued : QueuedPublish} {rest : List QueuedPublish}
      (waits : scheduler.worker = .gathering) (first : scheduler.channel = queued :: rest) :
      SchedulerStep setting scheduler { scheduler with
        channel := rest, pending := scheduler.pending ++ [queued], worker := .top }
  | elapsed {scheduler : PublishScheduler} (waits : scheduler.worker = .gathering) :
      SchedulerStep setting scheduler { scheduler with worker := .top }
  | examined {scheduler : PublishScheduler} (now : Nat) (due : scheduler.worker = .examining) :
      SchedulerStep setting scheduler (scheduler.examine setting now)
  | retained {scheduler : PublishScheduler} {selected : List QueuedPublish}
      (due : scheduler.worker = .selected selected) :
      SchedulerStep setting scheduler (scheduler.retain (!setting.beforeSubmit) selected)
  | resumed {scheduler : PublishScheduler} {selected : List QueuedPublish}
      (due : scheduler.worker = .delayed selected) :
      SchedulerStep setting scheduler (scheduler.retain true selected)
  | polled {scheduler : PublishScheduler} {submitted : SubmittedBatch}
      (due : scheduler.worker = .writing submitted false) :
      SchedulerStep setting scheduler { scheduler with
        submitted := scheduler.submitted ++ [submitted], worker := .writing submitted true }
  | responded {scheduler : PublishScheduler} {submitted : SubmittedBatch} (result : ApplyResult)
      (answers : result.answersPublish) (due : scheduler.worker = .writing submitted true) :
      SchedulerStep setting scheduler { scheduler with
        worker := if setting.afterCommit then .committed submitted result
          else .completing true (completeResponse setting.display submitted.selected result) }
  | confirmed {scheduler : PublishScheduler} {submitted : SubmittedBatch} {result : ApplyResult}
      (due : scheduler.worker = .committed submitted result) :
      SchedulerStep setting scheduler { scheduler with
        worker := .completing true (completeResponse setting.display submitted.selected result) }
  | failed {scheduler : PublishScheduler} {submitted : SubmittedBatch} (error : WriteError)
      (due : scheduler.worker = .writing submitted true) :
      SchedulerStep setting scheduler { scheduler with
        worker := .completing true
          (completeAll submitted.selected (mapWriteError setting.leaderHints error)) }
  | timedOut {scheduler : PublishScheduler} {submitted : SubmittedBatch} {polled : Bool}
      (due : scheduler.worker = .writing submitted polled) :
      SchedulerStep setting scheduler { scheduler with
        replies := scheduler.replies ++
          submitted.selected.map fun queued => (queued, .error (ambiguousPublish queued))
        worker := .expired submitted polled }
  | interrupted {scheduler : PublishScheduler} {submitted : SubmittedBatch} {polled : Bool}
      (due : scheduler.worker = .writing submitted polled)
      (shutdown : scheduler.shutdown = true) :
      SchedulerStep setting scheduler { scheduler with
        worker := .completing polled (submitted.selected.map fun queued =>
          (queued, .error (ambiguousPublish queued))) }
  | polledLate {scheduler : PublishScheduler} {submitted : SubmittedBatch}
      (due : scheduler.worker = .expired submitted false) :
      SchedulerStep setting scheduler { scheduler with
        submitted := scheduler.submitted ++ [submitted], worker := .expired submitted true }
  | settled {scheduler : PublishScheduler} {submitted : SubmittedBatch} {polled : Bool}
      (due : scheduler.worker = .expired submitted polled)
      (finished : polled = true ∨ scheduler.shutdown = true) :
      SchedulerStep setting scheduler
        { scheduler with worker := .releasing submitted.selected }
  | completed {scheduler : PublishScheduler} {polled : Bool} {queued : QueuedPublish}
      {reply : PublishReply} {rest : List (QueuedPublish × PublishReply)}
      (due : scheduler.worker = .completing polled ((queued, reply) :: rest)) :
      SchedulerStep setting scheduler
        { scheduler.finish queued reply with worker := .completing polled rest }
  | released {scheduler : PublishScheduler} {queued : QueuedPublish}
      {rest : List QueuedPublish} (due : scheduler.worker = .releasing (queued :: rest)) :
      SchedulerStep setting scheduler { scheduler with
        usage := scheduler.usage.release queued.charge, worker := .releasing rest }
  | returned {scheduler : PublishScheduler}
      (due : scheduler.worker = .releasing [] ∨
        ∃ polled, scheduler.worker = .completing polled []) :
      SchedulerStep setting scheduler { scheduler with worker := .top }
  | left {scheduler : PublishScheduler} (due : scheduler.worker = .leaving) :
      SchedulerStep setting scheduler
        { scheduler with usage := scheduler.usage.close, worker := .draining }
  | drainedPending {scheduler : PublishScheduler} {queued : QueuedPublish}
      {rest : List QueuedPublish} (due : scheduler.worker = .draining)
      (first : scheduler.pending = queued :: rest) :
      SchedulerStep setting scheduler
        { scheduler.finish queued (.error .clusterForming) with pending := rest }
  | drainedChannel {scheduler : PublishScheduler} {queued : QueuedPublish}
      {rest : List QueuedPublish} (due : scheduler.worker = .draining)
      (nothing : scheduler.pending = []) (first : scheduler.channel = queued :: rest) :
      SchedulerStep setting scheduler
        { scheduler.finish queued (.error .clusterForming) with channel := rest }
  | emptied {scheduler : PublishScheduler} (due : scheduler.worker = .draining)
      (nothing : scheduler.pending = []) (nothingQueued : scheduler.channel = []) :
      SchedulerStep setting scheduler { scheduler with worker := .drained }
  /-- The receiver goes, and what it held since `try_recv` goes with it. -/
  | stopped {scheduler : PublishScheduler} (due : scheduler.worker = .drained) :
      SchedulerStep setting scheduler { scheduler with channel := [], worker := .stopped }

end LightStream
