import LightStream.Proofs.PublishAnswers
import LightStream.Queue.Ledger

/-!
The publish scheduler over whole runs: every admitted request is answered once or was cancelled,
batches keep the order of admission, and the admission counts what is in the house.
-/

namespace LightStream

/-! ### The counters of the admission -/

structure AdmissionUsage.Counts (usage : AdmissionUsage) (held : List QueuedPublish) : Prop where
  requests : usage.requests = held.length
  records : usage.records = (held.map fun queued => queued.charge.records).sum
  residentBytes : usage.residentBytes = (held.map fun queued => queued.charge.residentBytes).sum

namespace AdmissionUsage

variable {usage next : AdmissionUsage} {held other : List QueuedPublish}

theorem Counts.perm (counts : usage.Counts held) (same : held.Perm other) : usage.Counts other :=
  ⟨counts.requests.trans same.length_eq, counts.records.trans (same.map _).sum_nat,
    counts.residentBytes.trans (same.map _).sum_nat⟩

theorem Counts.reserve {config : PublishSchedulerConfig} {queued : QueuedPublish}
    (counts : usage.Counts held) (room : usage.reserve config queued.charge = (.ok (), next)) :
    next.Counts (queued :: held) := by
  simp only [AdmissionUsage.reserve] at room
  split at room
  · simp at room
  split at room
  · simp at room
  split at room
  · simp at room
  split at room
  · simp at room
  · cases room
    refine ⟨?_, ?_, ?_⟩
    · rw [List.length_cons, ← counts.requests]
    · rw [List.map_cons, List.sum_cons, ← counts.records]
      exact Nat.add_comm ..
    · rw [List.map_cons, List.sum_cons, ← counts.residentBytes]
      exact Nat.add_comm ..

theorem Counts.refuse {config : PublishSchedulerConfig} {charge : PublishCharge}
    {error : DomainError} (counts : usage.Counts held)
    (full : usage.reserve config charge = (.error error, next)) : next.Counts held := by
  simp only [AdmissionUsage.reserve] at full
  split at full
  · cases full
    exact counts
  split at full
  · cases full
    exact ⟨counts.requests, counts.records, counts.residentBytes⟩
  split at full
  · cases full
    exact ⟨counts.requests, counts.records, counts.residentBytes⟩
  split at full
  · cases full
    exact ⟨counts.requests, counts.records, counts.residentBytes⟩
  · simp at full

theorem Counts.release {queued : QueuedPublish} (counts : usage.Counts (queued :: held)) :
    (usage.release queued.charge).Counts held := by
  obtain ⟨requests, records, residentBytes⟩ := counts
  rw [List.length_cons] at requests
  rw [List.map_cons, List.sum_cons] at records residentBytes
  refine ⟨?_, ?_, ?_⟩ <;> simp only [AdmissionUsage.release] <;> omega

theorem Counts.close (counts : usage.Counts held) : usage.close.Counts held :=
  ⟨counts.requests, counts.records, counts.residentBytes⟩

end AdmissionUsage

/-! ### The functions of the worker -/

theorem discardCancelled_sublist (cancelled queue : List QueuedPublish) (usage : AdmissionUsage) :
    (discardCancelled cancelled queue usage).1.Sublist queue ∧
      ∀ queued ∈ queue, queued ∈ (discardCancelled cancelled queue usage).1 ∨
        queued ∈ cancelled := by
  induction queue generalizing usage with
  | nil => exact ⟨List.Sublist.refl _, by simp⟩
  | cons queued rest ih =>
      rw [discardCancelled]
      by_cases gone : queued ∈ cancelled
      · rw [if_pos gone]
        obtain ⟨fewer, left⟩ := ih (usage.release queued.charge)
        refine ⟨fewer.cons _, ?_⟩
        intro other member
        rcases List.mem_cons.mp member with rfl | later
        · exact .inr gone
        · exact left other later
      · rw [if_neg gone]
        obtain ⟨fewer, left⟩ := ih usage
        refine ⟨fewer.cons_cons _, ?_⟩
        intro other member
        rcases List.mem_cons.mp member with rfl | later
        · exact .inl List.mem_cons_self
        · exact (left other later).imp_left (List.mem_cons_of_mem _)

theorem discardCancelled_counts (cancelled : List QueuedPublish)
    {queue other : List QueuedPublish} {usage : AdmissionUsage}
    (counts : usage.Counts (queue ++ other)) :
    (discardCancelled cancelled queue usage).2.Counts
      ((discardCancelled cancelled queue usage).1 ++ other) := by
  induction queue generalizing usage other with
  | nil => exact counts
  | cons queued rest ih =>
      rw [discardCancelled]
      by_cases gone : queued ∈ cancelled
      · rw [if_pos gone]
        exact ih counts.release
      · rw [if_neg gone]
        have moved : usage.Counts (rest ++ queued :: other) := counts.perm List.perm_middle.symm
        exact (ih moved).perm List.perm_middle

theorem takeBatchFrom_append (config : PublishSchedulerConfig) (records payloadBytes : Nat)
    (selected pending : List QueuedPublish) :
    (takeBatchFrom config records payloadBytes selected pending).1 ++
      (takeBatchFrom config records payloadBytes selected pending).2 = selected ++ pending := by
  induction pending generalizing records payloadBytes selected with
  | nil => rfl
  | cons next rest ih =>
      simp only [takeBatchFrom]
      split
      · rfl
      split
      · rfl
      · rw [ih, List.append_assoc, List.singleton_append]

theorem takeBatch_append (config : PublishSchedulerConfig) (pending : List QueuedPublish) :
    (takeBatch config pending).1 ++ (takeBatch config pending).2 = pending :=
  takeBatchFrom_append config 0 0 [] pending

def Refusal (reply : PublishReply) : Prop :=
  ∃ error, reply = .error error ∧ error.isAdmission = true

theorem ReplicatedPublishBatch.new_error {requests : List PublishBatch} {error : DomainError}
    (refused : ReplicatedPublishBatch.new requests = .error error) : error.isAdmission = false := by
  unfold ReplicatedPublishBatch.new at refused
  split at refused
  · cases refused
    rfl
  split at refused
  · split at refused
    · split at refused
      · simp at refused
      · cases refused
        rfl
    · cases refused
      rfl
  · cases refused
    rfl

theorem mapWriteError_isAdmission (leaderHints : Nat → Option LeaderHint) (error : WriteError) :
    (mapWriteError leaderHints error).isAdmission = false := by
  cases error <;> rfl

def Commits (replies : List (QueuedPublish × PublishReply)) : Prop :=
  ∀ entry ∈ replies, ¬Refusal entry.2

theorem commits_errors {selected : List QueuedPublish} {error : QueuedPublish → DomainError}
    (certain : ∀ queued, (error queued).isAdmission = false) :
    Commits (selected.map fun queued => (queued, .error (error queued))) := by
  rintro entry member ⟨_, same, refuses⟩
  obtain ⟨queued, _, rfl⟩ := List.mem_map.mp member
  cases same
  simp [certain] at refuses

theorem completeAll_requests (selected : List QueuedPublish) (error : DomainError) :
    (completeAll selected error).map Prod.fst = selected := by
  rw [completeAll, List.map_map]
  exact List.map_id _

theorem completeResponse_requests (display : ApplyResult → String) (selected : List QueuedPublish)
    (result : ApplyResult) :
    (completeResponse display selected result).map Prod.fst = selected := by
  cases result with
  | publishedMany outcomes =>
      rw [completeResponse]
      split
      · exact completeAll_requests selected _
      · rename_i matched
        push Not at matched
        refine List.map_fst_zip ?_
        rw [List.length_map, matched.1]
  | _ => exact completeAll_requests selected _

theorem completeResponse_commits (display : ApplyResult → String) (selected : List QueuedPublish)
    {result : ApplyResult} (answers : result.answersPublish) :
    Commits (completeResponse display selected result) := by
  cases result with
  | publishedMany outcomes =>
      rw [completeResponse]
      split
      · exact commits_errors fun _ => rfl
      · rintro entry member ⟨error, failed, refuses⟩
        obtain ⟨outcome, answered, same⟩ := List.mem_map.mp (List.of_mem_zip member).2
        have certain := answers outcome answered error (same.trans failed)
        simp [certain] at refuses
  | _ => exact commits_errors fun _ => rfl

/-! ### What the worker has taken from the queue -/

namespace Worker

def held : Worker → List QueuedPublish
  | .selected chosen => chosen
  | .delayed chosen => chosen
  | .writing submitted _ => submitted.selected
  | .committed submitted _ => submitted.selected
  | .expired submitted _ => submitted.selected
  | .completing _ replies => replies.map Prod.fst
  | .releasing answered => answered
  | _ => []

def unsubmitted : Worker → List QueuedPublish
  | .selected chosen => chosen
  | .delayed chosen => chosen
  | .writing submitted false => submitted.selected
  | .expired submitted false => submitted.selected
  | .completing false replies => replies.map Prod.fst
  | _ => []

def unanswered : Worker → List QueuedPublish
  | .selected chosen => chosen
  | .delayed chosen => chosen
  | .writing submitted _ => submitted.selected
  | .committed submitted _ => submitted.selected
  | .completing _ replies => replies.map Prod.fst
  | _ => []

def Certain : Worker → Prop
  | .committed _ result => result.answersPublish
  | .completing _ replies => Commits replies
  | _ => True

def hasDrained : Worker → Bool
  | .drained => true
  | .stopped => true
  | _ => false

end Worker

theorem beginWrite_cases (selected : List QueuedPublish) :
    (beginWrite selected).held = selected ∧ (beginWrite selected).unsubmitted = selected ∧
      (beginWrite selected).unanswered = selected ∧ (beginWrite selected).Certain ∧
      (beginWrite selected).hasDrained = false := by
  unfold beginWrite
  split
  · exact ⟨rfl, rfl, rfl, trivial, rfl⟩
  · rename_i error refused
    have requests := completeAll_requests selected error
    exact ⟨requests, requests, requests,
      commits_errors fun _ => ReplicatedPublishBatch.new_error refused, rfl⟩

namespace PublishScheduler

variable {setting : SchedulerSetting} {scheduler next : PublishScheduler}

def submittedRequests (scheduler : PublishScheduler) : List QueuedPublish :=
  scheduler.submitted.flatMap SubmittedBatch.selected

def backlog (scheduler : PublishScheduler) : List QueuedPublish :=
  scheduler.pending ++ scheduler.channel

def held (scheduler : PublishScheduler) : List QueuedPublish :=
  scheduler.entering ++ (scheduler.worker.held ++ scheduler.backlog)

def ledger (scheduler : PublishScheduler) : Queue.Ledger QueuedPublish PublishReply where
  entering := scheduler.entering
  turnedAway := scheduler.refused.map Prod.fst
  admitted := scheduler.admitted
  queue := scheduler.worker.unsubmitted ++ scheduler.backlog
  submitted := scheduler.submittedRequests
  waiting := scheduler.worker.unanswered ++ scheduler.backlog
  replies := scheduler.replies
  cancelled := scheduler.cancelled

structure Good (scheduler : PublishScheduler) : Prop where
  sound : scheduler.ledger.Sound Refusal
  counted : scheduler.usage.Counts scheduler.held
  tickets : ∀ queued ∈ scheduler.entering ++ scheduler.refused.map Prod.fst ++ scheduler.admitted,
    queued.ticket < scheduler.calls
  certain : scheduler.worker.Certain
  emptied : scheduler.worker.hasDrained = true → scheduler.backlog = []

theorem Good.spawn : Good spawn :=
  ⟨.empty, ⟨rfl, rfl, rfl⟩, by simp [PublishScheduler.spawn], trivial,
    by simp [PublishScheduler.spawn, Worker.hasDrained]⟩

theorem Good.fresh (good : scheduler.Good) (batch : PublishBatch) (now : Nat) :
    scheduler.call batch now ∉
      scheduler.entering ++ scheduler.refused.map Prod.fst ++ scheduler.admitted :=
  fun known => absurd (good.tickets _ known) (Nat.lt_irrefl _)

theorem Good.moved (good : scheduler.Good) {pending channel : List QueuedPublish} {worker : Worker}
    (held : worker.held ++ (pending ++ channel) = scheduler.worker.held ++ scheduler.backlog)
    (unsubmitted : worker.unsubmitted ++ (pending ++ channel) =
      scheduler.worker.unsubmitted ++ scheduler.backlog)
    (unanswered : worker.unanswered ++ (pending ++ channel) =
      scheduler.worker.unanswered ++ scheduler.backlog)
    (certain : worker.Certain)
    (emptied : worker.hasDrained = true → pending ++ channel = []) :
    Good { scheduler with pending := pending, channel := channel, worker := worker } := by
  have same : ledger { scheduler with pending := pending, channel := channel, worker := worker } =
      scheduler.ledger := by
    simp only [ledger, backlog, unsubmitted, unanswered, submittedRequests]
  refine ⟨same ▸ good.sound, ?_, good.tickets, certain, emptied⟩
  have sameHeld : PublishScheduler.held
      { scheduler with pending := pending, channel := channel, worker := worker } =
      scheduler.held := by
    simp only [PublishScheduler.held, backlog, held]
  rw [sameHeld]
  exact good.counted

theorem Good.discarded (good : scheduler.Good) {front back pending : List QueuedPublish}
    {worker : Worker}
    (same : scheduler.worker.unsubmitted = scheduler.worker.held ∧
      scheduler.worker.unanswered = scheduler.worker.held)
    (begins : scheduler.worker.held ++ scheduler.pending = front ++ back)
    (after : worker.unsubmitted = worker.held ∧ worker.unanswered = worker.held)
    (kept : worker.held ++ pending =
      (discardCancelled scheduler.cancelled front scheduler.usage).1 ++ back)
    (certain : worker.Certain) (runs : worker.hasDrained = false) :
    Good { scheduler with
      pending := pending
      usage := (discardCancelled scheduler.cancelled front scheduler.usage).2
      worker := worker } := by
  obtain ⟨fewer, left⟩ :=
    discardCancelled_sublist scheduler.cancelled front scheduler.usage
  have before : scheduler.worker.held ++ scheduler.backlog =
      front ++ (back ++ scheduler.channel) := by
    rw [backlog, ← List.append_assoc, begins, List.append_assoc]
  have later : worker.held ++ (pending ++ scheduler.channel) =
      (discardCancelled scheduler.cancelled front scheduler.usage).1 ++
        (back ++ scheduler.channel) := by
    rw [← List.append_assoc, kept, List.append_assoc]
  refine ⟨?_, ?_, good.tickets, certain, by simp [runs]⟩
  · have queue : scheduler.ledger.queue = front ++ (back ++ scheduler.channel) := by
      rw [← before, ledger, same.1]
    have waiting : scheduler.ledger.waiting = front ++ (back ++ scheduler.channel) := by
      rw [← before, ledger, same.2]
    have sublist := fewer.append (List.Sublist.refl (back ++ scheduler.channel))
    have gone (queued : QueuedPublish) (member : queued ∈ front ++ (back ++ scheduler.channel)) :
        queued ∈ (discardCancelled scheduler.cancelled front scheduler.usage).1 ++
          (back ++ scheduler.channel) ∨ queued ∈ scheduler.cancelled := by
      rcases List.mem_append.mp member with first | rest
      · exact (left queued first).imp_left (List.mem_append_left _)
      · exact .inl (List.mem_append_right _ rest)
    have sound := good.sound.leave (queue ▸ sublist) (waiting ▸ sublist)
      (fun queued member => (gone queued (queue ▸ member)).imp_right .inr)
      (fun queued member => gone queued (waiting ▸ member))
    rw [← later] at sound
    simp only [ledger, backlog, after.1, after.2]
    exact sound
  · have counted : scheduler.usage.Counts
        (front ++ (scheduler.entering ++ (back ++ scheduler.channel))) := by
      refine good.counted.perm ?_
      rw [PublishScheduler.held, before]
      exact List.perm_append_comm_assoc ..
    refine (discardCancelled_counts scheduler.cancelled counted).perm ?_
    rw [PublishScheduler.held, backlog]
    dsimp only
    rw [later]
    exact List.perm_append_comm_assoc ..

theorem Good.examine (good : scheduler.Good) (now : Nat)
    (due : scheduler.worker = .examining) : (scheduler.examine setting now).Good := by
  have same : scheduler.worker.unsubmitted = scheduler.worker.held ∧
      scheduler.worker.unanswered = scheduler.worker.held := by
    rw [due]
    exact ⟨rfl, rfl⟩
  have begins : scheduler.worker.held ++ scheduler.pending = scheduler.pending ++ [] := by
    rw [due, List.append_nil]
    rfl
  unfold PublishScheduler.examine
  dsimp only
  split
  · rename_i nothing
    refine good.discarded same begins ⟨rfl, rfl⟩ ?_ trivial rfl
    rw [nothing]
    rfl
  · split
    · refine good.discarded same begins ⟨rfl, rfl⟩ ?_ trivial rfl
      rw [List.append_nil]
      rfl
    · have taken := takeBatch_append setting.config
        (discardCancelled scheduler.cancelled scheduler.pending scheduler.usage).1
      split
      · rename_i nothing
        refine good.discarded same begins ⟨rfl, rfl⟩ ?_ trivial rfl
        rw [nothing] at taken
        rw [List.append_nil]
        exact taken
      · refine good.discarded same begins ⟨rfl, rfl⟩ ?_ trivial rfl
        rw [List.append_nil]
        exact taken

theorem Good.retain (good : scheduler.Good) {chosen : List QueuedPublish} (ready : Bool)
    (held : scheduler.worker.held = chosen) (unsubmitted : scheduler.worker.unsubmitted = chosen)
    (unanswered : scheduler.worker.unanswered = chosen) :
    (scheduler.retain ready chosen).Good := by
  have same : scheduler.worker.unsubmitted = scheduler.worker.held ∧
      scheduler.worker.unanswered = scheduler.worker.held :=
    ⟨unsubmitted.trans held.symm, unanswered.trans held.symm⟩
  have begins : scheduler.worker.held ++ scheduler.pending = chosen ++ scheduler.pending := by
    rw [held]
  unfold PublishScheduler.retain
  dsimp only
  split
  · rename_i nothing
    refine good.discarded same begins ⟨rfl, rfl⟩ ?_ trivial rfl
    rw [nothing]
    rfl
  · split
    · obtain ⟨nextHeld, nextUnsubmitted, nextUnanswered, certain, runs⟩ := beginWrite_cases
        (discardCancelled scheduler.cancelled chosen scheduler.usage).1
      refine good.discarded same begins ⟨?_, ?_⟩ ?_ certain runs
      · exact nextUnsubmitted.trans nextHeld.symm
      · exact nextUnanswered.trans nextHeld.symm
      · rw [nextHeld]
    · exact good.discarded same begins ⟨rfl, rfl⟩ rfl trivial rfl

theorem Good.submit (good : scheduler.Good) {submitted : SubmittedBatch} {worker : Worker}
    (unsubmitted : scheduler.worker.unsubmitted = submitted.selected)
    (held : worker.held = scheduler.worker.held)
    (unanswered : worker.unanswered = scheduler.worker.unanswered)
    (nothing : worker.unsubmitted = []) (certain : worker.Certain)
    (runs : worker.hasDrained = false) :
    Good { scheduler with submitted := scheduler.submitted ++ [submitted], worker := worker } := by
  refine ⟨?_, ?_, good.tickets, certain, by simp [runs]⟩
  · have queue : scheduler.ledger.queue = submitted.selected ++ scheduler.backlog := by
      rw [ledger, unsubmitted]
    have sound := good.sound.submit queue
    have more : submittedRequests
        { scheduler with submitted := scheduler.submitted ++ [submitted], worker := worker } =
          scheduler.submittedRequests ++ submitted.selected := by
      rw [submittedRequests, List.flatMap_append, List.flatMap_singleton]
      rfl
    rw [ledger, more]
    dsimp only
    rw [nothing, unanswered, List.nil_append]
    exact sound
  · have same : PublishScheduler.held
        { scheduler with submitted := scheduler.submitted ++ [submitted], worker := worker } =
          scheduler.held := by
      simp only [PublishScheduler.held, backlog, held]
    rw [same]
    exact good.counted

theorem Good.finish (good : scheduler.Good) {queued : QueuedPublish} {reply : PublishReply}
    {rest queue pending channel : List QueuedPublish} {worker : Worker}
    (held : scheduler.worker.held ++ scheduler.backlog = queued :: rest)
    (waits : scheduler.worker.unanswered ++ scheduler.backlog = queued :: rest)
    (nextHeld : worker.held ++ (pending ++ channel) = rest)
    (nextWaits : worker.unanswered ++ (pending ++ channel) = rest)
    (nextQueue : worker.unsubmitted ++ (pending ++ channel) = queue)
    (fewer : queue.Sublist (scheduler.worker.unsubmitted ++ scheduler.backlog))
    (left : ∀ other ∈ scheduler.worker.unsubmitted ++ scheduler.backlog,
      other ∈ queue ∨ other = queued)
    (honest : Refusal reply → queued ∉ scheduler.submittedRequests ++ queue)
    (certain : worker.Certain) (runs : worker.hasDrained = false) :
    Good { scheduler.finish queued reply with
      pending := pending, channel := channel, worker := worker } := by
  refine ⟨?_, ?_, good.tickets, certain, by simp [runs]⟩
  · have sound := good.sound.answer waits fewer left honest
    rw [← nextQueue, ← nextWaits] at sound
    exact sound
  · have first : scheduler.usage.Counts (queued :: (scheduler.entering ++ rest)) := by
      refine good.counted.perm ?_
      rw [PublishScheduler.held, held]
      exact List.perm_middle
    have same : PublishScheduler.held { scheduler.finish queued reply with
        pending := pending, channel := channel, worker := worker } =
          scheduler.entering ++ rest := by
      rw [← nextHeld]
      rfl
    rw [same]
    exact first.release

theorem Good.drain (good : scheduler.Good) {queued : QueuedPublish}
    {pending channel : List QueuedPublish} (due : scheduler.worker = .draining)
    (first : scheduler.backlog = queued :: (pending ++ channel)) :
    Good { scheduler.finish queued (.error .clusterForming) with
      pending := pending, channel := channel, worker := .draining } := by
  have live : scheduler.ledger.live =
      scheduler.submittedRequests ++ queued :: (pending ++ channel) := by
    rw [Queue.Ledger.live, ledger, due, ← first]
    rfl
  have distinct := good.sound.live_nodup
  rw [live] at distinct
  refine good.finish ?_ ?_ rfl rfl rfl ?_ ?_ ?_ trivial rfl
  · rw [due]
    exact first
  · rw [due]
    exact first
  · rw [due, first]
    exact List.sublist_cons_self ..
  · intro other member
    rw [due, first] at member
    exact (List.mem_cons.mp member).symm
  · intro _ member
    have apart := List.nodup_middle.mp distinct
    exact (List.nodup_cons.mp apart).1 member

theorem Good.complete (good : scheduler.Good) {polled : Bool} {queued : QueuedPublish}
    {reply : PublishReply} {replies : List (QueuedPublish × PublishReply)}
    (due : scheduler.worker = .completing polled ((queued, reply) :: replies)) :
    Good { scheduler.finish queued reply with worker := .completing polled replies } := by
  have certain := good.certain
  rw [due] at certain
  have rest : Commits replies := fun entry member =>
    certain entry (List.mem_cons_of_mem _ member)
  have honest : ¬Refusal reply := certain (queued, reply) List.mem_cons_self
  have held : scheduler.worker.held ++ scheduler.backlog =
      queued :: (replies.map Prod.fst ++ scheduler.backlog) := by
    rw [due]
    rfl
  have waits : scheduler.worker.unanswered ++ scheduler.backlog =
      queued :: (replies.map Prod.fst ++ scheduler.backlog) := by
    rw [due]
    rfl
  refine good.finish held waits rfl rfl rfl ?_ ?_ (fun refusal => absurd refusal honest) rest rfl
  · rw [due]
    cases polled with
    | true => exact List.Sublist.refl _
    | false => exact List.sublist_cons_self ..
  · intro other member
    rw [due] at member
    cases polled with
    | true => exact .inl member
    | false => exact (List.mem_cons.mp member).symm

end PublishScheduler

namespace PublishScheduler

variable {setting : SchedulerSetting} {scheduler next : PublishScheduler}

theorem Good.goesOn (good : scheduler.Good) {worker : Worker}
    (held : worker.held = scheduler.worker.held)
    (unsubmitted : worker.unsubmitted = scheduler.worker.unsubmitted)
    (unanswered : worker.unanswered = scheduler.worker.unanswered)
    (certain : worker.Certain) (runs : worker.hasDrained = false) :
    Good { scheduler with worker := worker } :=
  good.moved (by rw [held]; rfl) (by rw [unsubmitted]; rfl) (by rw [unanswered]; rfl) certain
    (by simp [runs])

theorem Good.receive (good : scheduler.Good) {queued : QueuedPublish} {rest : List QueuedPublish}
    {worker : Worker} (first : scheduler.channel = queued :: rest)
    (held : worker.held = scheduler.worker.held)
    (unsubmitted : worker.unsubmitted = scheduler.worker.unsubmitted)
    (unanswered : worker.unanswered = scheduler.worker.unanswered)
    (certain : worker.Certain) (runs : worker.hasDrained = false) :
    Good { scheduler with
      channel := rest, pending := scheduler.pending ++ [queued], worker := worker } := by
  have same : scheduler.pending ++ [queued] ++ rest = scheduler.backlog := by
    rw [backlog, first, List.append_assoc]
    rfl
  exact good.moved (by rw [held, same]) (by rw [unsubmitted, same]) (by rw [unanswered, same])
    certain (by simp [runs])

theorem Good.ticket (good : scheduler.Good) {queued : QueuedPublish}
    (known : queued ∈ scheduler.entering ∨ queued ∈ scheduler.refused.map Prod.fst ∨
      queued ∈ scheduler.admitted) : queued.ticket < scheduler.calls := by
  refine good.tickets queued ?_
  rw [List.mem_append, List.mem_append]
  tauto

theorem Good.send (good : scheduler.Good) {queued : QueuedPublish}
    (reserved : queued ∈ scheduler.entering) (runs : scheduler.worker.hasDrained = false) :
    Good { scheduler with
      entering := scheduler.entering.erase queued
      channel := scheduler.channel ++ [queued]
      admitted := scheduler.admitted ++ [queued] } := by
  have last (taken : List QueuedPublish) :
      taken ++ (scheduler.pending ++ (scheduler.channel ++ [queued])) =
        taken ++ scheduler.backlog ++ [queued] := by
    simp only [backlog, List.append_assoc]
  refine ⟨?_, ?_, ?_, good.certain, by simp [runs]⟩
  · have sound := good.sound.enqueued reserved
    simp only [ledger, ← last] at sound
    exact sound
  · refine good.counted.perm ?_
    have taken := List.perm_cons_erase reserved
    simp only [PublishScheduler.held, backlog]
    rw [List.perm_iff_count] at taken ⊢
    intro other
    have count := taken other
    simp only [List.count_append, List.count_cons, List.count_nil] at count ⊢
    omega
  · intro other known
    rw [List.mem_append, List.mem_append, List.mem_append, List.mem_singleton] at known
    rcases known with (entering | refused) | admitted | rfl
    · exact good.ticket (.inl (List.mem_of_mem_erase entering))
    · exact good.ticket (.inr (.inl refused))
    · exact good.ticket (.inr (.inr admitted))
    · exact good.ticket (.inl reserved)

theorem Good.turnAway (good : scheduler.Good) {queued : QueuedPublish} {error : DomainError}
    (reserved : queued ∈ scheduler.entering) :
    Good { scheduler with
      entering := scheduler.entering.erase queued
      usage := (scheduler.usage.release queued.charge).reject
      refused := scheduler.refused ++ [(queued, error)] } := by
  refine ⟨?_, ?_, ?_, good.certain, good.emptied⟩
  · have sound := good.sound.turnAway reserved
    have more : (scheduler.refused ++ [(queued, error)]).map Prod.fst =
        scheduler.refused.map Prod.fst ++ [queued] := List.map_append ..
    rw [ledger, more]
    exact sound
  · have first : scheduler.usage.Counts (queued ::
        (scheduler.entering.erase queued ++ (scheduler.worker.held ++ scheduler.backlog))) :=
      good.counted.perm ((List.perm_cons_erase reserved).append_right _)
    have released := first.release
    exact ⟨released.requests, released.records, released.residentBytes⟩
  · intro other known
    rw [List.map_append, List.mem_append, List.mem_append, List.mem_append] at known
    rcases known with (entering | refused | last) | admitted
    · exact good.ticket (.inl (List.mem_of_mem_erase entering))
    · exact good.ticket (.inr (.inl refused))
    · rw [List.mem_singleton.mp last]
      exact good.ticket (.inl reserved)
    · exact good.ticket (.inr (.inr admitted))

theorem Good.expire (good : scheduler.Good) {submitted : SubmittedBatch} {polled : Bool}
    (due : scheduler.worker = .writing submitted polled) :
    Good { scheduler with
      replies := scheduler.replies ++
        submitted.selected.map fun queued => (queued, .error (ambiguousPublish queued))
      worker := .expired submitted polled } := by
  refine ⟨?_, ?_, good.tickets, trivial, fun impossible => nomatch impossible⟩
  · have waits : scheduler.ledger.waiting = submitted.selected ++ scheduler.backlog := by
      rw [ledger, due]
      rfl
    have sound := good.sound.answerAll
      (fun queued => (.error (ambiguousPublish queued) : PublishReply)) ?_ waits
    · simp only [ledger, due] at sound
      cases polled <;> exact sound
    · rintro queued ⟨_, same, refuses⟩
      cases same
      simp [ambiguousPublish, DomainError.isAdmission] at refuses
  · have counted := good.counted
    rw [PublishScheduler.held, due] at counted
    exact counted

theorem Good.settle (good : scheduler.Good) {submitted : SubmittedBatch} {polled : Bool}
    (due : scheduler.worker = .expired submitted polled) :
    Good { scheduler with worker := .releasing submitted.selected } := by
  refine ⟨?_, ?_, good.tickets, trivial, fun impossible => nomatch impossible⟩
  · have waits : scheduler.ledger.waiting = scheduler.backlog := by
      rw [ledger, due]
      rfl
    have fewer : scheduler.backlog.Sublist scheduler.ledger.queue := List.sublist_append_right ..
    have distinct := good.sound.live_nodup
    have sound := good.sound.leave fewer (List.Sublist.refl scheduler.ledger.waiting) ?_ ?_
    · rw [waits] at sound
      exact sound
    · intro queued member
      rcases List.mem_append.mp member with taken | kept
      · have live : queued ∈ scheduler.ledger.live := List.mem_append_right _ member
        rcases good.sound.served queued (good.sound.ordered.subset live) with answered | still |
          gone
        · exact .inr (.inl answered)
        · exact .inl (waits ▸ still)
        · exact .inr (.inr gone)
      · exact .inl kept
    · exact fun queued member => .inl member
  · have counted := good.counted
    rw [PublishScheduler.held, due] at counted
    exact counted

end PublishScheduler

theorem SchedulerStep.good {setting : SchedulerSetting} {scheduler next : PublishScheduler}
    (step : SchedulerStep setting scheduler next)
    (timely : scheduler.worker = .drained → next.admitted = scheduler.admitted)
    (good : scheduler.Good) : next.Good := by
  cases step with
  | reserved batch now room =>
      have room : scheduler.usage.reserve setting.config (scheduler.call batch now).charge = _ :=
        room
      refine ⟨good.sound.enter (good.fresh batch now), ?_, ?_, good.certain, good.emptied⟩
      · refine (good.counted.reserve room).perm ?_
        rw [PublishScheduler.held, PublishScheduler.held, List.append_assoc]
        exact List.perm_middle.symm
      · intro queued known
        rw [List.mem_append, List.mem_append, List.mem_append, List.mem_singleton] at known
        rcases known with ((entering | rfl) | refused) | admitted
        · exact Nat.lt_succ_of_lt (good.ticket (.inl entering))
        · exact Nat.lt_succ_self _
        · exact Nat.lt_succ_of_lt (good.ticket (.inr (.inl refused)))
        · exact Nat.lt_succ_of_lt (good.ticket (.inr (.inr admitted)))
  | @refused batch now _ error full =>
      refine ⟨?_, good.counted.refuse full, ?_, good.certain, good.emptied⟩
      · have sound := good.sound.refuse (good.fresh batch now)
        have more : (scheduler.refused ++ [(scheduler.call batch now, error)]).map Prod.fst =
            scheduler.refused.map Prod.fst ++ [scheduler.call batch now] := List.map_append ..
        rw [PublishScheduler.ledger, more]
        exact sound
      · intro queued known
        rw [List.map_append, List.mem_append, List.mem_append, List.mem_append] at known
        rcases known with (entering | refused | last) | admitted
        · exact Nat.lt_succ_of_lt (good.ticket (.inl entering))
        · exact Nat.lt_succ_of_lt (good.ticket (.inr (.inl refused)))
        · rw [List.mem_singleton.mp last]
          exact Nat.lt_succ_self _
        · exact Nat.lt_succ_of_lt (good.ticket (.inr (.inr admitted)))
  | sent queued reserved receives room =>
      refine good.send reserved ?_
      cases worker : scheduler.worker with
      | drained =>
          have same := congrArg List.length (timely worker)
          simp at same
      | stopped => exact absurd worker receives
      | _ => rfl
  | unsent queued reserved unable => exact good.turnAway reserved
  | cancelled queued admitted =>
      exact ⟨good.sound.cancel queued, good.counted, good.tickets, good.certain, good.emptied⟩
  | closed =>
      exact ⟨good.sound, good.counted.close, good.tickets, good.certain, good.emptied⟩
  | signalled =>
      exact ⟨good.sound, good.counted, good.tickets, good.certain, good.emptied⟩
  | looped top =>
      have bare (worker : Worker)
          (one : worker = .leaving ∨ worker = .idle ∨ worker = .examining) :
          PublishScheduler.Good { scheduler with worker := worker } := by
        rcases one with rfl | rfl | rfl
        · exact good.goesOn (by rw [top]; rfl) (by rw [top]; rfl) (by rw [top]; rfl) trivial rfl
        · exact good.goesOn (by rw [top]; rfl) (by rw [top]; rfl) (by rw [top]; rfl) trivial rfl
        · exact good.goesOn (by rw [top]; rfl) (by rw [top]; rfl) (by rw [top]; rfl) trivial rfl
      refine bare _ ?_
      split
      · exact .inl rfl
      split
      · exact .inr (.inl rfl)
      · exact .inr (.inr rfl)
  | received idle first =>
      exact good.receive first (by rw [idle]; rfl) (by rw [idle]; rfl) (by rw [idle]; rfl) trivial
        rfl
  | noticed waits shutdown =>
      rcases waits with waits | waits
      · exact good.goesOn (by rw [waits]; rfl) (by rw [waits]; rfl) (by rw [waits]; rfl) trivial
          rfl
      · exact good.goesOn (by rw [waits]; rfl) (by rw [waits]; rfl) (by rw [waits]; rfl) trivial
          rfl
  | gathered waits first =>
      exact good.receive first (by rw [waits]; rfl) (by rw [waits]; rfl) (by rw [waits]; rfl)
        trivial rfl
  | elapsed waits =>
      exact good.goesOn (by rw [waits]; rfl) (by rw [waits]; rfl) (by rw [waits]; rfl) trivial rfl
  | examined now due => exact good.examine now due
  | retained due => exact good.retain _ (by rw [due]; rfl) (by rw [due]; rfl) (by rw [due]; rfl)
  | resumed due => exact good.retain _ (by rw [due]; rfl) (by rw [due]; rfl) (by rw [due]; rfl)
  | polled due =>
      exact good.submit (by rw [due]; rfl) (by rw [due]; rfl) (by rw [due]; rfl) rfl trivial rfl
  | @responded submitted result answers due =>
      have requests := completeResponse_requests setting.display submitted.selected result
      split
      · exact good.goesOn (by rw [due]; rfl) (by rw [due]; rfl) (by rw [due]; rfl) answers rfl
      · exact good.goesOn (by rw [due]; exact requests) (by rw [due]; rfl)
          (by rw [due]; exact requests) (completeResponse_commits _ _ answers) rfl
  | @confirmed submitted result due =>
      have requests := completeResponse_requests setting.display submitted.selected result
      have answers := good.certain
      rw [due] at answers
      exact good.goesOn (by rw [due]; exact requests) (by rw [due]; rfl)
        (by rw [due]; exact requests) (completeResponse_commits _ _ answers) rfl
  | @failed submitted error due =>
      have requests := completeAll_requests submitted.selected
        (mapWriteError setting.leaderHints error)
      exact good.goesOn (by rw [due]; exact requests) (by rw [due]; rfl)
        (by rw [due]; exact requests)
        (commits_errors fun _ => mapWriteError_isAdmission setting.leaderHints error) rfl
  | timedOut due => exact good.expire due
  | @interrupted submitted polled due shutdown =>
      have requests : (submitted.selected.map fun queued =>
          ((queued, .error (ambiguousPublish queued)) : QueuedPublish × PublishReply)).map
            Prod.fst = submitted.selected := by
        rw [List.map_map]
        exact List.map_id _
      refine good.goesOn (by rw [due]; exact requests) ?_ (by rw [due]; exact requests)
        (commits_errors fun _ => rfl) rfl
      rw [due]
      cases polled with
      | true => rfl
      | false => exact requests
  | polledLate due =>
      exact good.submit (by rw [due]; rfl) (by rw [due]; rfl) (by rw [due]; rfl) rfl trivial rfl
  | settled due finished => exact good.settle due
  | completed due => exact good.complete due
  | released due =>
      refine ⟨?_, ?_, good.tickets, trivial, fun impossible => nomatch impossible⟩
      · have sound := good.sound
        rw [PublishScheduler.ledger, due] at sound
        exact sound
      · refine AdmissionUsage.Counts.release (good.counted.perm ?_)
        rw [PublishScheduler.held, due]
        exact List.perm_middle
  | returned due =>
      rcases due with due | ⟨polled, due⟩
      · exact good.goesOn (by rw [due]; rfl) (by rw [due]; rfl) (by rw [due]; rfl) trivial rfl
      · refine good.goesOn (by rw [due]; rfl) ?_ (by rw [due]; rfl) trivial rfl
        rw [due]
        cases polled <;> rfl
  | left due =>
      have closed : PublishScheduler.Good { scheduler with worker := .draining } :=
        good.goesOn (by rw [due]; rfl) (by rw [due]; rfl) (by rw [due]; rfl) trivial rfl
      exact ⟨closed.sound, closed.counted.close, closed.tickets, trivial, closed.emptied⟩
  | @drainedPending queued rest due first =>
      have drained : PublishScheduler.Good { scheduler.finish queued (.error .clusterForming) with
          pending := rest, channel := scheduler.channel, worker := .draining } :=
        good.drain due (by rw [PublishScheduler.backlog, first]; rfl)
      rw [← due] at drained
      exact drained
  | @drainedChannel queued rest due nothing first =>
      have drained : PublishScheduler.Good { scheduler.finish queued (.error .clusterForming) with
          pending := scheduler.pending, channel := rest, worker := .draining } :=
        good.drain due (by rw [PublishScheduler.backlog, nothing, first]; rfl)
      rw [← due] at drained
      exact drained
  | emptied due nothing nothingQueued =>
      refine good.moved (by rw [due]; rfl) (by rw [due]; rfl) (by rw [due]; rfl) trivial ?_
      intro _
      rw [nothing, nothingQueued]
      rfl
  | stopped due =>
      have empty := good.emptied (by rw [due]; rfl)
      obtain ⟨nothing, nothingQueued⟩ := List.append_eq_nil_iff.mp empty
      have same : scheduler.pending ++ [] = scheduler.backlog := by
        rw [PublishScheduler.backlog, nothingQueued]
      refine good.moved ?_ ?_ ?_ trivial fun _ => same.trans empty
      · rw [same, due]
        rfl
      · rw [same, due]
        rfl
      · rw [same, due]
        rfl

namespace PublishScheduler

variable {setting : SchedulerSetting} {scheduler next : PublishScheduler}

inductive Ran (setting : SchedulerSetting)
    (Allowed : PublishScheduler → PublishScheduler → Prop) : PublishScheduler → Prop
  | spawned : Ran setting Allowed spawn
  | stepped {scheduler next : PublishScheduler} (ran : Ran setting Allowed scheduler)
      (step : SchedulerStep setting scheduler next) (allowed : Allowed scheduler next) :
      Ran setting Allowed next

/-- No request is sent between the last `try_recv` of the worker and the end of its receiver. -/
def Timely (scheduler next : PublishScheduler) : Prop :=
  scheduler.worker = .drained → next.admitted = scheduler.admitted

theorem Ran.good (ran : Ran setting Timely scheduler) : scheduler.Good := by
  induction ran with
  | spawned => exact .spawn
  | stepped _ step timely ih => exact step.good timely ih

structure Accounted (scheduler : PublishScheduler) : Prop where
  distinct : scheduler.admitted.Nodup
  /-- No request is answered twice. -/
  once : (scheduler.replies.map Prod.fst).Nodup
  served : ∀ queued ∈ scheduler.admitted, queued ∈ scheduler.replies.map Prod.fst ∨
    queued ∈ scheduler.worker.unanswered ++ scheduler.backlog ∨ queued ∈ scheduler.cancelled
  stopped : scheduler.worker = .stopped → ∀ queued ∈ scheduler.admitted,
    queued ∈ scheduler.replies.map Prod.fst ∨ queued ∈ scheduler.cancelled
  /-- Who is told that the request was not submitted was told the truth. -/
  certain : ∀ queued error, error.isAdmission = true →
    (queued, .error error) ∈ scheduler.replies → queued ∉ scheduler.submittedRequests
  refused : ∀ entry ∈ scheduler.refused, entry.1 ∉ scheduler.submittedRequests
  /-- Batches keep the order of admission, and lose only who was answered or cancelled. -/
  ordered : (scheduler.submittedRequests ++
    (scheduler.worker.unsubmitted ++ scheduler.backlog)).Sublist scheduler.admitted
  kept : ∀ queued ∈ scheduler.admitted, queued ∈ scheduler.submittedRequests ++
      (scheduler.worker.unsubmitted ++ scheduler.backlog) ∨
    queued ∈ scheduler.replies.map Prod.fst ∨ queued ∈ scheduler.cancelled
  batches : scheduler.submitted.flatMap (fun submitted => submitted.batch.requests) =
    scheduler.submittedRequests.map QueuedPublish.batch
  counted : scheduler.usage.Counts scheduler.held
  idle : scheduler.worker = .stopped → scheduler.entering = [] →
    scheduler.usage.requests = 0 ∧ scheduler.usage.records = 0 ∧
      scheduler.usage.residentBytes = 0

theorem submitted_batches (scheduler : PublishScheduler) :
    scheduler.submitted.flatMap (fun submitted => submitted.batch.requests) =
      scheduler.submittedRequests.map QueuedPublish.batch := by
  rw [submittedRequests, List.map_flatMap]
  exact congrArg (List.flatMap · scheduler.submitted) (funext SubmittedBatch.built)

/-- In every run in which no request slips in behind the last `try_recv`, each request is
accounted for. -/
theorem scheduling_accounted (ran : Ran setting Timely scheduler) : scheduler.Accounted := by
  have good := ran.good
  have admitted := List.nodup_append.mp good.sound.distinct
  refine ⟨admitted.2.1, good.sound.answered_nodup, good.sound.served, ?_, ?_, ?_,
    good.sound.ordered, good.sound.accounted, scheduler.submitted_batches, good.counted, ?_⟩
  · intro stopped queued member
    have empty := good.emptied (by rw [stopped]; rfl)
    rcases good.sound.served queued member with answered | waiting | gone
    · exact .inl answered
    · rw [ledger, stopped, empty] at waiting
      simp [Worker.unanswered] at waiting
    · exact .inr gone
  · intro queued error refuses replied submitted
    exact good.sound.honest _ replied ⟨error, rfl, refuses⟩ (List.mem_append_left _ submitted)
  · intro entry refused submitted
    have known := good.sound.ordered.subset (List.mem_append_left _ submitted)
    exact admitted.2.2 entry.1
      (List.mem_append_right _ (List.mem_map_of_mem refused)) entry.1 known rfl
  · intro stopped nobody
    have empty := good.emptied (by rw [stopped]; rfl)
    have counted := good.counted
    rw [held, nobody, stopped, empty] at counted
    exact ⟨counted.requests, counted.records, counted.residentBytes⟩

def sampleSetting : SchedulerSetting := ⟨.standard, false, false, fun _ => none, fun _ => ""⟩

def sampleBatch : PublishBatch :=
  ⟨⟨1⟩, ⟨⟨1⟩, 0⟩, ⟨⟨"producer"⟩, ⟨1⟩, 1⟩, [[7]], none, sampleRecords_valid⟩

theorem Ran.shuttingDown (Allowed : PublishScheduler → PublishScheduler → Prop)
    (allows : ∀ scheduler next, scheduler.worker = .top → Allowed scheduler next) :
    ∃ scheduler, Ran sampleSetting Allowed scheduler ∧
      scheduler = { spawn with
        usage := ⟨false, 1, 1, 313, 0⟩
        shutdown := true
        calls := 1
        entering := [spawn.call sampleBatch 0]
        worker := .leaving } := by
  have reserved : Ran sampleSetting Allowed _ :=
    .stepped .spawned (.reserved sampleBatch 0 rfl) (allows _ _ rfl)
  have closed := reserved.stepped .closed (allows _ _ rfl)
  have signalled := closed.stepped (.signalled rfl) (allows _ _ rfl)
  have looped := signalled.stepped (.looped rfl) (allows _ _ rfl)
  exact ⟨_, looped, rfl⟩

/-- The caller sends before the worker has emptied the channel and is told that it came late. -/
theorem scheduling_accounted_sample : ∃ scheduler : PublishScheduler,
    scheduler.worker = .stopped ∧ scheduler.admitted ≠ [] ∧
      scheduler.replies.map Prod.snd = [.error .clusterForming] ∧ scheduler.Accounted := by
  obtain ⟨scheduler, ran, rfl⟩ := Ran.shuttingDown Timely fun scheduler next top impossible =>
    nomatch top.symm.trans impossible
  have sent := ran.stepped (.sent (spawn.call sampleBatch 0) List.mem_cons_self (by decide)
    (by decide)) fun impossible => nomatch impossible
  have left := sent.stepped (.left rfl) fun impossible => nomatch impossible
  have drained := left.stepped (.drainedChannel rfl rfl rfl) fun impossible => nomatch impossible
  have emptied := drained.stepped (.emptied rfl rfl rfl) fun impossible => nomatch impossible
  have stopped := emptied.stepped (.stopped rfl) fun _ => rfl
  exact ⟨_, rfl, by decide, rfl, scheduling_accounted stopped⟩

/-- A request that is sent behind the last `try_recv` is admitted and never answered, and the
admission counts it for good. -/
theorem late_request_is_lost : ∃ scheduler : PublishScheduler, ∃ queued ∈ scheduler.admitted,
    Ran sampleSetting (fun _ _ => True) scheduler ∧ scheduler.worker = .stopped ∧
      scheduler.replies = [] ∧ scheduler.cancelled = [] ∧ scheduler.entering = [] ∧
      scheduler.wait queued = some
        (.error (.storage "publish scheduler stopped before completing the request")) ∧
      scheduler.usage.requests = 1 := by
  obtain ⟨scheduler, ran, rfl⟩ := Ran.shuttingDown (fun _ _ => True) fun _ _ _ => trivial
  have left := ran.stepped (.left rfl) trivial
  have emptied := left.stepped (.emptied rfl rfl rfl) trivial
  have sent := emptied.stepped (.sent (spawn.call sampleBatch 0) List.mem_cons_self (by decide)
    (by decide)) trivial
  have stopped := sent.stepped (.stopped rfl) trivial
  exact ⟨_, _, List.mem_cons_self, stopped, rfl, rfl, rfl, rfl, rfl, rfl⟩

end PublishScheduler

end LightStream
