import LightStream.Proofs.Exclusion

/-!
An export request runs at most once: after its export finished, no begin of the request starts
another export, however many receipts were evicted since.
-/

namespace LightStream

namespace GroupView

variable {view other : GroupView} {logId : GroupLogId} {result : ApplyResult} {write : WriteBatch}
  {request : MutationRequestId} {receipt : ExportReceipt}

theorem exportRequestExpired_iff : view.exportRequestExpired request = true ↔
    ∃ highest, view.get (exportSessionKey request) = some ⟨some highest⟩ ∧
      request.sequence ≤ highest := by
  unfold exportRequestExpired
  cases stored : view.get (exportSessionKey request) with
  | none => simp
  | some session =>
      obtain ⟨_ | highest⟩ := session
      · simp
      · simp

structure Finished (view : GroupView) (request : MutationRequestId) (receipt : ExportReceipt) :
    Prop where
  retained : ∀ stored, view.get (.exportReceipt request) = some stored → stored = receipt
  expired : view.exportRequestExpired request = true
  idle : ∀ active, view.get .activeExport = some active → active.spec.intent.request ≠ request

theorem Finished.congr (finished : view.Finished request receipt)
    (same : ∀ key : StateKey, key.family = .exportState → other.get key = view.get key) :
    other.Finished request receipt := by
  obtain ⟨retained, expired, idle⟩ := finished
  constructor
  · rwa [same _ rfl]
  · rw [exportRequestExpired_iff] at expired ⊢
    rwa [same _ rfl]
  · rwa [same _ rfl]

section Finish

variable {fence : MutationFenceState}

theorem finish_session : (view.after (view.finishedWrites receipt fence)).get
    (exportSessionKey receipt.request) = some (view.advanceExportSession receipt.request) := by
  rw [finish_get (by simp)]
  simp [after, Kv.pending, Kv.Op.effect]

theorem finish_session_other (different : exportSessionKey receipt.request ≠
    exportSessionKey request) :
    (view.after (view.finishedWrites receipt fence)).get (exportSessionKey request) =
      view.get (exportSessionKey request) := by
  rw [finish_get (by simp)]
  simp [after, Kv.pending, Kv.Op.effect, different]

theorem finish_expires :
    (view.after (view.finishedWrites receipt fence)).exportRequestExpired receipt.request =
      true := by
  rw [exportRequestExpired_iff, finish_session]
  unfold advanceExportSession
  split
  · rename_i highest _
    exact ⟨_, rfl, le_max_right highest _⟩
  · exact ⟨_, rfl, le_rfl⟩

theorem finish_expired (expired : view.exportRequestExpired request = true) :
    (view.after (view.finishedWrites receipt fence)).exportRequestExpired request = true := by
  rw [exportRequestExpired_iff] at expired ⊢
  obtain ⟨highest, stored, bound⟩ := expired
  by_cases same : exportSessionKey receipt.request = exportSessionKey request
  · obtain ⟨principal, session⟩ : receipt.request.principal = request.principal ∧
        receipt.request.session = request.session := by simpa using same
    have before : view.get (exportSessionKey receipt.request) = some ⟨some highest⟩ := by
      show view.get (.exportSession receipt.request.principal receipt.request.session) = _
      rw [principal, session]
      exact stored
    have advanced : view.advanceExportSession receipt.request =
        ⟨some (max highest receipt.request.sequence)⟩ := by
      unfold advanceExportSession
      rw [before]
    have passed := @finish_session view receipt fence
    rw [advanced] at passed
    change (view.after _).get (.exportSession receipt.request.principal receipt.request.session) =
      _ at passed
    rw [principal, session] at passed
    exact ⟨_, passed, le_max_of_le_left bound⟩
  · exact ⟨highest, by rw [finish_session_other same, stored], bound⟩

theorem finish_receipt : (view.after (view.finishedWrites receipt fence)).get
    (.exportReceipt receipt.request) = some receipt := by
  rw [finish_get (by simp)]
  simp [after, Kv.pending, Kv.Op.effect]

theorem finish_receipt_other {stored : ExportReceipt} (different : receipt.request ≠ request)
    (found : (view.after (view.finishedWrites receipt fence)).get (.exportReceipt request) =
      some stored) : view.get (.exportReceipt request) = some stored := by
  have deletes (op : Kv.Op StateKey StateVal) (member : op ∈ view.evictExportReceipts receipt.request) :
      ∀ value, op.effect (.exportReceipt request) ≠ some (some value) := by
    intro value effect
    obtain ⟨entry, _, rfl⟩ := List.mem_map.mp member
    simp [Kv.Op.effect] at effect
  rw [finishedWrites, after_append] at found
  change (Option.getD (Kv.Batch.effect _ _) _) = _ at found
  cases evicted : Kv.Batch.effect (view.evictExportReceipts receipt.request)
      (.exportReceipt request) with
  | none =>
      rw [evicted] at found
      simpa [after, Kv.pending, Kv.Op.effect, different] using found
  | some written =>
      rw [evicted] at found
      obtain ⟨op, member, effect⟩ := Kv.Batch.mem_of_effect evicted
      rw [show written = some stored from found] at effect
      exact absurd effect (deletes op member stored)

end Finish

theorem ExportCase.keepsFinished {command : ExportCommand} (finished : view.Finished request receipt)
    (case : view.ExportCase logId command result write) :
    (view.after write.state).Finished request receipt := by
  obtain ⟨retained, expired, idle⟩ := finished
  cases case with
  | answered => exact ⟨retained, expired, idle⟩
  | began intent deadline result write case =>
      cases case with
      | answered =>
          exact ⟨retained, expired, idle⟩
      | started fresh absent unadministered spec made next cut fence observation acquired =>
          dsimp only
          constructor
          · rwa [start_other (by simp) (by simp) (by simp)]
          · rw [exportRequestExpired_iff] at expired ⊢
            rwa [start_other (by simp) (by simp) (by simp)]
          · intro active found own
            rw [start_activeExport] at found
            cases found
            have again : intent.request = request := by rw [← own, ← made]; rfl
            rw [again, expired] at fresh
            simp at fresh
  | moved command active next later found same =>
      dsimp only
      constructor
      · simpa [after, Kv.pending, Kv.Op.effect] using retained
      · rw [exportRequestExpired_iff] at expired ⊢
        simpa [after, Kv.pending, Kv.Op.effect] using expired
      · intro stored present
        have stored : next = stored := by simpa [after, Kv.pending, Kv.Op.effect] using present
        rw [← stored, same]
        exact idle active found
  | finished active made fence observation found receipted released =>
      obtain ⟨own, _⟩ := ActiveExport.receipt_ok receipted
      have different : made.request ≠ request := by
        rw [own]
        exact idle active found
      constructor
      · intro stored present
        exact retained stored (finish_receipt_other different present)
      · exact finish_expired expired
      · rw [finish_activeExport]
        simp

end GroupView

def Step.finished (step : Step) : Option ActiveExport :=
  if step.after.get .activeExport = none then step.before.get .activeExport else none

/-- How a begin of a request is answered after a step finished its export. -/
inductive BegunAgain (finish : Step) (db : GroupDb) (intent : ExportIntent)
    (deadline : ExportDeadline) : ApplyResult → Prop
  | terminal (receipt : ExportReceipt)
      (finished : finish.result = GroupView.exportStatus (.terminal receipt))
      (same : receipt.requestDigest = intent.requestDigest ∧
        (receipt.deadline = none ∨ receipt.deadline = some deadline)) :
      BegunAgain finish db intent deadline (GroupView.exportStatus (.terminal receipt))
  | conflict : BegunAgain finish db intent deadline (.rejected .exportConflict)
  | busy (active : ActiveExport) (found : db.get .activeExport = some active)
      (other : active.spec.intent.request ≠ intent.request) :
      BegunAgain finish db intent deadline (.rejected (.resourceLimit "active_exports" 1))
  | expired : BegunAgain finish db intent deadline (.rejected .mutationReceiptExpired)

/-- A begin of a request whose export a step of the trace finished only moves the applied position.
It is answered as a retry, or refused because it names another cluster. -/
def GroupDb.RunsOnce (db : GroupDb) (steps : List Step) : Prop :=
  ∀ finish ∈ steps, ∀ active, finish.finished = some active →
    ∀ logId intent deadline, intent.request = active.spec.intent.request →
      ∃ result,
        db.applyEntry ⟨logId, .normal (.exportProtocol (.begin intent deadline))⟩ =
          .ok (result, db.commit ⟨[.put .applied logId], []⟩) ∧
        (intent.cluster = db.identity.clusterId → BegunAgain finish db intent deadline result) ∧
        (intent.cluster ≠ db.identity.clusterId → result =
          .rejected (.identityMismatch "export cluster does not match the control group"))

namespace GroupDb

variable {identity : GroupIdentity} {window : Nat} {content : PayloadId → Record}
  {Allowed : GroupDb → GroupEntry → Prop} {steps : List Step} {db next : GroupDb}
  {entry : GroupEntry} {result : ApplyResult}

theorem applyEntry_keepsFinished {request : MutationRequestId} {receipt : ExportReceipt}
    (control : db.identity.kind = .control) (finished : db.view.Finished request receipt)
    (done : db.applyEntry entry = .ok (result, next)) : next.view.Finished request receipt := by
  rcases applyEntry_export control done with ⟨command, write, _, case, reads⟩ | ⟨_, same⟩
  · exact (case.keepsFinished finished).congr reads
  · exact finished.congr same

theorem applyEntry_finishes {active : ActiveExport} (control : db.identity.kind = .control)
    (done : db.applyEntry entry = .ok (result, next))
    (ended : Step.finished ⟨db, entry, result, next⟩ = some active) :
    ∃ receipt, result = GroupView.exportStatus (.terminal receipt) ∧
      next.view.Finished active.spec.intent.request receipt := by
  have gone : next.get .activeExport = none ∧ db.get .activeExport = some active := by
    unfold Step.finished at ended
    dsimp only at ended
    split at ended
    · rename_i absent
      exact ⟨absent, ended⟩
    · simp at ended
  obtain ⟨absent, present⟩ := gone
  have ends {write : WriteBatch} (reads : ∀ key : StateKey, key.family = .exportState →
      next.get key = (db.view.after write.state).get key) (value : ActiveExport) :
      (db.view.after write.state).get .activeExport ≠ some value := by
    rw [← reads .activeExport rfl, absent]
    simp
  rcases applyEntry_export control done with ⟨command, write, normal, case, reads⟩ | ⟨_, same⟩
  · cases case with
    | answered => exact absurd present (ends reads active)
    | began intent deadline result write case =>
        cases case with
        | answered =>
            exact absurd present (ends reads active)
        | started fresh idle unadministered spec made next cut fence observation acquired =>
            exact absurd GroupView.start_activeExport (ends reads _)
    | moved command moving moved later found same =>
        refine absurd ?_ (ends reads moved)
        simp [GroupView.after, Kv.pending, Kv.Op.effect]
    | finished ending receipt fence observation found made released =>
        obtain rfl : ending = active := Option.some.inj (found.symm.trans present)
        obtain ⟨own, _⟩ := ActiveExport.receipt_ok made
        refine ⟨receipt, rfl, GroupView.Finished.congr ?_ reads⟩
        rw [← own]
        constructor
        · intro stored kept
          rw [GroupView.finish_receipt] at kept
          exact (Option.some.inj kept).symm
        · exact GroupView.finish_expires
        · rw [GroupView.finish_activeExport]
          simp
  · rw [same .activeExport rfl, present] at absent
    simp at absent

theorem Traced.finished (control : identity.kind = .control)
    (traced : Traced identity window content Allowed steps db) :
    ∀ step ∈ steps, ∀ active, step.finished = some active →
      ∃ receipt, step.result = GroupView.exportStatus (.terminal receipt) ∧
        db.view.Finished active.spec.intent.request receipt := by
  have reached : ∀ view : GroupView, view.get = db.get → ∀ step ∈ steps, ∀ active,
      step.finished = some active → ∃ receipt,
        step.result = GroupView.exportStatus (.terminal receipt) ∧
          view.Finished active.spec.intent.request receipt := by
    refine @Traced.invariant identity window content Allowed steps db
      (fun steps get => ∀ view : GroupView, view.get = get → ∀ step ∈ steps, ∀ active,
        step.finished = some active → ∃ receipt,
          step.result = GroupView.exportStatus (.terminal receipt) ∧
            view.Finished active.spec.intent.request receipt) (by simp) ?_ traced
    intro steps db next entry result traced held due allowed done view same step member active ended
    have kind : db.identity.kind = .control := by rw [traced.ran.settings.1, control]
    have reads (key : StateKey) (_ : key.family = .exportState) :
        view.get key = next.view.get key := by rw [same, view_get]
    rcases List.mem_append.mp member with earlier | last
    · obtain ⟨receipt, answered, finished⟩ := held db.view rfl step earlier active ended
      exact ⟨receipt, answered, (applyEntry_keepsFinished kind finished done).congr reads⟩
    · obtain rfl := List.mem_singleton.mp last
      obtain ⟨receipt, answered, finished⟩ := applyEntry_finishes kind done ended
      exact ⟨receipt, answered, finished.congr reads⟩
  exact reached db.view rfl

theorem applyBeginExport_again {finish : Step} {receipt : ExportReceipt} {intent : ExportIntent}
    {deadline : ExportDeadline} {logId : GroupLogId} (control : db.identity.kind = .control)
    (answered : finish.result = GroupView.exportStatus (.terminal receipt))
    (finished : db.view.Finished intent.request receipt) :
    ∃ result, db.view.applyBeginExport logId intent deadline = .ok (result, ⟨[], []⟩) ∧
      (intent.cluster = db.identity.clusterId → BegunAgain finish db intent deadline result) ∧
      (intent.cluster ≠ db.identity.clusterId → result =
        .rejected (.identityMismatch "export cluster does not match the control group")) := by
  have kind : ¬db.identity.kind ≠ .control := not_not.mpr control
  unfold GroupView.applyBeginExport
  rw [view_identity, if_neg kind]
  by_cases home : intent.cluster = db.identity.clusterId
  · have settled {result : ApplyResult} (again : BegunAgain finish db intent deadline result) :
        ∃ answer, (.ok (result, ⟨[], []⟩) : Applied) = .ok (answer, ⟨[], []⟩) ∧
          (intent.cluster = db.identity.clusterId → BegunAgain finish db intent deadline answer) ∧
          (intent.cluster ≠ db.identity.clusterId → answer =
            .rejected (.identityMismatch "export cluster does not match the control group")) :=
      ⟨result, rfl, fun _ => again, fun away => absurd home away⟩
    rw [if_neg (not_not.mpr home)]
    cases found : db.view.get (.exportReceipt intent.request) with
    | some stored =>
        obtain rfl := finished.retained stored found
        dsimp only
        split
        · rename_i same
          exact settled (.terminal stored answered same)
        · exact settled .conflict
    | none =>
        cases running : db.view.get .activeExport with
        | some active =>
            have other := finished.idle active running
            dsimp only
            rw [if_neg other]
            exact settled (.busy active running other)
        | none =>
            dsimp only
            rw [if_pos finished.expired]
            exact settled .expired
  · rw [if_pos home]
    exact ⟨_, rfl, fun same => absurd same home, fun _ => rfl⟩

/-- Once the export of a request finished, no begin of the request starts an export again. -/
theorem export_request_runs_once (control : identity.kind = .control)
    (traced : Traced identity window content Allowed steps db) : db.RunsOnce steps := by
  intro finish member active ended logId intent deadline same
  have kind : db.identity.kind = .control := by rw [traced.ran.settings.1, control]
  obtain ⟨receipt, answered, finished⟩ := traced.finished control finish member active ended
  rw [← same] at finished
  obtain ⟨result, handled, again⟩ :=
    @applyBeginExport_again db finish receipt intent deadline logId kind answered finished
  have command : db.view.applyCommand logId (.exportProtocol (.begin intent deadline)) =
      .ok (result, ⟨[], []⟩) := handled
  exact ⟨result, applyEntry_normal command, again⟩

theorem export_request_runs_once_sample : ∃ (steps : List Step) (db : GroupDb),
    (steps.any fun finish => finish.finished.isSome) = true ∧ db.RunsOnce steps := by
  have ended : yields (freshControl.submitSteps (exportEntries abortedExport))
      (fun done => done.1.any fun finish => finish.finished.isSome) = true := by decide
  obtain ⟨done, submitted, ended⟩ := yields_iff.mp ended
  have traced : Traced freshControl.identity 2 (fun _ => []) (fun _ _ => True)
      ([] ++ done.1) done.2 :=
    Traced.submitSteps .created (create_usedBelow _ _) (by decide) (by decide)
      (fun _ _ => trivial) submitted
  exact ⟨done.1, done.2, ended, export_request_runs_once rfl traced⟩

def foreignIntent : ExportIntent := { sampleIntent 1 with cluster := ⟨2⟩ }

/-- After its export finished, a begin of the request that names another cluster gets an answer
that is none of a retry. -/
theorem foreign_begin_not_retried : ∃ (steps : List Step) (db : GroupDb),
    Traced freshControl.identity 2 (fun _ => []) (fun _ _ => True) steps db ∧
    ¬∀ finish ∈ steps, ∀ active, finish.finished = some active →
      ∀ logId intent deadline, intent.request = active.spec.intent.request →
        ∃ result next,
          db.applyEntry ⟨logId, .normal (.exportProtocol (.begin intent deadline))⟩ =
            .ok (result, next) ∧
          BegunAgain finish db intent deadline result := by
  have refused : yields (freshControl.submitSteps (exportEntries abortedExport))
      (fun done =>
        (done.1.any fun finish => finish.finished.any fun active =>
          decide (foreignIntent.request = active.spec.intent.request)) &&
        decide ((done.2.applyEntry ⟨⟨1, 1, 6⟩, .normal (.exportProtocol
            (.begin foreignIntent sampleDeadline))⟩).map Prod.fst = .ok (.rejected
          (.identityMismatch "export cluster does not match the control group")))) = true := by
    decide
  obtain ⟨done, submitted, refused⟩ := yields_iff.mp refused
  have traced : Traced freshControl.identity 2 (fun _ => []) (fun _ _ => True)
      ([] ++ done.1) done.2 :=
    Traced.submitSteps .created (create_usedBelow _ _) (by decide) (by decide)
      (fun _ _ => trivial) submitted
  refine ⟨done.1, done.2, traced, fun claimed => ?_⟩
  simp only [Bool.and_eq_true, List.any_eq_true,
    Option.any_eq_true, decide_eq_true_eq] at refused
  obtain ⟨⟨finish, member, active, finished, same⟩, answer⟩ := refused
  obtain ⟨result, next, applied, again⟩ :=
    claimed finish member active finished ⟨1, 1, 6⟩ foreignIntent sampleDeadline same
  rw [applied] at answer
  simp only [Except.map, Except.ok.injEq] at answer
  cases again <;> simp [GroupView.exportStatus] at answer

end GroupDb

end LightStream
