import LightStream.Server.ExportProposals

/-!
Runs of the export proposals.  A call that was started and has not been answered owns the slot, as
long as no poll of the reconciler takes its finished proposal before it waits; `Orderly` is that
condition.
-/

namespace LightStream.ExportProposals

/-- No poll takes a finished proposal from a call that has not begun to wait. -/
def Orderly (state : ExportProposals) : ProposalAction → Prop
  | .poll => ∀ proposal, state.proposal = some proposal →
      (∃ ended, state.task proposal.owner = .ended ended) →
        ∀ call, state.calls[proposal.owner]? = some call → call.stage ≠ .started
  | _ => True

structure Fits (proposal : Option OwnedProposal) (holder : Option Nat) (caller : Nat)
    (call : ExportCall) : Prop where
  mine : call.stage = .started ∨ call.stage = .waiting →
    proposal = some ⟨call.write.request, caller⟩
  running : call.task = .running → proposal = some ⟨call.write.request, caller⟩
  unsubmitted : (call.stage = .calling ∨ call.stage = .refused ∨
    ∃ retained, call.stage = .busy retained) → call.task = .unspawned
  locked : call.stage = .waiting ↔ holder = some caller
  answered : ∀ polled, call.stage = .answered polled →
    polled = .ok (.pending call.write.request) ∨
      ∃ ended, call.task = .ended ended ∧ polled = ended.join.map .resolved

structure Owned (state : ExportProposals) : Prop where
  slot : ∀ proposal, state.proposal = some proposal → ∃ call,
    state.calls[proposal.owner]? = some call ∧ call.task ≠ .unspawned ∧
      proposal.request = call.write.request
  held : ∀ caller, state.holder = some caller → caller < state.calls.length
  fits : ∀ (caller : Nat) (call : ExportCall), state.calls[caller]? = some call →
    Fits state.proposal state.holder caller call

theorem task_of_call {state : ExportProposals} {caller : Nat} {call : ExportCall}
    (found : state.calls[caller]? = some call) : state.task caller = call.task := by
  rw [task, found]
  rfl

theorem Owned.change {state : ExportProposals} {caller : Nat} {before after : ExportCall}
    {proposal : Option OwnedProposal} {holder : Option Nat} (owned : state.Owned)
    (found : state.calls[caller]? = some before)
    (slot : ∀ owned, proposal = some owned →
      (owned.owner = caller ∧ after.task ≠ .unspawned ∧ owned.request = after.write.request) ∨
        owned.owner ≠ caller ∧ state.proposal = some owned)
    (held : holder = some caller ∨ holder = none ∨ holder = state.holder)
    (fits : Fits proposal holder caller after)
    (others : ∀ other call, other ≠ caller → Fits state.proposal state.holder other call →
      Fits proposal holder other call) :
    ({ state.setCall caller after with proposal, holder } : ExportProposals).Owned := by
  have bound : caller < state.calls.length := (List.getElem?_eq_some_iff.mp found).1
  refine ⟨?_, ?_, ?_⟩
  · intro kept same
    obtain ⟨mine, spawned, request⟩ | ⟨other, stored⟩ := slot kept same
    · refine ⟨after, ?_, spawned, request⟩
      rw [mine]
      exact List.getElem?_set_self bound
    · obtain ⟨call, present, spawned, request⟩ := owned.slot kept stored
      refine ⟨call, ?_, spawned, request⟩
      simp only [setCall]
      rw [List.getElem?_set_ne (Ne.symm other)]
      exact present
  · intro other same
    simp only [setCall, List.length_set]
    obtain taken | free | kept := held
    · rw [taken] at same
      cases same
      exact bound
    · rw [free] at same
      simp at same
    · exact owned.held other (kept.symm.trans same)
  · intro other call present
    simp only [setCall] at present
    by_cases same : other = caller
    · subst same
      rw [List.getElem?_set_self bound] at present
      cases present
      exact fits
    · rw [List.getElem?_set_ne (Ne.symm same)] at present
      exact others other call same (owned.fits other call present)

theorem Fits.rehold {proposal : Option OwnedProposal} {holder next : Option Nat} {caller : Nat}
    {call : ExportCall} (fits : Fits proposal holder caller call)
    (same : holder = some caller ↔ next = some caller) : Fits proposal next caller call :=
  ⟨fits.mine, fits.running, fits.unsubmitted, fits.locked.trans same, fits.answered⟩

theorem Fits.reslot {proposal next : Option OwnedProposal} {holder : Option Nat} {caller : Nat}
    {call : ExportCall} (fits : Fits proposal holder caller call)
    (apart : ∀ request, proposal ≠ some ⟨request, caller⟩) : Fits next holder caller call :=
  ⟨fun busy => absurd (fits.mine busy) (apart _), fun busy => absurd (fits.running busy) (apart _),
    fits.unsubmitted, fits.locked, fits.answered⟩

theorem Owned.restage {state : ExportProposals} {caller : Nat} {call : ExportCall}
    {stage : ExportCallStage} {holder : Option Nat} (owned : state.Owned)
    (found : state.calls[caller]? = some call)
    (held : holder = some caller ∨ holder = none ∨ holder = state.holder)
    (fits : Fits state.proposal holder caller { call with stage })
    (others : ∀ other, other ≠ caller → (state.holder = some other ↔ holder = some other)) :
    ({ state.setCall caller { call with stage } with holder } : ExportProposals).Owned := by
  refine owned.change found ?_ held fits fun other _ different kept =>
    kept.rehold (others other different)
  intro proposal same
  obtain ⟨owner, present, spawned, request⟩ := owned.slot proposal same
  by_cases own : proposal.owner = caller
  · rw [own, found] at present
    cases present
    exact .inl ⟨own, spawned, request⟩
  · exact .inr ⟨own, same⟩

theorem Owned.start {state : ExportProposals} {caller : Nat} {write : ExportWrite}
    {task : ProposalTask} (owned : state.Owned)
    (found : state.calls[caller]? = some ⟨write, .calling, task⟩) (free : state.holder = none) :
    (state.start caller ⟨write, .calling, task⟩).Owned := by
  have fits := owned.fits caller _ found
  have unspawned : task = .unspawned := fits.unsubmitted (.inl rfl)
  have unlocked : ¬state.holder = some caller := by simp [free]
  rw [ExportProposals.start, startProposal]
  by_cases stopping : state.stopping = true
  · rw [if_pos stopping]
    exact owned.restage found (.inr (.inr rfl))
      ⟨by simp, by simp [unspawned], by simp [unspawned], by simp [unlocked], by simp⟩
      fun _ _ => Iff.rfl
  rw [if_neg stopping]
  cases taken : state.proposal with
  | some proposal =>
      exact owned.restage found (.inr (.inr rfl))
        ⟨by simp, by simp [unspawned], by simp [unspawned], by simp [unlocked], by simp⟩
        fun _ _ => Iff.rfl
  | none =>
      refine owned.change found ?_ (.inr (.inr rfl)) ?_ ?_
      · rintro proposal same
        cases same
        exact .inl ⟨rfl, by simp, rfl⟩
      · exact ⟨fun _ => rfl, fun _ => rfl, by simp, by simp [setCall, free], by simp⟩
      · intro other call _ kept
        exact kept.reslot fun request => by simp [taken]

theorem Owned.beginWait {state : ExportProposals} {caller : Nat} {write : ExportWrite}
    {task : ProposalTask} (owned : state.Owned)
    (found : state.calls[caller]? = some ⟨write, .started, task⟩) (free : state.holder = none) :
    (state.beginWait caller ⟨write, .started, task⟩).Owned := by
  have fits := owned.fits caller _ found
  have mine := fits.mine (.inl rfl)
  rw [ExportProposals.beginWait, mine]
  refine owned.restage found (.inl rfl)
    ⟨fun _ => mine, fits.running, by simp, by simp, by simp⟩ ?_
  intro other different
  simp [free, Ne.symm different]

theorem Owned.endWait {state : ExportProposals} {caller : Nat} {write : ExportWrite}
    {task : ProposalTask} {stage : ExportCallStage} {proposal : Option OwnedProposal}
    (owned : state.Owned) (found : state.calls[caller]? = some ⟨write, .waiting, task⟩)
    (left : proposal = state.proposal ∨ proposal = none ∧ ∃ ended, task = .ended ended)
    (finished : stage = .dropped ∨ ∃ polled, stage = .answered polled ∧
      (polled = .ok (.pending write.request) ∨
        ∃ ended, task = .ended ended ∧ polled = ended.join.map .resolved)) :
    (state.endWait caller ⟨write, .waiting, task⟩ stage proposal).Owned := by
  have fits := owned.fits caller _ found
  have mine := fits.mine (.inr rfl)
  have holder := fits.locked.mp rfl
  have idle : ¬(stage = .started ∨ stage = .waiting) ∧
      ¬(stage = .calling ∨ stage = .refused ∨ ∃ retained, stage = .busy retained) ∧
      stage ≠ .waiting := by
    obtain rfl | ⟨polled, rfl, _⟩ := finished <;> simp
  have answers : ∀ polled, stage = .answered polled →
      polled = .ok (.pending write.request) ∨
        ∃ ended, task = .ended ended ∧ polled = ended.join.map .resolved := by
    intro polled same
    obtain rfl | ⟨other, rfl, answered⟩ := finished
    · simp at same
    · cases same
      exact answered
  refine owned.change found ?_ (.inr (.inl rfl)) ?_ ?_
  · intro kept same
    obtain rfl | ⟨rfl, _⟩ := left
    · rw [mine] at same
      cases same
      obtain ⟨owner, present, spawned, _⟩ := owned.slot _ mine
      rw [found] at present
      cases present
      exact .inl ⟨rfl, spawned, rfl⟩
    · simp at same
  · refine ⟨fun busy => absurd busy idle.1, ?_, fun busy => absurd busy idle.2.1, ?_, answers⟩
    · intro runs
      obtain rfl | ⟨_, ended, done⟩ := left
      · exact mine
      · rw [done] at runs
        simp at runs
    · simp [idle.2.2]
  · intro other call different kept
    have apart : ∀ request, state.proposal ≠ some ⟨request, other⟩ := by
      intro request same
      rw [mine] at same
      cases same
      exact different rfl
    refine (kept.reslot apart).rehold ?_
    simp [holder, Ne.symm different]

theorem Owned.waiting {state : ExportProposals} {caller : Nat} {call : ExportCall}
    (owned : state.Owned) (found : state.calls[caller]? = some call)
    (waits : call.stage = .waiting) {proposal : OwnedProposal}
    (stored : state.proposal = some proposal) :
    proposal = ⟨call.write.request, caller⟩ ∧ state.task proposal.owner = call.task := by
  have mine := (owned.fits caller call found).mine (.inr waits)
  rw [stored] at mine
  cases mine
  exact ⟨rfl, task_of_call found⟩

theorem Owned.drop {before after : ExportProposals} {caller : Nat} (owned : before.Owned)
    (stepped : before.step (.drop caller) = some after) : after.Owned := by
  simp only [step] at stepped
  split at stepped
  · rename_i write task found
    cases stepped
    have fits := owned.fits caller _ found
    exact owned.restage found (.inr (.inr rfl))
      ⟨by simp, fits.running, by simp, by simpa using fits.locked, by simp⟩ fun _ _ => Iff.rfl
  · rename_i write task found
    cases stepped
    have fits := owned.fits caller _ found
    exact owned.restage found (.inr (.inr rfl))
      ⟨by simp, fits.running, by simp, by simpa using fits.locked, by simp⟩ fun _ _ => Iff.rfl
  · rename_i write task found
    cases stepped
    exact owned.endWait found (.inl rfl) (.inl rfl)
  · simp at stepped

theorem Owned.complete {before after : ExportProposals} {caller : Nat} {ended : ProposalEnd}
    (owned : before.Owned) (stepped : before.step (.complete caller ended) = some after) :
    after.Owned := by
  simp only [step] at stepped
  split at stepped
  · rename_i write stage found
    cases stepped
    have fits := owned.fits caller _ found
    have mine := fits.running rfl
    refine owned.change found ?_ (.inr (.inr rfl)) ?_ fun _ _ _ kept => kept
    · intro proposal same
      rw [mine] at same
      cases same
      exact .inl ⟨rfl, by simp, rfl⟩
    · refine ⟨fun _ => mine, by simp, ?_, fits.locked, ?_⟩
      · intro early
        have unspawned := fits.unsubmitted early
        simp at unspawned
      · intro polled answered
        obtain late | ⟨_, done, _⟩ := fits.answered polled answered
        · exact .inl late
        · simp at done
  · simp at stepped

theorem Owned.poll {before after : ExportProposals} (owned : before.Owned)
    (orderly : before.Orderly .poll) (stepped : before.step .poll = some after) :
    after.Owned := by
  simp only [step] at stepped
  split at stepped
  · rename_i free
    cases stepped
    rw [pollProposal]
    split
    · rename_i none
      rw [← none]
      exact owned
    · rename_i proposal stored
      split
      · rename_i ended done
        refine ⟨by simp, owned.held, ?_⟩
        intro other call found
        have fits := owned.fits other call found
        by_cases own : proposal.owner = other
        · subst own
          have finished : call.task = .ended ended := (task_of_call found).symm.trans done
          have notStarted : call.stage ≠ .started := orderly proposal stored ⟨ended, done⟩ call found
          have notWaiting : call.stage ≠ .waiting := fun waits => by
            have holds := fits.locked.mp waits
            simp [free] at holds
          exact ⟨fun busy => (busy.elim notStarted notWaiting).elim,
            fun runs => by simp [finished] at runs, fits.unsubmitted, fits.locked, fits.answered⟩
        · refine fits.reslot fun request same => ?_
          rw [stored] at same
          cases same
          exact own rfl
      · rw [← stored]
        exact owned
  · simp at stepped

theorem Owned.step {before after : ExportProposals} {action : ProposalAction}
    (owned : before.Owned) (orderly : before.Orderly action)
    (stepped : before.step action = some after) : after.Owned := by
  cases action with
  | call write =>
      cases stepped
      refine ⟨?_, ?_, ?_⟩
      · intro proposal stored
        obtain ⟨call, present, spawned, request⟩ := owned.slot proposal stored
        have bound := (List.getElem?_eq_some_iff.mp present).1
        exact ⟨call, (List.getElem?_append_left bound).trans present, spawned, request⟩
      · intro caller holds
        have bound := owned.held caller holds
        simp only [List.length_append, List.length_singleton]
        omega
      · intro caller call found
        rw [List.getElem?_append] at found
        split at found
        · exact owned.fits caller call found
        · rename_i beyond
          have unlocked : before.holder ≠ some caller := fun holds => beyond (owned.held caller holds)
          rw [List.getElem?_singleton] at found
          split at found
          · cases found
            exact ⟨by simp, by simp, by simp, by simp [unlocked], by simp⟩
          · simp at found
  | start caller =>
      simp only [ExportProposals.step] at stepped
      split at stepped
      · rename_i write task found
        split at stepped
        · rename_i free
          cases stepped
          exact owned.start found free
        · simp at stepped
      · simp at stepped
  | beginWait caller =>
      simp only [ExportProposals.step] at stepped
      split at stepped
      · rename_i write task found
        split at stepped
        · rename_i free
          cases stepped
          exact owned.beginWait found free
        · simp at stepped
      · simp at stepped
  | join caller =>
      simp only [ExportProposals.step] at stepped
      split at stepped
      · rename_i write task proposal found stored
        split at stepped
        · rename_i ended done
          cases stepped
          have own : task = .ended ended := (owned.waiting found rfl stored).2.symm.trans done
          exact owned.endWait found (.inr ⟨rfl, ended, own⟩) (.inr ⟨_, rfl, .inr ⟨ended, own, rfl⟩⟩)
        · simp at stepped
      · simp at stepped
  | timeout caller =>
      simp only [ExportProposals.step] at stepped
      split at stepped
      · rename_i write task proposal found stored
        split at stepped
        · cases stepped
          have own := (owned.waiting found rfl stored).1
          refine owned.endWait found (.inl stored.symm) (.inr ⟨_, rfl, .inl ?_⟩)
          rw [own]
        · simp at stepped
      · simp at stepped
  | drop caller => exact owned.drop stepped
  | complete caller ended => exact owned.complete stepped
  | poll => exact owned.poll orderly stepped

/-! ### Runs -/

abbrev Reached (Allowed : ExportProposals → ProposalAction → Prop) : ExportProposals → Prop :=
  Run.Reached step opened Allowed

theorem opened_owned : opened.Owned := by
  constructor <;> simp [opened]

theorem Reached.owned {state : ExportProposals} (reached : Reached Orderly state) :
    state.Owned :=
  Run.Reached.invariant reached opened_owned fun _ _ _ => Owned.step

def ownAnswer (ended : ProposalEnd) : Except DomainError ApplyResult :=
  ended.join.bind id

theorem pollAnswer_pending (write : ExportWrite) :
    write.pollAnswer (.pending write.request) =
      .error (ExportWrite.timeoutError write.group write.request) := by
  cases write with
  | control command request =>
      cases request <;> rfl
  | data command => rfl

theorem pollAnswer_resolved (write : ExportWrite) (ended : ProposalEnd) :
    (ended.join.map ProposalPoll.resolved).bind write.pollAnswer = ownAnswer ended := by
  cases ended <;> rfl

theorem Owned.answer {state : ExportProposals} {caller : Nat} {call : ExportCall}
    {polled : Except DomainError ProposalPoll} (owned : state.Owned)
    (found : state.calls[caller]? = some call) (answered : call.stage = .answered polled) :
    polled ≠ .ok .idle ∧
      ((∃ ended, call.task = .ended ended ∧ call.answer = some (ownAnswer ended)) ∨
        call.answer =
          some (.error (ExportWrite.timeoutError call.write.group call.write.request))) := by
  have answer : call.answer = some (polled.bind call.write.pollAnswer) := by
    rw [ExportCall.answer, answered]
  obtain rfl | ⟨ended, done, rfl⟩ := (owned.fits caller call found).answered polled answered
  · refine ⟨by simp, .inr (answer.trans ?_)⟩
    exact congrArg some (pollAnswer_pending call.write)
  · refine ⟨?_, .inl ⟨ended, done, answer.trans (congrArg some (pollAnswer_resolved _ _))⟩⟩
    cases ended <;> simp [ProposalEnd.join, Except.map]

theorem Owned.progress {state : ExportProposals} {caller : Nat} {call : ExportCall}
    (owned : state.Owned) (found : state.calls[caller]? = some call)
    (waits : call.stage = .waiting) :
    ∃ after, state.step (.join caller) = some after ∨ state.step (.timeout caller) = some after := by
  have mine := (owned.fits caller call found).mine (.inr waits)
  have own := task_of_call found
  obtain ⟨owner, present, spawned, _⟩ := owned.slot _ mine
  rw [found] at present
  cases present
  obtain ⟨write, stage, task⟩ := call
  simp only at waits
  subst waits
  cases task with
  | unspawned => exact absurd rfl spawned
  | running =>
      refine ⟨state.endWait caller ⟨write, .waiting, .running⟩
        (.answered (.ok (.pending write.request))) (some ⟨write.request, caller⟩), .inr ?_⟩
      simp [ExportProposals.step, found, mine, own]
  | ended ended =>
      refine ⟨state.endWait caller ⟨write, .waiting, .ended ended⟩
        (.answered (ended.join.map .resolved)) none, .inl ?_⟩
      simp [ExportProposals.step, found, mine, own]

/-- In every run where no poll takes the finished proposal of a call that has not begun to wait:
one proposal at most is outstanding, a call that found the slot taken spawned nothing, and a call
that was started can wait for its own proposal, is answered by it or times out. -/
theorem proposals_report {state : ExportProposals} (reached : Reached Orderly state) :
    (∀ (first second : Nat) (firstCall secondCall : ExportCall),
      state.calls[first]? = some firstCall → firstCall.task = .running →
        state.calls[second]? = some secondCall → secondCall.task = .running → first = second) ∧
      (∀ (caller : Nat) (call : ExportCall) (retained : Option AmbiguousRequest),
        state.calls[caller]? = some call → call.stage = .busy retained →
          call.task = .unspawned) ∧
      (∀ (caller : Nat) (call : ExportCall), state.calls[caller]? = some call →
        (call.stage = .started ∨ call.stage = .waiting) →
          state.proposal = some ⟨call.write.request, caller⟩) ∧
      (∀ (caller : Nat) (call : ExportCall), state.calls[caller]? = some call →
        call.stage = .waiting → ∃ after,
          state.step (.join caller) = some after ∨ state.step (.timeout caller) = some after) ∧
      ∀ (caller : Nat) (call : ExportCall) (polled : Except DomainError ProposalPoll),
        state.calls[caller]? = some call → call.stage = .answered polled →
          polled ≠ .ok .idle ∧
            ((∃ ended, call.task = .ended ended ∧ call.answer = some (ownAnswer ended)) ∨
              call.answer =
                some (.error (ExportWrite.timeoutError call.write.group call.write.request))) := by
  have owned := reached.owned
  refine ⟨?_, ?_, fun caller call found => (owned.fits caller call found).mine,
    fun _ _ => owned.progress, fun _ _ _ => owned.answer⟩
  · intro first second firstCall secondCall firstFound firstRuns secondFound secondRuns
    have firstOwns := (owned.fits first firstCall firstFound).running firstRuns
    have secondOwns := (owned.fits second secondCall secondFound).running secondRuns
    rw [firstOwns] at secondOwns
    simp only [Option.some.injEq, OwnedProposal.mk.injEq] at secondOwns
    exact secondOwns.2
  · intro caller call retained found busy
    exact (owned.fits caller call found).unsubmitted (.inr (.inr ⟨retained, busy⟩))

def sampleWrite : ExportWrite := .data (.operationalProbe ⟨1, Nat.one_ne_zero⟩)

def ownedSample : List ProposalAction :=
  [.call sampleWrite, .start 0, .beginWait 0, .complete 0 (.written (.ok .noop)), .join 0]

/-- A write that is answered by its own proposal. -/
theorem proposals_report_sample : ∃ state call, Reached Orderly state ∧
    state.calls[0]? = some call ∧ call.answer = some (.ok .noop) ∧
    call.stage = .answered (.ok (.resolved (.ok .noop))) ∧
    (ProposalPoll.resolved (.ok .noop) ≠ .idle) := by
  have reached : Reached Orderly ((Run.execute step opened ownedSample).getD opened) := by
    refine @Run.Reached.of_execute _ _ _ _ _ ownedSample _ _ .start
      (Run.admissible_of_forall ?_) rfl
    intro action member before
    simp only [ownedSample, List.mem_cons, List.not_mem_nil, or_false] at member
    obtain rfl | rfl | rfl | rfl | rfl := member <;> trivial
  have answered := (proposals_report reached).2.2.2.2 0 _ _ rfl rfl
  exact ⟨_, _, reached, rfl, rfl, rfl, fun same => answered.1 (congrArg Except.ok same)⟩

def mixedSample : List ProposalAction :=
  [.call sampleWrite, .start 0, .complete 0 (.written (.ok .noop)), .poll, .call sampleWrite,
    .start 1, .beginWait 0, .complete 1 (.written (.error .exportConflict)), .join 0, .beginWait 1]

/-- The reconciler takes the first call's finished proposal; the call then waits on the second
call's proposal and returns its answer, and the second call finds its own proposal lost. -/
theorem proposal_answers_another : ∃ state first second,
    Reached (fun _ _ => True) state ∧
    state.calls[0]? = some first ∧ first.task = .ended (.written (.ok .noop)) ∧
    first.answer = some (.error .exportConflict) ∧
    state.calls[1]? = some second ∧ second.task = .ended (.written (.error .exportConflict)) ∧
    second.answer =
      some (.error (.storage "submitted export data proposal lost coordinator ownership")) := by
  refine ⟨(Run.execute step opened mixedSample).getD opened, _, _, ?_, rfl, rfl, rfl, rfl, rfl, rfl⟩
  exact @Run.Reached.of_execute _ _ _ _ _ mixedSample _ _ .start
    (Run.admissible_of_forall fun _ _ _ => trivial) rfl

end LightStream.ExportProposals
