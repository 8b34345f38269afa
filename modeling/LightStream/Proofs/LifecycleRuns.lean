import LightStream.Server.Lifecycle

/-!
Runs of the lifecycle.  The gate counts the live leases, a drain that has completed saw none of
them, and no wake-up is lost.  A readiness commit that changes nothing keeps the generation, so an
older sample may still replace it; `Overtakes` is that situation.
-/

namespace LightStream.LifecycleController

/-- The commit would confirm the readiness that is held, without a new generation, while an older
sample of this generation is still outstanding. -/
def Overtakes (lifecycle : LifecycleController) (sample : Nat) (readiness : WriteReadiness) :
    Prop :=
  lifecycle.state.phase = .running ∧ lifecycle.state.readiness = readiness ∧
    lifecycle.samples[sample]? = some ⟨⟨lifecycle.state.generation⟩, true⟩ ∧
    ∃ older < sample, lifecycle.samples[older]? = some ⟨⟨lifecycle.state.generation⟩, true⟩

/-- No counter is full where it is advanced, and no commit overtakes an older sample. -/
def Orderly (lifecycle : LifecycleController) : LifecycleAction → Prop
  | .tryAdmitMutation => lifecycle.gate.accepted < u64Max
  | .commitReadiness sample readiness =>
      lifecycle.state.generation < u64Max ∧ ¬lifecycle.Overtakes sample readiness
  | _ => True

def live (lifecycle : LifecycleController) : Nat :=
  lifecycle.leases.countP fun permits => decide (0 < permits)

/-! ### The gate -/

def TouchesGate : LifecycleAction → Prop
  | .tryAdmitMutation | .clonePermit _ | .dropPermit _ | .closeGate => True
  | _ => False

theorem step_gate {before after : LifecycleController} {action : LifecycleAction}
    (other : ¬TouchesGate action) (stepped : before.step action = some after) :
    after.gate = before.gate ∧ after.leases = before.leases := by
  cases action <;> simp only [TouchesGate, not_true, not_false_eq_true] at other <;>
    simp only [step] at stepped <;> grind [commitReadiness, Option.map_eq_some_iff]

theorem clonePermit_some {before after : LifecycleController} {lease : Nat}
    (stepped : before.step (.clonePermit lease) = some after) :
    ∃ permits, before.leases[lease]? = some (permits + 1) ∧
      after = { before with leases := before.leases.set lease (permits + 2) } := by
  simp only [step] at stepped
  split at stepped
  · rename_i permits found
    split at stepped
    · simp at stepped
    · rename_i alive
      obtain ⟨more, rfl⟩ := Nat.exists_eq_succ_of_ne_zero alive
      exact ⟨more, found, (Option.some.inj stepped).symm⟩
  · simp at stepped

theorem dropPermit_some {before after : LifecycleController} {lease : Nat}
    (stepped : before.step (.dropPermit lease) = some after) :
    ∃ permits, before.leases[lease]? = some (permits + 1) ∧
      after = before.dropPermit lease (permits + 1) := by
  simp only [step] at stepped
  split at stepped
  · rename_i permits found
    split at stepped
    · simp at stepped
    · rename_i alive
      obtain ⟨more, rfl⟩ := Nat.exists_eq_succ_of_ne_zero alive
      exact ⟨more, found, (Option.some.inj stepped).symm⟩
  · simp at stepped

theorem countP_set {leases : List Nat} {lease before : Nat} (after : Nat)
    (found : leases[lease]? = some (before + 1)) :
    (leases.set lease after).countP (fun permits => decide (0 < permits)) + 1 =
      leases.countP (fun permits => decide (0 < permits)) + if 0 < after then 1 else 0 := by
  induction leases generalizing lease with
  | nil => simp at found
  | cons head rest ih =>
      cases lease with
      | zero =>
          simp only [List.getElem?_cons_zero, Option.some.injEq] at found
          subst found
          simp only [List.set_cons_zero, List.countP_cons, decide_eq_true_eq]
          split <;> simp
      | succ lease =>
          have tail := ih (by simpa using found)
          simp only [List.set_cons_succ, List.countP_cons]
          omega

structure Counted (lifecycle : LifecycleController) : Prop where
  inFlight : lifecycle.gate.inFlight = lifecycle.live
  accepted : lifecycle.gate.accepted = lifecycle.leases.length

theorem live_le (lifecycle : LifecycleController) : lifecycle.live ≤ lifecycle.leases.length :=
  List.countP_le_length

theorem Counted.step {before after : LifecycleController} {action : LifecycleAction}
    (counted : before.Counted) (orderly : before.Orderly action)
    (stepped : before.step action = some after) : after.Counted := by
  obtain ⟨inFlight, accepted⟩ := counted
  by_cases touches : TouchesGate action
  · cases action with
    | tryAdmitMutation =>
        simp only [LifecycleController.step, Option.some.injEq] at stepped
        subst stepped
        have bound := before.live_le
        rw [tryAdmitMutation]
        split
        · rename_i gate admitted
          simp only [MutationGate.tryAdmit] at admitted
          split at admitted
          · simp at admitted
          cases admitted
          simp only [Orderly] at orderly
          refine ⟨?_, ?_⟩
          · simp only [live, saturatingAdd, List.countP_append, List.countP_singleton] at *
            simp only [Nat.zero_lt_one, decide_true, if_true]
            omega
          · simp only [saturatingAdd, List.length_append, List.length_singleton]
            omega
        · exact ⟨inFlight, accepted⟩
    | clonePermit lease =>
        obtain ⟨permits, found, rfl⟩ := clonePermit_some stepped
        have counts := countP_set (permits + 2) found
        refine ⟨?_, ?_⟩
        · simp only [live] at *
          simp at counts
          omega
        · simpa using accepted
    | dropPermit lease =>
        obtain ⟨permits, found, rfl⟩ := dropPermit_some stepped
        have counts := countP_set permits found
        rw [dropPermit]
        split
        · rename_i last
          refine ⟨?_, ?_⟩
          · simp only [live, MutationGate.release] at *
            simp at last
            simp [last] at counts ⊢
            omega
          · simpa [MutationGate.release] using accepted
        · rename_i more
          refine ⟨?_, ?_⟩
          · simp only [live] at *
            have alive : 0 < permits := by omega
            simp [alive] at counts ⊢
            omega
          · simpa using accepted
    | closeGate =>
        simp only [LifecycleController.step, Option.some.injEq] at stepped
        subst stepped
        exact ⟨inFlight, accepted⟩
    | _ => exact touches.elim
  · obtain ⟨gate, leases⟩ := step_gate touches stepped
    refine ⟨?_, ?_⟩
    · rw [gate, live, leases]
      exact inFlight
    · rw [gate, leases]
      exact accepted

/-! ### Drains -/

/-- Once a drain has started the gate is closed, so every ticket tells all admissions and a call
that found nothing in flight stays right. -/
structure Drained (lifecycle : LifecycleController) : Prop where
  closed : lifecycle.starts ≠ [] → lifecycle.gate.admission = .closed
  started : ∀ start ∈ lifecycle.starts, start.ticket.accepted = lifecycle.leases.length
  phase : ∀ start ∈ lifecycle.starts, start.returned = true → lifecycle.state.phase ≠ .running
  finishing : ∀ finish ∈ lifecycle.finishes,
    lifecycle.starts ≠ [] ∧ finish.ticket.accepted = lifecycle.leases.length
  completed : ∀ finish ∈ lifecycle.finishes,
    finish.wait = .returned 0 → lifecycle.gate.inFlight = 0
  woken : ∀ finish ∈ lifecycle.finishes,
    finish.wait = .waiting false → lifecycle.gate.inFlight ≠ 0

@[grind .]
theorem notify_woken (wait : DrainWait) : wait.notify ≠ .waiting false := by
  cases wait <;> simp [DrainWait.notify]

theorem look_some {wait next : DrainWait} {inFlight : Nat}
    (looked : wait.look inFlight = some next) :
    (next = .returned 0 → inFlight = 0) ∧ (next = .waiting false → inFlight ≠ 0) := by
  cases wait <;> simp only [DrainWait.look, Option.some.injEq, reduceCtorEq] at looked <;>
    subst looked <;> grind

theorem tryAdmitMutation_cases (lifecycle : LifecycleController) :
    (lifecycle.gate.admission = .closed ∧ lifecycle.tryAdmitMutation = lifecycle) ∨
      lifecycle.gate.admission ≠ .closed ∧ lifecycle.tryAdmitMutation = { lifecycle with
        gate := { lifecycle.gate with
          accepted := saturatingAdd lifecycle.gate.accepted 1
          inFlight := saturatingAdd lifecycle.gate.inFlight 1 }
        leases := lifecycle.leases ++ [1] } := by
  by_cases closed : lifecycle.gate.admission = .closed
  · exact .inl ⟨closed, by simp [tryAdmitMutation, MutationGate.tryAdmit, closed]⟩
  · exact .inr ⟨closed, by simp [tryAdmitMutation, MutationGate.tryAdmit, closed]⟩

theorem commitReadiness_some {before after : LifecycleController} {sample : Nat}
    {readiness : WriteReadiness}
    (stepped : before.step (.commitReadiness sample readiness) = some after) :
    ∃ ticket, before.samples[sample]? = some ⟨ticket, true⟩ ∧
      after = before.commitReadiness sample ticket readiness := by
  simp only [step] at stepped
  split at stepped
  · rename_i ticket found
    exact ⟨ticket, found, (Option.some.inj stepped).symm⟩
  · simp at stepped

theorem commitReadiness_cases (lifecycle : LifecycleController) (sample : Nat)
    (ticket : ReadinessSampleTicket) (readiness : WriteReadiness) :
    lifecycle.commitReadiness sample ticket readiness =
        { lifecycle with samples := lifecycle.samples.set sample ⟨ticket, false⟩ } ∨
      lifecycle.state.phase = .running ∧ lifecycle.state.generation = ticket.generation ∧
        (lifecycle.state.readiness = readiness ∧
            lifecycle.commitReadiness sample ticket readiness = { lifecycle with
              samples := lifecycle.samples.set sample ⟨ticket, false⟩
              confirmed := sample :: lifecycle.confirmed } ∨
          lifecycle.state.readiness ≠ readiness ∧
            lifecycle.commitReadiness sample ticket readiness = { lifecycle with
              state := { lifecycle.state with
                generation := saturatingAdd lifecycle.state.generation 1
                readiness }
              samples := lifecycle.samples.set sample ⟨ticket, false⟩
              confirmed := [sample] }) := by
  by_cases stale : lifecycle.state.phase ≠ .running ∨
      lifecycle.state.generation ≠ ticket.generation
  · left
    simp only [commitReadiness, OperationalState.commitReadiness, if_pos stale]
    simp
  · right
    have current := stale
    push Not at current
    refine ⟨current.1, current.2, ?_⟩
    by_cases same : lifecycle.state.readiness = readiness
    · left
      simp only [commitReadiness, OperationalState.commitReadiness, if_neg stale]
      simp [same]
    · right
      simp only [commitReadiness, OperationalState.commitReadiness, if_neg stale]
      simp [same]

theorem commitReadiness_phase (lifecycle : LifecycleController) (sample : Nat)
    (ticket : ReadinessSampleTicket) (readiness : WriteReadiness) :
    (lifecycle.commitReadiness sample ticket readiness).state.phase = lifecycle.state.phase := by
  obtain refused | ⟨_, _, ⟨_, confirmed⟩ | ⟨_, replaced⟩⟩ :=
    lifecycle.commitReadiness_cases sample ticket readiness
  · rw [refused]
  · rw [confirmed]
  · rw [replaced]

theorem forall_mem_set {Value : Type} {Holds : Value → Prop} {list : List Value} {value : Value}
    (index : Nat) (all : ∀ entry ∈ list, Holds entry) (new : Holds value) :
    ∀ entry ∈ list.set index value, Holds entry := by
  intro entry member
  obtain old | rfl := List.mem_or_eq_of_mem_set member
  · exact all entry old
  · exact new

theorem Drained.move {lifecycle : LifecycleController} {finish : Nat} {ticket : DrainTicket}
    {wait next : DrainWait} (drained : lifecycle.Drained)
    (found : lifecycle.finishes[finish]? = some ⟨ticket, wait⟩)
    (completed : next = .returned 0 → lifecycle.gate.inFlight = 0)
    (woken : next = .waiting false → lifecycle.gate.inFlight ≠ 0) :
    ({ lifecycle with
      finishes := lifecycle.finishes.set finish ⟨ticket, next⟩ } : LifecycleController).Drained :=
  ⟨drained.closed, drained.started, drained.phase,
    forall_mem_set finish drained.finishing
      (drained.finishing ⟨ticket, wait⟩ (List.mem_of_getElem? found)),
    forall_mem_set finish drained.completed completed,
    forall_mem_set finish drained.woken woken⟩

theorem Drained.step {before after : LifecycleController} {action : LifecycleAction}
    (drained : before.Drained) (counted : before.Counted)
    (stepped : before.step action = some after) : after.Drained := by
  have keep := drained
  obtain ⟨closed, started, phase, finishing, completed, woken⟩ := drained
  cases action with
  | tryAdmitMutation =>
      simp only [LifecycleController.step, Option.some.injEq] at stepped
      subst stepped
      obtain ⟨_, unchanged⟩ | ⟨isOpen, admitted⟩ := before.tryAdmitMutation_cases
      · rw [unchanged]
        exact keep
      · -- an open gate means that no drain has started
        have none : before.starts = [] := by
          by_contra some
          exact isOpen (closed some)
        rw [admitted]
        constructor <;> grind
  | clonePermit lease =>
      obtain ⟨permits, found, rfl⟩ := clonePermit_some stepped
      constructor <;> simpa
  | dropPermit lease =>
      obtain ⟨permits, found, rfl⟩ := dropPermit_some stepped
      rw [dropPermit]
      split
      · constructor <;> simp only [MutationGate.release, List.length_set] <;> grind
      · constructor <;> simpa
  | markRunning readiness =>
      simp only [LifecycleController.step] at stepped
      split at stepped
      · rename_i none
        cases stepped
        exact ⟨closed, started, by simp [none], finishing, completed, woken⟩
      · simp at stepped
  | beginReadinessSample =>
      simp only [LifecycleController.step] at stepped
      split at stepped <;> cases stepped <;>
        exact ⟨closed, started, phase, finishing, completed, woken⟩
  | commitReadiness sample readiness =>
      obtain ⟨ticket, found, rfl⟩ := commitReadiness_some stepped
      refine ⟨closed, started, ?_, finishing, completed, woken⟩
      intro start member returned
      rw [commitReadiness_phase]
      exact phase start member returned
  | abandonSample sample =>
      simp only [LifecycleController.step] at stepped
      split at stepped
      · cases stepped
        exact ⟨closed, started, phase, finishing, completed, woken⟩
      · simp at stepped
  | closeGate =>
      simp only [LifecycleController.step, Option.some.injEq] at stepped
      subst stepped
      refine ⟨fun _ => rfl, ?_, ?_, ?_, completed, woken⟩
      · simp only [closeGate, MutationGate.close, List.forall_mem_append, List.forall_mem_singleton]
        exact ⟨started, counted.accepted⟩
      · simp only [closeGate, List.forall_mem_append, List.forall_mem_singleton]
        exact ⟨phase, by simp⟩
      · intro finish member
        exact ⟨by simp [closeGate], (finishing finish member).2⟩
  | announceDrain start =>
      simp only [LifecycleController.step] at stepped
      split at stepped
      · rename_i ticket found
        cases stepped
        have member := List.mem_of_getElem? found
        refine ⟨fun _ => closed (List.ne_nil_of_mem member),
          forall_mem_set start started (started ⟨ticket, false⟩ member),
          fun _ _ _ => by simp [OperationalState.startDrain], ?_, completed, woken⟩
        intro finish listed
        exact ⟨by simpa using (finishing finish listed).1, (finishing finish listed).2⟩
      · simp at stepped
  | finishDrain start =>
      simp only [LifecycleController.step] at stepped
      split at stepped
      · rename_i ticket found
        cases stepped
        have member := List.mem_of_getElem? found
        refine ⟨closed, started, phase, ?_, ?_, ?_⟩ <;>
          simp only [List.forall_mem_append, List.forall_mem_singleton, reduceCtorEq,
            false_implies, and_true]
        · exact ⟨finishing, List.ne_nil_of_mem member, started _ member⟩
        · exact completed
        · exact woken
      · simp at stepped
  | look finish =>
      simp only [LifecycleController.step] at stepped
      split at stepped
      · rename_i ticket wait found
        obtain ⟨next, looked, rfl⟩ := Option.map_eq_some_iff.mp stepped
        exact keep.move found (look_some looked).1 (look_some looked).2
      · simp at stepped
  | wake finish =>
      simp only [LifecycleController.step] at stepped
      split at stepped
      · rename_i ticket found
        cases stepped
        exact keep.move found (by simp) (by simp)
      · simp at stepped
  | expire finish =>
      simp only [LifecycleController.step] at stepped
      split at stepped
      · rename_i ticket woken found
        cases stepped
        exact keep.move found (by simp) (by simp)
      · simp at stepped
  | markStopping =>
      cases stepped
      exact ⟨closed, started, fun _ _ _ => by simp [OperationalState.markStopping], finishing,
        completed, woken⟩

/-! ### Samples -/

/-- A sample that is still outstanding and older than a confirmed one is refused, since its
generation has passed. -/
structure Sampled (lifecycle : LifecycleController) : Prop where
  bounded : lifecycle.state.generation ≤ u64Max
  issued : ∀ sample ∈ lifecycle.samples,
    sample.ticket.generation ≤ lifecycle.state.generation
  confirmed : ∀ sample ∈ lifecycle.confirmed, sample < lifecycle.samples.length
  passed : ∀ newer ∈ lifecycle.confirmed, ∀ older < newer, ∀ ticket,
    lifecycle.samples[older]? = some ⟨ticket, true⟩ →
      ticket.generation ≠ lifecycle.state.generation

theorem outstanding_set {samples : List ReadinessSample} {sample other : Nat}
    {ticket closed : ReadinessSampleTicket}
    (found : (samples.set sample ⟨closed, false⟩)[other]? = some ⟨ticket, true⟩) :
    samples[other]? = some ⟨ticket, true⟩ ∧ other ≠ sample := by
  rw [List.getElem?_set] at found
  split at found
  · split at found <;> simp at found
  · rename_i different
    exact ⟨found, Ne.symm different⟩

theorem Sampled.close {lifecycle : LifecycleController} (sampled : lifecycle.Sampled)
    {sample : Nat} {ticket : ReadinessSampleTicket}
    (found : lifecycle.samples[sample]? = some ⟨ticket, true⟩) :
    ({ lifecycle with
      samples := lifecycle.samples.set sample ⟨ticket, false⟩ } : LifecycleController).Sampled := by
  refine ⟨sampled.bounded, forall_mem_set sample sampled.issued
    (sampled.issued ⟨ticket, true⟩ (List.mem_of_getElem? found)), ?_, ?_⟩
  · intro newer member
    rw [List.length_set]
    exact sampled.confirmed newer member
  · intro newer member older less other outstanding
    exact sampled.passed newer member older less other (outstanding_set outstanding).1

theorem Sampled.step {before after : LifecycleController} {action : LifecycleAction}
    (sampled : before.Sampled) (orderly : before.Orderly action)
    (stepped : before.step action = some after) : after.Sampled := by
  have keep := sampled
  obtain ⟨bounded, issued, confirmed, passed⟩ := sampled
  cases action with
  | tryAdmitMutation =>
      simp only [LifecycleController.step, Option.some.injEq] at stepped
      subst stepped
      obtain ⟨_, unchanged⟩ | ⟨_, admitted⟩ := before.tryAdmitMutation_cases
      · rw [unchanged]
        exact keep
      · rw [admitted]
        exact ⟨bounded, issued, confirmed, passed⟩
  | dropPermit lease =>
      obtain ⟨permits, _, rfl⟩ := dropPermit_some stepped
      rw [dropPermit]
      split <;> exact ⟨bounded, issued, confirmed, passed⟩
  | markRunning readiness =>
      simp only [LifecycleController.step] at stepped
      split at stepped
      · cases stepped
        refine ⟨Nat.min_le_right _ _, ?_, by simp, by simp⟩
        intro sample member
        have below := issued sample member
        simp only [OperationalState.markRunning, saturatingAdd]
        omega
      · simp at stepped
  | beginReadinessSample =>
      simp only [LifecycleController.step, OperationalState.beginReadinessSample] at stepped
      constructor <;> grind
  | commitReadiness sample readiness =>
      obtain ⟨ticket, found, rfl⟩ := commitReadiness_some stepped
      have held : sample < before.samples.length := (List.getElem?_eq_some_iff.mp found).1
      obtain refused | ⟨running, current, ⟨same, confirms⟩ | ⟨differs, replaces⟩⟩ :=
        before.commitReadiness_cases sample ticket readiness
      · rw [refused]
        exact keep.close found
      · rw [confirms]
        refine ⟨bounded, (keep.close found).issued, ?_, ?_⟩
        · simpa using ⟨held, confirmed⟩
        · intro newer member older less other outstanding
          obtain rfl | listed := List.mem_cons.mp member
          · intro present
            cases other
            subst present
            cases ticket
            subst current
            exact orderly.2 ⟨running, same, found, older, less, (outstanding_set outstanding).1⟩
          · exact passed newer listed older less other (outstanding_set outstanding).1
      · rw [replaces]
        -- the generation advances past every ticket that was issued
        have advanced : saturatingAdd before.state.generation 1 = before.state.generation + 1 := by
          have room := orderly.1
          rw [saturatingAdd]
          omega
        rw [advanced]
        refine ⟨orderly.1, ?_, by simpa using held, ?_⟩
        · intro entry member
          exact Nat.le_succ_of_le ((keep.close found).issued entry member)
        · intro newer _ older _ other outstanding
          have below := issued _ (List.mem_of_getElem? (outstanding_set outstanding).1)
          exact Nat.ne_of_lt (Nat.lt_succ_of_le below)
  | abandonSample sample =>
      simp only [LifecycleController.step] at stepped
      split at stepped
      · rename_i ticket found
        cases stepped
        exact keep.close found
      · simp at stepped
  | announceDrain start =>
      simp only [LifecycleController.step] at stepped
      split at stepped
      · cases stepped
        refine ⟨Nat.min_le_right _ _, ?_, by simp, by simp⟩
        intro sample member
        have below := issued sample member
        simp only [OperationalState.startDrain, saturatingAdd]
        omega
      · simp at stepped
  | markStopping =>
      cases stepped
      refine ⟨Nat.min_le_right _ _, ?_, confirmed, ?_⟩
      · intro sample member
        have below := issued sample member
        simp only [OperationalState.markStopping, saturatingAdd]
        omega
      · intro newer member older less other outstanding
        have below := issued _ (List.mem_of_getElem? outstanding)
        have apart := passed newer member older less other outstanding
        simp only [OperationalState.markStopping, saturatingAdd]
        simp only at below
        omega
  | _ =>
      simp only [LifecycleController.step] at stepped
      constructor <;> grind [Option.map_eq_some_iff, closeGate]

/-! ### Runs -/

abbrev Reached (Allowed : LifecycleController → LifecycleAction → Prop) :
    LifecycleController → Prop :=
  Run.Reached step starting Allowed

structure Upheld (lifecycle : LifecycleController) : Prop where
  counted : lifecycle.Counted
  drained : lifecycle.Drained
  sampled : lifecycle.Sampled

theorem starting_upheld : starting.Upheld := by
  refine ⟨⟨rfl, rfl⟩, ?_, ?_⟩
  · constructor <;> simp [starting]
  · constructor <;> simp [starting, OperationalState.starting]

theorem Upheld.step {before after : LifecycleController} {action : LifecycleAction}
    (upheld : before.Upheld) (orderly : before.Orderly action)
    (stepped : before.step action = some after) : after.Upheld :=
  ⟨upheld.counted.step orderly stepped, upheld.drained.step upheld.counted stepped,
    upheld.sampled.step orderly stepped⟩

theorem Reached.upheld {lifecycle : LifecycleController} (reached : Reached Orderly lifecycle) :
    lifecycle.Upheld :=
  Run.Reached.invariant reached starting_upheld fun _ _ _ => Upheld.step

theorem starts_kept {before after : LifecycleController} {action : LifecycleAction}
    (stepped : before.step action = some after) :
    (before.starts ≠ [] → after.starts ≠ []) ∧
      ((∃ start ∈ before.starts, start.returned = true) →
        ∃ start ∈ after.starts, start.returned = true) := by
  cases action with
  | tryAdmitMutation =>
      cases stepped
      obtain ⟨_, unchanged⟩ | ⟨_, admitted⟩ := before.tryAdmitMutation_cases
      · rw [unchanged]
        exact ⟨id, id⟩
      · rw [admitted]
        exact ⟨id, id⟩
  | dropPermit lease =>
      obtain ⟨permits, _, rfl⟩ := dropPermit_some stepped
      rw [dropPermit]
      split <;> exact ⟨id, id⟩
  | commitReadiness sample readiness =>
      obtain ⟨ticket, _, rfl⟩ := commitReadiness_some stepped
      exact ⟨id, id⟩
  | closeGate =>
      cases stepped
      refine ⟨fun _ => by simp [closeGate], ?_⟩
      rintro ⟨start, member, returned⟩
      exact ⟨start, List.mem_append_left _ member, returned⟩
  | announceDrain start =>
      simp only [step] at stepped
      split at stepped
      · rename_i ticket found
        cases stepped
        obtain ⟨bound, _⟩ := List.getElem?_eq_some_iff.mp found
        exact ⟨fun _ => by simpa using List.ne_nil_of_mem (List.mem_of_getElem? found),
          fun _ => ⟨⟨ticket, true⟩, List.mem_set bound ⟨ticket, true⟩, rfl⟩⟩
      · simp at stepped
  | _ =>
      simp only [step] at stepped
      grind [Option.map_eq_some_iff]

theorem run_starts_kept {Allowed : LifecycleController → LifecycleAction → Prop}
    {lifecycle later : LifecycleController} (continued : Run.Reached step lifecycle Allowed later) :
    (lifecycle.starts ≠ [] → later.starts ≠ []) ∧
      ((∃ start ∈ lifecycle.starts, start.returned = true) →
        ∃ start ∈ later.starts, start.returned = true) := by
  induction continued with
  | start => exact ⟨id, id⟩
  | step _ _ stepped ih =>
      have keeps := starts_kept stepped
      exact ⟨fun started => keeps.1 (ih.1 started), fun returned => keeps.2 (ih.2 returned)⟩

theorem running_before {before after : LifecycleController} {action : LifecycleAction}
    (stepped : before.step action = some after) (started : before.starts ≠ [])
    (running : after.state.phase = .running) : before.state.phase = .running := by
  cases action with
  | tryAdmitMutation =>
      cases stepped
      obtain ⟨_, unchanged⟩ | ⟨_, admitted⟩ := before.tryAdmitMutation_cases
      · rwa [unchanged] at running
      · rwa [admitted] at running
  | dropPermit lease =>
      obtain ⟨permits, _, rfl⟩ := dropPermit_some stepped
      rw [dropPermit] at running
      split at running <;> exact running
  | commitReadiness sample readiness =>
      obtain ⟨ticket, _, rfl⟩ := commitReadiness_some stepped
      rwa [commitReadiness_phase] at running
  | closeGate =>
      cases stepped
      exact running
  | _ =>
      simp only [step] at stepped
      grind [Option.map_eq_some_iff, OperationalState.startDrain, OperationalState.markStopping]

theorem tryAdmit_closed {gate : MutationGate} (closed : gate.admission = .closed) :
    gate.tryAdmit = .error (.shuttingDown .definiteNoCommit) := by
  rw [MutationGate.tryAdmit, if_pos closed]

theorem outcome_completed {finish : DrainFinish} {accepted : Nat}
    (completed : finish.outcome = some (.completed accepted)) :
    finish.wait = .returned 0 ∧ accepted = finish.ticket.accepted := by
  simp only [DrainFinish.outcome] at completed
  split at completed
  · rename_i unresolved returned
    simp only [DrainTicket.outcome] at completed
    split at completed
    · rename_i none
      cases completed
      exact ⟨none ▸ returned, rfl⟩
    · simp at completed
  · simp at completed

theorem Upheld.completed {lifecycle : LifecycleController} (upheld : lifecycle.Upheld)
    {finish : DrainFinish} (member : finish ∈ lifecycle.finishes) {accepted : Nat}
    (completed : finish.outcome = some (.completed accepted)) :
    (∀ permits ∈ lifecycle.leases, permits = 0) ∧ accepted = lifecycle.leases.length := by
  obtain ⟨returned, rfl⟩ := outcome_completed completed
  refine ⟨?_, (upheld.drained.finishing finish member).2⟩
  have idle : lifecycle.live = 0 :=
    upheld.counted.inFlight.symm.trans (upheld.drained.completed finish member returned)
  intro permits listed
  have dead := List.countP_eq_zero.mp idle permits listed
  simp only [decide_eq_true_eq] at dead
  omega

theorem Upheld.newest {lifecycle after : LifecycleController} (upheld : lifecycle.Upheld)
    {sample : Nat} {readiness : WriteReadiness}
    (stepped : lifecycle.step (.commitReadiness sample readiness) = some after)
    (changed : after.state.readiness ≠ lifecycle.state.readiness) :
    ∀ other ∈ lifecycle.confirmed, other ≤ sample := by
  obtain ⟨ticket, found, rfl⟩ := commitReadiness_some stepped
  obtain refused | ⟨_, current, ⟨_, confirms⟩ | _⟩ :=
    lifecycle.commitReadiness_cases sample ticket readiness
  · rw [refused] at changed
    exact absurd rfl changed
  · rw [confirms] at changed
    exact absurd rfl changed
  · intro other member
    by_contra older
    exact upheld.sampled.passed other member sample (by omega) ticket found current.symm

/-- In every run whose samples commit in order, the gate counts the live leases; after a drain has
started nothing is admitted and the server does not run again; a completed drain left no permit
alive and reports every admission; and no sample replaces the readiness of a newer one. -/
theorem drain_and_readiness {lifecycle : LifecycleController}
    (reached : Reached Orderly lifecycle) :
    lifecycle.gate.inFlight = lifecycle.live ∧
      (∀ later, Run.Reached step lifecycle Orderly later →
        (lifecycle.starts ≠ [] →
          later.gate.tryAdmit = .error (.shuttingDown .definiteNoCommit)) ∧
        ((∃ start ∈ lifecycle.starts, start.returned = true) →
          later.state.phase ≠ .running)) ∧
      (∀ action after, lifecycle.step action = some after → lifecycle.starts ≠ [] →
        after.state.phase = .running → lifecycle.state.phase = .running) ∧
      (∀ finish ∈ lifecycle.finishes, ∀ accepted,
        finish.outcome = some (.completed accepted) →
          (∀ permits ∈ lifecycle.leases, permits = 0) ∧ accepted = lifecycle.leases.length) ∧
      ∀ sample readiness after,
        lifecycle.step (.commitReadiness sample readiness) = some after →
          after.state.readiness ≠ lifecycle.state.readiness →
            ∀ other ∈ lifecycle.confirmed, other ≤ sample := by
  have upheld := reached.upheld
  refine ⟨upheld.counted.inFlight, ?_, fun _ _ => running_before, ?_, ?_⟩
  · intro later continued
    have laterUpheld : later.Upheld := Reached.upheld (reached.trans continued)
    have kept := run_starts_kept continued
    refine ⟨fun started => tryAdmit_closed (laterUpheld.drained.closed (kept.1 started)), ?_⟩
    intro announced
    obtain ⟨start, member, returned⟩ := kept.2 announced
    exact laterUpheld.drained.phase start member returned
  · intro finish member accepted completed
    exact upheld.completed member completed
  · intro sample readiness after stepped changed
    exact upheld.newest stepped changed

instance (lifecycle : LifecycleController) (sample : Nat) (readiness : WriteReadiness) :
    Decidable (lifecycle.Overtakes sample readiness) :=
  inferInstanceAs (Decidable (_ ∧ _ ∧ _ ∧ ∃ older, older < sample ∧ _))

instance (lifecycle : LifecycleController) (action : LifecycleAction) :
    Decidable (lifecycle.Orderly action) := by
  cases action <;> simp only [Orderly] <;> infer_instance

def drainSample : List LifecycleAction :=
  [.markRunning .ready, .tryAdmitMutation, .clonePermit 0, .beginReadinessSample,
    .beginReadinessSample, .commitReadiness 1 (.notReady [.securityPolicyStale]),
    .commitReadiness 0 .ready, .dropPermit 0, .closeGate, .announceDrain 0, .finishDrain 0,
    .look 0, .dropPermit 0, .wake 0, .look 0]

/-- A drain that waits for its only mutation. -/
theorem drain_and_readiness_sample : ∃ lifecycle, Reached Orderly lifecycle ∧
    lifecycle.finishes.map DrainFinish.outcome = [some (.completed 1)] ∧
    lifecycle.gate.inFlight = lifecycle.live := by
  have reached : Reached Orderly ((Run.execute step starting drainSample).getD starting) :=
    Run.Reached.start.of_execute (by decide +kernel : Run.Admissible step Orderly starting drainSample)
      (by decide +kernel)
  exact ⟨_, reached, by decide +kernel, (drain_and_readiness reached).1⟩

def overtakenSample : List LifecycleAction :=
  [.markRunning .ready, .beginReadinessSample, .beginReadinessSample, .commitReadiness 1 .ready]

/-- The second sample confirms `ready`; then the first, begun before it, replaces that. -/
theorem older_sample_replaces : ∃ lifecycle after,
    Reached (fun _ _ => True) lifecycle ∧ lifecycle.state.readiness = .ready ∧
    1 ∈ lifecycle.confirmed ∧
    lifecycle.step (.commitReadiness 0 (.notReady [.securityPolicyStale])) = some after ∧
    after.state.readiness = .notReady [.securityPolicyStale] := by
  refine ⟨(Run.execute step starting overtakenSample).getD starting, _, ?_, by decide, by decide,
    rfl, by decide⟩
  exact @Run.Reached.of_execute _ _ _ _ _ overtakenSample _ _ .start
    (Run.admissible_of_forall fun _ _ _ => trivial) rfl

end LightStream.LifecycleController
