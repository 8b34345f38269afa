import LightStream.Proofs.Entries
import LightStream.Proofs.LeaseSpec
import LightStream.Proofs.Replay
import LightStream.Proofs.Traces

/-!
The lease clock and the expiries taken from it.  The stored clock never runs back.  It covers the
expired leases as long as no lease command is refused while its clock ends a lease that the stored
clock has not reached.
-/

namespace LightStream

def ReplayLease.deadline (lease : ReplayLease) : Nat := min lease.expiresAt lease.hardExpiresAt

def SafeLeaseClock.NotBehind (earlier later : SafeLeaseClock) : Prop :=
  earlier.lowerBound ≤ later.lowerBound ∧ earlier.upperBound ≤ later.upperBound

theorem SafeLeaseClock.advance_notBehind {clock next : SafeLeaseClock}
    {observation : ClockObservation} (advanced : clock.advance observation = .ok next) :
    clock.NotBehind next := by
  unfold SafeLeaseClock.advance at advanced
  split at advanced
  · simp at advanced
  · cases advanced
    exact ⟨by simp, by simp⟩

namespace GroupView

variable {view : GroupView} {clock : SafeLeaseClock}

def ClockReached (view : GroupView) (instant : Nat) : Prop :=
  ∃ clock, view.get .leaseClock = some clock ∧ instant ≤ clock.lowerBound

def ExpiredCovered (view : GroupView) : Prop :=
  ∀ (id : ReplayLeaseId) (lease : ReplayLease), view.get (.leaseId id) = some lease →
    lease.lifecycle = .expired → view.ClockReached lease.deadline

def DueReached (view : GroupView) (clock : SafeLeaseClock) : Prop :=
  ∀ (id : ReplayLeaseId) (lease : ReplayLease), view.get (.leaseId id) = some lease →
    isDue clock lease = true → view.ClockReached lease.deadline

theorem advanceLeaseClock_notBehind {observation : ClockObservation} {stored : SafeLeaseClock}
    (advanced : view.advanceLeaseClock observation = .ok clock)
    (found : view.get .leaseClock = some stored) : stored.NotBehind clock := by
  unfold advanceLeaseClock at advanced
  rw [found] at advanced
  exact SafeLeaseClock.advance_notBehind advanced

theorem isDue_deadline {lease : ReplayLease} (due : isDue clock lease = true) :
    lease.deadline ≤ clock.lowerBound := by
  simp only [isDue, leaseIsEffectivelyActive, Bool.and_eq_true, decide_eq_true_eq,
    Bool.not_eq_true', Bool.and_eq_false_iff, decide_eq_false_iff_not] at due
  unfold ReplayLease.deadline
  obtain ⟨active, (inactive | ended) | ended⟩ := due
  · exact absurd active inactive
  · omega
  · omega

def clockFamilies : List StateFamily := [.lease, .leaseClock]

theorem ExpiredCovered.frame {other : GroupView} (covered : view.ExpiredCovered)
    (same : ∀ key : StateKey, key.family ∈ clockFamilies → other.get key = view.get key) :
    other.ExpiredCovered := by
  intro id lease stored expired
  rw [same _ (by simp [StateKey.family, clockFamilies])] at stored
  obtain ⟨clock, found, reached⟩ := covered id lease stored expired
  refine ⟨clock, ?_, reached⟩
  rw [same _ (by simp [StateKey.family, clockFamilies])]
  exact found

theorem ExpiredCovered.within {families : List StateFamily} {writes : StateBatch}
    (covered : view.ExpiredCovered) (within : Within families writes)
    (outside : ∀ family ∈ clockFamilies, family ∉ families) :
    (view.after writes).ExpiredCovered :=
  covered.frame fun _ inside => after_get_of_within within (outside _ inside)

section Decisions

def AdmitServes (view : GroupView) (request : ReplayLeaseRequest) (clock : SafeLeaseClock) : Prop :=
  ∃ bytes lease,
    view.replayRangeBytes request (view.retentionOf request.range.partition) = .ok bytes ∧
      admitLease (.derived request.request) request bytes
        ⟨(view.retentionOf request.range.partition).logicalFloor,
          view.nextOffsetOf request.range.partition, clock, RetentionLimits.default,
          (view.expireDueLeases clock).budget⟩ = .ok lease

def RenewServes (view : GroupView) (request : LeaseRenewal) (clock : SafeLeaseClock) : Prop :=
  ∃ lease expiresAt renewed, view.get (.leaseId request.lease) = some lease ∧
    lease.range.partition = request.partition ∧ leaseIsEffectivelyActive lease clock = true ∧
    checkedAdd clock.upperBound request.duration = some expiresAt ∧
    lease.renewed expiresAt lease.hardExpiresAt = .ok renewed

def ReleaseServes (view : GroupView) (request : LeaseRelease) (clock : SafeLeaseClock) : Prop :=
  ∃ lease, view.get (.leaseId request.lease) = some lease ∧
    lease.range.partition = request.partition ∧ leaseIsEffectivelyActive lease clock = true

/-- What a decision does to the clock, and to the leases that have expired. -/
structure Settles (view : GroupView) (clock : SafeLeaseClock) (serves : Prop)
    (decision : LeaseDecision) : Prop where
  served : serves → ((view.expired clock).after decision.2).get .leaseClock = some clock
  refused : ¬ serves → decision.2 = []
  leases : ∀ (id : ReplayLeaseId) (lease : ReplayLease),
    ((view.expired clock).after decision.2).get (.leaseId id) = some lease →
      lease.lifecycle = .expired → (view.expired clock).get (.leaseId id) = some lease

theorem settles_stored {serves : Prop} {id : ReplayLeaseId} {lease : ReplayLease}
    {result : ApplyResult} {families : List StateFamily} {rest : StateBatch}
    (holds : serves) (live : lease.lifecycle ≠ .expired) (within : Within families rest)
    (outside : StateFamily.lease ∉ families)
    (clocked : Kv.Batch.effect rest .leaseClock = some (some clock)) :
    view.Settles clock serves (result, .put (.leaseId id) lease :: rest) where
  served := by
    intro _
    simp [after, Kv.pending, clocked]
  refused := fun refused => absurd holds refused
  leases := by
    intro other found stored expired
    rw [storeLease_get within outside] at stored
    split at stored
    · cases stored
      exact absurd expired live
    · exact stored

theorem settles_refused {serves : Prop} {error : DomainError} (refused : ¬ serves) :
    view.Settles clock serves (.rejected error, []) where
  served := fun holds => absurd holds refused
  refused := fun _ => rfl
  leases := fun _ _ stored _ => stored

theorem admitDecision_settles (request : ReplayLeaseRequest) :
    view.Settles clock (view.AdmitServes request clock)
      (view.admitDecision request clock (view.expireDueLeases clock)) := by
  unfold admitDecision
  dsimp only
  split
  · rename_i below
    refine settles_refused ?_
    rintro ⟨bytes, lease, _, admits⟩
    obtain ⟨_, _, _, _, above, _⟩ := admit_ok admits
    dsimp only at above
    omega
  split
  · rename_i error unsized
    refine settles_refused ?_
    rintro ⟨bytes, lease, sized, _⟩
    rw [unsized] at sized
    simp at sized
  rename_i bytes sized
  split
  · rename_i error refuses
    refine settles_refused ?_
    rintro ⟨bytes', lease, sized', admits⟩
    rw [sized] at sized'
    cases sized'
    rw [refuses] at admits
    simp at admits
  · rename_i lease admits
    obtain ⟨_, _, _, active, _⟩ := admit_ok admits
    refine settles_stored ⟨bytes, lease, sized, admits⟩ (by simp [active])
      (show Within [.leaseRequest, .leaseBudget, .leaseClock] _ by simp [StateKey.family])
      (by decide) (by simp)

theorem renewDecision_settles (request : LeaseRenewal) :
    view.Settles clock (view.RenewServes request clock) (view.renewDecision request clock) := by
  unfold renewDecision
  split
  · rename_i absent
    refine settles_refused ?_
    rintro ⟨lease, _, _, stored, _⟩
    rw [absent] at stored
    simp at stored
  rename_i lease stored
  have unique {other : ReplayLease} (found : view.get (.leaseId request.lease) = some other) :
      other = lease := Option.some.inj (by rw [← found, stored])
  split
  · rename_i foreign
    refine settles_refused ?_
    rintro ⟨other, _, _, found, own, _⟩
    obtain rfl := unique found
    exact foreign own
  rename_i own
  split
  · rename_i effective
    split
    · rename_i late
      refine settles_refused ?_
      rintro ⟨_, _, _, _, _, _, later, _⟩
      rw [late] at later
      simp at later
    rename_i expiresAt later
    split
    · rename_i error refuses
      refine settles_refused ?_
      rintro ⟨other, _, _, found, _, _, later', renews⟩
      obtain rfl := unique found
      rw [later] at later'
      cases later'
      rw [refuses] at renews
      simp at renews
    · rename_i renewed renews
      obtain ⟨same, active, _⟩ := renewed_kept renews
      exact settles_stored ⟨lease, expiresAt, renewed, stored, not_not.mp own, effective, later, renews⟩
        (by simp [same, active]) (show Within [.leaseClock] _ by simp [StateKey.family]) (by decide)
        (by simp)
  · rename_i ended
    refine settles_refused ?_
    rintro ⟨other, _, _, found, _, effective, _⟩
    obtain rfl := unique found
    exact ended effective

theorem releaseDecision_settles (request : LeaseRelease) :
    view.Settles clock (view.ReleaseServes request clock)
      (view.releaseDecision request clock (view.expireDueLeases clock)) := by
  unfold releaseDecision
  split
  · rename_i absent
    refine settles_refused ?_
    rintro ⟨lease, stored, _⟩
    rw [absent] at stored
    simp at stored
  rename_i lease stored
  have unique {other : ReplayLease} (found : view.get (.leaseId request.lease) = some other) :
      other = lease := Option.some.inj (by rw [← found, stored])
  split
  · rename_i foreign
    refine settles_refused ?_
    rintro ⟨other, found, own, _⟩
    obtain rfl := unique found
    exact foreign own
  rename_i own
  split
  · rename_i effective
    have within := @releaseWrites_within view (view.expireDueLeases clock) lease
      ⟨(view.expireDueLeases clock).budget.activeLeases - 1,
        (view.expireDueLeases clock).budget.reservedBytes - lease.protectedBytes⟩ clock
    exact settles_stored ⟨lease, stored, not_not.mp own, effective⟩ (by simp [ReplayLease.released])
      within (by decide) (by simp [Kv.Batch.effect_append])
  · rename_i ended
    refine settles_refused ?_
    rintro ⟨other, found, _, effective⟩
    obtain rfl := unique found
    exact ended effective

end Decisions

section Commands

variable {request : MutationRequestId} {fingerprint : MutationFingerprint}
  {observation : ClockObservation} {decision : SafeLeaseClock → LeaseExpiryState → LeaseDecision}
  {serves : SafeLeaseClock → Prop} {result : ApplyResult} {write : WriteBatch}

/-- A lease command ends no lease beyond the stored clock, unless it serves its request. -/
def KeepsClock (view : GroupView) (request : MutationRequestId) (fingerprint : MutationFingerprint)
    (observation : ClockObservation) (serves : SafeLeaseClock → Prop) : Prop :=
  ∀ clock, view.priorMutationResult request fingerprint = none →
    view.advanceLeaseClock observation = .ok clock → view.DueReached clock ∨ serves clock

theorem LeaseCase.covered_iff (covered : view.ExpiredCovered) (listed : view.Listed)
    (case : view.LeaseCase request fingerprint observation decision result write)
    (settles : ∀ clock, view.Settles clock (serves clock)
      (decision clock (view.expireDueLeases clock))) :
    (view.after write.state).ExpiredCovered ↔
      view.KeepsClock request fingerprint observation serves := by
  cases case with
  | answered result prior =>
      refine ⟨fun _ clock fresh => ?_, fun _ => covered⟩
      rw [prior] at fresh
      simp at fresh
  | unclocked fresh error clockless =>
      refine ⟨fun _ clock _ advanced => ?_,
        fun _ => covered.within (storeMutationResult_within _ _ _) (by decide)⟩
      rw [clockless] at advanced
      simp at advanced
  | decided fresh clock advanced =>
      have settled := settles clock
      have reads : ((view.expired clock).after
            (decision clock (view.expireDueLeases clock)).2).ExpiredCovered ↔
          (view.after (view.expiryWrites (view.expireDueLeases clock) ++
            (decision clock (view.expireDueLeases clock)).2 ++ view.storeMutationResult request
              fingerprint (decision clock (view.expireDueLeases clock)).1)).ExpiredCovered := by
        have same (key : StateKey) (inside : key.family ∈ clockFamilies) :=
          @LeaseCase.decided_get view clock request fingerprint decision
            (decision clock (view.expireDueLeases clock)).1 key (by
              rintro mutation
              rw [mutation] at inside
              simp [clockFamilies] at inside)
        exact ⟨fun covered => covered.frame same,
          fun covered => covered.frame fun key inside => (same key inside).symm⟩
      rw [← reads]
      constructor
      · intro after next _ advanced'
        rw [advanced] at advanced'
        cases advanced'
        by_cases served : serves clock
        · exact .inr served
        refine .inl fun id lease stored due => ?_
        have kept : ((view.expired clock).after
            (decision clock (view.expireDueLeases clock)).2).get (.leaseId id) =
              some lease.expired := by
          rw [settled.refused served]
          show (view.expired clock).get _ = _
          rw [expired_lease listed, stored, Option.map_some, if_pos due]
        obtain ⟨found, reached, bound⟩ := after id lease.expired kept rfl
        rw [settled.refused served] at reached
        have reached : (view.expired clock).get .leaseClock = some found := reached
        rw [expired_get_other (by simp [StateKey.family])] at reached
        exact ⟨found, reached, bound⟩
      · intro keeps id lease stored expired
        have before := settled.leases id lease stored expired
        rw [expired_lease listed, Option.map_eq_some_iff] at before
        obtain ⟨old, found, same⟩ := before
        by_cases served : serves clock
        · refine ⟨clock, settled.served served, ?_⟩
          by_cases due : isDue clock old = true
          · rw [if_pos due] at same
            rw [← same]
            show old.deadline ≤ _
            exact isDue_deadline due
          · rw [if_neg due] at same
            subst same
            obtain ⟨stored, reached, bound⟩ := covered id old found expired
            exact bound.trans (advanceLeaseClock_notBehind advanced reached).1
        · have reached : view.ClockReached lease.deadline := by
            by_cases due : isDue clock old = true
            · rw [if_pos due] at same
              rw [← same]
              exact ((keeps clock fresh advanced).resolve_right served) id old found due
            · rw [if_neg due] at same
              subst same
              exact covered id old found expired
          obtain ⟨stored, present, bound⟩ := reached
          refine ⟨stored, ?_, bound⟩
          rw [settled.refused served]
          show (view.expired clock).get _ = _
          rw [expired_get_other (by simp [StateKey.family])]
          exact present

def ClockFollows (view : GroupView) (after : GroupView) : Prop :=
  ∀ stored, view.get .leaseClock = some stored →
    ∃ next, after.get .leaseClock = some next ∧ stored.NotBehind next

theorem clockFollows_same {other : GroupView}
    (same : other.get .leaseClock = view.get .leaseClock) : view.ClockFollows other :=
  fun stored found => ⟨stored, same.trans found, ⟨le_refl _, le_refl _⟩⟩

theorem ClockFollows.trans {middle other : GroupView} (first : view.ClockFollows middle)
    (second : middle.ClockFollows other) : view.ClockFollows other := by
  intro stored found
  obtain ⟨next, reached, earlier⟩ := first stored found
  obtain ⟨last, present, later⟩ := second next reached
  exact ⟨last, present, earlier.1.trans later.1, earlier.2.trans later.2⟩

theorem clockFollows_advanced {other : GroupView}
    (advanced : view.advanceLeaseClock observation = .ok clock)
    (present : other.get .leaseClock = some clock) : view.ClockFollows other :=
  fun _ found => ⟨clock, present, advanceLeaseClock_notBehind advanced found⟩

theorem LeaseCase.clockFollows
    (case : view.LeaseCase request fingerprint observation decision result write)
    (settles : ∀ clock, view.Settles clock (serves clock)
      (decision clock (view.expireDueLeases clock))) : view.ClockFollows (view.after write.state) := by
  cases case with
  | answered result prior => exact clockFollows_same rfl
  | unclocked fresh error clockless =>
      exact clockFollows_same
        (after_get_of_within (storeMutationResult_within _ _ _) (by simp [StateKey.family]))
  | decided fresh clock advanced =>
      have reads := @LeaseCase.decided_get view clock request fingerprint decision
        (decision clock (view.expireDueLeases clock)).1 .leaseClock (by simp [StateKey.family])
      by_cases served : serves clock
      · exact clockFollows_advanced advanced (reads.trans ((settles clock).served served))
      · refine clockFollows_same (reads.trans ?_)
        rw [(settles clock).refused served]
        exact expired_get_other (by simp [StateKey.family])

def CommandKeepsClock (view : GroupView) : GroupCommand → Prop
  | .admitReplayLease request observation =>
      view.KeepsClock request.request (.admitLease request) observation (view.AdmitServes request)
  | .renewReplayLease request observation =>
      view.KeepsClock request.request (.renew request) observation (view.RenewServes request)
  | .releaseReplayLease request observation =>
      view.KeepsClock request.request (.release request) observation (view.ReleaseServes request)
  | _ => True

section Dispatch

variable {logId : GroupLogId}

theorem AdvanceCase.clockFollows {request : RetentionRequest}
    (case : view.AdvanceCase request observation result write) :
    view.ClockFollows (view.after write.state) := by
  cases case with
  | foreign | answered | unbounded => exact clockFollows_same rfl
  | refused fresh error =>
      exact clockFollows_same
        (after_get_of_within (storeMutationResult_within _ _ _) (by simp [StateKey.family]))
  | advanced fresh floor bytes clock advanced clocked bounded =>
      refine clockFollows_advanced clocked ?_
      rw [after_append,
        after_get_of_within (storeMutationResult_within _ _ _) (by simp [StateKey.family])]
      simp [after, Kv.pending]

theorem dispatch_clockFollows {command : GroupCommand} (guarded : view.Guarded)
    (listed : view.Listed) (done : view.dispatch logId command = .ok (result, write)) :
    view.ClockFollows (view.after write.state) := by
  have quiet (outside : StateFamily.leaseClock ∉ command.families) :
      view.ClockFollows (view.after write.state) :=
    clockFollows_same (after_get_of_within (dispatch_within command result write done) outside)
  cases command with
  | admitReplayLease request observation =>
      exact (applyAdmitReplayLease_case done).clockFollows fun _ => admitDecision_settles request
  | renewReplayLease request observation =>
      exact (applyRenewReplayLease_case done).clockFollows fun _ => renewDecision_settles request
  | releaseReplayLease request observation =>
      exact (applyReleaseReplayLease_case done).clockFollows fun _ => releaseDecision_settles request
  | advanceRetention request observation => exact (applyAdvanceRetention_case done).clockFollows
  | maintainRetention partition expectedCursor maxRecords maxPayloadBytes observation =>
      rcases applyMaintainRetention_cases guarded.records listed done with
        rfl | ⟨clock, _, _, _, advanced, _, _, _, present, _⟩
      · exact clockFollows_same rfl
      · exact clockFollows_advanced advanced present
  | publish | publishMany => exact quiet (show StateFamily.leaseClock ∉ publishAllFamilies by decide)
  | exportProtocol command =>
      cases command <;> exact quiet (by simp [GroupCommand.families])
  | _ => exact quiet (by simp [GroupCommand.families])

theorem dispatch_covered_iff {command : GroupCommand} (covered : view.ExpiredCovered)
    (guarded : view.Guarded) (listed : view.Listed)
    (done : view.dispatch logId command = .ok (result, write)) :
    (view.after write.state).ExpiredCovered ↔ view.CommandKeepsClock command := by
  have quiet (outside : ∀ family ∈ clockFamilies, family ∉ command.families) :
      (view.after write.state).ExpiredCovered :=
    covered.within (dispatch_within command result write done) outside
  have follows := dispatch_clockFollows guarded listed done
  cases command with
  | admitReplayLease request observation =>
      exact (applyAdmitReplayLease_case done).covered_iff covered listed
        fun _ => admitDecision_settles request
  | renewReplayLease request observation =>
      exact (applyRenewReplayLease_case done).covered_iff covered listed
        fun _ => renewDecision_settles request
  | releaseReplayLease request observation =>
      exact (applyReleaseReplayLease_case done).covered_iff covered listed
        fun _ => releaseDecision_settles request
  | advanceRetention request observation =>
      refine iff_of_true ?_ trivial
      intro id lease stored expired
      have untouched : (view.after write.state).get (.leaseId id) = view.get (.leaseId id) :=
        after_get_of_within (dispatch_within _ result write done)
          (by simp [GroupCommand.families, StateKey.family])
      rw [untouched] at stored
      obtain ⟨before, found, bound⟩ := covered id lease stored expired
      obtain ⟨next, present, later, _⟩ := follows before found
      exact ⟨next, present, bound.trans later⟩
  | maintainRetention partition expectedCursor maxRecords maxPayloadBytes observation =>
      refine iff_of_true ?_ trivial
      rcases applyMaintainRetention_cases guarded.records listed done with
        rfl | ⟨clock, _, _, _, advanced, _, _, final, present, _⟩
      · exact covered
      intro id lease stored expired
      rw [final.frame _ (by simp [StateKey.family]), expired_lease listed,
        Option.map_eq_some_iff] at stored
      obtain ⟨old, found, same⟩ := stored
      by_cases due : isDue clock old = true
      · rw [if_pos due] at same
        refine ⟨clock, present, ?_⟩
        rw [← same]
        show old.deadline ≤ _
        exact isDue_deadline due
      · rw [if_neg due] at same
        subst same
        obtain ⟨before, reached, bound⟩ := covered id old found expired
        exact ⟨clock, present, bound.trans (advanceLeaseClock_notBehind advanced reached).1⟩
  | publish | publishMany =>
      exact iff_of_true (quiet (show ∀ family ∈ clockFamilies, family ∉ publishAllFamilies by decide))
        trivial
  | exportProtocol command =>
      cases command <;>
        exact iff_of_true (quiet (by simp [GroupCommand.families, clockFamilies])) trivial
  | _ => exact iff_of_true (quiet (by simp [GroupCommand.families, clockFamilies])) trivial

end Dispatch

end Commands

theorem expiredCovered_congr {other : GroupView}
    (same : ∀ key : StateKey, key.family ∈ clockFamilies → other.get key = view.get key) :
    other.ExpiredCovered ↔ view.ExpiredCovered :=
  ⟨fun covered => covered.frame fun key inside => (same key inside).symm,
    fun covered => covered.frame same⟩

end GroupView

namespace GroupDb

variable {identity : GroupIdentity} {window : Nat} {content : PayloadId → Record}
  {Allowed : GroupDb → GroupEntry → Prop} {steps : List Step} {db next : GroupDb}
  {entry : GroupEntry} {result : ApplyResult}

/-- The condition that an entry meets for the clock to cover what it expires. -/
def KeepsClock (db : GroupDb) (entry : GroupEntry) : Prop :=
  match entry.payload with
  | .normal command => db.view.CommandKeepsClock command
  | _ => True

theorem applyEntry_clockFollows (guarded : db.view.Guarded)
    (done : db.applyEntry entry = .ok (result, next)) : db.view.ClockFollows next.view := by
  cases applyEntry_case done with
  | quiet silent noop same => exact GroupView.clockFollows_same (same _ (by simp [StateKey.family]))
  | fenced command held normal included isHeld answer replayed answered same =>
      exact GroupView.clockFollows_same (same _ (by simp [StateKey.family]))
  | dispatched command write normal free done reads =>
      intro stored found
      obtain ⟨later, present, order⟩ :=
        GroupView.dispatch_clockFollows guarded guarded.records.listed done stored found
      exact ⟨later, (reads _ (by simp [StateKey.family])).trans present, order⟩

theorem applyEntry_covered_iff (covered : db.view.ExpiredCovered) (guarded : db.view.Guarded)
    (done : db.applyEntry entry = .ok (result, next)) :
    next.view.ExpiredCovered ↔ db.KeepsClock entry := by
  have quiet (same : ∀ key : StateKey, key.family ∈ GroupView.clockFamilies →
      next.get key = db.get key) : next.view.ExpiredCovered := covered.frame same
  cases applyEntry_case done with
  | quiet silent noop same =>
      refine iff_of_true (quiet fun key inside => same key ?_) ?_
      · simp only [GroupView.clockFamilies, List.mem_cons, List.not_mem_nil, or_false] at inside ⊢
        rcases inside with inside | inside <;> simp [inside]
      · unfold KeepsClock
        split
        · rename_i command normal
          exact absurd normal (silent command)
        · trivial
  | fenced command held normal included isHeld answer replayed answered same =>
      refine iff_of_true (quiet fun key inside => same key ?_) ?_
      · simp only [GroupView.clockFamilies, List.mem_cons, List.not_mem_nil, or_false] at inside ⊢
        rcases inside with inside | inside <;> simp [inside]
      · rw [KeepsClock, normal]
        cases command <;> trivial
  | dispatched command write normal free done reads =>
      have keeps : db.KeepsClock entry ↔ db.view.CommandKeepsClock command := by
        rw [KeepsClock, normal]
      rw [keeps, ← GroupView.dispatch_covered_iff covered guarded guarded.records.listed done]
      refine GroupView.expiredCovered_congr fun key inside => reads key ?_
      simp only [GroupView.clockFamilies, List.mem_cons, List.not_mem_nil, or_false] at inside ⊢
      rcases inside with inside | inside <;> simp [inside]

theorem Traced.clockFollows (data : identity.kind = .data)
    (traced : Traced identity window content Allowed steps db) :
    (∀ step ∈ steps, step.before.view.ClockFollows step.after.view ∧
      step.after.view.ClockFollows db.view) ∧
      steps.Pairwise fun earlier later => earlier.after.view.ClockFollows later.after.view := by
  have reached : ∀ view : GroupView, view.get = db.get →
      (∀ step ∈ steps, step.before.view.ClockFollows step.after.view ∧
        step.after.view.ClockFollows view) ∧
        steps.Pairwise fun earlier later => earlier.after.view.ClockFollows later.after.view := by
    refine @Traced.invariant identity window content Allowed steps db
      (fun steps get => ∀ view : GroupView, view.get = get →
        (∀ step ∈ steps, step.before.view.ClockFollows step.after.view ∧
          step.after.view.ClockFollows view) ∧
          steps.Pairwise fun earlier later => earlier.after.view.ClockFollows later.after.view)
      ?_ ?_ traced
    · intro view empty
      exact ⟨by simp, .nil⟩
    · intro steps db next entry result traced held due allowed done view same
      obtain ⟨before, ordered⟩ := held db.view rfl
      have follows := applyEntry_clockFollows (traced.ran.guarded data) done
      have final (earlier : Step) (member : earlier ∈ steps) :
          earlier.after.view.ClockFollows next.view := (before earlier member).2.trans follows
      have lands {earlier : GroupView} (reached : earlier.ClockFollows next.view) :
          earlier.ClockFollows view :=
        reached.trans (GroupView.clockFollows_same (by rw [same]; rfl))
      constructor
      · intro step member
        rcases List.mem_append.mp member with old | new
        · exact ⟨(before step old).1, lands (final step old)⟩
        · obtain rfl := List.mem_singleton.mp new
          exact ⟨follows, lands (GroupView.clockFollows_same rfl)⟩
      · refine List.pairwise_append.mpr ⟨ordered, List.pairwise_singleton _ _, ?_⟩
        intro earlier member later new
        obtain rfl := List.mem_singleton.mp new
        exact final earlier member
  exact reached db.view rfl

theorem Ran.expiredCovered {history : List GroupEntry} (data : identity.kind = .data)
    (ran : Ran identity window content (fun db entry => db.KeepsClock entry) history db) :
    db.view.ExpiredCovered := by
  have reached : ∀ view : GroupView, view.get = db.get → view.ExpiredCovered := by
    refine @Ran.invariant identity window content (fun db entry => db.KeepsClock entry) history db
      (fun get => ∀ view : GroupView, view.get = get → view.ExpiredCovered) ?_ ?_ ran
    · intro view empty id lease stored
      rw [empty] at stored
      simp at stored
    · intro history db next entry result ran held due keeps done view same
      have kept := (applyEntry_covered_iff (held db.view rfl) (ran.guarded data) done).mpr keeps
      exact kept.frame fun key _ => by rw [same, view_get]
  exact reached db.view rfl

/-- Along every trace whose entries keep the clock, the stored clock has reached the end of every
expired lease, so no later clock finds it active; and the stored clock never runs back. -/
theorem expired_leases_behind_clock (data : identity.kind = .data)
    (traced : Traced identity window content (fun db entry => db.KeepsClock entry) steps db) :
    db.view.ExpiredCovered ∧
    (∀ (id : ReplayLeaseId) (lease : ReplayLease), db.get (.leaseId id) = some lease →
      lease.lifecycle = .expired → ∀ observation clock,
        db.view.advanceLeaseClock observation = .ok clock →
        leaseIsEffectivelyActive { lease with lifecycle := .active } clock = false) ∧
    (∀ step ∈ steps, step.before.view.ClockFollows step.after.view ∧
      step.after.view.ClockFollows db.view) ∧
    steps.Pairwise fun earlier later => earlier.after.view.ClockFollows later.after.view := by
  have covered := traced.ran.expiredCovered data
  refine ⟨covered, ?_, traced.clockFollows data⟩
  intro id lease stored expired observation clock advanced
  obtain ⟨before, found, bound⟩ := covered id lease stored expired
  have later := (GroupView.advanceLeaseClock_notBehind advanced found).1
  unfold ReplayLease.deadline at bound
  simp only [leaseIsEffectivelyActive, Bool.and_eq_false_iff, decide_eq_false_iff_not]
  omega

def leaseStart : List GroupEntry :=
  [⟨⟨1, 1, 1⟩, .normal (.bootstrapData sampleSpec)⟩,
    ⟨⟨1, 1, 2⟩, .normal (.publish (samplePublish sampleCluster 0 none))⟩]

def leaseEntry : GroupEntry :=
  ⟨⟨1, 1, 3⟩, .normal (.admitReplayLease
    ⟨sampleRequest 0, sampleCluster, ⟨samplePartition, 0, 1, Nat.one_pos⟩, 1, 1, Nat.one_ne_zero,
      Nat.one_ne_zero⟩ sampleClock)⟩

def laterClock : ClockObservation := ⟨5, 5, le_rfl⟩

def expiryEntry : GroupEntry :=
  ⟨⟨1, 1, 4⟩, .normal (.maintainRetention samplePartition 0 9 9 laterClock)⟩

/-- A maintenance ends the lease and stores its clock. -/
theorem expired_leases_behind_clock_sample : ∃ steps db lease,
    Traced freshData.identity 2 (fun _ => [7]) (fun db entry => db.KeepsClock entry) steps db ∧
    db.get (.leaseId (.derived (sampleRequest 0))) = some lease ∧ lease.lifecycle = .expired ∧
    db.view.ClockReached lease.deadline := by
  have stored : freshData.leaves ([] ++ leaseStart) (fun db => decide (db.view.leases = []) &&
      yields (db.submit leaseEntry) fun leased =>
        yields (leased.2.submit expiryEntry) fun last =>
          (last.2.get (.leaseId (.derived (sampleRequest 0)))).any fun lease =>
            decide (lease.lifecycle = .expired)) = true := by decide
  obtain ⟨results, db, started, stored⟩ := leaves_iff.mp stored
  rw [Bool.and_eq_true, decide_eq_true_eq] at stored
  obtain ⟨none, stored⟩ := stored
  obtain ⟨⟨_, leased⟩, leases, stored⟩ := yields_iff.mp stored
  obtain ⟨⟨_, last⟩, expires, stored⟩ := yields_iff.mp stored
  obtain ⟨lease, found, expired⟩ := (Option.any_eq_true _ _).mp stored
  rw [decide_eq_true_eq] at expired
  have settled : ∀ entry ∈ leaseStart, ∀ met : GroupDb, met.KeepsClock entry := by
    intro entry member met
    simp only [leaseStart, List.mem_cons, List.not_mem_nil, or_false] at member
    rcases member with rfl | rfl <;> trivial
  have kept : (db.append [leaseEntry]).KeepsClock leaseEntry := by
    intro clock fresh advanced
    refine .inl fun id lease stored due => ?_
    have listed : lease ∈ db.view.leases := mem_scanLeases.mpr ⟨id, stored⟩
    rw [none] at listed
    simp at listed
  have used : db.UsedBelow 3 := (create_usedBelow freshData.identity 2).submitAll
    (by decide) (by decide) (by decide) started
  have first : Ran freshData.identity 2 (fun _ => [7])
      (fun db entry => db.KeepsClock entry) ([] ++ leaseStart) db :=
    Ran.submitAll .created (create_usedBelow _ _) (by decide) (by decide) settled started
  have second := first.submit used (by decide) (by decide) kept leases
  have maintained : (leased.append [expiryEntry]).KeepsClock expiryEntry := trivial
  have third := second.submit (used.submit (by decide) leases) (by decide) (by decide)
    maintained expires
  obtain ⟨steps, _, traced⟩ := third.traced
  obtain ⟨covered, _⟩ := expired_leases_behind_clock rfl traced
  exact ⟨steps, last, lease, traced, found, expired, covered _ lease found expired⟩

def expiringEntries : List GroupEntry :=
  leaseStart ++ [leaseEntry, ⟨⟨1, 1, 4⟩, .normal (.renewReplayLease
    ⟨sampleRequest 1, samplePartition, .derived (sampleRequest 0), 1, Nat.one_ne_zero⟩ laterClock)⟩]

/-- The refused renewal expires the lease and leaves the clock at zero; a later command may read a
clock at which the lease would still be active. -/
theorem refused_lease_command_outruns_clock : ∃ db,
    Ran freshData.identity 2 (fun _ => [7]) (fun _ _ => True) expiringEntries db ∧
    ∃ lease clock, db.get (.leaseId (.derived (sampleRequest 0))) = some lease ∧
      lease.lifecycle = .expired ∧ db.get .leaseClock = some clock ∧
      clock.lowerBound < min lease.expiresAt lease.hardExpiresAt ∧
      db.view.advanceLeaseClock sampleClock = .ok clock ∧
      leaseIsEffectivelyActive { lease with lifecycle := .active } clock = true := by
  have behind : freshData.leaves ([] ++ expiringEntries) (fun db =>
      (db.get (.leaseId (.derived (sampleRequest 0)))).any fun lease =>
        (db.get .leaseClock).any fun clock =>
          decide (lease.lifecycle = .expired ∧
            clock.lowerBound < min lease.expiresAt lease.hardExpiresAt) &&
          decide (db.view.advanceLeaseClock sampleClock = .ok clock) &&
          leaseIsEffectivelyActive { lease with lifecycle := .active } clock) = true := by decide
  obtain ⟨results, db, submitted, behind⟩ := leaves_iff.mp behind
  have ran : Ran freshData.identity 2 (fun _ => [7]) (fun _ _ => True)
      ([] ++ expiringEntries) db :=
    Ran.submitAll .created (create_usedBelow _ _) (by decide) (by decide)
      (fun _ _ _ => trivial) submitted
  rw [List.nil_append] at ran
  obtain ⟨lease, stored, behind⟩ := (Option.any_eq_true _ _).mp behind
  obtain ⟨clock, found, behind⟩ := (Option.any_eq_true _ _).mp behind
  simp only [Bool.and_eq_true, decide_eq_true_eq] at behind
  obtain ⟨⟨⟨expired, early⟩, advanced⟩, active⟩ := behind
  exact ⟨db, ran, lease, clock, stored, expired, found, early, advanced, active⟩

end GroupDb

end LightStream
