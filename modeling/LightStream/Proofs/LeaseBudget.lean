import LightStream.Proofs.Entries
import LightStream.Proofs.LeaseSpec
import LightStream.Proofs.Replay

/-!
The lease budget.  It counts the active leases and the bytes that they protect, whatever expires,
is admitted, renewed or released.
-/

namespace LightStream

theorem admit_room {id : ReplayLeaseId} {request : ReplayLeaseRequest} {protectedBytes : Nat}
    {state : AdmissionState} {lease : ReplayLease}
    (admitted : admitLease id request protectedBytes state = .ok lease) :
    state.budget.activeLeases < state.limits.maxActiveLeases ∧
      saturatingAdd state.budget.reservedBytes protectedBytes ≤
        state.limits.maxGroupReservedLeaseBytes := by
  unfold admitLease at admitted
  split at admitted
  · simp at admitted
  split at admitted
  · simp at admitted
  split at admitted
  · simp at admitted
  split at admitted
  · simp at admitted
  split at admitted
  · simp at admitted
  rename_i counted
  split at admitted
  · simp at admitted
  rename_i fits
  exact ⟨by omega, by omega⟩

theorem saturatingAdd_fits {first second limit : Nat} (small : limit < u64Max)
    (within : saturatingAdd first second ≤ limit) : saturatingAdd first second = first + second := by
  unfold saturatingAdd at within ⊢
  omega

def ReplayLease.isActive (lease : ReplayLease) : Bool := decide (lease.lifecycle = .active)

namespace GroupView

variable {view : GroupView} {leases : List ReplayLease} {clock : SafeLeaseClock}

structure Budgeted (view : GroupView) (leases : List ReplayLease) : Prop where
  listing : Kv.Listing (fun id => view.get (.leaseId id)) ReplayLease.id ReplayLease.isActive leases
  budget : view.budgetOf = ⟨leases.length, Kv.weigh ReplayLease.protectedBytes leases⟩
  counted : leases.length ≤ 256
  reserved : Kv.weigh ReplayLease.protectedBytes leases ≤ 4 * 1024 * 1024 * 1024

def budgetedFamilies : List StateFamily := [.lease, .leaseBudget]

theorem Budgeted.frame {other : GroupView} (budgeted : view.Budgeted leases)
    (same : ∀ key : StateKey, key.family ∈ budgetedFamilies → other.get key = view.get key) :
    other.Budgeted leases where
  listing := budgeted.listing.congr fun id => same _ (by simp [StateKey.family, budgetedFamilies])
  budget := by
    rw [budgetOf, same _ (by simp [StateKey.family, budgetedFamilies])]
    exact budgeted.budget
  counted := budgeted.counted
  reserved := budgeted.reserved

theorem Budgeted.within {families : List StateFamily} {writes : StateBatch}
    (budgeted : view.Budgeted leases) (within : Within families writes)
    (outside : ∀ family ∈ budgetedFamilies, family ∉ families) :
    (view.after writes).Budgeted leases :=
  budgeted.frame fun _ inside => after_get_of_within within (outside _ inside)

theorem budgeted_empty (empty : ∀ key, view.get key = none) : view.Budgeted [] where
  listing := .empty fun _ => empty _
  budget := by
    rw [budgetOf, empty]
    rfl
  counted := by simp
  reserved := by simp

theorem scanLeases_nodup {store : StateStore}
    (keyed : ∀ (id : ReplayLeaseId) (lease : ReplayLease), store.get (.leaseId id) = some lease →
      lease.id = id) : (scanLeases store).Nodup := by
  unfold scanLeases
  refine List.Nodup.filterMap ?_ (Kv.Store.scan_nodup ?_)
  · intro first second lease inFirst inSecond
    rw [← keyed first lease inFirst, keyed second lease inSecond]
  · intro first second id isFirst isSecond
    rw [leaseIndex_some.mp isFirst, leaseIndex_some.mp isSecond]

section Expiry

theorem Budgeted.due (budgeted : view.Budgeted leases) (listed : view.Listed)
    (once : view.leases.Nodup) :
    (dueLeases clock view.leases).Perm (leases.filter (isDue clock)) := by
  refine (List.perm_ext_iff_of_nodup (once.filter _) (budgeted.listing.nodup.filter _)).mpr ?_
  intro lease
  show lease ∈ dueLeases clock view.leases ↔ _
  rw [mem_dueLeases listed, List.mem_filter, budgeted.listing.mem]
  constructor
  · rintro ⟨stored, due⟩
    refine ⟨⟨stored, ?_⟩, due⟩
    have active : lease.lifecycle = .active := by
      simp only [isDue, Bool.and_eq_true, decide_eq_true_eq] at due
      exact due.1
    simp [ReplayLease.isActive, active]
  · rintro ⟨⟨stored, _⟩, due⟩
    exact ⟨stored, due⟩

theorem Budgeted.remaining (budgeted : view.Budgeted leases) (listed : view.Listed)
    (once : view.leases.Nodup) :
    (view.expireDueLeases clock).budget =
      ⟨(leases.filter fun lease => !isDue clock lease).length,
        Kv.weigh ReplayLease.protectedBytes (leases.filter fun lease => !isDue clock lease)⟩ := by
  have due := @Budgeted.due view leases clock budgeted listed once
  have count := List.length_eq_length_filter_add (l := leases) (isDue clock)
  have bytes := @Kv.weigh_split _ leases ReplayLease.protectedBytes (isDue clock)
  have ended := @Kv.weigh_perm _ _ _ ReplayLease.protectedBytes due
  rw [expireDueLeases_budget, budgeted.budget, dropAll, due.length_eq, LeaseBudget.mk.injEq]
  unfold Kv.weigh at ended bytes ⊢
  dsimp only
  constructor <;> omega

theorem Budgeted.expired (budgeted : view.Budgeted leases) (listed : view.Listed)
    (once : view.leases.Nodup) :
    (view.expired clock).Budgeted (leases.filter fun lease => !isDue clock lease) where
  listing := by
    refine budgeted.listing.dropped ?_ fun id => expired_lease listed id
    intro lease due
    simp [ReplayLease.expired, ReplayLease.isActive]
  budget := by
    rw [expired_budgetOf]
    exact budgeted.remaining listed once
  counted := (List.length_filter_le _ _).trans budgeted.counted
  reserved := by
    have split := @Kv.weigh_split _ leases ReplayLease.protectedBytes (isDue clock)
    have bound := budgeted.reserved
    omega

end Expiry

section Decisions

variable {decision : LeaseDecision} {id : ReplayLeaseId} {lease : ReplayLease}
  {families : List StateFamily} {rest : StateBatch}

theorem budgetOf_put (budget : LeaseBudget) {first : StateBatch} (within : Within families rest)
    (outside : StateFamily.leaseBudget ∉ families) :
    (view.after (first ++ .put .leaseBudget budget :: rest)).budgetOf = budget := by
  have silent : Kv.Batch.effect rest .leaseBudget = none :=
    within.effect_none (by simpa [StateKey.family] using outside)
  rw [budgetOf, after_append]
  simp [after, Kv.pending, silent]

theorem Budgeted.storeActive (budgeted : view.Budgeted leases) {old : ReplayLease}
    (stored : view.get (.leaseId lease.id) = some old) (own : old.id = lease.id)
    (was : old.isActive = true) (active : lease.isActive = true)
    (bytes : lease.protectedBytes = old.protectedBytes) (within : Within families rest)
    (outside : ∀ family ∈ budgetedFamilies, family ∉ families) :
    (view.after (.put (.leaseId lease.id) lease :: rest)).Budgeted (leases.erase old ++ [lease]) := by
  have member : old ∈ leases := (budgeted.listing.mem old).mpr ⟨by rwa [own], was⟩
  have count := (List.perm_cons_erase member).length_eq
  have weight := @Kv.weigh_erase _ _ ReplayLease.protectedBytes _ _ member
  rw [List.length_cons] at count
  have length : (leases.erase old ++ [lease]).length = leases.length := by
    rw [List.length_append, List.length_singleton, count]
  have total : Kv.weigh ReplayLease.protectedBytes (leases.erase old ++ [lease]) =
      Kv.weigh ReplayLease.protectedBytes leases := by
    rw [Kv.weigh_append, Kv.weigh_cons, Kv.weigh_nil, bytes]
    omega
  have budget : (view.after (.put (.leaseId lease.id) lease :: rest)).budgetOf = view.budgetOf := by
    have writes : Within (.lease :: families) (.put (.leaseId lease.id) lease :: rest) :=
      within_cons.mpr ⟨by simp [StateKey.family], within.mono (by simp)⟩
    rw [budgetOf, budgetOf, after_get_of_within writes]
    rw [List.mem_cons, not_or]
    exact ⟨by simp [StateKey.family], outside _ (by decide)⟩
  constructor
  · exact budgeted.listing.replaced lease stored own active
      fun other => storeLease_get within (outside _ (by decide)) other
  · rw [budget, budgeted.budget, length, total]
  · rw [length]
    exact budgeted.counted
  · rw [total]
    exact budgeted.reserved

theorem Budgeted.admitted (budgeted : (view.expired clock).Budgeted leases)
    {request : ReplayLeaseRequest}
    (absent : (view.expired clock).get (.leaseId (.derived request.request)) = none)
    (case : view.AdmitCase request clock (view.expireDueLeases clock) decision) :
    ∃ leases, ((view.expired clock).after decision.2).Budgeted leases := by
  cases case with
  | refused error => exact ⟨leases, budgeted⟩
  | admitted bytes lease sized admits =>
      obtain ⟨own, _, protectedBytes, active, _⟩ := admit_ok admits
      obtain ⟨counted, fits⟩ := admit_room admits
      rw [← expired_budgetOf, budgeted.budget] at counted fits
      have sum := @saturatingAdd_fits _ _ (4 * 1024 * 1024 * 1024) (by decide) fits
      have room : Kv.weigh ReplayLease.protectedBytes leases + bytes ≤ 4 * 1024 * 1024 * 1024 := by
        rw [← sum]
        exact fits
      refine ⟨leases ++ [lease], ?_, ?_, ?_, ?_⟩
      · refine budgeted.listing.inserted (by rw [own]; exact absent)
          (by simp [ReplayLease.isActive, active]) fun other => ?_
        exact storeLease_get (show Within [.leaseRequest, .leaseBudget, .leaseClock] _ by
          simp [StateKey.family]) (by decide) other
      · rw [← expired_budgetOf, budgeted.budget, sum]
        refine (@budgetOf_put (view.expired clock) [.leaseClock] [.put .leaseClock clock] _ [_, _]
          (by simp [StateKey.family]) (by decide)).trans ?_
        simp [protectedBytes]
      · rw [List.length_append, List.length_singleton]
        exact counted
      · rw [Kv.weigh_append, Kv.weigh_cons, Kv.weigh_nil, protectedBytes]
        exact room

theorem Budgeted.renewed (budgeted : (view.expired clock).Budgeted leases) (listed : view.Listed)
    {request : LeaseRenewal} (case : view.RenewCase request clock decision) :
    ∃ leases, ((view.expired clock).after decision.2).Budgeted leases := by
  cases case with
  | refused error => exact ⟨leases, budgeted⟩
  | renewed lease renewed expiresAt stored effective later renews =>
      obtain ⟨same, active, _⟩ := renewed_kept renews
      have own : lease.id = request.lease := listed.keyed _ _ stored
      have kept : renewed.id = request.lease := by rw [same, own]
      have present : (view.expired clock).get (.leaseId renewed.id) = some lease := by
        rw [kept]
        exact expired_effective listed stored effective
      dsimp only
      rw [← kept]
      refine ⟨_, budgeted.storeActive present (own.trans kept.symm) ?_ ?_ ?_
        (show Within [.leaseClock] _ by simp [StateKey.family]) (by decide)⟩
      · simp [ReplayLease.isActive, active]
      · simp [ReplayLease.isActive, same, active]
      · rw [same]

theorem Budgeted.released (budgeted : (view.expired clock).Budgeted leases)
    (listed : view.Listed) {request : LeaseRelease}
    (case : view.ReleaseCase request clock (view.expireDueLeases clock) decision) :
    ∃ leases, ((view.expired clock).after decision.2).Budgeted leases := by
  cases case with
  | refused error => exact ⟨leases, budgeted⟩
  | released lease stored effective =>
      have own : lease.id = request.lease := listed.keyed _ _ stored
      have present : (view.expired clock).get (.leaseId lease.id) = some lease := by
        rw [own]
        exact expired_effective listed stored effective
      dsimp only
      rw [← own]
      have active : lease.isActive = true := by
        simp only [leaseIsEffectivelyActive, Bool.and_eq_true, decide_eq_true_eq] at effective
        simp [ReplayLease.isActive, effective.1.1]
      have member : lease ∈ leases := (budgeted.listing.mem lease).mpr ⟨present, active⟩
      have count := (List.perm_cons_erase member).length_eq
      have weight := @Kv.weigh_erase _ _ ReplayLease.protectedBytes _ _ member
      rw [List.length_cons] at count
      have within := @releaseWrites_within view (view.expireDueLeases clock) lease
        ⟨(view.expireDueLeases clock).budget.activeLeases - 1,
          (view.expireDueLeases clock).budget.reservedBytes - lease.protectedBytes⟩ clock
      refine ⟨leases.erase lease, ?_, ?_, ?_, ?_⟩
      · exact budgeted.listing.removed lease.released present rfl
          (by simp [ReplayLease.isActive, ReplayLease.released])
          fun other => storeLease_get within (by decide) other
      · refine (@budgetOf_put (view.expired clock) [.leaseClock] [.put .leaseClock clock] _
          (.put (.leaseId lease.id) lease.released ::
            view.releaseReclaim (view.expireDueLeases clock) lease.range)
          (by simp [StateKey.family]) (by decide)).trans ?_
        rw [← expired_budgetOf, budgeted.budget, LeaseBudget.mk.injEq]
        dsimp only
        constructor <;> omega
      · have bound := budgeted.counted
        omega
      · have bound := budgeted.reserved
        omega

end Decisions

theorem LeaseCase.budgeted {request : MutationRequestId} {fingerprint : MutationFingerprint}
    {observation : ClockObservation} {decision : SafeLeaseClock → LeaseExpiryState → LeaseDecision}
    {result : ApplyResult} {write : WriteBatch} (budgeted : view.Budgeted leases)
    (listed : view.Listed) (once : view.leases.Nodup)
    (case : view.LeaseCase request fingerprint observation decision result write)
    (decided : ∀ {clock leases}, view.priorMutationResult request fingerprint = none →
      (view.expired clock).Budgeted leases → ∃ leases, ((view.expired clock).after
        (decision clock (view.expireDueLeases clock)).2).Budgeted leases) :
    ∃ leases, (view.after write.state).Budgeted leases := by
  cases case with
  | answered result prior => exact ⟨leases, budgeted⟩
  | unclocked fresh error clockless =>
      exact ⟨leases, budgeted.within (storeMutationResult_within _ _ _) (by decide)⟩
  | decided fresh clock advanced =>
      obtain ⟨leases, kept⟩ := decided fresh (budgeted.expired listed once)
      refine ⟨leases, kept.frame fun key inside => LeaseCase.decided_get ?_⟩
      rintro mutation
      rw [mutation] at inside
      simp [budgetedFamilies] at inside

theorem dispatch_budgeted {logId : GroupLogId} {command : GroupCommand} {result : ApplyResult}
    {write : WriteBatch} (budgeted : view.Budgeted leases) (guarded : view.Guarded)
    (listed : view.Listed) (once : view.leases.Nodup)
    (done : view.dispatch logId command = .ok (result, write)) :
    ∃ leases, (view.after write.state).Budgeted leases := by
  have quiet (outside : ∀ family ∈ budgetedFamilies, family ∉ command.families) :
      ∃ leases, (view.after write.state).Budgeted leases :=
    ⟨leases, budgeted.within (dispatch_within command result write done) outside⟩
  cases command with
  | admitReplayLease request clock =>
      refine (applyAdmitReplayLease_case done).budgeted budgeted listed once ?_
      intro clock leases fresh budgeted
      refine budgeted.admitted ?_ (admitDecision_case request)
      rw [expired_lease listed, guarded.requests.unadmitted fresh]
      rfl
  | renewReplayLease request clock =>
      exact (applyRenewReplayLease_case done).budgeted budgeted listed once
        fun _ budgeted => budgeted.renewed listed (renewDecision_case request)
  | releaseReplayLease request clock =>
      exact (applyReleaseReplayLease_case done).budgeted budgeted listed once
        fun _ budgeted => budgeted.released listed (releaseDecision_case request)
  | maintainRetention partition expectedCursor maxRecords maxPayloadBytes observation =>
      rcases applyMaintainRetention_cases guarded.records listed done with
        rfl | ⟨clock, _, after, reclaimed, _, _, _, final, _⟩
      · exact ⟨leases, budgeted⟩
      refine ⟨_, (@Budgeted.expired view leases clock budgeted listed once).frame fun key inside => ?_⟩
      refine final.frame key fun outside => ?_
      simp only [budgetedFamilies, List.mem_cons, List.not_mem_nil, or_false] at inside outside
      rcases inside with lease | budget <;> simp_all
  | publish | publishMany =>
      exact quiet (show ∀ family ∈ budgetedFamilies, family ∉ publishAllFamilies by decide)
  | exportProtocol command =>
      cases command <;> exact quiet (by simp [GroupCommand.families, budgetedFamilies])
  | _ => exact quiet (by simp [GroupCommand.families, budgetedFamilies])

/-- No saturating operation on the budget saturates: not a subtraction of the expiry at any of the
leases that it passes, not that of a release, and not the additions of an admission. -/
structure Unsaturated (view : GroupView) : Prop where
  expiry : ∀ (clock : SafeLeaseClock) (before : List ReplayLease) (lease : ReplayLease)
    (rest : List ReplayLease), view.leases = before ++ lease :: rest → isDue clock lease = true →
      1 ≤ (before.foldl (view.expireLease clock)
          ⟨view.budgetOf, [], [], [], []⟩).budget.activeLeases ∧
        lease.protectedBytes ≤ (before.foldl (view.expireLease clock)
          ⟨view.budgetOf, [], [], [], []⟩).budget.reservedBytes
  release : ∀ (clock : SafeLeaseClock) (id : ReplayLeaseId) (lease : ReplayLease),
    view.get (.leaseId id) = some lease → leaseIsEffectivelyActive lease clock = true →
      1 ≤ (view.expireDueLeases clock).budget.activeLeases ∧
        lease.protectedBytes ≤ (view.expireDueLeases clock).budget.reservedBytes
  admission : ∀ (clock : SafeLeaseClock) (bytes : Nat), bytes ≤ RetentionLimits.default.maxLeaseBytes →
    (view.expireDueLeases clock).budget.activeLeases + 1 < 2 ^ 32 ∧
      (view.expireDueLeases clock).budget.reservedBytes + bytes ≤ u64Max

theorem Budgeted.unsaturated (budgeted : view.Budgeted leases) (listed : view.Listed)
    (once : view.leases.Nodup) : view.Unsaturated where
  expiry := by
    intro clock before lease rest split due
    have ended := @Budgeted.due view leases clock budgeted listed once
    have count := List.length_filter_le (isDue clock) leases
    have bytes := @Kv.weigh_split _ leases ReplayLease.protectedBytes (isDue clock)
    have weight := @Kv.weigh_perm _ _ _ ReplayLease.protectedBytes ended
    have length := ended.length_eq
    rw [split, dueLeases, List.filter_append, List.filter_cons_of_pos due] at weight length
    rw [Kv.weigh_append, Kv.weigh_cons] at weight
    rw [List.length_append, List.length_cons] at length
    rw [foldl_expireLease_budget, budgeted.budget, dropAll, dueLeases]
    unfold Kv.weigh at weight bytes ⊢
    dsimp only
    constructor <;> omega
  release := by
    intro clock id lease stored effective
    obtain rfl := listed.keyed id lease stored
    have active : lease.isActive = true := by
      simp only [leaseIsEffectivelyActive, Bool.and_eq_true, decide_eq_true_eq] at effective
      simp [ReplayLease.isActive, effective.1.1]
    have member : lease ∈ leases.filter fun lease => !isDue clock lease := by
      rw [List.mem_filter, budgeted.listing.mem]
      exact ⟨⟨stored, active⟩, by simp [isDue, effective]⟩
    have weight := @Kv.weigh_erase _ _ ReplayLease.protectedBytes _ _ member
    rw [budgeted.remaining listed once]
    exact ⟨List.length_pos_of_mem member, by dsimp only; omega⟩
  admission := by
    intro clock bytes small
    have kept := @Budgeted.expired view leases clock budgeted listed once
    have counted := kept.counted
    have reserved := kept.reserved
    rw [budgeted.remaining listed once]
    simp only [RetentionLimits.default] at small
    unfold u64Max
    dsimp only
    constructor <;> omega

end GroupView

namespace GroupDb

variable {identity : GroupIdentity} {window : Nat} {content : PayloadId → Record}
  {Allowed : GroupDb → GroupEntry → Prop} {history : List GroupEntry} {db : GroupDb}

theorem Ran.once (data : identity.kind = .data)
    (ran : Ran identity window content Allowed history db) : db.view.leases.Nodup :=
  GroupView.scanLeases_nodup (ran.guarded data).records.keyed

theorem Ran.budgeted (data : identity.kind = .data)
    (ran : Ran identity window content Allowed history db) :
    ∃ leases, db.view.Budgeted leases := by
  refine @Ran.upheld identity window content Allowed history db
    (fun view => ∃ leases, view.Budgeted leases) GroupView.budgetedFamilies (by decide) ?_ ?_ ?_ ran
  · rintro view other ⟨leases, budgeted⟩ same
    exact ⟨leases, budgeted.frame same⟩
  · intro view empty
    exact ⟨[], GroupView.budgeted_empty empty⟩
  · rintro history db logId command result write ran ⟨leases, budgeted⟩ due allowed free done
    have guarded := ran.guarded data
    exact GroupView.dispatch_budgeted budgeted guarded guarded.records.listed (ran.once data) done

/-- In every reachable state the budget is the count and the bytes of the active leases, within the
limits, and no operation on it saturates. -/
theorem lease_budget_exact (data : identity.kind = .data)
    (ran : Ran identity window content Allowed history db) :
    let active := db.view.leases.filter ReplayLease.isActive
    (active.Nodup ∧ ∀ lease, lease ∈ active ↔
      (∃ id, db.get (.leaseId id) = some lease) ∧ lease.lifecycle = .active) ∧
      db.view.budgetOf = ⟨active.length, (active.map ReplayLease.protectedBytes).sum⟩ ∧
      active.length ≤ 256 ∧
      (active.map ReplayLease.protectedBytes).sum ≤ 4 * 1024 * 1024 * 1024 ∧
      db.view.Unsaturated := by
  intro active
  obtain ⟨leases, budgeted⟩ := ran.budgeted data
  have listed := (ran.guarded data).records.listed
  have once : active.Nodup := (ran.once data).filter _
  have mem (lease : ReplayLease) : lease ∈ active ↔
      (∃ id, db.get (.leaseId id) = some lease) ∧ lease.lifecycle = .active := by
    rw [List.mem_filter, listed.leases]
    simp [ReplayLease.isActive]
  have perm : active.Perm leases := by
    refine (List.perm_ext_iff_of_nodup once budgeted.listing.nodup).mpr fun lease => ?_
    rw [mem, budgeted.listing.mem]
    constructor
    · rintro ⟨⟨id, stored⟩, live⟩
      obtain rfl := listed.keyed id lease stored
      exact ⟨stored, by simp [ReplayLease.isActive, live]⟩
    · rintro ⟨stored, live⟩
      exact ⟨⟨_, stored⟩, by simpa [ReplayLease.isActive] using live⟩
  have length := perm.length_eq
  have bytes : (active.map ReplayLease.protectedBytes).sum =
      Kv.weigh ReplayLease.protectedBytes leases := Kv.weigh_perm perm
  refine ⟨⟨once, mem⟩, ?_, ?_, ?_, budgeted.unsaturated listed (ran.once data)⟩
  · rw [budgeted.budget, length, bytes]
  · rw [length]
    exact budgeted.counted
  · rw [bytes]
    exact budgeted.reserved

theorem lease_budget_exact_sample : ∃ db,
    Ran freshData.identity 2 (fun _ => [7]) (fun _ _ => True) replayEntries db ∧
    db.view.budgetOf = ⟨1, 1⟩ ∧ (db.view.leases.filter ReplayLease.isActive).length = 1 ∧
    db.view.Unsaturated := by
  have leased : freshData.leaves replayEntries (fun db =>
      decide (db.view.budgetOf = ⟨1, 1⟩)) = true := by decide
  obtain ⟨results, db, submitted, leased⟩ := leaves_iff.mp leased
  simp only [decide_eq_true_eq] at leased
  have ran : Ran freshData.identity 2 (fun _ => [7]) (fun _ _ => True) replayEntries db :=
    Ran.submitAll .created (create_usedBelow _ _) (by decide) (by decide)
      (fun _ _ _ => trivial) submitted
  obtain ⟨_, budget, _, _, unsaturated⟩ := lease_budget_exact rfl ran
  refine ⟨db, ran, leased, ?_, unsaturated⟩
  rw [leased, LeaseBudget.mk.injEq] at budget
  exact budget.1.symm

end GroupDb

end LightStream
