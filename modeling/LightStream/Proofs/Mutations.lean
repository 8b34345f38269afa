import LightStream.Proofs.Protection

/-!
The commands with a mutation receipt: a request is decided once, so an admitted lease is new, and
retention and lease decisions keep the protection.
-/

namespace LightStream

namespace GroupView

variable {view : GroupView}

def Passed (view : GroupView) (request : MutationRequestId) : Prop :=
  ((view.get (mutationSessionKey request)).getD SessionState.default).covers request.sequence = true

def Requested (view : GroupView) : Prop :=
  ∀ id : ReplayLeaseId, (view.get (.leaseId id)).isSome = true →
    ∃ request, id = .derived request ∧ view.Passed request

section Receipt

variable {request : MutationRequestId} {fingerprint : MutationFingerprint} {result : ApplyResult}

theorem priorMutationResult_fresh (fresh : view.priorMutationResult request fingerprint = none) :
    ((view.get (mutationSessionKey request)).getD SessionState.default).covers request.sequence =
      false := by
  unfold priorMutationResult at fresh
  split at fresh
  · split at fresh <;> simp at fresh
  · split at fresh
    · simp at fresh
    · rename_i uncovered
      simpa using uncovered

theorem storeMutationResult_passed {other : GroupView}
    (sessions : ∀ key : StateKey, key.family = .mutation → other.get key = view.get key)
    (fresh : view.priorMutationResult request fingerprint = none) {passed : MutationRequestId}
    (had : passed = request ∨ view.Passed passed) :
    (other.after (view.storeMutationResult request fingerprint result)).Passed passed := by
  have newer := priorMutationResult_fresh fresh
  unfold Passed at had ⊢
  by_cases same : mutationSessionKey passed = mutationSessionKey request
  · simp only [mutationSessionKey, StateKey.mutationSession.injEq] at same
    obtain ⟨principal, session⟩ := same
    have stored : (other.after (view.storeMutationResult request fingerprint result)).get
        (.mutationSession request.principal request.session) =
          some (((view.get (mutationSessionKey request)).getD SessionState.default).advance
            view.receiptWindow request.sequence).1 := by
      unfold storeMutationResult
      dsimp only
      split <;> simp [after, Kv.pending]
    unfold mutationSessionKey at had ⊢
    rw [principal, session, stored, Option.getD_some]
    rcases had with rfl | covered
    · simp [SessionState.covers, SessionState.advance_highest]
    · rw [principal, session] at covered
      exact SessionState.covers_advance newer covered
  · have untouched : (other.after (view.storeMutationResult request fingerprint result)).get
        (mutationSessionKey passed) = view.get (mutationSessionKey passed) := by
      rw [← sessions _ rfl]
      refine Kv.pending_of_untouched (Kv.Batch.effect_eq_none_iff.mpr ?_)
      intro op member
      unfold storeMutationResult at member
      dsimp only at member
      split at member
      · simp only [List.mem_cons, List.not_mem_nil, or_false] at member
        rcases member with rfl | rfl
        · simp [mutationSessionKey]
        · exact Ne.symm same
      · simp only [List.mem_cons, List.not_mem_nil, or_false] at member
        rcases member with rfl | rfl | rfl
        · simp [mutationSessionKey]
        · simp [mutationSessionKey]
        · exact Ne.symm same
    rw [untouched]
    rcases had with rfl | covered
    · exact absurd rfl same
    · exact covered

theorem Requested.recorded {other : GroupView} (requested : view.Requested)
    (fresh : view.priorMutationResult request fingerprint = none)
    (sessions : ∀ key : StateKey, key.family = .mutation → other.get key = view.get key)
    (leases : ∀ id : ReplayLeaseId, (other.get (.leaseId id)).isSome = true →
      id = .derived request ∨ (view.get (.leaseId id)).isSome = true) :
    (other.after (view.storeMutationResult request fingerprint result)).Requested := by
  intro id present
  rw [after_get_of_within (storeMutationResult_within _ _ _) (by simp [StateKey.family])] at present
  rcases leases id present with rfl | old
  · exact ⟨request, rfl, storeMutationResult_passed sessions fresh (.inl rfl)⟩
  · obtain ⟨earlier, rfl, passed⟩ := requested id old
    exact ⟨earlier, rfl, storeMutationResult_passed sessions fresh (.inr passed)⟩

theorem Requested.kept {other : GroupView} (requested : view.Requested)
    (sessions : ∀ key : StateKey, key.family = .mutation → other.get key = view.get key)
    (leases : ∀ id : ReplayLeaseId, (other.get (.leaseId id)).isSome = true →
      (view.get (.leaseId id)).isSome = true) : other.Requested := by
  intro id present
  obtain ⟨earlier, rfl, passed⟩ := requested id (leases id present)
  refine ⟨earlier, rfl, ?_⟩
  rw [Passed, sessions _ rfl]
  exact passed

theorem Requested.within {families : List StateFamily} {writes : StateBatch}
    (requested : view.Requested) (within : Within families writes)
    (noReceipt : StateFamily.mutation ∉ families) (noLease : StateFamily.lease ∉ families) :
    (view.after writes).Requested := by
  refine requested.kept ?_ ?_
  · intro key family
    exact after_get_of_within within (family ▸ noReceipt)
  · intro id present
    have untouched := @after_get_of_within view _ _ within (.leaseId id) noLease
    rwa [untouched] at present

theorem Requested.unadmitted (requested : view.Requested)
    (fresh : view.priorMutationResult request fingerprint = none) :
    view.get (.leaseId (.derived request)) = none := by
  cases stored : view.get (.leaseId (.derived request)) with
  | none => rfl
  | some lease =>
      obtain ⟨earlier, same, passed⟩ := requested (.derived request) (by rw [stored]; rfl)
      cases same
      rw [Passed, priorMutationResult_fresh fresh] at passed
      simp at passed

end Receipt

structure Guarded (view : GroupView) : Prop where
  records : view.Protected
  requests : view.Requested

theorem Guarded.within {families : List StateFamily} {writes : StateBatch} (guarded : view.Guarded)
    (within : Within families writes)
    (outside : ∀ family ∈ StateFamily.mutation :: protectedFamilies, family ∉ families) :
    (view.after writes).Guarded where
  records := guarded.records.within within fun family inside =>
    outside family (List.mem_cons_of_mem _ inside)
  requests := guarded.requests.within within (outside _ (by decide)) (outside _ (by decide))

theorem Guarded.decided {request : MutationRequestId} {fingerprint : MutationFingerprint}
    {result : ApplyResult} {families : List StateFamily} {writes : StateBatch}
    (guarded : view.Guarded) (fresh : view.priorMutationResult request fingerprint = none)
    (kept : (view.after writes).Protected) (within : Within families writes)
    (noReceipt : StateFamily.mutation ∉ families)
    (leases : ∀ id : ReplayLeaseId, ((view.after writes).get (.leaseId id)).isSome = true →
      id = .derived request ∨ (view.get (.leaseId id)).isSome = true) :
    (view.after (writes ++ view.storeMutationResult request fingerprint result)).Guarded := by
  rw [after_append]
  refine ⟨kept.within (storeMutationResult_within _ _ _) (by decide), ?_⟩
  refine guarded.requests.recorded fresh (fun key family => ?_) leases
  exact after_get_of_within within (family ▸ noReceipt)

theorem Guarded.decided_within {request : MutationRequestId} {fingerprint : MutationFingerprint}
    {result : ApplyResult} {families : List StateFamily} {writes : StateBatch}
    (guarded : view.Guarded) (fresh : view.priorMutationResult request fingerprint = none)
    (within : Within families writes)
    (outside : ∀ family ∈ StateFamily.mutation :: protectedFamilies, family ∉ families) :
    (view.after (writes ++ view.storeMutationResult request fingerprint result)).Guarded := by
  have kept := guarded.within within outside
  refine guarded.decided fresh kept.records within (outside _ (by decide)) fun id present => ?_
  rw [after_get_of_within within (outside _ (by simp [StateKey.family, protectedFamilies]))]
    at present
  exact .inr present

/-- A view whose cursors and hints are lower than those of an earlier one. -/
structure LowersReclaim (view other : GroupView) : Prop where
  frame : ∀ key : StateKey, key.family ∈ [StateFamily.record, .nextOffset, .lease, .fence] →
    other.get key = view.get key
  lowered : ∀ partition, Lowered (view.retentionOf partition) (other.retentionOf partition)
  hints : ∀ partition hint, view.get (.reclaimHint partition) = some hint →
    ∃ lower ≤ hint, other.get (.reclaimHint partition) = some lower

theorem Protected.lowerReclaim {other : GroupView} (kept : view.Protected)
    (lowers : view.LowersReclaim other) : other.Protected := by
  have lease (id : ReplayLeaseId) : other.get (.leaseId id) = view.get (.leaseId id) :=
    lowers.frame _ (by simp [StateKey.family])
  refine kept.lower (fun key inside => lowers.frame key ?_) lowers.lowered ?_ ?_ ?_
  · simp only [List.mem_cons, List.not_mem_nil, or_false] at inside ⊢
    exact inside.elim .inl fun next => .inr (.inl next)
  · simpa only [lease] using kept.keyed
  · intro partition offset leased
    exact kept.leased partition offset ((leased_congr lease).mp leased)
  · rintro partition offset _ (reached | leased | ⟨held, hint, stored, low⟩)
    · exact .inl ((lowers.lowered partition).cursor.trans reached)
    · exact .inr (.inl ((leased_congr lease).mpr leased))
    · obtain ⟨lower, below, hinted⟩ := lowers.hints partition hint stored
      refine .inr (.inr ⟨?_, lower, hinted, below.trans low⟩)
      rw [exportFenced_congr (lowers.frame _ (by simp [StateKey.family]))]
      exact held

theorem storeLease_get {id : ReplayLeaseId} {lease : ReplayLease} {families : List StateFamily}
    {rest : StateBatch} (within : Within families rest) (outside : StateFamily.lease ∉ families)
    (other : ReplayLeaseId) :
    (view.after (.put (.leaseId id) lease :: rest)).get (.leaseId other) =
      if other = id then some lease else view.get (.leaseId other) := by
  have silent : Kv.Batch.effect rest (.leaseId other) = none :=
    within.effect_none (by simpa [StateKey.family] using outside)
  by_cases own : other = id
  · subst own
    simp [after, Kv.pending, silent]
  · have unwritten : Kv.Op.effect (.put (.leaseId id) lease : Kv.Op StateKey StateVal)
        (.leaseId other) = none := Kv.Op.effect_of_ne fun same => own (by simpa using same.symm)
    simp [after, Kv.pending, silent, unwritten, own]

theorem Protected.storeLease {id : ReplayLeaseId} {lease : ReplayLease} {rest : StateBatch}
    (kept : view.Protected) (own : lease.id = id)
    (within : Within [.leaseRequest, .leaseBudget, .leaseClock] rest)
    (records : lease.lifecycle = .active → ∀ offset, lease.range.contains offset = true →
      (view.get (.record lease.range.partition offset)).isSome = true)
    (replaced : ∀ old : ReplayLease, view.get (.leaseId id) = some old →
      old.lifecycle = .active → ∀ offset, old.range.contains offset = true →
        offset < (view.retentionOf old.range.partition).logicalFloor →
        (lease.lifecycle = .active ∧ lease.range = old.range) ∨
          (view.retentionOf old.range.partition).reclaimCursor ≤ offset ∨
            view.exportFenced = true ∧ ∃ hint,
              view.get (.reclaimHint old.range.partition) = some hint ∧ hint ≤ offset) :
    (view.after (.put (.leaseId id) lease :: rest)).Protected := by
  subst own
  have writes : Within [.lease, .leaseRequest, .leaseBudget, .leaseClock]
      (.put (.leaseId lease.id) lease :: rest) := by
    rw [within_cons]
    exact ⟨by simp [StateKey.family], within.mono (by decide)⟩
  have same {key : StateKey} (outside : key.family ∉
      [StateFamily.lease, .leaseRequest, .leaseBudget, .leaseClock]) :
      (view.after (.put (.leaseId lease.id) lease :: rest)).get key = view.get key :=
    after_get_of_within writes outside
  have retention (partition : PartitionKey) :
      (view.after (.put (.leaseId lease.id) lease :: rest)).retentionOf partition =
        view.retentionOf partition := by
    rw [retentionOf, retentionOf, same (by simp [StateKey.family])]
  have own : (view.after (.put (.leaseId lease.id) lease :: rest)).get (.leaseId lease.id) =
      some lease := by
    rw [storeLease_get within (by decide), if_pos rfl]
  have others {id : ReplayLeaseId} (different : id ≠ lease.id) :
      (view.after (.put (.leaseId lease.id) lease :: rest)).get (.leaseId id) =
        view.get (.leaseId id) := by
    rw [storeLease_get within (by decide), if_neg different]
  refine kept.lower ?_ ?_ ?_ ?_ ?_
  · intro key inside
    refine same fun outside => ?_
    simp only [List.mem_cons, List.not_mem_nil, or_false] at inside outside
    rcases inside with record | next <;> simp_all
  · intro partition
    rw [retention]
    exact .refl _
  · intro id other stored
    by_cases matched : id = lease.id
    · subst matched
      rw [own] at stored
      cases stored
      rfl
    · rw [others matched] at stored
      exact kept.keyed id other stored
  · rintro partition offset ⟨id, other, stored, active, rfl, inside⟩
    by_cases matched : id = lease.id
    · subst matched
      rw [own] at stored
      cases stored
      exact records active offset inside
    · rw [others matched] at stored
      exact kept.leased _ offset ⟨id, other, stored, active, rfl, inside⟩
  · intro partition offset below reachable
    have fenced : (view.after (.put (.leaseId lease.id) lease :: rest)).exportFenced =
        view.exportFenced := exportFenced_congr (same (by simp [StateKey.family]))
    have hinted : (view.after (.put (.leaseId lease.id) lease :: rest)).get
        (.reclaimHint partition) = view.get (.reclaimHint partition) :=
      same (by simp [StateKey.family])
    simp only [Reclaimable, retention, fenced, hinted]
    rcases reachable with reached | ⟨id, old, stored, active, rfl, inside⟩ | held
    · exact .inl reached
    · by_cases matched : id = lease.id
      · subst matched
        rcases replaced old stored active offset inside below with ⟨still, range⟩ | reached | held
        · refine .inr (.inl ⟨lease.id, lease, own, still, by rw [range], ?_⟩)
          rw [range]
          exact inside
        · exact .inl reached
        · exact .inr (.inr held)
      · exact .inr (.inl ⟨id, old, (others matched).trans stored, active, rfl, inside⟩)
    · exact .inr (.inr held)

section Decisions

variable {clock : SafeLeaseClock}

theorem expired_record (partition : PartitionKey) (offset : Nat) :
    (view.expired clock).get (.record partition offset) = view.get (.record partition offset) :=
  expired_get_other (by simp [StateKey.family])

theorem expired_effective (listed : view.Listed) {id : ReplayLeaseId} {lease : ReplayLease}
    (stored : view.get (.leaseId id) = some lease)
    (effective : leaseIsEffectivelyActive lease clock = true) :
    (view.expired clock).get (.leaseId id) = some lease := by
  rw [expired_lease listed, stored]
  simp [isDue, effective]

theorem admitDecision_kept {request : ReplayLeaseRequest} (kept : view.Protected)
    (listed : view.Listed) (unadmitted : view.get (.leaseId (.derived request.request)) = none) :
    ((view.expired clock).after
      (view.admitDecision request clock (view.expireDueLeases clock)).2).Protected := by
  have expired := @Protected.expired view clock kept listed
  unfold admitDecision
  dsimp only
  split
  · exact expired
  split
  · exact expired
  split
  · exact expired
  rename_i lease admitted
  obtain ⟨id, same, _, _, above, below⟩ := admit_ok admitted
  have range : lease.range = request.range := by rw [ReplayLease.range, same]
  refine expired.storeLease rfl (by simp [StateKey.family]) ?_ ?_
  · intro _ offset inside
    rw [range] at inside ⊢
    have bounds := ReplayRange.contains_iff.mp inside
    rw [expired_record]
    exact kept.retained _ _ (above.trans bounds.1) (lt_of_lt_of_le bounds.2 below)
  · intro old stored
    rw [id, expired_lease listed, unadmitted] at stored
    simp at stored

theorem renewDecision_kept {request : LeaseRenewal} (kept : view.Protected)
    (listed : view.Listed) :
    ((view.expired clock).after (view.renewDecision request clock).2).Protected := by
  have expired := @Protected.expired view clock kept listed
  unfold renewDecision
  split
  · exact expired
  rename_i lease stored
  split
  · exact expired
  split
  · rename_i effective
    split
    · exact expired
    split
    · exact expired
    rename_i renewed renewal
    unfold ReplayLease.renewed at renewal
    split at renewal
    · simp at renewal
    rename_i active
    simp only [ne_eq, Decidable.not_not] at active
    split at renewal
    · simp at renewal
    cases renewal
    have present := expired_effective listed stored effective
    have own : lease.id = request.lease := kept.keyed _ _ stored
    refine expired.storeLease own (by simp [StateKey.family]) ?_ ?_
    · intro _ offset inside
      exact expired.leased _ offset ⟨_, lease, present, active, rfl, inside⟩
    · intro old replaced _ offset _ _
      refine .inl ⟨active, ?_⟩
      rw [present] at replaced
      cases replaced
      rfl
  · exact expired

theorem after_swap {first second rest : StateBatch} {firstFamilies families : List StateFamily}
    {key : StateKey} (within : Within firstFamilies first) (reordered : Within families second)
    (disjoint : ∀ family ∈ firstFamilies, family ∉ families) :
    (view.after (first ++ (second ++ rest))).get key =
      ((view.after second).after (first ++ rest)).get key := by
  simp only [after, Kv.pending, Kv.Batch.effect_append]
  by_cases inside : key.family ∈ firstFamilies
  · rw [reordered.effect_none (disjoint _ inside), Option.or_none, Option.getD_none]
  · rw [within.effect_none inside, Option.or_none, Option.or_none]
    cases Kv.Batch.effect rest key <;> rfl

theorem retentionOf_put (partition other : PartitionKey) (retention : PartitionRetentionState) :
    (view.after [.put (.retention partition) retention]).retentionOf other =
      if other = partition then retention else view.retentionOf other := by
  rw [retentionOf]
  by_cases own : other = partition
  · subst own
    simp [after, Kv.pending]
  · simp [after, Kv.pending, Kv.Op.effect, own, Ne.symm own, retentionOf]

theorem reclaimHint_put (partition : PartitionKey) (hint : Nat) :
    (view.after [.put (.reclaimHint partition) hint]).get (.reclaimHint partition) = some hint := by
  simp [after, Kv.pending]

theorem releaseHint_lower (range : ReplayRange) :
    let hinted := view.mergedHint range.partition
      (match (view.expireDueLeases clock).reclaimHints.find? (fun entry =>
          entry.1 = range.partition) with
      | some entry => min entry.2 range.start
      | none => range.start)
    hinted ≤ range.start ∧ ∀ hint,
      (view.expired clock).get (.reclaimHint range.partition) = some hint → hinted ≤ hint := by
  dsimp only
  have merged (cursor : Nat) : view.mergedHint range.partition cursor ≤ cursor := by
    unfold mergedHint
    split
    · exact le_rfl
    · exact min_le_right ..
  rw [expired_hint, hintFor]
  split
  · rename_i entry found
    rw [found, Option.map_some, Option.elim_some]
    refine ⟨(merged _).trans (min_le_right ..), ?_⟩
    intro hint stored
    cases stored
    unfold mergedHint
    split <;> omega
  · rename_i found
    rw [found, Option.map_none, Option.elim_none]
    refine ⟨merged _, ?_⟩
    intro hint stored
    rw [mergedHint, stored]
    exact min_le_left ..

theorem releaseReclaim_lowers (range : ReplayRange) :
    (view.expired clock).LowersReclaim ((view.expired clock).after
      (view.releaseReclaim (view.expireDueLeases clock) range)) := by
  have frame {key : StateKey}
      (inside : key.family ∈ [StateFamily.record, .nextOffset, .lease, .fence]) :
      ((view.expired clock).after
        (view.releaseReclaim (view.expireDueLeases clock) range)).get key =
          (view.expired clock).get key := by
    refine after_get_of_within (releaseReclaim_within _ range) fun outside => ?_
    simp only [List.mem_cons, List.not_mem_nil, or_false] at inside outside
    rcases outside with retention | hint <;> simp_all
  refine ⟨fun _ => frame, ?_, ?_⟩
  · intro partition
    unfold releaseReclaim
    dsimp only
    rw [← expired_retentionOf]
    split
    · split
      · simp [retentionOf, after, Kv.pending, Kv.Op.effect, Lowered.refl]
      · rw [retentionOf_put]
        split
        · rename_i own
          subst own
          exact ⟨_, min_le_left .., rfl⟩
        · exact .refl _
    · exact .refl _
  · intro partition hint stored
    unfold releaseReclaim
    dsimp only
    split
    · split
      · by_cases own : partition = range.partition
        · subst own
          have lower := (@releaseHint_lower view clock range).2 hint stored
          exact ⟨_, lower, reclaimHint_put _ _⟩
        · exact ⟨hint, le_rfl, by simp [after, Kv.pending, Kv.Op.effect, Ne.symm own, stored]⟩
      · exact ⟨hint, le_rfl, by simp [after, Kv.pending, Kv.Op.effect, stored]⟩
    · exact ⟨hint, le_rfl, stored⟩

theorem releaseReclaim_reaches {range : ReplayRange}
    (below : range.start < ((view.expired clock).retentionOf range.partition).logicalFloor) :
    (((view.expired clock).after (view.releaseReclaim (view.expireDueLeases clock)
        range)).retentionOf range.partition).reclaimCursor ≤ range.start ∨
      view.exportFenced = true ∧ ∃ hint ≤ range.start, ((view.expired clock).after
        (view.releaseReclaim (view.expireDueLeases clock) range)).get
          (.reclaimHint range.partition) = some hint := by
  unfold releaseReclaim
  dsimp only
  rw [← expired_retentionOf, if_pos below]
  split
  · rename_i held
    exact .inr ⟨held, _, (@releaseHint_lower view clock range).1, reclaimHint_put _ _⟩
  · rw [retentionOf_put, if_pos rfl]
    exact .inl (min_le_right ..)

theorem releaseDecision_kept {request : LeaseRelease} (kept : view.Protected)
    (listed : view.Listed) :
    ((view.expired clock).after
      (view.releaseDecision request clock (view.expireDueLeases clock)).2).Protected := by
  have expired := @Protected.expired view clock kept listed
  unfold releaseDecision
  split
  · exact expired
  rename_i lease stored
  split
  · exact expired
  split
  · rename_i effective
    have present := expired_effective listed stored effective
    have own : lease.id = request.lease := kept.keyed _ _ stored
    have lowers := @releaseReclaim_lowers view clock lease.range
    have ending : (((view.expired clock).after
        (view.releaseReclaim (view.expireDueLeases clock) lease.range)).after
        ([.put (.leaseId request.lease) lease.released] ++
          [.put .leaseBudget ⟨(view.expireDueLeases clock).budget.activeLeases - 1,
              (view.expireDueLeases clock).budget.reservedBytes - lease.protectedBytes⟩,
            .put .leaseClock clock])).Protected := by
      refine (expired.lowerReclaim lowers).storeLease own (by simp [StateKey.family])
        (by simp [ReplayLease.released]) ?_
      intro old replaced _ offset inside below
      rw [lowers.frame _ (by simp [StateKey.family]), present] at replaced
      cases replaced
      have bounds := ReplayRange.contains_iff.mp inside
      rw [(lowers.lowered _).floor] at below
      refine .inr ?_
      rcases @releaseReclaim_reaches view clock lease.range (by omega) with
        reached | ⟨held, hint, low, hinted⟩
      · exact .inl (reached.trans bounds.1)
      · refine .inr ⟨?_, hint, hinted, low.trans bounds.1⟩
        rw [exportFenced_congr (lowers.frame _ (by simp [StateKey.family])), expired_fenced]
        exact held
    have released : Within [.lease]
        [(.put (.leaseId request.lease) lease.released : Kv.Op StateKey StateVal)] := by
      simp [StateKey.family]
    exact ending.frame fun key _ => after_swap released (releaseReclaim_within _ _) (by decide)
  · exact expired

end Decisions

section Commands

theorem after_present {writes : StateBatch} {key : StateKey}
    (present : ((view.after writes).get key).isSome = true) :
    (∃ op ∈ writes, op.key = key) ∨ (view.get key).isSome = true := by
  by_cases touched : ∃ op ∈ writes, op.key = key
  · exact .inl touched
  · refine .inr ?_
    have silent : Kv.Batch.effect writes key = none :=
      Kv.Batch.effect_eq_none_iff.mpr fun op member same => touched ⟨op, member, same⟩
    have untouched : (view.after writes).get key = view.get key := Kv.pending_of_untouched silent
    rwa [untouched] at present

theorem admitDecision_leases {request : ReplayLeaseRequest} {clock : SafeLeaseClock}
    {expiry : LeaseExpiryState} {op : Kv.Op StateKey StateVal} {id : ReplayLeaseId}
    (member : op ∈ (view.admitDecision request clock expiry).2) (writes : op.key = .leaseId id) :
    id = .derived request.request := by
  unfold admitDecision at member
  dsimp only at member
  split at member
  · simp at member
  split at member
  · simp at member
  split at member
  · simp at member
  rename_i lease admitted
  simp only [List.mem_cons, List.not_mem_nil, or_false] at member
  rcases member with rfl | rfl | rfl | rfl
  · simp only [Kv.Op.key_put, StateKey.leaseId.injEq] at writes
    exact writes.symm.trans (admit_ok admitted).1
  all_goals simp at writes

theorem renewDecision_leases {request : LeaseRenewal} {clock : SafeLeaseClock}
    {op : Kv.Op StateKey StateVal} {id : ReplayLeaseId}
    (member : op ∈ (view.renewDecision request clock).2) (writes : op.key = .leaseId id) :
    (view.get (.leaseId id)).isSome = true := by
  unfold renewDecision at member
  split at member
  · simp at member
  rename_i lease stored
  split at member
  · simp at member
  split at member
  · split at member
    · simp at member
    split at member
    · simp at member
    simp only [List.mem_cons, List.not_mem_nil, or_false] at member
    rcases member with rfl | rfl
    · simp only [Kv.Op.key_put, StateKey.leaseId.injEq] at writes
      rw [← writes, stored]
      rfl
    · simp at writes
  · simp at member

theorem releaseDecision_leases {request : LeaseRelease} {clock : SafeLeaseClock}
    {expiry : LeaseExpiryState} {op : Kv.Op StateKey StateVal} {id : ReplayLeaseId}
    (member : op ∈ (view.releaseDecision request clock expiry).2) (writes : op.key = .leaseId id) :
    (view.get (.leaseId id)).isSome = true := by
  unfold releaseDecision at member
  split at member
  · simp at member
  rename_i lease stored
  split at member
  · simp at member
  split at member
  · simp only [List.mem_cons, List.mem_append, List.not_mem_nil, or_false] at member
    rcases member with rfl | reclaim | rfl | rfl
    · simp only [Kv.Op.key_put, StateKey.leaseId.injEq] at writes
      rw [← writes, stored]
      rfl
    · have family := releaseReclaim_within expiry lease.range op reclaim
      rw [writes] at family
      simp [StateKey.family] at family
    all_goals simp at writes
  · simp at member

theorem leaseCommand_guarded {request : MutationRequestId} {fingerprint : MutationFingerprint}
    {observation : ClockObservation}
    {decision : SafeLeaseClock → LeaseExpiryState → LeaseDecision} (guarded : view.Guarded)
    (listed : view.Listed)
    (within : ∀ clock expiry, Within decisionFamilies (decision clock expiry).2)
    (kept : view.priorMutationResult request fingerprint = none → ∀ clock,
      ((view.expired clock).after (decision clock (view.expireDueLeases clock)).2).Protected)
    (leases : ∀ clock (id : ReplayLeaseId),
      (((view.expired clock).after (decision clock (view.expireDueLeases clock)).2).get
        (.leaseId id)).isSome = true →
      id = .derived request ∨ ((view.expired clock).get (.leaseId id)).isSome = true) :
    Applied.All (fun _ write => (view.after write.state).Guarded)
      (view.leaseCommand request fingerprint observation decision) := by
  unfold leaseCommand
  split
  · simpa using guarded
  rename_i fresh
  split
  · rw [Applied.all_reply]
    exact guarded.decided_within fresh (within_nil []) (by simp)
  rename_i clock _
  simp only [Applied.all_reply]
  have expiry : Within decisionFamilies (view.expiryWrites (view.expireDueLeases clock)) :=
    (expiryWrites_within _).mono (by decide)
  refine guarded.decided fresh ?_ ((within_append).mpr ⟨expiry, within clock _⟩) (by decide) ?_
  · rw [after_append]
    exact kept fresh clock
  · intro id present
    rw [after_append] at present
    refine (leases clock id present).imp_right fun old => ?_
    rw [expired_lease listed, Option.isSome_map] at old
    exact old

theorem applyAdmitReplayLease_guarded (request : ReplayLeaseRequest)
    (observation : ClockObservation) (guarded : view.Guarded) (listed : view.Listed) :
    Applied.All (fun _ write => (view.after write.state).Guarded)
      (view.applyAdmitReplayLease request observation) := by
  refine leaseCommand_guarded guarded listed (fun clock expiry =>
    admitDecision_within request clock expiry) ?_ ?_
  · intro fresh clock
    exact admitDecision_kept guarded.records listed (guarded.requests.unadmitted fresh)
  · intro clock id present
    rcases after_present present with ⟨op, member, writes⟩ | old
    · exact .inl (admitDecision_leases member writes)
    · exact .inr old

theorem applyRenewReplayLease_guarded (request : LeaseRenewal) (observation : ClockObservation)
    (guarded : view.Guarded) (listed : view.Listed) :
    Applied.All (fun _ write => (view.after write.state).Guarded)
      (view.applyRenewReplayLease request observation) := by
  refine leaseCommand_guarded guarded listed (fun clock _ =>
    renewDecision_within request clock) ?_ ?_
  · intro _ clock
    exact renewDecision_kept guarded.records listed
  · intro clock id present
    rcases after_present present with ⟨op, member, writes⟩ | old
    · rw [expired_lease listed, Option.isSome_map]
      exact .inr (renewDecision_leases member writes)
    · exact .inr old

theorem applyReleaseReplayLease_guarded (request : LeaseRelease) (observation : ClockObservation)
    (guarded : view.Guarded) (listed : view.Listed) :
    Applied.All (fun _ write => (view.after write.state).Guarded)
      (view.applyReleaseReplayLease request observation) := by
  refine leaseCommand_guarded guarded listed (fun clock expiry =>
    releaseDecision_within request clock expiry) ?_ ?_
  · intro _ clock
    exact releaseDecision_kept guarded.records listed
  · intro clock id present
    rcases after_present present with ⟨op, member, writes⟩ | old
    · rw [expired_lease listed, Option.isSome_map]
      exact .inr (releaseDecision_leases member writes)
    · exact .inr old

theorem Protected.raiseFloor {partition : PartitionKey} {retention : PartitionRetentionState}
    {rest : StateBatch} (kept : view.Protected) (within : Within [.leaseClock] rest)
    (raised : (view.retentionOf partition).logicalFloor ≤ retention.logicalFloor)
    (bounded : retention.logicalFloor ≤ view.nextOffsetOf partition)
    (cursor : retention.reclaimCursor = (view.retentionOf partition).reclaimCursor) :
    (view.after (.put (.retention partition) retention :: rest)).Protected := by
  have writes : Within [.retention, .leaseClock] (.put (.retention partition) retention :: rest) := by
    rw [within_cons]
    exact ⟨by simp [StateKey.family], within.mono (by decide)⟩
  have same {key : StateKey} (outside : key.family ∉ [StateFamily.retention, .leaseClock]) :
      (view.after (.put (.retention partition) retention :: rest)).get key = view.get key :=
    after_get_of_within writes outside
  have next (other : PartitionKey) :
      (view.after (.put (.retention partition) retention :: rest)).nextOffsetOf other =
        view.nextOffsetOf other := by
    rw [nextOffsetOf, nextOffsetOf, same (by simp [StateKey.family])]
  have record (other : PartitionKey) (offset : Nat) :
      (view.after (.put (.retention partition) retention :: rest)).get (.record other offset) =
        view.get (.record other offset) := same (by simp [StateKey.family])
  have lease (id : ReplayLeaseId) :
      (view.after (.put (.retention partition) retention :: rest)).get (.leaseId id) =
        view.get (.leaseId id) := same (by simp [StateKey.family])
  have state (other : PartitionKey) :
      (view.after (.put (.retention partition) retention :: rest)).retentionOf other =
        if other = partition then retention else view.retentionOf other := by
    rw [← retentionOf_put, ← List.singleton_append, after_append, retentionOf, retentionOf,
      after_get_of_within within (by simp [StateKey.family])]
  constructor
  · simpa only [record, next] using kept.tail
  · intro other offset above below
    rw [state] at above
    rw [next] at below
    rw [record]
    refine kept.retained other offset ?_ below
    split at above
    · rename_i own
      subst own
      omega
    · exact above
  · intro other
    rw [state]
    split
    · have old := kept.cursor partition
      omega
    · exact kept.cursor other
  · intro other
    rw [state, next]
    split
    · rename_i own
      subst own
      exact bounded
    · exact kept.floor other
  · simpa only [next] using kept.bounded
  · simpa only [lease] using kept.keyed
  · intro other offset leased
    rw [record]
    exact kept.leased other offset ((leased_congr lease).mp leased)
  · intro other offset present below
    rw [record] at present
    have moved : (((view.after (.put (.retention partition) retention :: rest)).retentionOf
        other).reclaimCursor) = (view.retentionOf other).reclaimCursor := by
      rw [state]
      split
      · rename_i own
        rw [own, cursor]
      · rfl
    simp only [Reclaimable, moved, leased_congr lease,
      exportFenced_congr (same (show StateKey.mutationFence.family ∉ _ by simp [StateKey.family])),
      same (show (StateKey.reclaimHint other).family ∉ _ by simp [StateKey.family])]
    by_cases old : offset < (view.retentionOf other).logicalFloor
    · exact kept.remembered other offset present old
    · have behind := kept.cursor other
      exact .inl (by omega)

theorem applyAdvanceRetention_guarded (request : RetentionRequest) (observation : ClockObservation)
    (guarded : view.Guarded) :
    Applied.All (fun _ write => (view.after write.state).Guarded)
      (view.applyAdvanceRetention request observation) := by
  unfold applyAdvanceRetention
  split
  · simpa using guarded
  split
  · simpa using guarded
  rename_i fresh
  dsimp only
  split
  · rw [Applied.all_reply]
    exact guarded.decided_within fresh (within_nil []) (by simp)
  rename_i floor advanced
  obtain ⟨raised, requested⟩ := advanceFloor_ok advanced
  split
  · rw [Applied.all_reply]
    exact guarded.decided_within fresh (within_nil []) (by simp)
  split
  · simpa using guarded
  rw [Applied.all_reply]
  have within (retention : PartitionRetentionState) (clock : SafeLeaseClock) :
      Within [.retention, .leaseClock] [.put (.retention request.partition) retention,
        .put .leaseClock clock] := by
    simp [StateKey.family]
  refine guarded.decided fresh ?_ (within _ _) (by decide) ?_
  · have bounded := guarded.records.floor request.partition
    exact guarded.records.raiseFloor (by simp [StateKey.family]) (by simp only; omega)
      (by simp only; omega) rfl
  · intro id present
    rw [after_get_of_within (within _ _) (by simp [StateKey.family])] at present
    exact .inr present

theorem applyCheckpointMutation_guarded (mutation : CheckpointMutation) (guarded : view.Guarded) :
    Applied.All (fun _ write => (view.after write.state).Guarded)
      (view.applyCheckpointMutation mutation) := by
  unfold applyCheckpointMutation
  split
  · simpa using guarded
  split
  · simpa using guarded
  split
  · simpa using guarded
  rename_i fresh
  have quiet {result : ApplyResult} {writes : StateBatch} (within : Within [.checkpoint] writes) :
      (view.after (writes ++ view.storeMutationResult mutation.request (.checkpoint mutation)
        result)).Guarded := guarded.decided_within fresh within (by decide)
  dsimp only
  repeat' split
  all_goals simp only [Applied.all_reply, Applied.all_reject, Applied.all_error]
  all_goals first
    | exact guarded
    | exact quiet (by simp [StateKey.family])

end Commands

end GroupView

end LightStream
