import LightStream.Proofs.Mutations

/-!
Maintenance and the fence keep the protection, and with them every command of a data group.
-/

namespace LightStream

namespace GroupView

variable {view : GroupView} {logId : GroupLogId}

def reclaimOps (partition : PartitionKey) (reclaimed : List Reclaimed) : StateBatch :=
  reclaimed.map fun record => .delete (.record partition record.offset)

theorem reclaimOps_within (partition : PartitionKey) (reclaimed : List Reclaimed) :
    Within [.record] (reclaimOps partition reclaimed) := by
  intro op member
  obtain ⟨record, _, rfl⟩ := List.mem_map.mp member
  simp [StateKey.family]

theorem reclaimOps_record (partition other : PartitionKey) (reclaimed : List Reclaimed)
    (offset : Nat) :
    (view.after (reclaimOps partition reclaimed)).get (.record other offset) =
      if other = partition ∧ ∃ record ∈ reclaimed, record.offset = offset then none
      else view.get (.record other offset) := by
  split
  · rename_i deleted
    obtain ⟨rfl, record, member, rfl⟩ := deleted
    have effect : Kv.Batch.effect (reclaimOps other reclaimed) (.record other record.offset) =
        some none := by
      refine Kv.Batch.effect_of_agreeing ⟨_, List.mem_map.mpr ⟨record, member, rfl⟩, rfl⟩ ?_
      intro op written same
      obtain ⟨deleted, _, rfl⟩ := List.mem_map.mp written
      simp only [Kv.Op.key_delete, StateKey.record.injEq] at same
      rw [same.2]
      exact Kv.Op.effect_delete_self _
    show Kv.pending view.get _ _ = none
    rw [Kv.pending, effect, Option.getD_some]
  · rename_i kept
    refine Kv.pending_of_untouched (Kv.Batch.effect_eq_none_iff.mpr ?_)
    intro op written same
    obtain ⟨deleted, member, rfl⟩ := List.mem_map.mp written
    simp only [Kv.Op.key_delete, StateKey.record.injEq] at same
    exact kept ⟨same.1.symm, deleted, member, same.2⟩

section Maintain

variable {partition : PartitionKey} {ranges : List ReplayRange} {before after : ReclaimState}
  {reclaimed : List Reclaimed} {base : GroupView}

structure ReclaimedTo (view final : GroupView) (partition : PartitionKey)
    (retention : PartitionRetentionState) (reclaimed : List Reclaimed) : Prop where
  record : ∀ other offset, final.get (.record other offset) =
    if other = partition ∧ ∃ record ∈ reclaimed, record.offset = offset then none
    else view.get (.record other offset)
  retention : ∀ other, final.retentionOf other =
    if other = partition then retention else view.retentionOf other
  frame : ∀ key : StateKey, key.family ∉ [StateFamily.record, .retention, .leaseClock] →
    final.get key = view.get key

theorem reclaimOps_reclaimedTo (retention : PartitionRetentionState) {rest : StateBatch}
    (within : Within [.leaseClock] rest) :
    view.ReclaimedTo (view.after (reclaimOps partition reclaimed ++
      .put (.retention partition) retention :: rest)) partition retention reclaimed := by
  have closing : Within [.retention, .leaseClock]
      (.put (.retention partition) retention :: rest) := by
    rw [within_cons]
    exact ⟨by simp [StateKey.family], within.mono (by decide)⟩
  have deletions := reclaimOps_within partition reclaimed
  rw [after_append]
  constructor
  · intro other offset
    rw [after_get_of_within closing (by simp [StateKey.family]), reclaimOps_record]
  · intro other
    rw [← List.singleton_append, after_append, retentionOf,
      after_get_of_within within (by simp [StateKey.family]), ← retentionOf, retentionOf_put,
      retentionOf, after_get_of_within deletions (by simp [StateKey.family]), ← retentionOf]
  · intro key outside
    simp only [List.mem_cons, List.not_mem_nil, or_false, not_or] at outside
    rw [after_get_of_within closing (by simp [outside]),
      after_get_of_within deletions (by simp [outside])]

theorem Protected.reclaim {final : GroupView} (kept : view.Protected)
    (start : before.retention = view.retentionOf partition)
    (reclaims : base.Reclaims partition ranges before after reclaimed)
    (records : ∀ offset, base.get (.record partition offset) = view.get (.record partition offset))
    (leased : ∀ offset, view.Leased partition offset ↔
      ∃ range ∈ ranges, range.contains offset = true)
    (done : view.ReclaimedTo final partition after.retention reclaimed) : final.Protected := by
  obtain ⟨record, retention, same⟩ := done
  have next (other : PartitionKey) :
      final.nextOffsetOf other = view.nextOffsetOf other := by
    rw [nextOffsetOf, nextOffsetOf, same _ (by simp [StateKey.family])]
  have lease (id : ReplayLeaseId) : final.get (.leaseId id) = view.get (.leaseId id) :=
    same _ (by simp [StateKey.family])
  have floor (other : PartitionKey) :
      (final.retentionOf other).logicalFloor = (view.retentionOf other).logicalFloor := by
    rw [retention]
    split
    · rename_i own
      rw [own, reclaims.floor, start]
    · rfl
  have behind := kept.cursor partition
  have bounded := reclaims.bounded
  have forward := reclaims.forward
  rw [start] at bounded forward
  have remaining {other : PartitionKey} {offset : Nat}
      (present : (view.get (.record other offset)).isSome = true)
      (spared : other = partition → (∀ record ∈ reclaimed, record.offset ≠ offset)) :
      (final.get (.record other offset)).isSome = true := by
    rw [record, if_neg]
    · exact present
    · rintro ⟨own, deleted, member, offsets⟩
      exact spared own deleted member offsets
  have earlier {other : PartitionKey} {offset : Nat}
      (present : (final.get (.record other offset)).isSome = true) :
      (view.get (.record other offset)).isSome = true ∧
        (other = partition → ∀ record ∈ reclaimed, record.offset ≠ offset) := by
    rw [record] at present
    split at present
    · simp at present
    · rename_i spared
      exact ⟨present, fun own deleted member offsets => spared ⟨own, deleted, member, offsets⟩⟩
  constructor
  · intro other offset present
    rw [next]
    exact kept.tail other offset (earlier present).1
  · intro other offset above below
    rw [floor] at above
    rw [next] at below
    refine remaining (kept.retained other offset above below) fun own deleted member offsets => ?_
    have inside := (reclaims.offsets deleted member).2
    rw [own] at above
    omega
  · intro other
    rw [floor, retention]
    split
    · rename_i own
      rw [own]
      omega
    · exact kept.cursor other
  · intro other
    rw [floor, next]
    exact kept.floor other
  · intro other
    rw [next]
    exact kept.bounded other
  · simpa only [lease] using kept.keyed
  · intro other offset active
    have held := (leased_congr lease).mp active
    refine remaining (kept.leased other offset held) fun own deleted member offsets => ?_
    subst own
    obtain ⟨range, inRanges, inside⟩ := (leased offset).mp held
    rw [← offsets, reclaims.unleased deleted member range inRanges] at inside
    simp at inside
  · intro other offset present below
    obtain ⟨old, spared⟩ := earlier present
    rw [floor] at below
    simp only [Reclaimable, leased_congr lease,
      exportFenced_congr (same _ (show StateKey.mutationFence.family ∉ _ by simp [StateKey.family])),
      same _ (show (StateKey.reclaimHint other).family ∉ _ by simp [StateKey.family])]
    rcases kept.remembered other offset old below with reached | active | held
    · by_cases own : other = partition
      · subst own
        rw [retention, if_pos rfl]
        by_cases ahead : after.retention.reclaimCursor ≤ offset
        · exact .inl ahead
        · rcases reclaims.complete offset (by rw [start]; exact reached) (by omega) with
            ranged | absent | ⟨deleted, member, same⟩
          · exact .inr (.inl ((leased offset).mpr ranged))
          · rw [records offset] at absent
            rw [absent] at old
            simp at old
          · exact absurd same (spared rfl deleted member)
      · rw [retention, if_neg own]
        exact .inl reached
    · exact .inr (.inl active)
    · exact .inr (.inr held)

theorem applyMaintainRetention_looped {expectedCursor maxRecords maxPayloadBytes : Nat}
    {observation : ClockObservation} {result : ApplyResult} {write : WriteBatch}
    (done : view.applyMaintainRetention partition expectedCursor maxRecords maxPayloadBytes
      observation = .ok (result, write)) :
    write = ⟨[], []⟩ ∨
      ∃ clock after, maxRecords ≠ 0 ∧ view.advanceLeaseClock observation = .ok clock ∧
        view.reclaimLoop partition (activeRanges (view.expireDueLeases clock) partition) maxRecords
          maxPayloadBytes
          (((view.expireDueLeases clock).retentionFor view partition).logicalFloor -
            ((view.expireDueLeases clock).retentionFor view partition).reclaimCursor)
          ⟨(view.expireDueLeases clock).retentionFor view partition, 0, 0,
            ⟨view.expiryWrites (view.expireDueLeases clock), []⟩⟩ = .ok after ∧
        result = retentionStatus partition after.retention ∧
        write = ⟨after.write.state ++
          [.put (.retention partition) after.retention, .put .leaseClock clock],
          after.write.payload⟩ := by
  unfold applyMaintainRetention at done
  dsimp only at done
  split at done
  · cases done
    exact .inl rfl
  rename_i limits
  split at done
  · cases done
    exact .inl rfl
  split at done
  · cases done
    exact .inl rfl
  rename_i clock advanced
  split at done
  · simp at done
  rename_i after looped
  cases done
  exact .inr ⟨clock, after, fun none => limits (.inl none), advanced, looped, rfl, rfl⟩

theorem applyMaintainRetention_cases {expectedCursor maxRecords maxPayloadBytes : Nat}
    {observation : ClockObservation} {result : ApplyResult} {write : WriteBatch}
    (kept : view.Protected) (listed : view.Listed)
    (done : view.applyMaintainRetention partition expectedCursor maxRecords maxPayloadBytes
      observation = .ok (result, write)) :
    write = ⟨[], []⟩ ∨
      ∃ clock before after reclaimed, view.advanceLeaseClock observation = .ok clock ∧
        before.retention = (view.expired clock).retentionOf partition ∧
        view.Reclaims partition (activeRanges (view.expireDueLeases clock) partition) before after
          reclaimed ∧
        (view.expired clock).ReclaimedTo (view.after write.state) partition after.retention
          reclaimed ∧
        (view.after write.state).get .leaseClock = some clock ∧
        (before.retention.reclaimCursor < before.retention.logicalFloor →
          before.retention.reclaimCursor < after.retention.reclaimCursor) ∧
        write.payload = reclaimed.flatMap fun record =>
          releasePayload record.record.payloadKey record.owners := by
  rcases applyMaintainRetention_looped done with
    rfl | ⟨clock, after, limited, advanced, looped, _, rfl⟩
  · exact .inl rfl
  have expired := @Protected.expired view clock kept listed
  have fits : ((view.expireDueLeases clock).retentionFor view partition).logicalFloor ≤ u64Max := by
    rw [← expired_retentionOf]
    exact (expired.floor partition).trans (expired.bounded partition)
  obtain ⟨reclaimed, reclaims⟩ := reclaimLoop_reclaims fits looped
  refine .inr ⟨clock, _, after, reclaimed, advanced, (expired_retentionOf _).symm, reclaims, ?_, ?_,
    ?_, ?_⟩
  · dsimp only
    rw [reclaims.state, List.append_assoc, after_append]
    exact reclaimOps_reclaimedTo _ (by simp [StateKey.family])
  · show Kv.pending view.get _ _ = _
    simp [Kv.pending, Kv.Batch.effect_append]
  · intro below
    have distance : ((view.expireDueLeases clock).retentionFor view partition).reclaimCursor <
        ((view.expireDueLeases clock).retentionFor view partition).logicalFloor := below
    obtain ⟨fuel, exact⟩ := Nat.exists_eq_add_of_lt distance
    rw [show ((view.expireDueLeases clock).retentionFor view partition).logicalFloor -
      ((view.expireDueLeases clock).retentionFor view partition).reclaimCursor = fuel + 1 by
        omega] at looped
    exact reclaimLoop_progress fits below rfl limited looped
  · rw [reclaims.payload, List.nil_append]

theorem activeRanges_leased {clock : SafeLeaseClock} (listed : view.Listed) (offset : Nat) :
    (view.expired clock).Leased partition offset ↔
      ∃ range ∈ activeRanges (view.expireDueLeases clock) partition,
        range.contains offset = true := by
  rw [expired_leased listed]
  simp only [activeRanges, expireDueLeases_active, List.mem_filter, List.mem_map,
    decide_eq_true_eq]
  constructor
  · rintro ⟨id, lease, stored, effective, own, inside⟩
    exact ⟨lease.range, ⟨⟨lease, ⟨(listed.leases lease).mpr ⟨id, stored⟩, effective⟩, rfl⟩, own⟩,
      inside⟩
  · rintro ⟨range, ⟨⟨lease, ⟨member, effective⟩, rfl⟩, own⟩, inside⟩
    obtain ⟨id, stored⟩ := (listed.leases lease).mp member
    exact ⟨id, lease, stored, effective, own, inside⟩

theorem applyMaintainRetention_guarded (expectedCursor maxRecords maxPayloadBytes : Nat)
    (observation : ClockObservation) (guarded : view.Guarded) (listed : view.Listed) :
    Applied.All (fun _ write => (view.after write.state).Guarded)
      (view.applyMaintainRetention partition expectedCursor maxRecords maxPayloadBytes
        observation) := by
  intro result write done
  rcases applyMaintainRetention_cases guarded.records listed done with
    rfl | ⟨clock, before, after, reclaimed, _, start, reclaims, finished, _, _, _⟩
  · exact guarded
  have within := applyMaintainRetention_within partition expectedCursor maxRecords maxPayloadBytes
    observation result write done
  refine ⟨(guarded.records.expired listed).reclaim start reclaims (fun offset => ?_)
    (activeRanges_leased listed) finished, guarded.requests.kept ?_ ?_⟩
  · exact (expired_record partition offset).symm
  · intro key family
    exact after_get_of_within within (by rw [family]; decide)
  · intro id present
    rw [finished.frame _ (by simp [StateKey.family]), expired_lease listed, Option.isSome_map]
      at present
    exact present

end Maintain

section Fence

theorem Protected.fence {fence : MutationFenceState} (kept : view.Protected)
    (held : view.mutationFenceState.held.isSome = true → fence.held.isSome = true) :
    (view.after [.put .mutationFence fence]).Protected := by
  have same {key : StateKey} (outside : key.family ≠ .fence) :
      (view.after [.put .mutationFence fence]).get key = view.get key :=
    after_get_of_within (show Within [.fence] _ by simp [StateKey.family]) (by simpa using outside)
  have lease (id : ReplayLeaseId) : (view.after [.put .mutationFence fence]).get (.leaseId id) =
      view.get (.leaseId id) := same (by simp [StateKey.family])
  have retention (partition : PartitionKey) :
      (view.after [.put .mutationFence fence]).retentionOf partition =
        view.retentionOf partition := by
    rw [retentionOf, retentionOf, same (by simp [StateKey.family])]
  refine kept.lower ?_ ?_ ?_ ?_ ?_
  · intro key inside
    refine same fun outside => ?_
    rw [outside] at inside
    simp at inside
  · intro partition
    rw [retention]
    exact .refl _
  · simpa only [lease] using kept.keyed
  · intro partition offset leased
    exact kept.leased partition offset ((leased_congr lease).mp leased)
  · rintro partition offset _ (reached | leased | ⟨was, hint, stored, low⟩)
    · exact .inl (by rw [retention]; exact reached)
    · exact .inr (.inl ((leased_congr lease).mpr leased))
    · refine .inr (.inr ⟨?_, hint, ?_, low⟩)
      · rw [exportFenced, mutationFenceState]
        simpa [after, Kv.pending] using held was
      · rw [same (by simp [StateKey.family])]
        exact stored

theorem resumeDeferredReclaim_retentionOf (listed : view.Listed) (partition : PartitionKey) :
    (view.after view.resumeDeferredReclaim).retentionOf partition =
      match view.get (.reclaimHint partition) with
      | some hint => { view.retentionOf partition with
          reclaimCursor := min (view.retentionOf partition).reclaimCursor hint }
      | none => view.retentionOf partition := by
  have written {op : Kv.Op StateKey StateVal} (member : op ∈ view.resumeDeferredReclaim)
      (same : op.key = .retention partition) :
      ∃ hint, view.get (.reclaimHint partition) = some hint ∧
        op = .put (.retention partition) { view.retentionOf partition with
          reclaimCursor := min (view.retentionOf partition).reclaimCursor hint } := by
    simp only [resumeDeferredReclaim, List.mem_flatMap, List.mem_cons, List.not_mem_nil,
      or_false] at member
    obtain ⟨⟨other, hint⟩, hinted, rfl | rfl⟩ := member
    · simp only [Kv.Op.key_put, StateKey.retention.injEq] at same
      subst same
      exact ⟨hint, (listed.hints _ _).mp hinted, rfl⟩
    · simp at same
  cases stored : view.get (.reclaimHint partition) with
  | none =>
      have silent : Kv.Batch.effect view.resumeDeferredReclaim (.retention partition) = none := by
        refine Kv.Batch.effect_eq_none_iff.mpr fun op member same => ?_
        obtain ⟨hint, hinted, _⟩ := written member same
        rw [stored] at hinted
        simp at hinted
      have untouched : (view.after view.resumeDeferredReclaim).get (.retention partition) =
          view.get (.retention partition) := Kv.pending_of_untouched silent
      rw [retentionOf, untouched]
      rfl
  | some hint =>
      have effect : Kv.Batch.effect view.resumeDeferredReclaim (.retention partition) =
          some (some { view.retentionOf partition with
            reclaimCursor := min (view.retentionOf partition).reclaimCursor hint }) := by
        refine Kv.Batch.effect_of_agreeing ?_ ?_
        · refine ⟨.put (.retention partition) { view.retentionOf partition with
            reclaimCursor := min (view.retentionOf partition).reclaimCursor hint }, ?_, rfl⟩
          exact List.mem_flatMap.mpr ⟨(partition, hint), (listed.hints _ _).mpr stored, by simp⟩
        · intro op member same
          obtain ⟨other, hinted, rfl⟩ := written member same
          rw [stored] at hinted
          cases hinted
          exact Kv.Op.effect_put_self _ _
      rw [retentionOf]
      show (Kv.pending view.get _ _).getD _ = _
      rw [Kv.pending, effect]
      rfl

theorem resumed_retentionOf (fence : MutationFenceState) (partition : PartitionKey) :
    (view.after (.put .mutationFence fence :: view.resumeDeferredReclaim)).retentionOf partition =
      (view.after view.resumeDeferredReclaim).retentionOf partition := by
  rw [retentionOf, retentionOf]
  simp [after, Kv.pending, Kv.Op.effect]

theorem resumed_lowered (listed : view.Listed) (fence : MutationFenceState)
    (partition : PartitionKey) :
    Lowered (view.retentionOf partition)
      ((view.after (.put .mutationFence fence :: view.resumeDeferredReclaim)).retentionOf
        partition) := by
  rw [resumed_retentionOf, resumeDeferredReclaim_retentionOf listed]
  split
  · exact ⟨_, min_le_left .., rfl⟩
  · exact .refl _

theorem resumed_within (fence : MutationFenceState) : Within [.fence, .retention, .reclaimHint]
    (.put .mutationFence fence :: view.resumeDeferredReclaim) := by
  rw [within_cons]
  exact ⟨by simp [StateKey.family], resumeDeferredReclaim_within.mono (by decide)⟩

theorem applyReleaseExportFence_cases {token : ExportFenceToken} {result : ApplyResult}
    {write : WriteBatch} (done : view.applyReleaseExportFence token = .ok (result, write)) :
    write = ⟨[], []⟩ ∨
      ∃ fence observation, view.mutationFenceState.releaseForGroup token view.identity.groupId =
          .ok (fence, observation) ∧
        write = ⟨.put .mutationFence fence :: view.resumeDeferredReclaim, []⟩ := by
  unfold applyReleaseExportFence at done
  split at done
  · cases done
    exact .inl rfl
  split at done
  · cases done
    exact .inl rfl
  rename_i fence observation released
  cases done
  exact .inr ⟨fence, observation, released, rfl⟩

theorem applyReleaseExportFence_kept (token : ExportFenceToken) (kept : view.Protected)
    (listed : view.Listed) :
    Applied.All (fun _ write => (view.after write.state).Protected)
      (view.applyReleaseExportFence token) := by
  intro result write done
  rcases applyReleaseExportFence_cases done with rfl | ⟨fence, _, _, rfl⟩
  · exact kept
  have same {key : StateKey} (outside : key.family ∉ [StateFamily.fence, .retention, .reclaimHint]) :
      (view.after (.put .mutationFence fence :: view.resumeDeferredReclaim)).get key =
        view.get key := after_get_of_within (resumed_within fence) outside
  have lease (id : ReplayLeaseId) :
      (view.after (.put .mutationFence fence :: view.resumeDeferredReclaim)).get (.leaseId id) =
        view.get (.leaseId id) := same (by simp [StateKey.family])
  refine kept.lower ?_ (resumed_lowered listed fence) ?_ ?_ ?_
  · intro key inside
    refine same fun outside => ?_
    simp only [List.mem_cons, List.not_mem_nil, or_false] at inside outside
    rcases inside with record | next <;> simp_all
  · simpa only [lease] using kept.keyed
  · intro partition offset leased
    exact kept.leased partition offset ((leased_congr lease).mp leased)
  · rintro partition offset _ (reached | leased | ⟨_, hint, stored, low⟩)
    · exact .inl ((resumed_lowered listed fence partition).cursor.trans reached)
    · exact .inr (.inl ((leased_congr lease).mpr leased))
    · refine .inl (le_trans ?_ low)
      dsimp only
      rw [resumed_retentionOf, resumeDeferredReclaim_retentionOf listed, stored]
      exact min_le_right ..

theorem acquire_held {fence next : MutationFenceState} {token : ExportFenceToken} {cut : GroupCut}
    {observation : ExportFenceObservation} (acquired : fence.acquire token cut = .ok (next, observation))
    (held : fence.held.isSome = true) : next.held.isSome = true := by
  unfold MutationFenceState.acquire at acquired
  split at acquired
  · cases acquired
    exact held
  split at acquired
  · split at acquired
    · cases acquired
      exact held
    · simp at acquired
  · rename_i free
    rw [free] at held
    simp at held

theorem applyAcquireExportFence_kept (token : ExportFenceToken) (kept : view.Protected) :
    Applied.All (fun _ write => (view.after write.state).Protected)
      (view.applyAcquireExportFence logId token) := by
  unfold applyAcquireExportFence
  split
  · simpa using kept
  split
  · simp
  split
  · simpa using kept
  rename_i fence observation acquired
  rw [Applied.all_reply]
  exact kept.fence fun held => acquire_held acquired held

end Fence

section Dispatch

theorem Guarded.placed {slot : Nat} {batch : PublishBatch} {write : WriteBatch}
    (guarded : view.Guarded) (placed : view.Placement logId slot batch write) :
    (view.after write.state).Guarded := by
  refine ⟨guarded.records.placed placed, ?_⟩
  have within : Within [.bookmark, .record, .nextOffset, .retention, .receipt, .session]
      write.state := by
    cases placed with
    | quiet writes within => exact within.mono (by decide)
    | appended range allocated owned before rest beforeWithin afterWithin =>
        simp only [within_append]
        exact ⟨⟨beforeWithin.mono (by decide), placeWrites_within.mono (by decide)⟩,
          afterWithin.mono (by decide)⟩
  exact guarded.requests.within within (by decide) (by decide)

theorem applyPublishMany_guarded (batch : ReplicatedPublishBatch) (guarded : view.Guarded) :
    Applied.All (fun _ write => (view.after write.state).Guarded)
      (view.applyPublishMany logId batch) := by
  intro result write done
  have carried : ∃ _ : Nat, (view.after write.state).Guarded := by
    refine @applyPublishMany_invariant view logId write
      (fun _ write => (view.after write.state).Guarded) guarded ?_ batch result done
    intro slot batch first write held placed
    rw [show (first.append write).state = first.state ++ write.state from rfl, after_append]
    exact held.placed placed
  exact carried.choose_spec

theorem applyPublish_guarded (batch : PublishBatch) (guarded : view.Guarded) :
    Applied.All (fun _ write => (view.after write.state).Guarded)
      (view.applyPublish logId batch) :=
  fun _ _ done => guarded.placed (applyPublish_placement done)

theorem Guarded.initialFence (guarded : view.Guarded) (absent : view.get .mutationFence = none) :
    (view.after [.put .mutationFence MutationFenceState.default]).Guarded := by
  have within : Within [.fence]
      [(.put .mutationFence MutationFenceState.default : Kv.Op StateKey StateVal)] := by
    simp [StateKey.family]
  refine ⟨guarded.records.fence fun held => ?_, guarded.requests.within within (by decide)
    (by decide)⟩
  rw [mutationFenceState, absent] at held
  simp [MutationFenceState.default] at held

theorem applyBootstrap_guarded (spec : BootstrapSpec) (kind : GroupKind) (guarded : view.Guarded) :
    Applied.All (fun _ write => (view.after write.state).Guarded)
      (view.applyBootstrap spec kind) := by
  have bootstrapped : (view.after [.put .bootstrap spec]).Guarded :=
    guarded.within (show Within [.bootstrap] _ by simp [StateKey.family]) (by decide)
  unfold applyBootstrap
  dsimp only
  split
  · simpa using guarded
  split
  · simpa using guarded
  split
  · split
    · simpa using guarded
    · rw [Applied.all_reply]
      split
      · rename_i absent
        exact guarded.initialFence absent
      · exact guarded
  · rw [Applied.all_reply]
    split
    · rename_i absent
      rw [← List.singleton_append, after_append]
      refine bootstrapped.initialFence ?_
      rw [← absent]
      exact after_get_of_within (show Within [.bootstrap] _ by simp [StateKey.family]) (by decide)
    · exact bootstrapped

theorem applyExport_guarded (data : view.identity.kind = .data) (command : ExportCommand)
    (guarded : view.Guarded) (listed : view.Listed) :
    Applied.All (fun _ write => (view.after write.state).Guarded)
      (view.applyExport logId command) := by
  have quiet {families : List StateFamily} {applied : Applied}
      (footprint : Applied.All (Footprint families) applied)
      (outside : ∀ family ∈ StateFamily.mutation :: protectedFamilies, family ∉ families) :
      Applied.All (fun _ write => (view.after write.state).Guarded) applied :=
    fun result write done => guarded.within (footprint result write done).1 outside
  have requests {families : List StateFamily} {applied : Applied}
      (footprint : Applied.All (Footprint families) applied)
      (kept : Applied.All (fun _ write => (view.after write.state).Protected) applied)
      (outside : StateFamily.mutation ∉ families ∧ StateFamily.lease ∉ families) :
      Applied.All (fun _ write => (view.after write.state).Guarded) applied :=
    fun result write done => ⟨kept result write done,
      guarded.requests.within (footprint result write done).1 outside.1 outside.2⟩
  have noExport : view.controlActiveExport = none := by
    simp [controlActiveExport, data]
  cases command with
  | begin intent deadline =>
      show Applied.All (fun _ write => (view.after write.state).Guarded)
        (view.applyBeginExport logId intent deadline)
      unfold applyBeginExport
      rw [if_pos (by simp [data])]
      simpa using guarded
  | acquireFence token =>
      exact requests (applyAcquireExportFence_footprint logId token)
        (applyAcquireExportFence_kept token guarded.records) (by decide)
  | releaseFence token =>
      exact requests (applyReleaseExportFence_footprint token)
        (applyReleaseExportFence_kept token guarded.records listed) (by decide)
  | finish token =>
      show Applied.All (fun _ write => (view.after write.state).Guarded)
        (view.applyFinishExport token)
      unfold applyFinishExport
      rw [noExport]
      exact quiet (exportReceiptForToken_footprint token) (by decide)
  | recordFence | beginMaterialization | publishArtifact | requestCompletion | requestAbort
  | recordRelease =>
      exact quiet (applyExport_footprint _) (by simp [GroupCommand.families, protectedFamilies])

theorem dispatch_guarded (data : view.identity.kind = .data) (command : GroupCommand)
    (guarded : view.Guarded) (listed : view.Listed) :
    Applied.All (fun _ write => (view.after write.state).Guarded)
      (view.dispatch logId command) := by
  have quiet (outside : ∀ family ∈ StateFamily.mutation :: protectedFamilies,
      family ∉ command.families) :
      Applied.All (fun _ write => (view.after write.state).Guarded)
        (view.dispatch logId command) :=
    fun result write done => guarded.within (dispatch_within command result write done) outside
  cases command with
  | bootstrapControl spec topology security dataGroups maxStreams maxPartitions =>
      show Applied.All (fun _ write => (view.after write.state).Guarded)
        (view.applyBootstrapControl spec topology security dataGroups maxStreams maxPartitions)
      unfold applyBootstrapControl
      split
      · simpa using guarded
      split
      · simpa using guarded
      have rejected : view.applyBootstrap spec .control =
          reject (wrongKind .control view.identity.kind) := by
        unfold applyBootstrap
        rw [if_pos (by simp [data])]
      rw [rejected]
      simpa [reject, reply] using guarded
  | bootstrapData spec => exact applyBootstrap_guarded spec .data guarded
  | publish batch => exact applyPublish_guarded batch guarded
  | publishMany batch => exact applyPublishMany_guarded batch guarded
  | compareAndSetCheckpoint mutation => exact applyCheckpointMutation_guarded mutation guarded
  | advanceRetention request clock => exact applyAdvanceRetention_guarded request clock guarded
  | admitReplayLease request clock => exact applyAdmitReplayLease_guarded request clock guarded listed
  | renewReplayLease request clock => exact applyRenewReplayLease_guarded request clock guarded listed
  | releaseReplayLease request clock =>
      exact applyReleaseReplayLease_guarded request clock guarded listed
  | maintainRetention partition expectedCursor maxRecords maxPayloadBytes clock =>
      exact applyMaintainRetention_guarded expectedCursor maxRecords maxPayloadBytes clock guarded
        listed
  | applySecurityMutation mutation =>
      show Applied.All (fun _ write => (view.after write.state).Guarded)
        (view.applySecurityMutation mutation)
      unfold applySecurityMutation
      rw [if_pos (by simp [data])]
      simpa using guarded
  | activateSecuredTransport request topology policy =>
      show Applied.All (fun _ write => (view.after write.state).Guarded)
        (view.applySecuredTransport request topology policy)
      unfold applySecuredTransport
      rw [if_pos (by simp [data])]
      simpa using guarded
  | exportProtocol command => exact applyExport_guarded data command guarded listed
  | createStreamIntent | replicaReady | activateStream | beginDeleteStream | finishDeleteStream
  | createBookmark | deleteBookmark | createStreamBookmark | deleteStreamBookmark
  | operationalProbe | beginAdministration | completeAdministration | abortAdministration
  | finishAdministrationAbort | initializeClusterTopology | initializeSecurityPolicy =>
      exact quiet (by simp [GroupCommand.families, protectedFamilies])

theorem applyPayload_guarded (data : view.identity.kind = .data) (payload : EntryPayload)
    (guarded : view.Guarded) (listed : view.Listed) :
    Applied.All (fun _ write => (view.after write.state).Guarded)
      (view.applyPayload logId payload) := by
  cases payload with
  | blank => simpa [applyPayload] using guarded
  | membership membership =>
      have within : Within [.membership]
          [(.put .membership ⟨some logId, membership⟩ : Kv.Op StateKey StateVal)] := by
        simp [StateKey.family]
      simpa [applyPayload] using guarded.within within (by decide)
  | normal command =>
      show Applied.All (fun _ write => (view.after write.state).Guarded)
        (view.applyCommand logId command)
      unfold applyCommand
      split
      · split
        · exact dispatch_guarded data command guarded listed
        · split
          · simp
          · simpa using guarded
          · simpa using guarded
      · exact dispatch_guarded data command guarded listed

theorem Guarded.of_get {other : GroupView} (guarded : view.Guarded)
    (same : ∀ key : StateKey, key.family ≠ .applied → other.get key = view.get key) :
    other.Guarded where
  records := guarded.records.frame fun key inside => same key fun applied => by
    rw [applied] at inside
    simp [protectedFamilies] at inside
  requests := by
    refine guarded.requests.kept (fun key family => same key (by simp [family])) ?_
    intro id present
    rwa [same _ (by simp [StateKey.family])] at present

end Dispatch

end GroupView

namespace GroupDb

variable {identity : GroupIdentity} {window : Nat} {content : PayloadId → Record}
  {Allowed : GroupDb → GroupEntry → Prop} {history : List GroupEntry} {db : GroupDb}

theorem applyEntry_guarded {entry : GroupEntry} {result : ApplyResult} {next : GroupDb}
    (data : db.identity.kind = .data) (guarded : db.view.Guarded)
    (done : db.applyEntry entry = .ok (result, next)) : next.view.Guarded := by
  unfold applyEntry at done
  split at done
  · simp at done
  rename_i answer write handled
  cases done
  have kept := GroupView.applyPayload_guarded data entry.payload guarded
    guarded.records.listed _ _ handled
  exact kept.of_get fun key other => commit_applied_get other

theorem Ran.guarded (data : identity.kind = .data)
    (ran : Ran identity window content Allowed history db) : db.view.Guarded := by
  have reached : ∀ view : GroupView, view.get = db.get → view.Guarded := by
    refine @Ran.invariant identity window content Allowed history db
      (fun get => ∀ view : GroupView, view.get = get → view.Guarded) ?_ ?_ ran
    · intro view empty
      refine ⟨GroupView.protected_empty fun key => by rw [empty], ?_⟩
      intro id present
      rw [empty] at present
      simp at present
    · intro history db next entry result ran held due allowed done view same
      have kind : db.identity.kind = .data := by rw [ran.settings.1, data]
      have kept := applyEntry_guarded kind (held db.view rfl) done
      exact kept.of_get fun key _ => by rw [same, view_get]
  exact reached db.view rfl

end GroupDb

end LightStream
