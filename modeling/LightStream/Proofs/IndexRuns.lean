import LightStream.Proofs.ByteIndex

/-!
Every command of a data group keeps the byte index, with what it publishes added; so it holds of
every trace with the publications of its steps.
-/

namespace LightStream

namespace GroupView

variable {view : GroupView} {logId : GroupLogId} {content : PayloadId → Record}
  {published : List Publication} {result : ApplyResult} {write : WriteBatch}

section Retention

variable {partition : PartitionKey}

theorem Indexed.floorBytes (indexed : Indexed content published view) {floor bytes : Nat}
    (bounded : view.floorBytePosition partition (view.retentionOf partition) floor = some bytes) :
    bytes = bytesBelow (recordsTo published partition) floor := by
  unfold floorBytePosition at bounded
  split at bounded
  · rename_i none
    cases bounded
    rw [none]
    rfl
  · rename_i some
    split at bounded
    · rename_i record found
      cases bounded
      obtain ⟨_, _, _, _, sum⟩ := indexed.record _ _ record found
      rw [sum, show floor - 1 + 1 = floor by omega]
    · split at bounded
      · rename_i same
        cases bounded
        rw [indexed.floor, same]
      · simp at bounded

theorem Indexed.raised (indexed : Indexed content published view)
    {retention : PartitionRetentionState} {clock : SafeLeaseClock}
    (next : retention.nextBytePosition = (view.retentionOf partition).nextBytePosition)
    (floor : retention.floorBytePosition =
      bytesBelow (recordsTo published partition) retention.logicalFloor) :
    Indexed content published (view.after [.put (.retention partition) retention,
      .put .leaseClock clock]) := by
  have stored : Indexed content published (view.after [.put (.retention partition) retention]) := by
    have within : Within [.retention]
        [(.put (.retention partition) retention : Kv.Op StateKey StateVal)] := by
      simp [StateKey.family]
    have same {key : StateKey} (outside : key.family ≠ .retention) :
        (view.after [.put (.retention partition) retention]).get key = view.get key :=
      after_get_of_within within (by simpa using outside)
    have tail (other : PartitionKey) : (view.after [.put (.retention partition) retention]).nextOffsetOf
        other = view.nextOffsetOf other := by
      rw [nextOffsetOf, nextOffsetOf, same (by simp [StateKey.family])]
    constructor
    · exact indexed.filled
    · simpa only [tail] using indexed.tiles
    · simpa only [tail] using indexed.counted
    · intro other offset record found
      rw [same (by simp [StateKey.family])] at found
      exact indexed.record other offset record found
    · intro other
      rw [tail, retentionOf_put]
      split
      · rename_i own
        rw [next, own]
        exact indexed.position partition
      · exact indexed.position other
    · intro other
      rw [retentionOf_put]
      split
      · rename_i own
        rw [own]
        exact floor
      · exact indexed.floor other
    · intro id lease found
      rw [tail]
      rw [same (by simp [StateKey.family])] at found
      exact indexed.leased id lease found
    · intro other
      rw [retentionOf_put]
      split
      · rw [next]
        exact indexed.bounded partition
      · exact indexed.bounded other
  rw [← List.singleton_append, after_append]
  exact stored.within (show Within [.leaseClock] _ by simp [StateKey.family]) (by decide)

theorem AdvanceCase.indexed {request : RetentionRequest} {observation : ClockObservation}
    (indexed : Indexed content published view)
    (case : view.AdvanceCase request observation result write) :
    Indexed content published (view.after write.state) := by
  cases case with
  | foreign | answered | unbounded => exact indexed
  | refused fresh error =>
      exact indexed.within (storeMutationResult_within _ _ _) (by decide)
  | advanced fresh floor bytes clock advanced clocked bounded =>
      rw [after_append]
      refine Indexed.within ?_ (storeMutationResult_within _ _ _) (by decide)
      exact indexed.raised rfl (indexed.floorBytes bounded)

theorem reclaimStep_positions {ranges : List ReplayRange} {maxPayloadBytes : Nat}
    {before after : ReclaimState}
    (stepped : view.reclaimStep partition ranges maxPayloadBytes before = .ok (some after)) :
    SamePositions before.retention after.retention := by
  unfold reclaimStep at stepped
  dsimp only at stepped
  split at stepped
  · cases stepped
    exact ⟨rfl, rfl, rfl⟩
  split at stepped
  · cases stepped
    exact ⟨rfl, rfl, rfl⟩
  split at stepped
  · simp at stepped
  split at stepped
  · simp at stepped
  · cases stepped
    exact ⟨rfl, rfl, rfl⟩

theorem reclaimLoop_positions {ranges : List ReplayRange} {maxRecords maxPayloadBytes : Nat} :
    ∀ {fuel : Nat} {before after : ReclaimState},
      view.reclaimLoop partition ranges maxRecords maxPayloadBytes fuel before = .ok after →
      SamePositions before.retention after.retention := by
  intro fuel
  induction fuel with
  | zero =>
      intro before after done
      cases done
      exact .refl _
  | succ fuel ih =>
      intro before after done
      rw [reclaimLoop] at done
      split at done
      · split at done
        · simp at done
        · cases done
          exact .refl _
        · rename_i next stepped
          exact (reclaimStep_positions stepped).trans (ih done)
      · cases done
        exact .refl _

theorem applyMaintainRetention_indexed {expectedCursor maxRecords maxPayloadBytes : Nat}
    {observation : ClockObservation} (indexed : Indexed content published view)
    (kept : view.Protected) (listed : view.Listed)
    (done : view.applyMaintainRetention partition expectedCursor maxRecords maxPayloadBytes
      observation = .ok (result, write)) : Indexed content published (view.after write.state) := by
  rcases applyMaintainRetention_looped done with
    rfl | ⟨clock, after, _, _, looped, _, rfl⟩
  · exact indexed
  have expired := @Protected.expired view clock kept listed
  have fits : ((view.expireDueLeases clock).retentionFor view partition).logicalFloor ≤ u64Max := by
    rw [← expired_retentionOf]
    exact (expired.floor partition).trans (expired.bounded partition)
  obtain ⟨reclaimed, reclaims⟩ := reclaimLoop_reclaims fits looped
  have positions := reclaimLoop_positions looped
  have final : (view.expired clock).ReclaimedTo (view.after (after.write.state ++
      [.put (.retention partition) after.retention, .put .leaseClock clock])) partition
        after.retention reclaimed := by
    rw [reclaims.state, List.append_assoc, after_append]
    exact reclaimOps_reclaimedTo _ (by simp [StateKey.family])
  refine (@Indexed.expired view content published clock indexed listed).kept ?_ ?_ ?_ ?_
  · intro other
    rw [nextOffsetOf, nextOffsetOf, final.frame _ (by simp [StateKey.family])]
  · intro other offset record found
    rw [final.record] at found
    split at found
    · simp at found
    · exact found
  · intro other
    rw [final.retention]
    split
    · rename_i own
      rw [own, expired_retentionOf]
      exact positions
    · exact .refl _
  · intro id lease found
    rw [final.frame _ (by simp [StateKey.family])] at found
    exact ⟨lease, found, rfl, rfl⟩

theorem applyReleaseExportFence_indexed {token : ExportFenceToken}
    (indexed : Indexed content published view) (listed : view.Listed)
    (done : view.applyReleaseExportFence token = .ok (result, write)) :
    Indexed content published (view.after write.state) := by
  rcases applyReleaseExportFence_cases done with rfl | ⟨fence, _, _, rfl⟩
  · exact indexed
  have same {key : StateKey} (outside : key.family ∉ [StateFamily.fence, .retention, .reclaimHint]) :
      (view.after (.put .mutationFence fence :: view.resumeDeferredReclaim)).get key =
        view.get key := after_get_of_within (resumed_within fence) outside
  refine indexed.kept ?_ ?_ (fun partition =>
    (resumed_lowered listed fence partition).samePositions) ?_
  · intro partition
    rw [nextOffsetOf, nextOffsetOf, same (by simp [StateKey.family])]
  · intro partition offset record found
    rwa [same (by simp [StateKey.family])] at found
  · intro id lease found
    rw [same (by simp [StateKey.family])] at found
    exact ⟨lease, found, rfl, rfl⟩

end Retention

theorem dispatch_indexed {command : GroupCommand} (indexed : Indexed content published view)
    (kept : view.Protected) (listed : view.Listed) (silent : command.publishing = none)
    (done : view.dispatch logId command = .ok (result, write)) :
    Indexed content published (view.after write.state) := by
  have quiet (outside : ∀ family ∈ indexedFamilies, family ∉ command.families) :
      Indexed content published (view.after write.state) :=
    indexed.within (dispatch_within command result write done) outside
  cases command with
  | publish | publishMany => simp [GroupCommand.publishing] at silent
  | advanceRetention request clock => exact (applyAdvanceRetention_case done).indexed indexed
  | admitReplayLease request clock =>
      exact (applyAdmitReplayLease_case done).indexed indexed fun clock =>
        indexed.admitted listed (admitDecision_case request)
  | renewReplayLease request clock =>
      exact (applyRenewReplayLease_case done).indexed indexed fun clock =>
        indexed.renewed listed (renewDecision_case request)
  | releaseReplayLease request clock =>
      exact (applyReleaseReplayLease_case done).indexed indexed fun clock =>
        indexed.released listed (releaseDecision_case request)
  | maintainRetention partition expectedCursor maxRecords maxPayloadBytes clock =>
      exact applyMaintainRetention_indexed indexed kept listed done
  | exportProtocol command =>
      cases command with
      | releaseFence token => exact applyReleaseExportFence_indexed indexed listed done
      | _ => exact quiet (by simp [GroupCommand.families, indexedFamilies])
  | _ => exact quiet (by simp [GroupCommand.families, indexedFamilies])

theorem applyPublishMany_indexed {batch : ReplicatedPublishBatch}
    (indexed : Indexed content published view) (kept : view.Protected)
    (carried : ∀ entry ∈ slottedRequests 0 batch.requests,
      entry.2.Carried content logId entry.1)
    (done : view.applyPublishMany logId batch = .ok (result, write)) :
    write = ⟨[], []⟩ ∧ (view.identity.kind ≠ .data ∨ view.get .bootstrap = none) ∨
      ∃ spec trace last, view.get .bootstrap = some spec ∧
        view.publishTrace logId spec.cluster batch.requests 0 0 PublishApplyTxn.new =
          .ok (trace, last) ∧
        Indexed content (published ++ trace.filterMap Occurrence.publication)
          (view.after write.state) := by
  unfold applyPublishMany at done
  split at done
  · rename_i foreign
    cases done
    exact .inl ⟨rfl, .inl foreign⟩
  split at done
  · rename_i absent
    cases done
    exact .inl ⟨rfl, .inr absent⟩
  rename_i spec bootstrapped
  rw [publishLoop_eq_publishTrace PublishApplyTxn.new_sound] at done
  cases traced : view.publishTrace logId spec.cluster batch.requests 0 0 PublishApplyTxn.new with
  | error error =>
      rw [traced] at done
      simp at done
  | ok trace =>
      obtain ⟨trace, last⟩ := trace
      rw [traced] at done
      cases done
      refine .inr ⟨spec, trace, last, bootstrapped, traced, ?_⟩
      have step (slot : Nat) (batch : PublishBatch) (first write : WriteBatch)
          (published more : List Publication)
          (held : Indexed content published (view.after first.state) ∧
            (view.after first.state).Protected) (own : batch.Carried content logId slot)
          (publishes : (view.after first.state).Publishes logId slot batch write more) :
          Indexed content (published ++ more) (view.after (first.append write).state) ∧
            (view.after (first.append write).state).Protected := by
        rw [show (first.append write).state = first.state ++ write.state from rfl, after_append]
        exact ⟨held.1.publishes held.2 own publishes, held.2.placed publishes.placement⟩
      obtain ⟨_, reached, _⟩ := @publishTrace_publishes view logId spec.cluster
        (fun _ write published => Indexed content published (view.after write.state) ∧
          (view.after write.state).Protected) (fun slot batch => batch.Carried content logId slot)
        step batch.requests 0 0 _ last published trace
        PublishApplyTxn.new_sound ⟨indexed, kept⟩ carried traced
      exact reached

theorem applyPublish_unready {batch : PublishBatch} (data : view.identity.kind = .data)
    (absent : view.get .bootstrap = none)
    (done : view.applyPublish logId batch = .ok (result, write)) : write = ⟨[], []⟩ := by
  unfold applyPublish at done
  rw [if_neg (not_not.mpr data), absent] at done
  cases done
  rfl

end GroupView

namespace GroupDb

variable {db next : GroupDb} {content : PayloadId → Record} {published : List Publication}
  {entry : GroupEntry} {result : ApplyResult}

theorem publications_publish {spec : BootstrapSpec} {logId : GroupLogId} {batch : PublishBatch}
    {write : WriteBatch} (free : db.view.mutationFenceState.held = none)
    (bootstrapped : db.get .bootstrap = some spec)
    (done : db.view.applyPublish logId batch = .ok (result, write)) :
    db.publications ⟨logId, .normal (.publish batch)⟩ =
      (GroupView.publishedBy batch result write).toList := by
  simp only [publications, free, bootstrapped, GroupCommand.publishing, occurrences, done]
  cases result with
  | published receipt =>
      dsimp only [GroupView.publishedBy]
      cases made : Occurrence.publication ⟨batch, .ok receipt, write.state⟩ <;> simp [made]
  | rejected error => rfl
  | _ => rfl

theorem applyEntry_indexed (data : db.identity.kind = .data)
    (indexed : GroupView.Indexed content published db.view) (guarded : db.view.Guarded)
    (due : Due content db entry) (done : db.applyEntry entry = .ok (result, next)) :
    GroupView.Indexed content (published ++ db.publications entry) next.view := by
  unfold applyEntry at done
  split at done
  · simp at done
  rename_i answer write handled
  cases done
  have reached : GroupView.Indexed content (published ++ db.publications entry)
      (db.view.after write.state) := by
    obtain ⟨logId, payload⟩ := entry
    cases payload with
    | blank =>
        cases handled
        simpa [publications] using indexed
    | membership membership =>
        cases handled
        have within : Within [.membership]
            [(.put .membership ⟨some logId, membership⟩ : Kv.Op StateKey StateVal)] := by
          simp [StateKey.family]
        simpa [publications] using indexed.within within (by decide)
    | normal command =>
        have silent (none : command.publishing = none) :
            GroupView.Indexed content
              (published ++ db.publications ⟨logId, .normal command⟩)
              (db.view.after write.state) := by
          rw [show db.publications ⟨logId, .normal command⟩ = [] by simp [publications, none],
            List.append_nil]
          rcases GroupView.applyCommand_dispatched handled with dispatched | rfl
          · exact GroupView.dispatch_indexed indexed guarded.records guarded.records.listed none
              dispatched
          · exact indexed
        have fenced (included : command.fenceClass = .includedMutation)
            (isHeld : db.view.mutationFenceState.held ≠ none) :
            GroupView.Indexed content
              (published ++ db.publications ⟨logId, .normal command⟩)
              (db.view.after write.state) := by
          obtain ⟨held, isHeld⟩ := Option.ne_none_iff_exists'.mp isHeld
          rw [show db.publications ⟨logId, .normal command⟩ = [] by simp [publications, isHeld],
            List.append_nil, GroupView.applyCommand_fenced isHeld included result write handled]
          exact indexed
        cases command with
        | publish batch =>
            by_cases free : db.view.mutationFenceState.held = none
            · have dispatched : db.view.applyPublish logId batch = .ok (result, write) :=
                (GroupView.applyCommand_free free).symm.trans handled
              cases bootstrapped : db.get .bootstrap with
              | none =>
                  rw [GroupView.applyPublish_unready data bootstrapped dispatched]
                  simpa [publications, free, bootstrapped] using indexed
              | some spec =>
                  rw [publications_publish free bootstrapped dispatched]
                  refine indexed.publishes guarded.records (due.carried fun payload inside => inside)
                    (GroupView.applyPublish_publishes dispatched)
            · exact fenced rfl free
        | publishMany batch =>
            by_cases free : db.view.mutationFenceState.held = none
            · have dispatched : db.view.applyPublishMany logId batch = .ok (result, write) :=
                (GroupView.applyCommand_free free).symm.trans handled
              have carried : ∀ request ∈ slottedRequests 0 batch.requests,
                  request.2.Carried content logId request.1 := by
                intro request member
                refine due.carried fun payload inside => ?_
                exact List.mem_flatMap.mpr ⟨request, member, inside⟩
              rcases GroupView.applyPublishMany_indexed indexed guarded.records carried dispatched
                with ⟨rfl, foreign | absent⟩ | ⟨spec, trace, last, bootstrapped, traced, reached⟩
              · exact absurd data foreign
              · have absent : db.get .bootstrap = none := absent
                simpa [publications, free, absent] using indexed
              · have bootstrapped : db.get .bootstrap = some spec := bootstrapped
                simpa [publications, free, bootstrapped, GroupCommand.publishing, occurrences, traced]
                  using reached
            · exact fenced rfl free
        | _ => exact silent rfl
  exact reached.frame fun key inside => commit_applied_get fun applied => by
    rw [applied] at inside
    simp [GroupView.indexedFamilies] at inside

section Runs

variable {identity : GroupIdentity} {window : Nat} {Allowed : GroupDb → GroupEntry → Prop}
  {steps : List Step}

theorem Traced.indexed (data : identity.kind = .data)
    (traced : Traced identity window content Allowed steps db) :
    GroupView.Indexed content (publishedIn steps) db.view := by
  have reached : ∀ view : GroupView, view.get = db.get →
      GroupView.Indexed content (publishedIn steps) view := by
    refine @Traced.invariant identity window content Allowed steps db
      (fun steps get => ∀ view : GroupView, view.get = get →
        GroupView.Indexed content (publishedIn steps) view) ?_ ?_ traced
    · intro view empty
      exact GroupView.indexed_empty fun key => by rw [empty]
    · intro steps db next entry result traced held due allowed done view same
      have kind : db.identity.kind = .data := by rw [traced.ran.settings.1, data]
      have guarded := traced.ran.guarded data
      have kept := applyEntry_indexed kind (held db.view rfl) guarded due done
      rw [publishedIn, List.flatMap_append, List.flatMap_singleton]
      exact kept.frame fun key _ => by rw [same, view_get]
  exact reached db.view rfl

end Runs

end GroupDb

end LightStream
