import LightStream.Server.StreamRoutes
import LightStream.Proofs.CatalogSpec
import LightStream.Proofs.Entries

/-!
What commands do to the stream catalog: each is a move of the catalog that its keys hold.  A stored
stream stays, its lifecycle only moves forward, and a stream that began to be deleted never has a
route again.
-/

namespace LightStream

namespace GroupView

variable {view next : GroupView} {logId : GroupLogId} {result : ApplyResult} {write : WriteBatch}

def catalog (view : GroupView) : Catalog where
  pool := view.get .dataGroupPool
  maxStreams := view.get .maxStreams
  revision := (view.get .catalogRevision).getD 0
  streams id := view.get (.stream id)
  names name := view.get (.streamName name)
  intents request := view.get (.createIntent request)

def Counted (view : GroupView) : Prop :=
  (view.streams.filter fun descriptor => descriptor.lifecycle ≠ .deleted).length =
    view.catalog.live.ncard

theorem catalog_congr (same : ∀ key : StateKey, key.family = .stream ∨ key.family = .catalog →
    next.get key = view.get key) : next.catalog = view.catalog := by
  have pool := same .dataGroupPool (.inr rfl)
  have limit := same .maxStreams (.inr rfl)
  have revision := same .catalogRevision (.inr rfl)
  have streams := fun id => same (.stream id) (.inl rfl)
  have names := fun name => same (.streamName name) (.inr rfl)
  have intents := fun request => same (.createIntent request) (.inr rfl)
  simp only [catalog, pool, limit, revision, streams, names, intents]

theorem catalog_within {families : List StateFamily} {writes : StateBatch}
    (within : Within families writes) (streams : .stream ∉ families)
    (catalog : .catalog ∉ families) : (view.after writes).catalog = view.catalog := by
  apply catalog_congr
  rintro key (family | family)
  · exact after_get_of_within within (by rwa [family])
  · exact after_get_of_within within (by rwa [family])

theorem idle_within {families : List StateFamily} {writes : StateBatch}
    (within : Within families writes) (streams : .stream ∉ families)
    (catalog : .catalog ∉ families) : view.catalog.Move (view.after writes).catalog := by
  rw [catalog_within within streams catalog]
  exact .idle

/-! ### What an operation does to the catalog -/

theorem after_cons (first second : Kv.Op StateKey StateVal) (rest : StateBatch) :
    view.after (first :: second :: rest) = (view.after [first]).after (second :: rest) :=
  after_append _ [first] (second :: rest)

theorem catalog_put_pool (groups : List GroupId) :
    (view.after [.put .dataGroupPool groups]).catalog = { view.catalog with pool := some groups } := by
  simp [catalog, after, Kv.pending, Kv.Op.effect]

theorem catalog_put_limit (maximum : Nat) : (view.after [.put .maxStreams maximum]).catalog =
    { view.catalog with maxStreams := some maximum } := by
  simp [catalog, after, Kv.pending, Kv.Op.effect]

theorem catalog_put_revision (revision : Nat) :
    (view.after [.put .catalogRevision revision]).catalog =
      { view.catalog with revision := revision } := by
  simp [catalog, after, Kv.pending, Kv.Op.effect]

theorem catalog_put_stream (id : StreamId) (descriptor : StreamDescriptor) :
    (view.after [.put (.stream id) descriptor]).catalog =
      { view.catalog with streams := Function.update view.catalog.streams id (some descriptor) } := by
  ext1 <;> try simp [catalog, after, Kv.pending, Kv.Op.effect]
  funext other
  by_cases same : other = id
  · subst same
    simp
  · simp [same, Ne.symm same]

theorem catalog_put_intent (request : CatalogRequestId) (intent : StoredCreateIntent) :
    (view.after [.put (.createIntent request) intent]).catalog =
      { view.catalog with intents := Function.update view.catalog.intents request (some intent) } := by
  ext1 <;> try simp [catalog, after, Kv.pending, Kv.Op.effect]
  funext other
  by_cases same : other = request
  · subst same
    simp
  · simp [same, Ne.symm same]

theorem catalog_put_name (name : StreamName) (id : StreamId) :
    (view.after [.put (.streamName name) id]).catalog =
      { view.catalog with names := Function.update view.catalog.names name (some id) } := by
  ext1 <;> try simp [catalog, after, Kv.pending, Kv.Op.effect]
  funext other
  by_cases same : other = name
  · subst same
    simp
  · simp [same, Ne.symm same]

theorem catalog_delete_name (name : StreamName) :
    (view.after [.delete (.streamName name)]).catalog =
      { view.catalog with names := Function.update view.catalog.names name none } := by
  ext1 <;> try simp [catalog, after, Kv.pending, Kv.Op.effect]
  funext other
  by_cases same : other = name
  · subst same
    simp
  · simp [same, Ne.symm same]

theorem catalog_put_partitions (maximum : Nat) :
    (view.after [.put .maxPartitions maximum]).catalog = view.catalog := by
  simp [catalog, after, Kv.pending, Kv.Op.effect]

theorem catalog_put_cursor (cursor : Nat) :
    (view.after [.put .assignmentCursor cursor]).catalog = view.catalog := by
  simp [catalog, after, Kv.pending, Kv.Op.effect]

/-! ### The handlers -/

theorem bootstrapConfiguration_catalog (topology : Option ClusterTopology)
    (groups : List GroupId) : (view.after (bootstrapConfiguration topology groups)).catalog =
      { view.catalog with pool := some groups } := by
  cases topology with
  | none => exact catalog_put_pool groups
  | some topology =>
      rw [bootstrapConfiguration, after_cons, catalog_within
        (show Within [.topology] _ by simp [StateKey.family]) (by decide) (by decide),
        catalog_put_pool]

theorem bootstrapCatalog_catalog (spec : BootstrapSpec) (group : GroupId)
    (maxStreams maxPartitions : Nat) {groups : List GroupId}
    (pool : view.catalog.pool = some groups) :
    (view.after (bootstrapCatalog spec group maxStreams maxPartitions)).catalog =
      view.catalog.booted spec group groups maxStreams := by
  simp only [bootstrapCatalog, after_cons, catalog_put_name, catalog_put_stream,
    catalog_put_revision, catalog_put_cursor, catalog_put_partitions, catalog_put_limit, pool,
    Catalog.booted]

theorem applyBootstrapControl_moves {spec : BootstrapSpec} {topology : Option ClusterTopology}
    {security : Option SecurityPolicy} {dataGroups : List GroupId} {maxStreams maxPartitions : Nat}
    (done : view.applyBootstrapControl spec topology security dataGroups maxStreams maxPartitions =
      .ok (result, write)) : view.catalog.Move (view.after write.state).catalog := by
  unfold applyBootstrapControl at done
  split at done
  · cases done
    exact .idle
  rename_i group others
  split at done
  · cases done
    exact .idle
  rename_i valid
  split at done
  · simp at done
  · rename_i applied
    cases done
    exact idle_within (applyBootstrap_footprint spec _ _ _ applied).1 (by decide) (by decide)
  rename_i begun _ applied
  have started : (view.after begun.state).catalog = view.catalog :=
    catalog_within (applyBootstrap_footprint spec _ _ _ applied).1 (by decide) (by decide)
  split at done
  · split at done <;> cases done <;> rw [started] <;> exact .idle
  rename_i empty
  have configured : ((view.after begun.state).after
      (bootstrapConfiguration topology (group :: others))).catalog =
        { view.catalog with pool := some (group :: others) } := by
    rw [bootstrapConfiguration_catalog, started]
  split at done
  · cases done
    rw [after_append, after_append, bootstrapCatalog_catalog spec group maxStreams maxPartitions
      (congrArg Catalog.pool configured), configured]
    exact .booted spec group (group :: others) maxStreams empty (by omega)
  split at done
  · cases done
    rw [after_append, configured]
    exact .pooled _ empty
  · rename_i policy _
    cases done
    have secured : ((((view.after begun.state).after
        (bootstrapConfiguration topology (group :: others)))).after
          [.put .securityPolicy policy]).catalog =
            { view.catalog with pool := some (group :: others) } := by
      rw [catalog_within (show Within [.policy] _ by simp [StateKey.family]) (by decide)
        (by decide), configured]
    rw [after_append, after_append, bootstrapCatalog, after_cons, ← bootstrapCatalog,
      bootstrapCatalog_catalog spec group maxStreams maxPartitions
        (congrArg Catalog.pool secured), secured]
    exact .booted spec group (group :: others) maxStreams empty (by omega)

theorem applyCreateStream_moves {spec : CreateStreamSpec} {streamId : StreamId}
    (counted : view.Counted)
    (done : view.applyCreateStream spec streamId = .ok (result, write)) :
    view.catalog.Move (view.after write.state).catalog := by
  unfold applyCreateStream at done
  split at done
  · cases done
    exact .idle
  split at done
  · cases done
    exact .idle
  split at done
  · split at done
    · cases done
      exact .idle
    split at done
    · simp at done
    · cases done
      exact .idle
  rename_i bootstrap _ _ unintended
  split at done
  · cases done
    exact .idle
  rename_i unnamed
  split at done
  · simp at done
  rename_i maximum limit
  split at done
  · simp at done
  split at done
  · cases done
    exact .idle
  split at done
  · cases done
    exact .idle
  rename_i room
  split at done
  · cases done
    exact .idle
  rename_i fresh
  split at done
  · simp at done
  · simp at done
  · rename_i first others pool
    cases done
    have fresh : view.catalog.Fresh spec streamId
        { cluster := bootstrap.cluster
          stream := streamId
          name := spec.name
          lifecycle := .preparing
          placements := assignPlacements (first :: others) first
            ((view.get .assignmentCursor).getD 0) spec.partitionCount
          readyGroups := []
          revision := view.nextCatalogRevision } := by
      refine ⟨unintended, Option.not_isSome_iff_eq_none.mp unnamed,
        Option.not_isSome_iff_eq_none.mp fresh, ?_, ⟨maximum, limit, ?_⟩, ⟨rfl, rfl⟩, ⟨rfl, rfl⟩,
        rfl⟩
      · intro empty
        have empty : view.get .dataGroupPool = none := empty
        rw [pool] at empty
        cases empty
      · rw [← counted]
        exact Nat.lt_of_not_le room
    simp only [after_cons, catalog_put_cursor, catalog_put_name, catalog_put_stream,
      catalog_put_intent, catalog_put_revision]
    exact .created spec streamId _ fresh

theorem descriptor_moves {id : StreamId} {stored descriptor : StreamDescriptor}
    (found : view.get (.stream id) = some stored)
    (moves : stored.Moves view.nextCatalogRevision descriptor) :
    view.catalog.Move (view.after (.put .catalogRevision view.nextCatalogRevision ::
      .put (.stream id) descriptor ::
        if descriptor.Live then [] else [.delete (.streamName descriptor.name)])).catalog := by
  have changed := @Catalog.Move.changed view.catalog id stored descriptor found moves
  by_cases lives : descriptor.Live
  · rw [if_pos lives, after_cons, catalog_put_stream, catalog_put_revision]
    rwa [Catalog.changed, if_pos lives] at changed
  · rw [if_neg lives, after_cons, after_cons, catalog_delete_name, catalog_put_stream,
      catalog_put_revision]
    rwa [Catalog.changed, if_neg lives] at changed

theorem applyReplicaReady_moves {streamId : StreamId} {groupId : GroupId}
    (done : view.applyReplicaReady streamId groupId = .ok (result, write)) :
    view.catalog.Move (view.after write.state).catalog := by
  unfold applyReplicaReady at done
  split at done
  · cases done
    exact .idle
  rename_i descriptor stored
  split at done
  · cases done
    exact .idle
  rename_i preparing
  split at done
  · cases done
    exact .idle
  rename_i placed
  split at done
  · cases done
    exact .idle
  · cases done
    have preparing := not_not.mp preparing
    obtain ⟨placement, member, rfl⟩ := not_not.mp placed
    have moves := descriptor_moves stored (.ready _ preparing (List.mem_map_of_mem member))
    rwa [if_pos (by simp [StreamDescriptor.Live, preparing])] at moves

theorem applyActivateStream_moves {streamId : StreamId}
    (done : view.applyActivateStream streamId = .ok (result, write)) :
    view.catalog.Move (view.after write.state).catalog := by
  unfold applyActivateStream at done
  split at done
  · cases done
    exact .idle
  rename_i descriptor stored
  split at done
  · cases done
    exact .idle
  split at done
  · cases done
    exact .idle
  rename_i preparing
  split at done
  · cases done
    exact .idle
  · rename_i ready
    cases done
    exact descriptor_moves stored (.activated (not_not.mp preparing) (not_not.mp ready))

theorem applyBeginDelete_moves {streamId : StreamId}
    (done : view.applyBeginDelete streamId = .ok (result, write)) :
    view.catalog.Move (view.after write.state).catalog := by
  unfold applyBeginDelete at done
  split at done
  · cases done
    exact .idle
  rename_i descriptor stored
  split at done
  · cases done
    exact .idle
  split at done
  · cases done
    exact .idle
  · rename_i active
    cases done
    exact descriptor_moves stored (.deleting (not_not.mp active))

theorem applyFinishDelete_moves {streamId : StreamId}
    (done : view.applyFinishDelete streamId = .ok (result, write)) :
    view.catalog.Move (view.after write.state).catalog := by
  unfold applyFinishDelete at done
  split at done
  · cases done
    exact .idle
  rename_i descriptor stored
  split at done
  · cases done
    exact .idle
  split at done
  · cases done
    exact .idle
  · rename_i deleting
    cases done
    exact descriptor_moves stored (.deleted (not_not.mp deleting))

theorem dispatch_moves {command : GroupCommand} (counted : view.Counted)
    (done : view.dispatch logId command = .ok (result, write)) :
    view.catalog.Move (view.after write.state).catalog := by
  have within := dispatch_within command result write done
  cases command with
  | bootstrapControl => exact applyBootstrapControl_moves done
  | createStreamIntent => exact applyCreateStream_moves counted done
  | replicaReady => exact applyReplicaReady_moves done
  | activateStream => exact applyActivateStream_moves done
  | beginDeleteStream => exact applyBeginDelete_moves done
  | finishDeleteStream => exact applyFinishDelete_moves done
  | exportProtocol command =>
      refine idle_within within ?_ ?_
      · cases command <;> simp [GroupCommand.families]
      · cases command <;> simp [GroupCommand.families]
  | _ =>
      refine idle_within within ?_ ?_ <;>
        simp [GroupCommand.families, publishAllFamilies, leaseFamilies, decisionFamilies,
          maintainFamilies]

/-! ### What a move keeps -/

def Cataloged (view : GroupView) : Prop :=
  ∀ id : StreamId, view.get (.stream id) ≠ none → view.get .dataGroupPool ≠ none

structure Advances (view next : GroupView) : Prop where
  streams : ∀ (id : StreamId) (before : StreamDescriptor), view.get (.stream id) = some before →
    ∃ after : StreamDescriptor, next.get (.stream id) = some after ∧
      before.lifecycle.rank ≤ after.lifecycle.rank
  cataloged : next.Cataloged

theorem Advances.of_move (cataloged : view.Cataloged) (move : view.catalog.Move next.catalog) :
    view.Advances next := by
  have moved : ∀ {before after : Catalog}, before.Move after →
      (∀ id, before.streams id ≠ none → before.pool ≠ none) →
      (∀ id descriptor, before.streams id = some descriptor → ∃ later,
        after.streams id = some later ∧ descriptor.lifecycle.rank ≤ later.lifecycle.rank) ∧
      ∀ id, after.streams id ≠ none → after.pool ≠ none := by
    intro before after move pooled
    cases move with
    | idle => exact ⟨fun _ descriptor stored => ⟨descriptor, stored, le_rfl⟩, pooled⟩
    | pooled groups empty =>
        exact ⟨fun _ descriptor stored => ⟨descriptor, stored, le_rfl⟩, fun _ _ => nofun⟩
    | booted spec group groups maximum empty positive =>
        refine ⟨?_, fun _ _ => nofun⟩
        intro id descriptor stored
        exact absurd empty (pooled id (by rw [stored]; nofun))
    | created spec id descriptor fresh =>
        refine ⟨?_, fun _ _ => fresh.pooled⟩
        intro other stored known
        refine ⟨stored, Catalog.update_some.mpr (.inr ⟨?_, known⟩), le_rfl⟩
        rintro rfl
        rw [fresh.stream] at known
        cases known
    | changed id stored descriptor found moves =>
        refine ⟨?_, fun _ _ => pooled id (by rw [found]; nofun)⟩
        intro other before known
        by_cases same : other = id
        · subst same
          rw [found] at known
          cases known
          refine ⟨descriptor, Catalog.update_some.mpr (.inl ⟨rfl, rfl⟩), ?_⟩
          rcases Catalog.moves_rank moves with same | next <;> omega
        · exact ⟨before, Catalog.update_some.mpr (.inr ⟨same, known⟩), le_rfl⟩
  obtain ⟨streams, pooled⟩ := moved move cataloged
  exact ⟨streams, pooled⟩

def Withdrawn (view : GroupView) (id : StreamId) : Prop :=
  ∃ descriptor : StreamDescriptor, view.get (.stream id) = some descriptor ∧
    StreamLifecycle.deleting.rank ≤ descriptor.lifecycle.rank

theorem Withdrawn.advances {id : StreamId} (withdrawn : view.Withdrawn id)
    (advances : view.Advances next) : next.Withdrawn id := by
  obtain ⟨before, stored, late⟩ := withdrawn
  obtain ⟨after, kept, forward⟩ := advances.streams id before stored
  exact ⟨after, kept, late.trans forward⟩

theorem applyBeginDelete_withdraws {streamId : StreamId} {answer : StreamDescriptor}
    (done : view.applyBeginDelete streamId = .ok (.stream answer, write)) :
    (view.after write.state).Withdrawn streamId := by
  unfold applyBeginDelete at done
  split at done
  · cases done
  rename_i descriptor stored
  split at done
  · rename_i gone
    cases done
    refine ⟨answer, stored, ?_⟩
    rcases gone with gone | gone
    · rw [gone]
    · rw [gone]
      decide
  split at done
  · cases done
  · cases done
    exact ⟨_, by simp [after, Kv.pending, Kv.Op.effect]; rfl, le_rfl⟩

theorem replayStream_stored {streamId : StreamId} {settled : StreamDescriptor → Bool}
    {answer : ApplyResult} (replayed : view.replayStream streamId settled = some answer) :
    ∃ descriptor : StreamDescriptor, view.get (.stream streamId) = some descriptor ∧
      settled descriptor = true := by
  obtain ⟨descriptor, found, _⟩ := Option.map_eq_some_iff.mp replayed
  obtain ⟨stored, done⟩ := Option.filter_eq_some_iff.mp found
  exact ⟨descriptor, stored, done⟩

end GroupView

namespace GroupDb

variable {db next : GroupDb} {entry : GroupEntry} {result : ApplyResult}

theorem streamIndex_some {key : StateKey} {id : StreamId} :
    streamIndex key = some id ↔ key = .stream id := by
  cases key <;> simp [streamIndex]

theorem counted (db : GroupDb) : db.view.Counted := by
  have listed : ∀ ids : List StreamId,
      ((ids.filterMap fun id => db.get (.stream id)).filter
        fun descriptor => descriptor.lifecycle ≠ .deleted).length =
      (ids.filter fun id => (db.get (.stream id)).any
        fun descriptor : StreamDescriptor => descriptor.lifecycle ≠ .deleted).length := by
    intro ids
    induction ids with
    | nil => rfl
    | cons id rest ih =>
        cases stored : db.get (.stream id) with
        | none => simpa [stored] using ih
        | some descriptor =>
            by_cases lives : descriptor.lifecycle = .deleted
            · simpa [stored, lives] using ih
            · simpa [stored, lives] using ih
  have nodup : (db.state.scan streamIndex).Nodup := by
    apply Kv.Store.scan_nodup
    intro first second id firstIs secondIs
    rw [streamIndex_some.mp firstIs, streamIndex_some.mp secondIs]
  have live : db.view.catalog.live = ((db.state.scan streamIndex).filter
      fun id => (db.get (.stream id)).any
        fun descriptor : StreamDescriptor => descriptor.lifecycle ≠ .deleted).toFinset := by
    ext id
    rw [Finset.mem_coe, List.mem_toFinset, List.mem_filter, Option.any_eq_true, Kv.Store.mem_scan]
    constructor
    · rintro ⟨descriptor, stored, lives⟩
      have stored : db.state.get (.stream id) = some descriptor := stored
      exact ⟨⟨.stream id, by rw [stored]; rfl, rfl⟩, descriptor, stored, decide_eq_true lives⟩
    · rintro ⟨_, descriptor, stored, lives⟩
      exact ⟨descriptor, stored, of_decide_eq_true lives⟩
  rw [GroupView.Counted, live, Set.ncard_coe_finset, List.toFinset_card_of_nodup (nodup.filter _)]
  exact listed _

theorem applyEntry_moves (done : db.applyEntry entry = .ok (result, next)) :
    db.view.catalog.Move next.view.catalog := by
  cases applyEntry_case done with
  | quiet silent noop same =>
      rw [@GroupView.catalog_congr db.view next.view]
      · exact .idle
      · rintro key (family | family) <;> exact same key (by simp [family])
  | fenced command held normal included isHeld answer replayed answered same =>
      rw [@GroupView.catalog_congr db.view next.view]
      · exact .idle
      · rintro key (family | family) <;> exact same key (by simp [family])
  | dispatched command write normal free dispatched reads =>
      rw [@GroupView.catalog_congr (db.view.after write.state) next.view]
      · exact GroupView.dispatch_moves db.counted dispatched
      · rintro key (family | family) <;> exact reads key (by simp [family])

theorem applyEntry_advances (cataloged : db.view.Cataloged)
    (done : db.applyEntry entry = .ok (result, next)) : db.view.Advances next.view :=
  .of_move cataloged (applyEntry_moves done)

theorem applyEntry_withdraws {stream : StreamId} {answer : StreamDescriptor}
    (begins : entry.payload = .normal (.beginDeleteStream stream))
    (done : db.applyEntry entry = .ok (.stream answer, next)) : next.view.Withdrawn stream := by
  have carried {view : GroupView} (withdrawn : view.Withdrawn stream)
      (same : next.get (.stream stream) = view.get (.stream stream)) :
      next.view.Withdrawn stream := by
    obtain ⟨descriptor, stored, late⟩ := withdrawn
    exact ⟨descriptor, same.trans stored, late⟩
  cases applyEntry_case done with
  | quiet silent => exact absurd begins (silent _)
  | fenced command held normal included isHeld reply replayed answered same =>
      rw [begins] at normal
      cases normal
      suffices withdrawn : db.view.Withdrawn stream from
        carried withdrawn (same (.stream stream) (by simp [StateKey.family]))
      cases reply with
      | none => cases answered
      | some reply =>
          have found := Except.ok.inj replayed
          obtain ⟨descriptor, stored, settled⟩ := GroupView.replayStream_stored found
          refine ⟨descriptor, stored, ?_⟩
          rcases Bool.or_eq_true_iff.mp settled with deleting | deleted
          · rw [of_decide_eq_true deleting]
          · rw [of_decide_eq_true deleted]
            decide
  | dispatched command write normal free dispatched reads =>
      rw [begins] at normal
      cases normal
      exact carried (GroupView.applyBeginDelete_withdraws dispatched)
        (reads (.stream stream) (by simp [StateKey.family]))

theorem route_withdrawn {stream : StreamId} (withdrawn : db.view.Withdrawn stream)
    (partition : Nat) : db.route stream partition = .error .streamNotActive := by
  obtain ⟨descriptor, stored, late⟩ := withdrawn
  have stored : db.get (.stream stream) = some descriptor := stored
  have inactive : descriptor.lifecycle ≠ .active := by
    intro active
    rw [active] at late
    exact absurd late (by decide)
  rw [GroupDb.route, stored]
  exact if_pos inactive

end GroupDb

end LightStream
