import LightStream.Proofs.Bookmarks
import LightStream.Proofs.Replay

/-!
The bookmark indexes over whole runs.  They agree as long as no `CreateBookmark` takes a publication
that an available bookmark already has, which only a counter at its maximum makes possible.
-/

namespace LightStream

namespace GroupView

variable {Full : GroupView → PartitionKey → Prop} {Sole : Nat → Prop} {view other : GroupView}
  {cluster : ClusterId} {partition : PartitionKey}

theorem BookmarkMove.tombstone {id : BookmarkId} {bookmark : CommittedBookmark}
    (move : BookmarkMove Full cluster view other)
    (stored : view.get (.bookmarkId id) = some bookmark) (gone : bookmark.lifecycle = .deleted) :
    other.get (.bookmarkId id) = some bookmark := by
  cases move with
  | kept grown reads =>
      rw [reads _ rfl]
      exact stored
  | created grown target made fresh unused numbered full placed committed live reads =>
      rw [reads _ rfl, bookmarkWrites_id, if_neg, stored]
      rintro rfl
      rw [fresh] at stored
      simp at stored
  | deleted grown target dropped old found placed live reads =>
      rw [reads _ rfl, deletionWrites_id, if_neg, stored]
      rintro rfl
      obtain rfl := Option.some.inj (found.symm.trans stored)
      rw [live] at gone
      simp at gone

theorem BookmarkMoves.tombstone {id : BookmarkId} {bookmark : CommittedBookmark}
    (moves : BookmarkMoves Full cluster view other)
    (stored : view.get (.bookmarkId id) = some bookmark) (gone : bookmark.lifecycle = .deleted) :
    other.get (.bookmarkId id) = some bookmark := by
  induction moves with
  | refl => exact stored
  | tail moves move ih => exact move.tombstone ih gone

theorem BookmarkMoves.bookmarked (moves : BookmarkMoves Full cluster view other)
    (free : ∀ (view : GroupView) (target : PartitionKey), Full view target → Sole u64Max →
      view.get (.bookmarkOrder target u64Max) = none)
    (held : view.Bookmarked Sole cluster partition) : other.Bookmarked Sole cluster partition := by
  induction moves with
  | refl => exact held
  | tail moves move ih => exact ih.move (free _) move

end GroupView

namespace GroupDb

variable {identity : GroupIdentity} {window : Nat} {content : PayloadId → Record}
  {Full : GroupView → PartitionKey → Prop} {Sole : Nat → Prop} {steps : List Step}
  {db next : GroupDb} {entry : GroupEntry} {result : ApplyResult}

/-- What is known of every `CreateBookmark` that reaches its handler at a full counter. -/
def MeetsFull (Full : GroupView → PartitionKey → Prop) (db : GroupDb) (entry : GroupEntry) : Prop :=
  ∀ command, entry.payload = .normal command → db.view.mutationFenceState.held = none →
    ∀ partition, db.view.CreatesBookmark partition command →
      u64Max ≤ db.view.publicationOf partition → Full db.view partition

theorem applyEntry_bookmarkMoves (meets : db.MeetsFull Full entry)
    (done : db.applyEntry entry = .ok (result, next)) :
    GroupView.BookmarkMoves Full db.identity.clusterId db.view next.view := by
  have quiet {view : GroupView} {families : List StateFamily}
      (reads : ∀ key : StateKey, key.family ∉ families → next.get key = view.get key)
      (bookmarks : StateFamily.bookmark ∉ families) (tails : StateFamily.nextOffset ∉ families) :
      GroupView.BookmarkMove Full db.identity.clusterId view next.view :=
    .kept (.of_reads fun partition => reads _ tails) fun key family => reads key (by rwa [family])
  cases applyEntry_case done with
  | quiet silent noop same => exact .single (quiet same (by decide) (by decide))
  | fenced command held normal included isHeld answer replayed answered same =>
      exact .single (quiet same (by decide) (by decide))
  | dispatched command write normal free dispatched reads =>
      refine .tail ?_ (quiet reads (by decide) (by decide))
      refine GroupView.dispatch_bookmarkMoves (fun partition creates => ?_) dispatched
      refine meets command normal (free ?_) partition creates
      cases command <;> first | rfl | exact creates.elim

/-- A bookmark that a step left deleted is as that step left it. -/
def Tombstones (steps : List Step) (get : (key : StateKey) → Option (StateVal key)) : Prop :=
  ∀ step ∈ steps, ∀ id bookmark, step.after.get (.bookmarkId id) = some bookmark →
    bookmark.lifecycle = .deleted → get (.bookmarkId id) = some bookmark

theorem Traced.bookmarked (free : ∀ (view : GroupView) (target : PartitionKey), Full view target →
      Sole u64Max → view.get (.bookmarkOrder target u64Max) = none)
    (traced : Traced identity window content (MeetsFull Full) steps db) :
    (∀ partition, db.view.Bookmarked Sole identity.clusterId partition) ∧
      Tombstones steps db.get := by
  have reached : (∀ view : GroupView, view.get = db.get →
      ∀ partition, view.Bookmarked Sole identity.clusterId partition) ∧ Tombstones steps db.get := by
    refine @Traced.invariant identity window content (MeetsFull Full) steps db
      (fun steps get => (∀ view : GroupView, view.get = get →
        ∀ partition, view.Bookmarked Sole identity.clusterId partition) ∧ Tombstones steps get)
      ?_ ?_ traced
    · refine ⟨fun view empty partition => GroupView.bookmarked_empty fun key => by rw [empty], ?_⟩
      intro step member
      simp at member
    · rintro steps db next entry result traced ⟨held, tombs⟩ due meets done
      have moves := applyEntry_bookmarkMoves meets done
      rw [traced.ran.settings.1] at moves
      constructor
      · intro view same partition
        have kept := moves.bookmarked free (held db.view rfl partition)
        refine kept.frame (.of_reads fun partition => ?_) fun key family => ?_
        · rw [same, view_get]
        · rw [same, view_get]
      · intro step member id bookmark stored gone
        rcases List.mem_append.mp member with earlier | last
        · exact moves.tombstone (tombs step earlier id bookmark stored gone) gone
        · rw [List.mem_singleton.mp last] at stored
          exact stored
  exact ⟨reached.1 db.view rfl, reached.2⟩

/-- A group in which bookmarks were created and deleted again, so many of them. -/
structure Cycled (count : Nat) (db : GroupDb) : Prop where
  ran : ∃ history, Ran freshData.identity 2 (fun _ => [7]) (fun _ _ => True) history db
  used : db.UsedBelow (2 * count)
  unfenced : db.view.mutationFenceState.held = none
  counter : db.view.publicationOf samplePartition = count
  fresh : ∀ value, count ≤ value → db.get (.bookmarkId (.uuid value)) = none
  unused : ∀ name, db.get (.bookmarkName samplePartition name) = none

def createMark (value : Nat) (name : String) : GroupCommand :=
  .createBookmark (.uuid value) samplePartition ⟨name⟩ 0

def markOf (db : GroupDb) (value : Nat) (name : String) : CommittedBookmark :=
  CommittedBookmark.published (.uuid value) ⟨name⟩ ⟨sampleCluster, samplePartition, 0⟩
    (saturatingAdd (db.view.publicationOf samplePartition) 1)

theorem submit_unfenced {history : List GroupEntry} {bound : Nat} {command : GroupCommand}
    {write : WriteBatch}
    (ran : Ran freshData.identity 2 (fun _ => [7]) (fun _ _ => True) history db)
    (used : db.UsedBelow bound) (unfenced : db.view.mutationFenceState.held = none)
    (thin : (thinCommand ⟨1, 1, bound⟩ command).2 = []) (within : Within [.bookmark] write.state)
    (done : (db.append [⟨⟨1, 1, bound⟩, .normal command⟩]).view.dispatch ⟨1, 1, bound⟩ command =
      .ok (result, write)) :
    ∃ entry next, Ran freshData.identity 2 (fun _ => [7]) (fun _ _ => True) (history ++ [entry])
        next ∧ next.UsedBelow (bound + 1) ∧ next.view.mutationFenceState.held = none ∧
        ∀ key : StateKey, key.family = .bookmark →
          next.get key = (db.view.after write.state).get key := by
  have free : (db.append [⟨⟨1, 1, bound⟩, .normal command⟩]).view.mutationFenceState.held = none :=
    unfenced
  obtain ⟨next, applied, reads⟩ := applyEntry_dispatched free done
  have submitted : db.submit ⟨⟨1, 1, bound⟩, .normal command⟩ = .ok (result, next) := applied
  refine ⟨_, next, ran.submit used le_rfl (by simp [thinEntry, thin]) trivial submitted,
    used.submit le_rfl submitted, ?_, fun key family => reads key (by simp [family])⟩
  have fence : next.get .mutationFence = db.get .mutationFence := by
    rw [reads _ (by decide), GroupView.after_get_of_within within (by decide)]
    rfl
  rw [← unfenced, GroupView.mutationFenceState, GroupView.mutationFenceState, view_get, fence,
    view_get]

theorem submit_createMark {history : List GroupEntry} {bound value : Nat} {name : String}
    (ran : Ran freshData.identity 2 (fun _ => [7]) (fun _ _ => True) history db)
    (used : db.UsedBelow bound) (unfenced : db.view.mutationFenceState.held = none)
    (fresh : db.get (.bookmarkId (.uuid value)) = none)
    (unused : db.get (.bookmarkName samplePartition ⟨name⟩) = none) :
    ∃ entry next, Ran freshData.identity 2 (fun _ => [7]) (fun _ _ => True) (history ++ [entry])
        next ∧ next.UsedBelow (bound + 1) ∧ next.view.mutationFenceState.held = none ∧
        ∀ key : StateKey, key.family = .bookmark → next.get key = (db.view.after
          (GroupView.bookmarkWrites samplePartition (markOf db value name))).get key := by
  have identity : db.view.identity = freshData.identity := ran.settings.1
  have done : db.view.applyCreateBookmark (.uuid value) samplePartition ⟨name⟩ 0 =
      .ok (.bookmark (markOf db value name),
        ⟨GroupView.bookmarkWrites samplePartition (markOf db value name), []⟩) := by
    rw [GroupView.applyCreateBookmark, GroupView.createBookmarkRecord, identity,
      if_neg (by decide), if_neg (Nat.not_lt_zero _), view_get, fresh]
    dsimp only
    rw [view_get, unused]
    rfl
  have thin : (thinCommand ⟨1, 1, bound⟩ (createMark value name)).2 = [] := rfl
  exact submit_unfenced ran used unfenced thin (GroupView.bookmarkWrites_within _ _) done

theorem submit_deleteMark {history : List GroupEntry} {bound value : Nat}
    {bookmark : CommittedBookmark}
    (ran : Ran freshData.identity 2 (fun _ => [7]) (fun _ _ => True) history db)
    (used : db.UsedBelow bound) (unfenced : db.view.mutationFenceState.held = none)
    (stored : db.get (.bookmarkId (.uuid value)) = some bookmark)
    (placed : bookmark.cursor.partition = samplePartition) (live : bookmark.lifecycle = .available) :
    ∃ entry next, Ran freshData.identity 2 (fun _ => [7]) (fun _ _ => True) (history ++ [entry])
        next ∧ next.UsedBelow (bound + 1) ∧ next.view.mutationFenceState.held = none ∧
        ∀ key : StateKey, key.family = .bookmark → next.get key = (db.view.after
          (GroupView.deletionWrites samplePartition (.uuid value) bookmark)).get key := by
  have done : db.view.applyDeleteBookmark samplePartition (.uuid value) =
      .ok (.bookmark bookmark.markDeleted,
        ⟨GroupView.deletionWrites samplePartition (.uuid value) bookmark, []⟩) := by
    rw [GroupView.applyDeleteBookmark, view_get, stored]
    dsimp only
    rw [if_neg (by simp [placed]), if_neg (by simp [live])]
    rfl
  have thin : (thinCommand ⟨1, 1, bound⟩ (.deleteBookmark samplePartition (.uuid value))).2 = [] :=
    rfl
  exact submit_unfenced ran used unfenced thin
    (by simp [GroupView.deletionWrites, StateKey.family]) done

theorem markOf_id (db : GroupDb) (value : Nat) (name : String) :
    (markOf db value name).id = .uuid value := rfl

theorem publicationOf_createMark {value : Nat} {name : String} {next : GroupDb}
    (reads : ∀ key : StateKey, key.family = .bookmark → next.get key = (db.view.after
      (GroupView.bookmarkWrites samplePartition (markOf db value name))).get key) :
    next.view.publicationOf samplePartition =
      saturatingAdd (db.view.publicationOf samplePartition) 1 := by
  have same : next.view.publicationOf samplePartition = (db.view.after
      (GroupView.bookmarkWrites samplePartition (markOf db value name))).publicationOf
        samplePartition := by
    simp only [GroupView.publicationOf, view_get, reads (.bookmarkPublication samplePartition) rfl]
  rw [same, GroupView.bookmarkWrites_publication, if_pos rfl]
  rfl

theorem Cycled.more {count : Nat} (cycled : Cycled count db) (below : count < u64Max) :
    ∃ next, Cycled (count + 1) next := by
  obtain ⟨history, ran⟩ := cycled.ran
  obtain ⟨_, middle, ranMiddle, used, unfenced, reads⟩ := submit_createMark ran cycled.used
    cycled.unfenced (cycled.fresh count le_rfl) (cycled.unused ⟨"mark"⟩)
  have marked : middle.get (.bookmarkId (.uuid count)) = some (markOf db count "mark") := by
    rw [reads _ rfl, GroupView.bookmarkWrites_id, markOf_id, if_pos rfl]
  obtain ⟨_, next, ranNext, usedNext, unfencedNext, readsNext⟩ := submit_deleteMark ranMiddle used
    unfenced marked rfl rfl
  refine ⟨next, ⟨_, ranNext⟩, usedNext, unfencedNext, ?_, ?_, ?_⟩
  · have same : next.view.publicationOf samplePartition = (middle.view.after
        (GroupView.deletionWrites samplePartition (.uuid count)
          (markOf db count "mark"))).publicationOf samplePartition := by
      simp only [GroupView.publicationOf, view_get,
        readsNext (.bookmarkPublication samplePartition) rfl]
    rw [same, GroupView.deletionWrites_publication, publicationOf_createMark reads,
      cycled.counter, saturatingAdd]
    omega
  · intro value above
    have different : (BookmarkId.uuid value) ≠ .uuid count := by
      intro same
      cases same
      omega
    rw [readsNext _ rfl, GroupView.deletionWrites_id, if_neg different, view_get, reads _ rfl,
      GroupView.bookmarkWrites_id, markOf_id, if_neg different, view_get]
    exact cycled.fresh value (by omega)
  · intro name
    rw [readsNext _ rfl, GroupView.deletionWrites_name]
    split
    · rfl
    · rename_i other
      rw [view_get, reads _ rfl, GroupView.bookmarkWrites_name, if_neg other, view_get]
      exact cycled.unused name

end GroupDb

end LightStream
