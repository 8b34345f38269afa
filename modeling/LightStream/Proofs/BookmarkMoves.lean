import Mathlib.Logic.Relation
import LightStream.Proofs.Frame
import LightStream.Proofs.Placement

/-!
How a command changes the bookmarks of a group: a sequence of single moves, each of which keeps
them, creates one or deletes one.  A batch of publishes makes one move for each of its requests.
-/

namespace LightStream

namespace GroupView

def publicationOf (view : GroupView) (partition : PartitionKey) : Nat :=
  (view.get (.bookmarkPublication partition)).getD 0

def CreatesBookmark (view : GroupView) (partition : PartitionKey) : GroupCommand → Prop
  | .createBookmark id target name offset =>
      target = partition ∧ offset ≤ view.nextOffsetOf partition ∧
        view.get (.bookmarkId id) = none ∧ view.get (.bookmarkName partition name) = none
  | .publish batch => batch.partition = partition ∧ batch.bookmark ≠ none
  | _ => False

def deletionWrites (partition : PartitionKey) (id : BookmarkId) (bookmark : CommittedBookmark) :
    StateBatch :=
  [.delete (.bookmarkName partition bookmark.name),
    .delete (.bookmarkOrder partition bookmark.publication),
    .put (.bookmarkId id) bookmark.markDeleted]

def Grown (view other : GroupView) : Prop :=
  ∀ partition, view.nextOffsetOf partition ≤ other.nextOffsetOf partition

/-- A single change of the bookmarks.  `Full` is what is known of a creation that finds the counter
of its partition at its maximum. -/
inductive BookmarkMove (Full : GroupView → PartitionKey → Prop) (cluster : ClusterId)
    (view other : GroupView) : Prop
  | kept (grown : view.Grown other)
      (reads : ∀ key : StateKey, key.family = .bookmark → other.get key = view.get key) :
      BookmarkMove Full cluster view other
  | created (grown : view.Grown other) (partition : PartitionKey) (bookmark : CommittedBookmark)
      (fresh : view.get (.bookmarkId bookmark.id) = none)
      (unused : view.get (.bookmarkName partition bookmark.name) = none)
      (numbered : bookmark.publication = saturatingAdd (view.publicationOf partition) 1)
      (full : u64Max ≤ view.publicationOf partition → Full view partition)
      (target : bookmark.cursor.cluster = cluster ∧ bookmark.cursor.partition = partition)
      (committed : bookmark.cursor.nextOffset ≤ other.nextOffsetOf partition)
      (live : bookmark.lifecycle = .available)
      (reads : ∀ key : StateKey, key.family = .bookmark →
        other.get key = (view.after (bookmarkWrites partition bookmark)).get key) :
      BookmarkMove Full cluster view other
  | deleted (grown : view.Grown other) (partition : PartitionKey) (id : BookmarkId)
      (bookmark : CommittedBookmark) (stored : view.get (.bookmarkId id) = some bookmark)
      (target : bookmark.cursor.partition = partition) (live : bookmark.lifecycle = .available)
      (reads : ∀ key : StateKey, key.family = .bookmark →
        other.get key = (view.after (deletionWrites partition id bookmark)).get key) :
      BookmarkMove Full cluster view other

abbrev BookmarkMoves (Full : GroupView → PartitionKey → Prop) (cluster : ClusterId) :
    GroupView → GroupView → Prop := Relation.ReflTransGen (BookmarkMove Full cluster)

variable {Full : GroupView → PartitionKey → Prop} {view other : GroupView} {logId : GroupLogId}
  {cluster : ClusterId} {requestOrdinal slot : Nat} {batch : PublishBatch} {outcome : PublishItemOutcome}
  {write : WriteBatch} {result : ApplyResult}

theorem Grown.of_reads (reads : ∀ partition : PartitionKey,
    other.get (.nextOffset partition) = view.get (.nextOffset partition)) : view.Grown other := by
  intro partition
  simp only [nextOffsetOf, reads partition, le_refl]

theorem Grown.within {families : List StateFamily} {writes : StateBatch}
    (within : Within families writes) (outside : StateFamily.nextOffset ∉ families) :
    view.Grown (view.after writes) :=
  Grown.of_reads fun partition =>
    after_get_of_within within (by simpa [StateKey.family] using outside)

theorem BookmarkMove.within {families : List StateFamily} {writes : StateBatch}
    (within : Within families writes) (bookmarks : StateFamily.bookmark ∉ families)
    (tails : StateFamily.nextOffset ∉ families) :
    BookmarkMove Full cluster view (view.after writes) :=
  .kept (.within within tails) fun key family =>
    after_get_of_within within (by rwa [family])

theorem Placement.grown (placement : view.Placement logId slot batch write) :
    view.Grown (view.after write.state) := by
  cases placement with
  | quiet writes within => exact .within within (by decide)
  | appended range allocated owned before after beforeWithin afterWithin fits =>
      intro partition
      have tail := @place_nextOffset view logId slot batch range partition
      have next := (committedRecordRange_ok allocated).2.1
      have reads : (view.after (before ++ view.placeWrites logId slot batch range ++
          after)).get (.nextOffset partition) =
          (view.after (view.placeWrites logId slot batch range)).get (.nextOffset partition) :=
        place_between beforeWithin afterWithin (by simp [StateKey.family])
      rw [nextOffsetOf, nextOffsetOf, reads, ← nextOffsetOf, ← nextOffsetOf, tail]
      split
      · rename_i same
        subst same
        omega
      · exact le_refl _

theorem bookmark_between {changes rest : StateBatch} {families : List StateFamily}
    (within : Within families rest) (outside : StateFamily.bookmark ∉ families) {key : StateKey}
    (family : key.family = .bookmark) :
    (view.after (changes ++ rest)).get key = (view.after changes).get key := by
  simp only [after, Kv.pending, Kv.Batch.effect_append]
  rw [within.effect_none (by rwa [family]), Option.none_or]

theorem accepted_rest_within (range : CommittedRecordRange) (rest : StateBatch)
    (within : Within [.receipt, .session] rest) :
    Within [.record, .nextOffset, .retention, .receipt, .session]
      (view.placeWrites logId slot batch range ++ rest) := by
  rw [within_append]
  exact ⟨placeWrites_within.mono (by decide), within.mono (by decide)⟩

theorem BookmarkMove.published {range : CommittedRecordRange} {bookmark : CommittedBookmark}
    {rest : StateBatch} {owners : PayloadBatch}
    (placement : view.Placement logId slot batch
      ⟨bookmarkWrites batch.partition bookmark ++ view.placeWrites logId slot batch range ++ rest,
        owners⟩)
    (within : Within [.receipt, .session] rest)
    (fresh : view.get (.bookmarkId bookmark.id) = none)
    (unused : view.get (.bookmarkName batch.partition bookmark.name) = none)
    (numbered : bookmark.publication = saturatingAdd (view.publicationOf batch.partition) 1)
    (full : u64Max ≤ view.publicationOf batch.partition → Full view batch.partition)
    (planned : bookmark = CommittedBookmark.published bookmark.id bookmark.name
      ⟨view.identity.clusterId, batch.partition, range.next⟩ bookmark.publication) :
    BookmarkMove Full view.identity.clusterId view (view.after
      (bookmarkWrites batch.partition bookmark ++ view.placeWrites logId slot batch range ++
        rest)) := by
  refine .created placement.grown batch.partition bookmark fresh unused numbered full ?_ ?_ ?_ ?_
  · rw [planned]
    exact ⟨rfl, rfl⟩
  · have tail := @place_nextOffset view logId slot batch range batch.partition
    rw [if_pos rfl] at tail
    have reads : (view.after (bookmarkWrites batch.partition bookmark ++
        view.placeWrites logId slot batch range ++ rest)).nextOffsetOf batch.partition =
        range.next := by
      rw [nextOffsetOf,
        place_between (bookmarkWrites_within _ _) within (by simp [StateKey.family]),
        ← nextOffsetOf, tail]
    rw [reads, planned]
    exact le_refl _
  · rw [planned]
    rfl
  · intro key family
    rw [List.append_assoc]
    exact bookmark_between (accepted_rest_within range rest within) (by decide) family

theorem PublishCase.bookmarkMove
    (done : PublishCase view logId cluster requestOrdinal slot batch outcome write) :
    BookmarkMove Full view.identity.clusterId view (view.after write.state) := by
  have placement := done.placement
  cases done with
  | foreign => exact .within (within_nil []) (by simp) (by simp)
  | answered => exact .within (within_nil []) (by simp) (by simp)
  | expired => exact .within (within_nil []) (by simp) (by simp)
  | refused own absent newer rejection =>
      exact .within (receiptWrites_within _ _ _) (by decide) (by decide)
  | accepted own absent newer range allocated owned bookmark planned fits =>
      cases bookmark with
      | none =>
          refine .kept placement.grown fun key family => ?_
          have rest := @accepted_rest_within view logId slot batch range
            (view.recordWrites batch (view.sessionOf batch)
              (.published ⟨batch.request, range, none⟩)) (receiptWrites_within _ _ _)
          have writes : (view.publishWrites logId slot batch range none).state =
              [] ++ (view.placeWrites logId slot batch range ++
                view.recordWrites batch (view.sessionOf batch)
                  (.published ⟨batch.request, range, none⟩)) := by
            simp only [publishWrites, placeWrites, List.append_assoc]
          rw [writes, bookmark_between rest (by decide) family, after_nil]
      | some bookmark =>
          obtain ⟨named, shape, counted, fresh, unused⟩ := planned
          have writes : view.publishWrites logId slot batch range (some bookmark) =
              ⟨bookmarkWrites batch.partition bookmark ++
                view.placeWrites logId slot batch range ++
                view.recordWrites batch (view.sessionOf batch)
                  (.published ⟨batch.request, range, some bookmark⟩),
                ownerOps view logId batch.records slot⟩ := by
            simp only [publishWrites, placeWrites, List.append_assoc]
          rw [writes] at placement ⊢
          obtain ⟨sum, bound⟩ := checkedAdd_some.mp counted
          rw [← publicationOf] at sum
          refine .published placement (receiptWrites_within _ _ _) fresh unused ?_ ?_ ?_
          · rw [saturatingAdd]
            omega
          · intro full
            omega
          · rw [shape]
            rfl

theorem applyPublishMany_bookmarkMoves {batch : ReplicatedPublishBatch}
    (done : view.applyPublishMany logId batch = .ok (result, write)) :
    BookmarkMoves Full view.identity.clusterId view (view.after write.state) := by
  obtain ⟨_, moves⟩ := @applyPublishMany_carries view logId write
    (fun _ write => BookmarkMoves Full view.identity.clusterId view (view.after write.state)) .refl
    (by
      intro cluster requestOrdinal slot batch first write outcome moves item
      rw [WriteBatch.append, after_append]
      rcases item with rfl | item
      · exact moves
      · exact moves.tail item.bookmarkMove) batch result done
  exact moves

theorem createBookmarkRecord_cases {id : BookmarkId} {partition : PartitionKey}
    {name : BookmarkName} {offset maximumOffset : Nat}
    (done : view.createBookmarkRecord id partition name offset maximumOffset =
      .ok (result, write)) :
    write = ⟨[], []⟩ ∨ ∃ bookmark,
      write = ⟨bookmarkWrites partition bookmark, []⟩ ∧ result = .bookmark bookmark ∧
        view.identity.kind = .data ∧ offset ≤ maximumOffset ∧
        bookmark = CommittedBookmark.published id name
          ⟨view.identity.clusterId, partition, offset⟩ bookmark.publication ∧
        bookmark.publication = saturatingAdd (view.publicationOf partition) 1 ∧
        view.get (.bookmarkId id) = none ∧ view.get (.bookmarkName partition name) = none := by
  unfold createBookmarkRecord reject reply at done
  split at done
  · cases done
    exact .inl rfl
  rename_i data
  split at done
  · cases done
    exact .inl rfl
  rename_i within
  split at done
  · split at done <;> cases done <;> exact .inl rfl
  · rename_i fresh
    split at done
    · cases done
      exact .inl rfl
    · rename_i unused
      cases done
      exact .inr ⟨_, rfl, rfl, not_not.mp data, by omega, rfl, rfl, fresh,
        Option.not_isSome_iff_eq_none.mp unused⟩

theorem applyCreateBookmark_bookmarkMove {id : BookmarkId} {partition : PartitionKey}
    {name : BookmarkName} {offset : Nat}
    (full : view.CreatesBookmark partition (.createBookmark id partition name offset) →
      u64Max ≤ view.publicationOf partition → Full view partition)
    (done : view.applyCreateBookmark id partition name offset = .ok (result, write)) :
    BookmarkMove Full view.identity.clusterId view (view.after write.state) := by
  rcases createBookmarkRecord_cases done with rfl | ⟨bookmark, rfl, _, _, within, shape, counted,
    fresh, unused⟩
  · exact .within (within_nil []) (by simp) (by simp)
  · have grown : view.Grown (view.after (bookmarkWrites partition bookmark)) :=
      .within (bookmarkWrites_within partition bookmark) (by decide)
    refine .created grown partition bookmark ?_ ?_ counted
      (full ⟨rfl, within, fresh, unused⟩) ?_ ?_ ?_ fun key family => rfl
    · rwa [shape]
    · rwa [shape]
    · rw [shape]
      exact ⟨rfl, rfl⟩
    · refine le_trans ?_ (grown partition)
      rw [shape]
      exact within
    · rw [shape]
      rfl

theorem applyPublish_bookmarkMove
    (full : batch.bookmark ≠ none → u64Max ≤ view.publicationOf batch.partition →
      Full view batch.partition)
    (done : view.applyPublish logId batch = .ok (result, write)) :
    BookmarkMove Full view.identity.clusterId view (view.after write.state) := by
  have placement := applyPublish_placement done
  have silent : BookmarkMove Full view.identity.clusterId view (view.after []) :=
    .within (within_nil []) (by simp) (by simp)
  unfold applyPublish reject reply at done
  split at done
  · cases done
    exact silent
  split at done
  · cases done
    exact silent
  split at done
  · cases done
    exact silent
  split at done
  · simp at done
  · split at done <;> cases done <;> exact silent
  dsimp only at done
  split at done
  · cases done
    exact silent
  unfold publishUnbatchedNew at done
  split at done
  · simp at done
  rename_i range allocated
  split at done
  · rename_i unnamed
    obtain ⟨_, placed, _, _⟩ := publishUnbatched_placed done
    rw [placed] at placement ⊢
    refine .kept placement.grown fun key family => ?_
    rw [List.nil_append, ← List.nil_append (view.placeWrites _ _ _ _), List.append_assoc,
      bookmark_between (accepted_rest_within range _ (publishReceiptWrites_within _ _)) (by decide)
        family, after_nil]
  · rename_i name named
    split at done
    · simp at done
    · rename_i bookmark bookmarkWrite created
      obtain ⟨_, placed, _, _⟩ := publishUnbatched_placed done
      rw [placed] at placement ⊢
      rcases createBookmarkRecord_cases created with quiet | ⟨made, written, answer, _, _, shape,
        counted, fresh, unused⟩
      · rw [quiet] at placement ⊢
        refine .kept placement.grown fun key family => ?_
        rw [List.append_assoc, bookmark_between (accepted_rest_within range _
          (publishReceiptWrites_within _ _)) (by decide) family, after_nil]
      · cases answer
        rw [written] at placement ⊢
        refine .published placement (publishReceiptWrites_within _ _) ?_ ?_ counted
          (full (by simp [named])) ?_
        · rwa [shape]
        · rwa [shape]
        · rw [shape]
          rfl
    · rename_i error bookmarkWrite created
      cases done
      rw [createBookmarkRecord_rejected created]
      exact silent
    · simp at done

theorem applyDeleteBookmark_bookmarkMove {partition : PartitionKey} {id : BookmarkId}
    (done : view.applyDeleteBookmark partition id = .ok (result, write)) :
    BookmarkMove Full view.identity.clusterId view (view.after write.state) := by
  have silent : BookmarkMove Full view.identity.clusterId view (view.after []) :=
    .within (within_nil []) (by simp) (by simp)
  unfold applyDeleteBookmark reject reply at done
  split at done
  · cases done
    exact silent
  rename_i bookmark stored
  split at done
  · cases done
    exact silent
  rename_i target
  split at done
  · cases done
    exact silent
  rename_i live
  cases done
  have within : Within [.bookmark] (deletionWrites partition id bookmark) := by
    simp [deletionWrites, StateKey.family]
  refine .deleted (.within within (by decide)) partition id bookmark stored (not_not.mp target) ?_
    fun key family => rfl
  cases lifecycle : bookmark.lifecycle with
  | available => rfl
  | deleted => exact absurd lifecycle live

theorem dispatch_bookmarkMoves {command : GroupCommand}
    (full : ∀ partition, view.CreatesBookmark partition command →
      u64Max ≤ view.publicationOf partition → Full view partition)
    (done : view.dispatch logId command = .ok (result, write)) :
    BookmarkMoves Full view.identity.clusterId view (view.after write.state) := by
  have kept (bookmarks : StateFamily.bookmark ∉ command.families)
      (tails : StateFamily.nextOffset ∉ command.families) :
      BookmarkMoves Full view.identity.clusterId view (view.after write.state) :=
    .single (.within (dispatch_within command result write done) bookmarks tails)
  cases command with
  | publish batch =>
      exact .single (applyPublish_bookmarkMove (fun named => full _ ⟨rfl, named⟩) done)
  | publishMany batch => exact applyPublishMany_bookmarkMoves done
  | createBookmark id partition name offset =>
      exact .single (applyCreateBookmark_bookmarkMove (full _) done)
  | deleteBookmark partition id => exact .single (applyDeleteBookmark_bookmarkMove done)
  | exportProtocol command =>
      cases command <;>
        exact kept (by simp [GroupCommand.families]) (by simp [GroupCommand.families])
  | _ =>
      exact kept
        (by simp [GroupCommand.families, leaseFamilies, decisionFamilies, maintainFamilies])
        (by simp [GroupCommand.families, leaseFamilies, decisionFamilies, maintainFamilies])

end GroupView

end LightStream
