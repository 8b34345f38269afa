import LightStream.Proofs.BookmarkMoves
import LightStream.Proofs.Entries
import LightStream.Proofs.Traces

/-!
The bookmark indexes of a data group.  The id table is the truth; the name index and the
publication index hold the available bookmarks of it, and the counter numbers them all.
-/

namespace LightStream

namespace GroupView

def HasBookmark (view : GroupView) (partition : PartitionKey) (id : BookmarkId)
    (bookmark : CommittedBookmark) : Prop :=
  view.get (.bookmarkId id) = some bookmark ∧ bookmark.cursor.partition = partition

/-- The bookmarks of one partition.  `Sole` holds of the publications that one bookmark takes at
most: all of them, until the counter stands at its maximum. -/
structure Bookmarked (Sole : Nat → Prop) (view : GroupView) (cluster : ClusterId)
    (partition : PartitionKey) : Prop where
  named : ∀ {name : BookmarkName} {id : BookmarkId},
    view.get (.bookmarkName partition name) = some id → ∃ bookmark,
      view.HasBookmark partition id bookmark ∧ bookmark.name = name ∧
        bookmark.lifecycle = .available
  ordered : ∀ {publication : Nat} {bookmark : CommittedBookmark},
    view.get (.bookmarkOrder partition publication) = some bookmark →
      view.HasBookmark partition bookmark.id bookmark ∧ bookmark.publication = publication ∧
        bookmark.lifecycle = .available
  byName : ∀ {id : BookmarkId} {bookmark : CommittedBookmark},
    view.HasBookmark partition id bookmark → bookmark.lifecycle = .available →
      view.get (.bookmarkName partition bookmark.name) = some id
  byOrder : ∀ {id : BookmarkId} {bookmark : CommittedBookmark},
    view.HasBookmark partition id bookmark → bookmark.lifecycle = .available →
      Sole bookmark.publication →
      view.get (.bookmarkOrder partition bookmark.publication) = some bookmark
  identified : ∀ {id : BookmarkId} {bookmark : CommittedBookmark},
    view.HasBookmark partition id bookmark →
      bookmark.id = id ∧ bookmark.cursor.cluster = cluster
  numbered : ∀ {id : BookmarkId} {bookmark : CommittedBookmark},
    view.HasBookmark partition id bookmark →
      1 ≤ bookmark.publication ∧ bookmark.publication ≤ view.publicationOf partition
  distinct : ∀ {id other : BookmarkId} {bookmark second : CommittedBookmark},
    view.HasBookmark partition id bookmark → view.HasBookmark partition other second →
      bookmark.publication = second.publication → bookmark.publication < u64Max → id = other
  filled : ∀ publication, 1 ≤ publication → publication ≤ view.publicationOf partition →
    ∃ id bookmark, view.HasBookmark partition id bookmark ∧ bookmark.publication = publication
  counted : view.publicationOf partition ≤ u64Max
  committed : ∀ {id : BookmarkId} {bookmark : CommittedBookmark},
    view.HasBookmark partition id bookmark →
      bookmark.cursor.nextOffset ≤ view.nextOffsetOf partition

variable {Full : GroupView → PartitionKey → Prop} {Sole : Nat → Prop} {view other : GroupView}
  {cluster : ClusterId} {partition target : PartitionKey} {id : BookmarkId}
  {bookmark : CommittedBookmark}

theorem bookmarked_empty (empty : ∀ key, view.get key = none) :
    view.Bookmarked Sole cluster partition where
  named found := by simp [empty] at found
  ordered found := by simp [empty] at found
  byName here := by simp [HasBookmark, empty] at here
  byOrder here := by simp [HasBookmark, empty] at here
  identified here := by simp [HasBookmark, empty] at here
  numbered here := by simp [HasBookmark, empty] at here
  distinct here := by simp [HasBookmark, empty] at here
  filled publication first last := by
    simp only [publicationOf, empty, Option.getD_none] at last
    omega
  counted := by simp [publicationOf, empty]
  committed here := by simp [HasBookmark, empty] at here

theorem Bookmarked.frame (held : view.Bookmarked Sole cluster partition)
    (grown : view.Grown other)
    (reads : ∀ key : StateKey, key.family = .bookmark → other.get key = view.get key) :
    other.Bookmarked Sole cluster partition := by
  have ids (id : BookmarkId) : other.get (.bookmarkId id) = view.get (.bookmarkId id) :=
    reads _ rfl
  have here {id : BookmarkId} {bookmark : CommittedBookmark}
      (stored : other.HasBookmark partition id bookmark) :
      view.HasBookmark partition id bookmark := by rwa [HasBookmark, ids] at stored
  have publications : other.publicationOf partition = view.publicationOf partition := by
    simp only [publicationOf, reads (.bookmarkPublication partition) rfl]
  constructor
  · intro name id found
    rw [reads _ rfl] at found
    simpa only [HasBookmark, ids] using held.named found
  · intro publication bookmark found
    rw [reads _ rfl] at found
    simpa only [HasBookmark, ids] using held.ordered found
  · intro id bookmark stored live
    rw [reads _ rfl]
    exact held.byName (here stored) live
  · intro id bookmark stored live sole
    rw [reads _ rfl]
    exact held.byOrder (here stored) live sole
  · intro id bookmark stored
    exact held.identified (here stored)
  · intro id bookmark stored
    rw [publications]
    exact held.numbered (here stored)
  · intro id other bookmark second stored otherStored
    exact held.distinct (here stored) (here otherStored)
  · intro publication first last
    rw [publications] at last
    simpa only [HasBookmark, ids] using held.filled publication first last
  · rw [publications]
    exact held.counted
  · intro id bookmark stored
    exact le_trans (held.committed (here stored)) (grown partition)

theorem bookmarkWrites_id (id : BookmarkId) :
    (view.after (bookmarkWrites target bookmark)).get (.bookmarkId id) =
      if id = bookmark.id then some bookmark else view.get (.bookmarkId id) := by
  by_cases same : id = bookmark.id
  · subst same
    simp [after, Kv.pending, bookmarkWrites, Kv.Op.effect]
  · simp [after, Kv.pending, bookmarkWrites, Kv.Op.effect, same, Ne.symm same]

theorem bookmarkWrites_name (partition : PartitionKey) (name : BookmarkName) :
    (view.after (bookmarkWrites target bookmark)).get (.bookmarkName partition name) =
      if partition = target ∧ name = bookmark.name then some bookmark.id
      else view.get (.bookmarkName partition name) := by
  by_cases same : partition = target ∧ name = bookmark.name
  · obtain ⟨rfl, rfl⟩ := same
    simp [after, Kv.pending, bookmarkWrites, Kv.Op.effect]
  · have different : ¬(target = partition ∧ bookmark.name = name) :=
      fun equal => same ⟨equal.1.symm, equal.2.symm⟩
    simp [after, Kv.pending, bookmarkWrites, Kv.Op.effect, same, different]

theorem bookmarkWrites_order (partition : PartitionKey) (publication : Nat) :
    (view.after (bookmarkWrites target bookmark)).get (.bookmarkOrder partition publication) =
      if partition = target ∧ publication = bookmark.publication then some bookmark
      else view.get (.bookmarkOrder partition publication) := by
  by_cases same : partition = target ∧ publication = bookmark.publication
  · obtain ⟨rfl, rfl⟩ := same
    simp [after, Kv.pending, bookmarkWrites, Kv.Op.effect]
  · have different : ¬(target = partition ∧ bookmark.publication = publication) :=
      fun equal => same ⟨equal.1.symm, equal.2.symm⟩
    simp [after, Kv.pending, bookmarkWrites, Kv.Op.effect, same, different]

theorem bookmarkWrites_publication (partition : PartitionKey) :
    (view.after (bookmarkWrites target bookmark)).publicationOf partition =
      if partition = target then bookmark.publication else view.publicationOf partition := by
  by_cases same : partition = target
  · subst same
    simp [publicationOf, after, Kv.pending, bookmarkWrites, Kv.Op.effect]
  · simp [publicationOf, after, Kv.pending, bookmarkWrites, Kv.Op.effect, same, Ne.symm same]

theorem deletionWrites_id (other : BookmarkId) :
    (view.after (deletionWrites target id bookmark)).get (.bookmarkId other) =
      if other = id then some bookmark.markDeleted else view.get (.bookmarkId other) := by
  by_cases same : other = id
  · subst same
    simp [after, Kv.pending, deletionWrites, Kv.Op.effect]
  · simp [after, Kv.pending, deletionWrites, Kv.Op.effect, same, Ne.symm same]

theorem deletionWrites_name (partition : PartitionKey) (name : BookmarkName) :
    (view.after (deletionWrites target id bookmark)).get (.bookmarkName partition name) =
      if partition = target ∧ name = bookmark.name then none
      else view.get (.bookmarkName partition name) := by
  by_cases same : partition = target ∧ name = bookmark.name
  · obtain ⟨rfl, rfl⟩ := same
    simp [after, Kv.pending, deletionWrites, Kv.Op.effect]
  · have different : ¬(target = partition ∧ bookmark.name = name) :=
      fun equal => same ⟨equal.1.symm, equal.2.symm⟩
    simp [after, Kv.pending, deletionWrites, Kv.Op.effect, same, different]

theorem deletionWrites_order (partition : PartitionKey) (publication : Nat) :
    (view.after (deletionWrites target id bookmark)).get (.bookmarkOrder partition publication) =
      if partition = target ∧ publication = bookmark.publication then none
      else view.get (.bookmarkOrder partition publication) := by
  by_cases same : partition = target ∧ publication = bookmark.publication
  · obtain ⟨rfl, rfl⟩ := same
    simp [after, Kv.pending, deletionWrites, Kv.Op.effect]
  · have different : ¬(target = partition ∧ bookmark.publication = publication) :=
      fun equal => same ⟨equal.1.symm, equal.2.symm⟩
    simp [after, Kv.pending, deletionWrites, Kv.Op.effect, same, different]

theorem deletionWrites_publication (partition : PartitionKey) :
    (view.after (deletionWrites target id bookmark)).publicationOf partition =
      view.publicationOf partition := by
  simp [publicationOf, after, Kv.pending, deletionWrites, Kv.Op.effect]

theorem hasBookmark_created {made : CommittedBookmark}
    (fresh : view.get (.bookmarkId made.id) = none)
    (reads : ∀ key : StateKey, key.family = .bookmark →
      other.get key = (view.after (bookmarkWrites target made)).get key)
    (placed : made.cursor.partition = target) :
    other.HasBookmark partition id bookmark ↔
      (partition = target ∧ id = made.id ∧ bookmark = made) ∨
        view.HasBookmark partition id bookmark := by
  have stored : other.get (.bookmarkId id) =
      if id = made.id then some made else view.get (.bookmarkId id) := by
    rw [reads _ rfl, bookmarkWrites_id]
  rw [HasBookmark, HasBookmark, stored]
  by_cases same : id = made.id
  · subst same
    rw [if_pos rfl, fresh]
    constructor
    · rintro ⟨found, inside⟩
      cases found
      exact .inl ⟨inside.symm.trans placed, rfl, rfl⟩
    · rintro (⟨rfl, _, rfl⟩ | ⟨found, _⟩)
      · exact ⟨rfl, placed⟩
      · simp at found
  · rw [if_neg same]
    simp [same]

theorem Bookmarked.created {made : CommittedBookmark}
    (held : view.Bookmarked Sole cluster partition) (grown : view.Grown other)
    (fresh : view.get (.bookmarkId made.id) = none)
    (unused : view.get (.bookmarkName target made.name) = none)
    (numbered : made.publication = saturatingAdd (view.publicationOf target) 1)
    (free : u64Max ≤ view.publicationOf target → Sole made.publication →
      view.get (.bookmarkOrder target made.publication) = none)
    (home : made.cursor.cluster = cluster) (placed : made.cursor.partition = target)
    (committed : made.cursor.nextOffset ≤ other.nextOffsetOf target)
    (live : made.lifecycle = .available)
    (reads : ∀ key : StateKey, key.family = .bookmark →
      other.get key = (view.after (bookmarkWrites target made)).get key) :
    other.Bookmarked Sole cluster partition := by
  have names (name : BookmarkName) : other.get (.bookmarkName partition name) =
      if partition = target ∧ name = made.name then some made.id
      else view.get (.bookmarkName partition name) := by
    rw [reads _ rfl, bookmarkWrites_name]
  have orders (publication : Nat) : other.get (.bookmarkOrder partition publication) =
      if partition = target ∧ publication = made.publication then some made
      else view.get (.bookmarkOrder partition publication) := by
    rw [reads _ rfl, bookmarkWrites_order]
  have counter : other.publicationOf partition =
      if partition = target then made.publication else view.publicationOf partition := by
    have same : other.publicationOf partition =
        (view.after (bookmarkWrites target made)).publicationOf partition := by
      simp only [publicationOf, reads (.bookmarkPublication partition) rfl]
    rw [same, bookmarkWrites_publication]
  have has {id : BookmarkId} {bookmark : CommittedBookmark} :=
    @hasBookmark_created view other partition target id bookmark made fresh reads placed
  have bound := held.counted
  rw [saturatingAdd] at numbered
  have raised (inside : partition = target) : made.publication ≤ u64Max ∧
      view.publicationOf partition ≤ made.publication ∧ 1 ≤ made.publication ∧
        made.publication ≤ view.publicationOf partition + 1 ∧
        (made.publication < u64Max → view.publicationOf partition < made.publication) := by
    subst inside
    have positive : 1 ≤ u64Max := by decide
    omega
  -- an available bookmark under the new publication would be the one that the free slot held
  have older {id : BookmarkId} {bookmark : CommittedBookmark}
      (here : view.HasBookmark partition id bookmark) (available : bookmark.lifecycle = .available)
      (sole : Sole bookmark.publication) (inside : partition = target) :
      bookmark.publication ≠ made.publication := by
    intro same
    have slot := held.byOrder here available sole
    have below := (held.numbered here).2
    subst inside
    by_cases full : u64Max ≤ view.publicationOf partition
    · rw [same, free full (same ▸ sole)] at slot
      simp at slot
    · omega
  constructor
  · intro name id found
    rw [names] at found
    split at found
    · rename_i same
      cases found
      exact ⟨made, has.mpr (.inl ⟨same.1, rfl, rfl⟩), same.2.symm, live⟩
    · obtain ⟨bookmark, here, named, available⟩ := held.named found
      exact ⟨bookmark, has.mpr (.inr here), named, available⟩
  · intro publication bookmark found
    rw [orders] at found
    split at found
    · rename_i same
      cases found
      exact ⟨has.mpr (.inl ⟨same.1, rfl, rfl⟩), same.2.symm, live⟩
    · obtain ⟨here, counted, available⟩ := held.ordered found
      exact ⟨has.mpr (.inr here), counted, available⟩
  · intro id bookmark here available
    rw [names]
    rcases has.mp here with ⟨inside, rfl, rfl⟩ | before
    · rw [if_pos ⟨inside, rfl⟩]
    · have byName := held.byName before available
      rw [if_neg, byName]
      rintro ⟨rfl, same⟩
      rw [same, unused] at byName
      simp at byName
  · intro id bookmark here available sole
    rw [orders]
    rcases has.mp here with ⟨inside, rfl, rfl⟩ | before
    · rw [if_pos ⟨inside, rfl⟩]
    · rw [if_neg, held.byOrder before available sole]
      rintro ⟨inside, same⟩
      exact older before available sole inside same
  · intro id bookmark here
    rcases has.mp here with ⟨_, rfl, rfl⟩ | before
    · exact ⟨rfl, home⟩
    · exact held.identified before
  · intro id bookmark here
    rw [counter]
    rcases has.mp here with ⟨inside, rfl, rfl⟩ | before
    · rw [if_pos inside]
      have facts := raised inside
      omega
    · have bounds := held.numbered before
      split
      · rename_i inside
        have facts := raised inside
        omega
      · exact bounds
  · intro id second bookmark another here there same below
    rcases has.mp here with ⟨inside, rfl, rfl⟩ | before
    · rcases has.mp there with ⟨_, rfl, rfl⟩ | earlier
      · rfl
      · have facts := raised inside
        have bounds := held.numbered earlier
        omega
    · rcases has.mp there with ⟨inside, rfl, rfl⟩ | earlier
      · have facts := raised inside
        have bounds := held.numbered before
        omega
      · exact held.distinct before earlier same below
  · intro publication first last
    rw [counter] at last
    split at last
    · rename_i inside
      have facts := raised inside
      by_cases newest : publication = made.publication
      · exact ⟨made.id, made, has.mpr (.inl ⟨inside, rfl, rfl⟩), newest.symm⟩
      · obtain ⟨id, bookmark, here, same⟩ := held.filled publication first (by omega)
        exact ⟨id, bookmark, has.mpr (.inr here), same⟩
    · obtain ⟨id, bookmark, here, same⟩ := held.filled publication first last
      exact ⟨id, bookmark, has.mpr (.inr here), same⟩
  · rw [counter]
    split
    · rename_i inside
      exact (raised inside).1
    · exact bound
  · intro id bookmark here
    rcases has.mp here with ⟨inside, rfl, rfl⟩ | before
    · rwa [inside]
    · exact le_trans (held.committed before) (grown partition)

theorem hasBookmark_deleted {gone : BookmarkId} {old : CommittedBookmark}
    (stored : view.get (.bookmarkId gone) = some old) (placed : old.cursor.partition = target)
    (reads : ∀ key : StateKey, key.family = .bookmark →
      other.get key = (view.after (deletionWrites target gone old)).get key) :
    other.HasBookmark partition id bookmark ↔
      (partition = target ∧ id = gone ∧ bookmark = old.markDeleted) ∨
        (id ≠ gone ∧ view.HasBookmark partition id bookmark) := by
  have found : other.get (.bookmarkId id) =
      if id = gone then some old.markDeleted else view.get (.bookmarkId id) := by
    rw [reads _ rfl, deletionWrites_id]
  rw [HasBookmark, HasBookmark, found]
  by_cases same : id = gone
  · subst same
    rw [if_pos rfl]
    constructor
    · rintro ⟨found, inside⟩
      cases found
      exact .inl ⟨inside.symm.trans placed, rfl, rfl⟩
    · rintro (⟨rfl, _, rfl⟩ | ⟨other, _⟩)
      · exact ⟨rfl, placed⟩
      · exact absurd rfl other
  · rw [if_neg same]
    simp [same]

theorem Bookmarked.deleted {gone : BookmarkId} {old : CommittedBookmark}
    (held : view.Bookmarked Sole cluster partition) (grown : view.Grown other)
    (stored : view.get (.bookmarkId gone) = some old) (placed : old.cursor.partition = target)
    (live : old.lifecycle = .available)
    (reads : ∀ key : StateKey, key.family = .bookmark →
      other.get key = (view.after (deletionWrites target gone old)).get key) :
    other.Bookmarked Sole cluster partition := by
  have names (name : BookmarkName) : other.get (.bookmarkName partition name) =
      if partition = target ∧ name = old.name then none
      else view.get (.bookmarkName partition name) := by
    rw [reads _ rfl, deletionWrites_name]
  have orders (publication : Nat) : other.get (.bookmarkOrder partition publication) =
      if partition = target ∧ publication = old.publication then none
      else view.get (.bookmarkOrder partition publication) := by
    rw [reads _ rfl, deletionWrites_order]
  have counter : other.publicationOf partition = view.publicationOf partition := by
    have same : other.publicationOf partition =
        (view.after (deletionWrites target gone old)).publicationOf partition := by
      simp only [publicationOf, reads (.bookmarkPublication partition) rfl]
    rw [same, deletionWrites_publication]
  have has {id : BookmarkId} {bookmark : CommittedBookmark} :=
    @hasBookmark_deleted view other partition target id bookmark gone old stored placed reads
  have was (inside : partition = target) : view.HasBookmark partition gone old :=
    ⟨stored, placed.trans inside.symm⟩
  constructor
  · intro name id found
    rw [names] at found
    split at found
    · simp at found
    · rename_i different
      obtain ⟨bookmark, here, named, available⟩ := held.named found
      refine ⟨bookmark, has.mpr (.inr ⟨?_, here⟩), named, available⟩
      rintro rfl
      obtain rfl := Option.some.inj (stored.symm.trans here.1)
      exact different ⟨here.2.symm.trans placed, named.symm⟩
  · intro publication bookmark found
    rw [orders] at found
    split at found
    · simp at found
    · rename_i different
      obtain ⟨here, counted, available⟩ := held.ordered found
      refine ⟨has.mpr (.inr ⟨?_, here⟩), counted, available⟩
      rintro rfl
      obtain rfl := Option.some.inj (stored.symm.trans here.1)
      exact different ⟨here.2.symm.trans placed, counted.symm⟩
  · intro id bookmark here available
    rcases has.mp here with ⟨_, _, rfl⟩ | ⟨different, before⟩
    · simp [CommittedBookmark.markDeleted] at available
    · have byName := held.byName before available
      rw [names, if_neg, byName]
      rintro ⟨inside, same⟩
      rw [same, held.byName (was inside) live] at byName
      exact different (Option.some.inj byName).symm
  · intro id bookmark here available sole
    rcases has.mp here with ⟨_, _, rfl⟩ | ⟨different, before⟩
    · simp [CommittedBookmark.markDeleted] at available
    · have byOrder := held.byOrder before available sole
      rw [orders, if_neg, byOrder]
      rintro ⟨inside, same⟩
      -- one slot holds one bookmark
      rw [same, held.byOrder (was inside) live (same ▸ sole)] at byOrder
      have one := Option.some.inj byOrder
      exact different ((held.identified before).1.symm.trans
        (one ▸ (held.identified (was inside)).1))
  · intro id bookmark here
    rcases has.mp here with ⟨inside, rfl, rfl⟩ | ⟨_, before⟩
    · have kept := held.identified (was inside)
      exact kept
    · exact held.identified before
  · intro id bookmark here
    rw [counter]
    rcases has.mp here with ⟨inside, rfl, rfl⟩ | ⟨_, before⟩
    · have kept := held.numbered (was inside)
      exact kept
    · exact held.numbered before
  · intro id second bookmark another here there same below
    rcases has.mp here with ⟨inside, rfl, rfl⟩ | ⟨_, before⟩
    · rcases has.mp there with ⟨_, rfl, rfl⟩ | ⟨_, earlier⟩
      · rfl
      · exact held.distinct (was inside) earlier same below
    · rcases has.mp there with ⟨inside, rfl, rfl⟩ | ⟨_, earlier⟩
      · exact held.distinct before (was inside) same below
      · exact held.distinct before earlier same below
  · intro publication first last
    rw [counter] at last
    obtain ⟨id, bookmark, here, same⟩ := held.filled publication first last
    by_cases deleted : id = gone
    · subst deleted
      obtain rfl := Option.some.inj (stored.symm.trans here.1)
      exact ⟨id, _, has.mpr (.inl ⟨here.2.symm.trans placed, rfl, rfl⟩), same⟩
    · exact ⟨id, bookmark, has.mpr (.inr ⟨deleted, here⟩), same⟩
  · rw [counter]
    exact held.counted
  · intro id bookmark here
    refine le_trans ?_ (grown partition)
    rcases has.mp here with ⟨inside, rfl, rfl⟩ | ⟨_, before⟩
    · have kept := held.committed (was inside)
      exact kept
    · exact held.committed before

theorem Bookmarked.move (held : view.Bookmarked Sole cluster partition)
    (free : ∀ target, Full view target → Sole u64Max →
      view.get (.bookmarkOrder target u64Max) = none)
    (move : BookmarkMove Full cluster view other) : other.Bookmarked Sole cluster partition := by
  cases move with
  | kept grown reads => exact held.frame grown reads
  | created grown target made fresh unused numbered full placed committed live reads =>
      refine held.created grown fresh unused numbered ?_ placed.1 placed.2 committed live
        reads
      intro counter sole
      have last : made.publication = u64Max := by
        rw [numbered, saturatingAdd]
        omega
      rw [last] at sole ⊢
      exact free target (full counter) sole
  | deleted grown target gone old stored placed live reads =>
      exact held.deleted grown stored placed live reads

end GroupView

end LightStream
