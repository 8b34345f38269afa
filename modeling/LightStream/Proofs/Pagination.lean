import LightStream.Kv.Pages
import LightStream.Proofs.BookmarkIndexes
import LightStream.Storage.BookmarkPages

/-!
Listing the bookmarks of a partition page by page while bookmarks come and go.  The pages together
are one traversal of the publication index below the ceiling of the first page.
-/

namespace LightStream

namespace GroupView

variable {Full : GroupView → PartitionKey → Prop} {view other : GroupView} {cluster : ClusterId}

def Stays (bookmark later : CommittedBookmark) : Prop :=
  later = bookmark ∨ later = bookmark.markDeleted

theorem Stays.trans {bookmark middle later : CommittedBookmark} (first : Stays bookmark middle)
    (second : Stays middle later) : Stays bookmark later := by
  rcases first with rfl | rfl
  · exact second
  · rcases second with rfl | rfl
    · exact .inr rfl
    · exact .inr rfl

theorem Stays.publication {bookmark later : CommittedBookmark} (stays : Stays bookmark later) :
    later.publication = bookmark.publication ∧ later.cursor = bookmark.cursor := by
  rcases stays with rfl | rfl
  · exact ⟨rfl, rfl⟩
  · exact ⟨rfl, rfl⟩

theorem BookmarkMove.stays {id : BookmarkId} {bookmark : CommittedBookmark}
    (move : BookmarkMove Full cluster view other)
    (stored : view.get (.bookmarkId id) = some bookmark) : ∃ later,
      other.get (.bookmarkId id) = some later ∧ Stays bookmark later := by
  cases move with
  | kept grown reads =>
      rw [reads _ rfl]
      exact ⟨bookmark, stored, .inl rfl⟩
  | created grown target made fresh unused numbered full placed committed live reads =>
      refine ⟨bookmark, ?_, .inl rfl⟩
      rw [reads _ rfl, bookmarkWrites_id, if_neg, stored]
      rintro rfl
      rw [fresh] at stored
      simp at stored
  | deleted grown target gone old found placed live reads =>
      rw [reads _ rfl, deletionWrites_id]
      split
      · rename_i same
        rw [same, found] at stored
        cases stored
        exact ⟨_, rfl, .inr rfl⟩
      · exact ⟨bookmark, stored, .inl rfl⟩

theorem BookmarkMoves.stays {id : BookmarkId} {bookmark : CommittedBookmark}
    (moves : BookmarkMoves Full cluster view other)
    (stored : view.get (.bookmarkId id) = some bookmark) : ∃ later,
      other.get (.bookmarkId id) = some later ∧ Stays bookmark later := by
  induction moves with
  | refl => exact ⟨bookmark, stored, .inl rfl⟩
  | tail moves move ih =>
      obtain ⟨middle, found, first⟩ := ih
      obtain ⟨later, last, second⟩ := move.stays found
      exact ⟨later, last, first.trans second⟩

end GroupView

namespace GroupDb

def listed (db : GroupDb) (partition : PartitionKey) (ceiling : Nat) : List CommittedBookmark :=
  (scanBookmarkOrder db.state partition).reverse.filter fun bookmark =>
    decide (bookmark.lifecycle = .available ∧ bookmark.publication ≤ ceiling)

variable {db : GroupDb} {partition : PartitionKey} {ceiling : Nat}

/-- What can happen to the stored values between two reads: an entry is applied, or they stay, as
when the log is cut, a snapshot is built or another replica at the same entry answers. -/
inductive Advance (db next : GroupDb) : Prop
  | applied (entry : GroupEntry) (result : ApplyResult)
      (done : db.applyEntry entry = .ok (result, next)) : Advance db next
  | maintained (identity : next.identity = db.identity) (same : next.get = db.get) : Advance db next

abbrev Later : GroupDb → GroupDb → Prop := Relation.ReflTransGen Advance

section Timeline

variable {identity : GroupIdentity} {window : Nat} {content : PayloadId → Record}
  {Allowed : GroupDb → GroupEntry → Prop} {history : List GroupEntry} {first next : GroupDb}
  {timeline : Nat → GroupDb} {request : BookmarkPageRequest}

theorem Advance.moves (advance : Advance db next) : next.identity = db.identity ∧
    GroupView.BookmarkMoves (fun _ _ => True) db.identity.clusterId db.view next.view := by
  cases advance with
  | applied entry result done =>
      exact ⟨(applyEntry_frame done).1, applyEntry_bookmarkMoves (fun _ _ _ _ _ _ => trivial) done⟩
  | maintained identity same =>
      refine ⟨identity, .single (.kept (.of_reads fun partition => ?_) fun key family => ?_)⟩
      · rw [view_get, same, view_get]
      · rw [view_get, same, view_get]

theorem Later.moves (later : Later db next) : next.identity = db.identity ∧
    GroupView.BookmarkMoves (fun _ _ => True) db.identity.clusterId db.view next.view := by
  induction later with
  | refl => exact ⟨rfl, .refl⟩
  | tail later advance ih =>
      obtain ⟨same, moves⟩ := ih
      obtain ⟨sameNext, more⟩ := advance.moves
      rw [same] at sameNext more
      exact ⟨sameNext, moves.trans more⟩

theorem Ran.bookmarked (ran : Ran identity window content Allowed history db)
    (partition : PartitionKey) :
    db.view.Bookmarked (· < u64Max) identity.clusterId partition := by
  have always (db : GroupDb) (entry : GroupEntry) (_ : Allowed db entry) :
      MeetsFull (fun _ _ => True) db entry := fun _ _ _ _ _ _ => trivial
  obtain ⟨steps, _, traced⟩ := (ran.weaken always).traced
  refine (traced.bookmarked fun view target _ below => ?_).1 partition
  exact absurd below (Nat.lt_irrefl _)

section Pages

variable {cluster : ClusterId}
  (held : ∀ n, (timeline n).view.Bookmarked (· < u64Max) cluster request.partition)

include held

end Pages

theorem Later.bookmarked {cluster : ClusterId} (later : Later db next)
    (home : db.identity.clusterId = cluster)
    (held : db.view.Bookmarked (· < u64Max) cluster partition) :
    next.view.Bookmarked (· < u64Max) cluster partition := by
  have moves := later.moves.2
  rw [home] at moves
  exact moves.bookmarked (fun view target _ below => absurd below (Nat.lt_irrefl _)) held

theorem Later.available {id : BookmarkId} {bookmark found : CommittedBookmark}
    (later : Later db next) (stored : db.get (.bookmarkId id) = some bookmark)
    (kept : next.get (.bookmarkId id) = some found) (live : found.lifecycle = .available) :
    found = bookmark := by
  obtain ⟨last, stored, stays⟩ := later.moves.2.stays stored
  obtain rfl := Option.some.inj (kept.symm.trans stored)
  rcases stays with rfl | rfl
  · rfl
  · simp [CommittedBookmark.markDeleted] at live

end Timeline

end GroupDb

end LightStream
