import LightStream.Storage.GroupDb

/-!
Listing the bookmarks of a partition, newest first: `CommittedStateReader::list_bookmarks` of
`light-stream-storage`.
-/

namespace LightStream

def maxBookmarkPage : Nat := 1000

structure BookmarkPageRequest where
  partition : PartitionKey
  limit : Nat
  publicationCeiling : Option Nat
  before : Option Nat
  limited : limit ≠ 0 ∧ limit ≤ maxBookmarkPage

def BookmarkPageRequest.new (partition : PartitionKey) (limit : Nat)
    (publicationCeiling before : Option Nat) : Except DomainError BookmarkPageRequest :=
  if bad : limit = 0 ∨ limit > maxBookmarkPage then
    .error (.invalidRange "bookmark page limit must be between 1 and 1000")
  else .ok ⟨partition, limit, publicationCeiling, before, by omega⟩

def bookmarkOrderIndex (partition : PartitionKey) : StateKey → Option Nat
  | .bookmarkOrder target publication => if target = partition then some publication else none
  | _ => none

def scanBookmarkOrder (store : StateStore) (partition : PartitionKey) : List CommittedBookmark :=
  (store.scan (bookmarkOrderIndex partition)).filterMap fun publication =>
    store.get (.bookmarkOrder partition publication)

namespace GroupDb

end GroupDb

end LightStream
