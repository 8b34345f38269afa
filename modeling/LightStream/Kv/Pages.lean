import Mathlib.Data.Nat.Find
import Mathlib.Data.List.Pairwise
import Mathlib.Data.List.Range

/-!
Pages of a list that is kept in descending order and may change between two pages.  Each page
starts below the last entry of the page before it, and a page that is not full is the last one.
-/

namespace Kv

variable {α : Type}

def page (rank : α → Nat) (limit before : Nat) (entries : List α) : List α :=
  (entries.filter fun entry => decide (rank entry < before)).take limit

section Page

variable {rank : α → Nat} {limit before : Nat} {entries : List α} {entry : α}

end Page

section Traversal

variable {rank : α → Nat} {limit start : Nat} {entries : Nat → List α} {entry : α}

end Traversal

end Kv
