import LightStream.Kv.Store
import Mathlib.Algebra.Order.Group.Nat
import Mathlib.Data.List.Lex
import Mathlib.Tactic.Ring

/-!
Stores whose keys are iterated in the order of their bytes, and big-endian numbers in them: the
keys under a prefix lie together, and fixed-width numbers come in their own order.
-/

namespace Kv

/-- Bytes are ordered one after the other, as an ordered store compares its keys. -/
abbrev Bytes := List Nat

/-- The last `width` base-256 digits of a number, the highest first. -/
def bigEndian : Nat → Nat → Bytes
  | 0, _ => []
  | width + 1, value => value / 256 ^ width % 256 :: bigEndian width value

def fromBigEndian (bytes : Bytes) : Nat := bytes.foldl (fun value byte => value * 256 + byte) 0

theorem bigEndian_length (width value : Nat) : (bigEndian width value).length = width := by
  induction width with
  | zero => rfl
  | succ width ih => rw [bigEndian, List.length_cons, ih]

theorem mod_split (width value : Nat) : value % 256 ^ (width + 1) =
    value / 256 ^ width % 256 * 256 ^ width + value % 256 ^ width := by
  rw [Nat.pow_succ, Nat.mod_mul]
  ring

theorem fromBigEndian_bigEndian (width value : Nat) :
    fromBigEndian (bigEndian width value) = value % 256 ^ width := by
  have general : ∀ start : Nat, (bigEndian width value).foldl (fun value byte => value * 256 + byte)
      start = start * 256 ^ width + value % 256 ^ width := by
    induction width with
    | zero =>
        intro start
        simp [bigEndian, Nat.mod_one]
    | succ width ih =>
        intro start
        rw [bigEndian, List.foldl_cons, ih, mod_split]
        ring
  have read := general 0
  rw [Nat.zero_mul, Nat.zero_add] at read
  exact read

theorem bigEndian_mod {width bound : Nat} (narrow : width ≤ bound) (value : Nat) :
    bigEndian width (value % 256 ^ bound) = bigEndian width value := by
  induction width with
  | zero => rfl
  | succ width ih =>
      have digit : value % 256 ^ bound / 256 ^ width % 256 = value / 256 ^ width % 256 := by
        obtain ⟨more, rfl⟩ := Nat.exists_eq_add_of_le narrow
        rw [Nat.pow_add, Nat.pow_succ, Nat.mul_assoc, Nat.mod_mul_right_div_self,
          Nat.mod_mul_right_mod]
      rw [bigEndian, bigEndian, digit, ih (by omega)]

theorem bigEndian_lt_iff (width first second : Nat) :
    bigEndian width first < bigEndian width second ↔
      first % 256 ^ width < second % 256 ^ width := by
  induction width with
  | zero => simp [bigEndian, Nat.mod_one]
  | succ width ih =>
      rw [bigEndian, bigEndian, List.cons_lt_cons_iff, ih, mod_split, mod_split]
      have firstBound := Nat.mod_lt first (Nat.pow_pos (n := width) (show 0 < 256 by omega))
      have secondBound := Nat.mod_lt second (Nat.pow_pos (n := width) (show 0 < 256 by omega))
      generalize first / 256 ^ width % 256 = high at *
      generalize second / 256 ^ width % 256 = otherHigh at *
      generalize first % 256 ^ width = low at *
      generalize second % 256 ^ width = otherLow at *
      generalize 256 ^ width = unit at *
      rcases Nat.lt_trichotomy high otherHigh with below | same | above
      · have step : high * unit + unit ≤ otherHigh * unit := by
          rw [← Nat.succ_mul]
          exact Nat.mul_le_mul_right _ below
        exact iff_of_true (.inl below) (by omega)
      · subst same
        simp
      · have step : otherHigh * unit + unit ≤ high * unit := by
          rw [← Nat.succ_mul]
          exact Nat.mul_le_mul_right _ above
        exact iff_of_false (by omega) (by omega)

theorem bigEndian_inj {width first second : Nat} (firstFits : first < 256 ^ width)
    (secondFits : second < 256 ^ width) (same : bigEndian width first = bigEndian width second) :
    first = second := by
  have values := congrArg fromBigEndian same
  rwa [fromBigEndian_bigEndian, fromBigEndian_bigEndian, Nat.mod_eq_of_lt firstFits,
    Nat.mod_eq_of_lt secondFits] at values

theorem prefix_lt_iff (head first second : Bytes) :
    head ++ first < head ++ second ↔ first < second := by
  induction head with
  | nil => rfl
  | cons byte rest ih => simp [ih]

theorem prefix_le {head bytes : Bytes} (under : head <+: bytes) : head ≤ bytes := by
  obtain ⟨rest, rfl⟩ := under
  have behind := prefix_lt_iff head rest []
  rw [List.append_nil] at behind
  rw [← not_lt, behind]
  exact List.not_lt_nil rest

/-- The keys under a prefix lie together: nothing else comes between two of them. -/
theorem prefix_convex {start low high : Bytes} : ∀ {head : Bytes}, head <+: start → start ≤ low →
    low ≤ high → head <+: high → head <+: low := by
  intro head
  induction head generalizing start low high with
  | nil =>
      intro _ _ _ _
      exact List.nil_prefix
  | cons byte rest ih =>
      intro startHead above below highHead
      obtain ⟨startRest, rfl⟩ := startHead
      obtain ⟨highRest, rfl⟩ := highHead
      rw [← not_lt] at above below
      cases low with
      | nil => exact absurd (List.nil_lt_cons _ _) above
      | cons first tail =>
          rw [List.cons_append, List.cons_lt_cons_iff, not_or, not_and] at above below
          have same : first = byte := by omega
          subst same
          have inner := ih (List.prefix_append rest startRest) (not_lt.mp (above.2 rfl))
            (not_lt.mp (below.2 rfl)) (List.prefix_append rest highRest)
          exact List.cons_prefix_cons.mpr ⟨rfl, inner⟩

/-- Where a predicate only gets lost along a list, its first members are all of them. -/
theorem takeWhile_of_lost {α : Type} (holds : α → Bool) {items : List α}
    (lost : items.Pairwise fun first second => holds second = true → holds first = true) :
    items.takeWhile holds = items.filter holds := by
  induction items with
  | nil => rfl
  | cons item rest ih =>
      obtain ⟨later, lost⟩ := List.pairwise_cons.mp lost
      by_cases held : holds item = true
      · rw [List.takeWhile_cons_of_pos held, List.filter_cons_of_pos held, ih lost]
      · rw [List.takeWhile_cons_of_neg held, List.filter_cons_of_neg held, eq_comm,
          List.filter_eq_nil_iff]
        intro other member heldLater
        exact held (later other member heldLater)

namespace Store

variable {K : Type} {V : K → Type}

def iterate (store : Store K V) (encode : K → Bytes) (start : Bytes) : List K :=
  (store.keys.filter fun key => start ≤ encode key).insertionSort
    fun first second => encode first ≤ encode second

variable {store : Store K V} {encode : K → Bytes} {start : Bytes}

theorem mem_iterate {key : K} : key ∈ store.iterate encode start ↔
    (store.get key).isSome = true ∧ start ≤ encode key := by
  rw [iterate, List.mem_insertionSort, List.mem_filter, store.memKeys, decide_eq_true_eq]

theorem iterate_nodup : (store.iterate encode start).Nodup :=
  (List.perm_insertionSort _ _).nodup_iff.mpr (store.nodup.filter _)

theorem iterate_sorted : (store.iterate encode start).Pairwise
    fun first second => encode first ≤ encode second := by
  have total : Std.Total fun first second : K => encode first ≤ encode second :=
    ⟨fun first second => le_total (encode first) (encode second)⟩
  have trans : IsTrans K fun first second => encode first ≤ encode second :=
    ⟨fun _ _ _ below above => le_trans below above⟩
  exact List.pairwise_insertionSort _ _

/-- The iteration from a position under a prefix begins with the keys under it. -/
theorem iterate_takeWhile {head : Bytes} (under : head <+: start) :
    (store.iterate encode start).takeWhile (fun key => head.isPrefixOf (encode key)) =
      (store.iterate encode start).filter fun key => head.isPrefixOf (encode key) := by
  refine takeWhile_of_lost _ ?_
  have above : ∀ key ∈ store.iterate encode start, start ≤ encode key :=
    fun key member => (mem_iterate.mp member).2
  refine List.Pairwise.imp_of_mem ?_ iterate_sorted
  intro first second member _ below held
  rw [List.isPrefixOf_iff_prefix] at held ⊢
  exact prefix_convex under (above first member) below held

/-- Where the encodings of a list strictly grow, they tell its members apart. -/
theorem eq_of_strict {items : List K} (strict : items.Pairwise fun first second =>
    encode first < encode second) {first second : K} (firstMember : first ∈ items)
    (secondMember : second ∈ items) (same : encode first = encode second) : first = second := by
  obtain ⟨firstPlace, firstBound, rfl⟩ := List.mem_iff_getElem.mp firstMember
  obtain ⟨secondPlace, secondBound, rfl⟩ := List.mem_iff_getElem.mp secondMember
  rw [List.pairwise_iff_getElem] at strict
  rcases Nat.lt_trichotomy firstPlace secondPlace with below | equal | above
  · exact absurd (strict _ _ firstBound secondBound below) (same ▸ lt_irrefl _)
  · subst equal
    rfl
  · exact absurd (strict _ _ secondBound firstBound above) (same ▸ lt_irrefl _)

/-- The keys under a prefix, from a position under it on, are the strictly growing list of them. -/
theorem iterate_under {head : Bytes} (under : head <+: start) {items : List K}
    (strict : items.Pairwise fun first second => encode first < encode second)
    (members : ∀ key, key ∈ items ↔
      (store.get key).isSome = true ∧ start ≤ encode key ∧ head <+: encode key) :
    (store.iterate encode start).takeWhile (fun key => head.isPrefixOf (encode key)) = items := by
  have inFilter (key : K) : key ∈ ((store.iterate encode start).filter fun key =>
      head.isPrefixOf (encode key)) ↔ key ∈ items := by
    rw [List.mem_filter, mem_iterate, members, List.isPrefixOf_iff_prefix, and_assoc]
  rw [iterate_takeWhile under]
  refine List.Perm.eq_of_pairwise ?_ (iterate_sorted.filter _) (strict.imp le_of_lt) ?_
  · intro first second firstMember secondMember below above
    exact eq_of_strict strict ((inFilter first).mp firstMember) secondMember
      (le_antisymm below above)
  · refine (List.perm_ext_iff_of_nodup (iterate_nodup.filter _) ?_).mpr inFilter
    refine strict.imp fun below same => ?_
    rw [same] at below
    exact lt_irrefl _ below

end Store

end Kv
