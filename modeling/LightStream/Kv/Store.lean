import Mathlib.Data.List.Nodup
import Mathlib.Data.List.Sort
import Mathlib.Logic.Function.Basic

/-!
Finite key-value stores whose value type depends on the key, and the write batches that
change them.  A batch is a list of puts and deletes; committing it applies the operations
in order, so the last operation on a key decides its value.
-/

namespace Kv

structure Store (K : Type) (V : K → Type) where
  get : (key : K) → Option (V key)
  keys : List K
  nodup : keys.Nodup
  memKeys : ∀ key, key ∈ keys ↔ (get key).isSome = true

inductive Op (K : Type) (V : K → Type) where
  | put (key : K) (value : V key)
  | delete (key : K)

def Op.key {K : Type} {V : K → Type} : Op K V → K
  | .put key _ => key
  | .delete key => key

@[simp] theorem Op.key_put {K : Type} {V : K → Type} (key : K) (value : V key) :
    (Op.put key value : Op K V).key = key := rfl

@[simp] theorem Op.key_delete {K : Type} {V : K → Type} (key : K) :
    (Op.delete key : Op K V).key = key := rfl

abbrev Batch (K : Type) (V : K → Type) := List (Op K V)

namespace Store

variable {K : Type} {V : K → Type}

def empty : Store K V where
  get := fun _ => none
  keys := []
  nodup := List.nodup_nil
  memKeys := by simp

@[simp] theorem get_empty (key : K) : (empty : Store K V).get key = none := rfl

def scan {ι : Type} [LinearOrder ι] (store : Store K V) (index : K → Option ι) : List ι :=
  (store.keys.filterMap index).insertionSort (· ≤ ·)

theorem mem_scan {ι : Type} [LinearOrder ι] {store : Store K V} {index : K → Option ι}
    {entry : ι} :
    entry ∈ store.scan index ↔ ∃ key, (store.get key).isSome = true ∧ index key = some entry := by
  simp only [scan, List.mem_insertionSort, List.mem_filterMap, store.memKeys]

theorem scan_nodup {ι : Type} [LinearOrder ι] {store : Store K V} {index : K → Option ι}
    (injective : ∀ first second entry, index first = some entry → index second = some entry →
      first = second) : (store.scan index).Nodup := by
  refine (List.perm_insertionSort _ _).nodup_iff.mpr (List.Nodup.filterMap ?_ store.nodup)
  intro first second entry firstIndex secondIndex
  exact injective first second entry firstIndex secondIndex

/-- Two stores that hold the same keys scan alike, whatever order they were written in. -/
theorem scan_of_held {ι : Type} [LinearOrder ι] {W : K → Type} {first : Store K V}
    {second : Store K W} (held : ∀ key, (first.get key).isSome = (second.get key).isSome)
    (index : K → Option ι) : first.scan index = second.scan index := by
  have keys : first.keys.Perm second.keys := by
    refine (List.perm_ext_iff_of_nodup first.nodup second.nodup).mpr fun key => ?_
    rw [first.memKeys, second.memKeys, held]
  have sorted : ((first.keys.filterMap index).insertionSort (· ≤ ·)).Perm
      ((second.keys.filterMap index).insertionSort (· ≤ ·)) :=
    (List.perm_insertionSort _ _).trans
      ((keys.filterMap index).trans (List.perm_insertionSort _ _).symm)
  exact sorted.eq_of_pairwise (fun _ _ _ _ => le_antisymm)
    (List.pairwise_insertionSort (· ≤ ·) _) (List.pairwise_insertionSort (· ≤ ·) _)

def entries (store : Store K V) : List ((key : K) × V key) :=
  store.keys.filterMap fun key => (store.get key).map fun value => ⟨key, value⟩

theorem mem_entries {store : Store K V} {key : K} {value : V key} :
    ⟨key, value⟩ ∈ store.entries ↔ store.get key = some value := by
  simp only [entries, List.mem_filterMap, Option.map_eq_some_iff, store.memKeys]
  constructor
  · rintro ⟨other, _, stored, found, same⟩
    cases same
    exact found
  · intro found
    exact ⟨key, by simp [found], value, found, rfl⟩

variable [DecidableEq K]

def put (store : Store K V) (key : K) (value : V key) : Store K V where
  get := Function.update store.get key (some value)
  keys := if key ∈ store.keys then store.keys else store.keys ++ [key]
  nodup := by
    split
    · exact store.nodup
    · rename_i fresh
      exact List.nodup_append.mpr ⟨store.nodup, by simp, by
        intro first member second single same
        simp only [List.mem_singleton] at single
        exact fresh (single ▸ same ▸ member)⟩
  memKeys := by
    intro other
    by_cases same : other = key
    · subst other
      split <;> simp_all
    · rw [Function.update_of_ne same, ← store.memKeys]
      split <;> simp [same]

def delete (store : Store K V) (key : K) : Store K V where
  get := Function.update store.get key none
  keys := store.keys.filter (· ≠ key)
  nodup := store.nodup.filter _
  memKeys := by
    intro other
    by_cases same : other = key
    · subst other
      simp
    · rw [Function.update_of_ne same, ← store.memKeys]
      simp [same]

@[simp] theorem get_put_self (store : Store K V) (key : K) (value : V key) :
    (store.put key value).get key = some value := Function.update_self ..

theorem get_put_of_ne (store : Store K V) {key other : K} (value : V key)
    (different : other ≠ key) : (store.put key value).get other = store.get other :=
  Function.update_of_ne different ..

@[simp] theorem get_delete_self (store : Store K V) (key : K) :
    (store.delete key).get key = none := Function.update_self ..

theorem get_delete_of_ne (store : Store K V) {key other : K}
    (different : other ≠ key) : (store.delete key).get other = store.get other :=
  Function.update_of_ne different ..

def write (store : Store K V) : Op K V → Store K V
  | .put key value => store.put key value
  | .delete key => store.delete key

def commit (store : Store K V) (batch : Batch K V) : Store K V :=
  batch.foldl write store

@[simp] theorem commit_nil (store : Store K V) : store.commit [] = store := rfl

@[simp] theorem commit_cons (store : Store K V) (op : Op K V) (rest : Batch K V) :
    store.commit (op :: rest) = (store.write op).commit rest := rfl

theorem commit_append (store : Store K V) (first second : Batch K V) :
    store.commit (first ++ second) = (store.commit first).commit second :=
  List.foldl_append ..

end Store

section Effects

variable {K : Type} {V : K → Type} [DecidableEq K]

def Op.effect (op : Op K V) (key : K) : Option (Option (V key)) :=
  match op with
  | .put target value => if same : target = key then some (some (same ▸ value)) else none
  | .delete target => if target = key then some none else none

def Batch.effect : Batch K V → (key : K) → Option (Option (V key))
  | [], _ => none
  | op :: rest, key => (Batch.effect rest key).or (op.effect key)

@[simp] theorem Op.effect_put_self (key : K) (value : V key) :
    (Op.put key value).effect key = some (some value) := by
  simp [Op.effect]

@[simp] theorem Op.effect_delete_self (key : K) :
    (Op.delete key : Op K V).effect key = some none := by
  simp [Op.effect]

theorem Op.effect_of_ne {op : Op K V} {key : K} (different : op.key ≠ key) :
    op.effect key = none := by
  cases op with
  | put target value => simp_all [Op.effect, Op.key]
  | delete target => simp_all [Op.effect, Op.key]

theorem Op.effect_eq_none_iff {op : Op K V} {key : K} : op.effect key = none ↔ op.key ≠ key := by
  constructor
  · intro silent same
    subst same
    cases op <;> simp at silent
  · exact Op.effect_of_ne

@[simp] theorem Batch.effect_nil (key : K) : Batch.effect ([] : Batch K V) key = none := rfl

@[simp] theorem Batch.effect_cons (op : Op K V) (rest : Batch K V) (key : K) :
    Batch.effect (op :: rest) key = (Batch.effect rest key).or (op.effect key) := rfl

theorem Batch.effect_append (first second : Batch K V) (key : K) :
    Batch.effect (first ++ second) key =
      (Batch.effect second key).or (Batch.effect first key) := by
  induction first with
  | nil => simp
  | cons op rest ih => simp [ih, Option.or_assoc]

theorem Batch.effect_eq_none_iff {batch : Batch K V} {key : K} :
    batch.effect key = none ↔ ∀ op ∈ batch, op.key ≠ key := by
  induction batch with
  | nil => simp
  | cons op rest ih => simp [ih, Op.effect_eq_none_iff, and_comm]

theorem Batch.mem_of_effect {batch : Batch K V} {key : K} {written : Option (V key)}
    (effect : batch.effect key = some written) : ∃ op ∈ batch, op.effect key = some written := by
  induction batch with
  | nil => simp at effect
  | cons op rest ih =>
      rw [Batch.effect_cons] at effect
      cases later : Batch.effect rest key with
      | none =>
          rw [later, Option.none_or] at effect
          exact ⟨op, List.mem_cons_self .., effect⟩
      | some value =>
          rw [later, Option.some_or] at effect
          obtain ⟨other, member, written⟩ := ih (later.trans effect)
          exact ⟨other, List.mem_cons_of_mem _ member, written⟩

theorem Batch.effect_of_agreeing {batch : Batch K V} {key : K} {written : Option (V key)}
    (touched : ∃ op ∈ batch, op.key = key)
    (agree : ∀ op ∈ batch, op.key = key → op.effect key = some written) :
    batch.effect key = some written := by
  cases effect : batch.effect key with
  | none =>
      obtain ⟨op, member, same⟩ := touched
      exact absurd same (Batch.effect_eq_none_iff.mp effect op member)
  | some other =>
      obtain ⟨op, member, opEffect⟩ := Batch.mem_of_effect effect
      have same : op.key = key := by
        by_contra different
        rw [Op.effect_of_ne different] at opEffect
        simp at opEffect
      rw [← opEffect, agree op member same]

theorem Batch.effect_map_put {ι α : Type} [DecidableEq ι] {key : ι → K}
    (injective : Function.Injective key) (value : (index : ι) → α → V (key index))
    {entries : List (ι × α)} (distinct : (entries.map Prod.fst).Nodup) (index : ι) :
    Batch.effect (entries.map fun entry => .put (key entry.1) (value entry.1 entry.2)) (key index) =
      (entries.find? fun entry => entry.1 = index).map fun entry => some (value index entry.2) := by
  induction entries with
  | nil => rfl
  | cons entry rest ih =>
      obtain ⟨head, stored⟩ := entry
      obtain ⟨fresh, distinct⟩ := List.nodup_cons.mp distinct
      rw [List.map_cons, Batch.effect_cons, ih distinct]
      by_cases same : head = index
      · subst same
        have absent : rest.find? (fun entry => entry.1 = head) = none := by
          rw [List.find?_eq_none]
          intro other member equal
          simp only [decide_eq_true_eq] at equal
          exact fresh (List.mem_map.mpr ⟨other, member, equal⟩)
        simp [absent]
      · have silent : (Op.put (key head) (value head stored) : Op K V).effect (key index) = none := by
          refine Op.effect_of_ne ?_
          intro equal
          exact same (injective equal)
        rw [silent, Option.or_none]
        simp [same]

theorem Store.get_write (store : Store K V) (op : Op K V) (key : K) :
    (store.write op).get key = (op.effect key).getD (store.get key) := by
  by_cases same : op.key = key
  · subst same
    cases op <;> simp [Store.write]
  · rw [Op.effect_of_ne same]
    cases op with
    | put target value => exact Store.get_put_of_ne store value (Ne.symm same)
    | delete target => exact Store.get_delete_of_ne store (Ne.symm same)

/-- Reading after a commit: the effect of the batch if it has one, the old value otherwise. -/
theorem Store.get_commit (store : Store K V) (batch : Batch K V) (key : K) :
    (store.commit batch).get key = (batch.effect key).getD (store.get key) := by
  induction batch generalizing store with
  | nil => rfl
  | cons op rest ih =>
      rw [Store.commit_cons, ih, Store.get_write, Batch.effect_cons]
      cases Batch.effect rest key <;> simp

def loads (entries : List ((key : K) × V key)) : Batch K V :=
  entries.map fun entry => .put entry.1 entry.2

theorem effect_loads_of_mem {entries : List ((key : K) × V key)} {key : K} {value : V key}
    (member : ⟨key, value⟩ ∈ entries)
    (unique : ∀ other : V key, ⟨key, other⟩ ∈ entries → other = value) :
    Batch.effect (loads entries) key = some (some value) := by
  induction entries with
  | nil => simp at member
  | cons entry rest ih =>
      rw [loads, List.map_cons, Batch.effect_cons]
      by_cases later : ⟨key, value⟩ ∈ rest
      · have tail := ih later fun other otherMember => unique other (List.mem_cons_of_mem _ otherMember)
        rw [← loads, tail]
        rfl
      · have silent : Batch.effect (loads rest) key = none := by
          rw [Batch.effect_eq_none_iff]
          intro op opMember sameKey
          obtain ⟨⟨other, stored⟩, storedMember, rfl⟩ := List.mem_map.mp opMember
          simp only [Op.key_put] at sameKey
          subst sameKey
          have same := unique stored (List.mem_cons_of_mem _ storedMember)
          exact later (same ▸ storedMember)
        rcases List.mem_cons.mp member with same | inRest
        · subst same
          rw [← loads, silent]
          simp
        · exact absurd inRest later

theorem effect_loads_of_absent {entries : List ((key : K) × V key)} {key : K}
    (absent : ∀ value : V key, ⟨key, value⟩ ∉ entries) :
    Batch.effect (loads entries) key = none := by
  rw [Batch.effect_eq_none_iff]
  intro op opMember sameKey
  obtain ⟨⟨other, stored⟩, storedMember, rfl⟩ := List.mem_map.mp opMember
  simp only [Op.key_put] at sameKey
  subst sameKey
  exact absent stored storedMember

/-- Loading the entries of a store puts its values in place of what was there. -/
theorem Store.get_commit_entries (target source : Store K V) (key : K) :
    (target.commit (loads source.entries)).get key = (source.get key).or (target.get key) := by
  rw [Store.get_commit]
  cases found : source.get key with
  | some value =>
      rw [effect_loads_of_mem (Store.mem_entries.mpr found)]
      · rfl
      · intro other member
        exact Option.some.inj ((Store.mem_entries.mp member).symm.trans found)
  | none =>
      rw [effect_loads_of_absent]
      · rfl
      · intro value member
        have stored := Store.mem_entries.mp member
        rw [found] at stored
        simp at stored

theorem Store.get_commit_delete_keys (store : Store K V) (key : K) :
    (store.commit (store.keys.map .delete)).get key = none := by
  rw [Store.get_commit]
  by_cases member : key ∈ store.keys
  · have general : ∀ keys : List K, key ∈ keys →
        Batch.effect (keys.map (Op.delete : K → Op K V)) key = some none := by
      intro keys inKeys
      induction keys with
      | nil => simp at inKeys
      | cons first rest ih =>
          rw [List.map_cons, Batch.effect_cons]
          by_cases later : key ∈ rest
          · rw [ih later]
            rfl
          · have same : key = first := (List.mem_cons.mp inKeys).resolve_right later
            subst same
            have silent : Batch.effect (rest.map (Op.delete : K → Op K V)) key = none := by
              rw [Batch.effect_eq_none_iff]
              intro op opMember sameKey
              obtain ⟨other, otherMember, rfl⟩ := List.mem_map.mp opMember
              exact later (sameKey ▸ otherMember)
            rw [silent]
            simp
    rw [general store.keys member]
    rfl
  · have empty : store.get key = none := by
      rw [← Option.not_isSome_iff_eq_none]
      exact fun found => member ((store.memKeys key).mpr found)
    have silent : Batch.effect (store.keys.map (Op.delete : K → Op K V)) key = none := by
      rw [Batch.effect_eq_none_iff]
      intro op opMember sameKey
      obtain ⟨other, otherMember, rfl⟩ := List.mem_map.mp opMember
      exact member (sameKey ▸ otherMember)
    rw [silent, empty]
    rfl

end Effects

section Chunks

variable {α : Type}

def chunk (full : List α → Bool) : List α → List α → List (List α)
  | [], pending => if pending.isEmpty then [] else [pending]
  | entry :: rest, pending =>
      if full (pending ++ [entry]) then (pending ++ [entry]) :: chunk full rest []
      else chunk full rest (pending ++ [entry])

def fullChunks (full : List α → Bool) : List α → List α → List (List α)
  | [], _ => []
  | entry :: rest, pending =>
      if full (pending ++ [entry]) then (pending ++ [entry]) :: fullChunks full rest []
      else fullChunks full rest (pending ++ [entry])

theorem fullChunks_prefix (full : List α → Bool) (entries others pending : List α) :
    fullChunks full entries pending <+: chunk full (entries ++ others) pending := by
  induction entries generalizing pending with
  | nil => exact List.nil_prefix
  | cons entry rest ih =>
      rw [fullChunks, List.cons_append, chunk]
      split
      · exact (List.prefix_cons_inj _).mpr (ih [])
      · exact ih _

theorem flatten_chunk (full : List α → Bool) (entries pending : List α) :
    (chunk full entries pending).flatten = pending ++ entries := by
  induction entries generalizing pending with
  | nil => cases pending <;> simp [chunk]
  | cons entry rest ih =>
      rw [chunk]
      split
      · simp [ih]
      · simp [ih]

theorem flatMap_map_chunk {β : Type} (full : List α → Bool) (entries : List α) (f : α → β) :
    ((chunk full entries []).flatMap fun pending => pending.map f) = entries.map f := by
  have flat := flatten_chunk full entries []
  rw [List.nil_append] at flat
  conv_rhs => rw [← flat, List.map_flatten]
  rw [List.flatMap_def]

theorem flatMap_flatMap_chunk {β : Type} (full : List α → Bool) (entries : List α)
    (f : α → List β) :
    ((chunk full entries []).flatMap fun pending => pending.flatMap f) = entries.flatMap f := by
  have flat := flatten_chunk full entries []
  rw [List.nil_append] at flat
  conv_rhs => rw [← flat, ← List.flatMap_id, List.flatMap_assoc]
  rfl

end Chunks

end Kv
