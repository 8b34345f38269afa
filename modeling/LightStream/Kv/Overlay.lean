import LightStream.Kv.Store

/-!
Caches over a store while a write batch is pending.  A cache is sound when a cached entry is
the value that the store will have once the batch is committed, and an entry that is not cached
has not been written by the batch.
-/

namespace Kv

variable {K ι α : Type} {V : K → Type} [DecidableEq K]

def pending (get : (key : K) → Option (V key)) (batch : Batch K V) (key : K) : Option (V key) :=
  (batch.effect key).getD (get key)

@[simp] theorem pending_nil (get : (key : K) → Option (V key)) : pending get [] = get := rfl

theorem pending_append (get : (key : K) → Option (V key)) (first second : Batch K V) :
    pending get (first ++ second) = pending (pending get first) second := by
  funext key
  rw [pending, pending, pending, Batch.effect_append]
  cases Batch.effect second key <;> rfl

theorem pending_of_untouched {get : (key : K) → Option (V key)} {batch : Batch K V} {key : K}
    (untouched : Batch.effect batch key = none) : pending get batch key = get key := by
  rw [pending, untouched]
  rfl

/-- How a cache reads a store: the key of an index, and what is made of the stored value. -/
structure Overlay (K : Type) (V : K → Type) (ι α : Type) where
  key : ι → K
  read : (index : ι) → Option (V (key index)) → α

namespace Overlay

def lookup (overlay : Overlay K V ι α) (get : (key : K) → Option (V key)) (cache : ι → Option α)
    (index : ι) : α :=
  (cache index).getD (overlay.read index (get (overlay.key index)))

def Sound (overlay : Overlay K V ι α) (get : (key : K) → Option (V key)) (batch : Batch K V)
    (cache : ι → Option α) : Prop :=
  ∀ index,
    (∀ value, cache index = some value →
      value = overlay.read index (pending get batch (overlay.key index))) ∧
    (cache index = none → batch.effect (overlay.key index) = none)

variable {overlay : Overlay K V ι α} {get : (key : K) → Option (V key)} {batch : Batch K V}
  {cache : ι → Option α}

theorem sound_empty : overlay.Sound get [] fun _ => none :=
  fun index => ⟨fun value cached => by simp at cached, fun _ => rfl⟩

theorem Sound.lookup_eq (sound : overlay.Sound get batch cache) (index : ι) :
    overlay.lookup get cache index =
      overlay.read index (pending get batch (overlay.key index)) := by
  unfold lookup
  cases cached : cache index with
  | some value => exact (sound index).1 value cached
  | none => rw [pending_of_untouched ((sound index).2 cached), Option.getD_none]

theorem Sound.append_of_untouched (sound : overlay.Sound get batch cache) {ops : Batch K V}
    (untouched : ∀ index, Batch.effect ops (overlay.key index) = none) :
    overlay.Sound get (batch ++ ops) cache := by
  intro index
  rw [pending_append, pending_of_untouched (untouched index), Batch.effect_append,
    untouched index, Option.none_or]
  exact sound index

variable [DecidableEq ι]

theorem Sound.fill (sound : overlay.Sound get batch cache) (index : ι) :
    overlay.Sound get batch
      (Function.update cache index (some (overlay.lookup get cache index))) := by
  intro other
  by_cases same : other = index
  · subst same
    rw [Function.update_self]
    refine ⟨fun value cached => ?_, fun impossible => by simp at impossible⟩
    rw [← Option.some.inj cached, sound.lookup_eq]
  · rw [Function.update_of_ne same]
    exact sound other

theorem Sound.append_write (sound : overlay.Sound get batch cache) {ops : Batch K V} (index : ι)
    (written : Option (V (overlay.key index)))
    (effect : Batch.effect ops (overlay.key index) = some written)
    (untouched : ∀ other, other ≠ index → Batch.effect ops (overlay.key other) = none) :
    overlay.Sound get (batch ++ ops)
      (Function.update cache index (some (overlay.read index written))) := by
  intro other
  by_cases same : other = index
  · subst same
    rw [Function.update_self, pending_append, pending, effect]
    refine ⟨fun value cached => ?_, fun impossible => by simp at impossible⟩
    rw [← Option.some.inj cached]
    rfl
  · rw [Function.update_of_ne same, pending_append, pending_of_untouched (untouched other same),
      Batch.effect_append, untouched other same, Option.none_or]
    exact sound other

end Overlay

end Kv
