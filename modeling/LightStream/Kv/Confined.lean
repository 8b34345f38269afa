import LightStream.Kv.Overlay

/-!
Keys with owners.  A batch is confined to some owners when every owned key that it writes is
theirs; the keys of all the others keep their values.
-/

namespace Kv

variable {K Owner : Type} {V : K → Type} {owner : K → Option Owner}

def Batch.Confined (owner : K → Option Owner) (owners : List Owner) (batch : Batch K V) : Prop :=
  ∀ op ∈ batch, ∀ name, owner op.key = some name → name ∈ owners

variable {owners : List Owner} {first second : Batch K V}

theorem Batch.confined_nil : Batch.Confined owner owners ([] : Batch K V) := by
  simp [Confined]

theorem Batch.confined_cons {op : Op K V} : Batch.Confined owner owners (op :: first) ↔
    (∀ name, owner op.key = some name → name ∈ owners) ∧ Batch.Confined owner owners first := by
  simp [Confined]

theorem Batch.confined_append : Batch.Confined owner owners (first ++ second) ↔
    Batch.Confined owner owners first ∧ Batch.Confined owner owners second := by
  simp only [Confined, List.mem_append, or_imp, forall_and]

theorem Batch.Confined.mono {more : List Owner} (confined : Batch.Confined owner owners first)
    (grows : ∀ name ∈ owners, name ∈ more) : Batch.Confined owner more first :=
  fun op member name owned => grows name (confined op member name owned)

theorem Batch.confined_of_unowned (unowned : ∀ op ∈ first, owner op.key = none) :
    Batch.Confined owner owners first := by
  intro op member name owned
  rw [unowned op member] at owned
  simp at owned

theorem Batch.Confined.pending [DecidableEq K] {get : (key : K) → Option (V key)} {key : K}
    {name : Owner} (confined : Batch.Confined owner owners first) (owned : owner key = some name)
    (other : name ∉ owners) : Kv.pending get first key = get key := by
  refine pending_of_untouched (Batch.effect_eq_none_iff.mpr ?_)
  intro op member same
  exact other (confined op member name (same ▸ owned))

end Kv
