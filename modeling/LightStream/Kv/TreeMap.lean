import Mathlib.Order.Compare
import Mathlib.Data.Finset.Card

/-!
Ordered maps with decidable equality: extensional tree maps over a linear order.  `collect`
builds one from values that carry their own key, the way `BTreeMap` collects an iterator.
-/

namespace Kv

instance lawfulEqOrd {K : Type} [LinearOrder K] : Std.LawfulEqOrd K where
  eq_of_compare := compare_eq_iff_eq.mp

abbrev TreeMap (K V : Type) [LinearOrder K] := Std.ExtTreeMap K V compare

namespace TreeMap

variable {K V : Type} [LinearOrder K]

instance [DecidableEq V] : DecidableEq (TreeMap K V) := fun first second =>
  decidable_of_iff (first.toList = second.toList) Std.ExtTreeMap.toList_inj

def values (map : TreeMap K V) : List V := map.toList.map Prod.snd

def collect (key : V → K) (values : List V) : TreeMap K V :=
  Std.ExtTreeMap.ofList (values.map fun value => (key value, value)) compare

def keySet (map : TreeMap K V) : Finset K := (map.toList.map Prod.fst).toFinset

def Keyed (key : V → K) (map : TreeMap K V) : Prop :=
  ∀ (index : K) (value : V), map[index]? = some value → key value = index

theorem mem_values {map : TreeMap K V} {value : V} :
    value ∈ values map ↔ ∃ index : K, map[index]? = some value := by
  simp only [values, List.mem_map, Prod.exists, exists_eq_right,
    Std.ExtTreeMap.mem_toList_iff_getElem?_eq_some]

theorem mem_keySet {map : TreeMap K V} {index : K} : index ∈ keySet map ↔ index ∈ map := by
  simp [keySet]

theorem mem_keySet_iff {map : TreeMap K V} {index : K} :
    index ∈ keySet map ↔ ∃ value, map[index]? = some value := by
  rw [mem_keySet, Std.ExtTreeMap.mem_iff_isSome_getElem?, Option.isSome_iff_exists]

theorem card_keySet (map : TreeMap K V) : (keySet map).card = map.size := by
  have distinct : (map.toList.map Prod.fst).Nodup := by
    rw [Std.ExtTreeMap.map_fst_toList_eq_keys]
    exact Std.ExtTreeMap.nodup_keys
  rw [keySet, List.toFinset_card_of_nodup distinct, List.length_map,
    Std.ExtTreeMap.length_toList]

theorem length_values (map : TreeMap K V) : (values map).length = map.size := by
  simp [values]

theorem get_insert (map : TreeMap K V) (index other : K) (value : V) :
    (map.insert index value)[other]? = if other = index then some value else map[other]? := by
  rw [Std.ExtTreeMap.getElem?_insert]
  by_cases same : other = index
  · subst same
    simp
  · have different : compare index other ≠ .eq := fun equal =>
      same (compare_eq_iff_eq.mp equal).symm
    simp [same, different]

theorem get_erase (map : TreeMap K V) (index other : K) :
    (map.erase index)[other]? = if other = index then none else map[other]? := by
  rw [Std.ExtTreeMap.getElem?_erase]
  by_cases same : other = index
  · subst same
    simp
  · have different : compare index other ≠ .eq := fun equal =>
      same (compare_eq_iff_eq.mp equal).symm
    simp [same, different]

theorem erase_insert {map : TreeMap K V} {index : K} {value : V} (absent : index ∉ map) :
    (map.insert index value).erase index = map := by
  refine Std.ExtTreeMap.ext_getElem? fun other => ?_
  rw [get_erase, get_insert]
  by_cases same : other = index
  · subst same
    simp [absent]
  · simp [same]

theorem erase_insert_comm {map : TreeMap K V} {index removed : K} {value : V}
    (different : index ≠ removed) :
    (map.insert index value).erase removed = (map.erase removed).insert index value := by
  refine Std.ExtTreeMap.ext_getElem? fun other => ?_
  rw [get_erase, get_insert, get_insert, get_erase]
  by_cases same : other = index
  · subst same
    simp [different]
  · simp [same]

theorem ofList_toList (map : TreeMap K V) : Std.ExtTreeMap.ofList map.toList compare = map := by
  refine Std.ExtTreeMap.ext_getElem? fun index => ?_
  cases stored : map[index]? with
  | some value =>
      have member : (index, value) ∈ map.toList :=
        Std.ExtTreeMap.mem_toList_iff_getElem?_eq_some.mpr stored
      refine Std.ExtTreeMap.getElem?_ofList_of_mem (compare_eq_iff_eq.mpr rfl) ?_ member
      exact Std.ExtTreeMap.distinct_keys_toList.imp fun different => by simpa using different
  | none =>
      refine Std.ExtTreeMap.getElem?_ofList_of_contains_eq_false ?_
      rw [Std.ExtTreeMap.map_fst_toList_eq_keys]
      have absent : index ∉ map := by
        rw [Std.ExtTreeMap.mem_iff_isSome_getElem?, stored]
        simp
      simpa using absent

theorem map_values {key : V → K} {map : TreeMap K V} (keyed : Keyed key map) :
    (values map).map key = map.keys := by
  rw [values, List.map_map, ← Std.ExtTreeMap.map_fst_toList_eq_keys]
  refine List.map_congr_left fun entry member => ?_
  exact keyed entry.1 entry.2 (Std.ExtTreeMap.mem_toList_iff_getElem?_eq_some.mp member)

theorem collect_values {key : V → K} {map : TreeMap K V} (keyed : Keyed key map) :
    collect key (values map) = map := by
  have entries : (values map).map (fun value => (key value, value)) = map.toList := by
    rw [values, List.map_map]
    conv_rhs => rw [← List.map_id map.toList]
    refine List.map_congr_left fun entry member => ?_
    have stored := Std.ExtTreeMap.mem_toList_iff_getElem?_eq_some.mp member
    exact Prod.ext (keyed entry.1 entry.2 stored) rfl
  rw [collect, entries, ofList_toList]

theorem collect_keyed (key : V → K) (values : List V) : Keyed key (collect key values) := by
  intro index value stored
  suffices general : ∀ (list : List V) (map : TreeMap K V), Keyed key map →
      Keyed key (Std.ExtTreeMap.insertMany map (list.map fun value => (key value, value))) by
    have empty : Keyed key (∅ : TreeMap K V) := by
      intro other found impossible
      simp at impossible
    have collected := general values ∅ empty
    rw [← Std.ExtTreeMap.ofList_eq_insertMany_empty] at collected
    exact collected index value stored
  intro list
  induction list with
  | nil =>
      intro map keyed
      simpa using keyed
  | cons head rest ih =>
      intro map keyed
      rw [List.map_cons, Std.ExtTreeMap.insertMany_cons]
      refine ih _ ?_
      intro other found lookup
      rw [get_insert] at lookup
      split at lookup
      · rename_i same
        rw [← Option.some.inj lookup, same]
      · exact keyed other found lookup

theorem insert_keyed {key : V → K} {map : TreeMap K V} (keyed : Keyed key map) (value : V) :
    Keyed key (map.insert (key value) value) := by
  intro index found lookup
  rw [get_insert] at lookup
  split at lookup
  · rename_i same
    rw [← Option.some.inj lookup, same]
  · exact keyed index found lookup

theorem erase_keyed {key : V → K} {map : TreeMap K V} (keyed : Keyed key map) (index : K) :
    Keyed key (map.erase index) := by
  intro other found lookup
  rw [get_erase] at lookup
  split at lookup
  · simp at lookup
  · exact keyed other found lookup

theorem toList_erase (map : TreeMap K V) (index : K) :
    (map.erase index).toList = map.toList.filter (fun entry => entry.1 ≠ index) := by
  have ordered (other : TreeMap K V) : other.toList.Pairwise fun first second =>
      first.1 < second.1 :=
    Std.ExtTreeMap.ordered_keys_toList.imp compare_lt_iff_lt.mp
  refine @List.Perm.eq_of_pairwise _ (fun first second => first.1 < second.1) _ _ ?_ (ordered _)
    ((ordered map).filter _) ?_
  · intro first second _ _ forward backward
    exact absurd backward (lt_asymm forward)
  · refine (List.perm_ext_iff_of_nodup ?_ ?_).mpr ?_
    · exact (ordered _).imp fun less same => by simp [same] at less
    · exact ((ordered map).filter _).imp fun less same => by simp [same] at less
    · rintro ⟨other, value⟩
      rw [Std.ExtTreeMap.mem_toList_iff_getElem?_eq_some, get_erase, List.mem_filter,
        Std.ExtTreeMap.mem_toList_iff_getElem?_eq_some]
      by_cases same : other = index <;> simp [same]

theorem values_erase_sublist (map : TreeMap K V) (index : K) :
    (values (map.erase index)).Sublist (values map) := by
  rw [values, toList_erase]
  exact (List.filter_sublist).map _

end TreeMap

end Kv
