import LightStream.Storage.Catalog
import Mathlib.Data.Set.Card

/-!
The stream catalog as a whole: what its keys hold, the changes that catalog commands make to it, the
agreement of its indexes that they keep, and what never changes again.
-/

namespace LightStream

def StreamLifecycle.rank : StreamLifecycle → Nat
  | .preparing => 0
  | .active => 1
  | .deleting => 2
  | .deleted => 3

def StreamDescriptor.Live (descriptor : StreamDescriptor) : Prop :=
  descriptor.lifecycle ≠ .deleted

instance (descriptor : StreamDescriptor) : Decidable descriptor.Live :=
  inferInstanceAs (Decidable (descriptor.lifecycle ≠ .deleted))

def StreamDescriptor.placed (descriptor : StreamDescriptor) : List GroupId :=
  descriptor.placements.map PartitionPlacement.group

inductive StreamDescriptor.Moves (before : StreamDescriptor) (revision : Nat) :
    StreamDescriptor → Prop
  | ready (group : GroupId) (preparing : before.lifecycle = .preparing)
      (placed : group ∈ before.placed) :
      Moves before revision { before with
        readyGroups := (before.readyGroups ++ [group]).insertionSort (· ≤ ·), revision := revision }
  | activated (preparing : before.lifecycle = .preparing)
      (ready : before.placed.toFinset = before.readyGroups.toFinset) :
      Moves before revision { before with lifecycle := .active, revision := revision }
  | deleting (active : before.lifecycle = .active) :
      Moves before revision { before with lifecycle := .deleting, revision := revision }
  | deleted (deleting : before.lifecycle = .deleting) :
      Moves before revision { before with lifecycle := .deleted, revision := revision }

@[ext] structure Catalog where
  pool : Option (List GroupId)
  maxStreams : Option Nat
  revision : Nat
  streams : StreamId → Option StreamDescriptor
  names : StreamName → Option StreamId
  intents : CatalogRequestId → Option StoredCreateIntent

namespace Catalog

def live (catalog : Catalog) : Set StreamId :=
  { id | ∃ descriptor, catalog.streams id = some descriptor ∧ descriptor.Live }

structure Fresh (catalog : Catalog) (spec : CreateStreamSpec) (id : StreamId)
    (descriptor : StreamDescriptor) : Prop where
  intent : catalog.intents spec.requestId = none
  name : catalog.names spec.name = none
  stream : catalog.streams id = none
  pooled : catalog.pool ≠ none
  limit : ∃ maximum, catalog.maxStreams = some maximum ∧ catalog.live.ncard < maximum
  named : descriptor.stream = id ∧ descriptor.name = spec.name
  preparing : descriptor.lifecycle = .preparing ∧ descriptor.readyGroups = []
  revised : descriptor.revision = saturatingAdd catalog.revision 1

def booted (catalog : Catalog) (spec : BootstrapSpec) (group : GroupId) (groups : List GroupId)
    (maximum : Nat) : Catalog where
  pool := some groups
  maxStreams := some maximum
  revision := 1
  streams := Function.update catalog.streams spec.stream
    (some (GroupView.bootstrapDescriptor spec group))
  names := Function.update catalog.names spec.streamName (some spec.stream)
  intents := catalog.intents

def created (catalog : Catalog) (spec : CreateStreamSpec) (id : StreamId)
    (descriptor : StreamDescriptor) : Catalog where
  pool := catalog.pool
  maxStreams := catalog.maxStreams
  revision := saturatingAdd catalog.revision 1
  streams := Function.update catalog.streams id (some descriptor)
  names := Function.update catalog.names spec.name (some id)
  intents := Function.update catalog.intents spec.requestId (some ⟨spec, id⟩)

def changed (catalog : Catalog) (id : StreamId) (descriptor : StreamDescriptor) : Catalog where
  pool := catalog.pool
  maxStreams := catalog.maxStreams
  revision := saturatingAdd catalog.revision 1
  streams := Function.update catalog.streams id (some descriptor)
  names := if descriptor.Live then catalog.names
    else Function.update catalog.names descriptor.name none
  intents := catalog.intents

inductive Move (before : Catalog) : Catalog → Prop
  | idle : Move before before
  | pooled (groups : List GroupId) (empty : before.pool = none) :
      Move before { before with pool := some groups }
  | booted (spec : BootstrapSpec) (group : GroupId) (groups : List GroupId) (maximum : Nat)
      (empty : before.pool = none) (positive : 0 < maximum) :
      Move before (before.booted spec group groups maximum)
  | created (spec : CreateStreamSpec) (id : StreamId) (descriptor : StreamDescriptor)
      (fresh : before.Fresh spec id descriptor) : Move before (before.created spec id descriptor)
  | changed (id : StreamId) (stored descriptor : StreamDescriptor)
      (found : before.streams id = some stored)
      (moves : stored.Moves (saturatingAdd before.revision 1) descriptor) :
      Move before (before.changed id descriptor)

structure Consistent (catalog : Catalog) : Prop where
  /-- A name maps to the live stream of that name. -/
  named : ∀ name id, catalog.names name = some id ↔
    ∃ descriptor, catalog.streams id = some descriptor ∧ descriptor.name = name ∧ descriptor.Live
  /-- A create request maps to a stream of its name. -/
  intended : ∀ request intent, catalog.intents request = some intent →
    ∃ descriptor, catalog.streams intent.streamId = some descriptor ∧
      descriptor.name = intent.spec.name
  keyed : ∀ id descriptor, catalog.streams id = some descriptor → descriptor.stream = id
  /-- Ready groups are groups of the stream, and once it is active they are all of them. -/
  ready : ∀ id descriptor, catalog.streams id = some descriptor →
    descriptor.readyGroups ⊆ descriptor.placed ∧
      (descriptor.lifecycle ≠ .preparing → descriptor.placed ⊆ descriptor.readyGroups)
  revised : ∀ id descriptor, catalog.streams id = some descriptor →
    descriptor.revision ≤ catalog.revision
  limited : catalog.live.Finite ∧
    ∀ maximum, catalog.maxStreams = some maximum → catalog.live.ncard ≤ maximum
  bounded : catalog.revision ≤ u64Max
  /-- Before the first bootstrap there is nothing. -/
  unbooted : catalog.pool = none → catalog.revision = 0 ∧ catalog.streams = fun _ => none

/-- What never changes again: requests keep their streams, and streams only move forward. -/
structure Later (before after : Catalog) : Prop where
  intents : ∀ request intent, before.intents request = some intent →
    after.intents request = some intent
  streams : ∀ id descriptor, before.streams id = some descriptor →
    ∃ later, after.streams id = some later ∧ later.name = descriptor.name ∧
      later.placements = descriptor.placements ∧
      descriptor.lifecycle.rank ≤ later.lifecycle.rank ∧ descriptor.revision ≤ later.revision
  revision : before.revision ≤ after.revision

variable {catalog next last : Catalog}

/-! ### One command -/

section Moves

variable {before after : StreamDescriptor} {revision : Nat}

theorem moves_kept (moves : before.Moves revision after) :
    after.stream = before.stream ∧ after.name = before.name ∧
      after.placements = before.placements ∧ after.revision = revision := by
  cases moves <;> exact ⟨rfl, rfl, rfl, rfl⟩

theorem moves_rank (moves : before.Moves revision after) :
    after.lifecycle.rank = before.lifecycle.rank ∨
      after.lifecycle.rank = before.lifecycle.rank + 1 := by
  cases moves with
  | ready => exact .inl rfl
  | activated preparing => exact .inr (by rw [preparing]; rfl)
  | deleting active => exact .inr (by rw [active]; rfl)
  | deleted deleting => exact .inr (by rw [deleting]; rfl)

theorem moves_live (moves : before.Moves revision after) : before.Live := by
  intro deleted
  cases moves <;> simp_all

theorem moves_ready (moves : before.Moves revision after)
    (held : before.readyGroups ⊆ before.placed ∧
      (before.lifecycle ≠ .preparing → before.placed ⊆ before.readyGroups)) :
    after.readyGroups ⊆ after.placed ∧
      (after.lifecycle ≠ .preparing → after.placed ⊆ after.readyGroups) := by
  cases moves with
  | ready group preparing placed =>
      refine ⟨?_, fun other => absurd preparing other⟩
      intro other member
      rcases List.mem_append.mp ((List.mem_insertionSort (· ≤ ·)).mp member) with old | new
      · exact held.1 old
      · rw [List.mem_singleton.mp new]
        exact placed
  | activated preparing ready =>
      refine ⟨held.1, fun _ group member => ?_⟩
      have both := List.mem_toFinset.mpr member
      change group ∈ before.placed.toFinset at both
      rw [ready] at both
      exact List.mem_toFinset.mp both
  | deleting active => exact ⟨held.1, fun _ => held.2 (by simp [active])⟩
  | deleted deleting => exact ⟨held.1, fun _ => held.2 (by simp [deleting])⟩

end Moves

theorem update_some {Key Value : Type} [DecidableEq Key] {stored : Key → Option Value}
    {key other : Key} {value found : Value} :
    Function.update stored key (some value) other = some found ↔
      other = key ∧ value = found ∨ other ≠ key ∧ stored other = some found := by
  by_cases same : other = key
  · simp [same]
  · simp [same]

theorem update_none {Key Value : Type} [DecidableEq Key] {stored : Key → Option Value}
    {key other : Key} {found : Value} : Function.update stored key none other = some found ↔
      other ≠ key ∧ stored other = some found := by
  by_cases same : other = key
  · subst same
    simp
  · simp [same]

theorem le_saturatingAdd {value : Nat} (bounded : value ≤ u64Max) (more : Nat) :
    value ≤ saturatingAdd value more :=
  le_min (Nat.le_add_right value more) bounded

theorem Consistent.booted (consistent : catalog.Consistent) (empty : catalog.pool = none)
    (spec : BootstrapSpec) (group : GroupId) (groups : List GroupId) {maximum : Nat}
    (positive : 0 < maximum) : (catalog.booted spec group groups maximum).Consistent := by
  have none (id : StreamId) : catalog.streams id = none := by rw [(consistent.unbooted empty).2]
  have nameless (name : StreamName) : catalog.names name = Option.none := by
    rw [Option.eq_none_iff_forall_not_mem]
    intro id named
    obtain ⟨descriptor, stored, _⟩ := (consistent.named name id).mp named
    rw [none] at stored
    cases stored
  have only {id : StreamId} {descriptor : StreamDescriptor}
      (stored : (catalog.booted spec group groups maximum).streams id = some descriptor) :
      id = spec.stream ∧ GroupView.bootstrapDescriptor spec group = descriptor := by
    rcases update_some.mp stored with here | ⟨_, there⟩
    · exact here
    · rw [none] at there
      cases there
  have live : (catalog.booted spec group groups maximum).live = {spec.stream} := by
    ext id
    constructor
    · rintro ⟨descriptor, stored, _⟩
      exact (only stored).1
    · rintro rfl
      exact ⟨_, Function.update_self .., nofun⟩
  constructor
  case named =>
    intro name id
    refine update_some.trans ?_
    constructor
    · rintro (⟨rfl, rfl⟩ | ⟨_, named⟩)
      · exact ⟨_, Function.update_self .., rfl, nofun⟩
      · rw [nameless] at named
        cases named
    · rintro ⟨descriptor, stored, rfl, _⟩
      obtain ⟨rfl, rfl⟩ := only stored
      exact .inl ⟨rfl, rfl⟩
  case intended =>
    intro request intent stored
    obtain ⟨descriptor, found, _⟩ := consistent.intended request intent stored
    rw [none] at found
    cases found
  case keyed =>
    intro id descriptor stored
    obtain ⟨rfl, rfl⟩ := only stored
    rfl
  case ready =>
    intro id descriptor stored
    obtain ⟨rfl, rfl⟩ := only stored
    exact ⟨List.Subset.refl _, fun _ => List.Subset.refl _⟩
  case revised =>
    intro id descriptor stored
    obtain ⟨rfl, rfl⟩ := only stored
    exact le_rfl
  case limited =>
    rw [live]
    refine ⟨Set.finite_singleton _, ?_⟩
    rintro _ ⟨⟩
    rw [Set.ncard_singleton]
    exact positive
  case bounded => exact show 1 ≤ u64Max by decide
  case unbooted => nofun

theorem Consistent.created (consistent : catalog.Consistent) {spec : CreateStreamSpec}
    {id : StreamId} {descriptor : StreamDescriptor} (fresh : catalog.Fresh spec id descriptor) :
    (catalog.created spec id descriptor).Consistent := by
  have alive : descriptor.Live := by
    intro deleted
    rw [fresh.preparing.1] at deleted
    cases deleted
  have other {found : StreamId} {stored : StreamDescriptor}
      (known : catalog.streams found = some stored) : found ≠ id := by
    rintro rfl
    rw [fresh.stream] at known
    cases known
  have live : (catalog.created spec id descriptor).live = insert id catalog.live := by
    ext found
    constructor
    · rintro ⟨stored, known, lives⟩
      rcases update_some.mp known with ⟨rfl, _⟩ | ⟨_, known⟩
      · exact Set.mem_insert _ _
      · exact Set.mem_insert_of_mem _ ⟨stored, known, lives⟩
    · rintro (rfl | ⟨stored, known, lives⟩)
      · exact ⟨descriptor, Function.update_self .., alive⟩
      · exact ⟨stored, update_some.mpr (.inr ⟨other known, known⟩), lives⟩
  constructor
  case named =>
    intro name found
    refine update_some.trans ?_
    constructor
    · rintro (⟨rfl, rfl⟩ | ⟨_, named⟩)
      · exact ⟨descriptor, Function.update_self .., fresh.named.2, alive⟩
      · obtain ⟨stored, known, same, lives⟩ := (consistent.named name found).mp named
        exact ⟨stored, update_some.mpr (.inr ⟨other known, known⟩), same, lives⟩
    · rintro ⟨stored, known, same, lives⟩
      rcases update_some.mp known with ⟨rfl, rfl⟩ | ⟨_, known⟩
      · exact .inl ⟨same.symm.trans fresh.named.2, rfl⟩
      · have named := (consistent.named name found).mpr ⟨stored, known, same, lives⟩
        refine .inr ⟨?_, named⟩
        rintro rfl
        rw [fresh.name] at named
        cases named
  case intended =>
    intro request intent stored
    rcases update_some.mp stored with ⟨rfl, rfl⟩ | ⟨_, stored⟩
    · exact ⟨descriptor, Function.update_self .., fresh.named.2⟩
    · obtain ⟨before, known, same⟩ := consistent.intended request intent stored
      exact ⟨before, update_some.mpr (.inr ⟨other known, known⟩), same⟩
  case keyed =>
    intro found stored known
    rcases update_some.mp known with ⟨rfl, rfl⟩ | ⟨_, known⟩
    · exact fresh.named.1
    · exact consistent.keyed found stored known
  case ready =>
    intro found stored known
    rcases update_some.mp known with ⟨rfl, rfl⟩ | ⟨_, known⟩
    · rw [fresh.preparing.2]
      exact ⟨List.nil_subset _, fun later => absurd fresh.preparing.1 later⟩
    · exact consistent.ready found stored known
  case revised =>
    intro found stored known
    rcases update_some.mp known with ⟨rfl, rfl⟩ | ⟨_, known⟩
    · exact fresh.revised.le
    · exact (consistent.revised found stored known).trans (le_saturatingAdd consistent.bounded 1)
  case limited =>
    obtain ⟨maximum, limit, below⟩ := fresh.limit
    rw [live]
    refine ⟨consistent.limited.1.insert id, ?_⟩
    intro bound held
    rw [show (catalog.created spec id descriptor).maxStreams = catalog.maxStreams from rfl,
      limit] at held
    cases held
    have added := Set.ncard_insert_le id catalog.live
    omega
  case bounded => exact min_le_right _ _
  case unbooted => exact fun empty => absurd empty fresh.pooled

theorem Consistent.changed (consistent : catalog.Consistent) {id : StreamId}
    {stored descriptor : StreamDescriptor} (found : catalog.streams id = some stored)
    (moves : stored.Moves (saturatingAdd catalog.revision 1) descriptor) :
    (catalog.changed id descriptor).Consistent := by
  have kept := moves_kept moves
  have lived := moves_live moves
  have streams {other : StreamId} {after : StreamDescriptor} :
      (catalog.changed id descriptor).streams other = some after ↔
        other = id ∧ descriptor = after ∨ other ≠ id ∧ catalog.streams other = some after :=
    update_some
  have live : (catalog.changed id descriptor).live ⊆ catalog.live := by
    rintro other ⟨after, known, lives⟩
    rcases update_some.mp known with ⟨rfl, _⟩ | ⟨_, known⟩
    · exact ⟨stored, found, lived⟩
    · exact ⟨after, known, lives⟩
  constructor
  case named =>
    intro name other
    have before := consistent.named name other
    by_cases lives : descriptor.Live
    · rw [show (catalog.changed id descriptor).names = catalog.names from if_pos lives, before]
      constructor
      · rintro ⟨after, known, rfl, alive⟩
        by_cases same : other = id
        · subst same
          rw [found] at known
          cases known
          exact ⟨descriptor, streams.mpr (.inl ⟨rfl, rfl⟩), kept.2.1, lives⟩
        · exact ⟨after, streams.mpr (.inr ⟨same, known⟩), rfl, alive⟩
      · rintro ⟨after, known, rfl, alive⟩
        rcases streams.mp known with ⟨rfl, rfl⟩ | ⟨_, known⟩
        · exact ⟨stored, found, kept.2.1.symm, lived⟩
        · exact ⟨after, known, rfl, alive⟩
    · have own := (consistent.named stored.name id).mpr ⟨stored, found, rfl, lived⟩
      rw [show (catalog.changed id descriptor).names =
        Function.update catalog.names descriptor.name none from if_neg lives, update_none, before]
      constructor
      · rintro ⟨different, after, known, rfl, alive⟩
        refine ⟨after, streams.mpr (.inr ⟨?_, known⟩), rfl, alive⟩
        rintro rfl
        rw [found] at known
        cases known
        exact different kept.2.1.symm
      · rintro ⟨after, known, rfl, alive⟩
        rcases streams.mp known with ⟨_, rfl⟩ | ⟨apart, known⟩
        · exact absurd alive lives
        refine ⟨?_, after, known, rfl, alive⟩
        intro same
        have taken := (consistent.named after.name other).mpr ⟨after, known, rfl, alive⟩
        rw [same, kept.2.1, own] at taken
        exact apart (Option.some.inj taken).symm
  case intended =>
    intro request intent held
    obtain ⟨before, known, same⟩ := consistent.intended request intent held
    by_cases here : intent.streamId = id
    · rw [here, found] at known
      cases known
      exact ⟨descriptor, update_some.mpr (.inl ⟨here, rfl⟩), kept.2.1.trans same⟩
    · exact ⟨before, update_some.mpr (.inr ⟨here, known⟩), same⟩
  case keyed =>
    intro other after known
    rcases update_some.mp known with ⟨rfl, rfl⟩ | ⟨_, known⟩
    · exact kept.1.trans (consistent.keyed _ stored found)
    · exact consistent.keyed other after known
  case ready =>
    intro other after known
    rcases update_some.mp known with ⟨rfl, rfl⟩ | ⟨_, known⟩
    · exact moves_ready moves (consistent.ready _ stored found)
    · exact consistent.ready other after known
  case revised =>
    intro other after known
    rcases update_some.mp known with ⟨rfl, rfl⟩ | ⟨_, known⟩
    · exact kept.2.2.2.le
    · exact (consistent.revised other after known).trans (le_saturatingAdd consistent.bounded 1)
  case limited =>
    refine ⟨consistent.limited.1.subset live, ?_⟩
    intro maximum limit
    exact (Set.ncard_le_ncard live consistent.limited.1).trans (consistent.limited.2 maximum limit)
  case bounded => exact min_le_right _ _
  case unbooted =>
    intro empty
    have nothing := (consistent.unbooted empty).2
    rw [nothing] at found
    cases found

theorem Consistent.moved (consistent : catalog.Consistent) (move : catalog.Move next) :
    next.Consistent := by
  cases move with
  | idle => exact consistent
  | pooled groups empty =>
      exact { consistent with unbooted := nofun }
  | booted spec group groups maximum empty positive =>
      exact consistent.booted empty spec group groups positive
  | created spec id descriptor fresh => exact consistent.created fresh
  | changed id stored descriptor found moves => exact consistent.changed found moves

/-! ### Over a run -/

theorem later_refl (catalog : Catalog) : catalog.Later catalog :=
  ⟨fun _ _ held => held, fun _ descriptor stored => ⟨descriptor, stored, rfl, rfl, le_rfl, le_rfl⟩,
    le_rfl⟩

theorem Later.trans (first : catalog.Later next) (second : next.Later last) :
    catalog.Later last := by
  refine ⟨?_, ?_, first.revision.trans second.revision⟩
  · intro request intent held
    exact second.intents request intent (first.intents request intent held)
  · intro id descriptor stored
    obtain ⟨middle, known, name, placements, rank, revision⟩ := first.streams id descriptor stored
    obtain ⟨final, found, laterName, laterPlacements, laterRank, laterRevision⟩ :=
      second.streams id middle known
    exact ⟨final, found, laterName.trans name, laterPlacements.trans placements,
      rank.trans laterRank, revision.trans laterRevision⟩

theorem Move.later (move : catalog.Move next) (consistent : catalog.Consistent) :
    catalog.Later next := by
  have more := le_saturatingAdd consistent.bounded 1
  cases move with
  | idle => exact later_refl catalog
  | pooled groups empty =>
      exact ⟨(later_refl catalog).intents, (later_refl catalog).streams, le_rfl⟩
  | booted spec group groups maximum empty positive =>
      obtain ⟨revision, streams⟩ := consistent.unbooted empty
      refine ⟨fun _ _ held => held, ?_, revision.le.trans (Nat.zero_le 1)⟩
      intro id descriptor stored
      rw [streams] at stored
      cases stored
  | created spec id descriptor fresh =>
      refine ⟨?_, ?_, more⟩
      · intro request intent held
        refine update_some.mpr (.inr ⟨?_, held⟩)
        rintro rfl
        rw [fresh.intent] at held
        cases held
      · intro other stored known
        refine ⟨stored, update_some.mpr (.inr ⟨?_, known⟩), rfl, rfl, le_rfl, le_rfl⟩
        rintro rfl
        rw [fresh.stream] at known
        cases known
  | changed id stored descriptor found moves =>
      obtain ⟨_, name, placements, revision⟩ := moves_kept moves
      refine ⟨fun _ _ held => held, ?_, more⟩
      intro other before known
      by_cases same : other = id
      · subst same
        rw [found] at known
        cases known
        refine ⟨descriptor, update_some.mpr (.inl ⟨rfl, rfl⟩), name, placements, ?_, ?_⟩
        · rcases moves_rank moves with same | next <;> omega
        · rw [revision]
          exact (consistent.revised _ _ found).trans more
      · exact ⟨before, update_some.mpr (.inr ⟨same, known⟩), rfl, rfl, le_rfl, le_rfl⟩

/-- A command that stores a descriptor: the stream is new, or it stays in its lifecycle or enters
the next one; and the descriptor carries a revision above every earlier one. -/
structure Stores (catalog next : Catalog) (id : StreamId) (descriptor : StreamDescriptor) : Prop where
  steps : ∀ before, catalog.streams id = some before →
    descriptor.lifecycle.rank = before.lifecycle.rank ∨
      descriptor.lifecycle.rank = before.lifecycle.rank + 1
  revised : descriptor.revision = next.revision
  above : catalog.revision < u64Max → catalog.revision < descriptor.revision

theorem Move.stores (move : catalog.Move next) (consistent : catalog.Consistent) {id : StreamId}
    {descriptor : StreamDescriptor} (stored : next.streams id = some descriptor)
    (changed : catalog.streams id ≠ some descriptor) : catalog.Stores next id descriptor := by
  have above : catalog.revision < u64Max → catalog.revision < saturatingAdd catalog.revision 1 :=
    fun below => lt_min (Nat.lt_succ_self _) below
  cases move with
  | idle => exact absurd stored changed
  | pooled groups empty => exact absurd stored changed
  | booted spec group groups maximum empty positive =>
      obtain ⟨revision, streams⟩ := consistent.unbooted empty
      rcases update_some.mp stored with ⟨rfl, rfl⟩ | ⟨_, stored⟩
      · refine ⟨?_, rfl, ?_⟩
        · intro before known
          rw [streams] at known
          cases known
        · intro _
          rw [revision]
          exact Nat.one_pos
      · exact absurd stored changed
  | created spec id descriptor fresh =>
      rcases update_some.mp stored with ⟨rfl, rfl⟩ | ⟨_, stored⟩
      · refine ⟨?_, fresh.revised, ?_⟩
        · intro before known
          rw [fresh.stream] at known
          cases known
        · rw [fresh.revised]
          exact above
      · exact absurd stored changed
  | changed id before descriptor found moves =>
      rcases update_some.mp stored with ⟨rfl, rfl⟩ | ⟨_, stored⟩
      · have revision := (moves_kept moves).2.2.2
        refine ⟨?_, revision, ?_⟩
        · intro other known
          rw [found] at known
          cases known
          exact moves_rank moves
        · rw [revision]
          exact above
      · exact absurd stored changed

end Catalog

end LightStream
