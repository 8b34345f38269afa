import LightStream.Proofs.StreamRuns
import LightStream.Run.Reached

/-!
The catalog of a control group over a run: whatever entries are applied to an empty store, its
indexes agree, requests keep their streams, streams move forward only and every change of a
descriptor carries a revision above all earlier ones.
-/

namespace LightStream

def GroupDb.catalogStep (db : GroupDb) (entry : GroupEntry) : Option GroupDb :=
  match db.applyEntry entry with
  | .ok (_, next) => some next
  | .error _ => none

abbrev GroupDb.Applies (start db : GroupDb) : Prop :=
  Run.Reached GroupDb.catalogStep start (fun _ _ => True) db

namespace Catalog

theorem consistent_created (identity : GroupIdentity) (window : Nat) :
    (GroupDb.create identity window).view.catalog.Consistent := by
  have live : (GroupDb.create identity window).view.catalog.live = ∅ := by
    ext id
    constructor
    · rintro ⟨descriptor, stored, _⟩
      cases stored
    · exact False.elim
  constructor
  case named =>
    intro name id
    constructor
    · nofun
    · rintro ⟨descriptor, stored, _⟩
      cases stored
  case limited =>
    rw [live]
    exact ⟨Set.finite_empty, nofun⟩
  case bounded => exact Nat.zero_le _
  case unbooted => exact fun _ => ⟨rfl, rfl⟩
  all_goals nofun

end Catalog

namespace GroupDb

variable {identity : GroupIdentity} {window : Nat} {start earlier db next : GroupDb}
  {entry : GroupEntry}

theorem catalogStep_moves (stepped : db.catalogStep entry = some next) :
    db.view.catalog.Move next.view.catalog := by
  unfold catalogStep at stepped
  split at stepped
  · rename_i result after done
    cases stepped
    exact applyEntry_moves done
  · cases stepped

theorem Applies.consistent (run : start.Applies db) (begun : start.view.catalog.Consistent) :
    db.view.catalog.Consistent := by
  apply run.invariant begun
  intro before entry after consistent _ stepped
  exact consistent.moved (catalogStep_moves stepped)

theorem Applies.later (run : start.Applies db) (begun : start.view.catalog.Consistent) :
    start.view.catalog.Later db.view.catalog := by
  induction run with
  | start => exact Catalog.later_refl _
  | step run _ stepped ih =>
      exact ih.trans ((catalogStep_moves stepped).later (Applies.consistent run begun))

structure CatalogSound (earlier db : GroupDb) : Prop where
  consistent : db.view.catalog.Consistent
  /-- The streams that are not deleted, as a create counts them, are within the limit. -/
  limited : ∀ maximum, db.get .maxStreams = some maximum →
    (db.view.streams.filter fun descriptor => descriptor.lifecycle ≠ .deleted).length ≤ maximum
  later : earlier.view.catalog.Later db.view.catalog
  /-- A changed descriptor moves by one lifecycle at most, at a revision above all earlier ones. -/
  changes : ∀ entry next, db.catalogStep entry = some next → ∀ id descriptor,
    next.view.catalog.streams id = some descriptor →
    db.view.catalog.streams id ≠ some descriptor →
      db.view.catalog.Stores next.view.catalog id descriptor ∧
      (db.view.catalog.revision < u64Max →
        earlier.view.catalog.revision < descriptor.revision ∧
        ∀ other old, earlier.view.catalog.streams other = some old →
          old.revision < descriptor.revision)

/-- The catalog is consistent in every state of every run. -/
theorem catalog_consistent (begun : (GroupDb.create identity window).Applies earlier)
    (run : earlier.Applies db) : CatalogSound earlier db := by
  have started := begun.consistent (Catalog.consistent_created identity window)
  have consistent := run.consistent started
  have later := run.later started
  refine ⟨consistent, ?_, later, ?_⟩
  · intro maximum limit
    rw [db.counted]
    exact consistent.limited.2 maximum limit
  · intro entry next stepped id descriptor stored changed
    have stores := (catalogStep_moves stepped).stores consistent stored changed
    refine ⟨stores, fun below => ?_⟩
    have above := stores.above below
    refine ⟨later.revision.trans_lt above, ?_⟩
    intro other old known
    have bound := started.revised other old known
    exact (bound.trans later.revision).trans_lt above

end GroupDb

namespace StreamCluster

def sampleCreate : GroupEntry :=
  ⟨⟨1, 1, 2⟩, .normal (.createStreamIntent ⟨⟨7⟩, ⟨"audit"⟩, 1, Nat.one_ne_zero⟩ ⟨2⟩)⟩

def sampleReady : GroupEntry := ⟨⟨1, 1, 3⟩, .normal (.replicaReady ⟨2⟩ dataGroupId)⟩

def sampleActivate : GroupEntry := ⟨⟨1, 1, 4⟩, .normal (.activateStream ⟨2⟩)⟩

def sampleCatalog : List GroupEntry :=
  [⟨⟨1, 1, 1⟩, .normal (.bootstrapControl sampleSpec none none [dataGroupId] 2 1)⟩, sampleCreate,
    sampleReady, sampleActivate]

def streamState (db : GroupDb) (id : StreamId) : Option (StreamLifecycle × Nat) :=
  (db.view.catalog.streams id).map fun descriptor => (descriptor.lifecycle, descriptor.revision)

theorem sampleCatalog_run : ((Run.execute GroupDb.catalogStep (created ⟨1⟩ 2).origin
    sampleCatalog).bind fun db => streamState db ⟨2⟩) = some (.active, 4) := by
  decide +kernel

theorem catalog_consistent_sample : ∃ db : GroupDb, streamState db ⟨2⟩ = some (.active, 4) ∧
    GroupDb.CatalogSound (created ⟨1⟩ 2).origin db := by
  obtain ⟨db, done, active⟩ := Option.bind_eq_some_iff.mp sampleCatalog_run
  refine ⟨db, active, GroupDb.catalog_consistent .start ?_⟩
  exact Run.Reached.of_execute .start (Run.admissible_of_forall fun _ _ _ => trivial) done

end StreamCluster

end LightStream
