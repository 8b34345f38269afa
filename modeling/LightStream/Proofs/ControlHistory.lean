import LightStream.Proofs.ExportEnd

/-!
What a control group keeps over its history: exports follow one another under growing epochs, each
moves through its phases forward only and relies on the cuts that it recorded.
-/

namespace LightStream

/-- How the phase of an export can stand at a later moment: it relies on the cuts that were recorded
or on none, and what was released stays released. -/
structure PhaseLater (phase later : ActiveExportPhase) : Prop where
  cuts : ∀ laterCuts, later.recordedCuts = some laterCuts → ∃ cuts,
    phase.recordedCuts = some cuts ∧ ∀ (group : GroupId) (cut : GroupCut),
      cuts[group]? = some cut → laterCuts[group]? = some cut
  released : phase.releasedGroups ⊆ later.releasedGroups

theorem PhaseLater.refl (phase : ActiveExportPhase) : PhaseLater phase phase :=
  ⟨fun cuts recorded => ⟨cuts, recorded, fun _ _ found => found⟩, subset_rfl⟩

theorem PhaseLater.trans {phase later last : ActiveExportPhase} (first : PhaseLater phase later)
    (second : PhaseLater later last) : PhaseLater phase last := by
  refine ⟨?_, first.released.trans second.released⟩
  intro lastCuts recorded
  obtain ⟨laterCuts, before, kept⟩ := second.cuts lastCuts recorded
  obtain ⟨cuts, begun, held⟩ := first.cuts laterCuts before
  exact ⟨cuts, begun, fun group cut found => kept group cut (held group cut found)⟩

theorem recorded_insert {groups : Kv.TreeMap GroupId GroupCut} {group : GroupId}
    (missing : groups[group]? = none) (added : GroupCut) (other : GroupId) (cut : GroupCut)
    (found : groups[other]? = some cut) : (groups.insert group added)[other]? = some cut := by
  rw [Kv.TreeMap.get_insert]
  by_cases own : other = group
  · rw [own, missing] at found
    cases found
  · rw [if_neg own, found]

theorem PhaseMove.later {spec : ExportSpec} {command : ExportCommand}
    {phase later : ActiveExportPhase} (move : PhaseMove spec command phase later) :
    PhaseLater phase later := by
  cases move with
  | kept => exact .refl _
  | fenced controlCut fencedGroups observation held member isHeld own missing =>
      refine ⟨?_, subset_rfl⟩
      rintro laterCuts ⟨⟩
      exact ⟨fencedGroups, rfl, recorded_insert missing held.cut⟩
  | froze controlCut fencedGroups observation held member isHeld own missing cut complete =>
      refine ⟨?_, subset_rfl⟩
      rintro laterCuts ⟨⟩
      rw [complete]
      exact ⟨fencedGroups, rfl, recorded_insert missing held.cut⟩
  | materialized cut => exact ⟨(PhaseLater.refl (.frozen cut)).cuts, subset_rfl⟩
  | published cut artifact => exact ⟨(PhaseLater.refl (.frozen cut)).cuts, subset_rfl⟩
  | completed cut artifact =>
      refine ⟨?_, subset_rfl⟩
      rintro laterCuts ⟨⟩
  | aborted phase reversible reason =>
      constructor
      · rintro laterCuts ⟨⟩
      · cases phase with
        | releasing => cases reversible
        | aborting => cases reversible
        | _ => exact subset_rfl
  | released cut artifact releasedGroups observation =>
      refine ⟨?_, Finset.subset_insert _ _⟩
      rintro laterCuts ⟨⟩
  | dropped reason releasedGroups observation =>
      refine ⟨?_, Finset.subset_insert _ _⟩
      rintro laterCuts ⟨⟩

namespace GroupDb

variable {identity : GroupIdentity} {window : Nat} {content : PayloadId → Record}
  {Allowed : GroupDb → GroupEntry → Prop} {steps : List Step} {db next : GroupDb}
  {entry : GroupEntry} {result : ApplyResult}

/-- An active export is the earlier one, further on, or its epoch is above all earlier ones. -/
structure ExportsLater (earlier later : GroupDb) : Prop where
  epoch : (earlier.get .exportEpoch).getD 0 ≤ (later.get .exportEpoch).getD 0
  through : earlier.mutationFence.throughEpoch ≤ later.mutationFence.throughEpoch
  active : ∀ last, later.get .activeExport = some last →
    (earlier.get .exportEpoch).getD 0 < last.spec.epoch.value ∨
      ∃ active, earlier.get .activeExport = some active ∧ last.spec = active.spec ∧
        active.statusPhase.rank ≤ last.statusPhase.rank ∧ PhaseLater active.phase last.phase

theorem exportsLater_kept (active : next.get .activeExport = db.get .activeExport)
    (epoch : next.get .exportEpoch = db.get .exportEpoch)
    (through : db.mutationFence.throughEpoch = next.mutationFence.throughEpoch) :
    ExportsLater db next := by
  refine ⟨by rw [epoch], through.le, ?_⟩
  intro last found
  rw [active] at found
  exact .inr ⟨last, found, rfl, le_rfl, .refl _⟩

theorem ExportsLater.trans {last : GroupDb} (first : ExportsLater db next)
    (second : ExportsLater next last) : ExportsLater db last := by
  refine ⟨first.epoch.trans second.epoch, first.through.trans second.through, ?_⟩
  intro final found
  rcases second.active final found with above | ⟨middle, known, same, rank, later⟩
  · exact .inl (first.epoch.trans_lt above)
  rcases first.active middle known with above | ⟨active, begun, own, below, before⟩
  · rw [same]
    exact .inl above
  · exact .inr ⟨active, begun, same.trans own, below.trans rank, before.trans later⟩

theorem ControlMove.later (move : ControlMove db next entry) : ExportsLater db next := by
  cases move with
  | kept same epoch through => exact exportsLater_kept same epoch through
  | began idle spec cut started newer epoch through =>
      refine ⟨?_, through.le, ?_⟩
      · rw [epoch]
        exact newer.le
      · intro last found
        rw [started] at found
        cases found
        exact .inl newer
  | moved active moved command sent found stored same move epoch through =>
      refine ⟨by rw [epoch], through.le, ?_⟩
      intro last reached
      rw [stored] at reached
      cases reached
      refine .inr ⟨active, found, same, ?_, move.later⟩
      rcases move.forward with still | further
      · rw [still]
      · exact further.le
  | finished active found ready gone epoch through =>
      refine ⟨by rw [epoch], through, ?_⟩
      intro last reached
      rw [gone] at reached
      cases reached

/-- Over the history of a control group exports move forward: an export keeps its specification,
its phase never falls, a recorded cut never changes, and every further export has a newer epoch. -/
theorem exports_move_forward (control : identity.kind = .control)
    (traced : Traced identity window content Allowed steps db) :
    ∀ taken ∈ steps, ExportsLater taken.before db ∧ ExportsLater taken.after db := by
  refine traced.onward ?_ ?_ ?_
  · intro first second reads
    have fence := @mutationFence_of_get second first.view (congrFun reads _)
    exact exportsLater_kept (congrFun reads _) (congrFun reads _)
      (congrArg MutationFenceState.throughEpoch fence.symm)
  · intro first second third earlier later
    exact earlier.trans later
  · intro steps db next entry result traced done
    have kind : db.identity.kind = .control := by rw [traced.ran.settings.1, control]
    exact (applyEntry_controlMove kind (traced.ran.exportExclusive control) done).later

theorem exports_move_forward_sample : ∃ (steps : List Step) (db : GroupDb),
    (db.get .activeExport).map (fun active => active.spec.epoch.value) = some 2 ∧
    ∀ taken ∈ steps, ExportsLater taken.before db ∧ ExportsLater taken.after db := by
  have began : yields (freshControl.submitSteps
      (exportEntries (abortedExport ++ [.begin (sampleIntent 2) sampleDeadline]))) (fun done =>
        decide ((done.2.get .activeExport).map (fun active => active.spec.epoch.value) =
          some 2)) = true := by decide
  obtain ⟨done, submitted, began⟩ := yields_iff.mp began
  have traced : Traced freshControl.identity 2 (fun _ => []) (fun _ _ => True)
      ([] ++ done.1) done.2 :=
    Traced.submitSteps .created (create_usedBelow _ _) (by decide) (by decide)
      (fun _ _ => trivial) submitted
  exact ⟨done.1, done.2, of_decide_eq_true began, exports_move_forward rfl traced⟩

end GroupDb

end LightStream
