import LightStream.Core.ExportWire
import LightStream.Proofs.ExportTicks
import LightStream.Retry.Absorb

/-!
An active export under any sequence of its operations: which observations it takes as evidence of
a fence, that the order of observations does not matter, and what is never replaced.
-/

namespace LightStream

open Kv (TreeMap)

namespace ActiveExportPhase

def quiescentCut : ActiveExportPhase → Option QuiescentCut
  | .frozen cut => some cut
  | .materializing cut => some cut
  | .available cut _ => some cut
  | .releasing cut _ _ => some cut
  | .preparing _ _ => none
  | .aborting _ _ => none

def artifact : ActiveExportPhase → Option ArtifactIdentity
  | .available _ artifact => some artifact
  | .releasing _ artifact _ => some artifact
  | _ => none

def abortReason : ActiveExportPhase → Option ExportAbortReason
  | .aborting reason _ => some reason
  | _ => none

def withRelease (group : GroupId) : ActiveExportPhase → ActiveExportPhase
  | .releasing cut artifact releasedGroups => .releasing cut artifact (insert group releasedGroups)
  | .aborting reason releasedGroups => .aborting reason (insert group releasedGroups)
  | phase => phase

theorem withRelease_again (group : GroupId) (phase : ActiveExportPhase) :
    (phase.withRelease group).withRelease group = phase.withRelease group := by
  cases phase <;> simp [withRelease]

theorem withRelease_swap (first second : GroupId) (phase : ActiveExportPhase) :
    (phase.withRelease first).withRelease second =
      (phase.withRelease second).withRelease first := by
  cases phase <;> simp [withRelease, Finset.insert_comm]

@[simp] theorem withRelease_ends (group : GroupId) (phase : ActiveExportPhase) :
    (phase.withRelease group).ends = phase.ends := by
  cases phase <;> rfl

/-- What an export has settled: it is never replaced, but an abort drops a cut and an artifact. -/
structure Keeps (phase next : ActiveExportPhase) : Prop where
  cut : ∀ cut, phase.quiescentCut = some cut →
    next.quiescentCut = some cut ∨ next.abortReason ≠ none
  artifact : ∀ artifact, phase.artifact = some artifact →
    next.artifact = some artifact ∨ next.abortReason ≠ none
  reason : ∀ reason, phase.abortReason = some reason → next.abortReason = some reason

theorem Keeps.refl (phase : ActiveExportPhase) : phase.Keeps phase :=
  ⟨fun _ found => .inl found, fun _ found => .inl found, fun _ found => found⟩

theorem Keeps.aborted {phase next : ActiveExportPhase} (keeps : phase.Keeps next)
    (aborted : phase.abortReason ≠ none) : next.abortReason ≠ none := by
  obtain ⟨reason, found⟩ := Option.ne_none_iff_exists'.mp aborted
  rw [keeps.reason reason found]
  simp

theorem Keeps.trans {first second third : ActiveExportPhase} (early : first.Keeps second)
    (late : second.Keeps third) : first.Keeps third := by
  refine ⟨?_, ?_, ?_⟩
  · intro cut found
    rcases early.cut cut found with kept | aborted
    · exact late.cut cut kept
    · exact .inr (late.aborted aborted)
  · intro artifact found
    rcases early.artifact artifact found with kept | aborted
    · exact late.artifact artifact kept
    · exact .inr (late.aborted aborted)
  · intro reason found
    exact late.reason reason (early.reason reason found)

end ActiveExportPhase

theorem PhaseMove.keeps {spec : ExportSpec} {command : ExportCommand}
    {phase next : ActiveExportPhase} (move : PhaseMove spec command phase next) :
    phase.Keeps next := by
  cases move with
  | kept => exact .refl _
  | aborted _ reversible =>
      refine ⟨fun _ _ => .inr nofun, fun _ _ => .inr nofun, ?_⟩
      intro reason found
      cases phase with
      | aborting => simp [ActiveExportPhase.ends] at reversible
      | _ => simp [ActiveExportPhase.abortReason] at found
  | _ =>
      refine ⟨?_, ?_, ?_⟩ <;>
        simp [ActiveExportPhase.quiescentCut, ActiveExportPhase.artifact,
          ActiveExportPhase.abortReason]

theorem QuiescentCut.eq_of_data {first second : QuiescentCut}
    (control : first.control = second.control)
    (data : ∀ group : GroupId, first.data[group]? = second.data[group]?) : first = second := by
  obtain ⟨firstControl, firstData, firstKeyed⟩ := first
  obtain ⟨secondControl, secondData, secondKeyed⟩ := second
  have same : firstData = secondData := Std.ExtTreeMap.ext_getElem? data
  cases control
  cases same
  rfl

namespace ActiveExport

variable {active next : ActiveExport} {observation : ExportFenceObservation}

theorem eq_of_phase (spec : active.spec = next.spec) (phase : active.phase = next.phase) :
    active = next := by
  cases active
  cases next
  cases spec
  cases phase
  rfl

theorem cut_eq (active : ActiveExport) : active.cut = active.phase.quiescentCut := by
  unfold cut ActiveExportPhase.quiescentCut
  split <;> simp_all

/-! ### Operations -/

inductive Operation where
  | recordFence (observation : ExportFenceObservation)
  | beginMaterialization
  | publishArtifact (artifact : ArtifactIdentity) (cut : QuiescentCut)
  | requestCompletion (artifact : ArtifactIdentity)
  | requestAbort (reason : ExportAbortReason)
  | recordRelease (observation : ExportFenceObservation)
deriving DecidableEq

def apply (active : ActiveExport) : Operation → Except DomainError ActiveExport
  | .recordFence observation => active.recordFence observation
  | .beginMaterialization => active.beginMaterialization
  | .publishArtifact artifact cut => active.publishArtifact artifact cut
  | .requestCompletion artifact => active.requestCompletion artifact
  | .requestAbort reason => active.requestAbort reason
  | .recordRelease observation => active.recordRelease observation

def perform (active : ActiveExport) (operation : Operation) : ActiveExport :=
  match active.apply operation with
  | .ok next => next
  | .error _ => active

def run (active : ActiveExport) (operations : List Operation) : ActiveExport :=
  operations.foldl perform active

@[simp] theorem run_cons (active : ActiveExport) (operation : Operation)
    (rest : List Operation) : active.run (operation :: rest) = (active.perform operation).run rest :=
  rfl

theorem run_append (active : ActiveExport) (first second : List Operation) :
    active.run (first ++ second) = (active.run first).run second :=
  List.foldl_append

theorem apply_spec {operation : Operation} (done : active.apply operation = .ok next) :
    next.spec = active.spec := by
  cases operation with
  | recordFence observation => exact recordFence_spec done
  | beginMaterialization => exact beginMaterialization_spec done
  | publishArtifact artifact cut => exact publishArtifact_spec done
  | requestCompletion artifact => exact requestCompletion_spec done
  | requestAbort reason => exact requestAbort_spec done
  | recordRelease observation => exact recordRelease_spec done

theorem apply_keeps {operation : Operation} (done : active.apply operation = .ok next) :
    active.phase.Keeps next.phase := by
  cases operation with
  | recordFence observation => exact (recordFence_move done).keeps
  | beginMaterialization => exact (beginMaterialization_move done).keeps
  | publishArtifact artifact cut => exact (publishArtifact_move done).keeps
  | requestCompletion artifact =>
      exact (@requestCompletion_move _ _ _ active.spec.intent.request
        active.spec.intent.exportId done).keeps
  | requestAbort reason =>
      exact (@requestAbort_move _ _ _ active.spec.intent.request active.spec.deadline done).keeps
  | recordRelease observation => exact (recordRelease_move done).keeps

theorem perform_spec (active : ActiveExport) (operation : Operation) :
    (active.perform operation).spec = active.spec := by
  unfold perform
  split
  · rename_i next done
    exact apply_spec done
  · rfl

theorem perform_keeps (active : ActiveExport) (operation : Operation) :
    active.phase.Keeps (active.perform operation).phase := by
  unfold perform
  split
  · rename_i next done
    exact apply_keeps done
  · exact .refl _

theorem run_spec (active : ActiveExport) (operations : List Operation) :
    (active.run operations).spec = active.spec := by
  induction operations generalizing active with
  | nil => rfl
  | cons operation rest ih => rw [run_cons, ih, perform_spec]

theorem run_keeps (active : ActiveExport) (operations : List Operation) :
    active.phase.Keeps (active.run operations).phase := by
  induction operations generalizing active with
  | nil => exact .refl _
  | cons operation rest ih => exact (perform_keeps active operation).trans (ih _)

/-! ### Evidence of a fence -/

structure OwnEvidence (spec : ExportSpec) (observation : ExportFenceObservation) : Prop where
  member : observation.group ∈ spec.configuredDataGroups
  held : ∃ held, observation.held = some held ∧ held.token = spec.token

/-- Once the cut is known only cuts are compared: a group outside the export that holds nothing
looks like a group without a cut, and the same cut may be held for another token. -/
def ForeignEvidence (active : ActiveExport) (observation : ExportFenceObservation) : Prop :=
  ∃ cut, active.cut = some cut ∧
    (observation.group ∉ active.spec.configuredDataGroups ∧ observation.held = none ∨
      ∃ held, observation.held = some held ∧ held.token ≠ active.spec.token ∧
        cut.data[observation.group]? = some held.cut)

theorem cut_groups {cut : QuiescentCut} (known : active.cut = some cut) :
    TreeMap.keySet cut.data = active.spec.configuredDataGroups := by
  have valid := active.valid
  rw [cut_eq] at known
  cases phase : active.phase with
  | preparing => simp [phase, ActiveExportPhase.quiescentCut] at known
  | aborting => simp [phase, ActiveExportPhase.quiescentCut] at known
  | releasing =>
      rw [phase] at valid known
      cases known
      exact valid.1
  | _ =>
      rw [phase] at valid known
      cases known
      exact valid

theorem recordFence_known {cut : QuiescentCut} (known : active.cut = some cut) :
    active.recordFence observation =
      if cut.data[observation.group]? = observation.held.map HeldExportFence.cut then .ok active
      else .error .exportConflict := by
  obtain ⟨spec, phase, valid⟩ := active
  cases phase with
  | preparing => simp [ActiveExport.cut] at known
  | aborting => simp [ActiveExport.cut] at known
  | _ =>
      cases known
      rfl

theorem recordFence_aborting {reason : ExportAbortReason} {releasedGroups : Finset GroupId}
    (phase : active.phase = .aborting reason releasedGroups) :
    active.recordFence observation = .error .exportConflict := by
  obtain ⟨spec, current, valid⟩ := active
  cases phase
  rfl

theorem recordFence_own {controlCut : GroupCut} {fencedGroups : TreeMap GroupId GroupCut}
    (phase : active.phase = .preparing controlCut fencedGroups)
    (done : active.recordFence observation = .ok next) : OwnEvidence active.spec observation := by
  obtain ⟨spec, current, valid⟩ := active
  cases phase
  unfold recordFence at done
  dsimp only at done
  split at done
  · simp at done
  rename_i inside
  split at done
  · simp at done
  rename_i held found
  obtain ⟨isHeld, own⟩ := Option.filter_eq_some_iff.mp found
  exact ⟨not_not.mp inside, held, isHeld, by simpa using own⟩

theorem recordFence_known_own {cut : QuiescentCut} (known : active.cut = some cut)
    (done : active.recordFence observation = .ok next)
    (familiar : ¬active.ForeignEvidence observation) : OwnEvidence active.spec observation := by
  rw [recordFence_known known] at done
  split at done
  · rename_i same
    by_cases member : observation.group ∈ active.spec.configuredDataGroups
    · rw [← cut_groups known, TreeMap.mem_keySet_iff] at member
      obtain ⟨stored, found⟩ := member
      rw [found] at same
      obtain ⟨held, isHeld, taken⟩ := Option.map_eq_some_iff.mp same.symm
      refine ⟨?_, held, isHeld, ?_⟩
      · rw [← cut_groups known, TreeMap.mem_keySet_iff]
        exact ⟨stored, found⟩
      · by_contra foreign
        exact familiar ⟨cut, known, .inr ⟨held, isHeld, foreign, found.trans (taken ▸ rfl)⟩⟩
    · have absent : cut.data[observation.group]? = none := by
        rw [← cut_groups known, TreeMap.mem_keySet_iff] at member
        by_contra present
        exact member (Option.ne_none_iff_exists'.mp present)
      rw [absent] at same
      have unheld : observation.held = none := Option.map_eq_none_iff.mp same.symm
      exact absurd ⟨cut, known, .inl ⟨member, unheld⟩⟩ familiar
  · simp at done

theorem ForeignEvidence.accepted (foreign : active.ForeignEvidence observation) :
    active.recordFence observation = .ok active ∧ ¬OwnEvidence active.spec observation := by
  obtain ⟨cut, known, ⟨outside, unheld⟩ | ⟨held, isHeld, other, found⟩⟩ := foreign
  · refine ⟨?_, fun own => outside own.member⟩
    have absent : cut.data[observation.group]? = none := by
      rw [← cut_groups known, TreeMap.mem_keySet_iff] at outside
      by_contra present
      exact outside (Option.ne_none_iff_exists'.mp present)
    rw [recordFence_known known, if_pos]
    rw [absent, unheld]
    rfl
  · refine ⟨?_, ?_⟩
    · rw [recordFence_known known, if_pos]
      rw [found, isHeld]
      rfl
    · rintro ⟨_, claimed, isClaimed, own⟩
      rw [isHeld] at isClaimed
      cases isClaimed
      exact other own

theorem recordFence_own_iff :
    (∀ next, active.recordFence observation = .ok next → OwnEvidence active.spec observation) ↔
      ¬active.ForeignEvidence observation := by
  constructor
  · intro own foreign
    obtain ⟨taken, alien⟩ := foreign.accepted
    exact alien (own active taken)
  · intro familiar next done
    cases phase : active.phase with
    | preparing controlCut fencedGroups => exact recordFence_own phase done
    | aborting reason releasedGroups =>
        rw [recordFence_aborting phase] at done
        cases done
    | frozen cut =>
        exact recordFence_known_own (by rw [cut_eq, phase]; rfl) done familiar
    | materializing cut =>
        exact recordFence_known_own (by rw [cut_eq, phase]; rfl) done familiar
    | available cut =>
        exact recordFence_known_own (by rw [cut_eq, phase]; rfl) done familiar
    | releasing cut =>
        exact recordFence_known_own (by rw [cut_eq, phase]; rfl) done familiar

/-! ### Releases -/

structure TakesRelease (active : ActiveExport) (observation : ExportFenceObservation) : Prop where
  member : observation.group ∈ active.spec.configuredDataGroups
  through : active.spec.epoch.value ≤ observation.throughEpoch
  unheld : observation.held = none
  ends : active.phase.ends = true

theorem recordRelease_ok (done : active.recordRelease observation = .ok next) :
    active.TakesRelease observation ∧ next.spec = active.spec ∧
      next.phase = active.phase.withRelease observation.group := by
  obtain ⟨spec, phase, valid⟩ := active
  unfold recordRelease at done
  split at done
  · simp at done
  rename_i inside
  split at done
  · simp at done
  rename_i unheld
  obtain ⟨late, nothing⟩ := not_or.mp unheld
  have through : spec.epoch.value ≤ observation.throughEpoch := Nat.le_of_not_lt late
  have held : observation.held = none := by simpa using nothing
  cases phase with
  | releasing =>
      cases done
      exact ⟨⟨not_not.mp inside, through, held, rfl⟩, rfl, rfl⟩
  | aborting =>
      cases done
      exact ⟨⟨not_not.mp inside, through, held, rfl⟩, rfl, rfl⟩
  | _ => cases done

theorem TakesRelease.recorded (takes : active.TakesRelease observation) :
    ∃ next, active.recordRelease observation = .ok next := by
  obtain ⟨member, through, unheld, ends⟩ := takes
  obtain ⟨spec, phase, valid⟩ := active
  unfold recordRelease
  rw [dif_neg (not_not.mpr member), if_neg]
  · cases phase with
    | releasing => exact ⟨_, rfl⟩
    | aborting => exact ⟨_, rfl⟩
    | _ => simp [ActiveExportPhase.ends] at ends
  · rw [unheld]
    dsimp only at through
    simp only [Option.isSome_none, Bool.false_eq_true, or_false, not_lt]
    exact through

theorem recordRelease_absorbs : Retry.Absorbs recordRelease := by
  constructor
  · intro active next observation done
    obtain ⟨takes, spec, phase⟩ := recordRelease_ok done
    have still : next.TakesRelease observation := by
      refine ⟨spec ▸ takes.member, spec ▸ takes.through, takes.unheld, ?_⟩
      rw [phase, ActiveExportPhase.withRelease_ends]
      exact takes.ends
    obtain ⟨after, again⟩ := still.recorded
    obtain ⟨_, sameSpec, samePhase⟩ := recordRelease_ok again
    rw [phase, ActiveExportPhase.withRelease_again, ← phase] at samePhase
    rw [again, eq_of_phase sameSpec samePhase]
  · intro active next last first second done later
    obtain ⟨takes, spec, phase⟩ := recordRelease_ok done
    obtain ⟨takesLater, lastSpec, lastPhase⟩ := recordRelease_ok later
    have early : active.TakesRelease second :=
      ⟨spec ▸ takesLater.member, spec ▸ takesLater.through, takesLater.unheld, takes.ends⟩
    obtain ⟨other, before⟩ := early.recorded
    obtain ⟨_, otherSpec, otherPhase⟩ := recordRelease_ok before
    have late : other.TakesRelease first := by
      refine ⟨otherSpec ▸ takes.member, otherSpec ▸ takes.through, takes.unheld, ?_⟩
      rw [otherPhase, ActiveExportPhase.withRelease_ends]
      exact takes.ends
    obtain ⟨joined, after⟩ := late.recorded
    obtain ⟨_, joinedSpec, joinedPhase⟩ := recordRelease_ok after
    refine ⟨other, before, ?_⟩
    have same : joined = last := by
      refine eq_of_phase ?_ ?_
      · rw [joinedSpec, otherSpec, lastSpec, spec]
      · rw [joinedPhase, otherPhase, lastPhase, phase, ActiveExportPhase.withRelease_swap]
    rw [after, same]

/-! ### Fences -/

structure Reports (spec : ExportSpec) (cuts : GroupId → GroupCut)
    (observation : ExportFenceObservation) : Prop where
  member : observation.group ∈ spec.configuredDataGroups
  held : observation.held = some ⟨spec.token, cuts observation.group⟩

/-- The cuts of the recorded groups are known, and with the last one the export is frozen. -/
inductive Gathered (controlCut : GroupCut) (cuts : GroupId → GroupCut)
    (recorded : Finset GroupId) (active : ActiveExport) : Prop
  | some (fencedGroups : TreeMap GroupId GroupCut)
      (phase : active.phase = .preparing controlCut fencedGroups)
      (within : recorded ⊂ active.spec.configuredDataGroups)
      (stored : ∀ group : GroupId,
        fencedGroups[group]? = if group ∈ recorded then .some (cuts group) else none)
  | all (cut : QuiescentCut) (phase : active.phase = .frozen cut)
      (whole : recorded = active.spec.configuredDataGroups) (control : cut.control = controlCut)
      (stored : ∀ group : GroupId,
        cut.data[group]? = if group ∈ recorded then .some (cuts group) else none)

section Gather

variable {controlCut : GroupCut} {cuts : GroupId → GroupCut} {recorded : Finset GroupId}

theorem recordFence_first (named : ∀ group, (cuts group).group = group)
    (reports : Reports active.spec cuts observation)
    {fencedGroups : TreeMap GroupId GroupCut}
    (phase : active.phase = .preparing controlCut fencedGroups)
    (missing : fencedGroups[observation.group]? = none) :
    ∃ next, active.recordFence observation = .ok next ∧ next.spec = active.spec ∧
      if TreeMap.keySet (fencedGroups.insert observation.group (cuts observation.group)) =
          active.spec.configuredDataGroups then
        ∃ cut, next.phase = .frozen cut ∧ cut.control = controlCut ∧
          cut.data = fencedGroups.insert observation.group (cuts observation.group)
      else next.phase = .preparing controlCut
        (fencedGroups.insert observation.group (cuts observation.group)) := by
  obtain ⟨member, held⟩ := reports
  obtain ⟨spec, current, valid⟩ := active
  cases phase
  obtain ⟨group, throughEpoch, found⟩ := observation
  dsimp only at member held missing ⊢
  subst held
  have own : (some (⟨spec.token, cuts group⟩ : HeldExportFence)).filter
      (fun held => held.token = spec.token) = some ⟨spec.token, cuts group⟩ := by simp
  have keyed := TreeMap.insert_keyed valid.2 (cuts group)
  unfold recordFence
  dsimp only
  rw [dif_neg (not_not.mpr member)]
  simp only [own]
  rw [dif_neg (not_not.mpr (named group))]
  simp only [missing, named group]
  by_cases complete : TreeMap.keySet (fencedGroups.insert group (cuts group)) =
      spec.configuredDataGroups
  · rw [dif_pos complete]
    have made := @QuiescentCut.tryNew_values controlCut _ keyed
    split
    · rename_i error failed
      rw [made] at failed
      cases failed
    · rename_i cut frozen
      rw [made] at frozen
      cases frozen
      refine ⟨_, rfl, rfl, ?_⟩
      rw [if_pos complete]
      exact ⟨_, rfl, rfl, congrArg (fun key => fencedGroups.insert key _) (named group)⟩
  · rw [dif_neg complete]
    refine ⟨_, rfl, rfl, ?_⟩
    rw [if_neg complete]

theorem recordFence_again (reports : Reports active.spec cuts observation)
    (named : (cuts observation.group).group = observation.group)
    {fencedGroups : TreeMap GroupId GroupCut}
    (phase : active.phase = .preparing controlCut fencedGroups)
    (stored : fencedGroups[observation.group]? = some (cuts observation.group)) :
    active.recordFence observation = .ok active := by
  obtain ⟨member, held⟩ := reports
  obtain ⟨spec, current, valid⟩ := active
  cases phase
  obtain ⟨group, throughEpoch, found⟩ := observation
  dsimp only at member held stored named
  subst held
  have own : (some (⟨spec.token, cuts group⟩ : HeldExportFence)).filter
      (fun held => held.token = spec.token) = some ⟨spec.token, cuts group⟩ := by simp
  unfold recordFence
  dsimp only
  rw [dif_neg (not_not.mpr member)]
  simp only [own]
  rw [dif_neg (not_not.mpr named)]
  simp only [stored]
  rw [if_pos trivial]

theorem insert_stored {fencedGroups : TreeMap GroupId GroupCut}
    (stored : ∀ group : GroupId,
      fencedGroups[group]? = if group ∈ recorded then some (cuts group) else none)
    (added other : GroupId) :
    (fencedGroups.insert added (cuts added))[other]? =
      if other ∈ insert added recorded then some (cuts other) else none := by
  rw [TreeMap.get_insert, stored other]
  by_cases same : other = added
  · simp [same]
  · simp [same]

theorem keySet_stored {map : TreeMap GroupId GroupCut}
    (stored : ∀ group : GroupId, map[group]? = if group ∈ recorded then some (cuts group) else none) :
    TreeMap.keySet map = recorded := by
  ext group
  rw [TreeMap.mem_keySet_iff, stored]
  by_cases member : group ∈ recorded
  · simp [member]
  · simp [member]

theorem Gathered.step (named : ∀ group, (cuts group).group = group)
    (gathered : Gathered controlCut cuts recorded active)
    (reports : Reports active.spec cuts observation) :
    ∃ next, active.recordFence observation = .ok next ∧ next.spec = active.spec ∧
      Gathered controlCut cuts (insert observation.group recorded) next := by
  cases gathered with
  | some fencedGroups phase within stored =>
      have found := stored observation.group
      by_cases known : observation.group ∈ recorded
      · rw [if_pos known] at found
        refine ⟨active, recordFence_again reports (named _) phase found, rfl, ?_⟩
        rw [Finset.insert_eq_of_mem known]
        exact .some fencedGroups phase within stored
      · rw [if_neg known] at found
        obtain ⟨next, done, spec, result⟩ := recordFence_first named reports phase found
        have more := insert_stored stored observation.group
        refine ⟨next, done, spec, ?_⟩
        split at result
        · rename_i complete
          obtain ⟨cut, frozen, control, data⟩ := result
          rw [keySet_stored more] at complete
          exact .all cut frozen (complete.trans (spec ▸ rfl)) control (data ▸ more)
        · rename_i incomplete
          rw [keySet_stored more] at incomplete
          refine .some _ result ?_ more
          rw [spec]
          exact lt_of_le_of_ne (Finset.insert_subset reports.member within.1) incomplete
  | all cut phase whole control stored =>
      have known : observation.group ∈ recorded := whole ▸ reports.member
      have frozen : active.cut = .some cut := by
        rw [cut_eq, phase]
        rfl
      refine ⟨active, ?_, rfl, ?_⟩
      · rw [recordFence_known frozen, if_pos]
        rw [stored, if_pos known, reports.held]
        rfl
      · rw [Finset.insert_eq_of_mem known]
        exact .all cut phase whole control stored

theorem Gathered.run (named : ∀ group, (cuts group).group = group)
    {observations : List ExportFenceObservation}
    (gathered : Gathered controlCut cuts recorded active)
    (reports : ∀ observation ∈ observations, Reports active.spec cuts observation) :
    ∃ next, observations.foldlM recordFence active = .ok next ∧ next.spec = active.spec ∧
      Gathered controlCut cuts
        (recorded ∪ (observations.map ExportFenceObservation.group).toFinset) next := by
  induction observations generalizing active recorded with
  | nil =>
      refine ⟨active, rfl, rfl, ?_⟩
      simpa using gathered
  | cons observation rest ih =>
      obtain ⟨middle, done, same, more⟩ := gathered.step named (reports _ List.mem_cons_self)
      have others : ∀ later ∈ rest, Reports middle.spec cuts later := fun later member =>
        same ▸ reports later (List.mem_cons_of_mem _ member)
      obtain ⟨next, went, spec, all⟩ := ih more others
      refine ⟨next, Retry.foldlM_cons_ok.mpr ⟨middle, done, went⟩, spec.trans same, ?_⟩
      rw [List.map_cons, List.toFinset_cons, Finset.union_insert, ← Finset.insert_union]
      exact all

theorem gathered_preparing {fencedGroups : TreeMap GroupId GroupCut}
    (phase : active.phase = .preparing controlCut fencedGroups)
    (agree : ∀ (group : GroupId) (cut : GroupCut),
      fencedGroups[group]? = some cut → cut = cuts group) :
    Gathered controlCut cuts (TreeMap.keySet fencedGroups) active := by
  have valid := active.valid
  rw [phase] at valid
  refine .some fencedGroups phase valid.1 fun group => ?_
  by_cases member : group ∈ TreeMap.keySet fencedGroups
  · obtain ⟨cut, found⟩ := TreeMap.mem_keySet_iff.mp member
    rw [if_pos member, found, agree group cut found]
  · rw [if_neg member]
    by_contra present
    exact member (TreeMap.mem_keySet_iff.mpr (Option.ne_none_iff_exists'.mp present))

theorem recordFence_freezes (named : ∀ group, (cuts group).group = group)
    {fencedGroups : TreeMap GroupId GroupCut}
    (phase : active.phase = .preparing controlCut fencedGroups)
    (agree : ∀ (group : GroupId) (cut : GroupCut),
      fencedGroups[group]? = some cut → cut = cuts group)
    {observations : List ExportFenceObservation}
    (reports : ∀ observation ∈ observations, Reports active.spec cuts observation)
    (covers : ∀ group ∈ active.spec.configuredDataGroups,
      group ∈ fencedGroups ∨ ∃ observation ∈ observations, observation.group = group) :
    ∃ next cut, observations.foldlM recordFence active = .ok next ∧ next.spec = active.spec ∧
      next.phase = .frozen cut ∧ cut.control = controlCut ∧
      ∀ group : GroupId, cut.data[group]? =
        if group ∈ active.spec.configuredDataGroups then some (cuts group) else none := by
  obtain ⟨next, went, spec, gathered⟩ := (gathered_preparing phase agree).run named reports
  have all : active.spec.configuredDataGroups ⊆ TreeMap.keySet fencedGroups ∪
      (observations.map ExportFenceObservation.group).toFinset := by
    intro group member
    rw [Finset.mem_union, TreeMap.mem_keySet, List.mem_toFinset, List.mem_map]
    exact covers group member
  cases gathered with
  | some _ _ within _ =>
      rw [spec] at within
      exact absurd all within.2
  | all cut frozen whole control stored =>
      rw [whole, spec] at stored
      exact ⟨next, cut, went, spec, frozen, control, stored⟩

end Gather

/-! ### Whole runs -/

def Records (active : ActiveExport) (operations : List Operation)
    (observation : ExportFenceObservation) (before : ActiveExport) : Prop :=
  ∃ earlier later, operations = earlier ++ .recordFence observation :: later ∧
    before = active.run earlier

def reread (active : ActiveExport) : Except WireError ActiveExport := active.serialize.deserialize

/-- Every observation that a run takes is evidence of its own export just when none of them is
foreign; the rest holds of every run. -/
theorem operations_sound (spec : ExportSpec) (controlCut : GroupCut)
    (operations : List Operation) :
    ((∀ observation before next,
        (preparing spec controlCut).Records operations observation before →
        before.recordFence observation = .ok next → OwnEvidence spec observation) ↔
      ∀ observation before, (preparing spec controlCut).Records operations observation before →
        ¬before.ForeignEvidence observation) ∧
    (∀ (fencedGroups : TreeMap GroupId GroupCut) (cuts : GroupId → GroupCut)
        (first second : List ExportFenceObservation), (∀ group, (cuts group).group = group) →
      ((preparing spec controlCut).run operations).phase = .preparing controlCut fencedGroups →
      (∀ (group : GroupId) (cut : GroupCut), fencedGroups[group]? = some cut → cut = cuts group) →
      (∀ observation ∈ first ++ second, Reports spec cuts observation) →
      (∀ group ∈ spec.configuredDataGroups, group ∈ fencedGroups ∨
        ∃ observation ∈ first, observation.group = group) →
      (∀ group ∈ spec.configuredDataGroups, group ∈ fencedGroups ∨
        ∃ observation ∈ second, observation.group = group) →
      ∃ next cut,
        first.foldlM recordFence ((preparing spec controlCut).run operations) = .ok next ∧
        second.foldlM recordFence ((preparing spec controlCut).run operations) = .ok next ∧
        next.phase = .frozen cut ∧ cut.control = controlCut ∧
        ∀ group : GroupId, cut.data[group]? =
          if group ∈ spec.configuredDataGroups then some (cuts group) else none) ∧
    (∀ (first second : List ExportFenceObservation) (next : ActiveExport),
      (∀ observation, observation ∈ first ↔ observation ∈ second) →
      (first.foldlM recordRelease ((preparing spec controlCut).run operations) = .ok next ↔
        second.foldlM recordRelease ((preparing spec controlCut).run operations) = .ok next)) ∧
    (∀ earlier later, operations = earlier ++ later →
      ((preparing spec controlCut).run earlier).phase.Keeps
        ((preparing spec controlCut).run operations).phase) ∧
    ((preparing spec controlCut).run operations).reread =
      .ok ((preparing spec controlCut).run operations) := by
  have reached (earlier : List Operation) : ((preparing spec controlCut).run earlier).spec = spec :=
    run_spec _ earlier
  refine ⟨⟨?_, ?_⟩, ?_, ?_, ?_, deserialize_serialize _⟩
  · rintro own observation before ⟨earlier, later, split, rfl⟩ foreign
    obtain ⟨taken, alien⟩ := foreign.accepted
    rw [reached earlier] at alien
    exact alien (own observation _ _ ⟨earlier, later, split, rfl⟩ taken)
  · rintro familiar observation before next ⟨earlier, later, split, rfl⟩ done
    have known := familiar observation _ ⟨earlier, later, split, rfl⟩
    have own := recordFence_own_iff.mpr known next done
    rwa [reached earlier] at own
  · intro fencedGroups cuts first second named phase agree reports coversFirst coversSecond
    generalize arrived : (preparing spec controlCut).run operations = active at phase ⊢
    have same : active.spec = spec := arrived ▸ reached operations
    subst same
    obtain ⟨next, cut, went, nextSpec, frozen, control, stored⟩ := recordFence_freezes named phase
      agree (fun observation member => reports observation (List.mem_append_left _ member))
      coversFirst
    obtain ⟨other, otherCut, wentToo, otherSpec, otherFrozen, otherControl, otherStored⟩ :=
      recordFence_freezes named phase agree
        (fun observation member => reports observation (List.mem_append_right _ member))
        coversSecond
    have sameCut : otherCut = cut := by
      refine QuiescentCut.eq_of_data (otherControl.trans control.symm) fun group => ?_
      rw [otherStored, stored]
    have sameEnd : other = next := by
      refine eq_of_phase (otherSpec.trans nextSpec.symm) ?_
      rw [otherFrozen, frozen, sameCut]
    exact ⟨next, cut, went, sameEnd ▸ wentToo, frozen, control, stored⟩
  · intro first second next same
    constructor
    · exact recordRelease_absorbs.same_steps same
    · exact recordRelease_absorbs.same_steps fun observation => (same observation).symm
  · rintro earlier later rfl
    rw [run_append]
    exact run_keeps _ later

def sampleGroup : GroupId := ⟨1, Nat.one_ne_zero⟩

def sampleSpec : ExportSpec where
  intent := ⟨⟨⟨"operator"⟩, ⟨1⟩, 1⟩, ⟨1⟩,
    ⟨[⟨1⟩], sampleStreams_nonempty, by decide, sampleStreams_strict⟩, .v1⟩
  epoch := ⟨1, Nat.one_ne_zero⟩
  configuredDataGroups := {sampleGroup}
  deadline := ⟨0, 10, by decide⟩
  hasGroup := by decide
  bounded := by decide

def sampleControlCut : GroupCut := ⟨⟨9, by decide⟩, 1, ⟨1, Nat.one_ne_zero⟩, 5⟩

def sampleFence : ExportFenceObservation :=
  ⟨sampleGroup, 0, some ⟨sampleSpec.token, ⟨sampleGroup, 1, ⟨1, Nat.one_ne_zero⟩, 7⟩⟩⟩

def strangerFence : ExportFenceObservation := ⟨⟨2, two_nonzero⟩, 0, none⟩

theorem stranger_accepted : ¬∀ observation before next,
    (preparing sampleSpec sampleControlCut).Records
      [.recordFence sampleFence, .recordFence strangerFence] observation before →
    before.recordFence observation = .ok next → OwnEvidence sampleSpec observation := by
  intro own
  have accepted : (((preparing sampleSpec sampleControlCut).run
      [.recordFence sampleFence]).recordFence strangerFence).isOk = true := by decide
  cases recorded : ((preparing sampleSpec sampleControlCut).run
      [.recordFence sampleFence]).recordFence strangerFence with
  | ok next =>
      have member := (own strangerFence _ next ⟨[.recordFence sampleFence], [], rfl, rfl⟩
        recorded).member
      exact absurd member (by decide)
  | error reason =>
      rw [recorded] at accepted
      cases accepted

end ActiveExport

end LightStream
