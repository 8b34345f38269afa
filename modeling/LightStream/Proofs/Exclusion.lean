import LightStream.Proofs.ExportSpec
import LightStream.Proofs.Rejection
import LightStream.Proofs.Traces

/-!
Exports and administration exclude each other, and the mutation fence of the control group is held
by the token of the active export.
-/

namespace LightStream

namespace GroupView

variable {view other : GroupView} {logId : GroupLogId} {result : ApplyResult} {write : WriteBatch}

structure ExportExclusive (view : GroupView) : Prop where
  apart : ¬((view.get .activeExport).isSome = true ∧ (view.get .activeAdministration).isSome = true)
  fenced : (view.get .activeExport).isSome = true ↔ view.mutationFenceState.held.isSome = true
  token : ∀ active held, view.get .activeExport = some active →
    view.mutationFenceState.held = some held → held.token = active.spec.token
  through : view.mutationFenceState.throughEpoch ≤ (view.get .exportEpoch).getD 0
  newer : ∀ held, view.mutationFenceState.held = some held →
    view.mutationFenceState.throughEpoch < held.token.epoch.value
  issued : ∀ active, view.get .activeExport = some active →
    active.spec.epoch.value ≤ (view.get .exportEpoch).getD 0

theorem exportExclusive_empty (empty : ∀ key, view.get key = none) : ExportExclusive view := by
  have fence : view.mutationFenceState = MutationFenceState.default := by
    rw [mutationFenceState, empty]
    rfl
  constructor
  · simp [empty]
  · rw [fence, empty]
    simp [MutationFenceState.default]
  · simp [empty]
  · rw [fence]
    exact Nat.zero_le _
  · rw [fence]
    simp [MutationFenceState.default]
  · simp [empty]

theorem ExportExclusive.of_reads (exclusive : view.ExportExclusive)
    (activeExport : other.get .activeExport = view.get .activeExport)
    (exportEpoch : other.get .exportEpoch = view.get .exportEpoch)
    (fence : other.mutationFenceState = view.mutationFenceState)
    (apart : (view.get .activeExport).isSome = true → view.get .activeAdministration = none →
      other.get .activeAdministration = none) : other.ExportExclusive := by
  obtain ⟨separate, fenced, token, through, newer, issued⟩ := exclusive
  constructor
  · rw [activeExport]
    rintro ⟨exporting, administered⟩
    have idle : view.get .activeAdministration = none := by
      cases found : view.get .activeAdministration with
      | none => rfl
      | some operation => exact absurd ⟨exporting, by rw [found]; rfl⟩ separate
    rw [apart exporting idle] at administered
    simp at administered
  · rwa [activeExport, fence]
  · rwa [activeExport, fence]
  · rwa [exportEpoch, fence]
  · rwa [fence]
  · rwa [activeExport, exportEpoch]

def exclusionFamilies : List StateFamily := [.exportState, .administration, .fence]

theorem ExportExclusive.frame (exclusive : view.ExportExclusive)
    (same : ∀ key : StateKey, key.family ∈ exclusionFamilies → other.get key = view.get key) :
    other.ExportExclusive := by
  refine exclusive.of_reads ?_ ?_ ?_ ?_
  · exact same _ (by simp [StateKey.family, exclusionFamilies])
  · exact same _ (by simp [StateKey.family, exclusionFamilies])
  · rw [mutationFenceState, mutationFenceState, same _ (by simp [StateKey.family, exclusionFamilies])]
  · intro _ idle
    rw [same _ (by simp [StateKey.family, exclusionFamilies]), idle]

section Administration

theorem applyBeginAdministration_apart {intent : AdministrationIntent}
    (exporting : (view.get .activeExport).isSome = true)
    (done : view.applyBeginAdministration intent = .ok (result, write)) : write = ⟨[], []⟩ := by
  obtain ⟨active, found⟩ := Option.isSome_iff_exists.mp exporting
  unfold applyBeginAdministration at done
  rw [found] at done
  split at done
  · cases done
    rfl
  split at done
  · split at done <;> cases done <;> rfl
  · cases done
    rfl

theorem applyCompleteAdministration_idle {request : AdministrationRequestId}
    (idle : view.get .activeAdministration = none)
    (done : view.applyCompleteAdministration request = .ok (result, write)) :
    write = ⟨[], []⟩ := by
  unfold applyCompleteAdministration at done
  rw [idle] at done
  split at done
  · cases done
    rfl
  split at done
  · cases done
    rfl
  split at done
  · cases done
    rfl
  split at done
  · cases done
    rfl
  cases done
  rfl

theorem applyAbortAdministration_idle {request : AdministrationRequestId}
    (idle : view.get .activeAdministration = none)
    (done : view.applyAbortAdministration request = .ok (result, write)) : write = ⟨[], []⟩ := by
  unfold applyAbortAdministration at done
  rw [idle] at done
  split at done
  · cases done
    rfl
  split at done
  · cases done
    rfl
  split at done
  · cases done
    rfl
  cases done
  rfl

theorem applyFinishAdministrationAbort_idle {request : AdministrationRequestId}
    (idle : view.get .activeAdministration = none)
    (done : view.applyFinishAdministrationAbort request = .ok (result, write)) :
    write = ⟨[], []⟩ := by
  unfold applyFinishAdministrationAbort at done
  rw [idle] at done
  split at done
  · cases done
    rfl
  split at done
  · cases done
    rfl
  cases done
  rfl

theorem ExportExclusive.administered {families : List StateFamily}
    (exclusive : view.ExportExclusive) (within : Within families write.state)
    (outside : ∀ family ∈ [StateFamily.exportState, .fence], family ∉ families)
    (quiet : (view.get .activeExport).isSome = true → view.get .activeAdministration = none →
      write = ⟨[], []⟩) : (view.after write.state).ExportExclusive := by
  refine exclusive.of_reads ?_ ?_ ?_ ?_
  · exact after_get_of_within within (outside _ (by simp [StateKey.family]))
  · exact after_get_of_within within (outside _ (by simp [StateKey.family]))
  · rw [mutationFenceState, mutationFenceState,
      after_get_of_within within (outside _ (by simp [StateKey.family]))]
  · intro exporting idle
    rw [quiet exporting idle]
    exact idle

end Administration

section Bootstrap

variable {spec : BootstrapSpec}

theorem applyBootstrap_fence {kind : GroupKind}
    (done : view.applyBootstrap spec kind = .ok (result, write)) :
    (view.after write.state).mutationFenceState = view.mutationFenceState := by
  have initial {first : StateBatch} (within : Within [.bootstrap] first)
      (absent : view.get .mutationFence = none) :
      (view.after (first ++ [.put .mutationFence MutationFenceState.default])).mutationFenceState =
        view.mutationFenceState := by
    rw [after_append, mutationFenceState, mutationFenceState, absent]
    simp [after, Kv.pending, Kv.Op.effect]
  have spared {first : StateBatch} (within : Within [.bootstrap] first) :
      (view.after first).mutationFenceState = view.mutationFenceState := by
    rw [mutationFenceState, mutationFenceState,
      after_get_of_within within (by simp [StateKey.family])]
  unfold applyBootstrap at done
  split at done
  · cases done
    rfl
  split at done
  · cases done
    rfl
  dsimp only at done
  have stored : Within [.bootstrap] [(.put .bootstrap spec : Kv.Op StateKey StateVal)] := by
    simp [StateKey.family]
  split at done
  · split at done
    · cases done
      rfl
    · cases done
      split
      · rename_i absent
        exact initial (within_nil _) absent
      · rfl
  · cases done
    split
    · rename_i absent
      exact initial stored absent
    · exact spared stored

theorem applyBootstrapControl_fence {topology : Option ClusterTopology}
    {security : Option SecurityPolicy} {dataGroups : List GroupId} {maxStreams maxPartitions : Nat}
    (done : view.applyBootstrapControl spec topology security dataGroups maxStreams maxPartitions =
      .ok (result, write)) :
    (view.after write.state).mutationFenceState = view.mutationFenceState := by
  have later {first rest : StateBatch} (families : List StateFamily)
      (fence : (view.after first).mutationFenceState = view.mutationFenceState)
      (within : Within families rest) (outside : StateFamily.fence ∉ families) :
      (view.after (first ++ rest)).mutationFenceState = view.mutationFenceState := by
    rw [← fence, after_append, mutationFenceState, mutationFenceState,
      after_get_of_within within (by simpa [StateKey.family] using outside)]
  have configuration := bootstrapConfiguration_within topology dataGroups
  unfold applyBootstrapControl at done
  split at done
  · cases done
    rfl
  rename_i group rest
  have catalog := bootstrapCatalog_within spec group maxStreams maxPartitions
  split at done
  · cases done
    rfl
  split at done
  · simp at done
  · rename_i error first applied
    cases done
    exact applyBootstrap_fence applied
  · rename_i answer first _ applied
    have fence := applyBootstrap_fence applied
    split at done
    · split at done <;> cases done <;> exact fence
    · split at done
      · cases done
        exact later _ (later _ fence configuration (by decide)) catalog (by decide)
      · rename_i policy
        split at done
        · cases done
          exact later _ fence configuration (by decide)
        · cases done
          refine later [.policy, .catalog, .stream] (later _ fence configuration (by decide)) ?_
            (by decide)
          rw [within_cons]
          exact ⟨by simp [StateKey.family], catalog.mono (by decide)⟩

end Bootstrap

section Exports

variable {command : ExportCommand}

theorem ExportCase.exclusive (exclusive : view.ExportExclusive)
    (case : view.ExportCase logId command result write) :
    (view.after write.state).ExportExclusive := by
  have through := exclusive.through
  cases case with
  | answered => exact exclusive
  | began intent deadline result write case =>
      cases case with
      | answered => exact exclusive
      | started fresh idle unadministered spec made next cut fence observation acquired =>
          obtain ⟨counted, _⟩ := checkedAdd_some.mp next
          have newer : view.mutationFenceState.throughEpoch < spec.token.epoch.value := by
            show _ < spec.epoch.value
            omega
          obtain ⟨⟨held, isHeld, own⟩, watermark⟩ := MutationFenceState.acquire_newer newer acquired
          dsimp only
          constructor
          · rw [@start_other view spec cut fence .activeAdministration (by simp) (by simp) (by simp),
              unadministered]
            simp
          · rw [start_activeExport, start_fence, isHeld]
            simp
          · intro active other found present
            rw [start_activeExport] at found
            rw [start_fence, isHeld] at present
            cases found
            cases present
            exact own
          · rw [start_fence, start_exportEpoch, watermark, Option.getD_some]
            omega
          · rw [start_fence, isHeld, watermark]
            intro other same
            cases same
            rw [own]
            exact newer
          · intro active found
            rw [start_activeExport] at found
            cases found
            rw [start_exportEpoch]
            exact le_rfl
  | moved command active next later found same =>
      have reads {key : StateKey} (different : .activeExport ≠ key) :
          (view.after [.put .activeExport next]).get key = view.get key := by
        simp [after, Kv.pending, Kv.Op.effect, different]
      have stored : (view.after [.put .activeExport next]).get .activeExport = some next := by
        simp [after, Kv.pending, Kv.Op.effect]
      have fence : (view.after [.put .activeExport next]).mutationFenceState =
          view.mutationFenceState := by
        rw [mutationFenceState, mutationFenceState, reads (by simp)]
      dsimp only
      have held := exclusive.fenced
      have apart := exclusive.apart
      rw [found] at held apart
      constructor
      · rw [stored, reads (by simp)]
        exact apart
      · rw [stored, fence]
        exact held
      · intro other holder present isHeld
        rw [stored] at present
        rw [fence] at isHeld
        cases present
        rw [exclusive.token active holder found isHeld, ExportSpec.token, ExportSpec.token, same]
      · rw [fence, reads (by simp)]
        exact through
      · rw [fence]
        exact exclusive.newer
      · intro other present
        rw [stored] at present
        cases present
        rw [same, reads (by simp)]
        exact exclusive.issued active found
  | finished active receipt fence observation found made released =>
      obtain ⟨free, watermark⟩ := MutationFenceState.releaseForGroup_ok released
      have issued := exclusive.issued active found
      have token : active.spec.token.epoch.value = active.spec.epoch.value := rfl
      dsimp only
      constructor
      · rw [finish_activeExport]
        simp
      · rw [finish_activeExport, finish_fence, free]
        simp
      · rw [finish_activeExport]
        simp
      · rw [finish_fence, finish_exportEpoch, watermark]
        omega
      · rw [finish_fence, free]
        simp
      · rw [finish_activeExport]
        simp

end Exports

theorem dispatch_exclusive {command : GroupCommand} (control : view.identity.kind = .control)
    (exclusive : view.ExportExclusive) (done : view.dispatch logId command = .ok (result, write)) :
    (view.after write.state).ExportExclusive := by
  have within := dispatch_within command result write done
  have quiet (outside : ∀ family ∈ exclusionFamilies, family ∉ command.families) :
      (view.after write.state).ExportExclusive :=
    exclusive.frame fun key inside => after_get_of_within within (outside _ inside)
  have started (within : Within [.bootstrap, .fence, .catalog, .topology, .policy, .stream]
        write.state)
      (fence : (view.after write.state).mutationFenceState = view.mutationFenceState) :
      (view.after write.state).ExportExclusive := by
    refine exclusive.of_reads (after_get_of_within within (by simp [StateKey.family]))
      (after_get_of_within within (by simp [StateKey.family])) fence fun _ idle => ?_
    rw [after_get_of_within within (by simp [StateKey.family]), idle]
  cases command with
  | bootstrapControl spec topology security dataGroups maxStreams maxPartitions =>
      exact started within (applyBootstrapControl_fence done)
  | bootstrapData spec =>
      have small : (GroupCommand.bootstrapData spec).families ⊆
          [.bootstrap, .fence, .catalog, .topology, .policy, .stream] := by
        simp [GroupCommand.families]
      exact started (within.mono small) (applyBootstrap_fence done)
  | beginAdministration intent =>
      exact exclusive.administered within (by simp [GroupCommand.families]) fun exporting _ =>
        applyBeginAdministration_apart exporting done
  | completeAdministration request =>
      exact exclusive.administered within (by simp [GroupCommand.families]) fun _ idle =>
        applyCompleteAdministration_idle idle done
  | abortAdministration request =>
      exact exclusive.administered within (by simp [GroupCommand.families]) fun _ idle =>
        applyAbortAdministration_idle idle done
  | finishAdministrationAbort request =>
      exact exclusive.administered within (by simp [GroupCommand.families]) fun _ idle =>
        applyFinishAdministrationAbort_idle idle done
  | exportProtocol command => exact (applyExport_case control done).exclusive exclusive
  | _ => exact quiet (by simp [exclusionFamilies, GroupCommand.families, publishAllFamilies,
      leaseFamilies, decisionFamilies, maintainFamilies])

end GroupView

def Step.begun (step : Step) : Option ActiveExport :=
  match step.entry.payload with
  | .normal (.exportProtocol (.begin _ _)) =>
      if step.after.get .activeExport = step.before.get .activeExport then none
      else step.after.get .activeExport
  | _ => none

def begunEpochs (steps : List Step) : List Nat :=
  (steps.filterMap Step.begun).map fun active => active.spec.epoch.value

namespace GroupDb

variable {identity : GroupIdentity} {window : Nat} {content : PayloadId → Record}
  {Allowed : GroupDb → GroupEntry → Prop} {history : List GroupEntry} {steps : List Step}
  {db next : GroupDb} {entry : GroupEntry} {result : ApplyResult}

theorem Ran.exportExclusive (control : identity.kind = .control)
    (ran : Ran identity window content Allowed history db) : db.view.ExportExclusive := by
  refine @Ran.upheld identity window content Allowed history db GroupView.ExportExclusive
    GroupView.exclusionFamilies (by decide) (fun exclusive same => exclusive.frame same)
    GroupView.exportExclusive_empty ?_ ran
  intro history db logId command result write ran exclusive _ _ _ done
  refine GroupView.dispatch_exclusive ?_ exclusive done
  show db.identity.kind = .control
  rw [ran.settings.1, control]

theorem applyEntry_begun (control : db.identity.kind = .control)
    (done : db.applyEntry entry = .ok (result, next)) :
    Step.begun ⟨db, entry, result, next⟩ = none ∧ next.get .exportEpoch = db.get .exportEpoch ∨
      ∃ active, Step.begun ⟨db, entry, result, next⟩ = some active ∧
        (db.get .exportEpoch).getD 0 < active.spec.epoch.value ∧
        next.get .exportEpoch = some active.spec.epoch.value := by
  have idle (same : next.get .activeExport = db.get .activeExport) :
      Step.begun ⟨db, entry, result, next⟩ = none := by
    unfold Step.begun
    split
    · rw [if_pos same]
    · rfl
  rcases applyEntry_export control done with ⟨command, write, normal, case, reads⟩ | ⟨_, same⟩
  · have activeExport := reads .activeExport rfl
    have exportEpoch := reads .exportEpoch rfl
    cases case with
    | answered => exact .inl ⟨idle activeExport, exportEpoch⟩
    | began intent deadline result write case =>
        cases case with
        | answered =>
            exact .inl ⟨idle activeExport, exportEpoch⟩
        | started fresh absent unadministered spec made next cut fence observation acquired =>
            have absent : db.get .activeExport = none := absent
            rw [GroupView.start_activeExport] at activeExport
            rw [GroupView.start_exportEpoch] at exportEpoch
            obtain ⟨counted, _⟩ := checkedAdd_some.mp next
            refine .inr ⟨ActiveExport.preparing spec cut, ?_, ?_, exportEpoch⟩
            · simp only [Step.begun, normal, activeExport, absent]
              rfl
            · exact Nat.lt_of_succ_le (Nat.le_of_eq counted)
    | moved command active moved later found same =>
        refine .inl ⟨?_, ?_⟩
        · unfold Step.begun
          dsimp only
          split
          · rename_i intent deadline begins
            rw [normal] at begins
            cases begins
            exact absurd rfl (later intent deadline)
          · rfl
        · rw [exportEpoch]
          simp [GroupView.after, Kv.pending, Kv.Op.effect, view_get]
    | finished active receipt fence observation found made released =>
        refine .inl ⟨?_, ?_⟩
        · simp only [Step.begun, normal]
        · rw [exportEpoch, GroupView.finish_exportEpoch]
          rfl
  · exact .inl ⟨idle (same _ rfl), same _ rfl⟩

theorem Traced.begunEpochs (control : identity.kind = .control)
    (traced : Traced identity window content Allowed steps db) :
    (begunEpochs steps).Pairwise (· < ·) ∧
      ∀ epoch ∈ begunEpochs steps, epoch ≤ (db.get .exportEpoch).getD 0 := by
  refine @Traced.invariant identity window content Allowed steps db
    (fun steps get => (LightStream.begunEpochs steps).Pairwise (· < ·) ∧
      ∀ epoch ∈ LightStream.begunEpochs steps, epoch ≤ (get .exportEpoch).getD 0) ?_ ?_ traced
  · exact ⟨.nil, by simp [LightStream.begunEpochs]⟩
  · intro steps db next entry result traced held due allowed done
    obtain ⟨growing, bounded⟩ := held
    have kind : db.identity.kind = .control := by rw [traced.ran.settings.1, control]
    have split : LightStream.begunEpochs (steps ++ [⟨db, entry, result, next⟩]) =
        LightStream.begunEpochs steps ++
          LightStream.begunEpochs [⟨db, entry, result, next⟩] := by
      simp [LightStream.begunEpochs]
    rw [split]
    rcases applyEntry_begun kind done with ⟨none, same⟩ | ⟨active, begun, later, stored⟩
    · have nothing : LightStream.begunEpochs [⟨db, entry, result, next⟩] = [] := by
        simp [LightStream.begunEpochs, none]
      rw [nothing, List.append_nil, same]
      exact ⟨growing, bounded⟩
    · have one : LightStream.begunEpochs [⟨db, entry, result, next⟩] =
          [active.spec.epoch.value] := by
        simp [LightStream.begunEpochs, begun]
      rw [one, stored, Option.getD_some]
      constructor
      · refine List.pairwise_append.mpr ⟨growing, List.pairwise_singleton _ _, ?_⟩
        intro earlier member last single
        rw [List.mem_singleton.mp single]
        exact (bounded earlier member).trans_lt later
      · intro epoch member
        rcases List.mem_append.mp member with old | new
        · exact (bounded epoch old).trans (Nat.le_of_lt later)
        · rw [List.mem_singleton.mp new]

/-- In every reachable state of the control group exports and administration exclude each other,
the fence is held by the active export, and the epochs that begins assign grow. -/
theorem export_and_administration_exclusive (control : identity.kind = .control)
    (traced : Traced identity window content Allowed steps db) :
    db.view.ExportExclusive ∧ (begunEpochs steps).Pairwise (· < ·) :=
  ⟨traced.ran.exportExclusive control, (traced.begunEpochs control).1⟩

def sampleIntent (sequence : Nat) : ExportIntent :=
  ⟨⟨⟨"operator"⟩, ⟨1⟩, sequence⟩, ⟨1⟩,
    ⟨[⟨1⟩], sampleStreams_nonempty, Nat.le_of_ble_eq_true rfl, sampleStreams_strict⟩, .v1⟩

def sampleDeadline : ExportDeadline := ⟨3, 5, Nat.le_add_right 3 2⟩

def exportToken : ExportFenceToken := ⟨⟨1, Nat.one_ne_zero⟩, (sampleIntent 1).requestDigest⟩

def abortedExport : List ExportCommand :=
  [.begin (sampleIntent 1) sampleDeadline,
    .requestAbort (sampleIntent 1).request .operatorRequested sampleDeadline,
    .recordRelease exportToken ⟨dataGroupId, 1, none⟩, .finish exportToken]

def exportEntries (commands : List ExportCommand) : List GroupEntry :=
  ⟨⟨1, 1, 1⟩, .normal (.bootstrapControl ⟨⟨1⟩, ⟨1⟩, ⟨"events"⟩⟩ none none [dataGroupId] 10 10)⟩ ::
    commands.mapIdx fun index command => ⟨⟨1, 1, index + 2⟩, .normal (.exportProtocol command)⟩

theorem export_and_administration_exclusive_sample : ∃ (steps : List Step) (db : GroupDb),
    steps.map Step.entry =
      exportEntries (abortedExport ++ [.begin (sampleIntent 2) sampleDeadline]) ∧
    (db.get .activeExport).map (fun active => active.spec.epoch.value) = some 2 ∧
    db.view.ExportExclusive ∧ (LightStream.begunEpochs steps).Pairwise (· < ·) := by
  have exporting : freshControl.leaves (exportEntries (abortedExport ++ [.begin (sampleIntent 2) sampleDeadline])) (fun db =>
      decide ((db.get .activeExport).map (fun active => active.spec.epoch.value) =
          some 2)) = true := by decide
  obtain ⟨results, db, submitted, exporting⟩ := leaves_iff.mp exporting
  simp only [decide_eq_true_eq] at exporting
  have ran : Ran freshControl.identity 2 (fun _ => []) (fun _ _ => True)
      ([] ++ exportEntries (abortedExport ++ [.begin (sampleIntent 2) sampleDeadline])) db :=
    Ran.submitAll .created (create_usedBelow _ _) (by decide) (by decide)
      (fun _ _ _ => trivial) submitted
  obtain ⟨steps, same, traced⟩ := ran.traced
  exact ⟨steps, db, same, exporting, export_and_administration_exclusive rfl traced⟩

end GroupDb

end LightStream
