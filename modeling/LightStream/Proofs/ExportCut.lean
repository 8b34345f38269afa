import LightStream.Proofs.ExportTicks

/-!
The cut of an export is consistent, in every state that late and repeated proposals lead to.
-/

namespace LightStream

open Kv (TreeMap)

namespace Cluster

variable {cluster next : Cluster}

section Progress

structure Progress (cluster next : Cluster) : Prop where
  follows : ∀ active, cluster.activeExport = some active → next.Stale active
  covers : ∀ group,
    (next.fence group).Covers (cluster.fence group).throughEpoch (cluster.fence group).held
  epoch : cluster.exportEpoch ≤ next.exportEpoch
  origin : ∀ active, next.activeExport = some active →
    (∃ before, cluster.activeExport = some before ∧ before.spec = active.spec) ∨
      cluster.exportEpoch < active.spec.epoch.value

variable (later : cluster.Progress next)

include later

theorem Stale.after {old : ActiveExport} (stale : cluster.Stale old) : next.Stale old := by
  cases stale with
  | current active found same ends =>
      cases later.follows active found with
      | current now present kept still =>
          exact .current now present (kept.trans same) fun ending => still (ends ending)
      | closed issued past through =>
          rw [same] at issued past through
          exact .closed issued past through
  | closed issued past through =>
      refine .closed (issued.trans later.epoch) (fun active found => ?_) fun group member => ?_
      · rcases later.origin active found with ⟨before, present, same⟩ | newer
        · rw [← same]
          exact past before present
        · omega
      · exact (through group member).trans (later.covers group).through

theorem Claimed.after {token : ExportFenceToken} {group : GroupId} {ending : Prop}
    (claimed : cluster.Claimed token group ending) : next.Claimed token group ending := by
  rcases claimed with ⟨active, found, own, member, ends⟩ | behind
  · cases later.follows active found with
    | current now present same still =>
        refine .inl ⟨now, present, ?_, by rwa [same], fun wanted => still (ends wanted)⟩
        rw [ExportSpec.token, same]
        exact own
    | closed issued past through =>
        rw [← own]
        exact .inr (through group member)
  · exact .inr (behind.trans (later.covers group).through)

theorem Sound.after {proposal : Proposal} (sound : cluster.Sound proposal) :
    next.Sound proposal := by
  cases proposal with
  | data group command =>
      cases command with
      | acquireFence token => exact Claimed.after later sound
      | releaseFence token => exact Claimed.after later sound
      | _ => trivial
  | control command =>
      cases command with
      | recordFence token observation =>
          exact MutationFenceState.Covers.trans sound (later.covers observation.group)
      | recordRelease token observation =>
          exact le_trans (show _ ≤ _ from sound) (later.covers observation.group).through
      | _ => trivial

end Progress

section Commits

variable (invariant : cluster.CutInvariant)

include invariant

theorem CutInvariant.controlProgress {db : GroupDb} {entry : GroupEntry}
    (move : cluster.control.ControlMove db entry) :
    cluster.Progress (cluster.commitControl db) := by
  have covers (group : GroupId) : ((cluster.commitControl db).fence group).Covers
      (cluster.fence group).throughEpoch (cluster.fence group).held := .refl _
  cases move with
  | kept same epoch through =>
      refine ⟨fun active found => ?_, covers, ?_, fun active found => ?_⟩
      · exact .current active (same.trans found) rfl id
      · exact le_of_eq (congrArg (Option.getD · 0) epoch.symm)
      · exact .inl ⟨active, same.symm.trans found, rfl⟩
  | began idle spec cut started newer epoch through =>
      refine ⟨fun active found => ?_, covers, ?_, fun active found => ?_⟩
      · exact absurd (idle.symm.trans found) (by simp)
      · rw [exportEpoch, exportEpoch, commitControl, epoch]
        exact newer.le
      · cases started.symm.trans found
        exact .inr newer
  | moved active moved command sent found stored same move epoch through =>
      refine ⟨fun other present => ?_, covers, ?_, fun other present => ?_⟩
      · cases found.symm.trans present
        exact .current moved stored same move.ends
      · exact le_of_eq (congrArg (Option.getD · 0) epoch.symm)
      · cases stored.symm.trans present
        exact .inl ⟨active, found, same.symm⟩
  | finished active found ready gone epoch through =>
      refine ⟨fun other present => ?_, covers, ?_, fun other present => ?_⟩
      · cases found.symm.trans present
        have counted : (cluster.commitControl db).exportEpoch = cluster.exportEpoch :=
          congrArg (Option.getD · 0) epoch
        refine .closed ?_ (fun other present => ?_) fun group member => ?_
        · rw [counted]
          exact invariant.exclusive.issued active found
        · exact absurd (gone.symm.trans present) (by simp)
        · refine invariant.fenced.released active found group ?_
          rwa [active.releasedGroups_of_ready ready]
      · exact le_of_eq (congrArg (Option.getD · 0) epoch.symm)
      · exact absurd (gone.symm.trans present) (by simp)

theorem CutInvariant.controlFenced {db : GroupDb} {entry : GroupEntry}
    (allowed : cluster.ControlEntry entry) (move : cluster.control.ControlMove db entry) :
    (cluster.commitControl db).Fenced := by
  obtain ⟨issued, owned, recorded, unreleased, released⟩ := invariant.fenced
  have later := invariant.controlProgress move
  have issued (group : GroupId) :
      (cluster.fence group).throughEpoch ≤ (cluster.commitControl db).exportEpoch :=
    (issued group).trans later.epoch
  cases move with
  | kept same epoch through =>
      have activeExport : (cluster.commitControl db).activeExport = cluster.activeExport := same
      constructor
      · exact issued
      · rwa [activeExport]
      · rwa [activeExport]
      · rwa [activeExport]
      · rwa [activeExport]
  | began idle spec cut started newer epoch through =>
      constructor
      · exact issued
      · intro group held isHeld
        obtain ⟨active, found, _⟩ := owned group held isHeld
        exact absurd (idle.symm.trans found) (by simp)
      · intro active cuts group cut found preparing recorded
        cases started.symm.trans found
        cases preparing
        simp at recorded
      · intro active found reversible group member
        cases started.symm.trans found
        exact lt_of_le_of_lt (invariant.fenced.issued group) newer
      · intro active found group member
        cases started.symm.trans found
        simp [ActiveExport.preparing, ActiveExportPhase.releasedGroups] at member
  | moved active moved command sent found stored same move epoch through =>
      have proposed (token : ExportFenceToken) (observation : ExportFenceObservation) :
          command = .recordFence token observation ∨ command = .recordRelease token observation →
            cluster.Sound (.control command) := by
        intro named
        rcases allowed command sent with requested | proposed
        · rcases named with rfl | rfl <;> simp [ExportCommand.requested] at requested
        · exact invariant.sound _ proposed
      have token : moved.spec.token = active.spec.token := by
        rw [ExportSpec.token, ExportSpec.token, same]
      constructor
      · exact issued
      · intro group held isHeld
        obtain ⟨other, present, own, member⟩ := owned group held isHeld
        cases found.symm.trans present
        exact ⟨moved, stored, by rw [own, token], by rwa [same]⟩
      · intro other cuts group cut present relied taken
        cases stored.symm.trans present
        rw [token]
        rcases move.recordedCuts relied taken with ⟨earlier, before, kept⟩ | ⟨reversible, seen⟩
        · exact recorded active earlier group cut found before kept
        · obtain ⟨observation, named, rfl, member, held⟩ := seen
          have covers := proposed _ observation (.inl named)
          rw [named] at covers
          rcases MutationFenceState.Covers.still covers _ held with still | behind
          · exact still
          · have early := unreleased active found reversible observation.group member
            exact absurd early (Nat.not_lt_of_le behind)
      · intro other present reversible group member
        cases stored.symm.trans present
        rw [same] at member ⊢
        refine unreleased active found ?_ group member
        by_contra ending
        have ends := move.ends (by simpa using ending)
        simp [ends] at reversible
      · intro other present group member
        cases stored.symm.trans present
        rw [same]
        rcases move.releasedGroups member with earlier | ⟨observation, named, rfl, through⟩
        · exact released active found group earlier
        · have behind := proposed _ observation (.inr named)
          rw [named] at behind
          exact through.trans behind
  | finished active found ready gone epoch through =>
      constructor
      · exact issued
      · intro group held isHeld
        obtain ⟨other, present, own, member⟩ := owned group held isHeld
        cases found.symm.trans present
        have newer := (cluster.fence group).newer held isHeld
        rw [own] at newer
        rw [← active.releasedGroups_of_ready ready] at member
        have behind := released active found group member
        exact absurd newer (Nat.not_lt_of_le behind)
      · intro active cuts group cut present
        exact absurd (gone.symm.trans present) (by simp)
      · intro active present
        exact absurd (gone.symm.trans present) (by simp)
      · intro active present
        exact absurd (gone.symm.trans present) (by simp)

theorem CutInvariant.controlCommitted {entry : GroupEntry} {result : ApplyResult} {db : GroupDb}
    (allowed : cluster.ControlEntry entry)
    (done : cluster.control.applyEntry entry = .ok (result, db)) :
    (cluster.commitControl db).CutInvariant := by
  have move := GroupDb.applyEntry_controlMove invariant.controlKind invariant.exclusive done
  have later := invariant.controlProgress move
  have kind : db.identity.kind = .control := by
    rw [GroupDb.applyEntry_identity done, invariant.controlKind]
  constructor
  · exact kind
  · exact invariant.dataKind
  · exact GroupDb.applyEntry_exclusive invariant.controlKind invariant.exclusive done
  · exact invariant.controlFenced allowed move
  · intro copy seen old shown
    rcases List.mem_cons.mp seen with rfl | seen
    · rw [GroupDb.activeExport_eq kind] at shown
      exact .current old shown rfl id
    · exact (invariant.controlCopies copy seen old shown).after later
  · exact invariant.dataCopies
  · exact fun proposal member => (invariant.sound proposal member).after later

end Commits

section Fences

variable {group : GroupId} {db : GroupDb} {command : ExportCommand}

theorem commitData_self (cluster : Cluster) (group : GroupId) (db : GroupDb) :
    (cluster.commitData group db).data group = db := Function.update_self ..

theorem commitData_ne (cluster : Cluster) {other : GroupId} (db : GroupDb)
    (different : other ≠ group) : (cluster.commitData group db).data other = cluster.data other :=
  Function.update_of_ne different ..

theorem commitData_seen (cluster : Cluster) (group : GroupId) (db : GroupDb) :
    (cluster.commitData group db).dataSeen group = db :: cluster.dataSeen group :=
  Function.update_self ..

theorem commitData_seen_ne (cluster : Cluster) {other : GroupId} (db : GroupDb)
    (different : other ≠ group) :
    (cluster.commitData group db).dataSeen other = cluster.dataSeen other :=
  Function.update_of_ne different ..

theorem commitData_fence (cluster : Cluster) (group : GroupId) (db : GroupDb) :
    (cluster.commitData group db).fence group = db.mutationFence :=
  congrArg GroupDb.mutationFence (cluster.commitData_self group db)

theorem commitData_other (cluster : Cluster) {other : GroupId} (db : GroupDb)
    (different : other ≠ group) :
    (cluster.commitData group db).fence other = cluster.fence other :=
  congrArg GroupDb.mutationFence (cluster.commitData_ne db different)

theorem Claimed.releases {token : ExportFenceToken} (claimed : cluster.Claimed token group True)
    (own : ∀ held, (cluster.fence group).held = some held → held.token = token) :
    (∃ active, cluster.activeExport = some active ∧ active.spec.token = token ∧
      active.phase.ends = true) ∨
    (cluster.fence group).held = none ∧
      token.epoch.value ≤ (cluster.fence group).throughEpoch := by
  rcases claimed with ⟨active, found, same, _, ends⟩ | behind
  · exact .inl ⟨active, found, same, ends trivial⟩
  · refine .inr ⟨?_, behind⟩
    cases held : (cluster.fence group).held with
    | none => rfl
    | some fenced =>
        have newer := (cluster.fence group).newer fenced held
        rw [own fenced held] at newer
        omega

theorem Fenced.commitData (fenced : cluster.Fenced)
    (through : db.mutationFence.throughEpoch = (cluster.fence group).throughEpoch)
    (held : db.mutationFence.held = (cluster.fence group).held) :
    (cluster.commitData group db).Fenced := by
  have same (other : GroupId) :
      ((cluster.commitData group db).fence other).throughEpoch =
          (cluster.fence other).throughEpoch ∧
        ((cluster.commitData group db).fence other).held = (cluster.fence other).held := by
    by_cases here : other = group
    · rw [here, commitData_fence]
      exact ⟨through, held⟩
    · rw [commitData_other cluster db here]
      exact ⟨rfl, rfl⟩
  constructor
  · intro other
    rw [(same other).1]
    exact fenced.issued other
  · intro other fence isHeld
    rw [(same other).2] at isHeld
    exact fenced.owned other fence isHeld
  · intro active cuts other cut found relied taken
    rw [(same other).2]
    exact fenced.recorded active cuts other cut found relied taken
  · intro active found reversible other member
    rw [(same other).1]
    exact fenced.unreleased active found reversible other member
  · intro active found other member
    rw [(same other).1]
    exact fenced.released active found other member

theorem Fenced.moved (fenced : cluster.Fenced) (exclusive : cluster.control.view.ExportExclusive)
    (sound : cluster.Sound (.data group command))
    (move : FenceMove (cluster.fence group) db.mutationFence command) :
    (cluster.commitData group db).Fenced := by
  have here := cluster.commitData_fence group db
  have elsewhere {other : GroupId} (different : other ≠ group) :=
    cluster.commitData_other db different
  cases move with
  | kept same => exact fenced.commitData (by rw [same]) (by rw [same])
  | acquired token cut sent free newer held through =>
      subst sent
      rcases sound with ⟨active, found, own, member, _⟩ | behind
      · constructor
        · intro other
          by_cases different : other = group
          · subst different
            rw [here, through]
            exact fenced.issued other
          · rw [elsewhere different]
            exact fenced.issued other
        · intro other fence isHeld
          by_cases different : other = group
          · subst different
            rw [here, held] at isHeld
            cases isHeld
            exact ⟨active, found, own.symm, member⟩
          · rw [elsewhere different] at isHeld
            exact fenced.owned other fence isHeld
        · intro current cuts other recorded present relied taken
          have before := fenced.recorded current cuts other recorded present relied taken
          by_cases different : other = group
          · subst different
            simp [free] at before
          · rwa [elsewhere different]
        · intro current present reversible other configured
          by_cases different : other = group
          · subst different
            rw [here, through]
            exact fenced.unreleased current present reversible other configured
          · rw [elsewhere different]
            exact fenced.unreleased current present reversible other configured
        · intro current present other configured
          by_cases different : other = group
          · subst different
            rw [here, through]
            exact fenced.released current present other configured
          · rw [elsewhere different]
            exact fenced.released current present other configured
      · exact absurd newer (Nat.not_lt_of_le behind)
  | released token sent own free through =>
      subst sent
      rcases Claimed.releases sound own with ⟨active, found, same, ends⟩ | ⟨idle, behind⟩
      · have issued : token.epoch.value ≤ cluster.exportEpoch := by
          rw [← same]
          exact exclusive.issued active found
        have counted : (cluster.commitData group db).exportEpoch = cluster.exportEpoch := rfl
        constructor
        · intro other
          by_cases different : other = group
          · subst different
            have before := fenced.issued other
            rw [here, through]
            omega
          · rw [elsewhere different]
            exact fenced.issued other
        · intro other fence isHeld
          by_cases different : other = group
          · subst different
            rw [here, free] at isHeld
            simp at isHeld
          · rw [elsewhere different] at isHeld
            exact fenced.owned other fence isHeld
        · intro current cuts other cut present relied
          cases found.symm.trans present
          rw [ActiveExportPhase.recordedCuts_of_ends ends] at relied
          simp at relied
        · intro current present reversible
          cases found.symm.trans present
          simp [ends] at reversible
        · intro current present other configured
          have before := fenced.released current present other configured
          by_cases different : other = group
          · subst different
            rw [here, through]
            exact before.trans (le_max_left ..)
          · rwa [elsewhere different]
      · exact fenced.commitData (by rw [through, max_eq_left behind]) (by rw [free, idle])

theorem commitData_progress
    (covers : db.mutationFence.Covers (cluster.fence group).throughEpoch (cluster.fence group).held) :
    cluster.Progress (cluster.commitData group db) := by
  refine ⟨fun active found => .current active found rfl id, fun other => ?_, le_rfl,
    fun active found => .inl ⟨active, found, rfl⟩⟩
  by_cases here : other = group
  · rw [here, commitData_fence]
    exact covers
  · rw [commitData_other cluster db here]
    exact .refl _

end Fences

section Data

variable (invariant : cluster.CutInvariant) {group : GroupId} {entry : GroupEntry}
  {result : ApplyResult} {db : GroupDb} (allowed : cluster.DataEntry group entry)
  (done : (cluster.data group).applyEntry entry = .ok (result, db))

include invariant done

theorem CutInvariant.dataProgress : cluster.Progress (cluster.commitData group db) := by
  refine commitData_progress ?_
  rcases GroupDb.applyEntry_fenceMove (invariant.dataKind group) done with
    same | ⟨command, sent, move⟩
  · rw [same]
    exact .refl _
  · exact move.covers

include allowed

theorem CutInvariant.dataFenced : (cluster.commitData group db).Fenced := by
  rcases GroupDb.applyEntry_fenceMove (invariant.dataKind group) done with
    same | ⟨command, sent, move⟩
  · exact invariant.fenced.commitData (by rw [same]; rfl) (by rw [same]; rfl)
  · exact invariant.fenced.moved invariant.exclusive (invariant.sound _ (allowed command sent)) move

theorem CutInvariant.dataCommitted : (cluster.commitData group db).CutInvariant := by
  have later := invariant.dataProgress done
  constructor
  · exact invariant.controlKind
  · intro other
    by_cases here : other = group
    · rw [here, commitData_self, GroupDb.applyEntry_identity done]
      exact invariant.dataKind group
    · rw [commitData_ne cluster db here]
      exact invariant.dataKind other
  · exact invariant.exclusive
  · exact invariant.dataFenced allowed done
  · exact fun copy seen old shown => (invariant.controlCopies copy seen old shown).after later
  · intro other copy seen
    by_cases here : other = group
    · rw [here, commitData_seen] at seen
      rw [here]
      rcases List.mem_cons.mp seen with rfl | seen
      · rw [commitData_fence]
        exact .refl _
      · exact (invariant.dataCopies group copy seen).trans (later.covers group)
    · rw [commitData_seen_ne cluster db here] at seen
      exact (invariant.dataCopies other copy seen).trans (later.covers other)
  · exact fun proposal member => (invariant.sound proposal member).after later

end Data

theorem cutInvariant_created (identifier : ClusterId) (window : Nat) :
    (created identifier window).CutInvariant := by
  have idle : (created identifier window).activeExport = none := rfl
  have fresh (group : GroupId) :
      (created identifier window).fence group = MutationFenceState.default := rfl
  constructor
  · rfl
  · exact fun group => rfl
  · exact GroupView.exportExclusive_empty fun key => rfl
  · constructor
    · exact fun group => Nat.zero_le _
    · intro group held isHeld
      simp [fresh, MutationFenceState.default] at isHeld
    · intro active cuts group cut found
      simp [idle] at found
    · intro active found
      simp [idle] at found
    · intro active found
      simp [idle] at found
  · intro copy seen old shown
    rw [List.mem_singleton.mp seen] at shown
    have idle : (created identifier window).control.activeExport = none := rfl
    exact absurd (idle.symm.trans shown) (by simp)
  · intro group copy seen
    rw [List.mem_singleton.mp seen]
    exact .refl _
  · intro proposal member
    simp [created] at member

theorem CutInvariant.step (invariant : cluster.CutInvariant) (taken : cluster.Step next) :
    cluster.Progress next ∧ next.CutInvariant := by
  cases taken with
  | reconciled node hosts =>
      have later : cluster.Progress (cluster.propose node.reconcileExportTick) :=
        ⟨fun active found => .current active found rfl id, fun group => .refl _, le_rfl,
          fun active found => .inl ⟨active, found, rfl⟩⟩
      obtain ⟨issued, owned, recorded, unreleased, released⟩ := invariant.fenced
      refine ⟨later, ⟨invariant.controlKind, invariant.dataKind, invariant.exclusive,
        ⟨issued, owned, recorded, unreleased, released⟩, fun copy seen old shown => ?_,
        invariant.dataCopies, fun proposal member => ?_⟩⟩
      · exact (invariant.controlCopies copy seen old shown).after later
      · rcases List.mem_append.mp member with new | earlier
        · exact (invariant.tick hosts proposal new).after later
        · exact (invariant.sound proposal earlier).after later
  | controlCommitted entry allowed result db done =>
      exact ⟨invariant.controlProgress
        (GroupDb.applyEntry_controlMove invariant.controlKind invariant.exclusive done),
        invariant.controlCommitted allowed done⟩
  | dataCommitted group entry allowed result db done =>
      exact ⟨invariant.dataProgress done, invariant.dataCommitted allowed done⟩

theorem Reachable.cutInvariant {identifier : ClusterId} {window : Nat}
    (reached : Reachable identifier window cluster) : cluster.CutInvariant := by
  induction reached with
  | created => exact cutInvariant_created identifier window
  | step reached taken invariant => exact (invariant.step taken).2

section Runs

variable {identifier : ClusterId} {window : Nat}

theorem Reachable.current (reached : Reachable identifier window cluster) :
    cluster.control ∈ cluster.controlSeen ∧
      ∀ group, cluster.data group ∈ cluster.dataSeen group := by
  induction reached with
  | created => exact ⟨List.mem_singleton_self _, fun group => List.mem_singleton_self _⟩
  | step reached taken shown =>
      cases taken with
      | reconciled => exact shown
      | controlCommitted => exact ⟨List.mem_cons_self .., shown.2⟩
      | dataCommitted group entry allowed result next done =>
          refine ⟨shown.1, fun other => ?_⟩
          by_cases here : other = group
          · rw [here, commitData_self, commitData_seen]
            exact List.mem_cons_self ..
          · rw [commitData_ne _ next here, commitData_seen_ne _ next here]
            exact shown.2 other

theorem Reachable.leads (reached : Reachable identifier window cluster) (cursor : Nat) :
    cluster.Hosts (cluster.leader cursor) := by
  refine ⟨reached.current.1, ?_, ?_⟩
  · rintro group copy ⟨⟩
    exact reached.current.2 group
  · rintro group copy ⟨⟩
    exact reached.current.2 group

theorem Reachable.perform (reached : Reachable identifier window cluster) {action : Action}
    (done : cluster.perform action = some next) : Reachable identifier window next := by
  cases action with
  | tick cursor =>
      cases done
      exact reached.step (.reconciled _ (reached.leads cursor))
  | control entry =>
      simp only [Cluster.perform] at done
      split at done
      · rename_i allowed
        cases applied : cluster.control.applyEntry entry with
        | error error =>
            rw [applied] at done
            cases done
        | ok answer =>
            rw [applied] at done
            cases done
            refine reached.step (.controlCommitted entry (fun command sent => ?_) answer.1 answer.2
              applied)
            rw [exportCommand_eq sent] at allowed
            simpa using allowed
      · cases done
  | data group entry =>
      simp only [Cluster.perform] at done
      split at done
      · rename_i allowed
        cases applied : (cluster.data group).applyEntry entry with
        | error error =>
            rw [applied] at done
            cases done
        | ok answer =>
            rw [applied] at done
            cases done
            refine reached.step (.dataCommitted group entry (fun command sent => ?_) answer.1
              answer.2 applied)
            rw [exportCommand_eq sent] at allowed
            simpa using allowed
      · cases done

theorem Reachable.performAll (reached : Reachable identifier window cluster)
    {actions : List Action} (done : cluster.performAll actions = some next) :
    Reachable identifier window next := by
  induction actions generalizing cluster with
  | nil =>
      cases done
      exact reached
  | cons action rest ih =>
      obtain ⟨middle, first, rest⟩ := Option.bind_eq_some_iff.mp done
      exact ih (reached.perform first) rest

end Runs

/-- What the fences of a consistent cut say.  A finished export was active in a committed state
and is no more. -/
structure ConsistentCut (cluster : Cluster) : Prop where
  preparing : ∀ active controlCut fencedGroups, cluster.activeExport = some active →
    active.phase = .preparing controlCut fencedGroups → ∀ group cut,
      fencedGroups[group]? = some cut →
        (cluster.fence group).held = some ⟨active.spec.token, cut⟩
  frozen : ∀ active cut, cluster.activeExport = some active →
    active.phase = .frozen cut ∨ active.phase = .materializing cut ∨
        (∃ artifact, active.phase = .available cut artifact) →
      ∀ group ∈ active.spec.configuredDataGroups, ∃ groupCut,
        cut.data[group]? = some groupCut ∧
          (cluster.fence group).held = some ⟨active.spec.token, groupCut⟩
  finished : ∀ copy ∈ cluster.controlSeen, ∀ old, copy.activeExport = some old →
    (∀ active, cluster.activeExport = some active → active.spec ≠ old.spec) →
      (∀ group held, (cluster.fence group).held = some held → held.token ≠ old.spec.token) ∧
        ∀ held, cluster.control.mutationFence.held = some held → held.token ≠ old.spec.token
  idle : cluster.activeExport = none → ∀ group, (cluster.fence group).held = none

theorem Stale.other {old active : ActiveExport} (stale : cluster.Stale old)
    (gone : ∀ active, cluster.activeExport = some active → active.spec ≠ old.spec)
    (found : cluster.activeExport = some active) : active.spec.token ≠ old.spec.token := by
  cases stale with
  | current now present same => exact absurd same (gone now present)
  | closed issued past through =>
      intro same
      have epoch : active.spec.epoch = old.spec.epoch := congrArg ExportFenceToken.epoch same
      have newer := past active found
      rw [epoch] at newer
      omega

theorem CutInvariant.consistentCut (invariant : cluster.CutInvariant) : cluster.ConsistentCut := by
  obtain ⟨issued, owned, recorded, unreleased, released⟩ := invariant.fenced
  constructor
  · intro active controlCut fencedGroups found phase group cut fenced
    exact recorded active fencedGroups group cut found (by rw [phase]; rfl) fenced
  · intro active cut found phase group member
    have relied : active.phase.recordedCuts = some cut.data ∧
        TreeMap.keySet cut.data = active.spec.configuredDataGroups := by
      have valid := active.valid
      rcases phase with phase | phase | ⟨artifact, phase⟩ <;> rw [phase] at valid ⊢ <;>
        exact ⟨rfl, valid⟩
    rw [← relied.2, TreeMap.mem_keySet] at member
    obtain ⟨groupCut, taken⟩ : ∃ groupCut, cut.data[group]? = some groupCut :=
      ⟨_, Std.ExtTreeMap.getElem?_eq_some_getElem member⟩
    exact ⟨groupCut, taken, recorded active cut.data group groupCut found relied.1 taken⟩
  · intro copy seen old shown gone
    have stale := invariant.controlCopies copy seen old shown
    refine ⟨fun group held isHeld => ?_, fun held isHeld => ?_⟩
    · obtain ⟨active, found, own, _⟩ := owned group held isHeld
      rw [own]
      exact stale.other gone found
    · have exporting : (cluster.control.view.get .activeExport).isSome = true :=
        invariant.exclusive.fenced.mpr (Option.isSome_of_eq_some isHeld)
      obtain ⟨active, found⟩ := Option.isSome_iff_exists.mp exporting
      rw [invariant.exclusive.token active held found isHeld]
      exact stale.other gone found
  · intro idle group
    cases isHeld : (cluster.fence group).held with
    | none => rfl
    | some held =>
        obtain ⟨active, found, _⟩ := owned group held isHeld
        rw [idle] at found
        simp at found

theorem CutInvariant.through_le (invariant : cluster.CutInvariant) (taken : cluster.Step next) :
    cluster.control.mutationFence.throughEpoch ≤ next.control.mutationFence.throughEpoch ∧
      ∀ group, (cluster.fence group).throughEpoch ≤ (next.fence group).throughEpoch := by
  refine ⟨?_, fun group => ((invariant.step taken).1.covers group).through⟩
  cases taken with
  | reconciled => exact le_rfl
  | dataCommitted => exact le_rfl
  | controlCommitted entry allowed result db done =>
      cases GroupDb.applyEntry_controlMove invariant.controlKind invariant.exclusive done with
      | kept same epoch through => exact through.le
      | began idle spec cut started newer epoch through => exact through.le
      | moved active moved command sent found stored same move epoch through => exact through.le
      | finished active found ready gone epoch through => exact through

/-- In every reachable state the cut of the active export is held as recorded, no finished export
holds a fence, and every step keeps or raises the watermarks. -/
theorem export_cut_consistent {identifier : ClusterId} {window : Nat}
    (reached : Reachable identifier window cluster) :
    cluster.ConsistentCut ∧ ∀ next, cluster.Step next →
      cluster.control.mutationFence.throughEpoch ≤ next.control.mutationFence.throughEpoch ∧
        ∀ group, (cluster.fence group).throughEpoch ≤ (next.fence group).throughEpoch :=
  ⟨reached.cutInvariant.consistentCut, fun _ taken => reached.cutInvariant.through_le taken⟩

def sampleFence : HeldExportFence :=
  ⟨GroupDb.exportToken, ⟨dataGroupId, 1, ⟨1, Nat.one_ne_zero⟩, 1⟩⟩

/-- An export is begun, its data group acquires the fence and the control group records it. -/
def frozenExport : List Action :=
  (GroupDb.exportEntries [.begin (GroupDb.sampleIntent 1) GroupDb.sampleDeadline]).map .control ++
    [.tick 0,
      .data dataGroupId ⟨⟨1, 1, 1⟩, .normal (.exportProtocol (.acquireFence GroupDb.exportToken))⟩,
      .tick 0,
      .control ⟨⟨1, 1, 3⟩, .normal (.exportProtocol (.recordFence GroupDb.exportToken
        ⟨dataGroupId, 0, some sampleFence⟩))⟩]

theorem export_cut_consistent_sample : ∃ cluster : Cluster,
    cluster.activeExport.map ActiveExport.statusPhase = some .frozen ∧
    (cluster.fence dataGroupId).held = some sampleFence ∧ cluster.ConsistentCut := by
  have frozen : ((created ⟨1⟩ 2).performAll frozenExport).any (fun cluster =>
      decide (cluster.activeExport.map ActiveExport.statusPhase = some .frozen ∧
        (cluster.fence dataGroupId).held = some sampleFence)) = true := by decide +kernel
  obtain ⟨cluster, performed, phase⟩ := (Option.any_eq_true _ _).mp frozen
  have phase := of_decide_eq_true phase
  have reached := Reachable.created.performAll performed
  exact ⟨cluster, phase.1, phase.2, (export_cut_consistent reached).1⟩

end Cluster

end LightStream
