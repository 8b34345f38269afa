import LightStream.Proofs.Frame

/-!
What the expiry of due leases leaves: the due leases are terminal, and the storage they protected
is handed to the reclaim cursor, or to a hint while a fence is held.
-/

namespace LightStream

def isDue (clock : SafeLeaseClock) (lease : ReplayLease) : Bool :=
  decide (lease.lifecycle = .active) && !leaseIsEffectivelyActive lease clock

def Lowered (before after : PartitionRetentionState) : Prop :=
  ∃ cursor ≤ before.reclaimCursor, after = { before with reclaimCursor := cursor }

theorem Lowered.refl (retention : PartitionRetentionState) : Lowered retention retention :=
  ⟨retention.reclaimCursor, le_rfl, rfl⟩

theorem Lowered.trans {first second third : PartitionRetentionState}
    (before : Lowered first second) (after : Lowered second third) : Lowered first third := by
  obtain ⟨middle, below, rfl⟩ := before
  obtain ⟨cursor, lower, rfl⟩ := after
  exact ⟨cursor, lower.trans below, rfl⟩

theorem Lowered.floor {before after : PartitionRetentionState} (lowered : Lowered before after) :
    after.logicalFloor = before.logicalFloor := by
  obtain ⟨cursor, _, rfl⟩ := lowered
  rfl

theorem Lowered.cursor {before after : PartitionRetentionState} (lowered : Lowered before after) :
    after.reclaimCursor ≤ before.reclaimCursor := by
  obtain ⟨cursor, below, rfl⟩ := lowered
  exact below

namespace GroupView

variable {view : GroupView}

theorem lowerCursor_lowered (start : Nat) (retention : PartitionRetentionState) :
    Lowered retention (lowerCursor start retention) := by
  unfold lowerCursor
  split
  · exact ⟨_, min_le_left .., rfl⟩
  · exact .refl retention

theorem lowerCursor_start {start : Nat} {retention : PartitionRetentionState}
    (below : start < retention.logicalFloor) :
    (lowerCursor start retention).reclaimCursor ≤ start := by
  rw [lowerCursor, if_pos below]
  exact min_le_right ..

def hintFor (hints : List (PartitionKey × Nat)) (partition : PartitionKey) : Option Nat :=
  (hints.find? fun entry => entry.1 = partition).map Prod.snd

theorem addHint_keys (partition : PartitionKey) (start : Nat) (hints : List (PartitionKey × Nat)) :
    (addHint partition start hints).map Prod.fst =
      if partition ∈ hints.map Prod.fst then hints.map Prod.fst
      else hints.map Prod.fst ++ [partition] := by
  induction hints with
  | nil => rfl
  | cons head rest ih =>
      obtain ⟨hinted, cursor⟩ := head
      rw [addHint]
      by_cases same : hinted = partition
      · simp [same]
      · rw [if_neg same, List.map_cons, ih]
        by_cases later : partition ∈ rest.map Prod.fst
        · simp [later]
        · simp [later, Ne.symm same]

theorem addHint_hintFor (partition other : PartitionKey) (start : Nat)
    (hints : List (PartitionKey × Nat)) :
    hintFor (addHint partition start hints) other =
      if other = partition then
        some (match hintFor hints partition with
          | none => start
          | some cursor => min cursor start)
      else hintFor hints other := by
  induction hints with
  | nil =>
      by_cases same : other = partition
      · subst same
        simp [addHint, hintFor]
      · simp [addHint, hintFor, same, Ne.symm same]
  | cons head rest ih =>
      obtain ⟨hinted, cursor⟩ := head
      rw [addHint]
      by_cases same : hinted = partition
      · subst same
        by_cases own : other = hinted
        · subst own
          simp [hintFor]
        · simp [hintFor, own, Ne.symm own]
      · rw [if_neg same]
        by_cases first : hinted = other
        · subst first
          simp [hintFor, same]
        · simp only [hintFor, List.find?_cons, first, same, decide_false] at ih ⊢
          exact ih

theorem expireRetention_keys (range : ReplayRange)
    (retentions : List (PartitionKey × PartitionRetentionState)) :
    (view.expireRetention range retentions).map Prod.fst =
      if range.partition ∈ retentions.map Prod.fst then retentions.map Prod.fst
      else retentions.map Prod.fst ++ [range.partition] := by
  induction retentions with
  | nil => rfl
  | cons head rest ih =>
      obtain ⟨partition, retention⟩ := head
      rw [expireRetention]
      by_cases same : partition = range.partition
      · simp [same]
      · rw [if_neg same, List.map_cons, ih]
        by_cases later : range.partition ∈ rest.map Prod.fst
        · simp [later]
        · simp [later, Ne.symm same]

def loadedRetention (view : GroupView)
    (retentions : List (PartitionKey × PartitionRetentionState)) (partition : PartitionKey) :
    PartitionRetentionState :=
  match retentions.find? (fun entry => entry.1 = partition) with
  | some entry => entry.2
  | none => view.retentionOf partition

theorem expireRetention_loaded (range : ReplayRange)
    (retentions : List (PartitionKey × PartitionRetentionState)) (partition : PartitionKey) :
    view.loadedRetention (view.expireRetention range retentions) partition =
      if partition = range.partition then
        lowerCursor range.start (view.loadedRetention retentions partition)
      else view.loadedRetention retentions partition := by
  induction retentions with
  | nil =>
      by_cases same : partition = range.partition
      · simp [loadedRetention, expireRetention, same]
      · simp [loadedRetention, expireRetention, same, Ne.symm same]
  | cons head rest ih =>
      obtain ⟨loaded, retention⟩ := head
      rw [expireRetention]
      by_cases same : loaded = range.partition
      · rw [if_pos same]
        by_cases own : partition = range.partition
        · simp [loadedRetention, same, own]
        · simp [loadedRetention, same, own, Ne.symm own]
      · rw [if_neg same]
        by_cases first : loaded = partition
        · subst first
          simp [loadedRetention, same]
        · simp only [loadedRetention, List.find?_cons, first, decide_false] at ih ⊢
          exact ih

def lowerFor (view : GroupView) (leases : List ReplayLease)
    (retentions : List (PartitionKey × PartitionRetentionState)) :
    List (PartitionKey × PartitionRetentionState) :=
  leases.foldl (fun retentions lease => view.expireRetention lease.range retentions) retentions

theorem lowerFor_distinct (leases : List ReplayLease)
    {retentions : List (PartitionKey × PartitionRetentionState)}
    (distinct : (retentions.map Prod.fst).Nodup) :
    ((view.lowerFor leases retentions).map Prod.fst).Nodup := by
  induction leases generalizing retentions with
  | nil => exact distinct
  | cons lease rest ih =>
      refine ih ?_
      rw [expireRetention_keys]
      split
      · exact distinct
      · rename_i fresh
        exact List.nodup_append.mpr ⟨distinct, by simp, by
          intro first member second single same
          rw [List.mem_singleton] at single
          exact fresh (single ▸ same ▸ member)⟩

theorem lowerFor_lowered (leases : List ReplayLease)
    (retentions : List (PartitionKey × PartitionRetentionState)) (partition : PartitionKey) :
    Lowered (view.loadedRetention retentions partition)
      (view.loadedRetention (view.lowerFor leases retentions) partition) := by
  induction leases generalizing retentions with
  | nil => exact .refl _
  | cons lease rest ih =>
      refine .trans ?_ (ih (view.expireRetention lease.range retentions))
      rw [expireRetention_loaded]
      split
      · exact lowerCursor_lowered _ _
      · exact .refl _

theorem lowerFor_start {leases : List ReplayLease} {lease : ReplayLease} (member : lease ∈ leases)
    {retentions : List (PartitionKey × PartitionRetentionState)}
    (below : lease.range.start <
      (view.loadedRetention retentions lease.range.partition).logicalFloor) :
    (view.loadedRetention (view.lowerFor leases retentions) lease.range.partition).reclaimCursor ≤
      lease.range.start := by
  induction leases generalizing retentions with
  | nil => simp at member
  | cons head rest ih =>
      have step := @lowerFor_lowered view [head] retentions lease.range.partition
      rcases List.mem_cons.mp member with rfl | inRest
      · refine (lowerFor_lowered rest _ _).cursor.trans ?_
        rw [expireRetention_loaded, if_pos rfl]
        exact lowerCursor_start below
      · refine ih inRest ?_
        show _ < (view.loadedRetention (view.lowerFor [head] retentions) _).logicalFloor
        rw [step.floor]
        exact below

theorem lowerFor_reached (leases : List ReplayLease)
    (retentions : List (PartitionKey × PartitionRetentionState)) (partition : PartitionKey) :
    (view.loadedRetention (view.lowerFor leases retentions) partition).reclaimCursor =
        (view.loadedRetention retentions partition).reclaimCursor ∨
      ∃ lease ∈ leases, lease.range.partition = partition ∧
        (view.loadedRetention (view.lowerFor leases retentions) partition).reclaimCursor =
          lease.range.start := by
  induction leases generalizing retentions with
  | nil => exact .inl rfl
  | cons lease rest ih =>
      have step : view.lowerFor (lease :: rest) retentions =
          view.lowerFor rest (view.expireRetention lease.range retentions) := rfl
      rw [step]
      rcases ih (view.expireRetention lease.range retentions) with kept | ⟨other, member, own, at'⟩
      · rw [kept, expireRetention_loaded]
        split
        · rename_i own
          unfold lowerCursor
          split
          · rcases min_choice (view.loadedRetention retentions partition).reclaimCursor
              lease.range.start with kept | lowered
            · exact .inl kept
            · exact .inr ⟨lease, List.mem_cons_self .., own.symm, lowered⟩
          · exact .inl rfl
        · exact .inl rfl
      · exact .inr ⟨other, List.mem_cons_of_mem _ member, own, at'⟩

def hintAll (leases : List ReplayLease) (hints : List (PartitionKey × Nat)) :
    List (PartitionKey × Nat) :=
  leases.foldl (fun hints lease => addHint lease.range.partition lease.range.start hints) hints

theorem hintAll_distinct (leases : List ReplayLease) {hints : List (PartitionKey × Nat)}
    (distinct : (hints.map Prod.fst).Nodup) : ((hintAll leases hints).map Prod.fst).Nodup := by
  induction leases generalizing hints with
  | nil => exact distinct
  | cons lease rest ih =>
      refine ih ?_
      rw [addHint_keys]
      split
      · exact distinct
      · rename_i fresh
        exact List.nodup_append.mpr ⟨distinct, by simp, by
          intro first member second single same
          rw [List.mem_singleton] at single
          exact fresh (single ▸ same ▸ member)⟩

theorem hintAll_kept (leases : List ReplayLease) {hints : List (PartitionKey × Nat)}
    {partition : PartitionKey} {hint : Nat} (hinted : hintFor hints partition = some hint) :
    ∃ lower ≤ hint, hintFor (hintAll leases hints) partition = some lower := by
  induction leases generalizing hints hint with
  | nil => exact ⟨hint, le_rfl, hinted⟩
  | cons lease rest ih =>
      have step : ∃ lower ≤ hint, hintFor
          (addHint lease.range.partition lease.range.start hints) partition = some lower := by
        rw [addHint_hintFor]
        split
        · rename_i same
          rw [← same, hinted]
          exact ⟨_, min_le_left .., rfl⟩
        · exact ⟨hint, le_rfl, hinted⟩
      obtain ⟨middle, below, found⟩ := step
      obtain ⟨lower, lowest, last⟩ := ih found
      exact ⟨lower, lowest.trans below, last⟩

theorem hintAll_start {leases : List ReplayLease} {lease : ReplayLease} (member : lease ∈ leases)
    (hints : List (PartitionKey × Nat)) :
    ∃ lower ≤ lease.range.start,
      hintFor (hintAll leases hints) lease.range.partition = some lower := by
  induction leases generalizing hints with
  | nil => simp at member
  | cons head rest ih =>
      rcases List.mem_cons.mp member with rfl | inRest
      · have step := addHint_hintFor lease.range.partition lease.range.partition lease.range.start
          hints
        rw [if_pos rfl] at step
        obtain ⟨lower, below, last⟩ := hintAll_kept rest step
        refine ⟨lower, below.trans ?_, last⟩
        split
        · exact le_rfl
        · exact min_le_right ..
      · exact ih inRest _

def dueLeases (clock : SafeLeaseClock) (leases : List ReplayLease) : List ReplayLease :=
  leases.filter (isDue clock)

def belowFloor (view : GroupView) (leases : List ReplayLease) : List ReplayLease :=
  leases.filter fun lease =>
    lease.range.start < (view.retentionOf lease.range.partition).logicalFloor

theorem expireLease_eq (clock : SafeLeaseClock) (expiry : LeaseExpiryState) (lease : ReplayLease) :
    (view.expireLease clock expiry lease).active =
        expiry.active ++ [lease].filter (leaseIsEffectivelyActive · clock) ∧
      (view.expireLease clock expiry lease).expired =
        expiry.expired ++ (dueLeases clock [lease]).map ReplayLease.expired ∧
      (view.expireLease clock expiry lease).retentions =
        (if view.exportFenced then expiry.retentions
          else view.lowerFor (dueLeases clock [lease]) expiry.retentions) ∧
      (view.expireLease clock expiry lease).reclaimHints =
        (if view.exportFenced then
          hintAll (view.belowFloor (dueLeases clock [lease])) expiry.reclaimHints
        else expiry.reclaimHints) := by
  unfold expireLease
  by_cases effective : leaseIsEffectivelyActive lease clock = true
  · have early : isDue clock lease = false := by simp [isDue, effective]
    cases fenced : view.exportFenced <;>
      simp [effective, early, dueLeases, lowerFor, hintAll, belowFloor]
  by_cases active : lease.lifecycle = .active
  · have due : isDue clock lease = true := by simp [isDue, effective, active]
    cases fenced : view.exportFenced
    · simp [effective, due, active, dueLeases, lowerFor]
    · by_cases below : lease.range.start <
          (view.retentionOf lease.range.partition).logicalFloor <;>
        simp [effective, due, active, dueLeases, hintAll, belowFloor, below]
  · have ended : isDue clock lease = false := by simp [isDue, active]
    cases fenced : view.exportFenced <;>
      simp [effective, ended, active, dueLeases, lowerFor, hintAll, belowFloor]

theorem foldl_expireLease (clock : SafeLeaseClock) (leases : List ReplayLease)
    (expiry : LeaseExpiryState) :
    (leases.foldl (view.expireLease clock) expiry).active =
        expiry.active ++ leases.filter (leaseIsEffectivelyActive · clock) ∧
      (leases.foldl (view.expireLease clock) expiry).expired =
        expiry.expired ++ (dueLeases clock leases).map ReplayLease.expired ∧
      (leases.foldl (view.expireLease clock) expiry).retentions =
        (if view.exportFenced then expiry.retentions
          else view.lowerFor (dueLeases clock leases) expiry.retentions) ∧
      (leases.foldl (view.expireLease clock) expiry).reclaimHints =
        (if view.exportFenced then
          hintAll (view.belowFloor (dueLeases clock leases)) expiry.reclaimHints
        else expiry.reclaimHints) := by
  induction leases generalizing expiry with
  | nil =>
      refine ⟨by simp, by simp [dueLeases], ?_, ?_⟩
      · cases view.exportFenced <;> rfl
      · cases view.exportFenced <;> rfl
  | cons lease rest ih =>
      obtain ⟨active, expired, retentions, hints⟩ := ih (view.expireLease clock expiry lease)
      obtain ⟨headActive, headExpired, headRetentions, headHints⟩ :=
        view.expireLease_eq clock expiry lease
      have due : dueLeases clock (lease :: rest) =
          dueLeases clock [lease] ++ dueLeases clock rest := by
        rw [dueLeases, ← List.singleton_append, List.filter_append]
        rfl
      rw [List.foldl_cons, active, expired, retentions, hints, headActive, headExpired,
        headRetentions, headHints, due]
      refine ⟨?_, ?_, ?_, ?_⟩
      · rw [List.append_assoc, ← List.filter_append, List.singleton_append]
      · rw [List.append_assoc, ← List.map_append]
      · cases view.exportFenced
        · simp [lowerFor, List.foldl_append]
        · rfl
      · cases view.exportFenced
        · rfl
        · simp [hintAll, belowFloor, List.filter_append, List.foldl_append]

section Due

variable (clock : SafeLeaseClock)

theorem expireDueLeases_active :
    (view.expireDueLeases clock).active = view.leases.filter (leaseIsEffectivelyActive · clock) :=
  (foldl_expireLease clock view.leases _).1

theorem expireDueLeases_expired :
    (view.expireDueLeases clock).expired =
      (dueLeases clock view.leases).map ReplayLease.expired :=
  (foldl_expireLease clock view.leases _).2.1

theorem expireDueLeases_retentions :
    (view.expireDueLeases clock).retentions =
      if view.exportFenced then [] else view.lowerFor (dueLeases clock view.leases) [] :=
  (foldl_expireLease clock view.leases _).2.2.1

theorem expireDueLeases_hints :
    (view.expireDueLeases clock).reclaimHints =
      if view.exportFenced then hintAll (view.belowFloor (dueLeases clock view.leases)) [] else [] :=
  (foldl_expireLease clock view.leases _).2.2.2

theorem expiryWrites_eq :
    ∃ budget : StateBatch, Within [.leaseBudget] budget ∧
      view.expiryWrites (view.expireDueLeases clock) =
        ((view.expireDueLeases clock).expired.map fun lease => .put (.leaseId lease.id) lease) ++
          (budget ++
            (((view.expireDueLeases clock).retentions.map fun entry =>
                .put (.retention entry.1) entry.2) ++
              (view.expireDueLeases clock).reclaimHints.map fun entry =>
                .put (.reclaimHint entry.1) (view.mergedHint entry.1 entry.2))) := by
  by_cases none : (view.expireDueLeases clock).expired = []
  · have due : dueLeases clock view.leases = [] := by
      rw [expireDueLeases_expired] at none
      exact List.map_eq_nil_iff.mp none
    have retentions : (view.expireDueLeases clock).retentions = [] := by
      rw [expireDueLeases_retentions, due]
      cases view.exportFenced <;> rfl
    have hints : (view.expireDueLeases clock).reclaimHints = [] := by
      rw [expireDueLeases_hints, due]
      cases view.exportFenced <;> rfl
    refine ⟨[], within_nil _, ?_⟩
    simp [expiryWrites, none, retentions, hints]
  · refine ⟨[.put .leaseBudget (view.expireDueLeases clock).budget], by simp [StateKey.family], ?_⟩
    rw [expiryWrites, if_neg none]
    rfl

/-- The scans of a view list what it reads, and every lease is stored under its own identity. -/
structure Listed (view : GroupView) : Prop where
  leases : ∀ lease, lease ∈ view.leases ↔ ∃ id, view.get (.leaseId id) = some lease
  hints : ∀ partition cursor,
    (partition, cursor) ∈ view.hints ↔ view.get (.reclaimHint partition) = some cursor
  keyed : ∀ id lease, view.get (.leaseId id) = some lease → lease.id = id

def expired (view : GroupView) (clock : SafeLeaseClock) : GroupView :=
  view.after (view.expiryWrites (view.expireDueLeases clock))

variable {clock}

theorem expired_get_other {key : StateKey}
    (outside : key.family ∉ [StateFamily.lease, .leaseBudget, .retention, .reclaimHint]) :
    (view.expired clock).get key = view.get key :=
  after_get_of_within (expiryWrites_within _) outside

theorem mem_dueLeases {lease : ReplayLease} (listed : view.Listed) :
    lease ∈ dueLeases clock view.leases ↔
      view.get (.leaseId lease.id) = some lease ∧ isDue clock lease = true := by
  simp only [dueLeases, List.mem_filter, listed.leases]
  constructor
  · rintro ⟨⟨id, stored⟩, due⟩
    have own := listed.keyed id lease stored
    subst own
    exact ⟨stored, due⟩
  · rintro ⟨stored, due⟩
    exact ⟨⟨_, stored⟩, due⟩

theorem expired_lease (listed : view.Listed) (id : ReplayLeaseId) :
    (view.expired clock).get (.leaseId id) =
      (view.get (.leaseId id)).map fun lease => if isDue clock lease then lease.expired else lease := by
  obtain ⟨budget, within, writes⟩ := view.expiryWrites_eq clock
  have rest : Within [.leaseBudget, .retention, .reclaimHint]
      (budget ++ (((view.expireDueLeases clock).retentions.map fun entry =>
          .put (.retention entry.1) entry.2) ++
        (view.expireDueLeases clock).reclaimHints.map fun entry =>
          .put (.reclaimHint entry.1) (view.mergedHint entry.1 entry.2))) := by
    simp only [within_append]
    refine ⟨within.mono (by decide), ?_, ?_⟩
    · intro op member
      obtain ⟨entry, _, rfl⟩ := List.mem_map.mp member
      simp [StateKey.family]
    · intro op member
      obtain ⟨entry, _, rfl⟩ := List.mem_map.mp member
      simp [StateKey.family]
  have restSilent := rest.effect_none (show (StateKey.leaseId id).family ∉ _ by
    simp [StateKey.family])
  show Kv.pending view.get _ _ = _
  rw [writes, Kv.pending_append, Kv.pending_of_untouched restSilent, expireDueLeases_expired,
    List.map_map]
  cases stored : view.get (.leaseId id) with
  | none =>
      rw [Kv.pending_of_untouched, stored, Option.map_none]
      rw [Kv.Batch.effect_eq_none_iff]
      intro op member same
      obtain ⟨lease, due, rfl⟩ := List.mem_map.mp member
      have found := ((mem_dueLeases listed).mp due).1
      rw [show lease.id = id by simpa [ReplayLease.expired] using same, stored] at found
      simp at found
  | some value =>
      obtain ⟨lease, same⟩ : ∃ lease : ReplayLease, lease = value := ⟨value, rfl⟩
      rw [← same] at stored ⊢
      clear same
      obtain rfl := listed.keyed id lease stored
      have unique (other : ReplayLease) (due : other ∈ dueLeases clock view.leases)
          (same : other.id = lease.id) : other = lease := by
        have found := ((mem_dueLeases listed).mp due).1
        rw [same, stored] at found
        exact (Option.some.inj found).symm
      rw [Option.map_some]
      by_cases due : isDue clock lease = true
      · rw [if_pos due, Kv.pending, Kv.Batch.effect_of_agreeing, Option.getD_some]
        · exact ⟨_, List.mem_map.mpr ⟨lease, (mem_dueLeases listed).mpr ⟨stored, due⟩, rfl⟩, rfl⟩
        · intro op member same
          obtain ⟨other, otherDue, rfl⟩ := List.mem_map.mp member
          rw [unique other otherDue (by simpa [ReplayLease.expired] using same)]
          exact @Kv.Op.effect_put_self _ StateVal _ (.leaseId lease.id) lease.expired
      · rw [if_neg due, Kv.pending_of_untouched, stored]
        rw [Kv.Batch.effect_eq_none_iff]
        intro op member same
        obtain ⟨other, otherDue, rfl⟩ := List.mem_map.mp member
        have ended := ((mem_dueLeases listed).mp otherDue).2
        rw [unique other otherDue (by simpa [ReplayLease.expired] using same)] at ended
        exact due ended

theorem expired_get_retention (partition : PartitionKey) :
    (view.expired clock).get (.retention partition) =
      ((view.expireDueLeases clock).retentions.find? fun entry => entry.1 = partition).elim
        (view.get (.retention partition)) fun entry => some entry.2 := by
  obtain ⟨budget, within, writes⟩ := view.expiryWrites_eq clock
  have distinct : ((view.expireDueLeases clock).retentions.map Prod.fst).Nodup := by
    rw [expireDueLeases_retentions]
    split
    · exact List.nodup_nil
    · exact lowerFor_distinct _ List.nodup_nil
  have puts := @Kv.Batch.effect_map_put StateKey StateVal _ PartitionKey PartitionRetentionState _
    .retention (fun _ _ same => by simpa using same) (fun _ retention => retention)
    (view.expireDueLeases clock).retentions distinct partition
  have leases : Within [.lease] ((view.expireDueLeases clock).expired.map fun lease =>
      .put (.leaseId lease.id) lease) := by
    intro op member
    obtain ⟨lease, _, rfl⟩ := List.mem_map.mp member
    simp [StateKey.family]
  have hints : Within [.reclaimHint] ((view.expireDueLeases clock).reclaimHints.map fun entry =>
      .put (.reclaimHint entry.1) (view.mergedHint entry.1 entry.2)) := by
    intro op member
    obtain ⟨entry, _, rfl⟩ := List.mem_map.mp member
    simp [StateKey.family]
  show Kv.pending view.get _ _ = _
  rw [writes, Kv.pending, Kv.Batch.effect_append, leases.effect_none (by simp [StateKey.family]),
    Option.or_none, Kv.Batch.effect_append, within.effect_none (by simp [StateKey.family]),
    Option.or_none, Kv.Batch.effect_append, hints.effect_none (by simp [StateKey.family]),
    Option.none_or, puts]
  cases (view.expireDueLeases clock).retentions.find? fun entry => entry.1 = partition <;> rfl

theorem expired_retentionOf (partition : PartitionKey) :
    (view.expired clock).retentionOf partition =
      (view.expireDueLeases clock).retentionFor view partition := by
  rw [retentionOf, expired_get_retention, LeaseExpiryState.retentionFor]
  cases (view.expireDueLeases clock).retentions.find? fun entry => entry.1 = partition <;> rfl

theorem expired_hint (partition : PartitionKey) :
    (view.expired clock).get (.reclaimHint partition) =
      (hintFor (view.expireDueLeases clock).reclaimHints partition).elim
        (view.get (.reclaimHint partition)) fun hint => some (view.mergedHint partition hint) := by
  obtain ⟨budget, within, writes⟩ := view.expiryWrites_eq clock
  have distinct : ((view.expireDueLeases clock).reclaimHints.map Prod.fst).Nodup := by
    rw [expireDueLeases_hints]
    split
    · exact hintAll_distinct _ List.nodup_nil
    · exact List.nodup_nil
  have puts := @Kv.Batch.effect_map_put StateKey StateVal _ PartitionKey Nat _
    .reclaimHint (fun _ _ same => by simpa using same) view.mergedHint
    (view.expireDueLeases clock).reclaimHints distinct partition
  have leases : Within [.lease] ((view.expireDueLeases clock).expired.map fun lease =>
      .put (.leaseId lease.id) lease) := by
    intro op member
    obtain ⟨lease, _, rfl⟩ := List.mem_map.mp member
    simp [StateKey.family]
  have retentions : Within [.retention] ((view.expireDueLeases clock).retentions.map fun entry =>
      .put (.retention entry.1) entry.2) := by
    intro op member
    obtain ⟨entry, _, rfl⟩ := List.mem_map.mp member
    simp [StateKey.family]
  show Kv.pending view.get _ _ = _
  rw [writes, Kv.pending, Kv.Batch.effect_append, leases.effect_none (by simp [StateKey.family]),
    Option.or_none, Kv.Batch.effect_append, within.effect_none (by simp [StateKey.family]),
    Option.or_none, Kv.Batch.effect_append, retentions.effect_none (by simp [StateKey.family]),
    Option.or_none, puts, hintFor]
  cases (view.expireDueLeases clock).reclaimHints.find? fun entry => entry.1 = partition <;> rfl

theorem expired_lowered (partition : PartitionKey) :
    Lowered (view.retentionOf partition) ((view.expired clock).retentionOf partition) := by
  rw [expired_retentionOf]
  show Lowered (view.loadedRetention [] partition) (view.loadedRetention _ partition)
  rw [expireDueLeases_retentions]
  split
  · exact .refl _
  · exact lowerFor_lowered _ _ _

theorem expired_cursor (listed : view.Listed) (unfenced : view.exportFenced = false)
    {id : ReplayLeaseId} {lease : ReplayLease} (stored : view.get (.leaseId id) = some lease)
    (due : isDue clock lease = true)
    (below : lease.range.start < (view.retentionOf lease.range.partition).logicalFloor) :
    ((view.expired clock).retentionOf lease.range.partition).reclaimCursor ≤ lease.range.start := by
  rw [expired_retentionOf]
  show (view.loadedRetention _ _).reclaimCursor ≤ _
  rw [expireDueLeases_retentions, unfenced]
  refine lowerFor_start ?_ below
  exact List.mem_filter.mpr ⟨(listed.leases lease).mpr ⟨id, stored⟩, due⟩

theorem expired_reached (partition : PartitionKey) :
    ((view.expired clock).retentionOf partition).reclaimCursor =
        (view.retentionOf partition).reclaimCursor ∨
      ∃ lease ∈ view.leases, isDue clock lease = true ∧ lease.range.partition = partition ∧
        ((view.expired clock).retentionOf partition).reclaimCursor = lease.range.start := by
  rw [expired_retentionOf]
  show (view.loadedRetention _ partition).reclaimCursor =
    (view.loadedRetention [] partition).reclaimCursor ∨ _
  rw [expireDueLeases_retentions]
  split
  · exact .inl rfl
  · rcases lowerFor_reached (dueLeases clock view.leases) [] partition with
      kept | ⟨lease, member, own, reached⟩
    · exact .inl kept
    · obtain ⟨listed, due⟩ := List.mem_filter.mp member
      refine .inr ⟨lease, listed, due, own, ?_⟩
      rw [← reached]
      show (view.loadedRetention _ partition).reclaimCursor = _
      rename_i unfenced
      rw [expireDueLeases_retentions, if_neg unfenced]

theorem expired_hinted (listed : view.Listed) (fenced : view.exportFenced = true)
    {id : ReplayLeaseId} {lease : ReplayLease} (stored : view.get (.leaseId id) = some lease)
    (due : isDue clock lease = true)
    (below : lease.range.start < (view.retentionOf lease.range.partition).logicalFloor) :
    ∃ hint ≤ lease.range.start,
      (view.expired clock).get (.reclaimHint lease.range.partition) = some hint := by
  have ended : lease ∈ view.belowFloor (dueLeases clock view.leases) := by
    refine List.mem_filter.mpr ⟨List.mem_filter.mpr ⟨?_, due⟩, by simpa using below⟩
    exact (listed.leases lease).mpr ⟨id, stored⟩
  obtain ⟨hint, lower, found⟩ := hintAll_start ended []
  refine ⟨view.mergedHint lease.range.partition hint, ?_, ?_⟩
  · unfold mergedHint
    split
    · exact lower
    · exact (min_le_right ..).trans lower
  · rw [expired_hint, expireDueLeases_hints, fenced, if_pos rfl, found]
    rfl

theorem expired_hint_kept {partition : PartitionKey} {hint : Nat}
    (stored : view.get (.reclaimHint partition) = some hint) :
    ∃ lower ≤ hint, (view.expired clock).get (.reclaimHint partition) = some lower := by
  rw [expired_hint]
  cases hintFor (view.expireDueLeases clock).reclaimHints partition with
  | none => exact ⟨hint, le_rfl, stored⟩
  | some added =>
      refine ⟨_, ?_, rfl⟩
      rw [mergedHint, stored]
      exact min_le_left ..

end Due

end GroupView

end LightStream
