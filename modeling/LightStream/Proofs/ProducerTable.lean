import LightStream.Proofs.PrincipalKeys

/-!
The receipt table of producers: whatever commands a group has applied, a producer session keeps the
receipts of its last requests, a window of them at most, and no others.
-/

namespace LightStream

namespace GroupView

variable {view other : GroupView} {logId : GroupLogId} {batch : PublishBatch} {result : ApplyResult}
  {write : WriteBatch}

def producerSession (view : GroupView) (partition : PartitionKey) (request : ProducerRequestId) :
    SessionState := (view.get (sessionKey partition request)).getD SessionState.default

structure PublishTable (view : GroupView) (window : Nat) : Prop where
  windowed : ∀ partition request, (view.producerSession partition request).Windowed window
  retained : ∀ partition request, (view.get (.receipt partition request)).isSome = true ↔
    request.sequence ∈ (view.producerSession partition request).retainedSequences

theorem PublishTable.congr {window : Nat} (table : view.PublishTable window)
    (same : ∀ key : StateKey, key.family ∈ [StateFamily.receipt, .session] →
      other.get key = view.get key) : other.PublishTable window := by
  have sessions (partition : PartitionKey) (request : ProducerRequestId) :
      other.producerSession partition request = view.producerSession partition request := by
    rw [producerSession, producerSession, same _ (by simp [StateKey.family])]
  constructor
  · intro partition request
    rw [sessions]
    exact table.windowed partition request
  · intro partition request
    rw [sessions, same _ (by simp [StateKey.family])]
    exact table.retained partition request

section Records

variable {stored : StoredPublishOutcome} {writes : StateBatch}

theorem Records.session (records : view.Records batch stored writes) (partition : PartitionKey)
    (request : ProducerRequestId) : (view.after writes).producerSession partition request =
      if sessionKey partition request = sessionKey batch.partition batch.request then
        ((view.sessionOf batch).advance view.receiptWindow batch.request.sequence).1
      else view.producerSession partition request := by
  have effect : writes.effect (sessionKey partition request) = _ := records.effect (by
    simp [StateKey.family, publishFamilies])
  show ((writes.effect _).getD _).getD _ = _
  rw [effect]
  obtain ⟨principal, session, sequence⟩ := request
  split
  · rename_i own
    simp only [StateKey.session.injEq] at own
    obtain ⟨rfl, rfl, rfl⟩ := own
    rw [receiptWrites_effect_session]
    rfl
  · rename_i other
    have untouched := @receiptWrites_effect_other_session view batch (view.sessionOf batch) stored
      (partition, principal, session) (by
        intro own
        cases own
        exact other rfl)
    dsimp only at untouched ⊢
    rw [untouched]
    rfl

theorem PublishTable.records (table : view.PublishTable view.receiptWindow)
    (records : view.Records batch stored writes) :
    (view.after writes).PublishTable view.receiptWindow := by
  have newer := records.newer
  have windowed : (view.sessionOf batch).Windowed view.receiptWindow :=
    table.windowed batch.partition batch.request
  constructor
  · intro partition request
    rw [records.session]
    split
    · exact windowed.advance newer
    · exact table.windowed partition request
  · intro partition request
    have before := table.retained partition request
    rw [records.session]
    show ((writes.effect _).getD _).isSome = true ↔ _
    rw [records.effect (by simp [StateKey.family, publishFamilies]), receiptWrites_effect_receipt]
    obtain ⟨principal, session, sequence⟩ := request
    by_cases own : sessionKey partition ⟨principal, session, sequence⟩ =
        sessionKey batch.partition batch.request
    · rw [if_pos own]
      simp only [StateKey.session.injEq] at own
      obtain ⟨rfl, rfl, rfl⟩ := own
      have evicted : ((view.sessionOf batch).advance view.receiptWindow
            batch.request.sequence).2.map (expiredRequest batch.request) =
              some ⟨batch.request.principal, batch.request.session, sequence⟩ ↔
          ((view.sessionOf batch).advance view.receiptWindow batch.request.sequence).2 =
            some sequence := by simp [expiredRequest]
      have named : (⟨batch.request.principal, batch.request.session, sequence⟩ :
          ProducerRequestId) = batch.request ↔ sequence = batch.request.sequence := by
        constructor
        · intro same
          rw [← same]
        · rintro rfl
          rfl
      have known : sequence ∈ (view.sessionOf batch).retainedSequences ↔ _ := before.symm
      rw [windowed.mem_advance newer, known]
      simp only [evicted, named, true_and]
      split
      · simp_all
      · split
        · simp_all
        · simp_all
    · rw [if_neg own, if_neg, if_neg]
      · exact before
      · rintro ⟨rfl, same⟩
        exact own (by rw [← same])
      · rintro ⟨rfl, expired⟩
        obtain ⟨_, _, same⟩ := Option.map_eq_some_iff.mp expired
        cases same
        exact own rfl

end Records

theorem dispatch_publishTable {command : GroupCommand}
    (table : view.PublishTable view.receiptWindow)
    (done : view.dispatch logId command = .ok (result, write)) :
    (view.after write.state).PublishTable view.receiptWindow := by
  have others (unpublished : command.publishing = none) :
      (view.after write.state).PublishTable view.receiptWindow :=
    table.congr fun key inside => after_get_of_within (dispatch_within command result write done)
      (GroupCommand.families_unpublished unpublished _ inside)
  cases command with
  | publish batch =>
      rcases applyPublish_quiet_or_records done with quiet | ⟨receipt, _, _, records⟩
      · rw [quiet]
        exact table
      · exact table.records records
  | publishMany batch =>
      obtain ⟨_, held⟩ := @applyPublishMany_carries view logId write
        (fun _ write => (view.after write.state).PublishTable view.receiptWindow) table (by
          intro cluster requestOrdinal slot batch first write outcome held item
          rw [show (first.append write).state = first.state ++ write.state from rfl, after_append]
          rcases item with rfl | item
          · exact held
          rcases item.quiet_or_records with rfl | ⟨_, _, _, records⟩
          · exact held
          · exact held.records records) batch result done
      exact held
  | _ => exact others rfl

end GroupView

namespace GroupDb

variable {identity : GroupIdentity} {window : Nat} {content : PayloadId → Record}
  {Allowed : GroupDb → GroupEntry → Prop} {history : List GroupEntry} {db : GroupDb}

/-- In every reachable state a producer session has the receipts of its retained sequences and no
others, and these are at most a window of growing sequences that it has passed. -/
theorem publish_receipts_exact (ran : Ran identity window content Allowed history db) :
    db.view.PublishTable window := by
  have reached : ∀ view : GroupView, view.get = db.get → view.PublishTable window := by
    refine @Ran.invariant identity window content Allowed history db
      (fun get => ∀ view : GroupView, view.get = get → view.PublishTable window) ?_ ?_ ran
    · intro view empty
      constructor
      · intro partition request
        rw [GroupView.producerSession, empty]
        exact SessionState.windowed_default
      · simp [GroupView.producerSession, empty, SessionState.default]
    · intro history db next entry result ran held due allowed done view same
      have settings : db.view.receiptWindow = window := ran.settings.2
      have table := held db.view rfl
      have apart {key : StateKey} (inside : key.family ∈ [StateFamily.receipt, .session]) :
          key.family ≠ .applied ∧ key.family ≠ .membership := by
        simp only [List.mem_cons, List.not_mem_nil, or_false] at inside
        rcases inside with family | family <;> simp [family]
      cases applyEntry_case done with
      | quiet silent noop reads =>
          refine table.congr fun key inside => ?_
          rw [same, reads key (by simp [apart inside]), view_get]
      | fenced command held normal included isHeld answer replayed answered reads =>
          refine table.congr fun key inside => ?_
          rw [same, reads key (by simp [apart inside]), view_get]
      | dispatched command write normal free dispatched reads =>
          rw [← settings] at table ⊢
          refine (GroupView.dispatch_publishTable table dispatched).congr fun key inside => ?_
          rw [same, reads key (by simp [apart inside])]
  exact reached db.view rfl

def thirdPublish : GroupEntry :=
  ⟨⟨1, 1, 7⟩, .normal (.publish (samplePublish sampleCluster 2 none))⟩

theorem publish_receipts_exact_sample : ∃ db : GroupDb,
    db.get (.receipt samplePartition (samplePublish sampleCluster 0 none).request) = none ∧
    (db.get (.receipt samplePartition (samplePublish sampleCluster 2 none).request)).isSome ∧
    db.view.PublishTable 2 := by
  have stored : freshData.leaves (replayEntries ++ [thirdPublish]) (fun db => decide
      (db.get (.receipt samplePartition (samplePublish sampleCluster 0 none).request) = none) &&
      (db.get (.receipt samplePartition (samplePublish sampleCluster 2 none).request)).isSome) =
        true := by decide
  obtain ⟨results, db, submitted, stored⟩ := leaves_iff.mp stored
  simp only [Bool.and_eq_true, decide_eq_true_eq] at stored
  have ran : Ran freshData.identity 2 (fun _ => [7]) (fun _ _ => True)
      ([] ++ (replayEntries ++ [thirdPublish])) db :=
    Ran.submitAll .created (create_usedBelow _ _) (by decide) (by decide)
      (fun _ _ _ => trivial) submitted
  exact ⟨db, stored.1, stored.2, publish_receipts_exact ran⟩

end GroupDb

end LightStream
