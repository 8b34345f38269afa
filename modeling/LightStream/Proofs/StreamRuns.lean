import LightStream.Proofs.StreamMoves

/-!
No node admits a publish to a deleted stream, as long as no route is resolved on a copy of the
control group that has not seen the deletion.
-/

namespace LightStream

namespace StreamCluster

variable {cluster next : StreamCluster} {stream : StreamId} {index begun : Nat}

/-! ### The log -/

structure Chained (cluster : StreamCluster) : Prop where
  origin : cluster.origin.view.Cataloged
  linked : ∀ index committed, cluster.log[index]? = some committed →
    (cluster.stateAt index).applyEntry committed.entry = .ok (committed.result, committed.after)

theorem stateAt_succ {committed : CommittedEntry} (found : cluster.log[index]? = some committed) :
    cluster.stateAt (index + 1) = committed.after := by
  rw [stateAt, found]
  rfl

theorem Chained.cataloged (chained : cluster.Chained) (within : index ≤ cluster.log.length) :
    (cluster.stateAt index).view.Cataloged := by
  induction index with
  | zero => exact chained.origin
  | succ index ih =>
      obtain ⟨committed, found⟩ : ∃ committed, cluster.log[index]? = some committed :=
        ⟨_, List.getElem?_eq_getElem within⟩
      rw [stateAt_succ found]
      exact (GroupDb.applyEntry_advances (ih (by omega)) (chained.linked index committed found)).cataloged

theorem Chained.withdrawn (chained : cluster.Chained)
    (answered : cluster.Answered begun (.beginDeleteStream stream)) (later : begun < index)
    (within : index ≤ cluster.log.length) : (cluster.stateAt index).view.Withdrawn stream := by
  induction index with
  | zero => omega
  | succ index ih =>
      obtain ⟨committed, found⟩ : ∃ committed, cluster.log[index]? = some committed :=
        ⟨_, List.getElem?_eq_getElem within⟩
      have linked := chained.linked index committed found
      rw [stateAt_succ found]
      by_cases here : begun = index
      · subst here
        obtain ⟨other, same, begins, descriptor, result⟩ := answered
        rw [found] at same
        cases same
        rw [result] at linked
        exact GroupDb.applyEntry_withdraws begins linked
      · have early := ih (by omega) (by omega)
        exact early.advances
          (GroupDb.applyEntry_advances (chained.cataloged (by omega)) linked)

theorem Answered.lt {command : GroupCommand} (answered : cluster.Answered index command) :
    index < cluster.log.length := by
  obtain ⟨committed, found, _⟩ := answered
  exact (List.getElem?_eq_some_iff.mp found).1

theorem Answered.grow {command : GroupCommand} (answered : cluster.Answered index command)
    (more : List CommittedEntry) (grown : next.log = cluster.log ++ more) :
    next.Answered index command := by
  have within := answered.lt
  obtain ⟨committed, found, rest⟩ := answered
  refine ⟨committed, ?_, rest⟩
  rw [grown, List.getElem?_append_left within, found]

theorem stateAt_grow (more : List CommittedEntry) (grown : next.log = cluster.log ++ more)
    (same : next.origin = cluster.origin) (within : index ≤ cluster.log.length) :
    next.stateAt index = cluster.stateAt index := by
  cases index with
  | zero => exact same
  | succ index => rw [stateAt, stateAt, grown, same, List.getElem?_append_left within]

theorem Chained.commit (chained : cluster.Chained) {entry : GroupEntry} {result : ApplyResult}
    {after : GroupDb}
    (done : (cluster.stateAt cluster.log.length).applyEntry entry = .ok (result, after)) :
    Chained { cluster with log := cluster.log ++ [⟨entry, result, after⟩] } := by
  refine ⟨chained.origin, ?_⟩
  intro index committed found
  have state {index : Nat} (within : index ≤ cluster.log.length) :
      stateAt { cluster with log := cluster.log ++ [⟨entry, result, after⟩] } index =
        cluster.stateAt index := stateAt_grow _ rfl rfl within
  by_cases old : index < cluster.log.length
  · rw [state old.le]
    have earlier : cluster.log[index]? = some committed := by
      rw [← found]
      exact (List.getElem?_append_left old).symm
    exact chained.linked index committed earlier
  · have bound := (List.getElem?_eq_some_iff.mp found).1
    simp only [List.length_append, List.length_singleton] at bound
    have last : index = cluster.log.length := by omega
    subst last
    simp only [List.getElem?_append_right le_rfl, Nat.sub_self, List.getElem?_cons_zero] at found
    cases found
    rw [state le_rfl]
    exact done

/-! ### Publishes -/

def StageSound (cluster : StreamCluster) (call : PublishCall) (begun : Nat) : RoutingStage → Prop
  | .started => True
  | .linearizing readIndex => begun < readIndex
  | .linearized => begun < cluster.applied call.node
  | .routed _ => False

structure Sound (cluster : StreamCluster) : Prop where
  chained : cluster.Chained
  applied : ∀ node, cluster.applied node ≤ cluster.log.length
  deletes : ∀ call ∈ cluster.deletes, ∀ index, call.stage = .finishing index →
    cluster.Answered index (.beginDeleteStream call.stream)
  deleted : ∀ entry ∈ cluster.deleted, cluster.Answered entry.2 (.beginDeleteStream entry.1)
  publishes : ∀ entry ∈ cluster.publishes, ∀ begun, entry.1.deleted = some begun →
    cluster.Answered begun (.beginDeleteStream entry.1.partition.stream) ∧
      cluster.StageSound entry.1 begun entry.2
  admitted : ∀ call ∈ cluster.admitted, call.deleted = none

theorem Sound.created (identifier : ClusterId) (window : Nat) :
    (StreamCluster.created identifier window).Sound := by
  refine ⟨⟨?_, ?_⟩, ?_, ?_, ?_, ?_, ?_⟩
  · intro id stored
    exact absurd rfl stored
  · intro index committed found
    cases found
  · intro node
    exact le_rfl
  · intro call member
    cases member
  · intro entry member
    cases member
  · intro entry member
    cases member
  · intro call member
    cases member

theorem Sound.unrouted (sound : cluster.Sound) {node : NodeId}
    (answered : cluster.Answered begun (.beginDeleteStream stream))
    (seen : begun < cluster.applied node) (partition : Nat) :
    (cluster.copy node).route stream partition = .error .streamNotActive :=
  GroupDb.route_withdrawn (sound.chained.withdrawn answered seen (sound.applied node)) partition

theorem mem_drop {call : PublishCall} {stage : RoutingStage} {entry : PublishCall × RoutingStage}
    (member : entry ∈ (cluster.drop call stage).publishes) : entry ∈ cluster.publishes :=
  List.mem_of_mem_erase member

theorem Sound.drop (sound : cluster.Sound) (call : PublishCall) (stage : RoutingStage) :
    (cluster.drop call stage).Sound :=
  ⟨⟨sound.chained.origin, sound.chained.linked⟩, sound.applied, sound.deletes, sound.deleted,
    fun entry member => sound.publishes entry (mem_drop member), sound.admitted⟩

theorem Sound.advance (sound : cluster.Sound) {call : PublishCall} {stage later : RoutingStage}
    (called : (call, stage) ∈ cluster.publishes)
    (known : ∀ begun, call.deleted = some begun → cluster.StageSound call begun later) :
    (cluster.advance call stage later).Sound := by
  refine ⟨⟨sound.chained.origin, sound.chained.linked⟩, sound.applied, sound.deletes,
    sound.deleted, ?_, sound.admitted⟩
  intro entry member begun deleted
  rcases List.mem_cons.mp member with rfl | old
  · exact ⟨(sound.publishes _ called begun deleted).1, known begun deleted⟩
  · exact sound.publishes entry (List.mem_of_mem_erase old) begun deleted

theorem deletionOf_answered (sound : cluster.Sound)
    (deleted : cluster.deletionOf stream = some begun) :
    cluster.Answered begun (.beginDeleteStream stream) := by
  obtain ⟨entry, found, rfl⟩ := Option.map_eq_some_iff.mp deleted
  have named : entry.1 = stream := by simpa using List.find?_some found
  rw [← named]
  exact sound.deleted entry (List.mem_of_find?_eq_some found)

theorem resolveLocally_error {db : GroupDb} {partition : PartitionKey}
    {suppliedGroup : Option GroupId} {suppliedRevision : Option Nat} {error : DomainError}
    (unrouted : db.route partition.stream partition.partition = .error error) :
    resolveLocally db partition suppliedGroup suppliedRevision = .error error := by
  rw [resolveLocally, unrouted]
  rfl

theorem resolveLocally_routed {db : GroupDb} {partition : PartitionKey}
    {suppliedGroup : Option GroupId} {suppliedRevision : Option Nat} {route : PartitionRoute}
    (done : resolveLocally db partition suppliedGroup suppliedRevision = .ok (some route)) :
    suppliedGroup.isSome = true ∧ suppliedRevision.isSome = true := by
  unfold resolveLocally at done
  cases found : db.route partition.stream partition.partition with
  | error error =>
      rw [found] at done
      cases done
  | ok localRoute =>
      rw [found] at done
      cases suppliedGroup with
      | none => cases suppliedRevision <;> cases done
      | some group =>
          cases suppliedRevision with
          | none => cases done
          | some revision => exact ⟨rfl, rfl⟩

theorem Sound.step (sound : cluster.Sound) {event : StreamEvent}
    (current : cluster.Current event) (taken : Step cluster event next) : next.Sound := by
  cases taken with
  | committed done =>
      rename_i entry result after
      have grow {index : Nat} {command : GroupCommand} (answered : cluster.Answered index command) :
          Answered { cluster with log := cluster.log ++ [⟨entry, result, after⟩] } index command :=
        answered.grow _ rfl
      refine ⟨sound.chained.commit done, ?_, ?_, ?_, ?_, sound.admitted⟩
      · intro node
        have known := sound.applied node
        simp only [List.length_append, List.length_singleton]
        omega
      · intro call member index stage
        exact grow (sound.deletes call member index stage)
      · intro entry member
        exact grow (sound.deleted entry member)
      · intro entry member begun deleted
        obtain ⟨answered, stage⟩ := sound.publishes entry member begun deleted
        exact ⟨grow answered, stage⟩
  | applied forward known =>
      rename_i node index
      refine ⟨⟨sound.chained.origin, sound.chained.linked⟩, ?_, sound.deletes, sound.deleted, ?_,
        sound.admitted⟩
      · intro other
        by_cases same : other = node
        · subst same
          simpa using known
        · simpa [same] using sound.applied other
      · intro entry member begun deleted
        obtain ⟨answered, stage⟩ := sound.publishes entry member begun deleted
        refine ⟨answered, ?_⟩
        obtain ⟨call, current⟩ := entry
        cases current with
        | linearized =>
            have seen : begun < cluster.applied call.node := stage
            show begun < Function.update cluster.applied node index call.node
            by_cases same : call.node = node
            · subst same
              rw [Function.update_self]
              omega
            · rw [Function.update_of_ne same]
              exact seen
        | _ => exact stage
  | deleteCalled stream =>
      refine ⟨⟨sound.chained.origin, sound.chained.linked⟩, sound.applied, ?_, sound.deleted,
        sound.publishes, sound.admitted⟩
      intro call member index stage
      rcases List.mem_cons.mp member with rfl | old
      · cases stage
      · exact sound.deletes call old index stage
  | deleteBegun called later answered =>
      refine ⟨⟨sound.chained.origin, sound.chained.linked⟩, sound.applied, ?_, sound.deleted,
        sound.publishes, sound.admitted⟩
      intro call member index stage
      rcases List.mem_cons.mp member with rfl | old
      · cases stage
        exact answered
      · exact sound.deletes call (List.mem_of_mem_erase old) index stage
  | deleteReturned called later answered =>
      refine ⟨⟨sound.chained.origin, sound.chained.linked⟩, sound.applied, ?_, ?_,
        sound.publishes, sound.admitted⟩
      · intro call member index stage
        exact sound.deletes call (List.mem_of_mem_erase member) index stage
      · intro entry member
        rcases List.mem_append.mp member with old | new
        · exact sound.deleted entry old
        · rw [List.mem_singleton.mp new]
          exact sound.deletes _ called _ rfl
  | publishCalled node partition suppliedGroup suppliedRevision =>
      refine ⟨⟨sound.chained.origin, sound.chained.linked⟩, sound.applied, sound.deletes,
        sound.deleted, ?_, sound.admitted⟩
      intro entry member begun deleted
      rcases List.mem_cons.mp member with rfl | old
      · have answered : cluster.Answered begun (.beginDeleteStream partition.stream) :=
          deletionOf_answered sound deleted
        exact ⟨answered, trivial⟩
      · exact sound.publishes entry old begun deleted
  | resolved called =>
      rename_i call
      unfold settle
      split
      · exact sound.drop call .started
      · refine sound.advance called fun begun deleted => ?_
        exact (sound.publishes _ called begun deleted).1.lt
      · rename_i route found
        refine sound.advance called fun begun deleted => ?_
        obtain ⟨group, revision⟩ := resolveLocally_routed found
        have seen := current group revision begun deleted
        have answered := (sound.publishes _ called begun deleted).1
        rw [resolveLocally_error (sound.unrouted answered seen _)] at found
        cases found
  | readIndex called reached =>
      refine sound.advance called fun begun deleted => ?_
      have known : begun < _ := (sound.publishes _ called begun deleted).2
      exact lt_of_lt_of_le known reached
  | reread called =>
      rename_i call
      unfold settle
      split
      · exact sound.drop call .linearized
      · rename_i impossible
        cases read : (cluster.copy call.node).route call.partition.stream
          call.partition.partition with
        | error error =>
            rw [read] at impossible
            cases impossible
        | ok route =>
            rw [read] at impossible
            cases impossible
      · rename_i route found
        refine sound.advance called fun begun deleted => ?_
        obtain ⟨answered, seen⟩ := sound.publishes _ called begun deleted
        rw [sound.unrouted answered seen] at found
        cases found
  | admitted called =>
      rename_i call route
      have kept := sound.drop call (.routed route)
      refine ⟨⟨kept.chained.origin, kept.chained.linked⟩, kept.applied, kept.deletes,
        kept.deleted, kept.publishes, ?_⟩
      intro other member
      rcases List.mem_cons.mp member with rfl | old
      · cases deleted : other.deleted with
        | none => rfl
        | some begun => exact absurd (sound.publishes _ called begun deleted).2 id
      · exact sound.admitted other old
  | dropped called => exact sound.drop _ _

theorem Reached.sound {identifier : ClusterId} {window : Nat}
    (reached : Reached Current identifier window cluster) : cluster.Sound := by
  induction reached with
  | created => exact .created identifier window
  | step _ allowed taken ih => exact ih.step allowed taken

/-- No publish that began after `delete_stream` had returned for its stream is admitted. -/
theorem deleted_stream_unpublished {identifier : ClusterId} {window : Nat}
    (reached : Reached Current identifier window cluster) :
    ∀ call ∈ cluster.admitted, call.deleted = none :=
  reached.sound.admitted

def sampleSpec : BootstrapSpec := ⟨⟨1⟩, ⟨1⟩, ⟨"events"⟩⟩

def sampleFollower : NodeId := ⟨2, two_nonzero⟩

def samplePartition : PartitionKey := ⟨⟨1⟩, 0⟩

def afterEntry (db : GroupDb) (entry : GroupEntry) : ApplyResult × GroupDb :=
  match db.applyEntry entry with
  | .ok done => done
  | .error _ => (.noop, db)

def sampleBootstrap : GroupEntry :=
  ⟨⟨1, 1, 1⟩, .normal (.bootstrapControl sampleSpec none none [dataGroupId] 1 1)⟩

def sampleBegin : GroupEntry := ⟨⟨1, 1, 2⟩, .normal (.beginDeleteStream ⟨1⟩)⟩

def sampleFinish : GroupEntry := ⟨⟨1, 1, 3⟩, .normal (.finishDeleteStream ⟨1⟩)⟩

def sampleActive : GroupDb := (afterEntry (created ⟨1⟩ 2).origin sampleBootstrap).2

def sampleDeleting : GroupDb := (afterEntry sampleActive sampleBegin).2

def sampleDeleted : GroupDb := (afterEntry sampleDeleting sampleFinish).2

def sampleLog : List CommittedEntry :=
  [⟨sampleBootstrap, (afterEntry (created ⟨1⟩ 2).origin sampleBootstrap).1, sampleActive⟩,
    ⟨sampleBegin, (afterEntry sampleActive sampleBegin).1, sampleDeleting⟩,
    ⟨sampleFinish, (afterEntry sampleDeleting sampleFinish).1, sampleDeleted⟩]

def sampleLagging : StreamCluster :=
  { created ⟨1⟩ 2 with
    log := sampleLog
    applied := Function.update (fun _ => 0) sampleFollower 1
    deleted := [(⟨1⟩, 1)] }

theorem sampleActive_reached {Allowed : StreamCluster → StreamEvent → Prop}
    (allows : ∀ cluster event, (∀ call, event ≠ .resolved call) → Allowed cluster event) :
    Reached Allowed ⟨1⟩ 2 { created ⟨1⟩ 2 with
      log := sampleLog.take 1
      applied := Function.update (fun _ => 0) sampleFollower 1 } := by
  have bootstrapped : Reached Allowed ⟨1⟩ 2 { created ⟨1⟩ 2 with log := sampleLog.take 1 } :=
    .step .created (allows _ (.committed sampleBootstrap) nofun) (.committed rfl)
  exact bootstrapped.step (allows _ (.applied sampleFollower 1) nofun)
    (.applied (Nat.zero_le 1) le_rfl)

theorem sampleLagging_reached {Allowed : StreamCluster → StreamEvent → Prop}
    (allows : ∀ cluster event, (∀ call, event ≠ .resolved call) → Allowed cluster event) :
    Reached Allowed ⟨1⟩ 2 sampleLagging := by
  have called := (sampleActive_reached allows).step (allows _ (.deleteCalled ⟨1⟩) nofun) (.deleteCalled ⟨1⟩)
  have begun := called.step (allows _ (.committed sampleBegin) nofun)
    (@Step.committed _ _ (afterEntry sampleActive sampleBegin).1 sampleDeleting rfl)
  have answered := begun.step (allows _ (.deleteBegun ⟨1⟩ 1 1) nofun)
    (.deleteBegun List.mem_cons_self le_rfl ⟨_, rfl, rfl, _, rfl⟩)
  have finished := answered.step (allows _ (.committed sampleFinish) nofun)
    (@Step.committed _ _ (afterEntry sampleDeleting sampleFinish).1 sampleDeleted rfl)
  have returned := finished.step (allows _ (.deleteReturned ⟨⟨1⟩, .finishing 1⟩ 2) nofun)
    (.deleteReturned List.mem_cons_self (by decide) ⟨_, rfl, rfl, _, rfl⟩)
  exact returned

def sampleCall (deleted : Option Nat) : PublishCall :=
  ⟨sampleFollower, samplePartition, some dataGroupId, some 1, deleted⟩

def sampleRoute : PartitionRoute := ⟨⟨1⟩, ⟨1⟩, ⟨"events"⟩, 0, dataGroupId, 1⟩

theorem current_other (cluster : StreamCluster) (event : StreamEvent)
    (other : ∀ call, event ≠ .resolved call) : cluster.Current event := by
  cases event with
  | resolved call => exact absurd rfl (other call)
  | _ => exact trivial

theorem deleted_stream_unpublished_sample : ∃ cluster : StreamCluster,
    cluster.admitted = [sampleCall none] ∧ ∀ call ∈ cluster.admitted, call.deleted = none := by
  have active := sampleActive_reached current_other
  have called := active.step (current_other _ (.publishCalled sampleFollower samplePartition
    (some dataGroupId) (some 1)) nofun) (.publishCalled _ _ _ _)
  have resolved := @Reached.step _ _ _ _ _ (.resolved (sampleCall none)) called nofun
    (.resolved List.mem_cons_self)
  have admitted := resolved.step (current_other _ (.admitted (sampleCall none) sampleRoute) nofun)
    (.admitted List.mem_cons_self)
  exact ⟨_, rfl, deleted_stream_unpublished admitted⟩

/-- The follower still routes to the deleted stream, and the publish is admitted. -/
theorem deleted_stream_published : ∃ cluster : StreamCluster,
    Reached (fun _ _ => True) ⟨1⟩ 2 cluster ∧
      cluster.deleted = [(⟨1⟩, 1)] ∧ cluster.admitted = [sampleCall (some 1)] ∧
      ¬∀ call ∈ cluster.admitted, call.deleted = none := by
  have lagging := @sampleLagging_reached (fun _ _ => True) fun _ _ _ => trivial
  have called := @Reached.step _ _ _ _ _ (.publishCalled sampleFollower samplePartition
    (some dataGroupId) (some 1)) lagging trivial (.publishCalled _ _ _ _)
  have resolved := @Reached.step _ _ _ _ _ (.resolved (sampleCall (some 1))) called trivial
    (.resolved List.mem_cons_self)
  have admitted := @Reached.step _ _ _ _ _ (.admitted (sampleCall (some 1)) sampleRoute) resolved
    trivial (.admitted List.mem_cons_self)
  refine ⟨_, admitted, rfl, rfl, ?_⟩
  intro unpublished
  exact absurd (unpublished (sampleCall (some 1)) List.mem_cons_self) nofun

end StreamCluster

end LightStream
