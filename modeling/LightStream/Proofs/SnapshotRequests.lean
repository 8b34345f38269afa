import LightStream.Proofs.SnapshotStage

/-!
Each operation of the receiver, with what holds at every point inside it.
-/

namespace LightStream

section Programs

variable {codec : SnapshotCodec} {intent : SnapshotIntent} {artifact : Disk.Bytes}
  {Intent : Option Disk.File → Prop} {Between Pre Post : StageFiles → Prop}

structure ProgressMoves (codec : SnapshotCodec) (offset : Nat) (files middle : StageFiles) :
    Prop where
  intent : middle .intent = files .intent
  part : middle .part = files .part
  progress : middle .progress = files .progress ∨
    middle .progress = some (.synced (codec.progressBytes offset))

theorem writeSnapshotProgress_spec (offset : Nat)
    (between : ∀ files middle, Pre files → ProgressMoves codec offset files middle →
      Between middle)
    (post : ∀ files final, Pre files → ProgressMoves codec offset files final →
      final .progress = some (.synced (codec.progressBytes offset)) → Post final) :
    Disk.Spec Between Pre (writeSnapshotProgress codec offset)
      fun result files => result = .ok () ∧ Post files := by
  let Kept (Temporary : Disk.File → Prop) (files : StageFiles) : Prop :=
    ∃ before, Pre before ∧ files .intent = before .intent ∧ files .part = before .part ∧
      files .progress = before .progress ∧ ∃ file, files .temporary = some file ∧ Temporary file
  have passes : ∀ {Temporary files}, Kept Temporary files → Between files := by
    rintro Temporary files ⟨before, pre, same, part, progress, _⟩
    exact between before files pre ⟨same, part, .inl progress⟩
  have rewrites : ∀ (First Second : Disk.File → Prop) (update : Disk.File → Disk.File),
      (∀ file, First file → Second (update file)) →
      Disk.Spec Between (Kept First) (Disk.modify .temporary update : StageProgram Unit)
        fun result files => result = .ok () ∧ Kept Second files := by
    intro First Second update moves
    refine Disk.Spec.modify fun files given => ?_
    obtain ⟨before, pre, same, part, progress, file, found, holds⟩ := given
    have kept : Kept Second (Function.update files .temporary (some (update file))) :=
      ⟨before, pre, by simp [same], by simp [part], by simp [progress], update file, by simp,
        moves file holds⟩
    exact ⟨file, found, passes kept, kept⟩
  let bytes := codec.progressBytes offset
  unfold writeSnapshotProgress
  refine Disk.Spec.andThen (Kept fun file => file.current = []) ?_ ?_
  · refine Disk.Spec.createTruncated fun files pre durable _ _ => ?_
    have kept : Kept (fun file => file.current = [])
        (Function.update files .temporary (some ⟨durable, []⟩)) :=
      ⟨files, pre, by simp, by simp, by simp, ⟨durable, []⟩, by simp, rfl⟩
    exact ⟨passes kept, kept⟩
  refine Disk.Spec.andThen (Kept fun file => file.current = bytes) ?_ ?_
  · refine rewrites _ _ _ ?_
    intro file empty
    simp [empty, bytes]
  refine Disk.Spec.andThen (Kept fun file => file = .synced bytes) ?_ ?_
  · refine rewrites _ _ _ ?_
    intro file written
    simp [written, Disk.File.synced]
  let Renamed (files : StageFiles) : Prop := ∃ before, Pre before ∧
    files .intent = before .intent ∧ files .part = before .part ∧
    files .progress = some (.synced bytes)
  have moved : ∀ {files}, Renamed files → Between files ∧ Post files := by
    rintro files ⟨before, pre, same, part, progress⟩
    have moves : ProgressMoves codec offset before files := ⟨same, part, .inr progress⟩
    exact ⟨between before files pre moves, post before files pre moves progress⟩
  refine Disk.Spec.andThen Renamed ?_ ?_
  · refine Disk.Spec.changed fun files given => ?_
    obtain ⟨before, pre, same, part, progress, file, found, rfl⟩ := given
    have renamed : Renamed (Function.update (Function.update files .progress
        (files .temporary)) .temporary none) :=
      ⟨before, pre, by simp [same], by simp [part], by simp [found]⟩
    exact ⟨(moved renamed).1, renamed⟩
  · exact Disk.Spec.changed fun files renamed => moved renamed

def StagedWith (codec : SnapshotCodec) (artifact : Disk.Bytes)
    (Intent : Option Disk.File → Prop) (files : StageFiles) : Prop :=
  Staged codec artifact files ∧ Intent (files .intent)

theorem agrees_zero (content : Disk.Bytes) : Agrees artifact 0 content := by
  intro _
  simp

theorem agrees_nil (offset : Nat) : Agrees artifact offset [] := by
  intro short
  have zero : offset = 0 := by simpa using short
  subst zero
  rfl

theorem Ready.stagedWith {offset : Nat} {files : StageFiles}
    (ready : Ready codec artifact Intent offset files) :
    StagedWith codec artifact Intent files :=
  ⟨ready.staged, ready.intent⟩

theorem StagedWith.moves {offset : Nat} {files middle : StageFiles}
    (staged : StagedWith codec artifact Intent files) (within : offset ≤ artifact.length)
    (reached : ∀ part, files .part = some part →
      Agrees artifact offset part.durable ∧ Agrees artifact offset part.current)
    (moves : ProgressMoves codec offset files middle) :
    StagedWith codec artifact Intent middle := by
  refine ⟨?_, moves.intent ▸ staged.2⟩
  intro file present
  rw [moves.part]
  rcases moves.progress with same | same
  · rw [same] at present
    exact staged.1 file present
  · rw [same] at present
    cases present
    exact ⟨offset, within, rfl, reached⟩

theorem StagedWith.part {files : StageFiles} {next : Disk.File}
    (staged : StagedWith codec artifact Intent files)
    (agrees : ∀ offset,
      (∀ part, files .part = some part →
        Agrees artifact offset part.durable ∧ Agrees artifact offset part.current) →
      Agrees artifact offset next.durable ∧ Agrees artifact offset next.current) :
    StagedWith codec artifact Intent (Function.update files .part (some next)) := by
  refine ⟨?_, by simpa using staged.2⟩
  intro file present
  obtain ⟨offset, within, same, reached⟩ := staged.1 file (by simpa using present)
  refine ⟨offset, within, same, ?_⟩
  intro part found
  simp only [Function.update_self, Option.some.injEq] at found
  subst found
  exact agrees offset reached

theorem resetSnapshotStage_spec :
    Disk.Spec (StagedWith codec artifact Intent) (StagedWith codec artifact Intent)
      (resetSnapshotStage codec)
      fun result files => result = .ok () ∧ Ready codec artifact Intent 0 files := by
  unfold resetSnapshotStage
  refine Disk.Spec.andThen (fun files => StagedWith codec artifact Intent files ∧
    ∃ durable, files .part = some ⟨durable, []⟩) ?_ ?_
  · refine Disk.Spec.createTruncated fun files staged durable kept fresh => ?_
    have cut : StagedWith codec artifact Intent
        (Function.update files .part (some ⟨durable, []⟩)) := by
      refine staged.part fun offset reached => ⟨?_, agrees_nil offset⟩
      cases found : files .part with
      | none =>
          rw [fresh found]
          exact agrees_nil offset
      | some part =>
          rw [kept part found]
          exact (reached part found).1
    exact ⟨cut, cut, durable, by simp⟩
  refine Disk.Spec.andThen (fun files => StagedWith codec artifact Intent files ∧
    files .part = some ⟨[], []⟩) ?_ ?_
  · refine Disk.Spec.modify fun files given => ?_
    obtain ⟨staged, durable, found⟩ := given
    have emptied : StagedWith codec artifact Intent
        (Function.update files .part (some ⟨[], []⟩)) :=
      staged.part fun offset _ => ⟨agrees_nil offset, agrees_nil offset⟩
    exact ⟨_, found, emptied, emptied, by simp⟩
  · have empty : ∀ files : StageFiles, files .part = some ⟨[], []⟩ → ∀ part,
        files .part = some part →
        Agrees artifact 0 part.durable ∧ Agrees artifact 0 part.current :=
      fun _ _ part _ => ⟨agrees_zero _, agrees_zero _⟩
    refine writeSnapshotProgress_spec 0 ?_ ?_
    · intro files middle given moves
      exact given.1.moves (Nat.zero_le _) (empty files given.2) moves
    · intro files final given moves progress
      refine ⟨moves.intent ▸ given.1.2, Nat.zero_le _, progress, [], ?_, agrees_nil 0⟩
      rw [moves.part, given.2]
      simp

structure Opened (codec : SnapshotCodec) (artifact : Disk.Bytes)
    (Intent : Option Disk.File → Prop) (offset : Nat) (part : Disk.File) (files : StageFiles) :
    Prop where
  intent : Intent (files .intent)
  within : offset ≤ artifact.length
  progress : files .progress = some (.synced (codec.progressBytes offset))
  stored : files .part = some part
  durable : Agrees artifact offset part.durable
  current : Agrees artifact offset part.current

theorem StagedWith.opened {files : StageFiles} (staged : StagedWith codec artifact Intent files)
    {part progress : Disk.File} (found : files .part = some part)
    (stored : files .progress = some progress) :
    ∃ offset, Opened codec artifact Intent offset part files := by
  obtain ⟨offset, within, rfl, reached⟩ := staged.1 progress stored
  obtain ⟨durable, current⟩ := reached part found
  exact ⟨offset, staged.2, within, stored, found, durable, current⟩

theorem Opened.stagedWith {offset : Nat} {part : Disk.File} {files : StageFiles}
    (opened : Opened codec artifact Intent offset part files) :
    StagedWith codec artifact Intent files := by
  refine ⟨?_, opened.intent⟩
  intro file present
  rw [opened.progress] at present
  cases present
  refine ⟨offset, opened.within, rfl, ?_⟩
  intro other found
  rw [opened.stored] at found
  cases found
  exact ⟨opened.durable, opened.current⟩

theorem Opened.ready {offset : Nat} {part : Disk.File} {files : StageFiles}
    (opened : Opened codec artifact Intent offset part files)
    (length : part.current.length = offset) : Ready codec artifact Intent offset files := by
  refine ⟨opened.intent, opened.within, opened.progress, part.durable, ?_, opened.durable⟩
  have same := opened.current (le_of_eq length.symm)
  rw [← length, List.take_length, length] at same
  rw [opened.stored, ← same]

theorem readSnapshotProgress_eq : readSnapshotProgress codec = Disk.look fun files =>
    match files .progress with
    | none => .error (.internal "No such file or directory")
    | some file =>
      match codec.parseProgress file.current with
      | none => .error (.internal "invalid progress")
      | some offset => .ok offset := by
  funext files
  show Disk.Program.bind _ _ files = _
  unfold Disk.Program.bind readFile Disk.look
  dsimp only
  cases files .progress with
  | none => rfl
  | some file =>
      dsimp only
      cases codec.parseProgress file.current <;> rfl

theorem readSnapshotIntent_eq : readSnapshotIntent codec = Disk.look fun files =>
    match files .intent with
    | none => .error (.internal "No such file or directory")
    | some file =>
      match codec.parseIntent file.current with
      | none => .error (.internal "invalid intent")
      | some intent => .ok intent := by
  funext files
  show Disk.Program.bind _ _ files = _
  unfold Disk.Program.bind readFile Disk.look
  dsimp only
  cases files .intent with
  | none => rfl
  | some file =>
      dsimp only
      cases codec.parseIntent file.current <;> rfl

def Both (codec : SnapshotCodec) (artifact : Disk.Bytes) (Intent : Option Disk.File → Prop)
    (files : StageFiles) : Prop :=
  ∃ offset part, Opened codec artifact Intent offset part files

theorem startSnapshotProgress_spec :
    Disk.Spec (StagedWith codec artifact Intent)
      (fun files => StagedWith codec artifact Intent files ∧ ∃ part, files .part = some part)
      (startSnapshotProgress codec)
      fun result files => result = .ok () ∧ Both codec artifact Intent files := by
  unfold startSnapshotProgress progressExists
  refine Disk.Spec.lookThen (fun found => ?_) ?_
  · split
    · rename_i present
      refine Disk.Spec.pure fun files given => ⟨rfl, ?_⟩
      obtain ⟨⟨staged, part, stored⟩, same⟩ := given
      simp only [present, Except.ok.injEq] at same
      obtain ⟨progress, written⟩ := Option.isSome_iff_exists.mp same
      obtain ⟨offset, opened⟩ := staged.opened stored written
      exact ⟨offset, part, opened⟩
    · refine Disk.Spec.andThen
        (fun files => StagedWith codec artifact Intent files ∧ ∃ part, files .part = some part)
        ?_ ?_
      · refine Disk.Spec.modify fun files given => ?_
        obtain ⟨⟨staged, part, stored⟩, _⟩ := given
        have synced : StagedWith codec artifact Intent (Function.update files .part
            (some { part with durable := part.current })) :=
          staged.part fun offset reached => ⟨(reached part stored).2, (reached part stored).2⟩
        exact ⟨part, stored, synced, synced, _, by simp; rfl⟩
      · have zero : ∀ (files : StageFiles) part, files .part = some part →
            Agrees artifact 0 part.durable ∧ Agrees artifact 0 part.current :=
          fun _ _ _ => ⟨agrees_zero _, agrees_zero _⟩
        refine writeSnapshotProgress_spec 0 ?_ ?_
        · intro files middle given moves
          exact given.1.moves (Nat.zero_le _) (zero files) moves
        · intro files final given moves progress
          obtain ⟨staged, part, stored⟩ := given
          exact ⟨0, part, moves.intent ▸ staged.2, Nat.zero_le _, progress,
            moves.part.trans stored, agrees_zero _, agrees_zero _⟩
  · intro error files _ failed
    cases failed

theorem recoverSnapshotStage_spec (lawful : codec.Lawful intent)
    (describes : intent.Describes codec artifact) :
    Disk.Spec (StagedWith codec artifact Intent) (StagedWith codec artifact Intent)
      (recoverSnapshotStage codec intent.byteLen)
      fun result files => ∃ offset, result = .ok offset ∧
        Ready codec artifact Intent offset files := by
  unfold recoverSnapshotStage
  refine Disk.Spec.andThen
    (fun files => StagedWith codec artifact Intent files ∧ ∃ part, files .part = some part)
    ?_ ?_
  · refine Disk.Spec.create fun files staged after made => ?_
    rcases made with ⟨absent, rfl⟩ | ⟨present, rfl⟩
    · have created : StagedWith codec artifact Intent
          (Function.update files .part (some ⟨[], []⟩)) :=
        staged.part fun offset _ => ⟨agrees_nil offset, agrees_nil offset⟩
      exact ⟨created, created, _, by simp; rfl⟩
    · obtain ⟨part, stored⟩ := Option.ne_none_iff_exists'.mp present
      exact ⟨staged, staged, part, stored⟩
  refine Disk.Spec.andThen (Both codec artifact Intent) startSnapshotProgress_spec ?_
  rw [readSnapshotProgress_eq]
  have parsed : ∀ {offset part files}, Opened codec artifact Intent offset part files →
      codec.parseProgress (codec.progressBytes offset) = some offset := by
    intro offset part files opened
    exact lawful.progress offset (le_trans opened.within describes.bounded)
  refine Disk.Spec.lookThen (fun offset => ?_) ?_
  · refine Disk.Spec.lookThen (fun content => ?_) ?_
    · have opened : ∀ files : StageFiles,
          ((Both codec artifact Intent files ∧ (match files .progress with
            | none => .error (.internal "No such file or directory")
            | some file =>
              match codec.parseProgress file.current with
              | none => .error (.internal "invalid progress")
              | some offset => .ok offset : Except PeerStatus Nat) = .ok offset) ∧
            (match files .part with
            | none => .error (.internal "No such file or directory")
            | some file => .ok file.current : Except PeerStatus Disk.Bytes) = .ok content) →
          ∃ part, part.current = content ∧ Opened codec artifact Intent offset part files := by
        rintro files ⟨⟨⟨other, part, opened⟩, progress⟩, read⟩
        rw [opened.progress] at progress
        simp only [Disk.File.synced, parsed opened, Except.ok.injEq] at progress
        rw [opened.stored] at read
        simp only [Except.ok.injEq] at read
        exact ⟨part, read, progress ▸ opened⟩
      split
      · refine Disk.Spec.andThen (Ready codec artifact Intent 0) ?_ ?_
        · refine resetSnapshotStage_spec.weaken ?_ fun _ _ done => done
          intro files given
          obtain ⟨part, _, here⟩ := opened files given
          exact here.stagedWith
        · exact Disk.Spec.pure fun files ready => ⟨0, rfl, ready⟩
      · rename_i fits
        split
        · rename_i long
          refine Disk.Spec.andThen (Ready codec artifact Intent offset) ?_ ?_
          · refine Disk.Spec.modify fun files given => ?_
            obtain ⟨part, rfl, here⟩ := opened files given
            have cut : part.current.take offset ++
                List.replicate (offset - part.current.length) 0 = artifact.take offset := by
              rw [Nat.sub_eq_zero_of_le (by omega), List.replicate_zero, List.append_nil]
              exact here.current (by omega)
            have ready : Ready codec artifact Intent offset (Function.update files .part
                (some { part with
                  current := part.current.take offset ++
                    List.replicate (offset - part.current.length) 0 })) := by
              rw [cut]
              exact ⟨by simpa using here.intent, here.within, by simpa using here.progress,
                part.durable, by simp, here.durable⟩
            exact ⟨part, here.stored, ready.stagedWith, ready⟩
          refine Disk.Spec.andThen (Ready codec artifact Intent offset) ?_ ?_
          · refine Disk.Spec.modify fun files ready => ?_
            obtain ⟨durable, stored, _⟩ := ready.part
            have synced : Ready codec artifact Intent offset (Function.update files .part
                (some ⟨artifact.take offset, artifact.take offset⟩)) :=
              ⟨by simpa using ready.intent, ready.within, by simpa using ready.progress, _,
                by simp, agrees_take⟩
            exact ⟨_, stored, synced.stagedWith, synced⟩
          · exact Disk.Spec.pure fun files ready => ⟨offset, rfl, ready⟩
        · rename_i short
          refine Disk.Spec.pure fun files given => ⟨offset, rfl, ?_⟩
          obtain ⟨part, rfl, here⟩ := opened files given
          exact here.ready (by omega)
    · intro error files given failed
      obtain ⟨⟨_, part, here⟩, _⟩ := given
      simp [here.stored] at failed
  · intro error files given failed
    obtain ⟨_, part, here⟩ := given
    simp [here.progress, Disk.File.synced, parsed here] at failed

end Programs

end LightStream
