import LightStream.Proofs.SnapshotRequests

/-!
The three requests of a transfer: what each answers, and the files it leaves.
-/

namespace LightStream

section Requests

variable {codec : SnapshotCodec} {intent : SnapshotIntent} {artifact : Disk.Bytes}

def IntentHeld (codec : SnapshotCodec) (intent : SnapshotIntent) (file : Option Disk.File) :
    Prop :=
  file = some (.synced (codec.intentBytes intent))

theorem IntentHeld.whole {file : Option Disk.File} (held : IntentHeld codec intent file) :
    IntentWhole codec intent file := by
  intro found same
  rw [held] at same
  cases same
  rfl

theorem held_settled {files : StageFiles}
    (staged : StagedWith codec artifact (IntentHeld codec intent) files) :
    Settled codec intent artifact files :=
  ⟨staged.1, staged.2.whole⟩

theorem held_torn {files : StageFiles}
    (staged : StagedWith codec artifact (IntentHeld codec intent) files) :
    Torn codec intent artifact files :=
  (held_settled staged).torn

theorem StagedWith.removed {Intent : Option Disk.File → Prop} {files : StageFiles}
    (staged : StagedWith codec artifact Intent files) (absent : Intent none)
    (name : SnapshotFile) :
    StagedWith codec artifact Intent (Function.update files name none) := by
  refine ⟨?_, ?_⟩
  · intro file present
    by_cases same : name = .progress
    · subst same
      simp at present
    · rw [Function.update_of_ne (Ne.symm same)] at present
      obtain ⟨offset, within, whole, reached⟩ := staged.1 file present
      refine ⟨offset, within, whole, ?_⟩
      intro part found
      by_cases other : name = .part
      · subst other
        simp at found
      · rw [Function.update_of_ne (Ne.symm other)] at found
        exact reached part found
  · by_cases same : name = .intent
    · subst same
      simpa using absent
    · rw [Function.update_of_ne (Ne.symm same)]
      exact staged.2

theorem removeSnapshotStage_spec :
    Disk.Spec (Torn codec intent artifact) (Settled codec intent artifact) removeSnapshotStage
      fun result files => result = .ok () ∧ Settled codec intent artifact files := by
  have step : ∀ name, Disk.Spec (Torn codec intent artifact) (Settled codec intent artifact)
      (Disk.remove name : StageProgram Unit)
      fun result files => result = .ok () ∧ Settled codec intent artifact files := by
    intro name
    refine Disk.Spec.changed fun files settled => ?_
    have absent : IntentWhole codec intent none := by
      intro found same
      cases same
    have removed : Settled codec intent artifact (Function.update files name none) :=
      StagedWith.removed settled absent name
    exact ⟨removed.torn, removed⟩
  unfold removeSnapshotStage
  refine Disk.Spec.andThen (Settled codec intent artifact) (step .intent) ?_
  exact Disk.Spec.andThen (Settled codec intent artifact) (step .part) (step .progress)

theorem removeAbandonedSnapshotStage_spec (aged : Bool) :
    Disk.Spec (Torn codec intent artifact) (Settled codec intent artifact)
      (removeAbandonedSnapshotStage aged)
      fun result files => result = .ok () ∧ Settled codec intent artifact files := by
  unfold removeAbandonedSnapshotStage intentFile
  refine Disk.Spec.lookThen (fun found => ?_) ?_
  · split
    · exact removeSnapshotStage_spec.weaken (fun _ given => given.1) fun _ _ done => done
    · exact Disk.Spec.pure fun files given => ⟨rfl, given.1⟩
  · intro error files _ failed
    cases failed

theorem createIntent_spec :
    Disk.Spec (Torn codec intent artifact)
      (fun files => Staged codec artifact files ∧ files .intent = none)
      (createIntent codec intent)
      fun result files => result = .ok () ∧
        StagedWith codec artifact (IntentHeld codec intent) files := by
  have written : ∀ {files : StageFiles} {next : Disk.File}, Staged codec artifact files →
      next.durable <+: codec.intentBytes intent → next.current <+: codec.intentBytes intent →
      Torn codec intent artifact (Function.update files .intent (some next)) := by
    intro files next staged durable current
    refine ⟨?_, ?_⟩
    · intro file present
      simpa using staged file (by simpa using present)
    · intro found same
      simp only [Function.update_self, Option.some.injEq] at same
      subst same
      exact ⟨durable, current⟩
  let Holds (file : Disk.File) (files : StageFiles) : Prop :=
    Staged codec artifact files ∧ files .intent = some file
  let bytes := codec.intentBytes intent
  have rewrites : ∀ (first second : Disk.File) (update : Disk.File → Disk.File),
      update first = second → second.durable <+: bytes → second.current <+: bytes →
      Disk.Spec (Torn codec intent artifact) (Holds first)
        (Disk.modify .intent update : StageProgram Unit)
        fun result files => result = .ok () ∧ Holds second files := by
    rintro first _ update rfl durable current
    refine Disk.Spec.modify fun files given => ?_
    have torn : Torn codec intent artifact
        (Function.update files .intent (some (update first))) :=
      written given.1 durable current
    exact ⟨first, given.2, torn, torn.1, by simp⟩
  unfold createIntent
  refine Disk.Spec.andThen (Holds ⟨[], []⟩) ?_ ?_
  · refine Disk.Spec.create fun files given after made => ?_
    rcases made with ⟨_, rfl⟩ | ⟨present, _⟩
    · have torn : Torn codec intent artifact
          (Function.update files .intent (some ⟨[], []⟩)) :=
        written given.1 List.nil_prefix List.nil_prefix
      exact ⟨torn, torn.1, by simp⟩
    · exact absurd given.2 present
  refine Disk.Spec.andThen (Holds ⟨[], bytes⟩) ?_ ?_
  · refine rewrites ⟨[], []⟩ ⟨[], bytes⟩ _ ?_ List.nil_prefix (List.prefix_refl _)
    simp [bytes]
  refine Disk.Spec.andThen (Holds (.synced bytes)) ?_ ?_
  · exact rewrites ⟨[], bytes⟩ (.synced bytes) _ rfl (List.prefix_refl _)
      (List.prefix_refl _)
  · refine Disk.Spec.changed fun files given => ?_
    have held : StagedWith codec artifact (IntentHeld codec intent) files := given
    exact ⟨held_torn held, held⟩

theorem adoptIntent_spec (lawful : codec.Lawful intent) :
    Disk.Spec (Torn codec intent artifact) (Settled codec intent artifact)
      (adoptIntent codec intent)
      fun result files => result = .ok () ∧
        StagedWith codec artifact (IntentHeld codec intent) files := by
  unfold adoptIntent intentFile
  refine Disk.Spec.lookThen (fun found => ?_) ?_
  · cases found with
    | none =>
        refine createIntent_spec.weaken ?_ fun _ _ done => done
        intro files given
        obtain ⟨settled, absent⟩ := given
        simp only [Except.ok.injEq, Option.map_eq_none_iff] at absent
        exact ⟨settled.1, absent⟩
    | some bytes =>
        have held : ∀ files : StageFiles, Settled codec intent artifact files ∧
            (Except.ok ((files .intent).map Disk.File.current) :
              Except PeerStatus (Option Disk.Bytes)) = .ok (some bytes) →
            bytes = codec.intentBytes intent ∧
              StagedWith codec artifact (IntentHeld codec intent) files := by
          rintro files ⟨settled, present⟩
          simp only [Except.ok.injEq, Option.map_eq_some_iff] at present
          obtain ⟨file, found, rfl⟩ := present
          have whole := settled.2 file found
          refine ⟨by rw [whole]; rfl, settled.1, ?_⟩
          rw [IntentHeld, found, whole]
        intro files given
        obtain ⟨same, staged⟩ := held files given
        subst same
        simp only [lawful.parses, if_true]
        exact ⟨by simp [Pure.pure, Disk.Program.pure], rfl, staged⟩
  · intro error files _ failed
    cases failed

theorem beginSnapshot_spec (lawful : codec.Lawful intent)
    (describes : intent.Describes codec artifact) (aged : Bool) :
    Disk.Spec (Torn codec intent artifact) (Settled codec intent artifact)
      (beginSnapshot codec intent aged)
      fun result files => ∃ offset, result = .ok offset ∧
        Ready codec artifact (IntentHeld codec intent) offset files := by
  unfold beginSnapshot
  split
  · rename_i wrong
    exact absurd describes.digest wrong
  · refine Disk.Spec.andThen (Settled codec intent artifact)
      (removeAbandonedSnapshotStage_spec aged) ?_
    refine Disk.Spec.andThen (StagedWith codec artifact (IntentHeld codec intent))
      (adoptIntent_spec lawful) ?_
    exact (recoverSnapshotStage_spec lawful describes).passing fun _ staged => held_torn staged

theorem storeChunk_spec {offset : Nat} {data : Disk.Bytes}
    (genuine : data <+: artifact.drop offset) (fits : offset + data.length ≤ artifact.length) :
    Disk.Spec (Torn codec intent artifact)
      (Ready codec artifact (IntentHeld codec intent) offset)
      (do
        Disk.writeAt .part offset data
        Disk.sync .part
        writeSnapshotProgress codec (offset + data.length)
        pure (offset + data.length) : StageProgram Nat)
      fun result files => result = .ok (offset + data.length) ∧
        Ready codec artifact (IntentHeld codec intent) (offset + data.length) files := by
  have extended : artifact.take offset ++ data = artifact.take (offset + data.length) := by
    obtain ⟨rest, joined⟩ := genuine
    rw [List.take_add, ← joined, List.take_left']
    rfl
  have longer : ∀ reached ≤ offset + data.length,
      Agrees artifact reached (artifact.take (offset + data.length)) := by
    intro reached below _
    rw [List.take_take, Nat.min_eq_left below]
  let Grown (durable : Disk.Bytes) : StageFiles → Prop :=
    Opened codec artifact (IntentHeld codec intent) offset
      ⟨durable, artifact.take (offset + data.length)⟩
  refine Disk.Spec.andThen (fun files => ∃ durable, Grown durable files) ?_ ?_
  · refine Disk.Spec.modify fun files ready => ?_
    obtain ⟨durable, stored, agrees⟩ := ready.part
    have content : (artifact.take offset).take offset ++ data ++
        (artifact.take offset).drop (offset + data.length) =
          artifact.take (offset + data.length) := by
      rw [List.take_take, Nat.min_self, extended,
        List.drop_eq_nil_of_le (by simp), List.append_nil]
    rw [stored]
    refine ⟨_, rfl, ?_⟩
    dsimp only
    rw [content]
    have grown : Grown durable (Function.update files .part
        (some ⟨durable, artifact.take (offset + data.length)⟩)) :=
      ⟨by simpa using ready.intent, ready.within, by simpa using ready.progress, by simp,
        agrees, longer offset (by omega)⟩
    exact ⟨held_torn grown.stagedWith, durable, grown⟩
  refine Disk.Spec.andThen (Grown (artifact.take (offset + data.length))) ?_ ?_
  · refine Disk.Spec.modify fun files given => ?_
    obtain ⟨durable, grown⟩ := given
    have synced : Grown (artifact.take (offset + data.length))
        (Function.update files .part (some ⟨artifact.take (offset + data.length),
          artifact.take (offset + data.length)⟩)) :=
      ⟨by simpa using grown.intent, grown.within, by simpa using grown.progress, by simp,
        longer offset (by omega), longer offset (by omega)⟩
    exact ⟨_, grown.stored, held_torn synced.stagedWith, synced⟩
  refine Disk.Spec.andThen
    (Ready codec artifact (IntentHeld codec intent) (offset + data.length)) ?_ ?_
  · refine writeSnapshotProgress_spec _ ?_ ?_
    · intro files middle grown moves
      refine held_torn (grown.stagedWith.moves fits ?_ moves)
      intro part found
      rw [grown.stored] at found
      cases found
      exact ⟨longer _ (le_refl _), longer _ (le_refl _)⟩
    · intro files final grown moves progress
      refine ⟨?_, fits, progress, artifact.take (offset + data.length), ?_, agrees_take⟩
      · rw [moves.intent]
        exact grown.intent
      · rw [moves.part]
        exact grown.stored
  · exact Disk.Spec.pure fun files ready => ⟨rfl, ready⟩

theorem validateSnapshotIntent_spec {Between Pre : StageFiles → Prop}
    {identity : SnapshotIdentity} :
    Disk.Spec Between Pre (validateSnapshotIntent identity intent)
      fun result files => Pre files ∧ (intent.identity = identity → result = .ok ()) := by
  unfold validateSnapshotIntent
  split
  · exact Disk.Spec.pure fun files pre => ⟨pre, fun _ => rfl⟩
  · rename_i other
    exact Disk.Spec.fail fun files pre => ⟨pre, fun same => absurd same other⟩

theorem readIntent_held (lawful : codec.Lawful intent) {found : SnapshotIntent}
    {files : StageFiles} (settled : Settled codec intent artifact files)
    (read : (match files .intent with
      | none => .error (.internal "No such file or directory")
      | some file =>
        match codec.parseIntent file.current with
        | none => .error (.internal "invalid intent")
        | some intent => .ok intent : Except PeerStatus SnapshotIntent) = .ok found) :
    found = intent ∧ StagedWith codec artifact (IntentHeld codec intent) files := by
  cases stored : files .intent with
  | none =>
      rw [stored] at read
      cases read
  | some file =>
      have whole := settled.2 file stored
      subst whole
      rw [stored] at read
      simp only [Disk.File.synced, lawful.parses, Except.ok.injEq] at read
      exact ⟨read.symm, settled.1, stored⟩

theorem readStage_opened (lawful : codec.Lawful intent)
    (describes : intent.Describes codec artifact) {offset : Nat} {content : Disk.Bytes}
    {files : StageFiles} (staged : StagedWith codec artifact (IntentHeld codec intent) files)
    (read : (match files .part with
      | none => .error (.internal "No such file or directory")
      | some file => .ok file.current : Except PeerStatus Disk.Bytes) = .ok content)
    (progress : (match files .progress with
      | none => .error (.internal "No such file or directory")
      | some file =>
        match codec.parseProgress file.current with
        | none => .error (.internal "invalid progress")
        | some offset => .ok offset : Except PeerStatus Nat) = .ok offset) :
    ∃ part, part.current = content ∧
      Opened codec artifact (IntentHeld codec intent) offset part files := by
  cases stored : files .part with
  | none =>
      rw [stored] at read
      cases read
  | some part =>
      rw [stored] at read
      cases written : files .progress with
      | none =>
          rw [written] at progress
          cases progress
      | some file =>
          obtain ⟨counted, opened⟩ := staged.opened stored written
          have parsed := lawful.progress counted (le_trans opened.within describes.bounded)
          rw [opened.progress] at progress
          simp only [Disk.File.synced, parsed, Except.ok.injEq] at progress
          simp only [Except.ok.injEq] at read
          exact ⟨part, read, progress ▸ opened⟩

def Seen (codec : SnapshotCodec) (intent : SnapshotIntent) (artifact content : Disk.Bytes)
    (offset : Nat) (files : StageFiles) : Prop :=
  ∃ part, part.current = content ∧
    Opened codec artifact (IntentHeld codec intent) offset part files

theorem Seen.settled {content : Disk.Bytes} {offset : Nat} {files : StageFiles}
    (seen : Seen codec intent artifact content offset files) :
    Settled codec intent artifact files := by
  obtain ⟨part, _, opened⟩ := seen
  exact held_settled opened.stagedWith

section Reading

variable {α : Type} {identity : SnapshotIdentity}
  {next : SnapshotIntent → Disk.Bytes → Nat → StageProgram α}
  {Post : Except PeerStatus α → StageFiles → Prop}

theorem readRequest_spec (lawful : codec.Lawful intent)
    (describes : intent.Describes codec artifact)
    (after : ∀ content offset, Disk.Spec (Torn codec intent artifact)
      (Seen codec intent artifact content offset) (next intent content offset) Post)
    (refused : ∀ error files, Settled codec intent artifact files → Post (.error error) files) :
    Disk.Spec (Torn codec intent artifact) (Settled codec intent artifact)
      (do
        let intent ← readSnapshotIntent codec
        validateSnapshotIntent identity intent
        let part ← readFile .part
        let offset ← readSnapshotProgress codec
        next intent part offset) Post := by
  rw [readSnapshotIntent_eq, readSnapshotProgress_eq]
  refine Disk.Spec.lookThen (fun found => ?_) fun error files settled _ =>
    refused error files settled
  intro files given
  obtain ⟨rfl, staged⟩ := readIntent_held lawful given.1 given.2
  suffices rest : Disk.Spec (Torn codec found artifact)
      (StagedWith codec artifact (IntentHeld codec found)) _ Post from rest files staged
  refine Disk.Spec.bind validateSnapshotIntent_spec (fun _ => ?_) ?_
  · refine Disk.Spec.lookThen (fun content => ?_) fun error files given _ =>
      refused error files (held_settled given.1)
    refine Disk.Spec.lookThen (fun offset => ?_) fun error files given _ =>
      refused error files (held_settled given.1.1)
    refine (after content offset).weaken (fun files given => ?_) fun _ _ done => done
    exact readStage_opened lawful describes given.1.1.1 given.1.2 given.2
  · exact fun error files given => refused error files (held_settled given.1)

theorem readReady_spec (lawful : codec.Lawful intent)
    (describes : intent.Describes codec artifact) (same : intent.identity = identity)
    {Between : StageFiles → Prop} {offset : Nat}
    (after : Disk.Spec Between (Ready codec artifact (IntentHeld codec intent) offset)
      (next intent (artifact.take offset) offset) Post) :
    Disk.Spec Between (Ready codec artifact (IntentHeld codec intent) offset)
      (do
        let intent ← readSnapshotIntent codec
        validateSnapshotIntent identity intent
        let part ← readFile .part
        let offset ← readSnapshotProgress codec
        next intent part offset) Post := by
  intro files ready
  have result := after files ready
  rw [readSnapshotIntent_eq, readSnapshotProgress_eq]
  obtain ⟨durable, stored, _⟩ := ready.part
  have held : files .intent = some (.synced (codec.intentBytes intent)) := ready.intent
  have parsed := lawful.progress offset (le_trans ready.within describes.bounded)
  rw [Disk.look_bind intent (by simp [held, Disk.File.synced, lawful.parses]),
    validateSnapshotIntent, if_pos same, Disk.pure_bind, readFile,
    Disk.look_bind (artifact.take offset) (by simp [stored]),
    Disk.look_bind offset (by simp [ready.progress, Disk.File.synced, parsed])]
  exact result

end Reading

/-- A chunk that carries the artifact's bytes when its checksum matches. -/
def SnapshotChunk.Genuine (codec : SnapshotCodec) (artifact : Disk.Bytes)
    (chunk : SnapshotChunk) : Prop :=
  codec.crc32 chunk.data = chunk.crc32 → chunk.data <+: artifact.drop chunk.offset

theorem putSnapshotChunk_spec (lawful : codec.Lawful intent)
    (describes : intent.Describes codec artifact) {chunk : SnapshotChunk}
    (genuine : chunk.Genuine codec artifact) :
    Disk.Spec (Torn codec intent artifact) (Settled codec intent artifact)
      (putSnapshotChunk codec chunk)
      fun result files => Settled codec intent artifact files ∧ ∀ next, result = .ok next →
        next = chunk.offset + chunk.data.length ∧
        Ready codec artifact (IntentHeld codec intent) next files := by
  unfold putSnapshotChunk
  split
  · exact Disk.Spec.fail fun files settled => ⟨settled, fun _ => nofun⟩
  split
  · exact Disk.Spec.fail fun files settled => ⟨settled, fun _ => nofun⟩
  rename_i matching
  have carried := genuine (not_not.mp matching)
  refine readRequest_spec lawful describes (fun content offset => ?_)
    fun error files settled => ⟨settled, fun _ => nofun⟩
  split
  · exact Disk.Spec.fail fun files seen => ⟨seen.settled, fun _ => nofun⟩
  rename_i expected
  obtain ⟨start, length⟩ := not_or.mp expected
  obtain rfl : chunk.offset = offset := not_not.mp start
  split
  · exact Disk.Spec.fail fun files seen => ⟨seen.settled, fun _ => nofun⟩
  rename_i next summed
  obtain ⟨rfl, _⟩ := checkedAdd_some.mp summed
  split
  · exact Disk.Spec.fail fun files seen => ⟨seen.settled, fun _ => nofun⟩
  rename_i fits
  rw [describes.byteLen] at fits
  refine (storeChunk_spec carried (by omega)).weaken ?_ ?_
  · intro files seen
    obtain ⟨part, rfl, opened⟩ := seen
    exact opened.ready (not_not.mp length)
  · intro result files stored
    obtain ⟨rfl, ready⟩ := stored
    refine ⟨held_settled ready.stagedWith, ?_⟩
    intro next same
    cases same
    exact ⟨rfl, ready⟩

theorem putNextChunk_spec (lawful : codec.Lawful intent)
    (describes : intent.Describes codec artifact) {chunk : SnapshotChunk}
    (same : intent.identity = chunk.identity) (occupied : chunk.data ≠ [])
    (small : chunk.data.length ≤ snapshotChunkBytes)
    (matching : codec.crc32 chunk.data = chunk.crc32)
    (carried : chunk.data <+: artifact.drop chunk.offset)
    (fits : chunk.offset + chunk.data.length ≤ artifact.length) :
    Disk.Spec (Torn codec intent artifact)
      (Ready codec artifact (IntentHeld codec intent) chunk.offset)
      (putSnapshotChunk codec chunk)
      fun result files => result = .ok (chunk.offset + chunk.data.length) ∧
        Ready codec artifact (IntentHeld codec intent) (chunk.offset + chunk.data.length)
          files := by
  have sized : ¬(chunk.data = [] ∨ chunk.data.length > snapshotChunkBytes) := by
    rintro (empty | large)
    · exact occupied empty
    · omega
  have started : ¬(chunk.offset ≠ chunk.offset ∨
      (artifact.take chunk.offset).length ≠ chunk.offset) := by
    rw [List.length_take]
    omega
  have counted : chunk.offset + chunk.data.length ≤ u64Max := le_trans fits describes.bounded
  have declared : ¬chunk.offset + chunk.data.length > intent.byteLen := by
    rw [describes.byteLen]
    omega
  unfold putSnapshotChunk
  rw [if_neg sized, if_neg (not_not.mpr matching)]
  refine readReady_spec lawful describes same ?_
  rw [if_neg started, checkedAdd_of_le counted]
  dsimp only
  rw [if_neg declared]
  exact storeChunk_spec carried fits

theorem chunkAt_length (offset : Nat) :
    (chunkAt codec intent artifact offset).data.length =
      min snapshotChunkBytes (artifact.length - offset) := by
  simp [chunkAt]

theorem putChunkAt_spec (lawful : codec.Lawful intent)
    (describes : intent.Describes codec artifact) {offset : Nat}
    (short : offset < artifact.length) :
    Disk.Spec (Torn codec intent artifact)
      (Ready codec artifact (IntentHeld codec intent) offset)
      (putSnapshotChunk codec (chunkAt codec intent artifact offset))
      fun result files =>
        result = .ok (offset + min snapshotChunkBytes (artifact.length - offset)) ∧
        Ready codec artifact (IntentHeld codec intent)
          (offset + min snapshotChunkBytes (artifact.length - offset)) files := by
  have length := @chunkAt_length codec intent artifact offset
  have positive : 0 < (chunkAt codec intent artifact offset).data.length := by
    rw [length]
    unfold snapshotChunkBytes
    omega
  have accepted := @putNextChunk_spec codec intent artifact lawful describes
    (chunkAt codec intent artifact offset) rfl (List.ne_nil_of_length_pos positive) (by omega)
    rfl (List.take_prefix _ _) (show offset + _ ≤ _ by omega)
  rw [← length]
  exact accepted

/-- The installed bytes are the artifact's, all of them, with its digest. -/
structure Verified (codec : SnapshotCodec) (intent : SnapshotIntent) (artifact : Disk.Bytes)
    (handed : SnapshotIntent × Disk.Bytes) (files : StageFiles) : Prop where
  described : handed.1 = intent
  content : handed.2 = artifact
  part : partContent files = artifact
  length : handed.2.length = intent.byteLen
  digest : codec.sha256 handed.2 = intent.sha256

theorem verifySnapshot_spec (lawful : codec.Lawful intent)
    (describes : intent.Describes codec artifact) (identity : SnapshotIdentity) :
    Disk.Spec (Torn codec intent artifact) (Settled codec intent artifact)
      (verifySnapshot codec identity)
      fun result files => Settled codec intent artifact files ∧ ∀ handed, result = .ok handed →
        Verified codec intent artifact handed files := by
  unfold verifySnapshot
  refine readRequest_spec lawful describes (fun content offset => ?_)
    fun error files settled => ⟨settled, fun _ => nofun⟩
  split
  · refine Disk.Spec.andThen (Ready codec artifact (IntentHeld codec intent) 0) ?_ ?_
    · refine (resetSnapshotStage_spec.passing fun _ staged => held_torn staged).weaken ?_
        fun _ _ done => done
      rintro files ⟨part, _, opened⟩
      exact opened.stagedWith
    · exact Disk.Spec.fail fun files ready =>
        ⟨held_settled ready.stagedWith, fun _ => nofun⟩
  · rename_i sound
    push Not at sound
    obtain ⟨counted, length, digest⟩ := sound
    refine Disk.Spec.pure fun files seen => ⟨seen.settled, ?_⟩
    intro handed same
    cases same
    obtain ⟨part, rfl, opened⟩ := seen
    have whole : part.current = artifact := by
      have agrees := opened.current (by omega)
      rw [counted, describes.byteLen, List.take_length, ← describes.byteLen, ← length,
        List.take_length] at agrees
      exact agrees
    exact ⟨rfl, whole, by simp [partContent, opened.stored, whole], length, digest⟩

theorem verifyReady_spec (lawful : codec.Lawful intent)
    (describes : intent.Describes codec artifact) :
    Disk.Spec (Torn codec intent artifact)
      (Ready codec artifact (IntentHeld codec intent) artifact.length)
      (verifySnapshot codec intent.identity)
      fun result files => result = .ok (intent, artifact) ∧
        Ready codec artifact (IntentHeld codec intent) artifact.length files := by
  unfold verifySnapshot
  refine readReady_spec lawful describes rfl ?_
  rw [List.take_length, if_neg]
  · exact Disk.Spec.pure fun files ready => ⟨rfl, ready⟩
  · rw [describes.byteLen, describes.sha256]
    simp

theorem finishSnapshot_spec (lawful : codec.Lawful intent)
    (describes : intent.Describes codec artifact) (identity : SnapshotIdentity)
    (installation : Installation) :
    Disk.Spec (Torn codec intent artifact) (Settled codec intent artifact)
      (finishSnapshot codec identity installation)
      fun _ files => Settled codec intent artifact files := by
  unfold finishSnapshot
  refine Disk.Spec.bind (verifySnapshot_spec lawful describes identity) (fun handed => ?_)
    fun error files given => given.1
  cases installation with
  | completed =>
      refine Disk.Spec.andThen (Settled codec intent artifact) ?_ ?_
      · exact removeSnapshotStage_spec.weaken (fun _ given => given.1) fun _ _ done => done
      · exact Disk.Spec.pure fun files settled => settled
  | refused status => exact Disk.Spec.fail fun files given => given.1
  | dropped => exact Disk.Spec.fail fun files given => given.1

theorem finishReady_spec (lawful : codec.Lawful intent)
    (describes : intent.Describes codec artifact) :
    Disk.Spec (Torn codec intent artifact)
      (Ready codec artifact (IntentHeld codec intent) artifact.length)
      (finishSnapshot codec intent.identity .completed)
      fun result files => result = .ok intent.byteLen ∧
        Settled codec intent artifact files := by
  unfold finishSnapshot
  refine Disk.Spec.bind (verifyReady_spec lawful describes) (fun handed => ?_) ?_
  · intro files given
    obtain ⟨same, ready⟩ := given
    cases same
    suffices rest : Disk.Spec (Torn codec intent artifact) (Settled codec intent artifact) _
        fun result files => result = .ok intent.byteLen ∧ Settled codec intent artifact files from
      rest files (held_settled ready.stagedWith)
    refine Disk.Spec.andThen (Settled codec intent artifact) removeSnapshotStage_spec ?_
    exact Disk.Spec.pure fun files settled => ⟨rfl, settled⟩
  · intro error files given
    cases given.1

end Requests

end LightStream
