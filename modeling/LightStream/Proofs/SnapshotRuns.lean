import LightStream.Proofs.SnapshotChunks

/-!
Runs of the receiver: requests in any order and number, and crashes between any two
operations on its files.
-/

namespace LightStream

inductive SnapshotRequest where
  | begin (aged : Bool)
  | put (chunk : SnapshotChunk)
  | finish (identity : SnapshotIdentity) (installation : Installation)

section Runs

variable (codec : SnapshotCodec) (intent : SnapshotIntent) (artifact : Disk.Bytes)

def serve : SnapshotRequest → StageProgram Nat
  | .begin aged => beginSnapshot codec intent aged
  | .put chunk => putSnapshotChunk codec chunk
  | .finish identity installation => finishSnapshot codec identity installation

/-- Chunks are cut from the artifact; damage on the way shows in the checksum. -/
def SnapshotRequest.Genuine : SnapshotRequest → Prop
  | .put chunk => chunk.Genuine codec artifact
  | _ => True

/-- The files of the receiver in some run whose crashes leave files that `Allowed` admits. -/
inductive SnapshotReached (Allowed : StageFiles → Prop) : StageFiles → Prop
  | empty : SnapshotReached Allowed fun _ => none
  | served {files : StageFiles} (request : SnapshotRequest) :
      SnapshotReached Allowed files → request.Genuine codec artifact →
      SnapshotReached Allowed (serve codec intent request files).final
  | crashed {files middle after : StageFiles} (request : SnapshotRequest) :
      SnapshotReached Allowed files → request.Genuine codec artifact →
      middle ∈ files :: (serve codec intent request files).visited →
      Disk.Crash middle after → Allowed after → SnapshotReached Allowed after

def completeSnapshot (offset : Nat) (installation : Installation) : StageProgram Nat := do
  sendChunks codec intent artifact offset
  finishSnapshot codec intent.identity installation

def PrefixKept (files : StageFiles) : Prop :=
  durableOffset codec intent files ≤ (partContent files).length ∧
  (partContent files).take (durableOffset codec intent files) =
    artifact.take (durableOffset codec intent files)

structure SnapshotResumes (files : StageFiles) : Prop where
  kept : ∀ request : SnapshotRequest, request.Genuine codec artifact →
    ∀ middle ∈ files :: (serve codec intent request files).visited,
      PrefixKept codec intent artifact middle ∧
      ∀ after, Disk.Crash middle after → PrefixKept codec intent artifact after
  answered : ∀ chunk : SnapshotChunk, chunk.Genuine codec artifact → ∀ next,
    (putSnapshotChunk codec chunk files).result = .ok next →
      durableOffset codec intent (putSnapshotChunk codec chunk files).final = next
  installed : ∀ identity handed, (verifySnapshot codec identity files).result = .ok handed →
    Verified codec intent artifact handed (verifySnapshot codec identity files).final
  resumed : ∀ aged, ∃ offset ≤ artifact.length,
    (beginSnapshot codec intent aged files).result = .ok offset ∧
    durableOffset codec intent (beginSnapshot codec intent aged files).final = offset ∧
    (completeSnapshot codec intent artifact offset .completed
      (beginSnapshot codec intent aged files).final).result = .ok intent.byteLen
  sent : ∀ aged,
    (fullSnapshot codec intent artifact aged .completed files).result = .ok intent.byteLen

variable {codec intent artifact}

theorem Ready.durableOffset (lawful : codec.Lawful intent)
    (describes : intent.Describes codec artifact) {Intent : Option Disk.File → Prop}
    {offset : Nat} {files : StageFiles} (ready : Ready codec artifact Intent offset files) :
    durableOffset codec intent files = offset := by
  obtain ⟨durable, stored, _⟩ := ready.part
  have parsed := lawful.progress offset (le_trans ready.within describes.bounded)
  have reached : offset ≤ (artifact.take offset).length := by
    rw [List.length_take]
    exact le_min (le_refl _) ready.within
  have declared : offset ≤ intent.byteLen := by
    rw [describes.byteLen]
    exact ready.within
  simp only [LightStream.durableOffset, ready.progress, stored, Disk.File.synced, parsed,
    if_pos (And.intro declared reached)]

/-- The chunk loop reaches the end of the artifact; its measure is what is left to send. -/
theorem sendChunks_spec (lawful : codec.Lawful intent)
    (describes : intent.Describes codec artifact) (offset : Nat) :
    Disk.Spec (Torn codec intent artifact)
      (Ready codec artifact (IntentHeld codec intent) offset)
      (sendChunks codec intent artifact offset)
      fun result files => result = .ok () ∧
        Ready codec artifact (IntentHeld codec intent) artifact.length files := by
  induction left : artifact.length - offset using Nat.strong_induction_on generalizing offset with
  | _ left ih =>
      rw [sendChunks]
      split
      · rename_i short
        have bounded := describes.bounded
        have stop : min (saturatingAdd offset snapshotChunkBytes) artifact.length =
            offset + min snapshotChunkBytes (artifact.length - offset) := by
          unfold saturatingAdd
          omega
        have advances : 0 < min snapshotChunkBytes (artifact.length - offset) := by
          unfold snapshotChunkBytes
          omega
        rw [stop]
        refine Disk.Spec.bind (putChunkAt_spec lawful describes short) (fun returned => ?_) ?_
        · intro files given
          obtain ⟨same, ready⟩ := given
          cases same
          rw [if_neg (not_not.mpr rfl), dif_pos (by omega)]
          exact ih _ (by omega) _ rfl files ready
        · intro error files given
          cases given.1
      · rename_i done
        refine Disk.Spec.pure fun files ready => ⟨rfl, ?_⟩
        have whole : offset = artifact.length := le_antisymm ready.within (by omega)
        exact whole ▸ ready

theorem completeSnapshot_spec (lawful : codec.Lawful intent)
    (describes : intent.Describes codec artifact) (offset : Nat) :
    Disk.Spec (Torn codec intent artifact)
      (Ready codec artifact (IntentHeld codec intent) offset)
      (completeSnapshot codec intent artifact offset .completed)
      fun result files => result = .ok intent.byteLen ∧
        Settled codec intent artifact files := by
  unfold completeSnapshot
  exact Disk.Spec.andThen _ (sendChunks_spec lawful describes offset)
    (finishReady_spec lawful describes)

theorem fullSnapshot_spec (lawful : codec.Lawful intent)
    (describes : intent.Describes codec artifact) (aged : Bool) :
    Disk.Spec (Torn codec intent artifact) (Settled codec intent artifact)
      (fullSnapshot codec intent artifact aged .completed)
      fun result files => result = .ok intent.byteLen ∧
        Settled codec intent artifact files := by
  unfold fullSnapshot
  refine Disk.Spec.bind (beginSnapshot_spec lawful describes aged) (fun returned => ?_) ?_
  · intro files given
    obtain ⟨offset, same, ready⟩ := given
    cases same
    rw [if_neg (not_lt.mpr ready.within)]
    exact completeSnapshot_spec lawful describes _ files ready
  · intro error files given
    obtain ⟨_, same, _⟩ := given
    cases same

theorem serve_spec (lawful : codec.Lawful intent)
    (describes : intent.Describes codec artifact) {request : SnapshotRequest}
    (genuine : request.Genuine codec artifact) :
    Disk.Spec (Torn codec intent artifact) (Settled codec intent artifact)
      (serve codec intent request)
      fun _ files => Settled codec intent artifact files := by
  cases request with
  | begin aged =>
      refine (beginSnapshot_spec lawful describes aged).weaken (fun _ settled => settled) ?_
      intro result files given
      obtain ⟨offset, _, ready⟩ := given
      exact held_settled ready.stagedWith
  | put chunk =>
      exact (putSnapshotChunk_spec lawful describes genuine).weaken
        (fun _ settled => settled) fun _ _ given => given.1
  | finish identity installation =>
      exact finishSnapshot_spec lawful describes identity installation

theorem Settled.middle (lawful : codec.Lawful intent)
    (describes : intent.Describes codec artifact) {files middle : StageFiles}
    (settled : Settled codec intent artifact files) {request : SnapshotRequest}
    (genuine : request.Genuine codec artifact)
    (member : middle ∈ files :: (serve codec intent request files).visited) :
    Torn codec intent artifact middle := by
  rcases List.mem_cons.mp member with rfl | inside
  · exact settled.torn
  · exact (serve_spec lawful describes genuine files settled).1 middle inside

theorem SnapshotReached.settled (lawful : codec.Lawful intent)
    (describes : intent.Describes codec artifact) {files : StageFiles}
    (reached : SnapshotReached codec intent artifact (WholeIntent codec intent) files) :
    Settled codec intent artifact files := by
  induction reached with
  | empty => exact ⟨fun _ => nofun, fun _ => nofun⟩
  | served request _ genuine ih => exact (serve_spec lawful describes genuine _ ih).2
  | crashed request _ genuine member crash whole ih =>
      exact (ih.middle lawful describes genuine member).settled crash whole

/-- A transfer whose crashes never cut the intent file short resumes from every state of
its run. -/
theorem snapshot_transfer_resumes (lawful : codec.Lawful intent)
    (describes : intent.Describes codec artifact) {files : StageFiles}
    (reached : SnapshotReached codec intent artifact (WholeIntent codec intent) files) :
    SnapshotResumes codec intent artifact files := by
  have settled := reached.settled lawful describes
  refine ⟨?_, ?_, ?_, ?_, ?_⟩
  · intro request genuine middle member
    have torn := settled.middle lawful describes genuine member
    refine ⟨torn.1.durable_start lawful describes, ?_⟩
    intro after crash
    exact (torn.crash crash).1.durable_start lawful describes
  · intro chunk genuine next answer
    have answered := (putSnapshotChunk_spec lawful describes genuine files settled).2.2
    exact (answered next answer).2.durableOffset lawful describes
  · intro identity handed verified
    exact (verifySnapshot_spec lawful describes identity files settled).2.2 handed verified
  · intro aged
    obtain ⟨offset, answer, ready⟩ := (beginSnapshot_spec lawful describes aged files settled).2
    refine ⟨offset, ready.within, answer, ready.durableOffset lawful describes, ?_⟩
    exact (completeSnapshot_spec lawful describes offset _ ready).2.1
  · intro aged
    exact (fullSnapshot_spec lawful describes aged files settled).2.1

theorem beginSnapshot_cut (describes : intent.Describes codec artifact) {file : Disk.File}
    (cut : codec.parseIntent file.current = none) :
    Disk.Spec (fun _ => True) (fun files => files .intent = some file)
      (beginSnapshot codec intent false)
      fun result files => result = .error (.internal "invalid intent") ∧
        files .intent = some file := by
  let Stuck (files : StageFiles) : Prop := files .intent = some file
  unfold beginSnapshot
  rw [if_neg (not_not.mpr describes.digest)]
  refine Disk.Spec.andThen Stuck ?_ ?_
  · unfold removeAbandonedSnapshotStage intentFile
    refine Disk.Spec.lookThen (fun found => ?_) fun _ _ _ => nofun
    rw [if_neg (by simp)]
    exact Disk.Spec.pure fun files given => ⟨rfl, given.1⟩
  have refused : Disk.Spec (fun _ => True) Stuck (adoptIntent codec intent)
      fun result files => result = .error (.internal "invalid intent") ∧ Stuck files := by
    unfold adoptIntent intentFile
    have stops : Disk.Spec (fun _ => True) Stuck
        (Disk.fail (.internal "invalid intent") : StageProgram Unit)
        fun result files => result = .error (.internal "invalid intent") ∧ Stuck files :=
      Disk.Spec.fail fun files stuck => ⟨rfl, stuck⟩
    refine Disk.Spec.lookThen (fun found => ?_) fun _ _ _ => nofun
    intro files given
    obtain ⟨stuck, same⟩ := given
    rw [stuck] at same
    cases same
    simp only [Option.map_some, cut]
    exact stops files stuck
  refine Disk.Spec.bind refused (fun _ => ?_) fun error files given => ?_
  · intro files given
    cases given.1
  · obtain ⟨same, stuck⟩ := given
    cases same
    exact ⟨rfl, stuck⟩

end Runs

section Sample

def crc32Step (crc : UInt32) : UInt32 :=
  if crc &&& 1 = 1 then (crc >>> 1) ^^^ 0xEDB88320 else crc >>> 1

def crc32 (data : Disk.Bytes) : Nat :=
  (data.foldl (fun crc byte => crc32Step^[8] (crc ^^^ byte.toUInt32)) 0xFFFFFFFF
    ^^^ 0xFFFFFFFF).toNat

def asciiBytes (text : String) : Disk.Bytes := text.toList.map fun char => char.toNat.toUInt8

def decimal (value : Nat) : Disk.Bytes :=
  (Nat.toDigits 10 value).map fun char => char.toNat.toUInt8

def parseDecimal (bytes : Disk.Bytes) : Option Nat :=
  if bytes = [] then none
  else some (Nat.ofDigitChars 10 (bytes.map fun byte => Char.ofNat byte.toNat) 0)

def jsonBytes (bytes : Disk.Bytes) : Disk.Bytes :=
  asciiBytes "[" ++ (asciiBytes ",").intercalate (bytes.map fun byte => decimal byte.toNat) ++
    asciiBytes "]"

def intentJson (intent : SnapshotIntent) : Disk.Bytes :=
  asciiBytes "\x7b\"cluster_id\":\"" ++ asciiBytes intent.identity.clusterId ++
  asciiBytes "\",\"group_id\":" ++ decimal intent.identity.groupId ++
  asciiBytes ",\"sender_node_id\":" ++ decimal intent.identity.senderNodeId ++
  asciiBytes ",\"target_node_id\":" ++ decimal intent.identity.targetNodeId ++
  asciiBytes ",\"transfer_id\":\"" ++ asciiBytes intent.identity.transferId ++
  asciiBytes "\",\"vote_json\":" ++ jsonBytes intent.voteJson ++
  asciiBytes ",\"meta_json\":" ++ jsonBytes intent.metaJson ++
  asciiBytes ",\"byte_len\":" ++ decimal intent.byteLen ++
  asciiBytes ",\"sha256\":" ++ jsonBytes intent.sha256 ++ asciiBytes "\x7d"

theorem parseDecimal_decimal (value : Nat) : parseDecimal (decimal value) = some value := by
  have characters : (decimal value).map (fun byte => Char.ofNat byte.toNat) =
      Nat.toDigits 10 value := by
    unfold decimal
    rw [List.map_map]
    refine (List.map_congr_left ?_).trans (List.map_id _)
    intro char member
    have digit := Nat.isDigit_of_mem_toDigits (by decide) (by decide) member
    have small : char.toNat < 256 := by
      simp only [Char.isDigit, Bool.and_eq_true, decide_eq_true_eq] at digit
      have upper : char.toNat ≤ 57 := UInt32.le_iff_toNat_le.mp digit.2
      omega
    simp only [Function.comp_apply, id_eq, UInt8.toNat_ofNat', Nat.mod_eq_of_lt small,
      Char.ofNat_toNat]
  unfold parseDecimal
  rw [if_neg, characters, Nat.ofDigitChars_ten_toDigits]
  intro empty
  have nonempty : Nat.toDigits 10 value ≠ [] := Nat.toDigits_ne_nil
  rw [← characters, empty] at nonempty
  exact nonempty rfl

def sampleIntent : SnapshotIntent where
  identity := ⟨"orders", 2, 1, 3,
    "00112233445566778899aabbccddeeff00112233445566778899aabbccddeeff"⟩
  voteJson := asciiBytes "null"
  metaJson := asciiBytes "null"
  byteLen := 1
  sha256 := [0xca, 0x97, 0x81, 0x12, 0xca, 0x1b, 0xbd, 0xca, 0xfa, 0xc2, 0x31, 0xb3, 0x9a, 0x23,
    0xdc, 0x4d, 0xa7, 0x86, 0xef, 0xf8, 0x14, 0x7c, 0x4e, 0x72, 0xb9, 0x80, 0x77, 0x85, 0xaf,
    0xee, 0x48, 0xbb]

def sampleCodec : SnapshotCodec where
  intentBytes := intentJson
  parseIntent bytes := if bytes = intentJson sampleIntent then some sampleIntent else none
  progressBytes := decimal
  parseProgress := parseDecimal
  crc32 := crc32
  sha256 _ := sampleIntent.sha256

theorem sampleCodec_lawful : sampleCodec.Lawful sampleIntent := by
  refine ⟨?_, fun offset _ => parseDecimal_decimal offset⟩
  simp only [sampleCodec, if_true]

theorem sampleIntent_describes : sampleIntent.Describes sampleCodec [97] :=
  ⟨rfl, rfl, rfl, by decide⟩

theorem snapshot_transfer_resumes_sample :
    SnapshotResumes sampleCodec sampleIntent [97]
      (serve sampleCodec sampleIntent (.begin false) fun _ => none).final :=
  snapshot_transfer_resumes sampleCodec_lawful sampleIntent_describes
    (.served (.begin false) .empty trivial)

/-- The intent file was created and the receiver crashed before its bytes were synced. -/
def cutStage : StageFiles := Function.update (fun _ => none) .intent (some (.synced []))

theorem cut_intent_stops_transfer :
    sampleCodec.Lawful sampleIntent ∧ sampleIntent.Describes sampleCodec [97] ∧
    SnapshotReached sampleCodec sampleIntent [97] (fun _ => True) cutStage ∧
    (beginSnapshot sampleCodec sampleIntent false cutStage).result =
      .error (.internal "invalid intent") ∧
    ¬SnapshotResumes sampleCodec sampleIntent [97] cutStage := by
  have stops : (beginSnapshot sampleCodec sampleIntent false cutStage).result =
      .error (.internal "invalid intent") := by
    have unread : sampleCodec.parseIntent [] = none := by
      have filled : [] ≠ intentJson sampleIntent := by
        intro empty
        have closed := (List.append_eq_nil_iff.mp empty.symm).2
        exact absurd closed (by decide)
      show (if [] = intentJson sampleIntent then some sampleIntent else none) = none
      exact if_neg filled
    exact (beginSnapshot_cut sampleIntent_describes unread cutStage rfl).2.1
  refine ⟨sampleCodec_lawful, sampleIntent_describes, ?_, stops, ?_⟩
  · let created : StageFiles := Function.update (fun _ => none) .intent (some ⟨[], []⟩)
    have passed : created ∈
        (serve sampleCodec sampleIntent (.begin false) fun _ => none).visited :=
      List.mem_of_mem_head? rfl
    refine .crashed (.begin false) .empty trivial (List.mem_cons_of_mem _ passed) ?_ trivial
    intro name
    cases name with
    | intent =>
        refine ⟨[], ⟨.inl (List.prefix_refl _), ?_⟩, rfl⟩
        intro shared durable _
        exact durable
    | part => rfl
    | progress => rfl
    | temporary => rfl
  · intro resumes
    obtain ⟨offset, _, answer, _⟩ := resumes.resumed false
    rw [stops] at answer
    cases answer

end Sample

end LightStream
