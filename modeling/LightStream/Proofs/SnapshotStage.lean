import LightStream.Server.SnapshotTransfer

/-!
What the receiver's files of one transfer keep at every point at which it can crash, and
what each operation does to them.
-/

namespace LightStream

section Stage

variable (codec : SnapshotCodec) (intent : SnapshotIntent) (artifact : Disk.Bytes)

/-- What the transfer relies on: JSON reads back what it wrote. -/
structure SnapshotCodec.Lawful : Prop where
  parses : codec.parseIntent (codec.intentBytes intent) = some intent
  progress : ∀ offset ≤ u64Max, codec.parseProgress (codec.progressBytes offset) = some offset

structure SnapshotIntent.Describes : Prop where
  byteLen : intent.byteLen = artifact.length
  sha256 : intent.sha256 = codec.sha256 artifact
  digest : intent.sha256.length = 32
  bounded : artifact.length ≤ u64Max

/-- A content that is the artifact up to `offset`, when it is that long. -/
def Agrees (offset : Nat) (content : Disk.Bytes) : Prop :=
  offset ≤ content.length → content.take offset = artifact.take offset

theorem Agrees.of_prefix {artifact : Disk.Bytes} {offset : Nat} {left content : Disk.Bytes}
    (agrees : Agrees artifact offset content) (cut : left <+: content) :
    Agrees artifact offset left := by
  intro long
  obtain ⟨rest, rfl⟩ := cut
  have whole := agrees (by simp; omega)
  rw [List.take_append_of_le_length long] at whole
  exact whole

/-- The progress file is whole, and what it promises of the part file holds of both of its
versions. -/
def Staged (files : StageFiles) : Prop :=
  ∀ file, files .progress = some file → ∃ offset ≤ artifact.length,
    file = .synced (codec.progressBytes offset) ∧ ∀ part, files .part = some part →
      Agrees artifact offset part.durable ∧ Agrees artifact offset part.current

structure Ready (Intent : Option Disk.File → Prop) (offset : Nat) (files : StageFiles) :
    Prop where
  intent : Intent (files .intent)
  within : offset ≤ artifact.length
  progress : files .progress = some (.synced (codec.progressBytes offset))
  part : ∃ durable, files .part = some ⟨durable, artifact.take offset⟩ ∧
    Agrees artifact offset durable

def IntentWhole (file : Option Disk.File) : Prop :=
  ∀ found, file = some found → found = .synced (codec.intentBytes intent)

def IntentTorn (file : Option Disk.File) : Prop :=
  ∀ found, file = some found →
    found.durable <+: codec.intentBytes intent ∧ found.current <+: codec.intentBytes intent

def Settled (files : StageFiles) : Prop :=
  Staged codec artifact files ∧ IntentWhole codec intent (files .intent)

def Torn (files : StageFiles) : Prop :=
  Staged codec artifact files ∧ IntentTorn codec intent (files .intent)

variable {codec intent artifact}

theorem IntentWhole.torn {file : Option Disk.File} (whole : IntentWhole codec intent file) :
    IntentTorn codec intent file := by
  intro found same
  rw [whole found same]
  exact ⟨List.prefix_refl _, List.prefix_refl _⟩

theorem Settled.torn {files : StageFiles} (settled : Settled codec intent artifact files) :
    Torn codec intent artifact files :=
  ⟨settled.1, settled.2.torn⟩

theorem agrees_take {offset : Nat} : Agrees artifact offset (artifact.take offset) := by
  intro _
  rw [List.take_take, Nat.min_self]

theorem Ready.staged {Intent : Option Disk.File → Prop} {offset : Nat} {files : StageFiles}
    (ready : Ready codec artifact Intent offset files) : Staged codec artifact files := by
  intro file present
  rw [ready.progress] at present
  cases present
  refine ⟨offset, ready.within, rfl, ?_⟩
  intro part found
  obtain ⟨durable, stored, agrees⟩ := ready.part
  rw [stored] at found
  cases found
  exact ⟨agrees, agrees_take⟩

theorem Torn.crash {before after : StageFiles} (torn : Torn codec intent artifact before)
    (crash : Disk.Crash before after) : Torn codec intent artifact after := by
  refine ⟨?_, ?_⟩
  · intro file present
    cases found : before .progress with
    | none =>
        rw [crash.none found] at present
        cases present
    | some earlier =>
        obtain ⟨offset, within, rfl, agrees⟩ := torn.1 earlier found
        rw [crash.synced found] at present
        cases present
        refine ⟨offset, within, rfl, ?_⟩
        intro part stored
        cases kept : before .part with
        | none =>
            rw [crash.none kept] at stored
            cases stored
        | some old =>
            obtain ⟨durable, current⟩ := agrees old kept
            obtain ⟨content, survives, same⟩ := crash.some kept
            rw [same] at stored
            cases stored
            rcases survives.cut with cut | cut
            · exact ⟨durable.of_prefix cut, durable.of_prefix cut⟩
            · exact ⟨current.of_prefix cut, current.of_prefix cut⟩
  · intro found present
    cases kept : before .intent with
    | none =>
        rw [crash.none kept] at present
        cases present
    | some old =>
        obtain ⟨durable, current⟩ := torn.2 old kept
        obtain ⟨content, survives, same⟩ := crash.some kept
        rw [same] at present
        cases present
        rcases survives.cut with cut | cut
        · exact ⟨cut.trans durable, cut.trans durable⟩
        · exact ⟨cut.trans current, cut.trans current⟩

def WholeIntent (codec : SnapshotCodec) (intent : SnapshotIntent) (files : StageFiles) : Prop :=
  ∀ file, files .intent = some file → file.current = codec.intentBytes intent

theorem Torn.settled {before after : StageFiles} (torn : Torn codec intent artifact before)
    (crash : Disk.Crash before after) (whole : WholeIntent codec intent after) :
    Settled codec intent artifact after := by
  refine ⟨(torn.crash crash).1, ?_⟩
  intro found present
  have complete := whole found present
  cases kept : before .intent with
  | none =>
      rw [crash.none kept] at present
      cases present
  | some old =>
      obtain ⟨content, _, same⟩ := crash.some kept
      rw [same] at present
      cases present
      rw [← complete]
      rfl

def durableOffset (codec : SnapshotCodec) (intent : SnapshotIntent) (files : StageFiles) : Nat :=
  match files .progress, files .part with
  | some progress, some part =>
    match codec.parseProgress progress.current with
    | some offset =>
      if offset ≤ intent.byteLen ∧ offset ≤ part.current.length then offset else 0
    | none => 0
  | _, _ => 0

def partContent (files : StageFiles) : Disk.Bytes :=
  match files .part with
  | some part => part.current
  | none => []

theorem Staged.durable_start (lawful : codec.Lawful intent)
    (describes : intent.Describes codec artifact) {files : StageFiles}
    (staged : Staged codec artifact files) :
    durableOffset codec intent files ≤ (partContent files).length ∧
    (partContent files).take (durableOffset codec intent files) =
      artifact.take (durableOffset codec intent files) := by
  unfold durableOffset partContent
  split
  · rename_i progress part stored found
    rw [found]
    obtain ⟨offset, within, rfl, agrees⟩ := staged progress stored
    have parsed := lawful.progress offset (le_trans within describes.bounded)
    simp only [Disk.File.synced, parsed]
    split
    · rename_i fits
      exact ⟨fits.2, (agrees part found).2 fits.2⟩
    · simp
  · simp

end Stage

end LightStream
