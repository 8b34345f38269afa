import LightStream.Client.ExportDownload
import LightStream.Proofs.ExportDigest

/-!
The download of an export: what one response does to the part file, the hash and the offset, when
the loop ends, and what is published at the output path.
-/

namespace LightStream

open Sha256 (Octets)

namespace ExportRun

variable {run : ExportRun} {output : String} {files : Files} {artifact : ArtifactIdentity}
variable {index : Nat} {download : Download} {chunk : DownloadedExportChunk}

def received (run : ExportRun) (count : Nat) : Octets :=
  (List.range count).flatMap fun index =>
    match downloadExportChunk (run.answers index) with
    | .ok chunk => chunk.data
    | .error _ => []

/-- A response that is a chunk of the artifact, at the offset up to which data came, and whose
data the part file takes. -/
structure Accepted (run : ExportRun) (artifact : ArtifactIdentity) (index : Nat)
    (chunk : DownloadedExportChunk) : Prop where
  answered : downloadExportChunk (run.answers index) = .ok chunk
  same : chunk.artifact = artifact
  offset : chunk.offset = (run.received index).length
  written : run.writes index = .whole
  fits : (run.received index ++ chunk.data).length < fileSizeLimit

def Continues (run : ExportRun) (artifact : ArtifactIdentity) (index : Nat) : Prop :=
  ∃ chunk, run.Accepted artifact index chunk ∧ chunk.last = false

structure Entered (run : ExportRun) (artifact : ArtifactIdentity) : Prop where
  begun : run.begun = .ok ()
  available : run.available = .ok artifact
  opened : run.opened = .ok ()

structure Delivered (run : ExportRun) (artifact : ArtifactIdentity) (count : Nat) : Prop where
  chunks : ∀ index < count, ∃ chunk, run.Accepted artifact index chunk
  length : (run.received count).length = artifact.length
  sha256 : Codec.ofOctets (Sha256.digest (run.received count)) = artifact.sha256

structure Exact (run : ExportRun) (output : String) (files : Files) : Prop where
  ends : ∀ artifact, run.Entered artifact →
    ∃ exported, run.exportTo output files (artifact.length + 1) = some exported
  total : ∀ responses exported, run.exportTo output files responses = some exported →
    exported.result ≠ none
  delivers : ∀ responses exported artifact,
    run.exportTo output files responses = some exported →
    exported.result = some (.ok artifact) → run.Entered artifact ∧ ∃ count ≤ responses,
      run.Delivered artifact count ∧ exported.files output = some (run.received count)
  withholds : ∀ responses exported message,
    run.exportTo output files responses = some exported →
    exported.result = some (.error (.protocol message)) → exported.files output = files output

structure Holding (run : ExportRun) (output : String) (files : Files) (count : Nat)
    (download : Download) : Prop where
  part : download.files (exportPartPath output) = some (run.received count)
  others : ∀ path, path ≠ exportPartPath output → download.files path = files path
  offset : download.offset = (run.received count).length
  fits : (run.received count).length < fileSizeLimit
  hashed : ∃ first rest, download.hasher.Holds first rest ∧ first ++ rest = run.received count
  counted : download.hasher.len = UInt64.ofNat (run.received count).length

theorem exportPartPath_ne (output : String) : output ≠ exportPartPath output := by
  intro same
  have lengths := congrArg String.length same
  rw [exportPartPath, String.length_append] at lengths
  change output.length = output.length + 5 at lengths
  omega

theorem received_succ (answered : downloadExportChunk (run.answers index) = .ok chunk) :
    run.received (index + 1) = run.received index ++ chunk.data := by
  rw [received, List.range_succ, List.flatMap_append, List.flatMap_singleton, answered]
  rfl

theorem startDownload_holding : run.Holding output files 0 (startDownload output files) where
  part := Function.update_self ..
  others := fun _ other => Function.update_of_ne other ..
  offset := rfl
  fits := Nat.two_pow_pos 63
  hashed := ⟨[], [], ExportSha256.holds_new, rfl⟩
  counted := rfl

theorem downloadTurn_accepted (holding : run.Holding output files index download)
    (accepted : run.Accepted artifact index chunk) :
    ∃ next, run.Holding output files (index + 1) next ∧
      run.downloadTurn output artifact download index =
        if chunk.last then .returned (next, .finished) else .again next := by
  obtain ⟨first, rest, holds, split⟩ := holding.hashed
  obtain ⟨hasher, hashed, held, updated, joined, kept, len⟩ :=
    ExportSha256.update_some holds chunk.data
  have whole := received_succ accepted.answered
  have contents : download.files.contents (exportPartPath output) = run.received index := by
    rw [Files.contents, holding.part, Option.getD_some]
  have fits := accepted.fits
  have grown : (download.offset + chunk.data.length) % 2 ^ 64 =
      (run.received (index + 1)).length := by
    rw [holding.offset, whole, List.length_append, Nat.mod_eq_of_lt]
    rw [List.length_append, fileSizeLimit] at fits
    omega
  refine ⟨⟨download.files.write (exportPartPath output) (run.received (index + 1)), hasher,
    (run.received (index + 1)).length⟩, ?_, ?_⟩
  · refine ⟨Function.update_self .., ?_, rfl, ?_, ?_, ?_⟩
    · intro path other
      rw [← holding.others path other]
      exact Function.update_of_ne other ..
    · rw [whole]
      exact fits
    · refine ⟨hashed, held, kept, ?_⟩
      rw [← joined, split, whole]
    · rw [len, holding.counted, whole, List.length_append, UInt64.ofNat_add]
  · rw [downloadTurn, accepted.answered]
    simp only [accepted.same, ne_eq, not_true_eq_false, if_false, accepted.offset,
      ← holding.offset, accepted.written, writeAll, contents, if_pos fits, updated, grown]
    rw [← whole]

theorem downloadTurn_refused (holding : run.Holding output files index download)
    (refused : ∀ chunk, ¬run.Accepted artifact index chunk) :
    ∃ stopped error,
      run.downloadTurn output artifact download index = .returned (stopped, .failed error) ∧
      ∀ path, path ≠ exportPartPath output → stopped.files path = files path := by
  have discarded : ∀ path, path ≠ exportPartPath output →
      run.discard output download.files path = files path := by
    intro path other
    rw [← holding.others path other, discard]
    split
    · exact Function.update_of_ne other ..
    · rfl
  have contents : download.files.contents (exportPartPath output) = run.received index := by
    rw [Files.contents, holding.part, Option.getD_some]
  rw [downloadTurn]
  cases answered : downloadExportChunk (run.answers index) with
  | error error => exact ⟨download, error, rfl, holding.others⟩
  | ok chunk =>
      by_cases same : chunk.artifact = artifact
      · by_cases offset : chunk.offset = download.offset
        · simp only [same, ne_eq, not_true_eq_false, if_false, offset]
          cases written : run.writes index with
          | failed written reason =>
              refine ⟨_, _, rfl, ?_⟩
              intro path other
              rw [← holding.others path other]
              exact Function.update_of_ne other ..
          | whole =>
              have long : ¬(run.received index ++ chunk.data).length < fileSizeLimit := by
                intro fits
                exact refused chunk ⟨answered, same, offset.trans holding.offset, written, fits⟩
              simp only [writeAll, contents, if_neg long]
              exact ⟨_, _, rfl, holding.others⟩
        · simp only [same, ne_eq, not_true_eq_false, if_false, offset, not_false_eq_true, if_true]
          exact ⟨_, _, rfl, discarded⟩
      · simp only [ne_eq, same, not_false_eq_true, if_true]
        exact ⟨_, _, rfl, discarded⟩

/-! ### The loop -/

theorem downloadTurn_busy (download : Download) (index : Nat) :
    run.downloadTurn output artifact download index ≠ .waiting := by
  rw [downloadTurn]
  repeat' split
  all_goals exact fun waiting => nomatch waiting

theorem states_holding (index : Nat) (download : Download)
    (reached : Retry.states (run.downloadTurn output artifact) id (startDownload output files)
      index = some download) :
    run.Holding output files index download ∧
      ∀ earlier < index, run.Continues artifact earlier := by
  refine @Retry.states_invariant _ _ _ _ _ _ (fun index download =>
    run.Holding output files index download ∧ ∀ earlier < index, run.Continues artifact earlier)
    ?_ ?_ index download reached
  · rintro index download next ⟨holding, before⟩ moved
    by_cases accepted : ∃ chunk, run.Accepted artifact index chunk
    · obtain ⟨chunk, accepted⟩ := accepted
      obtain ⟨after, kept, turned⟩ := downloadTurn_accepted holding accepted
      rw [id_eq, turned] at moved
      cases last : chunk.last with
      | true => simp [last] at moved
      | false =>
          simp only [last, Bool.false_eq_true, if_false, Retry.Turned.again.injEq] at moved
          subst moved
          refine ⟨kept, ?_⟩
          intro earlier bound
          rcases Nat.lt_succ_iff_lt_or_eq.mp bound with old | rfl
          · exact before earlier old
          · exact ⟨chunk, accepted, last⟩
    · obtain ⟨stopped, error, turned, _⟩ :=
        downloadTurn_refused holding fun chunk taken => accepted ⟨chunk, taken⟩
      rw [id_eq, turned] at moved
      cases moved
  · exact ⟨startDownload_holding, fun earlier none => absurd none (Nat.not_lt_zero _)⟩

theorem downloadTurn_returned {ended : Download × DownloadEnd}
    (reached : Retry.states (run.downloadTurn output artifact) id (startDownload output files)
      index = some download)
    (returned : run.downloadTurn output artifact download index = .returned ended) :
    (∃ stopped error, ended = (stopped, .failed error) ∧
      ∀ path, path ≠ exportPartPath output → stopped.files path = files path) ∨
    ∃ next, ended = (next, .finished) ∧ run.Holding output files (index + 1) next ∧
      ∀ earlier < index + 1, ∃ chunk, run.Accepted artifact earlier chunk := by
  obtain ⟨holding, before⟩ := states_holding index download reached
  by_cases accepted : ∃ chunk, run.Accepted artifact index chunk
  · obtain ⟨chunk, accepted⟩ := accepted
    obtain ⟨next, kept, turned⟩ := downloadTurn_accepted holding accepted
    rw [turned] at returned
    cases last : chunk.last with
    | false => simp [last] at returned
    | true =>
        simp only [last, if_true, Retry.Turned.returned.injEq] at returned
        refine .inr ⟨next, returned.symm, kept, ?_⟩
        intro earlier bound
        rcases Nat.lt_succ_iff_lt_or_eq.mp bound with old | rfl
        · exact (before earlier old).imp fun _ taken => taken.1
        · exact ⟨chunk, accepted⟩
  · obtain ⟨stopped, error, turned, others⟩ :=
      downloadTurn_refused holding fun chunk taken => accepted ⟨chunk, taken⟩
    rw [turned] at returned
    cases returned
    exact .inl ⟨stopped, error, rfl, others⟩

theorem exportTo_entered (entered : run.Entered artifact) (responses : Nat) :
    run.exportTo output files responses = (Retry.run (run.downloadTurn output artifact)
      (startDownload output files) ((List.range responses).map id)).map
        (run.ended output artifact) := by
  rw [exportTo, entered.begun, entered.available, entered.opened, List.map_id]

theorem exportTo_none (entered : run.Entered artifact) (responses : Nat) :
    run.exportTo output files responses = none ↔
      ∀ index < responses, run.Continues artifact index := by
  rw [exportTo_entered entered, Option.map_eq_none_iff,
    Retry.run_range_none fun download index => downloadTurn_busy download index]
  constructor
  · rintro ⟨download, reached⟩
    exact (states_holding responses download reached).2
  · intro continued
    induction responses with
    | zero => exact ⟨_, rfl⟩
    | succ count ih =>
        obtain ⟨download, reached⟩ := ih fun index bound => continued index (by omega)
        obtain ⟨chunk, accepted, last⟩ := continued count (Nat.lt_succ_self _)
        obtain ⟨next, _, turned⟩ :=
          downloadTurn_accepted (states_holding count download reached).1 accepted
        refine ⟨next, ?_⟩
        rw [Retry.states, reached, Option.bind_some, id_eq, turned, last]
        rfl

/-! ### The result -/

theorem publish_cases {count : Nat} (holding : run.Holding output files count download) :
    (∃ error unchanged, run.publish output artifact download = .failed unchanged error ∧
      unchanged output = files output) ∨
    (∃ renamed reason, run.publish output artifact download = .failed renamed (.request reason)) ∨
    (∃ renamed, run.publish output artifact download = ⟨renamed, some (.ok artifact)⟩ ∧
      renamed output = some (run.received count) ∧
      (run.received count).length = artifact.length ∧
      Codec.ofOctets (Sha256.digest (run.received count)) = artifact.sha256) := by
  obtain ⟨first, rest, holds, split⟩ := holding.hashed
  have apart := exportPartPath_ne output
  have counted := holding.counted
  rw [← split] at counted
  have digest := ExportSha256.finalize_some holds counted
  have contents : download.files.contents (exportPartPath output) = run.received count := by
    rw [Files.contents, holding.part, Option.getD_some]
  have same : download.files output = files output := holding.others output apart
  have published : (download.files.write output (run.received count)).remove
      (exportPartPath output) output = some (run.received count) := by
    rw [Files.remove, Function.update_of_ne apart, Files.write, Function.update_self]
  rw [publish, digest, split, holding.offset]
  by_cases wrong : (run.received count).length ≠ artifact.length ∨
      Codec.ofOctets (Sha256.digest (run.received count)) ≠ artifact.sha256
  · refine .inl ⟨_, run.discard output download.files, if_pos wrong, ?_⟩
    rw [discard]
    split
    · exact (Function.update_of_ne apart ..).trans same
    · exact same
  · simp only [if_neg wrong]
    rw [not_or, not_not, not_not] at wrong
    cases run.synced with
    | error reason => exact .inl ⟨_, _, rfl, same⟩
    | ok =>
        cases run.completed with
        | error error => exact .inl ⟨_, _, rfl, same⟩
        | ok =>
            cases run.renamed with
            | error reason => exact .inl ⟨_, _, rfl, same⟩
            | ok =>
                simp only [contents]
                cases run.parentSynced with
                | error reason => exact .inr (.inl ⟨_, _, rfl⟩)
                | ok => exact .inr (.inr ⟨_, rfl, published, wrong⟩)

/-- How `export_to` ends: in a failure that leaves the output path alone, in a failure of its
last step, or with the whole artifact at the output path. -/
theorem exportTo_cases {responses : Nat} {exported : Exported}
    (ended : run.exportTo output files responses = some exported) :
    (∃ error unchanged, exported = .failed unchanged error ∧ unchanged output = files output) ∨
    (∃ renamed reason, exported = .failed renamed (.request reason)) ∨
    ∃ artifact renamed, exported = ⟨renamed, some (.ok artifact)⟩ ∧ run.Entered artifact ∧
      ∃ count ≤ responses, run.Delivered artifact count ∧
        renamed output = some (run.received count) := by
  by_cases entered : ∃ artifact, run.Entered artifact
  · obtain ⟨artifact, entered⟩ := entered
    rw [exportTo_entered entered, Option.map_eq_some_iff] at ended
    obtain ⟨stop, left, rfl⟩ := ended
    obtain ⟨index, bound, download, reached, returned⟩ :=
      (Retry.run_range_iff responses).mp left
    rcases downloadTurn_returned reached returned with
      ⟨stopped, error, rfl, others⟩ | ⟨next, rfl, holding, chunks⟩
    · exact .inl ⟨error, stopped.files, rfl, others output (exportPartPath_ne output)⟩
    · rcases publish_cases holding with failed | late | ⟨renamed, done, written, length, sha256⟩
      · exact .inl failed
      · exact .inr (.inl late)
      · exact .inr (.inr ⟨artifact, renamed, done, entered, index + 1, bound,
          ⟨chunks, length, sha256⟩, written⟩)
  · rw [exportTo] at ended
    cases begun : run.begun with
    | error error =>
        rw [begun] at ended
        cases ended
        exact .inl ⟨_, _, rfl, rfl⟩
    | ok =>
        cases available : run.available with
        | error error =>
            rw [begun, available] at ended
            cases ended
            exact .inl ⟨_, _, rfl, rfl⟩
        | ok artifact =>
            cases opened : run.opened with
            | error reason =>
                rw [begun, available, opened] at ended
                cases ended
                exact .inl ⟨_, _, rfl, rfl⟩
            | ok => exact absurd ⟨artifact, begun, available, opened⟩ entered

theorem exact_of_ends (ends : ∀ artifact, run.Entered artifact →
    ∃ exported, run.exportTo output files (artifact.length + 1) = some exported) :
    run.Exact output files where
  ends := ends
  total := by
    intro responses exported ended
    rcases exportTo_cases ended with ⟨_, _, rfl, _⟩ | ⟨_, _, rfl⟩ | ⟨_, _, rfl, _⟩ <;>
      exact Option.some_ne_none _
  delivers := by
    intro responses exported artifact ended delivered
    rcases exportTo_cases ended with ⟨_, _, rfl, _⟩ | ⟨_, _, rfl⟩ | ⟨_, _, rfl, entered, rest⟩
    · cases delivered
    · cases delivered
    · cases delivered
      exact ⟨entered, rest⟩
  withholds := by
    intro responses exported message ended failed
    rcases exportTo_cases ended with ⟨_, _, rfl, same⟩ | ⟨_, _, rfl⟩ | ⟨_, _, rfl, _⟩
    · exact same
    · cases failed
    · cases failed

theorem ends_iff (entered : run.Entered artifact) (responses : Nat) :
    (∃ exported, run.exportTo output files responses = some exported) ↔
      ∃ index < responses, ¬run.Continues artifact index := by
  rw [← Option.isSome_iff_exists, Option.isSome_iff_ne_none, ne_eq, exportTo_none entered]
  constructor
  · intro stops
    by_contra never
    exact stops fun index bound => by_contra fun stop => never ⟨index, bound, stop⟩
  · rintro ⟨index, bound, stop⟩ continued
    exact stop (continued index bound)

/-- Chunks that are not the last one carry data, and no more than is left of the artifact. -/
def Progresses (run : ExportRun) (artifact : ArtifactIdentity) : Prop :=
  ∀ index ≤ artifact.length, ∀ chunk, run.Accepted artifact index chunk → chunk.last = false →
    chunk.data ≠ [] ∧ (run.received (index + 1)).length ≤ artifact.length

theorem received_progress (progresses : run.Progresses artifact) {count : Nat}
    (few : count ≤ artifact.length + 1)
    (continued : ∀ index < count, run.Continues artifact index) :
    count ≤ (run.received count).length := by
  induction count with
  | zero => exact Nat.zero_le _
  | succ count ih =>
      obtain ⟨chunk, accepted, last⟩ := continued count (Nat.lt_succ_self _)
      have earlier := ih (by omega) fun index bound => continued index (by omega)
      have data := (progresses count (by omega) chunk accepted last).1
      have nonempty := List.length_pos_iff.mpr data
      rw [received_succ accepted.answered, List.length_append]
      omega

theorem stops_of_progress (progresses : run.Progresses artifact) :
    ∃ index < artifact.length + 1, ¬run.Continues artifact index := by
  by_contra never
  have continued : ∀ index < artifact.length + 1, run.Continues artifact index :=
    fun index bound => by_contra fun stop => never ⟨index, bound, stop⟩
  have many := received_progress progresses (Nat.le_refl _) continued
  obtain ⟨chunk, accepted, last⟩ := continued artifact.length (Nat.lt_succ_self _)
  have few := (progresses artifact.length (Nat.le_refl _) chunk accepted last).2
  omega

/-- A download is exact and ends if and only if one of the first length + 1 responses is not a
further chunk; so it is where the chunks before the last one carry data of the artifact. -/
theorem export_to_exact (run : ExportRun) (output : String) (files : Files) :
    (run.Exact output files ↔ ∀ artifact, run.Entered artifact →
      ∃ index < artifact.length + 1, ¬run.Continues artifact index) ∧
    ((∀ artifact, run.Entered artifact → run.Progresses artifact) → run.Exact output files) := by
  constructor
  · constructor
    · intro right artifact entered
      exact (ends_iff entered _).mp (right.ends artifact entered)
    · intro stops
      exact exact_of_ends fun artifact entered => (ends_iff entered _).mpr (stops artifact entered)
  · intro progress
    exact exact_of_ends fun artifact entered =>
      (ends_iff entered _).mpr (stops_of_progress (progress artifact entered))

/-- A server whose copy of the artifact is shorter than the artifact says: its chunks are empty
and never the last. -/
def stalledRun : ExportRun where
  begun := .ok ()
  available := .ok ⟨1, 0, Nat.one_ne_zero⟩
  opened := .ok ()
  answers := fun _ => .ok (.success (.ok ⟨some ⟨1, List.replicate 32 0⟩, 0, [], false⟩))
  writes := fun _ => .whole
  removed := true
  synced := .ok ()
  completed := .ok ()
  renamed := .ok ()
  parentSynced := .ok ()

theorem stalledRun_received (count : Nat) : stalledRun.received count = [] := by
  induction count with
  | zero => rfl
  | succ count ih =>
      have answered : downloadExportChunk (stalledRun.answers count) =
          .ok ⟨⟨1, 0, by decide⟩, 0, [], false⟩ := rfl
      rw [received_succ answered, ih]
      rfl

theorem stalledRun_continues (index : Nat) :
    stalledRun.Continues ⟨1, 0, by decide⟩ index := by
  refine ⟨⟨⟨1, 0, by decide⟩, 0, [], false⟩, ⟨rfl, rfl, ?_, rfl, ?_⟩, rfl⟩
  · rw [stalledRun_received]
    rfl
  · rw [stalledRun_received]
    exact Nat.two_pow_pos 63

theorem stalled_download_never_ends :
    ¬stalledRun.Exact "orders.lsexport" (fun _ => none) ∧
      ∀ responses, stalledRun.exportTo "orders.lsexport" (fun _ => none) responses = none := by
  have entered : stalledRun.Entered ⟨1, 0, by decide⟩ := ⟨rfl, rfl, rfl⟩
  refine ⟨?_, fun responses =>
    (exportTo_none entered responses).mpr fun index _ => stalledRun_continues index⟩
  intro right
  obtain ⟨index, _, stop⟩ := (ends_iff entered _).mp (right.ends _ entered)
  exact stop (stalledRun_continues index)

end ExportRun

end LightStream
