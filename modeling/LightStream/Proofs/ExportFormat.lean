import LightStream.Proofs.ExportRuns

/-!
The export format round-trips: an artifact that was written under some limits is verified under
them, its manifest describes the document, and its sections are visited as they were supplied.
-/

namespace LightStream.Export

open Codec (Octets toOctets ofOctets except_bind_ok except_mapError_ok)
open Kv (TreeMap)

section
variable {σ ε : Type} {sha256 : Octets → Digest}

def prologueOctets (requiredFeatures : Nat) : Octets :=
  magicV1 ++ toOctets 4 formatVersionV1 ++ toOctets 8 requiredFeatures

theorem prologueOctets_length (requiredFeatures : Nat) :
    (prologueOctets requiredFeatures).length = prologueBytes := by
  have magic : magicV1.length = 8 := rfl
  simp [prologueOctets, Codec.toOctets_length, magic, prologueBytes]

def manifestOf (document : ExportDocumentV1) (sections : List SectionDescriptorV1)
    (totals : ExportTotalsV1) : ExportManifestV1 where
  formatVersion := formatVersionV1
  requiredFeatures := document.requiredFeatures
  sourceCluster := document.sourceCluster
  exportId := document.exportId
  selectedStreams := document.selectedStreams
  cut := document.cut
  sections := sections
  totals := totals
  exclusions := document.exclusions

def controlDescriptor (sha256 : Octets → Digest) (document : ExportDocumentV1)
    (payload : Octets) : SectionDescriptorV1 :=
  describe sha256 0 .control none document.control.streams.length prologueBytes payload

def trailerOctets (manifestOffset artifactLength : Nat) (digest : Digest) : Octets :=
  toOctets 8 manifestOffset ++ toOctets 8 artifactLength ++ toOctets 32 digest.toNat ++
    trailerMagicV1

structure WrittenExport (sha256 : Octets → Digest) (document : ExportDocumentV1)
    (source : DataGroupSourceV1 σ ε) (initial : σ) (limits : ExportLimits) (bytes : Octets)
    (identity : ArtifactIdentity) where
  catalog : CatalogValidation
  manifestBudget : DecodeBudget
  controlBudget : DecodeBudget
  controlPayload : Octets
  final : WriteState σ
  groups : List DataGroupV1
  blocks : Octets
  validation : DataValidation
  manifestBytes : Octets
  validated : validateControl (.fromDocument document) limits = .ok catalog
  manifestReserved : (DecodeBudget.new limits).reserveManifestModel document.selectedStreams =
    .ok manifestBudget
  controlReserved : manifestBudget.reserveControlModel document.control = .ok controlBudget
  controlEncoded : (encodeControl document.control).toBytes limits.maxSectionBytes =
    .ok controlPayload
  controlItems : document.control.streams.length ≤ u64Max
  wrote : WroteGroups sha256 (.fromDocument document) catalog source limits 1
    document.cut.data.toList
    { source := initial
      validation := .initial
      budget := controlBudget
      output := (Output.new limits.maxArtifactBytes).extend
        (prologueOctets document.requiredFeatures ++
          chapter (controlDescriptor sha256 document controlPayload) controlPayload)
      sections := [controlDescriptor sha256 document controlPayload] }
    groups blocks final
  finished : finishValidation (.fromDocument document) catalog limits final.validation =
    .ok validation
  manifestEncoded : (encodeManifest (manifestOf document final.sections validation.totals)).toBytes
    limits.maxManifestBytes = .ok manifestBytes
  content : bytes = final.output.written ++ (toOctets 8 manifestBytes.length ++ manifestBytes) ++
    trailerOctets final.output.offset identity.length
      (sha256 (final.output.written ++ (toOctets 8 manifestBytes.length ++ manifestBytes)))
  length : identity.length = bytes.length
  digest : identity.sha256 =
    (sha256 (final.output.written ++ (toOctets 8 manifestBytes.length ++ manifestBytes))).toNat
  small : bytes.length ≤ limits.maxArtifactBytes
  word : bytes.length ≤ u64Max

theorem extend_new_written (max : Nat) (bytes : Octets) :
    ((Output.new max).extend bytes).written = bytes := List.nil_append bytes

theorem writeV1_ok {existing bytes : Octets} {document : ExportDocumentV1}
    {source : DataGroupSourceV1 σ ε} {initial : σ} {limits : ExportLimits}
    {identity : ArtifactIdentity}
    (wrote : writeV1 sha256 existing document source initial limits = .ok (bytes, identity)) :
    Nonempty (WrittenExport sha256 document source initial limits bytes identity) := by
  unfold writeV1 at wrote
  obtain ⟨catalog, validated, wrote⟩ := except_bind_ok.mp wrote
  split at wrote
  · cases wrote
  simp only [mapModel, mapDecodeBudget, encoded, except_bind_ok, except_mapError_ok, length_ok,
    prologueV1, List.foldlM_cons, List.foldlM_nil, hashed_ok] at wrote
  obtain ⟨manifestBudget, manifestReserved, output, ⟨_, ⟨rfl, _⟩, _, ⟨rfl, _⟩, _, ⟨rfl, _⟩, same⟩,
    controlBudget, controlReserved, controlPayload, controlEncoded, _, ⟨rfl, controlItems⟩,
    ⟨_, descriptor⟩, wroteControl, final, wroteGroups, validation, finished, manifestBytes,
    manifestEncoded, _, ⟨rfl, _⟩, _, ⟨rfl, _⟩, _, ⟨rfl, _⟩, wrote⟩ := wrote
  cases same
  obtain ⟨rfl, rfl, _, _, _⟩ := section_ok wroteControl
  simp only [extend_extend] at wroteGroups wrote
  have start : ((Output.new limits.maxArtifactBytes).extend (magicV1 ++ toOctets 4 formatVersionV1 ++
      toOctets 8 document.requiredFeatures)).offset = prologueBytes := by
    rw [Output.offset, extend_new_written]
    exact prologueOctets_length document.requiredFeatures
  rw [start] at wroteGroups
  obtain ⟨groups, blocks, run⟩ := writeDataGroups_ok wroteGroups
  have hashed : final.output.digested = final.output.written := by
    rw [run.output]
    rfl
  split at wrote
  · cases wrote
  rename_i artifactLength sum
  obtain ⟨total, _⟩ := checkedAdd_some.mp sum
  split at wrote
  · cases wrote
  rename_i within
  simp only [except_bind_ok, plain_ok] at wrote
  obtain ⟨_, ⟨rfl, _⟩, _, ⟨rfl, _⟩, _, ⟨rfl, _⟩, _, ⟨rfl, _, word⟩, wrote⟩ := wrote
  split at wrote
  · cases wrote
  cases wrote
  have body : (final.output.extend (toOctets 8 manifestBytes.length ++ manifestBytes)).digested =
      final.output.written ++ (toOctets 8 manifestBytes.length ++ manifestBytes) := by
    simp only [Output.extend, hashed]
  have size : artifactLength = (final.output.written ++
      (toOctets 8 manifestBytes.length ++ manifestBytes) ++ trailerOctets final.output.offset
        artifactLength (sha256 (final.output.written ++
          (toOctets 8 manifestBytes.length ++ manifestBytes)))).length := by
    have magic : trailerMagicV1.length = 8 := rfl
    simp only [← total, Output.offset, Output.extend, trailerOctets, List.length_append,
      Codec.toOctets_length, trailerBytesV1, magic]
  have content : (final.output.extend (toOctets 8 manifestBytes.length ++ manifestBytes)).written ++
      toOctets 8 final.output.offset ++ toOctets 8 artifactLength ++ toOctets 32 (sha256
        (final.output.extend (toOctets 8 manifestBytes.length ++ manifestBytes)).digested).toNat ++
      trailerMagicV1 = final.output.written ++ (toOctets 8 manifestBytes.length ++ manifestBytes) ++
        trailerOctets final.output.offset artifactLength (sha256 (final.output.written ++
          (toOctets 8 manifestBytes.length ++ manifestBytes))) := by
    rw [body]
    simp only [Output.extend, trailerOctets, List.append_assoc]
  exact ⟨{
    catalog, manifestBudget, controlBudget, controlPayload, final, groups, blocks, validation
    manifestBytes
    validated := except_mapError_ok.mp validated
    manifestReserved, controlReserved, controlEncoded, controlItems
    wrote := run
    finished, manifestEncoded
    content := content
    length := by
      dsimp only
      rw [content]
      exact size
    digest := by rw [body]
    small := by
      rw [content, ← size]
      omega
    word := by
      rw [content, ← size]
      omega }⟩

theorem trailer_trailerOctets {manifestOffset artifactLength : Nat} (digest : Digest)
    (offset : manifestOffset ≤ u64Max) (length : artifactLength ≤ u64Max) :
    trailer (trailerOctets manifestOffset artifactLength digest) =
      ⟨manifestOffset, artifactLength, digest, trailerMagicV1⟩ := by
  have long {value : Nat} (fits : value ≤ u64Max) : value < 256 ^ 8 := by
    unfold u64Max at fits
    omega
  have small : digest.toNat < 256 ^ 32 := by
    have bound := digest.isLt
    omega
  have magic : trailerMagicV1.take 8 = trailerMagicV1 := rfl
  unfold trailer trailerOctets
  simp (disch := omega) only [List.append_assoc, Codec.drop_toOctets, Codec.take_toOctets,
    Nat.reduceSub, List.drop_zero, Codec.ofOctets_toOctets (long offset),
    Codec.ofOctets_toOctets (long length), Codec.ofOctets_toOctets small, BitVec.ofNat_toNat,
    BitVec.setWidth_eq, magic]

theorem trailerOctets_length (manifestOffset artifactLength : Nat) (digest : Digest) :
    (trailerOctets manifestOffset artifactLength digest).length = trailerBytesV1 := by
  have magic : trailerMagicV1.length = 8 := rfl
  simp [trailerOctets, Codec.toOctets_length, magic, trailerBytesV1]

theorem prologueFeatures_prologueOctets :
    prologueFeatures (prologueOctets requiredFeaturesV1) = .ok requiredFeaturesV1 := by
  decide +kernel

theorem new_of (limits : ExportLimits) : (DecodeBudget.new limits).Of limits :=
  ⟨rfl, rfl, rfl, rfl, rfl⟩

def visited (control : ControlSectionV1) (groups : List DataGroupV1) : List VerifiedSectionV1 :=
  .control control :: groups.map .dataGroup

namespace WrittenExport

variable {document : ExportDocumentV1} {source : DataGroupSourceV1 σ ε} {initial : σ}
  {limits : ExportLimits} {bytes : Octets} {identity : ArtifactIdentity}

def manifest (written : WrittenExport sha256 document source initial limits bytes identity) :
    ExportManifestV1 :=
  manifestOf document written.final.sections written.validation.totals

def head (written : WrittenExport sha256 document source initial limits bytes identity) : Octets :=
  written.final.output.written

def controlChapter (written : WrittenExport sha256 document source initial limits bytes identity) :
    Octets :=
  chapter (controlDescriptor sha256 document written.controlPayload) written.controlPayload

theorem head_eq (written : WrittenExport sha256 document source initial limits bytes identity) :
    written.head = prologueOctets document.requiredFeatures ++
      (written.controlChapter ++ written.blocks) := by
  rw [head, written.wrote.output, ← List.append_assoc]
  rfl

theorem head_word (written : WrittenExport sha256 document source initial limits bytes identity) :
    written.head.length ≤ u64Max := by
  have word := written.word
  rw [written.content] at word
  simp only [List.length_append] at word
  unfold head
  omega

theorem sections_eq (written : WrittenExport sha256 document source initial limits bytes identity) :
    ∃ tail, written.final.sections =
        controlDescriptor sha256 document written.controlPayload :: tail ∧
      tail.length = document.cut.data.size := by
  obtain ⟨tail, grown, size⟩ := written.wrote.extendsSections
  refine ⟨tail, grown, ?_⟩
  rw [size, Std.ExtTreeMap.length_toList]

theorem checked (written : WrittenExport sha256 document source initial limits bytes identity) :
    Checked (.fromDocument document) := validateControl_checked written.validated

theorem walks {δ τ : Type} {visitor : Visitor τ δ}
    (written : WrittenExport sha256 document source initial limits bytes identity)
    (typed : document.Typed) (typedSource : TypedSource source) {hashing : Bool} {reader : Reader}
    {budget : DecodeBudget} {rest : Octets} (same : budget.Of limits)
    (below : budget.Below written.manifestBudget)
    (ahead : reader.Seeks hashing (prologueOctets document.requiredFeatures)
      (written.controlChapter ++ written.blocks ++ rest)) :
    ∃ passed, passed.At hashing written.head rest ∧ ∀ start,
      walkSections sha256 reader written.manifest written.head.length limits budget visitor start =
        (((visited document.control written.groups).foldlM visitor start).mapError
          VisitError.visitor).map fun final => (passed, final) := by
  have checked := written.checked
  have manifestWithin :=
    (Reserves.manifestModel _).keeps (new_of limits) written.manifestReserved
  have controlWithin := (Reserves.controlModel _).keeps manifestWithin written.controlReserved
  obtain ⟨spent, reserved, lower⟩ :=
    (Reserves.controlModel _).lower below same manifestWithin written.controlReserved
  have kept := (Reserves.controlModel _).keeps same reserved
  obtain ⟨size, _, read⟩ := decoded_whole "control payload"
    (transfers_control typed.control (checked.readable typed.control) checked.fewGroups same
      reserved) written.controlEncoded
  obtain ⟨tail, sections, count⟩ := written.sections_eq
  have length := prologueOctets_length document.requiredFeatures
  have inside : (prologueOctets document.requiredFeatures).length + sectionHeaderBytes +
      written.controlPayload.length ≤ written.head.length := by
    rw [written.head_eq, controlChapter]
    simp only [List.length_append, chapter_length]
    omega
  have described : controlDescriptor sha256 document written.controlPayload =
      describe sha256 0 .control none document.control.streams.length
        (prologueOctets document.requiredFeatures).length written.controlPayload := by
    rw [length]
    rfl
  rw [List.append_assoc] at ahead
  obtain ⟨passed, readControl, at_⟩ :=
    readSection_ok described ahead written.controlItems size inside written.head_word
  obtain ⟨final, left, atEnd, run⟩ := @WroteGroups.walks _ _ _ _ _ _ _ τ δ visitor written.manifest
    written.head.length hashing _ _ _ _ _ _ _ passed spent written.wrote typedSource rfl rfl le_rfl
    written.head_word controlWithin kept lower at_
  refine ⟨final, atEnd, fun start => ?_⟩
  have shape : written.manifest.sections =
      controlDescriptor sha256 document written.controlPayload :: tail := sections
  have context : ValidationContext.fromManifest written.manifest document.control =
      .fromDocument document := rfl
  have decodes : decoded (decodeControl limits) written.controlPayload budget =
      .ok (document.control, spent) := read
  rw [length] at readControl
  unfold walkSections
  rw [shape]
  dsimp only
  rw [if_neg (by rw [List.length_cons, count]; exact not_not.mpr rfl)]
  have items : document.control.streams.length =
      (controlDescriptor sha256 document written.controlPayload).itemCount := rfl
  have offset : prologueBytes + sectionHeaderBytes + written.controlPayload.length =
      ((Output.new limits.maxArtifactBytes).extend
        (prologueOctets document.requiredFeatures ++ written.controlChapter)).offset := by
    rw [Output.offset, extend_new_written, List.length_append, length, controlChapter,
      chapter_length]
    omega
  have walked (next : τ) : walkDataGroups sha256 written.manifest written.head.length limits
      (.fromDocument document) written.catalog visitor 1 written.manifest.cut.data.toList
      ⟨passed, spent, .initial, prologueBytes + sectionHeaderBytes + written.controlPayload.length,
        next⟩ =
      ((written.groups.foldlM (fun state data => visitor state (.dataGroup data)) next).mapError
        VisitError.visitor).map fun last =>
          ⟨final, left, written.final.validation, written.head.length, last⟩ := by
    rw [offset]
    exact run next
  simp only [readControl, decodes, context, written.validated, verifying, validating, items,
    Except.mapError, Bind.bind, Except.bind, ne_eq, not_true_eq_false, if_false]
  rw [visited, List.foldlM_cons]
  cases visitor start (.control document.control) with
  | error failure => rfl
  | ok next =>
      dsimp only [Bind.bind, Except.bind]
      rw [walked next, List.foldlM_map]
      cases written.groups.foldlM (fun state data => visitor state (.dataGroup data)) next with
      | error failure => rfl
      | ok last =>
          dsimp only [Except.mapError, Except.map]
          rw [if_neg (not_not.mpr rfl), written.finished]
          exact if_neg (not_not.mpr rfl)

theorem totals (written : WrittenExport sha256 document source initial limits bytes identity) :
    written.validation.totals = totalsOf document.cut document.control written.groups := by
  have counted := (written.wrote.totals TotalsWithin.zero).1
  have finished := (finishValidation_totals written.finished).1
  rw [finished, counted, foldl_withGroup]
  simp only [totalsOf, DataValidation.initial, ExportTotalsV1.zero, Nat.zero_add]
  rfl

theorem totalsWithin
    (written : WrittenExport sha256 document source initial limits bytes identity) :
    TotalsWithin limits written.validation.totals := by
  have within := (written.wrote.totals TotalsWithin.zero).2
  rw [(finishValidation_totals written.finished).1]
  exact ⟨within.partitions, within.records, within.payloadBytes⟩

theorem fewGroups (written : WrittenExport sha256 document source initial limits bytes identity) :
    document.cut.data.size ≤ maxDataGroups := by
  have few := written.checked.fewGroups
  rw [written.checked.groups, List.length_map, Std.ExtTreeMap.length_toList] at few
  exact few

theorem typedManifest
    (written : WrittenExport sha256 document source initial limits bytes identity)
    (typed : document.Typed) (typedLimits : limits.Typed) : written.manifest.Typed := by
  have checked := written.checked
  obtain ⟨same, streams, bookmarks, groups, word⟩ := finishValidation_totals written.finished
  have within := written.totalsWithin
  have features : document.requiredFeatures = requiredFeaturesV1 := checked.requiredFeatures
  have exclusions : document.exclusions = exclusionsV1 := checked.exclusions
  have version : written.manifest.formatVersion ≤ u32Max := by
    change formatVersionV1 ≤ u32Max
    decide
  refine ⟨version, ?_, typed.sourceCluster, typed.exportId, typed.selectedStreams,
    typed.controlCut, typed.dataCuts, ?_, ?_, ?_⟩
  · change document.requiredFeatures ≤ u64Max
    rw [features]
    decide
  · have keys := checked.groups
    refine written.wrote.typedSections ?_ ?_ ?_
    · rw [Std.ExtTreeMap.length_toList]
      have few := written.fewGroups
      unfold maxDataGroups at few
      unfold u64Max
      omega
    · intro entry member
      refine typed.control.configuredDataGroups entry.1 ?_
      have listed : document.control.configuredDataGroups =
          document.cut.data.toList.map Prod.fst := keys
      rw [listed]
      exact List.mem_map_of_mem member
    · intro descriptor member
      rw [List.mem_singleton] at member
      subst member
      have inside := written.head_word
      rw [written.head_eq, controlChapter] at inside
      simp only [List.length_append, chapter_length] at inside
      refine ⟨Nat.zero_le _, rfl, fun group impossible => ?_, ?_, written.controlItems, ?_⟩
      · cases impossible
      · dsimp only [controlDescriptor, describe]
        decide
      · dsimp only [controlDescriptor, describe]
        omega
  · have limited := typedLimits.maxStreams
    exact ⟨groups, streams.trans limited, within.partitions.trans typedLimits.maxPartitions,
      within.records.trans typedLimits.maxRecords,
      within.payloadBytes.trans typedLimits.maxPayloadBytes,
      (Nat.le_add_right _ _).trans word, (Nat.le_add_left _ _).trans word⟩
  · change document.exclusions ≤ u64Max
    rw [exclusions]
    decide

theorem validManifest
    (written : WrittenExport sha256 document source initial limits bytes identity) :
    validateManifest written.manifest limits = .ok () := by
  have checked := written.checked
  obtain ⟨same, streams, bookmarks, _, word⟩ := finishValidation_totals written.finished
  have within := written.totalsWithin
  have size : written.validation.totals.configuredDataGroups = document.cut.data.size := by
    rw [same]
    rfl
  have limited {value limit : Nat} {name : String} (small : value ≤ limit) :
      checkLimit value limit name = .ok () := if_neg (Nat.not_lt.mpr small)
  have selected : document.selectedStreams.IsChain (· < ·) := checked.selected
  have features : document.requiredFeatures = requiredFeaturesV1 := checked.requiredFeatures
  have exclusions : document.exclusions = exclusionsV1 := checked.exclusions
  unfold validateManifest
  simp only [manifest, manifestOf, features, exclusions, selected, ne_eq, not_true_eq_false,
    if_false, limited streams, limited within.partitions,
    limited within.records, limited within.payloadBytes, Bind.bind, Except.bind]
  rw [checkedAdd_of_le word]
  simp only [limited bookmarks, size, not_true_eq_false, if_false]

def body (written : WrittenExport sha256 document source initial limits bytes identity) : Octets :=
  written.head ++ (toOctets 8 written.manifestBytes.length ++ written.manifestBytes)

theorem bytes_eq (written : WrittenExport sha256 document source initial limits bytes identity) :
    bytes = written.body ++ trailerOctets written.head.length bytes.length (sha256 written.body) := by
  have content := written.content
  rw [written.length] at content
  exact content

theorem readsTrailer
    (written : WrittenExport sha256 document source initial limits bytes identity) :
    ∃ reader, reader.bytes = bytes ∧ reader.digested = none ∧
      readTrailer (.new bytes) limits =
        .ok (⟨written.head.length, bytes.length, sha256 written.body, trailerMagicV1⟩, reader) := by
  have content := written.bytes_eq
  have size : bytes.length = written.body.length + trailerBytesV1 := by
    have lengths := congrArg List.length content
    rw [List.length_append, trailerOctets_length] at lengths
    exact lengths
  obtain ⟨placed, seek, at_⟩ := @Reader.seeks_plain (.new bytes) written.body
    (trailerOctets written.head.length bytes.length (sha256 written.body)) rfl content
  rw [← List.append_nil (trailerOctets _ _ _)] at at_
  obtain ⟨found, read, atEnd⟩ := at_.read (trailerOctets_length _ _ _)
  refine ⟨found, ?_, atEnd.digested, ?_⟩
  · rw [atEnd.bytes, List.append_nil]
    exact content.symm
  · have start : bytes.length - trailerBytesV1 = written.body.length := by omega
    have manifest : written.body.length = written.head.length + (8 + written.manifestBytes.length) := by
      simp only [body, List.length_append, Codec.toOctets_length]
    have prologue : prologueBytes + sectionHeaderBytes ≤ written.head.length := by
      rw [written.head_eq, controlChapter]
      simp only [List.length_append, chapter_length, prologueOctets_length]
      omega
    have enough : ¬bytes.length < prologueBytes + sectionHeaderBytes + 8 + trailerBytesV1 := by
      omega
    have inside : ¬(written.head.length < prologueBytes ∨
        bytes.length - trailerBytesV1 ≤ written.head.length) := by
      omega
    have parsed := trailer_trailerOctets (sha256 written.body) written.head_word written.word
    unfold readTrailer
    dsimp only [Reader.new]
    rw [if_neg (Nat.not_lt.mpr written.small), if_neg enough]
    refine except_bind_ok.mpr ⟨placed, ?_, except_bind_ok.mpr ⟨_, read, ?_⟩⟩
    · rw [start]
      exact seek
    · dsimp only
      rw [parsed]
      simp only [ne_eq, not_true_eq_false, lt_irrefl, if_false, inside]
      rfl

theorem readsManifest
    (written : WrittenExport sha256 document source initial limits bytes identity)
    {reader : Reader} (plain : reader.digested = none) (whole : reader.bytes = bytes)
    (small : written.manifestBytes.length ≤ limits.maxManifestBytes)
    (word : written.manifestBytes.length ≤ u64Max) :
    ∃ passed, passed.bytes = bytes ∧ passed.digested = none ∧
      readManifest reader limits written.head.length (bytes.length - trailerBytesV1) =
        .ok (toOctets 8 written.manifestBytes.length, written.manifestBytes, passed) := by
  have content := written.bytes_eq
  have size : bytes.length - trailerBytesV1 = written.head.length + 8 +
      written.manifestBytes.length := by
    have lengths := congrArg List.length content
    rw [List.length_append, trailerOctets_length, body] at lengths
    simp only [List.length_append, Codec.toOctets_length] at lengths
    omega
  have total := written.word
  have long : written.manifestBytes.length < 256 ^ 8 := by
    unfold u64Max at word
    omega
  obtain ⟨placed, seek, at_⟩ := @Reader.seeks_plain reader written.head
    (toOctets 8 written.manifestBytes.length ++ (written.manifestBytes ++
      trailerOctets written.head.length bytes.length (sha256 written.body))) plain (by
        rw [whole]
        refine content.trans ?_
        simp only [body, List.append_assoc])
  obtain ⟨measured, readLength, atBytes⟩ := at_.read (Codec.toOctets_length 8 _)
  obtain ⟨passed, readBytes, atEnd⟩ :=
    @Reader.At.read _ _ _ _ _ written.manifestBytes.length atBytes rfl
  refine ⟨passed, ?_, atEnd.digested, ?_⟩
  · rw [atEnd.bytes]
    refine Eq.trans ?_ content.symm
    simp only [body, List.append_assoc]
  · have extent : (checkedAdd written.head.length 8).bind
        (checkedAdd · written.manifestBytes.length) =
        some (written.head.length + 8 + written.manifestBytes.length) := by
      rw [checkedAdd_of_le (by omega), Option.bind_some, checkedAdd_of_le (by omega)]
    unfold readManifest
    refine except_bind_ok.mpr ⟨placed, seek, except_bind_ok.mpr ⟨_, readLength, ?_⟩⟩
    dsimp only
    rw [Codec.ofOctets_toOctets long, if_neg (Nat.not_lt.mpr small), extent]
    dsimp only
    rw [size, if_neg (Nat.lt_irrefl _), if_neg (Nat.lt_irrefl _)]
    exact except_bind_ok.mpr ⟨_, readBytes, rfl⟩

theorem verifies (written : WrittenExport sha256 document source initial limits bytes identity)
    (typed : document.Typed) (typedSource : TypedSource source) (typedLimits : limits.Typed) :
    ∃ verified, verify sha256 (.new bytes) limits = .ok verified ∧
      verified.reader.digested = none ∧ verified.reader.bytes = bytes ∧
      verified.limits = limits ∧ verified.manifestOffset = written.head.length ∧
      verified.inspection = {
        artifact := identity
        manifest := written.manifest
        sections := written.final.sections
        artifactDigestCoverage := ⟨0, bytes.length - trailerBytesV1⟩ } := by
  have checked := written.checked
  obtain ⟨tail, sections, count⟩ := written.sections_eq
  have few : written.manifest.sections.length ≤ maxDataGroups + 1 := by
    have groups := written.fewGroups
    change written.final.sections.length ≤ _
    rw [sections, List.length_cons, count]
    omega
  obtain ⟨small, word, decodes⟩ := decoded_whole "manifest"
    (transfers_manifest (written.typedManifest typed typedLimits) written.fewGroups few
      (new_of limits) written.manifestReserved) written.manifestEncoded
  have within := (Reserves.manifestModel _).keeps (new_of limits) written.manifestReserved
  obtain ⟨opened, whole, plain, readTrailer⟩ := written.readsTrailer
  obtain ⟨passed, kept, unhashed, readManifest⟩ := written.readsManifest plain whole small word
  have content := written.bytes_eq
  have covered : bytes.take (bytes.length - trailerBytesV1) = written.body := by
    have size : bytes.length - trailerBytesV1 = written.body.length := by
      have lengths := congrArg List.length content
      rw [List.length_append, trailerOctets_length] at lengths
      omega
    rw [size]
    exact (congrArg (List.take written.body.length) content).trans List.take_left
  have features : document.requiredFeatures = requiredFeaturesV1 := checked.requiredFeatures
  have start : (({ passed with position := 0 } : Reader).hashing
      (bytes.length - trailerBytesV1)).At true [] (prologueOctets document.requiredFeatures ++
        (written.controlChapter ++ written.blocks ++
          (toOctets 8 written.manifestBytes.length ++ (written.manifestBytes ++ [])))) := by
    refine ⟨?_, rfl, rfl⟩
    simp only [Reader.hashing, kept, covered, List.nil_append, List.append_nil]
    rw [body, written.head_eq]
    simp only [List.append_assoc]
  obtain ⟨walking, readPrologue, atSections⟩ :=
    start.read (prologueOctets_length document.requiredFeatures)
  obtain ⟨walked, atManifest, walk⟩ := @WrittenExport.walks _ _ _ _ _ _ _ _ _ Empty Unit
    (fun _ _ => .ok ()) written typed typedSource true _ _ _ within
    ⟨le_rfl, le_rfl, le_rfl, le_rfl, le_rfl⟩ atSections.seeks
  obtain ⟨measured, readLength, atBytes⟩ := atManifest.read (Codec.toOctets_length 8 _)
  obtain ⟨done, readBytes, atEnd⟩ :=
    @Reader.At.read _ _ _ _ _ written.manifestBytes.length atBytes rfl
  have digested : done.digested = some written.body := by
    rw [atEnd.digested, List.append_assoc]
    rfl
  have nonempty : bytes.length ≠ 0 := by
    rw [← written.length]
    exact identity.nonempty
  have artifact : (⟨bytes.length, (sha256 written.body).toNat, nonempty⟩ : ArtifactIdentity) =
      identity := ArtifactIdentity.ext written.length.symm written.digest.symm
  have rewound : passed.seek 0 = .ok { passed with position := 0 } := by
    unfold Reader.seek
    rw [unhashed]
  have prologue : prologueFeatures (prologueOctets document.requiredFeatures) =
      .ok document.requiredFeatures := by
    rw [features]
    exact prologueFeatures_prologueOctets
  have visits : (visited document.control written.groups).foldlM
      (fun _ _ => (.ok () : Except Empty Unit)) () = .ok () := by
    generalize visited document.control written.groups = all
    induction all with
    | nil => rfl
    | cons head rest ih => exact ih
  have walkOk := walk ()
  rw [visits] at walkOk
  refine ⟨{
    reader := { passed with position := done.position }
    inspection := {
      artifact := identity
      manifest := written.manifest
      sections := written.final.sections
      artifactDigestCoverage := ⟨0, bytes.length - trailerBytesV1⟩ }
    limits
    manifestOffset := written.head.length }, ?_, unhashed, kept, rfl, rfl, rfl⟩
  unfold verify
  refine except_bind_ok.mpr ⟨_, readTrailer, ?_⟩
  dsimp only
  rw [whole]
  refine except_bind_ok.mpr ⟨_, readManifest, except_bind_ok.mpr ⟨_, decodes, ?_⟩⟩
  refine except_bind_ok.mpr ⟨(), written.validManifest, except_bind_ok.mpr ⟨_, rewound, ?_⟩⟩
  refine except_bind_ok.mpr ⟨_, readPrologue, except_bind_ok.mpr ⟨_, prologue, ?_⟩⟩
  have same : written.manifest.requiredFeatures = document.requiredFeatures := rfl
  simp only [same, walkOk, readLength, readBytes, digested, Except.mapError, Except.map, Bind.bind,
    Except.bind, ne_eq, not_true_eq_false, if_false, Option.getD_some, nonempty, dite_false]
  rw [artifact]
  rfl

theorem visits {δ τ : Type} (visitor : Visitor τ δ)
    (written : WrittenExport sha256 document source initial limits bytes identity)
    (typed : document.Typed) (typedSource : TypedSource source) {verified : VerifiedExport}
    (plain : verified.reader.digested = none) (whole : verified.reader.bytes = bytes)
    (same : verified.limits = limits) (offset : verified.manifestOffset = written.head.length)
    (manifest : verified.inspection.manifest = written.manifest) (start : τ) :
    verified.visitSections sha256 visitor start =
      ((visited document.control written.groups).foldlM visitor start).mapError
        VisitError.visitor := by
  have ahead : verified.reader.Seeks false (prologueOctets document.requiredFeatures)
      (written.controlChapter ++ written.blocks ++
        ((toOctets 8 written.manifestBytes.length ++ written.manifestBytes) ++
          trailerOctets written.head.length bytes.length (sha256 written.body))) := by
    refine Reader.seeks_plain plain ?_
    rw [whole]
    refine written.bytes_eq.trans ?_
    rw [body, written.head_eq]
    simp only [List.append_assoc]
  have below : (DecodeBudget.new limits).Below written.manifestBudget :=
    ⟨Nat.zero_le _, Nat.zero_le _, Nat.zero_le _, Nat.zero_le _, Nat.zero_le _⟩
  obtain ⟨passed, _, walk⟩ :=
    @WrittenExport.walks _ _ _ _ _ _ _ _ _ δ τ visitor written typed typedSource false _ _ _
      (new_of limits) below ahead
  rw [VerifiedExport.visitSections, same, offset, manifest, walk start]
  cases (visited document.control written.groups).foldlM visitor start <;> rfl

end WrittenExport

structure SectionDescribes (sha256 : Octets → Digest) (bytes : Octets)
    (descriptor : SectionDescriptorV1) (position : Nat) (sort : SectionKindV1)
    (owner : Option GroupId) (items : Nat) (payload : Octets) : Prop where
  ordinal : descriptor.ordinal = position
  kind : descriptor.kind = sort
  sectionVersion : descriptor.sectionVersion = sort.version
  group : descriptor.group = owner
  itemCount : descriptor.itemCount = items
  payloadLength : descriptor.payloadLength = payload.length
  payloadSha256 : descriptor.payloadSha256 = sha256 payload
  located : (bytes.drop (descriptor.fileOffset + sectionHeaderBytes)).take
    descriptor.payloadLength = payload

structure ManifestDescribes (sha256 : Octets → Digest) (limits : ExportLimits)
    (document : ExportDocumentV1) (groups : List DataGroupV1) (bytes : Octets)
    (manifest : ExportManifestV1) : Prop where
  formatVersion : manifest.formatVersion = formatVersionV1
  requiredFeatures : manifest.requiredFeatures = document.requiredFeatures
  sourceCluster : manifest.sourceCluster = document.sourceCluster
  exportId : manifest.exportId = document.exportId
  selectedStreams : manifest.selectedStreams = document.selectedStreams
  cut : manifest.cut = document.cut
  exclusions : manifest.exclusions = document.exclusions
  totals : manifest.totals = totalsOf document.cut document.control groups
  sectionCount : manifest.sections.length = groups.length + 1
  controlSection : ∃ descriptor payload, manifest.sections[0]? = some descriptor ∧
    (encodeControl document.control).toBytes limits.maxSectionBytes = .ok payload ∧
    SectionDescribes sha256 bytes descriptor 0 .control none document.control.streams.length payload
  dataSections : ∀ index data, groups[index]? = some data → ∃ descriptor payload,
    manifest.sections[index + 1]? = some descriptor ∧
    (encodeDataGroup data).toBytes limits.maxSectionBytes = .ok payload ∧
    SectionDescribes sha256 bytes descriptor (index + 1) .dataGroup (some data.group)
      data.partitions.length payload

theorem describe_located {ordinal itemCount : Nat} {kind : SectionKindV1} {group : Option GroupId}
    {payload front back bytes : Octets}
    (content : bytes = front ++ (chapter
      (describe sha256 ordinal kind group itemCount front.length payload) payload ++ back)) :
    SectionDescribes sha256 bytes
      (describe sha256 ordinal kind group itemCount front.length payload) ordinal kind group
      itemCount payload := by
  refine ⟨rfl, rfl, rfl, rfl, rfl, rfl, rfl, ?_⟩
  have header := headerBytes_length
    (describe sha256 ordinal kind group itemCount front.length payload)
  change (bytes.drop (front.length + sectionHeaderBytes)).take payload.length = payload
  rw [content, chapter, ← List.drop_drop, List.drop_left, List.append_assoc, ← header,
    List.drop_left, List.take_left]

theorem WrittenExport.describes {document : ExportDocumentV1} {source : DataGroupSourceV1 σ ε}
    {initial : σ} {limits : ExportLimits} {bytes : Octets} {identity : ArtifactIdentity}
    (written : WrittenExport sha256 document source initial limits bytes identity) :
    ManifestDescribes sha256 limits document written.groups bytes written.manifest := by
  obtain ⟨tail, sections, count⟩ := written.sections_eq
  obtain ⟨size, each⟩ := written.wrote.located rfl
  rw [Std.ExtTreeMap.length_toList] at size
  have content := written.bytes_eq
  have length := prologueOctets_length document.requiredFeatures
  refine ⟨rfl, rfl, rfl, rfl, rfl, rfl, rfl, written.totals, ?_, ?_, ?_⟩
  · change written.final.sections.length = _
    rw [sections, List.length_cons, count, size]
  · refine ⟨controlDescriptor sha256 document written.controlPayload, written.controlPayload, ?_,
      written.controlEncoded, ?_⟩
    · change written.final.sections[0]? = _
      rw [sections]
      rfl
    · have chapters := written.head_eq
      unfold controlDescriptor
      rw [← length]
      refine @describe_located _ _ _ _ _ _ _ (written.blocks ++
        (toOctets 8 written.manifestBytes.length ++ (written.manifestBytes ++
          trailerOctets written.head.length bytes.length (sha256 written.body)))) _
        (content.trans ?_)
      rw [length]
      simp only [body, chapters, controlChapter, controlDescriptor, List.append_assoc]
  · intro index data found
    obtain ⟨payload, front, back, encoded, listed, location⟩ := each index data found
    rw [Nat.add_comm] at listed location
    refine ⟨_, payload, listed, encoded, @describe_located _ _ _ _ _ _ _ (back ++
      (toOctets 8 written.manifestBytes.length ++ (written.manifestBytes ++
        trailerOctets written.head.length bytes.length (sha256 written.body)))) _
      (content.trans ?_)⟩
    have head : written.head = _ := location
    rw [body, head, describeGroup]
    simp only [List.append_assoc]

/-- Whatever `write_v1` wrote is verified under the same limits, with its identity and a manifest
that describes the document; visiting it shows the visitor the control section and each data group
in cut order, as they were supplied, and nothing else. -/
theorem export_round_trip {existing bytes : Octets} {document : ExportDocumentV1}
    {source : DataGroupSourceV1 σ ε} {initial : σ} {limits : ExportLimits}
    {identity : ArtifactIdentity} (typed : document.Typed) (typedSource : TypedSource source)
    (typedLimits : limits.Typed)
    (wrote : writeV1 sha256 existing document source initial limits = .ok (bytes, identity)) :
    ∃ verified groups, verify sha256 (.new bytes) limits = .ok verified ∧
      verified.artifact = identity ∧
      supplied source initial document.cut.data.toList = some groups ∧
      ManifestDescribes sha256 limits document groups bytes verified.manifest ∧
      ∀ (τ δ : Type) (visitor : Visitor τ δ) (start : τ),
        verified.visitSections sha256 visitor start =
          ((visited document.control groups).foldlM visitor start).mapError VisitError.visitor := by
  obtain ⟨written⟩ := writeV1_ok wrote
  obtain ⟨verified, verifies, plain, whole, same, offset, inspection⟩ :=
    written.verifies typed typedSource typedLimits
  have manifest : verified.inspection.manifest = written.manifest := by rw [inspection]
  refine ⟨verified, written.groups, verifies, ?_, written.wrote.supplies, ?_, ?_⟩
  · rw [VerifiedExport.artifact, inspection]
  · rw [VerifiedExport.manifest, manifest]
    exact written.describes
  · intro τ δ visitor start
    exact written.visits visitor typed typedSource plain whole same offset manifest start

end

/-! ### A written export -/

def sampleCluster : ClusterId := ⟨7⟩
def sampleStream : StreamId := ⟨11⟩
def sampleGroupId : GroupId := ⟨2, two_nonzero⟩
def sampleDataCut : GroupCut := ⟨sampleGroupId, 3, ⟨1, Nat.one_ne_zero⟩, 40⟩
def sampleControlCut : GroupCut := ⟨⟨1, Nat.one_ne_zero⟩, 3, ⟨1, Nat.one_ne_zero⟩, 20⟩

def sampleCut : QuiescentCut where
  control := sampleControlCut
  data := (∅ : TreeMap GroupId GroupCut).insert sampleGroupId sampleDataCut
  keyed := @TreeMap.insert_keyed _ _ _ GroupCut.group _ (fun _ _ empty => by simp at empty)
    sampleDataCut

def sampleCursor (nextOffset : Nat) : CommittedCursor :=
  ⟨sampleCluster, ⟨sampleStream, 0⟩, nextOffset⟩

def sampleControl : ControlSectionV1 where
  sourceCluster := sampleCluster
  exportId := ⟨99⟩
  cut := sampleControlCut
  catalogRevision := 4
  assignmentCursor := 1
  maxStreams := 16
  maxPartitionsPerStream := 8
  configuredDataGroups := [sampleGroupId]
  streams := [{
    descriptor := ⟨sampleCluster, sampleStream, ⟨"orders"⟩, .active, [⟨0, sampleGroupId⟩],
      [sampleGroupId], 3⟩
    bookmarkPublicationCeiling := 1
    bookmarks := [.published (.uuid 5) ⟨"daily"⟩
      ⟨sampleCluster, sampleStream, [sampleCursor 1], by decide, by decide, by decide, by decide⟩
      1] }]

def sampleDocument : ExportDocumentV1 where
  sourceCluster := sampleCluster
  exportId := ⟨99⟩
  selectedStreams := [sampleStream]
  cut := sampleCut
  control := sampleControl
  requiredFeatures := 0
  exclusions := exclusionsV1

def sampleData : DataGroupV1 where
  sourceCluster := sampleCluster
  exportId := ⟨99⟩
  group := sampleGroupId
  cut := sampleDataCut
  partitions := [{
    sourceCluster := sampleCluster
    stream := sampleStream
    partition := 0
    retentionFloor := 1
    tail := 3
    bookmarkPublicationCeiling := 1
    records := [⟨1, [104, 105]⟩, ⟨2, [33]⟩]
    bookmarks := [(CommittedBookmark.published (.uuid 6) ⟨"checkpoint"⟩ (sampleCursor 2)
      1).markDeleted] }]

def sampleSource : DataGroupSourceV1 Unit Empty := fun state _ _ => .ok (some sampleData, state)

def checksum (bytes : Octets) : Digest :=
  bytes.foldl (fun digest byte => digest * 31 + BitVec.ofNat 256 byte.toNat) 1

theorem sampleDocument_written :
    (writeV1 checksum [] sampleDocument sampleSource () .standard).isOk = true := by
  decide +kernel

theorem sampleCursor_typed {nextOffset : Nat} (small : nextOffset ≤ u64Max) :
    TypedCursor (sampleCursor nextOffset) :=
  ⟨(by decide : sampleCluster.uuid < uuidBound), (by decide : sampleStream.uuid < uuidBound),
    (by decide : 0 ≤ u32Max), small⟩

theorem sampleDocument_typed : sampleDocument.Typed := by
  have group : sampleGroupId.value ≤ u64Max := by decide
  have dataCut : TypedCut sampleDataCut := ⟨by decide, by decide, by decide, by decide⟩
  have controlCut : TypedCut sampleControlCut := ⟨by decide, by decide, by decide, by decide⟩
  have cursor : TypedCursor (sampleCursor 1) := sampleCursor_typed (by decide)
  have cuts : TreeMap.values sampleDocument.cut.data = [sampleDataCut] := by decide +kernel
  refine ⟨by decide, by decide, ?_, controlCut, ?_, ?_⟩
  · intro stream member
    rw [List.mem_singleton.mp member]
    decide
  · intro cut member
    rw [cuts, List.mem_singleton] at member
    exact member ▸ dataCut
  · refine ⟨by decide, by decide, controlCut, by decide, by decide, by decide, by decide, ?_, ?_⟩
    · intro member listed
      exact List.mem_singleton.mp listed ▸ group
    · intro stream member
      rw [List.mem_singleton.mp member]
      refine ⟨⟨by decide, by decide, rfl, by decide, ?_, ?_⟩, by decide, ?_⟩
      · intro placement placed
        rw [List.mem_singleton.mp placed]
        exact ⟨by decide, group⟩
      · intro ready listed
        exact List.mem_singleton.mp listed ▸ group
      · intro bookmark listed
        rw [List.mem_singleton.mp listed]
        refine ⟨(by decide : 5 < uuidBound), rfl, by decide, ?_⟩
        intro position inside
        exact List.mem_singleton.mp inside ▸ cursor

theorem sampleData_typed : sampleData.Typed := by
  have dataCut : TypedCut sampleDataCut := ⟨by decide, by decide, by decide, by decide⟩
  refine ⟨by decide, by decide, by decide, dataCut, ?_⟩
  intro part member
  rw [List.mem_singleton.mp member]
  refine ⟨by decide, by decide, by decide, by decide, by decide, by decide, by decide, ?_⟩
  intro bookmark listed
  rw [List.mem_singleton.mp listed]
  exact ⟨(by decide : 6 < uuidBound), rfl, sampleCursor_typed (by decide), by decide⟩

theorem sampleSource_typed : TypedSource sampleSource := by
  rintro _ _ _ data _ ⟨⟩
  exact sampleData_typed

theorem standard_typed : ExportLimits.standard.Typed :=
  ⟨by decide, by decide, by decide, by decide, by decide, by decide, by decide, by decide⟩

theorem export_round_trip_sample : ∃ bytes identity verified,
    writeV1 checksum [] sampleDocument sampleSource () .standard = .ok (bytes, identity) ∧
      verify checksum (.new bytes) .standard = .ok verified ∧ verified.artifact = identity ∧
      verified.visitSections checksum (fun seen found => .ok (seen ++ [found]))
        ([] : List VerifiedSectionV1) = (.ok [.control sampleControl, .dataGroup sampleData] :
          Except (VisitError Empty) (List VerifiedSectionV1)) := by
  cases wrote : writeV1 checksum [] sampleDocument sampleSource () .standard with
  | error failure =>
      have written := sampleDocument_written
      rw [wrote] at written
      cases written
  | ok result =>
      obtain ⟨bytes, identity⟩ := result
      obtain ⟨verified, groups, verifies, same, supplies, _, visits⟩ := export_round_trip
        sampleDocument_typed sampleSource_typed standard_typed wrote
      have only : supplied sampleSource () sampleDocument.cut.data.toList = some [sampleData] := by
        decide +kernel
      have found := Option.some.inj (supplies.symm.trans only)
      refine ⟨bytes, identity, verified, rfl, verifies, same, ?_⟩
      rw [visits, found]
      rfl
end LightStream.Export
