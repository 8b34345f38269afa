import LightStream.Proofs.ExportChecks
import LightStream.Proofs.ExportLayout

/-!
The data groups of an export, written one after another and walked in the same order: what one
group adds to the artifact, and what a run over the groups of a cut does.
-/

namespace LightStream.Export

open Codec (Octets Encoder except_bind_ok except_mapError_ok)
open Kv (TreeMap)

section
variable {σ ε : Type} {sha256 : Octets → Digest} {context : ValidationContext}
  {catalog : CatalogValidation} {source : DataGroupSourceV1 σ ε} {limits : ExportLimits}

def chapter (descriptor : SectionDescriptorV1) (payload : Octets) : Octets :=
  headerBytes descriptor ++ payload

theorem chapter_length (descriptor : SectionDescriptorV1) (payload : Octets) :
    (chapter descriptor payload).length = sectionHeaderBytes + payload.length := by
  rw [chapter, List.length_append, headerBytes_length]

def describeGroup (sha256 : Octets → Digest) (ordinal : Nat) (group : GroupId)
    (data : DataGroupV1) (offset : Nat) (payload : Octets) : SectionDescriptorV1 :=
  describe sha256 ordinal .dataGroup (some group) data.partitions.length offset payload

structure WroteGroup (sha256 : Octets → Digest) (context : ValidationContext)
    (catalog : CatalogValidation) (source : DataGroupSourceV1 σ ε) (limits : ExportLimits)
    (ordinal : Nat) (group : GroupId) (cut : GroupCut) (before : WriteState σ)
    (data : DataGroupV1) (payload : Octets) (after : WriteState σ) : Prop where
  supplied : source before.source group cut = .ok (some data, after.source)
  validated : validateDataGroup context group cut data catalog limits before.validation =
    .ok after.validation
  reserved : before.budget.reserveDataGroupModel data = .ok after.budget
  encoded : (encodeDataGroup data).toBytes limits.maxSectionBytes = .ok payload
  items : data.partitions.length ≤ u64Max
  output : after.output = before.output.extend (chapter
    (describeGroup sha256 ordinal group data before.output.offset payload) payload)
  fits : after.output.written.length ≤ after.output.max ∧ after.output.written.length ≤ u64Max
  sections : after.sections = before.sections ++
    [describeGroup sha256 ordinal group data before.output.offset payload]

theorem writeDataGroup_ok {ordinal : Nat} {group : GroupId} {cut : GroupCut}
    {before after : WriteState σ}
    (wrote : writeDataGroup sha256 context catalog source limits ordinal group cut before =
      .ok after) :
    ∃ data payload, WroteGroup sha256 context catalog source limits ordinal group cut before data
      payload after := by
  unfold writeDataGroup at wrote
  obtain ⟨⟨found, next⟩, asked, wrote⟩ := except_bind_ok.mp wrote
  have supplied := except_mapError_ok.mp asked
  cases found with
  | none => cases wrote
  | some data =>
      simp only [mapModel, mapDecodeBudget, encoded, except_bind_ok, except_mapError_ok,
        length_ok] at wrote
      obtain ⟨validation, validated, budget, reserved, payload, encoded, _, ⟨rfl, items⟩,
        ⟨output, descriptor⟩, wroteSection, same⟩ := wrote
      obtain ⟨rfl, rfl, _, small, word⟩ := section_ok wroteSection
      cases same
      exact ⟨data, payload, supplied, validated, reserved, encoded, items, rfl, ⟨small, word⟩, rfl⟩

inductive WroteGroups (sha256 : Octets → Digest) (context : ValidationContext)
    (catalog : CatalogValidation) (source : DataGroupSourceV1 σ ε) (limits : ExportLimits) :
    Nat → List (GroupId × GroupCut) → WriteState σ → List DataGroupV1 → Octets → WriteState σ →
      Prop where
  | done (ordinal : Nat) (state : WriteState σ) :
      WroteGroups sha256 context catalog source limits ordinal [] state [] [] state
  | next {ordinal : Nat} {group : GroupId} {cut : GroupCut} {rest : List (GroupId × GroupCut)}
      {before middle after : WriteState σ} {data : DataGroupV1} {groups : List DataGroupV1}
      {payload more : Octets}
      (one : WroteGroup sha256 context catalog source limits ordinal group cut before data payload
        middle)
      (others : WroteGroups sha256 context catalog source limits (ordinal + 1) rest middle groups
        more after) :
      WroteGroups sha256 context catalog source limits ordinal ((group, cut) :: rest) before
        (data :: groups)
        (chapter (describeGroup sha256 ordinal group data before.output.offset payload) payload ++
          more) after

theorem writeDataGroups_ok {cuts : List (GroupId × GroupCut)} {ordinal : Nat}
    {before after : WriteState σ}
    (wrote : writeDataGroups sha256 context catalog source limits ordinal cuts before =
      .ok after) :
    ∃ groups bytes,
      WroteGroups sha256 context catalog source limits ordinal cuts before groups bytes after := by
  induction cuts generalizing ordinal before with
  | nil =>
      cases wrote
      exact ⟨[], [], .done ordinal _⟩
  | cons entry rest ih =>
      obtain ⟨group, cut⟩ := entry
      obtain ⟨middle, first, later⟩ := except_bind_ok.mp wrote
      obtain ⟨data, payload, one⟩ := writeDataGroup_ok first
      obtain ⟨groups, bytes, others⟩ := ih later
      exact ⟨data :: groups, _, .next one others⟩

def supplied (source : DataGroupSourceV1 σ ε) :
    σ → List (GroupId × GroupCut) → Option (List DataGroupV1)
  | _, [] => some []
  | state, (group, cut) :: rest =>
      match source state group cut with
      | .ok (some data, next) => (supplied source next rest).map (data :: ·)
      | _ => none

namespace WroteGroups

variable {ordinal : Nat} {cuts : List (GroupId × GroupCut)} {before after : WriteState σ}
  {groups : List DataGroupV1} {bytes : Octets}

theorem supplies
    (wrote : WroteGroups sha256 context catalog source limits ordinal cuts before groups bytes after) :
    supplied source before.source cuts = some groups := by
  induction wrote with
  | done ordinal state => rfl
  | next one others ih => simp only [supplied, one.supplied, ih, Option.map_some]

theorem output
    (wrote : WroteGroups sha256 context catalog source limits ordinal cuts before groups bytes after) :
    after.output = before.output.extend bytes := by
  induction wrote with
  | done ordinal state => simp [Output.extend]
  | next one others ih => rw [ih, one.output, extend_extend]

theorem totals
    (wrote : WroteGroups sha256 context catalog source limits ordinal cuts before groups bytes after)
    (within : TotalsWithin limits before.validation.totals) :
    after.validation.totals = groups.foldl ExportTotalsV1.withGroup before.validation.totals ∧
      TotalsWithin limits after.validation.totals := by
  induction wrote with
  | done ordinal state => exact ⟨rfl, within⟩
  | next one others ih =>
      obtain ⟨counted, inside⟩ := validateDataGroup_totals one.validated
      obtain ⟨total, final⟩ := ih inside
      refine ⟨?_, final⟩
      rw [total, counted, List.foldl_cons]

theorem extendsSections
    (wrote : WroteGroups sha256 context catalog source limits ordinal cuts before groups bytes after) :
    ∃ more, after.sections = before.sections ++ more ∧ more.length = cuts.length := by
  induction wrote with
  | done ordinal state => exact ⟨[], (List.append_nil _).symm, rfl⟩
  | @next ordinal group cut rest before middle after data groups payload more one others ih =>
      obtain ⟨tail, grown, size⟩ := ih
      refine ⟨describeGroup sha256 ordinal group data before.output.offset payload :: tail, ?_, ?_⟩
      · rw [grown, one.sections, List.append_assoc, List.singleton_append]
      · rw [List.length_cons, List.length_cons, size]

theorem typedSections (short : ordinal + cuts.length ≤ u64Max)
    (typedGroups : ∀ entry ∈ cuts, entry.1.value ≤ u64Max)
    (wrote : WroteGroups sha256 context catalog source limits ordinal cuts before groups bytes after)
    (typed : ∀ descriptor ∈ before.sections, TypedSection descriptor) :
    ∀ descriptor ∈ after.sections, TypedSection descriptor := by
  induction wrote with
  | done ordinal state => exact typed
  | @next ordinal group cut rest before middle after data groups payload more one others ih =>
      rw [List.length_cons] at short
      refine ih (by omega) (fun entry member => typedGroups entry (List.mem_cons_of_mem _ member)) ?_
      intro descriptor member
      rw [one.sections, List.mem_append, List.mem_singleton] at member
      rcases member with old | rfl
      · exact typed descriptor old
      · have room := one.fits.2
        rw [one.output] at room
        simp only [Output.extend, List.length_append, chapter_length] at room
        refine ⟨?_, rfl, ?_, ?_, one.items, ?_⟩
        · dsimp only [describeGroup, describe]
          omega
        · rintro _ ⟨⟩
          exact typedGroups (group, cut) List.mem_cons_self
        · dsimp only [describeGroup, describe, Output.offset]
          omega
        · dsimp only [describeGroup, describe]
          omega

theorem located
    (wrote : WroteGroups sha256 context catalog source limits ordinal cuts before groups bytes after)
    (position : before.sections.length = ordinal) :
    groups.length = cuts.length ∧ ∀ index data, groups[index]? = some data →
      ∃ payload front back, (encodeDataGroup data).toBytes limits.maxSectionBytes = .ok payload ∧
        after.sections[ordinal + index]? = some (describeGroup sha256 (ordinal + index) data.group
          data front.length payload) ∧
        after.output.written = front ++ (chapter (describeGroup sha256 (ordinal + index) data.group
          data front.length payload) payload ++ back) := by
  induction wrote with
  | done ordinal state => exact ⟨rfl, fun index data impossible => by simp at impossible⟩
  | @next ordinal group cut rest before middle after data groups payload more one others ih =>
      have longer : middle.sections.length = ordinal + 1 := by
        rw [one.sections, List.length_append, position, List.length_singleton]
      obtain ⟨size, each⟩ := ih longer
      refine ⟨by rw [List.length_cons, List.length_cons, size], fun index other found => ?_⟩
      cases index with
      | zero =>
          cases found
          have same : data.group = group := by
            have checked := one.validated
            simp only [validateDataGroup, except_bind_ok, require_ok] at checked
            obtain ⟨_, _, _, _, _, groups, _⟩ := checked
            exact groups.1
          obtain ⟨tail, grown, _⟩ := others.extendsSections
          refine ⟨payload, before.output.written, more, one.encoded, ?_, ?_⟩
          · rw [same, grown, one.sections, List.append_assoc, ← position, Nat.add_zero,
              List.getElem?_append_right le_rfl, Nat.sub_self]
            rfl
          · rw [same, others.output, one.output, ← List.append_assoc]
            rfl
      | succ index =>
          obtain ⟨encoding, front, back, encoded, listed, written⟩ := each index other found
          rw [Nat.succ_add_eq_add_succ] at listed written
          exact ⟨encoding, front, back, encoded, listed, written⟩

end WroteGroups

/-! ### Walking what was written -/

variable {τ δ : Type} {visitor : Visitor τ δ} {manifest : ExportManifestV1} {manifestOffset : Nat}
  {hashing : Bool}

theorem WroteGroup.walks {ordinal : Nat} {group : GroupId} {cut : GroupCut}
    {before after : WriteState σ} {data : DataGroupV1} {payload rest : Octets} {reader : Reader}
    {budget : DecodeBudget}
    (one : WroteGroup sha256 context catalog source limits ordinal group cut before data payload
      after)
    (typed : data.Typed) (found : manifest.sections[ordinal]? =
      some (describeGroup sha256 ordinal group data before.output.offset payload))
    (inside : after.output.offset ≤ manifestOffset) (word : manifestOffset ≤ u64Max)
    (within : before.budget.Of limits) (same : budget.Of limits)
    (below : budget.Below before.budget)
    (ahead : reader.At hashing before.output.written
      (chapter (describeGroup sha256 ordinal group data before.output.offset payload) payload ++
        rest)) :
    ∃ passed spent, passed.At hashing after.output.written rest ∧ spent.Of limits ∧
      spent.Below after.budget ∧ ∀ visited,
      walkDataGroup sha256 manifest manifestOffset limits context catalog visitor ordinal group cut
        ⟨reader, budget, before.validation, before.output.offset, visited⟩ =
      ((visitor visited (.dataGroup data)).mapError VisitError.visitor).map fun next =>
        ⟨passed, spent, after.validation, after.output.offset, next⟩ := by
  obtain ⟨spent, reserved, lower⟩ :=
    (Reserves.dataGroupModel data).lower below same within one.reserved
  have kept := (Reserves.dataGroupModel data).keeps same reserved
  obtain ⟨size, _, read⟩ := decoded_whole "data payload"
    (transfers_dataGroup typed same reserved) one.encoded
  have offset : after.output.offset =
      before.output.offset + sectionHeaderBytes + payload.length := by
    rw [one.output]
    simp only [Output.extend, Output.offset, List.length_append, chapter_length]
    omega
  have end_ : before.output.written.length + sectionHeaderBytes + payload.length ≤
      manifestOffset := by
    rw [offset] at inside
    exact inside
  obtain ⟨passed, readOne, at_⟩ := readSection_ok rfl ahead.seeks one.items size end_ word
  refine ⟨passed, spent, ?_, kept, lower, fun visited => ?_⟩
  · rw [one.output]
    exact at_
  · unfold walkDataGroup
    rw [found]
    dsimp only
    have reads : readSection sha256 reader
        (describeGroup sha256 ordinal group data before.output.offset payload)
        ⟨ordinal, .dataGroup, some group⟩ before.output.offset manifestOffset limits =
        .ok (payload, after.output.offset, passed) := by
      rw [offset]
      exact readOne
    have decodes : decoded (decodeDataGroup limits) payload budget = .ok (data, spent) := read
    have counted : data.partitions.length =
        (describeGroup sha256 ordinal group data before.output.offset payload).itemCount := rfl
    simp only [reads, decodes, one.validated, verifying, validating, Except.mapError, Bind.bind,
      Except.bind, counted, ne_eq, not_true_eq_false, if_false]
    cases visitor visited (.dataGroup data) <;> rfl

theorem WroteGroups.walks {ordinal : Nat} {cuts : List (GroupId × GroupCut)}
    {before after : WriteState σ} {groups : List DataGroupV1} {bytes rest : Octets}
    {reader : Reader} {budget : DecodeBudget}
    (wrote : WroteGroups sha256 context catalog source limits ordinal cuts before groups bytes after)
    (typed : TypedSource source) (sections : manifest.sections = after.sections)
    (position : before.sections.length = ordinal) (inside : after.output.offset ≤ manifestOffset)
    (word : manifestOffset ≤ u64Max) (within : before.budget.Of limits) (same : budget.Of limits)
    (below : budget.Below before.budget)
    (ahead : reader.At hashing before.output.written (bytes ++ rest)) :
    ∃ passed spent, passed.At hashing after.output.written rest ∧ ∀ visited,
      walkDataGroups sha256 manifest manifestOffset limits context catalog visitor ordinal cuts
        ⟨reader, budget, before.validation, before.output.offset, visited⟩ =
      ((groups.foldlM (fun state data => visitor state (.dataGroup data)) visited).mapError
        VisitError.visitor).map fun final =>
          ⟨passed, spent, after.validation, after.output.offset, final⟩ := by
  induction wrote generalizing reader budget with
  | done ordinal state => exact ⟨reader, budget, ahead, fun visited => rfl⟩
  | @next ordinal group cut others before middle after data groups payload more one later ih =>
      obtain ⟨tail, grown, _⟩ := later.extendsSections
      have found : manifest.sections[ordinal]? =
          some (describeGroup sha256 ordinal group data before.output.offset payload) := by
        rw [sections, grown, one.sections, List.append_assoc, ← position,
          List.getElem?_append_right le_rfl, Nat.sub_self]
        rfl
      have reaches : middle.output.offset ≤ after.output.offset := by
        rw [later.output]
        simp only [Output.offset, Output.extend, List.length_append]
        omega
      rw [List.append_assoc] at ahead
      obtain ⟨passed, spent, at_, kept, lower, step⟩ :=
        @WroteGroup.walks _ _ _ _ _ _ _ τ δ visitor manifest manifestOffset hashing _ _ _ _ _ _ _ _ _
          _ one (typed _ _ _ _ _ one.supplied) found (reaches.trans inside) word within same below ahead
      obtain ⟨final, left, atEnd, run⟩ := ih sections (by rw [one.sections]; simp [position]) inside
        ((Reserves.dataGroupModel data).keeps within one.reserved) kept lower at_
      refine ⟨final, left, atEnd, fun visited => ?_⟩
      rw [walkDataGroups, step, List.foldlM_cons]
      cases visitor visited (.dataGroup data) with
      | error failure => rfl
      | ok next => exact run next

end

end LightStream.Export
