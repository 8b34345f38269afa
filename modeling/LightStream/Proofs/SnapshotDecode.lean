import LightStream.Proofs.SnapshotFrames

/-!
The slice decoder.  It accepts exactly the bytes of a header, of records in the order that both
decoders ask for, and of the footer that closes them.
-/

namespace LightStream.SnapshotV3

open Codec

namespace SnapshotRecord

def frame : SnapshotRecord → Frame
  | .state key value => ⟨stateRecord, key, value⟩
  | .payload key value => ⟨payloadRecord, key, value⟩

def stateEntry : SnapshotRecord → Option (Octets × Octets)
  | .state key value => some (key, value)
  | .payload _ _ => none

def payloadEntry : SnapshotRecord → Option (Octets × Octets)
  | .state _ _ => none
  | .payload key value => some (key, value)

def bytes (hashes : Hashes) (record : SnapshotRecord) : Octets := sealed hashes record.frame.body

theorem bytes_head (hashes : Hashes) (record : SnapshotRecord) :
    ∃ tag rest, record.bytes hashes = tag :: rest ∧ some tag ≠ snapshotV3Footer.head? := by
  cases record with
  | state key value => exact ⟨stateRecord, _, rfl, by decide⟩
  | payload key value => exact ⟨payloadRecord, _, rfl, by decide⟩

theorem bytes_length_pos (hashes : Hashes) (record : SnapshotRecord) :
    0 < (record.bytes hashes).length := by
  obtain ⟨tag, rest, same, _⟩ := record.bytes_head hashes
  rw [same, List.length_cons]
  omega

end SnapshotRecord

def statesOf (records : List SnapshotRecord) : List (Octets × Octets) :=
  records.filterMap SnapshotRecord.stateEntry

def payloadsOf (records : List SnapshotRecord) : List (Octets × Octets) :=
  records.filterMap SnapshotRecord.payloadEntry

theorem statesOf_cons (record : SnapshotRecord) (rest : List SnapshotRecord) :
    statesOf (record :: rest) = record.stateEntry.toList ++ statesOf rest := by
  cases record <;> rfl

theorem payloadsOf_cons (record : SnapshotRecord) (rest : List SnapshotRecord) :
    payloadsOf (record :: rest) = record.payloadEntry.toList ++ payloadsOf rest := by
  cases record <;> rfl

def recordBytes (hashes : Hashes) (records : List SnapshotRecord) : Octets :=
  records.flatMap (SnapshotRecord.bytes hashes)

def encode (hashes : Hashes) (header : Header) (records : List SnapshotRecord) : Octets :=
  let body := sealed hashes (headerBody header) ++ recordBytes hashes records
  body ++ sealedFooter hashes body (statesOf records).length (payloadsOf records).length

structure Phase where
  payloadSeen : Bool
  lastState : Option Octets
  lastPayload : Option Octets

namespace Phase

def start : Phase := ⟨false, none, none⟩

def Admits (phase : Phase) : SnapshotRecord → Prop
  | .state key _ => phase.payloadSeen = false ∧ ∀ previous ∈ phase.lastState, previous < key
  | .payload key _ => ∀ previous ∈ phase.lastPayload, previous < key

def next (phase : Phase) : SnapshotRecord → Phase
  | .state key _ => { phase with lastState := some key }
  | .payload key _ => { phase with payloadSeen := true, lastPayload := some key }

def AdmitsAll : Phase → List SnapshotRecord → Prop
  | _, [] => True
  | phase, record :: rest => phase.Admits record ∧ (phase.next record).AdmitsAll rest

theorem follows_iff {last : Option Octets} {key : Octets} :
    last.any (fun previous => decide (previous ≥ key)) = false ↔
      ∀ previous ∈ last, previous < key := by
  cases last with
  | none => simp
  | some previous => simp

end Phase

/-! The loop -/

namespace DecodeLoop

def phase (loop : DecodeLoop) : Phase :=
  ⟨!loop.payloads.isEmpty, loop.lastState, loop.lastPayload⟩

def push (loop : DecodeLoop) : SnapshotRecord → DecodeLoop
  | .state key value =>
      { loop with lastState := some key, state := loop.state ++ [(key, value)] }
  | .payload key value =>
      { loop with lastPayload := some key, payloads := loop.payloads ++ [(key, value)] }

theorem phase_push (loop : DecodeLoop) (record : SnapshotRecord) :
    (loop.push record).phase = loop.phase.next record := by
  cases record with
  | state key value => rfl
  | payload key value => simp [push, phase, Phase.next]

theorem admit_ok {loop : DecodeLoop} {frame : Frame} {result : DecodeLoop} :
    loop.admitFrame frame = .ok result ↔
      ∃ record : SnapshotRecord, record.frame = frame ∧ loop.phase.Admits record ∧
        result = loop.push record := by
  obtain ⟨tag, key, value⟩ := frame
  constructor
  · intro admitted
    rw [admitFrame] at admitted
    split at admitted
    · rename_i isState
      split at admitted
      · cases admitted
      · rename_i ordered
        rw [not_or, not_not, Bool.not_eq_true, Phase.follows_iff] at ordered
        refine ⟨.state key value, ?_, ⟨?_, ordered.2⟩, (Except.ok.inj admitted).symm⟩
        · rw [SnapshotRecord.frame, ← isState]
        · rw [phase, ordered.1]
          rfl
    · split at admitted
      · rename_i isPayload
        split at admitted
        · cases admitted
        · rename_i ordered
          rw [Bool.not_eq_true, Phase.follows_iff] at ordered
          refine ⟨.payload key value, ?_, ordered, (Except.ok.inj admitted).symm⟩
          rw [SnapshotRecord.frame, ← isPayload]
      · cases admitted
  · rintro ⟨record, same, admits, rfl⟩
    cases record with
    | state key value =>
        obtain ⟨rfl, rfl, rfl⟩ := Frame.mk.inj same
        have noPayload : loop.payloads = [] := by
          have unseen := admits.1
          rw [phase, Bool.not_eq_false', List.isEmpty_iff] at unseen
          exact unseen
        have ordered := Phase.follows_iff.mpr admits.2
        rw [admitFrame, if_pos rfl, if_neg]
        · rfl
        · rw [not_or, not_not, Bool.not_eq_true]
          exact ⟨noPayload, ordered⟩
    | payload key value =>
        obtain ⟨rfl, rfl, rfl⟩ := Frame.mk.inj same
        have ordered := Phase.follows_iff.mpr admits
        rw [admitFrame, if_neg (by decide : ¬ payloadRecord = stateRecord), if_pos rfl, if_neg]
        · rfl
        · rw [Bool.not_eq_true]
          exact ordered

theorem push_all (loop : DecodeLoop) (records : List SnapshotRecord) :
    (records.foldl push loop).state = loop.state ++ statesOf records ∧
      (records.foldl push loop).payloads = loop.payloads ++ payloadsOf records := by
  induction records generalizing loop with
  | nil => exact ⟨(List.append_nil _).symm, (List.append_nil _).symm⟩
  | cons record rest ih =>
      rw [List.foldl_cons, (ih _).1, (ih _).2]
      rw [statesOf_cons, payloadsOf_cons, ← List.append_assoc, ← List.append_assoc]
      cases record with
      | state key value =>
          refine ⟨rfl, ?_⟩
          rw [SnapshotRecord.payloadEntry, Option.toList_none, List.append_nil, push]
      | payload key value =>
          refine ⟨?_, rfl⟩
          rw [SnapshotRecord.stateEntry, Option.toList_none, List.append_nil, push]

end DecodeLoop

theorem isPrefixOf_footer {remaining : Octets} (hashes : Hashes) (record : SnapshotRecord)
    (rest : Octets) (ahead : remaining = record.bytes hashes ++ rest) :
    snapshotV3Footer.isPrefixOf remaining = false := by
  obtain ⟨tag, tail, same, differs⟩ := record.bytes_head hashes
  rw [ahead, same, List.cons_append, snapshotV3Footer, List.isPrefixOf_cons_cons]
  have other : ((0x4c : UInt8) == tag) = false := by
    rw [beq_eq_false_iff_ne]
    intro first
    exact differs (by rw [← first]; rfl)
  rw [other, Bool.false_and]

theorem isPrefixOf_sealedFooter (hashes : Hashes) (body rest : Octets) (states payloads : Nat) :
    snapshotV3Footer.isPrefixOf (sealedFooter hashes body states payloads ++ rest) = true := by
  rw [List.isPrefixOf_iff_prefix, sealedFooter, sealed, footerBody]
  simp only [List.append_assoc]
  exact List.prefix_append _ _

theorem view_remaining (front back : Octets) :
    (view ByteCursor.remaining : Cursor Octets) (cursorTape front back) =
      .ok (back, cursorTape front back) := by
  rw [view, ByteCursor.remaining_tape]

theorem checkFinished_ok {cursor after : ByteCursor} :
    ByteCursor.checkFinished cursor = .ok ((), after) ↔
      cursor.offset = cursor.bytes.length ∧ after = cursor := by
  rw [ByteCursor.checkFinished]
  split
  · rename_i finished
    simp [finished, eq_comm]
  · rename_i more
    simp [more]

structure DecodedTail (hashes : Hashes) (loop : DecodeLoop) (front back : Octets)
    (result : DecodeLoop) (records : List SnapshotRecord) : Prop where
  ordered : loop.phase.AdmitsAll records
  fits : ∀ record ∈ records, record.frame.Fits
  pushed : result = records.foldl DecodeLoop.push loop
  counts : result.state.length < 256 ^ 8 ∧ result.payloads.length < 256 ^ 8
  bytes : back = recordBytes hashes records ++ sealedFooter hashes
    (front ++ recordBytes hashes records) result.state.length result.payloads.length

theorem decodeRecords_sound {hashes : Hashes} {fuel : Nat} {loop : DecodeLoop}
    {front back : Octets} {result : DecodeLoop} {after : ByteCursor}
    (ran : decodeRecords hashes fuel loop (cursorTape front back) = .ok (result, after)) :
    ∃ records, DecodedTail hashes loop front back result records := by
  induction fuel generalizing loop front back with
  | zero => cases ran
  | succ fuel ih =>
      rw [decodeRecords] at ran
      obtain ⟨remaining, _, viewed, ran⟩ := bind_ok_iff.mp ran
      rw [view_remaining] at viewed
      obtain ⟨rfl, rfl⟩ := Prod.mk.inj (Except.ok.inj viewed)
      split at ran
      · obtain ⟨_, middle, footer, ran⟩ := bind_ok_iff.mp ran
        obtain ⟨bytes, rest, rfl, ⟨counts, rfl⟩, rfl⟩ :=
          (reads_decodeFooter hashes _ _ _ _ _ _).mp footer
        obtain ⟨_, last, finished, returned⟩ := bind_ok_iff.mp ran
        obtain ⟨rfl, rfl⟩ := Prod.mk.inj (Except.ok.inj returned)
        have whole := (checkFinished_ok.mp finished).1
        have nothing : rest = [] := by
          simp only [cursorTape, List.length_append] at whole
          exact List.eq_nil_of_length_eq_zero (by omega)
        exact ⟨[], trivial, by simp, rfl, counts, by simp [recordBytes, nothing]⟩
      · obtain ⟨frame, middle, decoded, ran⟩ := bind_ok_iff.mp ran
        obtain ⟨bytes, rest, rfl, ⟨fits, rfl⟩, rfl⟩ :=
          (reads_decodeFrame hashes _ _ _ _).mp decoded
        obtain ⟨loop', middle, lifted, ran⟩ := bind_ok_iff.mp ran
        obtain ⟨admitted, rfl⟩ := lift_ok_iff.mp lifted
        obtain ⟨record, rfl, admits, rfl⟩ := DecodeLoop.admit_ok.mp admitted
        obtain ⟨records, tail⟩ := ih ran
        refine ⟨record :: records, ⟨admits, ?_⟩, ?_, tail.pushed, tail.counts, ?_⟩
        · rw [← DecodeLoop.phase_push]
          exact tail.ordered
        · intro other member
          rcases List.mem_cons.mp member with rfl | later
          · exact fits
          · exact tail.fits other later
        · rw [tail.bytes]
          simp only [recordBytes, List.flatMap_cons, SnapshotRecord.bytes, List.append_assoc]

theorem decodeRecords_complete {hashes : Hashes} {fuel : Nat} {loop : DecodeLoop}
    {front back : Octets} {result : DecodeLoop} {records : List SnapshotRecord}
    (tail : DecodedTail hashes loop front back result records) (enough : back.length < fuel) :
    decodeRecords hashes fuel loop (cursorTape front back) =
      .ok (result, cursorTape (front ++ back) []) := by
  induction records generalizing fuel loop front back with
  | nil =>
      obtain ⟨fuel, rfl⟩ := Nat.exists_eq_add_one.mpr (Nat.zero_lt_of_lt enough)
      have loops : result = loop := tail.pushed
      subst loops
      have ahead := tail.bytes
      rw [recordBytes, List.flatMap_nil, List.nil_append, List.append_nil] at ahead
      have footer := (reads_decodeFooter hashes result.state.length result.payloads.length).accepted
        front () ⟨tail.counts, rfl⟩ []
      have opens := isPrefixOf_sealedFooter hashes front [] result.state.length
        result.payloads.length
      rw [List.append_nil, ← ahead] at footer opens
      rw [decodeRecords]
      refine bind_ok_iff.mpr ⟨_, _, view_remaining front _, ?_⟩
      rw [if_pos opens]
      refine bind_ok_iff.mpr ⟨(), _, footer, bind_ok_iff.mpr ⟨(), _, checkFinished_ok.mpr
        ⟨?_, rfl⟩, rfl⟩⟩
      simp only [cursorTape, List.append_nil]
  | cons record rest ih =>
      obtain ⟨fuel, rfl⟩ := Nat.exists_eq_add_one.mpr (Nat.zero_lt_of_lt enough)
      obtain ⟨admits, ordered⟩ := tail.ordered
      obtain ⟨remaining, rfl, rest⟩ : ∃ remaining, back = record.bytes hashes ++ remaining ∧
          remaining = recordBytes hashes rest ++ sealedFooter hashes
            (front ++ record.bytes hashes ++ recordBytes hashes rest) result.state.length
            result.payloads.length := by
        refine ⟨_, ?_, rfl⟩
        rw [tail.bytes]
        simp only [recordBytes, List.flatMap_cons, List.append_assoc]
      have frame := (reads_decodeFrame hashes).accepted front record.frame
        ⟨tail.fits record (by simp), rfl⟩ remaining
      have shorter : remaining.length < fuel := by
        have some := record.bytes_length_pos hashes
        rw [List.length_append] at enough
        omega
      have ordered' := ordered
      rw [← DecodeLoop.phase_push] at ordered'
      have later := ih ⟨ordered', fun other member =>
        tail.fits other (List.mem_cons_of_mem _ member), tail.pushed, tail.counts, rest⟩ shorter
      rw [decodeRecords]
      refine bind_ok_iff.mpr ⟨_, _, view_remaining front _, ?_⟩
      rw [if_neg (by rw [isPrefixOf_footer hashes record _ rfl]; decide)]
      refine bind_ok_iff.mpr ⟨record.frame, _, frame, bind_ok_iff.mpr ⟨loop.push record, _,
        lift_ok_iff.mpr ⟨DecodeLoop.admit_ok.mpr ⟨record, rfl, admits, rfl⟩, rfl⟩, ?_⟩⟩
      rw [← List.append_assoc]
      exact later

structure Accepted (header : Header) (records : List SnapshotRecord) : Prop where
  headerFits : header.Fits
  framesFit : ∀ record ∈ records, record.frame.Fits
  ordered : Phase.start.AdmitsAll records
  counts : (statesOf records).length < 256 ^ 8 ∧ (payloadsOf records).length < 256 ^ 8

theorem magic_isPrefixOf_encode (hashes : Hashes) (header : Header)
    (records : List SnapshotRecord) :
    snapshotV3Magic.isPrefixOf (encode hashes header records) = true := by
  rw [List.isPrefixOf_iff_prefix, encode, sealed, headerBody]
  simp only [List.append_assoc]
  exact List.prefix_append _ _

theorem decodeSnapshotV3_ok {hashes : Hashes} {bytes : Octets} {snapshot : DecodedSnapshotV3} :
    decodeSnapshotV3 hashes bytes = .ok (some snapshot) ↔
      ∃ records, Accepted snapshot.header records ∧
        bytes = encode hashes snapshot.header records ∧
        snapshot.state = statesOf records ∧ snapshot.payloads = payloadsOf records := by
  have opening : (⟨bytes, 0⟩ : ByteCursor) = cursorTape [] bytes := rfl
  constructor
  · intro decoded
    rw [decodeSnapshotV3] at decoded
    split at decoded
    · obtain ⟨⟨header, cursor⟩, opened, decoded⟩ := except_bind_ok.mp decoded
      obtain ⟨⟨loop, _⟩, ran, returned⟩ := except_bind_ok.mp decoded
      rw [opening] at opened
      obtain ⟨_, rest, rfl, ⟨fits, rfl⟩, rfl⟩ := (reads_decodeHeader hashes _ _ _ _).mp opened
      obtain ⟨records, tail⟩ := decodeRecords_sound ran
      have parts := DecodeLoop.push_all ⟨[], [], none, none⟩ records
      rw [← tail.pushed, List.nil_append, List.nil_append] at parts
      have bytes := tail.bytes
      have counts := tail.counts
      rw [parts.1, parts.2] at bytes counts
      cases returned
      refine ⟨records, ⟨fits, tail.fits, tail.ordered, counts⟩, ?_, parts.1, parts.2⟩
      rw [bytes, encode]
      simp only [sealed, List.nil_append, List.append_assoc]
    · cases decoded
  · rintro ⟨records, accepted, rfl, isState, isPayloads⟩
    obtain ⟨header, state, payloads⟩ := snapshot
    dsimp only at accepted isState isPayloads ⊢
    obtain ⟨rest, split⟩ : ∃ rest, encode hashes header records =
        sealed hashes (headerBody header) ++ rest ∧
          rest = recordBytes hashes records ++ sealedFooter hashes
            (sealed hashes (headerBody header) ++ recordBytes hashes records)
            (statesOf records).length (payloadsOf records).length :=
      ⟨_, by rw [encode, List.append_assoc], rfl⟩
    have opened := (reads_decodeHeader hashes).accepted [] header ⟨accepted.headerFits, rfl⟩ rest
    have parts := DecodeLoop.push_all ⟨[], [], none, none⟩ records
    rw [List.nil_append, List.nil_append] at parts
    have ran := @decodeRecords_complete hashes ((encode hashes header records).length + 1)
      ⟨[], [], none, none⟩ (sealed hashes (headerBody header)) rest _ records
      ⟨accepted.ordered, accepted.framesFit, rfl, by rw [parts.1, parts.2]; exact accepted.counts,
        by rw [parts.1, parts.2]; exact split.2⟩
      (by
        rw [split.1, List.length_append]
        omega)
    rw [decodeSnapshotV3, if_pos (magic_isPrefixOf_encode hashes header records)]
    refine except_bind_ok.mpr ⟨(header, cursorTape (sealed hashes (headerBody header)) rest), ?_,
      except_bind_ok.mpr ⟨_, ran, ?_⟩⟩
    · rw [split.1]
      exact opened
    · dsimp only
      rw [parts.1, parts.2, isState, isPayloads]
      rfl

/-! The faults of the decoder -/

/-- An error value, as against a panic or a loop without end. -/
def Fault.Returned : Fault → Prop
  | .other _ => True
  | .unexpectedEof => True
  | .panic => False
  | .unfinished => False

namespace ByteCursor

theorem raises_take (len : Nat) : Raises Fault.Returned (take len) := by
  intro cursor fault failed
  rw [take] at failed
  split at failed
  · cases failed
  · cases failed
    trivial

theorem raises_expect (expected : Octets) : Raises Fault.Returned (expect expected) :=
  (raises_take _).bind fun _ => Raises.refuse trivial

theorem raises_readU8 : Raises Fault.Returned readU8 := by
  apply Raises.octet (raises_take 1)
  intro cursor value after taken nothing
  rw [take] at taken
  split at taken
  · rename_i inside
    obtain ⟨rfl, _⟩ := Prod.mk.inj (Except.ok.inj taken)
    have short := congrArg List.length nothing
    rw [remaining, List.length_take, List.length_drop, List.length_nil] at short
    omega
  · cases taken

theorem raises_readU32 : Raises Fault.Returned readU32 := Raises.number (raises_take 4)

theorem raises_readU64 : Raises Fault.Returned readU64 := Raises.number (raises_take 8)

end ByteCursor

open ByteCursor in
theorem raises_decodeHeader (hashes : Hashes) : Raises Fault.Returned (decodeHeader hashes) :=
  (raises_expect _).bind fun _ => raises_readU32.bind fun _ => (Raises.refuse trivial).bind fun _ =>
    raises_readU32.bind fun _ => raises_readU32.bind fun _ => raises_readU32.bind fun _ =>
    (raises_take _).bind fun _ => (raises_take _).bind fun _ => (Raises.view _).bind fun _ =>
    raises_readU32.bind fun _ => (Raises.refuse trivial).bind fun _ => Raises.pure _

open ByteCursor in
theorem raises_decodeFrame (hashes : Hashes) : Raises Fault.Returned (decodeFrame hashes) :=
  (Raises.view _).bind fun _ => raises_readU8.bind fun _ => raises_readU32.bind fun _ =>
    raises_readU64.bind fun _ => (raises_take _).bind fun _ => (raises_take _).bind fun _ =>
    (Raises.view _).bind fun _ => raises_readU32.bind fun _ => (Raises.refuse trivial).bind fun _ =>
    Raises.pure _

open ByteCursor in
theorem raises_decodeFooter (hashes : Hashes) (states payloads : Nat) :
    Raises Fault.Returned (decodeFooter hashes states payloads) :=
  (Raises.view _).bind fun _ => (Raises.view _).bind fun _ => (raises_expect _).bind fun _ =>
    raises_readU64.bind fun _ => raises_readU64.bind fun _ => (raises_take _).bind fun _ =>
    (Raises.view _).bind fun _ => raises_readU32.bind fun _ => (Raises.refuse trivial).bind fun _ =>
    (Raises.refuse trivial).bind fun _ => Raises.refuse trivial

theorem raises_checkFinished : Raises Fault.Returned ByteCursor.checkFinished := by
  intro cursor fault failed
  rw [ByteCursor.checkFinished] at failed
  split at failed
  · cases failed
  · cases failed
    trivial

theorem DecodeLoop.admit_error {loop : DecodeLoop} {frame : Frame} {fault : Fault}
    (failed : loop.admitFrame frame = .error fault) : fault.Returned := by
  rw [admitFrame] at failed
  split at failed
  · split at failed
    · cases failed
      trivial
    · cases failed
  · split at failed
    · split at failed
      · cases failed
        trivial
      · cases failed
    · cases failed
      trivial

theorem decodeRecords_error {hashes : Hashes} {fuel : Nat} {loop : DecodeLoop}
    {front back : Octets} {fault : Fault} (enough : back.length < fuel)
    (failed : decodeRecords hashes fuel loop (cursorTape front back) = .error fault) :
    fault.Returned := by
  induction fuel generalizing loop front back with
  | zero => omega
  | succ fuel ih =>
      rw [decodeRecords] at failed
      rcases bind_error_iff.mp failed with never | ⟨remaining, _, viewed, failed⟩
      · cases never
      · rw [view_remaining] at viewed
        obtain ⟨rfl, rfl⟩ := Prod.mk.inj (Except.ok.inj viewed)
        split at failed
        · exact ((raises_decodeFooter _ _ _).bind fun _ => raises_checkFinished.bind fun _ =>
            Raises.pure _) _ _ failed
        · rcases bind_error_iff.mp failed with early | ⟨frame, _, decoded, failed⟩
          · exact raises_decodeFrame hashes _ _ early
          · obtain ⟨_, rest, rfl, ⟨_, rfl⟩, rfl⟩ := (reads_decodeFrame hashes _ _ _ _).mp decoded
            rcases bind_error_iff.mp failed with refused | ⟨loop', _, lifted, failed⟩
            · exact DecodeLoop.admit_error (lift_error_iff.mp refused)
            · obtain ⟨admitted, rfl⟩ := lift_ok_iff.mp lifted
              obtain ⟨record, rfl, _, _⟩ := DecodeLoop.admit_ok.mp admitted
              have some := record.bytes_length_pos hashes
              rw [SnapshotRecord.bytes] at some
              rw [List.length_append] at enough
              exact ih (by omega) failed

theorem decodeSnapshotV3_error {hashes : Hashes} {bytes : Octets} {fault : Fault}
    (failed : decodeSnapshotV3 hashes bytes = .error fault) : fault.Returned := by
  have opening : (⟨bytes, 0⟩ : ByteCursor) = cursorTape [] bytes := rfl
  rw [decodeSnapshotV3] at failed
  split at failed
  · rcases except_bind_error.mp failed with early | ⟨⟨header, cursor⟩, opened, failed⟩
    · exact raises_decodeHeader hashes _ _ early
    · rw [opening] at opened
      obtain ⟨_, rest, rfl, _, rfl⟩ := (reads_decodeHeader hashes _ _ _ _).mp opened
      rcases except_bind_error.mp failed with later | ⟨_, _, never⟩
      · refine decodeRecords_error ?_ later
        rw [List.length_append]
        omega
      · cases never
  · cases failed

end LightStream.SnapshotV3
