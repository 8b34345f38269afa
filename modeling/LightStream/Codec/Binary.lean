import Mathlib.Data.List.Basic
import LightStream.Kv.Ordered

/-!
Binary encoders and decoders.  An encoder appends to an output of bounded size; a decoder
consumes a list of bytes and draws on a budget.  `Transfers` says that what one writes the other
reads: its rules follow the two programs step by step, and carry a lower bound on the bytes
written, which is what a decoder checks an announced count against.
-/

namespace Codec

abbrev Octets := List UInt8

def toOctets (width value : Nat) : Octets := (Kv.bigEndian width value).map UInt8.ofNat

def ofOctets (bytes : Octets) : Nat := Kv.fromBigEndian (bytes.map UInt8.toNat)

theorem toOctets_length (width value : Nat) : (toOctets width value).length = width := by
  rw [toOctets, List.length_map, Kv.bigEndian_length]

theorem drop_toOctets {width amount : Nat} (past : width ≤ amount) (value : Nat) (rest : Octets) :
    (toOctets width value ++ rest).drop amount = rest.drop (amount - width) := by
  rw [List.drop_append, toOctets_length, List.drop_eq_nil_of_le (by rw [toOctets_length]; omega),
    List.nil_append]

theorem take_toOctets (width value : Nat) (rest : Octets) :
    (toOctets width value ++ rest).take width = toOctets width value :=
  List.take_left' (toOctets_length width value)

theorem take_toOctets_self (width value : Nat) :
    (toOctets width value).take width = toOctets width value :=
  List.take_of_length_le (toOctets_length width value).le

theorem bigEndian_digit {width value digit : Nat} (member : digit ∈ Kv.bigEndian width value) :
    digit < 256 := by
  induction width with
  | zero => simp [Kv.bigEndian] at member
  | succ width ih =>
      rw [Kv.bigEndian, List.mem_cons] at member
      rcases member with same | later
      · rw [same]
        exact Nat.mod_lt _ (by omega)
      · exact ih later

theorem ofOctets_toOctets {width value : Nat} (fits : value < 256 ^ width) :
    ofOctets (toOctets width value) = value := by
  have digits : (toOctets width value).map UInt8.toNat = Kv.bigEndian width value := by
    rw [toOctets, List.map_map]
    conv_rhs => rw [← List.map_id (Kv.bigEndian width value)]
    refine List.map_congr_left fun digit member => ?_
    have small := bigEndian_digit member
    simp only [Function.comp_apply, id_eq, UInt8.toNat_ofNat']
    omega
  rw [ofOctets, digits, Kv.fromBigEndian_bigEndian, Nat.mod_eq_of_lt fits]

inductive EncodeLimit where
  | exceeded
deriving DecidableEq

structure Output where
  bytes : Octets
  max : Nat

abbrev Encoder := StateT Output (Except EncodeLimit)

def Output.append (output : Output) (bytes : Octets) : Output :=
  { output with bytes := output.bytes ++ bytes }

def wordMax : Nat := 2 ^ 64 - 1

def Output.Fits (output : Output) : Prop :=
  output.bytes.length ≤ output.max ∧ output.bytes.length ≤ wordMax

def raw (value : Octets) : Encoder Unit := fun output =>
  if output.bytes.length + value.length > wordMax ∨
      output.bytes.length + value.length > output.max then .error .exceeded
  else .ok ((), output.append value)

def Encoder.toBytes (encoder : Encoder Unit) (max : Nat) : Except EncodeLimit Octets :=
  (encoder ⟨[], max⟩).map fun written => written.2.bytes

structure Input (β : Type) where
  remaining : Octets
  budget : β

abbrev Decoder (ε β : Type) := StateT (Input β) (Except ε)

section
variable {ε β α γ : Type}

def take (truncated : ε) (length : Nat) : Decoder ε β Octets := fun input =>
  if length ≤ input.remaining.length then
    .ok (input.remaining.take length, { input with remaining := input.remaining.drop length })
  else .error truncated

def finish (leftover : ε) : Decoder ε β Unit := fun input =>
  if input.remaining = [] then .ok ((), input) else .error leftover

def charge (reserve : β → Except ε β) : Decoder ε β Unit := fun input =>
  (reserve input.budget).map fun budget => ((), { input with budget })

def repeated (decoder : Decoder ε β α) : Nat → Decoder ε β (List α)
  | 0 => pure []
  | count + 1 => do
      let first ← decoder
      let rest ← repeated decoder count
      pure (first :: rest)

/-- Whatever `encoder` writes, at least `width` bytes, `decoder` reads back as `value` and
nothing more, while the budget goes from `before` to `after`. -/
def Transfers (encoder : Encoder Unit) (decoder : Decoder ε β α) (value : α) (width : Nat)
    (before after : β) : Prop :=
  ∀ output written, output.Fits → encoder output = .ok ((), written) → ∃ bytes : Octets,
    width ≤ bytes.length ∧ written = output.append bytes ∧ written.Fits ∧
      ∀ rest, decoder ⟨bytes ++ rest, before⟩ = .ok (value, ⟨rest, after⟩)

theorem except_bind_ok {first : Except ε α} {second : α → Except ε γ} {result : γ} :
    (first >>= second) = .ok result ↔ ∃ value, first = .ok value ∧ second value = .ok result := by
  cases first with
  | error failure => simp [Bind.bind, Except.bind]
  | ok value => simp [Bind.bind, Except.bind]

theorem except_mapError_ok {δ : Type} {first : Except ε α} {change : ε → δ} {result : α} :
    first.mapError change = .ok result ↔ first = .ok result := by
  cases first with
  | error failure => simp [Except.mapError]
  | ok value => simp [Except.mapError]

theorem foldlM_step {step : β → α → Except ε β} {items : List α} {start stop : β}
    (ran : items.foldlM step start = .ok stop) {item : α} (member : item ∈ items) :
    ∃ before after, step before item = .ok after := by
  induction items generalizing start with
  | nil => simp at member
  | cons head rest ih =>
      rw [List.foldlM_cons] at ran
      obtain ⟨middle, first, later⟩ := except_bind_ok.mp ran
      rcases List.mem_cons.mp member with rfl | inside
      · exact ⟨start, middle, first⟩
      · exact ih later inside

theorem Output.append_append (output : Output) (first second : Octets) :
    (output.append first).append second = output.append (first ++ second) := by
  simp [Output.append]

theorem bind_ok_iff {σ : Type} {first : StateT σ (Except ε) α}
    {second : α → StateT σ (Except ε) γ} {state : σ} {result : γ × σ} :
    (first >>= second) state = .ok result ↔
      ∃ value middle, first state = .ok (value, middle) ∧ second value middle = .ok result := by
  change ((first state).bind fun pair => second pair.1 pair.2) = .ok result ↔ _
  cases first state with
  | error failure => simp [Except.bind]
  | ok pair =>
      simp only [Except.bind, Except.ok.injEq]
      constructor
      · intro next
        exact ⟨pair.1, pair.2, rfl, next⟩
      · rintro ⟨value, middle, rfl, next⟩
        exact next

namespace Transfers

variable {encoder next : Encoder Unit} {decoder : Decoder ε β α} {value : α} {width more : Nat}
  {before middle after : β}

theorem weaken {less : Nat} (transfers : Transfers encoder decoder value width before after)
    (fewer : less ≤ width) : Transfers encoder decoder value less before after := by
  intro output written room wrote
  obtain ⟨bytes, wide, grown, fits, read⟩ := transfers output written room wrote
  exact ⟨bytes, fewer.trans wide, grown, fits, read⟩

theorem done (value : α) (budget : β) :
    Transfers (pure ()) (pure value : Decoder ε β α) value 0 budget budget := by
  intro output written room wrote
  have same : output = written := congrArg Prod.snd (Except.ok.inj wrote)
  subst same
  exact ⟨[], Nat.zero_le _, by simp [Output.append], room, fun rest => rfl⟩

theorem bind {result : γ} {continuation : α → Decoder ε β γ}
    (first : Transfers encoder decoder value width before middle)
    (second : Transfers next (continuation value) result more middle after) :
    Transfers (encoder >>= fun _ => next) (decoder >>= continuation) result (width + more)
      before after := by
  intro output written room wrote
  obtain ⟨_, between, wroteFirst, wroteSecond⟩ := bind_ok_iff.mp wrote
  obtain ⟨front, wideFront, grownFront, fitsFront, readFront⟩ := first output between room wroteFirst
  obtain ⟨back, wideBack, grownBack, fitsBack, readBack⟩ := second between written fitsFront wroteSecond
  refine ⟨front ++ back, ?_, ?_, fitsBack, fun rest => ?_⟩
  · rw [List.length_append]
    omega
  · rw [grownBack, grownFront, Output.append_append]
  · rw [List.append_assoc]
    exact bind_ok_iff.mpr ⟨value, ⟨back ++ rest, middle⟩, readFront _, readBack rest⟩

theorem lastly {result : γ} {continuation : α → Decoder ε β γ}
    (first : Transfers encoder decoder value width before after)
    (yields : continuation value = pure result) :
    Transfers encoder (decoder >>= continuation) result width before after := by
  intro output written room wrote
  obtain ⟨bytes, wide, grown, fits, read⟩ := first output written room wrote
  refine ⟨bytes, wide, grown, fits, fun rest => bind_ok_iff.mpr ⟨value, _, read rest, ?_⟩⟩
  rw [yields]
  rfl

theorem last (make : α → γ) (first : Transfers encoder decoder value width before after) :
    Transfers encoder (decoder >>= fun read => pure (make read)) (make value) width before
      after :=
  first.lastly rfl

theorem silent {check : Decoder ε β γ} {answer : γ} {continuation : γ → Decoder ε β α}
    (passes : ∀ remaining, check ⟨remaining, before⟩ = .ok (answer, ⟨remaining, middle⟩))
    (rest : Transfers encoder (continuation answer) value width middle after) :
    Transfers encoder (check >>= continuation) value width before after := by
  intro output written room wrote
  obtain ⟨bytes, wide, grown, fits, read⟩ := rest output written room wrote
  exact ⟨bytes, wide, grown, fits, fun remaining =>
    bind_ok_iff.mpr ⟨answer, _, passes _, read remaining⟩⟩

/-- A decoder step that looks at the bytes that are left, of which there are enough. -/
theorem looked {next : Decoder ε β α} {continuation : Input β → Decoder ε β α}
    (rest : Transfers encoder next value width before after)
    (seen : ∀ input : Input β, width ≤ input.remaining.length → continuation input = next) :
    Transfers encoder (get >>= continuation) value width before after := by
  intro output written room wrote
  obtain ⟨bytes, wide, grown, fits, read⟩ := rest output written room wrote
  refine ⟨bytes, wide, grown, fits, fun remaining => bind_ok_iff.mpr ⟨_, _, rfl, ?_⟩⟩
  rw [seen _ (by rw [List.length_append]; omega)]
  exact read remaining

theorem charged {reserve : β → Except ε β} {continuation : Unit → Decoder ε β α}
    (reserved : reserve before = .ok middle)
    (rest : Transfers encoder (continuation ()) value width middle after) :
    Transfers encoder (charge reserve >>= continuation) value width before after :=
  rest.silent fun remaining => by simp [charge, reserved, Except.map]

theorem octets (truncated : ε) (bytes : Octets) (budget : β) :
    Transfers (raw bytes) (take truncated bytes.length) bytes bytes.length budget budget := by
  intro output written room wrote
  unfold raw at wrote
  split at wrote
  · cases wrote
  · rename_i small
    have same : output.append bytes = written := congrArg Prod.snd (Except.ok.inj wrote)
    refine ⟨bytes, le_rfl, same.symm, ?_, fun rest => ?_⟩
    · rw [← same]
      simp only [Output.Fits, Output.append, List.length_append]
      omega
    · simp [take]

/-- The elements of a list, each read within the budget the ones before it leave. -/
theorem list {encode : α → Encoder Unit} {reserve : β → α → Except ε β} {Inv : β → Prop}
    {items : List α} (keeps : ∀ item start stop, Inv start → reserve start item = .ok stop → Inv stop)
    (each : ∀ item ∈ items, ∀ start stop, Inv start → reserve start item = .ok stop →
      Transfers (encode item) decoder item width start stop)
    (start : Inv before) (reserved : items.foldlM reserve before = .ok after) :
    Transfers (items.forM encode) (repeated decoder items.length) items (items.length * width)
      before after := by
  induction items generalizing before with
  | nil =>
      cases reserved
      exact (done [] _).weaken (by simp)
  | cons item items ih =>
      rw [List.foldlM_cons] at reserved
      cases first : reserve before item with
      | error failure => simp [first, Bind.bind, Except.bind] at reserved
      | ok middle =>
          simp only [first, Bind.bind, Except.bind] at reserved
          have head := each item List.mem_cons_self before middle start first
          have tail := ih (fun other member => each other (List.mem_cons_of_mem _ member))
            (keeps item before middle start first) reserved
          refine weaken (head.bind (tail.last (item :: ·))) ?_
          rw [List.length_cons, Nat.succ_mul]
          omega

theorem plainList {encode : α → Encoder Unit} {items : List α} (budget : β)
    (each : ∀ item ∈ items, Transfers (encode item) decoder item width budget budget) :
    Transfers (items.forM encode) (repeated decoder items.length) items (items.length * width)
      budget budget := by
  induction items with
  | nil => exact (done [] budget).weaken (by simp)
  | cons item items ih =>
      have head := each item List.mem_cons_self
      have tail := ih fun other member => each other (List.mem_cons_of_mem _ member)
      refine weaken (head.bind (tail.last (item :: ·))) ?_
      rw [List.length_cons, Nat.succ_mul]
      omega

/-- Encoding into an empty output and decoding to its end gives the value back. -/
theorem toBytes {max : Nat} {bytes : Octets}
    (transfers : Transfers encoder decoder value width before after)
    (encoded : encoder.toBytes max = .ok bytes) :
    (bytes.length ≤ max ∧ bytes.length ≤ wordMax) ∧ width ≤ bytes.length ∧
      decoder ⟨bytes, before⟩ = .ok (value, ⟨[], after⟩) := by
  unfold Encoder.toBytes at encoded
  cases wrote : encoder ⟨[], max⟩ with
  | error failure => simp [wrote, Except.map] at encoded
  | ok written =>
      obtain ⟨_, written⟩ := written
      have content : written.bytes = bytes := by
        simpa [wrote, Except.map] using encoded
      obtain ⟨payload, wide, grown, fits, read⟩ :=
        transfers _ _ ⟨Nat.zero_le _, Nat.zero_le _⟩ wrote
      have same : payload = bytes := by
        rw [← content, grown]
        rfl
      subst same
      have bounded := fits
      rw [grown] at bounded
      refine ⟨bounded, wide, ?_⟩
      have whole := read []
      rwa [List.append_nil] at whole

end Transfers

end

end Codec
