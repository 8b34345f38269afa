import LightStream.Codec.Binary

/-!
Programs that read a byte string from front to back.  A tape gives the state of a reader that
has `front` behind it and `back` ahead.  `Reads` says exactly when a program succeeds from such a
state, what it then returns and which bytes it took; `Raises` says which faults it may end with
from any state.  Both have one rule for each way to put programs together.
-/

namespace Codec

theorem fromBigEndian_cons (digit : Nat) (digits : List Nat) :
    Kv.fromBigEndian (digit :: digits) =
      digit * 256 ^ digits.length + Kv.fromBigEndian digits := by
  have shifted : ∀ (digits : List Nat) (start : Nat),
      digits.foldl (fun value byte => value * 256 + byte) start =
        start * 256 ^ digits.length + Kv.fromBigEndian digits := by
    intro digits
    induction digits with
    | nil => simp [Kv.fromBigEndian]
    | cons first rest ih =>
        intro start
        rw [Kv.fromBigEndian, List.foldl_cons, List.foldl_cons, ih, ih, List.length_cons,
          Nat.pow_succ]
        ring
  rw [Kv.fromBigEndian, List.foldl_cons, shifted, Nat.zero_mul, Nat.zero_add]

theorem bigEndian_add_mul (width value high : Nat) :
    Kv.bigEndian width (high * 256 ^ width + value) = Kv.bigEndian width value := by
  induction width generalizing high with
  | zero => rfl
  | succ width ih =>
      have regrouped : high * 256 ^ (width + 1) + value = (high * 256) * 256 ^ width + value := by
        rw [Nat.pow_succ]
        ring
      have digit : (high * 256 * 256 ^ width + value) / 256 ^ width % 256 =
          value / 256 ^ width % 256 := by
        rw [Nat.add_comm, Nat.add_mul_div_right _ _ (Nat.pow_pos (by omega)),
          Nat.add_mul_mod_self_right]
      rw [regrouped, Kv.bigEndian, Kv.bigEndian, ih, digit]

theorem fromBigEndian_lt {digits : List Nat} (small : ∀ digit ∈ digits, digit < 256) :
    Kv.fromBigEndian digits < 256 ^ digits.length := by
  induction digits with
  | nil => simp [Kv.fromBigEndian]
  | cons digit rest ih =>
      have head : digit < 256 := small digit (by simp)
      have tail := ih fun digit member => small digit (List.mem_cons_of_mem _ member)
      have high : digit * 256 ^ rest.length ≤ 255 * 256 ^ rest.length :=
        Nat.mul_le_mul_right _ (by omega)
      rw [fromBigEndian_cons, List.length_cons, Nat.pow_succ]
      omega

theorem bigEndian_fromBigEndian {digits : List Nat} (small : ∀ digit ∈ digits, digit < 256) :
    Kv.bigEndian digits.length (Kv.fromBigEndian digits) = digits := by
  induction digits with
  | nil => rfl
  | cons digit rest ih =>
      have head : digit < 256 := small digit (by simp)
      have later : ∀ digit ∈ rest, digit < 256 := fun digit member =>
        small digit (List.mem_cons_of_mem _ member)
      have leading : (digit * 256 ^ rest.length + Kv.fromBigEndian rest) / 256 ^ rest.length =
          digit := by
        rw [Nat.add_comm, Nat.add_mul_div_right _ _ (Nat.pow_pos (by omega)),
          Nat.div_eq_of_lt (fromBigEndian_lt later), Nat.zero_add]
      rw [List.length_cons, Kv.bigEndian, fromBigEndian_cons, leading, Nat.mod_eq_of_lt head,
        bigEndian_add_mul, ih later]

theorem ofOctets_lt (bytes : Octets) : ofOctets bytes < 256 ^ bytes.length := by
  have bound := @fromBigEndian_lt (bytes.map UInt8.toNat) (by
    intro digit member
    obtain ⟨byte, _, rfl⟩ := List.mem_map.mp member
    exact byte.toNat_lt)
  rwa [List.length_map] at bound

theorem toOctets_ofOctets (bytes : Octets) : toOctets bytes.length (ofOctets bytes) = bytes := by
  have digits := @bigEndian_fromBigEndian (bytes.map UInt8.toNat) (by
    intro digit member
    obtain ⟨byte, _, rfl⟩ := List.mem_map.mp member
    exact byte.toNat_lt)
  rw [List.length_map] at digits
  rw [toOctets, ofOctets, digits, List.map_map]
  conv_rhs => rw [← List.map_id bytes]
  exact List.map_congr_left fun byte _ => UInt8.ofNat_toNat

section
variable {σ ε α γ : Type} {tape : Octets → Octets → σ}

theorem lift_ok_iff {program : Except ε α} {state after : σ} {value : α} :
    (liftM program : StateT σ (Except ε) α) state = .ok (value, after) ↔
      program = .ok value ∧ after = state := by
  cases program with
  | error fault =>
      constructor
      · intro ran
        cases ran
      · rintro ⟨ran, _⟩
        cases ran
  | ok answer =>
      constructor
      · intro ran
        have pair := Except.ok.inj ran
        rw [Prod.mk.injEq] at pair
        exact ⟨by rw [pair.1], pair.2.symm⟩
      · rintro ⟨ran, rfl⟩
        cases ran
        rfl

theorem lift_error_iff {program : Except ε α} {state : σ} {fault : ε} :
    (liftM program : StateT σ (Except ε) α) state = .error fault ↔ program = .error fault := by
  cases program with
  | error raised =>
      constructor
      · intro failed
        rw [Except.error.inj failed]
      · intro failed
        rw [Except.error.inj failed]
        rfl
  | ok value =>
      constructor
      · intro failed
        cases failed
      · intro failed
        cases failed

theorem except_bind_error {first : Except ε α} {second : α → Except ε γ} {fault : ε} :
    (first >>= second) = .error fault ↔
      first = .error fault ∨ ∃ value, first = .ok value ∧ second value = .error fault := by
  cases first with
  | error raised => simp [Bind.bind, Except.bind]
  | ok value => simp [Bind.bind, Except.bind]

theorem bind_error_iff {first : StateT σ (Except ε) α} {second : α → StateT σ (Except ε) γ}
    {state : σ} {fault : ε} : (first >>= second) state = .error fault ↔
      first state = .error fault ∨
        ∃ value middle, first state = .ok (value, middle) ∧ second value middle = .error fault := by
  change ((first state).bind fun pair => second pair.1 pair.2) = .error fault ↔ _
  cases ran : first state with
  | error raised => simp [Except.bind]
  | ok pair =>
      simp only [Except.bind, reduceCtorEq, false_or, Except.ok.injEq]
      constructor
      · intro failed
        exact ⟨pair.1, pair.2, rfl, failed⟩
      · rintro ⟨value, middle, rfl, failed⟩
        exact failed

/-- From every position the program succeeds with `value` when a prefix of what is ahead is
accepted as `value`, and then stands behind that prefix. -/
def Reads (tape : Octets → Octets → σ) (program : StateT σ (Except ε) α)
    (accepts : Octets → Octets → α → Prop) : Prop :=
  ∀ front back value after, program (tape front back) = .ok (value, after) ↔
    ∃ bytes rest, back = bytes ++ rest ∧ accepts front bytes value ∧
      after = tape (front ++ bytes) rest

/-- `next` takes as many bytes as it is asked for. -/
def Takes (tape : Octets → Octets → σ) (next : Nat → StateT σ (Except ε) Octets) : Prop :=
  ∀ width, Reads tape (next width) fun _ bytes value => value = bytes ∧ bytes.length = width

def Raises (allowed : ε → Prop) (program : StateT σ (Except ε) α) : Prop :=
  ∀ state fault, program state = .error fault → allowed fault

def refuse (refused : Prop) [Decidable refused] (fault : ε) : StateT σ (Except ε) Unit :=
  if refused then throw fault else pure ()

def view (field : σ → α) : StateT σ (Except ε) α := fun state => .ok (field state, state)

def octet (next : Nat → StateT σ (Except ε) Octets) (fault : ε) : StateT σ (Except ε) UInt8 := do
  match ← next 1 with
  | byte :: _ => pure byte
  | [] => throw fault

def number (next : Nat → StateT σ (Except ε) Octets) (width : Nat) : StateT σ (Except ε) Nat := do
  let bytes ← next width
  pure (ofOctets bytes)

namespace Reads

variable {program : StateT σ (Except ε) α} {accepts : Octets → Octets → α → Prop}

theorem congr {others : Octets → Octets → α → Prop} (reads : Reads tape program accepts)
    (same : ∀ front bytes value, accepts front bytes value ↔ others front bytes value) :
    Reads tape program others := by
  intro front back value after
  simp only [reads front back value after, same]

theorem pure (value : α) :
    Reads tape (pure value : StateT σ (Except ε) α) fun _ bytes read =>
      bytes = [] ∧ read = value := by
  intro front back read after
  constructor
  · intro ran
    have pair := Except.ok.inj ran
    rw [Prod.mk.injEq] at pair
    exact ⟨[], back, rfl, ⟨rfl, pair.1.symm⟩, by rw [List.append_nil, pair.2]⟩
  · rintro ⟨_, rest, rfl, ⟨rfl, rfl⟩, rfl⟩
    rw [List.append_nil]
    rfl

theorem bind {next : α → StateT σ (Except ε) γ} {later : α → Octets → Octets → γ → Prop}
    (first : Reads tape program accepts) (second : ∀ value, Reads tape (next value) (later value)) :
    Reads tape (program >>= next) fun front bytes result =>
      ∃ value head tail, bytes = head ++ tail ∧ accepts front head value ∧
        later value (front ++ head) tail result := by
  intro front back result after
  rw [bind_ok_iff]
  constructor
  · rintro ⟨value, middle, ran, ranNext⟩
    obtain ⟨head, rest, rfl, taken, rfl⟩ := (first front back value middle).mp ran
    obtain ⟨tail, last, rfl, takenNext, rfl⟩ := (second value _ rest result after).mp ranNext
    exact ⟨head ++ tail, last, by rw [List.append_assoc],
      ⟨value, head, tail, rfl, taken, takenNext⟩, by rw [List.append_assoc]⟩
  · rintro ⟨_, last, rfl, ⟨value, head, tail, rfl, taken, takenNext⟩, rfl⟩
    refine ⟨value, tape (front ++ head) (tail ++ last), ?_, ?_⟩
    · exact (first _ _ _ _).mpr ⟨head, tail ++ last, by rw [List.append_assoc], taken, rfl⟩
    · exact (second value _ _ _ _).mpr
        ⟨tail, last, rfl, takenNext, by rw [List.append_assoc]⟩

theorem refuse (refused : Prop) [Decidable refused] (fault : ε) :
    Reads tape (Codec.refuse refused fault) fun _ bytes _ => bytes = [] ∧ ¬ refused := by
  intro front back read after
  rw [Codec.refuse]
  by_cases holds : refused
  · rw [if_pos holds]
    constructor
    · intro ran
      cases ran
    · rintro ⟨_, _, _, ⟨_, allowed⟩, _⟩
      exact absurd holds allowed
  · rw [if_neg holds, Reads.pure () front back read after]
    simp [holds]

theorem view {field : σ → α} {shown : Octets → α}
    (shows : ∀ front back, field (tape front back) = shown front) :
    Reads tape (Codec.view field : StateT σ (Except ε) α) fun front bytes value =>
      bytes = [] ∧ value = shown front := by
  intro front back value after
  have viewed : (Codec.view field : StateT σ (Except ε) α) (tape front back) =
      (Pure.pure (shown front) : StateT σ (Except ε) α) (tape front back) := by
    rw [← shows front back]
    rfl
  rw [viewed, Reads.pure (shown front) front back value after]

theorem octet {next : Nat → StateT σ (Except ε) Octets} (takes : Takes tape next) (fault : ε) :
    Reads tape (octet next fault) fun _ bytes value => bytes = [value] := by
  intro front back value after
  rw [Codec.octet, bind_ok_iff]
  constructor
  · rintro ⟨_, middle, ran, matched⟩
    obtain ⟨bytes, rest, rfl, ⟨rfl, sized⟩, rfl⟩ := (takes 1 front back _ middle).mp ran
    obtain ⟨byte, rfl⟩ := List.length_eq_one_iff.mp sized
    have pair := Except.ok.inj matched
    rw [Prod.mk.injEq] at pair
    obtain ⟨rfl, rfl⟩ := pair
    exact ⟨[byte], rest, rfl, rfl, rfl⟩
  · rintro ⟨_, rest, rfl, rfl, rfl⟩
    exact ⟨[value], _, (takes 1 _ _ _ _).mpr ⟨[value], rest, rfl, ⟨rfl, rfl⟩, rfl⟩, rfl⟩

theorem number {next : Nat → StateT σ (Except ε) Octets} (takes : Takes tape next) (width : Nat) :
    Reads tape (number next width) fun _ bytes value =>
      value < 256 ^ width ∧ bytes = toOctets width value := by
  refine ((takes width).bind fun bytes => Reads.pure (ofOctets bytes)).congr ?_
  intro _ bytes value
  constructor
  · rintro ⟨_, head, _, rfl, ⟨rfl, sized⟩, rfl, rfl⟩
    subst sized
    rw [List.append_nil]
    exact ⟨ofOctets_lt _, (toOctets_ofOctets _).symm⟩
  · rintro ⟨fits, rfl⟩
    exact ⟨_, toOctets width value, [], (List.append_nil _).symm, ⟨rfl, toOctets_length _ _⟩, rfl,
      (ofOctets_toOctets fits).symm⟩

/-! What a first step adds to the bytes that the rest of a program takes. -/

theorem refuse_then {refused : Prop} [Decidable refused] {fault : ε}
    {next : Unit → StateT σ (Except ε) γ} {later : Octets → Octets → γ → Prop}
    (reads : ∀ passed, Reads tape (next passed) later) :
    Reads tape (Codec.refuse refused fault >>= next) fun front bytes result =>
      ¬ refused ∧ later front bytes result := by
  refine ((Reads.refuse refused fault).bind reads).congr ?_
  intro front bytes result
  constructor
  · rintro ⟨_, _, tail, rfl, ⟨rfl, passed⟩, taken⟩
    rw [List.append_nil] at taken
    exact ⟨passed, taken⟩
  · rintro ⟨passed, taken⟩
    refine ⟨(), [], bytes, rfl, ⟨rfl, passed⟩, ?_⟩
    rw [List.append_nil]
    exact taken

theorem view_then {field : σ → α} {shown : Octets → α} {next : α → StateT σ (Except ε) γ}
    {later : α → Octets → Octets → γ → Prop}
    (shows : ∀ front back, field (tape front back) = shown front)
    (reads : ∀ value, Reads tape (next value) (later value)) :
    Reads tape (Codec.view field >>= next) fun front => later (shown front) front := by
  refine ((Reads.view shows).bind reads).congr ?_
  intro front bytes result
  constructor
  · rintro ⟨_, _, tail, rfl, ⟨rfl, rfl⟩, taken⟩
    rw [List.append_nil] at taken
    exact taken
  · intro taken
    refine ⟨_, [], bytes, rfl, ⟨rfl, rfl⟩, ?_⟩
    rw [List.append_nil]
    exact taken

theorem take_then {take : Nat → StateT σ (Except ε) Octets} {width : Nat}
    {next : Octets → StateT σ (Except ε) γ} {later : Octets → Octets → Octets → γ → Prop}
    (takes : Takes tape take) (reads : ∀ value, Reads tape (next value) (later value)) :
    Reads tape (take width >>= next) fun front bytes result => ∃ value tail,
      value.length = width ∧ bytes = value ++ tail ∧ later value (front ++ value) tail result := by
  refine ((takes width).bind reads).congr ?_
  intro front bytes result
  constructor
  · rintro ⟨value, _, tail, rfl, ⟨rfl, sized⟩, taken⟩
    exact ⟨value, tail, sized, rfl, taken⟩
  · rintro ⟨value, tail, sized, rfl, taken⟩
    exact ⟨value, value, tail, rfl, ⟨rfl, sized⟩, taken⟩

theorem number_then {take : Nat → StateT σ (Except ε) Octets} {width : Nat}
    {next : Nat → StateT σ (Except ε) γ} {later : Nat → Octets → Octets → γ → Prop}
    (takes : Takes tape take) (reads : ∀ value, Reads tape (next value) (later value)) :
    Reads tape (Codec.number take width >>= next) fun front bytes result => ∃ value tail,
      value < 256 ^ width ∧ bytes = toOctets width value ++ tail ∧
        later value (front ++ toOctets width value) tail result := by
  refine ((Reads.number takes width).bind reads).congr ?_
  intro front bytes result
  constructor
  · rintro ⟨value, _, tail, rfl, ⟨fits, rfl⟩, taken⟩
    exact ⟨value, tail, fits, rfl, taken⟩
  · rintro ⟨value, tail, fits, rfl, taken⟩
    exact ⟨value, _, tail, rfl, ⟨fits, rfl⟩, taken⟩

theorem accepted (reads : Reads tape program accepts) (front : Octets) (value : α)
    {bytes : Octets} (taken : accepts front bytes value) (rest : Octets) :
    program (tape front (bytes ++ rest)) = .ok (value, tape (front ++ bytes) rest) :=
  (reads _ _ _ _).mpr ⟨bytes, rest, rfl, taken, rfl⟩

end Reads

theorem Takes.of_split {next : Nat → StateT σ (Except ε) Octets} {fault : ε}
    (splits : ∀ width front back, next width (tape front back) =
      if width ≤ back.length then
        .ok (back.take width, tape (front ++ back.take width) (back.drop width))
      else .error fault) : Takes tape next := by
  intro width front back value after
  rw [splits]
  split
  · rename_i enough
    constructor
    · intro ran
      have pair := Except.ok.inj ran
      rw [Prod.mk.injEq] at pair
      obtain ⟨rfl, rfl⟩ := pair
      exact ⟨_, back.drop width, (List.take_append_drop width back).symm,
        ⟨rfl, List.length_take_of_le enough⟩, rfl⟩
    · rintro ⟨_, rest, rfl, ⟨rfl, rfl⟩, rfl⟩
      rw [List.take_left, List.drop_left]
  · rename_i short
    constructor
    · intro ran
      cases ran
    · rintro ⟨_, rest, rfl, ⟨rfl, rfl⟩, rfl⟩
      rw [List.length_append] at short
      omega

namespace Raises

variable {allowed : ε → Prop} {program : StateT σ (Except ε) α}

theorem pure (value : α) : Raises allowed (pure value : StateT σ (Except ε) α) := by
  intro state fault failed
  cases failed

theorem bind {next : α → StateT σ (Except ε) γ} (first : Raises allowed program)
    (second : ∀ value, Raises allowed (next value)) : Raises allowed (program >>= next) := by
  intro state fault failed
  rcases bind_error_iff.mp failed with early | ⟨value, middle, _, late⟩
  · exact first state fault early
  · exact second value middle fault late

/-- The rule where what follows is safe for the values that the first program can return. -/
theorem bind_of {next : α → StateT σ (Except ε) γ} (returns : α → Prop)
    (first : Raises allowed program)
    (returned : ∀ state value after, program state = .ok (value, after) → returns value)
    (second : ∀ value, returns value → Raises allowed (next value)) :
    Raises allowed (program >>= next) := by
  intro state fault failed
  rcases bind_error_iff.mp failed with early | ⟨value, middle, ran, late⟩
  · exact first state fault early
  · exact second value (returned state value middle ran) middle fault late

theorem refuse {refused : Prop} [Decidable refused] {fault : ε} (named : allowed fault) :
    Raises allowed (Codec.refuse refused fault : StateT σ (Except ε) Unit) := by
  intro state raised failed
  rw [Codec.refuse] at failed
  split at failed
  · cases failed
    exact named
  · cases failed

theorem view (field : σ → α) : Raises allowed (Codec.view field : StateT σ (Except ε) α) := by
  intro state fault failed
  cases failed

theorem octet {next : Nat → StateT σ (Except ε) Octets} {fault : ε}
    (raises : Raises allowed (next 1))
    (some : ∀ state value after, next 1 state = .ok (value, after) → value ≠ []) :
    Raises allowed (octet next fault) := by
  intro state raised failed
  change ((next 1 state).bind fun pair => _) = Except.error raised at failed
  cases ran : next 1 state with
  | error other =>
      rw [ran] at failed
      cases failed
      exact raises state _ ran
  | ok pair =>
      obtain ⟨value, after⟩ := pair
      rw [ran] at failed
      cases value with
      | nil => exact absurd rfl (some state _ after ran)
      | cons byte rest => cases failed

theorem number {next : Nat → StateT σ (Except ε) Octets} {width : Nat}
    (raises : Raises allowed (next width)) : Raises allowed (number next width) :=
  raises.bind fun _ => Raises.pure _

end Raises

end

end Codec
