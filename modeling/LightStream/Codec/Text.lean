import LightStream.Kv.Ordered
import Mathlib.Data.Nat.Digits.Defs

/-! Texts in keys and messages: hexadecimal and decimal numbers, UUIDs and JSON strings.  An
encoding `Splits` when what it writes is split off the front of a longer text in one way only. -/

namespace Codec

open Kv (Bytes)

section Splits

variable {α : Type}

def Splits (Fits : α → Prop) (encode : α → Bytes) : Prop :=
  ∀ first second, Fits first → Fits second → ∀ firstRest secondRest,
    encode first ++ firstRest = encode second ++ secondRest →
      first = second ∧ firstRest = secondRest

variable {Fits : α → Prop} {encode : α → Bytes}

/-- Encodings of one width are split off where they tell their values apart. -/
theorem splits_of_width {width : Nat} (wide : ∀ value, (encode value).length = width)
    (apart : ∀ first second, Fits first → Fits second → encode first = encode second →
      first = second) : Splits Fits encode := by
  intro first second firstFits secondFits firstRest secondRest same
  obtain ⟨heads, rests⟩ := List.append_inj same (by rw [wide, wide])
  exact ⟨apart first second firstFits secondFits heads, rests⟩

end Splits

/-! ### Hexadecimal numbers -/

def hexDigit (digit : Nat) : Nat := if digit < 10 then 48 + digit else 87 + digit

def hexOctets (octets : Bytes) : Bytes :=
  octets.flatMap fun octet => [hexDigit (octet / 16), hexDigit (octet % 16)]

theorem hexDigit_inj {first second : Nat} (same : hexDigit first = hexDigit second) :
    first = second := by
  unfold hexDigit at same
  split at same <;> split at same <;> omega

theorem hexOctets_length (octets : Bytes) : (hexOctets octets).length = 2 * octets.length := by
  induction octets with
  | nil => rfl
  | cons octet rest ih =>
      rw [hexOctets, List.flatMap_cons, List.length_append, ← hexOctets, ih]
      simp only [List.length_cons, List.length_nil]
      omega

theorem hexOctets_inj : ∀ {first second : Bytes}, hexOctets first = hexOctets second →
    first = second := by
  intro first
  induction first with
  | nil =>
      intro second same
      cases second with
      | nil => rfl
      | cons octet rest => cases same
  | cons octet rest ih =>
      intro second same
      cases second with
      | nil => cases same
      | cons other others =>
          rw [hexOctets, hexOctets, List.flatMap_cons, List.flatMap_cons] at same
          simp only [List.cons_append, List.nil_append, List.cons.injEq] at same
          obtain ⟨high, low, same⟩ := same
          have quotient := hexDigit_inj high
          have remainder := hexDigit_inj low
          rw [show octet = other by omega, ih same]

/-- The text of a UUID: its octets in hexadecimal, in groups of four, two, two, two and six. -/
def uuidText (value : Nat) : Bytes :=
  let octets := Kv.bigEndian 16 value
  hexOctets (octets.take 4) ++ 45 :: (hexOctets ((octets.drop 4).take 2) ++
    45 :: (hexOctets ((octets.drop 6).take 2) ++ 45 :: (hexOctets ((octets.drop 8).take 2) ++
      45 :: hexOctets (octets.drop 10))))

theorem uuidText_length (value : Nat) : (uuidText value).length = 36 := by
  simp only [uuidText, List.length_append, List.length_cons, hexOctets_length, List.length_take,
    List.length_drop, Kv.bigEndian_length]
  omega

theorem uuidText_inj {first second : Nat} (firstFits : first < 256 ^ 16)
    (secondFits : second < 256 ^ 16) (same : uuidText first = uuidText second) :
    first = second := by
  have group : ∀ {front front' back back' : Bytes}, front.length = front'.length →
      hexOctets front ++ 45 :: back = hexOctets front' ++ 45 :: back' →
        front = front' ∧ back = back' := by
    intro front front' back back' lengths same
    obtain ⟨heads, rests⟩ := List.append_inj same
      (by rw [hexOctets_length, hexOctets_length, lengths])
    exact ⟨hexOctets_inj heads, (List.cons.inj rests).2⟩
  have width := fun value => Kv.bigEndian_length 16 value
  have lengths : ∀ skipped count, (((Kv.bigEndian 16 first).drop skipped).take count).length =
      (((Kv.bigEndian 16 second).drop skipped).take count).length := by
    intro skipped count
    rw [List.length_take, List.length_take, List.length_drop, List.length_drop, width, width]
  obtain ⟨one, same⟩ := group (lengths 0 4) same
  obtain ⟨two, same⟩ := group (lengths 4 2) same
  obtain ⟨three, same⟩ := group (lengths 6 2) same
  obtain ⟨four, same⟩ := group (lengths 8 2) same
  have five := hexOctets_inj same
  apply Kv.bigEndian_inj firstFits secondFits
  have joined : ∀ octets : Bytes, octets = octets.take 4 ++ ((octets.drop 4).take 2 ++
      ((octets.drop 6).take 2 ++ ((octets.drop 8).take 2 ++ octets.drop 10))) := by
    intro octets
    have piece : ∀ skipped count, (octets.drop skipped).take count ++
        octets.drop (skipped + count) = octets.drop skipped := by
      intro skipped count
      rw [← List.drop_drop, List.take_append_drop]
    rw [piece 8 2, piece 6 2, piece 4 2, List.take_append_drop]
  rw [joined (Kv.bigEndian 16 first), joined (Kv.bigEndian 16 second), two, three, four, five]
  congr 1

theorem uuidText_splits : Splits (fun value => value < 256 ^ 16) uuidText :=
  splits_of_width uuidText_length fun _ _ => uuidText_inj

/-! ### Decimal numbers -/

def decimal (value : Nat) : Bytes := (Nat.toDigits 10 value).map Char.toNat

theorem decimal_inj {first second : Nat} (same : decimal first = decimal second) :
    first = second := by
  have digits : Nat.toDigits 10 first = Nat.toDigits 10 second :=
    List.map_injective_iff.mpr (fun _ _ => Char.toNat_inj.mp) same
  have values := congrArg (fun digits => Nat.ofDigitChars 10 digits 0) digits
  simpa only [Nat.ofDigitChars_ten_toDigits] using values

/-! ### JSON strings -/

/-- A byte of a string as JSON writes it: quotes, backslashes and control characters escaped. -/
def escaped (byte : Nat) : Bytes :=
  if byte = 34 then [92, 34]
  else if byte = 92 then [92, 92]
  else if byte = 8 then [92, 98]
  else if byte = 9 then [92, 116]
  else if byte = 10 then [92, 110]
  else if byte = 12 then [92, 102]
  else if byte = 13 then [92, 114]
  else if byte < 32 then [92, 117, 48, 48, hexDigit (byte / 16), hexDigit (byte % 16)]
  else [byte]

def jsonString (bytes : Bytes) : Bytes := 34 :: (bytes.flatMap escaped ++ [34])

def hexValue (char : Nat) : Nat := if char < 58 then char - 48 else char - 87

theorem hexValue_hexDigit {digit : Nat} (bound : digit < 16) :
    hexValue (hexDigit digit) = digit := by
  unfold hexValue hexDigit
  split <;> split <;> omega

def marked (mark : Nat) : Nat :=
  if mark = 98 then 8 else if mark = 116 then 9 else if mark = 110 then 10
  else if mark = 102 then 12 else if mark = 114 then 13 else mark

def readEscaped : Bytes → Option (Nat × Bytes)
  | [] => none
  | first :: rest =>
    if first ≠ 92 then some (first, rest)
    else
      match rest with
      | [] => none
      | mark :: rest =>
        if mark ≠ 117 then some (marked mark, rest)
        else
          match rest with
          | _ :: _ :: high :: low :: rest => some (16 * hexValue high + hexValue low, rest)
          | _ => none

theorem readEscaped_plain {byte : Nat} (plain : byte ≠ 92) (rest : Bytes) :
    readEscaped (byte :: rest) = some (byte, rest) := by
  simp [readEscaped, plain]

theorem readEscaped_escaped (byte : Nat) (rest : Bytes) :
    readEscaped (escaped byte ++ rest) = some (byte, rest) := by
  unfold escaped
  split_ifs with quote backslash backspace tab newline feed ret control
  · rw [quote]
    rfl
  · rw [backslash]
    rfl
  · rw [backspace]
    rfl
  · rw [tab]
    rfl
  · rw [newline]
    rfl
  · rw [feed]
    rfl
  · rw [ret]
    rfl
  · have high := hexValue_hexDigit (show byte / 16 < 16 by omega)
    have low := hexValue_hexDigit (show byte % 16 < 16 by omega)
    change some (16 * hexValue (hexDigit (byte / 16)) + hexValue (hexDigit (byte % 16)), rest) = _
    rw [high, low, Nat.div_add_mod]
  · exact readEscaped_plain backslash rest

theorem escaped_unquoted {byte : Nat} {rest tail : Bytes} : escaped byte ++ rest ≠ 34 :: tail := by
  intro same
  have read := readEscaped_escaped byte rest
  rw [same, readEscaped_plain (by decide)] at read
  cases read
  cases same

theorem escaped_split {first : Bytes} : ∀ {second firstRest secondRest : Bytes},
    first.flatMap escaped ++ 34 :: firstRest = second.flatMap escaped ++ 34 :: secondRest →
      first = second ∧ firstRest = secondRest := by
  induction first with
  | nil =>
      intro second firstRest secondRest same
      cases second with
      | nil =>
          cases same
          exact ⟨rfl, rfl⟩
      | cons byte rest =>
          rw [List.flatMap_cons, List.append_assoc] at same
          exact absurd same.symm escaped_unquoted
  | cons byte rest ih =>
      intro second firstRest secondRest same
      cases second with
      | nil =>
          rw [List.flatMap_cons, List.append_assoc] at same
          exact absurd same escaped_unquoted
      | cons other others =>
          rw [List.flatMap_cons, List.flatMap_cons, List.append_assoc, List.append_assoc] at same
          have read := congrArg readEscaped same
          rw [readEscaped_escaped, readEscaped_escaped, Option.some.injEq, Prod.mk.injEq] at read
          obtain ⟨rfl, read⟩ := read
          obtain ⟨rfl, rests⟩ := ih read
          exact ⟨rfl, rests⟩

theorem jsonString_splits : Splits (fun _ => True) jsonString := by
  intro first second _ _ firstRest secondRest same
  rw [jsonString, jsonString, List.cons_append, List.cons_append, List.append_assoc,
    List.append_assoc] at same
  exact escaped_split (List.cons.inj same).2

end Codec
