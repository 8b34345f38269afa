import Mathlib.Data.Nat.Prime.Defs
import Mathlib.Data.List.Range
import LightStream.Kv.Ordered

/-!
SHA-256 as FIPS 180-4 describes it: the functions of section 4.1.2, the constants of sections
4.2.2 and 5.3.3, the padding of section 5.1.1 and the hash of section 6.2.  A message is a list of
octets; the length field holds the bit length modulo 2 ^ 64.
-/

namespace Sha256

abbrev Word := UInt32
abbrev Octets := List UInt8

/-! ### Words and octets -/

def octetsOf (width value : Nat) : Octets := (Kv.bigEndian width value).map UInt8.ofNat

def wordOf (octets : Octets) : Word :=
  UInt32.ofNat (octets.foldl (fun value octet => value * 256 + octet.toNat) 0)

def rotr (count value : Word) : Word := value >>> count ||| value <<< (32 - count)

def ch (x y z : Word) : Word := (x &&& y) ^^^ (~~~x &&& z)
def maj (x y z : Word) : Word := (x &&& y) ^^^ (x &&& z) ^^^ (y &&& z)
def upperSigma0 (x : Word) : Word := rotr 2 x ^^^ rotr 13 x ^^^ rotr 22 x
def upperSigma1 (x : Word) : Word := rotr 6 x ^^^ rotr 11 x ^^^ rotr 25 x
def sigma0 (x : Word) : Word := rotr 7 x ^^^ rotr 18 x ^^^ x >>> 3
def sigma1 (x : Word) : Word := rotr 17 x ^^^ rotr 19 x ^^^ x >>> 10

/-! ### Constants -/

def rootFrom (degree radicand : Nat) : Nat → Nat → Nat
  | 0, root => root
  | bit + 1, root =>
      if (root + 2 ^ bit) ^ degree ≤ radicand then rootFrom degree radicand bit (root + 2 ^ bit)
      else rootFrom degree radicand bit root

def integerRoot (degree radicand bits : Nat) : Nat := rootFrom degree radicand bits 0

/-- The first 32 bits of the fractional part of a root of a number below 2 ^ 16. -/
def fractionBits (degree number : Nat) : Word :=
  UInt32.ofNat (integerRoot degree (number * 2 ^ (32 * degree)) 48)

def primesBelow (bound : Nat) : List Nat :=
  (List.range bound).filter fun number =>
    decide (2 ≤ number) && (List.range number).all fun divisor =>
      decide (divisor < 2) || decide (number % divisor ≠ 0)

/-- The cube roots of the first sixty-four primes. -/
def constants : List Word := (primesBelow 312).map (fractionBits 3)

/-- The square roots of the first eight primes. -/
def initial : Vector Word 8 :=
  Vector.ofFn fun index => fractionBits 2 ((primesBelow 20).getD index 0)

/-! ### The message -/

def zeros (length : Nat) : Nat := (64 + 55 - length % 64) % 64

def padding (length : Nat) : Octets :=
  0x80 :: (List.replicate (zeros length) 0 ++ octetsOf 8 (8 * length))

def pad (message : Octets) : Octets := message ++ padding message.length

def chunks (size : Nat) (octets : Octets) : List Octets :=
  (List.range (octets.length / size)).map fun index => (octets.drop (size * index)).take size

abbrev blocks (octets : Octets) : List Octets := chunks 64 octets

theorem chunks_length (size : Nat) (octets : Octets) :
    (chunks size octets).length = octets.length / size := by
  simp [chunks]

theorem chunks_append {size : Nat} (positive : 0 < size) {first : Octets}
    (whole : size ∣ first.length) (second : Octets) :
    chunks size (first ++ second) = chunks size first ++ chunks size second := by
  obtain ⟨count, length⟩ := whole
  have total : (first ++ second).length / size = count + second.length / size := by
    rw [List.length_append, length, Nat.mul_add_div positive]
  rw [chunks, chunks, chunks, total, length, Nat.mul_div_cancel_left _ positive,
    List.range_add, List.map_append, List.map_map]
  congr 1
  · apply List.map_congr_left
    intro index member
    have bound : index < count := List.mem_range.mp member
    have room : size * index + size ≤ first.length := by
      rw [length, ← Nat.mul_succ]
      exact Nat.mul_le_mul_left _ bound
    rw [List.drop_append_of_le_length (by omega),
      List.take_append_of_le_length (by rw [List.length_drop]; omega)]
  · apply List.map_congr_left
    intro index _
    have behind : size * (count + index) = first.length + size * index := by
      rw [length, Nat.mul_add]
    rw [Function.comp_apply, behind, ← List.drop_drop, List.drop_left]

theorem chunks_single {size : Nat} (positive : 0 < size) {octets : Octets}
    (whole : octets.length = size) : chunks size octets = [octets] := by
  rw [chunks, whole, Nat.div_self positive]
  simp [← whole]

theorem length_of_mem_chunks {size : Nat} {octets chunk : Octets}
    (member : chunk ∈ chunks size octets) : chunk.length = size := by
  rw [chunks, List.mem_map] at member
  obtain ⟨index, inside, rfl⟩ := member
  have bound : index < octets.length / size := List.mem_range.mp inside
  have room := Nat.mul_le_of_le_div size (index + 1) octets.length bound
  rw [Nat.add_mul, Nat.one_mul, Nat.mul_comm index] at room
  rw [List.length_take, List.length_drop]
  omega

theorem octetsOf_length (width value : Nat) : (octetsOf width value).length = width := by
  rw [octetsOf, List.length_map, Kv.bigEndian_length]

/-! ### The hash -/

def extend (words : List Word) : List Word :=
  words ++ [sigma1 (words.getD (words.length - 2) 0) + words.getD (words.length - 7) 0 +
    sigma0 (words.getD (words.length - 15) 0) + words.getD (words.length - 16) 0]

theorem extend_length (words : List Word) : (extend words).length = words.length + 1 := by
  rw [extend, List.length_append, List.length_singleton]

theorem extend_iterate_length (count : Nat) (words : List Word) :
    (extend^[count] words).length = words.length + count := by
  induction count generalizing words with
  | zero => rfl
  | succ count ih =>
      rw [Function.iterate_succ_apply, ih, extend_length]
      omega

/-- The message schedule: the words of a block and the forty-eight that follow from them. -/
def schedule (block : Octets) : List Word := extend^[48] ((chunks 4 block).map wordOf)

structure Working where
  a : Word
  b : Word
  c : Word
  d : Word
  e : Word
  f : Word
  g : Word
  h : Word

def Working.ofState (state : Vector Word 8) : Working :=
  ⟨state[0], state[1], state[2], state[3], state[4], state[5], state[6], state[7]⟩

def Working.toState (working : Working) : Vector Word 8 :=
  #v[working.a, working.b, working.c, working.d, working.e, working.f, working.g, working.h]

def round (working : Working) (step : Word × Word) : Working :=
  let first :=
    working.h + upperSigma1 working.e + ch working.e working.f working.g + step.1 + step.2
  let second := upperSigma0 working.a + maj working.a working.b working.c
  ⟨first + second, working.a, working.b, working.c, working.d + first, working.e, working.f,
    working.g⟩

def compress (state : Vector Word 8) (block : Octets) : Vector Word 8 :=
  let worked := (constants.zip (schedule block)).foldl round (Working.ofState state)
  state.zipWith (· + ·) worked.toState

def digestOf (state : Vector Word 8) : Octets :=
  state.toList.flatMap fun word => octetsOf 4 word.toNat

def chained (octets : Octets) : Vector Word 8 := (blocks octets).foldl compress initial

theorem chained_append {first block : Octets} (whole : 64 ∣ first.length)
    (one : block.length = 64) : chained (first ++ block) = compress (chained first) block := by
  rw [chained, blocks, chunks_append (by decide) whole, chunks_single (by decide) one,
    List.foldl_append]
  rfl

def digest (message : Octets) : Octets := digestOf (chained (pad message))

theorem digest_length (message : Octets) : (digest message).length = 32 := by
  have words : ∀ words : List Word,
      (words.flatMap fun word => octetsOf 4 word.toNat).length = 4 * words.length := by
    intro words
    induction words with
    | nil => rfl
    | cons word rest ih =>
        rw [List.flatMap_cons, List.length_append, octetsOf_length, ih, List.length_cons]
        omega
  rw [digest, digestOf, words, Vector.length_toList]

-- the digest of "abc"
example : digest [97, 98, 99] =
    [0xba, 0x78, 0x16, 0xbf, 0x8f, 0x01, 0xcf, 0xea, 0x41, 0x41, 0x40, 0xde, 0x5d, 0xae, 0x22, 0x23,
      0xb0, 0x03, 0x61, 0xa3, 0x96, 0x17, 0x7a, 0x9c, 0xb4, 0x10, 0xff, 0x61, 0xf2, 0x00, 0x15,
      0xad] := by decide +kernel

end Sha256
