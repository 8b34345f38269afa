import LightStream.Hash.Sha256

/-!
The SHA-256 of the client: `ExportSha256`.  Indexing and slicing that panic in the code give
`none` here; the wrapping arithmetic is that of the fixed-width types.
-/

namespace LightStream

open Sha256 (Octets Word Working)

def setAt {α : Type} {size : Nat} (target : Vector α size) (index : Nat) (value : α) :
    Option (Vector α size) :=
  if bound : index < size then some (target.set index value bound) else none

def copyFromSlice {α : Type} {size : Nat} (target : Vector α size) (start stop : Nat)
    (source : List α) : Option (Vector α size) :=
  if fits : start ≤ stop ∧ stop ≤ size ∧ source.length = stop - start then
    some ⟨(target.toList.take start ++ source ++ target.toList.drop stop).toArray, by
      simp only [List.size_toArray, List.length_append, List.length_take, List.length_drop,
        Vector.length_toList]
      omega⟩
  else none

def fill {α : Type} {size : Nat} (target : Vector α size) (start stop : Nat) (value : α) :
    Option (Vector α size) :=
  copyFromSlice target start stop (List.replicate (stop - start) value)

/-- `u32::from_be_bytes` of a chunk that must have four bytes. -/
def fromBeBytes (chunk : Octets) : Option Word :=
  if chunk.length = 4 then some (Sha256.wordOf chunk) else none

structure ExportSha256 where
  state : Vector Word 8
  len : UInt64
  buffer : Vector UInt8 64
  bufferLen : Nat

namespace ExportSha256

def K : Vector Word 64 := #v[
  0x428a2f98, 0x71374491, 0xb5c0fbcf, 0xe9b5dba5, 0x3956c25b, 0x59f111f1, 0x923f82a4,
  0xab1c5ed5, 0xd807aa98, 0x12835b01, 0x243185be, 0x550c7dc3, 0x72be5d74, 0x80deb1fe,
  0x9bdc06a7, 0xc19bf174, 0xe49b69c1, 0xefbe4786, 0x0fc19dc6, 0x240ca1cc, 0x2de92c6f,
  0x4a7484aa, 0x5cb0a9dc, 0x76f988da, 0x983e5152, 0xa831c66d, 0xb00327c8, 0xbf597fc7,
  0xc6e00bf3, 0xd5a79147, 0x06ca6351, 0x14292967, 0x27b70a85, 0x2e1b2138, 0x4d2c6dfc,
  0x53380d13, 0x650a7354, 0x766a0abb, 0x81c2c92e, 0x92722c85, 0xa2bfe8a1, 0xa81a664b,
  0xc24b8b70, 0xc76c51a3, 0xd192e819, 0xd6990624, 0xf40e3585, 0x106aa070, 0x19a4c116,
  0x1e376c08, 0x2748774c, 0x34b0bcb5, 0x391c0cb3, 0x4ed8aa4a, 0x5b9cca4f, 0x682e6ff3,
  0x748f82ee, 0x78a5636f, 0x84c87814, 0x8cc70208, 0x90befffa, 0xa4506ceb, 0xbef9a3f7,
  0xc67178f2]

def new : ExportSha256 where
  state := #v[
    0x6a09e667, 0xbb67ae85, 0x3c6ef372, 0xa54ff53a, 0x510e527f, 0x9b05688c, 0x1f83d9ab,
    0x5be0cd19]
  len := 0
  buffer := Vector.replicate 64 0
  bufferLen := 0

def scheduled (schedule : Vector Word 64) (index : Nat) : Option Word := do
  let later ← schedule[index - 15]?
  let earlier ← schedule[index - 2]?
  let first ← schedule[index - 16]?
  let middle ← schedule[index - 7]?
  let s0 := Sha256.rotr 7 later ^^^ Sha256.rotr 18 later ^^^ later >>> 3
  let s1 := Sha256.rotr 17 earlier ^^^ Sha256.rotr 19 earlier ^^^ earlier >>> 10
  pure (first + s0 + middle + s1)

def rounded (locals : Working) (word constant : Word) : Working :=
  let sum1 := Sha256.rotr 6 locals.e ^^^ Sha256.rotr 11 locals.e ^^^ Sha256.rotr 25 locals.e
  let ch := (locals.e &&& locals.f) ^^^ (~~~locals.e &&& locals.g)
  let temp1 := locals.h + sum1 + ch + constant + word
  let sum0 := Sha256.rotr 2 locals.a ^^^ Sha256.rotr 13 locals.a ^^^ Sha256.rotr 22 locals.a
  let maj := (locals.a &&& locals.b) ^^^ (locals.a &&& locals.c) ^^^ (locals.b &&& locals.c)
  let temp2 := sum0 + maj
  { h := locals.g, g := locals.f, f := locals.e, e := locals.d + temp1, d := locals.c,
    c := locals.b, b := locals.a, a := temp1 + temp2 }

def compress (hash : ExportSha256) (block : Vector UInt8 64) : Option ExportSha256 := do
  let loaded ← ((Sha256.chunks 4 block.toList).zipIdx.take 16).foldlM
    (fun schedule item => do setAt schedule item.2 (← fromBeBytes item.1))
    (Vector.replicate 64 0 : Vector Word 64)
  let schedule ← (List.range' 16 48).foldlM
    (fun schedule index => do setAt schedule index (← scheduled schedule index)) loaded
  let locals ← schedule.toList.zipIdx.foldlM
    (fun locals item => do pure (rounded locals item.1 (← K[item.2]?)))
    (Working.ofState hash.state)
  pure { hash with state := hash.state.zipWith (· + ·) locals.toState }

/-- The first branch of `update`: what was buffered is filled up, and compressed once whole. -/
def topUp (hash : ExportSha256) (input : Octets) : Option (ExportSha256 × Octets) :=
  if hash.bufferLen ≠ 0 then do
    let needed ← if hash.bufferLen ≤ 64 then some (64 - hash.bufferLen) else none
    let take := min needed input.length
    let buffer ← copyFromSlice hash.buffer hash.bufferLen (hash.bufferLen + take) (input.take take)
    let filled := { hash with buffer, bufferLen := hash.bufferLen + take }
    if filled.bufferLen = 64 then
      let compressed ← filled.compress filled.buffer
      pure ({ compressed with bufferLen := 0 }, input.drop take)
    else pure (filled, input.drop take)
  else some (hash, input)

def absorb (hash : ExportSha256) (input : Octets) : Option (ExportSha256 × Octets) :=
  if 64 ≤ input.length then do
    let block ← copyFromSlice (Vector.replicate 64 0) 0 64 (input.take 64)
    let compressed ← hash.compress block
    compressed.absorb (input.drop 64)
  else some (hash, input)
termination_by input.length
decreasing_by
  rw [List.length_drop]
  omega

def update (hash : ExportSha256) (input : Octets) : Option ExportSha256 := do
  let counted := { hash with len := hash.len + UInt64.ofNat input.length }
  let (topped, rest) ← counted.topUp input
  let (absorbed, rest) ← topped.absorb rest
  if rest ≠ [] then
    let buffer ← copyFromSlice absorbed.buffer 0 rest.length rest
    pure { absorbed with buffer, bufferLen := rest.length }
  else pure absorbed

def closeBlock (hash : ExportSha256) : Option ExportSha256 :=
  if hash.bufferLen > 56 then do
    let buffer ← fill hash.buffer hash.bufferLen 64 0
    let compressed ← { hash with buffer }.compress buffer
    pure { compressed with bufferLen := 0 }
  else some hash

def finalize (hash : ExportSha256) : Option Octets := do
  let bitLen := hash.len * 8
  let marked ← setAt hash.buffer hash.bufferLen 0x80
  let closed ← { hash with buffer := marked, bufferLen := hash.bufferLen + 1 }.closeBlock
  let cleared ← fill closed.buffer closed.bufferLen 56 0
  let buffer ← copyFromSlice cleared 56 64 (Sha256.octetsOf 8 bitLen.toNat)
  let compressed ← { closed with buffer }.compress buffer
  pure (Sha256.digestOf compressed.state)

/-- The digest of a message that comes in chunks: `update` for each, then `finalize`. -/
def digestChunks (chunks : List Octets) : Option Octets := do
  (← chunks.foldlM update new).finalize

end ExportSha256

end LightStream
