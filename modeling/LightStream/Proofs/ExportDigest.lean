import LightStream.Client.ExportHash

/-!
The client's incremental SHA-256 is SHA-256: `compress` is one block of the hash, `update` keeps
the hash of the whole blocks and the octets behind them, and `finalize` adds the padding.
-/

namespace LightStream

open Sha256 (Octets Word Working)

section Cells

variable {α : Type} {size : Nat}

theorem copyFromSlice_some {target : Vector α size} {start stop : Nat} {source : List α}
    (ordered : start ≤ stop) (inside : stop ≤ size) (whole : source.length = stop - start) :
    ∃ copied, copyFromSlice target start stop source = some copied ∧
      copied.toList = target.toList.take start ++ source ++ target.toList.drop stop := by
  rw [copyFromSlice, dif_pos ⟨ordered, inside, whole⟩]
  exact ⟨_, rfl, rfl⟩

theorem fill_some {target : Vector α size} {start stop : Nat} {value : α}
    (ordered : start ≤ stop) (inside : stop ≤ size) :
    ∃ filled, fill target start stop value = some filled ∧
      filled.toList = target.toList.take start ++ List.replicate (stop - start) value ++
        target.toList.drop stop := by
  apply copyFromSlice_some ordered inside
  rw [List.length_replicate]

def Filled (cells : Vector α size) (items : List α) : Prop :=
  cells.toList.take items.length = items

theorem Filled.set {cells : Vector α size} {items : List α} (filled : Filled cells items)
    (room : items.length < size) (value : α) :
    ∃ next, setAt cells items.length value = some next ∧ Filled next (items ++ [value]) := by
  rw [setAt, dif_pos room]
  refine ⟨_, rfl, ?_⟩
  rw [Filled, List.length_append, List.length_singleton, Vector.toList_set,
    List.take_set, List.take_add_one]
  rw [Filled] at filled
  have bound : items.length < cells.toList.length := by rwa [Vector.length_toList]
  rw [filled, List.getElem?_eq_getElem bound, Option.toList_some,
    List.set_append_right _ _ (Nat.le_refl _), Nat.sub_self, List.set_cons_zero]

theorem Filled.read {cells : Vector α size} {items : List α} (filled : Filled cells items)
    {index : Nat} (inside : index < items.length) (default : α) :
    cells[index]? = some (items.getD index default) := by
  have stored : cells.toList[index]? = items[index]? := by
    rw [← List.getElem?_take_of_lt inside, filled]
  rw [← Vector.getElem?_toList, stored, List.getD_eq_getElem?_getD,
    List.getElem?_eq_getElem inside, Option.getD_some]

end Cells

namespace ExportSha256

/-! ### One block -/

theorem K_constants : K.toList = Sha256.constants := by decide +kernel

theorem new_initial : new.state = Sha256.initial := by decide +kernel

theorem load_some (chunks : List Octets) (sized : ∀ chunk ∈ chunks, chunk.length = 4) :
    ∀ {cells : Vector Word 64} {words : List Word}, Filled cells words →
      words.length + chunks.length ≤ 64 →
      ∃ loaded, (chunks.zipIdx words.length).foldlM
          (fun schedule item => do setAt schedule item.2 (← fromBeBytes item.1)) cells =
        some loaded ∧ Filled loaded (words ++ chunks.map Sha256.wordOf) := by
  induction chunks with
  | nil =>
      intro cells words filled _
      exact ⟨cells, rfl, by rwa [List.map_nil, List.append_nil]⟩
  | cons chunk rest ih =>
      intro cells words filled room
      rw [List.length_cons] at room
      have four : chunk.length = 4 := sized chunk List.mem_cons_self
      obtain ⟨next, set, filled⟩ := filled.set (by omega) (Sha256.wordOf chunk)
      obtain ⟨loaded, onward, filled⟩ := ih (fun other member =>
        sized other (List.mem_cons_of_mem _ member)) filled (by
          rw [List.length_append, List.length_singleton]
          omega)
      refine ⟨loaded, ?_, by rwa [List.append_assoc] at filled⟩
      rw [List.length_append, List.length_singleton] at onward
      rw [List.zipIdx_cons, List.foldlM_cons, fromBeBytes, if_pos four, Option.bind_eq_bind,
        Option.bind_eq_bind, Option.bind_some, set, Option.bind_some]
      exact onward

theorem scheduled_some {cells : Vector Word 64} {words : List Word} (filled : Filled cells words)
    (sixteen : 16 ≤ words.length) :
    ∃ word, scheduled cells words.length = some word ∧ Sha256.extend words = words ++ [word] := by
  rw [scheduled, filled.read (show words.length - 15 < words.length by omega) 0,
    filled.read (show words.length - 2 < words.length by omega) 0,
    filled.read (show words.length - 16 < words.length by omega) 0,
    filled.read (show words.length - 7 < words.length by omega) 0]
  refine ⟨_, rfl, ?_⟩
  rw [Sha256.extend, Sha256.sigma0, Sha256.sigma1]
  congr 2
  -- the code adds the four terms in the opposite order
  ac_rfl

theorem extend_some (count : Nat) : ∀ {cells : Vector Word 64} {words : List Word},
    Filled cells words → 16 ≤ words.length → words.length + count ≤ 64 →
    ∃ extended, (List.range' words.length count).foldlM
        (fun schedule index => do setAt schedule index (← scheduled schedule index)) cells =
      some extended ∧ Filled extended (Sha256.extend^[count] words) := by
  induction count with
  | zero =>
      intro cells words filled _ _
      exact ⟨cells, rfl, filled⟩
  | succ count ih =>
      intro cells words filled sixteen room
      obtain ⟨word, read, extended⟩ := scheduled_some filled sixteen
      obtain ⟨next, set, filled⟩ := filled.set (by omega) word
      rw [← extended] at filled
      obtain ⟨last, rest, filled⟩ := ih filled
        (by rw [Sha256.extend_length]; omega) (by rw [Sha256.extend_length]; omega)
      refine ⟨last, ?_, by rwa [Function.iterate_succ_apply]⟩
      rw [Sha256.extend_length] at rest
      rw [List.range'_succ, List.foldlM_cons, read, Option.bind_eq_bind, Option.bind_eq_bind,
        Option.bind_some, set, Option.bind_some]
      exact rest

theorem rounded_eq (locals : Working) (word constant : Word) :
    rounded locals word constant = Sha256.round locals (constant, word) := rfl

theorem rounds_some (words : List Word) : ∀ (start : Nat) (locals : Working),
    start + words.length ≤ 64 →
    (words.zipIdx start).foldlM
        (fun locals item => do pure (rounded locals item.1 (← K[item.2]?))) locals =
      some (((K.toList.drop start).zip words).foldl Sha256.round locals) := by
  induction words with
  | nil =>
      intro start locals _
      rw [List.zip_nil_right]
      rfl
  | cons word rest ih =>
      intro start locals room
      rw [List.length_cons] at room
      have bound : start < K.toList.length := by
        rw [Vector.length_toList]
        omega
      have read : K[start]? = some K.toList[start] := by
        rw [← Vector.getElem?_toList, List.getElem?_eq_getElem bound]
      have onward := ih (start + 1) (rounded locals word K.toList[start]) (by omega)
      rw [List.drop_eq_getElem_cons bound, List.zip_cons_cons, List.foldl_cons, ← rounded_eq]
      rw [List.zipIdx_cons, List.foldlM_cons, read, Option.bind_eq_bind, Option.bind_eq_bind,
        Option.bind_some]
      exact onward

theorem compress_some (hash : ExportSha256) (block : Vector UInt8 64) :
    hash.compress block =
      some { hash with state := Sha256.compress hash.state block.toList } := by
  have sixteen : (Sha256.chunks 4 block.toList).length = 16 := by
    rw [Sha256.chunks_length, Vector.length_toList]
  have empty : Filled (Vector.replicate 64 (0 : Word)) [] := rfl
  obtain ⟨loaded, load, filled⟩ := load_some (Sha256.chunks 4 block.toList)
    (fun _ => Sha256.length_of_mem_chunks) empty (by rw [sixteen]; decide)
  rw [List.nil_append] at filled
  rw [List.length_nil] at load
  have start : ((Sha256.chunks 4 block.toList).map Sha256.wordOf).length = 16 := by
    rw [List.length_map, sixteen]
  obtain ⟨extended, extend, filled⟩ := extend_some 48 filled (by omega) (by omega)
  have whole : extended.toList = Sha256.schedule block.toList := by
    have length := Sha256.extend_iterate_length 48
      ((Sha256.chunks 4 block.toList).map Sha256.wordOf)
    rw [Filled, length, start, List.take_of_length_le (by rw [Vector.length_toList])] at filled
    exact filled
  have every : (Sha256.chunks 4 block.toList).zipIdx.take 16 =
      (Sha256.chunks 4 block.toList).zipIdx := by
    apply List.take_of_length_le
    rw [List.length_zipIdx, sixteen]
  rw [start] at extend
  rw [compress, every, load, Option.bind_eq_bind, Option.bind_some, extend, Option.bind_eq_bind,
    Option.bind_some, rounds_some _ 0 _ (by rw [Vector.length_toList]), Option.bind_some,
    List.drop_zero, K_constants, whole]
  rfl

/-! ### The message -/

structure Holds (hash : ExportSha256) (first rest : Octets) : Prop where
  whole : 64 ∣ first.length
  state : hash.state = Sha256.chained first
  bufferLen : hash.bufferLen = rest.length
  short : rest.length < 64
  buffer : Filled hash.buffer rest

theorem holds_new : Holds new [] [] where
  whole := Nat.dvd_zero _
  state := new_initial
  bufferLen := rfl
  short := by decide
  buffer := rfl

theorem compress_block {hash : ExportSha256} {first octets : Octets} {block : Vector UInt8 64}
    (whole : 64 ∣ first.length) (state : hash.state = Sha256.chained first)
    (contents : block.toList = octets) :
    hash.compress block = some { hash with state := Sha256.chained (first ++ octets) } := by
  have one : octets.length = 64 := by rw [← contents, Vector.length_toList]
  rw [compress_some, state, contents, Sha256.chained_append whole one]

theorem absorb_some (hash : ExportSha256) (first input : Octets) (whole : 64 ∣ first.length)
    (state : hash.state = Sha256.chained first) :
    ∃ blocks left, input = blocks ++ left ∧ 64 ∣ blocks.length ∧ left.length < 64 ∧
      hash.absorb input = some ({ hash with state := Sha256.chained (first ++ blocks) }, left) := by
  by_cases enough : 64 ≤ input.length
  · have sixtyFour : (input.take 64).length = 64 := by
      rw [List.length_take]
      omega
    obtain ⟨block, copied, contents⟩ := @copyFromSlice_some _ _ (Vector.replicate 64 0) 0 64
      (input.take 64) (by omega) (by omega) (by omega)
    rw [List.take_zero, List.nil_append, List.drop_of_length_le (by rw [Vector.length_toList]),
      List.append_nil] at contents
    have further : 64 ∣ (first ++ input.take 64).length := by
      rw [List.length_append, sixtyFour]
      exact Nat.dvd_add whole (Nat.dvd_refl _)
    obtain ⟨blocks, left, split, count, short, absorbed⟩ := absorb_some
      { hash with state := Sha256.chained (first ++ input.take 64) } _ (input.drop 64) further rfl
    refine ⟨input.take 64 ++ blocks, left, ?_, ?_, short, ?_⟩
    · rw [List.append_assoc, ← split, List.take_append_drop]
    · rw [List.length_append, sixtyFour]
      exact Nat.dvd_add (Nat.dvd_refl _) count
    · rw [absorb, if_pos enough, copied, Option.bind_eq_bind, Option.bind_some,
        compress_block whole state contents, Option.bind_eq_bind, Option.bind_some, absorbed,
        List.append_assoc]
  · refine ⟨[], input, rfl, Nat.dvd_zero _, by omega, ?_⟩
    rw [absorb, if_neg enough, List.append_nil, ← state]
termination_by input.length
decreasing_by
  rw [List.length_drop]
  omega

theorem topUp_some {hash : ExportSha256} {first rest : Octets} (holds : hash.Holds first rest)
    (input : Octets) : ∃ next hashed held left, hash.topUp input = some (next, left) ∧
      first ++ rest ++ input = hashed ++ held ++ left ∧ next.Holds hashed held ∧
      next.len = hash.len ∧ (held = [] ∨ left = []) := by
  obtain ⟨whole, state, bufferLen, short, buffer⟩ := holds
  by_cases empty : rest = []
  · subst empty
    refine ⟨hash, first, [], input, ?_, rfl, ⟨whole, state, bufferLen, short, buffer⟩, rfl,
      .inl rfl⟩
    rw [topUp, if_neg (by rw [bufferLen, List.length_nil]; exact not_not.mpr rfl)]
  · have begun : hash.bufferLen ≠ 0 := by
      rw [bufferLen]
      exact fun none => empty (List.length_eq_zero_iff.mp none)
    obtain ⟨take, taking⟩ : ∃ take, take = min (64 - hash.bufferLen) input.length := ⟨_, rfl⟩
    have taken : (input.take take).length = take := by
      rw [List.length_take]
      omega
    obtain ⟨copy, copied, contents⟩ := @copyFromSlice_some _ _ hash.buffer hash.bufferLen
      (hash.bufferLen + take) (input.take take) (by omega) (by omega) (by omega)
    rw [Filled, ← bufferLen] at buffer
    rw [buffer] at contents
    have split : first ++ rest ++ input = first ++ (rest ++ input.take take) ++ input.drop take := by
      rw [List.append_assoc, List.append_assoc, List.append_assoc, List.take_append_drop]
    have together : (rest ++ input.take take).length = hash.bufferLen + take := by
      rw [List.length_append, taken, bufferLen]
    by_cases full : hash.bufferLen + take = 64
    · rw [full] at copied
      rw [full, List.drop_of_length_le (by rw [Vector.length_toList]), List.append_nil] at contents
      have compressed := @compress_block { hash with buffer := copy, bufferLen := 64 } _ _ _
        whole state contents
      refine ⟨{ hash with
        state := Sha256.chained (first ++ (rest ++ input.take take)), buffer := copy,
        bufferLen := 0 }, first ++ (rest ++ input.take take), [], input.drop take, ?_, ?_,
        ⟨?_, rfl, rfl, by decide, rfl⟩, rfl, .inl rfl⟩
      · simp only [topUp, if_pos begun, if_pos (show hash.bufferLen ≤ 64 by omega),
          Option.bind_eq_bind, Option.bind_some, ← taking, copied, Option.pure_def, full, if_true,
          compressed]
      · rw [List.append_nil, split]
      · rw [List.length_append, together, full]
        exact Nat.dvd_add whole (Nat.dvd_refl _)
    · have all : input.drop take = [] := List.drop_of_length_le (by omega)
      refine ⟨{ hash with buffer := copy, bufferLen := hash.bufferLen + take }, first,
        rest ++ input.take take, [], ?_, ?_, ⟨whole, state, together.symm, by omega, ?_⟩, rfl,
        .inr rfl⟩
      · simp only [topUp, if_pos begun, if_pos (show hash.bufferLen ≤ 64 by omega),
          Option.bind_eq_bind, Option.bind_some, ← taking, copied, Option.pure_def, if_neg full, all]
      · rw [split, all]
      · rw [Filled, contents, List.take_left]

theorem update_some {hash : ExportSha256} {first rest : Octets} (holds : hash.Holds first rest)
    (input : Octets) : ∃ next hashed held, hash.update input = some next ∧
      first ++ rest ++ input = hashed ++ held ∧ next.Holds hashed held ∧
      next.len = hash.len + UInt64.ofNat input.length := by
  have counted : Holds { hash with len := hash.len + UInt64.ofNat input.length } first rest :=
    ⟨holds.whole, holds.state, holds.bufferLen, holds.short, holds.buffer⟩
  obtain ⟨topped, hashed, held, left, toppedUp, split, kept, len, done⟩ := topUp_some counted input
  obtain ⟨blocks, tail, parts, whole, short, absorbed⟩ :=
    absorb_some topped hashed left kept.whole kept.state
  have exchange : held ++ blocks = blocks ++ held := by
    rcases done with rfl | rfl
    · rw [List.nil_append, List.append_nil]
    · obtain ⟨rfl, _⟩ := List.append_eq_nil_iff.mp parts.symm
      rw [List.nil_append, List.append_nil]
  have further : 64 ∣ (hashed ++ blocks).length := by
    rw [List.length_append]
    exact Nat.dvd_add kept.whole whole
  by_cases used : tail = []
  · subst used
    refine ⟨{ topped with state := Sha256.chained (hashed ++ blocks) }, hashed ++ blocks, held, ?_,
      ?_, ⟨further, rfl, kept.bufferLen, kept.short, kept.buffer⟩, len⟩
    · rw [update, toppedUp, Option.bind_eq_bind, Option.bind_some]
      simp only [absorbed, Option.bind_eq_bind, Option.bind_some, ne_eq, not_true_eq_false,
        if_false, Option.pure_def]
    · rw [split, parts, List.append_nil, List.append_assoc, List.append_assoc, exchange]
  · have unbuffered : held = [] := by
      rcases done with none | none
      · exact none
      · rw [none] at parts
        exact absurd (List.append_eq_nil_iff.mp parts.symm).2 used
    subst unbuffered
    obtain ⟨buffer, copied, contents⟩ := @copyFromSlice_some _ _ topped.buffer 0 tail.length tail
      (Nat.zero_le _) (by omega) (by omega)
    refine ⟨{ topped with state := Sha256.chained (hashed ++ blocks), buffer, bufferLen :=
      tail.length }, hashed ++ blocks, tail, ?_, ?_, ⟨further, rfl, rfl, short, ?_⟩, len⟩
    · rw [update, toppedUp, Option.bind_eq_bind, Option.bind_some]
      simp only [absorbed, Option.bind_eq_bind, Option.bind_some, ne_eq, used, not_false_eq_true,
        if_true, copied, Option.pure_def]
    · rw [split, parts, List.append_nil, List.append_assoc]
    · rw [Filled, contents, List.take_zero, List.nil_append, List.take_left]

theorem octetsOf_bitLen (length : Nat) :
    Sha256.octetsOf 8 (UInt64.ofNat length * 8).toNat = Sha256.octetsOf 8 (8 * length) := by
  have wrapped : (UInt64.ofNat length * 8).toNat = 8 * length % 256 ^ 8 := by
    rw [UInt64.toNat_mul, UInt64.toNat_ofNat']
    change length % 2 ^ 64 * 8 % 2 ^ 64 = 8 * length % 2 ^ 64
    omega
  rw [Sha256.octetsOf, Sha256.octetsOf, wrapped, Kv.bigEndian_mod (Nat.le_refl 8)]

theorem last_block {hash : ExportSha256} {first items length : Octets}
    (whole : 64 ∣ first.length) (state : hash.state = Sha256.chained first)
    (bufferLen : hash.bufferLen = items.length) (room : items.length ≤ 56)
    (buffer : Filled hash.buffer items) (eight : length.length = 8) :
    ∃ cleared filled, fill hash.buffer hash.bufferLen 56 0 = some cleared ∧
      copyFromSlice cleared 56 64 length = some filled ∧
      ({ hash with buffer := filled } : ExportSha256).compress filled = some { hash with
        buffer := filled
        state := Sha256.chained
          (first ++ (items ++ List.replicate (56 - items.length) 0 ++ length)) } := by
  obtain ⟨cleared, clear, zeroed⟩ := @fill_some _ _ hash.buffer hash.bufferLen 56 0
    (by omega) (by omega)
  obtain ⟨filled, copied, contents⟩ := @copyFromSlice_some _ _ cleared 56 64 length
    (by omega) (by omega) (by omega)
  refine ⟨cleared, filled, clear, copied, compress_block whole state ?_⟩
  rw [Filled] at buffer
  have upTo : (items ++ List.replicate (56 - items.length) (0 : UInt8)).length = 56 := by
    rw [List.length_append, List.length_replicate]
    omega
  rw [contents, zeroed, bufferLen, buffer, List.take_left' upTo,
    List.drop_of_length_le (by rw [List.length_append, upTo, List.length_drop,
      Vector.length_toList]), List.append_nil]

theorem finalize_some {hash : ExportSha256} {first rest : Octets} (holds : hash.Holds first rest)
    (len : hash.len = UInt64.ofNat (first ++ rest).length) :
    hash.finalize = some (Sha256.digest (first ++ rest)) := by
  obtain ⟨whole, state, bufferLen, short, buffer⟩ := holds
  obtain ⟨marked, mark, contents⟩ := buffer.set short 0x80
  have remainder : (first ++ rest).length % 64 = rest.length := by
    rw [List.length_append]
    omega
  have markedLength : (rest ++ [(0x80 : UInt8)]).length = rest.length + 1 := by
    rw [List.length_append, List.length_singleton]
  have field : Sha256.octetsOf 8 (hash.len * 8).toNat =
      Sha256.octetsOf 8 (8 * (first ++ rest).length) := by
    rw [len, octetsOf_bitLen]
  rw [finalize, bufferLen, mark, Option.bind_eq_bind, Option.bind_some, field]
  by_cases long : rest.length + 1 > 56
  · obtain ⟨block, filled, stored⟩ := @fill_some _ _ marked (rest.length + 1) 64 0
      (by omega) (by omega)
    have zeros : Sha256.zeros (first ++ rest).length = 64 - (rest.length + 1) + 56 := by
      rw [Sha256.zeros, remainder]
      omega
    rw [Filled, markedLength] at contents
    rw [contents, List.drop_of_length_le (by rw [Vector.length_toList]), List.append_nil] at stored
    have compressed := @compress_block { hash with buffer := block, bufferLen := rest.length + 1 }
      _ _ _ whole state stored
    have further : 64 ∣ (first ++ (rest ++ [(0x80 : UInt8)] ++
        List.replicate (64 - (rest.length + 1)) 0)).length := by
      rw [List.length_append, ← stored, Vector.length_toList]
      exact Nat.dvd_add whole (Nat.dvd_refl _)
    obtain ⟨cleared, last, clear, copy, done⟩ := @last_block
      { hash with state := Sha256.chained (first ++ (rest ++ [0x80] ++
          List.replicate (64 - (rest.length + 1)) 0)), buffer := block, bufferLen := 0 }
      _ [] (Sha256.octetsOf 8 (8 * (first ++ rest).length)) further rfl rfl (by decide) rfl
      (Sha256.octetsOf_length 8 _)
    simp only [closeBlock, if_pos long, filled, compressed, Option.bind_eq_bind, Option.bind_some,
      Option.pure_def, clear, copy, done]
    rw [Sha256.digest, Sha256.pad, Sha256.padding, zeros, ← List.replicate_append_replicate]
    simp only [List.append_assoc, List.cons_append, List.nil_append, List.length_nil,
      Nat.sub_zero]
  · have zeros : Sha256.zeros (first ++ rest).length = 56 - (rest.length + 1) := by
      rw [Sha256.zeros, remainder]
      omega
    obtain ⟨cleared, last, clear, copy, done⟩ := @last_block
      { hash with buffer := marked, bufferLen := rest.length + 1 } _ (rest ++ [0x80])
      (Sha256.octetsOf 8 (8 * (first ++ rest).length)) whole state markedLength.symm
      (by omega) contents (Sha256.octetsOf_length 8 _)
    simp only [closeBlock, if_neg long, Option.bind_eq_bind, Option.bind_some, Option.pure_def,
      clear, copy, done]
    rw [Sha256.digest, Sha256.pad, Sha256.padding, zeros, markedLength]
    simp only [List.append_assoc, List.cons_append, List.nil_append]

theorem updates_some (chunks : List Octets) : ∀ {hash : ExportSha256} {first rest : Octets},
    hash.Holds first rest → hash.len = UInt64.ofNat (first ++ rest).length →
    ∃ next hashed held, chunks.foldlM update hash = some next ∧
      first ++ rest ++ chunks.flatten = hashed ++ held ∧ next.Holds hashed held ∧
      next.len = UInt64.ofNat (hashed ++ held).length := by
  induction chunks with
  | nil =>
      intro hash first rest holds len
      exact ⟨hash, first, rest, rfl, by rw [List.flatten_nil, List.append_nil], holds, len⟩
  | cons chunk later ih =>
      intro hash first rest holds len
      obtain ⟨next, hashed, held, updated, split, kept, counted⟩ := update_some holds chunk
      rw [len, ← UInt64.ofNat_add, ← List.length_append, split] at counted
      obtain ⟨last, whole, left, fed, parts, final, total⟩ := ih kept counted
      refine ⟨last, whole, left, ?_, ?_, final, total⟩
      · rw [List.foldlM_cons, updated, Option.bind_eq_bind, Option.bind_some]
        exact fed
      · rw [List.flatten_cons, ← List.append_assoc, split, parts]

/-- The digest of a message does not depend on how it is cut into chunks, no index is out of
range, and the digest is that of FIPS 180-4. -/
theorem digestChunks_eq (chunks : List Octets) :
    digestChunks chunks = some (Sha256.digest chunks.flatten) := by
  obtain ⟨last, hashed, held, fed, split, holds, len⟩ := updates_some chunks holds_new rfl
  rw [List.nil_append, List.nil_append] at split
  rw [digestChunks, fed, Option.bind_eq_bind, Option.bind_some, finalize_some holds len, split]

end ExportSha256

end LightStream
