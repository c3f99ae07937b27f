import Oakfield.KernelIR.Sha256

/-! Hashing a byte string in pieces. -/
namespace Oakfield

open Library.Sha256

namespace SimSHA256

/-- The context has hashed `base` blocks of a stream and holds the `held` bytes after them. -/
structure Filled (ctx : SimSHA256) (bytes : ℕ → BitVec 8) (base held : ℕ) : Prop where
  hashValue : ctx.hashValue = absorb bytes base
  bufferLen : ctx.bufferLen = held
  buffer : ∀ i < held, ctx.buffer i = bytes (64 * base + i)
  bound : held ≤ 64
  safe : ctx.overran = false

variable {ctx : SimSHA256} {bytes : ℕ → BitVec 8} {base held : ℕ}

theorem filled_init (buffer bytes : ℕ → BitVec 8) : (init buffer).Filled bytes 0 0 where
  hashValue := init_hashValue buffer
  bufferLen := rfl
  buffer _ hHeld := absurd hHeld (Nat.not_lt_zero _)
  bound := Nat.zero_le _
  safe := rfl

theorem Filled.congr (hFilled : ctx.Filled bytes base held) {others : ℕ → BitVec 8}
    (hBytes : ∀ i < 64 * base + held, bytes i = others i) : ctx.Filled others base held where
  hashValue := hFilled.hashValue.trans (absorb_congr fun i hi => hBytes i (by omega))
  bufferLen := hFilled.bufferLen
  buffer i hi := (hFilled.buffer i hi).trans (hBytes _ (by omega))
  bound := hFilled.bound
  safe := hFilled.safe

/-- The length which is counted plays no part in the blocks. -/
theorem Filled.counted (hFilled : ctx.Filled bytes base held) (length : BitVec 64) :
    Filled { ctx with length := length } bytes base held :=
  ⟨hFilled.hashValue, hFilled.bufferLen, hFilled.buffer, hFilled.bound, hFilled.safe⟩

/-! ### One write, one block -/

theorem Filled.push (hFilled : ctx.Filled bytes base held) (hRoom : held < 64) {byte : BitVec 8}
    (hByte : byte = bytes (64 * base + held)) : (ctx.push byte).Filled bytes base (held + 1) where
  hashValue := hFilled.hashValue
  bufferLen := congrArg (· + 1) hFilled.bufferLen
  buffer i hi := by
    dsimp only [SimSHA256.push]
    rw [hFilled.bufferLen]
    by_cases hLast : i = held
    · rw [hLast, Function.update_self, hByte]
    · rw [Function.update_of_ne hLast]
      exact hFilled.buffer i (by omega)
  bound := hRoom
  safe := by
    have hLen := hFilled.bufferLen
    simp only [SimSHA256.push, hFilled.safe, Bool.false_or, decide_eq_false_iff_not]
    omega

theorem Filled.copy (hFilled : ctx.Filled bytes base held) {source : ℕ → BitVec 8} {count : ℕ}
    (hRoom : held + count ≤ 64) (hSource : ∀ i < count, source i = bytes (64 * base + held + i)) :
    Filled { ctx.copy held source count with bufferLen := held + count } bytes base
      (held + count) where
  hashValue := hFilled.hashValue
  bufferLen := rfl
  buffer i hi := by
    dsimp only [SimSHA256.copy]
    by_cases hCopied : held ≤ i
    · rw [if_pos ⟨hCopied, hi⟩, hSource _ (by omega), Nat.add_assoc, Nat.add_sub_cancel' hCopied]
    · rw [if_neg fun hBoth => hCopied hBoth.1]
      exact hFilled.buffer i (by omega)
  bound := hRoom
  safe := by
    simp only [SimSHA256.copy, hFilled.safe, Bool.false_or, decide_eq_false_iff_not]
    omega

theorem transform_next (hHash : ctx.hashValue = absorb bytes base) {data : ℕ → BitVec 8}
    (hData : ∀ j < 64, data j = bytes (64 * base + j)) :
    (ctx.transform data).hashValue = absorb bytes (base + 1) := by
  rw [transform_hashValue, hHash, absorb]
  exact compress_congr _ hData

/-- A full buffer is hashed and emptied. -/
theorem Filled.flush (hFilled : ctx.Filled bytes base 64) :
    ctx.flush.Filled bytes (base + 1) 0 where
  hashValue := transform_next hFilled.hashValue hFilled.buffer
  bufferLen := rfl
  buffer _ hHeld := absurd hHeld (Nat.not_lt_zero _)
  bound := Nat.zero_le _
  safe := hFilled.safe

/-- A block is hashed where it stands. -/
theorem Filled.direct (hFilled : ctx.Filled bytes base 0) {data : ℕ → BitVec 8}
    (hData : ∀ j < 64, data j = bytes (64 * base + j)) :
    (ctx.transform data).Filled bytes (base + 1) 0 where
  hashValue := transform_next hFilled.hashValue hData
  bufferLen := hFilled.bufferLen
  buffer _ hHeld := absurd hHeld (Nat.not_lt_zero _)
  bound := Nat.zero_le _
  safe := hFilled.safe

/-! ### The loops -/

/-- The loop hashes whole blocks until less than one is left. -/
theorem Filled.blocks {data : ℕ → BitVec 8} {length : ℕ} (whole : ℕ) :
    ∀ {ctx : SimSHA256} {base offset : ℕ}, ctx.Filled bytes base 0 →
      (∀ i, offset + i < length → data (offset + i) = bytes (64 * base + i)) →
      offset + 64 * whole ≤ length → length < offset + 64 * whole + 64 →
      (ctx.blocks data length offset).2 = offset + 64 * whole ∧
      (ctx.blocks data length offset).1.Filled bytes (base + whole) 0 := by
  induction whole with
  | zero =>
      intro ctx base offset hFilled _ _ hShort
      rw [SimSHA256.blocks, if_neg (by omega)]
      exact ⟨rfl, hFilled⟩
  | succ whole ih =>
      intro ctx base offset hFilled hData hLong hShort
      have hBlock := hFilled.direct fun j hj => hData j (by omega)
      have hRest : ∀ i, offset + 64 + i < length →
          data (offset + 64 + i) = bytes (64 * (base + 1) + i) := by
        intro i hi
        rw [Nat.add_assoc, hData _ (by omega), Nat.mul_succ, Nat.add_assoc]
      obtain ⟨hOffset, hAll⟩ := ih hBlock hRest (by omega) (by omega)
      rw [SimSHA256.blocks, if_pos (by omega)]
      refine ⟨by rw [hOffset]; omega, ?_⟩
      rwa [Nat.add_assoc, Nat.add_comm 1] at hAll

theorem Filled.zeroTo {limit : ℕ} (hLimit : limit ≤ 64) (zeros : ℕ) :
    ∀ {ctx : SimSHA256} {held : ℕ}, ctx.Filled bytes base held → held + zeros = limit →
      (∀ i, held ≤ i → i < limit → bytes (64 * base + i) = 0) →
      (ctx.zeroTo limit).Filled bytes base limit := by
  induction zeros with
  | zero =>
      intro ctx held hFilled hEq _
      have hLen := hFilled.bufferLen
      obtain rfl : held = limit := hEq
      rwa [SimSHA256.zeroTo, if_neg (by omega)]
  | succ zeros ih =>
      intro ctx held hFilled hEq hZero
      have hLen := hFilled.bufferLen
      have hPushed := hFilled.push (by omega) (hZero held (Nat.le_refl _) (by omega)).symm
      rw [SimSHA256.zeroTo, if_pos (by omega)]
      exact ih hPushed (by omega) fun i hi => hZero i (by omega)

theorem Filled.pushes (added : List (BitVec 8)) :
    ∀ {ctx : SimSHA256} {held : ℕ}, ctx.Filled bytes base held → held + added.length ≤ 64 →
      (∀ i (hi : i < added.length), added[i] = bytes (64 * base + held + i)) →
      (added.foldl SimSHA256.push ctx).Filled bytes base (held + added.length) := by
  induction added with
  | nil => exact fun hFilled _ _ => hFilled
  | cons byte added ih =>
      intro ctx held hFilled hRoom hBytes
      rw [List.length_cons] at hRoom
      have hPushed := hFilled.push (by omega) (hBytes 0 (Nat.zero_lt_succ _))
      have hRest := ih hPushed (by omega) fun i hi => by
        have hByte := hBytes (i + 1) (Nat.succ_lt_succ hi)
        rw [List.getElem_cons_succ] at hByte
        rw [hByte]
        congr 1
        omega
      rw [List.foldl_cons, List.length_cons]
      rwa [Nat.add_assoc, Nat.add_comm 1] at hRest

theorem Filled.keepRest {data : ℕ → BitVec 8} {length offset : ℕ}
    (hFilled : ctx.Filled bytes base 0) (hShort : length < offset + 64)
    (hData : ∀ i, offset + i < length → data (offset + i) = bytes (64 * base + i)) :
    (ctx.keepRest data length offset).Filled bytes base (length - offset) := by
  unfold SimSHA256.keepRest
  by_cases hRest : offset < length
  · have hCopied := @Filled.copy ctx bytes base 0 hFilled (fun i => data (offset + i))
      (length - offset) (by omega) fun i hi => hData i (by omega)
    rw [Nat.zero_add] at hCopied
    rwa [if_pos hRest]
  · rw [if_neg hRest, Nat.sub_eq_zero_of_le (Nat.not_lt.mp hRest)]
    exact hFilled

/-- Blocks that stand in the piece are hashed, and what is left over goes to the empty buffer. -/
theorem Filled.blocks_keepRest {data : ℕ → BitVec 8} {length offset : ℕ}
    (hFilled : ctx.Filled bytes base 0) (hOffset : offset ≤ length)
    (hData : ∀ i, offset + i < length → data (offset + i) = bytes (64 * base + i)) :
    ((ctx.blocks data length offset).1.keepRest data length (ctx.blocks data length offset).2).Filled
      bytes (base + (length - offset) / 64) ((length - offset) % 64) := by
  obtain ⟨hReached, hBlocks⟩ :=
    Filled.blocks ((length - offset) / 64) hFilled hData (by omega) (by omega)
  have hShort : length < offset + 64 * ((length - offset) / 64) + 64 := by omega
  have hAfter : ∀ i, offset + 64 * ((length - offset) / 64) + i < length →
      data (offset + 64 * ((length - offset) / 64) + i) =
        bytes (64 * (base + (length - offset) / 64) + i) := by
    intro i hi
    rw [Nat.add_assoc, hData _ (by omega), Nat.mul_add, Nat.add_assoc]
  have hKept := hBlocks.keepRest hShort hAfter
  have hRest : length - (offset + 64 * ((length - offset) / 64)) = (length - offset) % 64 := by
    omega
  rw [hReached]
  rwa [hRest] at hKept

/-- The buffer is filled as far as the piece reaches, and emptied when it is full. -/
theorem Filled.fillBuffer {data : ℕ → BitVec 8} {length : ℕ} (hFilled : ctx.Filled bytes base held)
    (hHeld : held < 64) (hData : ∀ i < length, data i = bytes (64 * base + held + i)) :
    ∃ offset, (ctx.fillBuffer data length).2 = offset ∧ offset ≤ length ∧
      (ctx.fillBuffer data length).1.Filled bytes (base + (held + offset) / 64)
        ((held + offset) % 64) ∧
      ((held + offset) % 64 = 0 ∨ offset = length) := by
  have hLen := hFilled.bufferLen
  unfold SimSHA256.fillBuffer
  dsimp only
  rw [hLen]
  by_cases hEmpty : 0 < held
  · rw [if_pos hEmpty]
    generalize hCopy : (if length < 64 - held then length else 64 - held) = toCopy
    have hBound : toCopy ≤ length ∧ held + toCopy ≤ 64 ∧ (toCopy = length ∨ held + toCopy = 64) := by
      split at hCopy <;> omega
    obtain ⟨hPiece, hRoom, hWhich⟩ := hBound
    have hCopied := hFilled.copy hRoom fun i hi => hData i (by omega)
    refine ⟨toCopy, ?_⟩
    by_cases hFull : held + toCopy = 64
    · rw [if_pos hFull, hFull]
      exact ⟨rfl, hPiece, (hFull ▸ hCopied).flush, .inl rfl⟩
    · have hDiv : (held + toCopy) / 64 = 0 := Nat.div_eq_of_lt (by omega)
      have hMod : (held + toCopy) % 64 = held + toCopy := Nat.mod_eq_of_lt (by omega)
      rw [if_neg hFull, hDiv, hMod]
      exact ⟨rfl, hPiece, hCopied, .inr (hWhich.resolve_right hFull)⟩
  · obtain rfl : held = 0 := by omega
    rw [if_neg hEmpty]
    exact ⟨0, rfl, Nat.zero_le _, hFilled, .inl rfl⟩

/-- The three parts of an update together. -/
theorem Filled.piece {data : ℕ → BitVec 8} {length : ℕ} (hFilled : ctx.Filled bytes base held)
    (hHeld : held < 64) (hData : ∀ i < length, data i = bytes (64 * base + held + i))
    {filled hashed : SimSHA256 × ℕ} (hFill : ctx.fillBuffer data length = filled)
    (hHash : filled.1.blocks data length filled.2 = hashed) :
    (hashed.1.keepRest data length hashed.2).Filled bytes (base + (held + length) / 64)
      ((held + length) % 64) := by
  obtain ⟨offset, hOffset, hLe, hFirst, hWhich⟩ := hFilled.fillBuffer hHeld hData
  rw [hFill] at hOffset hFirst
  rw [hOffset] at hHash
  subst hHash
  rcases hWhich with hNone | rfl
  · rw [hNone] at hFirst
    have hAfter : ∀ i, offset + i < length →
        data (offset + i) = bytes (64 * (base + (held + offset) / 64) + i) := by
      intro i hi
      rw [hData _ hi]
      congr 1
      omega
    have hRest := hFirst.blocks_keepRest hLe hAfter
    have hBase : base + (held + offset) / 64 + (length - offset) / 64 =
        base + (held + length) / 64 := by omega
    have hHeldRest : (length - offset) % 64 = (held + length) % 64 := by omega
    rwa [hBase, hHeldRest] at hRest
  · rw [SimSHA256.blocks, if_neg (by omega), SimSHA256.keepRest, if_neg (Nat.lt_irrefl _)]
    exact hFirst

/-! ### The length that is counted -/

theorem fillBuffer_length (data : ℕ → BitVec 8) (length : ℕ) :
    (ctx.fillBuffer data length).1.length = ctx.length := by
  unfold SimSHA256.fillBuffer
  dsimp only
  generalize (if length < 64 - ctx.bufferLen then length else 64 - ctx.bufferLen) = toCopy
  by_cases hEmpty : 0 < ctx.bufferLen
  · rw [if_pos hEmpty]
    split <;> rfl
  · rw [if_neg hEmpty]

theorem blocks_length (data : ℕ → BitVec 8) (length : ℕ) (ctx : SimSHA256) (offset : ℕ) :
    (ctx.blocks data length offset).1.length = ctx.length := by
  induction ctx, offset using SimSHA256.blocks.induct data length with
  | case1 ctx offset hBlock ih =>
      rw [SimSHA256.blocks, if_pos hBlock, ih]
      rfl
  | case2 ctx offset hShort => rw [SimSHA256.blocks, if_neg hShort]

theorem keepRest_length (data : ℕ → BitVec 8) (length offset : ℕ) :
    (ctx.keepRest data length offset).length = ctx.length := by
  unfold SimSHA256.keepRest
  split <;> rfl

/-! ### Updates -/

/-- The context after the bytes of a message, however they were cut. -/
structure Absorbed (ctx : SimSHA256) (message : List (BitVec 8)) : Prop where
  filled : ctx.Filled (fun i => message.getD i 0) (message.length / 64) (message.length % 64)
  counted : ctx.length = BitVec.ofNat 64 message.length

theorem absorbed_init (buffer : ℕ → BitVec 8) : (init buffer).Absorbed [] :=
  ⟨filled_init buffer _, rfl⟩

theorem Absorbed.update {message : List (BitVec 8)} (hAbsorbed : ctx.Absorbed message)
    (piece : List (BitVec 8)) : (ctx.update piece).Absorbed (message ++ piece) := by
  unfold SimSHA256.update
  dsimp only
  by_cases hEmpty : piece.length = 0
  · rw [if_pos hEmpty, List.eq_nil_of_length_eq_zero hEmpty, List.append_nil]
    exact hAbsorbed
  rw [if_neg hEmpty]
  generalize hCounted : ({ ctx with length := ctx.length + BitVec.ofNat 64 piece.length } :
    SimSHA256) = counted
  have hBase : 64 * (message.length / 64) + message.length % 64 = message.length :=
    Nat.div_add_mod _ _
  have hStream : counted.Filled (fun i => (message ++ piece).getD i 0) (message.length / 64)
      (message.length % 64) := by
    rw [← hCounted]
    refine (hAbsorbed.filled.counted _).congr fun i hi => ?_
    rw [List.getD_append _ _ _ _ (by omega)]
  have hData : ∀ i < piece.length, piece.getD i 0 =
      (message ++ piece).getD (64 * (message.length / 64) + message.length % 64 + i) 0 := by
    intro i _
    rw [hBase, List.getD_append_right _ _ _ _ (Nat.le_add_right _ _), Nat.add_sub_cancel_left]
  have hPiece := hStream.piece (Nat.mod_lt _ (by decide)) hData rfl rfl
  have hDiv : message.length / 64 + (message.length % 64 + piece.length) / 64 =
      (message ++ piece).length / 64 := by
    rw [List.length_append]
    omega
  have hMod : (message.length % 64 + piece.length) % 64 = (message ++ piece).length % 64 := by
    rw [List.length_append, Nat.mod_add_mod]
  rw [hDiv, hMod] at hPiece
  refine ⟨hPiece, ?_⟩
  rw [keepRest_length, blocks_length, fillBuffer_length, ← hCounted, hAbsorbed.counted,
    List.length_append, BitVec.ofNat_add]

/-- The context after the pieces of a message has absorbed the message. -/
theorem absorbed_run (buffer : ℕ → BitVec 8) (pieces : List (List (BitVec 8))) :
    (pieces.foldl SimSHA256.update (init buffer)).Absorbed pieces.flatten := by
  induction pieces using List.reverseRecOn with
  | nil => exact absorbed_init buffer
  | append_singleton pieces piece ih =>
      rw [List.foldl_append, List.foldl_cons, List.foldl_nil, List.flatten_append,
        List.flatten_singleton]
      exact ih.update piece

/-! ### The digest -/

/-- The eight bytes which are appended at the end are the length in bits. -/
theorem lengthBytes_eq {length : ℕ} (hLength : length < 2 ^ 61) :
    [7, 6, 5, 4, 3, 2, 1, 0].map (fun i =>
      BitVec.setWidth 8 ((BitVec.ofNat 64 length * 8) >>> (i * 8) &&& 0xFF)) =
      lengthBytes (8 * length) := by
  have hBits : (BitVec.ofNat 64 length * 8).toNat = 8 * length := by
    have hEight : (8 : BitVec 64).toNat = 8 := rfl
    rw [BitVec.toNat_mul, BitVec.toNat_ofNat, hEight]
    omega
  have hMask : (0xFF : BitVec 64).toNat = 2 ^ 8 - 1 := rfl
  have hByte : ∀ i, BitVec.setWidth 8 ((BitVec.ofNat 64 length * 8) >>> (i * 8) &&& 0xFF) =
      BitVec.ofNat 8 (8 * length / 256 ^ i) := by
    intro i
    refine BitVec.eq_of_toNat_eq ?_
    rw [BitVec.toNat_setWidth, BitVec.toNat_and, hMask, Nat.and_two_pow_sub_one_eq_mod,
      Nat.mod_mod, BitVec.toNat_ushiftRight, hBits, Nat.shiftRight_eq_div_pow, BitVec.toNat_ofNat,
      Nat.mul_comm i, Nat.pow_mul]
  simp only [hByte]
  rfl

theorem word_bytes (word : BitVec 32) (start : ℕ) :
    BitVec.setWidth 8 (word >>> start &&& 0xFF) = word.extractLsb' start 8 := by
  have hMask : (0xFF : BitVec 32).toNat = 2 ^ 8 - 1 := rfl
  refine BitVec.eq_of_toNat_eq ?_
  rw [BitVec.toNat_setWidth, BitVec.toNat_and, hMask, Nat.and_two_pow_sub_one_eq_mod,
    BitVec.toNat_ushiftRight, BitVec.extractLsb'_toNat, Nat.mod_mod]

theorem final_bytes (ctx : SimSHA256) : ctx.final.2 = ctx.final.1.hashValue.bytes := by
  have hWord : ∀ word : BitVec 32, BitVec.setWidth 8 (word &&& 0xFF) = word.extractLsb' 0 8 :=
    fun word => word_bytes word 0
  have hOut : ctx.final.2 = ctx.final.1.state.toList.flatMap fun word : BitVec 32 =>
      [BitVec.setWidth 8 (word >>> 24 &&& 0xFF), BitVec.setWidth 8 (word >>> 16 &&& 0xFF),
        BitVec.setWidth 8 (word >>> 8 &&& 0xFF), BitVec.setWidth 8 (word &&& 0xFF)] := rfl
  have hWords : ∀ words : Vector (BitVec 32) 8, words.toList =
      [words[0], words[1], words[2], words[3], words[4], words[5], words[6], words[7]] := by
    intro words
    refine List.ext_getElem (by rw [Vector.length_toList]; rfl) fun i _ hIndex => ?_
    rw [Vector.getElem_toList]
    rcases i with _ | _ | _ | _ | _ | _ | _ | _ | i
    case succ.succ.succ.succ.succ.succ.succ.succ => exact absurd hIndex (by simp)
    all_goals rfl
  rw [hOut, hWords]
  simp only [word_bytes]
  simp only [hWord]
  rfl

/-- The block of the length is hashed last. -/
theorem Filled.last (hFilled : ctx.Filled bytes base held) (hHeld : held ≤ 56) {length : ℕ}
    (hLength : length < 2 ^ 61) (hZero : ∀ i, held ≤ i → i < 56 → bytes (64 * base + i) = 0)
    (hBytes : ∀ i < 8, bytes (64 * base + 56 + i) = BitVec.ofNat 8 (8 * length / 256 ^ (7 - i)))
    {full : SimSHA256}
    (hFull : [7, 6, 5, 4, 3, 2, 1, 0].foldl (fun ctx i => ctx.push
      (BitVec.setWidth 8 ((BitVec.ofNat 64 length * 8) >>> (i * 8) &&& 0xFF)))
      (ctx.zeroTo 56) = full) :
    (full.transform full.buffer).hashValue = absorb bytes (base + 1) ∧
      (full.transform full.buffer).overran = false := by
  have hZeroed := Filled.zeroTo (by decide) (56 - held) hFilled (by omega) hZero
  have hPushed := Filled.pushes (lengthBytes (8 * length)) hZeroed
    (by rw [lengthBytes_length]) fun i hi => by
      rw [lengthBytes_length] at hi
      rw [hBytes i hi]
      simp only [lengthBytes, List.getElem_map, List.getElem_range]
  rw [lengthBytes_length, ← lengthBytes_eq hLength, List.foldl_map, hFull] at hPushed
  exact ⟨transform_next hPushed.hashValue hPushed.buffer, hPushed.safe⟩

/-- What is hashed in the end is the padded message; the padding takes one block or two. -/
theorem final_filled {message : List (BitVec 8)} (hAbsorbed : ctx.Absorbed message)
    (hLength : message.length < 2 ^ 61) :
    ctx.final.1.hashValue = absorb (fun i => (pad message).getD i 0) ((pad message).length / 64) ∧
      ctx.final.1.overran = false := by
  have hBase : 64 * (message.length / 64) + message.length % 64 = message.length :=
    Nat.div_add_mod _ _
  have hStream : ctx.Filled (fun i => (pad message).getD i 0) (message.length / 64)
      (message.length % 64) :=
    hAbsorbed.filled.congr fun i hi => (pad_message (by omega)).symm
  have hOne : (ctx.push 0x80).Filled (fun i => (pad message).getD i 0) (message.length / 64)
      (message.length % 64 + 1) := by
    refine hStream.push (Nat.mod_lt _ (by decide)) ?_
    rw [hBase]
    exact pad_one.symm
  have hLen := hOne.bufferLen
  have hBlocks : (pad message).length / 64 = (message.length + 72) / 64 := by
    rw [pad_length, Nat.mul_div_cancel_left _ (by decide)]
  unfold final
  dsimp only
  rw [hAbsorbed.counted, hBlocks]
  by_cases hTwo : 56 < (ctx.push 0x80).bufferLen
  · have hCount : (message.length + 72) / 64 = message.length / 64 + 1 + 1 := by omega
    have hZeroed : ((ctx.push 0x80).zeroTo 64).Filled (fun i => (pad message).getD i 0)
        (message.length / 64) 64 :=
      Filled.zeroTo (Nat.le_refl _) (63 - message.length % 64) hOne (by omega)
        fun i hLow hHigh => pad_zero (by omega) (by omega)
    rw [if_pos hTwo, hCount]
    generalize hFull : List.foldl _ _ [7, 6, 5, 4, 3, 2, 1, 0] = full
    refine hZeroed.flush.last (Nat.zero_le _) hLength ?_ ?_ hFull
    · exact fun i _ hHigh => pad_zero (by omega) (by omega)
    · intro i hi
      have hIndex : 64 * (message.length / 64 + 1) + 56 + i =
          64 * ((message.length + 72) / 64) - 8 + i := by omega
      rw [hIndex]
      exact pad_lengthByte hi
  · have hCount : (message.length + 72) / 64 = message.length / 64 + 1 := by omega
    rw [if_neg hTwo, hCount]
    generalize hFull : List.foldl _ _ [7, 6, 5, 4, 3, 2, 1, 0] = full
    refine hOne.last (by omega) hLength ?_ ?_ hFull
    · exact fun i hLow hHigh => pad_zero (by omega) (by omega)
    · intro i hi
      have hIndex : 64 * (message.length / 64) + 56 + i =
          64 * ((message.length + 72) / 64) - 8 + i := by omega
      rw [hIndex]
      exact pad_lengthByte hi

/-- However a string of less than `2 ^ 61` bytes is cut into pieces, the digest is the SHA-256
digest of the string, less than a block is held between the calls, and no write leaves the
buffer. -/
theorem stream_digest (buffer : ℕ → BitVec 8) (pieces : List (List (BitVec 8)))
    (hLength : pieces.flatten.length < 2 ^ 61) :
    (pieces.foldl SimSHA256.update (init buffer)).final.2 = digest pieces.flatten ∧
    (∀ done rest, pieces = done ++ rest →
      (done.foldl SimSHA256.update (init buffer)).bufferLen < 64 ∧
        (done.foldl SimSHA256.update (init buffer)).overran = false) ∧
    (pieces.foldl SimSHA256.update (init buffer)).final.1.overran = false := by
  obtain ⟨hHash, hSafe⟩ := final_filled (absorbed_run buffer pieces) hLength
  refine ⟨?_, fun done _ _ => ?_, hSafe⟩
  · rw [final_bytes, hHash, digest]
  · have hDone := (absorbed_run buffer done).filled
    exact ⟨hDone.bufferLen.trans_lt (Nat.mod_lt _ (by decide)), hDone.safe⟩

/-- Two pieces of a short string, with an empty one between them. -/
theorem stream_digest_pieces :
    [[0x61], [], [0x62, 0x63]].flatten.length < 2 ^ 61 ∧
    ([[0x61], [], [0x62, 0x63]].foldl SimSHA256.update (init fun _ => 0)).final.2 =
      digest [0x61, 0x62, 0x63] :=
  ⟨by decide, (stream_digest (fun _ => 0) [[0x61], [], [0x62, 0x63]] (by decide)).1⟩

end SimSHA256

end Oakfield
