import Oakfield.Library.Sha256
import Mathlib.Logic.Function.Basic
import Mathlib.Tactic.Ring

/-! The hash of rendered kernels. A write at an index outside the block buffer is recorded. -/
namespace Oakfield

open Function Library.Sha256

/-- `SimSHA256`. -/
structure SimSHA256 where
  state : Vector (BitVec 32) 8
  length : BitVec 64
  /-- The contents of `buffer[64]`. -/
  buffer : ℕ → BitVec 8
  bufferLen : ℕ
  /-- Whether a byte was written outside the buffer. -/
  overran : Bool

/-! ### The transform -/

/-- `sim_sha256_rotr`. -/
def simSha256Rotr (value bits : BitVec 32) : BitVec 32 := value >>> bits ||| value <<< (32 - bits)

/-- The table `k` of `sim_sha256_transform`. -/
def simSha256K : List (BitVec 32) :=
  [0x428a2f98, 0x71374491, 0xb5c0fbcf, 0xe9b5dba5, 0x3956c25b, 0x59f111f1, 0x923f82a4,
    0xab1c5ed5, 0xd807aa98, 0x12835b01, 0x243185be, 0x550c7dc3, 0x72be5d74, 0x80deb1fe,
    0x9bdc06a7, 0xc19bf174, 0xe49b69c1, 0xefbe4786, 0x0fc19dc6, 0x240ca1cc, 0x2de92c6f,
    0x4a7484aa, 0x5cb0a9dc, 0x76f988da, 0x983e5152, 0xa831c66d, 0xb00327c8, 0xbf597fc7,
    0xc6e00bf3, 0xd5a79147, 0x06ca6351, 0x14292967, 0x27b70a85, 0x2e1b2138, 0x4d2c6dfc,
    0x53380d13, 0x650a7354, 0x766a0abb, 0x81c2c92e, 0x92722c85, 0xa2bfe8a1, 0xa81a664b,
    0xc24b8b70, 0xc76c51a3, 0xd192e819, 0xd6990624, 0xf40e3585, 0x106aa070, 0x19a4c116,
    0x1e376c08, 0x2748774c, 0x34b0bcb5, 0x391c0cb3, 0x4ed8aa4a, 0x5b9cca4f, 0x682e6ff3,
    0x748f82ee, 0x78a5636f, 0x84c87814, 0x8cc70208, 0x90befffa, 0xa4506ceb, 0xbef9a3f7,
    0xc67178f2]

/-- A word of the block, as the first loop of `sim_sha256_transform` reads it. -/
def simSha256Word (data : ℕ → BitVec 8) (i : ℕ) : BitVec 32 :=
  let idx := i * 4
  (data idx).setWidth 32 <<< 24 ||| (data (idx + 1)).setWidth 32 <<< 16 |||
    (data (idx + 2)).setWidth 32 <<< 8 ||| (data (idx + 3)).setWidth 32

/-- One turn of the loop which extends the schedule `w`, whose first `i` words are there. -/
def simSha256Extend (w : List (BitVec 32)) (i : ℕ) : List (BitVec 32) :=
  let w15 := w.getD (i - 15) 0
  let w2 := w.getD (i - 2) 0
  let s0 := simSha256Rotr w15 7 ^^^ simSha256Rotr w15 18 ^^^ w15 >>> 3
  let s1 := simSha256Rotr w2 17 ^^^ simSha256Rotr w2 19 ^^^ w2 >>> 10
  w ++ [w.getD (i - 16) 0 + s0 + w.getD (i - 7) 0 + s1]

/-- The schedule `w[64]` after both loops. -/
def simSha256Schedule (data : ℕ → BitVec 8) : List (BitVec 32) :=
  let w := (List.range 16).map (simSha256Word data)
  (List.range' 16 48).foldl simSha256Extend w

/-- The variables `a` to `h` of `sim_sha256_transform`. -/
structure SimSHA256Variables where
  a : BitVec 32
  b : BitVec 32
  c : BitVec 32
  d : BitVec 32
  e : BitVec 32
  f : BitVec 32
  g : BitVec 32
  h : BitVec 32

/-- One turn of the round loop. -/
def SimSHA256Variables.round (w : List (BitVec 32)) (v : SimSHA256Variables) (i : ℕ) :
    SimSHA256Variables :=
  let s1 := simSha256Rotr v.e 6 ^^^ simSha256Rotr v.e 11 ^^^ simSha256Rotr v.e 25
  let ch := (v.e &&& v.f) ^^^ (~~~v.e &&& v.g)
  let temp1 := v.h + s1 + ch + simSha256K.getD i 0 + w.getD i 0
  let s0 := simSha256Rotr v.a 2 ^^^ simSha256Rotr v.a 13 ^^^ simSha256Rotr v.a 22
  let maj := (v.a &&& v.b) ^^^ (v.a &&& v.c) ^^^ (v.b &&& v.c)
  let temp2 := s0 + maj
  { a := temp1 + temp2, b := v.a, c := v.b, d := v.c, e := v.d + temp1, f := v.e, g := v.f
    h := v.g }

namespace SimSHA256

/-- `sim_sha256_transform`. -/
def transform (ctx : SimSHA256) (data : ℕ → BitVec 8) : SimSHA256 :=
  let w := simSha256Schedule data
  let v : SimSHA256Variables :=
    { a := ctx.state[0], b := ctx.state[1], c := ctx.state[2], d := ctx.state[3]
      e := ctx.state[4], f := ctx.state[5], g := ctx.state[6], h := ctx.state[7] }
  let v := (List.range 64).foldl (SimSHA256Variables.round w) v
  { ctx with
    state := #v[ctx.state[0] + v.a, ctx.state[1] + v.b, ctx.state[2] + v.c, ctx.state[3] + v.d,
      ctx.state[4] + v.e, ctx.state[5] + v.f, ctx.state[6] + v.g, ctx.state[7] + v.h] }

/-! ### Hashing a stream -/

/-- `sim_sha256_init`, whatever the buffer holds. -/
def init (buffer : ℕ → BitVec 8) : SimSHA256 where
  state := #v[0x6a09e667, 0xbb67ae85, 0x3c6ef372, 0xa54ff53a, 0x510e527f, 0x9b05688c,
    0x1f83d9ab, 0x5be0cd19]
  length := 0
  buffer := buffer
  bufferLen := 0
  overran := false

/-- `ctx->buffer[ctx->buffer_len++] = byte`. -/
def push (ctx : SimSHA256) (byte : BitVec 8) : SimSHA256 :=
  { ctx with
    buffer := update ctx.buffer ctx.bufferLen byte
    bufferLen := ctx.bufferLen + 1
    overran := ctx.overran || decide (64 ≤ ctx.bufferLen) }

/-- `memcpy(ctx->buffer + start, source, count)`. -/
def copy (ctx : SimSHA256) (start : ℕ) (source : ℕ → BitVec 8) (count : ℕ) : SimSHA256 :=
  { ctx with
    buffer := fun i => if start ≤ i ∧ i < start + count then source (i - start) else ctx.buffer i
    overran := ctx.overran || decide (64 < start + count) }

/-- `sim_sha256_transform(ctx, ctx->buffer)` and `ctx->buffer_len = 0`. -/
def flush (ctx : SimSHA256) : SimSHA256 := { ctx.transform ctx.buffer with bufferLen := 0 }

/-- The part of `sim_sha256_update` which fills a buffer that is not empty; also how much of the
piece went there. -/
def fillBuffer (ctx : SimSHA256) (data : ℕ → BitVec 8) (length : ℕ) : SimSHA256 × ℕ :=
  if 0 < ctx.bufferLen then
    let needed := 64 - ctx.bufferLen
    let toCopy := if length < needed then length else needed
    let ctx : SimSHA256 :=
      { ctx.copy ctx.bufferLen data toCopy with bufferLen := ctx.bufferLen + toCopy }
    if ctx.bufferLen = 64 then (ctx.flush, toCopy) else (ctx, toCopy)
  else (ctx, 0)

/-- The loop of `sim_sha256_update` over the blocks which it hashes where they stand. -/
def blocks (ctx : SimSHA256) (data : ℕ → BitVec 8) (length offset : ℕ) : SimSHA256 × ℕ :=
  if offset + 64 ≤ length then
    (ctx.transform fun i => data (offset + i)).blocks data length (offset + 64)
  else (ctx, offset)
termination_by length - offset

/-- The part of `sim_sha256_update` which keeps what is less than a block. -/
def keepRest (ctx : SimSHA256) (data : ℕ → BitVec 8) (length offset : ℕ) : SimSHA256 :=
  if offset < length then
    let remaining := length - offset
    { ctx.copy 0 (fun i => data (offset + i)) remaining with bufferLen := remaining }
  else ctx

/-- `sim_sha256_update`. -/
def update (ctx : SimSHA256) (bytes : List (BitVec 8)) : SimSHA256 :=
  let data := fun i => bytes.getD i 0
  let length := bytes.length
  if length = 0 then ctx
  else
    let ctx : SimSHA256 := { ctx with length := ctx.length + BitVec.ofNat 64 length }
    let filled := ctx.fillBuffer data length
    let hashed := filled.1.blocks data length filled.2
    hashed.1.keepRest data length hashed.2

/-- The loops of `sim_sha256_final` which append zeros. -/
def zeroTo (ctx : SimSHA256) (limit : ℕ) : SimSHA256 :=
  if ctx.bufferLen < limit then (ctx.push 0).zeroTo limit else ctx
termination_by limit - ctx.bufferLen
decreasing_by simp only [push]; omega

/-- `sim_sha256_final`: the context it leaves and `out_hash`. -/
def final (ctx : SimSHA256) : SimSHA256 × List (BitVec 8) :=
  let bitLen := ctx.length * 8
  let ctx := ctx.push 0x80
  let ctx := if 56 < ctx.bufferLen then (ctx.zeroTo 64).flush else ctx
  let ctx := ctx.zeroTo 56
  let ctx := [7, 6, 5, 4, 3, 2, 1, 0].foldl
    (fun ctx i => ctx.push (BitVec.setWidth 8 (bitLen >>> (i * 8) &&& 0xFF))) ctx
  let ctx := ctx.transform ctx.buffer
  (ctx, ctx.state.toList.flatMap fun word : BitVec 32 =>
    [BitVec.setWidth 8 (word >>> 24 &&& 0xFF), BitVec.setWidth 8 (word >>> 16 &&& 0xFF),
      BitVec.setWidth 8 (word >>> 8 &&& 0xFF), BitVec.setWidth 8 (word &&& 0xFF)])

end SimSHA256

/-! ### The transform is the compression -/

theorem simSha256Rotr_eq (value : BitVec 32) {bits : BitVec 32} (hBits : bits.toNat < 32) :
    simSha256Rotr value bits = value.rotateRight bits.toNat := by
  have hLeft : (32 - bits).toNat = 32 - bits.toNat := by
    have hWord : (32 : BitVec 32).toNat = 32 := rfl
    rw [BitVec.toNat_sub]
    omega
  rw [simSha256Rotr, BitVec.rotateRight_def, Nat.mod_eq_of_lt hBits, BitVec.shiftLeft_eq', hLeft,
    BitVec.ushiftRight_eq']

section Sigma

variable (x : BitVec 32)

theorem rotr_bigSigma0 :
    simSha256Rotr x 2 ^^^ simSha256Rotr x 13 ^^^ simSha256Rotr x 22 = bigSigma0 x := by
  rw [simSha256Rotr_eq x (by decide), simSha256Rotr_eq x (by decide),
    simSha256Rotr_eq x (by decide)]
  rfl

theorem rotr_bigSigma1 :
    simSha256Rotr x 6 ^^^ simSha256Rotr x 11 ^^^ simSha256Rotr x 25 = bigSigma1 x := by
  rw [simSha256Rotr_eq x (by decide), simSha256Rotr_eq x (by decide),
    simSha256Rotr_eq x (by decide)]
  rfl

theorem rotr_smallSigma0 :
    simSha256Rotr x 7 ^^^ simSha256Rotr x 18 ^^^ x >>> 3 = smallSigma0 x := by
  rw [simSha256Rotr_eq x (by decide), simSha256Rotr_eq x (by decide)]
  rfl

theorem rotr_smallSigma1 :
    simSha256Rotr x 17 ^^^ simSha256Rotr x 19 ^^^ x >>> 10 = smallSigma1 x := by
  rw [simSha256Rotr_eq x (by decide), simSha256Rotr_eq x (by decide)]
  rfl

end Sigma

theorem shifted_byte (byte : BitVec 8) {shift : ℕ} (hShift : shift ≤ 24) :
    (byte.setWidth 32 <<< shift).toNat = byte.toNat <<< shift := by
  have hByte := byte.isLt
  have hPow : 2 ^ shift ≤ 2 ^ 24 := Nat.pow_le_pow_right (by decide) hShift
  have hSmall : byte.toNat * 2 ^ shift < 2 ^ 32 := by
    calc
      byte.toNat * 2 ^ shift < 2 ^ 8 * 2 ^ shift :=
        Nat.mul_lt_mul_of_pos_right hByte (Nat.two_pow_pos _)
      _ ≤ 2 ^ 8 * 2 ^ 24 := Nat.mul_le_mul_left _ hPow
  have hWide : byte.toNat < 2 ^ 32 := by omega
  rw [BitVec.toNat_shiftLeft, BitVec.toNat_setWidth, Nat.mod_eq_of_lt hWide, Nat.shiftLeft_eq,
    Nat.mod_eq_of_lt hSmall]

theorem simSha256Word_eq (data : ℕ → BitVec 8) (i : ℕ) :
    simSha256Word data i = blockWord data i := by
  have hLast := (data (4 * i + 3)).isLt
  refine BitVec.eq_of_toNat_eq ?_
  rw [blockWord_toNat, simSha256Word, Nat.mul_comm i 4]
  simp only [BitVec.toNat_or]
  rw [shifted_byte _ (by decide), shifted_byte _ (by decide), shifted_byte _ (by decide),
    BitVec.toNat_setWidth, Nat.mod_eq_of_lt (by omega)]

/-- The loop which extends the schedule appends the words of the message schedule in turn. -/
theorem simSha256Extend_run (data : ℕ → BitVec 8) (count : ℕ) :
    (List.range' 16 count).foldl simSha256Extend ((List.range 16).map (simSha256Word data)) =
      (List.range (16 + count)).map (schedule data) := by
  induction count with
  | zero =>
      refine List.map_congr_left fun t hFirst => ?_
      rw [simSha256Word_eq, schedule_block data (List.mem_range.mp hFirst)]
  | succ count ih =>
      have hRead : ∀ t < 16 + count,
          ((List.range (16 + count)).map (schedule data)).getD t 0 = schedule data t := by
        intro t hEarlier
        have hLength : t < ((List.range (16 + count)).map (schedule data)).length := by
          rwa [List.length_map, List.length_range]
        rw [List.getD_eq_getElem _ _ hLength, List.getElem_map, List.getElem_range]
      have hNext := schedule_next data (Nat.le_add_right 16 count)
      rw [List.range'_concat, List.foldl_append, ih, Nat.one_mul, List.foldl_cons, List.foldl_nil,
        ← Nat.add_assoc, List.range_succ, List.map_append, List.map_cons, List.map_nil,
        simSha256Extend, hRead _ (by omega), hRead _ (by omega), hRead _ (by omega),
        hRead _ (by omega), rotr_smallSigma0, rotr_smallSigma1, hNext]
      congr 2
      ring

theorem simSha256Schedule_getD (data : ℕ → BitVec 8) {t : ℕ} (hRound : t < 64) :
    (simSha256Schedule data).getD t 0 = schedule data t := by
  have hLength : t < ((List.range (16 + 48)).map (schedule data)).length := by
    rwa [List.length_map, List.length_range]
  rw [simSha256Schedule, simSha256Extend_run, List.getD_eq_getElem _ _ hLength, List.getElem_map,
    List.getElem_range]

theorem simSha256K_eq : simSha256K = firstPrimes.map (fractionWord 3) := by decide +kernel

theorem simSha256K_getD {t : ℕ} (hRound : t < 64) : simSha256K.getD t 0 = roundConstant t := by
  have hIndex : t < firstPrimes.length := hRound
  rw [simSha256K_eq, roundConstant, List.getD_eq_getElem _ _ (by rwa [List.length_map]),
    List.getElem_map, List.getD_eq_getElem _ _ hIndex]

/-- The working variables which the variables of the transform are. -/
def SimSHA256Variables.hashValue (v : SimSHA256Variables) : HashValue where
  a := v.a
  b := v.b
  c := v.c
  d := v.d
  e := v.e
  f := v.f
  g := v.g
  h := v.h

theorem SimSHA256Variables.round_hashValue (data : ℕ → BitVec 8) (v : SimSHA256Variables) {t : ℕ}
    (hRound : t < 64) :
    (v.round (simSha256Schedule data) t).hashValue =
      Library.Sha256.round (roundConstant t) (schedule data t) v.hashValue := by
  unfold SimSHA256Variables.round
  dsimp only
  rw [rotr_bigSigma0, rotr_bigSigma1, simSha256K_getD hRound, simSha256Schedule_getD data hRound]
  rfl

theorem SimSHA256Variables.rounds_hashValue (data : ℕ → BitVec 8) (v : SimSHA256Variables)
    (rounds : List ℕ) (hRounds : ∀ t ∈ rounds, t < 64) :
    (rounds.foldl (SimSHA256Variables.round (simSha256Schedule data)) v).hashValue =
      rounds.foldl (fun v t => Library.Sha256.round (roundConstant t) (schedule data t) v)
        v.hashValue := by
  induction rounds generalizing v with
  | nil => rfl
  | cons t rounds ih =>
      rw [List.foldl_cons, List.foldl_cons, ih _ fun t hMem =>
        hRounds t (List.mem_cons_of_mem _ hMem),
        round_hashValue data v (hRounds t List.mem_cons_self)]

namespace SimSHA256

/-- The hash value in the context. -/
def hashValue (ctx : SimSHA256) : HashValue where
  a := ctx.state[0]
  b := ctx.state[1]
  c := ctx.state[2]
  d := ctx.state[3]
  e := ctx.state[4]
  f := ctx.state[5]
  g := ctx.state[6]
  h := ctx.state[7]

theorem init_hashValue (buffer : ℕ → BitVec 8) : (init buffer).hashValue = initialHash := by
  have hWords : fractionWord 2 2 = 0x6a09e667 ∧ fractionWord 2 3 = 0xbb67ae85 ∧
      fractionWord 2 5 = 0x3c6ef372 ∧ fractionWord 2 7 = 0xa54ff53a ∧
      fractionWord 2 11 = 0x510e527f ∧ fractionWord 2 13 = 0x9b05688c ∧
      fractionWord 2 17 = 0x1f83d9ab ∧ fractionWord 2 19 = 0x5be0cd19 := by decide +kernel
  obtain ⟨hA, hB, hC, hD, hE, hF, hG, hH⟩ := hWords
  rw [initialHash, hA, hB, hC, hD, hE, hF, hG, hH]
  rfl

theorem transform_hashValue (ctx : SimSHA256) (data : ℕ → BitVec 8) :
    (ctx.transform data).hashValue = compress ctx.hashValue data := by
  have hRounds := SimSHA256Variables.rounds_hashValue data
    { a := ctx.state[0], b := ctx.state[1], c := ctx.state[2], d := ctx.state[3]
      e := ctx.state[4], f := ctx.state[5], g := ctx.state[6], h := ctx.state[7] }
    (List.range 64) fun t hMem => List.mem_range.mp hMem
  rw [compress]
  exact (congrArg ctx.hashValue.add hRounds :)

end SimSHA256

end Oakfield
