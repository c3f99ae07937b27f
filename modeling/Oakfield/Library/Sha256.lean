import Mathlib.Data.BitVec
import Mathlib.Data.Int.Notation
import Mathlib.Data.List.GetD
import Mathlib.Data.Nat.NthRoot.Defs

/-! SHA-256 as FIPS 180-4 defines it, for messages of whole bytes. -/
namespace Library.Sha256

abbrev Word := BitVec 32

abbrev Byte := BitVec 8

/-! ### Functions and constants -/

def ch (x y z : Word) : Word := (x &&& y) ^^^ (~~~x &&& z)

def maj (x y z : Word) : Word := (x &&& y) ^^^ (x &&& z) ^^^ (y &&& z)

def bigSigma0 (x : Word) : Word := x.rotateRight 2 ^^^ x.rotateRight 13 ^^^ x.rotateRight 22

def bigSigma1 (x : Word) : Word := x.rotateRight 6 ^^^ x.rotateRight 11 ^^^ x.rotateRight 25

def smallSigma0 (x : Word) : Word := x.rotateRight 7 ^^^ x.rotateRight 18 ^^^ x >>> 3

def smallSigma1 (x : Word) : Word := x.rotateRight 17 ^^^ x.rotateRight 19 ^^^ x >>> 10

/-- The first sixty-four prime numbers. -/
def firstPrimes : List ℕ :=
  [2, 3, 5, 7, 11, 13, 17, 19, 23, 29, 31, 37, 41, 43, 47, 53, 59, 61, 67, 71, 73, 79, 83, 89, 97,
    101, 103, 107, 109, 113, 127, 131, 137, 139, 149, 151, 157, 163, 167, 173, 179, 181, 191, 193,
    197, 199, 211, 223, 227, 229, 233, 239, 241, 251, 257, 263, 269, 271, 277, 281, 283, 293, 307,
    311]

/-- The first thirty-two bits of the fractional part of a root. -/
def fractionWord (degree p : ℕ) : Word :=
  BitVec.ofNat 32 (Nat.nthRoot degree (p * 2 ^ (32 * degree)))

/-- The constant of a round, from the cube root of a prime. -/
def roundConstant (t : ℕ) : Word := fractionWord 3 (firstPrimes.getD t 0)

/-- Eight words: a hash value, or the working variables of the rounds. -/
structure HashValue where
  a : Word
  b : Word
  c : Word
  d : Word
  e : Word
  f : Word
  g : Word
  h : Word

/-- The initial hash value, from the square roots of the first eight primes. -/
def initialHash : HashValue where
  a := fractionWord 2 2
  b := fractionWord 2 3
  c := fractionWord 2 5
  d := fractionWord 2 7
  e := fractionWord 2 11
  f := fractionWord 2 13
  g := fractionWord 2 17
  h := fractionWord 2 19

/-! ### Compression -/

/-- The bytes of a block, read as sixteen words. -/
def blockWord (block : ℕ → Byte) (t : ℕ) : Word :=
  block (4 * t) ++ block (4 * t + 1) ++ block (4 * t + 2) ++ block (4 * t + 3)

theorem blockWord_toNat (block : ℕ → Byte) (t : ℕ) :
    (blockWord block t).toNat =
      (block (4 * t)).toNat <<< 24 ||| (block (4 * t + 1)).toNat <<< 16 |||
        (block (4 * t + 2)).toNat <<< 8 ||| (block (4 * t + 3)).toNat := by
  refine (BitVec.toNat_append _ _).trans ?_
  rw [BitVec.toNat_append, BitVec.toNat_append]
  simp only [Nat.shiftLeft_or_distrib, ← Nat.shiftLeft_add]

/-- The message schedule. -/
def schedule (block : ℕ → Byte) (t : ℕ) : Word :=
  if t < 16 then blockWord block t
  else smallSigma1 (schedule block (t - 2)) + schedule block (t - 7) +
    smallSigma0 (schedule block (t - 15)) + schedule block (t - 16)
termination_by t

theorem schedule_block (block : ℕ → Byte) {t : ℕ} (hBlock : t < 16) :
    schedule block t = blockWord block t := by
  rw [schedule, if_pos hBlock]

theorem schedule_next (block : ℕ → Byte) {t : ℕ} (hNext : 16 ≤ t) :
    schedule block t = smallSigma1 (schedule block (t - 2)) + schedule block (t - 7) +
      smallSigma0 (schedule block (t - 15)) + schedule block (t - 16) := by
  rw [schedule, if_neg (Nat.not_lt.mpr hNext)]

/-- One round on the working variables. -/
def round (constant word : Word) (v : HashValue) : HashValue :=
  let t1 := v.h + bigSigma1 v.e + ch v.e v.f v.g + constant + word
  let t2 := bigSigma0 v.a + maj v.a v.b v.c
  { a := t1 + t2, b := v.a, c := v.b, d := v.c, e := v.d + t1, f := v.e, g := v.f, h := v.g }

def HashValue.add (u v : HashValue) : HashValue where
  a := u.a + v.a
  b := u.b + v.b
  c := u.c + v.c
  d := u.d + v.d
  e := u.e + v.e
  f := u.f + v.f
  g := u.g + v.g
  h := u.h + v.h

/-- The hash value after one more block. -/
def compress (hash : HashValue) (block : ℕ → Byte) : HashValue :=
  hash.add ((List.range 64).foldl (fun v t => round (roundConstant t) (schedule block t) v) hash)

/-! ### Messages -/

/-- The least number `k` of zero bits with `l + 1 + k` congruent to 448 modulo 512. -/
def zeroBits (l : ℕ) : ℕ := ((448 - (l + 1 : ℤ)) % 512).toNat

/-- The length in bits as a block of 64 bits. -/
def lengthBytes (l : ℕ) : List Byte :=
  (List.range 8).map fun i => BitVec.ofNat 8 (l / 256 ^ (7 - i))

/-- The padded message. The first byte that is added holds the one bit and seven of the zeros. -/
def pad (message : List Byte) : List Byte :=
  message ++ 0x80 :: List.replicate ((zeroBits (8 * message.length) - 7) / 8) 0 ++
    lengthBytes (8 * message.length)

/-- The hash value after the first blocks of a stream. -/
def absorb (bytes : ℕ → Byte) : ℕ → HashValue
  | 0 => initialHash
  | count + 1 => compress (absorb bytes count) fun j => bytes (64 * count + j)

def HashValue.bytes (hash : HashValue) : List Byte :=
  [hash.a, hash.b, hash.c, hash.d, hash.e, hash.f, hash.g, hash.h].flatMap fun word =>
    [word.extractLsb' 24 8, word.extractLsb' 16 8, word.extractLsb' 8 8, word.extractLsb' 0 8]

/-- The SHA-256 message digest. -/
def digest (message : List Byte) : List Byte :=
  (absorb (fun i => (pad message).getD i 0) ((pad message).length / 64)).bytes

/-! ### What a block's hash value depends on -/

theorem schedule_congr {block other : ℕ → Byte} (hBlock : ∀ j < 64, block j = other j) (t : ℕ) :
    schedule block t = schedule other t := by
  induction t using Nat.strongRecOn with
  | ind t ih =>
      by_cases hFirst : t < 16
      · rw [schedule_block block hFirst, schedule_block other hFirst]
        unfold blockWord
        rw [hBlock _ (by omega), hBlock _ (by omega), hBlock _ (by omega), hBlock _ (by omega)]
      · have hNext := Nat.not_lt.mp hFirst
        rw [schedule_next block hNext, schedule_next other hNext, ih _ (by omega),
          ih _ (by omega), ih _ (by omega), ih _ (by omega)]

theorem compress_congr (hash : HashValue) {block other : ℕ → Byte}
    (hBlock : ∀ j < 64, block j = other j) : compress hash block = compress hash other := by
  have hSchedule := funext (schedule_congr hBlock)
  rw [compress, compress, hSchedule]

/-- The value after a number of blocks depends on the bytes of these blocks only. -/
theorem absorb_congr {bytes others : ℕ → Byte} {count : ℕ}
    (hBytes : ∀ i < 64 * count, bytes i = others i) :
    absorb bytes count = absorb others count := by
  induction count with
  | zero => rfl
  | succ count ih =>
      rw [absorb, absorb, ih fun i hi => hBytes i (by omega)]
      exact compress_congr _ fun j hj => hBytes _ (by omega)

/-! ### The padded message -/

theorem zeroBits_bytes (length : ℕ) :
    (zeroBits (8 * length) - 7) / 8 = (119 - length % 64) % 64 := by
  unfold zeroBits
  omega

theorem lengthBytes_length (l : ℕ) : (lengthBytes l).length = 8 := by
  rw [lengthBytes, List.length_map, List.length_range]

theorem pad_length (message : List Byte) :
    (pad message).length = 64 * ((message.length + 72) / 64) := by
  simp only [pad, List.length_append, List.length_cons, List.length_replicate, lengthBytes_length,
    zeroBits_bytes]
  omega

variable {message : List Byte} {i : ℕ}

theorem pad_message (hMessage : i < message.length) :
    (pad message).getD i 0 = message.getD i 0 := by
  rw [pad, List.append_assoc, List.getD_append _ _ _ _ hMessage]

theorem pad_one : (pad message).getD message.length 0 = 0x80 := by
  rw [pad, List.append_assoc, List.getD_append_right _ _ _ _ (Nat.le_refl _), Nat.sub_self]
  rfl

theorem pad_zero (hAfter : message.length < i)
    (hBefore : i < 64 * ((message.length + 72) / 64) - 8) : (pad message).getD i 0 = 0 := by
  have hInside : i - message.length - 1 < (119 - message.length % 64) % 64 := by omega
  have hSucc : i - message.length = i - message.length - 1 + 1 := by omega
  rw [pad, List.append_assoc, List.getD_append_right _ _ _ _ (Nat.le_of_lt hAfter), hSucc,
    List.cons_append, List.getD_cons_succ, zeroBits_bytes, List.getD_append _ _ _ _ ?_]
  · exact List.getD_replicate _ hInside
  · rwa [List.length_replicate]

theorem pad_lengthByte (hByte : i < 8) :
    (pad message).getD (64 * ((message.length + 72) / 64) - 8 + i) 0 =
      BitVec.ofNat 8 (8 * message.length / 256 ^ (7 - i)) := by
  have hLength := pad_length message
  have hTail : (message ++ 0x80 :: List.replicate ((zeroBits (8 * message.length) - 7) / 8)
      (0 : Byte)).length = 64 * ((message.length + 72) / 64) - 8 := by
    simp only [pad, List.length_append, lengthBytes_length] at hLength
    rw [List.length_append]
    omega
  rw [pad, List.getD_append_right _ _ _ _ (by omega), hTail, Nat.add_sub_cancel_left]
  have hIndex : i < (lengthBytes (8 * message.length)).length := by rwa [lengthBytes_length]
  rw [List.getD_eq_getElem _ _ hIndex]
  simp only [lengthBytes, List.getElem_map, List.getElem_range]

end Library.Sha256
