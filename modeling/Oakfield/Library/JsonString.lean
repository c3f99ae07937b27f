import Mathlib.Data.List.Basic
import Mathlib.Data.Nat.Notation

/-! String literals of JSON, read byte by byte. -/
namespace Library.JsonString

/-- A hexadecimal digit. -/
def hexDigitValue (c : UInt8) : Option ℕ :=
  if 48 ≤ c ∧ c ≤ 57 then some (c.toNat - 48)
  else if 65 ≤ c ∧ c ≤ 70 then some (c.toNat - 55)
  else if 97 ≤ c ∧ c ≤ 102 then some (c.toNat - 87)
  else none

/-- The character of a `\uXXXX` escape, when it is one byte long. -/
def unicodeEscape (a b c d : UInt8) : Option UInt8 := do
  let code := (((← hexDigitValue a) * 16 + (← hexDigitValue b)) * 16 + (← hexDigitValue c)) * 16 +
    (← hexDigitValue d)
  if code < 128 then some (UInt8.ofNat code) else none

/-- The character of an escape of two characters, by the second one. -/
def shortEscape (c : UInt8) : Option UInt8 :=
  if c = 34 then some 34
  else if c = 92 then some 92
  else if c = 47 then some 47
  else if c = 98 then some 8
  else if c = 102 then some 12
  else if c = 110 then some 10
  else if c = 114 then some 13
  else if c = 116 then some 9
  else none

/-- A character before what was decoded behind it. -/
def follow (c : UInt8) (decoded : List UInt8 × List UInt8) : List UInt8 × List UInt8 :=
  (c :: decoded.1, decoded.2)

/-- The characters up to the closing quote, and what is left behind it. Control characters do
not occur in a literal. -/
def decodeBody : List UInt8 → Option (List UInt8 × List UInt8)
  | [] => none
  | c :: rest =>
      if c = 34 then some ([], rest)
      else if c = 92 then
        match rest with
        | 117 :: x :: y :: z :: w :: rest =>
            (unicodeEscape x y z w).bind fun ch => (decodeBody rest).map (follow ch)
        | e :: rest => (shortEscape e).bind fun ch => (decodeBody rest).map (follow ch)
        | [] => none
      else if c < 32 then none
      else (decodeBody rest).map (follow c)

/-- The value of a string literal. -/
def decode (text : List UInt8) : Option (List UInt8) :=
  match text with
  | [] => none
  | c :: rest =>
      if c = 34 then
        (decodeBody rest).bind fun decoded => if decoded.2 = [] then some decoded.1 else none
      else none

section Body

attribute [local simp] decodeBody

theorem decodeBody_quote (rest : List UInt8) : decodeBody (34 :: rest) = some ([], rest) := by
  rw [decodeBody.eq_def]
  exact if_pos rfl

theorem decodeBody_plain {c : UInt8} (hQuote : c ≠ 34) (hBackslash : c ≠ 92) (hControl : ¬ c < 32)
    (rest : List UInt8) : decodeBody (c :: rest) = (decodeBody rest).map (follow c) := by
  rw [decodeBody.eq_def]
  dsimp only
  rw [if_neg hQuote, if_neg hBackslash, if_neg hControl]

theorem decodeBody_short {e c : UInt8} (hEscape : shortEscape e = some c) (rest : List UInt8) :
    decodeBody (92 :: e :: rest) = (decodeBody rest).map (follow c) := by
  have hUnicode : shortEscape 117 = none := by decide
  have hShort : e ≠ 117 := by
    rintro rfl
    rw [hUnicode] at hEscape
    cases hEscape
  rw [decodeBody, if_neg (by decide), if_pos rfl, hEscape, Option.bind_some]
  rintro x y z w rest' rfl
  exact absurd rfl hShort

theorem decodeBody_unicode {x y z w c : UInt8} (hEscape : unicodeEscape x y z w = some c)
    (rest : List UInt8) :
    decodeBody (92 :: 117 :: x :: y :: z :: w :: rest) = (decodeBody rest).map (follow c) := by
  simp [hEscape]

end Body

/-- A text in a literal which stands for a character. -/
def Escapes (c : UInt8) (text : List UInt8) : Prop :=
  ∀ rest, decodeBody (text ++ rest) = (decodeBody rest).map (follow c)

/-- Characters escaped one by one decode to themselves. -/
theorem decode_literal {escape : UInt8 → List UInt8} (hEscape : ∀ c, Escapes c (escape c))
    (label : List UInt8) : decode ([34] ++ label.flatMap escape ++ [34]) = some label := by
  have hBody : decodeBody (label.flatMap escape ++ [34]) = some (label, []) := by
    induction label with
    | nil => exact decodeBody_quote []
    | cons c label ih =>
        rw [List.flatMap_cons, List.append_assoc, hEscape, ih]
        rfl
  rw [List.append_assoc, List.singleton_append, decode, if_pos rfl, hBody]
  rfl

end Library.JsonString
