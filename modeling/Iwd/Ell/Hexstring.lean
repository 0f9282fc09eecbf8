import Iwd.Netdev.Types

/-!
ell's hex codec: `l_util_hexstring` writes each byte as two lower-case digits and
`l_util_from_hexstring` reads a string of hexadecimal digits of either case, two at a time,
after a first pass that refuses any other character and an odd length. The decoder gives
back every non-empty byte string the encoder wrote, accepts exactly the non-empty strings of
hexadecimal digits of even length, and what it reads is written back as the lower-case
string.
-/

namespace Iwd.Ell

open Iwd.Netdev (Bytes)

/-- `"0123456789abcdef"`, the table of `l_util_hexstring`. -/
def hexdigits : Bytes :=
  [0x30, 0x31, 0x32, 0x33, 0x34, 0x35, 0x36, 0x37, 0x38, 0x39, 0x61, 0x62, 0x63, 0x64, 0x65, 0x66]

/-- `str[2i]` and `str[2i + 1]` of `l_util_hexstring`: the digits of `buf[i] >> 4` and
`buf[i] & 0xf`. -/
def hexPair (b : UInt8) : Bytes :=
  [hexdigits.getD (b >>> 4).toNat 0, hexdigits.getD (b &&& 0xf).toNat 0]

/-- `l_util_hexstring`: NULL for an empty buffer, otherwise the string before its
terminator. -/
def lUtilHexstring (buf : Bytes) : Option Bytes :=
  if buf.length = 0 then none else some (buf.flatMap hexPair)

/-- Modelled from the spec: `toupper` in the C locale. -/
def toupper (c : UInt8) : UInt8 := if 0x61 ≤ c ∧ c ≤ 0x7A then c - 0x20 else c

/-- The test of the first loop of `l_util_from_hexstring`, on `toupper(str[i])`. -/
def isUpperHexDigit (c : UInt8) : Bool := (0x30 ≤ c && c ≤ 0x39) || (0x41 ≤ c && c ≤ 0x46)

/-- The value the second loop of `l_util_from_hexstring` takes from a digit `toupper` has
made upper-case; the first loop has refused every other character. -/
def hexValue (c : UInt8) : UInt8 :=
  if 0x30 ≤ c ∧ c ≤ 0x39 then c - 0x30 else if 0x41 ≤ c ∧ c ≤ 0x46 then 10 + c - 0x41 else 0

/-- The second loop of `l_util_from_hexstring`: `buf[j]` from `str[i]` and `str[i + 1]`. -/
def fromHexPairs : Bytes → Bytes
  | c :: d :: rest => (hexValue (toupper c) * 16 + hexValue (toupper d)) :: fromHexPairs rest
  | _ => []

/-- `l_util_from_hexstring` on the bytes of `str` before its terminator: the buffer and
`*out_len`. A string with a character that is
no hexadecimal digit, or of odd length, gives NULL; so does the empty string, for which
`l_malloc(0)` returns NULL. -/
def lUtilFromHexstring (str : Bytes) : Option (Bytes × Nat) :=
  if !str.all (fun c => isUpperHexDigit (toupper c)) then none
  else if str.length % 2 ≠ 0 then none
  else if str.length / 2 = 0 then none
  else some (fromHexPairs str, str.length / 2)

/-! ### One digit -/

/-- A hexadecimal digit of either case. -/
def isHexDigit (c : UInt8) : Bool :=
  (0x30 ≤ c && c ≤ 0x39) || (0x41 ≤ c && c ≤ 0x46) || (0x61 ≤ c && c ≤ 0x66)

/-- A digit in lower case. -/
def asciiLower (c : UInt8) : UInt8 := if 0x41 ≤ c ∧ c ≤ 0x5A then c + 0x20 else c

theorem toNat_shiftRight_four (b : UInt8) : (b >>> 4).toNat = b.toNat / 16 := by
  show (b.toBitVec >>> ((4 : UInt8).toBitVec % 8)).toNat = _
  simp [BitVec.toNat_ushiftRight, Nat.shiftRight_eq_div_pow]
  rfl

theorem toNat_and_fifteen (b : UInt8) : (b &&& 0xf).toNat = b.toNat % 16 := by
  show (b.toBitVec &&& (15 : UInt8).toBitVec).toNat = _
  simp only [BitVec.toNat_and]
  exact Nat.and_pow_two_sub_one_eq_mod b.toNat 4

theorem hexPair_eq (b : UInt8) :
    hexPair b = [hexdigits.getD (b.toNat / 16) 0, hexdigits.getD (b.toNat % 16) 0] := by
  rw [hexPair, toNat_shiftRight_four, toNat_and_fifteen]

theorem toNat_hexByte {x y : UInt8} (hx : x.toNat < 16) (hy : y.toNat < 16) :
    (x * 16 + y).toNat = x.toNat * 16 + y.toNat := by
  show (x.toNat * 16 % 256 + y.toNat) % 256 = _
  omega

theorem hexValue_hexdigits {n : Nat} (small : n < 16) :
    hexValue (toupper (hexdigits.getD n 0)) = n.toUInt8 := by
  have table : ∀ n < 16, hexValue (toupper (hexdigits.getD n 0)) = n.toUInt8 := by decide
  exact table n small

theorem byte_halves (b : UInt8) : (b.toNat / 16).toUInt8 * 16 + (b.toNat % 16).toUInt8 = b := by
  apply UInt8.toNat.inj
  have bound := b.toNat_lt_size
  simp only [UInt8.size] at bound
  show ((b.toNat / 16 % 256) * 16 % 256 + b.toNat % 16 % 256) % 256 = b.toNat
  omega

theorem hexdigits_isHexDigit {n : Nat} (small : n < 16) : isHexDigit (hexdigits.getD n 0) = true := by
  have table : ∀ n < 16, isHexDigit (hexdigits.getD n 0) = true := by decide
  exact table n small

theorem isUpperHexDigit_toupper (c : UInt8) :
    isUpperHexDigit (toupper c) = isHexDigit c ∧ (hexValue (toupper c)).toNat < 16 ∧
      (isHexDigit c = true → hexdigits.getD (hexValue (toupper c)).toNat 0 = asciiLower c) := by
  obtain ⟨v⟩ := c
  revert v
  decide

/-! ### The two directions -/

theorem fromHexPairs_length (s : Bytes) : (fromHexPairs s).length = s.length / 2 := by
  induction s using fromHexPairs.induct with
  | case1 c d rest ih => simp only [fromHexPairs, List.length_cons, ih]; omega
  | case2 t notPair =>
    match t, notPair with
    | [], _ | [_], _ => simp [fromHexPairs]
    | _ :: _ :: _, notPair => exact (notPair _ _ _ rfl).elim

theorem fromHexPairs_flatMap_hexPair (b : Bytes) :
    (b.flatMap hexPair).all isHexDigit = true ∧
      (b.flatMap hexPair).length = 2 * b.length ∧ fromHexPairs (b.flatMap hexPair) = b := by
  induction b with
  | nil => exact ⟨rfl, rfl, rfl⟩
  | cons x rest ih =>
    have high : x.toNat / 16 < 16 := by have := x.toNat_lt_size; simp only [UInt8.size] at this; omega
    have low : x.toNat % 16 < 16 := Nat.mod_lt _ (by decide)
    obtain ⟨all, length, pairs⟩ := ih
    rw [List.flatMap_cons, hexPair_eq, List.cons_append, List.cons_append, List.nil_append]
    simp only [List.all_cons, List.length_cons, fromHexPairs,
      hexdigits_isHexDigit high, hexdigits_isHexDigit low, all, length, pairs,
      hexValue_hexdigits high, hexValue_hexdigits low, byte_halves, Bool.and_true, true_and, and_true]
    omega

theorem flatMap_hexPair_fromHexPairs (s : Bytes) (digits : s.all isHexDigit = true)
    (even : s.length % 2 = 0) : (fromHexPairs s).flatMap hexPair = s.map asciiLower := by
  induction s using fromHexPairs.induct with
  | case1 c d rest ih =>
    simp only [List.all_cons, Bool.and_eq_true] at digits
    obtain ⟨-, cBound, cLower⟩ := isUpperHexDigit_toupper c
    obtain ⟨-, dBound, dLower⟩ := isUpperHexDigit_toupper d
    have value := toNat_hexByte cBound dBound
    rw [fromHexPairs, List.flatMap_cons, hexPair_eq, value, ih digits.2.2 (by simp only [List.length_cons] at even; omega),
      show ((hexValue (toupper c)).toNat * 16 + (hexValue (toupper d)).toNat) / 16
        = (hexValue (toupper c)).toNat by omega,
      show ((hexValue (toupper c)).toNat * 16 + (hexValue (toupper d)).toNat) % 16
        = (hexValue (toupper d)).toNat by omega, cLower digits.1, dLower digits.2.1]
    rfl
  | case2 t notPair =>
    match t, notPair with
    | [], _ => rfl
    | [_], _ => simp at even
    | _ :: _ :: _, notPair => exact (notPair _ _ _ rfl).elim

theorem all_isUpperHexDigit_toupper (s : Bytes) :
    s.all (fun c => isUpperHexDigit (toupper c)) = s.all isHexDigit :=
  congrArg s.all (funext fun c => (isUpperHexDigit_toupper c).1)

theorem lUtilFromHexstring_eq_some {s buf : Bytes} {outLen : Nat} :
    lUtilFromHexstring s = some (buf, outLen) ↔
      s.all isHexDigit = true ∧ s.length % 2 = 0 ∧ 0 < s.length ∧ buf = fromHexPairs s ∧
        outLen = s.length / 2 := by
  rw [lUtilFromHexstring, all_isUpperHexDigit_toupper]
  simp only [Option.ite_none_left_eq_some, Option.some.injEq, Prod.mk.injEq, Bool.not_eq_true',
    Bool.not_eq_false, ne_eq, Decidable.not_not]
  constructor <;> rintro ⟨digits, even, positive, rfl, rfl⟩ <;> exact ⟨digits, even, by omega, rfl, rfl⟩

theorem hexstring_round_trip :
    (∀ b : Bytes, b ≠ [] → (lUtilHexstring b).bind lUtilFromHexstring = some (b, b.length)) ∧
    (∀ s : Bytes, s ≠ [] →
      ((lUtilFromHexstring s).isSome ↔ s.length % 2 = 0 ∧ s.all isHexDigit = true)) ∧
    (∀ s buf outLen, lUtilFromHexstring s = some (buf, outLen) →
      lUtilHexstring buf = some (s.map asciiLower)) := by
  refine ⟨fun b nonempty => ?_, fun s nonempty => ?_, fun s buf outLen h => ?_⟩
  · obtain ⟨digits, length, pairs⟩ := fromHexPairs_flatMap_hexPair b
    have positive : 0 < b.length := List.length_pos.mpr nonempty
    rw [lUtilHexstring, if_neg (by omega), Option.some_bind, lUtilFromHexstring_eq_some]
    exact ⟨digits, by omega, by omega, pairs.symm, by omega⟩
  · rw [Option.isSome_iff_exists]
    constructor
    · rintro ⟨⟨buf, outLen⟩, h⟩
      obtain ⟨digits, even, -⟩ := lUtilFromHexstring_eq_some.mp h
      exact ⟨even, digits⟩
    · rintro ⟨even, digits⟩
      exact ⟨_, lUtilFromHexstring_eq_some.mpr ⟨digits, even, List.length_pos.mpr nonempty, rfl, rfl⟩⟩
  · obtain ⟨digits, even, positive, rfl, -⟩ := lUtilFromHexstring_eq_some.mp h
    rw [lUtilHexstring, if_neg (by rw [fromHexPairs_length]; omega),
      flatMap_hexPair_fromHexPairs s digits even]

end Iwd.Ell
