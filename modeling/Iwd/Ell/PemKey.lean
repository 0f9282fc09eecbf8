import Iwd.Settings.Format

/-!
The padding `pem_load_private_key` strips from a decrypted private key, in its two encrypted
branches: `ENCRYPTED PRIVATE KEY` (PKCS#8, padding of RFC 8018 / RFC 1423) and the `DEK-Info`
header of `RSA PRIVATE KEY` (RFC 1421). Both read the pad value `p` from the last byte and
check the `p - 1` bytes before it. Neither lets the key length `n - p` underflow. Each
accepts exactly what RFC 1423 accepts (`1 ≤ p ≤ b` and the last `p` bytes equal to `p`),
except that both also accept `p = 0`, which strips nothing, and the PKCS#8 branch takes
`16` for every cipher's block size `b` and refuses `p = n`.
-/

namespace Iwd.Ell

open Iwd.Netdev (Bytes)
open Iwd.Settings (ascii)

/-- `content[len - 1]`, the pad value. -/
def lastByte (content : Bytes) : UInt8 := content.getD (content.length - 1) 0

/-- The loop both branches run: `content[len - 1 - i] == content[len - 1]` for
`i = 1 .. p - 1`. -/
def padBytesMatch (content : Bytes) : Bool :=
  (List.range' 1 ((lastByte content).toNat - 1)).all fun i =>
    content.getD (content.length - 1 - i) 0 == lastByte content

/-- The `ENCRYPTED PRIVATE KEY` branch from the checks on `data_len` to `len`: the key length,
or `none` for `goto err`. `content` is the decrypted buffer of `data_len` bytes. -/
def pkcs8StripPadding (content : Bytes) : Option Nat :=
  if content.length < 8 ∨ content.length % 8 ≠ 0 then none
  else if (lastByte content).toNat ≥ content.length ∨ (lastByte content).toNat > 16 then none
  else if padBytesMatch content then some (content.length - (lastByte content).toNat)
  else none

/-- The `block_len` `cipher_from_dek_info` returns for the `DEK-Info` algorithms it knows. -/
def dekInfoBlockLen (algid : Bytes) : Option Nat :=
  if algid = ascii "DES-CBC" ∨ algid = ascii "DES-EDE3-CBC" then some 8
  else if algid = ascii "AES-128-CBC" ∨ algid = ascii "AES-192-CBC" ∨ algid = ascii "AES-256-CBC" then
    some 16
  else none

/-- The `DEK-Info` branch of `RSA PRIVATE KEY` from the check on `len` to `len -= ...`;
`content` is the decrypted buffer. -/
def rfc1421StripPadding (blockLen : Nat) (content : Bytes) : Option Nat :=
  if content.length % blockLen ≠ 0 ∨ content.length = 0 then none
  else if (lastByte content).toNat > blockLen then none
  else if padBytesMatch content then some (content.length - (lastByte content).toNat)
  else none

/-- The padding RFC 1423 and RFC 8018 define for block size `blockLen`: a last byte `p` with
`1 ≤ p ≤ blockLen`, and the last `p` bytes all equal to `p`. The key is what is before them. -/
def paddingSpec (blockLen : Nat) (content : Bytes) : Option Nat :=
  let p := (lastByte content).toNat
  if 1 ≤ p ∧ p ≤ blockLen ∧ p ≤ content.length ∧
      (List.range' (content.length - p) p).all (fun j => content.getD j 0 == lastByte content)
  then some (content.length - p) else none

/-! ### The loop against the last `p` bytes -/

theorem padBytesMatch_iff {content : Bytes} (fits : (lastByte content).toNat ≤ content.length) :
    padBytesMatch content = (List.range' (content.length - (lastByte content).toNat)
      (lastByte content).toNat).all (fun j => content.getD j 0 == lastByte content) := by
  rw [padBytesMatch, Bool.eq_iff_iff, List.all_eq_true, List.all_eq_true]
  simp only [List.mem_range'_1]
  constructor
  · intro loop j range
    by_cases last : j = content.length - 1
    · simp [last, lastByte]
    · have := loop (content.length - 1 - j) (by omega)
      rwa [show content.length - 1 - (content.length - 1 - j) = j by omega] at this
  · intro bytes i range
    exact bytes _ (by omega)

theorem pkcs8StripPadding_some {content : Bytes} {keyLen : Nat}
    (accepted : pkcs8StripPadding content = some keyLen) :
    keyLen + (lastByte content).toNat = content.length := by
  simp only [pkcs8StripPadding, Option.ite_none_left_eq_some, Option.ite_none_right_eq_some, Option.some.injEq] at accepted
  omega

theorem rfc1421StripPadding_some {blockLen : Nat} {content : Bytes} {keyLen : Nat}
    (accepted : rfc1421StripPadding blockLen content = some keyLen) :
    keyLen + (lastByte content).toNat = content.length := by
  simp only [rfc1421StripPadding, Option.ite_none_left_eq_some, Option.ite_none_right_eq_some, Option.some.injEq] at accepted
  obtain ⟨lengthOk, bound, -, rfl⟩ := accepted
  have fits : blockLen ≤ content.length := by
    rcases Nat.eq_zero_or_pos blockLen with zero | positive
    · simp only [zero, Nat.mod_zero] at lengthOk
      omega
    · exact Nat.le_of_dvd (by omega) (Nat.dvd_of_mod_eq_zero (by omega))
  omega

theorem padBytesMatch_of_zero {content : Bytes} (zero : lastByte content = 0) :
    padBytesMatch content = true := by
  simp [padBytesMatch, zero]

theorem toNat_pos_of_ne_zero {b : UInt8} (nonzero : b ≠ 0) : 1 ≤ b.toNat := by
  have := mt UInt8.toNat.inj nonzero
  simp only [UInt8.toNat_zero] at this
  omega

theorem paddingSpec_of_not_fits (blockLen : Nat) {content : Bytes}
    (outside : ¬((lastByte content).toNat ≤ blockLen ∧ (lastByte content).toNat ≤ content.length)) :
    paddingSpec blockLen content = none :=
  if_neg fun spec => outside ⟨spec.2.1, spec.2.2.1⟩

theorem padBytesMatch_spec (blockLen : Nat) {content : Bytes} (nonzero : lastByte content ≠ 0)
    (withinBlock : (lastByte content).toNat ≤ blockLen) (fits : (lastByte content).toNat ≤ content.length) :
    (if padBytesMatch content then some (content.length - (lastByte content).toNat) else none) =
      paddingSpec blockLen content := by
  rw [paddingSpec, padBytesMatch_iff fits]
  by_cases bytes : (List.range' (content.length - (lastByte content).toNat) (lastByte content).toNat).all
      (fun j => content.getD j 0 == lastByte content) = true
  · rw [if_pos bytes, if_pos ⟨toNat_pos_of_ne_zero nonzero, withinBlock, fits, bytes⟩]
  · rw [if_neg bytes, if_neg (fun spec => bytes spec.2.2.2)]

theorem pkcs8StripPadding_eq (content : Bytes) :
    pkcs8StripPadding content =
      if content.length < 8 ∨ content.length % 8 ≠ 0 then none
      else if lastByte content = 0 then some content.length
      else if (lastByte content).toNat = content.length then none
      else paddingSpec 16 content := by
  rw [pkcs8StripPadding]
  by_cases lengthBad : content.length < 8 ∨ content.length % 8 ≠ 0
  · rw [if_pos lengthBad, if_pos lengthBad]
  rw [if_neg lengthBad, if_neg lengthBad]
  by_cases zero : lastByte content = 0
  · rw [if_pos zero, if_neg (by rw [zero, UInt8.toNat_zero]; omega), if_pos (padBytesMatch_of_zero zero), zero]
    rfl
  rw [if_neg zero]
  by_cases whole : (lastByte content).toNat = content.length
  · rw [if_pos whole, if_pos (Or.inl (le_of_eq whole.symm))]
  rw [if_neg whole]
  by_cases short : (lastByte content).toNat ≥ content.length ∨ (lastByte content).toNat > 16
  · rw [if_pos short, paddingSpec_of_not_fits 16 (by omega)]
  · rw [if_neg short, padBytesMatch_spec 16 zero (by omega) (by omega)]

theorem rfc1421StripPadding_eq (blockLen : Nat) (content : Bytes) :
    rfc1421StripPadding blockLen content =
      if content.length % blockLen ≠ 0 ∨ content.length = 0 then none
      else if lastByte content = 0 then some content.length
      else paddingSpec blockLen content := by
  rw [rfc1421StripPadding]
  by_cases lengthBad : content.length % blockLen ≠ 0 ∨ content.length = 0
  · rw [if_pos lengthBad, if_pos lengthBad]
  rw [if_neg lengthBad, if_neg lengthBad]
  have fits : blockLen ≤ content.length :=
    Nat.le_of_dvd (by omega) (Nat.dvd_of_mod_eq_zero (by omega))
  by_cases zero : lastByte content = 0
  · rw [if_pos zero, if_neg (by rw [zero, UInt8.toNat_zero]; omega), if_pos (padBytesMatch_of_zero zero), zero]
    rfl
  rw [if_neg zero]
  by_cases long : (lastByte content).toNat > blockLen
  · rw [if_pos long, paddingSpec_of_not_fits blockLen (by omega)]
  · rw [if_neg long, padBytesMatch_spec blockLen zero (by omega) (by omega)]

/-- Neither branch lets the key length underflow, and each accepts exactly RFC 1423 padding
apart from the pad value 0, which both accept; the PKCS#8 branch also bounds the pad by 16
whatever the cipher's block size, and refuses a pad as long as the buffer. So a 16-byte buffer
ending in 0 is accepted whole by both branches (with DES-CBC's 8-byte blocks for the second),
a PKCS#8 buffer under an 8-byte-block cipher ending in twelve bytes 12 loses them, and a
PKCS#8 buffer of one 8-byte block of padding is refused. -/
theorem private_key_padding_accepts_zero_pad :
    (∀ content : Bytes, pkcs8StripPadding content =
      if content.length < 8 ∨ content.length % 8 ≠ 0 then none
      else if lastByte content = 0 then some content.length
      else if (lastByte content).toNat = content.length then none
      else paddingSpec 16 content) ∧
    (∀ (blockLen : Nat) (content : Bytes), rfc1421StripPadding blockLen content =
      if content.length % blockLen ≠ 0 ∨ content.length = 0 then none
      else if lastByte content = 0 then some content.length
      else paddingSpec blockLen content) ∧
    (∀ (content : Bytes) (keyLen : Nat), pkcs8StripPadding content = some keyLen →
      keyLen + (lastByte content).toNat = content.length) ∧
    (∀ (blockLen : Nat) (content : Bytes) (keyLen : Nat), rfc1421StripPadding blockLen content = some keyLen →
      keyLen + (lastByte content).toNat = content.length) ∧
    pkcs8StripPadding (List.replicate 15 0x41 ++ [0]) = some 16 ∧
    dekInfoBlockLen (ascii "DES-CBC") = some 8 ∧
    rfc1421StripPadding 8 (List.replicate 15 0x41 ++ [0]) = some 16 ∧
    paddingSpec 8 (List.replicate 15 0x41 ++ [0]) = none ∧
    pkcs8StripPadding (List.replicate 4 0x41 ++ List.replicate 12 12) = some 4 ∧
    paddingSpec 8 (List.replicate 4 0x41 ++ List.replicate 12 12) = none ∧
    pkcs8StripPadding (List.replicate 8 8) = none ∧ paddingSpec 8 (List.replicate 8 8) = some 0 :=
  ⟨pkcs8StripPadding_eq, rfc1421StripPadding_eq, fun _ _ => pkcs8StripPadding_some,
    fun _ _ _ => rfc1421StripPadding_some, by decide, by decide, by decide, by decide, by decide, by decide,
    by decide, by decide⟩

end Iwd.Ell
