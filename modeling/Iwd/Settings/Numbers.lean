import Mathlib.Algebra.Group.Int
import Iwd.Settings.Store

/-!
The number and truth-value getters of ell's settings.c against the setters. The integer
getters read the stored text with the C library's `strtol`, `strtoul`, `strtoll` and `strtoull`
in base 10. These are not in the source; they are modelled from the C standard for an LP64
target: white space, an optional sign, then the digits; ERANGE past the range of the type;
and for the unsigned ones a minus sign negates the value in the type.

Every number and truth value a setter stores reads back as itself
(`settings_numbers_round_trip`). An integer getter accepts exactly white space, an optional
sign and at least one digit, with nothing after them and a value its type holds
(`integer_getters_accept`). That is more than the setters write: leading blanks, a plus sign
and leading zeros pass, and the unsigned getters take a minus sign, so a negative `int64_t`
that `l_settings_set_int64` stores reads back through `l_settings_get_uint64` as its two's
complement (`negative_int64_reads_as_uint64`).
-/

namespace Iwd.Settings

open Iwd.Netdev (Bytes)

/-! ### The C library's conversions -/

/-- Modelled from the C standard: `isspace` in the C locale. -/
def isSpace (c : UInt8) : Bool := c == 0x20 || (0x09 ≤ c && c ≤ 0x0D)

/-- Modelled from the C standard: `isdigit`. -/
def isDigit (c : UInt8) : Bool := 0x30 ≤ c && c ≤ 0x39

/-- The value of a string of decimal digits. -/
def digitsValue (digits : Bytes) : Nat := digits.foldl (fun n d => 10 * n + (d.toNat - 0x30)) 0

/-- The optional sign: whether it is a minus, and the bytes after it. -/
def takeSign : Bytes → Bool × Bytes
  | c :: rest => if c == 0x2D then (true, rest) else if c == 0x2B then (false, rest) else (false, c :: rest)
  | [] => (false, [])

/-- The digits at the front of a string: their value and what follows them, `none` if the
string does not start with a digit. -/
def readDigits (str : Bytes) : Option (Nat × Bytes) :=
  if (str.takeWhile isDigit).isEmpty then none
  else some (digitsValue (str.takeWhile isDigit), str.dropWhile isDigit)

/-- What the base-10 `strto*` functions read before they fit the number to their type: the
sign, the value of the digits and what `*endp` points at after them. `none` when no digit
follows the white space and the sign: they then return 0 with `*endp` at the start. -/
def scanDecimal (str : Bytes) : Option (Bool × Nat × Bytes) :=
  let (negative, rest) := takeSign (str.dropWhile isSpace)
  (readDigits rest).map fun (value, endp) => (negative, value, endp)

/-- Modelled from the C standard: `strtol(str, &endp, 10)` with a 64-bit `long`. The value,
what `*endp` points at, and whether `errno` became ERANGE. -/
def strtol (str : Bytes) : Int × Bytes × Bool :=
  match scanDecimal str with
  | none => (0, str, false)
  | some (negative, value, endp) =>
    let n : Int := if negative then -value else value
    if 2 ^ 63 - 1 < n then (2 ^ 63 - 1, endp, true)
    else if n < -2 ^ 63 then (-2 ^ 63, endp, true)
    else (n, endp, false)

/-- `strtoll`: `long long` is `long` on LP64. -/
def strtoll (str : Bytes) : Int × Bytes × Bool := strtol str

/-- Modelled from the C standard: `strtoul(str, &endp, 10)` with a 64-bit `unsigned long`. A
value past ULONG_MAX is ERANGE, and a minus sign negates the value in the type. -/
def strtoul (str : Bytes) : Nat × Bytes × Bool :=
  match scanDecimal str with
  | none => (0, str, false)
  | some (negative, value, endp) =>
    if 2 ^ 64 - 1 < value then (2 ^ 64 - 1, endp, true)
    else ((if negative then 2 ^ 64 - value else value) % 2 ^ 64, endp, false)

/-- `strtoull`: `unsigned long long` is `unsigned long` on LP64. -/
def strtoull (str : Bytes) : Nat × Bytes × Bool := strtoul str

/-! ### The getters -/

/-- What `l_settings_get_int`, `l_settings_get_uint`, `l_settings_get_int64` and
`l_settings_get_uint64` share. The value must be there and not empty, the conversion must end
at its end without ERANGE, and its result must survive the assignment to the getter's type.
The number written to `*out`, or `none` where the getter returns false. -/
def getNumber {α : Type} (convert : Bytes → α × Bytes × Bool) (fits : α → Bool) (s : LSettings)
    (groupName key : Bytes) : Option α :=
  (lSettingsGetValue s groupName key).bind fun value =>
    if value.isEmpty then none
    else
      let (r, endp, erange) := convert value
      if !endp.isEmpty || erange || !fits r then none else some r

/-- `l_settings_get_int`: `t = r` truncates the `long` to a 32-bit `int`, and `r != t` refuses
a value that changed. -/
def lSettingsGetInt (s : LSettings) (groupName key : Bytes) : Option Int :=
  getNumber strtol (fun r => r.bmod (2 ^ 32) == r) s groupName key

/-- `l_settings_get_uint`: `t = r` truncates the `unsigned long` to a 32-bit `unsigned int`. -/
def lSettingsGetUint (s : LSettings) (groupName key : Bytes) : Option Nat :=
  getNumber strtoul (fun r => r % 2 ^ 32 == r) s groupName key

/-- `l_settings_get_int64`. -/
def lSettingsGetInt64 (s : LSettings) (groupName key : Bytes) : Option Int :=
  getNumber strtoll (fun _ => true) s groupName key

/-- `l_settings_get_uint64`. -/
def lSettingsGetUint64 (s : LSettings) (groupName key : Bytes) : Option Nat :=
  getNumber strtoull (fun _ => true) s groupName key

/-- Modelled from the C standard: `tolower` in the C locale. -/
def toLower (c : UInt8) : UInt8 := if 0x41 ≤ c && c ≤ 0x5A then c + 0x20 else c

/-- `!strcasecmp(a, b)`. -/
def strcaseEq (a b : Bytes) : Bool := a.map toLower == b.map toLower

/-- `l_settings_get_bool`. -/
def lSettingsGetBool (s : LSettings) (groupName key : Bytes) : Option Bool :=
  (lSettingsGetValue s groupName key).bind fun value =>
    if strcaseEq value (ascii "true") || value == ascii "1" then some true
    else if strcaseEq value (ascii "false") || value == ascii "0" then some false
    else none

/-! ### Bytes and digits -/

theorem toNat_le_iff (a b : UInt8) : a ≤ b ↔ a.toNat ≤ b.toNat := Iff.rfl

theorem toNat_eq_iff (a b : UInt8) : a = b ↔ a.toNat = b.toNat := ⟨congrArg UInt8.toNat, UInt8.toNat.inj⟩

theorem isSpace_eq_true {c : UInt8} (space : isSpace c = true) : c.toNat = 32 ∨ 9 ≤ c.toNat ∧ c.toNat ≤ 13 := by
  simpa only [isSpace, Bool.or_eq_true, beq_iff_eq, Bool.and_eq_true, decide_eq_true_eq, toNat_eq_iff,
    toNat_le_iff] using space

theorem digit_plain {c : UInt8} (digit : isDigit c = true) : isSpace c = false ∧ c ≠ 0x2D ∧ c ≠ 0x2B := by
  obtain ⟨lo, hi⟩ : 48 ≤ c.toNat ∧ c.toNat ≤ 57 := by
    simpa only [isDigit, Bool.and_eq_true, decide_eq_true_eq] using digit
  refine ⟨Bool.eq_false_iff.mpr fun space => ?_, fun minus => ?_, fun plus => ?_⟩
  · rcases isSpace_eq_true space with _ | _ <;> omega
  · subst minus; exact absurd lo (by decide)
  · subst plus; exact absurd lo (by decide)

theorem digit_byte : ∀ k < 10, isDigit (0x30 + k).toUInt8 = true ∧ (0x30 + k).toUInt8.toNat - 0x30 = k := by
  decide

theorem digitsValue_append (digits : Bytes) (d : UInt8) :
    digitsValue (digits ++ [d]) = 10 * digitsValue digits + (d.toNat - 0x30) := by
  simp [digitsValue, List.foldl_append]

theorem decimalDigits_ne_nil (n : Nat) : decimalDigits n ≠ [] := by
  rw [decimalDigits]
  split <;> simp

theorem isDigit_decimalDigits (n : Nat) : ∀ c ∈ decimalDigits n, isDigit c = true := by
  induction n using decimalDigits.induct with
  | case1 n small =>
    rw [decimalDigits, if_pos small]
    simpa using (digit_byte n small).1
  | case2 n large ih =>
    rw [decimalDigits, if_neg large]
    intro c held
    rcases List.mem_append.mp held with front | last
    · exact ih c front
    · rw [List.mem_singleton.mp last]
      exact (digit_byte _ (Nat.mod_lt n (by omega))).1

theorem digitsValue_decimalDigits (n : Nat) : digitsValue (decimalDigits n) = n := by
  induction n using decimalDigits.induct with
  | case1 n small =>
    rw [decimalDigits, if_pos small]
    simp [digitsValue, (digit_byte n small).2]
  | case2 n large ih =>
    rw [decimalDigits, if_neg large, digitsValue_append, ih, (digit_byte _ (Nat.mod_lt n (by omega))).2]
    omega

/-! ### What the conversions read -/

/-- The text of a number as the `strto*` functions read it to its end: white space, an optional
sign, and at least one digit. -/
def DecimalText (str : Bytes) (negative : Bool) (value : Nat) : Prop :=
  ∃ blanks sign digits, str = blanks ++ sign ++ digits ∧ (∀ c ∈ blanks, isSpace c = true) ∧
    (negative = true ∧ sign = [0x2D] ∨ negative = false ∧ (sign = [] ∨ sign = [0x2B])) ∧
    digits ≠ [] ∧ (∀ c ∈ digits, isDigit c = true) ∧ value = digitsValue digits

theorem readDigits_eq_some_nil_iff (str : Bytes) (value : Nat) :
    readDigits str = some (value, []) ↔ str ≠ [] ∧ (∀ c ∈ str, isDigit c = true) ∧ value = digitsValue str := by
  unfold readDigits
  constructor
  · intro read
    split at read
    · cases read
    · next taken =>
      obtain ⟨rfl, rest⟩ := Prod.mk.inj (Option.some.inj read)
      have whole : str.takeWhile isDigit = str := by
        simpa [rest] using List.takeWhile_append_dropWhile isDigit str
      refine ⟨fun empty => taken (by simp [empty]), List.takeWhile_eq_self_iff.mp whole, by rw [whole]⟩
  · rintro ⟨nonempty, digit, rfl⟩
    have whole : str.takeWhile isDigit = str := List.takeWhile_eq_self_iff.mpr digit
    rw [if_neg (by simpa [whole] using nonempty), whole, List.dropWhile_eq_nil_iff.mpr digit]

theorem takeSign_cases {str rest : Bytes} {negative : Bool} (taken : takeSign str = (negative, rest)) :
    ∃ sign, str = sign ++ rest ∧ (negative = true ∧ sign = [0x2D] ∨ negative = false ∧ (sign = [] ∨ sign = [0x2B])) := by
  cases str with
  | nil => obtain ⟨rfl, rfl⟩ := Prod.mk.inj taken; exact ⟨[], rfl, .inr ⟨rfl, .inl rfl⟩⟩
  | cons c str =>
    simp only [takeSign] at taken
    split_ifs at taken with minus plus <;> obtain ⟨rfl, rfl⟩ := Prod.mk.inj taken
    · exact ⟨[c], rfl, .inl ⟨rfl, by simpa using minus⟩⟩
    · exact ⟨[c], rfl, .inr ⟨rfl, .inr (by simpa using plus)⟩⟩
    · exact ⟨[], rfl, .inr ⟨rfl, .inl rfl⟩⟩

theorem takeSign_signed {sign digits : Bytes} {negative : Bool} (nonempty : digits ≠ [])
    (digit : ∀ c ∈ digits, isDigit c = true)
    (signed : negative = true ∧ sign = [0x2D] ∨ negative = false ∧ (sign = [] ∨ sign = [0x2B])) :
    (sign ++ digits).dropWhile isSpace = sign ++ digits ∧ takeSign (sign ++ digits) = (negative, digits) := by
  obtain ⟨d, ds, rfl⟩ := List.exists_cons_of_ne_nil nonempty
  obtain ⟨blank, minus, plus⟩ := digit_plain (digit d (List.mem_cons_self _ _))
  rcases signed with ⟨rfl, rfl⟩ | ⟨rfl, rfl | rfl⟩
  · exact ⟨List.dropWhile_cons_of_neg (by decide), by simp [takeSign]⟩
  · exact ⟨List.dropWhile_cons_of_neg (by simp [blank]), by simp [takeSign, minus, plus]⟩
  · exact ⟨List.dropWhile_cons_of_neg (by decide), by simp [takeSign]⟩

theorem scanDecimal_eq_some_iff (str : Bytes) (negative : Bool) (value : Nat) :
    scanDecimal str = some (negative, value, []) ↔ DecimalText str negative value := by
  constructor
  · intro scanned
    rcases taken : takeSign (str.dropWhile isSpace) with ⟨negative', rest⟩
    rw [scanDecimal, taken] at scanned
    obtain ⟨⟨value', endp⟩, read, same⟩ := Option.map_eq_some'.mp scanned
    simp only [Prod.mk.injEq] at same
    obtain ⟨rfl, rfl, rfl⟩ := same
    obtain ⟨nonempty, digit, rfl⟩ := (readDigits_eq_some_nil_iff _ _).mp read
    obtain ⟨sign, split, signed⟩ := takeSign_cases taken
    refine ⟨str.takeWhile isSpace, sign, _, ?_, fun c held => List.mem_takeWhile_imp held, signed, nonempty, digit, rfl⟩
    rw [List.append_assoc, ← split, List.takeWhile_append_dropWhile]
  · rintro ⟨blanks, sign, digits, rfl, blank, signed, nonempty, digit, rfl⟩
    obtain ⟨kept, taken⟩ := takeSign_signed nonempty digit signed
    rw [scanDecimal, List.append_assoc, List.dropWhile_append_of_pos blank, kept, taken]
    simp [(readDigits_eq_some_nil_iff _ _).mpr ⟨nonempty, digit, rfl⟩]

theorem scanDecimal_decimalDigits (n : Nat) : scanDecimal (decimalDigits n) = some (false, n, []) :=
  (scanDecimal_eq_some_iff _ _ _).mpr ⟨[], [], decimalDigits n, rfl, by simp, .inr ⟨rfl, .inl rfl⟩,
    decimalDigits_ne_nil n, isDigit_decimalDigits n, (digitsValue_decimalDigits n).symm⟩

theorem scanDecimal_formatInt (n : Int) : scanDecimal (formatInt n) = some (decide (n < 0), n.natAbs, []) := by
  refine (scanDecimal_eq_some_iff _ _ _).mpr ⟨[], if n < 0 then [0x2D] else [], decimalDigits n.natAbs,
    by simp [formatInt], by simp, ?_, decimalDigits_ne_nil _, isDigit_decimalDigits _,
    (digitsValue_decimalDigits _).symm⟩
  by_cases negative : n < 0 <;> simp [negative]

/-! ### What the conversions return -/

theorem strtol_eq_iff {str : Bytes} (nonempty : str ≠ []) (r : Int) :
    strtol str = (r, [], false) ↔
      ∃ negative value, scanDecimal str = some (negative, value, []) ∧
        r = (if negative then -(value : Int) else value) ∧ -2 ^ 63 ≤ r ∧ r < 2 ^ 63 := by
  unfold strtol
  cases scanned : scanDecimal str with
  | none => simp [nonempty]
  | some read =>
    obtain ⟨negative, value, endp⟩ := read
    dsimp only
    generalize signed : (if negative = true then -(value : Int) else value) = n
    constructor
    · intro converted
      split_ifs at converted with over under <;> simp only [Prod.mk.injEq] at converted
      · exact nomatch converted.2.2
      · exact nomatch converted.2.2
      · obtain ⟨rfl, rfl, -⟩ := converted
        exact ⟨negative, value, rfl, signed.symm, by omega, by omega⟩
    · rintro ⟨negative', value', same, rfl, lo, hi⟩
      obtain ⟨rfl, rfl, rfl⟩ : negative = negative' ∧ value = value' ∧ endp = [] := by simpa using same
      rw [signed, if_neg (by omega), if_neg (by omega)]

theorem strtoul_eq_iff {str : Bytes} (nonempty : str ≠ []) (r : Nat) :
    strtoul str = (r, [], false) ↔
      ∃ negative value, scanDecimal str = some (negative, value, []) ∧ value < 2 ^ 64 ∧
        r = (if negative then 2 ^ 64 - value else value) % 2 ^ 64 := by
  unfold strtoul
  cases scanned : scanDecimal str with
  | none => simp [nonempty]
  | some read =>
    obtain ⟨negative, value, endp⟩ := read
    dsimp only
    generalize signed : (if negative = true then 2 ^ 64 - value else value) = n
    constructor
    · intro converted
      split_ifs at converted with over <;> simp only [Prod.mk.injEq] at converted
      · exact nomatch converted.2.2
      · obtain ⟨rfl, rfl, -⟩ := converted
        exact ⟨negative, value, rfl, by omega, by rw [signed]⟩
    · rintro ⟨negative', value', same, small, rfl⟩
      obtain ⟨rfl, rfl, rfl⟩ : negative = negative' ∧ value = value' ∧ endp = [] := by simpa using same
      rw [signed, if_neg (by omega)]

theorem getNumber_eq_some {α : Type} {convert : Bytes → α × Bytes × Bool} {fits : α → Bool} {s : LSettings}
    {groupName key : Bytes} {r : α} :
    getNumber convert fits s groupName key = some r ↔
      ∃ value, lSettingsGetValue s groupName key = some value ∧ value ≠ [] ∧ convert value = (r, [], false) ∧
        fits r = true := by
  simp only [getNumber, Option.bind_eq_some]
  refine exists_congr fun value => and_congr_right fun _ => ?_
  rcases converted : convert value with ⟨r', endp, erange⟩
  cases value <;> simp [converted, Option.ite_none_left_eq_some]
  constructor
  · rintro ⟨⟨⟨rfl, rfl⟩, fitting⟩, rfl⟩
    exact ⟨⟨rfl, rfl, rfl⟩, fitting⟩
  · rintro ⟨⟨rfl, rfl, rfl⟩, fitting⟩
    exact ⟨⟨⟨rfl, rfl⟩, fitting⟩, rfl⟩

theorem bmod_eq_self_iff (r : Int) : r.bmod (2 ^ 32) = r ↔ -2 ^ 31 ≤ r ∧ r < 2 ^ 31 := by
  rw [Int.bmod_def]
  split_ifs <;> omega

/-! ### What the getters accept -/

theorem DecimalText.ne_nil {str : Bytes} {negative : Bool} {value : Nat} (h : DecimalText str negative value) :
    str ≠ [] := by
  obtain ⟨blanks, sign, digits, rfl, -, -, nonempty, -⟩ := h
  simp [nonempty]

theorem lSettingsGetInt_eq_some (s : LSettings) (groupName key : Bytes) (r : Int) :
    lSettingsGetInt s groupName key = some r ↔ ∃ value negative digits,
      lSettingsGetValue s groupName key = some value ∧ DecimalText value negative digits ∧
        r = (if negative then -(digits : Int) else digits) ∧ -2 ^ 31 ≤ r ∧ r < 2 ^ 31 := by
  rw [lSettingsGetInt, getNumber_eq_some]
  constructor
  · rintro ⟨value, found, nonempty, converted, fitting⟩
    obtain ⟨negative, digits, scanned, rfl, -, -⟩ := (strtol_eq_iff nonempty r).mp converted
    exact ⟨value, negative, digits, found, (scanDecimal_eq_some_iff _ _ _).mp scanned, rfl,
      (bmod_eq_self_iff _).mp (by simpa using fitting)⟩
  · rintro ⟨value, negative, digits, found, text, rfl, lo, hi⟩
    exact ⟨value, found, text.ne_nil, (strtol_eq_iff text.ne_nil _).mpr
      ⟨negative, digits, (scanDecimal_eq_some_iff _ _ _).mpr text, rfl, by omega, by omega⟩,
      by simpa using (bmod_eq_self_iff _).mpr ⟨lo, hi⟩⟩

theorem lSettingsGetUint_eq_some (s : LSettings) (groupName key : Bytes) (r : Nat) :
    lSettingsGetUint s groupName key = some r ↔ ∃ value negative digits,
      lSettingsGetValue s groupName key = some value ∧ DecimalText value negative digits ∧ digits < 2 ^ 64 ∧
        r = (if negative then 2 ^ 64 - digits else digits) % 2 ^ 64 ∧ r < 2 ^ 32 := by
  rw [lSettingsGetUint, getNumber_eq_some]
  constructor
  · rintro ⟨value, found, nonempty, converted, fitting⟩
    obtain ⟨negative, digits, scanned, small, rfl⟩ := (strtoul_eq_iff nonempty r).mp converted
    exact ⟨value, negative, digits, found, (scanDecimal_eq_some_iff _ _ _).mp scanned, small, rfl,
      beq_iff_eq.mp fitting ▸ Nat.mod_lt _ (by decide)⟩
  · rintro ⟨value, negative, digits, found, text, small, rfl, fits⟩
    exact ⟨value, found, text.ne_nil, (strtoul_eq_iff text.ne_nil _).mpr
      ⟨negative, digits, (scanDecimal_eq_some_iff _ _ _).mpr text, small, rfl⟩, beq_iff_eq.mpr (Nat.mod_eq_of_lt fits)⟩

theorem lSettingsGetInt64_eq_some (s : LSettings) (groupName key : Bytes) (r : Int) :
    lSettingsGetInt64 s groupName key = some r ↔ ∃ value negative digits,
      lSettingsGetValue s groupName key = some value ∧ DecimalText value negative digits ∧
        r = (if negative then -(digits : Int) else digits) ∧ -2 ^ 63 ≤ r ∧ r < 2 ^ 63 := by
  rw [lSettingsGetInt64, getNumber_eq_some]
  constructor
  · rintro ⟨value, found, nonempty, converted, -⟩
    obtain ⟨negative, digits, scanned, rfl, range⟩ := (strtol_eq_iff nonempty r).mp converted
    exact ⟨value, negative, digits, found, (scanDecimal_eq_some_iff _ _ _).mp scanned, rfl, range⟩
  · rintro ⟨value, negative, digits, found, text, rfl, range⟩
    exact ⟨value, found, text.ne_nil, (strtol_eq_iff text.ne_nil _).mpr
      ⟨negative, digits, (scanDecimal_eq_some_iff _ _ _).mpr text, rfl, range⟩, rfl⟩

theorem lSettingsGetUint64_eq_some (s : LSettings) (groupName key : Bytes) (r : Nat) :
    lSettingsGetUint64 s groupName key = some r ↔ ∃ value negative digits,
      lSettingsGetValue s groupName key = some value ∧ DecimalText value negative digits ∧ digits < 2 ^ 64 ∧
        r = (if negative then 2 ^ 64 - digits else digits) % 2 ^ 64 := by
  rw [lSettingsGetUint64, getNumber_eq_some]
  constructor
  · rintro ⟨value, found, nonempty, converted, -⟩
    obtain ⟨negative, digits, scanned, small, rfl⟩ := (strtoul_eq_iff nonempty r).mp converted
    exact ⟨value, negative, digits, found, (scanDecimal_eq_some_iff _ _ _).mp scanned, small, rfl⟩
  · rintro ⟨value, negative, digits, found, text, small, rfl⟩
    exact ⟨value, found, text.ne_nil, (strtoul_eq_iff text.ne_nil _).mpr
      ⟨negative, digits, (scanDecimal_eq_some_iff _ _ _).mpr text, small, rfl⟩, rfl⟩

/-- An integer getter accepts exactly white space, an optional sign and at least one digit, with
nothing after them, whose value its type holds: -2³¹ to 2³¹ - 1 for `int`, -2⁶³ to 2⁶³ - 1 for
`int64_t`. The unsigned getters take a minus sign and negate the value modulo 2⁶⁴, which an
`unsigned int` must then hold. -/
theorem integer_getters_accept (s : LSettings) (groupName key : Bytes) :
    (∀ r, lSettingsGetInt s groupName key = some r ↔ ∃ value negative digits,
      lSettingsGetValue s groupName key = some value ∧ DecimalText value negative digits ∧
        r = (if negative then -(digits : Int) else digits) ∧ -2 ^ 31 ≤ r ∧ r < 2 ^ 31) ∧
    (∀ r, lSettingsGetUint s groupName key = some r ↔ ∃ value negative digits,
      lSettingsGetValue s groupName key = some value ∧ DecimalText value negative digits ∧ digits < 2 ^ 64 ∧
        r = (if negative then 2 ^ 64 - digits else digits) % 2 ^ 64 ∧ r < 2 ^ 32) ∧
    (∀ r, lSettingsGetInt64 s groupName key = some r ↔ ∃ value negative digits,
      lSettingsGetValue s groupName key = some value ∧ DecimalText value negative digits ∧
        r = (if negative then -(digits : Int) else digits) ∧ -2 ^ 63 ≤ r ∧ r < 2 ^ 63) ∧
    (∀ r, lSettingsGetUint64 s groupName key = some r ↔ ∃ value negative digits,
      lSettingsGetValue s groupName key = some value ∧ DecimalText value negative digits ∧ digits < 2 ^ 64 ∧
        r = (if negative then 2 ^ 64 - digits else digits) % 2 ^ 64) :=
  ⟨lSettingsGetInt_eq_some s groupName key, lSettingsGetUint_eq_some s groupName key,
    lSettingsGetInt64_eq_some s groupName key, lSettingsGetUint64_eq_some s groupName key⟩

/-! ### Reading back what the setters store -/

theorem formatInt_ne_nil (n : Int) : formatInt n ≠ [] := by
  simp [formatInt, decimalDigits_ne_nil]

theorem strtol_formatInt {n : Int} (lo : -2 ^ 63 ≤ n) (hi : n < 2 ^ 63) : strtol (formatInt n) = (n, [], false) :=
  (strtol_eq_iff (formatInt_ne_nil n) n).mpr ⟨_, _, scanDecimal_formatInt n,
    by simp only [decide_eq_true_eq]; split <;> omega, lo, hi⟩

theorem strtoul_decimalDigits {n : Nat} (small : n < 2 ^ 64) : strtoul (decimalDigits n) = (n, [], false) :=
  (strtoul_eq_iff (decimalDigits_ne_nil n) n).mpr ⟨_, _, scanDecimal_decimalDigits n, small, by simp; omega⟩

theorem getNumber_setValue {α : Type} {convert : Bytes → α × Bytes × Bool} {fits : α → Bool} {s : LSettings}
    {groupName key text : Bytes} {r : α} (set : (setValue s groupName key text).1 = true) (nonempty : text ≠ [])
    (converted : convert text = (r, [], false)) (fitting : fits r = true) :
    getNumber convert fits (setValue s groupName key text).2 groupName key = some r :=
  getNumber_eq_some.mpr ⟨text, lSettingsGetValue_setValue _ _ _ _ set, nonempty, converted, fitting⟩

/-- Every number and truth value the setters store under a group name and key the format allows
reads back through the matching getter as itself: an `int`, an `unsigned int`, an `int64_t`,
a `uint64_t` and a `bool`. -/
theorem settings_numbers_round_trip (s : LSettings) (groupName key : Bytes)
    (valid : (validateGroupName groupName && validateKey key) = true) :
    (∀ n : Int, -2 ^ 31 ≤ n → n < 2 ^ 31 →
      lSettingsGetInt (lSettingsSetInt s groupName key n).2 groupName key = some n) ∧
    (∀ n : Nat, n < 2 ^ 32 → lSettingsGetUint (lSettingsSetUint s groupName key n).2 groupName key = some n) ∧
    (∀ n : Int, -2 ^ 63 ≤ n → n < 2 ^ 63 →
      lSettingsGetInt64 (lSettingsSetInt64 s groupName key n).2 groupName key = some n) ∧
    (∀ n : Nat, n < 2 ^ 64 → lSettingsGetUint64 (lSettingsSetUint64 s groupName key n).2 groupName key = some n) ∧
    (∀ b : Bool, lSettingsGetBool (lSettingsSetBool s groupName key b).2 groupName key = some b) := by
  have set (text : Bytes) : (setValue s groupName key text).1 = true := setValue_valid text valid
  refine ⟨fun n lo hi => getNumber_setValue (set _) (formatInt_ne_nil n) (strtol_formatInt (by omega) (by omega))
      (by simpa using (bmod_eq_self_iff n).mpr ⟨lo, hi⟩),
    fun n small => getNumber_setValue (set _) (decimalDigits_ne_nil n) (strtoul_decimalDigits (by omega))
      (beq_iff_eq.mpr (Nat.mod_eq_of_lt small)),
    fun n lo hi => getNumber_setValue (set _) (formatInt_ne_nil n) (strtol_formatInt lo hi) rfl,
    fun n small => getNumber_setValue (set _) (decimalDigits_ne_nil n) (strtoul_decimalDigits small) rfl,
    fun b => ?_⟩
  cases b <;> simp only [lSettingsGetBool, lSettingsSetBool, lSettingsSetValue,
    lSettingsGetValue_setValue _ _ _ _ (set _)] <;> decide

/-- The channel of `[General]` of a new object. -/
theorem settings_numbers_round_trip_channel :
    (validateGroupName (ascii "General") && validateKey (ascii "Channel")) = true ∧
      lSettingsGetInt (lSettingsSetInt lSettingsNew (ascii "General") (ascii "Channel") 6).2
        (ascii "General") (ascii "Channel") = some 6 :=
  ⟨by decide, (settings_numbers_round_trip lSettingsNew _ _ (by decide)).1 6 (by decide) (by decide)⟩

theorem strtoul_formatInt_neg {n : Nat} (pos : 0 < n) (small : n < 2 ^ 64) :
    strtoul (formatInt (-n)) = (2 ^ 64 - n, [], false) := by
  have scanned : scanDecimal (formatInt (-n)) = some (true, n, []) := by
    have negative : -(n : Int) < 0 := by omega
    have magnitude : (-(n : Int)).natAbs = n := by omega
    rw [scanDecimal_formatInt, magnitude, decide_eq_true negative]
  exact (strtoul_eq_iff (formatInt_ne_nil _) _).mpr ⟨true, n, scanned, small, by simp; omega⟩

/-- A negative `int64_t` that `l_settings_set_int64` stores reads back through
`l_settings_get_uint64` without an error, as its two's complement, while
`l_settings_get_uint` refuses every negative `int` that `l_settings_set_int` stores. -/
theorem negative_int64_reads_as_uint64 (s : LSettings) (groupName key : Bytes)
    (valid : (validateGroupName groupName && validateKey key) = true) :
    (∀ n : Nat, 0 < n → n ≤ 2 ^ 63 →
      lSettingsGetUint64 (lSettingsSetInt64 s groupName key (-n)).2 groupName key = some (2 ^ 64 - n)) ∧
    (∀ n : Nat, 0 < n → n ≤ 2 ^ 31 →
      lSettingsGetUint (lSettingsSetInt s groupName key (-n)).2 groupName key = none) := by
  have set (text : Bytes) : (setValue s groupName key text).1 = true := setValue_valid text valid
  refine ⟨fun n pos small => getNumber_setValue (set _) (formatInt_ne_nil _)
    (strtoul_formatInt_neg pos (by omega)) rfl, fun n pos small => ?_⟩
  refine Option.eq_none_iff_forall_not_mem.mpr fun r got => ?_
  obtain ⟨value, found, -, converted, fitting⟩ := getNumber_eq_some.mp got
  rw [lSettingsSetInt, lSettingsSetValue, lSettingsGetValue_setValue _ _ _ _ (set _), Option.some.injEq] at found
  rw [← found, strtoul_formatInt_neg pos (by omega), Prod.mk.injEq] at converted
  rw [← converted.1] at fitting
  have kept := beq_iff_eq.mp fitting
  omega

/-- The channel -1, stored as an `int64_t` and as an `int`. -/
theorem negative_channel_reads_as_uint64 :
    (validateGroupName (ascii "General") && validateKey (ascii "Channel")) = true ∧
      lSettingsGetUint64 (lSettingsSetInt64 lSettingsNew (ascii "General") (ascii "Channel") (-1)).2
        (ascii "General") (ascii "Channel") = some (2 ^ 64 - 1) ∧
      lSettingsGetUint (lSettingsSetInt lSettingsNew (ascii "General") (ascii "Channel") (-1)).2
        (ascii "General") (ascii "Channel") = none :=
  ⟨by decide, (negative_int64_reads_as_uint64 lSettingsNew _ _ (by decide)).1 1 (by decide) (by decide),
    (negative_int64_reads_as_uint64 lSettingsNew _ _ (by decide)).2 1 (by decide) (by decide)⟩

end Iwd.Settings
