import Mathlib.Data.List.Basic
import Iwd.Netdev.Types
import Iwd.Ell.Str

/-!
ell's `l_settings`, the key file format iwd reads its network and AP profiles in: groups in
order, each with its key/value pairs in order. The setters store every value as text (a
string escaped by `escape_value`, or a number or truth value printed), `l_settings_to_data`
writes a `[group]` line for each group with a `key=value` line for each pair below it, and
`l_settings_load_from_data` reads the lines back. A pair's value is NULL from `parse_key`
until `parse_value` fills it. A parse function that dereferences a NULL pointer returns
`none`.
-/

namespace Iwd.Settings

open Iwd.Netdev (Bytes)

/-- `struct setting_data`. -/
structure SettingData where
  key : Bytes
  /-- NULL between `parse_key` and `parse_value`. -/
  value : Option Bytes
  deriving DecidableEq, Repr

/-- `struct group_data`. -/
structure GroupData where
  name : Bytes
  settings : List SettingData
  deriving DecidableEq, Repr

/-- `struct l_settings`, without its debug handler. -/
structure LSettings where
  groups : List GroupData
  deriving DecidableEq, Repr

/-- `l_settings_new`. -/
def lSettingsNew : LSettings := ⟨[]⟩

/-- The bytes of an ASCII text. -/
def ascii (s : String) : Bytes := s.toList.map fun c => c.toNat.toUInt8

/-! ### Bytes -/

/-- Modelled from the spec: `l_ascii_isblank`, a space or a tab. -/
def isBlank (c : UInt8) : Bool := c == 0x20 || c == 0x09

/-- Modelled from the spec: `l_ascii_isprint`, the bytes 0x20 to 0x7e. -/
def isPrint (c : UInt8) : Bool := 0x20 ≤ c && c ≤ 0x7E

/-- Modelled from the spec: `l_ascii_isalnum`. -/
def isAlnum (c : UInt8) : Bool :=
  (0x30 ≤ c && c ≤ 0x39) || (0x41 ≤ c && c ≤ 0x5A) || (0x61 ≤ c && c ≤ 0x7A)

/-- A byte `validate_key` and `parse_key` take into a key. -/
def isKeyChar (c : UInt8) : Bool := isAlnum c || c == 0x5F || c == 0x2D

/-- A UTF-8 continuation byte. -/
def isCont (c : UInt8) : Bool := 0x80 ≤ c && c ≤ 0xBF

/-- Modelled from ell, whose utf8.c is not in the source: `l_utf8_validate(data, len, NULL)`,
well-formed UTF-8 (RFC 3629) with no NUL byte, whose code points `valid_unicode` also accepts:
no noncharacter U+FDD0 to U+FDEF, and none that ends in FFFE or FFFF. -/
def utf8Validate : Bytes → Bool
  | [] => true
  | b :: rest =>
    if b == 0 then false
    else if b < 0x80 then utf8Validate rest
    else if b < 0xC2 then false
    else if b < 0xE0 then
      match rest with
      | c :: r => isCont c && utf8Validate r
      | [] => false
    else if b < 0xF0 then
      match rest with
      | c :: d :: r =>
        (if b == 0xE0 then 0xA0 ≤ c && c ≤ 0xBF else if b == 0xED then 0x80 ≤ c && c ≤ 0x9F
          else isCont c) && isCont d &&
          !(b == 0xEF && ((c == 0xB7 && 0x90 ≤ d && d ≤ 0xAF) || (c == 0xBF && 0xBE ≤ d))) && utf8Validate r
      | _ => false
    else if b < 0xF5 then
      match rest with
      | c :: d :: e :: r =>
        (if b == 0xF0 then 0x90 ≤ c && c ≤ 0xBF else if b == 0xF4 then 0x80 ≤ c && c ≤ 0x8F
          else isCont c) && isCont d && isCont e && !(c &&& 0x0F == 0x0F && d == 0xBF && 0xBE ≤ e) &&
          utf8Validate r
      | _ => false
    else false

/-! ### Values -/

/-- `escape_value`: leading spaces and tabs become `\s` and `\t`; newlines, carriage returns
and backslashes become `\n`, `\r` and `\\`. -/
def escapeValue (value : Bytes) : Bytes := go true value
where
  go (leadWhitespace : Bool) : Bytes → Bytes
  | [] => []
  | c :: rest =>
    if c == 0x20 then (if leadWhitespace then [0x5C, 0x73] else [c]) ++ go leadWhitespace rest
    else if c == 0x09 then (if leadWhitespace then [0x5C, 0x74] else [c]) ++ go leadWhitespace rest
    else if c == 0x0A then [0x5C, 0x6E] ++ go false rest
    else if c == 0x0D then [0x5C, 0x72] ++ go false rest
    else if c == 0x5C then [0x5C, 0x5C] ++ go false rest
    else c :: go false rest

/-- The first pass of `escape_value`: the number `j` of bytes the escapes add to the `i`
bytes of the value, for the `i + j + 1` it allocates. -/
def escapeValueCount (leadWhitespace : Bool) : Bytes → Nat
  | [] => 0
  | c :: rest =>
    if c == 0x20 || c == 0x09 then (if leadWhitespace then 1 else 0) + escapeValueCount leadWhitespace rest
    else if c == 0x0A || c == 0x0D || c == 0x5C then 1 + escapeValueCount false rest
    else escapeValueCount false rest

/-- The byte `\e` stands for in `unescape_value`. -/
def unescapeByte (e : UInt8) : Option UInt8 :=
  if e == 0x73 then some 0x20 else if e == 0x6E then some 0x0A else if e == 0x74 then some 0x09
  else if e == 0x72 then some 0x0D else if e == 0x5C then some 0x5C else none

/-- `unescape_value`: NULL for a backslash at the end or before a byte with no escape. -/
def unescapeValue : Bytes → Option Bytes
  | [] => some []
  | [c] => if c == 0x5C then none else some [c]
  | c :: e :: rest =>
    if c == 0x5C then (unescapeByte e).bind fun d => (d :: ·) <$> unescapeValue rest
    else (c :: ·) <$> unescapeValue (e :: rest)

/-- The decimal digits `snprintf` prints for `n`. -/
def decimalDigits (n : Nat) : Bytes :=
  if n < 10 then [(0x30 + n).toUInt8] else decimalDigits (n / 10) ++ [(0x30 + n % 10).toUInt8]
termination_by n
decreasing_by omega

/-- `snprintf(buf, sizeof(buf), "%d", n)`. -/
def formatInt (n : Int) : Bytes := (if n < 0 then [0x2D] else []) ++ decimalDigits n.natAbs

/-- The bytes `l_strjoinv` writes before its terminator: the strings with the delimiter
between them (`Iwd.Ell.lStrjoinvBuffer_eq`). -/
def lStrjoinv (strs : List Bytes) (delimiter : UInt8) : Bytes := [delimiter].intercalate strs

/-! ### Setters and getters -/

/-- `validate_group_name`. -/
def validateGroupName (groupName : Bytes) : Bool :=
  groupName.all fun c => isPrint c && c != 0x5D && c != 0x5B

/-- `validate_key`. -/
def validateKey (key : Bytes) : Bool := key.all isKeyChar

/-- The element `l_queue_find` returns, changed in place. -/
def updateFirst {α : Type} (p : α → Bool) (f : α → α) : List α → List α
  | [] => []
  | a :: l => if p a then f a :: l else a :: updateFirst p f l

/-- `set_value`: a new group goes to the end of the groups and a new key to the end of its
group; the value of a key already there is replaced. -/
def setValue (s : LSettings) (groupName key value : Bytes) : Bool × LSettings :=
  if !validateGroupName groupName then (false, s)
  else if !validateKey key then (false, s)
  else match s.groups.find? (·.name == groupName) with
    | none => (true, ⟨s.groups ++ [⟨groupName, [⟨key, some value⟩]⟩]⟩)
    | some group =>
      let settings :=
        match group.settings.find? (·.key == key) with
        | none => group.settings ++ [⟨key, some value⟩]
        | some _ => updateFirst (·.key == key) (fun p => { p with value := some value }) group.settings
      (true, ⟨updateFirst (·.name == groupName) (fun g => { g with settings }) s.groups⟩)

/-- `l_settings_set_value`. -/
def lSettingsSetValue (s : LSettings) (groupName key value : Bytes) : Bool × LSettings :=
  setValue s groupName key value

/-- `l_settings_set_string`. -/
def lSettingsSetString (s : LSettings) (groupName key value : Bytes) : Bool × LSettings :=
  setValue s groupName key (escapeValue value)

/-- `l_settings_set_string_list`: `escape_value` reads the joined buffer as a C string. -/
def lSettingsSetStringList (s : LSettings) (groupName key : Bytes) (value : List Bytes)
    (delimiter : UInt8) : Bool × LSettings :=
  setValue s groupName key (escapeValue (Iwd.Ell.cString (lStrjoinv value delimiter)))

/-- `l_settings_set_bool`. -/
def lSettingsSetBool (s : LSettings) (groupName key : Bytes) (b : Bool) : Bool × LSettings :=
  lSettingsSetValue s groupName key (if b then ascii "true" else ascii "false")

/-- `l_settings_set_int`, for every `int`. -/
def lSettingsSetInt (s : LSettings) (groupName key : Bytes) (n : Int) : Bool × LSettings :=
  lSettingsSetValue s groupName key (formatInt n)

/-- `l_settings_set_uint`, for every `unsigned int`. -/
def lSettingsSetUint (s : LSettings) (groupName key : Bytes) (n : Nat) : Bool × LSettings :=
  lSettingsSetValue s groupName key (decimalDigits n)

/-- `l_settings_set_int64`. -/
def lSettingsSetInt64 (s : LSettings) (groupName key : Bytes) (n : Int) : Bool × LSettings :=
  lSettingsSetValue s groupName key (formatInt n)

/-- `l_settings_set_uint64`. -/
def lSettingsSetUint64 (s : LSettings) (groupName key : Bytes) (n : Nat) : Bool × LSettings :=
  lSettingsSetValue s groupName key (decimalDigits n)

/-- `l_settings_remove_group`: the first group of that name goes. -/
def lSettingsRemoveGroup (s : LSettings) (groupName : Bytes) : Bool × LSettings :=
  match s.groups.find? (·.name == groupName) with
  | none => (false, s)
  | some _ => (true, ⟨s.groups.eraseP (·.name == groupName)⟩)

/-- `l_settings_remove_key`. -/
def lSettingsRemoveKey (s : LSettings) (groupName key : Bytes) : Bool × LSettings :=
  match s.groups.find? (·.name == groupName) with
  | none => (false, s)
  | some group =>
    match group.settings.find? (·.key == key) with
    | none => (false, s)
    | some _ =>
      (true, ⟨updateFirst (·.name == groupName)
        (fun g => { g with settings := g.settings.eraseP (·.key == key) }) s.groups⟩)

/-- `l_settings_get_value`. -/
def lSettingsGetValue (s : LSettings) (groupName key : Bytes) : Option Bytes :=
  (s.groups.find? (·.name == groupName)).bind fun group =>
    (group.settings.find? (·.key == key)).bind (·.value)

/-- `l_settings_get_string`. -/
def lSettingsGetString (s : LSettings) (groupName key : Bytes) : Option Bytes :=
  (lSettingsGetValue s groupName key).bind unescapeValue

/-- `l_settings_get_string_list`: the array `l_strsplit` returns for the unescaped C string. -/
def lSettingsGetStringList (s : LSettings) (groupName key : Bytes) (delimiter : UInt8) :
    Option (List (Option Bytes)) :=
  (lSettingsGetString s groupName key).bind fun str => Iwd.Ell.lStrsplit (Iwd.Ell.cString str) delimiter

/-! ### Writing and reading -/

/-- `l_settings_to_data`. A NULL value, which only a load in progress holds, prints as
nothing. -/
def lSettingsToData (s : LSettings) : Bytes := go s.groups
where
  go : List GroupData → Bytes
  | [] => []
  | g :: rest =>
    [0x5B] ++ g.name ++ [0x5D, 0x0A] ++
      g.settings.flatMap (fun p => p.key ++ [0x3D] ++ p.value.getD [] ++ [0x0A]) ++
      (if rest.isEmpty then [] else [0x0A]) ++ go rest

/-- `parse_group`, on a line that starts with `[`. -/
def parseGroup (s : LSettings) (data : Bytes) : Bool × LSettings :=
  let name := (data.drop 1).takeWhile (· != 0x5D)
  if name.any (fun c => !isPrint c || c == 0x5B) then (false, s)
  else match (data.drop 1).dropWhile (· != 0x5D) with
    | [] => (false, s)
    | _ :: junk => if junk.all isBlank then (true, ⟨s.groups ++ [⟨name, []⟩]⟩) else (false, s)

/-- `parse_key`: the key's length, `0` for a rejected key. The new pair, with a NULL value,
goes to the head of the last group, which `l_queue_peek_tail` gives without a check. -/
def parseKey (s : LSettings) (data : Bytes) : Option (Nat × LSettings) :=
  let key := data.takeWhile isKeyChar
  if !(data.dropWhile isKeyChar).all isBlank then some (0, s)
  else match s.groups.getLast? with
    | none => none
    | some group =>
      some (key.length, ⟨s.groups.dropLast ++ [{ group with settings := ⟨key, none⟩ :: group.settings }]⟩)

/-- `parse_value`: it pops the pair at the head of the last group and, for a value that is
valid UTF-8, fills it and puts it at the tail. -/
def parseValue (s : LSettings) (data : Bytes) : Option (Bool × LSettings) :=
  match s.groups.getLast? with
  | none => none
  | some group =>
    match group.settings with
    | [] => none
    | pair :: rest =>
      if utf8Validate data then
        some (true, ⟨s.groups.dropLast ++ [{ group with settings := rest ++ [{ pair with value := some data }] }]⟩)
      else some (false, ⟨s.groups.dropLast ++ [{ group with settings := rest }]⟩)

/-- `parse_keyvalue`. -/
def parseKeyvalue (s : LSettings) (data : Bytes) : Option (Bool × LSettings) :=
  match data.dropWhile (· != 0x3D) with
  | [] => some (false, s)
  | _ :: value =>
    let key := data.takeWhile (· != 0x3D)
    if key.isEmpty then some (false, s)
    else (parseKey s key).bind fun (keyLen, s) =>
      if keyLen == 0 then some (false, s) else parseValue s (value.dropWhile isBlank)

/-- One pass of the loop of `l_settings_load_from_data`, over one line: leading blanks are
skipped, an empty line or a `#` comment is passed over, a `[` line is a group header and any
other line a key and its value. -/
def loadLine (s : LSettings) (line : Bytes) : Option (Bool × LSettings) :=
  match line.dropWhile isBlank with
  | [] => some (true, s)
  | c :: l =>
    if c == 0x5B then some (parseGroup s (c :: l))
    else if c == 0x23 then some (true, s)
    else parseKeyvalue s (c :: l)

/-- The loop of `l_settings_load_from_data`: the lines in order, until one fails. -/
def loadLines (s : LSettings) : List Bytes → Option (Bool × LSettings)
  | [] => some (true, s)
  | line :: rest =>
    match loadLine s line with
    | some (true, s) => loadLines s rest
    | r => r

/-- `l_settings_load_from_data`; empty data is refused. -/
def lSettingsLoadFromData (s : LSettings) (data : Bytes) : Option (Bool × LSettings) :=
  if data.isEmpty then some (false, s) else loadLines s (data.splitOn 0x0A)

/-- `l_settings_load_from_file`, for the bytes it maps: `none` stands for a file it cannot
open, stat or map. An empty file loads as nothing. -/
def lSettingsLoadFromFile (s : LSettings) (contents : Option Bytes) : Option (Bool × LSettings) :=
  match contents with
  | none => some (false, s)
  | some [] => some (true, s)
  | some data => lSettingsLoadFromData s data

end Iwd.Settings
