import Iwd.Ell.Hexstring
import Iwd.Settings.Format

/-!
ell's hex dumps. `hexdump` formats a buffer sixteen bytes to a line in its buffer `str`, and
`l_util_hexdumpv` runs the same loop over an array of iovec entries, stepping to the next entry
when its offset reaches the current entry's length. That step is taken once per byte, so an
empty entry after another entry is not skipped: the next byte is read at offset 0 of the empty
entry, outside it. The dump of the array is the dump of the concatenated entries exactly when
no such read happens, which is when every entry after the first that is empty is followed
only by empty entries.
-/

namespace Iwd.Ell

open Iwd.Netdev (Bytes)
open Iwd.Settings (isPrint)

/-- The `i`-th byte of the loop into `str`: the separator, the two digits and the character
column, and the line handed to `function` when the byte completes one, after which `str[0]`
becomes a blank. -/
def hexdumpStep (str : Bytes) (i : Nat) (b : UInt8) : Bytes × List Bytes :=
  let k := i % 16
  let str := (((str.set (k * 3 + 1) 0x20).set (k * 3 + 2) (hexdigits.getD (b >>> 4).toNat 0)).set
    (k * 3 + 3) (hexdigits.getD (b &&& 0xf).toNat 0)).set (k + 51) (if isPrint b then b else 0x2E)
  if (i + 1) % 16 = 0 then
    let line := ((str.set 49 0x20).set 50 0x20).set 67 0
    (line.set 0 0x20, [line.take 67])
  else (str, [])

/-- After the loop, a partial last line: its remaining columns blanked, and the line. -/
def hexdumpTail (str : Bytes) (i : Nat) : List Bytes :=
  if i % 16 > 0 then
    let str := (List.range' (i % 16) (16 - i % 16)).foldl (fun str j =>
      (((str.set (j * 3 + 1) 0x20).set (j * 3 + 2) 0x20).set (j * 3 + 3) 0x20).set (j + 51) 0x20) str
    [(((str.set 49 0x20).set 50 0x20).set 67 0).take 67]
  else []

/-- The byte loop of `hexdump` from position `i`: the buffer after it and the lines. -/
def hexdumpLoop (str : Bytes) (i : Nat) : Bytes → Bytes × List Bytes
  | [] => (str, [])
  | b :: rest =>
    let (str, lines) := hexdumpStep str i b
    let (str, more) := hexdumpLoop str (i + 1) rest
    (str, lines ++ more)

/-- `char str[68]` with `str[0] = dir`; the other bytes are written before they are read. -/
def hexdumpStart (dir : UInt8) : Bytes := (List.replicate 68 0).set 0 dir

/-- `hexdump`: the lines it hands to `function`. -/
def hexdump (dir : UInt8) (buf : Bytes) : List Bytes :=
  if buf.length = 0 then []
  else
    let (str, lines) := hexdumpLoop (hexdumpStart dir) 0 buf
    lines ++ hexdumpTail str buf.length

/-- `in ? '<' : '>'`. -/
def hexdumpDir (dirIn : Bool) : UInt8 := if dirIn then 0x3C else 0x3E

/-- `l_util_hexdump` with a callback. -/
def lUtilHexdump (dirIn : Bool) (buf : Bytes) : List Bytes := hexdump (hexdumpDir dirIn) buf

/-- The byte loop of `l_util_hexdumpv` with `n` bytes left: `iov` from the current entry on and
`c` the offset in it. Before each byte, `if (c == iov[0].iov_len) { c = 0; iov += 1; }`; then
`buf[c]` is read, `none` when it lies outside the entry. -/
def hexdumpvLoop (str : Bytes) (iov : List Bytes) (c i : Nat) : Nat → Option (Bytes × List Bytes)
  | 0 => some (str, [])
  | n + 1 =>
    let (iov, c) := match iov with
      | e :: rest => if c = e.length then (rest, 0) else (iov, c)
      | [] => ([], c)
    match iov.head?.bind (·[c]?) with
    | some b =>
      let (str, lines) := hexdumpStep str i b
      (hexdumpvLoop str iov (c + 1) (i + 1) n).map fun (str, more) => (str, lines ++ more)
    | none => none

/-- `l_util_hexdumpv` with a callback: the lines, or `none` for a read outside an entry. -/
def lUtilHexdumpv (dirIn : Bool) (iov : List Bytes) : Option (List Bytes) :=
  if iov = [] then some []
  else
    let len := totalLength iov
    (hexdumpvLoop (hexdumpStart (hexdumpDir dirIn)) iov 0 0 len).map fun (str, lines) =>
      lines ++ hexdumpTail str len

/-- The entries after the current one step by step: the first empty one is followed only by
empty ones. -/
def laterEntriesWalkable (rest : List Bytes) : Bool := (rest.dropWhile (· ≠ [])).all (· = [])

/-- Every entry after the first that is empty is followed only by empty entries. -/
def iovWalkable (iov : List Bytes) : Bool := laterEntriesWalkable (iov.drop 1)

/-! ### The walk against the concatenation -/

theorem hexdumpLoop_cons (str : Bytes) (i : Nat) (b : UInt8) (rest : Bytes) :
    hexdumpLoop str i (b :: rest) =
      ((hexdumpLoop (hexdumpStep str i b).1 (i + 1) rest).1,
        (hexdumpStep str i b).2 ++ (hexdumpLoop (hexdumpStep str i b).1 (i + 1) rest).2) := rfl

theorem laterEntriesWalkable_cons {f : Bytes} (nonempty : f ≠ []) (rest : List Bytes) :
    laterEntriesWalkable (f :: rest) = laterEntriesWalkable rest := by
  simp [laterEntriesWalkable, List.dropWhile_cons, nonempty]

theorem laterEntriesWalkable_nil_cons (rest : List Bytes) :
    laterEntriesWalkable ([] :: rest) = rest.all (· = []) := by
  simp [laterEntriesWalkable, List.dropWhile_cons]

theorem laterEntriesWalkable_of_totalLength_zero {rest : List Bytes} (none : totalLength rest = 0) :
    laterEntriesWalkable rest = true := by
  match rest, none with
  | [], _ => rfl
  | f :: rest, none =>
    have empty : f = [] := List.length_eq_zero.mp (by simp only [totalLength] at none; omega)
    subst empty
    rw [laterEntriesWalkable_nil_cons, ← totalLength_eq_zero]
    simpa [totalLength] using none

theorem hexdumpvLoop_eq (str : Bytes) (e : Bytes) (rest : List Bytes) (c i n : Nat) (within : c ≤ e.length)
    (left : n = e.length - c + totalLength rest) :
    hexdumpvLoop str (e :: rest) c i n =
      if laterEntriesWalkable rest then some (hexdumpLoop str i (e.drop c ++ rest.flatten)) else none := by
  induction n generalizing str e rest c i with
  | zero =>
    have ended : c = e.length := by omega
    have none : totalLength rest = 0 := by omega
    have flat : rest.flatten = [] := by
      rw [List.flatten_eq_nil_iff]
      simpa using totalLength_eq_zero.mp none
    rw [hexdumpvLoop, laterEntriesWalkable_of_totalLength_zero none, if_pos rfl, ended, List.drop_length, flat]
    rfl
  | succ n ih =>
    rw [hexdumpvLoop]
    by_cases ended : c = e.length
    · subst ended
      simp only [if_true]
      match rest, left with
      | [], left => simp [totalLength] at left
      | [] :: rest, left =>
        have more : rest.all (· = []) = false := by
          rw [← Bool.not_eq_true, ← totalLength_eq_zero]
          simp [totalLength] at left
          omega
        rw [laterEntriesWalkable_nil_cons, more]
        rfl
      | (b :: f) :: rest, left =>
        simp only [List.head?_cons, Option.some_bind, List.getElem?_cons_zero]
        rw [ih _ _ _ _ _ (by simp) (by simp [totalLength] at left ⊢; omega), laterEntriesWalkable_cons (List.cons_ne_nil b f),
          List.drop_length, List.nil_append, List.flatten_cons, List.cons_append, hexdumpLoop_cons]
        by_cases walkable : laterEntriesWalkable rest <;> simp [walkable]
    · have inside : c < e.length := by omega
      simp only [if_neg ended, List.head?_cons, Option.some_bind, List.getElem?_eq_getElem inside]
      rw [ih _ _ _ _ _ (by omega) (by omega), List.drop_eq_getElem_cons inside, List.cons_append,
        hexdumpLoop_cons]
      by_cases walkable : laterEntriesWalkable rest <;> simp [walkable]

theorem lUtilHexdumpv_eq (dirIn : Bool) (iov : List Bytes) :
    lUtilHexdumpv dirIn iov = if iovWalkable iov then some (lUtilHexdump dirIn iov.flatten) else none := by
  match iov with
  | [] => rfl
  | e :: rest =>
    rw [lUtilHexdumpv, if_neg (List.cons_ne_nil e rest)]
    dsimp only
    rw [hexdumpvLoop_eq _ e rest 0 0 _ (Nat.zero_le _) (by rw [totalLength, Nat.sub_zero]), iovWalkable, List.drop_one, List.tail_cons]
    by_cases walkable : laterEntriesWalkable rest
    · rw [if_pos walkable, if_pos walkable, Option.map_some', List.drop_zero, lUtilHexdump, hexdump,
        List.flatten_cons, List.length_append, ← totalLength_eq_length_flatten]
      by_cases empty : e.length + totalLength rest = 0
      · have nothing : e ++ rest.flatten = [] := by
          rw [← List.length_eq_zero, List.length_append, ← totalLength_eq_length_flatten]
          exact empty
        rw [if_pos empty, nothing]
        simp [hexdumpLoop, hexdumpTail, totalLength, empty]
      · rw [if_neg empty]
        simp [totalLength]
    · rw [if_neg walkable, if_neg walkable]
      rfl

/-- `l_util_hexdumpv` agrees with `l_util_hexdump` of the concatenation exactly when no entry
after the first is empty with bytes after it; otherwise the walk steps onto that empty entry
and reads its byte 0, outside it: for the entries `"a"`, `""`, `"b"` it reads outside the
second entry, where the dump of `"ab"` is one line. -/
theorem hexdumpv_reads_past_empty_entry :
    (∀ (dirIn : Bool) (iov : List Bytes),
      lUtilHexdumpv dirIn iov = if iovWalkable iov then some (lUtilHexdump dirIn iov.flatten) else none) ∧
    iovWalkable [[0x61], [], [0x62]] = false ∧ lUtilHexdumpv true [[0x61], [], [0x62]] = none ∧
    (lUtilHexdump true [0x61, 0x62]).length = 1 :=
  ⟨lUtilHexdumpv_eq, by decide, by decide, by decide⟩

end Iwd.Ell
