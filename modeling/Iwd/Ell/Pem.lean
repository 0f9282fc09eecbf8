import Iwd.Settings.Format

/-!
`pem_next`, ell's search for the next PEM block in a buffer: it walks the buffer line by line
(lines end at `'\r'`, `'\n'` or `"\r\n"`), takes the first line `is_start_boundary` accepts as
the BEGIN line, and returns at the first later line `is_end_boundary` accepts for its label.
The base64 span, its length and the label are the ones the first BEGIN line and the first
matching END line give. The end pointer is computed against `buf + buf_len` with the original
`buf` but the remaining `buf_len`: when the END line is the last line of the buffer, with no
terminator, the pointer is `buf + buf_len + 1`, one past the end; after a `"\r\n"` it points at
the `'\n'`.
-/

namespace Iwd.Ell

open Iwd.Netdev (Bytes)
open Iwd.Settings (ascii isPrint)

/-- A line `pem_next` walks: its offset in `buf`, its bytes up to `eol`, and the byte at `eol`
(`none` when the line runs to the end of the buffer). -/
structure PemLine where
  start : Nat
  bytes : Bytes
  terminator : Option UInt8
  deriving DecidableEq, Repr

/-- `eol`, as an offset in `buf`. -/
def PemLine.eol (line : PemLine) : Nat := line.start + line.bytes.length

/-- The lines of the loop of `pem_next` from offset `start`, `cur` holding the bytes of the line
so far: `eol` stops at `'\r'` or `'\n'` and the next line starts after it; `afterCr` says that
the byte before was a `'\r'` ending a line, so that a `'\n'` here is skipped. The loop stops
when no byte is left, so a line is only walked when it has a byte or a terminator. -/
def pemLinesGo (start : Nat) (cur : Bytes) (afterCr : Bool) : Bytes → List PemLine
  | [] => if cur = [] then [] else [⟨start, cur, none⟩]
  | c :: rest =>
    if afterCr ∧ c = 0x0A then pemLinesGo (start + 1) [] false rest
    else if c = 0x0D ∨ c = 0x0A then
      ⟨start, cur, some c⟩ :: pemLinesGo (start + cur.length + 1) [] (c = 0x0D) rest
    else pemLinesGo start (cur ++ [c]) false rest

/-- The lines `pem_next` walks in `buf`. -/
def pemLines (buf : Bytes) : List PemLine := pemLinesGo 0 [] false buf

/-- `PEM_START_BOUNDARY`. -/
def pemStartBoundary : Bytes := ascii "-----BEGIN "

/-- `PEM_END_BOUNDARY`. -/
def pemEndBoundary : Bytes := ascii "-----END "

/-- The five hyphens that close a boundary line. -/
def pemDashes : Bytes := ascii "-----"

/-- `*end == ' ' || *end == '-'`. -/
def isSpecial (c : UInt8) : Bool := c == 0x20 || c == 0x2D

/-- A space or a tab, the horizontal whitespace allowed after a boundary. -/
def isWsp (c : UInt8) : Bool := c == 0x20 || c == 0x09

/-- The label loop of `is_start_boundary` from position `pos`: it stops at a byte that is not
printable (`l_ascii_isprint`, as `isPrint`) or is the second special byte in a row. -/
def labelScan (prevSpecial : Bool) (pos : Nat) : Bytes → Nat
  | [] => pos
  | c :: rest =>
    if !isPrint c then pos
    else if prevSpecial && isSpecial c then pos
    else labelScan (isSpecial c) (pos + 1) rest

/-- `is_start_boundary` on a line: the offset of the label in it and `*label_len`. -/
def isStartBoundary (buf : Bytes) : Option (Nat × Nat) :=
  if buf.length < pemStartBoundary.length then none
  else if buf.take pemStartBoundary.length ≠ pemStartBoundary then none
  else
    let stop := labelScan true pemStartBoundary.length (buf.drop pemStartBoundary.length)
    let last := if stop ≠ pemStartBoundary.length then stop - 1 else stop
    if last + 5 > buf.length ∨ (buf.drop last).take 5 ≠ pemDashes then none
    else if !(buf.drop (last + 5)).all isWsp then none
    else some (pemStartBoundary.length, last - pemStartBoundary.length)

/-- `is_end_boundary` on a line, for the label the BEGIN line gave. -/
def isEndBoundary (buf label : Bytes) : Bool :=
  let len := pemEndBoundary.length + label.length + 5
  if buf.length < len then false
  else buf.take pemEndBoundary.length = pemEndBoundary ∧
    (buf.drop pemEndBoundary.length).take label.length = label ∧
    (buf.drop (len - 5)).take 5 = pemDashes ∧ (buf.drop len).all isWsp

/-- What `pem_next` returns, with its out-parameters as offsets in `buf`. -/
inductive PemNext where
  /-- `base64_data`, `*base64_len`, `*type_label` and `*endp`. -/
  | found (base64 base64Len : Nat) (typeLabel : Bytes) (endp : Nat)
  /-- NULL with `*endp = NULL`: no BEGIN line was found. -/
  | eof
  /-- NULL with `*endp` left as it was: a BEGIN line without its END line. -/
  | noEnd
  deriving DecidableEq, Repr

/-- The loop of `pem_next` over the lines, with `found` the `base64_data` and label of the BEGIN
line once there is one. `*endp` tests `eol == buf + buf_len`, where `buf_len` is what is left
from the line's start. -/
def pemNextGo (bufLen : Nat) (strict : Bool) : Option (Nat × Bytes) → List PemLine → PemNext
  | found, [] => if found.isNone then .eof else .noEnd
  | none, line :: rest =>
    match isStartBoundary line.bytes with
    | some (labelStart, labelLen) =>
      pemNextGo bufLen strict (some (line.eol, (line.bytes.drop labelStart).take labelLen)) rest
    | none => if strict then .eof else pemNextGo bufLen strict none rest
  | some (base64, label), line :: rest =>
    if isEndBoundary line.bytes label then
      .found base64 (line.start - base64) label
        (if line.eol = bufLen - line.start then line.eol else line.eol + 1)
    else pemNextGo bufLen strict (some (base64, label)) rest

/-- `pem_next`. -/
def pemNext (buf : Bytes) (strict : Bool) : PemNext := pemNextGo buf.length strict none (pemLines buf)

/-! ### The lines -/

theorem pemLinesGo_mem {start : Nat} {cur : Bytes} {afterCr : Bool} {bytes : Bytes}
    (fresh : afterCr = true → cur = []) {line : PemLine} (mem : line ∈ pemLinesGo start cur afterCr bytes) :
    start ≤ line.start ∧ (line.terminator = none → line.eol = start + cur.length + bytes.length) ∧
      (line.terminator ≠ none → line.eol < start + cur.length + bytes.length) := by
  induction bytes generalizing start cur afterCr with
  | nil =>
    by_cases empty : cur = []
    · simp [pemLinesGo, empty] at mem
    · simp only [pemLinesGo, if_neg empty, List.mem_singleton] at mem
      subst mem
      simp [PemLine.eol]
  | cons c rest ih =>
    rw [pemLinesGo] at mem
    by_cases skip : afterCr = true ∧ c = 0x0A
    · rw [if_pos skip] at mem
      obtain ⟨after, none, some⟩ := ih (fun h : false = true => absurd h Bool.false_ne_true) mem
      simp only [fresh skip.1, List.length_nil, List.length_cons] at none some ⊢
      exact ⟨by omega, fun h => by rw [none h]; omega, fun h => by have := some h; omega⟩
    rw [if_neg skip] at mem
    by_cases ends : c = 0x0D ∨ c = 0x0A
    · rw [if_pos ends, List.mem_cons] at mem
      rcases mem with rfl | mem
      · simp [PemLine.eol]
      · obtain ⟨after, none, some⟩ := ih (fun _ => rfl) mem
        simp only [List.length_nil, List.length_cons] at none some ⊢
        exact ⟨by omega, fun h => by rw [none h]; omega, fun h => by have := some h; omega⟩
    · rw [if_neg ends] at mem
      obtain ⟨after, none, some⟩ := ih (fun h : false = true => absurd h Bool.false_ne_true) mem
      simp only [List.length_append, List.length_singleton, List.length_cons, List.length_nil] at none some ⊢
      exact ⟨after, fun h => by rw [none h]; omega, fun h => by have := some h; omega⟩

theorem pemLinesGo_tail {start : Nat} {cur : Bytes} {afterCr : Bool} {bytes : Bytes}
    {line : PemLine} (mem : line ∈ (pemLinesGo start cur afterCr bytes).tail) : start < line.start := by
  induction bytes generalizing start cur afterCr with
  | nil =>
    by_cases empty : cur = [] <;> simp [pemLinesGo, empty] at mem
  | cons c rest ih =>
    rw [pemLinesGo] at mem
    by_cases skip : afterCr = true ∧ c = 0x0A
    · rw [if_pos skip] at mem
      have := (pemLinesGo_mem (fun h : false = true => absurd h Bool.false_ne_true) (List.mem_of_mem_tail mem)).1
      omega
    rw [if_neg skip] at mem
    by_cases ends : c = 0x0D ∨ c = 0x0A
    · rw [if_pos ends, List.tail_cons] at mem
      have := (pemLinesGo_mem (fun _ => rfl) mem).1
      omega
    · rw [if_neg ends] at mem
      exact ih mem

/-! ### The two phases of the loop -/

section Loop

variable {bufLen : Nat} {strict : Bool}

theorem pemNextGo_some_found {base64 : Nat} {label : Bytes} {lines : List PemLine}
    {base64' base64Len : Nat} {typeLabel : Bytes} {endp : Nat}
    (found : pemNextGo bufLen strict (some (base64, label)) lines = .found base64' base64Len typeLabel endp) :
    base64' = base64 ∧ typeLabel = label ∧ ∃ mid e post, lines = mid ++ e :: post ∧
      (∀ l ∈ mid, isEndBoundary l.bytes label = false) ∧ isEndBoundary e.bytes label = true ∧
      base64Len = e.start - base64 ∧ endp = if e.eol = bufLen - e.start then e.eol else e.eol + 1 := by
  induction lines with
  | nil => simp [pemNextGo] at found
  | cons line rest ih =>
    rw [pemNextGo] at found
    by_cases ends : isEndBoundary line.bytes label
    · rw [if_pos ends, PemNext.found.injEq] at found
      obtain ⟨rfl, rfl, rfl, rfl⟩ := found
      exact ⟨rfl, rfl, [], line, rest, rfl, fun _ mem => absurd mem (List.not_mem_nil _), ends, rfl, rfl⟩
    · rw [if_neg ends] at found
      obtain ⟨same, sameLabel, mid, e, post, split, notEnd, isEnd, span, atEnd⟩ := ih found
      refine ⟨same, sameLabel, line :: mid, e, post, by rw [split]; rfl, ?_, isEnd, span, atEnd⟩
      intro l mem
      rcases List.mem_cons.mp mem with rfl | mem
      · simpa using ends
      · exact notEnd l mem

theorem pemNextGo_some_ne_eof (found : Nat × Bytes) (lines : List PemLine) :
    pemNextGo bufLen strict (some found) lines ≠ .eof := by
  induction lines with
  | nil => simp [pemNextGo]
  | cons line rest ih =>
    obtain ⟨base64, label⟩ := found
    rw [pemNextGo]
    split
    · exact PemNext.noConfusion
    · exact ih

theorem pemNextGo_none_found {lines : List PemLine} {base64 base64Len : Nat} {typeLabel : Bytes} {endp : Nat}
    (found : pemNextGo bufLen false none lines = .found base64 base64Len typeLabel endp) :
    ∃ pre b rest labelStart labelLen, lines = pre ++ b :: rest ∧
      (∀ l ∈ pre, isStartBoundary l.bytes = none) ∧ isStartBoundary b.bytes = some (labelStart, labelLen) ∧
      pemNextGo bufLen false (some (b.eol, (b.bytes.drop labelStart).take labelLen)) rest =
        .found base64 base64Len typeLabel endp := by
  induction lines with
  | nil => simp [pemNextGo] at found
  | cons line rest ih =>
    rw [pemNextGo] at found
    split at found
    · next labelStart labelLen begins => exact ⟨[], line, rest, labelStart, labelLen, rfl, nofun, begins, found⟩
    · next refused =>
      obtain ⟨pre, b, rest', labelStart, labelLen, split, notBegin, begins, after⟩ := ih found
      refine ⟨line :: pre, b, rest', labelStart, labelLen, by rw [split]; rfl, ?_, begins, after⟩
      intro l mem
      rcases List.mem_cons.mp mem with rfl | mem
      · exact refused
      · exact notBegin l mem

theorem pemNextGo_none_eof (lines : List PemLine) :
    pemNextGo bufLen false none lines = .eof ↔ ∀ l ∈ lines, isStartBoundary l.bytes = none := by
  induction lines with
  | nil => simp [pemNextGo]
  | cons line rest ih =>
    rw [pemNextGo]
    split
    · next begins =>
      simp only [List.mem_cons, forall_eq_or_imp, begins, reduceCtorEq, false_and, iff_false]
      exact pemNextGo_some_ne_eof _ rest
    · next refused =>
      simp only [Bool.false_eq_true, if_false, ih, List.mem_cons, forall_eq_or_imp, refused, true_and]

end Loop

theorem mem_tail_of_split {pre rest : List PemLine} {b e : PemLine} {mid post : List PemLine}
    (split : rest = mid ++ e :: post) : e ∈ (pre ++ b :: rest).tail := by
  subst split
  cases pre <;> simp

/-- For every buffer, with `strict` false: a block `pem_next` returns is the first BEGIN line
and the first later END line of its label, with the span between them, and `*endp` is
`eol` or `eol + 1` of the END line, as `eol` equals `buf + buf_len` for the remaining
`buf_len` or not. When the END line is the last line, with no terminator, `*endp` is one past
the end of the buffer. `pem_next` sets `*endp` to NULL exactly when no line is a BEGIN line.
A buffer ending in an END line gets its `*endp` at `39` for `38` bytes, and after an END line
ending in `"\r\n"` it points at the `'\n'`. -/
theorem pem_next_endp_past_buffer :
    (∀ (buf : Bytes) (base64 base64Len : Nat) (typeLabel : Bytes) (endp : Nat),
      pemNext buf false = .found base64 base64Len typeLabel endp →
      ∃ pre b mid e post labelStart labelLen, pemLines buf = pre ++ b :: (mid ++ e :: post) ∧
        (∀ l ∈ pre, isStartBoundary l.bytes = none) ∧ isStartBoundary b.bytes = some (labelStart, labelLen) ∧
        typeLabel = (b.bytes.drop labelStart).take labelLen ∧
        (∀ l ∈ mid, isEndBoundary l.bytes typeLabel = false) ∧ isEndBoundary e.bytes typeLabel = true ∧
        base64 = b.eol ∧ base64Len = e.start - b.eol ∧
        endp = (if e.eol = buf.length - e.start then e.eol else e.eol + 1) ∧
        (e.terminator = none → endp = buf.length + 1) ∧ (e.terminator ≠ none → endp ≤ buf.length)) ∧
    (∀ buf : Bytes, pemNext buf false = .eof ↔ ∀ l ∈ pemLines buf, isStartBoundary l.bytes = none) ∧
    (ascii "-----BEGIN A-----\nQUFB\n-----END A-----").length = 38 ∧
    pemNext (ascii "-----BEGIN A-----\nQUFB\n-----END A-----") false = .found 17 6 (ascii "A") 39 ∧
    pemNext (ascii "-----BEGIN A-----\r\nQUFB\r\n-----END A-----\r\nX") false = .found 17 8 (ascii "A") 41 ∧
    (ascii "-----BEGIN A-----\r\nQUFB\r\n-----END A-----\r\nX").drop 40 = ascii "\r\nX" := by
  refine ⟨fun buf base64 base64Len typeLabel endp found => ?_, fun buf => pemNextGo_none_eof _,
    by decide, by decide, by decide, by decide⟩
  obtain ⟨pre, b, rest, labelStart, labelLen, split, notBegin, begins, after⟩ := pemNextGo_none_found found
  obtain ⟨rfl, rfl, mid, e, post, restSplit, notEnd, ends, span, atEnd⟩ := pemNextGo_some_found after
  have eMem : e ∈ pemLines buf := by rw [split, restSplit]; simp
  obtain ⟨-, lastEol, otherEol⟩ := pemLinesGo_mem (fun h : false = true => absurd h Bool.false_ne_true) eMem
  have later : 0 < e.start :=
    pemLinesGo_tail (show e ∈ (pemLines buf).tail by rw [split]; exact mem_tail_of_split restSplit)
  have startLe : e.start ≤ e.eol := Nat.le_add_right e.start e.bytes.length
  simp only [List.length_nil, Nat.zero_add] at lastEol otherEol
  refine ⟨pre, b, mid, e, post, labelStart, labelLen, by rw [split, restSplit], notBegin, begins, rfl,
    notEnd, ends, rfl, span, atEnd, fun last => ?_, fun notLast => ?_⟩
  · have eolEnd := lastEol last
    rw [atEnd, if_neg (show ¬e.eol = buf.length - e.start by omega), eolEnd]
  · have := otherEol notLast
    rw [atEnd]
    split <;> omega

end Iwd.Ell
