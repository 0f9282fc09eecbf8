import Mathlib.Data.List.Basic
import Iwd.Netdev.Types

/-!
ell's `l_strsplit` and `l_strjoinv`, each with the buffer its first pass sizes and its second
pass fills: a write past the end of that buffer is `none`. Neither ever writes past it:
`l_strsplit` fills one slot for each piece of `List.splitOn` and leaves the last slot its
NULL, and `l_strjoinv` fills its buffer exactly with the strings, the delimiters between them
and the terminator. Joining what `l_strsplit` returns gives the string back; splitting what
`l_strjoinv` returns, read as a C string, gives the strings back unless the delimiter is NUL,
which ends that C string at the first piece.
-/

namespace Iwd.Ell

open Iwd.Netdev (Bytes)

/-- The C string of a buffer: its bytes before the first NUL. -/
def cString (buf : Bytes) : Bytes := buf.takeWhile (· ≠ 0)

/-- A NULL-terminated `char **` array as the strings before its first NULL, as
`l_strjoinv` and the callers of `l_strsplit` read it. -/
def strvToList : List (Option Bytes) → List Bytes
  | some s :: rest => s :: strvToList rest
  | _ => []

/-- `ret[i++] = ...` into the slots `l_new` allocated; `none` is a write past them. -/
def storeSlot (ret : List (Option Bytes)) (i : Nat) (piece : Bytes) : Option (List (Option Bytes)) :=
  if i < ret.length then some (ret.set i (some piece)) else none

/-- The filling loop of `l_strsplit`: `piece` is `p[0..len)`, the rest of the string is
`p + len`, and `i` is the next slot of `ret`. -/
def strsplitFill (sep : UInt8) (ret : List (Option Bytes)) (i : Nat) (piece : Bytes) :
    Bytes → Option (List (Option Bytes))
  | [] => storeSlot ret i piece
  | c :: rest =>
    if c ≠ sep then strsplitFill sep ret i (piece ++ [c]) rest
    else (storeSlot ret i piece).bind fun ret => strsplitFill sep ret (i + 1) [] rest

/-- The counting loop of `l_strsplit`: one piece, and one more for each separator. -/
def strsplitCount (sep : UInt8) (str : Bytes) : Nat :=
  str.foldl (fun len c => if c = sep then len + 1 else len) 1

/-- `l_strsplit`: the array of `len + 1` slots from `l_new`, zeroed, so that each is NULL
until filled. The empty string gives the array of the NULL alone. -/
def lStrsplit (str : Bytes) (sep : UInt8) : Option (List (Option Bytes)) :=
  if str = [] then some (List.replicate 1 none)
  else strsplitFill sep (List.replicate (strsplitCount sep str + 1) none) 0 [] str

/-- The lengths of the strings added up, as `l_strjoinv` and `l_util_hexdumpv` do before they
allocate or walk. -/
def totalLength : List Bytes → Nat
  | [] => 0
  | s :: rest => s.length + totalLength rest

/-- `bytes` written at `p` into `buf`; `none` if they run past its end. -/
def writeAt (buf : Bytes) (p : Nat) (bytes : Bytes) : Option Bytes :=
  if p + bytes.length ≤ buf.length then some (buf.take p ++ bytes ++ buf.drop (p + bytes.length))
  else none

/-- `stpcpy(p, src)`: `src` and its terminator, and the position of the terminator. -/
def stpcpy (buf : Bytes) (p : Nat) (src : Bytes) : Option (Bytes × Nat) :=
  (writeAt buf p (src ++ [0])).map fun buf => (buf, p + src.length)

/-- The second loop of `l_strjoinv`: `*p++ = delim; p = stpcpy(p, str_array[i]);`. -/
def strjoinvLoop (delim : UInt8) : Bytes × Nat → List Bytes → Option (Bytes × Nat)
  | st, [] => some st
  | (buf, p), s :: rest =>
    (writeAt buf p [delim]).bind fun buf => (stpcpy buf (p + 1) s).bind fun st => strjoinvLoop delim st rest

/-- `l_strjoinv`: the buffer it returns, `l_strdup("")` for an empty array; otherwise the
`len` bytes `l_malloc` gives (their contents are never read), where `len` is the total
length plus `1 + i - 1`. -/
def lStrjoinvBuffer (strArray : List Bytes) (delim : UInt8) : Option Bytes :=
  match strArray with
  | [] => some [0]
  | s :: rest =>
    let len := totalLength strArray + 1 + strArray.length - 1
    ((stpcpy (List.replicate len 0) 0 s).bind fun st => strjoinvLoop delim st rest).map Prod.fst

/-- `l_strlcpy(dst, src, len)` for the C string `src`: the buffer after the copy and
`strlen(src)`; `none` where it would write past the buffer. -/
def lStrlcpy (dst src : Bytes) (len : Nat) : Option (Bytes × Nat) :=
  if len = 0 then some (dst, src.length)
  else if src.length < len then (writeAt dst 0 (src ++ [0])).map (·, src.length)
  else ((writeAt dst (len - 1) [0]).bind fun dst => writeAt dst 0 (src.take (len - 1))).map (·, src.length)

/-! ### `l_strsplit` -/

theorem strsplitCount_eq (sep : UInt8) (str : Bytes) : strsplitCount sep str = str.count sep + 1 := by
  suffices from_any : ∀ n, str.foldl (fun len c => if c = sep then len + 1 else len) n = n + str.count sep by
    rw [strsplitCount, from_any, Nat.add_comm]
  induction str with
  | nil => intro n; rfl
  | cons c rest ih =>
    intro n
    rw [List.foldl_cons, ih, List.count_cons]
    by_cases hc : c = sep
    · simp only [hc, if_true, beq_self_eq_true]; omega
    · simp [hc]

theorem storeSlot_next (done : List Bytes) (m : Nat) (piece : Bytes) :
    storeSlot (done.map some ++ List.replicate (m + 1) none) done.length piece =
      some ((done ++ [piece]).map some ++ List.replicate m none) := by
  rw [storeSlot, if_pos (by simp)]
  simp [List.set_append_right _ _ (le_of_eq (List.length_map _ _).symm), List.replicate_succ]

theorem strsplitFill_eq (sep : UInt8) (done : List Bytes) (m : Nat) (piece str : Bytes)
    (noSep : sep ∉ piece) (room : str.count sep ≤ m) :
    strsplitFill sep (done.map some ++ List.replicate (m + 1) none) done.length piece str =
      some ((done ++ (piece ++ str).splitOn sep).map some ++ List.replicate (m - str.count sep) none) := by
  induction str generalizing done m piece with
  | nil =>
    have single : piece.splitOn sep = [piece] :=
      List.splitOnP_eq_single _ _ fun x hx same => noSep (beq_iff_eq.mp same ▸ hx)
    rw [strsplitFill, storeSlot_next, List.append_nil, single]
    rfl
  | cons c rest ih =>
    rw [strsplitFill]
    by_cases hc : c = sep
    · subst hc
      have first : (piece ++ c :: rest).splitOn c = piece :: rest.splitOn c :=
        List.splitOnP_first (· == c) _ (fun x hx same => noSep (beq_iff_eq.mp same ▸ hx)) _
          (beq_self_eq_true c) _
      rw [List.count_cons_self] at room
      obtain ⟨m, rfl⟩ : ∃ k, m = k + 1 := ⟨m - 1, by omega⟩
      rw [if_neg (not_not.mpr rfl), storeSlot_next, Option.some_bind,
        show done.length + 1 = (done ++ [piece]).length by simp, ih _ _ _ (List.not_mem_nil c) (by omega),
        first, List.count_cons_self, List.nil_append, List.append_assoc]
      congr 3
      omega
    · rw [if_pos hc, ih _ _ _ (by simpa [Ne.symm hc] using noSep)
        (by rwa [List.count_cons_of_ne (Ne.symm hc)] at room), List.count_cons_of_ne (Ne.symm hc),
        List.append_assoc, List.singleton_append]

theorem lStrsplit_eq (str : Bytes) (sep : UInt8) :
    lStrsplit str sep = some ((if str = [] then [] else str.splitOn sep).map some ++ [none]) := by
  by_cases empty : str = []
  · simp [lStrsplit, empty]
  · rw [lStrsplit, if_neg empty, if_neg empty, strsplitCount_eq,
      show List.replicate (str.count sep + 1 + 1) none = ([] : List Bytes).map some ++
        List.replicate (str.count sep + 1 + 1) none from rfl,
      show (0 : Nat) = ([] : List Bytes).length from rfl,
      strsplitFill_eq sep [] _ [] str (List.not_mem_nil sep) (by omega)]
    simp

/-! ### `l_strjoinv` -/

theorem totalLength_eq_length_flatten (strs : List Bytes) : totalLength strs = strs.flatten.length := by
  induction strs with
  | nil => rfl
  | cons s rest ih => rw [totalLength, ih, List.flatten_cons, List.length_append]

theorem totalLength_eq_zero {strs : List Bytes} : totalLength strs = 0 ↔ strs.all (· = []) = true := by
  induction strs with
  | nil => simp [totalLength]
  | cons s rest ih =>
    rw [totalLength, List.all_cons, Bool.and_eq_true, ← ih, decide_eq_true_iff, ← List.length_eq_zero]
    omega

theorem intercalate_cons (d : UInt8) (s : Bytes) (rest : List Bytes) :
    [d].intercalate (s :: rest) = s ++ rest.flatMap (d :: ·) := by
  induction rest generalizing s with
  | nil => simp [List.intercalate]
  | cons t rest ih =>
    have step := ih t
    simp only [List.intercalate, List.intersperse_cons_cons, List.flatten_cons] at step ⊢
    rw [step]
    simp

theorem writeAt_append (w tail bytes : Bytes) (fits : bytes.length ≤ tail.length) :
    writeAt (w ++ tail) w.length bytes = some (w ++ bytes ++ tail.drop bytes.length) := by
  rw [writeAt, if_pos (by simp; omega)]
  simp [List.drop_append]

theorem strjoinvLoop_eq (delim : UInt8) (w free : Bytes) (rest : List Bytes)
    (room : totalLength rest + rest.length ≤ free.length) :
    strjoinvLoop delim (w ++ 0 :: free, w.length) rest =
      some (w ++ rest.flatMap (delim :: ·) ++ 0 :: free.drop (totalLength rest + rest.length),
        (w ++ rest.flatMap (delim :: ·)).length) := by
  induction rest generalizing w free with
  | nil => simp [strjoinvLoop, totalLength]
  | cons s rest ih =>
    simp only [totalLength, List.length_cons] at room
    have delimWritten : writeAt (w ++ 0 :: free) w.length [delim] = some ((w ++ [delim]) ++ free) := by
      rw [writeAt_append _ _ _ (by simp)]
      simp
    have copied : stpcpy ((w ++ [delim]) ++ free) (w.length + 1) s =
        some ((w ++ delim :: s) ++ 0 :: free.drop (s.length + 1), (w ++ delim :: s).length) := by
      rw [stpcpy, show w.length + 1 = (w ++ [delim]).length by simp,
        writeAt_append _ _ _ (by simp; omega)]
      simp
      omega
    rw [strjoinvLoop, delimWritten, Option.some_bind, copied, Option.some_bind,
      ih _ _ (by simp; omega)]
    simp only [List.flatMap_cons, List.append_assoc, List.cons_append, List.drop_drop,
      totalLength, List.length_cons, List.length_append]
    rw [show s.length + 1 + (totalLength rest + rest.length) =
      s.length + totalLength rest + (rest.length + 1) by omega]

theorem lStrjoinvBuffer_eq (strArray : List Bytes) (delim : UInt8) :
    lStrjoinvBuffer strArray delim = some ([delim].intercalate strArray ++ [0]) := by
  match strArray with
  | [] => rfl
  | s :: rest =>
    have copied : stpcpy (List.replicate (totalLength (s :: rest) + 1 + (s :: rest).length - 1) 0) 0 s =
        some (s ++ 0 :: List.replicate (totalLength rest + rest.length) 0, s.length) := by
      rw [stpcpy, show List.replicate (totalLength (s :: rest) + 1 + (s :: rest).length - 1) (0 : UInt8) =
        [] ++ List.replicate (totalLength (s :: rest) + 1 + (s :: rest).length - 1) 0 from rfl,
        show (0 : Nat) = ([] : Bytes).length from rfl, writeAt_append _ _ _ (by simp [totalLength]; omega)]
      simp [List.drop_replicate, totalLength]
      omega
    rw [lStrjoinvBuffer, copied, Option.some_bind, strjoinvLoop_eq _ _ _ _ (by simp), intercalate_cons]
    simp

/-! ### The round trips -/

theorem strvToList_map_some (strs : List Bytes) : strvToList (strs.map some ++ [none]) = strs := by
  induction strs with
  | nil => rfl
  | cons s rest ih => rw [List.map_cons, List.cons_append, strvToList, ih]

theorem cString_of_not_mem {s : Bytes} (noNul : (0 : UInt8) ∉ s) : cString s = s :=
  List.takeWhile_eq_self_iff.mpr fun c hc => by simpa using ne_of_mem_of_not_mem hc noNul

theorem cString_append_zero {s : Bytes} (noNul : (0 : UInt8) ∉ s) : cString (s ++ [0]) = s := by
  rw [cString, List.takeWhile_append_of_pos (fun c hc => by simpa using ne_of_mem_of_not_mem hc noNul)]
  simp

theorem zero_not_mem_intercalate {delim : UInt8} (delimNonzero : delim ≠ 0) {strs : List Bytes}
    (noNul : ∀ s ∈ strs, (0 : UInt8) ∉ s) : (0 : UInt8) ∉ [delim].intercalate strs := by
  match strs with
  | [] => exact List.not_mem_nil 0
  | s :: rest =>
    rw [intercalate_cons]
    simp only [List.mem_append, List.mem_flatMap, List.mem_cons, not_or, not_exists, not_and]
    exact ⟨noNul s (List.mem_cons_self s rest),
      fun t ht => ⟨Ne.symm delimNonzero, noNul t (List.mem_cons_of_mem s ht)⟩⟩

theorem intercalate_eq_nil {delim : UInt8} {strs : List Bytes} (notEmptyAlone : strs ≠ [[]])
    (empty : [delim].intercalate strs = []) : strs = [] := by
  match strs with
  | [] => rfl
  | s :: rest =>
    rw [intercalate_cons, List.append_eq_nil] at empty
    obtain ⟨rfl, joined⟩ := empty
    cases rest with
    | nil => exact absurd rfl notEmptyAlone
    | cons t rest => simp at joined

theorem lStrjoinvBuffer_lStrsplit (str : Bytes) (sep : UInt8) :
    (lStrsplit str sep).bind (fun strv => lStrjoinvBuffer (strvToList strv) sep) = some (str ++ [0]) := by
  rw [lStrsplit_eq, Option.some_bind, strvToList_map_some, lStrjoinvBuffer_eq]
  by_cases empty : str = []
  · simp [empty, List.intercalate]
  · rw [if_neg empty, List.intercalate_splitOn]

theorem lStrsplit_intercalate {strs : List Bytes} {sep : UInt8} (noSep : ∀ s ∈ strs, sep ∉ s)
    (notEmptyAlone : strs ≠ [[]]) : lStrsplit ([sep].intercalate strs) sep = some (strs.map some ++ [none]) := by
  rw [lStrsplit_eq]
  by_cases empty : [sep].intercalate strs = []
  · rw [if_pos empty, intercalate_eq_nil notEmptyAlone empty]
  · rw [if_neg empty, List.splitOn_intercalate strs sep noSep (fun none => empty (by simp [none, List.intercalate]))]

theorem lStrsplit_lStrjoinvBuffer {strs : List Bytes} {sep : UInt8} (sepNonzero : sep ≠ 0)
    (noNul : ∀ s ∈ strs, (0 : UInt8) ∉ s) (noSep : ∀ s ∈ strs, sep ∉ s) (notEmptyAlone : strs ≠ [[]]) :
    (lStrjoinvBuffer strs sep).bind (fun buf => lStrsplit (cString buf) sep) =
      some (strs.map some ++ [none]) := by
  rw [lStrjoinvBuffer_eq, Option.some_bind, cString_append_zero (zero_not_mem_intercalate sepNonzero noNul),
    lStrsplit_intercalate noSep notEmptyAlone]

/-! ### `l_strlcpy` -/

theorem writeAt_zero (buf bytes : Bytes) (fits : bytes.length ≤ buf.length) :
    writeAt buf 0 bytes = some (bytes ++ buf.drop bytes.length) := by
  simpa using writeAt_append [] buf bytes fits

theorem cString_append_zero_append {s : Bytes} (noNul : (0 : UInt8) ∉ s) (rest : Bytes) :
    cString (s ++ 0 :: rest) = s := by
  rw [cString, List.takeWhile_append_of_pos (fun c hc => by simpa using ne_of_mem_of_not_mem hc noNul)]
  simp

/-- What the comment above `l_strlcpy` promises, for a buffer of at least `len > 0` bytes: the
buffer keeps its length and holds, NUL-terminated, the first `len - 1` bytes of `src` at most,
and the result is `strlen(src)`, so that the copy was cut exactly when it is `len` or more. -/
theorem lStrlcpy_cString {dst src : Bytes} {len : Nat} (pos : 0 < len) (fits : len ≤ dst.length)
    (noNul : (0 : UInt8) ∉ src) :
    ∃ buf, lStrlcpy dst src len = some (buf, src.length) ∧ buf.length = dst.length ∧
      cString buf = src.take (len - 1) := by
  have noNulTake : (0 : UInt8) ∉ src.take (len - 1) := fun held => noNul (List.mem_of_mem_take held)
  rw [lStrlcpy, if_neg (by omega)]
  split_ifs with short
  · rw [writeAt_zero _ _ (by simp; omega), List.take_of_length_le (by omega)]
    refine ⟨_, rfl, by simp; omega, ?_⟩
    simpa using cString_append_zero_append noNul (dst.drop (src.length + 1))
  · have terminated : writeAt dst (len - 1) [0] = some (dst.take (len - 1) ++ 0 :: dst.drop len) := by
      rw [writeAt, if_pos (by simp; omega)]
      simp only [List.length_singleton, List.append_assoc, List.singleton_append, Nat.sub_add_cancel pos]
    have copied := writeAt_zero (dst.take (len - 1) ++ 0 :: dst.drop len) (src.take (len - 1)) (by simp; omega)
    rw [terminated, Option.some_bind, copied, List.drop_append_of_le_length (by simp; omega)]
    refine ⟨_, rfl, by simp; omega, ?_⟩
    rw [List.drop_eq_nil_of_le (by simp; omega), List.nil_append, cString_append_zero_append noNulTake]

end Iwd.Ell
