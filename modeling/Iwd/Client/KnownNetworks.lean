import Iwd.Settings.Format

/-!
The `known-networks` command family of iwd's client. readline completes a command name by
calling the family's generator `family_arg_completion(text, state)` with `state` 0, then 1, 2,
and so on, until it answers NULL; the generator keeps its place in `known_networks_commands` in
two static variables. Whatever it was left at, the answers from a call with state 0 on are the
commands without an entity whose name starts with `text`, in the order of the table, then NULL
(`family_arg_completion_lists_matches`).
-/

namespace Iwd.Client

open Iwd.Netdev (Bytes)
open Iwd.Settings (ascii)

/-- The fields of `struct command` that `family_arg_completion` reads, NULL as `none`. A table
ends with an entry whose `cmd` is NULL. -/
structure Command where
  entity : Option Bytes
  cmd : Option Bytes
  deriving DecidableEq, Repr

/-- `known_networks_commands`. -/
def knownNetworksCommands : List Command :=
  [⟨none, some (ascii "list")⟩, ⟨none, some (ascii "forget")⟩, ⟨none, none⟩]

/-- Modelled from the C standard: whether `strncmp(s1, s2, n)` is 0, for C strings. -/
def strncmp (s1 s2 : Bytes) (n : Nat) : Bool := (s1 ++ [0]).take n == (s2 ++ [0]).take n

/-- The static variables `index` and `len` of `family_arg_completion`. -/
structure Statics where
  index : Nat
  len : Nat
  deriving DecidableEq, Repr

/-- The `while` loop of `family_arg_completion` over the table from entry `index` on: the name
it returns, if any, and `index` after it. An empty rest is past the end of the table, which a
table with its terminator never reaches. -/
def completionLoop (text : Bytes) (len : Nat) : List Command → Nat → Option Bytes × Nat
  | [], index => (none, index)
  | c :: rest, index =>
    match c.cmd with
    | none => (none, index)
    | some cmd =>
      if c.entity.isSome then completionLoop text len rest (index + 1)
      else if !strncmp cmd text len then completionLoop text len rest (index + 1)
      else (some cmd, index + 1)

/-- `family_arg_completion(text, state)`: its answer, and the static variables after it. -/
def familyArgCompletion (table : List Command) (statics : Statics) (text : Bytes) (state : Int) :
    Option Bytes × Statics :=
  let statics := if state = 0 then ⟨0, text.length⟩ else statics
  let (found, index) := completionLoop text statics.len (table.drop statics.index) statics.index
  (found, { statics with index := index })

/-- readline's calls `family_arg_completion(text, state)`, `(text, state + 1)`, …, `n` of them,
from the static variables `statics`: the answers in order. -/
def completionRun (table : List Command) (text : Bytes) : Nat → Statics → Nat → List (Option Bytes)
  | 0, _, _ => []
  | n + 1, statics, state =>
    let (found, statics) := familyArgCompletion table statics text state
    found :: completionRun table text n statics (state + 1)

/-- What readline should be offered: the names of the commands before the terminator that
have no entity and start with `text`. -/
def completionMatches (text : Bytes) (table : List Command) : List Bytes :=
  (table.takeWhile (·.cmd.isSome)).filterMap fun c => c.cmd.filter fun cmd => c.entity.isNone && text.isPrefixOf cmd

theorem strncmp_length {cmd text : Bytes} (noNul : (0 : UInt8) ∉ text) :
    strncmp cmd text text.length = text.isPrefixOf cmd := by
  have own : (text ++ [0]).take text.length = text := by simp
  rw [strncmp, own, Bool.eq_iff_iff, beq_iff_eq, List.isPrefixOf_iff_prefix]
  constructor
  · intro taken
    by_cases long : text.length ≤ cmd.length
    · rw [List.take_append_of_le_length long] at taken
      exact taken ▸ List.take_prefix _ _
    · have held : (0 : UInt8) ∈ (cmd ++ [0]).take text.length :=
        List.mem_take_iff_getElem.mpr ⟨cmd.length, by simp; omega, by simp⟩
      exact absurd (taken ▸ held) noNul
  · rintro ⟨rest, rfl⟩
    simp

theorem completionMatches_cons (text : Bytes) (c : Command) (rest : List Command) :
    completionMatches text (c :: rest) = match c.cmd with
      | none => []
      | some cmd => if c.entity.isNone && text.isPrefixOf cmd then cmd :: completionMatches text rest
        else completionMatches text rest := by
  unfold completionMatches
  rcases c with ⟨entity, _ | cmd⟩
  · rfl
  · by_cases keep : (entity.isNone && text.isPrefixOf cmd) = true <;>
      simp only [List.takeWhile_cons, Option.isSome_some, if_true, List.filterMap_cons, Option.filter, keep,
        Bool.false_eq_true, if_false]

theorem completionLoop_spec {text : Bytes} (noNul : (0 : UInt8) ∉ text) (l : List Command) (index : Nat) :
    (completionLoop text text.length l index).1 = (completionMatches text l).head? ∧
      index ≤ (completionLoop text text.length l index).2 ∧
      completionMatches text (l.drop ((completionLoop text text.length l index).2 - index)) =
        (completionMatches text l).tail := by
  induction l generalizing index with
  | nil => exact ⟨rfl, le_rfl, by simp [completionMatches]⟩
  | cons c rest ih =>
    rw [completionMatches_cons]
    rcases c with ⟨entity, _ | cmd⟩
    · exact ⟨rfl, le_rfl, by simp [completionLoop, completionMatches]⟩
    · obtain ⟨found, later, others⟩ := ih (index + 1)
      have skip (next : completionLoop text text.length (⟨entity, some cmd⟩ :: rest) index =
          completionLoop text text.length rest (index + 1)) :
          (completionLoop text text.length (⟨entity, some cmd⟩ :: rest) index).1 = (completionMatches text rest).head? ∧
            index ≤ (completionLoop text text.length (⟨entity, some cmd⟩ :: rest) index).2 ∧
            completionMatches text ((⟨entity, some cmd⟩ :: rest).drop
              ((completionLoop text text.length (⟨entity, some cmd⟩ :: rest) index).2 - index)) =
              (completionMatches text rest).tail := by
        rw [next]
        refine ⟨found, by omega, ?_⟩
        rw [show (completionLoop text text.length rest (index + 1)).2 - index =
          (completionLoop text text.length rest (index + 1)).2 - (index + 1) + 1 by omega]
        exact others
      cases entity with
      | some entity => exact skip (by simp [completionLoop])
      | none =>
        dsimp only
        by_cases starts : text.isPrefixOf cmd = true
        · have next : completionLoop text text.length (⟨none, some cmd⟩ :: rest) index = (some cmd, index + 1) := by
            simp [completionLoop, strncmp_length noNul, starts]
          rw [next, if_pos (by simpa using starts)]
          exact ⟨rfl, by omega, by simp⟩
        · rw [if_neg (by simpa using starts)]
          exact skip (by simp [completionLoop, strncmp_length noNul, starts])

theorem take_cons_first {α : Type} (m : List α) (n : Nat) :
    m.head? :: (m.tail.map some ++ List.replicate n none).take n = (m.map some ++ List.replicate (n + 1) none).take (n + 1) := by
  cases m with
  | nil => simp [List.take_replicate, List.replicate_succ]
  | cons x xs =>
    have long : n ≤ (xs.map some ++ List.replicate n none).length := by simp
    rw [List.map_cons, List.cons_append, List.take_succ_cons, ← List.append_replicate_replicate (n := n) (m := 1),
      ← List.append_assoc, List.take_append_of_le_length long]
    rfl

theorem completionRun_later (table : List Command) {text : Bytes} (noNul : (0 : UInt8) ∉ text) (n : Nat)
    (statics : Statics) (sized : statics.len = text.length) (state : Nat) :
    completionRun table text n statics (state + 1) =
      ((completionMatches text (table.drop statics.index)).map some ++ List.replicate n none).take n := by
  induction n generalizing statics state with
  | zero => rfl
  | succ n ih =>
    obtain ⟨found, later, others⟩ := completionLoop_spec noNul (table.drop statics.index) statics.index
    rw [List.drop_drop, Nat.add_sub_cancel' later] at others
    rw [completionRun, familyArgCompletion, if_neg (by omega)]
    dsimp only
    rw [sized, ih _ rfl, others, found, take_cons_first]

/-- readline gets, from a call with state 0 on, the commands without an entity whose name starts
with `text`, in the order of `known_networks_commands` or any other table, and then NULL,
whatever the static variables held before. -/
theorem family_arg_completion_lists_matches (table : List Command) (text : Bytes)
    (noNul : (0 : UInt8) ∉ text) (statics : Statics) (n : Nat) :
    completionRun table text n statics 0 =
      ((completionMatches text table).map some ++ List.replicate n none).take n := by
  cases n with
  | zero => rfl
  | succ n =>
    obtain ⟨found, later, others⟩ := completionLoop_spec noNul table 0
    rw [Nat.sub_zero] at others
    have zero : ((0 : Nat) : Int) = 0 := rfl
    rw [completionRun, familyArgCompletion, if_pos zero]
    dsimp only
    rw [List.drop_zero, completionRun_later table noNul n _ rfl 0, others, found, take_cons_first]

/-- `fo` completes to `forget` alone. -/
theorem family_arg_completion_fo :
    (0 : UInt8) ∉ ascii "fo" ∧
      completionRun knownNetworksCommands (ascii "fo") 2 ⟨0, 0⟩ 0 =
        ((completionMatches (ascii "fo") knownNetworksCommands).map some ++ List.replicate 2 none).take 2 :=
  ⟨by decide, family_arg_completion_lists_matches knownNetworksCommands (ascii "fo") (by decide) ⟨0, 0⟩ 2⟩

example : completionMatches (ascii "fo") knownNetworksCommands = [ascii "forget"] := by decide

end Iwd.Client
