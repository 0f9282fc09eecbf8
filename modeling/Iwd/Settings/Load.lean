import Iwd.Settings.Format

/-!
What `l_settings_load_from_data` does to an object, over every input. A line either fails
and leaves the object as it was, or adds nothing, a group at the end, or a pair with its
value at the end of the last group: when the value is not valid UTF-8, `parse_value` takes
back the pair `parse_key` made. The one other outcome is the NULL dereference in
`parse_key`, which a key line meets while the object has no group.
-/

namespace Iwd.Settings

open Iwd.Netdev (Bytes)

/-- Every pair has its value: none is left as `parse_key` made it. -/
def Complete (s : LSettings) : Prop := ∀ g ∈ s.groups, ∀ p ∈ g.settings, p.value.isSome

/-- What a line that loads adds to the object. -/
inductive LineAdds (s : LSettings) : LSettings → Prop
  | nothing : LineAdds s s
  | group (name : Bytes) : LineAdds s ⟨s.groups ++ [⟨name, []⟩]⟩
  | pair (gs : List GroupData) (g : GroupData) (key value : Bytes) (last : s.groups = gs ++ [g]) :
      LineAdds s ⟨gs ++ [{ g with settings := g.settings ++ [⟨key, some value⟩] }]⟩

theorem LineAdds.complete {s s' : LSettings} (h : LineAdds s s') (complete : Complete s) : Complete s' := by
  cases h with
  | nothing => exact complete
  | group name => simpa [Complete, or_imp, forall_and] using complete
  | pair gs g key value last =>
    have kept : ∀ g' ∈ gs ++ [g], ∀ p ∈ g'.settings, p.value.isSome := last ▸ complete
    simp only [List.mem_append, List.mem_singleton, or_imp, forall_and, forall_eq] at kept
    simpa [Complete, or_imp, forall_and] using kept

theorem LineAdds.groups_ne_nil {s s' : LSettings} (h : LineAdds s s') (nonempty : s.groups ≠ []) :
    s'.groups ≠ [] := by
  cases h <;> simp_all

/-! ### One line -/

theorem parseGroup_cases (s : LSettings) (data : Bytes) :
    parseGroup s data = (false, s) ∨ ∃ name, parseGroup s data = (true, ⟨s.groups ++ [⟨name, []⟩]⟩) := by
  unfold parseGroup
  dsimp only
  split
  · exact .inl rfl
  · split
    · exact .inl rfl
    · split
      · exact .inr ⟨_, rfl⟩
      · exact .inl rfl

theorem parseKey_cases (s : LSettings) (key : Bytes) :
    parseKey s key = some (0, s) ∨ (s.groups = [] ∧ parseKey s key = none) ∨
    ((key.dropWhile isKeyChar).all isBlank = true ∧ ∃ gs g, s.groups = gs ++ [g] ∧
      parseKey s key = some ((key.takeWhile isKeyChar).length,
        ⟨gs ++ [{ g with settings := ⟨key.takeWhile isKeyChar, none⟩ :: g.settings }]⟩)) := by
  unfold parseKey
  dsimp only
  split
  · exact .inl rfl
  · next blanks =>
    cases last : s.groups.getLast? with
    | none => exact .inr (.inl ⟨List.getLast?_eq_none_iff.mp last, rfl⟩)
    | some g =>
      exact .inr (.inr ⟨by simpa using blanks, s.groups.dropLast, g,
        (List.dropLast_append_getLast? g last).symm, rfl⟩)

theorem parseValue_pushed (gs : List GroupData) (g : GroupData) (key value : Bytes) :
    parseValue ⟨gs ++ [{ g with settings := ⟨key, none⟩ :: g.settings }]⟩ value =
      if utf8Validate value then some (true, ⟨gs ++ [{ g with settings := g.settings ++ [⟨key, some value⟩] }]⟩)
      else some (false, ⟨gs ++ [g]⟩) := by
  simp [parseValue]

theorem parseKeyvalue_cases (s : LSettings) (c : UInt8) (l : Bytes) (notBlank : isBlank c = false) :
    parseKeyvalue s (c :: l) = some (false, s) ∨ (s.groups = [] ∧ parseKeyvalue s (c :: l) = none) ∨
    ∃ s', parseKeyvalue s (c :: l) = some (true, s') ∧ LineAdds s s' := by
  unfold parseKeyvalue
  split
  · exact .inl rfl
  · next value _ =>
    dsimp only
    split
    · exact .inl rfl
    · next nonempty =>
      have delimited : (c != 0x3D) = true := by
        by_contra eq
        simp [List.takeWhile_cons, eq] at nonempty
      rcases parseKey_cases s ((c :: l).takeWhile (· != 0x3D)) with
        pk | ⟨empty, pk⟩ | ⟨blanks, gs, g, last, pk⟩
      · exact .inl (by simp [pk])
      · exact .inr (.inl ⟨empty, by simp [pk]⟩)
      · have keyed : isKeyChar c = true := by
          by_contra notKey
          simp [List.takeWhile_cons, delimited, notKey, notBlank] at blanks
        have long : ((c :: l).takeWhile (· != 0x3D)).takeWhile isKeyChar ≠ [] := by
          simp [List.takeWhile_cons, delimited, keyed]
        simp only [pk, Option.some_bind, beq_iff_eq, List.length_eq_zero, long, if_false,
          parseValue_pushed]
        split
        · exact .inr (.inr ⟨_, rfl, .pair gs g _ _ last⟩)
        · exact .inl (by rw [show s = ⟨gs ++ [g]⟩ from congrArg LSettings.mk last])

theorem loadLine_cases (s : LSettings) (line : Bytes) :
    loadLine s line = some (false, s) ∨ (s.groups = [] ∧ loadLine s line = none) ∨
    ∃ s', loadLine s line = some (true, s') ∧ LineAdds s s' := by
  unfold loadLine
  split
  · exact .inr (.inr ⟨s, rfl, .nothing⟩)
  · next c l stripped =>
    have notBlank : isBlank c = false := by
      simpa [stripped] using List.head?_dropWhile_not isBlank line
    split
    · rcases parseGroup_cases s (c :: l) with failed | ⟨name, added⟩
      · exact .inl (by rw [failed])
      · exact .inr (.inr ⟨_, by rw [added], .group name⟩)
    · split
      · exact .inr (.inr ⟨s, rfl, .nothing⟩)
      · exact parseKeyvalue_cases s c l notBlank

/-! ### Every run -/

theorem loadLines_none {s : LSettings} {lines : List Bytes} (h : loadLines s lines = none) :
    s.groups = [] := by
  induction lines generalizing s with
  | nil => cases h
  | cons line rest ih =>
    unfold loadLines at h
    rcases loadLine_cases s line with failed | ⟨empty, _⟩ | ⟨s', loaded, adds⟩
    · simp [failed] at h
    · exact empty
    · rw [loaded] at h
      by_contra nonempty
      exact adds.groups_ne_nil nonempty (ih h)

theorem loadLines_complete {s s' : LSettings} {lines : List Bytes} {r : Bool} (complete : Complete s)
    (h : loadLines s lines = some (r, s')) : Complete s' := by
  induction lines generalizing s with
  | nil => cases h; exact complete
  | cons line rest ih =>
    unfold loadLines at h
    rcases loadLine_cases s line with failed | ⟨-, none⟩ | ⟨s'', loaded, adds⟩
    · simp only [failed, Option.some.injEq, Prod.mk.injEq] at h
      exact h.2 ▸ complete
    · simp [none] at h
    · rw [loaded] at h
      exact ih (adds.complete complete) h

theorem loadLines_false {s s' : LSettings} {lines : List Bytes} (h : loadLines s lines = some (false, s')) :
    ∃ pre bad post, lines = pre ++ bad :: post ∧ loadLines s pre = some (true, s') ∧
      loadLine s' bad = some (false, s') := by
  induction lines generalizing s with
  | nil => cases h
  | cons line rest ih =>
    unfold loadLines at h
    rcases loadLine_cases s line with failed | ⟨-, none⟩ | ⟨s'', loaded, -⟩
    · simp only [failed, Option.some.injEq, Prod.mk.injEq, true_and] at h
      subst h
      exact ⟨[], line, rest, rfl, rfl, failed⟩
    · simp [none] at h
    · rw [loaded] at h
      obtain ⟨pre, bad, post, split, prefixLoads, badFails⟩ := ih h
      exact ⟨line :: pre, bad, post, by rw [split]; rfl, by simp [loadLines, loaded, prefixLoads], badFails⟩

/-- The AP profile text `Passphrase=secret` above `[Security]`. -/
def keyBeforeGroup : Bytes := ascii "Passphrase=secret\n[Security]\n"

/-- A key line before the first group header dereferences NULL. For every object and every
byte buffer, `l_settings_load_from_data` returns false only with the object as the lines
before the failing one left it, the failing line having added nothing; every pair it leaves
has its value; and it dereferences NULL only on an object with no group. On a fresh object
the line `Passphrase=secret` above `[Security]` makes `parse_key` use the NULL that
`l_queue_peek_tail` returns for the last group. -/
theorem load_key_before_group_derefs_null :
    (∀ s data s', lSettingsLoadFromData s data = some (false, s') →
      (data = [] ∧ s' = s) ∨ ∃ pre bad post, data.splitOn 0x0A = pre ++ bad :: post ∧
        loadLines s pre = some (true, s') ∧ loadLine s' bad = some (false, s')) ∧
    (∀ s data r s', Complete s → lSettingsLoadFromData s data = some (r, s') → Complete s') ∧
    (∀ s data, lSettingsLoadFromData s data = none → s.groups = []) ∧
    lSettingsLoadFromData lSettingsNew keyBeforeGroup = none := by
  refine ⟨fun s data s' h => ?_, fun s data r s' complete h => ?_, fun s data h => ?_, by decide⟩
  all_goals unfold lSettingsLoadFromData at h; split at h
  · next empty => simp only [Option.some.injEq, Prod.mk.injEq, true_and] at h; exact .inl ⟨by simpa using empty, h.symm⟩
  · exact .inr (loadLines_false h)
  · simp only [Option.some.injEq, Prod.mk.injEq] at h; exact h.2 ▸ complete
  · exact loadLines_complete complete h
  · cases h
  · exact loadLines_none h

end Iwd.Settings
