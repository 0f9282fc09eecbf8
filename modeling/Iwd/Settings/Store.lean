import Iwd.Settings.RoundTrip

/-!
What an `l_settings` object built by the setters and removals stands for: a map from group
names to maps from keys to values (`View`). `l_settings_get_value`, `l_settings_has_group`,
`l_settings_has_key`, `l_settings_get_groups` and `l_settings_get_keys` read the object through
`l_queue_find`, which finds the first group of a name and the first pair of a key.

The setters never add a second group or pair of one name, so on every object they build the
first is the only one (`Built.unique`). On such an object every setter and removal acts on the
map as the map operation it stands for (`settings_refine_map`). The removals need the
uniqueness: `l_queue_remove_if` takes only the first match away, and a second one would show
through.
-/

namespace Iwd.Settings

open Iwd.Netdev (Bytes)

/-- `l_settings_has_group`. -/
def lSettingsHasGroup (s : LSettings) (groupName : Bytes) : Bool :=
  (s.groups.find? (·.name == groupName)).isSome

/-- `l_settings_has_key`. -/
def lSettingsHasKey (s : LSettings) (groupName key : Bytes) : Bool :=
  match s.groups.find? (·.name == groupName) with
  | none => false
  | some group => (group.settings.find? (·.key == key)).isSome

/-- `l_settings_get_groups`: the names in order, before the NULL that ends the array. -/
def lSettingsGetGroups (s : LSettings) : List Bytes := s.groups.map (·.name)

/-- `l_settings_get_keys`: the keys of the group in order, NULL for a missing group. -/
def lSettingsGetKeys (s : LSettings) (groupName : Bytes) : Option (List Bytes) :=
  (s.groups.find? (·.name == groupName)).map fun group => group.settings.map (·.key)

/-! ### The map an object stands for -/

/-- An `l_settings` object as a map: the groups it has, and the value of each key of each
group. -/
@[ext] structure View where
  group : Bytes → Bool
  value : Bytes → Bytes → Option Bytes

/-- What a setter or a removal does to the map. -/
inductive Op where
  /-- Store `text` under `key` of the group, which is added if missing. -/
  | set (groupName key text : Bytes)
  | removeKey (groupName key : Bytes)
  | removeGroup (groupName : Bytes)

namespace View

variable (v : View)

def set (groupName key text : Bytes) : View :=
  ⟨fun g => g == groupName || v.group g, fun g k => if g = groupName ∧ k = key then some text else v.value g k⟩

def eraseKey (groupName key : Bytes) : View :=
  ⟨v.group, fun g k => if g = groupName ∧ k = key then none else v.value g k⟩

def eraseGroup (groupName : Bytes) : View :=
  ⟨fun g => g != groupName && v.group g, fun g k => if g = groupName then none else v.value g k⟩

/-- The map's side of each operation: a set with a group name and key the format allows, and
a removal of a key or group that is there, succeed; anything else leaves the map as it was. -/
def step : Op → Bool × View
  | .set g k text => if validateGroupName g && validateKey k then (true, v.set g k text) else (false, v)
  | .removeKey g k => if (v.value g k).isSome then (true, v.eraseKey g k) else (false, v)
  | .removeGroup g => if v.group g then (true, v.eraseGroup g) else (false, v)

end View

/-- The text each setter stores, as its definition prints it. -/
def Call.op : Call → Op
  | .setString g k value => .set g k (escapeValue value)
  | .setBool g k b => .set g k (if b then ascii "true" else ascii "false")
  | .setInt g k n => .set g k (formatInt n)
  | .setUint g k n => .set g k (decimalDigits n)
  | .setInt64 g k n => .set g k (formatInt n)
  | .setUint64 g k n => .set g k (decimalDigits n)
  | .setStringList g k value delimiter => .set g k (escapeValue (Iwd.Ell.cString (lStrjoinv value delimiter)))
  | .removeKey g k => .removeKey g k
  | .removeGroup g => .removeGroup g

/-- The map the getters read off an object. -/
def view (s : LSettings) : View := ⟨lSettingsHasGroup s, lSettingsGetValue s⟩

theorem Call.run_op (s : LSettings) (c : Call) :
    c.run s = match c.op with
      | .set g k text => setValue s g k text
      | .removeKey g k => lSettingsRemoveKey s g k
      | .removeGroup g => lSettingsRemoveGroup s g := by
  cases c <;> rfl

/-! ### Lists changed at their first match -/

section FirstMatch

variable {α β : Type} {p q : α → Bool} {f : α → α}

theorem map_updateFirst {h : α → β} (keeps : ∀ a, h (f a) = h a) (l : List α) :
    (updateFirst p f l).map h = l.map h := by
  induction l with
  | nil => rfl
  | cons a l ih =>
    unfold updateFirst
    split <;> simp [keeps, ih]

theorem find?_updateFirst_of_disjoint (disjoint : ∀ a, p a = true → q a = false)
    (keeps : ∀ a, q (f a) = q a) (l : List α) : (updateFirst p f l).find? q = l.find? q := by
  induction l with
  | nil => rfl
  | cons a l ih =>
    unfold updateFirst
    split
    · next matched => simp [List.find?_cons, keeps, disjoint a matched]
    · simp [List.find?_cons, ih]

theorem find?_eraseP_of_disjoint (disjoint : ∀ a, p a = true → q a = false) (l : List α) :
    (l.eraseP p).find? q = l.find? q := by
  induction l with
  | nil => rfl
  | cons a l ih =>
    by_cases matched : p a
    · simp [List.eraseP_cons_of_pos matched, List.find?_cons, disjoint a matched]
    · simp [List.eraseP_cons_of_neg matched, List.find?_cons, ih]

theorem find?_eraseP_nodup {h : α → β} [BEq β] [LawfulBEq β] {b : β} {l : List α} (unique : (l.map h).Nodup) :
    (l.eraseP (h · == b)).find? (h · == b) = none := by
  induction l with
  | nil => rfl
  | cons a l ih =>
    rw [List.map_cons, List.nodup_cons] at unique
    by_cases named : h a = b
    · rw [List.eraseP_cons_of_pos (by simp [named]), List.find?_eq_none]
      intro x held
      have : h x ≠ b := fun same => unique.1 (named ▸ same ▸ List.mem_map_of_mem h held)
      simpa using this
    · rw [List.eraseP_cons_of_neg (by simp [named]), List.find?_cons_of_neg _ (by simp [named])]
      exact ih unique.2

theorem nodup_append_missing {h : α → β} [BEq β] [LawfulBEq β] {l : List α} {a : α} (unique : (l.map h).Nodup)
    (missing : l.find? (h · == h a) = none) : ((l ++ [a]).map h).Nodup := by
  have absent : h a ∉ l.map h := fun held => by
    obtain ⟨b, bHeld, same⟩ := List.mem_map.mp held
    simpa [same] using List.find?_eq_none.mp missing b bHeld
  rw [List.map_append, List.map_singleton]
  refine List.pairwise_append.mpr ⟨unique, List.pairwise_singleton _ _, fun x held y single => ?_⟩
  rw [List.mem_singleton.mp single]
  exact fun same => absent (same ▸ held)

theorem isSome_find?_updateFirst (keeps : ∀ a, q (f a) = q a) (l : List α) :
    ((updateFirst p f l).find? q).isSome = (l.find? q).isSome := by
  induction l with
  | nil => rfl
  | cons a l ih =>
    unfold updateFirst
    split <;> by_cases found : q a <;> simp [List.find?_cons, keeps, found, ih]

theorem disjoint_of_ne {h : α → β} [BEq β] [LawfulBEq β] {b c : β} (ne : c ≠ b) :
    ∀ a, (h a == b) = true → (h a == c) = false := fun a named => by
  rw [beq_iff_eq.mp named]
  exact beq_false_of_ne (Ne.symm ne)

end FirstMatch

/-! ### No two groups and no two keys of a group share a name -/

theorem names_updateFirst (p : GroupData → Bool) (t : GroupData → List SettingData) (l : List GroupData) :
    (updateFirst p (fun g => { g with settings := t g }) l).map (·.name) = l.map (·.name) :=
  map_updateFirst (fun _ => by rfl) l

theorem keys_updateFirst (p : SettingData → Bool) (t : SettingData → Option Bytes) (l : List SettingData) :
    (updateFirst p (fun q => { q with value := t q }) l).map (·.key) = l.map (·.key) :=
  map_updateFirst (fun _ => by rfl) l

theorem find?_name_updateFirst {b c : Bytes} (other : c ≠ b) (t : GroupData → List SettingData) (l : List GroupData) :
    (updateFirst (·.name == b) (fun g => { g with settings := t g }) l).find? (·.name == c) = l.find? (·.name == c) :=
  find?_updateFirst_of_disjoint (disjoint_of_ne other) (fun _ => by rfl) l

theorem find?_key_updateFirst {b c : Bytes} (other : c ≠ b) (t : SettingData → Option Bytes) (l : List SettingData) :
    (updateFirst (·.key == b) (fun q => { q with value := t q }) l).find? (·.key == c) = l.find? (·.key == c) :=
  find?_updateFirst_of_disjoint (disjoint_of_ne other) (fun _ => by rfl) l

theorem isSome_find?_name_updateFirst (p : GroupData → Bool) (t : GroupData → List SettingData) (c : Bytes)
    (l : List GroupData) :
    ((updateFirst p (fun g => { g with settings := t g }) l).find? (·.name == c)).isSome =
      (l.find? (·.name == c)).isSome :=
  isSome_find?_updateFirst (fun _ => by rfl) l

/-- No two groups share a name, and no two pairs of a group share a key. -/
structure Unique (s : LSettings) : Prop where
  names : (s.groups.map (·.name)).Nodup
  keys : ∀ g ∈ s.groups, (g.settings.map (·.key)).Nodup

theorem Unique.setValue {s : LSettings} (h : Unique s) (groupName key value : Bytes) :
    Unique (setValue s groupName key value).2 := by
  unfold Iwd.Settings.setValue
  split_ifs
  · exact h
  · exact h
  · split
    · next absent =>
      refine ⟨nodup_append_missing h.names absent, fun g held => ?_⟩
      rcases List.mem_append.mp held with old | new
      · exact h.keys g old
      · rw [List.mem_singleton.mp new]
        exact List.pairwise_singleton _ _
    · next group found =>
      have groupKeys := h.keys group (List.mem_of_find?_eq_some found)
      dsimp only
      refine ⟨by rw [names_updateFirst]; exact h.names, forall_mem_updateFirst h.keys fun _ _ => ?_⟩
      split
      · next missing => exact nodup_append_missing groupKeys missing
      · rw [keys_updateFirst]
        exact groupKeys

theorem Unique.removeGroup {s : LSettings} (h : Unique s) (groupName : Bytes) :
    Unique (lSettingsRemoveGroup s groupName).2 := by
  unfold lSettingsRemoveGroup
  split
  · exact h
  · exact ⟨h.names.sublist ((List.eraseP_sublist _).map _), fun g held => h.keys g (List.mem_of_mem_eraseP held)⟩

theorem Unique.removeKey {s : LSettings} (h : Unique s) (groupName key : Bytes) :
    Unique (lSettingsRemoveKey s groupName key).2 := by
  unfold lSettingsRemoveKey
  split
  · exact h
  · split
    · exact h
    · exact ⟨by rw [names_updateFirst]; exact h.names, forall_mem_updateFirst h.keys fun y yHeld =>
        (h.keys y yHeld).sublist ((List.eraseP_sublist _).map _)⟩

theorem Built.unique {s : LSettings} (h : Built s) : Unique s := by
  induction h with
  | new => exact ⟨List.nodup_nil, fun _ held => nomatch held⟩
  | call c _ _ ih =>
    rw [Call.run_op]
    cases c.op with
    | set g k text => exact ih.setValue g k text
    | removeKey g k => exact ih.removeKey g k
    | removeGroup g => exact ih.removeGroup g

/-! ### The getters after each setter and removal -/

section Getters

variable {s : LSettings} {groupName key : Bytes}

theorem setValue_invalid (text : Bytes) (invalid : (validateGroupName groupName && validateKey key) = false) :
    setValue s groupName key text = (false, s) := by
  cases name : validateGroupName groupName <;> cases valid : validateKey key <;>
    simp_all [Iwd.Settings.setValue]

theorem setValue_valid (text : Bytes) (valid : (validateGroupName groupName && validateKey key) = true) :
    (setValue s groupName key text).1 = true := by
  rw [Bool.and_eq_true] at valid
  unfold Iwd.Settings.setValue
  rw [if_neg (by simp [valid.1]), if_neg (by simp [valid.2])]
  split <;> rfl

theorem lSettingsHasGroup_setValue {text : Bytes} (set : (setValue s groupName key text).1 = true) (g : Bytes) :
    lSettingsHasGroup (setValue s groupName key text).2 g = (g == groupName || lSettingsHasGroup s g) := by
  unfold setValue at set ⊢
  split_ifs at set ⊢
  split
  · next absent =>
    by_cases same : g = groupName
    · subst same
      simp [lSettingsHasGroup, List.find?_append]
    · simp [lSettingsHasGroup, List.find?_append, same, Ne.symm same]
  · rw [lSettingsHasGroup, isSome_find?_name_updateFirst]
    by_cases same : g = groupName
    · subst same
      simp [lSettingsHasGroup, *]
    · simp [lSettingsHasGroup, same]

theorem lSettingsGetValue_setValue_of_ne {text : Bytes} (set : (setValue s groupName key text).1 = true)
    {g k : Bytes} (other : ¬(g = groupName ∧ k = key)) :
    lSettingsGetValue (setValue s groupName key text).2 g k = lSettingsGetValue s g k := by
  unfold setValue at set ⊢
  split_ifs at set ⊢
  by_cases same : g = groupName
  · subst same
    have otherKey : k ≠ key := fun h => other ⟨rfl, h⟩
    split
    · next absent => simp [lSettingsGetValue, List.find?_append, absent, Ne.symm otherKey]
    · next group found =>
      simp only [lSettingsGetValue, find?_updateFirst, found, Option.map_some', Option.some_bind, implies_true]
      split
      · simp [List.find?_append, Ne.symm otherKey]
      · rw [find?_key_updateFirst otherKey]
  · split
    · simp [lSettingsGetValue, List.find?_append, Ne.symm same]
    · rw [lSettingsGetValue, find?_name_updateFirst same]
      rfl

theorem lSettingsRemoveKey_fst (s : LSettings) (groupName key : Bytes) :
    (lSettingsRemoveKey s groupName key).1 = lSettingsHasKey s groupName key := by
  unfold lSettingsRemoveKey lSettingsHasKey
  cases s.groups.find? (·.name == groupName) with
  | none => rfl
  | some group =>
    dsimp only
    cases group.settings.find? (·.key == key) <;> rfl

theorem lSettingsRemoveKey_false (refused : (lSettingsRemoveKey s groupName key).1 = false) :
    lSettingsRemoveKey s groupName key = (false, s) := by
  revert refused
  unfold lSettingsRemoveKey
  cases s.groups.find? (·.name == groupName) with
  | none => exact fun _ => rfl
  | some group =>
    dsimp only
    cases group.settings.find? (·.key == key) with
    | none => exact fun _ => rfl
    | some _ => exact fun refused => nomatch refused

theorem lSettingsHasGroup_removeKey (s : LSettings) (groupName key g : Bytes) :
    lSettingsHasGroup (lSettingsRemoveKey s groupName key).2 g = lSettingsHasGroup s g := by
  unfold lSettingsRemoveKey
  split
  · rfl
  · split
    · rfl
    · exact isSome_find?_name_updateFirst _ _ g _

theorem lSettingsGetValue_removeKey (h : Unique s) (removed : (lSettingsRemoveKey s groupName key).1 = true)
    (g k : Bytes) :
    lSettingsGetValue (lSettingsRemoveKey s groupName key).2 g k =
      if g = groupName ∧ k = key then none else lSettingsGetValue s g k := by
  revert removed
  unfold lSettingsRemoveKey
  cases found : s.groups.find? (·.name == groupName) with
  | none => exact fun removed => nomatch removed
  | some group =>
    dsimp only
    cases group.settings.find? (·.key == key) with
    | none => exact fun removed => nomatch removed
    | some _ =>
      intro _
      by_cases same : g = groupName
      · subst same
        simp only [lSettingsGetValue, find?_updateFirst, found, Option.map_some', Option.some_bind, implies_true]
        by_cases sameKey : k = key
        · subst sameKey
          rw [find?_eraseP_nodup (h.keys group (List.mem_of_find?_eq_some found))]
          simp
        · rw [find?_eraseP_of_disjoint (disjoint_of_ne sameKey)]
          simp [sameKey]
      · rw [lSettingsGetValue, find?_name_updateFirst same]
        simp [same, lSettingsGetValue]

theorem lSettingsRemoveGroup_fst (s : LSettings) (groupName : Bytes) :
    (lSettingsRemoveGroup s groupName).1 = lSettingsHasGroup s groupName := by
  unfold lSettingsRemoveGroup lSettingsHasGroup
  cases s.groups.find? (·.name == groupName) <;> rfl

theorem lSettingsRemoveGroup_false (refused : (lSettingsRemoveGroup s groupName).1 = false) :
    lSettingsRemoveGroup s groupName = (false, s) := by
  revert refused
  unfold lSettingsRemoveGroup
  cases s.groups.find? (·.name == groupName) with
  | none => exact fun _ => rfl
  | some _ => exact fun refused => nomatch refused

theorem lSettingsRemoveGroup_removed (removed : (lSettingsRemoveGroup s groupName).1 = true) :
    (lSettingsRemoveGroup s groupName).2 = ⟨s.groups.eraseP (·.name == groupName)⟩ := by
  revert removed
  unfold lSettingsRemoveGroup
  cases s.groups.find? (·.name == groupName) with
  | none => exact fun removed => nomatch removed
  | some _ => exact fun _ => rfl

theorem find?_removeGroup (h : Unique s) (removed : (lSettingsRemoveGroup s groupName).1 = true) (g : Bytes) :
    (lSettingsRemoveGroup s groupName).2.groups.find? (·.name == g) =
      if g = groupName then none else s.groups.find? (·.name == g) := by
  rw [lSettingsRemoveGroup_removed removed]
  split
  · next same => subst same; exact find?_eraseP_nodup h.names
  · next same => exact find?_eraseP_of_disjoint (disjoint_of_ne same) _

theorem Storable.hasKey (h : Storable s) (g k : Bytes) :
    lSettingsHasKey s g k = (lSettingsGetValue s g k).isSome := by
  unfold lSettingsHasKey lSettingsGetValue
  cases found : s.groups.find? (·.name == g) with
  | none => rfl
  | some group =>
    dsimp only [Option.some_bind]
    cases pair : group.settings.find? (·.key == k) with
    | none => rfl
    | some p =>
      obtain ⟨-, v, value, -⟩ := (h group (List.mem_of_find?_eq_some found)).2 p (List.mem_of_find?_eq_some pair)
      simp [value]

end Getters

/-! ### The setters and removals refine the map -/

theorem view_set (s : LSettings) (groupName key text : Bytes) :
    (setValue s groupName key text).1 = ((view s).step (.set groupName key text)).1 ∧
      view (setValue s groupName key text).2 = ((view s).step (.set groupName key text)).2 := by
  cases valid : (validateGroupName groupName && validateKey key)
  case false => simp [View.step, valid, setValue_invalid text valid]
  have set := setValue_valid (s := s) text valid
  refine ⟨by simp [View.step, valid, set], ?_⟩
  simp only [View.step, valid, if_true]
  refine View.ext (funext fun g => lSettingsHasGroup_setValue set g) (funext fun g => funext fun k => ?_)
  by_cases here : g = groupName ∧ k = key
  · obtain ⟨rfl, rfl⟩ := here
    simp [View.set, view, lSettingsGetValue_setValue _ _ _ _ set]
  · simp [View.set, view, here, lSettingsGetValue_setValue_of_ne set here]

theorem view_removeKey {s : LSettings} (h : Unique s) (storable : Storable s) (groupName key : Bytes) :
    (lSettingsRemoveKey s groupName key).1 = ((view s).step (.removeKey groupName key)).1 ∧
      view (lSettingsRemoveKey s groupName key).2 = ((view s).step (.removeKey groupName key)).2 := by
  have answer : (lSettingsRemoveKey s groupName key).1 = (lSettingsGetValue s groupName key).isSome := by
    rw [lSettingsRemoveKey_fst, storable.hasKey]
  cases removed : (lSettingsRemoveKey s groupName key).1
  case false =>
    rw [lSettingsRemoveKey_false removed]
    simp [View.step, view, ← answer, removed]
  refine ⟨by simp [View.step, view, ← answer, removed], ?_⟩
  simp only [View.step, view, ← answer, removed, if_true]
  exact View.ext (funext (lSettingsHasGroup_removeKey s groupName key))
    (funext fun g => funext (lSettingsGetValue_removeKey h removed g))

theorem view_removeGroup {s : LSettings} (h : Unique s) (groupName : Bytes) :
    (lSettingsRemoveGroup s groupName).1 = ((view s).step (.removeGroup groupName)).1 ∧
      view (lSettingsRemoveGroup s groupName).2 = ((view s).step (.removeGroup groupName)).2 := by
  cases removed : (lSettingsRemoveGroup s groupName).1
  case false =>
    rw [lSettingsRemoveGroup_false removed]
    simp [View.step, view, ← lSettingsRemoveGroup_fst, removed]
  refine ⟨by simp [View.step, view, ← lSettingsRemoveGroup_fst, removed], ?_⟩
  simp only [View.step, view, ← lSettingsRemoveGroup_fst, removed, if_true]
  refine View.ext (funext fun g => ?_) (funext fun g => funext fun k => ?_)
  · simp only [lSettingsHasGroup, find?_removeGroup h removed, View.eraseGroup]
    by_cases same : g = groupName <;> simp [same, lSettingsHasGroup]
  · simp only [lSettingsGetValue, find?_removeGroup h removed, View.eraseGroup]
    by_cases same : g = groupName <;> simp [same, lSettingsGetValue]

/-- Every object the setters and removals build from `l_settings_new` has no two groups of one
name and no two pairs of one key in a group, and on it every setter and removal acts on the map
the getters read as the map operation it stands for: the same answer, and the same map after. -/
theorem settings_refine_map {s : LSettings} (built : Built s) (c : Call) :
    Unique s ∧ (c.run s).1 = ((view s).step c.op).1 ∧ view (c.run s).2 = ((view s).step c.op).2 := by
  refine ⟨built.unique, ?_⟩
  rw [Call.run_op]
  cases c.op with
  | set g k text => exact view_set s g k text
  | removeKey g k => exact view_removeKey built.unique built.storable g k
  | removeGroup g => exact view_removeGroup built.unique g

/-- `l_settings_set_int` of channel 6 under `[General]`. -/
def channelCall : Call := .setInt (ascii "General") (ascii "Channel") 6

/-- Removing the channel again. -/
theorem settings_refine_map_channel :
    Built (channelCall.run lSettingsNew).2 ∧ Unique (channelCall.run lSettingsNew).2 ∧
      ((Call.removeKey (ascii "General") (ascii "Channel")).run (channelCall.run lSettingsNew).2).1 =
        ((view (channelCall.run lSettingsNew).2).step (.removeKey (ascii "General") (ascii "Channel"))).1 ∧
      view ((Call.removeKey (ascii "General") (ascii "Channel")).run (channelCall.run lSettingsNew).2).2 =
        ((view (channelCall.run lSettingsNew).2).step (.removeKey (ascii "General") (ascii "Channel"))).2 :=
  have built : Built (channelCall.run lSettingsNew).2 := .call channelCall .new (by decide)
  ⟨built, settings_refine_map built (.removeKey (ascii "General") (ascii "Channel"))⟩

/-- On every object the setters and removals build, `l_settings_get_groups` lists each group once,
and `l_settings_get_keys` lists each key of a group once: exactly the keys `l_settings_get_value`
finds a value for. -/
theorem settings_lists_each_name_once {s : LSettings} (built : Built s) :
    (lSettingsGetGroups s).Nodup ∧ (∀ g, g ∈ lSettingsGetGroups s ↔ lSettingsHasGroup s g = true) ∧
      ∀ g keys, lSettingsGetKeys s g = some keys →
        keys.Nodup ∧ ∀ k, k ∈ keys ↔ (lSettingsGetValue s g k).isSome = true := by
  have unique := built.unique
  refine ⟨unique.names, fun g => by simp [lSettingsGetGroups, lSettingsHasGroup, List.find?_isSome], ?_⟩
  intro g keys listed
  obtain ⟨group, found, rfl⟩ := Option.map_eq_some'.mp listed
  refine ⟨unique.keys group (List.mem_of_find?_eq_some found), fun k => ?_⟩
  rw [← built.storable.hasKey, lSettingsHasKey, found]
  simp [List.find?_isSome]

/-- The groups after the channel is set. -/
theorem settings_lists_each_name_once_channel :
    Built (channelCall.run lSettingsNew).2 ∧ (lSettingsGetGroups (channelCall.run lSettingsNew).2).Nodup :=
  have built : Built (channelCall.run lSettingsNew).2 := .call channelCall .new (by decide)
  ⟨built, (settings_lists_each_name_once built).1⟩

end Iwd.Settings
