import Iwd.Settings.Load

/-!
`l_settings_to_data` against `l_settings_load_from_data`, over every object the setters
build. The writer puts one line per group header and per pair and a blank line between
groups; a text with no newline in any line splits back into exactly those lines. The parser
then reads a header back as its group and a pair line back as its pair, provided the key is
not empty and the value is valid UTF-8. The setters guarantee everything else: group names
and keys pass `validate_group_name` and `validate_key`, and `escape_value` or the printing
of a number leaves no newline in a value and no blank at its start.
-/

namespace Iwd.Settings

open Iwd.Netdev (Bytes)

/-! ### Escaping -/

/-- What `escape_value` writes for one byte: an escape that `unescape_value` reads back as
the byte, or the byte itself, which is then no newline or backslash, and no blank while
whitespace still leads. -/
theorem escapeValue_go_cons (lead : Bool) (c : UInt8) (rest : Bytes) :
    ∃ pre lead', escapeValue.go lead (c :: rest) = pre ++ escapeValue.go lead' rest ∧
      ((∃ e, pre = [0x5C, e] ∧ unescapeByte e = some c) ∨
        (pre = [c] ∧ c ≠ 0x0A ∧ c ≠ 0x5C ∧ (lead = true → isBlank c = false))) := by
  rw [escapeValue.go]
  by_cases space : c = 0x20
  · subst space
    cases lead
    · exact ⟨[0x20], false, rfl, .inr ⟨rfl, by decide, by decide, nofun⟩⟩
    · exact ⟨[0x5C, 0x73], true, rfl, .inl ⟨0x73, rfl, rfl⟩⟩
  by_cases tab : c = 0x09
  · subst tab
    cases lead
    · exact ⟨[0x09], false, rfl, .inr ⟨rfl, by decide, by decide, nofun⟩⟩
    · exact ⟨[0x5C, 0x74], true, rfl, .inl ⟨0x74, rfl, rfl⟩⟩
  by_cases newline : c = 0x0A
  · subst newline; exact ⟨[0x5C, 0x6E], false, rfl, .inl ⟨0x6E, rfl, rfl⟩⟩
  by_cases cr : c = 0x0D
  · subst cr; exact ⟨[0x5C, 0x72], false, rfl, .inl ⟨0x72, rfl, rfl⟩⟩
  by_cases backslash : c = 0x5C
  · subst backslash; exact ⟨[0x5C, 0x5C], false, rfl, .inl ⟨0x5C, rfl, rfl⟩⟩
  refine ⟨[c], false, ?_, .inr ⟨rfl, newline, backslash, fun _ => by simp [isBlank, space, tab]⟩⟩
  simp [space, tab, newline, cr, backslash]

theorem unescapeValue_plain {c : UInt8} (plain : c ≠ 0x5C) (rest : Bytes) :
    unescapeValue (c :: rest) = (c :: ·) <$> unescapeValue rest := by
  cases rest <;> simp [unescapeValue, plain]

theorem unescapeValue_escapeValue_go (lead : Bool) (value : Bytes) :
    unescapeValue (escapeValue.go lead value) = some value := by
  induction value generalizing lead with
  | nil => rfl
  | cons c rest ih =>
    obtain ⟨pre, lead', written, ⟨e, rfl, unescaped⟩ | ⟨rfl, -, plain, -⟩⟩ := escapeValue_go_cons lead c rest <;>
      rw [written]
    · simp [unescapeValue, unescaped, ih]
    · simp [unescapeValue_plain plain, ih]

theorem escapeValue_go_length (lead : Bool) (value : Bytes) :
    (escapeValue.go lead value).length = value.length + escapeValueCount lead value := by
  induction value generalizing lead with
  | nil => rfl
  | cons c rest ih =>
    rw [escapeValue.go, escapeValueCount]
    by_cases space : c = 0x20
    · subst space; cases lead <;> simp [ih] <;> omega
    by_cases tab : c = 0x09
    · subst tab; cases lead <;> simp [ih] <;> omega
    by_cases newline : c = 0x0A
    · subst newline; simp [ih]; omega
    by_cases cr : c = 0x0D
    · subst cr; simp [ih]; omega
    by_cases backslash : c = 0x5C
    · subst backslash; simp [ih]; omega
    simp [space, tab, newline, cr, backslash, ih]
    omega

/-- `unescape_value` gives back every value `escape_value` was given, and the second pass of
`escape_value` writes exactly the `i + j` bytes the first pass counted, so that its
terminator is the last of the `i + j + 1` bytes allocated. -/
theorem escape_value_round_trip_fits (value : Bytes) :
    unescapeValue (escapeValue value) = some value ∧
      (escapeValue value).length = value.length + escapeValueCount true value :=
  ⟨unescapeValue_escapeValue_go true value, escapeValue_go_length true value⟩

/-- A value the writer puts on one line and the parser reads back whole: no newline, and no
blank at its start for `parse_keyvalue` to skip. -/
def StoredText (value : Bytes) : Prop := 0x0A ∉ value ∧ value.head?.all (fun b => !isBlank b) = true

instance (value : Bytes) : Decidable (StoredText value) := inferInstanceAs (Decidable (_ ∧ _))

theorem escapeValue_go_newline (lead : Bool) (value : Bytes) : 0x0A ∉ escapeValue.go lead value := by
  induction value generalizing lead with
  | nil => exact List.not_mem_nil _
  | cons c rest ih =>
    obtain ⟨pre, lead', written, ⟨e, rfl, unescaped⟩ | ⟨rfl, plain, -, -⟩⟩ := escapeValue_go_cons lead c rest <;>
      rw [written, List.mem_append, not_or] <;> refine ⟨?_, ih lead'⟩
    · have escape : e ≠ 0x0A := by rintro rfl; cases unescaped
      simp [Ne.symm escape]
    · simpa using Ne.symm plain

theorem storedText_escapeValue (value : Bytes) : StoredText (escapeValue value) := by
  refine ⟨escapeValue_go_newline true value, ?_⟩
  cases value with
  | nil => rfl
  | cons c rest =>
    obtain ⟨pre, lead', written, ⟨e, rfl, -⟩ | ⟨rfl, -, -, plain⟩⟩ := escapeValue_go_cons true c rest <;>
      rw [escapeValue, written]
    · rfl
    · simpa using plain rfl

/-- The bytes `snprintf` prints for an integer. -/
def numberBytes : List UInt8 := [0x2D, 0x30, 0x31, 0x32, 0x33, 0x34, 0x35, 0x36, 0x37, 0x38, 0x39]

theorem digit_mem_numberBytes {k : Nat} (small : k < 10) : (0x30 + k).toUInt8 ∈ numberBytes := by
  have digits : ∀ k < 10, (0x30 + k).toUInt8 ∈ numberBytes := by decide
  exact digits k small

theorem decimalDigits_mem (n : Nat) : ∀ b ∈ decimalDigits n, b ∈ numberBytes := by
  induction n using decimalDigits.induct with
  | case1 n small =>
    rw [decimalDigits, if_pos small]
    simpa using digit_mem_numberBytes small
  | case2 n large ih =>
    rw [decimalDigits, if_neg large]
    intro b held
    rcases List.mem_append.mp held with front | last
    · exact ih b front
    · rw [List.mem_singleton.mp last]
      exact digit_mem_numberBytes (Nat.mod_lt n (by omega))

theorem formatInt_mem (n : Int) : ∀ b ∈ formatInt n, b ∈ numberBytes := by
  intro b held
  rcases List.mem_append.mp held with minus | digits
  · split at minus
    · rw [List.mem_singleton.mp minus]; decide
    · cases minus
  · exact decimalDigits_mem _ b digits

theorem storedText_of_numberBytes {value : Bytes} (h : ∀ b ∈ value, b ∈ numberBytes) : StoredText value := by
  have line : ∀ b ∈ numberBytes, b ≠ 0x0A ∧ isBlank b = false := by decide
  refine ⟨fun newline => (line _ (h _ newline)).1 rfl, ?_⟩
  cases value with
  | nil => rfl
  | cons b rest => simpa using (line b (h b (List.mem_cons_self _ _))).2

/-! ### What the setters keep -/

/-- A pair `l_settings_to_data` writes as a line the parser takes as a pair. -/
def PairStorable (p : SettingData) : Prop := validateKey p.key = true ∧ ∃ v, p.value = some v ∧ StoredText v

/-- A group whose header and pairs the parser takes back. -/
def GroupStorable (g : GroupData) : Prop := validateGroupName g.name = true ∧ ∀ p ∈ g.settings, PairStorable p

/-- Every group storable. -/
def Storable (s : LSettings) : Prop := ∀ g ∈ s.groups, GroupStorable g

theorem mem_updateFirst {α : Type} {p : α → Bool} {f : α → α} {l : List α} {x : α}
    (h : x ∈ updateFirst p f l) : x ∈ l ∨ ∃ y ∈ l, x = f y := by
  induction l with
  | nil => cases h
  | cons a l ih =>
    unfold updateFirst at h
    split at h
    · rcases List.mem_cons.mp h with rfl | kept
      · exact .inr ⟨a, List.mem_cons_self _ _, rfl⟩
      · exact .inl (List.mem_cons_of_mem _ kept)
    · rcases List.mem_cons.mp h with rfl | rest
      · exact .inl (List.mem_cons_self _ _)
      · rcases ih rest with kept | ⟨y, held, rfl⟩
        · exact .inl (List.mem_cons_of_mem _ kept)
        · exact .inr ⟨y, List.mem_cons_of_mem _ held, rfl⟩

theorem find?_updateFirst {α : Type} (p : α → Bool) (f : α → α) (keeps : ∀ a, p (f a) = p a) (l : List α) :
    (updateFirst p f l).find? p = (l.find? p).map f := by
  induction l with
  | nil => rfl
  | cons a l ih =>
    unfold updateFirst
    split
    · next found => simp [List.find?_cons, keeps, found]
    · next missed => simp [List.find?_cons, missed, ih]

theorem forall_mem_updateFirst {α : Type} {P : α → Prop} {p : α → Bool} {f : α → α} {l : List α}
    (kept : ∀ a ∈ l, P a) (changed : ∀ a ∈ l, P (f a)) : ∀ x ∈ updateFirst p f l, P x := by
  intro x held
  rcases mem_updateFirst held with old | ⟨y, yHeld, rfl⟩
  exacts [kept x old, changed y yHeld]

theorem Storable.setValue {s : LSettings} (h : Storable s) (groupName key value : Bytes)
    (stored : StoredText value) : Storable (setValue s groupName key value).2 := by
  unfold Iwd.Settings.setValue
  split_ifs with badName badKey
  · exact h
  · exact h
  · simp only [Bool.not_eq_true', Bool.not_eq_false] at badName badKey
    have pair : PairStorable ⟨key, some value⟩ := ⟨badKey, value, rfl, stored⟩
    split
    · intro g held
      rcases List.mem_append.mp held with old | new
      · exact h g old
      · rw [List.mem_singleton.mp new]
        exact ⟨badName, by simpa using pair⟩
    · next group found =>
      have kept := (h group (List.mem_of_find?_eq_some found)).2
      refine forall_mem_updateFirst h fun y yHeld => ⟨(h y yHeld).1, ?_⟩
      dsimp only
      split
      · exact fun p pHeld => (List.mem_append.mp pHeld).elim (kept p) fun new => List.mem_singleton.mp new ▸ pair
      · exact forall_mem_updateFirst kept fun q qHeld => ⟨(kept q qHeld).1, value, rfl, stored⟩

theorem Storable.removeGroup {s : LSettings} (h : Storable s) (groupName : Bytes) :
    Storable (lSettingsRemoveGroup s groupName).2 := by
  unfold lSettingsRemoveGroup
  split
  · exact h
  · exact fun g held => h g (List.mem_of_mem_eraseP held)

theorem Storable.removeKey {s : LSettings} (h : Storable s) (groupName key : Bytes) :
    Storable (lSettingsRemoveKey s groupName key).2 := by
  unfold lSettingsRemoveKey
  split
  · exact h
  · split
    · exact h
    · exact forall_mem_updateFirst h fun y yHeld =>
        ⟨(h y yHeld).1, fun p pHeld => (h y yHeld).2 p (List.mem_of_mem_eraseP pHeld)⟩

/-- The setters and removals the round trip is taken over. -/
inductive Call where
  | setString (groupName key value : Bytes)
  | setBool (groupName key : Bytes) (b : Bool)
  | setInt (groupName key : Bytes) (n : Int)
  | setUint (groupName key : Bytes) (n : Nat)
  | setInt64 (groupName key : Bytes) (n : Int)
  | setUint64 (groupName key : Bytes) (n : Nat)
  | setStringList (groupName key : Bytes) (value : List Bytes) (delimiter : UInt8)
  | removeKey (groupName key : Bytes)
  | removeGroup (groupName : Bytes)

def Call.run (s : LSettings) : Call → Bool × LSettings
  | .setString g k v => lSettingsSetString s g k v
  | .setBool g k b => lSettingsSetBool s g k b
  | .setInt g k n => lSettingsSetInt s g k n
  | .setUint g k n => lSettingsSetUint s g k n
  | .setInt64 g k n => lSettingsSetInt64 s g k n
  | .setUint64 g k n => lSettingsSetUint64 s g k n
  | .setStringList g k v d => lSettingsSetStringList s g k v d
  | .removeKey g k => lSettingsRemoveKey s g k
  | .removeGroup g => lSettingsRemoveGroup s g

/-- The objects built from `l_settings_new` by calls that returned true. -/
inductive Built : LSettings → Prop where
  | new : Built lSettingsNew
  | call {s : LSettings} (c : Call) : Built s → (c.run s).1 = true → Built (c.run s).2

theorem Built.storable {s : LSettings} (h : Built s) : Storable s := by
  induction h with
  | new => intro g held; cases held
  | call c _ _ ih =>
    cases c with
    | setString g k v => exact ih.setValue g k _ (storedText_escapeValue v)
    | setBool g k b => exact ih.setValue g k _ (by cases b <;> decide)
    | setInt g k n => exact ih.setValue g k _ (storedText_of_numberBytes (formatInt_mem n))
    | setUint g k n => exact ih.setValue g k _ (storedText_of_numberBytes (decimalDigits_mem n))
    | setInt64 g k n => exact ih.setValue g k _ (storedText_of_numberBytes (formatInt_mem n))
    | setUint64 g k n => exact ih.setValue g k _ (storedText_of_numberBytes (decimalDigits_mem n))
    | setStringList g k v d => exact ih.setValue g k _ (storedText_escapeValue _)
    | removeKey g k => exact ih.removeKey g k
    | removeGroup g => exact ih.removeGroup g

/-! ### The written lines -/

/-- The lines `l_settings_to_data` writes for a group. -/
def groupLines (g : GroupData) : List Bytes :=
  ([0x5B] ++ g.name ++ [0x5D]) :: g.settings.map fun p => p.key ++ [0x3D] ++ p.value.getD []

/-- The lines of the whole text, with a blank line between groups. -/
def dataLines : List GroupData → List Bytes
  | [] => []
  | g :: rest => groupLines g ++ (if rest.isEmpty then [] else [[]]) ++ dataLines rest

theorem lSettingsToData_go (groups : List GroupData) :
    lSettingsToData.go groups = (dataLines groups).flatMap (· ++ [0x0A]) := by
  induction groups with
  | nil => rfl
  | cons g rest ih =>
    simp only [lSettingsToData.go, dataLines, groupLines, ih, List.flatMap_append, List.flatMap_cons,
      List.flatMap_map, List.flatMap_nil, List.append_assoc]
    split <;> simp

theorem flatMap_newline (lines : List Bytes) :
    lines.flatMap (· ++ [0x0A]) = [0x0A].intercalate (lines ++ [[]]) := by
  induction lines with
  | nil => rfl
  | cons line rest ih =>
    cases rest with
    | nil => simp [List.intercalate]
    | cons next rest =>
      simp only [List.flatMap_cons, List.cons_append, List.intercalate, List.intersperse_cons_cons,
        List.flatten_cons] at ih ⊢
      rw [ih]
      simp

theorem splitOn_flatMap_newline (lines : List Bytes) (oneLine : ∀ line ∈ lines, 0x0A ∉ line) :
    (lines.flatMap (· ++ [0x0A])).splitOn 0x0A = lines ++ [[]] := by
  rw [flatMap_newline]
  exact List.splitOn_intercalate _ _ (by simpa [or_imp, forall_and] using oneLine) (by simp)

/-! ### Reading the lines back -/

theorem loadLines_append {s s' : LSettings} {front : List Bytes} (loads : loadLines s front = some (true, s'))
    (back : List Bytes) : loadLines s (front ++ back) = loadLines s' back := by
  induction front generalizing s with
  | nil => cases loads; rfl
  | cons line rest ih =>
    rw [List.cons_append, loadLines.eq_2]
    rw [loadLines.eq_2] at loads
    split at loads
    · exact ih loads
    · next r other =>
      rw [loads] at other
      exact absurd rfl (other s')

theorem validateGroupName_bytes {name : Bytes} (valid : validateGroupName name = true) :
    ∀ c ∈ name, isPrint c = true ∧ c ≠ 0x5D ∧ c ≠ 0x5B := by
  simpa [validateGroupName, and_assoc] using valid

theorem loadLine_header (s : LSettings) (name : Bytes) (valid : validateGroupName name = true) :
    loadLine s ([0x5B] ++ name ++ [0x5D]) = some (true, ⟨s.groups ++ [⟨name, []⟩]⟩) := by
  have bytes := validateGroupName_bytes valid
  have closed : ∀ c ∈ name, (c != 0x5D) = true := fun c held => by simp [(bytes c held).2.1]
  have printable : name.any (fun c => !isPrint c || c == 0x5B) = false := by
    simpa using fun c held => ⟨(bytes c held).1, (bytes c held).2.2⟩
  have blank : isBlank 0x5B = false := rfl
  simp only [loadLine, List.singleton_append, List.cons_append, List.nil_append, List.dropWhile_cons, blank,
    Bool.false_eq_true, if_false, beq_self_eq_true, if_true, parseGroup, List.drop_one, List.tail_cons,
    List.takeWhile_append_of_pos closed, List.dropWhile_append_of_pos closed]
  simp [printable]

theorem validateKey_bytes {key : Bytes} (valid : validateKey key = true) : ∀ c ∈ key, isKeyChar c = true := by
  simpa [validateKey] using valid

theorem isKeyChar_plain {c : UInt8} (key : isKeyChar c = true) :
    isBlank c = false ∧ c ≠ 0x3D ∧ c ≠ 0x5B ∧ c ≠ 0x23 ∧ c ≠ 0x0A := by
  have notKey : ∀ b ∈ ([0x20, 0x09, 0x3D, 0x5B, 0x23, 0x0A] : List UInt8), isKeyChar b = false := by decide
  have other : ∀ b ∈ ([0x20, 0x09, 0x3D, 0x5B, 0x23, 0x0A] : List UInt8), c ≠ b := fun b held same =>
    Bool.false_ne_true ((notKey b held).symm.trans (same ▸ key))
  simp only [List.forall_mem_cons] at other
  obtain ⟨space, tab, equals, bracket, hash, newline, -⟩ := other
  exact ⟨by simp [isBlank, space, tab], equals, bracket, hash, newline⟩

theorem loadLine_keyChar (s : LSettings) {c : UInt8} (l : Bytes) (key : isKeyChar c = true) :
    loadLine s (c :: l) = parseKeyvalue s (c :: l) := by
  have plain := isKeyChar_plain key
  simp [loadLine, List.dropWhile_cons, plain.1, plain.2.2.1, plain.2.2.2.1]

theorem parseKey_key (gs : List GroupData) (g : GroupData) {key : Bytes} (bytes : ∀ c ∈ key, isKeyChar c = true) :
    parseKey ⟨gs ++ [g]⟩ key = some (key.length, ⟨gs ++ [{ g with settings := ⟨key, none⟩ :: g.settings }]⟩) := by
  simp [parseKey, List.dropWhile_eq_nil_iff.mpr bytes, List.takeWhile_eq_self_iff.mpr bytes]

theorem dropWhile_isBlank_stored {value : Bytes} (stored : StoredText value) : value.dropWhile isBlank = value := by
  obtain ⟨-, head⟩ := stored
  cases value with
  | nil => rfl
  | cons b rest =>
    simp only [List.head?_cons, Option.all_some, Bool.not_eq_true'] at head
    simp [List.dropWhile_cons, head]

theorem loadLine_pair (gs : List GroupData) (g : GroupData) (key value : Bytes)
    (valid : validateKey key = true) (nonempty : key ≠ []) (stored : StoredText value)
    (utf8 : utf8Validate value = true) :
    loadLine ⟨gs ++ [g]⟩ (key ++ [0x3D] ++ value) =
      some (true, ⟨gs ++ [{ g with settings := g.settings ++ [⟨key, some value⟩] }]⟩) := by
  have bytes := validateKey_bytes valid
  have open_ : ∀ c ∈ key, (c != 0x3D) = true := fun c held => by simp [(isKeyChar_plain (bytes c held)).2.1]
  obtain ⟨k, ks, rfl⟩ := List.exists_cons_of_ne_nil nonempty
  have pushed := parseValue_pushed gs g (k :: ks) value
  rw [if_pos utf8] at pushed
  rw [List.append_assoc, List.singleton_append, List.cons_append,
    loadLine_keyChar _ _ (bytes k (List.mem_cons_self _ _)), ← List.cons_append, parseKeyvalue,
    List.dropWhile_append_of_pos open_, List.takeWhile_append_of_pos open_]
  simp [List.dropWhile_cons, List.takeWhile_cons, parseKey_key gs g bytes, dropWhile_isBlank_stored stored, pushed]

/-- A group the parser reads back whole: its keys are not empty and its values valid UTF-8. -/
def Readable (g : GroupData) : Prop := ∀ p ∈ g.settings, p.key ≠ [] ∧ p.value.all utf8Validate = true

theorem loadLines_pairs (gs : List GroupData) (name : Bytes) (ps qs : List SettingData)
    (storable : ∀ p ∈ qs, PairStorable p) (readable : ∀ p ∈ qs, p.key ≠ [] ∧ p.value.all utf8Validate = true) :
    loadLines ⟨gs ++ [⟨name, ps⟩]⟩ (qs.map fun p => p.key ++ [0x3D] ++ p.value.getD []) =
      some (true, ⟨gs ++ [⟨name, ps ++ qs⟩]⟩) := by
  induction qs generalizing ps with
  | nil => simp [loadLines]
  | cons q qs ih =>
    obtain ⟨key, value⟩ := q
    obtain ⟨validKey, v, rfl, stored⟩ := storable _ (List.mem_cons_self _ _)
    obtain ⟨nonempty, utf8⟩ := readable _ (List.mem_cons_self _ _)
    have next := ih (ps ++ [⟨key, some v⟩]) (fun p held => storable p (List.mem_cons_of_mem _ held))
      (fun p held => readable p (List.mem_cons_of_mem _ held))
    rw [List.append_assoc, List.singleton_append] at next
    rw [List.map_cons, loadLines, Option.getD_some,
      loadLine_pair gs ⟨name, ps⟩ key v validKey nonempty stored (by simpa using utf8)]
    exact next

theorem loadLines_groupLines (gs : List GroupData) (g : GroupData) (storable : GroupStorable g)
    (readable : Readable g) : loadLines ⟨gs⟩ (groupLines g) = some (true, ⟨gs ++ [g]⟩) := by
  have pairs := loadLines_pairs gs g.name [] g.settings storable.2 readable
  simp only [List.nil_append] at pairs
  simp only [groupLines, loadLines, loadLine_header _ _ storable.1, pairs]

theorem loadLines_dataLines (gs groups : List GroupData) (storable : ∀ g ∈ groups, GroupStorable g)
    (readable : ∀ g ∈ groups, Readable g) :
    loadLines ⟨gs⟩ (dataLines groups ++ [[]]) = some (true, ⟨gs ++ groups⟩) := by
  induction groups generalizing gs with
  | nil => simp [dataLines, loadLines, loadLine]
  | cons g rest ih =>
    have group := loadLines_groupLines gs g (storable g (List.mem_cons_self _ _))
      (readable g (List.mem_cons_self _ _))
    have tail := ih (gs ++ [g]) (fun g held => storable g (List.mem_cons_of_mem _ held))
      (fun g held => readable g (List.mem_cons_of_mem _ held))
    rw [List.append_assoc, List.singleton_append] at tail
    rw [dataLines, List.append_assoc, List.append_assoc, loadLines_append group]
    cases rest with
    | nil => simp [loadLines, loadLine]
    | cons _ _ => simpa [loadLines, loadLine] using tail

theorem lines_oneLine {groups : List GroupData} (storable : ∀ g ∈ groups, GroupStorable g) :
    ∀ line ∈ dataLines groups, 0x0A ∉ line := by
  induction groups with
  | nil => simp [dataLines]
  | cons g rest ih =>
    have ⟨name, pairs⟩ := storable g (List.mem_cons_self _ _)
    have rested := ih (fun g held => storable g (List.mem_cons_of_mem _ held))
    intro line held
    simp only [dataLines, groupLines, List.mem_append, List.mem_cons, List.mem_map] at held
    rcases held with ((rfl | ⟨p, pHeld, rfl⟩) | sep) | later
    · have printable := validateGroupName_bytes name 0x0A
      simp only [List.mem_append, List.mem_singleton, not_or]
      exact ⟨⟨by decide, fun h => absurd (printable h).1 (by decide)⟩, by decide⟩
    · obtain ⟨validKey, v, hv, newline, -⟩ := pairs p pHeld
      have keyBytes := validateKey_bytes validKey
      simp only [hv, Option.getD_some, List.mem_append, List.mem_singleton, not_or]
      exact ⟨⟨fun h => (isKeyChar_plain (keyBytes _ h)).2.2.2.2 rfl, by decide⟩, newline⟩
    · split at sep <;> simp_all
    · exact rested line later

theorem loadFromData_toData {s : LSettings} (nonempty : s.groups ≠ []) (storable : Storable s)
    (readable : ∀ g ∈ s.groups, Readable g) :
    lSettingsLoadFromData lSettingsNew (lSettingsToData s) = some (true, s) := by
  obtain ⟨g, rest, split⟩ := List.exists_cons_of_ne_nil nonempty
  have written : (lSettingsToData s).isEmpty = false := by
    simp [lSettingsToData, split, lSettingsToData.go]
  rw [lSettingsLoadFromData, written, if_neg Bool.false_ne_true, lSettingsToData, lSettingsToData_go,
    splitOn_flatMap_newline _ (lines_oneLine storable)]
  exact (loadLines_dataLines [] s.groups storable readable).trans (by simp)

/-! ### Getting a string back -/

theorem lSettingsGetValue_setValue (s : LSettings) (groupName key value : Bytes)
    (set : (setValue s groupName key value).1 = true) :
    lSettingsGetValue (setValue s groupName key value).2 groupName key = some value := by
  unfold setValue at set ⊢
  split_ifs at set ⊢
  split
  · next absent => simp [lSettingsGetValue, List.find?_append, absent]
  · next group found =>
    simp only [lSettingsGetValue, find?_updateFirst, found, Option.map_some', Option.some_bind,
      implies_true]
    split
    · next missing => simp [List.find?_append, missing]
    · next pair present => simp [find?_updateFirst, present]

theorem lSettingsGetString_setString (s : LSettings) (groupName key value : Bytes)
    (set : (lSettingsSetString s groupName key value).1 = true) :
    lSettingsGetString (lSettingsSetString s groupName key value).2 groupName key = some value := by
  simp only [lSettingsGetString, lSettingsSetString] at set ⊢
  rw [lSettingsGetValue_setValue _ _ _ _ set, Option.some_bind]
  exact unescapeValue_escapeValue_go true value

theorem lSettingsGetStringList_setStringList (s : LSettings) (groupName key : Bytes)
    (value : List Bytes) {delimiter : UInt8} (delimiterNonzero : delimiter ≠ 0)
    (noNul : ∀ v ∈ value, (0 : UInt8) ∉ v) (noDelimiter : ∀ v ∈ value, delimiter ∉ v)
    (notEmptyAlone : value ≠ [[]]) (set : (lSettingsSetStringList s groupName key value delimiter).1 = true) :
    lSettingsGetStringList (lSettingsSetStringList s groupName key value delimiter).2 groupName key delimiter =
      some (value.map some ++ [none]) := by
  have joined : Iwd.Ell.cString (lStrjoinv value delimiter) = lStrjoinv value delimiter :=
    Iwd.Ell.cString_of_not_mem (Iwd.Ell.zero_not_mem_intercalate delimiterNonzero noNul)
  simp only [lSettingsGetStringList, lSettingsGetString, lSettingsSetStringList] at set ⊢
  rw [lSettingsGetValue_setValue _ _ _ _ set, Option.some_bind, joined,
    show unescapeValue (escapeValue (lStrjoinv value delimiter)) = some (lStrjoinv value delimiter) from
      unescapeValue_escapeValue_go true _, Option.some_bind, joined]
  exact Iwd.Ell.lStrsplit_intercalate noDelimiter notEmptyAlone

/-- `l_strsplit` and `l_strjoinv` undo each other and keep to the buffers they size, so
`l_settings_get_string_list` returns the strings `l_settings_set_string_list` stored, provided
the delimiter is not NUL: a NUL delimiter ends the joined C string after its first piece. -/
theorem strsplit_strjoinv_round_trip :
    (∀ (str : Bytes) (sep : UInt8),
      (Iwd.Ell.lStrsplit str sep).bind (fun strv => Iwd.Ell.lStrjoinvBuffer (Iwd.Ell.strvToList strv) sep) =
        some (str ++ [0])) ∧
    (∀ (strs : List Bytes) (sep : UInt8), sep ≠ 0 → (∀ s ∈ strs, (0 : UInt8) ∉ s) → (∀ s ∈ strs, sep ∉ s) →
      strs ≠ [[]] →
      (Iwd.Ell.lStrjoinvBuffer strs sep).bind (fun buf => Iwd.Ell.lStrsplit (Iwd.Ell.cString buf) sep) =
        some (strs.map some ++ [none])) ∧
    (∀ (str : Bytes) (sep : UInt8),
      Iwd.Ell.lStrsplit str sep = some ((if str = [] then [] else str.splitOn sep).map some ++ [none])) ∧
    (∀ (strs : List Bytes) (sep : UInt8), Iwd.Ell.lStrjoinvBuffer strs sep = some (lStrjoinv strs sep ++ [0])) ∧
    (∀ (s : LSettings) (groupName key : Bytes) (value : List Bytes) (delimiter : UInt8), delimiter ≠ 0 →
      (∀ v ∈ value, (0 : UInt8) ∉ v) → (∀ v ∈ value, delimiter ∉ v) → value ≠ [[]] →
      (lSettingsSetStringList s groupName key value delimiter).1 = true →
      lSettingsGetStringList (lSettingsSetStringList s groupName key value delimiter).2 groupName key delimiter =
        some (value.map some ++ [none])) :=
  ⟨Iwd.Ell.lStrjoinvBuffer_lStrsplit,
    fun _ _ sepNonzero noNul noSep notEmptyAlone => Iwd.Ell.lStrsplit_lStrjoinvBuffer sepNonzero noNul noSep notEmptyAlone,
    Iwd.Ell.lStrsplit_eq, Iwd.Ell.lStrjoinvBuffer_eq,
    fun s groupName key value _ delimiterNonzero noNul noDelimiter notEmptyAlone set =>
      lSettingsGetStringList_setStringList s groupName key value delimiterNonzero noNul noDelimiter notEmptyAlone set⟩

/-- With the NUL delimiter, `["a", "b"]` joins to a buffer whose C string is `"a"`, so
`l_strsplit` gives `["a"]`, and so does `l_settings_get_string_list` after
`l_settings_set_string_list` of `["a", "b"]`. -/
theorem strjoinv_nul_delimiter_truncates :
    (Iwd.Ell.lStrjoinvBuffer [[0x61], [0x62]] 0).bind (fun buf => Iwd.Ell.lStrsplit (Iwd.Ell.cString buf) 0) =
        some [some [0x61], none] ∧
      (lSettingsSetStringList lSettingsNew (ascii "Security") (ascii "List") [[0x61], [0x62]] 0).1 = true ∧
      lSettingsGetStringList (lSettingsSetStringList lSettingsNew (ascii "Security") (ascii "List")
        [[0x61], [0x62]] 0).2 (ascii "Security") (ascii "List") 0 = some [some [0x61], none] := by
  decide

/-! ### The round trip -/

/-- `l_settings_set_string` of `secret` under the empty key of `[Security]`, which
`validate_key` accepts. -/
def emptyKeyCall : Call := .setString (ascii "Security") [] (ascii "secret")

/-- `l_settings_set_string` of the byte 0xff, which is no UTF-8, under `Passphrase`. -/
def rawByteCall : Call := .setString (ascii "Security") (ascii "Passphrase") [0xFF]

/-- The writer and the reader disagree on what a pair may hold. Every object the setters and
removals build that has a group loads back from its text as itself, and `get_string` returns
the last string `set_string` stored, as long as no key is empty and every value is valid
UTF-8. `validate_key` accepts the empty key, which `parse_keyvalue` rejects as "Empty key",
and `set_value` stores bytes that `parse_value` rejects as invalid UTF-8: the text of an
object holding either fails to load, and the load stops with the pair missing. -/
theorem settings_round_trip_rejects_setter_output :
    (∀ s, Built s → s.groups ≠ [] → (∀ g ∈ s.groups, Readable g) →
      lSettingsLoadFromData lSettingsNew (lSettingsToData s) = some (true, s)) ∧
    (∀ s groupName key value, (lSettingsSetString s groupName key value).1 = true →
      lSettingsGetString (lSettingsSetString s groupName key value).2 groupName key = some value) ∧
    (emptyKeyCall.run lSettingsNew).1 = true ∧
    lSettingsLoadFromData lSettingsNew (lSettingsToData (emptyKeyCall.run lSettingsNew).2) =
      some (false, ⟨[⟨ascii "Security", []⟩]⟩) ∧
    (rawByteCall.run lSettingsNew).1 = true ∧
    lSettingsLoadFromData lSettingsNew (lSettingsToData (rawByteCall.run lSettingsNew).2) =
      some (false, ⟨[⟨ascii "Security", []⟩]⟩) :=
  ⟨fun _ built nonempty readable => loadFromData_toData nonempty built.storable readable,
    lSettingsGetString_setString, by decide, by decide, by decide, by decide⟩

end Iwd.Settings
