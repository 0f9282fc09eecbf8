import Mathlib.Data.List.Basic

/-!
The wired daemon's list of 802.1X networks, one per `<name>.8021x` file of the storage
directory: `network_init` fills it from a directory scan, and `network_storage_watch_cb`
keeps it in step with the storage watch. Both look entries up with `network_lookup`,
whose match function returns `strcmp(net->name, name)`: nonzero, so a match, exactly when
the names differ. A lookup therefore finds the first entry of another name, and an event
renames that entry or, when every entry has the event's name, adds one more.
-/

namespace Iwd.Wired

/-- `struct network`. -/
structure Network where
  name : List Char
  deriving DecidableEq, Repr

/-- `STORAGEFILE_SUFFIX`. -/
def storagefileSuffix : List Char := ".8021x".toList

/-- `network_name_from_filename`: the file name without `.8021x`, for such a file. -/
def networkNameFromFilename (filename : List Char) : Option (List Char) :=
  if storagefileSuffix.isSuffixOf filename then some (filename.take (filename.length - 6))
  else none

/-- `network_match`: the `strcmp` result, read as a truth value. -/
def networkMatch (net : Network) (name : List Char) : Bool := net.name != name

/-- `network_lookup`: `l_queue_find` with `network_match`. -/
def networkLookup (networks : List Network) (name : List Char) : Option Network :=
  networks.find? (networkMatch · name)

/-- The `else` branch of `network_storage_watch_cb`: the entry `network_lookup` found gets
the event's name. -/
def renameFound (name : List Char) : List Network → List Network
  | [] => []
  | net :: rest => if networkMatch net name then ⟨name⟩ :: rest else net :: renameFound name rest

/-- `enum l_fswatch_event`. -/
inductive FswatchEvent where
  | create | move | modify | attrib | delete
  deriving DecidableEq, Repr

/-- `network_storage_watch_cb`; every event is handled alike. -/
def networkStorageWatchCb (networks : List Network) (filename : Option (List Char))
    (_event : FswatchEvent) : List Network :=
  match filename.bind networkNameFromFilename with
  | none => networks
  | some name =>
    match networkLookup networks name with
    | none => networks ++ [⟨name⟩]
    | some _ => renameFound name networks

/-- The file types `readdir` reports that `network_init` tells apart. -/
inductive DirentType where
  | reg | lnk | other
  deriving DecidableEq, Repr

/-- A directory entry: its name and `d_type`. -/
structure Dirent where
  name : List Char
  type : DirentType
  deriving DecidableEq, Repr

/-- The scan of `network_init`: a network for each regular file or link named
`<name>.8021x`, in directory order. -/
def networkInit (dir : List Dirent) : List Network :=
  dir.filterMap fun d =>
    if d.type = .other then none else (networkNameFromFilename d.name).map (⟨·⟩)

/-- The list after the scan and then the storage-watch events, in order. -/
def networkList (dir : List Dirent) (events : List (Option (List Char) × FswatchEvent)) :
    List Network :=
  events.foldl (fun networks e => networkStorageWatchCb networks e.1 e.2) (networkInit dir)

/-! ### What a lookup finds -/

theorem networkLookup_name_ne {networks : List Network} {name : List Char} {net : Network}
    (found : networkLookup networks name = some net) : net.name ≠ name := by
  simpa [networkMatch] using List.find?_some found

theorem networkLookup_eq_none {networks : List Network} {name : List Char} :
    networkLookup networks name = none ↔ ∀ net ∈ networks, net.name = name := by
  simp [networkLookup, networkMatch]

theorem networkStorageWatchCb_duplicates (networks : List Network) (name : List Char)
    (event : FswatchEvent) (same : ∀ net ∈ networks, net.name = name) :
    networkStorageWatchCb networks (some (name ++ storagefileSuffix)) event = networks ++ [⟨name⟩] := by
  have named : networkNameFromFilename (name ++ storagefileSuffix) = some name := by
    simp [networkNameFromFilename, List.suffix_append, storagefileSuffix]
  simp [networkStorageWatchCb, named, networkLookup_eq_none.mpr same]

theorem networkStorageWatchCb_renames (first : Network) (rest : List Network) (name : List Char)
    (event : FswatchEvent) (other : first.name ≠ name) :
    networkStorageWatchCb (first :: rest) (some (name ++ storagefileSuffix)) event = ⟨name⟩ :: rest := by
  have named : networkNameFromFilename (name ++ storagefileSuffix) = some name := by
    simp [networkNameFromFilename, List.suffix_append, storagefileSuffix]
  have matched : networkMatch first name = true := by simpa [networkMatch] using other
  simp [networkStorageWatchCb, named, networkLookup, renameFound, matched]

/-- A storage directory holding `home.8021x`. -/
def homeDir : List Dirent := [⟨"home.8021x".toList, .reg⟩]

/-- The wired network list neither tracks files nor finds them. `network_lookup` never
returns the entry of the name it is given. After the scan of `home.8021x`, a modification
of that file adds a second `home` entry. A new file `work.8021x` instead turns the `home`
entry into `work`: `home` is lost, and a lookup of `work` finds nothing while a lookup of
`home` finds the `work` entry. -/
theorem network_lookup_inverted :
    (∀ (networks : List Network) (name : List Char) (net : Network),
      networkLookup networks name = some net → net.name ≠ name) ∧
    networkList homeDir [(some "home.8021x".toList, .modify)] =
      [⟨"home".toList⟩, ⟨"home".toList⟩] ∧
    networkList homeDir [(some "work.8021x".toList, .create)] = [⟨"work".toList⟩] ∧
    networkLookup (networkList homeDir [(some "work.8021x".toList, .create)]) "work".toList = none ∧
    networkLookup (networkList homeDir [(some "work.8021x".toList, .create)]) "home".toList =
      some ⟨"work".toList⟩ :=
  ⟨fun _ _ _ => networkLookup_name_ne, by decide, by decide, by decide, by decide⟩

end Iwd.Wired
