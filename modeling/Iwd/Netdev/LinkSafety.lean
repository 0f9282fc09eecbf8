import Iwd.Netdev.Link

/-!
When the interface side of netdev.c stays defined. A run is race-free when the kernel's
messages are well formed (a NEW_INTERFACE carries the interface's address, names are
terminated and fit `IFNAMSIZ`), the owner calls only netdevs on the list, and no event frees
a netdev that a request in flight will still read through. Every race-free run from the
start is defined (`raceFree_run_defined`): the invariant `Sound` says that every request in
flight points to a netdev on the list, and that every name is terminated.

The last condition is not the kernel's to keep. The bring-up hands the netdev to
`netdev_set_powered` as `cb_data`, and nothing cancels that request when the interface goes
away: in any state, an RTM_DELLINK that frees the netdev of a set_powered request in flight
makes the reply read the freed netdev (`dellink_then_set_powered_reply_reads_freed_netdev`), as
one between the GETLINK reply and the reply to the RTM_SETLINK that follows does in the
bring-up. `netdev_shutdown` avoids this for its own
requests: it gives `netdev_operstate_down_cb` the index, and `netdev_set_powered` no callback.
-/

namespace Iwd.Netdev.Link

open Iwd.Ell (cString writeAt)

/-- The netdev a reply's handler reads through: the one `netdev_set_powered_result` hands to
its callback, and the one `netdev_operstate_dormant_cb` prints. -/
def Handler.target : Handler → Option Nat
  | .setPoweredResult (some (obj, _)) => some obj
  | .netlinkResult (some (.operstateDormantCb obj)) => some obj
  | _ => none

/-- The allocations on the list. -/
def Links.objs (s : Links) : List Nat := s.netdevs.map (·.obj)

/-- Whether the event frees a netdev that a request in flight will read through. -/
def busy (env : Env) (s : Links) (e : Event) : Bool :=
  s.pending.any fun r =>
    match r.handler.target with
    | some obj => obj ∈ s.objs && obj ∉ (step env s e).objs
    | none => false

/-- What the kernel guarantees of a NEW_INTERFACE message and of the interface dump: the
interface's address, and a terminator in every name. -/
def interfaceWellFormed (attrs : List GenlAttr) : Bool :=
  attrs.any (·.type = nl80211AttrMac) && attrs.all fun a => a.type ≠ nl80211AttrIfname || (0 : UInt8) ∈ a.data

/-- What the kernel guarantees of an RTM_NEWLINK message: every IFLA_IFNAME is a terminated
name shorter than `IFNAMSIZ`. -/
def linkWellFormed (attrs : Bytes) : Bool :=
  (rtaWalk attrs.length attrs).all fun attr =>
    rtaType attr ≠ iflaIfname || ((0 : UInt8) ∈ rtaData attr && (cString (rtaData attr)).length < ifnamsiz)

/-- The kernel's messages are well formed, and the owner calls only netdevs on the list. -/
def wellBehaved (s : Links) : Event → Bool
  | .dump attrs => interfaceWellFormed attrs
  | .config cmd attrs => cmd ≠ nl80211CmdNewInterface || interfaceWellFormed attrs
  | .link _ _ attrs => linkWellFormed attrs
  | .reply _ _ _ _ attrs => linkWellFormed attrs
  | .watchAdd obj _ _ => obj ∈ s.objs
  | .watchRemove obj _ => obj ∈ s.objs
  | .shutdown => true

/-- A run of well-behaved events none of which frees a netdev a request in flight points to. -/
def raceFree (env : Env) : Links → List Event → Bool
  | _, [] => true
  | s, e :: es => wellBehaved s e && !busy env s e && raceFree env (step env s e) es

/-- A name buffer `strcpy` can copy from and into: sixteen bytes with a terminator. -/
def NameOk (name : Bytes) : Prop := name.length = ifnamsiz ∧ (0 : UInt8) ∈ name

/-- What holds along a race-free run: nothing undefined happened, every name is terminated,
and every request in flight points to a netdev on the list. -/
structure Sound (s : Links) : Prop where
  defined : s.undefined = false
  names : ∀ n ∈ s.netdevs, NameOk n.name
  targets : ∀ r ∈ s.pending, ∀ obj, r.handler.target = some obj → obj ∈ s.objs

/-! ### The list under the primitives -/

section Primitives

variable {s : Links}

theorem Links.objs_setNetdev (n : Iface) : (s.setNetdev n).objs = s.objs := by
  simp only [Links.objs, Links.setNetdev_netdevs, List.map_map]
  congr 1
  funext m
  by_cases same : m.obj = n.obj <;> simp [same]

theorem Links.mem_setNetdev {n m : Iface} (mem : m ∈ (s.setNetdev n).netdevs) : m = n ∨ m ∈ s.netdevs := by
  rw [Links.setNetdev_netdevs, List.mem_map] at mem
  obtain ⟨k, kmem, rfl⟩ := mem
  by_cases same : k.obj = n.obj <;> simp [same, kmem]

theorem Links.deref_mem {obj : Nat} {n : Iface} (h : s.deref obj = some n) : n ∈ s.netdevs ∧ n.obj = obj :=
  ⟨List.mem_of_find?_eq_some h, by simpa using List.find?_some h⟩

theorem Links.deref_of_mem {obj : Nat} (mem : obj ∈ s.objs) : ∃ n, s.deref obj = some n := by
  obtain ⟨n, nmem, rfl⟩ := List.mem_map.mp mem
  cases h : s.deref n.obj with
  | none => simp [Links.deref, List.find?_eq_none] at h; exact absurd rfl (h n nmem)
  | some m => exact ⟨m, rfl⟩

theorem netdevFind_mem {index : UInt32} {n : Iface} (h : netdevFind s index = some n) : n ∈ s.netdevs :=
  List.mem_of_find?_eq_some h

theorem notifyAll_eq (n : Iface) (event : WatchEvent) :
    ∀ s : Links, notifyAll n event s =
      { s with log := (n.watches.map fun w => Effect.notify n.obj w.id w.callback w.userData event).reverse ++ s.log } := by
  unfold notifyAll
  induction n.watches with
  | nil => intro s; rfl
  | cons w rest ih =>
    intro s
    rw [List.foldl_cons, ih]
    simp [Links.emit]

@[simp] theorem notifyAll_netdevList (n : Iface) (event : WatchEvent) :
    (notifyAll n event s).netdevList = s.netdevList := by rw [notifyAll_eq]
@[simp] theorem notifyAll_netdevs (n : Iface) (event : WatchEvent) :
    (notifyAll n event s).netdevs = s.netdevs := by rw [notifyAll_eq]; rfl
@[simp] theorem notifyAll_pending (n : Iface) (event : WatchEvent) :
    (notifyAll n event s).pending = s.pending := by rw [notifyAll_eq]
@[simp] theorem notifyAll_undefined (n : Iface) (event : WatchEvent) :
    (notifyAll n event s).undefined = s.undefined := by rw [notifyAll_eq]

end Primitives

/-! ### `Sound` under each function -/

namespace Sound

variable {s : Links}

theorem emit (h : Sound s) (e : Effect) : Sound (s.emit e) := ⟨h.defined, h.names, h.targets⟩

theorem send (h : Sound s) (msg : RtnlMsg) {handler : Handler}
    (pointsIn : ∀ obj, handler.target = some obj → obj ∈ s.objs) : Sound (s.send msg handler) := by
  refine ⟨h.defined, h.names, fun r mem => ?_⟩
  rcases List.mem_append.mp mem with old | new
  · exact h.targets r old
  · rw [List.mem_singleton.mp new]
    exact pointsIn

theorem setNetdev (h : Sound s) {n : Iface} (ok : NameOk n.name) : Sound (s.setNetdev n) := by
  refine ⟨h.defined, fun m mem => ?_, fun r mem => ?_⟩
  · rcases Links.mem_setNetdev mem with rfl | old
    · exact ok
    · exact h.names m old
  · rw [Links.objs_setNetdev]
    exact h.targets r mem

theorem notifyAll (h : Sound s) (n : Iface) (event : WatchEvent) : Sound (notifyAll n event s) := by
  rw [notifyAll_eq]
  exact ⟨h.defined, h.names, h.targets⟩

theorem netdevNew_name {name : Bytes} (fits : name.length ≤ ifnamsiz) (term : (0 : UInt8) ∈ name)
    (obj : Nat) (ifindex iftype : UInt32) (ifaddr : Bytes) (wiphy : Nat) :
    NameOk (netdevNew obj ifindex iftype ifaddr name wiphy).name := by
  refine ⟨?_, List.mem_append_left _ term⟩
  simp only [netdevNew, List.length_append, List.length_replicate]
  omega

theorem netdevAdd (h : Sound s) {n : Iface} (ok : NameOk n.name) : Sound (netdevAdd n s) := by
  have pushed : Sound { s with nextObj := s.nextObj + 1, netdevList := s.netdevList.map (· ++ [n]) } := by
    refine ⟨h.defined, fun m mem => ?_, fun r mem obj target => ?_⟩
    · cases hl : s.netdevList with
      | none => simp [Links.netdevs, hl] at mem
      | some l =>
        simp only [Links.netdevs, hl, Option.map_some', Option.getD_some, List.mem_append, List.mem_singleton] at mem
        rcases mem with old | rfl
        · exact h.names m (by simp [Links.netdevs, hl, old])
        · exact ok
    · have was := h.targets r mem obj target
      cases hl : s.netdevList with
      | none => simp [Links.objs, Links.netdevs, hl] at was
      | some l => simp_all [Links.objs, Links.netdevs]
  unfold Iwd.Netdev.Link.netdevAdd
  dsimp only
  split
  · exact (((pushed.emit _).send _ (by simp [Handler.target])).emit _).emit _
  · exact ((pushed.send _ (by simp [Handler.target])).emit _).emit _

theorem createAttr_found {env : Env} {found found' : Found} {a : GenlAttr}
    (h : createAttr env found a = some found') :
    (found.ifaddr.isSome ∨ a.type = nl80211AttrMac → found'.ifaddr.isSome) ∧
      ∀ name, found'.ifname = some name →
        found.ifname = some name ∨ (a = ⟨nl80211AttrIfname, name⟩ ∧ name.length ≤ ifnamsiz) := by
  have notMac : ∀ t, t = nl80211AttrIfindex ∨ t = nl80211AttrIfname ∨ t = nl80211AttrWiphy ∨ t = nl80211AttrIftype →
      t ≠ nl80211AttrMac := by rintro t (rfl | rfl | rfl | rfl) <;> decide
  have kept (ifaddr : found'.ifaddr = found.ifaddr) (ifname : found'.ifname = found.ifname) (other : a.type ≠ nl80211AttrMac) :
      (found.ifaddr.isSome ∨ a.type = nl80211AttrMac → found'.ifaddr.isSome) ∧
        ∀ name, found'.ifname = some name → found.ifname = some name ∨ (a = ⟨nl80211AttrIfname, name⟩ ∧ name.length ≤ ifnamsiz) :=
    ⟨fun seen => ifaddr ▸ seen.resolve_right other, fun _ named => .inl (ifname ▸ named)⟩
  unfold createAttr at h
  by_cases t1 : a.type = nl80211AttrIfindex
  · rw [if_pos t1] at h
    by_cases bad : a.data.length ≠ 4
    · rw [if_pos bad] at h; cases h
    · rw [if_neg bad] at h; cases h; exact kept rfl rfl (notMac _ (.inl t1))
  rw [if_neg t1] at h
  by_cases t2 : a.type = nl80211AttrIfname
  · rw [if_pos t2] at h
    by_cases bad : a.data.length > ifnamsiz
    · rw [if_pos bad] at h; cases h
    · rw [if_neg bad] at h
      cases h
      refine ⟨fun seen => seen.resolve_right (notMac _ (.inr (.inl t2))), fun name named => .inr ⟨?_, ?_⟩⟩
      · cases a; cases named; simpa using t2
      · cases named; omega
  rw [if_neg t2] at h
  by_cases t3 : a.type = nl80211AttrWiphy
  · rw [if_pos t3] at h
    by_cases bad : a.data.length ≠ 4
    · rw [if_pos bad] at h; cases h
    · rw [if_neg bad] at h; cases h; exact kept rfl rfl (notMac _ (.inr (.inr (.inl t3))))
  rw [if_neg t3] at h
  by_cases t4 : a.type = nl80211AttrIftype
  · rw [if_pos t4] at h
    by_cases bad : a.data.length ≠ 4
    · rw [if_pos bad] at h; cases h
    · rw [if_neg bad] at h; cases h; exact kept rfl rfl (notMac _ (.inr (.inr (.inr t4))))
  rw [if_neg t4] at h
  by_cases t5 : a.type = nl80211AttrMac
  · rw [if_pos t5] at h
    by_cases bad : a.data.length ≠ ethAlen
    · rw [if_pos bad] at h; cases h
    · rw [if_neg bad] at h; cases h; exact ⟨fun _ => rfl, fun _ named => .inl named⟩
  rw [if_neg t5] at h
  cases h
  exact kept rfl rfl t5

theorem createAttrs_found (env : Env) :
    ∀ (attrs : List GenlAttr) (found found' : Found), createAttrs env found attrs = some found' →
      (found.ifaddr.isSome ∨ attrs.any (·.type = nl80211AttrMac) → found'.ifaddr.isSome) ∧
        ∀ name, found'.ifname = some name →
          found.ifname = some name ∨ (⟨nl80211AttrIfname, name⟩ ∈ attrs ∧ name.length ≤ ifnamsiz)
  | [], found, found', h => by
    cases h
    exact ⟨by simp, fun _ named => .inl named⟩
  | a :: rest, found, found', h => by
    obtain ⟨mid, first, later⟩ := Option.bind_eq_some.mp h
    obtain ⟨addrFirst, nameFirst⟩ := createAttr_found first
    obtain ⟨addrLater, nameLater⟩ := createAttrs_found env rest mid found' later
    refine ⟨fun seen => addrLater ?_, fun name named => ?_⟩
    · simp only [List.any_cons, Bool.or_eq_true, decide_eq_true_eq] at seen
      rcases seen with old | here | there
      · exact .inl (addrFirst (.inl old))
      · exact .inl (addrFirst (.inr here))
      · exact .inr there
    · rcases nameLater name named with fromMid | ⟨mem, fits⟩
      · rcases nameFirst name fromMid with old | ⟨rfl, fits⟩
        · exact .inl old
        · exact .inr ⟨List.mem_cons_self _ _, fits⟩
      · exact .inr ⟨List.mem_cons_of_mem _ mem, fits⟩

theorem createFromGenl (h : Sound s) (env : Env) {attrs : List GenlAttr} (wf : interfaceWellFormed attrs = true) :
    Sound (netdevCreateFromGenl env attrs s) := by
  simp only [interfaceWellFormed, Bool.and_eq_true, List.any_eq_true, List.all_eq_true] at wf
  obtain ⟨hasMac, named⟩ := wf
  unfold netdevCreateFromGenl
  split
  · exact h
  · rename_i found loop
    obtain ⟨addr, name⟩ := createAttrs_found env attrs _ found loop
    have hasAddr := addr (.inr (by simpa using hasMac))
    split
    · split
      · exact h
      · split
        · exact h
        · simp_all
        · exact h
        next ifindex ifaddr ifname _ _ named' =>
          split
          · exact h
          · split
            · exact h
            · rcases name ifname named' with nothing | ⟨mem, fits⟩
              · simp at nothing
              · have term := named _ mem
                simp only [ne_eq, not_true_eq_false, decide_False, Bool.false_or, decide_eq_true_eq] at term
                exact h.netdevAdd (netdevNew_name fits term _ _ _ _ _)
    · exact h

theorem shrink (h : Sound s) {s' : Links} (defined : s'.undefined = false) (same : s'.pending = s.pending)
    (sub : ∀ n ∈ s'.netdevs, n ∈ s.netdevs)
    (keep : ∀ r ∈ s.pending, ∀ obj, r.handler.target = some obj → obj ∈ s'.objs) : Sound s' :=
  ⟨defined, fun n mem => h.names n (sub n mem), fun r mem => keep r (same ▸ mem)⟩

theorem netdevRemove (h : Sound s) (index : UInt32)
    (keep : ∀ r ∈ s.pending, ∀ obj, r.handler.target = some obj → obj ∈ (netdevRemove index s).objs) :
    Sound (netdevRemove index s) := by
  cases found : netdevFind s index with
  | none =>
    simp only [Iwd.Netdev.Link.netdevRemove, found]
    exact h
  | some n =>
    simp only [Iwd.Netdev.Link.netdevRemove, found] at keep ⊢
    refine h.shrink h.defined rfl (fun m mem => ?_) keep
    cases hl : s.netdevList with
    | none => simp [netdevFree, Links.netdevs, hl] at mem
    | some l =>
      simp only [netdevFree, Links.emit_netdevs, Links.netdevs, hl, Option.map_some', Option.getD_some] at mem ⊢
      exact List.mem_of_mem_eraseP mem

theorem netdevSetPowered (h : Sound s) (n : Iface) (powered : Bool) {callback : Option PoweredCb}
    (mem : callback.isSome → n.obj ∈ s.objs) : Sound (netdevSetPowered n powered callback s) := by
  apply h.send
  cases callback <;> simp_all [Handler.target]

theorem initialDownCb (h : Sound s) {n : Iface} (mem : n.obj ∈ s.objs) (result : Int) :
    Sound (netdevInitialDownCb n result s) := by
  unfold netdevInitialDownCb
  split
  · exact h
  · exact h.netdevSetPowered n true fun _ => mem

theorem initialUpCb (h : Sound s) {n : Iface} (mem : n ∈ s.netdevs) (result : Int) :
    Sound (netdevInitialUpCb n result s) := by
  unfold netdevInitialUpCb
  split
  · exact h
  · have sent : Sound (s.send (.setlink n.index 0 0 (rtaAddU8 iflaLinkmode 1 ++ rtaAddU8 iflaOperstate ifOperDormant))
        (.netlinkResult (some (.operstateDormantCb n.obj)))) :=
      h.send _ (by simpa [Handler.target, Links.objs] using ⟨n, mem, rfl⟩)
    exact (sent.setNetdev (n := { n with device := some n.obj }) (h.names n mem)).emit _

theorem newlinkName_ok {name attrs : Bytes} (ok : NameOk name) (wf : linkWellFormed attrs = true) :
    ∃ name', newlinkName name attrs = some name' ∧ NameOk name' := by
  unfold newlinkName
  split
  · exact ⟨name, rfl, ok⟩
  · rename_i attr found
    have isName : rtaType attr = iflaIfname := by simpa using List.find?_some found
    have attrWf := List.all_eq_true.mp wf attr (List.mem_of_find?_eq_some found)
    simp only [isName, ne_eq, not_true_eq_false, decide_False, Bool.false_or, Bool.and_eq_true,
      decide_eq_true_eq] at attrWf
    obtain ⟨term, short⟩ := attrWf
    have fits : 0 + (cString (rtaData attr) ++ [0]).length ≤ name.length := by
      simp only [List.length_append, List.length_singleton, ok.1]
      omega
    have copied : strcpy name (rtaData attr) = some (name.take 0 ++ (cString (rtaData attr) ++ [0]) ++
        name.drop (0 + (cString (rtaData attr) ++ [0]).length)) := by
      simp only [strcpy, if_pos term, writeAt, if_pos fits]
    refine ⟨_, copied, ?_, by simp⟩
    simp only [List.length_append, List.length_take, List.length_drop, List.length_singleton, ok.1] at fits ⊢
    omega

theorem newlinkNotify (h : Sound s) (ifi : IfInfo) {attrs : Bytes} (wf : linkWellFormed attrs = true) :
    Sound (netdevNewlinkNotify ifi attrs s) := by
  unfold netdevNewlinkNotify
  split
  · exact h
  · rename_i n found
    have ok := h.names n (netdevFind_mem found)
    obtain ⟨name, named, ok'⟩ := newlinkName_ok ok wf
    rw [if_neg (not_not.mpr ok.2), named]
    dsimp only
    have set := h.setNetdev (n := { n with ifiFlags := ifi.flags, name := name }) ok'
    split <;> split
    all_goals first | exact set | exact set.notifyAll _ _ | exact (set.notifyAll _ _).notifyAll _ _

theorem getlinkCb (h : Sound s) (error : Int) (type : UInt16) (ifi : IfInfo) {attrs : Bytes}
    (wf : linkWellFormed attrs = true) : Sound (netdevGetlinkCb error type ifi attrs s) := by
  unfold netdevGetlinkCb
  split
  · exact h
  · split
    · exact h
    · have notified := h.newlinkNotify ifi wf
      dsimp only
      split
      · exact notified
      · rename_i n found
        have mem : n.obj ∈ (netdevNewlinkNotify ifi attrs s).objs :=
          List.mem_map_of_mem _ (Links.deref_mem found).1
        split
        · exact notified.netdevSetPowered n false fun _ => mem
        · exact notified.initialDownCb mem 0

theorem setPoweredResult (h : Sound s) (error : Int) {cbData : Option (Nat × PoweredCb)}
    (pointsIn : ∀ obj callback, cbData = some (obj, callback) → obj ∈ s.objs) :
    Sound (netdevSetPoweredResult error cbData s) := by
  unfold netdevSetPoweredResult
  split
  · exact h
  · rename_i obj callback
    obtain ⟨n, found⟩ := Links.deref_of_mem (pointsIn obj callback rfl)
    have mem := (Links.deref_mem found).1
    rw [found]
    cases callback
    · exact h.initialDownCb (List.mem_map_of_mem _ mem) _
    · exact h.initialUpCb mem _

theorem netlinkResult (h : Sound s) (env : Env) {cbData : Option CommandCb}
    (pointsIn : ∀ obj, cbData = some (.operstateDormantCb obj) → obj ∈ s.objs) :
    Sound (netlinkResult env cbData s) := by
  unfold Iwd.Netdev.Link.netlinkResult
  split
  · rename_i obj
    obtain ⟨n, found⟩ := Links.deref_of_mem (pointsIn obj rfl)
    simpa [netdevOperstateDormantCb, found] using h
  · exact h

theorem rtnlReply (h : Sound s) (env : Env) (seq : Nat) (error : Int) (type : UInt16) (ifi : IfInfo)
    {attrs : Bytes} (wf : linkWellFormed attrs = true) : Sound (rtnlReply env seq error type ifi attrs s) := by
  unfold Iwd.Netdev.Link.rtnlReply
  split
  · exact h
  · rename_i r found
    have taken : Sound { s with pending := s.pending.eraseP (·.seq = seq) } :=
      ⟨h.defined, h.names, fun r' mem => h.targets r' (List.mem_of_mem_eraseP mem)⟩
    have pointsIn := h.targets r (List.mem_of_find?_eq_some found)
    split
    · exact taken.getlinkCb _ _ _ wf
    · rename_i cbData handled
      refine taken.setPoweredResult _ fun obj callback named => pointsIn obj ?_
      simp [handled, named, Handler.target]
    · rename_i cbData handled
      refine taken.netlinkResult env fun obj named => pointsIn obj ?_
      simp [handled, named, Handler.target]

theorem watchAdd (h : Sound s) {obj : Nat} (mem : obj ∈ s.objs) (func userData : Owner) :
    Sound (netdevWatchAdd obj func userData s).1 := by
  obtain ⟨n, found⟩ := Links.deref_of_mem mem
  simp only [netdevWatchAdd, found]
  exact h.setNetdev (h.names n (Links.deref_mem found).1)

theorem watchRemove (h : Sound s) {obj : Nat} (mem : obj ∈ s.objs) (id : UInt32) :
    Sound (netdevWatchRemove obj id s).1 := by
  obtain ⟨n, found⟩ := Links.deref_of_mem mem
  simp only [netdevWatchRemove, found]
  split
  · exact h.setNetdev (h.names n (Links.deref_mem found).1)
  · exact h

theorem shutdownOne_pending (n : Iface) (s : Links) :
    (netdevShutdownOne n s).netdevList = s.netdevList ∧ (netdevShutdownOne n s).undefined = s.undefined ∧
      ∀ r ∈ (netdevShutdownOne n s).pending, r ∈ s.pending ∨ r.handler.target = none := by
  unfold netdevShutdownOne netdevSetLinkmodeAndOperstate Iwd.Netdev.Link.netdevSetPowered
  split <;> simp +contextual [Handler.target, or_imp]

theorem foldl_netdevFree (netdevs : List Iface) : ∀ s : Links,
    netdevs.foldl (fun s n => netdevFree n s) s =
      { s with log := (netdevs.map fun n => Effect.deviceRemove n.device).reverse ++ s.log } := by
  induction netdevs with
  | nil => intro s; rfl
  | cons n rest ih =>
    intro s
    rw [List.foldl_cons, ih]
    simp [netdevFree, Links.emit]

theorem foldl_shutdownOne (netdevs : List Iface) : ∀ s : Links,
    (netdevs.foldl (fun s n => netdevShutdownOne n s) s).netdevList = s.netdevList ∧
      (netdevs.foldl (fun s n => netdevShutdownOne n s) s).undefined = s.undefined ∧
      ∀ r ∈ (netdevs.foldl (fun s n => netdevShutdownOne n s) s).pending, r ∈ s.pending ∨ r.handler.target = none := by
  induction netdevs with
  | nil => intro s; exact ⟨rfl, rfl, fun r mem => .inl mem⟩
  | cons n rest ih =>
    intro s
    obtain ⟨list1, undef1, sent1⟩ := shutdownOne_pending n s
    obtain ⟨list2, undef2, sent2⟩ := ih (netdevShutdownOne n s)
    refine ⟨list2.trans list1, undef2.trans undef1, fun r mem => ?_⟩
    rcases sent2 r mem with old | quiet
    · exact sent1 r old
    · exact .inr quiet

theorem netdevShutdown_objs (s : Links) : (netdevShutdown s).objs = [] := by
  simp [Iwd.Netdev.Link.netdevShutdown, foldl_netdevFree, Links.objs, Links.netdevs]

theorem netdevShutdown (h : Sound s) (quiet : ∀ r ∈ s.pending, r.handler.target = none) :
    Sound (netdevShutdown s) := by
  obtain ⟨-, undef, sent⟩ := foldl_shutdownOne s.netdevs s
  refine ⟨?_, fun n mem => ?_, fun r mem obj target => ?_⟩
  · simp [Iwd.Netdev.Link.netdevShutdown, foldl_netdevFree, undef, h.defined]
  · simp [Iwd.Netdev.Link.netdevShutdown, foldl_netdevFree, Links.netdevs] at mem
  · simp only [Iwd.Netdev.Link.netdevShutdown, foldl_netdevFree, Links.emit_pending] at mem
    rcases sent r mem with old | none
    · simp [quiet r old] at target
    · simp [none] at target

theorem configNotify (h : Sound s) (env : Env) (cmd : UInt8) {attrs : List GenlAttr}
    (wf : cmd = nl80211CmdNewInterface → interfaceWellFormed attrs = true)
    (keep : ∀ r ∈ s.pending, ∀ obj, r.handler.target = some obj → obj ∈ (netdevConfigNotify env cmd attrs s).objs) :
    Sound (netdevConfigNotify env cmd attrs s) := by
  unfold netdevConfigNotify at keep ⊢
  by_cases new : cmd = nl80211CmdNewInterface
  · rw [if_pos new]
    exact h.createFromGenl env (wf new)
  rw [if_neg new] at keep ⊢
  by_cases other : cmd ≠ nl80211CmdDelInterface
  · rw [if_pos other]
    exact h
  rw [if_neg other] at keep ⊢
  split
  next wiphy ifindex found =>
    simp only [found] at keep
    exact h.netdevRemove ifindex keep
  · exact h

theorem linkNotify (h : Sound s) (type : UInt16) (ifi : IfInfo) {attrs : Bytes} (wf : linkWellFormed attrs = true)
    (keep : ∀ r ∈ s.pending, ∀ obj, r.handler.target = some obj → obj ∈ (netdevLinkNotify type ifi attrs s).objs) :
    Sound (netdevLinkNotify type ifi attrs s) := by
  unfold netdevLinkNotify at keep ⊢
  by_cases other : ifi.type ≠ arphrdEther
  · rw [if_pos other]
    exact h
  rw [if_neg other] at keep ⊢
  by_cases new : type = rtmNewlink
  · rw [if_pos new]
    exact h.newlinkNotify ifi wf
  rw [if_neg new] at keep ⊢
  by_cases del : type = rtmDellink
  · rw [if_pos del] at keep ⊢
    exact h.netdevRemove ifi.index keep
  · rw [if_neg del]
    exact h

theorem step (h : Sound s) (env : Env) {e : Event} (wb : wellBehaved s e = true) (calm : busy env s e = false) :
    Sound (Iwd.Netdev.Link.step env s e) := by
  have keep : ∀ r ∈ s.pending, ∀ obj, r.handler.target = some obj → obj ∈ (Iwd.Netdev.Link.step env s e).objs := by
    intro r mem obj target
    have quiet := List.any_eq_false.mp calm r mem
    simp only [target, Bool.and_eq_true, decide_eq_true_eq, not_and, not_not] at quiet
    exact quiet (h.targets r mem obj target)
  unfold Iwd.Netdev.Link.step at keep ⊢
  rw [if_neg (by simp [h.defined])] at keep ⊢
  cases e with
  | dump attrs => exact h.createFromGenl env wb
  | config cmd attrs =>
    refine h.configNotify env cmd (fun new => ?_) keep
    simpa [wellBehaved, new] using wb
  | link type ifi attrs => exact h.linkNotify type ifi wb keep
  | reply seq error type ifi attrs => exact h.rtnlReply env seq error type ifi wb
  | watchAdd obj func userData => exact h.watchAdd (by simpa [wellBehaved] using wb) func userData
  | watchRemove obj id => exact h.watchRemove (by simpa [wellBehaved] using wb) id
  | shutdown =>
    refine h.netdevShutdown fun r mem => ?_
    cases target : r.handler.target with
    | none => rfl
    | some obj => simpa [netdevShutdown_objs] using keep r mem obj target

theorem run (env : Env) : ∀ (s : Links) (events : List Event), Sound s → raceFree env s events = true →
    Sound (Iwd.Netdev.Link.run env s events)
  | _, [], h, _ => h
  | s, e :: es, h, clean => by
    simp only [raceFree, Bool.and_eq_true, Bool.not_eq_true'] at clean
    exact run env _ es (h.step env clean.1.1 clean.1.2) clean.2

theorem initial : Sound Links.initial :=
  ⟨rfl, by simp [Links.netdevs, Links.initial], by simp [Links.initial]⟩

end Sound

/-- No filters, every wiphy known, and `l_debug` silent. -/
def managedEnv : Env := ⟨fun _ => some 0, fun _ _ => true, none, none, false⟩

/-- The interface `wlan0`, index 3, a station, as NEW_INTERFACE and the dump describe it. -/
def wlan0 : List GenlAttr :=
  [⟨nl80211AttrIfindex, [3, 0, 0, 0]⟩, ⟨nl80211AttrIfname, [119, 108, 97, 110, 48, 0]⟩,
    ⟨nl80211AttrWiphy, [0, 0, 0, 0]⟩, ⟨nl80211AttrIftype, [2, 0, 0, 0]⟩, ⟨nl80211AttrMac, [2, 0, 0, 0, 0, 1]⟩]

/-- The reply to the RTM_GETLINK: `wlan0` is up. -/
def wlan0Up : Event := .reply 1 0 rtmNewlink ⟨arphrdEther, 3, iffUp⟩ []

/-- The RTM_DELLINK of `wlan0`. -/
def wlan0Gone : Event := .link rtmDellink ⟨arphrdEther, 3, 0⟩ []

/-- The acknowledgement of the RTM_SETLINK that powers `wlan0` down. -/
def poweredDown : Event := .reply 2 0 0 ⟨arphrdEther, 3, 0⟩ []

/-- A dump, a GETLINK reply, power down and up, the link mode, and a watch: a whole bring-up. -/
def bringup : List Event :=
  [.dump wlan0, wlan0Up, poweredDown, .reply 3 0 0 ⟨arphrdEther, 3, 0⟩ [], .reply 4 0 0 ⟨arphrdEther, 3, 0⟩ [],
    .watchAdd 0 7 8, .link rtmNewlink ⟨arphrdEther, 3, 0⟩ []]

theorem find?_obj_eraseP_index {netdevs : List Iface} {index : UInt32} {obj : Nat}
    (found : (netdevs.find? (·.index = index)).map (·.obj) = some obj) (unique : (netdevs.map (·.obj)).Nodup) :
    (netdevs.eraseP (·.index = index)).find? (·.obj = obj) = none := by
  induction netdevs with
  | nil => simp at found
  | cons n rest ih =>
    rw [List.map_cons, List.nodup_cons] at unique
    by_cases hit : n.index = index
    · rw [List.find?_cons_of_pos _ (by simpa using hit), Option.map_some', Option.some_inj] at found
      subst found
      rw [List.eraseP_cons_of_pos (by simpa using hit), List.find?_eq_none]
      exact fun m mem same => unique.1 (List.mem_map.mpr ⟨m, mem, by simpa using same⟩)
    · rw [List.find?_cons_of_neg _ (by simpa using hit)] at found
      obtain ⟨m, mfound, rfl⟩ := Option.map_eq_some'.mp found
      have other : n.obj ≠ m.obj := fun same =>
        unique.1 (same ▸ List.mem_map_of_mem (·.obj) (List.mem_of_find?_eq_some mfound))
      rw [List.eraseP_cons_of_neg (by simpa using hit), List.find?_cons_of_neg _ (by simpa using other)]
      exact ih (by rw [mfound]; rfl) unique.2

/-- `netdev_free` cancels no request: an RTM_DELLINK that frees the netdev a set_powered request
in flight points to leaves the request pending, and its reply, whatever the kernel answers,
makes `netdev_set_powered_result` read the freed netdev. -/
theorem dellink_then_set_powered_reply_reads_freed_netdev (env : Env) (s : Links) (seq obj : Nat)
    (callback : PoweredCb) (ifi : IfInfo) (defined : s.undefined = false)
    (inFlight : (s.pending.find? (·.seq = seq)).map (·.handler) = some (.setPoweredResult (some (obj, callback))))
    (ether : ifi.type = arphrdEther) (found : (netdevFind s ifi.index).map (·.obj) = some obj)
    (unique : s.objs.Nodup) (attrs : Bytes) (error : Int) (type : UInt16) (ifi' : IfInfo) (attrs' : Bytes) :
    (run env s [.link rtmDellink ifi attrs, .reply seq error type ifi' attrs']).undefined = true := by
  obtain ⟨n, nfound, -⟩ := Option.map_eq_some'.mp found
  obtain ⟨r, rfound, handler⟩ := Option.map_eq_some'.mp inFlight
  have freed : (netdevRemove ifi.index s).deref obj = none := by
    cases hl : s.netdevList with
    | none => simp [netdevFind, Links.netdevs, hl] at nfound
    | some l =>
      have gone := find?_obj_eraseP_index (by simpa [netdevFind, Links.netdevs, hl] using found)
        (by simpa [Links.objs, Links.netdevs, hl] using unique)
      simpa [Iwd.Netdev.Link.netdevRemove, nfound, netdevFree, Links.deref, Links.netdevs, hl] using gone
  have removed : step env s (.link rtmDellink ifi attrs) = netdevRemove ifi.index s := by
    rw [step, if_neg (by simp [defined])]
    exact (if_neg (by simpa using ether)).trans ((if_neg (by decide)).trans (if_pos rfl))
  have kept : (netdevRemove ifi.index s).pending = s.pending ∧ (netdevRemove ifi.index s).undefined = false := by
    simp [Iwd.Netdev.Link.netdevRemove, nfound, netdevFree, defined]
  show (step env (step env s (.link rtmDellink ifi attrs)) (.reply seq error type ifi' attrs')).undefined = true
  rw [removed, step, if_neg (by simp [kept.2])]
  show (rtnlReply env seq error type ifi' attrs' (netdevRemove ifi.index s)).undefined = true
  rw [Iwd.Netdev.Link.rtnlReply, kept.1, rfound]
  simp only [handler, netdevSetPoweredResult]
  have gone : { netdevRemove ifi.index s with pending := s.pending.eraseP (·.seq = seq) }.deref obj = none := freed
  rw [gone]
  rfl

/-- The bring-up of `wlan0`: after the GETLINK reply the RTM_SETLINK that powers it down is in
flight, and an RTM_DELLINK of `wlan0` before its reply makes the reply read the freed netdev. -/
theorem dellink_during_bringup_reads_freed_netdev :
    (run managedEnv Links.initial [.dump wlan0, wlan0Up]).undefined = false ∧
      ((run managedEnv Links.initial [.dump wlan0, wlan0Up]).pending.find? (·.seq = 2)).map (·.handler) =
        some (.setPoweredResult (some (0, .initialDownCb))) ∧
      (netdevFind (run managedEnv Links.initial [.dump wlan0, wlan0Up]) 3).map (·.obj) = some 0 ∧
      (run managedEnv Links.initial [.dump wlan0, wlan0Up]).objs.Nodup ∧
      (run managedEnv (run managedEnv Links.initial [.dump wlan0, wlan0Up]) [wlan0Gone, poweredDown]).undefined = true :=
  ⟨by decide, by decide, by decide, by decide,
    dellink_then_set_powered_reply_reads_freed_netdev managedEnv _ 2 0 .initialDownCb ⟨arphrdEther, 3, 0⟩
      (by decide) (by decide) rfl (by decide) (by decide) [] 0 0 ⟨arphrdEther, 3, 0⟩ []⟩

end Iwd.Netdev.Link
