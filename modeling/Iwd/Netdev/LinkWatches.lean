import Iwd.Netdev.LinkSafety

/-!
The watches of a netdev over whole runs. `netdev_watch_add` hands out `++next_watch_id`, a
`uint32_t`. On every run from the start in which that counter never wraps, the ids of every
netdev's watches are positive, increase in the order the watches were added, and are at most
`next_watch_id` (`watch_ids_increase`); so `netdev_watch_remove` of an id takes out the one
watch that got it and leaves none of that id (`watch_remove_leaves_no_watch_of_the_id`). The ids
are fresh because nothing but `netdev_watch_add` touches the counter, and
`netdev_create_from_genl` starts it at 0 with no watches.
-/

namespace Iwd.Netdev.Link

/-- The watch ids of a netdev: increasing in the order added, positive, at most the counter. -/
def WatchIdsOk (n : Iface) : Prop :=
  (n.watches.map (·.id.toNat)).Pairwise (· < ·) ∧ ∀ w ∈ n.watches, 0 < w.id.toNat ∧ w.id.toNat ≤ n.nextWatchId.toNat

/-- Every netdev on the list has its watch ids in order. -/
def WatchIds (s : Links) : Prop := ∀ n ∈ s.netdevs, WatchIdsOk n

/-- Whether the event is a `netdev_watch_add` that finds `next_watch_id` at its largest value. -/
def wraps (s : Links) : Event → Bool
  | .watchAdd obj _ _ => (s.deref obj).any (·.nextWatchId = 0xFFFFFFFF)
  | _ => false

/-- A run in which no watch counter wraps. -/
def wrapFree (env : Env) : Links → List Event → Bool
  | _, [] => true
  | s, e :: es => !wraps s e && wrapFree env (step env s e) es

theorem uint32_toNat_succ {a : UInt32} (below : a ≠ 0xFFFFFFFF) : (a + 1).toNat = a.toNat + 1 := by
  have lt : a.toNat < 4294967296 := a.toNat_lt_size
  have ne : a.toNat ≠ 4294967295 := fun same => below (UInt32.toNat.inj same)
  show (a.toBitVec + 1#32).toNat = a.toNat + 1
  rw [BitVec.toNat_add]
  show (a.toNat + 1) % 4294967296 = a.toNat + 1
  omega

namespace WatchIds

theorem eraseP_id_gone : ∀ {watches : List Watch}, (watches.map (·.id.toNat)).Pairwise (· < ·) →
    ∀ (id : UInt32), ∀ w ∈ watches.eraseP (·.id = id), w.id ≠ id
  | [], _, _, w, mem => by simp at mem
  | a :: rest, inc, id, w, mem => by
    rw [List.map_cons, List.pairwise_cons] at inc
    by_cases hit : a.id = id
    · rw [List.eraseP_cons_of_pos (by simpa using hit)] at mem
      have later := inc.1 _ (List.mem_map_of_mem (·.id.toNat) mem)
      rintro rfl
      rw [hit] at later
      omega
    · rw [List.eraseP_cons_of_neg (by simpa using hit)] at mem
      rcases List.mem_cons.mp mem with rfl | later
      · exact hit
      · exact eraseP_id_gone inc.2 id w later

theorem deref_setNetdev {s : Links} {n : Iface} (had : (s.deref n.obj).isSome) : (s.setNetdev n).deref n.obj = some n := by
  obtain ⟨k, found⟩ := Option.isSome_iff_exists.mp had
  have same : (fun m : Iface => decide ((if m.obj = n.obj then n else m).obj = n.obj)) = fun m => decide (m.obj = n.obj) := by
    funext m
    by_cases hit : m.obj = n.obj <;> simp [hit]
  have kobj : k.obj = n.obj := (Links.deref_mem found).2
  simp only [Links.deref, Links.setNetdev_netdevs, List.find?_map, Function.comp_def, same] at found ⊢
  simp [found, kobj]

variable {s : Links}

theorem of_sub (h : WatchIds s) {s' : Links} (sub : ∀ n ∈ s'.netdevs, n ∈ s.netdevs) : WatchIds s' :=
  fun n mem => h n (sub n mem)

theorem setNetdev (h : WatchIds s) (n : Iface) (ok : WatchIdsOk n) : WatchIds (s.setNetdev n) := by
  intro m mem
  rcases Links.mem_setNetdev mem with rfl | old
  · exact ok
  · exact h m old

theorem notifyAll (h : WatchIds s) (n : Iface) (event : WatchEvent) : WatchIds (notifyAll n event s) := by
  rw [notifyAll_eq]
  exact h

theorem netdevAdd (h : WatchIds s) {n : Iface} (none : n.watches = []) : WatchIds (netdevAdd n s) := by
  have pushed : WatchIds { s with nextObj := s.nextObj + 1, netdevList := s.netdevList.map (· ++ [n]) } := by
    intro m mem
    cases hl : s.netdevList with
    | none => simp [Links.netdevs, hl] at mem
    | some l =>
      simp only [Links.netdevs, hl, Option.map_some', Option.getD_some, List.mem_append, List.mem_singleton] at mem
      rcases mem with old | rfl
      · exact h m (by simp [Links.netdevs, hl, old])
      · simp [WatchIdsOk, none]
  unfold Iwd.Netdev.Link.netdevAdd
  dsimp only
  split <;> exact pushed.of_sub fun _ mem => by simpa using mem

theorem createFromGenl (h : WatchIds s) (env : Env) (attrs : List GenlAttr) :
    WatchIds (netdevCreateFromGenl env attrs s) := by
  unfold netdevCreateFromGenl
  repeat' split
  all_goals first | exact h | exact h.of_sub (fun _ => id) | exact h.netdevAdd rfl

theorem netdevRemove (h : WatchIds s) (index : UInt32) : WatchIds (netdevRemove index s) := by
  unfold Iwd.Netdev.Link.netdevRemove
  split
  · exact h
  · refine h.of_sub fun m mem => ?_
    cases hl : s.netdevList with
    | none => simp [netdevFree, Links.netdevs, hl] at mem
    | some l =>
      simp only [netdevFree, Links.emit_netdevs, Links.netdevs, hl, Option.map_some', Option.getD_some] at mem ⊢
      exact List.mem_of_mem_eraseP mem

theorem newlinkNotify (h : WatchIds s) (ifi : IfInfo) (attrs : Bytes) :
    WatchIds (netdevNewlinkNotify ifi attrs s) := by
  unfold netdevNewlinkNotify
  split
  · exact h
  · rename_i n found
    have ok : WatchIdsOk n := h n (netdevFind_mem found)
    split
    · exact h.of_sub fun _ => id
    · split
      · exact h.of_sub fun _ => id
      · have set := h.setNetdev { n with ifiFlags := ifi.flags, name := ‹Bytes› } ok
        dsimp only
        split <;> split
        all_goals first | exact set | exact set.notifyAll _ _ | exact (set.notifyAll _ _).notifyAll _ _

theorem initialDownCb (h : WatchIds s) (n : Iface) (result : Int) : WatchIds (netdevInitialDownCb n result s) := by
  unfold netdevInitialDownCb Iwd.Netdev.Link.netdevSetPowered
  split
  · exact h
  · exact h.of_sub fun _ => id

theorem initialUpCb (h : WatchIds s) {n : Iface} (mem : n ∈ s.netdevs) (result : Int) :
    WatchIds (netdevInitialUpCb n result s) := by
  unfold netdevInitialUpCb
  split
  · exact h
  · have sent : WatchIds (netdevSetLinkmodeAndOperstate n.index 1 ifOperDormant (some (.operstateDormantCb n.obj)) s) := h
    exact (sent.setNetdev { n with device := some n.obj } (h n mem)).of_sub fun _ mem => mem

theorem getlinkCb (h : WatchIds s) (error : Int) (type : UInt16) (ifi : IfInfo) (attrs : Bytes) :
    WatchIds (netdevGetlinkCb error type ifi attrs s) := by
  unfold netdevGetlinkCb
  split
  · exact h
  · split
    · exact h
    · have notified := h.newlinkNotify ifi attrs
      dsimp only
      split
      · exact notified
      · split
        · exact notified.of_sub fun _ => id
        · exact notified.initialDownCb _ 0

theorem setPoweredResult (h : WatchIds s) (error : Int) (cbData : Option (Nat × PoweredCb)) :
    WatchIds (netdevSetPoweredResult error cbData s) := by
  unfold netdevSetPoweredResult
  split
  · exact h
  · split
    · exact h.of_sub fun _ => id
    · rename_i n found
      split
      · exact h.initialDownCb n _
      · exact h.initialUpCb (Links.deref_mem found).1 _

theorem rtnlReply (h : WatchIds s) (env : Env) (seq : Nat) (error : Int) (type : UInt16) (ifi : IfInfo)
    (attrs : Bytes) : WatchIds (rtnlReply env seq error type ifi attrs s) := by
  unfold Iwd.Netdev.Link.rtnlReply
  split
  · exact h
  · have taken : WatchIds { s with pending := s.pending.eraseP (·.seq = seq) } := h
    split
    · exact taken.getlinkCb _ _ _ _
    · exact taken.setPoweredResult _ _
    · unfold Iwd.Netdev.Link.netlinkResult netdevOperstateDormantCb
      split
      · dsimp only
        split <;> exact taken.of_sub fun _ mem => mem
      · exact taken

theorem watchAdd (h : WatchIds s) {obj : Nat} (below : wraps s (.watchAdd obj 0 0) = false) (func userData : Owner) :
    WatchIds (netdevWatchAdd obj func userData s).1 := by
  unfold netdevWatchAdd
  split
  · exact h.of_sub fun _ => id
  · rename_i n found
    have ok : WatchIdsOk n := h n (Links.deref_mem found).1
    have next : (n.nextWatchId + 1).toNat = n.nextWatchId.toNat + 1 :=
      uint32_toNat_succ (by simpa [wraps, found] using below)
    refine h.setNetdev _ ⟨?_, fun w mem => ?_⟩
    · simp only [List.map_append, List.map_cons, List.map_nil, List.pairwise_append, List.pairwise_singleton,
        List.mem_singleton, List.mem_map, forall_exists_index, and_imp]
      refine ⟨ok.1, trivial, ?_⟩
      rintro _ w mem rfl _ rfl
      have := (ok.2 w mem).2
      omega
    · simp only [List.mem_append, List.mem_singleton] at mem
      rcases mem with old | rfl
      · have := ok.2 w old
        rw [next]
        omega
      · simp only [next]
        omega

theorem watchRemove (h : WatchIds s) (obj : Nat) (id : UInt32) : WatchIds (netdevWatchRemove obj id s).1 := by
  unfold netdevWatchRemove
  split
  · exact h.of_sub fun _ mem => mem
  · rename_i n found
    have ok : WatchIdsOk n := h n (Links.deref_mem found).1
    split
    · refine h.setNetdev _ ⟨ok.1.sublist ((List.eraseP_sublist _).map _), fun w mem => ok.2 w ?_⟩
      exact List.mem_of_mem_eraseP mem
    · exact h.of_sub fun _ mem => mem

theorem netdevShutdown (s : Links) : WatchIds (netdevShutdown s) := by
  intro n mem
  simp [Iwd.Netdev.Link.netdevShutdown, Sound.foldl_netdevFree, Links.netdevs] at mem

theorem configNotify (h : WatchIds s) (env : Env) (cmd : UInt8) (attrs : List GenlAttr) :
    WatchIds (netdevConfigNotify env cmd attrs s) := by
  unfold netdevConfigNotify
  by_cases new : cmd = nl80211CmdNewInterface
  · rw [if_pos new]
    exact h.createFromGenl env attrs
  rw [if_neg new]
  by_cases other : cmd ≠ nl80211CmdDelInterface
  · rw [if_pos other]
    exact h
  rw [if_neg other]
  split
  · exact h.netdevRemove _
  · exact h

theorem linkNotify (h : WatchIds s) (type : UInt16) (ifi : IfInfo) (attrs : Bytes) :
    WatchIds (netdevLinkNotify type ifi attrs s) := by
  unfold netdevLinkNotify
  by_cases other : ifi.type ≠ arphrdEther
  · rw [if_pos other]
    exact h
  rw [if_neg other]
  by_cases new : type = rtmNewlink
  · rw [if_pos new]
    exact h.newlinkNotify ifi attrs
  rw [if_neg new]
  by_cases del : type = rtmDellink
  · rw [if_pos del]
    exact h.netdevRemove ifi.index
  · rw [if_neg del]
    exact h

theorem step (h : WatchIds s) (env : Env) {e : Event} (below : wraps s e = false) :
    WatchIds (Iwd.Netdev.Link.step env s e) := by
  unfold Iwd.Netdev.Link.step
  split
  · exact h
  · cases e with
    | dump attrs => exact h.createFromGenl env attrs
    | config cmd attrs => exact h.configNotify env cmd attrs
    | link type ifi attrs => exact h.linkNotify type ifi attrs
    | reply seq error type ifi attrs => exact h.rtnlReply env seq error type ifi attrs
    | watchAdd obj func userData => exact h.watchAdd (by simpa [wraps] using below) func userData
    | watchRemove obj id => exact h.watchRemove obj id
    | shutdown => exact netdevShutdown s

theorem run (env : Env) : ∀ (s : Links) (events : List Event), WatchIds s → wrapFree env s events = true →
    WatchIds (Iwd.Netdev.Link.run env s events)
  | _, [], h, _ => h
  | s, e :: es, h, free => by
    simp only [wrapFree, Bool.and_eq_true, Bool.not_eq_true'] at free
    exact run env _ es (h.step env free.1) free.2

end WatchIds

/-- On every run from the start in which no `next_watch_id` wraps, every netdev's watch ids are
positive, increase in the order the watches were added, and are at most `next_watch_id`. -/
theorem watch_ids_increase (env : Env) (events : List Event) (free : wrapFree env Links.initial events = true) :
    ∀ n ∈ (run env Links.initial events).netdevs,
      (n.watches.map (·.id.toNat)).Pairwise (· < ·) ∧ ∀ w ∈ n.watches, 0 < w.id.toNat ∧ w.id.toNat ≤ n.nextWatchId.toNat :=
  WatchIds.run env Links.initial events (fun _ mem => by simp [Links.netdevs, Links.initial] at mem) free

theorem watch_ids_increase_bringup :
    wrapFree managedEnv Links.initial bringup = true ∧
      ∀ n ∈ (run managedEnv Links.initial bringup).netdevs,
        (n.watches.map (·.id.toNat)).Pairwise (· < ·) ∧ ∀ w ∈ n.watches, 0 < w.id.toNat ∧ w.id.toNat ≤ n.nextWatchId.toNat :=
  ⟨by decide, watch_ids_increase managedEnv bringup (by decide)⟩

/-- On every run from the start in which no watch counter wraps, `netdev_watch_remove` of an id
leaves the netdev with no watch of that id: `l_queue_remove_if` takes out the first one, and there
is no second. -/
theorem watch_remove_leaves_no_watch_of_the_id (env : Env) (events : List Event)
    (free : wrapFree env Links.initial events = true) (obj : Nat) (id : UInt32) :
    ∀ m, (netdevWatchRemove obj id (run env Links.initial events)).1.deref obj = some m → ∀ w ∈ m.watches, w.id ≠ id := by
  have ids := WatchIds.run env Links.initial events (fun _ mem => by simp [Links.netdevs, Links.initial] at mem) free
  intro m read
  unfold netdevWatchRemove at read
  split at read
  · rename_i missing
    rw [show ∀ s : Links, s.fail.deref obj = s.deref obj from fun _ => rfl, missing] at read
    cases read
  · rename_i n found
    have ok : WatchIdsOk n := ids n (Links.deref_mem found).1
    have nobj : n.obj = obj := (Links.deref_mem found).2
    split at read
    · subst nobj
      rw [WatchIds.deref_setNetdev (by simp [found])] at read
      cases read
      exact WatchIds.eraseP_id_gone ok.1 id
    · rename_i absent
      rw [found] at read
      cases read
      simpa using absent

theorem watch_remove_leaves_no_watch_of_the_id_bringup :
    wrapFree managedEnv Links.initial bringup = true ∧
      ∀ m, (netdevWatchRemove 0 1 (run managedEnv Links.initial bringup)).1.deref 0 = some m → ∀ w ∈ m.watches, w.id ≠ 1 :=
  ⟨by decide, watch_remove_leaves_no_watch_of_the_id managedEnv bringup (by decide) 0 1⟩

end Iwd.Netdev.Link
