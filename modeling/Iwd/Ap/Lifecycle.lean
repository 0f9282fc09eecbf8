import Iwd.Netdev.Types

/-!
The life of an `ap_state` from `ap_start` to `l_free(ap)`. `ap_start` either sends
START_AP at once or, when the interface has to get an address first, waits for the
RTM_NEWADDR reply (`ap_ifaddr4_added_cb`). From then on the START_AP and STOP_AP replies,
the kernel's STOP_AP notification (`ap_mlme_notify`), and the owner's `ap_shutdown` and
`ap_free` come in any order. The owner hears of the AP through `handle_event` and through
the `stopped_func` it gives `ap_shutdown`; the comments above `ap_start` and `ap_shutdown`
say when it has to forget the pointer, and `OwnerView` follows them over what it has
seen. An owner call on an `ap_state` that was already freed, or an `ap_reset` that frees
what an earlier one freed, uses freed memory, and the run stops there.

The station fields of `struct ap_state` are in `Iwd.Ap.ApState`. A notification for
another interface, NEW_STATION and DEL_STATION leave the fields here as they are, and so
do the replies to the station commands, which `l_genl_family_free` drops with the rest.
-/

namespace Iwd.Ap.Lifecycle

open Iwd.Netdev (Errno)

/-- AP_EVENT_START_FAILED, AP_EVENT_STARTED and AP_EVENT_STOPPING of `enum ap_event_type`. -/
inductive LifeEvent where
  | startFailed | started | stopping
  deriving DecidableEq, Repr

/-- The function a reply on `ap->nl80211` runs: `ap_start_cb`, `ap_stop_cb`, or the
`ap_gtk_op_cb` of the DEL_KEY that `ap_shutdown` sends, which only logs. -/
inductive Callback where
  | startAp | stopAp | gtkOp
  deriving DecidableEq, Repr

/-- A command in flight. -/
structure Request where
  id : Nat
  callback : Callback
  deriving DecidableEq, Repr

/-- What the owner observes, and the owner's own calls. -/
inductive Effect where
  /-- `ap->ops->handle_event(type, NULL, ap->user_data)`. -/
  | event (e : LifeEvent)
  /-- `stopped_func(user_data)`. -/
  | stopped
  /-- `l_free(ap)`. -/
  | released
  /-- The owner called `ap_shutdown`, with a `stopped_func` or without one. -/
  | shutdown (stoppedFunc : Bool)
  /-- The owner called `ap_free`. -/
  | free
  deriving DecidableEq, Repr

/-- The lifecycle fields of `struct ap_state`, the requests in flight on its `nl80211`
family, and what the owner has seen, newest first. -/
structure State where
  /-- `ap->rtnl_add_cmd` is set and its reply awaited. -/
  rtnlAddCmd : Bool
  startStopCmdId : Nat
  started : Bool
  /-- `ap->mlme_watch` delivers notifications. -/
  mlmeWatch : Bool
  gtkSet : Bool
  /-- `ap->server != NULL`. -/
  server : Bool
  /-- `ap->stopped_func != NULL`. -/
  stoppedFunc : Bool
  requests : List Request
  /-- The commands sent on the family so far; `l_genl_family_send` numbers them from 1. -/
  sent : Nat
  /-- `ap_reset` has run. It frees `ap->rates`, `ap->sta_states`, `ap->wsc_pbc_probes` and
  `ap->own_ip` and leaves the pointers as they were. -/
  reset : Bool
  /-- `l_free(ap)` has run. -/
  freed : Bool
  /-- Freed memory was used. -/
  crashed : Bool
  log : List Effect

namespace State

variable (s : State)

@[simp] def emit (e : Effect) : State := { s with log := e :: s.log }

/-- `l_genl_family_send`; `ok` is whether it succeeded. -/
@[simp] def send (callback : Callback) (ok : Bool) : State × Nat :=
  if ok then ({ s with requests := s.requests ++ [⟨s.sent + 1, callback⟩], sent := s.sent + 1 }, s.sent + 1)
  else (s, 0)

/-- `l_genl_family_cancel`. -/
@[simp] def cancel (id : Nat) : State := { s with requests := s.requests.filter (·.id != id) }

/-- `l_genl_family_free(ap->nl80211)` and `l_free(ap)`: the requests in flight and the MLME
registration go with the family. -/
@[simp] def release : State :=
  { s with requests := [], mlmeWatch := false, freed := true, log := .released :: s.log }

end State

/-- `ap_reset`. It cancels START_AP or STOP_AP and the RTM_NEWADDR request, drops the MLME
registration and clears `started`; a second `ap_reset` frees again what the first freed. -/
def apReset (s : State) : State :=
  let s := if s.startStopCmdId = 0 then s else s.cancel s.startStopCmdId
  { s with rtnlAddCmd := false, mlmeWatch := false, started := false, reset := true,
           crashed := s.crashed || s.reset }

/-- `ap_start_failed`. -/
def apStartFailed (s : State) : State := (apReset (s.emit (.event .startFailed))).release

/-- `ap_start_cb`: the START_AP reply, with the result of `l_dhcp_server_start`. -/
def apStartCb (s : State) (error dhcpStarted : Bool) : State :=
  let s := { s with startStopCmdId := 0 }
  if error then apStartFailed s
  else if s.server && !dhcpStarted then apStartFailed s
  else { s with started := true }.emit (.event .started)

/-- `ap_ifaddr4_added_cb`: the RTM_NEWADDR reply; `built` and `sent` are whether
`ap_build_cmd_start_ap` and `l_genl_family_send` succeeded. -/
def apIfaddr4AddedCb (s : State) (error built sent : Bool) : State :=
  let s := { s with rtnlAddCmd := false }
  if error || !built then apStartFailed s
  else
    let (s, id) := s.send .startAp sent
    let s := { s with startStopCmdId := id }
    if id = 0 then apStartFailed s else s

/-- The NL80211_CMD_STOP_AP case of `ap_mlme_notify`, for this interface. -/
def apMlmeNotify (s : State) : State :=
  let s :=
    if s.startStopCmdId ≠ 0 then
      { s.cancel s.startStopCmdId with startStopCmdId := 0 }.emit (.event .startFailed)
    else if s.started then { s with started := false }.emit (.event .stopping)
    else s
  (apReset s).release

/-- `if (stopped_func) stopped_func(user_data)`. -/
def notifyStopped (s : State) (stoppedFunc : Bool) : State :=
  if stoppedFunc then s.emit .stopped else s

/-- The STOP_AP half of `ap_shutdown`, with its `free_ap` exit. -/
def shutdownStopAp (s : State) (stoppedFunc stopSent : Bool) : State :=
  let (s, id) := s.send .stopAp stopSent
  let s := { s with startStopCmdId := id }
  if id = 0 then (notifyStopped s stoppedFunc).release else { s with stoppedFunc := stoppedFunc }

/-- The DEL_KEY half of `ap_shutdown`, with its `free_ap` exit. -/
def shutdownDelKey (s : State) (stoppedFunc delKeySent stopSent : Bool) : State :=
  if s.gtkSet then
    let (s, id) := { s with gtkSet := false }.send .gtkOp delKeySent
    if id = 0 then (notifyStopped s stoppedFunc).release else shutdownStopAp s stoppedFunc stopSent
  else shutdownStopAp s stoppedFunc stopSent

/-- `ap_shutdown(ap, stopped_func, user_data)`: `stoppedFunc` is whether a `stopped_func`
is given, `delKeySent` and `stopSent` whether DEL_KEY and STOP_AP were built and sent. -/
def apShutdown (s : State) (stoppedFunc delKeySent stopSent : Bool) : State :=
  let s := if s.started then { s with started := false }.emit (.event .stopping) else s
  shutdownDelKey (apReset s) stoppedFunc delKeySent stopSent

/-- `ap_stop_cb`: the STOP_AP reply. -/
def apStopCb (s : State) : State :=
  let s := { s with startStopCmdId := 0 }
  (notifyStopped s s.stoppedFunc).release

/-- `ap_free`. -/
def apFree (s : State) : State := (apReset s).release

/-- The outcomes `ap_start` meets, in its order. -/
structure StartEnv where
  /-- `config->ssid` is set. -/
  ssid : Bool
  /-- `config->profile`, `config->passphrase[0]` or a nonzero `config->psk`. -/
  credentials : Bool
  /-- `ap_load_profile_and_dhcp`: its error, or `wait_on_address`. -/
  loadProfileAndDhcp : Except Errno Bool
  /-- The DHCP setup created `ap->server`. -/
  server : Bool
  /-- There is no passphrase, or `crypto_psk_from_passphrase` succeeded. -/
  psk : Bool
  /-- The six `frame_watch_add` calls succeeded. -/
  frameWatches : Bool
  /-- `l_genl_family_register` returned a watch. -/
  mlmeWatch : Bool
  /-- `ap_build_cmd_start_ap` succeeded. -/
  startBuilt : Bool
  /-- `l_genl_family_send` of START_AP succeeded. -/
  startSent : Bool

/-- `ap_start`: the `ap_state` it returns, if any. -/
def apStart (e : StartEnv) : Option State :=
  if !e.ssid || !e.credentials then none
  else match e.loadProfileAndDhcp with
    | .error _ => none
    | .ok waitOnAddress =>
      if !e.psk || !e.frameWatches then none
      else
        let s : State := ⟨waitOnAddress, 0, false, e.mlmeWatch, false, e.server, false, [], 0,
          false, false, false, []⟩
        if waitOnAddress then some s
        else if !e.startBuilt then none
        else
          let (s, id) := s.send .startAp e.startSent
          if id = 0 then none else some { s with startStopCmdId := id }

/-- The owner's side of the contract the comments above `ap_start` and `ap_shutdown` state. -/
inductive OwnerView where
  /-- It holds the pointer and may call `ap_shutdown` or `ap_free`. -/
  | holds
  /-- It called `ap_shutdown` with a `stopped_func`; until that runs it may still `ap_free`. -/
  | awaitsStopped
  /-- It forgot the pointer. -/
  | forgot
  deriving DecidableEq, Repr

/-- The owner forgets the pointer on AP_EVENT_START_FAILED, on an AP_EVENT_STOPPING it did
not cause by `ap_shutdown`, when its `stopped_func` runs, at once after an `ap_shutdown`
without one, and after `ap_free`. -/
def OwnerView.observe : Effect → OwnerView → OwnerView
  | .event .startFailed, _ => .forgot
  | .event .stopping, .holds => .forgot
  | .stopped, _ => .forgot
  | .shutdown true, .holds => .awaitsStopped
  | .shutdown false, _ => .forgot
  | .free, _ => .forgot
  | _, v => v

/-- The owner's view after what it has seen. -/
def ownerView (log : List Effect) : OwnerView := log.foldr OwnerView.observe .holds

/-- The events `handle_event` received, newest first. -/
def events (log : List Effect) : List LifeEvent :=
  log.filterMap fun
    | .event e => some e
    | _ => none

/-- Every input of the lifecycle. -/
inductive Input where
  /-- The RTM_NEWADDR reply, with what `ap_ifaddr4_added_cb` meets. -/
  | addressAdded (error built sent : Bool)
  /-- The reply to request `id`, with the `l_dhcp_server_start` result. -/
  | reply (id : Nat) (error dhcpStarted : Bool)
  /-- An NL80211_CMD_STOP_AP notification for this interface. -/
  | stopAp
  /-- The station handlers installed the group key. -/
  | groupKeySet
  | shutdown (stoppedFunc delKeySent stopSent : Bool)
  | free
  deriving DecidableEq, Repr

/-- The reply to request `id`. -/
def reply (s : State) (id : Nat) (error dhcpStarted : Bool) : State :=
  match s.requests.find? (·.id == id) with
  | none => s
  | some r =>
    let s := s.cancel id
    match r.callback with
    | .startAp => apStartCb s error dhcpStarted
    | .stopAp => apStopCb s
    | .gtkOp => s

/-- An owner call; on a freed `ap_state` it uses freed memory. -/
def ownerCall (s : State) (call : Effect) (f : State → State) : State :=
  let s := s.emit call
  if s.freed then { s with crashed := true } else f s

/-- The owner calls only what its view allows; the frame watches end with `ap_reset`. -/
def runInput (s : State) : Input → State
  | .addressAdded error built sent => if s.rtnlAddCmd then apIfaddr4AddedCb s error built sent else s
  | .reply id error dhcpStarted => reply s id error dhcpStarted
  | .stopAp => if s.mlmeWatch then apMlmeNotify s else s
  | .groupKeySet => if s.reset then s else { s with gtkSet := true }
  | .shutdown stoppedFunc delKeySent stopSent =>
    if ownerView s.log = .holds then
      ownerCall s (.shutdown stoppedFunc) (apShutdown · stoppedFunc delKeySent stopSent)
    else s
  | .free => if ownerView s.log = .forgot then s else ownerCall s .free apFree

/-- One step; nothing runs after a use of freed memory. -/
def step (s : State) (i : Input) : State := if s.crashed then s else runInput s i

/-- The states of every `ap_state` that `ap_start` returned. -/
inductive Reachable : State → Prop where
  | start {s : State} (e : StartEnv) : apStart e = some s → Reachable s
  | step {s : State} (i : Input) : Reachable s → Reachable (step s i)

/-! ### What the owner has seen -/

@[simp] theorem ownerView_nil : ownerView [] = .holds := rfl

@[simp] theorem ownerView_cons (e : Effect) (log : List Effect) :
    ownerView (e :: log) = OwnerView.observe e (ownerView log) := rfl

theorem OwnerView.observe_eq_holds {e : Effect} {v : OwnerView} (h : OwnerView.observe e v = .holds) :
    v = .holds := by
  rcases e with e | _ | _ | f | _ <;> (try cases e) <;> (try cases f) <;> cases v <;> first | rfl | cases h

theorem OwnerView.observe_ne_holds (e : Effect) (v : OwnerView) (tells : e ≠ .event .started)
    (kept : e ≠ .released) : OwnerView.observe e v ≠ .holds := by
  rcases e with e | _ | _ | f | _ <;> (try cases e) <;> (try cases f) <;> cases v <;> simp_all [OwnerView.observe]

@[simp] theorem OwnerView.observe_started (v : OwnerView) : OwnerView.observe (.event .started) v = v := by
  cases v <;> rfl

theorem ownerView_told {log : List Effect} (told : ownerView log ≠ .holds) (e : Effect) :
    ownerView (e :: log) ≠ .holds :=
  fun holds => told (OwnerView.observe_eq_holds holds)

@[simp] theorem events_nil : events [] = [] := rfl
@[simp] theorem events_event (e : LifeEvent) (log : List Effect) : events (.event e :: log) = e :: events log := rfl
@[simp] theorem events_stopped (log : List Effect) : events (.stopped :: log) = events log := rfl
@[simp] theorem events_released (log : List Effect) : events (.released :: log) = events log := rfl
@[simp] theorem events_shutdown (f : Bool) (log : List Effect) : events (.shutdown f :: log) = events log := rfl
@[simp] theorem events_free (log : List Effect) : events (.free :: log) = events log := rfl

/-- The owner's contract for the events `handle_event` delivers, newest first: STARTED and
START_FAILED at most once each and never both, STOPPING at most once and after STARTED. -/
structure EventsConsistent (evs : List LifeEvent) : Prop where
  startedOnce : evs.count .started ≤ 1
  startFailedOnce : evs.count .startFailed ≤ 1
  notBoth : .started ∈ evs → .startFailed ∉ evs
  stoppingOnce : evs.count .stopping ≤ 1
  stoppingAfterStarted : ∀ later earlier, evs = later ++ .stopping :: earlier → .started ∈ earlier

/-- The event sequences of a lifecycle, newest first. -/
def Allowed (evs : List LifeEvent) : Prop :=
  evs = [] ∨ evs = [.started] ∨ evs = [.startFailed] ∨ evs = [.stopping, .started]

theorem Allowed.consistent {evs : List LifeEvent} (h : Allowed evs) : EventsConsistent evs := by
  rcases h with rfl | rfl | rfl | rfl <;> refine ⟨by decide, by decide, by decide, by decide, ?_⟩ <;>
    rintro (_ | ⟨a, _ | ⟨b, later⟩⟩) earlier split <;> simp at split
  simp [← split]

/-! ### The phases of an `ap_state` -/

/-- `ap_start` returned it waiting for the RTM_NEWADDR reply; nothing is sent or seen. -/
structure AddressWait (s : State) : Prop where
  rtnl : s.rtnlAddCmd = true
  cmdId : s.startStopCmdId = 0
  noRequests : s.requests = []
  notStarted : s.started = false
  live : s.freed = false
  quiet : s.log = []
  fresh : s.reset = false
  sound : s.crashed = false

/-- START_AP is in flight and nothing is seen. -/
structure Starting (s : State) : Prop where
  rtnl : s.rtnlAddCmd = false
  cmdId : s.startStopCmdId ≠ 0
  startAp : s.requests = [⟨s.startStopCmdId, .startAp⟩]
  notStarted : s.started = false
  live : s.freed = false
  quiet : s.log = []
  fresh : s.reset = false
  sound : s.crashed = false

/-- The AP runs and the owner has had AP_EVENT_STARTED. -/
structure Running (s : State) : Prop where
  rtnl : s.rtnlAddCmd = false
  cmdId : s.startStopCmdId = 0
  noRequests : s.requests = []
  isStarted : s.started = true
  live : s.freed = false
  log : s.log = [.event .started]
  fresh : s.reset = false
  sound : s.crashed = false

/-- `ap_shutdown` has reset the AP, which lives on until the STOP_AP reply. -/
structure ShuttingDown (s : State) : Prop where
  rtnl : s.rtnlAddCmd = false
  mlme : s.mlmeWatch = false
  notStarted : s.started = false
  reset : s.reset = true
  live : s.freed = false
  noStartAp : ∀ r ∈ s.requests, r.callback ≠ .startAp
  heard : events s.log = [] ∨ events s.log = [.stopping, .started]
  told : ownerView s.log ≠ .holds
  sound : s.crashed = false

/-- `l_free(ap)` has run. -/
structure Released (s : State) : Prop where
  rtnl : s.rtnlAddCmd = false
  mlme : s.mlmeWatch = false
  noRequests : s.requests = []
  freed : s.freed = true
  heard : Allowed (events s.log)

inductive Phase (s : State) : Prop where
  | addressWait (h : AddressWait s)
  | starting (h : Starting s)
  | running (h : Running s)
  | shuttingDown (h : ShuttingDown s)
  | released (h : Released s)

/-- Released after the owner was told. -/
def ToldRelease (s : State) : Prop := Released s ∧ ownerView s.log.tail ≠ .holds

/-- Live in some phase, or released after the owner was told. -/
def Settled (s : State) : Prop := (s.freed = false ∧ Phase s) ∨ ToldRelease s

theorem Phase.allowed {s : State} (h : Phase s) : Allowed (events s.log) := by
  cases h with
  | addressWait h => simp [h.quiet, Allowed]
  | starting h => simp [h.quiet, Allowed]
  | running h => simp [h.log, Allowed]
  | shuttingDown h => rcases h.heard with e | e <;> simp [e, Allowed]
  | released h => exact h.heard

/-! ### What each function does to a phase -/

theorem apReset_eq (s : State) : apReset s =
    { s with requests := if s.startStopCmdId = 0 then s.requests else s.requests.filter (·.id != s.startStopCmdId),
             rtnlAddCmd := false, mlmeWatch := false, started := false, reset := true,
             crashed := s.crashed || s.reset } := by
  unfold apReset; split <;> rfl

theorem release_told {s : State} (rtnl : s.rtnlAddCmd = false) (allowed : Allowed (events s.log))
    (told : ownerView s.log ≠ .holds) : ToldRelease s.release :=
  ⟨⟨rtnl, rfl, rfl, rfl, allowed⟩, told⟩

theorem apStartFailed_told {s : State} (quiet : events s.log = []) : ToldRelease (apStartFailed s) :=
  release_told rfl (by simp [apReset_eq, quiet, Allowed]) (by simp [apReset_eq, OwnerView.observe])

theorem apFree_told {s : State} (allowed : Allowed (events s.log)) : ToldRelease (apFree (s.emit .free)) :=
  release_told rfl (by simpa [apReset_eq] using allowed) (by simp [apReset_eq, OwnerView.observe])

theorem shuttingDown_notifyStopped_release {s : State} (h : ShuttingDown s) (f : Bool) :
    ToldRelease (notifyStopped s f).release := by
  have allowed : Allowed (events s.log) := (Phase.shuttingDown h).allowed
  unfold notifyStopped
  split
  · exact release_told h.rtnl (by simpa using allowed) (ownerView_told h.told _)
  · exact release_told h.rtnl allowed h.told

theorem shutdownStopAp_unsent (s : State) (f : Bool) :
    shutdownStopAp s f false = (notifyStopped { s with startStopCmdId := 0 } f).release := rfl

theorem shutdownStopAp_sent (s : State) (f : Bool) :
    shutdownStopAp s f true =
      { s with requests := s.requests ++ [⟨s.sent + 1, .stopAp⟩], sent := s.sent + 1,
               startStopCmdId := s.sent + 1, stoppedFunc := f } := rfl

theorem shuttingDown_shutdownStopAp {s : State} (h : ShuttingDown s) (f stopSent : Bool) :
    Settled (shutdownStopAp s f stopSent) := by
  cases stopSent
  · have cleared : ShuttingDown { s with startStopCmdId := 0 } := ⟨h.1, h.2, h.3, h.4, h.5, h.6, h.7, h.8, h.9⟩
    rw [shutdownStopAp_unsent]
    exact .inr (shuttingDown_notifyStopped_release cleared f)
  · rw [shutdownStopAp_sent]
    refine .inl ⟨h.live, .shuttingDown ⟨h.1, h.2, h.3, h.4, h.5, ?_, h.7, h.8, h.9⟩⟩
    simpa [or_imp, forall_and] using h.noStartAp

theorem shutdownDelKey_unsent {s : State} (gtkSet : s.gtkSet = true) (f stopSent : Bool) :
    shutdownDelKey s f false stopSent = (notifyStopped { s with gtkSet := false } f).release := by
  simp [shutdownDelKey, gtkSet]

theorem shutdownDelKey_sent {s : State} (gtkSet : s.gtkSet = true) (f stopSent : Bool) :
    shutdownDelKey s f true stopSent =
      shutdownStopAp { s with gtkSet := false, requests := s.requests ++ [⟨s.sent + 1, .gtkOp⟩],
                              sent := s.sent + 1 } f stopSent := by
  simp [shutdownDelKey, gtkSet]

theorem shutdownDelKey_keyless {s : State} (gtkSet : s.gtkSet = false) (f delKeySent stopSent : Bool) :
    shutdownDelKey s f delKeySent stopSent = shutdownStopAp s f stopSent := by
  simp [shutdownDelKey, gtkSet]

theorem shuttingDown_shutdownDelKey {s : State} (h : ShuttingDown s) (f delKeySent stopSent : Bool) :
    Settled (shutdownDelKey s f delKeySent stopSent) := by
  have keyless : ShuttingDown { s with gtkSet := false } := ⟨h.1, h.2, h.3, h.4, h.5, h.6, h.7, h.8, h.9⟩
  cases gtkSet : s.gtkSet
  · rw [shutdownDelKey_keyless gtkSet]
    exact shuttingDown_shutdownStopAp h f stopSent
  · cases delKeySent
    · rw [shutdownDelKey_unsent gtkSet]
      exact .inr (shuttingDown_notifyStopped_release keyless f)
    · have keyed : ShuttingDown { s with gtkSet := false, requests := s.requests ++ [⟨s.sent + 1, .gtkOp⟩],
                                          sent := s.sent + 1 } :=
        ⟨h.1, h.2, h.3, h.4, h.5, by simpa [or_imp, forall_and] using h.noStartAp, h.7, h.8, h.9⟩
      rw [shutdownDelKey_sent gtkSet]
      exact shuttingDown_shutdownStopAp keyed f stopSent

theorem shuttingDown_apReset {s : State} (live : s.freed = false) (cleared : (apReset s).requests = [])
    (heard : events s.log = [] ∨ events s.log = [.stopping, .started]) (told : ownerView s.log ≠ .holds)
    (fresh : s.reset = false) (sound : s.crashed = false) : ShuttingDown (apReset s) :=
  ⟨rfl, rfl, rfl, rfl, by simpa [apReset_eq] using live, by simp [cleared],
    by simpa [apReset_eq] using heard, by simpa [apReset_eq] using told, by simp [apReset_eq, fresh, sound]⟩

theorem apShutdown_settled (s : State) (live : s.freed = false) (cleared : (apReset s).requests = [])
    (heard : (s.started = true ∧ events s.log = [.started]) ∨ (s.started = false ∧ events s.log = []))
    (told : ownerView s.log ≠ .holds) (fresh : s.reset = false) (sound : s.crashed = false)
    (f delKeySent stopSent : Bool) :
    Settled (apShutdown s f delKeySent stopSent) := by
  unfold apShutdown
  rcases heard with ⟨running, heard⟩ | ⟨off, heard⟩
  · have down : ShuttingDown (apReset ({ s with started := false }.emit (.event .stopping))) :=
      shuttingDown_apReset live (by simpa [apReset_eq] using cleared) (by simp [heard]) (ownerView_told told _)
        fresh sound
    rw [if_pos running]
    exact shuttingDown_shutdownDelKey down ..
  · rw [if_neg (by simp [off])]
    exact shuttingDown_shutdownDelKey (shuttingDown_apReset live cleared (.inl heard) told fresh sound) ..

theorem released_apReset {s : State} (allowed : Allowed (events s.log)) : Released (apReset s).release :=
  ⟨rfl, rfl, rfl, rfl, by simpa [apReset_eq] using allowed⟩

theorem ownerCall_live {s : State} (live : s.freed = false) (call : Effect) (f : State → State) :
    ownerCall s call f = f (s.emit call) := by
  simp [ownerCall, live]

theorem ownerCall_freed {s : State} (freed : s.freed = true) (call : Effect) (f : State → State) :
    ownerCall s call f = { s.emit call with crashed := true } := by
  simp [ownerCall, freed]

theorem apIfaddr4AddedCb_cases (s : State) (error built sent : Bool) :
    (∃ t : State, apIfaddr4AddedCb s error built sent = apStartFailed t ∧ t.log = s.log) ∨
    apIfaddr4AddedCb s error built sent =
      { s with rtnlAddCmd := false, requests := s.requests ++ [⟨s.sent + 1, .startAp⟩],
               sent := s.sent + 1, startStopCmdId := s.sent + 1 } := by
  cases error <;> cases built <;> cases sent <;> first | exact .inl ⟨_, rfl, rfl⟩ | exact .inr rfl

theorem apStartCb_cases (s : State) (error dhcpStarted : Bool) :
    (∃ t : State, apStartCb s error dhcpStarted = apStartFailed t ∧ t.log = s.log) ∨
    apStartCb s error dhcpStarted = { s with startStopCmdId := 0, started := true }.emit (.event .started) := by
  unfold apStartCb
  dsimp only
  split
  · exact .inl ⟨_, rfl, rfl⟩
  · split
    · exact .inl ⟨_, rfl, rfl⟩
    · exact .inr rfl

theorem apMlmeNotify_pending {s : State} (cmdId : s.startStopCmdId ≠ 0) :
    apMlmeNotify s = apStartFailed { s.cancel s.startStopCmdId with startStopCmdId := 0 } := by
  simp only [apMlmeNotify, if_pos cmdId]
  rfl

theorem apMlmeNotify_started {s : State} (cmdId : s.startStopCmdId = 0) (started : s.started = true) :
    apMlmeNotify s = (apReset ({ s with started := false }.emit (.event .stopping))).release := by
  simp [apMlmeNotify, cmdId, started]

theorem apMlmeNotify_idle {s : State} (cmdId : s.startStopCmdId = 0) (notStarted : s.started = false) :
    apMlmeNotify s = (apReset s).release := by
  simp [apMlmeNotify, cmdId, notStarted]

theorem Settled.phase {s : State} (h : Settled s) : Phase s := by
  rcases h with ⟨-, h⟩ | ⟨h, -⟩
  · exact h
  · exact .released h

theorem Settled.told {s : State} (h : Settled s) (freed : s.freed = true) : ownerView s.log.tail ≠ .holds := by
  rcases h with ⟨live, -⟩ | ⟨-, told⟩
  · simp [live] at freed
  · exact told

/-! ### One input from each phase -/

theorem addressWait_runInput {s : State} (h : AddressWait s) (i : Input) :
    Settled (runInput s i) ∨ (i = .stopAp ∧ Released (runInput s i)) := by
  have stays : Settled s := .inl ⟨h.live, .addressWait h⟩
  cases i with
  | addressAdded error built sent =>
    simp only [runInput, h.rtnl, if_true]
    rcases apIfaddr4AddedCb_cases s error built sent with ⟨t, failed, log⟩ | started
    · exact .inl (.inr (failed ▸ apStartFailed_told (by simp [log, h.quiet])))
    · rw [started]
      exact .inl (.inl ⟨h.live, .starting ⟨rfl, by simp, by simp [h.noRequests], h.notStarted, h.live, h.quiet,
        h.fresh, h.sound⟩⟩)
  | reply id error dhcpStarted => simp [runInput, reply, h.noRequests, stays]
  | stopAp =>
    simp only [runInput]
    split
    · rw [apMlmeNotify_idle h.cmdId h.notStarted]
      exact .inr ⟨by trivial, released_apReset (by simp [h.quiet, Allowed])⟩
    · exact .inl stays
  | groupKeySet =>
    simp only [runInput]
    split
    · exact .inl stays
    · exact .inl (.inl ⟨h.live, .addressWait ⟨h.1, h.2, h.3, h.4, h.5, h.6, h.7, h.8⟩⟩)
  | shutdown f delKeySent stopSent =>
    have settled : Settled (apShutdown (s.emit (.shutdown f)) f delKeySent stopSent) :=
      apShutdown_settled (s.emit (.shutdown f)) h.live (by simp [apReset_eq, h.cmdId, h.noRequests])
        (.inr ⟨h.notStarted, by simp [h.quiet]⟩) (OwnerView.observe_ne_holds _ _ (by simp) (by simp))
        h.fresh h.sound ..
    simp only [runInput, h.quiet, ownerView_nil, if_true, ownerCall_live h.live]
    exact .inl settled
  | free =>
    simp only [runInput, h.quiet, ownerView_nil, ownerCall_live h.live]
    exact .inl (.inr (apFree_told (by simp [h.quiet, Allowed])))

theorem starting_runInput {s : State} (h : Starting s) (i : Input) : Settled (runInput s i) := by
  have stays : Settled s := .inl ⟨h.live, .starting h⟩
  cases i with
  | addressAdded => simp [runInput, h.rtnl, stays]
  | reply id error dhcpStarted =>
    by_cases same : s.startStopCmdId = id
    · subst same
      simp only [runInput, reply, h.startAp, List.find?, beq_self_eq_true]
      rcases apStartCb_cases (s.cancel s.startStopCmdId) error dhcpStarted with ⟨t, failed, log⟩ | started
      · rw [failed]
        exact .inr (apStartFailed_told (by simp [log, h.quiet]))
      · rw [started]
        exact .inl ⟨h.live, .running ⟨h.rtnl, rfl, by simp [h.startAp], rfl, h.live, by simp [h.quiet],
          h.fresh, h.sound⟩⟩
    · simp [runInput, reply, h.startAp, same, stays]
  | stopAp =>
    simp only [runInput]
    split
    · rw [apMlmeNotify_pending h.cmdId]
      exact .inr (apStartFailed_told (by simp [h.quiet]))
    · exact stays
  | groupKeySet =>
    simp only [runInput]
    split
    · exact stays
    · exact .inl ⟨h.live, .starting ⟨h.1, h.2, h.3, h.4, h.5, h.6, h.7, h.8⟩⟩
  | shutdown f delKeySent stopSent =>
    have settled : Settled (apShutdown (s.emit (.shutdown f)) f delKeySent stopSent) :=
      apShutdown_settled (s.emit (.shutdown f)) h.live (by simp [apReset_eq, h.cmdId, h.startAp])
        (.inr ⟨h.notStarted, by simp [h.quiet]⟩) (OwnerView.observe_ne_holds _ _ (by simp) (by simp))
        h.fresh h.sound ..
    simp only [runInput, h.quiet, ownerView_nil, if_true, ownerCall_live h.live]
    exact settled
  | free =>
    simp only [runInput, h.quiet, ownerView_nil, ownerCall_live h.live]
    exact .inr (apFree_told (by simp [h.quiet, Allowed]))

theorem running_runInput {s : State} (h : Running s) (i : Input) : Settled (runInput s i) := by
  have stays : Settled s := .inl ⟨h.live, .running h⟩
  cases i with
  | addressAdded => simp [runInput, h.rtnl, stays]
  | reply => simp [runInput, reply, h.noRequests, stays]
  | stopAp =>
    simp only [runInput]
    split
    · rw [apMlmeNotify_started h.cmdId h.isStarted]
      exact .inr (release_told rfl (by simp [apReset_eq, h.log, Allowed])
        (by simp [apReset_eq, h.log, OwnerView.observe]))
    · exact stays
  | groupKeySet =>
    simp only [runInput]
    split
    · exact stays
    · exact .inl ⟨h.live, .running ⟨h.1, h.2, h.3, h.4, h.5, h.6, h.7, h.8⟩⟩
  | shutdown f delKeySent stopSent =>
    have settled : Settled (apShutdown (s.emit (.shutdown f)) f delKeySent stopSent) :=
      apShutdown_settled (s.emit (.shutdown f)) h.live (by simp [apReset_eq, h.cmdId, h.noRequests])
        (.inl ⟨h.isStarted, by simp [h.log]⟩) (OwnerView.observe_ne_holds _ _ (by simp) (by simp))
        h.fresh h.sound ..
    simp only [runInput, h.log, ownerView_cons, ownerView_nil, OwnerView.observe_started, if_true,
      ownerCall_live h.live]
    exact settled
  | free =>
    simp only [runInput, h.log, ownerView_cons, ownerView_nil, OwnerView.observe_started, ownerCall_live h.live]
    exact .inr (apFree_told (by simp [h.log, Allowed]))

theorem shuttingDown_runInput {s : State} (h : ShuttingDown s) (i : Input) : Settled (runInput s i) := by
  have stays : Settled s := .inl ⟨h.live, .shuttingDown h⟩
  cases i with
  | addressAdded => simp [runInput, h.rtnl, stays]
  | reply id error dhcpStarted =>
    simp only [runInput, reply]
    split
    · exact stays
    · next r found =>
      have cancelled : ShuttingDown (s.cancel id) :=
        ⟨h.1, h.2, h.3, h.4, h.5, fun r held => h.noStartAp r (List.mem_of_mem_filter held), h.7, h.8, h.9⟩
      have stopped : ShuttingDown { s.cancel id with startStopCmdId := 0 } :=
        ⟨h.1, h.2, h.3, h.4, h.5, cancelled.6, h.7, h.8, h.9⟩
      cases callback : r.callback
      · exact absurd callback (h.noStartAp r (List.mem_of_find?_eq_some found))
      · exact .inr (shuttingDown_notifyStopped_release stopped _)
      · exact .inl ⟨h.live, .shuttingDown cancelled⟩
  | stopAp => simp [runInput, h.mlme, stays]
  | groupKeySet => simp [runInput, h.reset, stays]
  | shutdown => simp [runInput, h.told, stays]
  | free =>
    simp only [runInput]
    split
    · exact stays
    · rw [ownerCall_live h.live]
      exact .inr (apFree_told (Phase.shuttingDown h).allowed)

theorem released_runInput {s : State} (h : Released s) (i : Input) : Released (runInput s i) := by
  cases i with
  | addressAdded => simp [runInput, h.rtnl, h]
  | reply => simp [runInput, reply, h.noRequests, h]
  | stopAp => simp [runInput, h.mlme, h]
  | groupKeySet =>
    simp only [runInput]
    split
    · exact h
    · exact ⟨h.1, h.2, h.3, h.4, h.5⟩
  | shutdown f =>
    simp only [runInput]
    split
    · rw [ownerCall_freed h.freed]
      exact ⟨h.1, h.2, h.3, h.4, by simpa using h.5⟩
    · exact h
  | free =>
    simp only [runInput]
    split
    · exact h
    · rw [ownerCall_freed h.freed]
      exact ⟨h.1, h.2, h.3, h.4, by simpa using h.5⟩

/-! ### Every run -/

theorem phase_step {s : State} (h : Phase s) (i : Input) : Phase (step s i) := by
  unfold step
  split
  · exact h
  · cases h with
    | addressWait h =>
      rcases addressWait_runInput h i with settled | ⟨-, released⟩
      · exact settled.phase
      · exact .released released
    | starting h => exact (starting_runInput h i).phase
    | running h => exact (running_runInput h i).phase
    | shuttingDown h => exact (shuttingDown_runInput h i).phase
    | released h => exact .released (released_runInput h i)

theorem untold_release {s : State} (h : Phase s) (live : s.freed = false) (i : Input)
    (freed : (step s i).freed = true) (untold : ownerView (step s i).log.tail = .holds) :
    i = .stopAp ∧ AddressWait s := by
  by_cases crashed : s.crashed = true
  · simp [step, crashed, live] at freed
  · simp only [step, if_neg crashed] at freed untold
    cases h with
    | addressWait h =>
      rcases addressWait_runInput h i with settled | ⟨stop, -⟩
      · exact absurd untold (settled.told freed)
      · exact ⟨stop, h⟩
    | starting h => exact absurd untold ((starting_runInput h i).told freed)
    | running h => exact absurd untold ((running_runInput h i).told freed)
    | shuttingDown h => exact absurd untold ((shuttingDown_runInput h i).told freed)
    | released h => simp [h.freed] at live

theorem apStart_phase {e : StartEnv} {s : State} (h : apStart e = some s) : Phase s := by
  unfold apStart at h
  split at h
  · cases h
  · split at h
    · cases h
    · next waitOnAddress _ =>
      cases waitOnAddress <;> cases sent : e.startSent <;> simp [sent] at h
      · obtain ⟨-, -, rfl⟩ := h
        exact .starting ⟨rfl, by simp, rfl, rfl, rfl, rfl, rfl, rfl⟩
      all_goals obtain ⟨-, rfl⟩ := h
      all_goals exact .addressWait ⟨rfl, rfl, rfl, rfl, rfl, rfl, rfl, rfl⟩

theorem Reachable.phase {s : State} (h : Reachable s) : Phase s := by
  induction h with
  | start e started => exact apStart_phase started
  | step i _ ih => exact phase_step ih i

/-- `ap_start` with the address to come from the IP pool: the interface has none. -/
def poolStart : StartEnv := ⟨true, true, .ok true, true, true, true, true, true, true⟩

/-- The `ap_state` it returns, waiting for the RTM_NEWADDR reply. -/
def poolWaiting : State := ⟨true, 0, false, true, false, true, false, [], 0, false, false, false, []⟩

/-- The AP lifecycle does not always tell the owner. In every run from every `ap_state` that
`ap_start` returns, `handle_event` gets STARTED and START_FAILED at most once each and never
both, and STOPPING at most once and after STARTED. A live `ap_state` is freed before its owner
is told on one path only: a STOP_AP notification while `ap_start` waits for the RTM_NEWADDR
reply, where neither `start_stop_cmd_id` nor `started` is set. With the address taken from
the IP pool, that notification frees the `ap_state` with nothing said, and the owner's later
`ap_shutdown` runs on freed memory. -/
theorem ap_freed_during_address_wait :
    (∀ s, Reachable s → EventsConsistent (events s.log)) ∧
    (∀ s i, Reachable s → s.freed = false → (step s i).freed = true →
      ownerView (step s i).log.tail = .holds → i = .stopAp ∧ AddressWait s) ∧
    apStart poolStart = some poolWaiting ∧
    (step poolWaiting .stopAp).freed = true ∧
    (step poolWaiting .stopAp).log = [.released] ∧
    (step (step poolWaiting .stopAp) (.shutdown true true true)).crashed = true :=
  ⟨fun _ reachable => reachable.phase.allowed.consistent,
    fun _ i reachable live => untold_release reachable.phase live i, rfl, rfl, rfl, rfl⟩

/-- An owner that called `ap_shutdown` with a `stopped_func` and calls `ap_free` before it
runs, as the comment above `ap_shutdown` asks when its `user_data` goes first, makes
`ap_reset` run a second time, which frees `ap->rates` and the queues again. -/
theorem free_after_shutdown_resets_twice (s : State) (reachable : Reachable s) (live : s.freed = false)
    (awaits : ownerView s.log = .awaitsStopped) :
    (step s .free).crashed = true ∧ (step s .free).freed = true := by
  have down : ShuttingDown s := by
    cases reachable.phase with
    | addressWait h => simp [h.quiet] at awaits
    | starting h => simp [h.quiet] at awaits
    | running h => simp [h.log] at awaits
    | shuttingDown h => exact h
    | released h => simp [h.freed] at live
  simp [step, down.sound, runInput, awaits, ownerCall_live live, apFree, apReset_eq, down.reset]

theorem free_after_shutdown_resets_twice_pool :
    (step (step poolWaiting (.shutdown true true true)) .free).crashed = true ∧
    (step (step poolWaiting (.shutdown true true true)) .free).freed = true :=
  free_after_shutdown_resets_twice _ (.step _ (.start poolStart rfl)) rfl rfl

end Iwd.Ap.Lifecycle
