import Iwd.Ap.Types

/-!
The state the soft-AP handlers run on: `struct ap_state` with its station queue and PBC
probe records, the nl80211 requests and management frames in flight with the function
each reply or TX status runs, and what the owner and the kernel observe. A callback
holds a station by its allocation; a station is alive exactly while it is in
`ap->sta_states`, since every path that takes one out of the queue frees it.
-/

namespace Iwd.Ap

open Iwd.Netdev (Bytes Mac Ie Errno Cipher memEq zeros)

/-- `memcmp(a, b, 6) == 0` on two addresses. -/
def macEq (a b : Mac) : Bool := memEq a b 6

/-- The nl80211 commands ap.c sends, with the attributes the model keeps. -/
inductive Cmd where
  | newStation (addr : Mac) (aid : UInt16) (rates : List Nat) (listenInterval capability : UInt16)
  | setStationAssociated (addr : Mac) (aid : UInt16) (rates : List Nat)
      (listenInterval capability : UInt16)
  | setStationUnauthorized (addr : Mac) (aid : Option UInt16)
  | newKeyGroup (cipher : Cipher) (keyIndex : UInt8)
  | setKey (keyIndex : UInt8)
  | getKey (keyIndex : UInt8)
  | delKey (addr : Mac)
  | setBeacon (selectedRegistrar : Bool) (devicePasswordId : UInt16)
  deriving DecidableEq, Repr

/-- The function a reply runs. `logOnly` stands for `ap_set_sta_cb`, `ap_del_key_cb`,
`ap_gtk_op_cb` and `ap_set_beacon_cb`, which only log an error. -/
inductive Callback where
  | associateSta (sta : Nat)
  | gtkQuery (sta : Nat)
  | logOnly
  deriving DecidableEq, Repr

/-- A command in flight. -/
structure Request where
  id : Nat
  cmd : Cmd
  callback : Callback
  deriving DecidableEq, Repr

/-- The management frames ap.c transmits through frame-xchg. -/
inductive MgmtFrame where
  | authReply (dest : Mac) (status : ReasonCode)
  | assocResp (dest : Mac) (status : ReasonCode) (aid : UInt16) (reassoc : Bool)
  | probeResp (dest : Mac) (selectedRegistrar : Bool)
  deriving DecidableEq, Repr

/-- The function a TX status runs. `logOnly` stands for `ap_fail_assoc_resp_cb`,
`ap_auth_reply_cb` and `ap_probe_resp_cb`. -/
inductive FrameCallback where
  | successAssocResp (sta : Nat)
  | logOnly
  deriving DecidableEq, Repr

/-- A frame awaiting its TX status. -/
structure FrameRequest where
  id : Nat
  frame : MgmtFrame
  callback : FrameCallback
  deriving DecidableEq, Repr

/-- `enum ap_event_type` with its event data. `stationRemoved` from `ap_drop_rsna` has the
zeroed reason, `success`. -/
inductive ApEvent where
  | stationAdded (mac : Mac) (assocIes : Option (List Ie))
  | stationRemoved (mac : Mac) (reason : ReasonCode)
  | registrationStart (mac : Mac) (assocIes : List Ie)
  | registrationSuccess (mac : Mac)
  | pbcModeExit
  deriving DecidableEq

/-- What the owner and the kernel observe. -/
inductive Effect where
  | event (e : ApEvent)
  | sent (id : Nat) (cmd : Cmd)
  | frameSent (id : Nat) (frame : MgmtFrame)
  /-- `netdev_del_station`, of the netdev API ap.c was written against. -/
  | delStation (addr : Mac) (reason : ReasonCode) (disassociate : Bool)
  /-- `netdev_handshake_failed(sta->hs, reason)`, of the same API. -/
  | handshakeFailed (addr : Mac) (reason : ReasonCode)
  /-- `eapol_register` and `eapol_start` on a new state machine. -/
  | eapolStarted (addr : Mac) (hs : Option HsKind) (useEapolStart : Bool) (gtkRsc : Option Bytes)
  /-- The return value of an API call. -/
  | returned (ok : Bool)
  deriving DecidableEq

/-- The WSC push-button fields of `struct ap_state`. -/
structure Pbc where
  /-- `ap->wsc_pbc_probes`. -/
  probes : List PbcRecord
  /-- `ap->wsc_pbc_timeout != NULL`: active PBC mode. -/
  active : Bool
  /-- `ap->wsc_dpid`. -/
  dpid : UInt16
  deriving DecidableEq, Repr

/-- `struct ap_state` as the station and PBC handlers use it. -/
structure ApState where
  started : Bool
  stations : List Station
  lastAid : UInt16
  pbc : Pbc
  gtkSet : Bool
  gtkIndex : UInt8
  nextHandle : Nat
  pending : List Request
  nextId : Nat
  frames : List FrameRequest
  nextFrameId : Nat
  log : List Effect
  /-- A callback ran on a freed station. -/
  crashed : Bool

/-- The AP once `ap_start_cb` has set `started`. -/
def ApState.initial : ApState :=
  ⟨true, [], 0, ⟨[], false, 0⟩, false, 0, 1, [], 1, [], 1, [], false⟩

namespace ApState

variable (s : ApState)

/-- `l_genl_family_send`, which the model lets succeed. -/
def send (cmd : Cmd) (cb : Callback) : ApState × Nat :=
  ({ s with
      pending := s.pending ++ [⟨s.nextId, cmd, cb⟩]
      nextId := s.nextId + 1
      log := .sent s.nextId cmd :: s.log }, s.nextId)

/-- `l_genl_family_cancel`: the reply of `id`, if still awaited, is dropped. -/
def cancel (id : Nat) : ApState := { s with pending := s.pending.filter (·.id != id) }

/-- `frame_xchg_start`, which the model lets succeed. -/
def sendFrame (frame : MgmtFrame) (cb : FrameCallback) : ApState × Nat :=
  ({ s with
      frames := s.frames ++ [⟨s.nextFrameId, frame, cb⟩]
      nextFrameId := s.nextFrameId + 1
      log := .frameSent s.nextFrameId frame :: s.log }, s.nextFrameId)

def emit (e : Effect) : ApState := { s with log := e :: s.log }

/-- Write a station back into the queue, at its place. -/
def setSta (sta : Station) : ApState :=
  { s with stations := s.stations.map fun t => if t.handle = sta.handle then sta else t }

/-- `l_queue_find(ap->sta_states, ap_sta_match_addr, addr)`. -/
def findSta (addr : Mac) : Option Station := s.stations.find? (macEq ·.addr addr)

/-- The station a callback's `user_data` points to, while it is alive. -/
def staOf (handle : Nat) : Option Station := s.stations.find? (·.handle == handle)

def crash : ApState := { s with crashed := true }

@[simp] theorem send_pbc (cmd : Cmd) (cb : Callback) : (s.send cmd cb).1.pbc = s.pbc := rfl
@[simp] theorem cancel_pbc (id : Nat) : (s.cancel id).pbc = s.pbc := rfl
@[simp] theorem sendFrame_pbc (f : MgmtFrame) (cb : FrameCallback) :
    (s.sendFrame f cb).1.pbc = s.pbc := rfl
@[simp] theorem emit_pbc (e : Effect) : (s.emit e).pbc = s.pbc := rfl
@[simp] theorem setSta_pbc (sta : Station) : (s.setSta sta).pbc = s.pbc := rfl
@[simp] theorem crash_pbc : s.crash.pbc = s.pbc := rfl
@[simp] theorem emit_log (e : Effect) : (s.emit e).log = e :: s.log := rfl
@[simp] theorem send_log (cmd : Cmd) (cb : Callback) :
    (s.send cmd cb).1.log = .sent s.nextId cmd :: s.log := rfl
@[simp] theorem sendFrame_log (f : MgmtFrame) (cb : FrameCallback) :
    (s.sendFrame f cb).1.log = .frameSent s.nextFrameId f :: s.log := rfl
@[simp] theorem cancel_log (id : Nat) : (s.cancel id).log = s.log := rfl
@[simp] theorem setSta_log (sta : Station) : (s.setSta sta).log = s.log := rfl

end ApState

end Iwd.Ap
