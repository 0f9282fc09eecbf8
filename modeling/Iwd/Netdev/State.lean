import Iwd.Netdev.Types

/-!
The state the station side of netdev.c runs on: the `struct netdev` fields of a
connection, the nl80211 and rtnetlink requests in flight with the function each reply
runs, and what the owner observes. Calling back into the owner hands control over; what
netdev.c still has to do once the callback returns is kept as a stack of frames, so a
call the owner makes from inside a callback runs against the state it really sees.
-/

namespace Iwd.Netdev

/-- Identity of a function pointer or of a `user_data` the owner hands in. -/
abbrev Owner := Nat

/-- The nl80211 commands netdev.c sends, with the attributes the model keeps. -/
inductive Cmd where
  | connect (bssid : Mac) (ies : List Bytes)
  | deauthenticate (reason : ReasonCode) (aa : Mac)
  | authenticateFt (bssid : Mac) (ies : List Bytes)
  | associateFt (aa prevBssid : Mac) (ies : List Bytes)
  | newKeyPairwise (aa : Mac) (cipher : Cipher)
  | setKeyPairwise
  | newKeyGroup (cipher : Cipher) (keyIndex : Nat)
  | setStation (aa : Mac)
  | setRekeyOffload (replayCounter : Nat)
  | frame (dest : Mac) (body : Bytes)
  deriving DecidableEq, Repr

/-- The function a reply runs, as given to `l_genl_family_send`. -/
inductive Callback where
  | cmdConnect | connectFailed | cmdDeauthenticate | cmdAuthenticateFt | cmdFtReassociate
  | newPairwiseKey | setPairwiseKey | newGroupKey | newGroupManagementKey | setStation
  | hardwareRekey | neighborReportReq
  deriving DecidableEq, Repr

/-- A command in flight. -/
structure Request where
  id : Nat
  cmd : Cmd
  callback : Callback
  deriving DecidableEq, Repr

/-- The nl80211 family: requests awaiting their reply, the next id `l_genl_family_send`
hands out, and whether it accepts sends at all. Ids are never zero. -/
structure Genl where
  pending : List Request
  nextId : Nat
  up : Bool
  nextId_pos : 0 < nextId
  deriving DecidableEq

/-- The state machine of `struct eapol_sm`, as far as netdev.c drives it. -/
structure EapolSm where
  registered : Bool
  started : Bool
  deriving DecidableEq, Repr

/-- The calls of the netdev API the owner makes. -/
inductive Api where
  | connect | connectWsc | disconnect | fastTransition | neighborReportReq
  deriving DecidableEq, Repr

/-- What the owner and the kernel observe. -/
inductive Effect where
  | connectCb (cb : Owner) (result : NetdevResult) (data : Option Owner)
  | eventFilter (filter : Owner) (event : NetdevEvent) (data : Option Owner)
  | disconnectCb (cb : Owner) (success : Bool) (data : Option Owner)
  | neighborReportCb (cb : Owner) (err : Option Errno) (report : Bytes) (data : Option Owner)
  | sent (id : Nat) (cmd : Cmd)
  | setLink
  | replayCounter (aa : Mac) (counter : Bytes)
  | returned (api : Api) (err : Option Errno)
  deriving DecidableEq, Repr

end Iwd.Netdev

namespace Iwd

open Netdev in
/-- The `struct netdev` fields of the connection code. -/
structure Netdev where
  addr : Mac
  frequency : Nat
  eventFilter : Option Owner
  connectCb : Option Owner
  disconnectCb : Option Owner
  neighborReportCb : Option Owner
  userData : Option Owner
  sm : Option EapolSm
  handshake : Option Handshake
  pairwiseNewKeyCmdId : Nat
  pairwiseSetKeyCmdId : Nat
  groupNewKeyCmdId : Nat
  groupManagementNewKeyCmdId : Nat
  connectCmdId : Nat
  disconnectCmdId : Nat
  result : NetdevResult
  neighborReportTimeout : Bool
  prevBssid : Mac
  connected : Bool
  operational : Bool
  rekeyOffloadSupport : Bool
  inFt : Bool
  deriving DecidableEq, Repr

end Iwd

namespace Iwd.Netdev

/-- The value of NL80211_ATTR_CQM_RSSI_THRESHOLD_EVENT. -/
inductive RssiEvent where
  | low | high | other
  deriving DecidableEq, Repr

/-- One nested attribute of NL80211_ATTR_CQM, as `netdev_cqm_event` reads it. -/
inductive CqmItem where
  | beaconLoss
  | rssiThreshold (len : Nat) (event : RssiEvent)
  | other
  deriving DecidableEq, Repr

/-- What is left of a netdev.c function once the callback it made returns. -/
inductive Frame where
  | connectFree
  | neighborClear
  | connectFreeTail
  | connectFailedTail (cb filter data : Option Owner) (result : NetdevResult)
  | disconnectEventTail (byAp : Bool) (filter data : Option Owner)
  | clearConnectCb
  | disconnectTail (deauth : Cmd) (cb data : Option Owner)
  | setTkTail (aa : Mac) (cipher : Cipher)
  | ftConnectCb
  | registerSm
  | cqmLoop (rest : List CqmItem)
  deriving DecidableEq, Repr

/-- Everything the model runs on. `links` counts the RTM_SETLINK requests whose reply runs
`netdev_operstate_cb`; `stack` holds, innermost first, the frames of the functions waiting
for a callback to return; `crashed` records a NULL dereference. -/
structure World where
  netdev : Netdev
  genl : Genl
  links : Nat
  stack : List (List Frame)
  log : List Effect
  crashed : Bool
  deriving DecidableEq

/-- How far a netdev.c function got: to its end, or into a callback with `k` left to run. -/
inductive Yield where
  | done (w : World)
  | call (w : World) (k : List Frame)

namespace World

variable (w : World)

/-- Update the netdev fields. -/
def setNetdev (f : Netdev → Netdev) : World := { w with netdev := f w.netdev }

/-- Record an effect. -/
def emit (e : Effect) : World := { w with log := e :: w.log }

/-- `l_genl_family_send`: a fresh id when the family accepts the command, else `0`. -/
def send (cmd : Cmd) (callback : Callback) : World × Nat :=
  if w.genl.up then
    ({ w with
        genl := { w.genl with
          pending := w.genl.pending ++ [⟨w.genl.nextId, cmd, callback⟩]
          nextId := w.genl.nextId + 1
          nextId_pos := Nat.succ_pos _ }
        log := .sent w.genl.nextId cmd :: w.log }, w.genl.nextId)
  else (w, 0)

/-- `l_genl_family_cancel`: the reply of that request will not run; id `0` names none. -/
def cancel (id : Nat) : World :=
  if id = 0 then w
  else { w with genl := { w.genl with pending := w.genl.pending.filter (·.id != id) } }

/-- A NULL dereference: the daemon is gone. -/
def crash : World := { w with crashed := true }

@[simp] theorem setNetdev_netdev (f : Netdev → Netdev) : (w.setNetdev f).netdev = f w.netdev := rfl
@[simp] theorem setNetdev_genl (f : Netdev → Netdev) : (w.setNetdev f).genl = w.genl := rfl
@[simp] theorem setNetdev_stack (f : Netdev → Netdev) : (w.setNetdev f).stack = w.stack := rfl
@[simp] theorem setNetdev_log (f : Netdev → Netdev) : (w.setNetdev f).log = w.log := rfl
@[simp] theorem setNetdev_links (f : Netdev → Netdev) : (w.setNetdev f).links = w.links := rfl
@[simp] theorem setNetdev_crashed (f : Netdev → Netdev) :
    (w.setNetdev f).crashed = w.crashed := rfl
@[simp] theorem emit_netdev (e : Effect) : (w.emit e).netdev = w.netdev := rfl
@[simp] theorem emit_genl (e : Effect) : (w.emit e).genl = w.genl := rfl
@[simp] theorem emit_stack (e : Effect) : (w.emit e).stack = w.stack := rfl
@[simp] theorem emit_log (e : Effect) : (w.emit e).log = e :: w.log := rfl
@[simp] theorem emit_links (e : Effect) : (w.emit e).links = w.links := rfl
@[simp] theorem emit_crashed (e : Effect) : (w.emit e).crashed = w.crashed := rfl
@[simp] theorem send_netdev (cmd : Cmd) (cb : Callback) : (w.send cmd cb).1.netdev = w.netdev := by
  unfold send; split <;> rfl
@[simp] theorem send_stack (cmd : Cmd) (cb : Callback) : (w.send cmd cb).1.stack = w.stack := by
  unfold send; split <;> rfl
@[simp] theorem send_links (cmd : Cmd) (cb : Callback) : (w.send cmd cb).1.links = w.links := by
  unfold send; split <;> rfl
@[simp] theorem send_crashed (cmd : Cmd) (cb : Callback) :
    (w.send cmd cb).1.crashed = w.crashed := by
  unfold send; split <;> rfl
@[simp] theorem cancel_netdev (id : Nat) : (w.cancel id).netdev = w.netdev := by
  unfold cancel; split <;> rfl
@[simp] theorem cancel_stack (id : Nat) : (w.cancel id).stack = w.stack := by
  unfold cancel; split <;> rfl
@[simp] theorem cancel_log (id : Nat) : (w.cancel id).log = w.log := by
  unfold cancel; split <;> rfl
@[simp] theorem cancel_links (id : Nat) : (w.cancel id).links = w.links := by
  unfold cancel; split <;> rfl
@[simp] theorem cancel_crashed (id : Nat) : (w.cancel id).crashed = w.crashed := by
  unfold cancel; split <;> rfl
theorem sent_mem_send_log (cmd : Cmd) (cb : Callback) (accepted : (w.send cmd cb).2 ≠ 0) :
    Effect.sent (w.send cmd cb).2 cmd ∈ (w.send cmd cb).1.log := by
  unfold send at *
  split
  · exact List.mem_cons_self _ _
  · simp_all
theorem send_refused (cmd : Cmd) (cb : Callback) (refused : (w.send cmd cb).2 = 0) :
    (w.send cmd cb).1 = w := by
  unfold send at *
  split at refused
  · exact absurd refused w.genl.nextId_pos.ne'
  · simp_all
@[simp] theorem crash_netdev : w.crash.netdev = w.netdev := rfl
@[simp] theorem crash_genl : w.crash.genl = w.genl := rfl
@[simp] theorem crash_stack : w.crash.stack = w.stack := rfl
@[simp] theorem crash_log : w.crash.log = w.log := rfl
@[simp] theorem crash_links : w.crash.links = w.links := rfl
@[simp] theorem crash_crashed : w.crash.crashed = true := rfl

end World

/-- A netdev that has just appeared: no connection, nothing in flight. -/
def initial (addr : Mac) : Netdev where
  addr := addr
  frequency := 0
  eventFilter := none
  connectCb := none
  disconnectCb := none
  neighborReportCb := none
  userData := none
  sm := none
  handshake := none
  pairwiseNewKeyCmdId := 0
  pairwiseSetKeyCmdId := 0
  groupNewKeyCmdId := 0
  groupManagementNewKeyCmdId := 0
  connectCmdId := 0
  disconnectCmdId := 0
  result := .ok
  neighborReportTimeout := false
  prevBssid := []
  connected := false
  operational := false
  rekeyOffloadSupport := true
  inFt := false

/-- The world of a netdev that has just appeared. -/
def World.initial (addr : Mac) : World where
  netdev := Netdev.initial addr
  genl := ⟨[], 1, true, Nat.one_pos⟩
  links := 0
  stack := []
  log := []
  crashed := false

end Iwd.Netdev
