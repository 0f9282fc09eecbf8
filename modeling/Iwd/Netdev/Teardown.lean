import Iwd.Netdev.State

/-!
How a connection attempt ends in netdev.c: `netdev_connect_free`, the failure report of
`netdev_connect_failed`, the DEAUTHENTICATE that five failure exits send, the DISCONNECT
and beacon-loss notifications, and `netdev_disconnect`.
-/

namespace Iwd.Netdev

/-- Run `run` after `y`; when `y` stopped in a callback, `next` waits behind what it left. -/
def Yield.seq (y : Yield) (next : Frame) (run : World → Yield) : Yield :=
  match y with
  | .done w => run w
  | .call w k => .call w (k ++ [next])

/-- A finished function's world, or the world in the callback with its frames pushed. -/
def Yield.settle : Yield → World
  | .done w => w
  | .call w k => { w with stack := k :: w.stack }

/-- `netdev_build_cmd_deauthenticate`; it reads `handshake->aa`, so there is no command
without a handshake. -/
def netdevBuildCmdDeauthenticate (n : Netdev) (reason : ReasonCode) : Option Cmd :=
  n.handshake.map fun hs => .deauthenticate reason hs.aa

/-- The failure exit netdev.c repeats in `netdev_operstate_cb`, `netdev_setting_keys_failed`,
`netdev_handshake_failed`, `netdev_cmd_ft_reassociate_cb` and `netdev_authenticate_event`:
record `result`, then send a DEAUTHENTICATE whose reply runs `netdev_connect_failed`,
keeping its id in `disconnect_cmd_id`. -/
def deauthenticateWith (result : NetdevResult) (reason : ReasonCode) (w : World) : World :=
  let w := w.setNetdev ({ · with result := result })
  match netdevBuildCmdDeauthenticate w.netdev reason with
  | none => w.crash
  | some cmd =>
    let sent := w.send cmd .connectFailed
    sent.1.setNetdev ({ · with disconnectCmdId := sent.2 })

/-- `neighbor_report_cb = NULL; l_timeout_remove(neighbor_report_timeout)`. -/
def neighborClear (w : World) : World :=
  w.setNetdev ({ · with neighborReportCb := none, neighborReportTimeout := false })

/-- The end of `netdev_connect_free`: the attempt's flags and callbacks are cleared, the
tracked key commands cancelled, and `connect_cmd_id`, or failing it `disconnect_cmd_id`. -/
def connectFreeTail (w : World) : World :=
  let n := w.netdev
  let w := w.setNetdev fun n => { n with
    operational := false, connected := false, connectCb := none, eventFilter := none,
    userData := none, result := .ok, inFt := false, pairwiseNewKeyCmdId := 0,
    pairwiseSetKeyCmdId := 0, groupNewKeyCmdId := 0, groupManagementNewKeyCmdId := 0 }
  let w := (((w.cancel n.pairwiseNewKeyCmdId).cancel n.pairwiseSetKeyCmdId).cancel
    n.groupNewKeyCmdId).cancel n.groupManagementNewKeyCmdId
  if n.connectCmdId ≠ 0 then (w.cancel n.connectCmdId).setNetdev ({ · with connectCmdId := 0 })
  else if n.disconnectCmdId ≠ 0 then
    (w.cancel n.disconnectCmdId).setNetdev ({ · with disconnectCmdId := 0 })
  else w

section ConnectFreeTail

variable (w : World)

@[simp] theorem connectFreeTail_connected : (connectFreeTail w).netdev.connected = false := by
  dsimp only [connectFreeTail]; split_ifs <;> simp
@[simp] theorem connectFreeTail_operational : (connectFreeTail w).netdev.operational = false := by
  dsimp only [connectFreeTail]; split_ifs <;> simp
@[simp] theorem connectFreeTail_inFt : (connectFreeTail w).netdev.inFt = false := by
  dsimp only [connectFreeTail]; split_ifs <;> simp
@[simp] theorem connectFreeTail_connectCb : (connectFreeTail w).netdev.connectCb = none := by
  dsimp only [connectFreeTail]; split_ifs <;> simp
@[simp] theorem connectFreeTail_handshake :
    (connectFreeTail w).netdev.handshake = w.netdev.handshake := by
  dsimp only [connectFreeTail]; split_ifs <;> simp
@[simp] theorem connectFreeTail_log : (connectFreeTail w).log = w.log := by
  dsimp only [connectFreeTail]; split_ifs <;> simp
@[simp] theorem connectFreeTail_stack : (connectFreeTail w).stack = w.stack := by
  dsimp only [connectFreeTail]; split_ifs <;> simp
@[simp] theorem connectFreeTail_links : (connectFreeTail w).links = w.links := by
  dsimp only [connectFreeTail]; split_ifs <;> simp

end ConnectFreeTail

/-- `netdev_connect_free`: the state machine and handshake go first; a pending neighbour
report request is told -ENOTCONN before the rest is cleared. -/
def netdevConnectFree (w : World) : Yield :=
  let w := w.setNetdev ({ · with sm := none, handshake := none })
  match w.netdev.neighborReportCb with
  | some cb => .call (w.emit (.neighborReportCb cb (some .notconn) [] w.netdev.userData))
      [.neighborClear, .connectFreeTail]
  | none => .done (connectFreeTail w)

/-- The end of `netdev_connect_failed`, with the callbacks it saved before freeing. -/
def netdevConnectFailedTail (cb filter data : Option Owner) (result : NetdevResult)
    (w : World) : Yield :=
  match cb, filter with
  | some cb, _ => .call (w.emit (.connectCb cb result data)) []
  | none, some filter => .call (w.emit (.eventFilter filter .disconnectBySme data)) []
  | none, none => .done w

/-- `netdev_connect_failed`: saves `connect_cb`, `event_filter`, `user_data` and `result`,
frees the attempt, then reports through the saved callback (so that callback may start
a new attempt). -/
def netdevConnectFailed (w : World) : Yield :=
  let n := w.netdev
  (netdevConnectFree (w.setNetdev ({ · with disconnectCmdId := 0 }))).seq
    (.connectFailedTail n.connectCb n.eventFilter n.userData n.result)
    (netdevConnectFailedTail n.connectCb n.eventFilter n.userData n.result)

/-- The exit `netdev->result = result; netdev_connect_failed(NULL, netdev)`. -/
def failWith (result : NetdevResult) (w : World) : Yield :=
  netdevConnectFailed (w.setNetdev ({ · with result := result }))

/-- `netdev_lost_beacon`: the filter hears LOST_BEACON, then the attempt is freed. -/
def netdevLostBeacon (w : World) : Yield :=
  if !w.netdev.connected then .done w
  else match w.netdev.eventFilter with
    | some filter => .call (w.emit (.eventFilter filter .lostBeacon w.netdev.userData))
        [.connectFree]
    | none => netdevConnectFree w

/-- `netdev_rssi_threshold`. -/
def netdevRssiThreshold (event : RssiEvent) (w : World) : Yield :=
  if !w.netdev.connected then .done w
  else match event, w.netdev.eventFilter with
    | .low, some filter =>
      .call (w.emit (.eventFilter filter .rssiThresholdLow w.netdev.userData)) []
    | .high, some filter =>
      .call (w.emit (.eventFilter filter .rssiThresholdHigh w.netdev.userData)) []
    | _, _ => .done w

/-- The nested loop of `netdev_cqm_event`; each item may call back into the owner. -/
def netdevCqmLoop : List CqmItem → World → Yield
  | [], w => .done w
  | .beaconLoss :: rest, w => (netdevLostBeacon w).seq (.cqmLoop rest) (netdevCqmLoop rest)
  | .rssiThreshold len event :: rest, w =>
    if len ≠ 4 then netdevCqmLoop rest w
    else (netdevRssiThreshold event w).seq (.cqmLoop rest) (netdevCqmLoop rest)
  | .other :: rest, w => netdevCqmLoop rest w

/-- A top-level attribute of a NOTIFY_CQM message; `cqm none` is a nested attribute that
`l_genl_attr_recurse` rejects. -/
inductive CqmAttr where
  | cqm (items : Option (List CqmItem))
  | other
  deriving DecidableEq, Repr

/-- The nested items `netdev_cqm_event` visits, in order, up to a rejected nesting. -/
def cqmItems : List CqmAttr → List CqmItem
  | [] => []
  | .cqm none :: _ => []
  | .cqm (some items) :: rest => items ++ cqmItems rest
  | .other :: rest => cqmItems rest

/-- `netdev_cqm_event`. -/
def netdevCqmEvent (attrs : List CqmAttr) (w : World) : Yield :=
  netdevCqmLoop (cqmItems attrs) w

/-- An attribute of a DISCONNECT notification that `netdev_disconnect_event` acts on. -/
inductive DisconnectAttr where
  | disconnectedByAp
  | other
  deriving DecidableEq, Repr

/-- The end of `netdev_disconnect_event`, with the filter saved before freeing. -/
def netdevDisconnectEventTail (byAp : Bool) (filter data : Option Owner) (w : World) : Yield :=
  match byAp, filter with
  | true, some filter => .call (w.emit (.eventFilter filter .disconnectByAp data)) []
  | _, _ => .done w

/-- `netdev_disconnect_event`: ignored while a deauthentication is ours or a transition
runs; otherwise the attempt is freed and only a disconnect by the AP is reported. -/
def netdevDisconnectEvent (attrs : List DisconnectAttr) (w : World) : Yield :=
  let n := w.netdev
  if !n.connected || n.disconnectCmdId ≠ 0 || n.inFt then .done w
  else
    let byAp := attrs.contains .disconnectedByAp
    (netdevConnectFree w).seq (.disconnectEventTail byAp n.eventFilter n.userData)
      (netdevDisconnectEventTail byAp n.eventFilter n.userData)

/-- `netdev_cmd_deauthenticate_cb`, the reply to the DEAUTHENTICATE of `netdev_disconnect`. -/
def netdevCmdDeauthenticateCb (err : Option Errno) (w : World) : Yield :=
  let w := w.setNetdev ({ · with disconnectCmdId := 0 })
  match w.netdev.disconnectCb with
  | none => .done (w.setNetdev ({ · with userData := none }))
  | some cb =>
    let data := w.netdev.userData
    .call ((w.setNetdev ({ · with userData := none, disconnectCb := none })).emit
      (.disconnectCb cb err.isNone data)) []

/-- The end of `netdev_disconnect`, after the attempt was freed or failed: send the
DEAUTHENTICATE built beforehand and keep the disconnect callback. -/
def netdevDisconnectTail (deauth : Cmd) (cb data : Option Owner) (w : World) : Yield :=
  let sent := w.send deauth .cmdDeauthenticate
  let w := sent.1.setNetdev ({ · with disconnectCmdId := sent.2 })
  if sent.2 = 0 then .done (w.emit (.returned .disconnect (some .io)))
  else .done ((w.setNetdev ({ · with disconnectCb := cb, userData := data })).emit
    (.returned .disconnect none))

/-- `netdev_disconnect`: an attempt that is not yet operational fails with ABORTED, an
operational one is freed; then the DEAUTHENTICATE is sent. -/
def netdevDisconnect (cb data : Option Owner) (w : World) : Yield :=
  if !w.netdev.connected then .done (w.emit (.returned .disconnect (some .notconn)))
  else if w.netdev.disconnectCmdId ≠ 0 then
    .done (w.emit (.returned .disconnect (some .inprogress)))
  else match netdevBuildCmdDeauthenticate w.netdev .deauthLeaving with
    | none => .done w.crash
    | some deauth =>
      (if !w.netdev.operational then failWith .aborted w else netdevConnectFree w).seq
        (.disconnectTail deauth cb data) (netdevDisconnectTail deauth cb data)

end Iwd.Netdev
