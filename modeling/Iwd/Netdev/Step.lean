import Iwd.Netdev.Neighbor

/-!
The event loop around the station side of netdev.c. The owner calls the API, from the
top level or from inside one of its callbacks, and returns from callbacks; the main loop
delivers nl80211 notifications and replies, RTM_SETLINK replies, the neighbour report
timeout and the calls of the EAPoL engine, one at a time and only when no callback is
running.
-/

namespace Iwd.Netdev

/-- The function a frame stands for. -/
def runFrame : Frame → World → Yield
  | .connectFree, w => netdevConnectFree w
  | .neighborClear, w => .done (neighborClear w)
  | .connectFreeTail, w => .done (connectFreeTail w)
  | .connectFailedTail cb filter data result, w => netdevConnectFailedTail cb filter data result w
  | .disconnectEventTail byAp filter data, w => netdevDisconnectEventTail byAp filter data w
  | .clearConnectCb, w => .done (clearConnectCb w)
  | .disconnectTail deauth cb data, w => netdevDisconnectTail deauth cb data w
  | .setTkTail aa cipher, w => .done (netdevSetTkTail aa cipher w)
  | .ftConnectCb, w => netdevFtConnectCb w
  | .registerSm, w => .done (registerSm w)
  | .cqmLoop rest, w => netdevCqmLoop rest w

/-- Run what was left when a callback returned, up to the next callback. -/
def resume : List Frame → World → World
  | [], w => w
  | f :: rest, w => match runFrame f w with
    | .done w => resume rest w
    | .call w k => { w with stack := (k ++ rest) :: w.stack }

/-- A call of the netdev API. -/
inductive Call where
  | connect (bss : ScanBss) (hs : Handshake) (filter cb data : Option Owner)
  | connectWsc (bss : ScanBss) (hs : Handshake) (filter cb data : Option Owner)
  | disconnect (cb data : Option Owner)
  | fastTransition (target : ScanBss) (cb : Option Owner) (snonce : Bytes)
  | neighborReportReq (cb : Option Owner)

/-- The API function a call runs. -/
def runCall (c : Codec) : Call → World → Yield
  | .connect bss hs filter cb data, w => .done (netdevConnect bss hs filter cb data w)
  | .connectWsc bss hs filter cb data, w => .done (netdevConnectWsc c bss hs filter cb data w)
  | .disconnect cb data, w => netdevDisconnect cb data w
  | .fastTransition target cb snonce, w => .done (netdevFastTransition c target cb snonce w)
  | .neighborReportReq cb, w => .done (netdevNeighborReportReq cb w)

/-- An nl80211 notification for this netdev: the MLME multicast group and unicast frames. -/
inductive Notify where
  | authenticate (attrs : List AuthAttr)
  | deauthenticate
  | associate
  | connect (attrs : List ConnectAttr)
  | disconnect (attrs : List DisconnectAttr)
  | notifyCqm (attrs : List CqmAttr)
  | setRekeyOffload (attrs : List RekeyAttr)
  | frame (frames : List Bytes)

/-- `netdev_mlme_notify` and `netdev_unicast_notify`. -/
def netdevNotify (c : Codec) : Notify → World → Yield
  | .authenticate attrs, w => netdevAuthenticateEvent c attrs w
  | .deauthenticate, w => .done w
  | .associate, w => .done w
  | .connect attrs, w => netdevConnectEvent c attrs w
  | .disconnect attrs, w => netdevDisconnectEvent attrs w
  | .notifyCqm attrs, w => netdevCqmEvent attrs w
  | .setRekeyOffload attrs, w => .done (netdevRekeyOffloadEvent attrs w)
  | .frame frames, w => netdevMgmtFrameEvent frames w

/-- The function a reply runs. -/
def runCallback : Callback → Option Errno → World → Yield
  | .cmdConnect, err, w => netdevCmdConnectCb err w
  | .connectFailed, _, w => netdevConnectFailed w
  | .cmdDeauthenticate, err, w => netdevCmdDeauthenticateCb err w
  | .cmdAuthenticateFt, err, w => netdevCmdAuthenticateFtCb err w
  | .cmdFtReassociate, err, w => .done (netdevCmdFtReassociateCb err w)
  | .newPairwiseKey, err, w => .done (netdevNewPairwiseKeyCb err w)
  | .setPairwiseKey, err, w => .done (netdevSetPairwiseKeyCb err w)
  | .newGroupKey, err, w => .done (netdevNewGroupKeyCb err w)
  | .newGroupManagementKey, err, w => .done (netdevNewGroupManagementKeyCb err w)
  | .setStation, err, w => .done (netdevSetStationCb err w)
  | .hardwareRekey, err, w => .done (hardwareRekeyCb err w)
  | .neighborReportReq, err, w => netdevNeighborReportReqCb err w

/-- The kernel answers request `id`: it leaves the family and its callback runs. -/
def genlReply (id : Nat) (err : Option Errno) (w : World) : Yield :=
  match w.genl.pending.find? (·.id == id) with
  | none => .done w
  | some r => runCallback r.callback err (w.cancel id)

/-- A call the EAPoL engine makes into netdev.c, through the functions `netdev_init`
registers with handshake.c and eapol.c. -/
inductive EapolCall where
  | setTk (aa : Mac) (cipher : Cipher)
  | setGtk (keyIndex keyLen : Nat) (cipher : Cipher)
  | setIgtk (keyIndex keyLen : Nat) (cipher : Cipher)
  | handshakeFailed (reason : ReasonCode)
  | setRekeyOffload (counter : Nat)

/-- The netdev.c function an EAPoL call runs. -/
def runEapol (c : Codec) : EapolCall → World → Yield
  | .setTk aa cipher, w => netdevSetTk aa cipher w
  | .setGtk keyIndex keyLen cipher, w => .done (netdevSetGtk c keyIndex keyLen cipher w)
  | .setIgtk keyIndex keyLen cipher, w => .done (netdevSetIgtk c keyIndex keyLen cipher w)
  | .handshakeFailed reason, w => .done (netdevHandshakeFailed reason w)
  | .setRekeyOffload counter, w => .done (netdevSetRekeyOffload counter w)

/-- The EAPoL engine runs for this netdev: its state machine is registered and started. -/
def eapolRunning (w : World) : Bool := w.netdev.sm == some ⟨true, true⟩

/-- What the main loop delivers. -/
inductive Event where
  | notify (n : Notify)
  | reply (id : Nat) (err : Option Errno)
  | linkReply (success : Bool)
  | eapol (call : EapolCall)
  | neighborTimeout
  | genlUp (up : Bool)

/-- The handler an event runs; a reply with nothing in flight, a timeout that is not
armed and an EAPoL call without a running state machine do nothing. -/
def runEvent (c : Codec) : Event → World → Yield
  | .notify n, w => netdevNotify c n w
  | .reply id err, w => genlReply id err w
  | .linkReply success, w =>
    if w.links = 0 then .done w else netdevOperstateCb success { w with links := w.links - 1 }
  | .eapol call, w => if eapolRunning w then runEapol c call w else .done w
  | .neighborTimeout, w =>
    if w.netdev.neighborReportTimeout then netdevNeighborReportTimeout w else .done w
  | .genlUp up, w => .done { w with genl := { w.genl with up := up } }

/-- A step of the owner or of the main loop. -/
inductive Action where
  | call (call : Call)
  | ret
  | event (e : Event)

/-- One step. After a NULL dereference nothing happens any more. -/
def step (c : Codec) (w : World) : Action → World
  | .call call => if w.crashed then w else (runCall c call w).settle
  | .ret => if w.crashed then w else match w.stack with
    | [] => w
    | k :: rest => resume k { w with stack := rest }
  | .event e => if w.crashed || !w.stack.isEmpty then w else (runEvent c e w).settle

/-- A run of actions. -/
def run (c : Codec) (w : World) (actions : List Action) : World := actions.foldl (step c) w

@[simp] theorem run_nil (c : Codec) (w : World) : run c w [] = w := rfl

@[simp] theorem run_cons (c : Codec) (w : World) (a : Action) (actions : List Action) :
    run c w (a :: actions) = run c (step c w a) actions := rfl

theorem run_append (c : Codec) (w : World) (xs ys : List Action) :
    run c w (xs ++ ys) = run c (run c w xs) ys := List.foldl_append _ _ _ _

/-- The worlds a netdev reaches from its creation. -/
inductive Reachable (c : Codec) : World → Prop
  | initial (addr : Mac) : Reachable c (World.initial addr)
  | step {w : World} (a : Action) : Reachable c w → Reachable c (step c w a)

theorem Reachable.run {c : Codec} {w : World} (h : Reachable c w) (actions : List Action) :
    Reachable c (run c w actions) := by
  induction actions generalizing w with
  | nil => exact h
  | cons a actions ih => exact ih (h.step a)

end Iwd.Netdev
