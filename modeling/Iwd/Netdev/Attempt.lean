import Iwd.Netdev.Consistency

/-!
How a connection attempt ends, in runs of the netdev model. Each theorem here follows one
attempt from `netdev_connect` through the replies and notifications that decide its end,
and shows what the owner and the kernel see: which callbacks ran, which commands are
still in flight, and what the netdev fields hold afterwards.
-/

namespace Iwd.Netdev

theorem netdevConnectFree_of_no_report {w : World} (noReport : w.netdev.neighborReportCb = none) :
    netdevConnectFree w =
      .done (connectFreeTail (w.setNetdev ({ · with sm := none, handshake := none }))) := by
  simp [netdevConnectFree, noReport]

theorem netdevDisconnectEvent_forgets_connectCb (attrs : List DisconnectAttr) (w : World)
    (connected : w.netdev.connected = true) (ours : w.netdev.disconnectCmdId = 0)
    (settled : w.netdev.inFt = false) (noReport : w.netdev.neighborReportCb = none) :
    (netdevDisconnectEvent attrs w).world.netdev.connected = false ∧
    (netdevDisconnectEvent attrs w).world.netdev.connectCb = none ∧
    ((netdevDisconnectEvent attrs w).world.log = w.log ∨
      ∃ filter, (netdevDisconnectEvent attrs w).world.log =
        .eventFilter filter .disconnectByAp w.netdev.userData :: w.log) := by
  rw [netdevDisconnectEvent, if_neg (by simp [connected, ours, settled]),
    netdevConnectFree_of_no_report noReport]
  simp only [Yield.seq]
  unfold netdevDisconnectEventTail
  split <;> simp

/-- A station and the BSS it connects to. -/
def station : Mac := [2, 0, 0, 0, 0, 1]

def apBss : ScanBss := ⟨[2, 0, 0, 0, 0, 2], 2412, none, [0, 0, 0], false, rfl⟩

/-- A handshake with our RSNE, and one without. -/
def rsnHandshake : Handshake :=
  ⟨some [48, 2, 1, 0], none, none, none, [], [], [], [], [], [], [], [], .ccmp, .ccmp, .bip⟩

def openHandshake : Handshake := { rsnHandshake with ownIe := none }

/-- `netdev_connect` with event filter 1, `connect_cb` 2 and user data 3, its CONNECT
reply, and the return from the ASSOCIATING event. -/
def associating (hs : Handshake) : List Action :=
  [.call (.connect apBss hs (some 1) (some 2) (some 3)), .event (.reply 1 none), .ret]

/-- Then the association succeeds and, in an RSN, the 4-Way Handshake begins. -/
def associated (hs : Handshake) : List Action :=
  associating hs ++ [.event (.notify (.connect [.statusCode [0, 0]])), .ret]

/-- An attempt that a DISCONNECT notification ends during the 4-Way Handshake never hears
from `connect_cb`, though `netdev_connect` returned 0: the netdev is torn down, nothing is
left to run, and the callback is gone. -/
theorem disconnect_event_skips_connect_cb (c : Codec) :
    let w : World := run c (World.initial station)
      (associating rsnHandshake ++ [.event (.notify (.disconnect []))])
    w.log = [.eventFilter 1 .associating (some 3), .returned .connect none,
      .sent 1 (.connect apBss.addr [[48, 2, 1, 0]])] ∧
    w.netdev.connected = false ∧ w.netdev.connectCb = none ∧ w.stack = [] :=
  ⟨rfl, rfl, rfl, rfl⟩

/-- A CONNECT notification for an attempt that `netdev_disconnect` aborted reads the freed
handshake: whatever its attributes, `netdev_connect_event` dereferences NULL. -/
theorem late_connect_event_reads_freed_handshake (c : Codec) (attrs : List ConnectAttr) :
    let w : World := run c (World.initial station)
      [.call (.connect apBss rsnHandshake (some 1) (some 2) (some 3)),
        .call (.disconnect (some 4) (some 5)), .ret]
    w.netdev.connected = false ∧ w.netdev.handshake = none ∧ w.stack = [] ∧
      w.crashed = false ∧ (step c w (.event (.notify (.connect attrs)))).crashed = true :=
  ⟨rfl, rfl, rfl, rfl, rfl⟩

/-- The IGTK NEW_KEY fails after the group NEW_KEY succeeded: `netdev_setting_keys_failed`
runs and sends its DEAUTHENTICATE, but the SET_STATION the group key reply sent is not
cancelled; its reply and the RTM_SETLINK reply make the link operational and report OK
to `connect_cb`. -/
theorem key_failure_then_operational_ok :
    let w : World := run openCodec (World.initial station)
      (associated rsnHandshake ++
        [.event (.eapol (.setTk apBss.addr .ccmp)), .ret,
          .event (.eapol (.setGtk 1 16 .ccmp)), .event (.eapol (.setIgtk 4 16 .bip)),
          .event (.reply 2 none), .event (.reply 3 none), .event (.reply 4 none),
          .event (.reply 5 (some .io)), .event (.reply 6 none), .event (.linkReply true)])
    w.netdev.result = .keySettingFailed ∧ w.netdev.operational = true ∧
      w.log.head? = some (.connectCb 2 .ok (some 3)) ∧
      w.genl.pending = [⟨7, .deauthenticate .unspecified apBss.addr, .connectFailed⟩] := by
  decide

/-- The RTM_SETLINK reply of an attempt that a DISCONNECT notification ended arrives after
the next `netdev_connect`: it makes the new attempt operational and reports OK to its
`connect_cb` while that attempt's CONNECT is still in flight. -/
theorem stale_operstate_reply_completes_next_attempt :
    let w : World := run openCodec (World.initial station)
      (associating openHandshake ++
        [.event (.notify (.connect [.statusCode [0, 0]])), .event (.notify (.disconnect [])),
          .call (.connect apBss openHandshake (some 4) (some 5) (some 6)),
          .event (.linkReply true)])
    w.genl.pending = [⟨2, .connect apBss.addr [], .cmdConnect⟩] ∧
      w.netdev.operational = true ∧ w.log.head? = some (.connectCb 5 .ok (some 6)) := by
  decide

/-- A pairwise key with a cipher `netdev_set_tk` rejects, then a handshake failure: each
path sends its own DEAUTHENTICATE, and both are in flight at once. -/
theorem two_deauthenticates_in_flight :
    let w : World := run openCodec (World.initial station)
      (associated rsnHandshake ++
        [.event (.eapol (.setTk apBss.addr .wep40)), .ret,
          .event (.eapol (.handshakeFailed .unspecified))])
    w.genl.pending =
      [⟨2, .deauthenticate .unspecified apBss.addr, .connectFailed⟩,
        ⟨3, .deauthenticate .unspecified apBss.addr, .connectFailed⟩] := by
  decide

end Iwd.Netdev
