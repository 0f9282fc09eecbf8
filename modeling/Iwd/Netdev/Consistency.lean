import Iwd.Netdev.Step

/-!
What every step of the netdev model keeps. A netdev is operational, or in a transition,
only while it is connected; and while a transition is under way the handshake keeps the
Mobility Domain element that `netdev_fast_transition` wrote into it, until another
transition is accepted. Accepted transitions are counted off the log, which only grows.

Each function of netdev.c gets one lemma, `evolves_<function>`; the step and run lemmas
are assembled from them.
-/

namespace Iwd.Netdev

/-- The flags of a connection agree: `operational` and `in_ft` are only set while
`connected` is. -/
structure Consistent (n : Netdev) : Prop where
  operational_connected : n.operational = true → n.connected = true
  inFt_connected : n.inFt = true → n.connected = true

/-- While a transition is under way, the handshake, if there is one, carries MDE `e`. -/
def FtMde (e : Bytes) (n : Netdev) : Prop :=
  n.inFt = true → ∀ hs, n.handshake = some hs → hs.mde = some e

/-- The transitions accepted so far: the zero returns of `netdev_fast_transition`. -/
def ftStarts (w : World) : Nat := w.log.count (.returned .fastTransition none)

/-- What netdev.c may do between two worlds: accept transitions but never forget one, keep
the flags consistent, and keep the MDE of a transition under way unless it accepts
another transition. -/
structure Evolves (w w' : World) : Prop where
  ftStarts_le : ftStarts w ≤ ftStarts w'
  consistent : Consistent w.netdev → Consistent w'.netdev
  ftMde : ∀ e, Consistent w.netdev → FtMde e w.netdev → ftStarts w' = ftStarts w →
    FtMde e w'.netdev

/-- The world a netdev.c function stopped in, at its end or in a callback. -/
def Yield.world : Yield → World
  | .done w => w
  | .call w _ => w

@[simp] theorem Yield.world_done (w : World) : (Yield.done w).world = w := rfl
@[simp] theorem Yield.world_call (w : World) (k : List Frame) : (Yield.call w k).world = w := rfl

section Log

variable (w : World)

@[simp] theorem ftStarts_setNetdev (f : Netdev → Netdev) : ftStarts (w.setNetdev f) = ftStarts w :=
  rfl

@[simp] theorem ftStarts_cancel (id : Nat) : ftStarts (w.cancel id) = ftStarts w := by
  simp [ftStarts]

@[simp] theorem ftStarts_crash : ftStarts w.crash = ftStarts w := rfl

@[simp] theorem ftStarts_restoreSnonce (origSnonce : Bytes) : ftStarts (restoreSnonce origSnonce w) = ftStarts w :=
  rfl

@[simp] theorem ftStarts_send (cmd : Cmd) (cb : Callback) :
    ftStarts (w.send cmd cb).1 = ftStarts w := by
  unfold World.send; split <;> simp [ftStarts]

@[simp] theorem ftStarts_emit (e : Effect) :
    ftStarts (w.emit e) = ftStarts w + if e = .returned .fastTransition none then 1 else 0 := by
  simp only [ftStarts, World.emit_log, List.count_cons, beq_iff_eq]

@[simp] theorem ftStarts_stack (stack : List (List Frame)) :
    ftStarts { w with stack := stack } = ftStarts w := rfl

end Log

namespace Evolves

variable {w w' w'' : World}

theorem refl (w : World) : Evolves w w := ⟨le_rfl, id, fun _ _ h _ => h⟩

theorem trans (h : Evolves w w') (h' : Evolves w' w'') : Evolves w w'' where
  ftStarts_le := h.ftStarts_le.trans h'.ftStarts_le
  consistent := h'.consistent ∘ h.consistent
  ftMde e hc hm same := by
    have first : ftStarts w' = ftStarts w := by
      have := h'.ftStarts_le; have := h.ftStarts_le; omega
    exact h'.ftMde e (h.consistent hc) (h.ftMde e hc hm first) (by omega)

theorem of_keeps (starts : ftStarts w' = ftStarts w)
    (connected : w'.netdev.connected = w.netdev.connected)
    (operational : w'.netdev.operational = w.netdev.operational)
    (inFt : w'.netdev.inFt = w.netdev.inFt)
    (handshake : w'.netdev.handshake = w.netdev.handshake) : Evolves w w' where
  ftStarts_le := starts.ge
  consistent hc := ⟨by rw [operational, connected]; exact hc.1, by rw [inFt, connected]; exact hc.2⟩
  ftMde _ _ hm _ := by rw [FtMde, inFt, handshake]; exact hm

theorem of_idle (starts : ftStarts w' = ftStarts w) (operational : w'.netdev.operational = false)
    (inFt : w'.netdev.inFt = false) : Evolves w w' where
  ftStarts_le := starts.ge
  consistent _ := ⟨by simp [operational], by simp [inFt]⟩
  ftMde _ _ _ _ := by simp [FtMde, inFt]

theorem stack (h : Evolves w w') (s : List (List Frame)) : Evolves w { w' with stack := s } :=
  ⟨h.ftStarts_le, h.consistent, h.ftMde⟩

theorem guard {p : Prop} [Decidable p] {r : Bool} {x : World × Bool} (h : Evolves w x.1) :
    Evolves w (if p then (w, r) else x).1 := by
  split
  · exact refl w
  · exact h

end Evolves

theorem evolves_seq {w : World} {y : Yield} {next : Frame} {run : World → Yield}
    (hy : Evolves w y.world) (hrun : ∀ w', Evolves w' (run w').world) :
    Evolves w (y.seq next run).world := by
  cases y with
  | done w' => exact hy.trans (hrun w')
  | call w' k => exact hy

theorem evolves_settle {w : World} {y : Yield} (h : Evolves w y.world) : Evolves w y.settle := by
  cases y with
  | done => exact h
  | call w' k => exact h.stack _

section Functions

variable (w : World)

theorem evolves_quiet {w' : World} (starts : ftStarts w' = ftStarts w)
    (same : w'.netdev.connected = w.netdev.connected ∧ w'.netdev.operational = w.netdev.operational ∧
      w'.netdev.inFt = w.netdev.inFt ∧ w'.netdev.handshake = w.netdev.handshake) :
    Evolves w w' :=
  .of_keeps starts same.1 same.2.1 same.2.2.1 same.2.2.2

theorem evolves_deauthenticateWith (result : NetdevResult) (reason : ReasonCode) :
    Evolves w (deauthenticateWith result reason w) := by
  dsimp only [deauthenticateWith]
  split <;> exact evolves_quiet w (by simp) (by simp)

theorem evolves_neighborClear : Evolves w (neighborClear w) :=
  evolves_quiet w (by simp [neighborClear]) (by simp [neighborClear])

theorem evolves_connectFreeTail : Evolves w (connectFreeTail w) := by
  dsimp only [connectFreeTail]
  split_ifs <;> exact .of_idle (by simp) (by simp) (by simp)

theorem evolves_netdevConnectFree : Evolves w (netdevConnectFree w).world := by
  have free : Evolves w (w.setNetdev ({ · with sm := none, handshake := none })) :=
    ⟨by simp, fun hc => ⟨hc.1, hc.2⟩, fun _ _ _ _ _ _ none_eq => by simp at none_eq⟩
  dsimp only [netdevConnectFree]
  split
  · exact free.trans (evolves_quiet _ (by simp) (by simp))
  · exact free.trans (evolves_connectFreeTail _)

theorem evolves_netdevConnectFailedTail (cb filter data : Option Owner) (result : NetdevResult) :
    Evolves w (netdevConnectFailedTail cb filter data result w).world := by
  dsimp only [netdevConnectFailedTail]
  split <;> exact evolves_quiet w (by simp) (by simp)

theorem evolves_netdevConnectFailed : Evolves w (netdevConnectFailed w).world := by
  dsimp only [netdevConnectFailed]
  exact evolves_seq ((evolves_quiet w (by simp) (by simp)).trans (evolves_netdevConnectFree _))
    (evolves_netdevConnectFailedTail · _ _ _ _)

theorem evolves_failWith (result : NetdevResult) : Evolves w (failWith result w).world :=
  (evolves_quiet w (by simp) (by simp)).trans (evolves_netdevConnectFailed _)

theorem evolves_netdevLostBeacon : Evolves w (netdevLostBeacon w).world := by
  dsimp only [netdevLostBeacon]
  split
  · exact .refl w
  · split
    · exact evolves_quiet w (by simp) (by simp)
    · exact evolves_netdevConnectFree w

theorem evolves_netdevRssiThreshold (event : RssiEvent) :
    Evolves w (netdevRssiThreshold event w).world := by
  dsimp only [netdevRssiThreshold]
  split
  · exact .refl w
  · split <;> exact evolves_quiet w (by simp) (by simp)

theorem evolves_netdevCqmLoop (items : List CqmItem) : Evolves w (netdevCqmLoop items w).world := by
  induction items generalizing w with
  | nil => exact .refl w
  | cons item rest ih =>
    cases item with
    | beaconLoss => exact evolves_seq (evolves_netdevLostBeacon w) ih
    | rssiThreshold len event =>
      simp only [netdevCqmLoop]
      split
      · exact ih w
      · exact evolves_seq (evolves_netdevRssiThreshold w event) ih
    | other => exact ih w

theorem evolves_netdevDisconnectEventTail (byAp : Bool) (filter data : Option Owner) :
    Evolves w (netdevDisconnectEventTail byAp filter data w).world := by
  dsimp only [netdevDisconnectEventTail]
  split <;> exact evolves_quiet w (by simp) (by simp)

theorem evolves_netdevDisconnectEvent (attrs : List DisconnectAttr) :
    Evolves w (netdevDisconnectEvent attrs w).world := by
  dsimp only [netdevDisconnectEvent]
  split
  · exact .refl w
  · exact evolves_seq (evolves_netdevConnectFree w) (evolves_netdevDisconnectEventTail · _ _ _)

theorem evolves_netdevCmdDeauthenticateCb (err : Option Errno) :
    Evolves w (netdevCmdDeauthenticateCb err w).world := by
  dsimp only [netdevCmdDeauthenticateCb]
  split <;> exact evolves_quiet w (by simp) (by simp)

theorem evolves_netdevDisconnectTail (deauth : Cmd) (cb data : Option Owner) :
    Evolves w (netdevDisconnectTail deauth cb data w).world := by
  dsimp only [netdevDisconnectTail]
  split <;> exact evolves_quiet w (by simp) (by simp)

theorem evolves_netdevDisconnect (cb data : Option Owner) :
    Evolves w (netdevDisconnect cb data w).world := by
  dsimp only [netdevDisconnect]
  split
  · exact evolves_quiet w (by simp) (by simp)
  · split
    · exact evolves_quiet w (by simp) (by simp)
    · split
      · exact evolves_quiet w (by simp) (by simp)
      · refine evolves_seq ?_ (evolves_netdevDisconnectTail · _ _ _)
        split
        · exact evolves_failWith w _
        · exact evolves_netdevConnectFree w

theorem evolves_netdevSettingKeysFailed : Evolves w (netdevSettingKeysFailed w) := by
  dsimp only [netdevSettingKeysFailed]
  exact (evolves_quiet w (by simp) (by simp)).trans (evolves_deauthenticateWith _ _ _)

theorem evolves_keyCmdCb (slot : KeyCmd) (err : Option Errno) : Evolves w (keyCmdCb slot err w) := by
  dsimp only [keyCmdCb]
  split
  · exact (evolves_quiet w (by simp) (by simp)).trans (evolves_netdevSettingKeysFailed _)
  · exact evolves_quiet w (by simp) (by simp)

theorem evolves_netdevSetLinkmodeAndOperstate : Evolves w (netdevSetLinkmodeAndOperstate w) :=
  evolves_quiet w (by simp [netdevSetLinkmodeAndOperstate, ftStarts]) (by simp [netdevSetLinkmodeAndOperstate])

theorem evolves_netdevSetStationCb (err : Option Errno) : Evolves w (netdevSetStationCb err w) := by
  dsimp only [netdevSetStationCb]
  split
  · exact .refl w
  · split
    · exact evolves_netdevSettingKeysFailed w
    · exact evolves_netdevSetLinkmodeAndOperstate w

theorem evolves_netdevNewGroupKeyCb (err : Option Errno) :
    Evolves w (netdevNewGroupKeyCb err w) := by
  dsimp only [netdevNewGroupKeyCb]
  have cleared : Evolves w (w.setNetdev ({ · with groupNewKeyCmdId := 0 })) :=
    evolves_quiet w (by simp) (by simp)
  split
  · exact cleared.trans (evolves_netdevSettingKeysFailed _)
  · split
    · exact cleared.trans (evolves_quiet _ (by simp) (by simp))
    · split
      · exact cleared.trans (evolves_quiet _ (by simp) (by simp))
      · exact cleared.trans ((evolves_quiet _ (by simp) (by simp)).trans
          (evolves_netdevSettingKeysFailed _))

theorem evolves_installGroupKey (c : Codec) (accepts : Cipher → Bool) (slot : KeyCmd)
    (callback : Callback) (keyIndex keyLen : Nat) (cipher : Cipher) :
    Evolves w (installGroupKey c accepts slot callback keyIndex keyLen cipher w) := by
  dsimp only [installGroupKey]
  split
  · exact evolves_netdevSettingKeysFailed w
  · split
    · exact evolves_netdevSettingKeysFailed w
    · split
      · exact evolves_quiet w (by simp) (by simp)
      · exact (evolves_quiet w (by simp) (by simp)).trans (evolves_netdevSettingKeysFailed _)

theorem evolves_netdevSetGtk (c : Codec) (keyIndex keyLen : Nat) (cipher : Cipher) :
    Evolves w (netdevSetGtk c keyIndex keyLen cipher w) :=
  evolves_installGroupKey w c _ _ _ _ _ _

theorem evolves_netdevSetIgtk (c : Codec) (keyIndex keyLen : Nat) (cipher : Cipher) :
    Evolves w (netdevSetIgtk c keyIndex keyLen cipher w) :=
  evolves_installGroupKey w c _ _ _ _ _ _

theorem evolves_netdevSetTkTail (aa : Mac) (cipher : Cipher) :
    Evolves w (netdevSetTkTail aa cipher w) := by
  dsimp only [netdevSetTkTail]
  split
  · exact evolves_netdevSettingKeysFailed w
  · split
    · exact (evolves_quiet w (by simp) (by simp)).trans (evolves_netdevSettingKeysFailed _)
    · split
      · exact evolves_quiet w (by simp) (by simp)
      · exact (evolves_quiet w (by simp) (by simp)).trans (evolves_netdevSettingKeysFailed _)

theorem evolves_netdevSetTk (aa : Mac) (cipher : Cipher) :
    Evolves w (netdevSetTk aa cipher w).world := by
  dsimp only [netdevSetTk]
  split
  · exact evolves_quiet w (by simp) (by simp)
  · exact evolves_netdevSetTkTail w aa cipher

theorem evolves_reportConnected : Evolves w (reportConnected w).world := by
  dsimp only [reportConnected]
  split
  · exact evolves_quiet w (by simp) (by simp)
  · exact .refl w

theorem evolves_clearConnectCb : Evolves w (clearConnectCb w) :=
  evolves_quiet w (by simp [clearConnectCb]) (by simp [clearConnectCb])

theorem evolves_netdevOperstateCb (success : Bool) :
    Evolves w (netdevOperstateCb success w).world := by
  dsimp only [netdevOperstateCb]
  split
  · exact .refl w
  · next connected =>
    split
    · exact evolves_deauthenticateWith w _ _
    · have up : Evolves w (w.setNetdev ({ · with operational := true })) :=
        ⟨by simp, fun hc => ⟨fun _ => by simpa using connected, hc.2⟩, fun _ _ hm _ => hm⟩
      exact up.trans (evolves_reportConnected _)

theorem evolves_netdevHandshakeFailed (reason : ReasonCode) :
    Evolves w (netdevHandshakeFailed reason w) :=
  (evolves_quiet w (by simp) (by simp)).trans (evolves_deauthenticateWith _ _ _)

theorem evolves_hardwareRekeyCb (err : Option Errno) : Evolves w (hardwareRekeyCb err w) := by
  dsimp only [hardwareRekeyCb]
  split
  · exact evolves_quiet w (by simp) (by simp)
  · exact .refl w

theorem evolves_netdevSetRekeyOffload (counter : Nat) :
    Evolves w (netdevSetRekeyOffload counter w) := by
  dsimp only [netdevSetRekeyOffload]
  split
  · exact .refl w
  · exact evolves_quiet w (by simp) (by simp)

theorem evolves_netdevRekeyOffloadEvent (attrs : List RekeyAttr) :
    Evolves w (netdevRekeyOffloadEvent attrs w) := by
  induction attrs generalizing w with
  | nil => exact .refl w
  | cons attr rest ih =>
    cases attr with
    | other => exact ih w
    | rekeyData items =>
      cases items with
      | none => exact .refl w
      | some items =>
        simp only [netdevRekeyOffloadEvent]
        split
        · exact ih w
        · split
          · exact .refl w
          · split
            · exact evolves_quiet w (by simp) (by simp)
            · exact evolves_quiet w (by simp) (by simp)

theorem evolves_netdevConnectCommon (cmd : Cmd) (bss : ScanBss) (hs : Handshake)
    (sm : Option EapolSm) (filter cb data : Option Owner) (api : Api)
    (idle : w.netdev.connected = false) :
    Evolves w (netdevConnectCommon cmd bss hs sm filter cb data api w) := by
  dsimp only [netdevConnectCommon]
  split
  · exact evolves_quiet w (by simp) (by simp)
  · refine ⟨by simp, fun _ => ⟨fun _ => by simp, fun _ => by simp⟩, fun _ hc _ _ inFt => ?_⟩
    have := hc.inFt_connected (by simpa using inFt)
    simp [idle] at this

theorem evolves_netdevConnect (bss : ScanBss) (hs : Handshake) (filter cb data : Option Owner) :
    Evolves w (netdevConnect bss hs filter cb data w) := by
  dsimp only [netdevConnect]
  split
  · exact evolves_quiet w (by simp) (by simp)
  · next idle => exact evolves_netdevConnectCommon w _ _ _ _ _ _ _ _ (by simpa using idle)

theorem evolves_netdevConnectWsc (c : Codec) (bss : ScanBss) (hs : Handshake)
    (filter cb data : Option Owner) : Evolves w (netdevConnectWsc c bss hs filter cb data w) := by
  dsimp only [netdevConnectWsc]
  split
  · exact evolves_quiet w (by simp) (by simp)
  · next idle =>
    split
    · exact evolves_netdevConnectCommon w _ _ _ _ _ _ _ _ (by simpa using idle)
    · exact evolves_quiet w (by simp) (by simp)

theorem evolves_registerSm : Evolves w (registerSm w) :=
  evolves_quiet w (by simp [registerSm]) (by simp [registerSm])

theorem evolves_startSm : Evolves w (startSm w) :=
  evolves_quiet w (by simp [startSm]) (by simp [startSm])

theorem evolves_netdevCmdConnectCb (err : Option Errno) :
    Evolves w (netdevCmdConnectCb err w).world := by
  dsimp only [netdevCmdConnectCb]
  have cleared : Evolves w (w.setNetdev ({ · with connectCmdId := 0 })) :=
    evolves_quiet w (by simp) (by simp)
  split
  · split
    · exact cleared.trans (evolves_quiet _ (by simp) (by simp))
    · exact cleared.trans (evolves_registerSm _)
  · exact cleared.trans (evolves_failWith _ _)

theorem evolves_ftInstallGtk {c : Codec} {hs : Handshake} {gtk : Option FtKey} {w' : World}
    (h : ftInstallGtk c hs gtk w = some w') : Evolves w w' := by
  unfold ftInstallGtk at h
  split at h
  · cases h; exact .refl w
  · simp only [Option.bind_eq_some] at h
    obtain ⟨_, -, h⟩ := h
    split at h
    · cases h
    · cases h; exact evolves_netdevSetGtk w _ _ _ _

theorem evolves_ftInstallIgtk {c : Codec} {hs : Handshake} {igtk : Option FtKey} {w' : World}
    (h : ftInstallIgtk c hs igtk w = some w') : Evolves w w' := by
  unfold ftInstallIgtk at h
  split at h
  · cases h; exact .refl w
  · simp only [Option.map_eq_some'] at h
    obtain ⟨_, -, rfl⟩ := h
    exact evolves_netdevSetIgtk w _ _ _ _

theorem evolves_ftReassocFteOk (c : Codec) (hs : Handshake) (rsne : Option Ie) (fte : Ie)
    (info : FtInfo) : Evolves w (ftReassocFteOk c hs rsne fte info w).1 := by
  dsimp only [ftReassocFteOk]
  rcases c.fteMic hs 6 (rsne.map Ie.raw) fte.raw with _ | mic
  · exact .refl w
  refine .guard (.guard (.guard ?_))
  dsimp only
  rcases gtk : ftInstallGtk c hs info.gtk w with _ | w'
  · exact .refl w
  · dsimp only
    have installed := evolves_ftInstallGtk w gtk
    rcases igtk : ftInstallIgtk c hs info.igtk w' with _ | w''
    · exact installed
    · exact installed.trans (evolves_ftInstallIgtk w' igtk)

theorem evolves_mapHandshake (f : Handshake → Handshake) (mde : ∀ hs, (f hs).mde = hs.mde) :
    Evolves w (w.setNetdev fun n => { n with handshake := n.handshake.map f }) :=
  ⟨by simp, fun hc => ⟨hc.1, hc.2⟩, fun _ _ hm _ inFt hs h => by
    simp only [World.setNetdev_netdev, Option.map_eq_some'] at h
    obtain ⟨hs0, h0, rfl⟩ := h
    rw [mde]; exact hm inFt hs0 h0⟩

theorem evolves_ftInitialFteOk (fte : Ie) (info : FtInfo) :
    Evolves w (ftInitialFteOk fte info w).1 := by
  dsimp only [ftInitialFteOk]
  have stored := evolves_mapHandshake w ({ · with fte := fte.raw }) fun _ => rfl
  split
  · exact stored
  · exact stored.trans (evolves_mapHandshake _ _ fun _ => rfl)

theorem evolves_netdevHandleAssociateRespIes (c : Codec) (hs : Handshake)
    (rsne mde fte : Option Ie) (transition : Bool) :
    Evolves w (netdevHandleAssociateRespIes c hs rsne mde fte transition w).1 := by
  dsimp only [netdevHandleAssociateRespIes]
  refine .guard (.guard (.guard (.guard ?_)))
  rcases fte with _ | f
  · exact .refl w
  · dsimp only
    rcases c.parseFte f.raw with _ | info
    · exact .refl w
    · cases transition
      · exact evolves_ftInitialFteOk w _ _
      · exact evolves_ftReassocFteOk w _ _ _ _ _

theorem evolves_ftFinished (inFt : w.netdev.inFt = true) :
    Evolves w (w.setNetdev ({ · with inFt := false, operational := true })) :=
  ⟨by simp, fun hc => ⟨fun _ => hc.2 inFt, fun h => by simp at h⟩, fun _ _ _ _ h => by
    simp at h⟩

theorem evolves_connectEventAccepted (isRsn : Bool) :
    Evolves w (connectEventAccepted isRsn w).world := by
  dsimp only [connectEventAccepted]
  refine (evolves_startSm w).trans ?_
  split
  · next inFt =>
    refine (evolves_ftFinished _ inFt).trans ?_
    split
    · exact evolves_seq (evolves_netdevSetTk _ _ _) evolves_reportConnected
    · exact evolves_quiet _ (by simp) (by simp)
    · exact evolves_reportConnected _
  · split
    · split
      · exact evolves_quiet _ (by simp) (by simp)
      · exact .refl _
    · exact evolves_netdevSetLinkmodeAndOperstate _

theorem evolves_netdevConnectEvent (c : Codec) (attrs : List ConnectAttr) :
    Evolves w (netdevConnectEvent c attrs w).world := by
  dsimp only [netdevConnectEvent]
  split
  · exact evolves_quiet w (by simp) (by simp)
  · split
    · exact .refl w
    · split
      · exact evolves_failWith w _
      · split
        · exact evolves_failWith w _
        · split
          · exact evolves_failWith w _
          · split
            · exact (evolves_netdevHandleAssociateRespIes w _ _ _ _ _ _).trans
                (evolves_failWith _ _)
            · exact (evolves_netdevHandleAssociateRespIes w _ _ _ _ _ _).trans
                (evolves_connectEventAccepted _ _)

theorem evolves_netdevFastTransition (c : Codec) (target : ScanBss) (cb : Option Owner)
    (snonce : Bytes) : Evolves w (netdevFastTransition c target cb snonce w) := by
  dsimp only [netdevFastTransition]
  split
  · exact evolves_quiet w (by simp) (by simp)
  · next up =>
    split
    · exact evolves_quiet w (by simp) (by simp)
    · next hs current =>
      split
      · exact evolves_quiet w (by simp) (by simp)
      · split
        · exact evolves_quiet w (by simp) (by simp)
        · split
          · exact evolves_quiet w (by simp) (by simp [current])
          · split
            · next refused =>
              rw [World.send_refused _ _ _ refused]
              exact evolves_quiet w (by simp) (by simp [current])
            · refine ⟨by simp, fun hc => ⟨by simp, fun _ => ?_⟩, fun _ _ _ same => ?_⟩
              · simpa using hc.operational_connected (by simpa using up)
              · simp at same

theorem evolves_netdevCmdAuthenticateFtCb (err : Option Errno) :
    Evolves w (netdevCmdAuthenticateFtCb err w).world := by
  dsimp only [netdevCmdAuthenticateFtCb]
  split
  · exact (evolves_quiet w (by simp) (by simp)).trans (evolves_failWith _ _)
  · exact evolves_quiet w (by simp) (by simp)

theorem evolves_netdevCmdFtReassociateCb (err : Option Errno) :
    Evolves w (netdevCmdFtReassociateCb err w) := by
  dsimp only [netdevCmdFtReassociateCb]
  split
  · exact (evolves_quiet w (by simp) (by simp)).trans (evolves_deauthenticateWith _ _ _)
  · exact evolves_quiet w (by simp) (by simp)

theorem ftAuthFte_mde {c : Codec} {hs hs' : Handshake} {fte : Option Ie}
    (h : ftAuthFte c hs fte = some hs') : hs'.mde = hs.mde := by
  rw [ftAuthFte] at h
  by_cases rsn : hs.isRsn
  · rw [if_pos rsn, Option.bind_eq_some] at h
    obtain ⟨_, -, h⟩ := h
    obtain ⟨_, -, h⟩ := Option.bind_eq_some.mp h
    simp only [Option.ite_none_left_eq_some] at h
    rw [← Option.some_inj.mp h.2.2.2]
  · rw [if_neg rsn, Option.ite_none_left_eq_some] at h
    rw [← Option.some_inj.mp h.2]

theorem evolves_netdevAuthenticateResp (c : Codec) (hs : Handshake) (ies : Option (List Ie))
    (cur : w.netdev.handshake = some hs) : Evolves w (netdevAuthenticateResp c hs ies w) := by
  dsimp only [netdevAuthenticateResp, ftError]
  split
  · exact evolves_deauthenticateWith w _ _
  · split
    · exact evolves_deauthenticateWith w _ _
    · split
      · exact evolves_deauthenticateWith w _ _
      · exact evolves_quiet w (by simp) (by simp)
      · split
        · exact evolves_deauthenticateWith w _ _
        · split
          · exact evolves_deauthenticateWith w _ _
          · next hs' fte =>
            have adopt : Evolves w (w.setNetdev ({ · with handshake := some hs' })) :=
              ⟨by simp, fun hc => ⟨hc.1, hc.2⟩, fun _ _ hm _ inFt _ h => by
                simp only [World.setNetdev_netdev, Option.some.injEq] at h
                rw [← h, ftAuthFte_mde fte]; exact hm inFt hs cur⟩
            refine adopt.trans ?_
            split
            · exact evolves_quiet _ (by simp) (by simp)
            · exact evolves_deauthenticateWith _ _ _
            · split
              · exact (evolves_quiet _ (by simp) (by simp)).trans (evolves_deauthenticateWith _ _ _)
              · exact (evolves_quiet _ (by simp) (by simp)).trans (evolves_registerSm _)

theorem evolves_netdevAuthenticateEvent (c : Codec) (attrs : List AuthAttr) :
    Evolves w (netdevAuthenticateEvent c attrs w).world := by
  dsimp only [netdevAuthenticateEvent]
  split
  · exact evolves_quiet w (by simp) (by simp)
  · next hs cur =>
    split
    · exact .refl w
    · split
      · split
        · exact evolves_netdevAuthenticateResp w c hs _ cur
        · exact evolves_failWith w _
      · exact evolves_failWith w _

theorem evolves_netdevNeighborReportReq (cb : Option Owner) :
    Evolves w (netdevNeighborReportReq cb w) := by
  dsimp only [netdevNeighborReportReq]
  split
  · exact evolves_quiet w (by simp) (by simp)
  · split
    · exact evolves_quiet w (by simp) (by simp)
    · split <;> exact evolves_quiet w (by simp) (by simp)

theorem evolves_reportNeighbors (cb : Owner) (err : Option Errno) (report : Bytes) :
    Evolves w (reportNeighbors cb err report w).world :=
  evolves_quiet w (by simp [reportNeighbors]) (by simp [reportNeighbors])

theorem evolves_netdevNeighborReportReqCb (err : Option Errno) :
    Evolves w (netdevNeighborReportReqCb err w).world := by
  dsimp only [netdevNeighborReportReqCb]
  split
  · exact evolves_reportNeighbors w _ _ _
  · exact .refl w

theorem evolves_netdevNeighborReportTimeout : Evolves w (netdevNeighborReportTimeout w).world := by
  dsimp only [netdevNeighborReportTimeout]
  split
  · exact evolves_reportNeighbors w _ _ _
  · exact evolves_quiet w (by simp) (by simp)

theorem evolves_netdevMgmtFrameEvent (frames : List Bytes) :
    Evolves w (netdevMgmtFrameEvent frames w).world := by
  dsimp only [netdevMgmtFrameEvent, netdevActionFrameEvent, netdevRadioMeasurementFrameEvent]
  repeat' split
  all_goals first | exact .refl w | exact evolves_reportNeighbors w _ _ _

end Functions

section Step

variable (c : Codec) (w : World)

theorem evolves_runFrame (f : Frame) : Evolves w (runFrame f w).world := by
  cases f with
  | connectFree => exact evolves_netdevConnectFree w
  | neighborClear => exact evolves_neighborClear w
  | connectFreeTail => exact evolves_connectFreeTail w
  | connectFailedTail cb filter data result => exact evolves_netdevConnectFailedTail w _ _ _ _
  | disconnectEventTail byAp filter data => exact evolves_netdevDisconnectEventTail w _ _ _
  | clearConnectCb => exact evolves_clearConnectCb w
  | disconnectTail deauth cb data => exact evolves_netdevDisconnectTail w _ _ _
  | setTkTail aa cipher => exact evolves_netdevSetTkTail w _ _
  | ftConnectCb => exact evolves_reportConnected w
  | registerSm => exact evolves_registerSm w
  | cqmLoop rest => exact evolves_netdevCqmLoop w rest

theorem evolves_resume (k : List Frame) : Evolves w (resume k w) := by
  induction k generalizing w with
  | nil => exact .refl w
  | cons f rest ih =>
    have frame := evolves_runFrame w f
    simp only [resume]
    split
    · next w' done => rw [done] at frame; exact frame.trans (ih w')
    · next w' k called => rw [called] at frame; exact frame.stack _

theorem evolves_runCall (call : Call) : Evolves w (runCall c call w).world := by
  cases call with
  | connect bss hs filter cb data => exact evolves_netdevConnect w _ _ _ _ _
  | connectWsc bss hs filter cb data => exact evolves_netdevConnectWsc w _ _ _ _ _ _
  | disconnect cb data => exact evolves_netdevDisconnect w _ _
  | fastTransition target cb snonce => exact evolves_netdevFastTransition w _ _ _ _
  | neighborReportReq cb => exact evolves_netdevNeighborReportReq w _

theorem evolves_runCallback (callback : Callback) (err : Option Errno) :
    Evolves w (runCallback callback err w).world := by
  cases callback with
  | cmdConnect => exact evolves_netdevCmdConnectCb w err
  | connectFailed => exact evolves_netdevConnectFailed w
  | cmdDeauthenticate => exact evolves_netdevCmdDeauthenticateCb w err
  | cmdAuthenticateFt => exact evolves_netdevCmdAuthenticateFtCb w err
  | cmdFtReassociate => exact evolves_netdevCmdFtReassociateCb w err
  | newPairwiseKey => exact evolves_keyCmdCb w _ err
  | setPairwiseKey => exact evolves_keyCmdCb w _ err
  | newGroupKey => exact evolves_netdevNewGroupKeyCb w err
  | newGroupManagementKey => exact evolves_keyCmdCb w _ err
  | setStation => exact evolves_netdevSetStationCb w err
  | hardwareRekey => exact evolves_hardwareRekeyCb w err
  | neighborReportReq => exact evolves_netdevNeighborReportReqCb w err

theorem evolves_genlReply (id : Nat) (err : Option Errno) : Evolves w (genlReply id err w).world := by
  dsimp only [genlReply]
  split
  · exact .refl w
  · exact (evolves_quiet w (by simp) (by simp)).trans (evolves_runCallback _ _ _)

theorem evolves_netdevNotify (n : Notify) : Evolves w (netdevNotify c n w).world := by
  cases n with
  | authenticate attrs => exact evolves_netdevAuthenticateEvent w c attrs
  | deauthenticate => exact .refl w
  | associate => exact .refl w
  | connect attrs => exact evolves_netdevConnectEvent w c attrs
  | disconnect attrs => exact evolves_netdevDisconnectEvent w attrs
  | notifyCqm attrs => exact evolves_netdevCqmLoop w _
  | setRekeyOffload attrs => exact evolves_netdevRekeyOffloadEvent w attrs
  | frame frames => exact evolves_netdevMgmtFrameEvent w frames

theorem evolves_runEapol (call : EapolCall) : Evolves w (runEapol c call w).world := by
  cases call with
  | setTk aa cipher => exact evolves_netdevSetTk w aa cipher
  | setGtk keyIndex keyLen cipher => exact evolves_netdevSetGtk w c keyIndex keyLen cipher
  | setIgtk keyIndex keyLen cipher => exact evolves_netdevSetIgtk w c keyIndex keyLen cipher
  | handshakeFailed reason => exact evolves_netdevHandshakeFailed w reason
  | setRekeyOffload counter => exact evolves_netdevSetRekeyOffload w counter

theorem evolves_runEvent (e : Event) : Evolves w (runEvent c e w).world := by
  cases e with
  | notify n => exact evolves_netdevNotify c w n
  | reply id err => exact evolves_genlReply w id err
  | linkReply success =>
    dsimp only [runEvent]
    split
    · exact .refl w
    · have counted : Evolves w { w with links := w.links - 1 } :=
        evolves_quiet w rfl ⟨rfl, rfl, rfl, rfl⟩
      exact counted.trans (evolves_netdevOperstateCb _ _)
  | eapol call =>
    dsimp only [runEvent]
    split
    · exact evolves_runEapol c w call
    · exact .refl w
  | neighborTimeout =>
    dsimp only [runEvent]
    split
    · exact evolves_netdevNeighborReportTimeout w
    · exact .refl w
  | genlUp up => exact evolves_quiet w rfl ⟨rfl, rfl, rfl, rfl⟩

theorem evolves_step (a : Action) : Evolves w (step c w a) := by
  cases a with
  | call call =>
    dsimp only [step]
    split
    · exact .refl w
    · exact evolves_settle (evolves_runCall c w call)
  | ret =>
    dsimp only [step]
    split
    · exact .refl w
    · split
      · exact .refl w
      · exact ((Evolves.refl w).stack _).trans (evolves_resume _ _)
  | event e =>
    dsimp only [step]
    split
    · exact .refl w
    · exact evolves_settle (evolves_runEvent c w e)

theorem evolves_run (actions : List Action) : Evolves w (run c w actions) := by
  induction actions generalizing w with
  | nil => exact .refl w
  | cons a actions ih => exact (evolves_step c w a).trans (ih _)

end Step

theorem Reachable.consistent {c : Codec} {w : World} (h : Reachable c w) : Consistent w.netdev := by
  induction h with
  | initial addr => exact ⟨(nomatch ·), (nomatch ·)⟩
  | step a _ ih => exact (evolves_step _ _ a).consistent ih

end Iwd.Netdev
