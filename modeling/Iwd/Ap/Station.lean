import Iwd.Ap.Pbc

/-!
One station's life after authentication: tearing down its handshake and its record,
`ap_del_station`, the RSNA and EAP-WSC handshakes with their event functions, and the
replies that carry it into State 3: the (Re)Association Response TX status, the
NEW_STATION / SET_STATION reply and the GET_KEY reply. A function that changes a
station returns it beside the AP state; the caller writes it back into the queue, or
drops it when the station is being freed.
-/

namespace Iwd.Ap

open Iwd.Netdev (Bytes Mac Ie Errno zeros)

/-- The events a station's handshake reports to its event function. `eapNotify` says
whether the notification is `EAP_WSC_EVENT_CREDENTIAL_SENT`. -/
inductive HandshakeEvent where
  | complete
  | failed (reason : ReasonCode)
  | settingKeysFailed
  | eapNotify (credentialSent : Bool)
  | other
  deriving DecidableEq, Repr

/-- `ap_stop_handshake`. -/
def apStopHandshake (sta : Station) : Station :=
  { sta with sm := false, hs := none, wscSettings := false, stopHandshakeWork := false }

/-- `ap_sta_free`. `assoc_resp_cmd_id` is a frame-xchg id, yet it is cancelled on the
nl80211 family, as the source does. -/
def apStaFree (s : ApState) (sta : Station) : ApState :=
  let s := if sta.assocRespCmdId ≠ 0 then s.cancel sta.assocRespCmdId else s
  if sta.gtkQueryCmdId ≠ 0 then s.cancel sta.gtkQueryCmdId else s

/-- `ap_remove_sta`. -/
def apRemoveSta (s : ApState) (sta : Station) : ApState :=
  if s.stations.any (·.handle == sta.handle) then
    apStaFree { s with stations := s.stations.eraseP (·.handle == sta.handle) } sta
  else s

/-- `ap_del_station`. -/
def apDelStation (s : ApState) (sta : Station) (reason : ReasonCode) (disassociate : Bool) :
    ApState × Station :=
  let s := s.emit (.delStation sta.addr reason disassociate)
  let sendEvent := sta.rsna
  let sta := { sta with associated := false, rsna := false }
  let (s, sta) :=
    if sta.gtkQueryCmdId ≠ 0 then (s.cancel sta.gtkQueryCmdId, { sta with gtkQueryCmdId := 0 })
    else (s, sta)
  let sta := apStopHandshake sta
  (if sendEvent then s.emit (.event (.stationRemoved sta.addr reason)) else s, sta)

/-- `ap_new_rsna`. -/
def apNewRsna (s : ApState) (sta : Station) : ApState × Station :=
  (s.emit (.event (.stationAdded sta.addr sta.assocIes)), { sta with rsna := true })

/-- `ap_drop_rsna`. -/
def apDropRsna (s : ApState) (sta : Station) : ApState × Station :=
  let s := (s.send (.setStationUnauthorized sta.addr (some sta.aid)) .logOnly).1
  let s := (s.send (.delKey sta.addr) .logOnly).1
  (s.emit (.event (.stationRemoved sta.addr .success)), apStopHandshake { sta with rsna := false })

/-- `ap_start_handshake`. `eapol_sm_new` allocates with `l_new` and does not fail. -/
def apStartHandshake (s : ApState) (sta : Station) (useEapolStart : Bool)
    (gtkRsc : Option Bytes) : ApState × Station :=
  (s.emit (.eapolStarted sta.addr sta.hs useEapolStart gtkRsc), { sta with sm := true })

/-- `ap_start_rsna`. -/
def apStartRsna (s : ApState) (sta : Station) (gtkRsc : Option Bytes) : ApState × Station :=
  apStartHandshake s { sta with hs := some .rsna } false gtkRsc

/-- `ap_start_eap_wsc`. -/
def apStartEapWsc (s : ApState) (sta : Station) : ApState × Station :=
  apStartHandshake s { sta with wscSettings := true, hs := some .wsc } (!sta.wscV2) none

/-- `ap_handshake_event`. -/
def apHandshakeEvent (s : ApState) (sta : Station) : HandshakeEvent → ApState
  | .complete => let (s, sta) := apNewRsna s sta; s.setSta sta
  | .failed reason => apRemoveSta (s.emit (.handshakeFailed sta.addr reason)) { sta with sm := false }
  | .settingKeysFailed => apRemoveSta s { sta with sm := false }
  | _ => s

/-- `ap_stop_handshake_schedule`. -/
def apStopHandshakeSchedule (sta : Station) : Station := { sta with stopHandshakeWork := true }

/-- `ap_wsc_handshake_event`. A delivered credential purges the enrollee's records with
`min_time` 0. -/
def apWscHandshakeEvent (s : ApState) (sta : Station) : HandshakeEvent → ApState
  | .failed _ => s.setSta (apStopHandshakeSchedule { sta with sm := false })
  | .eapNotify true =>
    { s with pbc.probes := expireRecords 0 sta.addr s.pbc.probes }.emit
      (.event (.registrationSuccess sta.addr))
  | _ => s

/-- `ap_gtk_query_cb`. -/
def apGtkQueryCb (s : ApState) (sta : Station) (err : Option Errno) (keySeq : Option Bytes) :
    ApState :=
  let sta := { sta with gtkQueryCmdId := 0 }
  match err with
  | some _ => let (s, sta) := apDelStation s sta .unspecified true; s.setSta sta
  | none => let (s, sta) := apStartRsna s sta (some (keySeq.getD (zeros 6))); s.setSta sta

/-- The group key setup of `ap_associate_sta_cb` for the first RSN station: NEW_KEY and
SET_KEY of GTK index 1. -/
def installGroupKey (cfg : Config) (s : ApState) : ApState :=
  match cfg.groupCipher with
  | .suite cipher =>
    if s.gtkSet then s
    else
      let s := (({ s with gtkIndex := 1 } : ApState).send (.newKeyGroup cipher 1) .logOnly).1
      { (s.send (.setKey 1) .logOnly).1 with gtkSet := true }
  | .noGroupTraffic => s

/-- `ap_associate_sta_cb`: the NEW_STATION or SET_STATION reply. -/
def apAssociateStaCb (cfg : Config) (s : ApState) (sta : Station) (err : Option Errno) :
    ApState :=
  if err.isSome then s
  else if sta.assocRsne.isNone then let (s, sta) := apStartEapWsc s sta; s.setSta sta
  else
    let s := installGroupKey cfg s
    match cfg.groupCipher with
    | .noGroupTraffic => let (s, sta) := apStartRsna s sta none; s.setSta sta
    | .suite _ =>
      let (s, id) := s.send (.getKey s.gtkIndex) (.gtkQuery sta.handle)
      s.setSta { sta with gtkQueryCmdId := id }

/-- `ap_associate_sta`: State 3, and NEW_STATION or SET_STATION with a reply nothing
tracks. -/
def apAssociateSta (s : ApState) (sta : Station) : ApState :=
  let rates := sta.rates.getD []
  let cmd : Cmd :=
    if sta.associated then .setStationAssociated sta.addr sta.aid rates sta.listenInterval sta.capability
    else .newStation sta.addr sta.aid rates sta.listenInterval sta.capability
  (s.send cmd (.associateSta sta.handle)).1.setSta { sta with associated := true, rsna := false }

/-- `ap_success_assoc_resp_cb`. -/
def apSuccessAssocRespCb (s : ApState) (sta : Station) (err : Option Errno) : ApState :=
  let sta := { sta with assocRespCmdId := 0 }
  match err with
  | some _ =>
    if sta.associated then let (s, sta) := apDelStation s sta .unspecified true; s.setSta sta
    else s.setSta sta
  | none => apAssociateSta s sta

/-- `ap_station_disconnect`. -/
def apStationDisconnect (s : ApState) (mac : Mac) (reason : ReasonCode) : Bool × ApState :=
  if !s.started then (false, s)
  else match s.findSta mac with
    | none => (false, s)
    | some sta =>
      let (s, sta) := apDelStation { s with stations := s.stations.eraseP (macEq ·.addr mac) } sta
        reason false
      (true, apStaFree s sta)

/-! None of these functions touches the PBC fields. -/

section Pbc

variable (s : ApState) (sta : Station)

@[simp] theorem apStaFree_pbc : (apStaFree s sta).pbc = s.pbc := by
  unfold apStaFree; split_ifs <;> rfl

@[simp] theorem apRemoveSta_pbc : (apRemoveSta s sta).pbc = s.pbc := by
  unfold apRemoveSta; split <;> simp

@[simp] theorem apDelStation_pbc (reason : ReasonCode) (disassociate : Bool) :
    (apDelStation s sta reason disassociate).1.pbc = s.pbc := by
  dsimp only [apDelStation]; split_ifs <;> rfl

@[simp] theorem apDropRsna_pbc : (apDropRsna s sta).1.pbc = s.pbc := rfl

@[simp] theorem apStartHandshake_pbc (useEapolStart : Bool) (gtkRsc : Option Bytes) :
    (apStartHandshake s sta useEapolStart gtkRsc).1.pbc = s.pbc := rfl

@[simp] theorem apHandshakeEvent_pbc (e : HandshakeEvent) : (apHandshakeEvent s sta e).pbc = s.pbc := by
  cases e <;> simp [apHandshakeEvent, apNewRsna]

@[simp] theorem apGtkQueryCb_pbc (err : Option Errno) (keySeq : Option Bytes) :
    (apGtkQueryCb s sta err keySeq).pbc = s.pbc := by
  unfold apGtkQueryCb; split <;> simp [apStartRsna]

@[simp] theorem installGroupKey_pbc (cfg : Config) : (installGroupKey cfg s).pbc = s.pbc := by
  unfold installGroupKey; split <;> (try split) <;> rfl

@[simp] theorem apAssociateStaCb_pbc (cfg : Config) (err : Option Errno) :
    (apAssociateStaCb cfg s sta err).pbc = s.pbc := by
  unfold apAssociateStaCb
  split_ifs
  · rfl
  · simp [apStartEapWsc]
  · split <;> simp [apStartRsna]

@[simp] theorem apAssociateSta_pbc : (apAssociateSta s sta).pbc = s.pbc := rfl

@[simp] theorem apSuccessAssocRespCb_pbc (err : Option Errno) :
    (apSuccessAssocRespCb s sta err).pbc = s.pbc := by
  unfold apSuccessAssocRespCb
  split
  · dsimp only; split_ifs <;> simp
  · simp

@[simp] theorem apStationDisconnect_pbc (mac : Mac) (reason : ReasonCode) :
    (apStationDisconnect s mac reason).2.pbc = s.pbc := by
  unfold apStationDisconnect
  split_ifs
  · rfl
  · split <;> simp

end Pbc

end Iwd.Ap
