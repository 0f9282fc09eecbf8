import Iwd.Ap.Station

/-!
The handlers of received management frames and of the kernel's NEW_STATION and
DEL_STATION notifications: Probe Request (with the PBC probe records and the session
overlap exit), Authentication, (Re)Association Request with its parse-and-validate loop,
Disassociation and Deauthentication. A frame's body is given as the elements
`ie_tlv_iter_next` yields from it.
-/

namespace Iwd.Ap

open Iwd.Netdev (Bytes Mac Ie memEq zeros ieTypeRsn)

/-- The three addresses of `struct mmpdu_header`. -/
structure Header where
  /-- `address_1`, the DA. -/
  addr1 : Mac
  /-- `address_2`, the SA. -/
  addr2 : Mac
  /-- `address_3`, the BSSID. -/
  addr3 : Mac
  deriving DecidableEq, Repr

/-- Modelled from the spec: `util_is_broadcast_address` (util.c is not among the
sources), the address ff:ff:ff:ff:ff:ff. -/
def utilIsBroadcastAddress (addr : Mac) : Bool := macEq addr (List.replicate 6 0xff)

/-- Whether a frame is addressed to this BSS, the test every handler but the probe's
starts with. -/
def toBss (cfg : Config) (hdr : Header) : Bool := macEq hdr.addr1 cfg.bssid && macEq hdr.addr3 cfg.bssid

/-! ### PBC probe records -/

/-- The loop of `ap_process_wsc_probe_req` that interrupts the PBC registration of the
first recorded enrollee. `ap_remove_sta` takes the station out of `ap->sta_states` with
`l_queue_remove`, which frees the queue entry, and the loop then reads `entry->next` of that
entry: undefined behaviour, so the AP crashes after the first station it removes. -/
def interruptOverlap (firstStaAddr fromAddr : Mac) : ApState → List Station → ApState
  | s, [] => s
  | s, sta :: rest =>
    if !sta.associated || sta.assocRsne.isSome then interruptOverlap firstStaAddr fromAddr s rest
    else if !macEq sta.addr firstStaAddr || macEq sta.addr fromAddr then
      interruptOverlap firstStaAddr fromAddr s rest
    else
      let (s, sta) :=
        if sta.hs.isSome then (s.emit (.handshakeFailed sta.addr .disassocApBusy), { sta with sm := false })
        else (s, sta)
      (apRemoveSta s sta).crash

/-- `AP_WSC_PBC_MONITOR_TIME * 1000000`, in microseconds. -/
def pbcMonitorTime : UInt64 := 120 * 1000000

/-- `ap_process_wsc_probe_req` at `now = l_time_now()`. The window's start
`now - AP_WSC_PBC_MONITOR_TIME * 1000000` is computed in `uint64_t`. -/
def apProcessWscProbeReq (c : Codec) (s : ApState) (fromAddr : Mac) (wscData : Bytes)
    (now : UInt64) : ApState :=
  match c.wscParseProbeRequest wscData with
  | none => s
  | some req =>
    if req.configMethods &&& wscConfigurationMethodPushButton = 0 then s
    else if req.devicePasswordId ≠ wscDevicePasswordIdPushButton then s
    else
      let firstStaAddr := match s.pbc.probes.head? with
        | some record => record.mac
        | none => zeros 6
      let probes := expireRecords (now - pbcMonitorTime) fromAddr s.pbc.probes
      let s := { s with pbc.probes := probes ++ [⟨fromAddr.take 6, req.uuidE.take 16, now⟩] }
      if probes.isEmpty then s
      else
        let s := apWscExitPbc s
        interruptOverlap firstStaAddr fromAddr s s.stations

/-- The elements of a Probe Request that `ap_probe_req_cb` reads. -/
structure ProbeIes where
  ssid : Option Bytes
  ssidList : Option Bytes
  dsssChannel : UInt8

/-- One turn of the element loop of `ap_probe_req_cb`; `none` is its early return on a
malformed DSSS Parameter Set. -/
def probeIesStep : Option ProbeIes → Ie → Option ProbeIes
  | none, _ => none
  | some p, ie =>
    if ie.tag = ieTypeSsid then some { p with ssid := some ie.data }
    else if ie.tag = ieTypeSsidList then some { p with ssidList := some ie.data }
    else if ie.tag = ieTypeDsssParameterSet then
      if ie.data.length ≠ 1 then none else some { p with dsssChannel := ie.data.getD 0 0 }
    else some p

/-- The SSID List search of `ap_probe_req_cb`; `none` is its return on an element that
is not an SSID. -/
def ssidListMatch (ssid : Bytes) : List Ie → Option Bool
  | [] => some false
  | e :: rest =>
    if e.tag ≠ ieTypeSsid then none
    else if e.data.length = ssid.length && memEq e.data ssid e.data.length then some true
    else ssidListMatch ssid rest

/-- "DIRECT-", the P2P wildcard SSID prefix. -/
def directPrefix : Bytes := [0x44, 0x49, 0x52, 0x45, 0x43, 0x54, 0x2d]

/-- Whether `ap_probe_req_cb` answers, from the SSID elements; `none` is a return. -/
def probeSsidMatch (c : Codec) (cfg : Config) (p : ProbeIes) : Option Bool :=
  match p.ssid with
  | none => some true
  | some ssid =>
    if ssid.length = 0 then some true
    else if ssid.length = cfg.ssid.length && memEq ssid cfg.ssid ssid.length then some true
    else if ssid.length = 7 && memEq ssid directPrefix 7 && memEq ssid cfg.ssid 7 then some true
    else match p.ssidList with
      | none => some false
      | some list => ssidListMatch cfg.ssid (c.ieTlvIter list)

/-- `ap_probe_req_cb`. Building the response's WSC element processes the request's WSC
payload first, so the response shows PBC mode as the probe left it. -/
def apProbeReqCb (c : Codec) (cfg : Config) (s : ApState) (hdr : Header) (ies : List Ie)
    (now : UInt64) : ApState :=
  match ies.foldl probeIesStep (some ⟨none, none, 0⟩) with
  | none => s
  | some p =>
    if !macEq hdr.addr1 cfg.bssid && !utilIsBroadcastAddress hdr.addr1 then s
    else if !macEq hdr.addr3 cfg.bssid && !utilIsBroadcastAddress hdr.addr3 then s
    else match probeSsidMatch c cfg p with
      | none => s
      | some ssidMatch =>
        if !(ssidMatch && (p.dsssChannel = 0 || p.dsssChannel = cfg.channel)) then s
        else
          let s := match c.ieTlvExtractWscPayload ies with
            | some wscData => apProcessWscProbeReq c s hdr.addr2 wscData now
            | none => s
          (s.sendFrame (.probeResp hdr.addr2 s.pbc.active) .logOnly).1

/-! ### Authentication and (Re)Association -/

/-- `ap_auth_reply`. -/
def apAuthReply (s : ApState) (dest : Mac) (status : ReasonCode) : ApState :=
  (s.sendFrame (.authReply dest status) .logOnly).1

/-- `ap_auth_cb`: Open System only, and a station record for a new sender. -/
def apAuthCb (cfg : Config) (s : ApState) (hdr : Header) (algorithm transactionSequence : UInt16) :
    ApState :=
  if !toBss cfg hdr then s
  else if cfg.authorizedMacs ≠ [] && !cfg.authorizedMacs.any (macEq hdr.addr2 ·) then
    apAuthReply s hdr.addr2 .unspecified
  else if algorithm ≠ mmpduAuthAlgoOpenSystem then apAuthReply s hdr.addr2 .unspecified
  else if transactionSequence ≠ 1 then apAuthReply s hdr.addr2 .unspecified
  else match s.findSta hdr.addr2 with
    | some _ => apAuthReply s hdr.addr2 .success
    | none =>
      let sta := Station.fresh s.nextHandle (hdr.addr2.take 6)
      apAuthReply { s with stations := s.stations ++ [sta], nextHandle := s.nextHandle + 1 }
        hdr.addr2 .success

/-- `ap_assoc_resp`: the (Re)Association Response, whose AID field is `aid | 0xc000`. -/
def apAssocResp (s : ApState) (sta : Option Station) (dest : Mac) (status : ReasonCode)
    (reassoc : Bool) (cb : FrameCallback) : ApState × Nat :=
  let aid := match sta with
    | some sta => sta.aid ||| 0xc000
    | none => 0
  s.sendFrame (.assocResp dest status aid reassoc) cb

/-- `ap_parse_supported_rates`, adding to the set `set`; `none` is `-EINVAL`. The set is
`l_uintset_new(108)`, of the values 1 to 108, and `l_uintset_put` leaves out any other. -/
def apParseSupportedRates (ie : Ie) (set : Option (List Nat)) : Option (List Nat) :=
  if ie.tag = ieTypeSupportedRates && ie.data.length = 0 then none
  else some (set.getD [] ++ (((ie.data.filter (· != 0xff)).map fun r => (r &&& 0x7f).toNat).filter
    fun r => 1 ≤ r && r ≤ 108))

/-- `ap_common_rates`: the AP's lowest rate, its Basic Rate, is among the station's. -/
def apCommonRates (apRates staRates : List Nat) : Bool :=
  match apRates.min? with
  | some minr => staRates.contains minr
  | none => false

/-- `__builtin_popcount` of an `unsigned int`. -/
def popcount (n : Nat) : Nat := ((List.range 32).filter n.testBit).length

/-- What the element loop of `ap_assoc_reassoc` collects. -/
structure AssocIes where
  ssid : Option Bytes
  rates : Option (List Nat)
  rsn : Option (Ie × RsnInfo)

/-- One turn of the element loop of `ap_assoc_reassoc`; an error is its `goto bad_frame`.
With a WSC payload present the RSNE is ignored. -/
def assocIesStep (c : Codec) (wsc : Bool) : Except ReasonCode AssocIes → Ie → Except ReasonCode AssocIes
  | .error err, _ => .error err
  | .ok a, ie =>
    if ie.tag = ieTypeSsid then .ok { a with ssid := some ie.data }
    else if ie.tag = ieTypeSupportedRates || ie.tag = ieTypeExtendedSupportedRates then
      match apParseSupportedRates ie a.rates with
      | none => .error .invalidIe
      | some rates => .ok { a with rates := some rates }
    else if ie.tag = ieTypeRsn then
      if wsc then .ok a
      else match c.ieParseRsne ie with
        | none => .error .invalidIe
        | some info => .ok { a with rsn := some (ie, info) }
    else .ok a

/-- 802.11-2016 11.3.5.3 j), as both exits of `ap_assoc_reassoc` do it: an RSNA is
dropped, and a State 3 station's handshake is stopped. -/
def dropRsnaOrStopHandshake (s : ApState) (sta : Station) : ApState × Station :=
  if sta.rsna then apDropRsna s sta
  else if sta.associated then (s, apStopHandshake sta)
  else (s, sta)

@[simp] theorem dropRsnaOrStopHandshake_pbc (s : ApState) (sta : Station) :
    (dropRsnaOrStopHandshake s sta).1.pbc = s.pbc := by
  unfold dropRsnaOrStopHandshake; split_ifs <;> rfl

/-- The `unsupported:` / `bad_frame:` exit of `ap_assoc_reassoc`: State 3 is kept but an
RSNA is dropped, and an error response goes out. -/
def assocReject (s : ApState) (sta : Station) (reassoc : Bool) (err : ReasonCode) : ApState :=
  let (s, sta) := dropRsnaOrStopHandshake s sta
  (apAssocResp (s.setSta sta) (some sta) sta.addr err reassoc .logOnly).1

/-- The success exit of `ap_assoc_reassoc`: a new AID unless the station is in State 3,
the request's elements kept when it carried an RSNE, and a success response whose TX
status runs `ap_success_assoc_resp_cb`. -/
def assocAccept (s : ApState) (sta : Station) (reassoc : Bool) (capability listenInterval : UInt16)
    (ies : List Ie) (rates : List Nat) (rsn : Option Bytes) : ApState :=
  let (s, sta) := dropRsnaOrStopHandshake s sta
  let (s, sta) :=
    if !sta.associated then ({ s with lastAid := s.lastAid + 1 }, { sta with aid := s.lastAid + 1 })
    else (s, sta)
  let sta := { sta with
    capability := capability
    listenInterval := listenInterval
    rates := some rates
    assocIes := if rsn.isSome then some ies else none
    assocRsne := rsn }
  let (s, id) := apAssocResp s (some sta) sta.addr .success reassoc (.successAssocResp sta.handle)
  s.setSta { sta with assocRespCmdId := id }

/-- The WSC branch of `ap_assoc_reassoc`: an Enrollee may register only in active PBC mode
and only if it sent the first recorded PBC probe. -/
def assocWsc (c : Codec) (s : ApState) (sta : Station) (reassoc : Bool)
    (capability listenInterval : UInt16) (ies : List Ie) (rates : List Nat) (wscData : Bytes) :
    ApState :=
  match c.wscParseAssociationRequest wscData with
  | none => assocReject s sta reassoc .invalidIe
  | some req =>
    if req.requestType ≠ .enrolleeOpen8021x then assocReject s sta reassoc .invalidIe
    else if !s.pbc.active then assocReject s sta reassoc .unspecified
    else match s.pbc.probes.head? with
      | none => assocReject s sta reassoc .unspecified
      | some record =>
        if !macEq sta.addr record.mac then assocReject s sta reassoc .unspecified
        else
          let sta := { sta with wscUuidE := record.uuidE, wscV2 := req.version2 }
          let s := apWscExitPbc (s.emit (.event (.registrationStart sta.addr ies)))
          assocAccept s sta reassoc capability listenInterval ies rates none

/-- The RSN branch of `ap_assoc_reassoc`. -/
def assocRsn (cfg : Config) (s : ApState) (sta : Station) (reassoc : Bool)
    (capability listenInterval : UInt16) (ies : List Ie) (rates : List Nat) (rsne : Ie)
    (info : RsnInfo) : ApState :=
  if info.mfpr && info.sppAMsduRequired then assocReject s sta reassoc .unspecified
  else if popcount info.pairwiseCiphers ≠ 1 || info.pairwiseCiphers &&& cfg.ciphers = 0 then
    assocReject s sta reassoc .invalidPairwiseCipher
  else if info.akmSuites ≠ ieRsnAkmSuitePsk then assocReject s sta reassoc .invalidAkmp
  else assocAccept s sta reassoc capability listenInterval ies rates (some rsne.raw)

/-- `ap_assoc_reassoc`. -/
def apAssocReassoc (c : Codec) (cfg : Config) (s : ApState) (sta : Station) (reassoc : Bool)
    (capability listenInterval : UInt16) (ies : List Ie) : ApState :=
  if sta.assocRespCmdId ≠ 0 then s
  else if reassoc && !sta.associated then assocReject s sta reassoc .class3FrameFromNonassocSta
  else
    let wscData := c.ieTlvExtractWscPayload ies
    match ies.foldl (assocIesStep c wscData.isSome) (.ok ⟨none, none, none⟩) with
    | .error err => assocReject s sta reassoc err
    | .ok a =>
      match a.rates, a.ssid with
      | some rates, some ssid =>
        if (wscData.isNone && a.rsn.isNone) || ssid.length ≠ cfg.ssid.length ||
            !memEq ssid cfg.ssid ssid.length then assocReject s sta reassoc .invalidIe
        else if !apCommonRates (apRates cfg) rates then assocReject s sta reassoc .unspecified
        else match a.rsn, wscData with
          | some (rsne, info), _ => assocRsn cfg s sta reassoc capability listenInterval ies rates rsne info
          | none, some wsc => assocWsc c s sta reassoc capability listenInterval ies rates wsc
          | none, none => assocReject s sta reassoc .invalidIe
      | _, _ => assocReject s sta reassoc .invalidIe

/-- `ap_assoc_req_cb`. -/
def apAssocReqCb (c : Codec) (cfg : Config) (s : ApState) (hdr : Header)
    (capability listenInterval : UInt16) (ies : List Ie) : ApState :=
  if !toBss cfg hdr then s
  else match s.findSta hdr.addr2 with
    | none => (apAssocResp s none hdr.addr2 .staReqAssocWithoutAuth false .logOnly).1
    | some sta => apAssocReassoc c cfg s sta false capability listenInterval ies

/-- `ap_reassoc_req_cb`. -/
def apReassocReqCb (c : Codec) (cfg : Config) (s : ApState) (hdr : Header)
    (capability listenInterval : UInt16) (currentApAddress : Mac) (ies : List Ie) : ApState :=
  if !toBss cfg hdr then s
  else match s.findSta hdr.addr2 with
    | none => (apAssocResp s none hdr.addr2 .staReqAssocWithoutAuth true .logOnly).1
    | some sta =>
      if !macEq currentApAddress cfg.bssid then
        (apAssocResp s none hdr.addr2 .unspecified true .logOnly).1
      else apAssocReassoc c cfg s sta true capability listenInterval ies

/-! ### Disassociation and Deauthentication -/

/-- `ap_disassoc_cb`. The pending (Re)Association Response is cancelled on the nl80211
family, as the source does, though its id is a frame-xchg id. -/
def apDisassocCb (cfg : Config) (s : ApState) (hdr : Header) (reasonCode : UInt16) : ApState :=
  if !toBss cfg hdr then s
  else match s.findSta hdr.addr2 with
    | none => s
    | some sta =>
      let (s, sta) :=
        if sta.assocRespCmdId ≠ 0 then (s.cancel sta.assocRespCmdId, { sta with assocRespCmdId := 0 })
        else (s, sta)
      if !sta.associated then s.setSta sta
      else let (s, sta) := apDelStation s sta (.other reasonCode) true; s.setSta sta

/-- `ap_deauth_cb`. -/
def apDeauthCb (cfg : Config) (s : ApState) (hdr : Header) (reasonCode : UInt16) : ApState :=
  if !toBss cfg hdr then s
  else match s.findSta hdr.addr2 with
    | none => s
    | some sta =>
      let (s, sta) := apDelStation { s with stations := s.stations.eraseP (macEq ·.addr hdr.addr2) }
        sta (.other reasonCode) false
      apStaFree s sta

/-! ### NEW_STATION and DEL_STATION notifications -/

/-- The attributes of an NL80211_CMD_NEW_STATION notification that
`ap_handle_new_station` reads; an `ie` attribute is given as its elements. -/
inductive NewStationAttr where
  | ie (elements : List Ie)
  | mac (data : Bytes)
  | other
  deriving DecidableEq

/-- One turn of the loop of `ap_parse_new_station_ies`; `none` is `parse_error`. -/
def newStationIesStep (c : Codec) : Option (Option Bytes × Option (List Nat)) → Ie →
    Option (Option Bytes × Option (List Nat))
  | none, _ => none
  | some (rsn, rates), ie =>
    if ie.tag = ieTypeRsn then
      if rsn.isSome || (c.ieParseRsne ie).isNone then none else some (some ie.raw, rates)
    else if ie.tag = ieTypeExtendedSupportedRates then
      if rates.isSome then none
      else (apParseSupportedRates ie none).map fun r => (rsn, some r)
    else some (rsn, rates)

/-- `ap_parse_new_station_ies`. -/
def apParseNewStationIes (c : Codec) (elements : List Ie) : Option (Option Bytes × Option (List Nat)) :=
  elements.foldl (newStationIesStep c) (some (none, none))

/-- What the attribute loop of `ap_handle_new_station` collects. -/
structure NewStationParse where
  rsne : Option Bytes
  rates : Option (List Nat)
  mac : Mac

/-- One turn of the attribute loop of `ap_handle_new_station`; `none` is `cleanup` or the
`return` after a failed element parse. -/
def newStationAttrStep (c : Codec) : Option NewStationParse → NewStationAttr → Option NewStationParse
  | none, _ => none
  | some p, .ie elements =>
    if p.rsne.isSome || p.rates.isSome then none
    else (apParseNewStationIes c elements).map fun (rsne, rates) => { p with rsne, rates }
  | some p, .mac data => if data.length ≠ 6 then none else some { p with mac := data }
  | some p, .other => some p

/-- `ap_handle_new_station`: a station the kernel added (a FullMAC driver's own
association) gets the next AID and a SET_STATION whose reply runs
`ap_associate_sta_cb`. `stale` is what the uninitialised `mac` buffer holds when no MAC
attribute comes. -/
def apHandleNewStation (c : Codec) (s : ApState) (attrs : List NewStationAttr) (stale : Mac) :
    ApState :=
  match attrs.foldl (newStationAttrStep c) (some ⟨none, none, stale⟩) with
  | some ⟨some rsne, some rates, mac⟩ =>
    match s.findSta mac with
    | some _ => s
    | none =>
      let sta := { Station.fresh s.nextHandle (mac.take 6) with
        assocRsne := some rsne, rates := some rates, aid := s.lastAid + 1, associated := true }
      let s := { s with
        stations := s.stations ++ [sta], nextHandle := s.nextHandle + 1, lastAid := s.lastAid + 1 }
      (s.send (.setStationUnauthorized (mac.take 6) none) (.associateSta sta.handle)).1
  | _ => s

/-- The attributes of an NL80211_CMD_DEL_STATION notification. -/
inductive DelStationAttr where
  | mac (data : Bytes)
  | reasonCode (data : Bytes)
  | other
  deriving DecidableEq

/-- One turn of the attribute loop of `ap_handle_del_station`; the reason is read with
`l_get_u16`, in host (little-endian) order. -/
def delStationAttrStep : Option (Mac × ReasonCode) → DelStationAttr → Option (Mac × ReasonCode)
  | none, _ => none
  | some (_, reason), .mac data => if data.length ≠ 6 then none else some (data, reason)
  | some (mac, _), .reasonCode data =>
    if data.length ≠ 2 then none
    else some (mac, .other ((data.getD 0 0).toUInt16 ||| (data.getD 1 0).toUInt16 <<< 8))
  | some p, .other => some p

/-- `ap_handle_del_station`. -/
def apHandleDelStation (s : ApState) (attrs : List DelStationAttr) (stale : Mac) : ApState :=
  match attrs.foldl delStationAttrStep (some (stale, .unspecified)) with
  | none => s
  | some (mac, reason) =>
    match s.findSta mac with
    | none => s
    | some sta => let (s, sta) := apDelStation s sta reason true; apRemoveSta s sta

/-! ### The PBC fields

Only the probe handler and the WSC branch of the association handler touch the PBC
fields; the WSC branch may only leave active PBC mode. -/

section Pbc

variable (c : Codec) (cfg : Config) (s : ApState) (sta : Station)

@[simp] theorem interruptOverlap_pbc (firstStaAddr fromAddr : Mac) (stations : List Station) :
    (interruptOverlap firstStaAddr fromAddr s stations).pbc = s.pbc := by
  induction stations generalizing s with
  | nil => rfl
  | cons sta rest ih => unfold interruptOverlap; split_ifs <;> simp [ih]

@[simp] theorem apAuthCb_pbc (hdr : Header) (algorithm transactionSequence : UInt16) :
    (apAuthCb cfg s hdr algorithm transactionSequence).pbc = s.pbc := by
  unfold apAuthCb apAuthReply; split_ifs <;> (try split) <;> rfl

@[simp] theorem apAssocResp_pbc (sta : Option Station) (dest : Mac) (status : ReasonCode)
    (reassoc : Bool) (cb : FrameCallback) : (apAssocResp s sta dest status reassoc cb).1.pbc = s.pbc :=
  rfl

@[simp] theorem assocReject_pbc (reassoc : Bool) (err : ReasonCode) :
    (assocReject s sta reassoc err).pbc = s.pbc := by
  simp [assocReject]

@[simp] theorem assocAccept_pbc (reassoc : Bool) (capability listenInterval : UInt16)
    (ies : List Ie) (rates : List Nat) (rsn : Option Bytes) :
    (assocAccept s sta reassoc capability listenInterval ies rates rsn).pbc = s.pbc := by
  simp only [assocAccept]; split <;> simp

@[simp] theorem assocRsn_pbc (reassoc : Bool) (capability listenInterval : UInt16) (ies : List Ie)
    (rates : List Nat) (rsne : Ie) (info : RsnInfo) :
    (assocRsn cfg s sta reassoc capability listenInterval ies rates rsne info).pbc = s.pbc := by
  unfold assocRsn; split_ifs <;> simp

/-- The PBC records are kept and PBC mode is at most left. -/
def PbcQuiet (p p' : Pbc) : Prop := p'.probes = p.probes ∧ (p'.active = true → p.active = true)

theorem PbcQuiet.of_eq {p p' : Pbc} (h : p' = p) : PbcQuiet p p' := h ▸ ⟨rfl, id⟩

theorem assocWsc_quiet (reassoc : Bool) (capability listenInterval : UInt16) (ies : List Ie)
    (rates : List Nat) (wscData : Bytes) :
    PbcQuiet s.pbc (assocWsc c s sta reassoc capability listenInterval ies rates wscData).pbc := by
  unfold assocWsc
  split
  · exact .of_eq (by simp)
  split_ifs
  · exact .of_eq (by simp)
  · exact .of_eq (by simp)
  split
  · exact .of_eq (by simp)
  split_ifs
  · exact .of_eq (by simp)
  · simp [PbcQuiet]

theorem apAssocReassoc_quiet (reassoc : Bool) (capability listenInterval : UInt16) (ies : List Ie) :
    PbcQuiet s.pbc (apAssocReassoc c cfg s sta reassoc capability listenInterval ies).pbc := by
  dsimp only [apAssocReassoc]
  split_ifs
  · exact .of_eq rfl
  · exact .of_eq (by simp)
  split
  · exact .of_eq (by simp)
  split
  · split_ifs
    · exact .of_eq (by simp)
    · exact .of_eq (by simp)
    split
    · exact .of_eq (by simp)
    · exact assocWsc_quiet ..
    · exact .of_eq (by simp)
  · exact .of_eq (by simp)

@[simp] theorem apDisassocCb_pbc (hdr : Header) (reasonCode : UInt16) :
    (apDisassocCb cfg s hdr reasonCode).pbc = s.pbc := by
  unfold apDisassocCb
  split_ifs
  · rfl
  · split
    · rfl
    · dsimp only; split_ifs <;> simp [apply_ite ApState.pbc]

@[simp] theorem apDeauthCb_pbc (hdr : Header) (reasonCode : UInt16) :
    (apDeauthCb cfg s hdr reasonCode).pbc = s.pbc := by
  unfold apDeauthCb; split_ifs <;> (try split) <;> simp

@[simp] theorem apHandleNewStation_pbc (attrs : List NewStationAttr) (stale : Mac) :
    (apHandleNewStation c s attrs stale).pbc = s.pbc := by
  unfold apHandleNewStation; split <;> (try split) <;> rfl

@[simp] theorem apHandleDelStation_pbc (attrs : List DelStationAttr) (stale : Mac) :
    (apHandleDelStation s attrs stale).pbc = s.pbc := by
  unfold apHandleDelStation; split <;> (try split) <;> simp

end Pbc

end Iwd.Ap
