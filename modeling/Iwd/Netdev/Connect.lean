import Iwd.Netdev.Keys

/-!
Starting an attempt and the CONNECT notification in netdev.c: `netdev_connect`,
`netdev_connect_wsc`, the reply `netdev_cmd_connect_cb`, the check of the association
response elements `netdev_handle_associate_resp_ies`, and `netdev_connect_event`.
-/

namespace Iwd.Netdev

/-- `netdev_build_cmd_connect`: the IE attribute carries our RSNE and our MDE. -/
def netdevBuildCmdConnect (bss : ScanBss) (hs : Handshake) : Cmd :=
  .connect bss.addr ((if hs.isRsn then [elementBytes (hs.ownIe.getD [])] else []) ++
    (hs.mde.map elementBytes).toList)

/-- `netdev_connect_common`: send CONNECT, then take over the handshake and callbacks. -/
def netdevConnectCommon (cmd : Cmd) (bss : ScanBss) (hs : Handshake) (sm : Option EapolSm)
    (filter cb data : Option Owner) (api : Api) (w : World) : World :=
  let sent := w.send cmd .cmdConnect
  let w := sent.1.setNetdev ({ · with connectCmdId := sent.2 })
  if sent.2 = 0 then w.emit (.returned api (some .io))
  else (w.setNetdev fun n => { n with
    eventFilter := filter, connectCb := cb, userData := data, connected := true,
    handshake := some { hs with aa := bss.addr, spa := n.addr }, sm := sm,
    frequency := bss.frequency }).emit (.returned api none)

/-- `netdev_connect`: an RSN attempt gets an EAPoL state machine. -/
def netdevConnect (bss : ScanBss) (hs : Handshake) (filter cb data : Option Owner)
    (w : World) : World :=
  if w.netdev.connected then w.emit (.returned .connect (some .isconn))
  else netdevConnectCommon (netdevBuildCmdConnect bss hs) bss hs
    (if hs.isRsn then some ⟨false, false⟩ else none) filter cb data .connect w

/-- `netdev_connect_wsc`: the WSC association request is appended as one more IE. -/
def netdevConnectWsc (c : Codec) (bss : ScanBss) (hs : Handshake)
    (filter cb data : Option Owner) (w : World) : World :=
  if w.netdev.connected then w.emit (.returned .connectWsc (some .isconn))
  else match c.wscAssociationIe, netdevBuildCmdConnect bss hs with
    | some ie, .connect bssid ies =>
      netdevConnectCommon (.connect bssid (ies ++ [ie])) bss hs (some ⟨false, false⟩)
        filter cb data .connectWsc w
    | _, _ => w.emit (.returned .connectWsc (some .nomem))

/-- `eapol_register(netdev->sm)` when there is one. -/
def registerSm (w : World) : World :=
  w.setNetdev fun n => { n with sm := n.sm.map ({ · with registered := true }) }

/-- `eapol_start(netdev->sm)` when there is one. -/
def startSm (w : World) : World :=
  w.setNetdev fun n => { n with sm := n.sm.map ({ · with started := true }) }

/-- `netdev_cmd_connect_cb`: on success ASSOCIATING is reported and the state machine
registered; on an error the attempt fails. -/
def netdevCmdConnectCb (err : Option Errno) (w : World) : Yield :=
  let w := w.setNetdev ({ · with connectCmdId := 0 })
  if err.isNone then
    match w.netdev.eventFilter with
    | some filter => .call (w.emit (.eventFilter filter .associating w.netdev.userData))
        [.registerSm]
    | none => .done (registerSm w)
  else failWith .associationFailed w

/-- One step of the element loop of `netdev_connect_event` and `netdev_authenticate_event`:
keep the RSNE, MDE and FTE, failing on a second one of any of them. -/
def ftIeStep : Option (Option Ie × Option Ie × Option Ie) → Ie →
    Option (Option Ie × Option Ie × Option Ie)
  | none, _ => none
  | some (rsne, mde, fte), e =>
    if e.tag = ieTypeRsn then if rsne.isSome then none else some (some e, mde, fte)
    else if e.tag = ieTypeMobilityDomain then if mde.isSome then none else some (rsne, some e, fte)
    else if e.tag = ieTypeFastBssTransition then
      if fte.isSome then none else some (rsne, mde, some e)
    else some (rsne, mde, fte)

/-- The RSNE, MDE and FTE of a response, or `none` when one appears twice. -/
def ftIes (ies : List Ie) : Option (Option Ie × Option Ie × Option Ie) :=
  ies.foldl ftIeStep (some (none, none, none))

/-- The RSNE check both FT response handlers make in an RSN (12.8.3, 12.8.5): an RSNE
whose one PMKID is `name` and whose other fields match the advertised RSNE. -/
def rsneNamesPmkid (c : Codec) (hs : Handshake) (rsne : Option Ie) (name : Bytes) : Bool :=
  match rsne.bind (c.parseRsne ·.raw) with
  | some ⟨_, [pmkid]⟩ =>
    memEq pmkid name 16 && c.apIeMatches ((rsne.map Ie.raw).getD []) hs.apIe
  | _ => false

/-- The RSNE check of `netdev_handle_associate_resp_ies`: during a transition in an RSN
an RSNE naming PMK-R1-Name, otherwise no RSNE. -/
def assocRsneOk (c : Codec) (hs : Handshake) (rsne : Option Ie) (transition : Bool) : Bool :=
  if transition && hs.isRsn then rsneNamesPmkid c hs rsne hs.pmkR1Name else rsne.isNone

/-- `memcmp(sent_mde, mde, sent_mde[1] + 2) == 0`: the response element `m` starts with
the MDE we sent, as both FT response handlers compare it. -/
def mdeEchoes (sent : Bytes) (m : Ie) : Bool := memEq sent m.raw ((sent.getD 1 0).toNat + 2)

/-- The MDE check of `netdev_handle_associate_resp_ies`: when we sent an MDE, the response
carries one that echoes it. -/
def mdeMatches (sent : Option Bytes) (mde : Option Ie) : Bool :=
  match sent with
  | none => true
  | some s => match mde with
    | none => false
    | some m => mdeEchoes s m

/-- The GTK subelement of a reassociation response FTE: decoded, with the top two bytes
of its RSC zero, and installed through `handshake_state_install_gtk`; `none` rejects the
response. -/
def ftInstallGtk (c : Codec) (hs : Handshake) (gtk : Option FtKey) (w : World) : Option World :=
  match gtk with
  | none => some w
  | some k => (c.decodeFteKey hs k.key).bind fun _ =>
    if k.rsc.getD 6 0 ≠ 0 || k.rsc.getD 7 0 ≠ 0 then none
    else some (netdevSetGtk c k.keyId k.len hs.groupCipher w)

/-- The IGTK subelement: decoded and installed through `handshake_state_install_igtk`. -/
def ftInstallIgtk (c : Codec) (hs : Handshake) (igtk : Option FtKey) (w : World) : Option World :=
  match igtk with
  | none => some w
  | some k => (c.decodeFteKey hs k.key).map fun _ =>
    netdevSetIgtk c k.keyId k.len hs.groupManagementCipher w

/-- The FTE checks of a reassociation response (12.8.5), with the GTK and IGTK it
installs. A key that fails to decode rejects the response after the keys before it were
installed. -/
def ftReassocFteOk (c : Codec) (hs : Handshake) (rsne : Option Ie) (fte : Ie) (info : FtInfo)
    (w : World) : World × Bool :=
  match c.fteMic hs 6 (rsne.map Ie.raw) fte.raw with
  | none => (w, false)
  | some mic =>
    if info.micElementCount ≠ 3 || !memEq info.mic mic 16 then (w, false)
    else if hs.r0khid ≠ info.r0khid ||
        !(info.r1khid.map (memEq hs.r1khid · 6)).getD false then (w, false)
    else if !memEq info.anonce hs.anonce 32 || !memEq info.snonce hs.snonce 32 then (w, false)
    else match ftInstallGtk c hs info.gtk w with
      | none => (w, false)
      | some w => match ftInstallIgtk c hs info.igtk w with
        | none => (w, false)
        | some w => (w, true)

/-- The FTE checks of an initial mobility domain association (12.4.2): the FTE is stored
first, then it must carry no MIC and zero nonces, and its key holder ids are kept. -/
def ftInitialFteOk (fte : Ie) (info : FtInfo) (w : World) : World × Bool :=
  let w := w.setNetdev fun n => { n with handshake := n.handshake.map ({ · with fte := fte.raw }) }
  if info.micElementCount ≠ 0 || !memEq info.mic (zeros 16) 16 ||
      !memEq info.anonce (zeros 32) 32 || !memEq info.snonce (zeros 32) 32 then (w, false)
  else (w.setNetdev fun n => { n with handshake := n.handshake.map ({ · with
    r0khid := info.r0khid, r1khid := info.r1khid.getD (zeros 6) }) }, true)

/-- `netdev_handle_associate_resp_ies`, for the handshake `hs` of the netdev. -/
def netdevHandleAssociateRespIes (c : Codec) (hs : Handshake) (rsne mde fte : Option Ie)
    (transition : Bool) (w : World) : World × Bool :=
  if !assocRsneOk c hs rsne transition then (w, false)
  else if !mdeMatches hs.mde mde then (w, false)
  else if hs.mde.isSome && hs.isRsn && fte.isNone then (w, false)
  else if !(hs.mde.isSome && hs.isRsn) && fte.isSome then (w, false)
  else match fte with
    | none => (w, true)
    | some f => match c.parseFte f.raw with
      | none => (w, false)
      | some info => if transition then ftReassocFteOk c hs rsne f info w
        else ftInitialFteOk f info w

/-- An attribute of a CONNECT notification that `netdev_connect_event` acts on. -/
inductive ConnectAttr where
  | timedOut
  | statusCode (data : Bytes)
  | respIe (ies : List Ie)
  | other
  deriving DecidableEq

/-- One step of the attribute loop of `netdev_connect_event`; `none` is the jump to
`error` on TIMED_OUT. -/
def connectAttrStep : Option (Option Bytes × Option (List Ie)) → ConnectAttr →
    Option (Option Bytes × Option (List Ie))
  | none, _ => none
  | some _, .timedOut => none
  | some (status, ies), .statusCode data =>
    some (if data.length = 2 then some data else status, ies)
  | some (status, _), .respIe ies => some (status, some ies)
  | some st, .other => st

/-- The status code and response elements of a CONNECT notification. -/
def connectAttrs (attrs : List ConnectAttr) : Option (Option Bytes × Option (List Ie)) :=
  attrs.foldl connectAttrStep (some (none, none))

/-- The end of a transition in `netdev_connect_event`, after the PTK is installed. -/
def netdevFtConnectCb (w : World) : Yield := reportConnected w

/-- What `netdev_connect_event` does once the response passed its checks: a transition
installs the PTK and reports OK; an RSN attempt hands over to the 4-Way Handshake; an
open one sets the link up. -/
def connectEventAccepted (isRsn : Bool) (w : World) : Yield :=
  let w := startSm w
  if w.netdev.inFt then
    let w := w.setNetdev ({ · with inFt := false, operational := true })
    match isRsn, w.netdev.handshake with
    | true, some hs => (netdevSetTk hs.aa hs.pairwiseCipher w).seq .ftConnectCb netdevFtConnectCb
    | true, none => .done w.crash
    | false, _ => netdevFtConnectCb w
  else if isRsn then
    match w.netdev.eventFilter with
    | some filter => .call (w.emit (.eventFilter filter .fourWayHandshake w.netdev.userData)) []
    | none => .done w
  else .done (netdevSetLinkmodeAndOperstate w)

/-- `netdev_connect_event`. `is_rsn` is read from the handshake before anything else. -/
def netdevConnectEvent (c : Codec) (attrs : List ConnectAttr) (w : World) : Yield :=
  match w.netdev.handshake with
  | none => .done w.crash
  | some hs =>
    if !w.netdev.connected then .done w
    else match connectAttrs attrs with
      | none => failWith .associationFailed w
      | some (status, ies) =>
        if status ≠ some [0, 0] then failWith .associationFailed w
        else match ies.elim (some (none, none, none)) ftIes with
          | none => failWith .associationFailed w
          | some (rsne, mde, fte) =>
            let checked := netdevHandleAssociateRespIes c hs rsne mde fte w.netdev.inFt w
            if !checked.2 then failWith .associationFailed checked.1
            else connectEventAccepted hs.isRsn checked.1

end Iwd.Netdev
