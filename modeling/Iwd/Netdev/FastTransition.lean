import Iwd.Netdev.Connect

/-!
Fast BSS Transition in netdev.c (802.11r over the air): `netdev_fast_transition` and the
FT Authentication request it sends, the AUTHENTICATE notification with the target's
response, the FT Reassociation request, and the replies to both commands. The
Reassociation response arrives as a CONNECT notification (`netdev_connect_event`).
-/

namespace Iwd.Netdev

/-- The MDE `netdev_build_cmd_ft_authenticate` writes for the target: the BSS's three
bytes behind the element header. -/
def ftAuthenticateMde (bss : ScanBss) : Bytes := [ieTypeMobilityDomain, 3] ++ bss.mde

/-- `netdev_build_cmd_ft_authenticate` (12.8.2): an RSNE naming PMK-R0-Name, the target's
MDE and an FTE with our SNonce and R0KH-ID; `none` when our RSNE does not parse. -/
def netdevBuildCmdFtAuthenticate (c : Codec) (bss : ScanBss) (hs : Handshake) : Option Cmd :=
  if hs.isRsn then
    (c.parseRsne (elementBytes (hs.ownIe.getD []))).map fun info =>
      .authenticateFt bss.addr [c.buildRsne { info with pmkids := [hs.pmkR0Name] },
        ftAuthenticateMde bss,
        c.buildFte ⟨0, zeros 16, zeros 32, hs.snonce, hs.r0khid, none, none, none⟩]
  else some (.authenticateFt bss.addr [ftAuthenticateMde bss])

/-- `memcpy(hs->mde + 2, target_bss->mde, 3)`. -/
def copyMdid (mde target : Bytes) : Bytes := mde.take 2 ++ target.take 3 ++ mde.drop 5

/-- `memcpy(netdev->handshake->snonce, orig_snonce, 32)` at the label `restore_snonce`. -/
def restoreSnonce (origSnonce : Bytes) (w : World) : World :=
  w.setNetdev fun n => { n with handshake := n.handshake.map fun hs => { hs with snonce := origSnonce } }

/-- `netdev_fast_transition`: with the same MDID, keep the SNonce in `orig_snonce`, draw a
fresh one (`snonce`, by `handshake_state_new_snonce`) into the handshake, and send the FT
Authentication request built from it; then retarget the handshake at the new BSS. The two
error exits after the draw go through `restore_snonce`. -/
def netdevFastTransition (c : Codec) (target : ScanBss) (cb : Option Owner) (snonce : Bytes)
    (w : World) : World :=
  if !w.netdev.operational then w.emit (.returned .fastTransition (some .notconn))
  else match w.netdev.handshake with
    | none => w.crash
    | some hs =>
      match hs.mde with
      | none => w.emit (.returned .fastTransition (some .inval))
      | some mde =>
        if !target.mdePresent ||
            (mde.getD 2 0, mde.getD 3 0) ≠ (target.mde.getD 0 0, target.mde.getD 1 0) then
          w.emit (.returned .fastTransition (some .inval))
        else
          let origSnonce := hs.snonce
          let drawn : Handshake := { hs with snonce := snonce }
          let w := w.setNetdev ({ · with handshake := some drawn })
          match netdevBuildCmdFtAuthenticate c target drawn with
          | none => (restoreSnonce origSnonce w).emit (.returned .fastTransition (some .inval))
          | some cmd =>
            let sent := w.send cmd .cmdAuthenticateFt
            let w := sent.1.setNetdev ({ · with connectCmdId := sent.2 })
            if sent.2 = 0 then (restoreSnonce origSnonce w).emit (.returned .fastTransition (some .io))
            else
              let n := w.netdev
              let w := (w.cancel n.groupNewKeyCmdId).cancel n.groupManagementNewKeyCmdId
              let retargeted : Handshake := { drawn with
                aa := target.addr, apIe := target.rsne, mde := some (copyMdid mde target.mde) }
              (w.setNetdev fun n => { n with
                prevBssid := hs.aa, handshake := some retargeted,
                sm := n.sm.map fun _ => ⟨false, false⟩,
                operational := false, inFt := true, connectCb := cb,
                frequency := target.frequency, groupNewKeyCmdId := 0,
                groupManagementNewKeyCmdId := 0 }).emit (.returned .fastTransition none)

@[simp] theorem restoreSnonce_netdev (origSnonce : Bytes) (w : World) :
    (restoreSnonce origSnonce w).netdev =
      { w.netdev with handshake := w.netdev.handshake.map fun hs => { hs with snonce := origSnonce } } := rfl
@[simp] theorem restoreSnonce_genl (origSnonce : Bytes) (w : World) : (restoreSnonce origSnonce w).genl = w.genl := rfl
@[simp] theorem restoreSnonce_log (origSnonce : Bytes) (w : World) : (restoreSnonce origSnonce w).log = w.log := rfl
@[simp] theorem restoreSnonce_stack (origSnonce : Bytes) (w : World) :
    (restoreSnonce origSnonce w).stack = w.stack := rfl
@[simp] theorem restoreSnonce_links (origSnonce : Bytes) (w : World) :
    (restoreSnonce origSnonce w).links = w.links := rfl
@[simp] theorem restoreSnonce_crashed (origSnonce : Bytes) (w : World) :
    (restoreSnonce origSnonce w).crashed = w.crashed := rfl

@[simp] theorem restoreSnonce_drawn (hs : Handshake) (snonce : Bytes) :
    ({ { hs with snonce := snonce } with snonce := hs.snonce } : Handshake) = hs := rfl

theorem restoreSnonce_setNetdev_drawn {w : World} {hs : Handshake} (current : w.netdev.handshake = some hs)
    (snonce : Bytes) : restoreSnonce hs.snonce (w.setNetdev ({ · with handshake := some { hs with snonce := snonce } })) = w := by
  obtain ⟨netdev, genl, links, stack, log, crashed⟩ := w
  simp only [restoreSnonce, World.setNetdev, Option.map_some', restoreSnonce_drawn, ← current]

/-- `netdev_cmd_authenticate_ft_cb`. -/
def netdevCmdAuthenticateFtCb (err : Option Errno) (w : World) : Yield :=
  let w := w.setNetdev ({ · with connectCmdId := 0 })
  if err.isSome then failWith .authenticationFailed w else .done w

/-- The RSNE of the FT Reassociation request (12.8.4): ours, naming PMK-R1-Name. In an
RSN `none` is a failed parse; outside one there is no RSNE. -/
def ftReassocRsne (c : Codec) (hs : Handshake) : Option (Option Bytes) :=
  if hs.isRsn then
    (c.parseRsne (elementBytes (hs.ownIe.getD []))).map fun info =>
      some (c.buildRsne { info with pmkids := [hs.pmkR1Name] })
  else some none

/-- `netdev_build_cmd_ft_reassociate` (12.8.4): the RSNE, the stored MDE verbatim, and an
FTE with the nonces, key holder ids and MIC. The outer `none` is the read of a missing
`hs->mde`, the inner one a failed RSNE parse or MIC. -/
def netdevBuildCmdFtReassociate (c : Codec) (hs : Handshake) (prevBssid : Mac) :
    Option (Option Cmd) :=
  match ftReassocRsne c hs with
  | none => some none
  | some rsne => hs.mde.map fun mde =>
    let ftInfo : FtInfo := ⟨3, zeros 16, hs.anonce, hs.snonce, hs.r0khid, some hs.r1khid,
      none, none⟩
    if hs.isRsn then
      (c.fteMic hs 5 rsne (c.buildFte ftInfo)).map fun mic =>
        .associateFt hs.aa prevBssid
          (rsne.toList ++ [elementBytes mde, c.buildFte { ftInfo with mic := mic }])
    else some (.associateFt hs.aa prevBssid [elementBytes mde])

/-- `netdev_cmd_ft_reassociate_cb`. -/
def netdevCmdFtReassociateCb (err : Option Errno) (w : World) : World :=
  let w := w.setNetdev ({ · with connectCmdId := 0 })
  if err.isSome then deauthenticateWith .associationFailed .unspecified w else w

/-- An attribute of an AUTHENTICATE notification that `netdev_authenticate_event` acts on. -/
inductive AuthAttr where
  | timedOut
  | frame (data : Bytes)
  | other
  deriving DecidableEq, Repr

/-- The frame of an AUTHENTICATE notification; `none` is the jump to `auth_error` on
TIMED_OUT or a second frame. -/
def authAttrStep : Option (Option Bytes) → AuthAttr → Option (Option Bytes)
  | none, _ => none
  | some _, .timedOut => none
  | some none, .frame data => some (some data)
  | some (some _), .frame _ => none
  | st, .other => st

/-- The FTE checks of an FT Authentication response (12.8.3) and the handshake update
they lead to: ANonce, key holder ids and the FTE itself are taken over. -/
def ftAuthFte (c : Codec) (hs : Handshake) (fte : Option Ie) : Option Handshake :=
  if hs.isRsn then
    fte.bind fun f => (c.parseFte f.raw).bind fun info =>
      if info.micElementCount ≠ 0 || !memEq info.mic (zeros 16) 16 then none
      else if hs.r0khid ≠ info.r0khid || info.r1khid.isNone then none
      else if !memEq info.snonce hs.snonce 32 then none
      else some { hs with
        fte := some f.raw, anonce := info.anonce, r0khid := info.r0khid,
        r1khid := info.r1khid.getD [] }
  else if fte.isSome then none else some hs

/-- The RSNE check of an FT Authentication response: in an RSN an RSNE naming
PMK-R0-Name, otherwise none. -/
def ftAuthRsneOk (c : Codec) (hs : Handshake) (rsne : Option Ie) : Bool :=
  if hs.isRsn then rsneNamesPmkid c hs rsne hs.pmkR0Name else rsne.isNone

/-- The exit `ft_error` of `netdev_authenticate_event`. -/
def ftError (w : World) : World := deauthenticateWith .authenticationFailed .unspecified w

/-- `netdev_authenticate_event` once the response parsed with status 0: check its
elements, adopt the target's FTE, and send the FT Reassociation request. -/
def netdevAuthenticateResp (c : Codec) (hs : Handshake) (ies : Option (List Ie)) (w : World) :
    World :=
  match ies.bind ftIes with
  | none => ftError w
  | some (rsne, mde, fte) =>
    if !ftAuthRsneOk c hs rsne then ftError w
    else match mde, hs.mde with
      | none, _ => ftError w
      | some _, none => w.crash
      | some m, some sent =>
        if !mdeEchoes sent m then ftError w
        else match ftAuthFte c hs fte with
          | none => ftError w
          | some hs =>
            let w := w.setNetdev ({ · with handshake := some hs })
            match netdevBuildCmdFtReassociate c hs w.netdev.prevBssid with
            | none => w.crash
            | some none => ftError w
            | some (some cmd) =>
              let sent := w.send cmd .cmdFtReassociate
              let w := sent.1.setNetdev ({ · with connectCmdId := sent.2 })
              if sent.2 = 0 then ftError w else registerSm w

/-- `netdev_authenticate_event`: only during a transition; `is_rsn` is read from the
handshake before that check. -/
def netdevAuthenticateEvent (c : Codec) (attrs : List AuthAttr) (w : World) : Yield :=
  match w.netdev.handshake with
  | none => .done w.crash
  | some hs =>
    if !w.netdev.inFt then .done w
    else match attrs.foldl authAttrStep (some none) with
      | some (some frame) =>
        match c.parseAuthenticationResp frame w.netdev.addr hs.aa with
        | some (0, ies) => .done (netdevAuthenticateResp c hs ies w)
        | _ => failWith .authenticationFailed w
      | _ => failWith .authenticationFailed w

end Iwd.Netdev
