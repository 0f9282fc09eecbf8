import Iwd.Netdev.Teardown

/-!
Key installation in netdev.c: the installers the handshake code calls
(`netdev_set_tk`, `netdev_set_gtk`, `netdev_set_igtk`), the replies to the NEW_KEY,
SET_KEY and SET_STATION commands they start, the RTM_SETLINK reply that makes the link
operational, and the failure exits `netdev_setting_keys_failed` and
`netdev_handshake_failed`.
-/

namespace Iwd.Netdev

/-- The four key commands netdev.c tracks by id. -/
inductive KeyCmd where
  | pairwiseNewKey | pairwiseSetKey | groupNewKey | groupManagementNewKey
  deriving DecidableEq, Repr

/-- Store `id` in the field that tracks `slot`. -/
def setKeyCmd (slot : KeyCmd) (id : Nat) (n : Netdev) : Netdev :=
  match slot with
  | .pairwiseNewKey => { n with pairwiseNewKeyCmdId := id }
  | .pairwiseSetKey => { n with pairwiseSetKeyCmdId := id }
  | .groupNewKey => { n with groupNewKeyCmdId := id }
  | .groupManagementNewKey => { n with groupManagementNewKeyCmdId := id }

@[simp] theorem setKeyCmd_connected (slot : KeyCmd) (id : Nat) (n : Netdev) :
    (setKeyCmd slot id n).connected = n.connected := by cases slot <;> rfl
@[simp] theorem setKeyCmd_operational (slot : KeyCmd) (id : Nat) (n : Netdev) :
    (setKeyCmd slot id n).operational = n.operational := by cases slot <;> rfl
@[simp] theorem setKeyCmd_inFt (slot : KeyCmd) (id : Nat) (n : Netdev) :
    (setKeyCmd slot id n).inFt = n.inFt := by cases slot <;> rfl
@[simp] theorem setKeyCmd_handshake (slot : KeyCmd) (id : Nat) (n : Netdev) :
    (setKeyCmd slot id n).handshake = n.handshake := by cases slot <;> rfl

/-- `netdev_setting_keys_failed`: cancel the four key commands, then deauthenticate with
KEY_SETTING_FAILED. SET_STATION and RTM_SETLINK are not tracked and stay in flight. -/
def netdevSettingKeysFailed (w : World) : World :=
  let n := w.netdev
  let w := (((w.cancel n.pairwiseNewKeyCmdId).cancel n.pairwiseSetKeyCmdId).cancel
    n.groupNewKeyCmdId).cancel n.groupManagementNewKeyCmdId
  deauthenticateWith .keySettingFailed .unspecified (w.setNetdev fun n => { n with
    pairwiseNewKeyCmdId := 0, pairwiseSetKeyCmdId := 0, groupNewKeyCmdId := 0,
    groupManagementNewKeyCmdId := 0 })

/-- The reply handler shared by `netdev_new_pairwise_key_cb`, `netdev_set_pairwise_key_cb`
and `netdev_new_group_management_key_cb`: clear the id, fail on an error. -/
def keyCmdCb (slot : KeyCmd) (err : Option Errno) (w : World) : World :=
  let w := w.setNetdev (Netdev.setKeyCmd slot 0)
  if err.isSome then netdevSettingKeysFailed w else w

/-- `netdev_new_pairwise_key_cb`. -/
def netdevNewPairwiseKeyCb : Option Errno → World → World := keyCmdCb .pairwiseNewKey

/-- `netdev_set_pairwise_key_cb`. -/
def netdevSetPairwiseKeyCb : Option Errno → World → World := keyCmdCb .pairwiseSetKey

/-- `netdev_new_group_management_key_cb`. -/
def netdevNewGroupManagementKeyCb : Option Errno → World → World :=
  keyCmdCb .groupManagementNewKey

/-- `netdev_set_linkmode_and_operstate(index, 1, IF_OPER_UP, netdev_operstate_cb, netdev)`. -/
def netdevSetLinkmodeAndOperstate (w : World) : World :=
  { w.emit .setLink with links := w.links + 1 }

/-- `netdev_set_station_cb`: on success the link is set up and operational. -/
def netdevSetStationCb (err : Option Errno) (w : World) : World :=
  if !w.netdev.connected then w
  else if err.isSome then netdevSettingKeysFailed w
  else netdevSetLinkmodeAndOperstate w

/-- `netdev_new_group_key_cb`: unlike its siblings it goes on to send SET_STATION, which
reads `handshake->aa`. -/
def netdevNewGroupKeyCb (err : Option Errno) (w : World) : World :=
  let w := w.setNetdev ({ · with groupNewKeyCmdId := 0 })
  if err.isSome then netdevSettingKeysFailed w
  else match w.netdev.handshake with
    | none => w.crash
    | some hs =>
      let sent := w.send (.setStation hs.aa) .setStation
      if sent.2 ≠ 0 then sent.1 else netdevSettingKeysFailed sent.1

/-- The installer shared by `netdev_set_gtk` and `netdev_set_igtk`: check the key length
and the cipher, then send a group NEW_KEY tracked in `slot`. -/
def installGroupKey (c : Codec) (accepts : Cipher → Bool) (slot : KeyCmd)
    (callback : Callback) (keyIndex keyLen : Nat) (cipher : Cipher) (w : World) : World :=
  if c.cipherKeyLen cipher ≠ keyLen then netdevSettingKeysFailed w
  else if !accepts cipher then netdevSettingKeysFailed w
  else
    let sent := w.send (.newKeyGroup cipher keyIndex) callback
    let w := sent.1.setNetdev (Netdev.setKeyCmd slot sent.2)
    if sent.2 ≠ 0 then w else netdevSettingKeysFailed w

/-- `netdev_set_gtk`: CCMP or TKIP. -/
def netdevSetGtk (c : Codec) : Nat → Nat → Cipher → World → World :=
  installGroupKey c (fun cipher => cipher = .ccmp || cipher = .tkip) .groupNewKey .newGroupKey

/-- `netdev_set_igtk`: BIP only. -/
def netdevSetIgtk (c : Codec) : Nat → Nat → Cipher → World → World :=
  installGroupKey c (· = .bip) .groupManagementNewKey .newGroupManagementKey

/-- `netdev_set_tk` after the SETTING_KEYS event: pairwise NEW_KEY, then SET_KEY. -/
def netdevSetTkTail (aa : Mac) (cipher : Cipher) (w : World) : World :=
  if !(cipher = .ccmp || cipher = .tkip) then netdevSettingKeysFailed w
  else
    let sent := w.send (.newKeyPairwise aa cipher) .newPairwiseKey
    let w := sent.1.setNetdev ({ · with pairwiseNewKeyCmdId := sent.2 })
    if sent.2 = 0 then netdevSettingKeysFailed w
    else
      let sent := w.send .setKeyPairwise .setPairwiseKey
      let w := sent.1.setNetdev ({ · with pairwiseSetKeyCmdId := sent.2 })
      if sent.2 ≠ 0 then w else netdevSettingKeysFailed w

/-- `netdev_set_tk`: the filter hears SETTING_KEYS first. -/
def netdevSetTk (aa : Mac) (cipher : Cipher) (w : World) : Yield :=
  match w.netdev.eventFilter with
  | some filter => .call (w.emit (.eventFilter filter .settingKeys w.netdev.userData))
      [.setTkTail aa cipher]
  | none => .done (netdevSetTkTail aa cipher w)

/-- The success report shared by `netdev_operstate_cb` and the end of a transition in
`netdev_connect_event`: `connect_cb` hears OK and is then cleared. -/
def reportConnected (w : World) : Yield :=
  match w.netdev.connectCb with
  | some cb => .call (w.emit (.connectCb cb .ok w.netdev.userData)) [.clearConnectCb]
  | none => .done w

/-- `netdev->connect_cb = NULL` after the OK report returns. -/
def clearConnectCb (w : World) : World := w.setNetdev ({ · with connectCb := none })

/-- `netdev_operstate_cb`, the reply to RTM_SETLINK. -/
def netdevOperstateCb (success : Bool) (w : World) : Yield :=
  if !w.netdev.connected then .done w
  else if !success then .done (deauthenticateWith .keySettingFailed .unspecified w)
  else reportConnected (w.setNetdev ({ · with operational := true }))

/-- `netdev_handshake_failed`: the EAPoL state machine has freed itself. -/
def netdevHandshakeFailed (reason : ReasonCode) (w : World) : World :=
  deauthenticateWith .handshakeFailed reason (w.setNetdev ({ · with sm := none }))

/-- `hardware_rekey_cb`. -/
def hardwareRekeyCb (err : Option Errno) (w : World) : World :=
  if err = some .opnotsupp then w.setNetdev ({ · with rekeyOffloadSupport := false }) else w

/-- `netdev_set_rekey_offload`. -/
def netdevSetRekeyOffload (counter : Nat) (w : World) : World :=
  if !w.netdev.rekeyOffloadSupport then w
  else (w.send (.setRekeyOffload counter) .hardwareRekey).1

/-- An attribute of a SET_REKEY_OFFLOAD notification; `rekeyData none` is a nesting that
`l_genl_attr_recurse` rejects. -/
inductive RekeyItem where
  | replayCtr (data : Bytes)
  | other
  deriving DecidableEq, Repr

/-- A top-level attribute of a SET_REKEY_OFFLOAD notification. -/
inductive RekeyAttr where
  | rekeyData (items : Option (List RekeyItem))
  | other
  deriving DecidableEq, Repr

/-- The first REPLAY_CTR of a REKEY_DATA nesting. -/
def replayCtr : List RekeyItem → Option Bytes
  | [] => none
  | .replayCtr data :: _ => some data
  | .other :: rest => replayCtr rest

/-- `netdev_rekey_offload_event`: the first REPLAY_CTR of eight bytes goes to EAPoL with
`handshake->aa`, whether or not a connection exists. -/
def netdevRekeyOffloadEvent : List RekeyAttr → World → World
  | [], w => w
  | .other :: rest, w => netdevRekeyOffloadEvent rest w
  | .rekeyData none :: _, w => w
  | .rekeyData (some items) :: rest, w =>
    match replayCtr items with
    | none => netdevRekeyOffloadEvent rest w
    | some data =>
      if data.length ≠ 8 then w
      else match w.netdev.handshake with
        | none => w.crash
        | some hs => w.emit (.replayCounter hs.aa data)

end Iwd.Netdev
