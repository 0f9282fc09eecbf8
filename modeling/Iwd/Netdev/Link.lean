import Mathlib.Data.List.Basic
import Iwd.Netdev.State
import Iwd.Ell.Str

/-!
The interfaces `src/src/netdev.c` manages, apart from the connection the rest of the model
covers: the list `netdev_list`, filled from nl80211 NEW_INTERFACE messages and the interface
dump by `netdev_create_from_genl` and emptied by DEL_INTERFACE, RTM_DELLINK and
`netdev_shutdown`; the bring-up every new interface goes through (the RTM_GETLINK reply, an
RTM_SETLINK down if it was up, an RTM_SETLINK up, then its link mode and operational state);
the flags and name `netdev_newlink_notify` keeps in step with the kernel; and the watches an
owner registers for UP, DOWN and name changes. The attributes `rta_add_u8` writes are read
back by the loop `netdev_newlink_notify` walks with, in order (`rtaWalk_rtaAddU8_list`).

A `struct netdev *` is the number of its allocation. Reading through one after `netdev_free`
freed it is undefined behaviour, as are a read of an uninitialised variable and a `strcpy`
that runs past either buffer; `undefined` records it, and nothing runs after it.
-/

namespace Iwd.Netdev.Link

open Iwd.Ell (cString writeAt)

/-! ### Constants of the kernel headers -/

/-- `IFF_UP`. -/
def iffUp : UInt32 := 1

/-- `IFNAMSIZ`. -/
def ifnamsiz : Nat := 16

/-- `ETH_ALEN`. -/
def ethAlen : Nat := 6

/-- `ARPHRD_ETHER`. -/
def arphrdEther : UInt16 := 1

/-- `RTM_NEWLINK`. -/
def rtmNewlink : UInt16 := 16

/-- `RTM_DELLINK`. -/
def rtmDellink : UInt16 := 17

/-- `IFLA_IFNAME`. -/
def iflaIfname : UInt16 := 3

/-- `IFLA_OPERSTATE`. -/
def iflaOperstate : UInt16 := 16

/-- `IFLA_LINKMODE`. -/
def iflaLinkmode : UInt16 := 17

/-- `IF_OPER_DOWN`. -/
def ifOperDown : UInt8 := 2

/-- `IF_OPER_DORMANT`. -/
def ifOperDormant : UInt8 := 5

/-- `NL80211_ATTR_WIPHY`. -/
def nl80211AttrWiphy : UInt16 := 1

/-- `NL80211_ATTR_IFINDEX`. -/
def nl80211AttrIfindex : UInt16 := 3

/-- `NL80211_ATTR_IFNAME`. -/
def nl80211AttrIfname : UInt16 := 4

/-- `NL80211_ATTR_IFTYPE`. -/
def nl80211AttrIftype : UInt16 := 5

/-- `NL80211_ATTR_MAC`. -/
def nl80211AttrMac : UInt16 := 6

/-- `NL80211_IFTYPE_STATION`. -/
def nl80211IftypeStation : UInt32 := 2

/-- `NL80211_CMD_NEW_INTERFACE`. -/
def nl80211CmdNewInterface : UInt8 := 7

/-- `NL80211_CMD_DEL_INTERFACE`. -/
def nl80211CmdDelInterface : UInt8 := 8

/-- `ERFKILL`. -/
def erfkill : Int := 132

/-- `*(uint32_t *) data` on a little-endian host. -/
def hostU32 (data : Bytes) : UInt32 := data.foldr (fun b acc => acc * 256 + b.toUInt32) 0

/-! ### Route netlink attributes

The `RTA_*` macros of `linux/rtnetlink.h` over the attributes after a `struct ifinfomsg`,
and `rta_add_u8`, which writes one. A `struct rtattr` is `rta_len` and `rta_type`, two
`unsigned short`s in host byte order. -/

/-- `rta_len` of the attribute at the start of `buf`. -/
def rtaLen (buf : Bytes) : Nat := (buf.getD 0 0).toNat + (buf.getD 1 0).toNat * 256

/-- `rta_type` of the attribute at the start of `buf`. -/
def rtaType (buf : Bytes) : UInt16 := UInt16.ofNat ((buf.getD 2 0).toNat + (buf.getD 3 0).toNat * 256)

/-- `RTA_ALIGN(len)`. -/
def rtaAlign (len : Nat) : Nat := (len + 3) / 4 * 4

/-- `RTA_OK(rta, len)`, where `len` is what is left of the buffer. When `RTA_NEXT` steps past
its end, `len` goes negative and the list runs out: both fail the test. -/
def rtaOk (buf : Bytes) : Bool := 4 ≤ buf.length && 4 ≤ rtaLen buf && rtaLen buf ≤ buf.length

/-- `RTA_DATA(rta)`, as `strcpy` reads it: everything from the payload on. -/
def rtaData (attr : Bytes) : Bytes := attr.drop 4

/-- `RTA_PAYLOAD(rta)`. -/
def rtaPayload (attr : Bytes) : Bytes := (attr.take (rtaLen attr)).drop 4

/-- The loop `for (attr = IFLA_RTA(ifi); RTA_OK(attr, bytes); attr = RTA_NEXT(attr, bytes))`:
each attribute as the buffer from its header on. Every step passes at least four bytes, so
`buf.length` steps reach the end. -/
def rtaWalk : Nat → Bytes → List Bytes
  | 0, _ => []
  | fuel + 1, buf => if rtaOk buf then buf :: rtaWalk fuel (buf.drop (rtaAlign (rtaLen buf))) else []

/-- `rta_add_u8`: the `RTA_SPACE(1)` bytes it leaves in the zeroed buffer, `rta_len` being
`RTA_LENGTH(1)`. -/
def rtaAddU8 (type : UInt16) (value : UInt8) : Bytes :=
  [5, 0, UInt8.ofNat (type.toNat % 256), UInt8.ofNat (type.toNat / 256), value, 0, 0, 0]

/-- Modelled from the C standard: `strcpy(dst, src)` into the buffer `dst`; `none` when `src`
has no terminator or does not fit. -/
def strcpy (dst src : Bytes) : Option Bytes :=
  if (0 : UInt8) ∈ src then writeAt dst 0 (cString src ++ [0]) else none

/-! ### State -/

/-- The `struct ifinfomsg` fields netdev.c reads. -/
structure IfInfo where
  type : UInt16
  index : UInt32
  flags : UInt32
  deriving DecidableEq, Repr

/-- One attribute as `l_genl_attr_next` hands it out: `len` is the length of `data`. -/
structure GenlAttr where
  type : UInt16
  data : Bytes
  deriving DecidableEq, Repr

/-- The messages netdev.c sends on the route netlink socket, by the `struct ifinfomsg`
fields it sets and the attributes after it. -/
inductive RtnlMsg where
  | getlink (index : UInt32)
  | setlink (index : UInt32) (flags change : UInt32) (attrs : Bytes)
  deriving DecidableEq, Repr

/-- The `netdev_set_powered_cb_t` callbacks netdev.c passes to `netdev_set_powered`. -/
inductive PoweredCb where
  | initialDownCb | initialUpCb
  deriving DecidableEq, Repr

/-- The `netdev_command_func_t` callbacks of `netdev_set_linkmode_and_operstate`, with the
`user_data` each is given: the netdev, or its index. -/
inductive CommandCb where
  | operstateDormantCb (netdev : Nat)
  | operstateDownCb (index : UInt32)
  deriving DecidableEq, Repr

/-- The function a reply runs, with its `user_data`: `netdev_getlink_cb` with the netdev,
`netdev_set_powered_result` with its `cb_data` (the netdev and the callback, or NULL), and
`netlink_result` with its `cb_data`. -/
inductive Handler where
  | getlinkCb (netdev : Nat)
  | setPoweredResult (cbData : Option (Nat × PoweredCb))
  | netlinkResult (cbData : Option CommandCb)
  deriving DecidableEq, Repr

/-- A request in flight: the sequence number `l_netlink_send` returned, the message and the
handler of its reply. -/
structure Request where
  seq : Nat
  msg : RtnlMsg
  handler : Handler
  deriving DecidableEq, Repr

/-- `enum netdev_watch_event`. -/
inductive WatchEvent where
  | up | down | nameChange
  deriving DecidableEq, Repr

/-- `struct netdev_watch`. -/
structure Watch where
  id : UInt32
  callback : Owner
  userData : Owner
  deriving DecidableEq, Repr

/-- The `struct netdev` fields of the interface, with the number of its allocation. A
`watches` queue that is still NULL behaves as the empty one, and is the empty list. -/
structure Iface where
  obj : Nat
  index : UInt32
  name : Bytes
  type : UInt32
  addr : Bytes
  wiphy : Nat
  device : Option Nat
  ifiFlags : UInt32
  watches : List Watch
  nextWatchId : UInt32
  deriving DecidableEq, Repr

/-- What the kernel, the owners and the rest of the daemon observe. -/
inductive Effect where
  | paeOpen
  | paeClose
  | rtnlSent (seq : Nat) (msg : RtnlMsg)
  | registerFrame (index : UInt32) (frameType : UInt16) (pfx : Bytes)
  | setCqm (index : UInt32) (thold : Int) (hyst : Nat)
  | deviceCreate (netdev wiphy : Nat)
  | deviceRemove (device : Option Nat)
  | notify (netdev : Nat) (watch : UInt32) (callback userData : Owner) (event : WatchEvent)
  deriving DecidableEq, Repr

/-- The interface side of netdev.c. `netdevList` is NULL after `netdev_shutdown`; `nextObj`
numbers the next allocation; `log` is newest first. -/
structure Links where
  netdevList : Option (List Iface)
  nextObj : Nat
  pending : List Request
  nextSeq : Nat
  log : List Effect
  undefined : Bool
  deriving DecidableEq, Repr

/-- The state after `netdev_init`: an empty list and nothing sent. -/
def Links.initial : Links := ⟨some [], 0, [], 1, [], false⟩

/-- What netdev.c calls outside the modelled sources: `wiphy_find`, `fnmatch(pattern,
name, 0) == 0`, the `whitelist_filter` and `blacklist_filter` arrays `netdev_init` split, and
whether `l_debug` in netdev.c prints (it evaluates its arguments only then). -/
structure Env where
  wiphyFind : UInt32 → Option Nat
  fnmatch : Bytes → Bytes → Bool
  whitelist : Option (List Bytes)
  blacklist : Option (List Bytes)
  debug : Bool

namespace Links

variable (s : Links)

/-- The netdevs on the list; none once it is NULL. -/
def netdevs : List Iface := s.netdevList.getD []

/-- Undefined behaviour. -/
def fail : Links := { s with undefined := true }

/-- Append to the log. -/
def emit (e : Effect) : Links := { s with log := e :: s.log }

/-- `l_netlink_send`: the request is in flight under a fresh sequence number. -/
def send (msg : RtnlMsg) (handler : Handler) : Links :=
  { s with
    pending := s.pending ++ [⟨s.nextSeq, msg, handler⟩]
    nextSeq := s.nextSeq + 1
    log := .rtnlSent s.nextSeq msg :: s.log }

/-- Reading through the pointer `obj`: the netdev, if it is still allocated. -/
def deref (obj : Nat) : Option Iface := s.netdevs.find? (·.obj = obj)

/-- A write through a netdev pointer: the list entry of that allocation becomes `n`. -/
def setNetdev (n : Iface) : Links :=
  { s with netdevList := s.netdevList.map (·.map fun m => if m.obj = n.obj then n else m) }

@[simp] theorem fail_undefined : s.fail.undefined = true := rfl
@[simp] theorem fail_netdevList : s.fail.netdevList = s.netdevList := rfl
@[simp] theorem fail_pending : s.fail.pending = s.pending := rfl
@[simp] theorem emit_undefined (e : Effect) : (s.emit e).undefined = s.undefined := rfl
@[simp] theorem emit_netdevList (e : Effect) : (s.emit e).netdevList = s.netdevList := rfl
@[simp] theorem emit_pending (e : Effect) : (s.emit e).pending = s.pending := rfl
@[simp] theorem emit_nextObj (e : Effect) : (s.emit e).nextObj = s.nextObj := rfl
@[simp] theorem emit_log (e : Effect) : (s.emit e).log = e :: s.log := rfl
@[simp] theorem send_undefined (msg : RtnlMsg) (h : Handler) : (s.send msg h).undefined = s.undefined := rfl
@[simp] theorem send_netdevList (msg : RtnlMsg) (h : Handler) : (s.send msg h).netdevList = s.netdevList := rfl
@[simp] theorem send_pending (msg : RtnlMsg) (h : Handler) :
    (s.send msg h).pending = s.pending ++ [⟨s.nextSeq, msg, h⟩] := rfl
@[simp] theorem send_nextObj (msg : RtnlMsg) (h : Handler) : (s.send msg h).nextObj = s.nextObj := rfl
@[simp] theorem send_log (msg : RtnlMsg) (h : Handler) : (s.send msg h).log = .rtnlSent s.nextSeq msg :: s.log := rfl
@[simp] theorem setNetdev_undefined (n : Iface) : (s.setNetdev n).undefined = s.undefined := rfl
@[simp] theorem setNetdev_pending (n : Iface) : (s.setNetdev n).pending = s.pending := rfl
@[simp] theorem setNetdev_nextObj (n : Iface) : (s.setNetdev n).nextObj = s.nextObj := rfl
@[simp] theorem setNetdev_log (n : Iface) : (s.setNetdev n).log = s.log := rfl
@[simp] theorem emit_netdevs (e : Effect) : (s.emit e).netdevs = s.netdevs := rfl
@[simp] theorem send_netdevs (msg : RtnlMsg) (h : Handler) : (s.send msg h).netdevs = s.netdevs := rfl
@[simp] theorem fail_netdevs : s.fail.netdevs = s.netdevs := rfl

theorem setNetdev_netdevs (n : Iface) :
    (s.setNetdev n).netdevs = s.netdevs.map fun m => if m.obj = n.obj then n else m := by
  cases h : s.netdevList <;> simp [setNetdev, netdevs, h]

end Links

/-! ### The functions of netdev.c -/

/-- `netdev_get_is_up`. -/
def netdevGetIsUp (n : Iface) : Bool := n.ifiFlags &&& iffUp != 0

/-- `netdev_find`: `l_queue_find` with `netdev_match`, the first netdev of the index. -/
def netdevFind (s : Links) (ifindex : UInt32) : Option Iface := s.netdevs.find? (·.index = ifindex)

/-- `netdev_is_managed`: a name passes when no whitelist is set or one of its patterns
matches, and no blacklist pattern matches. -/
def netdevIsManaged (env : Env) (ifname : Bytes) : Bool :=
  let checkBlacklist := match env.blacklist with
    | none => true
    | some patterns => !patterns.any (env.fnmatch · ifname)
  match env.whitelist with
  | none => checkBlacklist
  | some patterns => patterns.any (env.fnmatch · ifname) && checkBlacklist

/-- The local variables the attribute loop of `netdev_create_from_genl` sets: `none` is
NULL, except for `ifaddr`, which is not initialised and is `none` until a MAC attribute sets
it. -/
structure Found where
  ifname : Option Bytes
  ifaddr : Option Bytes
  ifindex : Option UInt32
  iftype : Option UInt32
  wiphy : Option Nat

/-- The `switch` of the attribute loop of `netdev_create_from_genl` on one attribute; `none`
is one of its `return`s on an attribute of the wrong length. -/
def createAttr (env : Env) (found : Found) (a : GenlAttr) : Option Found :=
  if a.type = nl80211AttrIfindex then
    if a.data.length ≠ 4 then none else some { found with ifindex := some (hostU32 a.data) }
  else if a.type = nl80211AttrIfname then
    if a.data.length > ifnamsiz then none else some { found with ifname := some a.data }
  else if a.type = nl80211AttrWiphy then
    if a.data.length ≠ 4 then none else some { found with wiphy := env.wiphyFind (hostU32 a.data) }
  else if a.type = nl80211AttrIftype then
    if a.data.length ≠ 4 then none else some { found with iftype := some (hostU32 a.data) }
  else if a.type = nl80211AttrMac then
    if a.data.length ≠ ethAlen then none else some { found with ifaddr := some a.data }
  else some found

/-- The attribute loop of `netdev_create_from_genl`. -/
def createAttrs (env : Env) : Found → List GenlAttr → Option Found
  | found, [] => some found
  | found, a :: rest => (createAttr env found a).bind fun found => createAttrs env found rest

/-- The `struct netdev` `l_new` zeroes and `netdev_create_from_genl` fills: `memcpy` puts the
name attribute at the start of the zeroed `name`. -/
def netdevNew (obj : Nat) (ifindex iftype : UInt32) (ifaddr ifname : Bytes) (wiphy : Nat) : Iface where
  obj := obj
  index := ifindex
  name := ifname ++ List.replicate (ifnamsiz - ifname.length) 0
  type := iftype
  addr := ifaddr
  wiphy := wiphy
  device := none
  ifiFlags := 0
  watches := []
  nextWatchId := 0

/-- The end of `netdev_create_from_genl`: the new netdev on the list (a push onto a NULL
list fails), `eapol_pae_open` for the first, the RTM_GETLINK whose reply brings it up, and
the two nl80211 commands. -/
def netdevAdd (n : Iface) (s : Links) : Links :=
  let s := { s with nextObj := s.nextObj + 1, netdevList := s.netdevList.map (· ++ [n]) }
  let s := if s.netdevs.length = 1 then s.emit .paeOpen else s
  let s := s.send (.getlink n.index) (.getlinkCb n.obj)
  (s.emit (.registerFrame n.index 0x00d0 [5, 5])).emit (.setCqm n.index (-70) 5)

/-- `netdev_create_from_genl`. -/
def netdevCreateFromGenl (env : Env) (attrs : List GenlAttr) (s : Links) : Links :=
  match createAttrs env ⟨none, none, none, none, none⟩ attrs with
  | none => s
  | some found =>
    match found.wiphy, found.iftype with
    | some wiphy, some iftype =>
      if iftype ≠ nl80211IftypeStation then s
      else
        match found.ifindex, found.ifaddr, found.ifname with
        | none, _, _ => s
        | some _, none, _ => s.fail
        | some _, some _, none => s
        | some ifindex, some ifaddr, some ifname =>
          if (netdevFind s ifindex).isSome then s
          else if !netdevIsManaged env (cString ifname) then s
          else netdevAdd (netdevNew s.nextObj ifindex iftype ifaddr ifname wiphy) s
    | _, _ => s

/-- `netdev_free`, less the connection: `device_remove`, then the watches and the netdev
itself are freed. -/
def netdevFree (n : Iface) (s : Links) : Links := s.emit (.deviceRemove n.device)

/-- `l_queue_remove_if(netdev_list, netdev_match, index)` and `netdev_free` of the netdev it
takes out, as DEL_INTERFACE and RTM_DELLINK do. -/
def netdevRemove (index : UInt32) (s : Links) : Links :=
  match netdevFind s index with
  | none => s
  | some n => netdevFree n { s with netdevList := s.netdevList.map (·.eraseP (·.index = index)) }

/-- `netdev_dellink_notify`. -/
def netdevDellinkNotify (ifi : IfInfo) (s : Links) : Links := netdevRemove ifi.index s

/-- `l_queue_foreach(netdev->watches, netdev_watch_notify, &event)`. -/
def notifyAll (n : Iface) (event : WatchEvent) (s : Links) : Links :=
  n.watches.foldl (fun s w => s.emit (.notify n.obj w.id w.callback w.userData event)) s

/-- The attribute loop of `netdev_newlink_notify`: the name buffer after the `strcpy` of the
first IFLA_IFNAME attribute, if there is one; `none` if that `strcpy` is undefined. -/
def newlinkName (name attrs : Bytes) : Option Bytes :=
  match (rtaWalk attrs.length attrs).find? (rtaType · = iflaIfname) with
  | none => some name
  | some attr => strcpy name (rtaData attr)

/-- `netdev_newlink_notify`: the new flags and name, UP or DOWN when the `IFF_UP` flag
changed, then NAME_CHANGE when the name did. `strcpy(old_name, netdev->name)` needs a
terminator within the name's sixteen bytes. -/
def netdevNewlinkNotify (ifi : IfInfo) (attrs : Bytes) (s : Links) : Links :=
  match netdevFind s ifi.index with
  | none => s
  | some n =>
    if (0 : UInt8) ∉ n.name then s.fail
    else
      match newlinkName n.name attrs with
      | none => s.fail
      | some name =>
        let n' := { n with ifiFlags := ifi.flags, name := name }
        let s := s.setNetdev n'
        let s := if netdevGetIsUp n ≠ netdevGetIsUp n' then
          notifyAll n' (if netdevGetIsUp n' then .up else .down) s else s
        if cString n.name ≠ cString name then notifyAll n' .nameChange s else s

/-- `netdev_link_notify`. -/
def netdevLinkNotify (type : UInt16) (ifi : IfInfo) (attrs : Bytes) (s : Links) : Links :=
  if ifi.type ≠ arphrdEther then s
  else if type = rtmNewlink then netdevNewlinkNotify ifi attrs s
  else if type = rtmDellink then netdevDellinkNotify ifi s
  else s

/-- The `switch` of the DEL_INTERFACE branch of `netdev_config_notify` on one attribute: the
wiphy and the interface index so far, `none` on an attribute of the wrong length. -/
def delInterfaceAttr (found : Option UInt32 × Option UInt32) (a : GenlAttr) :
    Option (Option UInt32 × Option UInt32) :=
  if a.type = nl80211AttrWiphy then
    if a.data.length ≠ 4 then none else some (some (hostU32 a.data), found.2)
  else if a.type = nl80211AttrIfindex then
    if a.data.length ≠ 4 then none else some (found.1, some (hostU32 a.data))
  else some found

/-- The attribute loop of the DEL_INTERFACE branch of `netdev_config_notify`. -/
def delInterfaceAttrs : Option UInt32 × Option UInt32 → List GenlAttr → Option (Option UInt32 × Option UInt32)
  | found, [] => some found
  | found, a :: rest => (delInterfaceAttr found a).bind fun found => delInterfaceAttrs found rest

/-- `netdev_config_notify`. -/
def netdevConfigNotify (env : Env) (cmd : UInt8) (attrs : List GenlAttr) (s : Links) : Links :=
  if cmd = nl80211CmdNewInterface then netdevCreateFromGenl env attrs s
  else if cmd ≠ nl80211CmdDelInterface then s
  else
    match delInterfaceAttrs (none, none) attrs with
    | some (some _, some ifindex) => netdevRemove ifindex s
    | _ => s

/-- `netdev_set_powered`: RTM_SETLINK with the flags of the netdev, `IFF_UP` set or cleared,
and `cb_data` only when there is a callback. -/
def netdevSetPowered (n : Iface) (powered : Bool) (callback : Option PoweredCb) (s : Links) : Links :=
  let flags := if powered then n.ifiFlags ||| iffUp else n.ifiFlags &&& ~~~iffUp
  s.send (.setlink n.index flags 0xffffffff []) (.setPoweredResult (callback.map (n.obj, ·)))

/-- `netdev_set_linkmode_and_operstate`: RTM_SETLINK with the two attributes `rta_add_u8`
writes after the zeroed `struct ifinfomsg`. -/
def netdevSetLinkmodeAndOperstate (ifindex : UInt32) (linkmode operstate : UInt8)
    (callback : Option CommandCb) (s : Links) : Links :=
  s.send (.setlink ifindex 0 0 (rtaAddU8 iflaLinkmode linkmode ++ rtaAddU8 iflaOperstate operstate))
    (.netlinkResult callback)

/-- `netdev_initial_up_cb`: unless it failed other than by rfkill, the link mode and dormant
state, then `device_create`. -/
def netdevInitialUpCb (n : Iface) (result : Int) (s : Links) : Links :=
  if result ≠ 0 ∧ result ≠ -erfkill then s
  else
    let s := netdevSetLinkmodeAndOperstate n.index 1 ifOperDormant (some (.operstateDormantCb n.obj)) s
    (s.setNetdev { n with device := some n.obj }).emit (.deviceCreate n.obj n.wiphy)

/-- `netdev_initial_down_cb`: unless it failed, power the interface up. -/
def netdevInitialDownCb (n : Iface) (result : Int) (s : Links) : Links :=
  if result ≠ 0 then s else netdevSetPowered n true (some .initialUpCb) s

/-- `netdev_getlink_cb`: take in the flags and name of the reply, then reset an interface
that is up, or bring it up. -/
def netdevGetlinkCb (error : Int) (type : UInt16) (ifi : IfInfo) (attrs : Bytes) (s : Links) : Links :=
  if error ≠ 0 ∨ ifi.type ≠ arphrdEther ∨ type ≠ rtmNewlink then s
  else
    match netdevFind s ifi.index with
    | none => s
    | some n =>
      let s := netdevNewlinkNotify ifi attrs s
      match s.deref n.obj with
      | none => s
      | some n =>
        if netdevGetIsUp n then netdevSetPowered n false (some .initialDownCb) s
        else netdevInitialDownCb n 0 s

/-- `netdev_set_powered_result`: the callback gets the netdev and `-error`. -/
def netdevSetPoweredResult (error : Int) (cbData : Option (Nat × PoweredCb)) (s : Links) : Links :=
  match cbData with
  | none => s
  | some (obj, callback) =>
    match s.deref obj with
    | none => s.fail
    | some n =>
      match callback with
      | .initialDownCb => netdevInitialDownCb n (-error) s
      | .initialUpCb => netdevInitialUpCb n (-error) s

/-- `netdev_operstate_dormant_cb`: its `l_debug` reads `netdev->index` when it prints. -/
def netdevOperstateDormantCb (env : Env) (obj : Nat) (s : Links) : Links :=
  if env.debug && (s.deref obj).isNone then s.fail else s

/-- `netlink_result`: the callback, when there is one; `netdev_operstate_down_cb` only
prints the index it was given. -/
def netlinkResult (env : Env) (cbData : Option CommandCb) (s : Links) : Links :=
  match cbData with
  | some (.operstateDormantCb obj) => netdevOperstateDormantCb env obj s
  | _ => s

/-- The reply to the request `seq`: it leaves the requests in flight, and its handler runs. -/
def rtnlReply (env : Env) (seq : Nat) (error : Int) (type : UInt16) (ifi : IfInfo) (attrs : Bytes)
    (s : Links) : Links :=
  match s.pending.find? (·.seq = seq) with
  | none => s
  | some r =>
    let s := { s with pending := s.pending.eraseP (·.seq = seq) }
    match r.handler with
    | .getlinkCb _ => netdevGetlinkCb error type ifi attrs s
    | .setPoweredResult cbData => netdevSetPoweredResult error cbData s
    | .netlinkResult cbData => netlinkResult env cbData s

/-- `netdev_watch_add`: the id is the incremented `next_watch_id`. -/
def netdevWatchAdd (obj : Nat) (func userData : Owner) (s : Links) : Links × UInt32 :=
  match s.deref obj with
  | none => (s.fail, 0)
  | some n =>
    let id := n.nextWatchId + 1
    (s.setNetdev { n with nextWatchId := id, watches := n.watches ++ [⟨id, func, userData⟩] }, id)

/-- `netdev_watch_remove`: `l_queue_remove_if` takes out the first watch of the id. -/
def netdevWatchRemove (obj : Nat) (id : UInt32) (s : Links) : Links × Bool :=
  match s.deref obj with
  | none => (s.fail, false)
  | some n =>
    if n.watches.any (·.id = id) then (s.setNetdev { n with watches := n.watches.eraseP (·.id = id) }, true)
    else (s, false)

/-- `netdev_shutdown_one`: the link down and dormant no more, with the index as `user_data`,
and an interface that is up powered down with no callback. -/
def netdevShutdownOne (n : Iface) (s : Links) : Links :=
  let s := netdevSetLinkmodeAndOperstate n.index 0 ifOperDown (some (.operstateDownCb n.index)) s
  if netdevGetIsUp n then netdevSetPowered n false none s else s

/-- `netdev_shutdown`: every netdev shut down, then freed with the list, then
`eapol_pae_close`. -/
def netdevShutdown (s : Links) : Links :=
  let netdevs := s.netdevs
  let s := netdevs.foldl (fun s n => netdevShutdownOne n s) s
  let s := netdevs.foldl (fun s n => netdevFree n s) { s with netdevList := none }
  s.emit .paeClose

/-! ### Runs -/

/-- What reaches netdev.c: an interface of the initial dump, an nl80211 config message, a
route netlink link message, the reply to a request, and the owner's calls. -/
inductive Event where
  | dump (attrs : List GenlAttr)
  | config (cmd : UInt8) (attrs : List GenlAttr)
  | link (type : UInt16) (ifi : IfInfo) (attrs : Bytes)
  | reply (seq : Nat) (error : Int) (type : UInt16) (ifi : IfInfo) (attrs : Bytes)
  | watchAdd (netdev : Nat) (func userData : Owner)
  | watchRemove (netdev : Nat) (id : UInt32)
  | shutdown
  deriving DecidableEq, Repr

/-- One event; nothing runs after undefined behaviour. -/
def step (env : Env) (s : Links) (e : Event) : Links :=
  if s.undefined then s
  else
    match e with
    | .dump attrs => netdevCreateFromGenl env attrs s
    | .config cmd attrs => netdevConfigNotify env cmd attrs s
    | .link type ifi attrs => netdevLinkNotify type ifi attrs s
    | .reply seq error type ifi attrs => rtnlReply env seq error type ifi attrs s
    | .watchAdd obj func userData => (netdevWatchAdd obj func userData s).1
    | .watchRemove obj id => (netdevWatchRemove obj id s).1
    | .shutdown => netdevShutdown s

/-- A sequence of events. -/
def run (env : Env) : Links → List Event → Links
  | s, [] => s
  | s, e :: es => run env (step env s e) es


/-! ### The attributes netdev.c writes

What `rta_add_u8` writes, the `RTA_OK`/`RTA_NEXT` loop reads back. -/

theorem rtaWalk_nil : ∀ fuel, rtaWalk fuel [] = []
  | 0 => rfl
  | _ + 1 => rfl

theorem rtaLen_rtaAddU8 (type : UInt16) (value : UInt8) (rest : Bytes) :
    rtaLen (rtaAddU8 type value ++ rest) = 5 := by
  simp only [rtaLen, rtaAddU8, List.cons_append, List.getD_cons_zero, List.getD_cons_succ]
  decide

theorem rtaWalk_rtaAddU8 (type : UInt16) (value : UInt8) (rest : Bytes) (fuel : Nat) :
    rtaWalk (fuel + 1) (rtaAddU8 type value ++ rest) = (rtaAddU8 type value ++ rest) :: rtaWalk fuel rest := by
  have ok : rtaOk (rtaAddU8 type value ++ rest) = true := by
    rw [rtaOk, rtaLen_rtaAddU8]
    simp only [rtaAddU8, List.length_append, List.length_cons, Bool.and_eq_true, decide_eq_true_eq]
    omega
  rw [rtaWalk, if_pos ok, rtaLen_rtaAddU8]
  rfl

theorem rtaType_rtaAddU8 (type : UInt16) (value : UInt8) (rest : Bytes) :
    rtaType (rtaAddU8 type value ++ rest) = type := by
  have high : type.toNat / 256 < 256 := by have := type.toNat_lt_size; simp only [UInt16.size] at this; omega
  apply UInt16.toNat.inj
  simp only [rtaType, rtaAddU8, List.cons_append, List.getD_cons_succ, List.getD_cons_zero,
    UInt8.toNat_ofNat_of_lt (Nat.mod_lt _ (by decide) : type.toNat % 256 < UInt8.size),
    UInt8.toNat_ofNat_of_lt (high : type.toNat / 256 < UInt8.size), Nat.mod_add_div']
  exact UInt16.toNat_ofNat_of_lt type.toNat_lt_size

theorem rtaPayload_rtaAddU8 (type : UInt16) (value : UInt8) (rest : Bytes) :
    rtaPayload (rtaAddU8 type value ++ rest) = [value] := by
  rw [rtaPayload, rtaLen_rtaAddU8]
  rfl

/-- The attributes `rta_add_u8` writes one after another are read back, type and payload, by the
`RTA_OK`/`RTA_NEXT` loop, given a step for each. -/
theorem rtaWalk_rtaAddU8_list (attrs : List (UInt16 × UInt8)) :
    ∀ fuel, attrs.length ≤ fuel →
      (rtaWalk fuel (attrs.flatMap fun a => rtaAddU8 a.1 a.2)).map (fun attr => (rtaType attr, rtaPayload attr)) =
        attrs.map fun a => (a.1, [a.2]) := by
  induction attrs with
  | nil => intro fuel _; simp [rtaWalk_nil]
  | cons a rest ih =>
    intro fuel enough
    obtain ⟨fuel, rfl⟩ : ∃ f, fuel = f + 1 := ⟨fuel - 1, by simp at enough; omega⟩
    rw [List.flatMap_cons, rtaWalk_rtaAddU8, List.map_cons, rtaType_rtaAddU8, rtaPayload_rtaAddU8,
      ih fuel (by simp at enough; omega), List.map_cons]

/-- The message `netdev_initial_up_cb` has `netdev_set_linkmode_and_operstate` send: link mode 1,
then IF_OPER_DORMANT, sixteen bytes that the loop of `netdev_newlink_notify` reads back. -/
theorem dormant_setlink_read_back :
    [(iflaLinkmode, (1 : UInt8)), (iflaOperstate, ifOperDormant)].length ≤ 16 ∧
      (rtaWalk 16 ([(iflaLinkmode, (1 : UInt8)), (iflaOperstate, ifOperDormant)].flatMap fun a => rtaAddU8 a.1 a.2)).map
          (fun attr => (rtaType attr, rtaPayload attr)) = [(iflaLinkmode, [1]), (iflaOperstate, [ifOperDormant])] :=
  ⟨by decide, rtaWalk_rtaAddU8_list _ 16 (by decide)⟩

end Iwd.Netdev.Link
