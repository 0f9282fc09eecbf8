import Mathlib.Data.List.Basic

/-!
Data of the station side of `src/src/netdev.c`: the elements it compares byte by
byte, the handshake fields it reads and writes, the results and events it reports,
and the functions of files outside the modelled sources that it calls.
-/

namespace Iwd.Netdev

/-- A byte string, a `const uint8_t *` with its length. -/
abbrev Bytes := List UInt8

/-- A MAC address, `uint8_t[ETH_ALEN]`. -/
abbrev Mac := List UInt8

/-- `enum netdev_result`, the outcome handed to `connect_cb`. -/
inductive NetdevResult where
  | ok | authenticationFailed | associationFailed | handshakeFailed | keySettingFailed | aborted
  deriving DecidableEq, Repr

/-- `enum netdev_event`, handed to the event filter. -/
inductive NetdevEvent where
  | associating | fourWayHandshake | settingKeys | lostBeacon | disconnectByAp
  | disconnectBySme | rssiThresholdLow | rssiThresholdHigh
  deriving DecidableEq, Repr

/-- The reason codes netdev.c writes into a DEAUTHENTICATE; EAPoL may pass any other. -/
inductive ReasonCode where
  | unspecified | deauthLeaving | other (code : Nat)
  deriving DecidableEq, Repr

/-- The errno values netdev.c returns or forwards; `other` is any further kernel error. -/
inductive Errno where
  | notconn | inval | io | isconn | inprogress | nomem | busy | timedout | nodev | opnotsupp
  | other (code : Nat)
  deriving DecidableEq, Repr

/-- `enum crypto_cipher`. -/
inductive Cipher where
  | wep40 | wep104 | tkip | ccmp | bip
  deriving DecidableEq, Repr

/-- One element as `ie_tlv_iter_next` yields it: a tag and at most 255 bytes of data. -/
structure Ie where
  tag : UInt8
  data : Bytes
  data_short : data.length < 256
  deriving DecidableEq

/-- The element with its two header bytes, `ie_tlv_iter_get_data(&iter) - 2`. -/
def Ie.raw (e : Ie) : Bytes := e.tag :: UInt8.ofNat e.data.length :: e.data

/-- Modelled from the spec: the Element IDs of 802.11-2016 Table 9-77 that netdev.c
switches on (ie.h is not among the sources; the spec's FT scenario shows the MDE as
`36 03 ...`). -/
def ieTypeRsn : UInt8 := 48

/-- Modelled from the spec: Element ID of the Mobility Domain element. -/
def ieTypeMobilityDomain : UInt8 := 54

/-- Modelled from the spec: Element ID of the Fast BSS Transition element. -/
def ieTypeFastBssTransition : UInt8 := 55

/-- `memcmp(a, b, n) == 0`, read as equality of the first `n` bytes of each buffer. -/
def memEq (a b : Bytes) (n : Nat) : Bool := a.take n == b.take n

/-- The element stored at `e`, `e[1] + 2` bytes long, as netdev.c copies or compares it. -/
def elementBytes (e : Bytes) : Bytes := e.take ((e.getD 1 0).toNat + 2)

/-- `n` zero bytes. -/
def zeros (n : Nat) : Bytes := List.replicate n 0

/-- The fields of `struct handshake_state` that netdev.c reads or writes. -/
structure Handshake where
  ownIe : Option Bytes
  apIe : Option Bytes
  mde : Option Bytes
  fte : Option Bytes
  aa : Mac
  spa : Mac
  snonce : Bytes
  anonce : Bytes
  pmkR0Name : Bytes
  pmkR1Name : Bytes
  r0khid : Bytes
  r1khid : Bytes
  pairwiseCipher : Cipher
  groupCipher : Cipher
  groupManagementCipher : Cipher
  deriving DecidableEq, Repr

/-- `is_rsn` as every netdev.c function computes it: `hs->own_ie != NULL`. -/
def Handshake.isRsn (hs : Handshake) : Bool := hs.ownIe.isSome

/-- The `struct scan_bss` fields netdev.c reads. -/
structure ScanBss where
  addr : Mac
  frequency : Nat
  rsne : Option Bytes
  mde : Bytes
  mdePresent : Bool
  mde_length : mde.length = 3
  deriving DecidableEq

/-- A parsed RSNE (`struct ie_rsn_info`): netdev.c rewrites only the PMKID list, so the
other fields stay one opaque encoding. -/
structure RsnInfo where
  fields : Bytes
  pmkids : List Bytes
  deriving DecidableEq, Repr

/-- A GTK or IGTK subelement of an FTE. -/
structure FtKey where
  keyId : Nat
  len : Nat
  key : Bytes
  rsc : Bytes
  deriving DecidableEq, Repr

/-- A parsed FTE (`struct ie_ft_info`); a key of length zero is `none`. -/
structure FtInfo where
  micElementCount : Nat
  mic : Bytes
  anonce : Bytes
  snonce : Bytes
  r0khid : Bytes
  r1khid : Option Bytes
  gtk : Option FtKey
  igtk : Option FtKey
  deriving DecidableEq, Repr

/-- The functions of ie.c, ftutil.c, handshake.c, wscutil.c and crypto.c that netdev.c
calls. Those files are not among the modelled sources, so the model takes them as a
parameter and every statement holds for any choice of them. -/
structure Codec where
  cipherKeyLen : Cipher → Nat
  parseRsne : Bytes → Option RsnInfo
  buildRsne : RsnInfo → Bytes
  apIeMatches : Bytes → Option Bytes → Bool
  parseFte : Bytes → Option FtInfo
  buildFte : FtInfo → Bytes
  fteMic : Handshake → Nat → Option Bytes → Bytes → Option Bytes
  decodeFteKey : Handshake → Bytes → Option Bytes
  parseAuthenticationResp : Bytes → Mac → Mac → Option (Nat × Option (List Ie))
  wscAssociationIe : Option Bytes

/-- A codec for runs on open networks: it parses no RSNE, FTE or Authentication frame and
builds empty ones; the key lengths are those of WEP-40, WEP-104, TKIP, CCMP and BIP. -/
def openCodec : Codec where
  cipherKeyLen
    | .wep40 => 5
    | .wep104 => 13
    | .tkip => 32
    | .ccmp => 16
    | .bip => 16
  parseRsne _ := none
  buildRsne _ := []
  apIeMatches _ _ := false
  parseFte _ := none
  buildFte _ := []
  fteMic _ _ _ _ := none
  decodeFteKey _ _ := none
  parseAuthenticationResp _ _ _ := none
  wscAssociationIe := none

end Iwd.Netdev
