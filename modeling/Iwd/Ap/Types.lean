import Iwd.Netdev.Types

/-!
Data of the soft-AP side of `src/src/ap.c`: the per-station record `struct sta_state`,
the PBC probe records, the configuration the handlers read, and the results of the
parsers of ie.c and wscutil.c that ap.c calls. The same functions appear a second time
in `src/src/netdev.c` (lines 3300 to 5451); for the PBC records and the WSC branch of
the association handler the two texts agree, so one model covers both.
-/

namespace Iwd.Ap

open Iwd.Netdev (Bytes Mac Ie Errno Cipher memEq zeros)

/-- `enum mmpdu_reason_code`, as ap.c passes it: the named codes it writes and any code a
received frame carries. -/
inductive ReasonCode where
  | success | unspecified | invalidIe | invalidPairwiseCipher | invalidAkmp
  | class3FrameFromNonassocSta | staReqAssocWithoutAuth | disassocApBusy
  | other (code : UInt16)
  deriving DecidableEq, Repr

/-- `struct ap_wsc_pbc_probe_record`. -/
structure PbcRecord where
  mac : Mac
  uuidE : Bytes
  timestamp : UInt64
  deriving DecidableEq, Repr

/-- The fields of `struct wsc_probe_request` that ap.c reads. -/
structure WscProbeRequest where
  configMethods : UInt16
  devicePasswordId : UInt16
  uuidE : Bytes
  deriving DecidableEq, Repr

/-- `enum wsc_request_type`. -/
inductive WscRequestType where
  | enrolleeInfo | enrolleeOpen8021x | registrar | wlanManagerRegistrar
  deriving DecidableEq, Repr

/-- The fields of `struct wsc_association_request` that ap.c reads. -/
structure WscAssociationRequest where
  requestType : WscRequestType
  version2 : Bool
  deriving DecidableEq, Repr

/-- The fields of `struct ie_rsn_info` that `ap_assoc_reassoc` checks; the cipher and AKM
sets are bitmaps. -/
structure RsnInfo where
  mfpr : Bool
  sppAMsduRequired : Bool
  pairwiseCiphers : Nat
  akmSuites : Nat
  deriving DecidableEq, Repr

/-- Modelled from the spec: the PBC bit of the WSC Configuration Methods attribute
(wscutil.h is not among the sources; any single bit serves the model). -/
def wscConfigurationMethodPushButton : UInt16 := 0x0080

/-- Modelled from the spec: the PBC Device Password ID, `0x0004` in scenario S3. -/
def wscDevicePasswordIdPushButton : UInt16 := 0x0004

/-- Modelled from the spec: the AKM bitmap `parse_rsne` yields for PSK alone. -/
def ieRsnAkmSuitePsk : Nat := 2

/-- Modelled from the spec: the Open System authentication algorithm number. -/
def mmpduAuthAlgoOpenSystem : UInt16 := 0

/-- Modelled from the spec: the Element IDs of 802.11-2016 Table 9-77 that ap.c switches
on (ie.h is not among the sources). -/
def ieTypeSsid : UInt8 := 0

/-- Modelled from the spec: Element ID of Supported Rates. -/
def ieTypeSupportedRates : UInt8 := 1

/-- Modelled from the spec: Element ID of the DSSS Parameter Set. -/
def ieTypeDsssParameterSet : UInt8 := 3

/-- Modelled from the spec: Element ID of Extended Supported Rates. -/
def ieTypeExtendedSupportedRates : UInt8 := 50

/-- Modelled from the spec: Element ID of the SSID List. -/
def ieTypeSsidList : UInt8 := 84

/-- What ap.c uses of ie.c and wscutil.c, which are not among the sources. -/
structure Codec where
  /-- `ie_tlv_iter_init` and `ie_tlv_iter_next` over a byte buffer. -/
  ieTlvIter : Bytes → List Ie
  /-- `ie_tlv_extract_wsc_payload`: the WSC payload of a list of elements, if any. -/
  ieTlvExtractWscPayload : List Ie → Option Bytes
  /-- `ie_parse_rsne` on one element; `none` is a negative return. -/
  ieParseRsne : Ie → Option RsnInfo
  /-- `wsc_parse_probe_request`. -/
  wscParseProbeRequest : Bytes → Option WscProbeRequest
  /-- `wsc_parse_association_request`. -/
  wscParseAssociationRequest : Bytes → Option WscAssociationRequest

/-- `enum ie_rsn_cipher_suite` as the group cipher of `struct ap_state`. -/
inductive GroupCipher where
  | noGroupTraffic
  | suite (cipher : Cipher)
  deriving DecidableEq, Repr

/-- What the handlers read of `struct ap_config` and of the AP's fixed setup in
`ap_start`. -/
structure Config where
  ssid : Bytes
  channel : UInt8
  /-- `netdev_get_address(ap->netdev)`, the BSSID. -/
  bssid : Mac
  authorizedMacs : List Mac
  noCckRates : Bool
  /-- `ap->ciphers`, a bitmap of pairwise suites. -/
  ciphers : Nat
  groupCipher : GroupCipher
  deriving DecidableEq, Repr

/-- The rate set `ap_start` puts in `ap->rates`, in units of 500 kb/s. -/
def apRates (cfg : Config) : List Nat :=
  if cfg.noCckRates then [12, 18, 24, 36, 48, 72, 96, 108] else [2, 11, 22]

/-- Which handshake event function `sta->hs` calls. -/
inductive HsKind where
  | rsna | wsc
  deriving DecidableEq, Repr

/-- `struct sta_state`. `handle` is the identity of the allocation, which the callbacks
hold as their `user_data`. -/
structure Station where
  handle : Nat
  addr : Mac
  associated : Bool
  rsna : Bool
  aid : UInt16
  capability : UInt16
  listenInterval : UInt16
  rates : Option (List Nat)
  assocRespCmdId : Nat
  assocIes : Option (List Ie)
  assocRsne : Option Bytes
  sm : Bool
  hs : Option HsKind
  gtkQueryCmdId : Nat
  stopHandshakeWork : Bool
  wscSettings : Bool
  wscUuidE : Bytes
  wscV2 : Bool
  deriving DecidableEq

/-- `l_new(struct sta_state, 1)` with its address set. -/
def Station.fresh (handle : Nat) (addr : Mac) : Station :=
  ⟨handle, addr, false, false, 0, 0, 0, none, 0, none, none, false, none, 0, false, false,
    [], false⟩

end Iwd.Ap
