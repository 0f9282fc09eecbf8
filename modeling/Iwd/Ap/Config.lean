import Iwd.Ap.Interface
import Iwd.Ap.IpPool
import Iwd.Settings.Numbers

/-!
How a soft-AP started over D-Bus gets its passphrase and its address. `ap_dbus_start` copies
the passphrase of a `Start` call into `struct ap_config` with `l_strlcpy`;
`ap_dbus_start_profile` names a profile instead, which `ap_load_profile_and_dhcp` reads with
the settings parser of `Iwd.Settings`. `ap_setup_dhcp` and `dhcp_load_settings` then choose the
address and set up the DHCP server. What they leave is the `StartEnv` that
`Iwd.Ap.Lifecycle.apStart` takes as given (`startEnvOf`), so that a call of the interface model
runs on what a profile really holds.

A passphrase of 64 bytes or more is cut to its first 63 by `Start` but refused by
`StartProfile` with InvalidArgs (`long_passphrase_start_truncates_profile_refuses`). A profile
without a passphrase is started with `config->psk` all zero
(`profile_without_passphrase_zero_psk`). The comment above `ap_setup_dhcp` orders the sources of
the address as the profile, the interface, then the IP pool; with a profile the pool is never
asked (`profile_never_asks_ip_pool`).
-/

namespace Iwd.Ap.Config

open Iwd.Netdev (Bytes Errno)
open Iwd.Settings
open Iwd.Ell (cString writeAt lStrlcpy strvToList)

/-! ### The configuration -/

/-- The fields of `struct ap_config` that the start path reads. -/
structure ApConfig where
  ssid : Bytes
  /-- `char passphrase[64]`. -/
  passphrase : Bytes
  /-- `uint8_t psk[32]`. -/
  psk : Bytes
  /-- `config->profile` is set. -/
  profile : Bool
  deriving DecidableEq, Repr

/-- `l_new(struct ap_config, 1)` and `config->ssid = l_strdup(ssid)`: the buffers are zero. -/
def newConfig (ssid : Bytes) (profile : Bool) : ApConfig :=
  ⟨ssid, List.replicate 64 0, List.replicate 32 0, profile⟩

/-- The config `ap_dbus_start` hands to `ap_start`, with
`l_strlcpy(config->passphrase, wpa2_passphrase, sizeof(config->passphrase))`. -/
def apDbusStartConfig (ssid wpa2Passphrase : Bytes) : Option ApConfig :=
  (lStrlcpy (newConfig ssid false).passphrase wpa2Passphrase 64).map fun (buf, _) =>
    { newConfig ssid false with passphrase := buf }

/-- The config `ap_dbus_start_profile` hands to `ap_start`: `config->profile` is the path of
the profile on disk. -/
def apDbusStartProfileConfig (ssid : Bytes) : ApConfig := newConfig ssid true

/-! ### Profile and DHCP -/

/-- What `ap_load_profile_and_dhcp` and `ap_setup_dhcp` meet outside ap.c. Addresses are
`uint32_t`s in one byte order throughout. -/
structure DhcpEnv where
  /-- The bytes of the profile; `none` where `l_settings_load_from_file` cannot open, stat or
  map it. -/
  profileData : Option Bytes
  /-- `l_dhcp_server_new` returned a server. -/
  serverNew : Bool
  /-- `l_net_get_address` returned true. -/
  netGetAddress : Bool
  /-- `ia.s_addr` after `l_net_get_address`: the interface's address, or what the stack held
  where it failed. -/
  ia : UInt32
  /-- `inet_pton(AF_INET, ...)`: the address; `none` for a text that is none, where it returns
  0 and leaves `ia` as it was. -/
  inetPton : Bytes → Option UInt32
  /-- `inet_ntoa`. -/
  inetNtoa : UInt32 → Bytes
  /-- `l_dhcp_server_set_gateway`. -/
  setGateway : Bytes → Bool
  /-- `l_dhcp_server_set_dns`. -/
  setDns : List Bytes → Bool
  /-- `l_dhcp_server_set_netmask`. -/
  setNetmask : Bytes → Bool
  /-- `l_dhcp_server_set_ip_range`. -/
  setIpRange : Bytes → Bytes → Bool
  /-- `l_dhcp_server_set_lease_time`. -/
  setLeaseTime : Nat → Bool
  /-- `l_dhcp_server_set_ip_address`. -/
  setIpAddress : Bytes → Bool
  /-- `l_rtnl_ifaddr4_add` returned a command id. -/
  ifaddr4Add : Bool

/-- The fields of `struct ap_state` that profile loading and the DHCP setup write. -/
structure Setup where
  config : ApConfig
  /-- `ap->server` is set. -/
  server : Bool
  ownIp : Option Bytes
  useIpPool : Bool
  ipPrefix : Nat
  cleanupIp : Bool
  deriving DecidableEq, Repr

/-- The `ap_state` that `ap_start` allocates with `l_new`, holding the config. -/
def Setup.init (config : ApConfig) : Setup := ⟨config, false, none, false, 0, false⟩

/-- Linux's EALREADY, which `Errno` has no constructor for. -/
def ealready : Errno := .other 114

/-- Linux's EEXIST. -/
def eexist : Errno := .other 17

/-- `__builtin_popcountl` of an IPv4 netmask. -/
def popcount (n : UInt32) : Nat := (List.range 32).countP (n.toNat.testBit ·)

/-- `dhcp_load_settings`: the prefix length it leaves in `ap->ip_prefix`; `none` where the
server refuses a value or `[IPv4].IPRange` is not two addresses. A `LeaseTime` that
`l_settings_get_uint` refuses reads as 0, which sets none. -/
def dhcpLoadSettings (env : DhcpEnv) (settings : LSettings) : Option Nat :=
  let netmask := (lSettingsGetString settings (ascii "IPv4") (ascii "Netmask")).map cString
  let gateway := (lSettingsGetString settings (ascii "IPv4") (ascii "Gateway")).map cString
  let dns := (lSettingsGetStringList settings (ascii "IPv4") (ascii "DNSList") 0x2C).map strvToList
  let ipRange := (lSettingsGetStringList settings (ascii "IPv4") (ascii "IPRange") 0x2C).map strvToList
  let leaseTime := (lSettingsGetUint settings (ascii "IPv4") (ascii "LeaseTime")).getD 0
  if gateway.any (!env.setGateway ·) || dns.any (!env.setDns ·) || netmask.any (!env.setNetmask ·) then none
  else if ipRange.any fun range => match range with
      | [first, last] => !env.setIpRange first last
      | _ => true then none
  else if leaseTime != 0 && !env.setLeaseTime leaseTime then none
  else some (((netmask.bind env.inetPton).map popcount).getD 24)

/-- The address `ap_setup_dhcp` sets with a profile, and whether it is the interface's
(-EALREADY): the profile's `[IPv4].Address`, else the interface's address if it has one. -/
def profileAddress (env : DhcpEnv) (address : UInt32) (settings : LSettings) : Option (Bytes × Bool) :=
  match lSettingsGetString settings (ascii "IPv4") (ascii "Address") with
  | some addr => some (cString addr, (env.inetPton (cString addr)).getD env.ia == address)
  | none => if address != 0 then some (env.inetNtoa env.ia, true) else none

/-- `ap_setup_dhcp`: its result (`none` for 0), what it wrote, and the IP pool (`none` where
`pool.used` is NULL). -/
def apSetupDhcp (env : DhcpEnv) (pool : Option IpPool) (settings : LSettings) (setup : Setup) :
    Option Errno × Setup × Option IpPool :=
  if !env.serverNew then (some .inval, setup, pool)
  else
    let setup := { setup with server := true }
    let address : UInt32 := if env.netGetAddress && env.ia != 0 then env.ia else 0
    if setup.config.profile then
      match profileAddress env address settings with
      | none => (some .inval, setup, pool)
      | some (addr, already) =>
        match dhcpLoadSettings env settings with
        | none => (some .inval, setup, pool)
        | some ipPrefix =>
          let setup := { setup with ipPrefix := ipPrefix }
          if !env.setIpAddress addr then (some .inval, setup, pool)
          else (if already then some ealready else none, { setup with ownIp := some addr }, pool)
    else if address != 0 then (some ealready, { setup with ownIp := some (env.inetNtoa env.ia) }, pool)
    else match pool with
      | none => (some .inval, setup, pool)
      | some p =>
        match ipPoolGet p with
        | (p, none) => (some eexist, setup, some p)
        | (p, some ip) =>
          (none, { setup with ownIp := some (env.inetNtoa ip), useIpPool := true, ipPrefix := p.prefixLen.toNat },
            some p)

/-- The `[Security].Passphrase` step of `ap_load_profile_and_dhcp`: a passphrase longer than
63 bytes is refused, any other is `strcpy`d into `config->passphrase`; `none` where that would
write past the buffer. -/
def loadPassphrase (config : ApConfig) (settings : LSettings) : Option (Except Errno ApConfig) :=
  match lSettingsGetString settings (ascii "Security") (ascii "Passphrase") with
  | none => some (.ok config)
  | some passphrase =>
    if 63 < (cString passphrase).length then some (.error .inval)
    else (writeAt config.passphrase 0 (cString passphrase ++ [0])).map fun buf =>
      .ok { config with passphrase := buf }

/-- The end of `ap_load_profile_and_dhcp`, on what `ap_setup_dhcp` returned: a new address is
requested with `l_rtnl_ifaddr4_add` and waited for; -EALREADY means no wait. -/
def afterSetupDhcp (env : DhcpEnv) : Option Errno × Setup × Option IpPool → Except Errno Bool × Setup × Option IpPool
  | (none, setup, pool) =>
    if env.ifaddr4Add then (.ok true, { setup with cleanupIp := true }, pool) else (.error .io, setup, pool)
  | (some err, setup, pool) => (if err = ealready then .ok false else .error err, setup, pool)

/-- `ap_load_profile_and_dhcp`: its error or `*wait_dhcp`, what it wrote, and the IP pool;
`none` where reading the profile dereferences NULL or writes past the passphrase. -/
def apLoadProfileAndDhcp (env : DhcpEnv) (pool : Option IpPool) (setup : Setup) :
    Option (Except Errno Bool × Setup × Option IpPool) :=
  if !setup.config.profile then
    if pool.isNone then some (.ok false, setup, pool)
    else some (afterSetupDhcp env (apSetupDhcp env pool lSettingsNew setup))
  else
    (lSettingsLoadFromFile lSettingsNew env.profileData).bind fun (loaded, settings) =>
      if !loaded then some (.error .inval, setup, pool)
      else (loadPassphrase setup.config settings).map fun
        | .error err => (.error err, setup, pool)
        | .ok config =>
          let setup := { setup with config := config }
          if !lSettingsHasGroup settings (ascii "IPv4") then (.ok false, setup, pool)
          else afterSetupDhcp env (apSetupDhcp env pool settings setup)

/-- The PSK step of `ap_start`: with `config->passphrase[0]` set, `crypto_psk_from_passphrase`
writes `config->psk`; `none` where it fails. -/
def apStartPsk (cryptoPskFromPassphrase : Bytes → Bytes → Option Bytes) (config : ApConfig) : Option Bytes :=
  match cString config.passphrase with
  | [] => some config.psk
  | passphrase => cryptoPskFromPassphrase passphrase config.ssid

/-- The `Iwd.Ap.Lifecycle.StartEnv` that a config makes: the checks of `ap_start` on the
config, the result of `ap_load_profile_and_dhcp`, its server and the PSK step come from the
model above, the frame watches and netlink sends from `rest`. `none` where loading the
profile crashes. -/
def startEnvOf (env : DhcpEnv) (pool : Option IpPool) (crypto : Bytes → Bytes → Option Bytes)
    (config : ApConfig) (rest : Lifecycle.StartEnv) : Option Lifecycle.StartEnv :=
  (apLoadProfileAndDhcp env pool (Setup.init config)).map fun (result, setup, _) =>
    { rest with
      ssid := true
      credentials := config.profile || cString config.passphrase != [] || config.psk.any (· != 0)
      loadProfileAndDhcp := result
      server := setup.server
      psk := (apStartPsk crypto setup.config).isSome }

/-! ### C strings and the PSK -/

theorem zero_not_mem_cString (buf : Bytes) : (0 : UInt8) ∉ cString buf := fun held => by
  simpa using List.mem_takeWhile_imp held

theorem cString_replicate_zero (n : Nat) : cString (List.replicate n 0) = [] := by
  cases n <;> rfl

theorem apDbusStartConfig_eq (ssid wpa2Passphrase : Bytes) (noNul : (0 : UInt8) ∉ wpa2Passphrase) :
    ∃ config, apDbusStartConfig ssid wpa2Passphrase = some config ∧ config.ssid = ssid ∧
      cString config.passphrase = wpa2Passphrase.take 63 ∧ config.psk = List.replicate 32 0 ∧
      config.profile = false := by
  obtain ⟨buf, copied, -, read⟩ := Iwd.Ell.lStrlcpy_cString (by decide : 0 < 64)
    (by simp [newConfig] : 64 ≤ (newConfig ssid false).passphrase.length) noNul
  exact ⟨_, by rw [apDbusStartConfig, copied]; rfl, rfl, read, rfl, rfl⟩

theorem apStartPsk_of_ne_nil {config : ApConfig} (set : cString config.passphrase ≠ [])
    (crypto : Bytes → Bytes → Option Bytes) : apStartPsk crypto config = crypto (cString config.passphrase) config.ssid := by
  unfold apStartPsk
  split
  · contradiction
  · rfl

theorem apStartPsk_of_nil {config : ApConfig} (unset : cString config.passphrase = [])
    (crypto : Bytes → Bytes → Option Bytes) : apStartPsk crypto config = some config.psk := by
  unfold apStartPsk
  rw [unset]

/-! ### What each step writes -/

section Steps

variable (env : DhcpEnv) (pool : Option IpPool) {settings : LSettings}

theorem apSetupDhcp_profile (settings : LSettings) (setup : Setup) (profile : setup.config.profile = true) :
    (apSetupDhcp env pool settings setup).2.2 = pool ∧ (apSetupDhcp env pool settings setup).2.1.config = setup.config ∧
      (apSetupDhcp env pool settings setup).2.1.useIpPool = setup.useIpPool := by
  unfold apSetupDhcp
  by_cases server : env.serverNew = true
  · rw [if_neg (by simp [server])]
    dsimp only
    rw [if_pos profile]
    split
    · exact ⟨rfl, rfl, rfl⟩
    · split
      · exact ⟨rfl, rfl, rfl⟩
      · split_ifs <;> exact ⟨rfl, rfl, rfl⟩
  · rw [if_pos (by simpa using server)]
    exact ⟨rfl, rfl, rfl⟩

theorem apSetupDhcp_unaddressed (setup : Setup) (profile : setup.config.profile = true)
    (noAddress : lSettingsGetString settings (ascii "IPv4") (ascii "Address") = none)
    (unaddressed : (env.netGetAddress && env.ia != 0) = false) :
    ∃ setup', apSetupDhcp env pool settings setup = (some .inval, setup', pool) := by
  have none : profileAddress env 0 settings = none := by rw [profileAddress, noAddress]; rfl
  unfold apSetupDhcp
  by_cases server : env.serverNew = true
  · rw [if_neg (by simp [server])]
    dsimp only
    rw [if_pos profile, if_neg (by simp [unaddressed]), none]
    exact ⟨_, rfl⟩
  · rw [if_pos (by simpa using server)]
    exact ⟨_, rfl⟩

theorem afterSetupDhcp_kept (r : Option Errno × Setup × Option IpPool) :
    (afterSetupDhcp env r).2.2 = r.2.2 ∧ (afterSetupDhcp env r).2.1.config = r.2.1.config ∧
      (afterSetupDhcp env r).2.1.useIpPool = r.2.1.useIpPool := by
  rcases r with ⟨_ | err, setup, pool⟩
  · unfold afterSetupDhcp; split_ifs <;> exact ⟨rfl, rfl, rfl⟩
  · exact ⟨rfl, rfl, rfl⟩

theorem loadPassphrase_long {config : ApConfig} {passphrase : Bytes}
    (found : lSettingsGetString settings (ascii "Security") (ascii "Passphrase") = some passphrase)
    (long : 63 < (cString passphrase).length) : loadPassphrase config settings = some (.error .inval) := by
  rw [loadPassphrase, found]
  exact if_pos long

theorem loadPassphrase_fits (config : ApConfig) (buffer : config.passphrase.length = 64)
    (fits : (lSettingsGetString settings (ascii "Security") (ascii "Passphrase")).all
      (fun p => (cString p).length ≤ 63) = true) :
    ∃ config', loadPassphrase config settings = some (.ok config') ∧
      config' = { config with passphrase := config'.passphrase } ∧
      cString config'.passphrase =
        ((lSettingsGetString settings (ascii "Security") (ascii "Passphrase")).map cString).getD
          (cString config.passphrase) := by
  unfold loadPassphrase
  cases found : lSettingsGetString settings (ascii "Security") (ascii "Passphrase") with
  | none => exact ⟨config, rfl, rfl, rfl⟩
  | some p =>
    rw [found] at fits
    have short : (cString p).length ≤ 63 := by simpa using fits
    dsimp only
    rw [if_neg (by omega), Iwd.Ell.writeAt_zero _ _ (by simp; omega)]
    exact ⟨_, rfl, rfl, by simpa using Iwd.Ell.cString_append_zero_append (zero_not_mem_cString p) _⟩

theorem loadPassphrase_ok_profile {config config' : ApConfig}
    (passed : loadPassphrase config settings = some (.ok config')) : config'.profile = config.profile := by
  unfold loadPassphrase at passed
  split at passed
  · cases passed; rfl
  · split_ifs at passed
    · cases passed
    · obtain ⟨buf, -, same⟩ := Option.map_eq_some'.mp passed
      cases same
      rfl

theorem apLoadProfileAndDhcp_refused (setup : Setup) {err : Errno} (profile : setup.config.profile = true)
    (loaded : lSettingsLoadFromFile lSettingsNew env.profileData = some (true, settings))
    (refused : loadPassphrase setup.config settings = some (.error err)) :
    apLoadProfileAndDhcp env pool setup = some (.error err, setup, pool) := by
  rw [apLoadProfileAndDhcp, if_neg (by simp [profile]), loaded, Option.some_bind]
  simp only [Bool.not_true]
  rw [refused]
  rfl

theorem apLoadProfileAndDhcp_passed (setup : Setup) {config : ApConfig} (profile : setup.config.profile = true)
    (loaded : lSettingsLoadFromFile lSettingsNew env.profileData = some (true, settings))
    (passed : loadPassphrase setup.config settings = some (.ok config)) :
    apLoadProfileAndDhcp env pool setup = some (if !lSettingsHasGroup settings (ascii "IPv4")
      then (.ok false, { setup with config := config }, pool)
      else afterSetupDhcp env (apSetupDhcp env pool settings { setup with config := config })) := by
  rw [apLoadProfileAndDhcp, if_neg (by simp [profile]), loaded, Option.some_bind]
  simp only [Bool.not_true]
  rw [passed]
  rfl

theorem apLoadProfileAndDhcp_config (setup : Setup) {config : ApConfig} (profile : setup.config.profile = true)
    (loaded : lSettingsLoadFromFile lSettingsNew env.profileData = some (true, settings))
    (passed : loadPassphrase setup.config settings = some (.ok config)) :
    ∃ result setup', apLoadProfileAndDhcp env pool setup = some (result, setup', pool) ∧ setup'.config = config := by
  have configProfile : config.profile = true := (loadPassphrase_ok_profile passed).trans profile
  obtain ⟨poolKept, configKept, -⟩ := apSetupDhcp_profile env pool settings { setup with config := config } configProfile
  rw [apLoadProfileAndDhcp_passed env pool setup profile loaded passed]
  split
  · exact ⟨_, _, rfl, rfl⟩
  · exact ⟨_, _, congrArg some (Prod.ext rfl (Prod.ext rfl ((afterSetupDhcp_kept env _).1.trans poolKept))),
      (afterSetupDhcp_kept env _).2.1.trans configKept⟩

theorem apLoadProfileAndDhcp_profile_pool {setup setup' : Setup} {result : Except Errno Bool}
    {pool' : Option IpPool} (profile : setup.config.profile = true)
    (h : apLoadProfileAndDhcp env pool setup = some (result, setup', pool')) :
    pool' = pool ∧ setup'.useIpPool = setup.useIpPool := by
  rw [apLoadProfileAndDhcp, if_neg (by simp [profile])] at h
  obtain ⟨⟨loaded, settings⟩, -, h⟩ := Option.bind_eq_some.mp h
  cases loaded
  · cases h; exact ⟨rfl, rfl⟩
  obtain ⟨r, passed, h⟩ := Option.map_eq_some'.mp h
  rcases r with err | config
  · cases h; exact ⟨rfl, rfl⟩
  dsimp only at h
  split at h
  · cases h; exact ⟨rfl, rfl⟩
  have configProfile : config.profile = true := (loadPassphrase_ok_profile passed).trans profile
  obtain ⟨poolKept, -, useKept⟩ := apSetupDhcp_profile env pool settings { setup with config := config } configProfile
  exact ⟨(congrArg (·.2.2) h).symm.trans ((afterSetupDhcp_kept env _).1.trans poolKept),
    (congrArg (·.2.1.useIpPool) h).symm.trans ((afterSetupDhcp_kept env _).2.2.trans useKept)⟩

end Steps

theorem startEnvOf_eq {env : DhcpEnv} {pool : Option IpPool} (crypto : Bytes → Bytes → Option Bytes)
    {config : ApConfig} (rest : Lifecycle.StartEnv) {result : Except Errno Bool} {setup : Setup} {pool' : Option IpPool}
    (h : apLoadProfileAndDhcp env pool (Setup.init config) = some (result, setup, pool')) :
    startEnvOf env pool crypto config rest = some { rest with
      ssid := true
      credentials := config.profile || cString config.passphrase != [] || config.psk.any (· != 0)
      loadProfileAndDhcp := result
      server := setup.server
      psk := (apStartPsk crypto setup.config).isSome } := by
  rw [startEnvOf, h]
  rfl

theorem step_startProfile_refused {i : Interface.ApIf} (live : (i.destroyed || i.crashed) = false)
    (idle : i.pointee = none) (quiet : i.pending = none) {e : Lifecycle.StartEnv} (err : Errno)
    (checked : (e.ssid && e.credentials) = true) (failed : e.loadProfileAndDhcp = .error err) :
    (Interface.step i (.startProfile true e)).replies =
      (⟨i.received, .startProfile⟩, .error (Iwd.Dbus.dbusErrorFromErrno (some err))) :: i.replies := by
  simp only [Bool.and_eq_true] at checked
  have refused : Lifecycle.apStart e = none := by simp [Lifecycle.apStart, checked, failed]
  have errOut : Interface.apStartErrOut e = some err := by simp [Interface.apStartErrOut, checked, failed]
  have samePointee : Interface.ApIf.pointee { i with received := i.received + 1 } = none := idle
  unfold Interface.step
  rw [if_neg (by simpa using live)]
  simp only [Interface.receive, Interface.apDbusStartProfile, Interface.apDbusStart]
  rw [samePointee]
  simp only [quiet, Option.isSome_none, Bool.not_true, refused, errOut]
  rfl

/-! ### Passphrases -/

/-- A passphrase of 64 bytes or more: `Start` cuts it to its first 63 bytes and derives the PSK
from those, while `StartProfile` with a profile that holds it is answered with InvalidArgs. -/
theorem long_passphrase_start_truncates_profile_refuses (ssid passphrase : Bytes)
    (noNul : (0 : UInt8) ∉ passphrase) (long : 63 < passphrase.length) (crypto : Bytes → Bytes → Option Bytes) :
    (∃ config, apDbusStartConfig ssid passphrase = some config ∧
      apStartPsk crypto config = crypto (passphrase.take 63) ssid) ∧
    ∀ (env : DhcpEnv) (pool : Option IpPool) (settings : LSettings) (rest : Lifecycle.StartEnv) (i : Interface.ApIf),
      lSettingsLoadFromFile lSettingsNew env.profileData = some (true, settings) →
      lSettingsGetString settings (ascii "Security") (ascii "Passphrase") = some passphrase →
      (i.destroyed || i.crashed) = false → i.pointee = none → i.pending = none →
      ∃ e, startEnvOf env pool crypto (apDbusStartProfileConfig ssid) rest = some e ∧
        (Interface.step i (.startProfile true e)).replies =
          (⟨i.received, .startProfile⟩, .error Iwd.Dbus.dbusErrorInvalidArgs) :: i.replies := by
  refine ⟨?_, fun env pool settings rest i loaded found live idle quiet => ?_⟩
  · obtain ⟨config, made, rfl, copied, -, -⟩ := apDbusStartConfig_eq ssid passphrase noNul
    refine ⟨config, made, ?_⟩
    rw [apStartPsk_of_ne_nil (List.ne_nil_of_length_pos (by rw [copied]; simp; omega)), copied]
  · have refused : loadPassphrase (apDbusStartProfileConfig ssid) settings = some (.error .inval) :=
      loadPassphrase_long found (by rw [Iwd.Ell.cString_of_not_mem noNul]; exact long)
    have started := startEnvOf_eq crypto rest
      (apLoadProfileAndDhcp_refused env pool (Setup.init (apDbusStartProfileConfig ssid)) rfl loaded refused)
    exact ⟨_, started, step_startProfile_refused live idle quiet .inval (by rfl) (by rfl)⟩

/-- Sixty-four bytes `a`, one more than a WPA2 passphrase has. -/
def longPassphrase : Bytes := List.replicate 64 0x61

/-- A profile whose `[Security].Passphrase` is `longPassphrase`, and the object it loads as. -/
def longProfile : Bytes := ascii "[Security]\nPassphrase=" ++ longPassphrase ++ [0x0A]

def longProfileSettings : LSettings := ⟨[⟨ascii "Security", [⟨ascii "Passphrase", some longPassphrase⟩]⟩]⟩

/-- An interface without an address whose DHCP server takes every value, reading `data` as
its profile. -/
def profileEnv (data : Bytes) : DhcpEnv :=
  ⟨some data, true, false, 0, fun _ => none, fun _ => [], fun _ => true, fun _ => true, fun _ => true,
    fun _ _ => true, fun _ => true, fun _ => true, true⟩

/-- The long passphrase over `Start`, and in a profile over `StartProfile` on a new interface. -/
theorem long_passphrase_sixty_four :
    (∃ config, apDbusStartConfig (ascii "Net") longPassphrase = some config ∧
      apStartPsk (fun _ _ => none) config = none) ∧
    ∃ e, startEnvOf (profileEnv longProfile) none (fun _ _ => none) (apDbusStartProfileConfig (ascii "Net"))
        Interface.directStart = some e ∧
      (Interface.step Interface.apIfNew (.startProfile true e)).replies =
        [(⟨0, .startProfile⟩, .error Iwd.Dbus.dbusErrorInvalidArgs)] :=
  have main := long_passphrase_start_truncates_profile_refuses (ascii "Net") longPassphrase (by decide) (by decide)
    (fun _ _ => none)
  ⟨main.1, main.2 (profileEnv longProfile) none longProfileSettings Interface.directStart Interface.apIfNew
    (by decide) (by decide) rfl rfl rfl⟩

/-- A profile with no passphrase, or an empty one, starts an AP with an all-zero
`config->psk`: `ap_start` lets the profile stand for the credentials, and with
`config->passphrase[0]` unset it keeps the `config->psk` that `l_new` zeroed. -/
theorem profile_without_passphrase_zero_psk (ssid : Bytes) (env : DhcpEnv) (pool : Option IpPool)
    (settings : LSettings) (crypto : Bytes → Bytes → Option Bytes) (rest : Lifecycle.StartEnv)
    (loaded : lSettingsLoadFromFile lSettingsNew env.profileData = some (true, settings))
    (noPassphrase : (lSettingsGetString settings (ascii "Security") (ascii "Passphrase")).all
      (fun p => (cString p).isEmpty) = true) :
    ∃ result setup pool', apLoadProfileAndDhcp env pool (Setup.init (apDbusStartProfileConfig ssid)) =
        some (result, setup, pool') ∧ apStartPsk crypto setup.config = some (List.replicate 32 0) ∧
      ∃ e, startEnvOf env pool crypto (apDbusStartProfileConfig ssid) rest = some e ∧
        e.credentials = true ∧ e.psk = true := by
  have fits : (lSettingsGetString settings (ascii "Security") (ascii "Passphrase")).all
      (fun p => (cString p).length ≤ 63) = true := by
    cases found : lSettingsGetString settings (ascii "Security") (ascii "Passphrase") <;> simp_all
  have empty : ((lSettingsGetString settings (ascii "Security") (ascii "Passphrase")).map cString).getD [] = [] := by
    cases found : lSettingsGetString settings (ascii "Security") (ascii "Passphrase") <;> simp_all
  obtain ⟨config, passed, kept, read⟩ := loadPassphrase_fits (apDbusStartProfileConfig ssid) rfl fits
  rw [show cString (apDbusStartProfileConfig ssid).passphrase = [] from cString_replicate_zero 64, empty] at read
  obtain ⟨result, setup, loadedAll, rfl⟩ :=
    apLoadProfileAndDhcp_config env pool (Setup.init (apDbusStartProfileConfig ssid)) rfl loaded passed
  have zero : apStartPsk crypto setup.config = some (List.replicate 32 0) := by
    rw [apStartPsk_of_nil read, kept]
    rfl
  exact ⟨result, setup, pool, loadedAll, zero, _, startEnvOf_eq crypto rest loadedAll, rfl, by simp [zero]⟩

/-- A profile with an `[IPv4]` group and nothing else. -/
def ipv4Profile : Bytes := ascii "[IPv4]\n"

def ipv4ProfileSettings : LSettings := ⟨[⟨ascii "IPv4", []⟩]⟩

/-- The `[IPv4]` profile, which holds no passphrase. -/
theorem profile_without_passphrase_ipv4 :
    ∃ result setup pool', apLoadProfileAndDhcp (profileEnv ipv4Profile) none
        (Setup.init (apDbusStartProfileConfig (ascii "Net"))) = some (result, setup, pool') ∧
      apStartPsk (fun _ _ => none) setup.config = some (List.replicate 32 0) ∧
      ∃ e, startEnvOf (profileEnv ipv4Profile) none (fun _ _ => none) (apDbusStartProfileConfig (ascii "Net"))
          Interface.directStart = some e ∧ e.credentials = true ∧ e.psk = true :=
  profile_without_passphrase_zero_psk (ascii "Net") (profileEnv ipv4Profile) none ipv4ProfileSettings
    (fun _ _ => none) Interface.directStart (by decide) (by decide)

/-! ### The IP pool -/

/-- The comment above `ap_setup_dhcp` takes the address from the profile, else from the
interface, else from the IP pool. With a profile the pool is never asked: it stays as it was
and `ap->use_ip_pool` stays false, so a profile with an `[IPv4]` group and no `Address`, on an
interface without an address, fails with -EINVAL. Without a profile the same interface takes
the pool's next subnet. -/
theorem profile_never_asks_ip_pool (env : DhcpEnv) (pool : IpPool) :
    (∀ (config : ApConfig) (result : Except Errno Bool) (setup : Setup) (pool' : Option IpPool),
      config.profile = true → apLoadProfileAndDhcp env (some pool) (Setup.init config) = some (result, setup, pool') →
      pool' = some pool ∧ setup.useIpPool = false) ∧
    (∀ (ssid : Bytes) (settings : LSettings),
      lSettingsLoadFromFile lSettingsNew env.profileData = some (true, settings) →
      lSettingsHasGroup settings (ascii "IPv4") = true →
      lSettingsGetString settings (ascii "IPv4") (ascii "Address") = none →
      (env.netGetAddress && env.ia != 0) = false →
      ∃ setup, apLoadProfileAndDhcp env (some pool) (Setup.init (apDbusStartProfileConfig ssid)) =
        some (.error .inval, setup, some pool)) ∧
    (∀ (config : ApConfig) (ip : UInt32), config.profile = false → env.serverNew = true →
      env.ifaddr4Add = true → (env.netGetAddress && env.ia != 0) = false → (ipPoolGet pool).2 = some ip →
      ∃ setup, apLoadProfileAndDhcp env (some pool) (Setup.init config) =
          some (.ok true, setup, some (ipPoolGet pool).1) ∧
        setup.ownIp = some (env.inetNtoa ip) ∧ setup.useIpPool = true) := by
  refine ⟨fun config result setup pool' profile h => apLoadProfileAndDhcp_profile_pool env (some pool) profile h,
    fun ssid settings loaded ipv4 noAddress unaddressed => ?_,
    fun config ip profile server added unaddressed taken => ?_⟩
  · by_cases fits : (lSettingsGetString settings (ascii "Security") (ascii "Passphrase")).all
        (fun p => (cString p).length ≤ 63) = true
    · obtain ⟨config, passed, kept, -⟩ := loadPassphrase_fits (apDbusStartProfileConfig ssid) rfl fits
      have configProfile : config.profile = true := by rw [kept]; rfl
      obtain ⟨setup', refused⟩ := apSetupDhcp_unaddressed env (some pool)
        { Setup.init (apDbusStartProfileConfig ssid) with config := config } configProfile noAddress unaddressed
      rw [apLoadProfileAndDhcp_passed env (some pool) _ rfl loaded passed, ipv4, refused]
      exact ⟨setup', rfl⟩
    · obtain ⟨passphrase, found, long⟩ : ∃ passphrase,
          lSettingsGetString settings (ascii "Security") (ascii "Passphrase") = some passphrase ∧
            63 < (cString passphrase).length := by
        cases found : lSettingsGetString settings (ascii "Security") (ascii "Passphrase") <;> simp_all
      exact ⟨_, apLoadProfileAndDhcp_refused env (some pool) _ rfl loaded (loadPassphrase_long found long)⟩
  · rcases got : ipPoolGet pool with ⟨pool', _ | ip'⟩
    · rw [got] at taken; cases taken
    rw [got] at taken
    cases taken
    have loadedAll : apLoadProfileAndDhcp env (some pool) (Setup.init config) = some (.ok true,
        ⟨config, true, some (env.inetNtoa ip), true, pool'.prefixLen.toNat, true⟩, some pool') := by
      simp only [apLoadProfileAndDhcp, Setup.init, profile, Bool.not_false, if_true, Option.isNone_some,
        Bool.false_eq_true, if_false, apSetupDhcp, server, Bool.not_true, unaddressed, got]
      simp [afterSetupDhcp, added]
    exact ⟨_, loadedAll, rfl, rfl⟩

/-- The pool of the `/16` prefix, with the `[IPv4]` profile and without a profile. -/
theorem profile_never_asks_pool16 :
    (∃ setup, apLoadProfileAndDhcp (profileEnv ipv4Profile) (some pool16)
        (Setup.init (apDbusStartProfileConfig (ascii "Net"))) = some (.error .inval, setup, some pool16)) ∧
    ∃ setup, apLoadProfileAndDhcp (profileEnv ipv4Profile) (some pool16) (Setup.init (newConfig (ascii "Net") false)) =
        some (.ok true, setup, some (ipPoolGet pool16).1) ∧
      setup.ownIp = some ((profileEnv ipv4Profile).inetNtoa 0xc0a80000) ∧ setup.useIpPool = true :=
  have main := profile_never_asks_ip_pool (profileEnv ipv4Profile) pool16
  ⟨main.2.1 (ascii "Net") ipv4ProfileSettings (by decide) (by decide) (by decide) rfl,
    main.2.2 _ 0xc0a80000 rfl rfl rfl rfl (by decide)⟩

end Iwd.Ap.Config
