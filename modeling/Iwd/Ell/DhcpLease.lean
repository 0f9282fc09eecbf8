import Iwd.Settings.Format

/-!
ell's `_dhcp_lease_parse_options`, which builds the lease a DHCP client keeps from the
options of an ACK. The option loop takes the timers, the addresses, the DNS servers and the
domain name; the tail then refuses a lease without a server identifier or with a lifetime
under ten seconds, fills in the default T1 (half the lifetime) and T2 (seven eighths of it,
as `lifetime / 8 * 7`) and refuses timers out of order. Every lease it returns has a server,
a lifetime of ten seconds or more and, unless the lease is infinite, `t1 ≤ t2 ≤ lifetime`;
the defaults alone never break that order.
-/

namespace Iwd.Ell

open Iwd.Netdev (Bytes)

/-- One option `_dhcp_message_iter_next` yields: its code `t` and its `l` bytes `v`. -/
structure DhcpOption where
  code : UInt8
  data : Bytes
  deriving DecidableEq, Repr

/-- The fields of `struct l_dhcp_lease` that `_dhcp_lease_parse_options` sets. The
addresses are kept as `l_get_u32` reads them, on a little-endian host. -/
structure DhcpLease where
  lifetime : UInt32
  serverAddress : UInt32
  subnetMask : UInt32
  router : UInt32
  t1 : UInt32
  t2 : UInt32
  broadcast : UInt32
  dns : Option (List UInt32)
  domainName : Option Bytes
  deriving DecidableEq, Repr

/-- `_dhcp_lease_new`: every field zero. -/
def dhcpLeaseNew : DhcpLease := ⟨0, 0, 0, 0, 0, 0, 0, none, none⟩

/-- Modelled from the spec: the RFC 2132 option codes of dhcp.h, which is not in the
source. -/
def dhcpOptionSubnetMask : UInt8 := 1
def dhcpOptionRouter : UInt8 := 3
def dhcpOptionDomainNameServer : UInt8 := 6
def dhcpOptionDomainName : UInt8 := 15
def dhcpOptionBroadcastAddress : UInt8 := 28
def dhcpOptionIpAddressLeaseTime : UInt8 := 51
def dhcpOptionServerIdentifier : UInt8 := 54
def dhcpOptionRenewalT1Time : UInt8 := 58
def dhcpOptionRebindingT2Time : UInt8 := 59

/-- `l_get_be32`. -/
def getBe32 (v : Bytes) : UInt32 :=
  (v.take 4).foldl (fun acc b => acc * 256 + b.toUInt32) 0

/-- `l_get_u32`, on a little-endian host. -/
def getU32 (v : Bytes) : UInt32 :=
  (v.take 4).foldr (fun b acc => acc * 256 + b.toUInt32) 0

/-- Modelled from the spec: `l_net_hostname_is_root` and `l_net_hostname_is_localhost`,
of ell's net.c, which is not in the source. -/
structure HostnameChecks where
  isRoot : Bytes → Bool
  isLocalhost : Bytes → Bool

/-- The loop of the DOMAIN_NAME_SERVER case: each of the `l / 4` addresses is read from
`v + i * 4` into `dns[i]`, and `i` moves on only past a non-zero address. -/
def dnsLoop (v : Bytes) (dns : List UInt32) (i : Nat) : Nat → List UInt32
  | 0 => dns
  | k + 1 =>
    let a := getU32 (v.drop (i * 4))
    dnsLoop v (dns.set i a) (if a ≠ 0 then i + 1 else i) k

/-- The cases of the switch of `_dhcp_lease_parse_options` that store an option: a four-byte
value, or the DNS servers of a length that is a multiple of four; any other option is
skipped. -/
def dhcpLeaseStore (lease : DhcpLease) (code : UInt8) (v : Bytes) : DhcpLease :=
  let l := v.length
  if code = dhcpOptionIpAddressLeaseTime then
    if l = 4 then { lease with lifetime := getBe32 v } else lease
  else if code = dhcpOptionServerIdentifier then
    if l = 4 then { lease with serverAddress := getU32 v } else lease
  else if code = dhcpOptionSubnetMask then
    if l = 4 then { lease with subnetMask := getU32 v } else lease
  else if code = dhcpOptionRouter then
    if l = 4 then { lease with router := getU32 v } else lease
  else if code = dhcpOptionRenewalT1Time then
    if l = 4 then { lease with t1 := getBe32 v } else lease
  else if code = dhcpOptionRebindingT2Time then
    if l = 4 then { lease with t2 := getBe32 v } else lease
  else if code = dhcpOptionBroadcastAddress then
    if l = 4 then { lease with broadcast := getU32 v } else lease
  else if code = dhcpOptionDomainNameServer then
    if 4 ≤ l ∧ l % 4 = 0 then
      { lease with dns := some (dnsLoop v (List.replicate (l / 4 + 1) 0) 0 (l / 4)) } else lease
  else lease

/-- The DOMAIN_NAME case of the switch: a name of 1 to 253 bytes with no NUL before its
last byte, a trailing NUL dropped, valid UTF-8, and neither the root nor localhost. -/
def dhcpLeaseDomainName (checks : HostnameChecks) (lease : DhcpLease) (v : Bytes) : Option DhcpLease :=
  let l := v.length
  if l < 1 ∨ 253 < l then none
  else if (v.take (l - 1)).contains 0 then none
  else
    let name := v.take (if v.getD (l - 1) 0 = 0 then l - 1 else l)
    if !Iwd.Settings.utf8Validate name then none
    else if checks.isRoot name || checks.isLocalhost name then none
    else some { lease with domainName := some name }

/-- One pass of the option loop of `_dhcp_lease_parse_options`; `none` is `goto error`. -/
def dhcpLeaseOption (checks : HostnameChecks) (lease : DhcpLease) (o : DhcpOption) :
    Option DhcpLease :=
  if o.code = dhcpOptionDomainName then dhcpLeaseDomainName checks lease o.data
  else some (dhcpLeaseStore lease o.code o.data)

/-- The tail of `_dhcp_lease_parse_options`, after the option loop: the server and lifetime
checks, the default timers and their order. -/
def dhcpLeaseTimers (lease : DhcpLease) : Option DhcpLease :=
  if lease.serverAddress = 0 ∨ lease.lifetime = 0 then none
  else if lease.lifetime < 10 then none
  else if lease.lifetime = 0xffffffff then some lease
  else
    let t1 := if lease.t1 = 0 then lease.lifetime / 2 else lease.t1
    let t2 := if lease.t2 = 0 then lease.lifetime / 8 * 7 else lease.t2
    if t1 > t2 then none
    else if t2 > lease.lifetime then none
    else some { lease with t1, t2 }

/-- `_dhcp_lease_parse_options`, over the options the iterator yields in order. -/
def dhcpLeaseParseOptions (checks : HostnameChecks) (options : List DhcpOption) :
    Option DhcpLease :=
  (options.foldlM (dhcpLeaseOption checks) dhcpLeaseNew).bind dhcpLeaseTimers

/-! ### The timers -/

theorem uint32_le_iff_toNat (a b : UInt32) : a ≤ b ↔ a.toNat ≤ b.toNat := Iff.rfl

theorem uint32_lt_iff_toNat (a b : UInt32) : a < b ↔ a.toNat < b.toNat := Iff.rfl

theorem uint32_eq_iff_toNat (a b : UInt32) : a = b ↔ a.toNat = b.toNat :=
  ⟨congrArg UInt32.toNat, UInt32.toNat.inj⟩

theorem toNat_defaultT2 (lifetime : UInt32) : (lifetime / 8 * 7).toNat = lifetime.toNat / 8 * 7 := by
  have bound := lifetime.toNat_lt_size
  show (lifetime / 8).toNat * 7 % 2 ^ 32 = _
  rw [UInt32.toNat_div]
  simp only [UInt32.size] at bound
  exact Nat.mod_eq_of_lt (by show lifetime.toNat / 8 * 7 < 2 ^ 32; omega)

theorem defaultTimers_ordered {lifetime : UInt32} (long : 10 ≤ lifetime) :
    lifetime / 2 ≤ lifetime / 8 * 7 ∧ lifetime / 8 * 7 ≤ lifetime := by
  rw [uint32_le_iff_toNat, show (10 : UInt32).toNat = 10 from rfl] at long
  simp only [uint32_le_iff_toNat, UInt32.toNat_div, toNat_defaultT2]
  exact ⟨by show lifetime.toNat / 2 ≤ lifetime.toNat / 8 * 7; omega,
    by show lifetime.toNat / 8 * 7 ≤ lifetime.toNat; omega⟩

theorem dhcpLeaseTimers_some {lease lease' : DhcpLease} (h : dhcpLeaseTimers lease = some lease') :
    lease'.serverAddress ≠ 0 ∧ 10 ≤ lease'.lifetime ∧
      (lease'.lifetime ≠ 0xffffffff → lease'.t1 ≤ lease'.t2 ∧ lease'.t2 ≤ lease'.lifetime) := by
  unfold dhcpLeaseTimers at h
  by_cases absent : lease.serverAddress = 0 ∨ lease.lifetime = 0
  · rw [if_pos absent] at h; cases h
  rw [if_neg absent] at h
  by_cases short : lease.lifetime < 10
  · rw [if_pos short] at h; cases h
  rw [if_neg short] at h
  have server : lease.serverAddress ≠ 0 := fun zero => absent (.inl zero)
  by_cases infinite : lease.lifetime = 0xffffffff
  · rw [if_pos infinite] at h
    cases h
    exact ⟨server, UInt32.not_lt.mp short, fun finite => absurd infinite finite⟩
  rw [if_neg infinite] at h
  dsimp only at h
  generalize (if lease.t1 = 0 then lease.lifetime / 2 else lease.t1) = t1 at h
  generalize (if lease.t2 = 0 then lease.lifetime / 8 * 7 else lease.t2) = t2 at h
  split_ifs at h with disorder late
  cases h
  exact ⟨server, UInt32.not_lt.mp short, fun _ => ⟨UInt32.not_lt.mp disorder, UInt32.not_lt.mp late⟩⟩

theorem dhcpLeaseTimers_defaults {lease : DhcpLease} (server : lease.serverAddress ≠ 0)
    (long : 10 ≤ lease.lifetime) (noT1 : lease.t1 = 0) (noT2 : lease.t2 = 0) :
    dhcpLeaseTimers lease ≠ none := by
  have lifetime : lease.lifetime ≠ 0 := fun zero => by rw [zero] at long; exact absurd long (by decide)
  have ordered := defaultTimers_ordered long
  unfold dhcpLeaseTimers
  rw [if_neg (not_or.mpr ⟨server, lifetime⟩), if_neg (UInt32.not_lt.mpr long)]
  split
  · exact Option.some_ne_none _
  · dsimp only
    rw [if_neg (UInt32.not_lt.mpr ordered.1), if_neg (UInt32.not_lt.mpr ordered.2)]
    exact Option.some_ne_none _

theorem dhcpLeaseStore_timers (lease : DhcpLease) {code : UInt8} (v : Bytes)
    (noT1 : code ≠ dhcpOptionRenewalT1Time) (noT2 : code ≠ dhcpOptionRebindingT2Time) :
    (dhcpLeaseStore lease code v).t1 = lease.t1 ∧ (dhcpLeaseStore lease code v).t2 = lease.t2 := by
  simp only [dhcpLeaseStore, noT1, noT2, if_false, apply_ite DhcpLease.t1, apply_ite DhcpLease.t2, ite_self]
  exact ⟨trivial, trivial⟩

theorem dhcpLeaseDomainName_timers {checks : HostnameChecks} {lease lease' : DhcpLease} {v : Bytes}
    (h : dhcpLeaseDomainName checks lease v = some lease') : lease'.t1 = lease.t1 ∧ lease'.t2 = lease.t2 := by
  unfold dhcpLeaseDomainName at h
  simp only [Option.ite_none_left_eq_some, Option.some.injEq] at h
  obtain ⟨-, -, -, -, rfl⟩ := h
  exact ⟨rfl, rfl⟩

theorem dhcpLeaseOption_timers {checks : HostnameChecks} {lease lease' : DhcpLease} {o : DhcpOption}
    (noT1 : o.code ≠ dhcpOptionRenewalT1Time) (noT2 : o.code ≠ dhcpOptionRebindingT2Time)
    (h : dhcpLeaseOption checks lease o = some lease') : lease'.t1 = lease.t1 ∧ lease'.t2 = lease.t2 := by
  unfold dhcpLeaseOption at h
  split at h
  · exact dhcpLeaseDomainName_timers h
  · cases h
    exact dhcpLeaseStore_timers lease o.data noT1 noT2

theorem foldlM_dhcpLeaseOption_timers {checks : HostnameChecks} {options : List DhcpOption}
    (noTimers : ∀ o ∈ options, o.code ≠ dhcpOptionRenewalT1Time ∧ o.code ≠ dhcpOptionRebindingT2Time) :
    ∀ {lease lease' : DhcpLease}, options.foldlM (dhcpLeaseOption checks) lease = some lease' →
      lease'.t1 = lease.t1 ∧ lease'.t2 = lease.t2 := by
  induction options with
  | nil => intro lease lease' h; cases h; exact ⟨rfl, rfl⟩
  | cons o rest ih =>
    intro lease lease' h
    rw [List.foldlM_cons] at h
    obtain ⟨next, step, loop⟩ := Option.bind_eq_some.mp h
    have first := dhcpLeaseOption_timers (noTimers o (List.mem_cons_self _ _)).1
      (noTimers o (List.mem_cons_self _ _)).2 step
    have later := ih (fun o' held => noTimers o' (List.mem_cons_of_mem _ held)) loop
    exact ⟨later.1.trans first.1, later.2.trans first.2⟩

/-- Every lease `_dhcp_lease_parse_options` returns has a server identifier and a lifetime
of ten seconds or more, and a finite one has `t1 ≤ t2 ≤ lifetime`, for every sequence of
options and every answer of the hostname checks. The defaults `lifetime / 2` and
`lifetime / 8 * 7`, in 32-bit arithmetic, are in that order for every lifetime of ten
seconds or more, so a lease whose options give a server and such a lifetime but no T1 or T2
is never refused for its timers. -/
theorem dhcp_lease_timers_ordered :
    (∀ checks options lease, dhcpLeaseParseOptions checks options = some lease →
      lease.serverAddress ≠ 0 ∧ 10 ≤ lease.lifetime ∧
        (lease.lifetime ≠ 0xffffffff → lease.t1 ≤ lease.t2 ∧ lease.t2 ≤ lease.lifetime)) ∧
    (∀ lifetime : UInt32, 10 ≤ lifetime → lifetime / 2 ≤ lifetime / 8 * 7 ∧ lifetime / 8 * 7 ≤ lifetime) ∧
    (∀ checks options lease, options.foldlM (dhcpLeaseOption checks) dhcpLeaseNew = some lease →
      (∀ o ∈ options, o.code ≠ dhcpOptionRenewalT1Time ∧ o.code ≠ dhcpOptionRebindingT2Time) →
      lease.serverAddress ≠ 0 → 10 ≤ lease.lifetime → dhcpLeaseParseOptions checks options ≠ none) := by
  refine ⟨fun checks options lease parsed => ?_, fun _ long => defaultTimers_ordered long,
    fun checks options lease loop noTimers server long => ?_⟩
  · obtain ⟨looped, -, tail⟩ := Option.bind_eq_some.mp parsed
    exact dhcpLeaseTimers_some tail
  · have timers := foldlM_dhcpLeaseOption_timers noTimers loop
    rw [dhcpLeaseParseOptions, loop, Option.some_bind]
    exact dhcpLeaseTimers_defaults server long timers.1 timers.2

/-- A server identifier of 192.168.1.1 and a lease of an hour, 3600 in network byte order. -/
def hourOptions : List DhcpOption :=
  [⟨dhcpOptionServerIdentifier, [192, 168, 1, 1]⟩, ⟨dhcpOptionIpAddressLeaseTime, [0, 0, 14, 16]⟩]

/-- The hour lease passes the option loop with no timer set, and is accepted with the defaults. -/
theorem dhcp_lease_hour_accepted :
    hourOptions.foldlM (dhcpLeaseOption ⟨fun _ => false, fun _ => false⟩) dhcpLeaseNew =
        some ⟨3600, 0x0101a8c0, 0, 0, 0, 0, 0, none, none⟩ ∧
      (∀ o ∈ hourOptions, o.code ≠ dhcpOptionRenewalT1Time ∧ o.code ≠ dhcpOptionRebindingT2Time) ∧
      dhcpLeaseParseOptions ⟨fun _ => false, fun _ => false⟩ hourOptions ≠ none :=
  ⟨by decide, by decide, dhcp_lease_timers_ordered.2.2 _ _ ⟨3600, 0x0101a8c0, 0, 0, 0, 0, 0, none, none⟩
    (by decide) (by decide) (by decide) (by decide)⟩

end Iwd.Ell
