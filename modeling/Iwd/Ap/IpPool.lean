import Mathlib.Data.List.Range

/-!
The pool of IPv4 subnets that soft-APs without an address take their address from.
`ip_pool_create` turns the `[General].APRanges` prefix into the range of third octets
`[sub_start, sub_end]`, `ip_pool_get` takes the least unused one and `ip_pool_put` returns
one. When every subnet is in use, `l_uintset_find_unused_min` answers `sub_end + 1`, which
`ip_pool_get` casts to `uint8_t`: for `sub_end = 255` that is `0`, and when `sub_start` is
`0` too, as for every prefix of 16 bits or less, subnet `0` is handed out a second time.
-/

namespace Iwd.Ap

/-- Modelled from the spec: ell's `struct l_uintset` over `[min, max]`, as the numbers it
holds (uintset.c is not among the sources). -/
structure Uintset where
  min : Nat
  max : Nat
  members : List Nat
  deriving DecidableEq, Repr

namespace Uintset

/-- Modelled from the spec: `l_uintset_new_from_range`. -/
def newFromRange (min max : Nat) : Uintset := ⟨min, max, []⟩

/-- Modelled from the spec: `l_uintset_find_unused_min`, the least number of the range not
in the set, or `max + 1` when there is none. -/
def findUnusedMin (set : Uintset) : Nat :=
  ((List.range' set.min (set.max + 1 - set.min)).find? (!set.members.contains ·)).getD (set.max + 1)

/-- Modelled from the spec: `l_uintset_put`; `false` outside the range. -/
def put (set : Uintset) (n : Nat) : Uintset × Bool :=
  if n < set.min || set.max < n then (set, false)
  else if set.members.contains n then (set, true)
  else ({ set with members := set.members ++ [n] }, true)

/-- Modelled from the spec: `l_uintset_take`; `false` outside the range. -/
def take (set : Uintset) (n : Nat) : Uintset × Bool :=
  if n < set.min || set.max < n then (set, false)
  else ({ set with members := set.members.erase n }, true)

end Uintset

/-- `struct ap_ip_pool`; `endAddr` is the field `end`. -/
structure IpPool where
  start : UInt32
  endAddr : UInt32
  prefixLen : UInt8
  subStart : UInt8
  subEnd : UInt8
  used : Uintset
  deriving DecidableEq, Repr

/-- The third octet of an address, `(ip & 0x0000ff00) >> 8`. -/
def subnetOf (ip : UInt32) : UInt8 := ((ip &&& 0x0000ff00) >>> 8).toUInt8

/-- `ip_pool_create`, from what `util_ip_prefix_tohl` made of the prefix: its length, and
the first and last address. -/
def ipPoolCreate : Option (UInt8 × UInt32 × UInt32) → Option IpPool
  | none => none
  | some (prefixLen, start, endAddr) =>
    if prefixLen > 24 then none
    else
      let subStart := subnetOf start
      let subEnd := subnetOf endAddr
      some ⟨start, endAddr, prefixLen, subStart, subEnd, .newFromRange subStart.toNat subEnd.toNat⟩

/-- `ip_pool_get`: the least unused subnet, through the `(uint8_t)` cast. -/
def ipPoolGet (pool : IpPool) : IpPool × Option UInt32 :=
  let nextSubnet : UInt8 := UInt8.ofNat pool.used.findUnusedMin
  if nextSubnet < pool.subStart || nextSubnet > pool.subEnd then (pool, none)
  else
    ({ pool with used := (pool.used.put nextSubnet.toNat).1 },
      some ((pool.start &&& (0xffff00ff : UInt32)) ||| (nextSubnet.toUInt32 <<< 8)))

/-- `ip_pool_put`, for the address `inet_aton` reads back. -/
def ipPoolPut (pool : IpPool) (address : UInt32) : IpPool × Bool :=
  let subnet := subnetOf address
  if subnet < pool.subStart || subnet > pool.subEnd then (pool, false)
  else
    let (used, taken) := pool.used.take subnet.toNat
    ({ pool with used }, taken)

/-- `n` calls of `ip_pool_get` in a row, with their results in order. -/
def ipPoolGets : Nat → IpPool → IpPool × List (Option UInt32)
  | 0, pool => (pool, [])
  | n + 1, pool =>
    let (pool, got) := ipPoolGets n pool
    let (pool, address) := ipPoolGet pool
    (pool, got ++ [address])

theorem ipPoolGets_succ (n : Nat) (pool : IpPool) :
    ipPoolGets (n + 1) pool =
      ((ipPoolGet (ipPoolGets n pool).1).1,
        (ipPoolGets n pool).2 ++ [(ipPoolGet (ipPoolGets n pool).1).2]) := rfl

/-! ### A full pool -/

theorem findUnusedMin_full (set : Uintset) (full : ∀ n, set.min ≤ n → n ≤ set.max → n ∈ set.members) :
    set.findUnusedMin = set.max + 1 := by
  have none : (List.range' set.min (set.max + 1 - set.min)).find? (!set.members.contains ·) = none :=
    List.find?_eq_none.mpr fun n mem => by
      rw [List.mem_range'_1] at mem
      simpa using full n mem.1 (by omega)
  simp only [Uintset.findUnusedMin, none, Option.getD_none]

theorem toNat_ofNat_uint8 (n : Nat) : (UInt8.ofNat n).toNat = n % 256 := by
  simp [UInt8.ofNat, UInt8.toNat, BitVec.toNat_ofNat]

theorem uint8_eq_iff_toNat (a b : UInt8) : a = b ↔ a.toNat = b.toNat :=
  ⟨congrArg UInt8.toNat, UInt8.toNat.inj⟩

theorem uint8_lt_iff_toNat (a b : UInt8) : a < b ↔ a.toNat < b.toNat := Iff.rfl

/-- On a pool whose every subnet is in use, `ip_pool_get` still hands out an address
exactly when the range is all of `0..255`, and then it is the address of subnet `0`, which
is in use. -/
theorem ipPoolGet_full (pool : IpPool) (min : pool.used.min = pool.subStart.toNat)
    (max : pool.used.max = pool.subEnd.toNat)
    (full : ∀ n, pool.subStart.toNat ≤ n → n ≤ pool.subEnd.toNat → n ∈ pool.used.members) :
    ((ipPoolGet pool).2.isSome ↔ pool.subStart = 0 ∧ pool.subEnd = 255) ∧
    ∀ address, (ipPoolGet pool).2 = some address →
      address = (pool.start &&& (0xffff00ff : UInt32)) ||| ((0 : UInt8).toUInt32 <<< 8) ∧
        0 ∈ pool.used.members := by
  have unused : pool.used.findUnusedMin = pool.subEnd.toNat + 1 := by
    rw [findUnusedMin_full _ (by simpa [min, max] using full), max]
  have wrapped := toNat_ofNat_uint8 (pool.subEnd.toNat + 1)
  have bounds := pool.subEnd.toNat_lt_size
  by_cases wraps : pool.subStart = 0 ∧ pool.subEnd = 255
  · have used : 0 ∈ pool.used.members := full 0 (by rw [wraps.1]; rfl) (Nat.zero_le _)
    simp only [ipPoolGet, unused, wraps.1, wraps.2, show UInt8.ofNat ((255 : UInt8).toNat + 1) = 0 from rfl]
    exact ⟨by simp, fun address got => ⟨(Option.some.inj got).symm, used⟩⟩
  · have rejects : (decide (UInt8.ofNat (pool.subEnd.toNat + 1) < pool.subStart) ||
        decide (UInt8.ofNat (pool.subEnd.toNat + 1) > pool.subEnd)) = true := by
      rw [uint8_eq_iff_toNat, uint8_eq_iff_toNat] at wraps
      simp only [UInt8.size] at bounds
      simp only [Bool.or_eq_true, decide_eq_true_eq, uint8_lt_iff_toNat, gt_iff_lt, wrapped]
      simp only [show (0 : UInt8).toNat = 0 from rfl, show (255 : UInt8).toNat = 255 from rfl] at wraps
      omega
    simp [ipPoolGet, unused, rejects, wraps]

/-! ### Gets from a fresh pool -/

theorem ipPoolGet_next (pool : IpPool) (min : pool.used.min = pool.subStart.toNat)
    (max : pool.used.max = pool.subEnd.toNat) (j : Nat)
    (members : pool.used.members = List.range' pool.subStart.toNat j)
    (room : pool.subStart.toNat + j ≤ pool.subEnd.toNat) :
    ipPoolGet pool =
      ({ pool with used := { pool.used with members := List.range' pool.subStart.toNat (j + 1) } },
        some ((pool.start &&& (0xffff00ff : UInt32)) |||
          ((UInt8.ofNat (pool.subStart.toNat + j)).toUInt32 <<< 8))) := by
  have split : List.range' pool.subStart.toNat (pool.subEnd.toNat + 1 - pool.subStart.toNat) =
      List.range' pool.subStart.toNat j ++
        (pool.subStart.toNat + j) :: List.range' (pool.subStart.toNat + j + 1)
          (pool.subEnd.toNat - pool.subStart.toNat - j) := by
    rw [show pool.subEnd.toNat + 1 - pool.subStart.toNat = (pool.subEnd.toNat - pool.subStart.toNat - j + 1) + j
      by omega, ← List.range'_append_1 _ j, List.range'_succ]
  have unused : pool.used.findUnusedMin = pool.subStart.toNat + j := by
    have below : (List.range' pool.subStart.toNat j).find? (!pool.used.members.contains ·) = none :=
      List.find?_eq_none.mpr fun n mem => by simpa [members] using mem
    rw [Uintset.findUnusedMin, min, max, split, List.find?_append, below]
    simp [members]
  have bounds := pool.subEnd.toNat_lt_size
  have exact : (UInt8.ofNat (pool.subStart.toNat + j)).toNat = pool.subStart.toNat + j := by
    rw [toNat_ofNat_uint8]
    exact Nat.mod_eq_of_lt (by simp only [UInt8.size] at bounds; omega)
  have inRange : (decide (UInt8.ofNat (pool.subStart.toNat + j) < pool.subStart) ||
      decide (UInt8.ofNat (pool.subStart.toNat + j) > pool.subEnd)) = false := by
    simp only [Bool.or_eq_false_iff, decide_eq_false_iff_not, uint8_lt_iff_toNat, gt_iff_lt, exact]
    omega
  have added : (pool.used.put (pool.subStart.toNat + j)).1 =
      { pool.used with members := List.range' pool.subStart.toNat (j + 1) } := by
    have fresh : pool.used.members.contains (pool.subStart.toNat + j) = false := by simp [members]
    simp [Uintset.put, min, max, fresh, Nat.not_lt.mpr room, Nat.not_lt.mpr (Nat.le_add_right _ j),
      members, List.range'_concat]
  simp only [ipPoolGet, unused, inRange, exact, added]
  rfl

theorem ipPoolGets_fresh (pool : IpPool) (min : pool.used.min = pool.subStart.toNat)
    (max : pool.used.max = pool.subEnd.toNat) (fresh : pool.used.members = []) (k : Nat)
    (room : pool.subStart.toNat + k ≤ pool.subEnd.toNat + 1) :
    ipPoolGets k pool =
      ({ pool with used := { pool.used with members := List.range' pool.subStart.toNat k } },
        (List.range' pool.subStart.toNat k).map fun n =>
          some ((pool.start &&& (0xffff00ff : UInt32)) ||| ((UInt8.ofNat n).toUInt32 <<< 8))) := by
  induction k with
  | zero => simp [ipPoolGets, ← fresh]
  | succ k ih =>
    have next := ipPoolGet_next
      { pool with used := { pool.used with members := List.range' pool.subStart.toNat k } } min max k rfl
      (show pool.subStart.toNat + k ≤ pool.subEnd.toNat by omega)
    rw [ipPoolGets_succ, ih (by omega), next]
    simp [List.range'_concat]

/-- The pool of `192.168.0.0/16`: subnets `0` to `255`. -/
def pool16 : IpPool := ⟨0xc0a80000, 0xc0a8ffff, 16, 0, 255, ⟨0, 255, []⟩⟩

/-- Every subnet of `[sub_start, sub_end]` in use does not make `ip_pool_get` return NULL
when the range is `0..255`: it then returns the address of subnet `0`, which is in use.
From `APRanges=192.168.0.0/16`, the 257th `ip_pool_get` in a row hands out
`192.168.0.0` a second time. -/
theorem ip_pool_hands_out_subnet_twice :
    (∀ pool : IpPool, pool.used.min = pool.subStart.toNat → pool.used.max = pool.subEnd.toNat →
      (∀ n, pool.subStart.toNat ≤ n → n ≤ pool.subEnd.toNat → n ∈ pool.used.members) →
      ((ipPoolGet pool).2.isSome ↔ pool.subStart = 0 ∧ pool.subEnd = 255) ∧
      ∀ address, (ipPoolGet pool).2 = some address →
        address = (pool.start &&& (0xffff00ff : UInt32)) ||| ((0 : UInt8).toUInt32 <<< 8) ∧
          0 ∈ pool.used.members) ∧
    ipPoolCreate (some (16, 0xc0a80000, 0xc0a8ffff)) = some pool16 ∧
    (ipPoolGets 256 pool16).1.used.members = List.range 256 ∧
    (ipPoolGets 257 pool16).2.head? = some (some 0xc0a80000) ∧
    (ipPoolGets 257 pool16).2.getLast? = some (some 0xc0a80000) := by
  have filled := ipPoolGets_fresh pool16 rfl rfl rfl 256 (by decide)
  have members : (ipPoolGets 256 pool16).1.used.members = List.range 256 := by
    rw [filled, List.range_eq_range']; rfl
  have full := ipPoolGet_full (ipPoolGets 256 pool16).1 (by rw [filled]; rfl) (by rw [filled]; rfl)
    fun n _ le => by rw [filled] at le; rw [members, List.mem_range]; exact Nat.lt_succ_of_le le
  obtain ⟨address, got⟩ :=
    Option.isSome_iff_exists.mp (full.1.mpr ⟨by rw [filled]; rfl, by rw [filled]; rfl⟩)
  have reissued := (full.2 address got).1
  rw [filled] at reissued
  have last : (ipPoolGets 257 pool16).2 = (ipPoolGets 256 pool16).2 ++ [some address] := by
    rw [show 257 = 256 + 1 from rfl, ipPoolGets_succ, got]
  refine ⟨fun pool min max full => ipPoolGet_full pool min max full, by decide, members, ?_, ?_⟩
  · rw [last, filled, show 256 = 255 + 1 from rfl, List.range'_succ]
    rfl
  · rw [last, List.getLast?_concat, reissued]
    rfl

end Iwd.Ap
