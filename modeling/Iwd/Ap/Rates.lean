import Iwd.Ap.Frames

/-!
The Supported Rates element the AP advertises. `ap_build_beacon_pr_head` and
`ap_assoc_resp` walk `ap->rates` from its least to its greatest rate and stop after eight,
marking only the first with the Basic Rate bit `0x80`; for every rate set below 128 that is the
eight least rates in ascending order, with the least, the rate `ap_common_rates` requires of
every station, as the one Basic Rate. The copy of `ap_build_beacon_pr_head` in netdev.c never
increments `count`: it writes every rate of the set and marks each of them Basic.
-/

namespace Iwd.Ap

open Iwd.Netdev (Bytes)

/-- Modelled from the spec: `l_uintset_find_min` and `l_uintset_find_max` of `ap->rates`.
For the empty set they cross, and the loops below run no pass. -/
def rateBounds (rates : List Nat) : Option (Nat × Nat) :=
  match rates.min?, rates.max? with
  | some minr, some maxr => some (minr, maxr)
  | _, _ => none

/-- `uint8_t flag`: `0x80` while no rate has been counted. -/
def basicRateFlag (count : Nat) : Nat := if count = 0 then 0x80 else 0

/-- The rate loop of `ap_build_beacon_pr_head` and `ap_assoc_resp`,
`for (r = minr; r <= maxr && count < 8; r++)`, with `n` values of `r` left: the bytes
`r | flag` it writes and the final `count`. -/
def apRatesLoop (rates : List Nat) : (r n count : Nat) → Bytes × Nat
  | _, 0, count => ([], count)
  | r, n + 1, count =>
    if count < 8 then
      if rates.contains r then
        let written := apRatesLoop rates (r + 1) n (count + 1)
        ((r ||| basicRateFlag count).toUInt8 :: written.1, written.2)
      else apRatesLoop rates (r + 1) n count
    else ([], count)

/-- The loop of the copy of `ap_build_beacon_pr_head` in netdev.c, whose body has no
`count++`. -/
def netdevBeaconRatesLoop (rates : List Nat) : (r n count : Nat) → Bytes
  | _, 0, _ => []
  | r, n + 1, count =>
    if count < 8 then
      if rates.contains r then (r ||| basicRateFlag count).toUInt8 :: netdevBeaconRatesLoop rates (r + 1) n count
      else netdevBeaconRatesLoop rates (r + 1) n count
    else []

/-- The Supported Rates element as ap.c writes it: the type, `count` as the length, and the
rates the loop wrote. -/
def supportedRatesElement (rates : List Nat) : Bytes :=
  match rateBounds rates with
  | some (minr, maxr) =>
    let (written, count) := apRatesLoop rates minr (maxr + 1 - minr) 0
    [ieTypeSupportedRates, count.toUInt8] ++ written
  | none => [ieTypeSupportedRates, 0]

/-- The Supported Rates element of `ap_build_beacon_pr_head`, set by
`ie_tlv_builder_set_length(&builder, count)`. -/
def apBuildBeaconPrHeadRates (rates : List Nat) : Bytes := supportedRatesElement rates

/-- The Supported Rates element of `ap_assoc_resp` (the same in both copies): `ies[0]` the
type, `ies[1] = count`, the rates from `ies[2]`. -/
def apAssocRespRates (rates : List Nat) : Bytes := supportedRatesElement rates

/-- The Supported Rates element of the netdev.c copy of `ap_build_beacon_pr_head`, whose
length is `rates - ie_tlv_builder_get_data(&builder)`, the bytes written. -/
def netdevBuildBeaconPrHeadRates (rates : List Nat) : Bytes :=
  match rateBounds rates with
  | some (minr, maxr) =>
    let written := netdevBeaconRatesLoop rates minr (maxr + 1 - minr) 0
    [ieTypeSupportedRates, written.length.toUInt8] ++ written
  | none => [ieTypeSupportedRates, 0]

/-! ### What the element should list -/

/-- The rates of the set below 128, in ascending order. -/
def ascendingRates (rates : List Nat) : List Nat := (List.range 128).filter (rates.contains ·)

/-- The rates as bytes, the first with the Basic Rate bit. -/
def markFirstBasic : List Nat → Bytes
  | [] => []
  | r :: rest => (r + 0x80).toUInt8 :: rest.map Nat.toUInt8

/-- The element the AP should advertise: its eight least rates in ascending order, the least
as the only Basic Rate, and their number as the length. -/
def supportedRatesSpec (rates : List Nat) : Bytes :=
  [ieTypeSupportedRates, ((ascendingRates rates).take 8).length.toUInt8] ++
    markFirstBasic ((ascendingRates rates).take 8)

/-- The rates an element marks as Basic. -/
def basicRates (element : Bytes) : List Nat :=
  ((element.drop 2).filter (0x80 ≤ ·)).map fun b => b.toNat - 0x80

/-! ### The loops -/

section Loops

variable {rates : List Nat}

theorem or_basicRateFlag {r : Nat} (small : r < 128) (count : Nat) :
    r ||| basicRateFlag count = r + basicRateFlag count := by
  have table : ∀ r < 128, r ||| 0x80 = r + 0x80 := by decide
  by_cases first : count = 0
  · rw [basicRateFlag, if_pos first, table r small]
  · rw [basicRateFlag, if_neg first, Nat.or_zero, Nat.add_zero]

/-- The rates of the set from `r` on, in the order the loops meet them. -/
def ratesFrom (rates : List Nat) (r n : Nat) : List Nat := (List.range' r n).filter (rates.contains ·)

theorem ratesFrom_succ (r n : Nat) :
    ratesFrom rates r (n + 1) = if rates.contains r then r :: ratesFrom rates (r + 1) n
      else ratesFrom rates (r + 1) n := by
  rw [ratesFrom, List.range'_succ, List.filter_cons]
  rfl

theorem apRatesLoop_eq (below : ∀ x ∈ rates, x < 128) (r n count : Nat) (atMost : count ≤ 8) :
    apRatesLoop rates r n count =
      (if count = 0 then markFirstBasic ((ratesFrom rates r n).take (8 - count))
        else ((ratesFrom rates r n).take (8 - count)).map Nat.toUInt8,
       count + ((ratesFrom rates r n).take (8 - count)).length) := by
  induction n generalizing r count with
  | zero => simp [apRatesLoop, ratesFrom, markFirstBasic]
  | succ n ih =>
    rw [apRatesLoop, ratesFrom_succ]
    by_cases room : count < 8
    · rw [if_pos room]
      by_cases mem : rates.contains r
      · have small : r < 128 := below r (List.elem_iff.mp mem)
        obtain ⟨k, hk⟩ : ∃ k, 8 - count = k + 1 := ⟨7 - count, by omega⟩
        rw [if_pos mem, if_pos mem, ih _ _ (by omega), hk, List.take_succ_cons,
          show 8 - (count + 1) = k by omega, or_basicRateFlag small, if_neg (Nat.succ_ne_zero count)]
        by_cases first : count = 0
        · simp [first, basicRateFlag, markFirstBasic]
          omega
        · simp [first, basicRateFlag]
          omega
      · rw [if_neg mem, if_neg mem, ih _ _ atMost]
    · obtain rfl : count = 8 := by omega
      simp

theorem netdevBeaconRatesLoop_eq (below : ∀ x ∈ rates, x < 128) (r n : Nat) :
    netdevBeaconRatesLoop rates r n 0 = (ratesFrom rates r n).map fun r => (r + 0x80).toUInt8 := by
  induction n generalizing r with
  | zero => rfl
  | succ n ih =>
    rw [netdevBeaconRatesLoop, ratesFrom_succ, if_pos (by decide)]
    by_cases mem : rates.contains r
    · rw [if_pos mem, if_pos mem, ih, or_basicRateFlag (below r (List.elem_iff.mp mem))]
      rfl
    · rw [if_neg mem, if_neg mem, ih]

end Loops

/-! ### The elements -/

section Elements

variable {rates : List Nat}

theorem rateBounds_eq_some {minr maxr : Nat} :
    rateBounds rates = some (minr, maxr) ↔ rates.min? = some minr ∧ rates.max? = some maxr := by
  unfold rateBounds
  split <;> simp_all

theorem ratesFrom_rateBounds (below : ∀ x ∈ rates, x < 128) {minr maxr : Nat}
    (bounds : rateBounds rates = some (minr, maxr)) :
    ratesFrom rates minr (maxr + 1 - minr) = ascendingRates rates := by
  obtain ⟨least, greatest⟩ := rateBounds_eq_some.mp bounds
  obtain ⟨leastMem, leastLe⟩ := List.min?_eq_some_iff'.mp least
  obtain ⟨greatestMem, leGreatest⟩ := List.max?_eq_some_iff'.mp greatest
  have ordered : minr ≤ maxr := leGreatest minr leastMem
  have small : maxr < 128 := below maxr greatestMem
  have whole : List.range 128 = List.range' 0 minr ++ List.range' (0 + minr) (maxr + 1 - minr) ++
      List.range' (0 + minr + (maxr + 1 - minr)) (127 - maxr) := by
    rw [List.append_assoc, List.range'_append_1, List.range'_append_1, List.range_eq_range']
    congr 1
    omega
  have inside : ∀ x, rates.contains x = true → minr ≤ x ∧ x ≤ maxr := fun x mem =>
    ⟨leastLe x (List.elem_iff.mp mem), leGreatest x (List.elem_iff.mp mem)⟩
  have belowLeast : (List.range' 0 minr).filter (rates.contains ·) = [] :=
    List.filter_eq_nil_iff.mpr fun x range mem => by
      have := inside x mem; simp only [List.mem_range'_1] at range; omega
  have aboveGreatest : (List.range' (minr + (maxr + 1 - minr)) (127 - maxr)).filter (rates.contains ·) = [] :=
    List.filter_eq_nil_iff.mpr fun x range mem => by
      have := inside x mem; simp only [List.mem_range'_1] at range; omega
  rw [ascendingRates, whole, List.filter_append, List.filter_append, Nat.zero_add, belowLeast,
    aboveGreatest, List.nil_append, List.append_nil, ratesFrom]

theorem rateBounds_of_ne_nil (nonempty : rates ≠ []) :
    ∃ minr maxr, rateBounds rates = some (minr, maxr) := by
  obtain ⟨minr, least⟩ := Option.ne_none_iff_exists'.mp (mt List.min?_eq_none_iff.mp nonempty)
  obtain ⟨maxr, greatest⟩ := Option.ne_none_iff_exists'.mp (mt List.max?_eq_none_iff.mp nonempty)
  exact ⟨minr, maxr, by rw [rateBounds, least, greatest]⟩

theorem supportedRatesElement_eq (nonempty : rates ≠ []) (below : ∀ x ∈ rates, x < 128) :
    supportedRatesElement rates = supportedRatesSpec rates := by
  obtain ⟨minr, maxr, bounds⟩ := rateBounds_of_ne_nil nonempty
  simp only [supportedRatesElement, bounds]
  rw [apRatesLoop_eq below _ _ _ (by decide), ratesFrom_rateBounds below bounds, supportedRatesSpec]
  simp

theorem netdevBuildBeaconPrHeadRates_eq (nonempty : rates ≠ []) (below : ∀ x ∈ rates, x < 128) :
    netdevBuildBeaconPrHeadRates rates = [ieTypeSupportedRates, (ascendingRates rates).length.toUInt8] ++
      (ascendingRates rates).map fun r => (r + 0x80).toUInt8 := by
  obtain ⟨minr, maxr, bounds⟩ := rateBounds_of_ne_nil nonempty
  simp only [netdevBuildBeaconPrHeadRates, bounds]
  rw [netdevBeaconRatesLoop_eq below, ratesFrom_rateBounds below bounds]
  simp

theorem toNat_toUInt8 (n : Nat) : n.toUInt8.toNat = n % 256 := rfl

theorem rateByte_basic {x : Nat} (small : x < 128) :
    0x80 ≤ (x + 0x80).toUInt8 ∧ (x + 0x80).toUInt8.toNat - 0x80 = x := by
  have value : (x + 0x80).toUInt8.toNat = x + 0x80 := by rw [toNat_toUInt8]; omega
  exact ⟨show 128 ≤ (x + 0x80).toUInt8.toNat by omega, by omega⟩

theorem rateByte_plain {x : Nat} (small : x < 128) : ¬0x80 ≤ x.toUInt8 := by
  show ¬128 ≤ x.toUInt8.toNat
  rw [toNat_toUInt8]
  omega

theorem basicRates_markFirstBasic (n : UInt8) {sel : List Nat} (below : ∀ x ∈ sel, x < 128) :
    basicRates ([ieTypeSupportedRates, n] ++ markFirstBasic sel) = sel.take 1 := by
  match sel, below with
  | [], _ => rfl
  | r :: rest, below =>
    have small := below r (List.mem_cons_self r rest)
    have plain : (rest.map Nat.toUInt8).filter (0x80 ≤ ·) = [] :=
      List.filter_eq_nil_iff.mpr fun b mem => by
        obtain ⟨x, xMem, rfl⟩ := List.mem_map.mp mem
        simpa using rateByte_plain (below x (List.mem_cons_of_mem r xMem))
    simp only [basicRates, markFirstBasic, List.cons_append, List.nil_append, List.drop_succ_cons,
      List.drop_zero, List.filter_cons, (rateByte_basic small).1, decide_True, if_true, plain,
      List.map_cons, List.map_nil, List.take_succ_cons, List.take_zero, (rateByte_basic small).2]

theorem basicRates_allBasic (n : UInt8) {sel : List Nat} (below : ∀ x ∈ sel, x < 128) :
    basicRates ([ieTypeSupportedRates, n] ++ sel.map fun r => (r + 0x80).toUInt8) = sel := by
  rw [basicRates, List.cons_append, List.cons_append, List.nil_append, List.drop_succ_cons,
    List.drop_succ_cons, List.drop_zero, List.filter_map,
    List.filter_eq_self.mpr fun x mem => by simpa using (rateByte_basic (below x mem)).1, List.map_map]
  calc sel.map ((fun b : UInt8 => b.toNat - 0x80) ∘ fun r => (r + 0x80).toUInt8)
      = sel.map id := List.map_congr_left fun x mem => (rateByte_basic (below x mem)).2
    _ = sel := List.map_id sel

theorem ascendingRates_take_one (below : ∀ x ∈ rates, x < 128) {minr maxr : Nat}
    (bounds : rateBounds rates = some (minr, maxr)) : (ascendingRates rates).take 1 = [minr] := by
  obtain ⟨least, greatest⟩ := rateBounds_eq_some.mp bounds
  have leastMem := (List.min?_eq_some_iff'.mp least).1
  have ordered := (List.max?_eq_some_iff'.mp greatest).2 minr leastMem
  rw [← ratesFrom_rateBounds below bounds, show maxr + 1 - minr = (maxr - minr) + 1 by omega,
    ratesFrom_succ, if_pos (List.elem_iff.mpr leastMem)]
  rfl

theorem apCommonRates_eq_basicRates (nonempty : rates ≠ []) (below : ∀ x ∈ rates, x < 128)
    (staRates : List Nat) :
    apCommonRates rates staRates = (basicRates (supportedRatesSpec rates)).all (staRates.contains ·) := by
  obtain ⟨minr, maxr, bounds⟩ := rateBounds_of_ne_nil nonempty
  have ascending : ∀ x ∈ (ascendingRates rates).take 8, x < 128 := fun x mem => by
    have := List.mem_of_mem_take mem
    simp only [ascendingRates, List.mem_filter, List.mem_range] at this
    exact this.1
  rw [supportedRatesSpec, basicRates_markFirstBasic _ ascending, List.take_take, Nat.min_def, if_pos (by decide),
    ascendingRates_take_one below bounds, apCommonRates, (rateBounds_eq_some.mp bounds).1]
  simp

end Elements

/-- ap.c's two builders advertise, for every non-empty rate set below 128, the eight least
rates in ascending order with the least as the one Basic Rate, which is the rate
`ap_common_rates` requires. The netdev.c copy of `ap_build_beacon_pr_head` lists every rate
and marks each as Basic: for the CCK rate set it advertises 5.5 and 11 Mb/s as Basic while
`ap_common_rates` admits a station with 1 Mb/s alone, and for nine rates it writes nine. -/
theorem netdev_beacon_marks_every_rate_basic :
    (∀ rates : List Nat, rates ≠ [] → (∀ r ∈ rates, r < 128) →
      apBuildBeaconPrHeadRates rates = supportedRatesSpec rates ∧
      apAssocRespRates rates = supportedRatesSpec rates ∧
      (∀ staRates, apCommonRates rates staRates =
        (basicRates (apBuildBeaconPrHeadRates rates)).all (staRates.contains ·)) ∧
      netdevBuildBeaconPrHeadRates rates = [ieTypeSupportedRates, (ascendingRates rates).length.toUInt8] ++
        (ascendingRates rates).map (fun r => (r + 0x80).toUInt8) ∧
      basicRates (netdevBuildBeaconPrHeadRates rates) = ascendingRates rates) ∧
    (∀ cfg : Config, cfg.noCckRates = false →
      apBuildBeaconPrHeadRates (apRates cfg) = [1, 3, 130, 11, 22] ∧
      netdevBuildBeaconPrHeadRates (apRates cfg) = [1, 3, 130, 139, 150] ∧
      apCommonRates (apRates cfg) [2] = true) ∧
    netdevBuildBeaconPrHeadRates (List.range' 2 9) = [1, 9, 130, 131, 132, 133, 134, 135, 136, 137, 138] := by
  refine ⟨fun rates nonempty below => ?_, fun cfg cck => ?_, by decide⟩
  · have ascending : ∀ x ∈ ascendingRates rates, x < 128 := fun x mem => by
      simp only [ascendingRates, List.mem_filter, List.mem_range] at mem
      exact mem.1
    refine ⟨supportedRatesElement_eq nonempty below, supportedRatesElement_eq nonempty below,
      fun staRates => ?_, netdevBuildBeaconPrHeadRates_eq nonempty below, ?_⟩
    · rw [apBuildBeaconPrHeadRates, supportedRatesElement_eq nonempty below]
      exact apCommonRates_eq_basicRates nonempty below staRates
    · rw [netdevBuildBeaconPrHeadRates_eq nonempty below, basicRates_allBasic _ ascending]
  · rw [apRates, if_neg (by simp [cck])]
    decide

end Iwd.Ap
