import Iwd.Ap.HandshakeWindow

/-!
Association IDs. `ap_handle_new_station` and both copies of `ap_assoc_reassoc` draw an
AID with `sta->aid = ++ap->last_aid`: nothing bounds it by 2007 and nothing returns an
AID when its station goes. A station that the kernel reports with NEW_STATION and that
then deauthenticates uses up one AID per round, so the AIDs run past 2007 and, after the
`uint16_t` counter wraps, come back to those of stations that are still associated.
-/

namespace Iwd.Ap

open Iwd.Netdev (Bytes Mac Ie)

/-! ### What the two handlers do to the station queue -/

theorem apHandleNewStation_appends (c : Codec) (s : ApState) (attrs : List NewStationAttr)
    (stale : Mac) (rsne : Bytes) (rates : List Nat) (mac : Mac)
    (parsed : attrs.foldl (newStationAttrStep c) (some ⟨none, none, stale⟩) =
      some ⟨some rsne, some rates, mac⟩)
    (absent : s.findSta mac = none) :
    ∃ pending nextId log, apHandleNewStation c s attrs stale =
      { s with
          stations := s.stations ++ [{ Station.fresh s.nextHandle (mac.take 6) with
            assocRsne := some rsne, rates := some rates, aid := s.lastAid + 1, associated := true }]
          nextHandle := s.nextHandle + 1
          lastAid := s.lastAid + 1
          pending, nextId, log } := by
  simp only [apHandleNewStation, parsed, absent]
  exact ⟨_, _, _, rfl⟩

theorem apDelStation_requests (s : ApState) (sta : Station) (reason : ReasonCode)
    (disassociate : Bool) :
    ∃ pending log, (apDelStation s sta reason disassociate).1 = { s with pending, log } := by
  dsimp only [apDelStation]; split_ifs <;> exact ⟨_, _, rfl⟩

theorem apStaFree_requests (s : ApState) (sta : Station) :
    ∃ pending, apStaFree s sta = { s with pending } := by
  unfold apStaFree; split_ifs <;> exact ⟨_, rfl⟩

theorem apDeauthCb_removes_last (cfg : Config) (s : ApState) (hdr : Header) (reason : UInt16)
    (l : List Station) (sta : Station) (toAp : toBss cfg hdr = true)
    (stations : s.stations = l ++ [sta]) (own : macEq sta.addr hdr.addr2 = true)
    (others : ∀ t ∈ l, macEq t.addr hdr.addr2 = false) :
    ∃ pending log, apDeauthCb cfg s hdr reason = { s with stations := l, pending, log } := by
  have notInL : ∀ t ∈ l, ¬(macEq t.addr hdr.addr2 = true) := by simpa using others
  have found : s.findSta hdr.addr2 = some sta := by
    simp [ApState.findSta, stations, List.find?_append, List.find?_eq_none.mpr notInL, own]
  have erased : s.stations.eraseP (macEq ·.addr hdr.addr2) = l := by
    simp [stations, List.eraseP_append_right _ notInL, own]
  obtain ⟨pending, log, deleted⟩ :=
    apDelStation_requests { s with stations := l } sta (.other reason) false
  obtain ⟨pending', freed⟩ :=
    apStaFree_requests { s with stations := l, pending, log } (apDelStation { s with stations := l } sta (.other reason) false).2
  simp only [apDeauthCb, toAp, found, erased, Bool.not_true, Bool.false_eq_true, ↓reduceIte, deleted, freed]
  exact ⟨_, _, rfl⟩

/-! ### One station coming and going -/

/-- The RSNE of the station `stationM` of the sample runs. -/
def rsneM : Ie :=
  ⟨48, [1, 0, 0x00, 0x0f, 0xac, 4, 1, 0, 0x00, 0x0f, 0xac, 4, 1, 0, 0x00, 0x0f, 0xac, 2, 0, 0],
    by decide⟩

/-- Extended Supported Rates of 6, 9, 12 and 18 Mb/s. -/
def extRatesM : Ie := ⟨50, [0x0c, 0x12, 0x18, 0x24], by decide⟩

/-- The kernel reports a station `mac` that associated through the driver's own SME. -/
def newStationOf (mac : Mac) : Event := .newStation [.ie [rsneM, extRatesM], .mac mac] []

/-- The record `ap_handle_new_station` makes for `stationM`. -/
def joinedM (handle : Nat) (aid : UInt16) : Station :=
  { Station.fresh handle stationM with
    assocRsne := some rsneM.raw, rates := some [12, 18, 24, 36], aid, associated := true }

/-- NEW_STATION for `stationM`, then its Deauthentication. -/
def aidCycles : Nat → List Event
  | 0 => []
  | n + 1 => newStationOf stationM :: .frame (.deauth fromM 3) :: aidCycles n

/-- States in which `stationM` is not in the queue and the run goes on. -/
def Idle (s : ApState) : Prop := s.crashed = false ∧ ∀ sta ∈ s.stations, macEq sta.addr stationM = false

theorem newStationOf_stationM (s : ApState) (idle : Idle s) :
    ∃ pending nextId log, step sampleCodec sampleCfg s (newStationOf stationM) =
      { s with
          stations := s.stations ++ [joinedM s.nextHandle (s.lastAid + 1)]
          nextHandle := s.nextHandle + 1
          lastAid := s.lastAid + 1
          pending, nextId, log } := by
  have absent : s.findSta stationM = none :=
    List.find?_eq_none.mpr fun sta mem => by simp [idle.2 sta mem]
  obtain ⟨pending, nextId, log, added⟩ := apHandleNewStation_appends sampleCodec s
    [.ie [rsneM, extRatesM], .mac stationM] [] rsneM.raw [12, 18, 24, 36] stationM rfl absent
  simp only [step, idle.1, Bool.false_eq_true, ↓reduceIte, runEvent, newStationOf, added]
  exact ⟨_, _, _, rfl⟩

theorem run_aidCycle (s : ApState) (idle : Idle s) :
    ∃ pending nextId log, run sampleCodec sampleCfg s (aidCycles 1) =
      { s with lastAid := s.lastAid + 1, nextHandle := s.nextHandle + 1, pending, nextId, log } := by
  obtain ⟨pending, nextId, log, joined⟩ := newStationOf_stationM s idle
  obtain ⟨pending', log', left⟩ := apDeauthCb_removes_last sampleCfg
    { s with
      stations := s.stations ++ [joinedM s.nextHandle (s.lastAid + 1)]
      nextHandle := s.nextHandle + 1
      lastAid := s.lastAid + 1
      pending, nextId, log }
    fromM 3 s.stations _ rfl rfl rfl idle.2
  simp only [aidCycles, run_cons, run_nil]
  rw [joined]
  simp only [idle.1] at left
  simp only [step, idle.1, Bool.false_eq_true, ↓reduceIte, runEvent, runFrame, left]
  exact ⟨_, _, _, rfl⟩

theorem toNat_add_one_wraps (a : UInt16) : (a + 1).toNat = (a.toNat + 1) % 65536 := by
  simp [UInt16.add_def, UInt16.toNat, BitVec.toNat_add]

theorem run_aidCycles (n : Nat) (s : ApState) (idle : Idle s) :
    ∃ lastAid pending nextId log, lastAid.toNat = (s.lastAid.toNat + n) % 65536 ∧
      run sampleCodec sampleCfg s (aidCycles n) =
        { s with lastAid, nextHandle := s.nextHandle + n, pending, nextId, log } := by
  induction n generalizing s with
  | zero => exact ⟨s.lastAid, s.pending, s.nextId, s.log, (Nat.mod_eq_of_lt s.lastAid.toNat_lt_size).symm, rfl⟩
  | succ n ih =>
    obtain ⟨pending, nextId, log, round⟩ := run_aidCycle s idle
    obtain ⟨lastAid, pending', nextId', log', counted, rest⟩ :=
      ih (run sampleCodec sampleCfg s (aidCycles 1)) (by rw [round]; exact idle)
    rw [round] at counted rest
    refine ⟨lastAid, pending', nextId', log', ?_, ?_⟩
    · rw [counted, toNat_add_one_wraps]
      omega
    · rw [show aidCycles (n + 1) = aidCycles 1 ++ aidCycles n from rfl, run_append, round, rest]
      simp only [Nat.add_assoc, Nat.add_comm 1 n]

theorem aid_after_cycles (n : Nat) (s : ApState) (idle : Idle s) :
    ∃ sta ∈ (run sampleCodec sampleCfg s (aidCycles n ++ [newStationOf stationM])).stations,
      sta.addr = stationM ∧ sta.associated = true ∧
      sta.aid.toNat = (s.lastAid.toNat + n + 1) % 65536 ∧
      ∀ t ∈ s.stations, t ∈ (run sampleCodec sampleCfg s (aidCycles n ++ [newStationOf stationM])).stations := by
  obtain ⟨lastAid, pending, nextId, log, counted, rounds⟩ := run_aidCycles n s idle
  obtain ⟨pending', nextId', log', joined⟩ := newStationOf_stationM
    { s with lastAid, nextHandle := s.nextHandle + n, pending, nextId, log } idle
  rw [run_append, rounds, run_cons, run_nil, joined]
  refine ⟨joinedM (s.nextHandle + n) (lastAid + 1), by simp, rfl, rfl, ?_, fun t mem => by simp [mem]⟩
  simp only [joinedM, toNat_add_one_wraps, counted]
  omega

/-- A station that stays associated throughout. -/
def stationX : Mac := [0x02, 0x44, 0x44, 0x44, 0x44, 0x44]

/-- 2007 rounds of `stationM`, then NEW_STATION once more. -/
def aidPastRange : ApState :=
  run sampleCodec sampleCfg ApState.initial (aidCycles 2007 ++ [newStationOf stationM])

/-- `stationX` joins, then 65535 rounds of `stationM`, then NEW_STATION once more. -/
def aidReused : ApState :=
  run sampleCodec sampleCfg ApState.initial
    (newStationOf stationX :: (aidCycles 65535 ++ [newStationOf stationM]))

/-- AIDs are neither bounded by 2007 nor distinct. The 2008th station gets AID 2008, and
once `last_aid` has wrapped a new station gets AID 1 while the station that got AID 1 at
first is still associated. -/
theorem aid_exceeds_range_and_repeats :
    (∃ sta ∈ aidPastRange.stations, sta.associated = true ∧ sta.aid.toNat = 2008) ∧
    (∃ x ∈ aidReused.stations, ∃ m ∈ aidReused.stations, x.addr = stationX ∧ m.addr = stationM ∧
      x.associated = true ∧ m.associated = true ∧ x.aid = 1 ∧ m.aid = 1) := by
  constructor
  · rw [aidPastRange]
    obtain ⟨sta, mem, -, associated, aid, -⟩ :=
      aid_after_cycles 2007 ApState.initial ⟨rfl, by simp [ApState.initial]⟩
    exact ⟨sta, mem, associated, aid⟩
  · rw [aidReused, run_cons]
    have joinedX : ∃ x ∈ (step sampleCodec sampleCfg ApState.initial (newStationOf stationX)).stations,
        x.addr = stationX ∧ x.associated = true ∧ x.aid = 1 := by
      decide
    obtain ⟨x, memX, addrX, associatedX, aidX⟩ := joinedX
    obtain ⟨m, memM, addrM, associatedM, aidM, kept⟩ := aid_after_cycles 65535
      (step sampleCodec sampleCfg ApState.initial (newStationOf stationX)) ⟨rfl, by decide⟩
    have wrapped : m.aid.toNat = (1 : UInt16).toNat := by simpa using aidM
    exact ⟨x, kept x memX, m, memM, addrX, addrM, associatedX, associatedM, aidX,
      UInt16.toNat.inj wrapped⟩

end Iwd.Ap
