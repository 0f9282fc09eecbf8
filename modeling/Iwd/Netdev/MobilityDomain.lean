import Iwd.Netdev.Consistency

/-!
The Mobility Domain element of a fast transition. `netdev_fast_transition` builds the FT
Authentication request with the target's MDE and copies the target's MDID and FT
capability into `handshake->mde`; the Authentication response check, the Reassociation
request and the Reassociation response check then all use `handshake->mde`. From a
well-formed stored MDE every one of them is the same five bytes, for as long as the
transition is under way and no other transition is accepted.
-/

namespace Iwd.Netdev

theorem copyMdid_wellFormed {mde target : Bytes} (length : mde.length = 5)
    (header : mde.take 2 = [ieTypeMobilityDomain, 3]) (targetLength : target.length = 3) :
    copyMdid mde target = [ieTypeMobilityDomain, 3] ++ target := by
  unfold copyMdid
  rw [header, List.take_of_length_le (by omega), List.drop_of_length_le (by omega),
    List.append_nil]

theorem elementBytes_mobilityDomain {t : Bytes} (h : t.length = 3) :
    elementBytes ([ieTypeMobilityDomain, 3] ++ t) = [ieTypeMobilityDomain, 3] ++ t := by
  obtain ⟨a, b, c, rfl⟩ := List.length_eq_three.mp h
  rfl

theorem mdeEchoes_mobilityDomain {t : Bytes} (h : t.length = 3) (m : Ie) :
    mdeEchoes ([ieTypeMobilityDomain, 3] ++ t) m = true ↔
      m.raw.take 5 = [ieTypeMobilityDomain, 3] ++ t := by
  obtain ⟨a, b, c, rfl⟩ := List.length_eq_three.mp h
  have five : (([ieTypeMobilityDomain, 3] ++ [a, b, c]).getD 1 0).toNat + 2 = 5 := rfl
  simp only [mdeEchoes, memEq, five, beq_iff_eq]
  exact eq_comm

theorem mdeMatches_mobilityDomain {t : Bytes} (h : t.length = 3) (mde : Option Ie) :
    mdeMatches (some ([ieTypeMobilityDomain, 3] ++ t)) mde = true ↔
      ∃ m, mde = some m ∧ m.raw.take 5 = [ieTypeMobilityDomain, 3] ++ t := by
  cases mde with
  | none => simp [mdeMatches]
  | some m => simpa [mdeMatches] using mdeEchoes_mobilityDomain h m

theorem netdevBuildCmdFtAuthenticate_mde {c : Codec} {bss : ScanBss} {hs : Handshake}
    {cmd : Cmd} (built : netdevBuildCmdFtAuthenticate c bss hs = some cmd) :
    ∃ ies, cmd = .authenticateFt bss.addr ies ∧ ftAuthenticateMde bss ∈ ies := by
  unfold netdevBuildCmdFtAuthenticate at built
  split at built
  · simp only [Option.map_eq_some'] at built
    obtain ⟨_, -, rfl⟩ := built
    exact ⟨_, rfl, by simp⟩
  · cases built
    exact ⟨_, rfl, by simp⟩

theorem netdevBuildCmdFtReassociate_mde {c : Codec} {hs : Handshake} {prev : Mac} {cmd : Cmd}
    {mde : Bytes} (stored : hs.mde = some mde)
    (built : netdevBuildCmdFtReassociate c hs prev = some (some cmd)) :
    ∃ ies, cmd = .associateFt hs.aa prev ies ∧ elementBytes mde ∈ ies := by
  unfold netdevBuildCmdFtReassociate at built
  split at built
  · cases built
  · simp only [stored, Option.map_some', Option.some.injEq] at built
    split at built
    · simp only [Option.map_eq_some'] at built
      obtain ⟨_, -, rfl⟩ := built
      exact ⟨_, rfl, by simp⟩
    · cases built
      exact ⟨_, rfl, by simp⟩

theorem netdevFastTransition_accepted {c : Codec} {target : ScanBss} {cb : Option Owner}
    {snonce : Bytes} {w : World} {hs : Handshake} {mde : Bytes}
    (current : w.netdev.handshake = some hs) (stored : hs.mde = some mde)
    (accepted : (netdevFastTransition c target cb snonce w).log.head? =
      some (.returned .fastTransition none)) :
    (∃ id ies, Effect.sent id (.authenticateFt target.addr ies) ∈
      (netdevFastTransition c target cb snonce w).log ∧ ftAuthenticateMde target ∈ ies) ∧
    (netdevFastTransition c target cb snonce w).netdev.handshake.map Handshake.mde =
      some (some (copyMdid mde target.mde)) := by
  revert accepted
  simp only [netdevFastTransition, current, stored]
  split
  · simp
  split
  · simp
  split
  · simp
  next cmd built =>
  split
  · simp
  next sent =>
  intro _
  obtain ⟨ies, rfl, mem⟩ := netdevBuildCmdFtAuthenticate_mde built
  exact ⟨⟨_, ies, by simpa using World.sent_mem_send_log _ _ _ sent, mem⟩, by simp⟩

/-- FT MDE echo: after `netdev_fast_transition` returns 0 on a connection whose stored MDE
is a well-formed Mobility Domain element, the FT Authentication request carries
`[54, 3, mde[0], mde[1], mde[2]]` of the target; and in every later world of the
transition, until another transition is accepted, the MDE the Authentication response is
compared with, the MDE of the Reassociation request, and the MDE the Reassociation
response must match are those same five bytes. -/
theorem fast_transition_mde_echo (c : Codec) (w : World) (reachable : Reachable c w)
    (alive : w.crashed = false) (target : ScanBss) (cb : Option Owner) (snonce : Bytes)
    (hs : Handshake) (mde : Bytes) (current : w.netdev.handshake = some hs)
    (stored : hs.mde = some mde)
    (wellFormed : mde.length = 5 ∧ mde.take 2 = [ieTypeMobilityDomain, 3])
    (accepted : (step c w (.call (.fastTransition target cb snonce))).log.head? =
      some (.returned .fastTransition none)) :
    let w₁ := step c w (.call (.fastTransition target cb snonce))
    let e := [ieTypeMobilityDomain, 3] ++ target.mde
    (∃ id ies, Effect.sent id (.authenticateFt target.addr ies) ∈ w₁.log ∧ e ∈ ies) ∧
    ∀ actions, ftStarts (run c w₁ actions) = ftStarts w₁ →
      (run c w₁ actions).netdev.inFt = true →
      ∀ hs₂, (run c w₁ actions).netdev.handshake = some hs₂ →
        (∃ sent, hs₂.mde = some sent ∧ ∀ m : Ie, mdeEchoes sent m = true ↔ m.raw.take 5 = e) ∧
        (∀ prev cmd, netdevBuildCmdFtReassociate c hs₂ prev = some (some cmd) →
          ∃ ies, cmd = .associateFt hs₂.aa prev ies ∧ e ∈ ies) ∧
        (∀ mde : Option Ie, mdeMatches hs₂.mde mde = true ↔
          ∃ m, mde = some m ∧ m.raw.take 5 = e) := by
  have called : step c w (.call (.fastTransition target cb snonce)) =
      netdevFastTransition c target cb snonce w := by
    simp only [step, alive]; rfl
  rw [called] at accepted
  simp only [called]
  obtain ⟨request, copied⟩ := netdevFastTransition_accepted current stored accepted
  have copiedMde : copyMdid mde target.mde = [ieTypeMobilityDomain, 3] ++ target.mde :=
    copyMdid_wellFormed wellFormed.1 wellFormed.2 target.mde_length
  refine ⟨request, fun actions same inFt hs₂ current₂ => ?_⟩
  have session : FtMde ([ieTypeMobilityDomain, 3] ++ target.mde)
      (netdevFastTransition c target cb snonce w).netdev := by
    intro _ hs₁ current₁
    simpa [current₁, copiedMde] using copied
  have consistent := (called ▸ reachable.step (.call (.fastTransition target cb snonce))).consistent
  have stored₂ := (evolves_run c _ actions).ftMde _ consistent session same inFt hs₂ current₂
  refine ⟨⟨_, stored₂, mdeEchoes_mobilityDomain target.mde_length⟩, fun prev cmd built => ?_, ?_⟩
  · rw [← elementBytes_mobilityDomain target.mde_length]
    exact netdevBuildCmdFtReassociate_mde stored₂ built
  · rw [stored₂]
    exact mdeMatches_mobilityDomain target.mde_length

/-- A station on an open network of mobility domain `34 12`. -/
def mdStation : Mac := [2, 0, 0, 0, 0, 1]

/-- The handshake the station connects with: no RSNE, the domain's MDE. -/
def mdHandshake : Handshake :=
  ⟨none, none, some [ieTypeMobilityDomain, 3, 0x34, 0x12, 0x01], none, [], [], [], [], [], [],
    [], [], .ccmp, .ccmp, .bip⟩

/-- The BSS the station joins and the one it moves to. -/
def mdFirstBss : ScanBss := ⟨[2, 0, 0, 0, 0, 2], 2412, none, [0x34, 0x12, 0x01], true, rfl⟩

def mdTargetBss : ScanBss := ⟨[2, 0, 0, 0, 0, 3], 2437, none, [0x34, 0x12, 0x01], true, rfl⟩

/-- Connect, the CONNECT reply, the association with the domain's MDE echoed, the link
coming up, and the return from the OK callback. -/
def mdJoin : List Action :=
  [.call (.connect mdFirstBss mdHandshake none (some 1) none), .event (.reply 1 none),
    .event (.notify (.connect [.statusCode [0, 0],
      .respIe [⟨ieTypeMobilityDomain, [0x34, 0x12, 0x01], by decide⟩]])),
    .event (.linkReply true), .ret]

theorem fast_transition_mde_echo_joined :
    let w := run openCodec (World.initial mdStation) mdJoin
    let w₁ := step openCodec w (.call (.fastTransition mdTargetBss none []))
    let e := [ieTypeMobilityDomain, 3] ++ mdTargetBss.mde
    (Reachable openCodec w ∧ w.crashed = false ∧
      w.netdev.handshake = some { mdHandshake with aa := mdFirstBss.addr, spa := mdStation } ∧
      w₁.log.head? = some (.returned .fastTransition none)) ∧
    (∃ id ies, Effect.sent id (.authenticateFt mdTargetBss.addr ies) ∈ w₁.log ∧ e ∈ ies) ∧
    ∀ actions, ftStarts (run openCodec w₁ actions) = ftStarts w₁ →
      (run openCodec w₁ actions).netdev.inFt = true →
      ∀ hs₂, (run openCodec w₁ actions).netdev.handshake = some hs₂ →
        (∃ sent, hs₂.mde = some sent ∧ ∀ m : Ie, mdeEchoes sent m = true ↔ m.raw.take 5 = e) ∧
        (∀ prev cmd, netdevBuildCmdFtReassociate openCodec hs₂ prev = some (some cmd) →
          ∃ ies, cmd = .associateFt hs₂.aa prev ies ∧ e ∈ ies) ∧
        (∀ mde : Option Ie, mdeMatches hs₂.mde mde = true ↔
          ∃ m, mde = some m ∧ m.raw.take 5 = e) :=
  ⟨⟨(Reachable.initial mdStation).run mdJoin, rfl, rfl, rfl⟩,
    fast_transition_mde_echo openCodec _ ((Reachable.initial mdStation).run mdJoin) rfl
      mdTargetBss none [] _ _ rfl rfl ⟨rfl, rfl⟩ rfl⟩

end Iwd.Netdev
