import Iwd.Ap.ProbeRecords

/-!
The PBC monitor window. `ap_process_wsc_probe_req` keeps the records younger than
`now - 120 s` and leaves active PBC mode when another enrollee's record survives; once
the clock has passed 120 s that is the overlap test of WSC v2.0.5 section 11.3. Below
120 s the subtraction wraps in `uint64_t` and every record counts as stale; and
`ap_push_button` counts the records without expiring them, so two old probes refuse a
press long after the window has passed.

What the probe leaves is what the AP then advertises: the Probe Response carries the PBC
mode the probe left, so the AP invites an enrollee as Selected Registrar only while it
keeps at most one enrollee's record.
-/

namespace Iwd.Ap

open Iwd.Netdev (Bytes Mac Ie)

/-- A PBC probe while another enrollee's probe is less than 120 s old makes the AP leave
active PBC mode, whenever the clock has passed 120 s. -/
theorem apProcessWscProbeReq_overlap_exits (c : Codec) (s : ApState) (fromAddr : Mac)
    (wscData : Bytes) (now : UInt64) (req : WscProbeRequest)
    (parsed : c.wscParseProbeRequest wscData = some req)
    (pushButton : req.configMethods &&& wscConfigurationMethodPushButton ≠ 0)
    (passwordId : req.devicePasswordId = wscDevicePasswordIdPushButton)
    (late : pbcMonitorTime ≤ now) (other : PbcRecord) (recorded : other ∈ s.pbc.probes)
    (distinct : macEq other.mac fromAddr = false) (recent : now - other.timestamp < pbcMonitorTime) :
    (apProcessWscProbeReq c s fromAddr wscData now).pbc.active = false := by
  have inWindow : now - pbcMonitorTime < other.timestamp := by
    simp only [pbcMonitorTime, UInt64.lt_def, UInt64.le_def, UInt64.sub_def] at *
    bv_omega
  have kept : other ∈ expireRecords (now - pbcMonitorTime) fromAddr s.pbc.probes := by
    simp [expireRecords, apWscPbcRecordExpire, recorded, inWindow, distinct]
  have survivors : (expireRecords (now - pbcMonitorTime) fromAddr s.pbc.probes).isEmpty = false :=
    List.isEmpty_eq_false_iff_exists_mem.mpr ⟨other, kept⟩
  simp [apProcessWscProbeReq, parsed, pushButton, passwordId, survivors]

/-- Enrollee B probes at 1000 s, enrollee A a second later. -/
def overlapAt1000s : ApState :=
  run sampleCodec sampleCfg ApState.initial [.pushButton, pbcProbe enrolleeB 1000000000]

theorem apProcessWscProbeReq_overlap_exits_at_1000s :
    (sampleCodec.wscParseProbeRequest [] = some ⟨wscConfigurationMethodPushButton,
        wscDevicePasswordIdPushButton, []⟩ ∧
      wscConfigurationMethodPushButton &&& wscConfigurationMethodPushButton ≠ 0 ∧
      wscDevicePasswordIdPushButton = wscDevicePasswordIdPushButton ∧
      pbcMonitorTime ≤ 1001000000 ∧ ⟨enrolleeB, [], 1000000000⟩ ∈ overlapAt1000s.pbc.probes ∧
      macEq enrolleeB enrolleeA = false ∧ (1001000000 : UInt64) - 1000000000 < pbcMonitorTime) ∧
    (apProcessWscProbeReq sampleCodec overlapAt1000s enrolleeA [] 1001000000).pbc.active = false :=
  ⟨⟨rfl, by decide, rfl, by decide, by decide, rfl, by decide⟩,
    apProcessWscProbeReq_overlap_exits sampleCodec overlapAt1000s enrolleeA [] 1001000000 _ rfl
      (by decide) rfl (by decide) ⟨enrolleeB, [], 1000000000⟩ (by decide) rfl (by decide)⟩

/-- The button, then enrollee B's probe at 1 µs and enrollee A's at 2 µs. -/
def earlyOverlap : ApState :=
  run sampleCodec sampleCfg ApState.initial [.pushButton, pbcProbe enrolleeB 1, pbcProbe enrolleeA 2]

/-- Enrollee A's probe at 200 s, enrollee B's at 300 s, then the button. -/
def stalePress : ApState :=
  run sampleCodec sampleCfg ApState.initial
    [pbcProbe enrolleeA 200000000, pbcProbe enrolleeB 300000000, .pushButton]

/-- The window at the clock's two ends. (a) Within the first 120 s of the clock the
window's start wraps: B's record is dropped as stale, and the AP stays in active PBC mode
over A's record alone, answering A as Selected Registrar. (b) The press after two probes
is refused for session overlap, though no probe is within 120 s of any time past 420 s. -/
theorem pbc_window_wraps_and_goes_stale :
    (earlyOverlap.pbc.active = true ∧ earlyOverlap.pbc.probes = [⟨enrolleeA, [], 2⟩] ∧
      earlyOverlap.log.head? = some (.frameSent 2 (.probeResp enrolleeA true))) ∧
    (stalePress.log.head? = some (.returned false) ∧ stalePress.pbc.active = false ∧
      stalePress.pbc.probes.map PbcRecord.timestamp = [200000000, 300000000]) :=
  ⟨by decide, by decide⟩

theorem apProbeReqCb_answered (c : Codec) (cfg : Config) (s : ApState) (hdr : Header)
    (ies : List Ie) (now : UInt64) (answered : (apProbeReqCb c cfg s hdr ies now).log ≠ s.log) :
    ∃ id, (apProbeReqCb c cfg s hdr ies now).log.head? =
      some (.frameSent id (.probeResp hdr.addr2 (apProbeReqCb c cfg s hdr ies now).pbc.active)) := by
  revert answered
  unfold apProbeReqCb
  split
  · simp
  split_ifs
  · simp
  · simp
  split
  · simp
  split_ifs
  · simp
  · exact fun _ => ⟨_, rfl⟩

/-- The AP invites only a sole enrollee. In every reachable state, a Probe Request that
the AP answers gets a Probe Response whose Selected Registrar flag is the PBC mode the
request left, and a response with the flag set goes out only while the AP keeps at most
one enrollee's PBC record. -/
theorem probe_response_invites_sole_enrollee (c : Codec) (cfg : Config) (s : ApState)
    (reachable : Reachable c cfg s) (hdr : Header) (ies : List Ie) (now : UInt64)
    (answered : (step c cfg s (.frame (.probeReq hdr ies now))).log ≠ s.log) :
    (∃ id, (step c cfg s (.frame (.probeReq hdr ies now))).log.head? =
      some (.frameSent id (.probeResp hdr.addr2 (step c cfg s (.frame (.probeReq hdr ies now))).pbc.active))) ∧
    ((step c cfg s (.frame (.probeReq hdr ies now))).pbc.active = true →
      (step c cfg s (.frame (.probeReq hdr ies now))).pbc.probes.length ≤ 1) := by
  refine ⟨?_, (reachable.step _).recordsWellFormed.sole⟩
  cases crashed : s.crashed with
  | true => simp [step, crashed] at answered
  | false =>
    simp only [step, crashed, Bool.false_eq_true, ↓reduceIte, runEvent, runFrame] at answered ⊢
    exact apProbeReqCb_answered c cfg s hdr ies now answered

/-- The AP after the button alone. -/
def pressed : ApState := run sampleCodec sampleCfg ApState.initial [.pushButton]

theorem probe_response_invites_sole_enrollee_pressed :
    (Reachable sampleCodec sampleCfg pressed ∧ pressedThenProbed.log ≠ pressed.log) ∧
    (∃ id, pressedThenProbed.log.head? =
      some (.frameSent id (.probeResp enrolleeA pressedThenProbed.pbc.active))) ∧
    (pressedThenProbed.pbc.active = true → pressedThenProbed.pbc.probes.length ≤ 1) :=
  ⟨⟨Reachable.initial.run _, by decide⟩,
    probe_response_invites_sole_enrollee sampleCodec sampleCfg pressed (Reachable.initial.run _)
      ⟨sampleCfg.bssid, enrolleeA, sampleCfg.bssid⟩ [wscElement] 1000000000 (by decide)⟩

end Iwd.Ap
