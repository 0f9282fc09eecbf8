import Iwd.Ap.Step

/-!
The PBC probe records stay those of distinct enrollees, and while active PBC mode is on
there is at most one. `ap_process_wsc_probe_req` drops the sender's older records before
it adds the new one and leaves PBC mode when another enrollee's record survived;
`ap_push_button` enters the mode only over at most one record; a delivered credential
only removes records. So the WSC branch of `ap_assoc_reassoc`, which looks at the head
of the queue alone, accepts an Enrollee only when the queue is exactly its record.
-/

namespace Iwd.Ap

open Iwd.Netdev (Bytes Mac Ie memEq)

/-- The PBC records are of pairwise distinct enrollees, and there is at most one while
PBC mode is active. -/
structure RecordsWellFormed (p : Pbc) : Prop where
  distinct : p.probes.Pairwise fun r r' => macEq r.mac r'.mac = false
  sole : p.active = true → p.probes.length ≤ 1

namespace RecordsWellFormed

variable {p : Pbc}

theorem initial : RecordsWellFormed ApState.initial.pbc := ⟨.nil, fun _ => Nat.zero_le _⟩

theorem quiet {p' : Pbc} (h : RecordsWellFormed p) (q : PbcQuiet p p') : RecordsWellFormed p' :=
  ⟨q.1 ▸ h.distinct, fun active => q.1 ▸ h.sole (q.2 active)⟩

theorem of_eq {p' : Pbc} (h : RecordsWellFormed p) (same : p' = p) : RecordsWellFormed p' :=
  same ▸ h

theorem exitPbc {s : ApState} (h : RecordsWellFormed s.pbc) : RecordsWellFormed (apWscExitPbc s).pbc :=
  h.quiet ⟨by simp, by simp⟩

theorem expire (h : RecordsWellFormed p) (minTime : UInt64) (mac : Mac) :
    RecordsWellFormed { p with probes := expireRecords minTime mac p.probes } :=
  ⟨h.distinct.sublist (expireRecords_sublist _),
    fun active => (expireRecords_sublist _).length_le.trans (h.sole active)⟩

end RecordsWellFormed

theorem macEq_take (a b : Mac) : macEq a (b.take 6) = macEq a b := by
  simp [macEq, memEq, List.take_take]

theorem expireRecords_add_distinct {records : List PbcRecord} (minTime : UInt64) (fromAddr : Mac)
    (distinct : records.Pairwise fun r r' => macEq r.mac r'.mac = false) (new : PbcRecord)
    (mac : new.mac = fromAddr.take 6) :
    (expireRecords minTime fromAddr records ++ [new]).Pairwise fun r r' => macEq r.mac r'.mac = false := by
  refine List.pairwise_append.mpr ⟨distinct.sublist (expireRecords_sublist _), List.pairwise_singleton _ _,
    fun r kept r' added => ?_⟩
  rw [List.mem_singleton.mp added, mac, macEq_take]
  exact expireRecords_mac kept

theorem RecordsWellFormed.probe {s : ApState} (h : RecordsWellFormed s.pbc) (c : Codec)
    (fromAddr : Mac) (wscData : Bytes) (now : UInt64) :
    RecordsWellFormed (apProcessWscProbeReq c s fromAddr wscData now).pbc := by
  unfold apProcessWscProbeReq
  split
  · exact h
  next req _ =>
  split_ifs
  · exact h
  · exact h
  have distinct := expireRecords_add_distinct (now - pbcMonitorTime) fromAddr h.distinct
    ⟨fromAddr.take 6, req.uuidE.take 16, now⟩ rfl
  dsimp only
  split_ifs with empty
  · rw [List.isEmpty_iff.mp empty] at distinct ⊢
    exact ⟨distinct, fun _ => le_refl _⟩
  · exact ⟨by simpa using distinct, fun active => by simp at active⟩

theorem RecordsWellFormed.probeReq {s : ApState} (h : RecordsWellFormed s.pbc) (c : Codec)
    (cfg : Config) (hdr : Header) (ies : List Ie) (now : UInt64) :
    RecordsWellFormed (apProbeReqCb c cfg s hdr ies now).pbc := by
  unfold apProbeReqCb
  split
  · exact h
  split_ifs
  · exact h
  · exact h
  split
  · exact h
  split_ifs
  · exact h
  · dsimp only
    split
    · simpa using h.probe c hdr.addr2 _ now
    · simpa using h

theorem RecordsWellFormed.wscHandshakeEvent {s : ApState} (h : RecordsWellFormed s.pbc)
    (sta : Station) (e : HandshakeEvent) : RecordsWellFormed (apWscHandshakeEvent s sta e).pbc := by
  unfold apWscHandshakeEvent
  split
  · simpa using h
  · simpa using h.expire 0 sta.addr
  · exact h

theorem recordsWellFormed_step {s : ApState} (h : RecordsWellFormed s.pbc) (c : Codec) (cfg : Config)
    (e : Event) : RecordsWellFormed (step c cfg s e).pbc := by
  unfold step
  split
  · exact h
  cases e with
  | frame f =>
    cases f with
    | auth => simpa [runEvent, runFrame] using h
    | assocReq hdr =>
      simp only [runEvent, runFrame, apAssocReqCb]
      split_ifs
      · exact h
      split
      · simpa using h
      · exact h.quiet (apAssocReassoc_quiet ..)
    | reassocReq hdr =>
      simp only [runEvent, runFrame, apReassocReqCb]
      split_ifs
      · exact h
      · split <;> simpa using h
      · split
        · simpa using h
        · exact h.quiet (apAssocReassoc_quiet ..)
    | disassoc => simpa [runEvent, runFrame] using h
    | deauth => simpa [runEvent, runFrame] using h
    | probeReq hdr ies now => exact h.probeReq c cfg hdr ies now
  | handshake handle e =>
    simp only [runEvent, handshakeEvent]
    split
    · split_ifs
      · exact h
      split
      · simpa using h
      · exact h.wscHandshakeEvent _ e
      · exact h
    · exact h
  | pbcTimeout =>
    simp only [runEvent]
    split_ifs
    · exact h.exitPbc
    · exact h
  | pushButton =>
    refine ⟨by simpa [runEvent] using h.distinct, fun active => ?_⟩
    simp only [runEvent, ApState.emit_pbc] at active ⊢
    rw [apPushButton_probes]
    exact (apPushButton_active s active).elim (h.sole ·) id
  | _ => simpa [runEvent] using h

theorem Reachable.recordsWellFormed {c : Codec} {cfg : Config} {s : ApState}
    (reachable : Reachable c cfg s) : RecordsWellFormed s.pbc := by
  induction reachable with
  | initial => exact .initial
  | step e _ ih => exact recordsWellFormed_step ih c cfg e

section Registration

variable (s : ApState) (sta : Station) (m : Mac) (assocIes : List Ie)

end Registration

/-- The AP of the runs in this development: SSID "Net" on channel 6, CCMP as pairwise
and group cipher (bit 8 of the cipher bitmaps), CCK rates, no MAC filter. -/
def sampleCfg : Config :=
  ⟨[0x4e, 0x65, 0x74], 6, [0x02, 0, 0, 0, 0, 0x10], [], false, 8, .suite .ccmp⟩

/-- An ie.c and wscutil.c for the runs: the WSC payload is what follows the WSC OUI in the
first vendor element, every WSC payload reads as a push-button probe or as an EAP-WSC
Enrollee association, and every RSNE as CCMP with PSK. -/
def sampleCodec : Codec where
  ieTlvIter _ := []
  ieTlvExtractWscPayload ies := (ies.find? (·.tag == 221)).map (·.data.drop 4)
  ieParseRsne _ := some ⟨false, false, 8, ieRsnAkmSuitePsk⟩
  wscParseProbeRequest data :=
    some ⟨wscConfigurationMethodPushButton, wscDevicePasswordIdPushButton, data⟩
  wscParseAssociationRequest _ := some ⟨.enrolleeOpen8021x, true⟩

/-- A WSC vendor element with an empty payload. -/
def wscElement : Ie := ⟨221, [0x00, 0x50, 0xf2, 0x04], by decide⟩

/-- The two enrollees of scenario S3. -/
def enrolleeA : Mac := [0x02, 0x11, 0x22, 0x33, 0x44, 0x55]

def enrolleeB : Mac := [0x02, 0xaa, 0xbb, 0xcc, 0xdd, 0xee]

/-- A PBC Probe Request to the AP at `l_time_now() = now`. -/
def pbcProbe (mac : Mac) (now : UInt64) : Event :=
  .frame (.probeReq ⟨sampleCfg.bssid, mac, sampleCfg.bssid⟩ [wscElement] now)

/-- The AP after the button and one enrollee's probe: PBC mode active over one record. -/
def pressedThenProbed : ApState :=
  run sampleCodec sampleCfg ApState.initial [.pushButton, pbcProbe enrolleeA 1000000000]

end Iwd.Ap
