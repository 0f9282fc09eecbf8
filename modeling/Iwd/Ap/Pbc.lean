import Iwd.Ap.State

/-!
Active PBC mode and the PBC probe records: the expiry test `l_queue_foreach_remove` runs
over the records, the Beacon update on entering and leaving the mode, `ap_wsc_exit_pbc`,
`ap_push_button` and the walk timer. The probe handler that adds records is with the
frame handlers, since it may remove a station.
-/

namespace Iwd.Ap

open Iwd.Netdev (Bytes Mac)

/-- `ap_wsc_pbc_record_expire`: whether the record is removed. -/
def apWscPbcRecordExpire (minTime : UInt64) (mac : Mac) (record : PbcRecord) : Bool :=
  !(record.timestamp > minTime && !macEq record.mac mac)

/-- `l_queue_foreach_remove(ap->wsc_pbc_probes, ap_wsc_pbc_record_expire, &expiry_data)`. -/
def expireRecords (minTime : UInt64) (mac : Mac) (records : List PbcRecord) : List PbcRecord :=
  records.filter fun r => !apWscPbcRecordExpire minTime mac r

/-- `ap_update_beacon`: a SET_BEACON whose WSC element shows the Selected Registrar while
PBC mode is active. -/
def apUpdateBeacon (s : ApState) : ApState :=
  if !s.started then s
  else (s.send (.setBeacon s.pbc.active s.pbc.dpid) .logOnly).1

/-- `ap_wsc_exit_pbc`. Removing the timeout runs its destroy function, which clears
`ap->wsc_pbc_timeout` before the Beacon is rebuilt. -/
def apWscExitPbc (s : ApState) : ApState :=
  if !s.pbc.active then s
  else (apUpdateBeacon { s with pbc.active := false, pbc.dpid := 0 }).emit (.event .pbcModeExit)

/-- `ap_push_button`. -/
def apPushButton (s : ApState) : Bool × ApState :=
  if !s.started then (false, s)
  else if s.pbc.probes.length > 1 then (false, s)
  else if s.pbc.active then (true, s)
  else (true, apUpdateBeacon { s with pbc.active := true, pbc.dpid := wscDevicePasswordIdPushButton })

/-- `ap_wsc_pbc_timeout_cb`. -/
def apWscPbcTimeoutCb (s : ApState) : ApState := apWscExitPbc s

section Lemmas

variable {minTime : UInt64} {mac : Mac}

theorem expireRecords_sublist (records : List PbcRecord) :
    (expireRecords minTime mac records).Sublist records :=
  List.filter_sublist _

theorem expireRecords_mac {records : List PbcRecord} {r : PbcRecord}
    (mem : r ∈ expireRecords minTime mac records) : macEq r.mac mac = false := by
  simp only [expireRecords, apWscPbcRecordExpire, List.mem_filter, Bool.not_not,
    Bool.and_eq_true, Bool.not_eq_true'] at mem
  exact mem.2.2

@[simp] theorem apUpdateBeacon_pbc (s : ApState) : (apUpdateBeacon s).pbc = s.pbc := by
  unfold apUpdateBeacon; split <;> rfl

@[simp] theorem apWscExitPbc_probes (s : ApState) : (apWscExitPbc s).pbc.probes = s.pbc.probes := by
  unfold apWscExitPbc; split <;> simp

@[simp] theorem apWscExitPbc_active (s : ApState) : (apWscExitPbc s).pbc.active = false := by
  unfold apWscExitPbc; split <;> simp_all

theorem apPushButton_active (s : ApState) (active : (apPushButton s).2.pbc.active = true) :
    s.pbc.active = true ∨ s.pbc.probes.length ≤ 1 := by
  unfold apPushButton at active
  split at active
  · exact .inl active
  split at active
  · exact .inl active
  split at active
  · exact .inl active
  · exact .inr (by omega)

@[simp] theorem apPushButton_probes (s : ApState) :
    (apPushButton s).2.pbc.probes = s.pbc.probes := by
  unfold apPushButton; split_ifs <;> simp

end Lemmas

end Iwd.Ap
