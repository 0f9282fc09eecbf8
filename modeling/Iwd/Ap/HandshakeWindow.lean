import Iwd.Ap.ProbeRecords

/-!
The window between `ap_associate_sta` and its reply. The NEW_STATION / SET_STATION it
sends is not tracked: `ap_del_station` cancels the GET_KEY of `gtk_query_cmd_id` and
stops the handshake, but nothing cancels that reply. If the station disassociates in
between, the reply still runs `ap_associate_sta_cb`, which queries the GTK and then starts
the 4-Way Handshake for a station that is no longer associated; if it deauthenticates,
the station is freed and the reply runs on freed memory.
-/

namespace Iwd.Ap

open Iwd.Netdev (Bytes Mac Ie)

/-- A station joining the sample AP. -/
def stationM : Mac := [0x02, 0x33, 0x33, 0x33, 0x33, 0x33]

/-- A frame header from `stationM` to the AP. -/
def fromM : Header := ⟨sampleCfg.bssid, stationM, sampleCfg.bssid⟩

/-- An Association Request of `stationM`: the AP's SSID, the CCK rates with 1 Mb/s basic,
and an RSNE. -/
def rsnAssocIes : List Ie :=
  [⟨0, [0x4e, 0x65, 0x74], by decide⟩, ⟨1, [0x82, 0x84, 0x8b, 0x96], by decide⟩,
    ⟨48, [1, 0, 0x00, 0x0f, 0xac, 4, 1, 0, 0x00, 0x0f, 0xac, 4, 1, 0, 0x00, 0x0f, 0xac, 2, 0, 0],
      by decide⟩]

/-- Authentication, the Association Request, the ACK of its response (NEW_STATION goes out
as request 1), then a Disassociation. -/
def joinThenDisassociate : List Event :=
  [.frame (.auth fromM 0 1), .frame (.assocReq fromM 0 10 rsnAssocIes), .txStatus 2 none,
    .frame (.disassoc fromM 8)]

/-- The NEW_STATION reply after the Disassociation: GET_KEY goes out as request 4. -/
def gtkQueryAfterDisassoc : ApState :=
  run sampleCodec sampleCfg ApState.initial (joinThenDisassociate ++ [.reply 1 none none])

/-- Then the GET_KEY reply. -/
def rsnaAfterDisassoc : ApState := step sampleCodec sampleCfg gtkQueryAfterDisassoc (.reply 4 none none)

/-- The NEW_STATION reply after a Deauthentication freed the station. -/
def replyAfterDeauth : ApState :=
  run sampleCodec sampleCfg ApState.initial
    [.frame (.auth fromM 0 1), .frame (.assocReq fromM 0 10 rsnAssocIes), .txStatus 2 none,
      .frame (.deauth fromM 3), .reply 1 none none]

/-- A station's handshake runs after it left State 3. The NEW_STATION reply that arrives
after a Disassociation leaves a station record in `ap->sta_states` with
`associated = false` and a GTK query in flight, and the GET_KEY reply then starts the
4-Way Handshake for it; after a Deauthentication the same reply reads the freed
station. -/
theorem handshake_after_disassociation :
    (∃ sta ∈ gtkQueryAfterDisassoc.stations,
      sta.addr = stationM ∧ sta.associated = false ∧ sta.gtkQueryCmdId = 4) ∧
    (∃ sta ∈ rsnaAfterDisassoc.stations,
      sta.addr = stationM ∧ sta.associated = false ∧ sta.sm = true) ∧
    rsnaAfterDisassoc.log.head? = some (.eapolStarted stationM (some .rsna) false (some [0, 0, 0, 0, 0, 0])) ∧
    replyAfterDeauth.crashed = true := by
  decide

end Iwd.Ap
