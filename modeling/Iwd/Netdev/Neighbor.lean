import Iwd.Netdev.FastTransition

/-!
Neighbor Report requests in netdev.c (802.11k): `netdev_neighbor_report_req`, the reply
to its action frame, its three-second timeout, and the Neighbor Report Response that
arrives as a unicast FRAME notification.
-/

namespace Iwd.Netdev

/-- The Neighbor Report Request body: Radio Measurement category, Neighbor Report
Request action, dialog token 1. -/
def neighborReportRequestBody : Bytes := [5, 4, 1]

/-- `netdev_neighbor_report_req`: one request at a time, only while connected; the frame
goes to `handshake->aa` and a timeout is armed. -/
def netdevNeighborReportReq (cb : Option Owner) (w : World) : World :=
  if w.netdev.neighborReportCb.isSome || !w.netdev.connected then
    w.emit (.returned .neighborReportReq (some .busy))
  else match w.netdev.handshake with
    | none => w.crash
    | some hs =>
      let sent := w.send (.frame hs.aa neighborReportRequestBody) .neighborReportReq
      if sent.2 = 0 then sent.1.emit (.returned .neighborReportReq (some .io))
      else (sent.1.setNetdev ({ · with neighborReportCb := cb, neighborReportTimeout := true
        })).emit (.returned .neighborReportReq none)

/-- Report to the pending neighbour report callback, then clear it and its timeout. -/
def reportNeighbors (cb : Owner) (err : Option Errno) (report : Bytes) (w : World) : Yield :=
  .call (w.emit (.neighborReportCb cb err report w.netdev.userData)) [.neighborClear]

/-- `netdev_neighbor_report_req_cb`: only an error is reported. -/
def netdevNeighborReportReqCb (err : Option Errno) (w : World) : Yield :=
  match w.netdev.neighborReportCb, err with
  | some cb, some e => reportNeighbors cb (some e) [] w
  | _, _ => .done w

/-- `netdev_neighbor_report_timeout`; it calls the callback without checking it. -/
def netdevNeighborReportTimeout (w : World) : Yield :=
  match w.netdev.neighborReportCb with
  | some cb => reportNeighbors cb (some .timedout) [] w
  | none => .done w.crash

/-- `netdev_radio_measurement_frame_event`: the first Neighbor Report Response answers
the pending request. -/
def netdevRadioMeasurementFrameEvent (data : Bytes) (w : World) : Yield :=
  match data, w.netdev.neighborReportCb with
  | 5 :: _ :: report, some cb => reportNeighbors cb none report w
  | _, _ => .done w

/-- `netdev_action_frame_event`: category 5 is Radio Measurement. -/
def netdevActionFrameEvent (data : Bytes) (w : World) : Yield :=
  match data with
  | 5 :: rest => netdevRadioMeasurementFrameEvent rest w
  | _ => .done w

/-- `netdev_mgmt_frame_event`, for the NL80211_ATTR_FRAME attributes of the message: one
management Action frame of at least 25 bytes addressed to us. -/
def netdevMgmtFrameEvent (frames : List Bytes) (w : World) : Yield :=
  match frames with
  | [body] =>
    if body.length < 25 || (body.drop 4).take 6 ≠ w.netdev.addr then .done w
    else
      let frameControl := body.getD 0 0
      if (frameControl >>> 2) &&& 3 ≠ 0 then .done w
      else if (frameControl >>> 4) &&& 15 = 13 then netdevActionFrameEvent (body.drop 24) w
      else .done w
  | _ => .done w

end Iwd.Netdev
