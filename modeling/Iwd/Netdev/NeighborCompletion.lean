import Iwd.Netdev.MobilityDomain

/-!
How a neighbour report request completes. Every completion path calls
`neighbor_report_cb` first and clears it only once the call has returned, so a teardown
that the owner starts from inside the callback still finds it set and calls it a second
time, with -ENOTCONN. And the reply to a request's action frame is not matched to its
request: an error reply that arrives after its own request was answered completes
whichever request is pending then.
-/

namespace Iwd.Netdev

theorem neighborTimeout_disconnect_log (c : Codec) (w : World) (cb : Owner) (alive : w.crashed = false)
    (idle : w.stack = []) (armed : w.netdev.neighborReportTimeout = true)
    (pending : w.netdev.neighborReportCb = some cb) (connected : w.netdev.connected = true)
    (operational : w.netdev.operational = true) (hs : Handshake)
    (current : w.netdev.handshake = some hs) (ours : w.netdev.disconnectCmdId = 0)
    (dcb data : Option Owner) :
    (run c w [.event .neighborTimeout, .call (.disconnect dcb data)]).log.take 2 =
      [.neighborReportCb cb (some .notconn) [] w.netdev.userData,
        .neighborReportCb cb (some .timedout) [] w.netdev.userData] := by
  simp [run, step, alive, idle, runEvent, armed, netdevNeighborReportTimeout, pending,
    reportNeighbors, Yield.settle, runCall, netdevDisconnect, connected, ours,
    netdevBuildCmdDeauthenticate, current, operational, netdevConnectFree, Yield.seq]

/-- A Neighbor Report Response to `mdStation`: a management Action frame of category 5,
action 5 and dialog token 1, with an empty report. -/
def neighborReportResponse : Bytes :=
  [0xd0, 0, 0, 0] ++ mdStation ++ List.replicate 14 0 ++ [5, 5, 1]

/-- The station of `mdJoin`, operational, with a request for callback 7 pending; its
action frame is request 2. -/
def neighborRequested : World :=
  run openCodec (World.initial mdStation) (mdJoin ++ [.call (.neighborReportReq (some 7))])

/-- Callback 7 is answered by a response and returns, a request for callback 8 follows,
and then the reply to the first request's action frame reports -EIO. -/
def staleNeighborReply : World :=
  run openCodec neighborRequested
    [.event (.notify (.frame [neighborReportResponse])), .ret, .call (.neighborReportReq (some 8)),
      .event (.reply 2 (some .io))]

/-- A neighbour report callback is not called exactly once by its own request's first
completion. In every world where a request is pending on an operational connection, its
timeout followed by `netdev_disconnect` from inside the callback calls the callback
twice, with -ETIMEDOUT and then -ENOTCONN; this happens in a reachable world where the
request returned 0. And the -EIO reply to an answered request's action frame completes
the next request, whose own action frame is still in flight. -/
theorem neighbor_report_callback_twice :
    (∀ (c : Codec) (w : World) (cb : Owner) (hs : Handshake) (dcb data : Option Owner),
      w.crashed = false → w.stack = [] → w.netdev.neighborReportTimeout = true →
      w.netdev.neighborReportCb = some cb → w.netdev.connected = true →
      w.netdev.operational = true → w.netdev.handshake = some hs → w.netdev.disconnectCmdId = 0 →
      (run c w [.event .neighborTimeout, .call (.disconnect dcb data)]).log.take 2 =
        [.neighborReportCb cb (some .notconn) [] w.netdev.userData,
          .neighborReportCb cb (some .timedout) [] w.netdev.userData]) ∧
    Reachable openCodec neighborRequested ∧
    neighborRequested.log.head? = some (.returned .neighborReportReq none) ∧
    (run openCodec neighborRequested [.event .neighborTimeout, .call (.disconnect none none)]).log.take 2 =
      [.neighborReportCb 7 (some .notconn) [] none, .neighborReportCb 7 (some .timedout) [] none] ∧
    staleNeighborReply.log.take 3 =
      [.neighborReportCb 8 (some .io) [] none, .returned .neighborReportReq none,
        .sent 3 (.frame mdFirstBss.addr neighborReportRequestBody)] ∧
    staleNeighborReply.genl.pending.map Request.id = [3] :=
  ⟨fun c w cb hs dcb data alive idle armed pending connected operational current ours =>
    neighborTimeout_disconnect_log c w cb alive idle armed pending connected operational hs current ours
      dcb data,
    (Reachable.initial mdStation).run _, by decide, by decide, by decide, by decide⟩

end Iwd.Netdev
