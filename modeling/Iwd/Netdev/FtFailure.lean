import Iwd.Netdev.MobilityDomain

/-!
The failure exits of `netdev_fast_transition`. It draws a new SNonce before it knows
whether the FT Authentication request can be built and sent, and puts the old one back
on both exits after that point, so a failure leaves the handshake and the netdev as they
were, with one exception: the result of `l_genl_family_send` is stored in
`connect_cmd_id` before it is checked, and the -EIO exit leaves `connect_cmd_id` at 0,
also when it named a command still in flight.
-/

namespace Iwd.Netdev

/-- A `netdev_fast_transition` whose log starts with an error, whatever it logged before,
returns -ENOTCONN, -EINVAL or -EIO, logs, sends and cancels nothing else, and changes no
field of the netdev or its handshake but `connect_cmd_id`, which -EIO sets to 0: the SNonce
it drew is put back. -/
theorem fast_transition_failure_keeps_state (c : Codec) (target : ScanBss) (cb : Option Owner)
    (snonce : Bytes) (w : World) (err : Errno)
    (failed : ∃ new, (netdevFastTransition c target cb snonce w).log =
      .returned .fastTransition (some err) :: new ++ w.log) :
    (err = .notconn ∨ err = .inval ∨ err = .io) ∧
    netdevFastTransition c target cb snonce w =
      (w.setNetdev fun n => { n with connectCmdId := if err = .io then 0 else n.connectCmdId }).emit
        (.returned .fastTransition (some err)) := by
  obtain ⟨new, failed⟩ := failed
  have refused : ∀ e, (e = .notconn ∨ e = .inval) →
      (w.emit (.returned .fastTransition (some e))).log = .returned .fastTransition (some err) :: new ++ w.log →
      (err = .notconn ∨ err = .inval ∨ err = .io) ∧
      w.emit (.returned .fastTransition (some e)) =
        (w.setNetdev fun n => { n with connectCmdId := if err = .io then 0 else n.connectCmdId }).emit
          (.returned .fastTransition (some err)) := by
    intro e kind logged
    obtain rfl : e = err := by simpa using (List.cons_eq_cons.mp logged).1
    rcases kind with rfl | rfl <;> exact ⟨by simp, rfl⟩
  revert failed
  unfold netdevFastTransition
  split
  · exact refused .notconn (.inl rfl)
  split
  · intro crashed
    have lengths := congrArg List.length crashed
    simp only [World.crash_log, List.length_cons, List.length_append] at lengths
    omega
  next hs current =>
  split
  · exact refused .inval (.inr rfl)
  split
  · exact refused .inval (.inr rfl)
  dsimp only
  split
  · rw [restoreSnonce_setNetdev_drawn current]
    exact refused .inval (.inr rfl)
  next cmd _ =>
  let drawn : World := w.setNetdev ({ · with handshake := some { hs with snonce := snonce } })
  by_cases zero : (drawn.send cmd .cmdAuthenticateFt).2 = 0
  · have back : restoreSnonce hs.snonce ((w.setNetdev ({ · with connectCmdId := 0 })).setNetdev
        ({ · with handshake := some { hs with snonce := snonce } })) = w.setNetdev ({ · with connectCmdId := 0 }) :=
      restoreSnonce_setNetdev_drawn (by simpa using current) snonce
    simp only [zero, ↓reduceIte, World.send_refused drawn cmd _ zero]
    intro logged
    obtain rfl : Errno.io = err := by simpa using (List.cons_eq_cons.mp logged).1
    exact ⟨.inr (.inr rfl), congrArg (World.emit · _) back⟩
  · intro failed
    simp [zero] at failed

/-- Connect to the mobility domain's first BSS; the association arrives before the
CONNECT reply; the link comes up and the OK callback returns; then the nl80211 family
stops accepting sends. -/
def mdJoinThenRefuse : List Action :=
  [.call (.connect mdFirstBss mdHandshake none (some 1) none),
    .event (.notify (.connect [.statusCode [0, 0],
      .respIe [⟨ieTypeMobilityDomain, [0x34, 0x12, 0x01], by decide⟩]])),
    .event (.linkReply true), .ret, .event (.genlUp false)]

/-- The operational station of `mdJoinThenRefuse`, with the CONNECT reply in flight. -/
def ftRefusedWorld : World := run openCodec (World.initial mdStation) mdJoinThenRefuse

theorem fast_transition_failure_keeps_state_refused :
    (∃ new, (netdevFastTransition openCodec mdTargetBss none [] ftRefusedWorld).log =
        .returned .fastTransition (some .io) :: new ++ ftRefusedWorld.log) ∧
      (Errno.io = .notconn ∨ Errno.io = .inval ∨ Errno.io = .io) ∧
      netdevFastTransition openCodec mdTargetBss none [] ftRefusedWorld =
        (ftRefusedWorld.setNetdev fun n =>
          { n with connectCmdId := if Errno.io = .io then 0 else n.connectCmdId }).emit
          (.returned .fastTransition (some .io)) :=
  have failed : ∃ new, (netdevFastTransition openCodec mdTargetBss none [] ftRefusedWorld).log =
      .returned .fastTransition (some .io) :: new ++ ftRefusedWorld.log := ⟨[], by decide⟩
  ⟨failed, fast_transition_failure_keeps_state openCodec mdTargetBss none [] ftRefusedWorld .io failed⟩

/-- A failed transition can change `connect_cmd_id`. In a reachable world where the
station is operational and the reply to its CONNECT (request 1) is still awaited,
`netdev_fast_transition` to a BSS of the same mobility domain returns -EIO when the send
fails, and leaves `connect_cmd_id` at 0 while request 1 is still in flight. -/
theorem fast_transition_eio_clears_connect_cmd_id :
    Reachable openCodec ftRefusedWorld ∧ ftRefusedWorld.netdev.operational = true ∧
    ftRefusedWorld.netdev.connectCmdId = 1 ∧
    (step openCodec ftRefusedWorld (.call (.fastTransition mdTargetBss none []))).log.head? =
      some (.returned .fastTransition (some .io)) ∧
    (step openCodec ftRefusedWorld (.call (.fastTransition mdTargetBss none []))).netdev.connectCmdId = 0 ∧
    (step openCodec ftRefusedWorld (.call (.fastTransition mdTargetBss none []))).genl.pending.map
      Request.id = [1] :=
  ⟨(Reachable.initial mdStation).run mdJoinThenRefuse, by decide, by decide, by decide, by decide, by decide⟩

end Iwd.Netdev
