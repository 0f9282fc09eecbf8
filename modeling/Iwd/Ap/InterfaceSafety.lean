import Iwd.Ap.Interface

/-!
When the D-Bus AP interface of ap.c uses freed memory. Along every run the interface is in
one of seven phases (`Agrees`), each of which fixes what `ap_if->ap` and `ap_if->pending` hold
for the phase of the `ap_state` (`Iwd.Ap.Lifecycle`): no AP, a `Start` that waits for the
address or for START_AP, a running AP, a `Stop` that waits for STOP_AP, an `ap_state` freed
and let go, and a destroyed interface.

Every input keeps the phases in agreement except three (`Bad`): a second `Stop` while one is
pending runs `ap_shutdown` again on the same `ap_state`, `ap_destroy_interface` while a `Stop`
is pending runs `ap_free` on it, and a STOP_AP notification while `ap_start` waits for its
address frees the `ap_state` under `ap_if->ap`. Each of them ruins the interface for good
(`Ruined`), and from a state that is not ruined nothing else does
(`interface_goes_wrong_iff`).
-/

namespace Iwd.Ap.Interface

open Iwd.Dbus

open Lifecycle (State Effect LifeEvent AddressWait Starting Running ShuttingDown Released)

theorem delivered_eq {st st' : State} {new : List Effect} (log : st'.log = new ++ st.log) :
    delivered st st' = new.reverse := by
  simp [delivered, log]

theorem withAp_eq (i : ApIf) {st st' : State} {new : List Effect} (log : st'.log = new ++ st.log) :
    withAp i st st' = new.reverse.foldl observe { i with apState := some st', crashed := i.crashed || st'.crashed } := by
  rw [withAp, delivered_eq log]

theorem apStart_waits {e : Lifecycle.StartEnv} {s : State} (h : Lifecycle.apStart e = some s) :
    AddressWait s ∨ Starting s := by
  unfold Lifecycle.apStart at h
  split at h
  · cases h
  · split at h
    · cases h
    · next waitOnAddress _ =>
      cases waitOnAddress <;> cases sent : e.startSent <;> simp [sent] at h
      · obtain ⟨-, -, rfl⟩ := h
        exact .inr ⟨rfl, by simp, rfl, rfl, rfl, rfl, rfl, rfl⟩
      all_goals obtain ⟨-, rfl⟩ := h
      all_goals exact .inl ⟨rfl, rfl, rfl, rfl, rfl, rfl, rfl, rfl⟩

/-- The phase of the interface's `ap_state`, and what `ap_if->ap` and `ap_if->pending` hold in
it. -/
inductive Agrees (i : ApIf) : Prop where
  /-- No `ap_state` was started. -/
  | idle (empty : i.apState = none) (unpointed : i.ap = false) (quiet : i.pending = none)
      (alive : i.destroyed = false)
  /-- A `Start` waits for the address its `ap_state` asked for. -/
  | addressWait {st : State} {c : Call} (held : i.apState = some st) (phase : AddressWait st)
      (pointed : i.ap = true) (awaited : i.pending = some c) (starts : c.method ≠ .stop)
      (alive : i.destroyed = false)
  /-- A `Start` waits for the START_AP reply. -/
  | starting {st : State} {c : Call} (held : i.apState = some st) (phase : Starting st)
      (pointed : i.ap = true) (awaited : i.pending = some c) (starts : c.method ≠ .stop)
      (alive : i.destroyed = false)
  /-- The AP runs and no call waits. -/
  | running {st : State} (held : i.apState = some st) (phase : Running st) (pointed : i.ap = true)
      (quiet : i.pending = none) (alive : i.destroyed = false)
  /-- A `Stop` waits for the STOP_AP reply, which runs `ap_dbus_stop_cb`. -/
  | shuttingDown {st : State} {c : Call} (held : i.apState = some st) (phase : ShuttingDown st)
      (stoppedFunc : st.stoppedFunc = true) (pointed : i.ap = true) (awaited : i.pending = some c)
      (stops : c.method = .stop) (alive : i.destroyed = false)
  /-- The `ap_state` was freed and the interface let go of it. -/
  | released {st : State} (held : i.apState = some st) (phase : Released st) (sound : st.crashed = false)
      (unpointed : i.ap = false) (quiet : i.pending = none) (alive : i.destroyed = false)
  /-- `ap_destroy_interface` ran, and freed the `ap_state` if there was one. -/
  | destroyed (gone : i.destroyed = true) (freed : ∀ st, i.apState = some st → st.freed = true)
      (unpointed : i.ap = false) (quiet : i.pending = none)

/-- An interface that used no freed memory, in agreement with its `ap_state`. -/
structure Inv (i : ApIf) : Prop where
  sound : i.crashed = false
  agrees : Agrees i

/-- The inputs that take an interface in agreement with its `ap_state` to freed memory: a
`Stop` or `ap_destroy_interface` while a `Stop` is pending, and a STOP_AP notification while
`ap_start` waits for its address. -/
def Bad (i : ApIf) : Input → Prop
  | .stop _ _ => ∃ c, i.pending = some c ∧ c.method = .stop
  | .destroy => ∃ c, i.pending = some c ∧ c.method = .stop
  | .kernel .stopAp => ∃ st, i.apState = some st ∧ AddressWait st ∧ st.mlmeWatch = true
  | _ => False

/-- An interface that used freed memory, or whose `ap_if->ap` points at an `ap_state` that was
freed under it. -/
def Ruined (i : ApIf) : Prop :=
  i.crashed = true ∨ (i.ap = true ∧ ∃ st, i.apState = some st ∧ Released st ∧ st.crashed = false)

/-! ### What a call into the `ap_state` shows its owner -/

section Shows

open Lifecycle

theorem apStartFailed_shows {s : State} (quiet : s.log = []) (fresh : s.reset = false)
    (sound : s.crashed = false) :
    (apStartFailed s).log = [.released, .event .startFailed] ∧ (apStartFailed s).crashed = false ∧
      Released (apStartFailed s) :=
  ⟨by simp [apStartFailed, apReset_eq, quiet], by simp [apStartFailed, apReset_eq, fresh, sound],
    (apStartFailed_told (by simp [quiet])).1⟩

theorem apIfaddr4AddedCb_shows (s : State) (error built sent : Bool) :
    (∃ t : State, apIfaddr4AddedCb s error built sent = apStartFailed t ∧ t.log = s.log ∧ t.reset = s.reset ∧
      t.crashed = s.crashed) ∨
    apIfaddr4AddedCb s error built sent =
      { s with rtnlAddCmd := false, requests := s.requests ++ [⟨s.sent + 1, .startAp⟩],
               sent := s.sent + 1, startStopCmdId := s.sent + 1 } := by
  cases error <;> cases built <;> cases sent <;> first | exact .inl ⟨_, rfl, rfl, rfl, rfl⟩ | exact .inr rfl

theorem apStartCb_shows (s : State) (error dhcpStarted : Bool) :
    (∃ t : State, apStartCb s error dhcpStarted = apStartFailed t ∧ t.log = s.log ∧ t.reset = s.reset ∧
      t.crashed = s.crashed) ∨
    apStartCb s error dhcpStarted = { s with startStopCmdId := 0, started := true }.emit (.event .started) := by
  unfold apStartCb
  dsimp only
  split
  · exact .inl ⟨_, rfl, rfl, rfl, rfl⟩
  · split
    · exact .inl ⟨_, rfl, rfl, rfl, rfl⟩
    · exact .inr rfl

theorem shutdownDelKey_shows {x : State} (h : ShuttingDown x) (delKeySent stopSent : Bool) :
    (ShuttingDown (shutdownDelKey x true delKeySent stopSent) ∧
      (shutdownDelKey x true delKeySent stopSent).stoppedFunc = true ∧
      (shutdownDelKey x true delKeySent stopSent).log = x.log) ∨
    (Released (shutdownDelKey x true delKeySent stopSent) ∧
      (shutdownDelKey x true delKeySent stopSent).crashed = false ∧
      (shutdownDelKey x true delKeySent stopSent).log = [.released, .stopped] ++ x.log) := by
  have stopAp : ∀ y : State, ShuttingDown y → y.log = x.log →
      (ShuttingDown (shutdownStopAp y true stopSent) ∧ (shutdownStopAp y true stopSent).stoppedFunc = true ∧
        (shutdownStopAp y true stopSent).log = x.log) ∨
      (Released (shutdownStopAp y true stopSent) ∧ (shutdownStopAp y true stopSent).crashed = false ∧
        (shutdownStopAp y true stopSent).log = [.released, .stopped] ++ x.log) := by
    intro y down log
    cases stopSent
    · have cleared : ShuttingDown { y with startStopCmdId := 0 } := ⟨down.1, down.2, down.3, down.4, down.5, down.6, down.7, down.8, down.9⟩
      rw [shutdownStopAp_unsent]
      exact .inr ⟨(shuttingDown_notifyStopped_release cleared true).1, by simp [notifyStopped, down.sound],
        by simp [notifyStopped, log]⟩
    · rw [shutdownStopAp_sent]
      exact .inl ⟨⟨down.1, down.2, down.3, down.4, down.5, by simpa [or_imp, forall_and] using down.noStartAp,
        down.7, down.8, down.9⟩, rfl, log⟩
  cases gtkSet : x.gtkSet
  · rw [shutdownDelKey_keyless gtkSet]
    exact stopAp x h rfl
  · cases delKeySent
    · have keyless : ShuttingDown { x with gtkSet := false } := ⟨h.1, h.2, h.3, h.4, h.5, h.6, h.7, h.8, h.9⟩
      rw [shutdownDelKey_unsent gtkSet]
      exact .inr ⟨(shuttingDown_notifyStopped_release keyless true).1, by simp [notifyStopped, h.sound],
        by simp [notifyStopped]⟩
    · rw [shutdownDelKey_sent gtkSet]
      exact stopAp _ ⟨h.1, h.2, h.3, h.4, h.5, by simpa [or_imp, forall_and] using h.noStartAp, h.7, h.8, h.9⟩ rfl

theorem addressWait_stopAp {st : State} (h : AddressWait st) (mlme : st.mlmeWatch = true) :
    (Lifecycle.step st Kernel.stopAp.input).log = [.released] ∧
      (Lifecycle.step st Kernel.stopAp.input).crashed = false ∧ Released (Lifecycle.step st Kernel.stopAp.input) := by
  simp only [Lifecycle.step, h.sound, Bool.false_eq_true, if_false, Kernel.input, runInput, mlme, if_true]
  rw [apMlmeNotify_idle h.cmdId h.notStarted]
  exact ⟨by simp [apReset_eq, h.quiet], by simp [apReset_eq, h.fresh, h.sound],
    released_apReset (by simp [h.quiet, Allowed])⟩

theorem addressWait_kernel {st : State} (h : AddressWait st) (k : Kernel) :
    ((Lifecycle.step st k.input).log = [] ∧ (Lifecycle.step st k.input).crashed = false ∧
      (AddressWait (Lifecycle.step st k.input) ∨ Starting (Lifecycle.step st k.input))) ∨
    ((Lifecycle.step st k.input).log = [.released, .event .startFailed] ∧ (Lifecycle.step st k.input).crashed = false ∧
      Released (Lifecycle.step st k.input)) ∨
    (k = .stopAp ∧ st.mlmeWatch = true ∧ (Lifecycle.step st k.input).log = [.released] ∧
      (Lifecycle.step st k.input).crashed = false ∧ Released (Lifecycle.step st k.input)) := by
  simp only [Lifecycle.step, h.sound, Bool.false_eq_true, if_false]
  cases k with
  | addressAdded error built sent =>
    simp only [Kernel.input, runInput, h.rtnl, if_true]
    rcases apIfaddr4AddedCb_shows st error built sent with ⟨t, failed, log, reset, crashed⟩ | started
    · rw [failed]
      exact .inr (.inl (apStartFailed_shows (log.trans h.quiet) (reset.trans h.fresh) (crashed.trans h.sound)))
    · rw [started]
      exact .inl ⟨h.quiet, h.sound, .inr ⟨rfl, by simp, by simp [h.noRequests], h.notStarted, h.live, h.quiet,
        h.fresh, h.sound⟩⟩
  | reply id error dhcpStarted =>
    simp only [Kernel.input, runInput, Lifecycle.reply, h.noRequests, List.find?_nil]
    exact .inl ⟨h.quiet, h.sound, .inl h⟩
  | stopAp =>
    cases mlme : st.mlmeWatch
    · simp only [Kernel.input, runInput, mlme, Bool.false_eq_true, if_false]
      exact .inl ⟨h.quiet, h.sound, .inl h⟩
    · have freed := addressWait_stopAp h mlme
      simp only [Lifecycle.step, h.sound, Bool.false_eq_true, if_false] at freed
      exact .inr (.inr ⟨rfl, rfl, freed⟩)
  | groupKeySet =>
    simp only [Kernel.input, runInput]
    rw [if_neg (by simp [h.fresh])]
    exact .inl ⟨h.quiet, h.sound, .inl ⟨h.1, h.2, h.3, h.4, h.5, h.6, h.7, h.8⟩⟩

theorem starting_kernel {st : State} (h : Starting st) (k : Kernel) :
    ((Lifecycle.step st k.input).log = [] ∧ (Lifecycle.step st k.input).crashed = false ∧
      Starting (Lifecycle.step st k.input)) ∨
    ((Lifecycle.step st k.input).log = [.released, .event .startFailed] ∧
      (Lifecycle.step st k.input).crashed = false ∧ Released (Lifecycle.step st k.input)) ∨
    ((Lifecycle.step st k.input).log = [.event .started] ∧ Running (Lifecycle.step st k.input)) := by
  simp only [Lifecycle.step, h.sound, Bool.false_eq_true, if_false]
  cases k with
  | addressAdded =>
    simp only [Kernel.input, runInput, h.rtnl, Bool.false_eq_true, if_false]
    exact .inl ⟨h.quiet, h.sound, h⟩
  | reply id error dhcpStarted =>
    by_cases same : st.startStopCmdId = id
    · subst same
      simp only [Kernel.input, runInput, Lifecycle.reply, h.startAp, List.find?, beq_self_eq_true]
      rcases apStartCb_shows (st.cancel st.startStopCmdId) error dhcpStarted with ⟨t, failed, log, reset, crashed⟩ | started
      · rw [failed]
        exact .inr (.inl (apStartFailed_shows (log.trans h.quiet) (reset.trans h.fresh) (crashed.trans h.sound)))
      · rw [started]
        exact .inr (.inr ⟨by simp [h.quiet], h.rtnl, rfl, by simp [h.startAp], rfl, h.live, by simp [h.quiet],
          h.fresh, h.sound⟩)
    · have unanswered : Lifecycle.reply st id error dhcpStarted = st := by simp [Lifecycle.reply, h.startAp, same]
      simp only [Kernel.input, runInput, unanswered]
      exact .inl ⟨h.quiet, h.sound, h⟩
  | stopAp =>
    simp only [Kernel.input, runInput]
    split
    · rw [apMlmeNotify_pending h.cmdId]
      exact .inr (.inl (apStartFailed_shows h.quiet h.fresh h.sound))
    · exact .inl ⟨h.quiet, h.sound, h⟩
  | groupKeySet =>
    simp only [Kernel.input, runInput]
    rw [if_neg (by simp [h.fresh])]
    exact .inl ⟨h.quiet, h.sound, ⟨h.1, h.2, h.3, h.4, h.5, h.6, h.7, h.8⟩⟩

theorem running_kernel {st : State} (h : Running st) (k : Kernel) :
    ((Lifecycle.step st k.input).log = st.log ∧ (Lifecycle.step st k.input).crashed = false ∧
      Running (Lifecycle.step st k.input)) ∨
    ((Lifecycle.step st k.input).log = [.released, .event .stopping] ++ st.log ∧
      (Lifecycle.step st k.input).crashed = false ∧ Released (Lifecycle.step st k.input)) := by
  simp only [Lifecycle.step, h.sound, Bool.false_eq_true, if_false]
  cases k with
  | addressAdded =>
    simp only [Kernel.input, runInput, h.rtnl, Bool.false_eq_true, if_false]
    exact .inl ⟨by trivial, h.sound, h⟩
  | reply =>
    simp only [Kernel.input, runInput, Lifecycle.reply, h.noRequests, List.find?_nil]
    exact .inl ⟨by trivial, h.sound, h⟩
  | stopAp =>
    simp only [Kernel.input, runInput]
    split
    · rw [apMlmeNotify_started h.cmdId h.isStarted]
      exact .inr ⟨by simp [apReset_eq], by simp [apReset_eq, h.fresh, h.sound],
        released_apReset (by simp [h.log, Allowed])⟩
    · exact .inl ⟨by trivial, h.sound, h⟩
  | groupKeySet =>
    simp only [Kernel.input, runInput]
    rw [if_neg (by simp [h.fresh])]
    exact .inl ⟨rfl, h.sound, ⟨h.1, h.2, h.3, h.4, h.5, h.6, h.7, h.8⟩⟩

theorem shuttingDown_kernel {st : State} (h : ShuttingDown st) (stoppedFunc : st.stoppedFunc = true) (k : Kernel) :
    ((Lifecycle.step st k.input).log = st.log ∧ ShuttingDown (Lifecycle.step st k.input) ∧
      (Lifecycle.step st k.input).stoppedFunc = true) ∨
    ((Lifecycle.step st k.input).log = [.released, .stopped] ++ st.log ∧
      (Lifecycle.step st k.input).crashed = false ∧ Released (Lifecycle.step st k.input)) := by
  simp only [Lifecycle.step, h.sound, Bool.false_eq_true, if_false]
  cases k with
  | addressAdded =>
    simp only [Kernel.input, runInput, h.rtnl, Bool.false_eq_true, if_false]
    exact .inl ⟨by trivial, h, stoppedFunc⟩
  | reply id error dhcpStarted =>
    simp only [Kernel.input, runInput, Lifecycle.reply]
    split
    · exact .inl ⟨by trivial, h, stoppedFunc⟩
    · next r found =>
      have cancelled : ShuttingDown (st.cancel id) :=
        ⟨h.1, h.2, h.3, h.4, h.5, fun r held => h.noStartAp r (List.mem_of_mem_filter held), h.7, h.8, h.9⟩
      have stopped : ShuttingDown { st.cancel id with startStopCmdId := 0 } :=
        ⟨h.1, h.2, h.3, h.4, h.5, cancelled.6, h.7, h.8, h.9⟩
      cases callback : r.callback
      · exact absurd callback (h.noStartAp r (List.mem_of_find?_eq_some found))
      · refine .inr ⟨by simp [apStopCb, notifyStopped, stoppedFunc], by simp [apStopCb, notifyStopped, h.sound, stoppedFunc], ?_⟩
        simpa [apStopCb, stoppedFunc] using (shuttingDown_notifyStopped_release stopped true).1
      · exact .inl ⟨rfl, cancelled, stoppedFunc⟩
  | stopAp =>
    simp only [Kernel.input, runInput, h.mlme, Bool.false_eq_true, if_false]
    exact .inl ⟨by trivial, h, stoppedFunc⟩
  | groupKeySet =>
    simp only [Kernel.input, runInput, h.reset, if_true]
    exact .inl ⟨by trivial, h, stoppedFunc⟩

theorem released_kernel {st : State} (h : Released st) (sound : st.crashed = false) (k : Kernel) :
    (Lifecycle.step st k.input).log = st.log ∧ (Lifecycle.step st k.input).crashed = false ∧
      Released (Lifecycle.step st k.input) := by
  simp only [Lifecycle.step, sound, Bool.false_eq_true, if_false]
  cases k with
  | addressAdded =>
    simp only [Kernel.input, runInput, h.rtnl, Bool.false_eq_true, if_false]
    exact ⟨by trivial, sound, h⟩
  | reply =>
    simp only [Kernel.input, runInput, Lifecycle.reply, h.noRequests, List.find?_nil]
    exact ⟨by trivial, sound, h⟩
  | stopAp =>
    simp only [Kernel.input, runInput, h.mlme, Bool.false_eq_true, if_false]
    exact ⟨by trivial, sound, h⟩
  | groupKeySet =>
    simp only [Kernel.input, runInput]
    split
    · exact ⟨by trivial, sound, h⟩
    · exact ⟨rfl, sound, h.1, h.2, h.3, h.4, h.5⟩

theorem unstarted_shutdown {st : State} (live : st.freed = false) (quiet : st.log = [])
    (notStarted : st.started = false) (cleared : (apReset st).requests = []) (fresh : st.reset = false)
    (sound : st.crashed = false) (delKeySent stopSent : Bool) :
    (ShuttingDown (ownerCall st (.shutdown true) (apShutdown · true delKeySent stopSent)) ∧
      (ownerCall st (.shutdown true) (apShutdown · true delKeySent stopSent)).stoppedFunc = true ∧
      (ownerCall st (.shutdown true) (apShutdown · true delKeySent stopSent)).log = [.shutdown true]) ∨
    (Released (ownerCall st (.shutdown true) (apShutdown · true delKeySent stopSent)) ∧
      (ownerCall st (.shutdown true) (apShutdown · true delKeySent stopSent)).crashed = false ∧
      (ownerCall st (.shutdown true) (apShutdown · true delKeySent stopSent)).log =
        [.released, .stopped, .shutdown true]) := by
  have down : ShuttingDown (apReset (st.emit (.shutdown true))) :=
    shuttingDown_apReset live (by simpa [apReset_eq] using cleared) (.inl (by simp [quiet]))
      (by simp [quiet, OwnerView.observe]) fresh sound
  have log : (apReset (st.emit (.shutdown true))).log = [.shutdown true] := by simp [apReset_eq, quiet]
  rw [ownerCall_live live, apShutdown, if_neg (by simp [notStarted])]
  rw [← log]
  exact shutdownDelKey_shows down delKeySent stopSent

theorem running_shutdown {st : State} (h : Running st) (delKeySent stopSent : Bool) :
    (ShuttingDown (ownerCall st (.shutdown true) (apShutdown · true delKeySent stopSent)) ∧
      (ownerCall st (.shutdown true) (apShutdown · true delKeySent stopSent)).stoppedFunc = true ∧
      (ownerCall st (.shutdown true) (apShutdown · true delKeySent stopSent)).log =
        [.event .stopping, .shutdown true] ++ st.log) ∨
    (Released (ownerCall st (.shutdown true) (apShutdown · true delKeySent stopSent)) ∧
      (ownerCall st (.shutdown true) (apShutdown · true delKeySent stopSent)).crashed = false ∧
      (ownerCall st (.shutdown true) (apShutdown · true delKeySent stopSent)).log =
        [.released, .stopped, .event .stopping, .shutdown true] ++ st.log) := by
  have down : ShuttingDown (apReset ({ st.emit (.shutdown true) with started := false }.emit (.event .stopping))) :=
    shuttingDown_apReset h.live (by simp [apReset_eq, h.cmdId, h.noRequests]) (by simp [h.log])
      (by simp [h.log, OwnerView.observe]) h.fresh h.sound
  have log : (apReset ({ st.emit (.shutdown true) with started := false }.emit (.event .stopping))).log =
      [.event .stopping, .shutdown true] ++ st.log := by simp [apReset_eq]
  rw [ownerCall_live h.live, apShutdown, if_pos (by simp [h.isStarted])]
  simpa only [log, List.cons_append, List.nil_append] using shutdownDelKey_shows down delKeySent stopSent

theorem live_free {st : State} (live : st.freed = false) (fresh : st.reset = false) (sound : st.crashed = false) :
    (ownerCall st .free apFree).log = [.released, .free] ++ st.log ∧ (ownerCall st .free apFree).crashed = false ∧
      (ownerCall st .free apFree).freed = true := by
  rw [ownerCall_live live]
  exact ⟨by simp [apFree, apReset_eq], by simp [apFree, apReset_eq, fresh, sound], rfl⟩

theorem shutdownStopAp_crashed (y : State) (f stopSent : Bool) :
    (shutdownStopAp y f stopSent).crashed = y.crashed := by
  cases stopSent
  · rw [shutdownStopAp_unsent]; cases f <;> rfl
  · rw [shutdownStopAp_sent]

theorem shutdownDelKey_crashed (x : State) (f delKeySent stopSent : Bool) :
    (shutdownDelKey x f delKeySent stopSent).crashed = x.crashed := by
  cases gtkSet : x.gtkSet
  · rw [shutdownDelKey_keyless gtkSet, shutdownStopAp_crashed]
  · cases delKeySent
    · rw [shutdownDelKey_unsent gtkSet]; cases f <;> rfl
    · rw [shutdownDelKey_sent gtkSet, shutdownStopAp_crashed]

theorem shuttingDown_shutdown_crashes {st : State} (h : ShuttingDown st) (delKeySent stopSent : Bool) :
    (ownerCall st (.shutdown true) (apShutdown · true delKeySent stopSent)).crashed = true := by
  rw [ownerCall_live h.live, apShutdown, if_neg (by simp [h.notStarted]), shutdownDelKey_crashed]
  simp [apReset_eq, h.reset]

theorem shuttingDown_free_crashes {st : State} (h : ShuttingDown st) : (ownerCall st .free apFree).crashed = true := by
  rw [ownerCall_live h.live]
  simp [apFree, apReset_eq, h.reset]

end Shows

/-! ### One input from each phase -/

theorem Agrees.congr {i j : ApIf} (h : Agrees i) (apState : j.apState = i.apState) (ap : j.ap = i.ap)
    (pending : j.pending = i.pending) (destroyed : j.destroyed = i.destroyed) : Agrees j := by
  cases h with
  | idle e u q alive => exact .idle (apState.trans e) (ap.trans u) (pending.trans q) (destroyed.trans alive)
  | addressWait held phase pointed awaited starts alive =>
    exact .addressWait (apState.trans held) phase (ap.trans pointed) (pending.trans awaited) starts
      (destroyed.trans alive)
  | starting held phase pointed awaited starts alive =>
    exact .starting (apState.trans held) phase (ap.trans pointed) (pending.trans awaited) starts
      (destroyed.trans alive)
  | running held phase pointed quiet alive =>
    exact .running (apState.trans held) phase (ap.trans pointed) (pending.trans quiet) (destroyed.trans alive)
  | shuttingDown held phase stoppedFunc pointed awaited stops alive =>
    exact .shuttingDown (apState.trans held) phase stoppedFunc (ap.trans pointed) (pending.trans awaited) stops
      (destroyed.trans alive)
  | released held phase sound unpointed quiet alive =>
    exact .released (apState.trans held) phase sound (ap.trans unpointed) (pending.trans quiet) (destroyed.trans alive)
  | destroyed gone freed unpointed quiet =>
    exact .destroyed (destroyed.trans gone) (fun st held => freed st (apState ▸ held)) (ap.trans unpointed)
      (pending.trans quiet)

@[simp] theorem observe_released (i : ApIf) : observe i .released = i := rfl
@[simp] theorem observe_free (i : ApIf) : observe i .free = i := rfl
@[simp] theorem observe_shutdown (i : ApIf) (f : Bool) : observe i (.shutdown f) = i := rfl

theorem observe_stopping_awaited {i : ApIf} {c : Call} (awaited : i.pending = some c) :
    observe i (.event .stopping) = i := by
  simp [observe, apIfEventFunc, awaited]

theorem observe_stopping_quiet (i : ApIf) (quiet : i.pending = none) :
    observe i (.event .stopping) = { i with ap := false } := by
  simp [observe, apIfEventFunc, quiet]

theorem observe_started (i : ApIf) {c : Call} (awaited : i.pending = some c) :
    observe i (.event .started) = { i.reply c .methodReturn with pending := none } := by
  simp [observe, apIfEventFunc, ApIf.pendingReply, awaited]

theorem observe_startFailed (i : ApIf) {c : Call} (awaited : i.pending = some c) :
    observe i (.event .startFailed) = { i.reply c (.error dbusErrorFailed) with pending := none, ap := false } := by
  simp [observe, apIfEventFunc, ApIf.pendingReply, awaited]

theorem observe_stopped (i : ApIf) {c : Call} (awaited : i.pending = some c) :
    observe i .stopped = { i.reply c .methodReturn with pending := none, ap := false } := by
  simp [observe, apDbusStopCb, ApIf.pendingReply, awaited]

theorem withAp_sound {i : ApIf} {st st' : State} (new : List Effect) (log : st'.log = new ++ st.log)
    (sound : i.crashed = false) (sound' : st'.crashed = false) :
    withAp i st st' = new.reverse.foldl observe { i with apState := some st' } := by
  rw [withAp_eq i log]
  congr 1
  simp [sound, sound']

theorem withAp_quiet {i : ApIf} {st st' : State} (log : st'.log = st.log) (sound : i.crashed = false)
    (sound' : st'.crashed = false) : withAp i st st' = { i with apState := some st' } :=
  withAp_sound [] log sound sound'

theorem withAp_release {i : ApIf} {st st' : State} (e : Effect) (log : st'.log = [.released, e] ++ st.log)
    (sound : i.crashed = false) (sound' : st'.crashed = false) :
    withAp i st st' = observe { i with apState := some st' } e := by
  rw [withAp_sound _ log sound sound']
  rfl

theorem Inv.start_unpointed {i : ApIf} (h : Inv i) (unpointed : i.ap = false) (quiet : i.pending = none)
    (alive : i.destroyed = false) {m : Method} (starts : m ≠ .stop) (args : Bool) (env : Lifecycle.StartEnv) :
    Inv (apDbusStart (receive i m).1 (receive i m).2 args env) := by
  have keeps : ∀ r, Inv ((receive i m).1.reply (receive i m).2 r) :=
    fun _ => ⟨h.sound, h.agrees.congr rfl rfl rfl rfl⟩
  unfold Interface.apDbusStart
  rw [show (receive i m).1.pointee = none by simp [ApIf.pointee, receive, unpointed]]
  dsimp only
  rw [if_neg (by simp [receive, quiet])]
  split
  · exact keeps _
  · split
    · exact keeps _
    · next st started =>
      refine ⟨h.sound, ?_⟩
      rcases apStart_waits started with phase | phase
      · exact .addressWait rfl phase rfl rfl starts alive
      · exact .starting rfl phase rfl rfl starts alive

theorem Inv.start_pointed {i : ApIf} (h : Inv i) {st : State} (held : i.apState = some st) (pointed : i.ap = true)
    (live : st.freed = false) (m : Method) (args : Bool) (env : Lifecycle.StartEnv) :
    Inv (apDbusStart (receive i m).1 (receive i m).2 args env) := by
  have keeps : ∀ r, Inv ((receive i m).1.reply (receive i m).2 r) :=
    fun _ => ⟨h.sound, h.agrees.congr rfl rfl rfl rfl⟩
  unfold Interface.apDbusStart
  rw [show (receive i m).1.pointee = some st by simp [ApIf.pointee, receive, pointed, held]]
  dsimp only
  rw [if_neg (by simp [live])]
  split <;> exact keeps _

theorem Inv.start {i : ApIf} (h : Inv i) (live : i.destroyed = false) {m : Method} (starts : m ≠ .stop)
    (args : Bool) (env : Lifecycle.StartEnv) : Inv (apDbusStart (receive i m).1 (receive i m).2 args env) := by
  cases h.agrees with
  | idle _ unpointed quiet => exact h.start_unpointed unpointed quiet live starts args env
  | released _ _ _ unpointed quiet => exact h.start_unpointed unpointed quiet live starts args env
  | addressWait held phase pointed => exact h.start_pointed held pointed phase.live m args env
  | starting held phase pointed => exact h.start_pointed held pointed phase.live m args env
  | running held phase pointed => exact h.start_pointed held pointed phase.live m args env
  | shuttingDown held phase _ pointed => exact h.start_pointed held pointed phase.live m args env
  | destroyed gone => simp [gone] at live

theorem observe_crashed (i : ApIf) (e : Effect) : (observe i e).crashed = i.crashed := by
  rcases e with (_ | _ | _) | _ | _ | _ | _ <;> simp only [observe, apIfEventFunc, apDbusStopCb]
  all_goals first | rfl | (split <;> simp) | simp

theorem withAp_crashed (i : ApIf) (st st' : State) : (withAp i st st').crashed = (i.crashed || st'.crashed) := by
  unfold withAp
  generalize delivered st st' = es
  suffices ∀ j : ApIf, (es.foldl observe j).crashed = j.crashed from this _
  induction es with
  | nil => intro j; rfl
  | cons e es ih => intro j; rw [List.foldl_cons, ih, observe_crashed]

theorem foldl_observe_awaited {i : ApIf} {c : Call} (awaited : i.pending = some c) (es : List Effect)
    (passed : ∀ e ∈ es, e = .shutdown true ∨ e = .event .stopping) : es.foldl observe i = i := by
  induction es with
  | nil => rfl
  | cons e es ih =>
    rw [List.foldl_cons]
    rcases passed e (List.mem_cons_self e es) with rfl | rfl
    · exact ih fun e held => passed e (List.mem_cons_of_mem _ held)
    · rw [observe_stopping_awaited awaited]
      exact ih fun e held => passed e (List.mem_cons_of_mem _ held)

theorem withAp_shutdown {i : ApIf} {c : Call} {st st' : State} (awaited : i.pending = some c)
    (sound : i.crashed = false) (sound' : st'.crashed = false) (pre : List Effect)
    (passed : ∀ e ∈ pre, e = .shutdown true ∨ e = .event .stopping) :
    (st'.log = pre ++ st.log → withAp i st st' = { i with apState := some st' }) ∧
    (st'.log = [.released, .stopped] ++ pre ++ st.log →
      withAp i st st' = { i.reply c .methodReturn with apState := some st', pending := none, ap := false }) := by
  constructor
  · intro log
    rw [withAp_sound _ log sound sound']
    exact foldl_observe_awaited (show ({ i with apState := some st' } : ApIf).pending = some c from awaited) _
      (by simpa using passed)
  · intro log
    rw [withAp_sound ([.released, .stopped] ++ pre) (by simp [log]) sound sound']
    simp only [List.reverse_append, List.reverse_cons, List.reverse_nil, List.nil_append, List.singleton_append,
      List.foldl_append, List.foldl_cons, List.foldl_nil]
    rw [foldl_observe_awaited (show ({ i with apState := some st' } : ApIf).pending = some c from awaited) _
      (by simpa using passed), observe_stopped { i with apState := some st' } awaited, observe_released]
    rfl

theorem apDbusStop_pointed {i : ApIf} {st : State} (held : i.apState = some st) (pointed : i.ap = true)
    (delKeySent stopSent : Bool) :
    apDbusStop (receive i .stop).1 (receive i .stop).2 delKeySent stopSent =
      withAp { (receive i .stop).1.pendingReply (.error dbusErrorAborted) with pending := some (receive i .stop).2 }
        st (Lifecycle.ownerCall st (.shutdown true) (Lifecycle.apShutdown · true delKeySent stopSent)) := by
  unfold apDbusStop
  rw [show (receive i .stop).1.pointee = some st by simp [ApIf.pointee, receive, pointed, held]]

theorem Inv.stop_unstarted {i : ApIf} (h : Inv i) {st : State} (held : i.apState = some st)
    (pointed : i.ap = true) (live : st.freed = false) (quiet : st.log = []) (notStarted : st.started = false)
    (cleared : (Lifecycle.apReset st).requests = []) (fresh : st.reset = false) (sound : st.crashed = false)
    (alive : i.destroyed = false) (delKeySent stopSent : Bool) : Inv (apDbusStop (receive i .stop).1 (receive i .stop).2 delKeySent stopSent) := by
  rw [apDbusStop_pointed held pointed]
  rcases unstarted_shutdown live quiet notStarted cleared fresh sound delKeySent stopSent with
    ⟨phase, stoppedFunc, log⟩ | ⟨phase, sound', log⟩
  · rw [(withAp_shutdown rfl (by simp [receive, h.sound]) phase.sound [.shutdown true] (by simp)).1
      (by simp [log, quiet])]
    exact ⟨by simp [receive, h.sound],
      .shuttingDown rfl phase stoppedFunc (by simp [receive, pointed]) rfl rfl (by simp [receive, alive])⟩
  · rw [(withAp_shutdown rfl (by simp [receive, h.sound]) sound' [.shutdown true] (by simp)).2
      (by simp [log, quiet])]
    exact ⟨by simp [receive, h.sound], .released rfl phase sound' rfl rfl (by simp [receive, alive])⟩

theorem Inv.stop_running {i : ApIf} (h : Inv i) {st : State} (held : i.apState = some st)
    (pointed : i.ap = true) (phase : Running st) (alive : i.destroyed = false) (delKeySent stopSent : Bool) :
    Inv (apDbusStop (receive i .stop).1 (receive i .stop).2 delKeySent stopSent) := by
  rw [apDbusStop_pointed held pointed]
  have passed : ∀ e ∈ [Effect.event .stopping, .shutdown true], e = .shutdown true ∨ e = .event .stopping := by
    simp
  rcases running_shutdown phase delKeySent stopSent with ⟨down, stoppedFunc, log⟩ | ⟨freed, sound', log⟩
  · rw [(withAp_shutdown rfl (by simp [receive, h.sound]) down.sound _ passed).1 log]
    exact ⟨by simp [receive, h.sound],
      .shuttingDown rfl down stoppedFunc (by simp [receive, pointed]) rfl rfl (by simp [receive, alive])⟩
  · rw [(withAp_shutdown rfl (by simp [receive, h.sound]) sound' _ passed).2 (by simpa using log)]
    exact ⟨by simp [receive, h.sound], .released rfl freed sound' rfl rfl (by simp [receive, alive])⟩

theorem Inv.stop {i : ApIf} (h : Inv i) (live : i.destroyed = false) (delKeySent stopSent : Bool) :
    Inv (apDbusStop (receive i .stop).1 (receive i .stop).2 delKeySent stopSent) ∨
      ∃ c, i.pending = some c ∧ c.method = .stop := by
  have unpointed : i.ap = false → i.pending = none →
      Inv (apDbusStop (receive i .stop).1 (receive i .stop).2 delKeySent stopSent) := fun unpointed quiet => by
    unfold apDbusStop
    rw [show (receive i .stop).1.pointee = none by simp [ApIf.pointee, receive, unpointed]]
    dsimp only
    rw [if_neg (by simp [receive, quiet])]
    exact ⟨h.sound, h.agrees.congr rfl rfl rfl rfl⟩
  cases h.agrees with
  | idle _ u q => exact .inl (unpointed u q)
  | released _ _ _ u q => exact .inl (unpointed u q)
  | addressWait held phase pointed =>
    exact .inl (h.stop_unstarted held pointed phase.live phase.quiet phase.notStarted
      (by simp [Lifecycle.apReset_eq, phase.cmdId, phase.noRequests]) phase.fresh phase.sound live delKeySent stopSent)
  | starting held phase pointed =>
    exact .inl (h.stop_unstarted held pointed phase.live phase.quiet phase.notStarted
      (by simp [Lifecycle.apReset_eq, phase.cmdId, phase.startAp]) phase.fresh phase.sound live delKeySent stopSent)
  | running held phase pointed => exact .inl (h.stop_running held pointed phase live delKeySent stopSent)
  | shuttingDown _ _ _ _ awaited stops => exact .inr ⟨_, awaited, stops⟩
  | destroyed gone => simp [gone] at live

theorem kernel_held {i : ApIf} {st : State} (held : i.apState = some st) (k : Kernel) :
    kernel i k = withAp i st (Lifecycle.step st k.input) := by
  simp [Interface.kernel, held]

theorem Inv.kernel_awaited {i : ApIf} (h : Inv i) {st st' : State} {c : Call} (pointed : i.ap = true)
    (awaited : i.pending = some c) (starts : c.method ≠ .stop) (alive : i.destroyed = false) (quiet : st.log = [])
    (shows : (st'.log = [] ∧ st'.crashed = false ∧ (AddressWait st' ∨ Starting st')) ∨
      (st'.log = [.released, .event .startFailed] ∧ st'.crashed = false ∧ Released st') ∨
      (st'.log = [.event .started] ∧ Running st')) :
    Inv (withAp i st st') := by
  rcases shows with ⟨log, sound', phase'⟩ | ⟨log, sound', phase'⟩ | ⟨log, phase'⟩
  · rw [withAp_quiet (log.trans quiet.symm) h.sound sound']
    refine ⟨h.sound, ?_⟩
    rcases phase' with phase' | phase'
    · exact .addressWait rfl phase' pointed awaited starts alive
    · exact .starting rfl phase' pointed awaited starts alive
  · rw [withAp_release (.event .startFailed) (by simp [log, quiet]) h.sound sound',
      observe_startFailed { i with apState := some st' } awaited]
    exact ⟨h.sound, .released rfl phase' sound' rfl rfl alive⟩
  · rw [withAp_sound [.event .started] (by simp [log, quiet]) h.sound phase'.sound]
    simp only [List.reverse_cons, List.reverse_nil, List.nil_append, List.foldl_cons, List.foldl_nil]
    rw [observe_started { i with apState := some st' } awaited]
    exact ⟨h.sound, .running rfl phase' pointed rfl alive⟩

theorem Inv.kernel {i : ApIf} (h : Inv i) (live : i.destroyed = false) (k : Kernel) :
    Inv (Interface.kernel i k) ∨ Bad i (.kernel k) := by
  cases h.agrees with
  | idle empty =>
    rw [show Interface.kernel i k = i by simp [Interface.kernel, empty]]
    exact .inl h
  | @addressWait st _ held phase pointed awaited starts =>
    rw [kernel_held held]
    rcases addressWait_kernel phase k with shows | shows | ⟨rfl, mlme, -⟩
    · exact .inl (h.kernel_awaited pointed awaited starts live phase.quiet (.inl shows))
    · exact .inl (h.kernel_awaited pointed awaited starts live phase.quiet (.inr (.inl shows)))
    · exact .inr ⟨st, held, phase, mlme⟩
  | starting held phase pointed awaited starts =>
    rw [kernel_held held]
    exact .inl (h.kernel_awaited pointed awaited starts live phase.quiet (by
      rcases starting_kernel phase k with ⟨log, sound', phase'⟩ | shows | shows
      · exact .inl ⟨log, sound', .inr phase'⟩
      · exact .inr (.inl shows)
      · exact .inr (.inr shows)))
  | running held phase pointed quiet =>
    rw [kernel_held held]
    rcases running_kernel phase k with ⟨log, sound', phase'⟩ | ⟨log, sound', phase'⟩
    · rw [withAp_quiet log h.sound sound']
      exact .inl ⟨h.sound, .running rfl phase' pointed quiet live⟩
    · rw [withAp_release _ log h.sound sound', observe_stopping_quiet { i with apState := some _ } quiet]
      exact .inl ⟨h.sound, .released rfl phase' sound' rfl quiet live⟩
  | shuttingDown held phase stoppedFunc pointed awaited stops =>
    rw [kernel_held held]
    rcases shuttingDown_kernel phase stoppedFunc k with ⟨log, phase', stoppedFunc'⟩ | ⟨log, sound', phase'⟩
    · rw [withAp_quiet log h.sound phase'.sound]
      exact .inl ⟨h.sound, .shuttingDown rfl phase' stoppedFunc' pointed awaited stops live⟩
    · rw [withAp_release _ log h.sound sound', observe_stopped { i with apState := some _ } awaited]
      exact .inl ⟨h.sound, .released rfl phase' sound' rfl rfl live⟩
  | released held phase sound' unpointed quiet =>
    rw [kernel_held held]
    obtain ⟨log, sound'', phase'⟩ := released_kernel phase sound' k
    rw [withAp_quiet log h.sound sound'']
    exact .inl ⟨h.sound, .released rfl phase' sound'' unpointed quiet live⟩
  | destroyed gone => simp [gone] at live

theorem Inv.destroy_unpointed {i : ApIf} (h : Inv i) (unpointed : i.ap = false)
    (freed : ∀ st, i.apState = some st → st.freed = true) : Inv (apDestroyInterface i) := by
  unfold apDestroyInterface
  dsimp only
  rw [show (i.pendingReply _).pointee = none by simp [ApIf.pointee, unpointed]]
  exact ⟨by simp [h.sound], .destroyed rfl (by simpa using freed) rfl (by simp)⟩

theorem Inv.destroy_live {i : ApIf} (h : Inv i) {st : State} (held : i.apState = some st) (pointed : i.ap = true)
    (live : st.freed = false) (fresh : st.reset = false) (sound : st.crashed = false) :
    Inv (apDestroyInterface i) := by
  obtain ⟨log, sound', freed⟩ := live_free live fresh sound
  unfold apDestroyInterface
  dsimp only
  rw [show (i.pendingReply _).pointee = some st by simp [ApIf.pointee, pointed, held]]
  dsimp only
  rw [withAp_release _ log (by simp [h.sound]) sound', observe_free]
  exact ⟨by simp [h.sound], .destroyed rfl (by simpa using freed) rfl (by simp)⟩

theorem Inv.destroy {i : ApIf} (h : Inv i) : Inv (apDestroyInterface i) ∨ Bad i .destroy := by
  cases h.agrees with
  | idle empty unpointed => exact .inl (h.destroy_unpointed unpointed (by simp [empty]))
  | released held phase _ unpointed => exact .inl (h.destroy_unpointed unpointed (by simp [held, phase.freed]))
  | destroyed _ freed unpointed => exact .inl (h.destroy_unpointed unpointed freed)
  | addressWait held phase pointed => exact .inl (h.destroy_live held pointed phase.live phase.fresh phase.sound)
  | starting held phase pointed => exact .inl (h.destroy_live held pointed phase.live phase.fresh phase.sound)
  | running held phase pointed => exact .inl (h.destroy_live held pointed phase.live phase.fresh phase.sound)
  | shuttingDown _ _ _ _ awaited stops => exact .inr ⟨_, awaited, stops⟩

theorem Inv.step {i : ApIf} (h : Inv i) (input : Input) : Inv (Interface.step i input) ∨ Bad i input := by
  cases gone : i.destroyed
  case true => rw [step_halted (by simp [gone])]; exact .inl h
  unfold Interface.step
  rw [if_neg (by simp [gone, h.sound])]
  cases input with
  | start args env => exact .inl (h.start gone (by decide) args env)
  | startProfile args env => exact .inl (h.start gone (by decide) args env)
  | stop delKeySent stopSent => exact h.stop gone delKeySent stopSent
  | kernel k => exact h.kernel gone k
  | destroy => exact h.destroy

theorem Inv.good {i : ApIf} (h : Inv i) : i.good = true := by
  have unpointed : i.ap = false → i.good = true := fun u => by simp [ApIf.good, ApIf.dangling, h.sound, u]
  have live : ∀ {st : State}, i.apState = some st → st.freed = false → i.good = true := fun held live => by
    simp [ApIf.good, ApIf.dangling, h.sound, held, live]
  cases h.agrees with
  | idle _ u => exact unpointed u
  | released _ _ _ u => exact unpointed u
  | destroyed _ _ u => exact unpointed u
  | addressWait held phase => exact live held phase.live
  | starting held phase => exact live held phase.live
  | running held phase => exact live held phase.live
  | shuttingDown held phase => exact live held phase.live

theorem Ruined.good {i : ApIf} (h : Ruined i) : i.good = false := by
  rcases h with crashed | ⟨pointed, st, held, phase, -⟩
  · simp [ApIf.good, crashed]
  · simp [ApIf.good, ApIf.dangling, pointed, held, phase.freed]

/-! ### The three bad inputs -/

theorem apDbusStart_crashes {i : ApIf} {st : State} (held : i.apState = some st) (pointed : i.ap = true)
    (freed : st.freed = true) (m : Method) (args : Bool) (env : Lifecycle.StartEnv) :
    (apDbusStart (receive i m).1 (receive i m).2 args env).crashed = true := by
  simp [apDbusStart, ApIf.pointee, receive, held, pointed, freed]

theorem apDbusStop_crashes {i : ApIf} {st : State} (held : i.apState = some st) (pointed : i.ap = true)
    {delKeySent stopSent : Bool}
    (crashes : (Lifecycle.ownerCall st (.shutdown true) (Lifecycle.apShutdown · true delKeySent stopSent)).crashed = true) :
    (apDbusStop (receive i .stop).1 (receive i .stop).2 delKeySent stopSent).crashed = true := by
  rw [apDbusStop_pointed held pointed]
  simp [withAp_crashed, crashes]

theorem apDestroyInterface_crashes {i : ApIf} {st : State} (held : i.apState = some st) (pointed : i.ap = true)
    (crashes : (Lifecycle.ownerCall st .free Lifecycle.apFree).crashed = true) :
    (apDestroyInterface i).crashed = true := by
  unfold apDestroyInterface
  dsimp only
  rw [show (i.pendingReply _).pointee = some st by simp [ApIf.pointee, pointed, held]]
  simp [withAp_crashed, crashes]

theorem Inv.stopping {i : ApIf} (h : Inv i) {c : Call} (awaited : i.pending = some c) (stops : c.method = .stop) :
    ∃ st, i.apState = some st ∧ i.ap = true ∧ ShuttingDown st ∧ i.destroyed = false := by
  have starting : ∀ {c' : Call}, i.pending = some c' → c'.method ≠ .stop → False := fun awaited' starts => by
    obtain rfl := Option.some.inj (awaited'.symm.trans awaited)
    exact starts stops
  cases h.agrees with
  | shuttingDown held phase _ pointed _ _ alive => exact ⟨_, held, pointed, phase, alive⟩
  | addressWait _ _ _ awaited' starts => exact (starting awaited' starts).elim
  | starting _ _ _ awaited' starts => exact (starting awaited' starts).elim
  | idle _ _ quiet => simp [quiet] at awaited
  | running _ _ _ quiet => simp [quiet] at awaited
  | released _ _ _ _ quiet => simp [quiet] at awaited
  | destroyed _ _ _ quiet => simp [quiet] at awaited

theorem Inv.addressWaiting {i : ApIf} (h : Inv i) {st : State} (held : i.apState = some st) (phase : AddressWait st) :
    i.ap = true ∧ i.destroyed = false := by
  have other : ∀ {st' : State}, i.apState = some st' → st'.rtnlAddCmd = false → False := fun held' rtnl => by
    obtain rfl := Option.some.inj (held.symm.trans held')
    simp [phase.rtnl] at rtnl
  cases h.agrees with
  | addressWait _ _ pointed _ _ alive => exact ⟨pointed, alive⟩
  | idle empty => simp [empty] at held
  | starting held' phase' => exact (other held' phase'.rtnl).elim
  | running held' phase' => exact (other held' phase'.rtnl).elim
  | shuttingDown held' phase' => exact (other held' phase'.rtnl).elim
  | released held' phase' => exact (other held' phase'.rtnl).elim
  | destroyed _ freed => exact absurd (freed st held) (by simp [phase.live])

theorem Inv.ruined_of_bad {i : ApIf} (h : Inv i) {input : Input} (bad : Bad i input) :
    Ruined (Interface.step i input) := by
  have running (alive : i.destroyed = false) : (i.destroyed || i.crashed) = false := by simp [alive, h.sound]
  cases input with
  | stop delKeySent stopSent =>
    obtain ⟨c, awaited, stops⟩ := bad
    obtain ⟨st, held, pointed, phase, alive⟩ := h.stopping awaited stops
    unfold Interface.step
    rw [if_neg (by simp [running alive])]
    exact .inl (apDbusStop_crashes held pointed (shuttingDown_shutdown_crashes phase delKeySent stopSent))
  | destroy =>
    obtain ⟨c, awaited, stops⟩ := bad
    obtain ⟨st, held, pointed, phase, alive⟩ := h.stopping awaited stops
    unfold Interface.step
    rw [if_neg (by simp [running alive])]
    exact .inl (apDestroyInterface_crashes held pointed (shuttingDown_free_crashes phase))
  | kernel k =>
    cases k
    case stopAp =>
      obtain ⟨st, held, phase, mlme⟩ := bad
      obtain ⟨pointed, alive⟩ := h.addressWaiting held phase
      obtain ⟨log, sound', freed⟩ := addressWait_stopAp phase mlme
      unfold Interface.step
      rw [if_neg (by simp [running alive])]
      dsimp only
      rw [kernel_held held, withAp_sound [.released] (by simp [log, phase.quiet]) h.sound sound']
      exact .inr ⟨pointed, _, rfl, freed, sound'⟩
    all_goals exact bad.elim
  | start => exact bad.elim
  | startProfile => exact bad.elim

theorem Ruined.step {i : ApIf} (h : Ruined i) (input : Input) : Ruined (Interface.step i input) := by
  cases halted : (i.destroyed || i.crashed)
  case true => rw [step_halted halted]; exact h
  have sound : i.crashed = false := by simp_all
  rcases h with crashed | ⟨pointed, st, held, phase, sound'⟩
  · simp [crashed] at sound
  unfold Interface.step
  rw [if_neg (by simp [halted])]
  have freesAgain (call : Lifecycle.Effect) (f : State → State) : (Lifecycle.ownerCall st call f).crashed = true := by
    simp [Lifecycle.ownerCall_freed phase.freed]
  cases input with
  | start args env => exact .inl (apDbusStart_crashes held pointed phase.freed _ args env)
  | startProfile args env => exact .inl (apDbusStart_crashes held pointed phase.freed _ args env)
  | stop delKeySent stopSent => exact .inl (apDbusStop_crashes held pointed (freesAgain _ _))
  | destroy => exact .inl (apDestroyInterface_crashes held pointed (freesAgain _ _))
  | kernel k =>
    dsimp only
    obtain ⟨log, sound'', phase'⟩ := released_kernel phase sound' k
    rw [kernel_held held, withAp_quiet log sound sound'']
    exact .inr ⟨pointed, _, rfl, phase', sound''⟩

theorem Reachable.inv_or_ruined {i : ApIf} (h : Reachable i) : Inv i ∨ Ruined i := by
  induction h with
  | new => exact .inl ⟨rfl, .idle rfl rfl rfl rfl⟩
  | step input _ ih =>
    rcases ih with h | ruined
    · rcases h.step input with h' | bad
      · exact .inl h'
      · exact .inr (h.ruined_of_bad bad)
    · exact .inr (ruined.step input)

/-- From a reachable state that used no freed memory and points at none, an input makes the
interface go wrong exactly when it is one of the three bad ones: a `Stop` or
`ap_destroy_interface` while a `Stop` is pending, or STOP_AP while `ap_start` waits for its
address. -/
theorem interface_goes_wrong_iff {i : ApIf} (reachable : Reachable i) (good : i.good = true) (input : Input) :
    (step i input).good = false ↔ Bad i input := by
  have h : Inv i := reachable.inv_or_ruined.resolve_right fun ruined => Bool.false_ne_true (ruined.good.symm.trans good)
  constructor
  · intro wrong
    rcases h.step input with h' | bad
    · exact absurd (h'.good.symm.trans wrong) (by decide)
    · exact bad
  · exact fun bad => (h.ruined_of_bad bad).good

/-- A second `Stop` while the first waits for STOP_AP. -/
theorem stop_twice_goes_wrong :
    (run stopPending).good = true ∧ (step (run stopPending) (.stop true true)).good = false :=
  ⟨by decide, (interface_goes_wrong_iff (reachable_run _) (by decide) _).mpr ⟨_, rfl, rfl⟩⟩

end Iwd.Ap.Interface
