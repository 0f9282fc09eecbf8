import Iwd.Ap.Lifecycle

/-!
The `net.connman.iwd.AccessPoint` interface of ap.c, the owner of the `ap_state` that a D-Bus
`Start` or `StartProfile` starts. `struct ap_if_data` holds that `ap_state` and the one method
call it has not answered yet. `ap_dbus_start`, `ap_dbus_start_profile` and `ap_dbus_stop` take
the calls, `ap_if_event_func` and `ap_dbus_stop_cb` answer the pending one as the `ap_state`
reports its progress, and `ap_destroy_interface` aborts it.

The `ap_state` is `Iwd.Ap.Lifecycle.State`. The calls it makes into the interface
(`handle_event` and `stopped_func`) are read off its log after each call into it and handed to
the interface in their order, which gives what the C code computes: neither handler calls
back into ap.c, and ap.c reads nothing the handlers write.

Every call gets exactly one reply in every interleaving of calls, kernel replies and
notifications, as long as no freed memory is used (`answered_exactly_once`). When freed memory
comes into play is the subject of `Iwd.Ap.InterfaceSafety`.
-/

namespace Iwd.Dbus

open Iwd.Netdev (Errno)

/-- `l_dbus_message_new_error(msg, IWD_SERVICE name, text)`: the error name after the service
prefix, and the text. -/
structure DbusError where
  name : String
  text : String
  deriving DecidableEq, Repr

/-- `dbus_error_busy`. -/
def dbusErrorBusy : DbusError := ⟨".InProgress", "Operation already in progress"⟩

/-- `dbus_error_failed`. -/
def dbusErrorFailed : DbusError := ⟨".Failed", "Operation failed"⟩

/-- `dbus_error_aborted`. -/
def dbusErrorAborted : DbusError := ⟨".Aborted", "Operation aborted"⟩

/-- `dbus_error_not_available`. -/
def dbusErrorNotAvailable : DbusError := ⟨".NotAvailable", "Operation not available"⟩

/-- `dbus_error_invalid_args`. -/
def dbusErrorInvalidArgs : DbusError := ⟨".InvalidArgs", "Argument type is wrong"⟩

/-- `dbus_error_invalid_format`. -/
def dbusErrorInvalidFormat : DbusError := ⟨".InvalidFormat", "Argument format is invalid"⟩

/-- `dbus_error_already_exists`. -/
def dbusErrorAlreadyExists : DbusError := ⟨".AlreadyExists", "Object already exists"⟩

/-- `dbus_error_not_found`. -/
def dbusErrorNotFound : DbusError := ⟨".NotFound", "Object not found"⟩

/-- `dbus_error_not_supported`. -/
def dbusErrorNotSupported : DbusError := ⟨".NotSupported", "Operation not supported"⟩

/-- `dbus_error_not_connected`. -/
def dbusErrorNotConnected : DbusError := ⟨".NotConnected", "Not connected"⟩

/-- `dbus_error_not_configured`. -/
def dbusErrorNotConfigured : DbusError := ⟨".NotConfigured", "Not configured"⟩

/-- `dbus_error_not_implemented`. -/
def dbusErrorNotImplemented : DbusError := ⟨".NotImplemented", "Not implemented"⟩

/-- `dbus_error_from_errno` of `-err`, with `none` for 0. The errno values `Errno` has no
constructor for are Linux's: ECANCELED 125, ERFKILL 132, EBADMSG 74, EEXIST 17, ENOENT 2,
ENOKEY 126 and ENOSYS 38; ENOTSUP is EOPNOTSUPP. -/
def dbusErrorFromErrno : Option Errno → DbusError
  | some .busy => dbusErrorBusy
  | some (.other 125) => dbusErrorAborted
  | some (.other 132) => dbusErrorNotAvailable
  | some .inval => dbusErrorInvalidArgs
  | some (.other 74) => dbusErrorInvalidFormat
  | some (.other 17) => dbusErrorAlreadyExists
  | some (.other 2) => dbusErrorNotFound
  | some .opnotsupp => dbusErrorNotSupported
  | some (.other 126) => dbusErrorNotConfigured
  | some .notconn => dbusErrorNotConnected
  | some (.other 38) => dbusErrorNotImplemented
  | _ => dbusErrorFailed

/-- A reply: `l_dbus_message_new_method_return`, or an error. -/
inductive Reply where
  | methodReturn
  | error (e : DbusError)
  deriving DecidableEq, Repr

end Iwd.Dbus

namespace Iwd.Ap.Interface

open Iwd.Netdev (Errno)
open Iwd.Dbus

/-- The methods of the interface that `ap_setup_interface` registers. -/
inductive Method where
  | start | startProfile | stop
  deriving DecidableEq, Repr

/-- A method call, numbered in the order the calls arrive. -/
structure Call where
  id : Nat
  method : Method
  deriving DecidableEq, Repr

/-- `struct ap_if_data`, with the `ap_state` the interface started last. That `ap_state` is kept
when `ap_if->ap` lets go of it, so that what the kernel sends it still reaches it. -/
structure ApIf where
  /-- The `ap_state` the last successful `ap_start` returned. -/
  apState : Option Lifecycle.State
  /-- `ap_if->ap` points at it. -/
  ap : Bool
  /-- `ap_if->pending`. -/
  pending : Option Call
  /-- The calls received so far. -/
  received : Nat
  /-- The replies sent, newest first, each with the call it answers. -/
  replies : List (Call × Reply)
  /-- `ap_destroy_interface` has freed the interface. -/
  destroyed : Bool
  /-- Freed memory was used, by the interface or by its `ap_state`. -/
  crashed : Bool

/-- The interface `ap_add_interface` sets up. -/
def apIfNew : ApIf := ⟨none, false, none, 0, [], false, false⟩

namespace ApIf

variable (i : ApIf)

/-- The `ap_state` that `ap_if->ap` points at. -/
def pointee : Option Lifecycle.State := if i.ap then i.apState else none

/-- Sending `r` as the reply to `c`. -/
def reply (c : Call) (r : Reply) : ApIf := { i with replies := (c, r) :: i.replies }

/-- `dbus_pending_reply(&ap_if->pending, reply)`; every caller checks `ap_if->pending` first. -/
def pendingReply (r : Reply) : ApIf :=
  match i.pending with
  | none => i
  | some c => { i.reply c r with pending := none }

/-- `ap_if->ap` points at an `ap_state` that was freed. -/
def dangling : Bool := i.ap && (i.apState.map (·.freed)).getD false

/-- No freed memory was used and none is pointed at. -/
def good : Bool := !i.crashed && !i.dangling

end ApIf

/-- `ap_if_event_func`. The events for stations and PBC are ignored. -/
def apIfEventFunc (i : ApIf) : Lifecycle.LifeEvent → ApIf
  | .startFailed => match i.pending with
    | none => i
    | some _ => { i.pendingReply (.error dbusErrorFailed) with ap := false }
  | .started => i.pendingReply .methodReturn
  | .stopping => if i.pending.isNone then { i with ap := false } else i

/-- `ap_dbus_stop_cb`, the `stopped_func` that `ap_dbus_stop` gives `ap_shutdown`. -/
def apDbusStopCb (i : ApIf) : ApIf :=
  match i.pending with
  | none => i
  | some _ => { i.pendingReply .methodReturn with ap := false }

/-- What one call of the `ap_state` into its owner does to the interface. -/
def observe (i : ApIf) : Lifecycle.Effect → ApIf
  | .event e => apIfEventFunc i e
  | .stopped => apDbusStopCb i
  | _ => i

/-- The calls into the owner that an `ap_state` made while it went from `st` to `st'`, oldest
first: every function of the lifecycle puts them in front of the log. -/
def delivered (st st' : Lifecycle.State) : List Lifecycle.Effect :=
  (st'.log.take (st'.log.length - st.log.length)).reverse

/-- A call into the interface's `ap_state` that took it from `st` to `st'`. -/
def withAp (i : ApIf) (st st' : Lifecycle.State) : ApIf :=
  (delivered st st').foldl observe { i with apState := some st', crashed := i.crashed || st'.crashed }

/-- The errno `ap_start` leaves in `*err_out` when it returns NULL, `none` for 0: `-EINVAL`
before the profile is loaded, the error of `ap_load_profile_and_dhcp`, and 0 after it
succeeded, since `err` then holds its result. -/
def apStartErrOut (e : Lifecycle.StartEnv) : Option Errno :=
  if !e.ssid || !e.credentials then some .inval
  else match e.loadProfileAndDhcp with
    | .error err => some err
    | .ok _ => none

/-- `ap_dbus_start`, for the call `c`: `args` is whether `l_dbus_message_get_arguments` read
the SSID and passphrase, and `env` what `ap_start` meets. -/
def apDbusStart (i : ApIf) (c : Call) (args : Bool) (env : Lifecycle.StartEnv) : ApIf :=
  match i.pointee with
  | some st =>
    if st.freed then { i with crashed := true }
    else if st.started then i.reply c (.error dbusErrorAlreadyExists)
    else i.reply c (.error dbusErrorBusy)
  | none =>
    if i.pending.isSome then i.reply c (.error dbusErrorBusy)
    else if !args then i.reply c (.error dbusErrorInvalidArgs)
    else match Lifecycle.apStart env with
      | none => i.reply c (.error (dbusErrorFromErrno (apStartErrOut env)))
      | some st => { i with apState := some st, ap := true, pending := some c }

/-- `ap_dbus_start_profile`: `ap_dbus_start` with the SSID alone as its argument and the
profile's outcomes in `env`. -/
def apDbusStartProfile (i : ApIf) (c : Call) (args : Bool) (env : Lifecycle.StartEnv) : ApIf :=
  apDbusStart i c args env

/-- `ap_dbus_stop`, for the call `c`: a pending call is aborted and `ap_shutdown` runs with
`ap_dbus_stop_cb`; `delKeySent` and `stopSent` are what `ap_shutdown` meets. -/
def apDbusStop (i : ApIf) (c : Call) (delKeySent stopSent : Bool) : ApIf :=
  match i.pointee with
  | none => if i.pending.isSome then i.reply c (.error dbusErrorBusy) else i.reply c .methodReturn
  | some st =>
    withAp { i.pendingReply (.error dbusErrorAborted) with pending := some c } st
      (Lifecycle.ownerCall st (.shutdown true) (Lifecycle.apShutdown · true delKeySent stopSent))

/-- `ap_destroy_interface`. -/
def apDestroyInterface (i : ApIf) : ApIf :=
  let i := i.pendingReply (.error dbusErrorAborted)
  let i := match i.pointee with
    | none => i
    | some st => withAp i st (Lifecycle.ownerCall st .free Lifecycle.apFree)
  { i with ap := false, destroyed := true }

/-- What the kernel sends an `ap_state`: the inputs of the lifecycle that are no owner calls. -/
inductive Kernel where
  | addressAdded (error built sent : Bool)
  | reply (id : Nat) (error dhcpStarted : Bool)
  | stopAp
  | groupKeySet
  deriving DecidableEq, Repr

/-- The lifecycle input of a kernel message. -/
def Kernel.input : Kernel → Lifecycle.Input
  | .addressAdded error built sent => .addressAdded error built sent
  | .reply id error dhcpStarted => .reply id error dhcpStarted
  | .stopAp => .stopAp
  | .groupKeySet => .groupKeySet

/-- A kernel message for the interface's `ap_state`. -/
def kernel (i : ApIf) (k : Kernel) : ApIf :=
  match i.apState with
  | none => i
  | some st => withAp i st (Lifecycle.step st k.input)

/-- Every input of the interface: its method calls, what the kernel sends its `ap_state`,
and `ap_destroy_interface` when the netdev goes. -/
inductive Input where
  | start (args : Bool) (env : Lifecycle.StartEnv)
  | startProfile (args : Bool) (env : Lifecycle.StartEnv)
  | stop (delKeySent stopSent : Bool)
  | kernel (k : Kernel)
  | destroy

/-- The interface after receiving a call of `method`, and the call. -/
def receive (i : ApIf) (method : Method) : ApIf × Call :=
  ({ i with received := i.received + 1 }, ⟨i.received, method⟩)

/-- One step; nothing runs on a freed interface or after a use of freed memory. -/
def step (i : ApIf) (input : Input) : ApIf :=
  if i.destroyed || i.crashed then i
  else match input with
    | .start args env => let (i, c) := receive i .start; apDbusStart i c args env
    | .startProfile args env => let (i, c) := receive i .startProfile; apDbusStartProfile i c args env
    | .stop delKeySent stopSent => let (i, c) := receive i .stop; apDbusStop i c delKeySent stopSent
    | .kernel k => kernel i k
    | .destroy => apDestroyInterface i

/-- The states of the interface from `ap_add_interface` on. -/
inductive Reachable : ApIf → Prop where
  | new : Reachable apIfNew
  | step {i : ApIf} (input : Input) : Reachable i → Reachable (step i input)

/-- The interface after `inputs`, in their order. -/
def run (inputs : List Input) : ApIf := inputs.foldl step apIfNew

theorem reachable_run (inputs : List Input) : Reachable (run inputs) := by
  suffices ∀ i, Reachable i → Reachable (inputs.foldl step i) from this _ .new
  induction inputs with
  | nil => exact fun _ h => h
  | cons input inputs ih => exact fun _ h => ih _ (.step input h)

/-- `Start` on an interface that has its address and runs no DHCP server. -/
def directStart : Lifecycle.StartEnv := ⟨true, true, .ok false, false, true, true, true, true, true⟩

/-- A `Start` that the START_AP reply answers, then a `Stop` that waits for STOP_AP. -/
def stopPending : List Input := [.start true directStart, .kernel (.reply 1 false true), .stop true true]

/-! ### Exactly one reply per call -/


@[simp] theorem ApIf.reply_pending (i : ApIf) (c : Call) (r : Reply) : (i.reply c r).pending = i.pending := rfl
@[simp] theorem ApIf.reply_received (i : ApIf) (c : Call) (r : Reply) : (i.reply c r).received = i.received := rfl
@[simp] theorem ApIf.reply_replies (i : ApIf) (c : Call) (r : Reply) :
    (i.reply c r).replies = (c, r) :: i.replies := rfl
@[simp] theorem ApIf.reply_ap (i : ApIf) (c : Call) (r : Reply) : (i.reply c r).ap = i.ap := rfl
@[simp] theorem ApIf.reply_apState (i : ApIf) (c : Call) (r : Reply) : (i.reply c r).apState = i.apState := rfl
@[simp] theorem ApIf.reply_destroyed (i : ApIf) (c : Call) (r : Reply) : (i.reply c r).destroyed = i.destroyed := rfl
@[simp] theorem ApIf.reply_crashed (i : ApIf) (c : Call) (r : Reply) : (i.reply c r).crashed = i.crashed := rfl

@[simp] theorem ApIf.pendingReply_pending (i : ApIf) (r : Reply) : (i.pendingReply r).pending = none := by
  unfold ApIf.pendingReply; split <;> simp_all
@[simp] theorem ApIf.pendingReply_received (i : ApIf) (r : Reply) : (i.pendingReply r).received = i.received := by
  unfold ApIf.pendingReply; split <;> rfl
@[simp] theorem ApIf.pendingReply_ap (i : ApIf) (r : Reply) : (i.pendingReply r).ap = i.ap := by
  unfold ApIf.pendingReply; split <;> rfl
@[simp] theorem ApIf.pendingReply_apState (i : ApIf) (r : Reply) : (i.pendingReply r).apState = i.apState := by
  unfold ApIf.pendingReply; split <;> rfl
@[simp] theorem ApIf.pendingReply_destroyed (i : ApIf) (r : Reply) : (i.pendingReply r).destroyed = i.destroyed := by
  unfold ApIf.pendingReply; split <;> rfl
@[simp] theorem ApIf.pendingReply_crashed (i : ApIf) (r : Reply) : (i.pendingReply r).crashed = i.crashed := by
  unfold ApIf.pendingReply; split <;> rfl
theorem ApIf.pendingReply_receive (i : ApIf) (m : Method) (r : Reply) :
    (receive i m).1.pendingReply r = { i.pendingReply r with received := i.received + 1 } := by
  unfold ApIf.pendingReply; split <;> simp_all [receive, ApIf.reply]

/-- Every call received so far has had one reply, but the pending one, which has had none. -/
def Answered (i : ApIf) : Prop :=
  (∀ c, i.pending = some c → c.id < i.received) ∧
    ∀ n, (i.replies.map (·.1.id)).count n = if n < i.received ∧ i.pending.map (·.id) ≠ some n then 1 else 0

theorem count_reply (i : ApIf) (c : Call) (r : Reply) (n : Nat) :
    ((i.reply c r).replies.map (·.1.id)).count n = (i.replies.map (·.1.id)).count n + if c.id = n then 1 else 0 := by
  simp [ApIf.reply, List.count_cons]

theorem Answered.of_eq {i j : ApIf} (h : Answered i) (pending : j.pending = i.pending)
    (received : j.received = i.received) (replies : j.replies = i.replies) : Answered j := by
  unfold Answered; rw [pending, received, replies]; exact h

theorem Answered.pendingReply {i : ApIf} (h : Answered i) (r : Reply) : Answered (i.pendingReply r) := by
  unfold ApIf.pendingReply
  split
  · exact h
  · next c pending =>
    refine ⟨(fun _ none => by cases none), fun n => ?_⟩
    have below := h.1 c pending
    have counted := h.2 n
    simp only [pending, Option.map_some', ne_eq, Option.some.injEq] at counted
    show ((c.id :: i.replies.map (·.1.id)).count n) = if n < i.received ∧ (none : Option Call).map (·.id) ≠ some n then 1 else 0
    rw [List.count_cons, counted]
    by_cases same : c.id = n
    · subst same; simp [below]
    · simp [same]

theorem Answered.observe {i : ApIf} (h : Answered i) (e : Lifecycle.Effect) : Answered (observe i e) := by
  rcases e with (_ | _ | _) | _ | _ | _ | _ <;> simp only [Interface.observe, apIfEventFunc, apDbusStopCb]
  all_goals first
    | exact h
    | exact h.pendingReply _
    | (split <;> first | exact h | exact (h.pendingReply _).of_eq rfl rfl rfl)

theorem Answered.foldl {i : ApIf} (h : Answered i) (es : List Lifecycle.Effect) :
    Answered (es.foldl Interface.observe i) := by
  induction es generalizing i with
  | nil => exact h
  | cons e es ih => exact ih (h.observe e)

theorem Answered.withAp {i : ApIf} (h : Answered i) (st st' : Lifecycle.State) :
    Answered (withAp i st st') := by
  unfold Interface.withAp
  apply Answered.foldl
  exact h.of_eq rfl rfl rfl


theorem Answered.receive_reply {i : ApIf} (h : Answered i) (m : Method) (r : Reply) :
    Answered ((receive i m).1.reply (receive i m).2 r) := by
  refine ⟨fun c pending => Nat.lt_succ_of_lt (h.1 c pending), fun n => ?_⟩
  simp only [receive, ApIf.reply_replies, ApIf.reply_pending, ApIf.reply_received, List.map_cons,
    List.count_cons, h.2 n, beq_iff_eq]
  by_cases fresh : i.received = n
  · subst fresh
    have notPending : i.pending.map (·.id) ≠ some i.received := by
      cases p : i.pending with
      | none => simp
      | some c => simpa using Nat.ne_of_lt (h.1 c p)
    simp [notPending]
  · have : n < i.received + 1 ↔ n < i.received := by omega
    simp [fresh, this]

theorem Answered.receive_await {i j : ApIf} (h : Answered i) (quiet : i.pending = none) (m : Method)
    (pending : j.pending = some (receive i m).2) (received : j.received = i.received + 1)
    (replies : j.replies = i.replies) : Answered j := by
  refine ⟨fun c p => by simp [pending, receive] at p; simp [received, ← p], fun n => ?_⟩
  simp only [replies, h.2 n, quiet, pending, received, receive, Option.map_some', Option.map_none']
  by_cases fresh : i.received = n
  · subst fresh; simp
  · have : n < i.received + 1 ↔ n < i.received := by omega
    simp [fresh, this]

theorem Answered.apDbusStart {i : ApIf} (h : Answered i) (m : Method) (args : Bool) (env : Lifecycle.StartEnv)
    (sound : (apDbusStart (receive i m).1 (receive i m).2 args env).crashed = false) :
    Answered (apDbusStart (receive i m).1 (receive i m).2 args env) := by
  unfold Interface.apDbusStart at sound ⊢
  revert sound
  rcases (receive i m).1.pointee with _ | st <;> intro sound
  · dsimp only
    by_cases busy : (receive i m).1.pending.isSome
    · rw [if_pos busy]; exact h.receive_reply m _
    rw [if_neg busy]
    by_cases refused : args = false
    · rw [if_pos (by simp [refused])]; exact h.receive_reply m _
    rw [if_neg (by simpa using refused)]
    rcases Lifecycle.apStart env with _ | st
    · exact h.receive_reply m _
    · exact h.receive_await (by simpa [receive] using busy) m rfl rfl rfl
  · dsimp only at sound ⊢
    by_cases freed : st.freed
    · simp [freed] at sound
    · rw [if_neg freed]; split <;> exact h.receive_reply m _

theorem Answered.step {i : ApIf} (h : Answered i) (input : Input) (sound : (step i input).crashed = false) :
    Answered (step i input) := by
  unfold Interface.step at sound ⊢
  split
  · exact h
  rename_i live
  rw [if_neg live] at sound
  cases input with
  | start args env => exact h.apDbusStart .start args env sound
  | startProfile args env => exact h.apDbusStart .startProfile args env sound
  | stop delKeySent stopSent =>
    dsimp only [apDbusStop]
    split
    · split <;> exact h.receive_reply .stop _
    · apply Answered.withAp
      rw [ApIf.pendingReply_receive]
      exact (h.pendingReply _).receive_await (ApIf.pendingReply_pending _ _) .stop (by simp [receive]) (by simp) rfl
  | kernel k =>
    dsimp only [kernel]
    split
    · exact h
    · exact h.withAp _ _
  | destroy =>
    dsimp only [apDestroyInterface]
    have aborted := h.pendingReply (.error dbusErrorAborted)
    split
    · exact aborted.of_eq rfl rfl rfl
    · exact (aborted.withAp _ _).of_eq rfl rfl rfl

/-! ### Exactly one reply per call, over every run -/

theorem step_halted {i : ApIf} (halted : (i.destroyed || i.crashed) = true) (input : Input) :
    Interface.step i input = i := by
  unfold Interface.step
  rw [if_pos halted]

theorem Reachable.answered {i : ApIf} (h : Reachable i) (sound : i.crashed = false) : Answered i := by
  induction h with
  | new => exact ⟨by simp [apIfNew], by simp [apIfNew]⟩
  | @step i input _ ih =>
    have : i.crashed = false := by
      cases crashed : i.crashed
      · rfl
      · rw [step_halted (by simp [crashed])] at sound; simp [crashed] at sound
    exact (ih this).step input sound

/-- In every run that used no freed memory, each call received so far has been answered
exactly once, except the one call that is pending, which has not been answered yet. -/
theorem answered_exactly_once {i : ApIf} (reachable : Reachable i) (sound : i.crashed = false) (n : Nat) :
    (i.replies.map (·.1.id)).count n = if n < i.received ∧ i.pending.map (·.id) ≠ some n then 1 else 0 :=
  (reachable.answered sound).2 n

/-- The `Start` was answered and the `Stop` waits. -/
theorem stopPending_answered :
    (run stopPending).crashed = false ∧ ((run stopPending).replies.map (·.1.id)).count 0 = 1 :=
  ⟨by decide, answered_exactly_once (reachable_run _) (by decide) 0⟩

end Iwd.Ap.Interface
