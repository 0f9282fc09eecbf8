import Iwd.Ap.Frames

/-!
The AP as a state machine: every input ap.c reacts to is an event (a received frame, a
TX status, an nl80211 reply or notification, a handshake event, an idle or timer
callback, or a call of the AP API), and a run is the events in order. A reply or TX
status finds its request by id and runs the callback with the station it was given;
if that station has been freed, the callback reads freed memory and the run stops.
The owner's `handle_event` returns without calling back into ap.c, and the PBC walk
timer may fire at any time while PBC mode is active.
-/

namespace Iwd.Ap

open Iwd.Netdev (Bytes Mac Ie Errno)

/-- A received management frame, with `l_time_now()` for a Probe Request. -/
inductive Frame where
  | auth (hdr : Header) (algorithm transactionSequence : UInt16)
  | assocReq (hdr : Header) (capability listenInterval : UInt16) (ies : List Ie)
  | reassocReq (hdr : Header) (capability listenInterval : UInt16) (currentApAddress : Mac)
      (ies : List Ie)
  | disassoc (hdr : Header) (reasonCode : UInt16)
  | deauth (hdr : Header) (reasonCode : UInt16)
  | probeReq (hdr : Header) (ies : List Ie) (now : UInt64)

/-- Every input of the AP. -/
inductive Event where
  | frame (f : Frame)
  | txStatus (id : Nat) (err : Option Errno)
  | reply (id : Nat) (err : Option Errno) (keySeq : Option Bytes)
  | newStation (attrs : List NewStationAttr) (stale : Mac)
  | delStation (attrs : List DelStationAttr) (stale : Mac)
  | handshake (sta : Nat) (e : HandshakeEvent)
  | idle (sta : Nat)
  | pbcTimeout
  | pushButton
  | stationDisconnect (mac : Mac) (reason : ReasonCode)

/-- The frame watches of `ap_start`. -/
def runFrame (c : Codec) (cfg : Config) (s : ApState) : Frame → ApState
  | .auth hdr algorithm seq => apAuthCb cfg s hdr algorithm seq
  | .assocReq hdr capability listenInterval ies =>
    apAssocReqCb c cfg s hdr capability listenInterval ies
  | .reassocReq hdr capability listenInterval current ies =>
    apReassocReqCb c cfg s hdr capability listenInterval current ies
  | .disassoc hdr reason => apDisassocCb cfg s hdr reason
  | .deauth hdr reason => apDeauthCb cfg s hdr reason
  | .probeReq hdr ies now => apProbeReqCb c cfg s hdr ies now

/-- The TX status of frame `id`. -/
def txStatus (s : ApState) (id : Nat) (err : Option Errno) : ApState :=
  match s.frames.find? (·.id == id) with
  | none => s
  | some r =>
    let s := { s with frames := s.frames.filter (·.id != id) }
    match r.callback with
    | .logOnly => s
    | .successAssocResp handle =>
      match s.staOf handle with
      | none => s.crash
      | some sta => apSuccessAssocRespCb s sta err

/-- The reply to request `id`. -/
def genlReply (cfg : Config) (s : ApState) (id : Nat) (err : Option Errno) (keySeq : Option Bytes) :
    ApState :=
  match s.pending.find? (·.id == id) with
  | none => s
  | some r =>
    let s := { s with pending := s.pending.filter (·.id != id) }
    match r.callback with
    | .logOnly => s
    | .associateSta handle =>
      match s.staOf handle with
      | none => s.crash
      | some sta => apAssociateStaCb cfg s sta err
    | .gtkQuery handle =>
      match s.staOf handle with
      | none => s.crash
      | some sta => apGtkQueryCb s sta err keySeq

/-- A handshake event of a station whose state machine runs. -/
def handshakeEvent (s : ApState) (handle : Nat) (e : HandshakeEvent) : ApState :=
  match s.staOf handle with
  | some sta =>
    if !sta.sm then s
    else match sta.hs with
      | some .rsna => apHandshakeEvent s sta e
      | some .wsc => apWscHandshakeEvent s sta e
      | none => s
  | none => s

/-- `ap_stop_handshake_work`, the idle callback. -/
def idleWork (s : ApState) (handle : Nat) : ApState :=
  match s.staOf handle with
  | some sta => if sta.stopHandshakeWork then s.setSta (apStopHandshake sta) else s
  | none => s

def runEvent (c : Codec) (cfg : Config) (s : ApState) : Event → ApState
  | .frame f => runFrame c cfg s f
  | .txStatus id err => txStatus s id err
  | .reply id err keySeq => genlReply cfg s id err keySeq
  | .newStation attrs stale => apHandleNewStation c s attrs stale
  | .delStation attrs stale => apHandleDelStation s attrs stale
  | .handshake handle e => handshakeEvent s handle e
  | .idle handle => idleWork s handle
  | .pbcTimeout => if s.pbc.active then apWscPbcTimeoutCb s else s
  | .pushButton => let (ok, s) := apPushButton s; s.emit (.returned ok)
  | .stationDisconnect mac reason => let (ok, s) := apStationDisconnect s mac reason; s.emit (.returned ok)

@[simp] theorem txStatus_pbc (s : ApState) (id : Nat) (err : Option Errno) :
    (txStatus s id err).pbc = s.pbc := by
  unfold txStatus
  split
  · rfl
  · dsimp only
    split
    · rfl
    · split <;> simp

@[simp] theorem genlReply_pbc (cfg : Config) (s : ApState) (id : Nat) (err : Option Errno)
    (keySeq : Option Bytes) : (genlReply cfg s id err keySeq).pbc = s.pbc := by
  unfold genlReply
  split
  · rfl
  · dsimp only
    split
    · rfl
    all_goals split <;> simp

@[simp] theorem idleWork_pbc (s : ApState) (handle : Nat) : (idleWork s handle).pbc = s.pbc := by
  unfold idleWork; split <;> (try split_ifs) <;> simp

/-- One step; nothing runs after a use of freed memory. -/
def step (c : Codec) (cfg : Config) (s : ApState) (e : Event) : ApState :=
  if s.crashed then s else runEvent c cfg s e

/-- A run of events. -/
def run (c : Codec) (cfg : Config) (s : ApState) (events : List Event) : ApState :=
  events.foldl (step c cfg) s

@[simp] theorem run_nil (c : Codec) (cfg : Config) (s : ApState) : run c cfg s [] = s := rfl

@[simp] theorem run_cons (c : Codec) (cfg : Config) (s : ApState) (e : Event) (events : List Event) :
    run c cfg s (e :: events) = run c cfg (step c cfg s e) events := rfl

theorem run_append (c : Codec) (cfg : Config) (s : ApState) (xs ys : List Event) :
    run c cfg s (xs ++ ys) = run c cfg (run c cfg s xs) ys :=
  List.foldl_append _ _ _ _

/-- The states an AP started with configuration `cfg` can reach. -/
inductive Reachable (c : Codec) (cfg : Config) : ApState → Prop where
  | initial : Reachable c cfg ApState.initial
  | step {s : ApState} (e : Event) : Reachable c cfg s → Reachable c cfg (step c cfg s e)

theorem Reachable.run {c : Codec} {cfg : Config} {s : ApState} (h : Reachable c cfg s)
    (events : List Event) : Reachable c cfg (run c cfg s events) := by
  induction events generalizing s with
  | nil => exact h
  | cons e events ih => exact ih (h.step e)

end Iwd.Ap
