import Mathlib.Data.List.Pairwise
import Iwd.Ap.Admission

/-!
Station records are unique by MAC. A handler either writes back a record it found in
`ap->sta_states` (keeping its allocation and its address), removes records, or, in
`ap_auth_cb` and `ap_handle_new_station`, appends a fresh record for a MAC that
`l_queue_find` did not find. So the keys of the queue, each record's allocation and
address, only shrink or grow by a fresh key, and stay pairwise distinct in both parts;
and with distinct keys each removal takes out exactly the record of its MAC.
-/

namespace Iwd.Ap

open Iwd.Netdev (Bytes Mac Ie Errno memEq)

/-- A record's key: its allocation and its address. -/
def Station.key (sta : Station) : Nat × Mac := (sta.handle, sta.addr)

/-- The keys of the station queue, in queue order. -/
def ApState.keys (s : ApState) : List (Nat × Mac) := s.stations.map Station.key

theorem macEq_comm (a b : Mac) : macEq a b = macEq b a := Bool.beq_comm

theorem macEq_self (a : Mac) : macEq a a = true := by simp [macEq, memEq]

theorem macEq_congr {a b : Mac} (same : macEq a b = true) (c : Mac) : macEq a c = macEq b c := by
  simp only [macEq, memEq, beq_iff_eq] at same ⊢
  rw [same]

/-! ### Keys kept -/

/-- `s'` holds the records of `s`, rewritten in place or removed, and hands out no
allocation of `s` again. -/
def KeysKept (s s' : ApState) : Prop := List.Sublist s'.keys s.keys ∧ s.nextHandle ≤ s'.nextHandle

namespace KeysKept

variable {s0 s s' : ApState}

theorem refl (s : ApState) : KeysKept s s := ⟨.refl _, le_refl _⟩

theorem of_stations (h : KeysKept s0 s) (stations : s'.stations = s.stations)
    (next : s'.nextHandle = s.nextHandle) : KeysKept s0 s' := by
  unfold KeysKept ApState.keys at *
  rw [stations, next]
  exact h

theorem eraseP (h : KeysKept s0 s) (p : Station → Bool) :
    KeysKept s0 { s with stations := s.stations.eraseP p } :=
  ⟨((List.eraseP_sublist _).map _).trans h.1, h.2⟩

theorem setSta (distinct : s0.keys.Pairwise fun p q => p.1 ≠ q.1) (h : KeysKept s0 s)
    {t : Station} (mem : t.key ∈ s0.keys) : KeysKept s0 (s.setSta t) := by
  have fits : ∀ u ∈ s.stations, u.handle = t.handle → t.key = u.key := by
    intro u held same
    by_contra other
    exact distinct.forall (fun _ _ ne => Ne.symm ne) mem
      (h.1.subset (List.mem_map_of_mem _ held)) other same.symm
  refine ⟨?_, h.2⟩
  have same : (s.setSta t).keys = s.keys := by
    simp only [ApState.keys, ApState.setSta, List.map_map]
    refine List.map_congr_left fun u held => ?_
    by_cases own : u.handle = t.handle <;> simp [own, fits u held]
  exact same ▸ h.1

end KeysKept

/-! ### What the handlers do to the keys

The helpers below leave the queue and the allocation counter alone, and return the
station they were given under its key. -/

section Quiet

variable (s : ApState) (sta : Station)

@[simp] theorem send_stations (cmd : Cmd) (cb : Callback) : (s.send cmd cb).1.stations = s.stations := rfl
@[simp] theorem send_nextHandle (cmd : Cmd) (cb : Callback) :
    (s.send cmd cb).1.nextHandle = s.nextHandle := rfl
@[simp] theorem sendFrame_stations (f : MgmtFrame) (cb : FrameCallback) :
    (s.sendFrame f cb).1.stations = s.stations := rfl
@[simp] theorem sendFrame_nextHandle (f : MgmtFrame) (cb : FrameCallback) :
    (s.sendFrame f cb).1.nextHandle = s.nextHandle := rfl
@[simp] theorem emit_stations (e : Effect) : (s.emit e).stations = s.stations := rfl
@[simp] theorem emit_nextHandle (e : Effect) : (s.emit e).nextHandle = s.nextHandle := rfl
@[simp] theorem cancel_stations (id : Nat) : (s.cancel id).stations = s.stations := rfl
@[simp] theorem cancel_nextHandle (id : Nat) : (s.cancel id).nextHandle = s.nextHandle := rfl

@[simp] theorem apStaFree_stations : (apStaFree s sta).stations = s.stations := by
  unfold apStaFree; split_ifs <;> rfl
@[simp] theorem apStaFree_nextHandle : (apStaFree s sta).nextHandle = s.nextHandle := by
  unfold apStaFree; split_ifs <;> rfl

@[simp] theorem apDelStation_stations (reason : ReasonCode) (disassociate : Bool) :
    (apDelStation s sta reason disassociate).1.stations = s.stations := by
  dsimp only [apDelStation]; split_ifs <;> rfl
@[simp] theorem apDelStation_nextHandle (reason : ReasonCode) (disassociate : Bool) :
    (apDelStation s sta reason disassociate).1.nextHandle = s.nextHandle := by
  dsimp only [apDelStation]; split_ifs <;> rfl
@[simp] theorem apDelStation_handle (reason : ReasonCode) (disassociate : Bool) :
    (apDelStation s sta reason disassociate).2.handle = sta.handle := by
  dsimp only [apDelStation]; split_ifs <;> rfl
@[simp] theorem apDelStation_addr (reason : ReasonCode) (disassociate : Bool) :
    (apDelStation s sta reason disassociate).2.addr = sta.addr := by
  dsimp only [apDelStation]; split_ifs <;> rfl

@[simp] theorem dropRsnaOrStopHandshake_stations : (dropRsnaOrStopHandshake s sta).1.stations = s.stations := by
  obtain ⟨⟨_, _, _, dropped⟩, -⟩ := dropRsnaOrStopHandshake_spec s sta
  rw [dropped]
@[simp] theorem dropRsnaOrStopHandshake_nextHandle :
    (dropRsnaOrStopHandshake s sta).1.nextHandle = s.nextHandle := by
  obtain ⟨⟨_, _, _, dropped⟩, -⟩ := dropRsnaOrStopHandshake_spec s sta
  rw [dropped]
@[simp] theorem dropRsnaOrStopHandshake_handle : (dropRsnaOrStopHandshake s sta).2.handle = sta.handle :=
  (dropRsnaOrStopHandshake_spec s sta).2.handle.1
@[simp] theorem dropRsnaOrStopHandshake_addr : (dropRsnaOrStopHandshake s sta).2.addr = sta.addr :=
  (dropRsnaOrStopHandshake_spec s sta).2.handle.2

@[simp] theorem apWscExitPbc_stations : (apWscExitPbc s).stations = s.stations := by
  unfold apWscExitPbc apUpdateBeacon; split_ifs <;> rfl
@[simp] theorem apWscExitPbc_nextHandle : (apWscExitPbc s).nextHandle = s.nextHandle := by
  unfold apWscExitPbc apUpdateBeacon; split_ifs <;> rfl

@[simp] theorem installGroupKey_stations (cfg : Config) : (installGroupKey cfg s).stations = s.stations := by
  unfold installGroupKey; split <;> (try split) <;> rfl
@[simp] theorem installGroupKey_nextHandle (cfg : Config) :
    (installGroupKey cfg s).nextHandle = s.nextHandle := by
  unfold installGroupKey; split <;> (try split) <;> rfl

end Quiet

theorem findSta_key {s : ApState} {addr : Mac} {sta : Station} (found : s.findSta addr = some sta) :
    sta.key ∈ s.keys :=
  List.mem_map_of_mem _ (List.mem_of_find?_eq_some found)

theorem staOf_key {s : ApState} {handle : Nat} {sta : Station} (found : s.staOf handle = some sta) :
    sta.key ∈ s.keys :=
  List.mem_map_of_mem _ (List.mem_of_find?_eq_some found)

theorem keysKept_apRemoveSta {s0 s : ApState} (h : KeysKept s0 s) (sta : Station) :
    KeysKept s0 (apRemoveSta s sta) := by
  unfold apRemoveSta
  split_ifs
  · exact (h.eraseP (·.handle == sta.handle)).of_stations (by simp) (by simp)
  · exact h

theorem keysKept_interruptOverlap {s0 s : ApState} (h : KeysKept s0 s) (firstStaAddr fromAddr : Mac)
    (stations : List Station) : KeysKept s0 (interruptOverlap firstStaAddr fromAddr s stations) := by
  induction stations generalizing s with
  | nil => exact h
  | cons sta rest ih =>
    unfold interruptOverlap
    split_ifs
    · exact ih h
    · exact ih h
    · exact (keysKept_apRemoveSta (show KeysKept s0 (s.emit (.handshakeFailed sta.addr .disassocApBusy))
        from h) _).of_stations rfl rfl
    · exact (keysKept_apRemoveSta h _).of_stations rfl rfl

theorem keysKept_apProcessWscProbeReq {s0 s : ApState} (h : KeysKept s0 s) (c : Codec) (fromAddr : Mac)
    (wscData : Bytes) (now : UInt64) : KeysKept s0 (apProcessWscProbeReq c s fromAddr wscData now) := by
  unfold apProcessWscProbeReq
  split
  · exact h
  split_ifs
  · exact h
  · exact h
  dsimp only
  split_ifs
  · exact h.of_stations rfl rfl
  · exact keysKept_interruptOverlap (show KeysKept s0 (apWscExitPbc _) from h.of_stations (by simp) (by simp))
      _ _ _

section Handlers

variable {s0 : ApState} (distinct : s0.keys.Pairwise fun p q => p.1 ≠ q.1) {s : ApState} {sta : Station}
include distinct

theorem keysKept_assocReject (h : KeysKept s0 s) (mem : sta.key ∈ s0.keys) (reassoc : Bool)
    (err : ReasonCode) : KeysKept s0 (assocReject s sta reassoc err) := by
  have dropped : KeysKept s0 (dropRsnaOrStopHandshake s sta).1 := h.of_stations (by simp) (by simp)
  have written : KeysKept s0 ((dropRsnaOrStopHandshake s sta).1.setSta (dropRsnaOrStopHandshake s sta).2) :=
    dropped.setSta distinct (by simpa [Station.key] using mem)
  exact written.of_stations rfl rfl

theorem keysKept_assocAccept (h : KeysKept s0 s) (mem : sta.key ∈ s0.keys) (reassoc : Bool)
    (capability listenInterval : UInt16) (ies : List Ie) (rates : List Nat) (rsn : Option Bytes) :
    KeysKept s0 (assocAccept s sta reassoc capability listenInterval ies rates rsn) := by
  have dropped : KeysKept s0 (dropRsnaOrStopHandshake s sta).1 := h.of_stations (by simp) (by simp)
  simp only [assocAccept, apAssocResp]
  split <;> exact KeysKept.setSta distinct (dropped.of_stations rfl rfl) (by simpa [Station.key] using mem)

theorem keysKept_assocWsc (c : Codec) (h : KeysKept s0 s) (mem : sta.key ∈ s0.keys) (reassoc : Bool)
    (capability listenInterval : UInt16) (ies : List Ie) (rates : List Nat) (wscData : Bytes) :
    KeysKept s0 (assocWsc c s sta reassoc capability listenInterval ies rates wscData) := by
  unfold assocWsc
  split
  · exact keysKept_assocReject distinct h mem ..
  split_ifs
  · exact keysKept_assocReject distinct h mem ..
  · exact keysKept_assocReject distinct h mem ..
  split
  · exact keysKept_assocReject distinct h mem ..
  split_ifs
  · exact keysKept_assocReject distinct h mem ..
  · have exited : KeysKept s0 (apWscExitPbc (s.emit (.event (.registrationStart sta.addr ies)))) :=
      h.of_stations (by simp) (by simp)
    exact keysKept_assocAccept distinct exited (by simpa [Station.key] using mem) ..

theorem keysKept_assocRsn (cfg : Config) (h : KeysKept s0 s) (mem : sta.key ∈ s0.keys) (reassoc : Bool)
    (capability listenInterval : UInt16) (ies : List Ie) (rates : List Nat) (rsne : Ie) (info : RsnInfo) :
    KeysKept s0 (assocRsn cfg s sta reassoc capability listenInterval ies rates rsne info) := by
  unfold assocRsn
  split_ifs
  · exact keysKept_assocReject distinct h mem ..
  · exact keysKept_assocReject distinct h mem ..
  · exact keysKept_assocReject distinct h mem ..
  · exact keysKept_assocAccept distinct h mem ..

theorem keysKept_apAssocReassoc (c : Codec) (cfg : Config) (h : KeysKept s0 s) (mem : sta.key ∈ s0.keys)
    (reassoc : Bool) (capability listenInterval : UInt16) (ies : List Ie) :
    KeysKept s0 (apAssocReassoc c cfg s sta reassoc capability listenInterval ies) := by
  dsimp only [apAssocReassoc]
  by_cases pending : sta.assocRespCmdId ≠ 0
  · rw [if_pos pending]; exact h
  rw [if_neg pending]
  by_cases class3 : (reassoc && !sta.associated) = true
  · rw [if_pos class3]; exact keysKept_assocReject distinct h mem ..
  rw [if_neg class3]
  split
  · exact keysKept_assocReject distinct h mem ..
  split
  · split_ifs
    · exact keysKept_assocReject distinct h mem ..
    · exact keysKept_assocReject distinct h mem ..
    split
    · exact keysKept_assocRsn distinct cfg h mem ..
    · exact keysKept_assocWsc distinct c h mem ..
    · exact keysKept_assocReject distinct h mem ..
  · exact keysKept_assocReject distinct h mem ..

theorem keysKept_apSuccessAssocRespCb (h : KeysKept s0 s) (mem : sta.key ∈ s0.keys) (err : Option Errno) :
    KeysKept s0 (apSuccessAssocRespCb s sta err) := by
  have mem' : ({ sta with assocRespCmdId := 0 } : Station).key ∈ s0.keys := mem
  unfold apSuccessAssocRespCb
  split
  · dsimp only
    split_ifs
    · have deleted : KeysKept s0 (apDelStation s { sta with assocRespCmdId := 0 } .unspecified true).1 :=
        h.of_stations (by simp) (by simp)
      exact deleted.setSta distinct (by simpa [Station.key] using mem')
    · exact h.setSta distinct mem'
  · unfold apAssociateSta
    exact KeysKept.setSta distinct (h.of_stations rfl rfl) mem'

theorem keysKept_apGtkQueryCb (h : KeysKept s0 s) (mem : sta.key ∈ s0.keys) (err : Option Errno)
    (keySeq : Option Bytes) : KeysKept s0 (apGtkQueryCb s sta err keySeq) := by
  have mem' : ({ sta with gtkQueryCmdId := 0 } : Station).key ∈ s0.keys := mem
  unfold apGtkQueryCb
  split
  · have deleted : KeysKept s0 (apDelStation s { sta with gtkQueryCmdId := 0 } .unspecified true).1 :=
      h.of_stations (by simp) (by simp)
    exact deleted.setSta distinct (by simpa [Station.key] using mem')
  · exact KeysKept.setSta distinct (h.of_stations rfl rfl) mem'

theorem keysKept_apAssociateStaCb (cfg : Config) (h : KeysKept s0 s) (mem : sta.key ∈ s0.keys)
    (err : Option Errno) : KeysKept s0 (apAssociateStaCb cfg s sta err) := by
  have keyed : KeysKept s0 (installGroupKey cfg s) := h.of_stations (by simp) (by simp)
  unfold apAssociateStaCb
  split_ifs
  · exact h
  · exact KeysKept.setSta distinct (h.of_stations rfl rfl) mem
  · split
    · exact KeysKept.setSta distinct (keyed.of_stations rfl rfl) mem
    · exact KeysKept.setSta distinct (keyed.of_stations rfl rfl) mem

theorem keysKept_apHandshakeEvent (h : KeysKept s0 s) (mem : sta.key ∈ s0.keys) (e : HandshakeEvent) :
    KeysKept s0 (apHandshakeEvent s sta e) := by
  cases e with
  | complete => exact KeysKept.setSta distinct (h.of_stations rfl rfl) mem
  | failed reason =>
    exact keysKept_apRemoveSta (show KeysKept s0 (s.emit (.handshakeFailed sta.addr reason)) from h) _
  | settingKeysFailed => exact keysKept_apRemoveSta h _
  | eapNotify => exact h
  | other => exact h

theorem keysKept_apWscHandshakeEvent (h : KeysKept s0 s) (mem : sta.key ∈ s0.keys) (e : HandshakeEvent) :
    KeysKept s0 (apWscHandshakeEvent s sta e) := by
  unfold apWscHandshakeEvent
  split
  · exact h.setSta distinct mem
  · exact h.of_stations rfl rfl
  · exact h

end Handlers

/-! ### Every event keeps the keys, or appends a fresh one -/

section Events

variable {s : ApState}

theorem keysKept_apDeauthCb (cfg : Config) (hdr : Header) (reasonCode : UInt16) :
    KeysKept s (apDeauthCb cfg s hdr reasonCode) := by
  unfold apDeauthCb
  split_ifs
  · exact .refl s
  split
  · exact .refl s
  next sta _ =>
  have deleted : KeysKept s (apDelStation { s with stations := s.stations.eraseP (macEq ·.addr hdr.addr2) }
      sta (.other reasonCode) false).1 :=
    ((KeysKept.refl s).eraseP (macEq ·.addr hdr.addr2)).of_stations (by simp) (by simp)
  exact deleted.of_stations (by simp) (by simp)

theorem keysKept_apStationDisconnect (mac : Mac) (reason : ReasonCode) :
    KeysKept s (apStationDisconnect s mac reason).2 := by
  unfold apStationDisconnect
  split_ifs
  · exact .refl s
  split
  · exact .refl s
  next sta _ =>
  have deleted : KeysKept s (apDelStation { s with stations := s.stations.eraseP (macEq ·.addr mac) }
      sta reason false).1 :=
    ((KeysKept.refl s).eraseP (macEq ·.addr mac)).of_stations (by simp) (by simp)
  exact deleted.of_stations (by simp) (by simp)

theorem keysKept_apHandleDelStation (attrs : List DelStationAttr) (stale : Mac) :
    KeysKept s (apHandleDelStation s attrs stale) := by
  unfold apHandleDelStation
  split
  · exact .refl s
  next mac reason _ =>
  split
  · exact .refl s
  next sta _ =>
  have deleted : KeysKept s (apDelStation s sta reason true).1 :=
    (KeysKept.refl s).of_stations (by simp) (by simp)
  exact keysKept_apRemoveSta deleted _

theorem keysKept_apProbeReqCb (c : Codec) (cfg : Config) (hdr : Header) (ies : List Ie) (now : UInt64) :
    KeysKept s (apProbeReqCb c cfg s hdr ies now) := by
  unfold apProbeReqCb
  split
  · exact .refl s
  split_ifs
  · exact .refl s
  · exact .refl s
  split
  · exact .refl s
  split_ifs
  · exact .refl s
  dsimp only
  split
  · exact (keysKept_apProcessWscProbeReq (.refl s) c _ _ _).of_stations rfl rfl
  · exact (KeysKept.refl s).of_stations rfl rfl

variable (distinct : s.keys.Pairwise fun p q => p.1 ≠ q.1)
include distinct

theorem keysKept_apAssocReqCb (c : Codec) (cfg : Config) (hdr : Header) (capability listenInterval : UInt16)
    (ies : List Ie) : KeysKept s (apAssocReqCb c cfg s hdr capability listenInterval ies) := by
  unfold apAssocReqCb
  split_ifs
  · exact .refl s
  split
  · exact (KeysKept.refl s).of_stations rfl rfl
  next sta found => exact keysKept_apAssocReassoc distinct c cfg (.refl s) (findSta_key found) ..

theorem keysKept_apReassocReqCb (c : Codec) (cfg : Config) (hdr : Header)
    (capability listenInterval : UInt16) (currentApAddress : Mac) (ies : List Ie) :
    KeysKept s (apReassocReqCb c cfg s hdr capability listenInterval currentApAddress ies) := by
  unfold apReassocReqCb
  split_ifs
  · exact .refl s
  all_goals split
  all_goals first
    | exact (KeysKept.refl s).of_stations rfl rfl
    | exact keysKept_apAssocReassoc distinct c cfg (.refl s) (findSta_key ‹_›) ..

theorem keysKept_apDisassocCb (cfg : Config) (hdr : Header) (reasonCode : UInt16) :
    KeysKept s (apDisassocCb cfg s hdr reasonCode) := by
  unfold apDisassocCb
  split_ifs
  · exact .refl s
  split
  · exact .refl s
  next sta found =>
  have mem := findSta_key found
  dsimp only
  split_ifs
  all_goals first
    | exact KeysKept.setSta distinct ((KeysKept.refl s).of_stations rfl rfl) mem
    | exact KeysKept.setSta distinct ((KeysKept.refl s).of_stations (by simp) (by simp))
        (by simpa [Station.key] using mem)

theorem keysKept_txStatus (id : Nat) (err : Option Errno) : KeysKept s (txStatus s id err) := by
  unfold txStatus
  split
  · exact .refl s
  dsimp only
  split
  · exact (KeysKept.refl s).of_stations rfl rfl
  split
  · exact (KeysKept.refl s).of_stations rfl rfl
  next sta found =>
  refine keysKept_apSuccessAssocRespCb distinct ?_ (staOf_key found) err
  exact (KeysKept.refl s).of_stations rfl rfl

theorem keysKept_genlReply (cfg : Config) (id : Nat) (err : Option Errno) (keySeq : Option Bytes) :
    KeysKept s (genlReply cfg s id err keySeq) := by
  unfold genlReply
  split
  · exact .refl s
  dsimp only
  split
  · exact (KeysKept.refl s).of_stations rfl rfl
  all_goals split
  · exact (KeysKept.refl s).of_stations rfl rfl
  · next sta found =>
    refine keysKept_apAssociateStaCb distinct cfg ?_ (staOf_key found) err
    exact (KeysKept.refl s).of_stations rfl rfl
  · exact (KeysKept.refl s).of_stations rfl rfl
  · next sta found =>
    refine keysKept_apGtkQueryCb distinct ?_ (staOf_key found) err keySeq
    exact (KeysKept.refl s).of_stations rfl rfl

theorem keysKept_handshakeEvent (handle : Nat) (e : HandshakeEvent) :
    KeysKept s (handshakeEvent s handle e) := by
  unfold handshakeEvent
  split
  · next sta found =>
    split_ifs
    · exact .refl s
    split
    · exact keysKept_apHandshakeEvent distinct (.refl s) (staOf_key found) e
    · exact keysKept_apWscHandshakeEvent distinct (.refl s) (staOf_key found) e
    · exact .refl s
  · exact .refl s

theorem keysKept_idleWork (handle : Nat) : KeysKept s (idleWork s handle) := by
  unfold idleWork
  split
  · next sta found =>
    have mem := staOf_key found
    split_ifs
    · exact (KeysKept.refl s).setSta distinct mem
    · exact .refl s
  · exact .refl s

end Events

/-! ### The invariant -/

/-- The keys of the station queue are pairwise distinct in allocation and in MAC, and
every allocation is below the counter. -/
structure StationKeys (s : ApState) : Prop where
  handles : s.keys.Pairwise fun p q => p.1 ≠ q.1
  addrs : s.keys.Pairwise fun p q => macEq p.2 q.2 = false
  fresh : ∀ p ∈ s.keys, p.1 < s.nextHandle

namespace StationKeys

variable {s s' : ApState}

theorem initial : StationKeys ApState.initial :=
  ⟨.nil, .nil, fun _ mem => by simp [ApState.keys, ApState.initial] at mem⟩

theorem kept (h : StationKeys s) (kept : KeysKept s s') : StationKeys s' :=
  ⟨h.handles.sublist kept.1, h.addrs.sublist kept.1,
    fun p mem => lt_of_lt_of_le (h.fresh p (kept.1.subset mem)) kept.2⟩

theorem append (h : StationKeys s) {a : Mac} (absent : s.findSta a = none)
    (keys : s'.keys = s.keys ++ [(s.nextHandle, a.take 6)]) (next : s'.nextHandle = s.nextHandle + 1) :
    StationKeys s' := by
  have other : ∀ p ∈ s.keys, macEq p.2 (a.take 6) = false := by
    intro p mem
    obtain ⟨t, held, rfl⟩ := List.mem_map.mp mem
    have := List.find?_eq_none.mp absent t held
    simpa [macEq_take, Station.key] using this
  refine ⟨?_, ?_, ?_⟩
  · rw [keys]
    refine List.pairwise_append.mpr ⟨h.handles, List.pairwise_singleton _ _, fun p mem q added => ?_⟩
    rw [List.mem_singleton.mp added]
    exact (h.fresh p mem).ne
  · rw [keys]
    refine List.pairwise_append.mpr ⟨h.addrs, List.pairwise_singleton _ _, fun p mem q added => ?_⟩
    rw [List.mem_singleton.mp added]
    exact other p mem
  · intro p mem
    rw [keys] at mem
    rw [next]
    rcases List.mem_append.mp mem with old | added
    · exact Nat.lt_succ_of_lt (h.fresh p old)
    · rw [List.mem_singleton.mp added]
      exact Nat.lt_succ_self _

end StationKeys

section Insertions

variable {s : ApState} (h : StationKeys s)
include h

theorem stationKeys_apAuthCb (cfg : Config) (hdr : Header) (algorithm transactionSequence : UInt16) :
    StationKeys (apAuthCb cfg s hdr algorithm transactionSequence) := by
  have reply (status : ReasonCode) : StationKeys (apAuthReply s hdr.addr2 status) :=
    h.kept ((KeysKept.refl s).of_stations rfl rfl)
  unfold apAuthCb
  split_ifs
  · exact h
  iterate 3 exact reply _
  split
  · exact reply _
  next absent => exact h.append absent (by simp [ApState.keys, apAuthReply, Station.key, Station.fresh]) rfl

theorem stationKeys_apHandleNewStation (c : Codec) (attrs : List NewStationAttr) (stale : Mac) :
    StationKeys (apHandleNewStation c s attrs stale) := by
  unfold apHandleNewStation
  split
  · split
    · exact h
    · next absent => exact h.append absent (by simp [ApState.keys, Station.key, Station.fresh]) rfl
  · exact h

end Insertions

@[simp] theorem apPushButton_stations (s : ApState) : (apPushButton s).2.stations = s.stations := by
  unfold apPushButton apUpdateBeacon; split_ifs <;> rfl

@[simp] theorem apPushButton_nextHandle (s : ApState) : (apPushButton s).2.nextHandle = s.nextHandle := by
  unfold apPushButton apUpdateBeacon; split_ifs <;> rfl

theorem stationKeys_step {s : ApState} (h : StationKeys s) (c : Codec) (cfg : Config) (e : Event) :
    StationKeys (step c cfg s e) := by
  unfold step
  split
  · exact h
  cases e with
  | frame f =>
    cases f with
    | auth => exact stationKeys_apAuthCb h ..
    | assocReq => exact h.kept (keysKept_apAssocReqCb h.handles ..)
    | reassocReq => exact h.kept (keysKept_apReassocReqCb h.handles ..)
    | disassoc => exact h.kept (keysKept_apDisassocCb h.handles ..)
    | deauth => exact h.kept (keysKept_apDeauthCb ..)
    | probeReq => exact h.kept (keysKept_apProbeReqCb ..)
  | txStatus => exact h.kept (keysKept_txStatus h.handles ..)
  | reply => exact h.kept (keysKept_genlReply h.handles ..)
  | newStation => exact stationKeys_apHandleNewStation h ..
  | delStation => exact h.kept (keysKept_apHandleDelStation ..)
  | handshake => exact h.kept (keysKept_handshakeEvent h.handles ..)
  | idle => exact h.kept (keysKept_idleWork h.handles ..)
  | pbcTimeout =>
    simp only [runEvent]
    split_ifs
    · exact h.kept ((KeysKept.refl s).of_stations (by simp [apWscPbcTimeoutCb]) (by simp [apWscPbcTimeoutCb]))
    · exact h
  | pushButton => exact h.kept ((KeysKept.refl s).of_stations (by simp [runEvent]) (by simp [runEvent]))
  | stationDisconnect mac reason =>
    exact h.kept ((keysKept_apStationDisconnect mac reason).of_stations rfl rfl)

/-! ### Removals -/

theorem StationKeys.stations_pairwise {s : ApState} (h : StationKeys s) :
    s.stations.Pairwise fun t u => macEq t.addr u.addr = false :=
  List.pairwise_map.mp h.addrs

theorem eraseP_macEq_eq_filter {l : List Station} (distinct : l.Pairwise fun t u => macEq t.addr u.addr = false)
    (a : Mac) : l.eraseP (macEq ·.addr a) = l.filter fun t => !macEq t.addr a := by
  induction l with
  | nil => rfl
  | cons u rest ih =>
    obtain ⟨others, distinct⟩ := List.pairwise_cons.mp distinct
    by_cases own : macEq u.addr a = true
    · have gone : ∀ v ∈ rest, macEq v.addr a = false := fun v held => by
        rw [macEq_comm, ← macEq_congr own, others v held]
      simp only [List.eraseP_cons, own, cond_true, List.filter_cons, Bool.not_true, Bool.false_eq_true,
        ↓reduceIte]
      exact (List.filter_eq_self.mpr fun v held => by simp [gone v held]).symm
    · simp [List.eraseP_cons, List.filter_cons, own, ih distinct]

theorem eraseP_congr_mem {α : Type} (l : List α) {p q : α → Bool} (same : ∀ x ∈ l, p x = q x) :
    l.eraseP p = l.eraseP q := by
  induction l with
  | nil => rfl
  | cons x rest ih =>
    simp only [List.eraseP_cons, same x (List.mem_cons_self _ _),
      ih fun y held => same y (List.mem_cons_of_mem _ held)]

theorem filter_macEq_none {l : List Station} {a : Mac} (absent : l.find? (macEq ·.addr a) = none) :
    (l.filter fun t => !macEq t.addr a) = l :=
  List.filter_eq_self.mpr fun t held => by simpa using List.find?_eq_none.mp absent t held

section Removals

variable {s : ApState} (h : StationKeys s)
include h

theorem apRemoveSta_stations (sta : Station) (mem : sta.key ∈ s.keys) :
    (apRemoveSta s sta).stations = s.stations.filter fun t => !macEq t.addr sta.addr := by
  have byHandle : ∀ t ∈ s.stations, (t.handle == sta.handle) = macEq t.addr sta.addr := by
    intro t held
    have keyed : t.key ∈ s.keys := List.mem_map_of_mem _ held
    by_cases same : t.key = sta.key
    · have handle : t.handle = sta.handle := congrArg Prod.fst same
      have addr : t.addr = sta.addr := congrArg Prod.snd same
      simp [handle, addr, macEq_self]
    · have handles := h.handles.forall (fun _ _ ne => Ne.symm ne) keyed mem same
      have addrs := h.addrs.forall (fun p q ne => by rwa [macEq_comm]) keyed mem same
      simp only [Station.key] at handles addrs
      simp [handles, addrs]
  have present : (s.stations.any fun t => t.handle == sta.handle) = true := by
    obtain ⟨t, held, keyed⟩ := List.mem_map.mp mem
    exact List.any_eq_true.mpr ⟨t, held, by simpa using congrArg Prod.fst keyed⟩
  unfold apRemoveSta
  rw [if_pos present, apStaFree_stations]
  dsimp only
  rw [eraseP_congr_mem _ byHandle, eraseP_macEq_eq_filter h.stations_pairwise]

theorem apDeauthCb_stations (cfg : Config) (hdr : Header) (reasonCode : UInt16) (toAp : toBss cfg hdr = true) :
    (apDeauthCb cfg s hdr reasonCode).stations = s.stations.filter fun t => !macEq t.addr hdr.addr2 := by
  unfold apDeauthCb
  rw [if_neg (by simp [toAp])]
  split
  · next absent => exact (filter_macEq_none absent).symm
  · simp [eraseP_macEq_eq_filter h.stations_pairwise]

theorem apStationDisconnect_stations (mac : Mac) (reason : ReasonCode) (started : s.started = true) :
    (apStationDisconnect s mac reason).2.stations = s.stations.filter fun t => !macEq t.addr mac := by
  unfold apStationDisconnect
  rw [if_neg (by simp [started])]
  split
  · next absent => exact (filter_macEq_none absent).symm
  · simp [eraseP_macEq_eq_filter h.stations_pairwise]

theorem apHandleDelStation_stations (attrs : List DelStationAttr) (stale mac : Mac) (reason : ReasonCode)
    (parsed : attrs.foldl delStationAttrStep (some (stale, .unspecified)) = some (mac, reason)) :
    (apHandleDelStation s attrs stale).stations = s.stations.filter fun t => !macEq t.addr mac := by
  unfold apHandleDelStation
  rw [parsed]
  dsimp only
  split
  · next absent => exact (filter_macEq_none absent).symm
  · next sta found =>
    have same : macEq sta.addr mac = true := (List.find?_some found :)
    have deleted : StationKeys (apDelStation s sta reason true).1 :=
      h.kept ((KeysKept.refl s).of_stations (by simp) (by simp))
    rw [apRemoveSta_stations deleted _ (by simpa [ApState.keys, Station.key] using findSta_key found)]
    simp only [apDelStation_stations, apDelStation_addr]
    exact List.filter_congr fun t _ => by rw [macEq_comm, macEq_congr same, macEq_comm]

end Removals

/-- Station records unique by MAC, and each removal taking out exactly the record of its
MAC and keeping every other record as it was, in order. -/
structure UniqueByMac (cfg : Config) (s : ApState) : Prop where
  unique : s.stations.Pairwise fun t u => macEq t.addr u.addr = false
  removeSta : ∀ sta : Station, sta.key ∈ s.keys →
    (apRemoveSta s sta).stations = s.stations.filter fun t => !macEq t.addr sta.addr
  deauth : ∀ (hdr : Header) (reasonCode : UInt16), toBss cfg hdr = true →
    (apDeauthCb cfg s hdr reasonCode).stations = s.stations.filter fun t => !macEq t.addr hdr.addr2
  stationDisconnect : ∀ (mac : Mac) (reason : ReasonCode), s.started = true →
    (apStationDisconnect s mac reason).2.stations = s.stations.filter fun t => !macEq t.addr mac
  delStation : ∀ (attrs : List DelStationAttr) (stale mac : Mac) (reason : ReasonCode),
    attrs.foldl delStationAttrStep (some (stale, .unspecified)) = some (mac, reason) →
    (apHandleDelStation s attrs stale).stations = s.stations.filter fun t => !macEq t.addr mac

theorem Reachable.stationKeys {c : Codec} {cfg : Config} {s : ApState} (reachable : Reachable c cfg s) :
    StationKeys s := by
  induction reachable with
  | initial => exact .initial
  | step e _ ih => exact stationKeys_step ih c cfg e

/-- Station records are unique by MAC. In every reachable state no two records of
`ap->sta_states` have the same address, and `ap_remove_sta`, `ap_deauth_cb`,
`ap_station_disconnect` and `ap_handle_del_station` each take out exactly the record of
their MAC and leave every other record unchanged. -/
theorem station_records_unique_by_mac (c : Codec) (cfg : Config) (s : ApState)
    (reachable : Reachable c cfg s) : UniqueByMac cfg s :=
  have h := reachable.stationKeys
  ⟨h.stations_pairwise, apRemoveSta_stations h, apDeauthCb_stations h cfg,
    fun mac reason => apStationDisconnect_stations h mac reason, apHandleDelStation_stations h⟩

theorem station_records_unique_by_mac_authed :
    Reachable sampleCodec sampleCfg authedM ∧ UniqueByMac sampleCfg authedM :=
  ⟨Reachable.initial.run _,
    station_records_unique_by_mac sampleCodec sampleCfg authedM (Reachable.initial.run _)⟩

end Iwd.Ap
