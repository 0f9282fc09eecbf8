import Iwd.Ap.Aid

/-!
What `ap_assoc_reassoc` admits, and what a refusal leaves of a station. Every call ends
in one of three ways: the early return while a response is pending, the `unsupported:` /
`bad_frame:` exit with an error response, or the success response. A refusal changes the
station only as 802.11-2016 11.3.5.3 j) asks: an RSNA is dropped, or a State 3 station's
handshake is stopped. The element loop keeps the last RSNE it parses, so a request that
carries its RSNE twice is admitted, where `ap_parse_new_station_ies` refuses a second
RSNE; and the copy of `ap_assoc_reassoc` that netdev.c embeds has no population-count
check on the pairwise ciphers.
-/

namespace Iwd.Ap

open Iwd.Netdev (Bytes Mac Ie ieTypeRsn)

/-! ### What a refusal writes back -/

/-- The station a refusal writes back: as it was, with its handshake stopped, or with its
RSNA dropped. -/
def RefusalForm (sta t : Station) : Prop :=
  t = sta ∨ t = apStopHandshake sta ∨ t = apStopHandshake { sta with rsna := false }

/-- The association of a station, as `ap_assoc_reassoc` sets it on success. -/
structure AssociationKept (sta t : Station) : Prop where
  form : RefusalForm sta t
  associated : t.associated = sta.associated
  aid : t.aid = sta.aid
  capability : t.capability = sta.capability
  listenInterval : t.listenInterval = sta.listenInterval
  rates : t.rates = sta.rates
  assocIes : t.assocIes = sta.assocIes
  assocRsne : t.assocRsne = sta.assocRsne

theorem RefusalForm.kept {sta t : Station} (form : RefusalForm sta t) : AssociationKept sta t := by
  rcases form with rfl | rfl | rfl <;> exact ⟨by simp [RefusalForm], rfl, rfl, rfl, rfl, rfl, rfl, rfl⟩

theorem RefusalForm.handle {sta t : Station} (form : RefusalForm sta t) :
    t.handle = sta.handle ∧ t.addr = sta.addr := by
  rcases form with rfl | rfl | rfl <;> exact ⟨rfl, rfl⟩

theorem staOf_setSta {s : ApState} {sta t : Station} (found : s.staOf sta.handle = some sta)
    (handle : t.handle = sta.handle) : (s.setSta t).staOf sta.handle = some t := by
  have same : ((·.handle == sta.handle) ∘ fun u => if u.handle = t.handle then t else u) =
      (·.handle == sta.handle) := by
    funext u
    rw [handle]
    by_cases h : u.handle = sta.handle <;> simp [h, handle]
  simp only [ApState.staOf, ApState.setSta, List.find?_map, same] at found ⊢
  simp [found, handle]

section Exits

variable (c : Codec) (cfg : Config) (s : ApState) (sta : Station) (reassoc : Bool)
  (capability listenInterval : UInt16) (ies : List Ie)

theorem dropRsnaOrStopHandshake_spec :
    (∃ pending nextId log, (dropRsnaOrStopHandshake s sta).1 = { s with pending, nextId, log }) ∧
      RefusalForm sta (dropRsnaOrStopHandshake s sta).2 := by
  unfold dropRsnaOrStopHandshake apDropRsna
  split_ifs
  · exact ⟨⟨_, _, _, rfl⟩, .inr (.inr rfl)⟩
  · exact ⟨⟨_, _, _, rfl⟩, .inr (.inl rfl)⟩
  · exact ⟨⟨_, _, _, rfl⟩, .inl rfl⟩

theorem assocReject_spec (err : ReasonCode) :
    ∃ t pending nextId log, RefusalForm sta t ∧
      assocReject s sta reassoc err =
        { s with
            stations := s.stations.map fun u => if u.handle = t.handle then t else u
            frames := s.frames ++ [⟨s.nextFrameId, .assocResp sta.addr err (t.aid ||| 0xc000) reassoc, .logOnly⟩]
            nextFrameId := s.nextFrameId + 1
            pending, nextId, log } := by
  obtain ⟨⟨pending, nextId, log, dropped⟩, form⟩ := dropRsnaOrStopHandshake_spec s sta
  refine ⟨_, pending, nextId,
    .frameSent s.nextFrameId (.assocResp sta.addr err ((dropRsnaOrStopHandshake s sta).2.aid ||| 0xc000) reassoc) :: log,
    form, ?_⟩
  simp only [assocReject, apAssocResp, ApState.setSta, ApState.sendFrame, dropped, form.handle.2]

@[simp] theorem apWscExitPbc_frames : (apWscExitPbc s).frames = s.frames := by
  unfold apWscExitPbc apUpdateBeacon; split_ifs <;> rfl

@[simp] theorem apWscExitPbc_nextFrameId : (apWscExitPbc s).nextFrameId = s.nextFrameId := by
  unfold apWscExitPbc apUpdateBeacon; split_ifs <;> rfl

theorem assocAccept_frames (rates : List Nat) (rsn : Option Bytes) :
    ∃ aid, (assocAccept s sta reassoc capability listenInterval ies rates rsn).frames =
      s.frames ++ [⟨s.nextFrameId, .assocResp sta.addr .success aid reassoc, .successAssocResp sta.handle⟩] := by
  obtain ⟨⟨pending, nextId, log, dropped⟩, form⟩ := dropRsnaOrStopHandshake_spec s sta
  simp only [assocAccept, dropped]
  split <;> exact ⟨_, by simp [apAssocResp, ApState.sendFrame, ApState.setSta, form.handle]; rfl⟩

/-- A success response of the call. -/
def SuccessSent (s s' : ApState) (sta : Station) (reassoc : Bool) : Prop :=
  ∃ aid, s'.frames =
    s.frames ++ [⟨s.nextFrameId, .assocResp sta.addr .success aid reassoc, .successAssocResp sta.handle⟩]

theorem assocRsn_exits (rates : List Nat) (rsne : Ie) (info : RsnInfo) :
    (∃ err, err ≠ .success ∧
      assocRsn cfg s sta reassoc capability listenInterval ies rates rsne info = assocReject s sta reassoc err) ∨
    SuccessSent s (assocRsn cfg s sta reassoc capability listenInterval ies rates rsne info) sta reassoc := by
  unfold assocRsn
  split_ifs <;> first
    | exact .inl ⟨_, by decide, rfl⟩
    | exact .inr (assocAccept_frames ..)

theorem assocWsc_exits (rates : List Nat) (wscData : Bytes) :
    (∃ err, err ≠ .success ∧
      assocWsc c s sta reassoc capability listenInterval ies rates wscData = assocReject s sta reassoc err) ∨
    SuccessSent s (assocWsc c s sta reassoc capability listenInterval ies rates wscData) sta reassoc := by
  unfold assocWsc
  split
  · exact .inl ⟨_, by decide, rfl⟩
  split_ifs
  · exact .inl ⟨_, by decide, rfl⟩
  · exact .inl ⟨_, by decide, rfl⟩
  split
  · exact .inl ⟨_, by decide, rfl⟩
  split_ifs
  · exact .inl ⟨_, by decide, rfl⟩
  · obtain ⟨aid, sent⟩ := assocAccept_frames (apWscExitPbc (s.emit (.event (.registrationStart sta.addr ies))))
      { sta with wscUuidE := _, wscV2 := _ } reassoc capability listenInterval ies rates none
    exact .inr ⟨aid, by simpa using sent⟩

theorem assocIesStep_error {wsc : Bool} {a : AssocIes} {ie : Ie} {err : ReasonCode}
    (failed : assocIesStep c wsc (.ok a) ie = .error err) : err = .invalidIe := by
  revert failed
  simp only [assocIesStep]
  split_ifs <;> (try split) <;> simp [eq_comm]

theorem foldl_assocIesStep_of_error {wsc : Bool} (err : ReasonCode) :
    ies.foldl (assocIesStep c wsc) (.error err) = .error err := by
  induction ies <;> simp [assocIesStep, *]

theorem foldl_assocIesStep_error {wsc : Bool} {a : AssocIes} {err : ReasonCode}
    (failed : ies.foldl (assocIesStep c wsc) (.ok a) = .error err) : err = .invalidIe := by
  induction ies generalizing a with
  | nil => cases failed
  | cons ie rest ih =>
    rw [List.foldl_cons] at failed
    cases step : assocIesStep c wsc (.ok a) ie with
    | ok a' => exact ih (step ▸ failed)
    | error e =>
      rw [step, foldl_assocIesStep_of_error] at failed
      cases failed
      exact assocIesStep_error c step

theorem apAssocReassoc_exits :
    apAssocReassoc c cfg s sta reassoc capability listenInterval ies = s ∨
    (∃ err, err ≠ .success ∧
      apAssocReassoc c cfg s sta reassoc capability listenInterval ies = assocReject s sta reassoc err) ∨
    SuccessSent s (apAssocReassoc c cfg s sta reassoc capability listenInterval ies) sta reassoc := by
  dsimp only [apAssocReassoc]
  by_cases pending : sta.assocRespCmdId ≠ 0
  · exact .inl (if_pos pending)
  rw [if_neg pending]
  by_cases class3 : (reassoc && !sta.associated) = true
  · exact .inr (.inl ⟨_, by decide, if_pos class3⟩)
  rw [if_neg class3]
  split
  next err failed =>
    exact .inr (.inl ⟨err, by rw [foldl_assocIesStep_error c ies failed]; decide, rfl⟩)
  split
  · split_ifs
    · exact .inr (.inl ⟨_, by decide, rfl⟩)
    · exact .inr (.inl ⟨_, by decide, rfl⟩)
    split
    · exact .inr (assocRsn_exits ..)
    · exact .inr (assocWsc_exits ..)
    · exact .inr (.inl ⟨_, by decide, rfl⟩)
  · exact .inr (.inl ⟨_, by decide, rfl⟩)

/-- A refused (Re)Association leaves the station's association as it was. Every call of
`ap_assoc_reassoc` either sends the success response, or sends no response (a response
is pending) or one with an error status; and then `last_aid` is unchanged and the
station's record keeps its association flag, AID, capability, listen interval, rates
and stored IEs, at most with its RSNA dropped or its handshake stopped. -/
theorem refused_assoc_keeps_association (found : s.staOf sta.handle = some sta) :
    SuccessSent s (apAssocReassoc c cfg s sta reassoc capability listenInterval ies) sta reassoc ∨
    (((apAssocReassoc c cfg s sta reassoc capability listenInterval ies).frames = s.frames ∨
        ∃ err aid, err ≠ .success ∧
          (apAssocReassoc c cfg s sta reassoc capability listenInterval ies).frames =
            s.frames ++ [⟨s.nextFrameId, .assocResp sta.addr err aid reassoc, .logOnly⟩]) ∧
      (apAssocReassoc c cfg s sta reassoc capability listenInterval ies).lastAid = s.lastAid ∧
      ∃ t, (apAssocReassoc c cfg s sta reassoc capability listenInterval ies).staOf sta.handle = some t ∧
        AssociationKept sta t) := by
  rcases apAssocReassoc_exits c cfg s sta reassoc capability listenInterval ies with
    same | ⟨err, error, refused⟩ | sent
  · rw [same]
    exact .inr ⟨.inl rfl, rfl, sta, found, RefusalForm.kept (.inl rfl)⟩
  · obtain ⟨t, pending, nextId, log, form, rejected⟩ := assocReject_spec s sta reassoc err
    have written : (s.setSta t).staOf sta.handle = some t := staOf_setSta found form.handle.1
    rw [refused, rejected]
    exact .inr ⟨.inr ⟨err, _, error, rfl⟩, rfl, t, written, form.kept⟩
  · exact .inl sent

end Exits

/-- The sample AP after `stationM`'s Authentication: its record is in State 2. -/
def authedM : ApState := run sampleCodec sampleCfg ApState.initial [.frame (.auth fromM 0 1)]

theorem refused_assoc_keeps_association_bare :
    authedM.staOf 1 = some (Station.fresh 1 stationM) ∧
    (SuccessSent authedM (apAssocReassoc sampleCodec sampleCfg authedM (Station.fresh 1 stationM) false 0 10 [])
        (Station.fresh 1 stationM) false ∨
      (((apAssocReassoc sampleCodec sampleCfg authedM (Station.fresh 1 stationM) false 0 10 []).frames =
            authedM.frames ∨
          ∃ err aid, err ≠ .success ∧
            (apAssocReassoc sampleCodec sampleCfg authedM (Station.fresh 1 stationM) false 0 10 []).frames =
              authedM.frames ++ [⟨authedM.nextFrameId, .assocResp stationM err aid false, .logOnly⟩]) ∧
        (apAssocReassoc sampleCodec sampleCfg authedM (Station.fresh 1 stationM) false 0 10 []).lastAid =
          authedM.lastAid ∧
        ∃ t, (apAssocReassoc sampleCodec sampleCfg authedM (Station.fresh 1 stationM) false 0 10 []).staOf 1 =
            some t ∧ AssociationKept (Station.fresh 1 stationM) t)) :=
  ⟨by decide, refused_assoc_keeps_association sampleCodec sampleCfg authedM _ false 0 10 [] (by decide)⟩

/-! ### A second RSNE -/

section Duplicates

variable (c : Codec)

theorem assocIesStep_rsn {wsc : Bool} {a a' : AssocIes} {ie : Ie}
    (step : assocIesStep c wsc (.ok a) ie = .ok a') :
    a'.rsn = a.rsn ∨ ie.tag = ieTypeRsn ∧ ∃ info, c.ieParseRsne ie = some info ∧ a'.rsn = some (ie, info) := by
  revert step
  simp only [assocIesStep]
  split_ifs with ssid rates rsn <;> (try split) <;> rintro ⟨⟩
  all_goals first | exact .inl rfl | exact .inr ⟨rsn, _, ‹_›, rfl⟩

theorem foldl_assocIesStep_rsn (ies : List Ie) {wsc : Bool} {a a' : AssocIes}
    (parsed : ∀ r info, a.rsn = some (r, info) → r.tag = ieTypeRsn ∧ c.ieParseRsne r = some info)
    (done : ies.foldl (assocIesStep c wsc) (.ok a) = .ok a') :
    ∀ r info, a'.rsn = some (r, info) → r.tag = ieTypeRsn ∧ c.ieParseRsne r = some info := by
  induction ies generalizing a with
  | nil => cases done; exact parsed
  | cons ie rest ih =>
    rw [List.foldl_cons] at done
    cases step : assocIesStep c wsc (.ok a) ie with
    | error e => rw [step, foldl_assocIesStep_of_error] at done; cases done
    | ok b =>
      refine ih (fun r info kept => ?_) (step ▸ done)
      rcases assocIesStep_rsn c step with same | ⟨tag, info', parse, chosen⟩
      · exact parsed r info (same ▸ kept)
      · rw [chosen] at kept
        cases kept
        exact ⟨tag, parse⟩

theorem foldl_assocIesStep_duplicate (ies : List Ie) {a : AssocIes} {rsne : Ie} {info : RsnInfo}
    (done : ies.foldl (assocIesStep c false) (.ok ⟨none, none, none⟩) = .ok a)
    (kept : a.rsn = some (rsne, info)) :
    (ies ++ [rsne]).foldl (assocIesStep c false) (.ok ⟨none, none, none⟩) = .ok a := by
  obtain ⟨tag, parse⟩ := foldl_assocIesStep_rsn c ies (by simp) done rsne info kept
  have notSsid : ieTypeRsn ≠ ieTypeSsid := by decide
  have notRates : (ieTypeRsn = ieTypeSupportedRates || ieTypeRsn = ieTypeExtendedSupportedRates) = false := by
    decide
  rw [List.foldl_append, done, List.foldl_cons, List.foldl_nil]
  simp only [assocIesStep, tag, notSsid, notRates, parse, ↓reduceIte, Bool.false_eq_true]
  rw [← kept]

theorem foldl_newStationIesStep_none (l : List Ie) : l.foldl (newStationIesStep c) none = none := by
  induction l <;> simp [newStationIesStep, *]

theorem newStationIesStep_rsn {st : Option (Option Bytes × Option (List Nat))}
    (seen : st.all (·.1.isSome)) (ie : Ie) : (newStationIesStep c st ie).all (·.1.isSome) := by
  match st, seen with
  | none, _ => rfl
  | some (rsn, rates), seen =>
    simp only [Option.all_some] at seen
    simp only [newStationIesStep, seen, Bool.true_or, ↓reduceIte]
    split_ifs
    · rfl
    · rfl
    · cases apParseSupportedRates ie none <;> simp [seen]
    · simp [seen]

theorem foldl_newStationIesStep_rsn (l : List Ie) {st : Option (Option Bytes × Option (List Nat))}
    (seen : st.all (·.1.isSome)) : (l.foldl (newStationIesStep c) st).all (·.1.isSome) := by
  induction l generalizing st with
  | nil => exact seen
  | cons ie rest ih => exact ih (newStationIesStep_rsn c seen ie)

theorem apParseNewStationIes_duplicate (pre mid post : List Ie) {r r' : Ie} (tag : r.tag = ieTypeRsn)
    (tag' : r'.tag = ieTypeRsn) : apParseNewStationIes c (pre ++ r :: mid ++ r' :: post) = none := by
  have first : ((r :: mid).foldl (newStationIesStep c)
      (pre.foldl (newStationIesStep c) (some (none, none)))).all (·.1.isSome) := by
    rw [List.foldl_cons]
    refine foldl_newStationIesStep_rsn c mid ?_
    cases pre.foldl (newStationIesStep c) (some (none, none)) with
    | none => rfl
    | some q =>
      simp only [newStationIesStep, tag, ↓reduceIte]
      split_ifs <;> rfl
  have second : newStationIesStep c ((r :: mid).foldl (newStationIesStep c)
      (pre.foldl (newStationIesStep c) (some (none, none)))) r' = none := by
    revert first
    cases (r :: mid).foldl (newStationIesStep c) (pre.foldl (newStationIesStep c) (some (none, none))) with
    | none => intro; rfl
    | some q => intro first; simp_all [newStationIesStep]
  rw [apParseNewStationIes, List.foldl_append, List.foldl_append, List.foldl_cons, second,
    foldl_newStationIesStep_none]

end Duplicates

/-! ### The copy in netdev.c -/

/-- The RSN branch of the copy of `ap_assoc_reassoc` that netdev.c embeds: it checks only
that the pairwise ciphers meet the AP's, with no population count. The rest of that copy
is ap.c's but for the event data and the stored elements: its `struct sta_state` keeps
only `assoc_rsne`, and the model's `assocIes`, set as ap.c sets it, is not read for this
copy. -/
def assocRsnNetdev (cfg : Config) (s : ApState) (sta : Station) (reassoc : Bool)
    (capability listenInterval : UInt16) (ies : List Ie) (rates : List Nat) (rsne : Ie)
    (info : RsnInfo) : ApState :=
  if info.mfpr && info.sppAMsduRequired then assocReject s sta reassoc .unspecified
  else if info.pairwiseCiphers &&& cfg.ciphers = 0 then assocReject s sta reassoc .invalidPairwiseCipher
  else if info.akmSuites ≠ ieRsnAkmSuitePsk then assocReject s sta reassoc .invalidAkmp
  else assocAccept s sta reassoc capability listenInterval ies rates (some rsne.raw)

theorem assocRsnNetdev_eq_of_single (cfg : Config) (s : ApState) (sta : Station) (reassoc : Bool)
    (capability listenInterval : UInt16) (ies : List Ie) (rates : List Nat) (rsne : Ie) (info : RsnInfo)
    (single : popcount info.pairwiseCiphers = 1) :
    assocRsnNetdev cfg s sta reassoc capability listenInterval ies rates rsne info =
      assocRsn cfg s sta reassoc capability listenInterval ies rates rsne info := by
  simp [assocRsnNetdev, assocRsn, single]

/-- RSN information offering TKIP and CCMP as pairwise ciphers, with PSK. -/
def twoPairwise : RsnInfo := ⟨false, false, 12, ieRsnAkmSuitePsk⟩

/-- `stationM` authenticates, then asks to associate with the RSNE given twice. -/
def dupRsneJoin : ApState :=
  run sampleCodec sampleCfg ApState.initial
    [.frame (.auth fromM 0 1), .frame (.assocReq fromM 0 10 (rsnAssocIes ++ [rsneM]))]

/-- Admission does not insist on a single RSNE, nor, in netdev.c's copy, on a single
pairwise cipher. A second copy of the RSNE the element loop kept leaves its result as it
was, while `ap_parse_new_station_ies` refuses any two RSN elements; so the sample AP
answers an Association Request carrying the RSNE twice with success, where the
NEW_STATION parser refuses the same elements. And for RSN information offering TKIP and
CCMP, ap.c's copy refuses with INVALID_PAIRWISE_CIPHER while netdev.c's answers with
success. -/
theorem assoc_admits_duplicate_rsne :
    (∀ (c : Codec) (ies : List Ie) (a : AssocIes) (rsne : Ie) (info : RsnInfo),
      ies.foldl (assocIesStep c false) (.ok ⟨none, none, none⟩) = .ok a → a.rsn = some (rsne, info) →
      (ies ++ [rsne]).foldl (assocIesStep c false) (.ok ⟨none, none, none⟩) = .ok a) ∧
    (∀ (c : Codec) (pre mid post : List Ie) (r r' : Ie), r.tag = ieTypeRsn → r'.tag = ieTypeRsn →
      apParseNewStationIes c (pre ++ r :: mid ++ r' :: post) = none) ∧
    dupRsneJoin.log.head? = some (.frameSent 2 (.assocResp stationM .success 0xc001 false)) ∧
    apParseNewStationIes sampleCodec (rsnAssocIes ++ [rsneM]) = none ∧
    popcount twoPairwise.pairwiseCiphers = 2 ∧
    ∀ (s : ApState) (sta : Station) (reassoc : Bool) (capability listenInterval : UInt16)
      (ies : List Ie) (rates : List Nat) (rsne : Ie),
      assocRsn sampleCfg s sta reassoc capability listenInterval ies rates rsne twoPairwise =
        assocReject s sta reassoc .invalidPairwiseCipher ∧
      SuccessSent s (assocRsnNetdev sampleCfg s sta reassoc capability listenInterval ies rates rsne twoPairwise)
        sta reassoc := by
  refine ⟨fun c ies _ _ _ done kept => foldl_assocIesStep_duplicate c ies done kept,
    fun c pre mid post _ _ => apParseNewStationIes_duplicate c pre mid post, by decide, by decide, by decide,
    fun s sta reassoc capability listenInterval ies rates rsne => ⟨?_, ?_⟩⟩
  · unfold assocRsn
    rw [if_neg (by decide), if_pos (by decide)]
  · unfold assocRsnNetdev
    rw [if_neg (by decide), if_neg (by decide), if_neg (by decide)]
    exact assocAccept_frames ..

end Iwd.Ap
