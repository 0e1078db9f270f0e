import Haze.Media.Backend
import Haze.Media.Quiet
import Haze.Media.Slots

set_option autoImplicit false

/-! # The streams on the bus and the streams of the call

The bus knows the streams of a call from `StreamAdded` and `StreamRemoved`. When a session ends, the
channel announces that its stream is disconnected and removed; but the backend's handler was
connected first and has dropped the stream, so the channel does not find it. The announced streams
are those of the backend as long as no session with a stream ends (`announced_streams_iff`).
-/

namespace Haze

namespace HazeMediaChannel

variable {s s' : HazeMediaChannel} {calls : List MediaCall}

/-- What a call says about the streams on the bus. -/
def announce (ids : List Nat) : MediaCall → List Nat
  | .streamAdded id _ _ => ids ++ [id]
  | .streamRemoved id => ids.erase id
  | _ => ids

/-- The streams announced by `StreamAdded` and not yet by `StreamRemoved`. -/
def announcedIds (s : HazeMediaChannel) : List Nat := s.calls.foldl announce []

/-- The call adds and removes no stream. -/
def Silent (c : MediaCall) : Prop := ∀ ids, announce ids c = ids

theorem silent_of_quiet {c : MediaCall} (h : c.quiet = true) : Silent c := by
  intro ids
  cases c <;> first | rfl | cases h

theorem announcedIds_append (h : s'.calls = s.calls ++ calls) :
    s'.announcedIds = calls.foldl announce s.announcedIds := by
  rw [announcedIds, h, List.foldl_append]
  rfl

theorem foldl_announce_silent (h : ∀ c ∈ calls, Silent c) (ids : List Nat) :
    calls.foldl announce ids = ids := by
  induction calls with
  | nil => rfl
  | cons c calls ih =>
      rw [List.foldl_cons, h c List.mem_cons_self ids]
      exact ih (fun c hc => h c (List.mem_cons_of_mem _ hc))

theorem Quiet.announcedIds_eq (h : Quiet s s') : s'.announcedIds = s.announcedIds := by
  obtain ⟨new, hnew, hquiet⟩ := h.calls
  rw [announcedIds_append hnew, foldl_announce_silent (fun c hc => silent_of_quiet (hquiet c hc))]

theorem announcedIds_requestStreams {contactHandle : Nat} {types : List Nat}
    {caps : PurpleMediaCaps} {context : Nat}
    (h : s.mediaChannelRequestStreams contactHandle types caps context = .ok s') :
    s'.announcedIds = s.announcedIds := by
  rcases requestStreams_cases h with ⟨-, rfl⟩ | ⟨-, hquiet | hquiet⟩
  · have hcalls : ((s.log [.requestStreams context]).log [.succeeded context []]).calls =
        s.calls ++ [.requestStreams context, .succeeded context []] := by
      simp [HazeMediaChannel.log]
    rw [announcedIds_append hcalls]
    rfl
  · exact hquiet.announcedIds_eq
  · have hcalls : (s.pend types context).calls = s.calls ++ [.requestStreams context] := rfl
    rw [hquiet.announcedIds_eq, announcedIds_append hcalls]
    rfl

/-- The events that do not come from the session. -/
def OwnEvent : MediaEvent → Prop
  | .streamNew _ => False
  | .streamEnd _ => False
  | .sessionEnd => False
  | _ => True

theorem announcedIds_ownEvent {e : MediaEvent} (he : OwnEvent e)
    (hstep : mediaChannels.step s e = .ok s') : s'.announcedIds = s.announcedIds := by
  cases e with
  | requestStreams contactHandle types caps context => exact announcedIds_requestStreams hstep
  | initiateMediaReturns result => exact (quiet_initiateMediaReturns hstep).announcedIds_eq
  | hangupReturns =>
      cases hstep
      exact (quiet_hangupReturns s).announcedIds_eq
  | initMedia => exact (quiet_initMediaCb hstep).announcedIds_eq
  | streamNew mediaType => exact he.elim
  | streamEnd id => exact he.elim
  | sessionEnd => exact he.elim
  | close =>
      cases hstep
      exact (quiet_close s false).announcedIds_eq
  | removeMember =>
      cases hstep
      exact (quiet_removeMember s).announcedIds_eq
  | dispose =>
      cases hstep
      exact (quiet_close s true).announcedIds_eq

/-- A stream that appears is announced. -/
theorem announcedIds_announceStream {live : List HazeMediaStream} {stream : HazeMediaStream}
    (h : s.announceStream live stream = .ok s') :
    s'.announcedIds = s.announcedIds ++ [stream.id] := by
  unfold announceStream at h
  split at h
  · cases h
  · rename_i requests calls hloop
    cases h
    have hcalls : ({ s with pendingStreamRequests := requests }.log
        (calls ++ [MediaCall.streamAdded stream.id s.initialPeer stream.mediaType])).calls =
        s.calls ++ (calls ++ [.streamAdded stream.id s.initialPeer stream.mediaType]) := rfl
    have hsilent : ∀ c ∈ calls, Silent c := by
      intro c hc
      obtain ⟨context, streams, rfl⟩ := satisfyRequests_succeeded hloop c hc
      exact fun _ => rfl
    rw [announcedIds_append hcalls, List.foldl_append, foldl_announce_silent hsilent]
    rfl

end HazeMediaChannel

namespace MediaSession

open HazeMediaChannel
open BackendStreams (mem_of_getStreamByName getStreamByName_eq_none)

variable {m m' : MediaSession} {stream : NamedStream} {sid : String}

/-! ## The session -/

/-- The streams on the bus are those of the backend that libpurple has reported as `NEW`. -/
def Agrees (m : MediaSession) : Prop :=
  m.chan.announcedIds.Nodup ∧ ∀ id, id ∈ m.chan.announcedIds ↔
    (∃ stream ∈ m.backend.streams, stream.id = id) ∧ id ∈ m.reported

/-- A stream whose session ends is announced as disconnected and removed, once. -/
def EndAnnounced (m : MediaSession) (e : Event) (m' : MediaSession) : Prop :=
  ∀ sid stream, e = .stateChanged .end (some sid) none →
    m.backend.getStreamByName sid = some stream →
    m'.chan.calls = m.chan.calls ++
      [.streamStateChanged stream.id .disconnected, .streamRemoved stream.id]

/-- What libpurple promises: the streams have distinct session ids, a stream is reported as `NEW`
once and after it was added, and the channel hears of the session by the signal alone. -/
def Legal (m : MediaSession) : Event → Prop
  | .addStream sid _ => m.backend.getStreamByName sid = none
  | .stateChanged .new (some sid) (some _) =>
      ∃ stream ∈ m.backend.getStreamByName sid, stream.id ∉ m.reported
  | .stateChanged _ _ _ => True
  | .channel e => OwnEvent e

/-- No session ends that has a stream. -/
def SessionStays (m : MediaSession) : Event → Prop
  | .stateChanged .end (some sid) none => m.backend.getStreamByName sid = none
  | _ => True

instance : DecidablePred OwnEvent
  | .requestStreams _ _ _ _ => isTrue trivial
  | .initiateMediaReturns _ => isTrue trivial
  | .hangupReturns => isTrue trivial
  | .initMedia => isTrue trivial
  | .streamNew _ => isFalse id
  | .streamEnd _ => isFalse id
  | .sessionEnd => isFalse id
  | .close => isTrue trivial
  | .removeMember => isTrue trivial
  | .dispose => isTrue trivial

instance (m : MediaSession) : DecidablePred (Legal m)
  | .addStream sid _ => inferInstanceAs (Decidable (m.backend.getStreamByName sid = none))
  | .stateChanged .new (some sid) (some _) => inferInstanceAs
      (Decidable (∃ stream ∈ m.backend.getStreamByName sid, stream.id ∉ m.reported))
  | .stateChanged .new (some _) none => isTrue trivial
  | .stateChanged .new none _ => isTrue trivial
  | .stateChanged .connected _ _ => isTrue trivial
  | .stateChanged .end _ _ => isTrue trivial
  | .channel e => inferInstanceAs (Decidable (OwnEvent e))

instance (m : MediaSession) : DecidablePred (SessionStays m)
  | .stateChanged .end (some sid) none =>
      inferInstanceAs (Decidable (m.backend.getStreamByName sid = none))
  | .stateChanged .end (some _) (some _) => isTrue trivial
  | .stateChanged .end none _ => isTrue trivial
  | .stateChanged .connected _ _ => isTrue trivial
  | .stateChanged .new _ _ => isTrue trivial
  | .addStream _ _ => isTrue trivial
  | .channel _ => isTrue trivial

/-- What holds of a session that the channel has latched onto. -/
structure Latched (m : MediaSession) : Prop where
  handlers : m.handlers = [.backend, .channel]
  names : (m.backend.streams.map NamedStream.name).Nodup
  distinct : m.backend.Distinct
  reported : ∀ id ∈ m.reported, id < m.backend.nextStreamId
  agrees : Agrees m

/-- The backend's handler runs first, the channel's second. -/
theorem emitStateChanged_eq (hhandlers : m.handlers = [.backend, .channel])
    (state : PurpleMediaState) (sid name : Option String) :
    m.emitStateChanged state sid name =
      match m.chan.mediaStateChangedCb (m.backend.stateChangedCb state sid name)
        state sid name with
      | .error fault => .error fault
      | .ok chan => .ok { m with
          backend := m.backend.stateChangedCb state sid name
          chan := chan
          reported := m.reported ++ m.reports state sid name } := by
  unfold emitStateChanged
  rw [hhandlers]
  simp only [List.foldlM_cons, List.foldlM_nil, handle, bind, Except.bind, pure, Except.pure]
  cases m.chan.mediaStateChangedCb (m.backend.stateChangedCb state sid name) state sid name with
  | error fault => rfl
  | ok chan => rfl

/-- Once the backend has dropped the stream of a session, it has none of that name. -/
theorem getStreamByName_ended {b : HazeMediaBackend}
    (hnames : (b.streams.map NamedStream.name).Nodup)
    (hfind : b.getStreamByName sid = some stream) :
    (b.stateChangedCb .end (some sid) none).getStreamByName sid = none := by
  obtain ⟨hmem, hname⟩ := mem_of_getStreamByName hfind
  rw [getStreamByName_eq_none]
  intro other hother
  simp only [BackendStreams.stateChangedCb, hfind] at hother
  rw [(gPtrArrayRemoveFast_perm _ _).mem_iff, (hnames.of_map _).mem_erase_iff] at hother
  intro heq
  exact hother.1 (List.inj_on_of_nodup_map hnames hother.2 hmem (heq.trans hname.symm))

/-- The session of a stream ends: the channel says nothing. -/
theorem sessionEnd_not_announced (hhandlers : m.handlers = [.backend, .channel])
    (hnames : (m.backend.streams.map NamedStream.name).Nodup)
    (hfind : m.backend.getStreamByName sid = some stream)
    (hstep : m.emitStateChanged .end (some sid) none = .ok m') : m'.chan = m.chan := by
  have hgone := getStreamByName_ended hnames hfind
  rw [emitStateChanged_eq hhandlers] at hstep
  simp only [mediaStateChangedCb, stateNew, stateOfSession, stateEnd, hgone] at hstep
  cases hstep
  rfl

/-! ## Steps that end no session with a stream -/

/-- A session that has no stream ends, or something else happens: the backend stays. -/
theorem stateChangedCb_of_stays {state : PurpleMediaState} {sid name : Option String}
    (hstays : SessionStays m (.stateChanged state sid name)) :
    m.backend.stateChangedCb state sid name = m.backend := by
  unfold BackendStreams.stateChangedCb
  split
  · have hnone : m.backend.getStreamByName _ = none := hstays
    rw [hnone]
  · rfl

theorem announcedIds_stateOfSession (s : HazeMediaChannel) (b : HazeMediaBackend)
    (state : PurpleMediaState) (sid name : Option String) :
    (s.stateOfSession b state sid name).announcedIds = s.announcedIds := by
  unfold stateOfSession
  split
  · split
    · rfl
    · rename_i stream _
      have hcalls : (s.log [.streamStateChanged stream.id (tpMediaStreamState state)]).calls =
          s.calls ++ [.streamStateChanged stream.id (tpMediaStreamState state)] := rfl
      rw [announcedIds_append hcalls]
      rfl
  · rfl

theorem announcedIds_stateEnd {state : PurpleMediaState} {sid name : Option String}
    (hstays : SessionStays m (.stateChanged state sid name)) (s : HazeMediaChannel) :
    (s.stateEnd m.backend state sid name).announcedIds = s.announcedIds := by
  unfold stateEnd
  split
  · have hnone : m.backend.getStreamByName _ = none := hstays
    rw [hnone]
  · exact (quiet_sessionEnd s).announcedIds_eq
  · rfl

theorem Latched.same (hm : Latched m) (hhandlers : m'.handlers = m.handlers)
    (hbackend : m'.backend = m.backend) (hreported : m'.reported = m.reported)
    (hannounced : m'.chan.announcedIds = m.chan.announcedIds) : Latched m' := by
  refine ⟨hhandlers.trans hm.handlers, ?_, ?_, ?_, ?_⟩
  · rw [hbackend]
    exact hm.names
  · rw [hbackend]
    exact hm.distinct
  · rw [hbackend, hreported]
    exact hm.reported
  · rw [Agrees, hannounced, hbackend, hreported]
    exact hm.agrees

/-- A stream is added. It is not announced before it is reported as `NEW`. -/
theorem Latched.addStream (hm : Latched m) (type : PurpleMediaSessionType)
    (hlegal : m.backend.getStreamByName sid = none) :
    Latched { m with backend := m.backend.addStream sid type } := by
  let stream : NamedStream := ⟨⟨m.backend.nextStreamId,
    if type.audio then tpMediaStreamTypeAudio else tpMediaStreamTypeVideo⟩, sid⟩
  have hstreams : (m.backend.addStream sid type).streams = m.backend.streams ++ [stream] := rfl
  have hnext : (m.backend.addStream sid type).nextStreamId = m.backend.nextStreamId + 1 := rfl
  refine ⟨hm.handlers, ?_, ?_, ?_, hm.agrees.1, fun id => ?_⟩
  · exact BackendStreams.nodup_name_addStream hm.names (fun _ => rfl) hlegal
  · exact hm.distinct.addStream sid type (fun _ => rfl)
  · rw [hnext]
    exact fun id hid => Nat.lt_succ_of_lt (hm.reported id hid)
  · show id ∈ m.chan.announcedIds ↔
      (∃ other ∈ (m.backend.addStream sid type).streams, other.id = id) ∧ id ∈ m.reported
    rw [hm.agrees.2 id, hstreams]
    refine and_congr_left (fun hid => ?_)
    constructor
    · rintro ⟨other, hother, rfl⟩
      exact ⟨other, List.mem_append_left _ hother, rfl⟩
    · rintro ⟨other, hother, rfl⟩
      rcases List.mem_append.mp hother with hold | hnew
      · exact ⟨other, hold, rfl⟩
      · -- the new stream's id has not been reported
        rw [List.mem_singleton.mp hnew] at hid
        exact absurd (hm.reported _ hid) (Nat.lt_irrefl _)

/-- A stream is reported as `NEW`, and announced. -/
theorem Latched.reportNew (hm : Latched m) (hmem : stream ∈ m.backend.streams)
    (hnew : stream.id ∉ m.reported) (hhandlers : m'.handlers = m.handlers)
    (hbackend : m'.backend = m.backend) (hreported : m'.reported = m.reported ++ [stream.id])
    (hannounced : m'.chan.announcedIds = m.chan.announcedIds ++ [stream.id]) : Latched m' := by
  have hunannounced : stream.id ∉ m.chan.announcedIds :=
    fun h => hnew ((hm.agrees.2 stream.id).mp h).2
  refine ⟨hhandlers.trans hm.handlers, ?_, ?_, ?_, ?_, fun id => ?_⟩
  · rw [hbackend]
    exact hm.names
  · rw [hbackend]
    exact hm.distinct
  · rw [hbackend, hreported]
    intro id hid
    rcases List.mem_append.mp hid with hold | hid
    · exact hm.reported id hold
    · rw [List.mem_singleton.mp hid]
      exact hm.distinct.lt stream hmem
  · rw [hannounced]
    refine List.Nodup.append hm.agrees.1 (List.nodup_singleton _) ?_
    intro id hold hid
    rw [List.mem_singleton.mp hid] at hold
    exact hunannounced hold
  · rw [hannounced, hbackend, hreported, List.mem_append, List.mem_append, hm.agrees.2 id,
      List.mem_singleton]
    constructor
    · rintro (⟨hex, hid⟩ | rfl)
      · exact ⟨hex, Or.inl hid⟩
      · exact ⟨⟨stream, hmem, rfl⟩, Or.inr rfl⟩
    · rintro ⟨hex, hid | rfl⟩
      · exact Or.inl ⟨hex, hid⟩
      · exact Or.inr rfl

/-- libpurple reports a state, of a stream or of something that has none. -/
theorem Latched.stateChanged (hm : Latched m) {state : PurpleMediaState}
    {sid name : Option String} (hlegal : Legal m (.stateChanged state sid name))
    (hstays : SessionStays m (.stateChanged state sid name))
    (hstep : m.emitStateChanged state sid name = .ok m') : Latched m' := by
  rw [emitStateChanged_eq hm.handlers, stateChangedCb_of_stays hstays] at hstep
  unfold mediaStateChangedCb at hstep
  cases hnew : m.chan.stateNew m.backend state sid name with
  | error fault =>
      rw [hnew] at hstep
      cases hstep
  | ok s =>
      rw [hnew] at hstep
      cases hstep
      have hannounced : ((s.stateOfSession m.backend state sid name).stateEnd m.backend
          state sid name).announcedIds = s.announcedIds := by
        rw [announcedIds_stateEnd hstays, announcedIds_stateOfSession]
      unfold stateNew at hnew
      split at hnew
      · -- the stream is announced
        rename_i sid name
        obtain ⟨stream, hfind, hunreported⟩ := hlegal
        rw [Option.mem_def.mp hfind] at hnew
        have hids := announcedIds_announceStream hnew
        refine hm.reportNew (mem_of_getStreamByName hfind).1 hunreported rfl rfl ?_ ?_
        · simp only [reports, Option.mem_def.mp hfind]
        · exact hannounced.trans hids
      · rename_i hother
        cases hnew
        refine hm.same rfl rfl ?_ hannounced
        have hnone : m.reports state sid name = [] := by
          unfold reports
          split
          · exact (hother _ _ rfl rfl rfl).elim
          · rfl
        simp only [hnone, List.append_nil]

theorem Latched.step (hm : Latched m) {e : Event} (hlegal : Legal m e)
    (hstays : SessionStays m e) (hstep : mediaSessions.step m e = .ok m') : Latched m' := by
  cases e with
  | addStream sid type =>
      cases hstep
      exact hm.addStream type hlegal
  | stateChanged state sid name => exact hm.stateChanged hlegal hstays hstep
  | channel e =>
      cases hchan : mediaChannels.step m.chan e with
      | error fault => simp only [mediaSessions, hchan] at hstep; cases hstep
      | ok chan =>
          simp only [mediaSessions, hchan] at hstep
          cases hstep
          exact hm.same rfl rfl rfl (announcedIds_ownEvent hlegal hchan)

/-! ## Every run -/

theorem latched_latchToSession {chan : HazeMediaChannel} (hfresh : chan.announcedIds = []) :
    Latched (new chan).latchToSession where
  handlers := rfl
  names := List.nodup_nil
  distinct := BackendStreams.distinct_init
  reported := by simp [latchToSession, new]
  agrees := by
    simp [Agrees, latchToSession, new, HazeMediaBackend.init, BackendStreams.init, hfresh]

/-- Nothing is announced of the end of a session, so it must not have a stream. -/
theorem endAnnounced_iff (hm : Latched m) {e : Event} (hstep : mediaSessions.step m e = .ok m') :
    EndAnnounced m e m' ↔ SessionStays m e := by
  constructor
  · intro hend
    unfold SessionStays
    split
    · rename_i sid
      cases hfind : m.backend.getStreamByName sid with
      | none => rfl
      | some stream =>
          have hcalls := hend sid stream rfl hfind
          rw [sessionEnd_not_announced hm.handlers hm.names hfind hstep] at hcalls
          have hlength := congrArg List.length hcalls
          rw [List.length_append] at hlength
          simp at hlength
    · trivial
  · rintro hstays sid stream rfl hfind
    have hnone : m.backend.getStreamByName sid = none := hstays
    rw [hnone] at hfind
    cases hfind

/-- **The streams on the bus are the streams of the call**, in every run in which no session with a
stream ends; and when one does end, its end is not announced. -/
theorem announced_streams_iff (chan : HazeMediaChannel) (hfresh : chan.announcedIds = [])
    (es : List Event) (hlegal : mediaSessions.Meets Legal (new chan).latchToSession es)
    (hrun : mediaSessions.run (new chan).latchToSession es = .ok m) :
    (mediaSessions.Meets (fun m e => ∀ m', mediaSessions.step m e = .ok m' →
        Agrees m' ∧ EndAnnounced m e m') (new chan).latchToSession es ↔
      mediaSessions.Meets SessionStays (new chan).latchToSession es) ∧
    (mediaSessions.Meets SessionStays (new chan).latchToSession es → Agrees m) := by
  have hlatched := latched_latchToSession hfresh
  constructor
  · refine Machine.meets_iff_of_invariant (I := Latched) (fun m e m' hm hok hstep => ?_) hlatched
      hlegal hrun
    rw [Machine.forall_step_iff hstep, endAnnounced_iff hm hstep]
    exact ⟨⟨And.right, fun hstays => ⟨(hm.step hok hstays hstep).agrees, hstays⟩⟩,
      fun hstays => hm.step hok hstays hstep⟩
  · intro hstays
    have hm : Latched m := Machine.run_invariant
      (fun _ _ _ hm hok hstep => hm.step hok.1 hok.2 hstep) hlatched (hlegal.and hstays) hrun
    exact hm.agrees

/-- A call with sound, until it ends. -/
theorem announced_streams_call :
    ∃ m, mediaSessions.run (new (.init "jabber" 2 true)).latchToSession
        [.addStream "audio" ⟨true, false⟩, .stateChanged .new (some "audio") (some "bob"),
          .stateChanged .connected (some "audio") none, .stateChanged .end none none] = .ok m ∧
      Agrees m :=
  ⟨_, rfl, (announced_streams_iff (.init "jabber" 2 true) rfl
    [.addStream "audio" ⟨true, false⟩, .stateChanged .new (some "audio") (some "bob"),
      .stateChanged .connected (some "audio") none, .stateChanged .end none none]
    (by decide) rfl).2 (by decide)⟩

/-- The session of the sound ends, and the stream stays announced. -/
theorem announced_stream_gone :
    ¬ ∀ es m, mediaSessions.Meets Legal (new (.init "jabber" 2 true)).latchToSession es →
      mediaSessions.run (new (.init "jabber" 2 true)).latchToSession es = .ok m → Agrees m := by
  intro hall
  have hagrees := hall
    [.addStream "audio" ⟨true, false⟩, .stateChanged .new (some "audio") (some "bob"),
      .stateChanged .end (some "audio") none] _ (by decide) rfl
  obtain ⟨stream, hstream, -⟩ := ((hagrees.2 1).mp (by decide)).1
  cases hstream

/-! ## What the channel's own model makes of it

`mediaChannels` has no backend: a stream that is added and reported as `NEW`, the end of its session
and the end of the call are one event each. -/

/-- The channel with the streams of the backend. -/
def toChannel (m : MediaSession) : HazeMediaChannel :=
  { m.chan with
    streams := m.backend.streams.map (·.toHazeMediaStream)
    nextStreamId := m.backend.nextStreamId }

/-- A stream is added under a new name and reported as `NEW`. -/
theorem streamNew_refines (hhandlers : m.handlers = [.backend, .channel])
    (hfree : m.backend.getStreamByName sid = none) (type : PurpleMediaSessionType)
    (name : String) :
    ({ m with backend := m.backend.addStream sid type }.emitStateChanged .new (some sid)
        (some name)).map toChannel =
      m.toChannel.streamNew
        (if type.audio then tpMediaStreamTypeAudio else tpMediaStreamTypeVideo) := by
  let stream : NamedStream := ⟨⟨m.backend.nextStreamId,
    if type.audio then tpMediaStreamTypeAudio else tpMediaStreamTypeVideo⟩, sid⟩
  have hloop : satisfyRequests (m.toChannel.streams ++ [stream.toHazeMediaStream])
      stream.toHazeMediaStream m.toChannel.pendingStreamRequests =
      satisfyRequests (m.backend.streams.map (·.toHazeMediaStream) ++ [stream.toHazeMediaStream])
        stream.toHazeMediaStream m.chan.pendingStreamRequests := rfl
  have hfind : (m.backend.addStream sid type).getStreamByName sid = some stream := by
    have hstreams : (m.backend.addStream sid type).streams = m.backend.streams ++ [stream] := rfl
    have hnone : m.backend.streams.find? (fun stream => stream.name = sid) = none := hfree
    show (m.backend.addStream sid type).streams.find? (fun stream => stream.name = sid) = _
    rw [hstreams, List.find?_append, hnone]
    simp [stream]
  have hlive : (m.backend.addStream sid type).streams.map (·.toHazeMediaStream) =
      m.backend.streams.map (·.toHazeMediaStream) ++ [stream.toHazeMediaStream] := by
    rw [HazeMediaBackend.addStream, BackendStreams.addStream, List.map_append]
    rfl
  rw [emitStateChanged_eq (by exact hhandlers)]
  simp only [BackendStreams.stateChangedCb, mediaStateChangedCb, stateNew, hfind, hlive,
    announceStream, stateOfSession, stateEnd]
  cases hout : satisfyRequests
    (m.backend.streams.map (·.toHazeMediaStream) ++ [stream.toHazeMediaStream])
    stream.toHazeMediaStream m.chan.pendingStreamRequests with
  | error fault =>
      rw [hout] at hloop
      rw [streamNew_error hloop]
      rfl
  | ok out =>
      obtain ⟨requests, calls⟩ := out
      rw [hout] at hloop
      rw [streamNew_eq hloop]
      simp only [Except.map, toChannel, hlive]
      rfl

/-- The session of a stream ends: the stream is dropped, and nothing else happens. -/
theorem streamEnd_refines (hhandlers : m.handlers = [.backend, .channel])
    (hnames : (m.backend.streams.map NamedStream.name).Nodup)
    (hids : (m.backend.streams.map (·.id)).Nodup)
    (hfind : m.backend.getStreamByName sid = some stream)
    (hstep : m.emitStateChanged .end (some sid) none = .ok m') :
    m'.chan = m.chan ∧
      m'.toChannel.streams.Perm (m.toChannel.streamEnd stream.id).streams := by
  have hchan := sessionEnd_not_announced hhandlers hnames hfind hstep
  have hbackend : m'.backend = m.backend.stateChangedCb .end (some sid) none := by
    rw [emitStateChanged_eq hhandlers] at hstep
    split at hstep
    · cases hstep
    · cases hstep
      rfl
  refine ⟨hchan, ?_⟩
  have hstreams : m'.toChannel.streams =
      (gPtrArrayRemoveFast m.backend.streams stream).map (·.toHazeMediaStream) := by
    simp only [toChannel, hbackend, BackendStreams.stateChangedCb, hfind]
  have herase : (m.backend.streams.erase stream).map (·.toHazeMediaStream) =
      (m.toChannel.streamEnd stream.id).streams := by
    have hmem := (mem_of_getStreamByName hfind).1
    have hfilter : m.backend.streams.filter (· != stream) = m.backend.streams.filter
        ((fun other : HazeMediaStream => decide (other.id ≠ stream.id)) ∘
          (·.toHazeMediaStream)) := by
      refine List.filter_congr (fun other hother => ?_)
      by_cases heq : other = stream
      · simp [heq]
      · have hid : other.id ≠ stream.id :=
          fun h => heq (List.inj_on_of_nodup_map hids hother hmem h)
        simp [heq, hid]
    rw [(hnames.of_map _).erase_eq_filter, hfilter, ← List.filter_map]
    rfl
  rw [hstreams, ← herase]
  exact (gPtrArrayRemoveFast_perm _ _).map _

/-- The call ends. -/
theorem sessionEnd_refines (hhandlers : m.handlers = [.backend, .channel]) :
    (m.emitStateChanged .end none none).map toChannel = .ok m.toChannel.sessionEnd := by
  rw [emitStateChanged_eq hhandlers]
  simp only [BackendStreams.stateChangedCb, mediaStateChangedCb, stateNew, stateOfSession,
    stateEnd, Except.map, Except.ok.injEq]
  cases hclosed : m.chan.closed with
  | false =>
      simp [toChannel, HazeMediaChannel.sessionEnd, hazeMediaChannelClose, finishClose,
        HazeMediaChannel.log, hclosed]
  | true => simp [toChannel, HazeMediaChannel.sessionEnd, HazeMediaChannel.log, hclosed]

end MediaSession

end Haze
