import Haze.Basic.Mirror
import Haze.Media.SessionHandler

set_option autoImplicit false

/-! # The directions of the streams of a call

Every stream is bidirectional. What changes is whether the account has yet to agree to send: a
stream that the peer has added waits for it, until the streaming client is ready in a session that
sends, or the session is accepted (`pendingSend_iff_not_cleared`). The channel watches the direction
of a stream from its announcement on and tells the bus of each change; `ListStreams` asks the
streams themselves. The two agree (`listStreams_told`). What the channel says of the streams besides
is what it says in the model of the session without directions (`shows_run`).
-/

namespace Haze

/-! ## Combined directions -/

/-- `TP_MEDIA_STREAM_DIRECTION_BIDIRECTIONAL` -/
def tpMediaStreamDirectionBidirectional : Nat := 3

/-- `TP_MEDIA_STREAM_PENDING_LOCAL_SEND` -/
def tpMediaStreamPendingLocalSend : Nat := 1

/-- `COMBINED_DIRECTION_GET_DIRECTION` -/
def combinedDirectionGetDirection (d : Nat) : Nat := d &&& tpMediaStreamDirectionBidirectional

/-- `COMBINED_DIRECTION_GET_PENDING_SEND` -/
def combinedDirectionGetPendingSend (d : Nat) : Nat := d >>> 2

/-- `MAKE_COMBINED_DIRECTION` -/
def makeCombinedDirection (d p : Nat) : Nat := d ||| (p <<< 2)

/-- The parts of a combined direction. -/
def directionParts (d : Nat) : Nat × Nat :=
  (combinedDirectionGetDirection d, combinedDirectionGetPendingSend d)

/-- A direction and what is pending are told apart. -/
theorem directionParts_make {d p : Nat} (hd : d ≤ tpMediaStreamDirectionBidirectional) :
    directionParts (makeCombinedDirection d p) = (d, p) := by
  have hd3 : d ≤ 3 := hd
  have hor : makeCombinedDirection d p = p * 4 + d := by
    have hadd := Nat.shiftLeft_add_eq_or_of_lt (show d < 2 ^ 2 by omega) p
    rw [makeCombinedDirection, Nat.or_comm, ← hadd, Nat.shiftLeft_eq]
  have hand : (p * 4 + d) &&& 3 = (p * 4 + d) % 4 := Nat.and_two_pow_sub_one_eq_mod (p * 4 + d) 2
  have hshift : (p * 4 + d) >>> 2 = (p * 4 + d) / 4 := Nat.shiftRight_eq_div_pow (p * 4 + d) 2
  rw [directionParts, combinedDirectionGetDirection, combinedDirectionGetPendingSend, hor, hshift,
    tpMediaStreamDirectionBidirectional, hand]
  congr 1 <;> omega

/-! ## The streams -/

/-- A stream with its direction. -/
structure DirectedStream extends NamedStream where
  createdLocally : Bool
  combinedDirection : Nat
  /-- "connection-state" -/
  connectionState : TpMediaStreamState
  ready : Bool
  /-- the number of times that the channel is connected to "notify::combined-direction" -/
  watchers : Nat
  deriving DecidableEq

instance : BackendStream DirectedStream := ⟨DirectedStream.toNamedStream⟩

/-- What the bus hears of the streams, by their numbers. -/
inductive StreamedMediaSignal where
  | streamAdded (id : Nat) (mediaType : Nat)
  | streamDirectionChanged (id : Nat) (direction pendingSend : Nat)
  | streamStateChanged (id : Nat) (state : TpMediaStreamState)
  | streamRemoved (id : Nat)
  deriving DecidableEq

/-- `MediaStreamInfo`, apart from the peer, who is that of the channel. -/
structure MediaStreamInfo where
  id : Nat
  mediaType : Nat
  state : TpMediaStreamState
  direction : Nat
  pendingSend : Nat
  deriving DecidableEq

/-- A session: the streams in its backend, and what its channel has emitted. -/
structure DirectedSession extends BackendStreams DirectedStream where
  signals : List StreamedMediaSignal

namespace DirectedSession

/-- A session without streams. -/
def init : DirectedSession := ⟨.init, []⟩

def emit (s : DirectedSession) (signals : List StreamedMediaSignal) : DirectedSession :=
  { s with signals := s.signals ++ signals }

/-- `haze_media_stream_constructor` -/
def initialDirection (createdLocally : Bool) : Nat :=
  if createdLocally then makeCombinedDirection tpMediaStreamDirectionBidirectional 0
  else makeCombinedDirection tpMediaStreamDirectionBidirectional tpMediaStreamPendingLocalSend

/-- `haze_media_stream_new` -/
def hazeMediaStreamNew (initiator : Bool) (stream : NamedStream) : DirectedStream :=
  { stream with
    createdLocally := initiator
    combinedDirection := initialDirection initiator
    connectionState := .disconnected
    ready := false
    watchers := 0 }

/-- `haze_media_backend_add_stream`, with the direction that the stream is constructed with. -/
def addStream (s : DirectedSession) (sid : String) (type : PurpleMediaSessionType)
    (initiator : Bool) : DirectedSession :=
  { s with
    toBackendStreams := s.toBackendStreams.addStream sid type (hazeMediaStreamNew initiator) }

/-- A stream has changed. -/
def setStream (s : DirectedSession) (stream : DirectedStream) : DirectedSession :=
  { s with toBackendStreams := s.toBackendStreams.setStream stream }

/-- `stream_direction_changed_cb` -/
def streamDirectionChanged (stream : DirectedStream) : StreamedMediaSignal :=
  .streamDirectionChanged stream.id (combinedDirectionGetDirection stream.combinedDirection)
    (combinedDirectionGetPendingSend stream.combinedDirection)

/-- `g_object_set (stream, "combined-direction", ...)`: every handler is told, whether the value is
another one or not. -/
def setCombinedDirection (s : DirectedSession) (stream : DirectedStream) (d : Nat) :
    DirectedSession :=
  let stream := { stream with combinedDirection := d }
  (s.setStream stream).emit (List.replicate stream.watchers (streamDirectionChanged stream))

/-- `haze_backend_state_changed_cb` -/
def backendStateChanged (s : DirectedSession) (state : PurpleMediaState)
    (sid name : Option String) : DirectedSession :=
  { s with toBackendStreams := s.toBackendStreams.stateChangedCb state sid name }

/-- `media_state_changed_cb`, as far as it is about streams. -/
def mediaStateChanged (s : DirectedSession) (state : PurpleMediaState) (sid name : Option String) :
    Except Fault DirectedSession :=
  match sid, name with
  | none, _ => .ok s
  | some sid, some _ =>
      if state = .new then
        match s.getStreamByName sid with
        | none => .error .nullDereference
        | some stream =>
            let stream := { stream with watchers := stream.watchers + 1 }
            .ok ((s.setStream stream).emit
              [.streamAdded stream.id stream.mediaType, streamDirectionChanged stream])
      else .ok s
  | some sid, none =>
      match s.getStreamByName sid with
      | none => .ok s
      | some stream => .ok (s.emit ([.streamStateChanged stream.id
          (HazeMediaChannel.tpMediaStreamState state)] ++
          if state = .end then [.streamRemoved stream.id] else []))

/-- `media_stream_info_cb` for `PURPLE_MEDIA_INFO_ACCEPT`; `isInitiator` is
`purple_media_is_initiator` for the session. -/
def mediaStreamInfoAccept (s : DirectedSession) (sid name : Option String) (isInitiator : Bool) :
    DirectedSession :=
  match sid, name, isInitiator with
  | some sid, none, false =>
      match s.getStreamByName sid with
      -- `g_object_set` on `NULL`: a critical warning
      | none => s
      | some stream => s.setCombinedDirection stream
          (makeCombinedDirection tpMediaStreamDirectionBidirectional 0)
  | _, _, _ => s

/-- `haze_media_stream_ready`, as far as it is about the direction; `sends` is whether
`purple_media_get_session_type` has a sending direction. -/
def streamReady (s : DirectedSession) (id : Nat) (sends : Bool) : DirectedSession :=
  match s.streams.find? (fun stream => stream.id = id) with
  | none => s
  | some stream =>
      if stream.ready then s
      else
        let stream := { stream with ready := true }
        if sends then (s.setStream stream).setCombinedDirection stream
          (makeCombinedDirection tpMediaStreamDirectionBidirectional 0)
        else s.setStream stream

/-- `haze_media_stream_stream_state` -/
def streamState (s : DirectedSession) (id : Nat) (state : TpMediaStreamState) : DirectedSession :=
  match s.streams.find? (fun stream => stream.id = id) with
  | none => s
  | some stream => s.setStream { stream with connectionState := state }

/-- `make_stream_list` -/
def mediaStreamInfo (stream : DirectedStream) : MediaStreamInfo where
  id := stream.id
  mediaType := stream.mediaType
  state := stream.connectionState
  direction := combinedDirectionGetDirection stream.combinedDirection
  pendingSend := combinedDirectionGetPendingSend stream.combinedDirection

/-- `haze_media_channel_list_streams`, in a channel with a session -/
def listStreams (s : DirectedSession) : List MediaStreamInfo := s.streams.map mediaStreamInfo

/-- What happens in a session. -/
inductive Event where
  | addStream (sid : String) (type : PurpleMediaSessionType) (initiator : Bool)
  | stateChanged (state : PurpleMediaState) (sid name : Option String)
  | accept (sid name : Option String) (isInitiator : Bool)
  | ready (id : Nat) (sends : Bool)
  | streamState (id : Nat) (state : TpMediaStreamState)

end DirectedSession

/-- The streams of a session as a machine. The backend hears of a state before the channel. -/
def directedSessions : Machine DirectedSession DirectedSession.Event Fault where
  step
    | s, .addStream sid type initiator => .ok (s.addStream sid type initiator)
    | s, .stateChanged state sid name =>
        (s.backendStateChanged state sid name).mediaStateChanged state sid name
    | s, .accept sid name isInitiator => .ok (s.mediaStreamInfoAccept sid name isInitiator)
    | s, .ready id sends => .ok (s.streamReady id sends)
    | s, .streamState id state => .ok (s.streamState id state)

/-! ## What the bus knows -/

/-- The signal says that the stream is there, or what its direction is. -/
def StreamedMediaSignal.SpeaksOf (id : Nat) : StreamedMediaSignal → Prop
  | .streamAdded id' _ => id' = id
  | .streamDirectionChanged id' _ _ => id' = id
  | _ => False

/-- The direction that a signal tells, and of which stream. -/
def StreamedMediaSignal.direction : StreamedMediaSignal → Option (Nat × (Nat × Nat))
  | .streamDirectionChanged id direction pendingSend => some (id, (direction, pendingSend))
  | _ => none

namespace DirectedSession

open BackendStreams (mem_of_getStreamByName mem_addStream mem_of_mem_stateChangedCb mem_setStream)

variable {s s' : DirectedSession} {stream other : DirectedStream} {e : Event}
  {signals new : List StreamedMediaSignal} {id : Nat}

/-- The directions that the bus has heard of. -/
def directions (signals : List StreamedMediaSignal) : List (Nat × (Nat × Nat)) :=
  signals.filterMap StreamedMediaSignal.direction

/-- The bus has heard of the stream. -/
def Announced (signals : List StreamedMediaSignal) (id : Nat) : Prop :=
  ∃ mediaType, .streamAdded id mediaType ∈ signals

/-- What the bus knows of the direction of a stream. -/
structure Told (signals : List StreamedMediaSignal) (stream : DirectedStream) : Prop where
  direction : ∃ pending ≤ tpMediaStreamPendingLocalSend, stream.combinedDirection =
    makeCombinedDirection tpMediaStreamDirectionBidirectional pending
  announced : Announced signals stream.id ↔ stream.watchers ≠ 0
  last : Mirror.last stream.id (directions signals) =
    if stream.watchers = 0 then none else some (directionParts stream.combinedDirection)

theorem last_directions_append : Mirror.last id (directions (signals ++ new)) =
    (Mirror.last id (directions new)).or (Mirror.last id (directions signals)) := by
  rw [directions, List.filterMap_append, Mirror.last_append]
  rfl

theorem announced_append :
    Announced (signals ++ new) id ↔ Announced signals id ∨ Announced new id := by
  simp only [Announced, List.mem_append, exists_or]

/-- Signals about other streams say nothing of this one. -/
theorem last_directions_eq_none (hnew : ∀ signal ∈ new, ¬ signal.SpeaksOf id) :
    Mirror.last id (directions new) = none := by
  refine Mirror.last_eq_none (fun told htold heq => ?_)
  obtain ⟨signal, hsignal, hdirection⟩ := List.mem_filterMap.mp htold
  cases signal with
  | streamDirectionChanged id' direction pendingSend =>
      cases hdirection
      exact hnew _ hsignal heq
  | streamAdded id' mediaType => cases hdirection
  | streamStateChanged id' state => cases hdirection
  | streamRemoved id' => cases hdirection

theorem Told.frame (h : Told signals stream)
    (hnew : ∀ signal ∈ new, ¬ signal.SpeaksOf stream.id) : Told (signals ++ new) stream := by
  refine ⟨h.direction, ?_, ?_⟩
  · rw [announced_append, h.announced]
    refine or_iff_left ?_
    rintro ⟨mediaType, hadded⟩
    exact hnew _ hadded rfl
  · rw [last_directions_append, last_directions_eq_none hnew, Option.none_or, h.last]

/-- Every handler is told the same. -/
theorem last_replicate (stream : DirectedStream) (n : Nat) :
    Mirror.last stream.id (directions (List.replicate n (streamDirectionChanged stream))) =
      if n = 0 then none else some (directionParts stream.combinedDirection) := by
  induction n with
  | zero => rfl
  | succ n ih =>
      have hcons : directions (List.replicate (n + 1) (streamDirectionChanged stream)) =
          (stream.id, directionParts stream.combinedDirection) ::
            directions (List.replicate n (streamDirectionChanged stream)) := rfl
      rw [hcons, Mirror.last, ih, if_pos rfl, if_neg (Nat.succ_ne_zero n)]
      split_ifs <;> rfl

/-! ## The invariant -/

/-- What holds of every session that is reached. -/
structure Watched (s : DirectedSession) : Prop extends
    BackendStreams.Distinct s.toBackendStreams where
  told : ∀ stream ∈ s.streams, Told s.signals stream
  spoken : ∀ signal ∈ s.signals, ∀ id, signal.SpeaksOf id → id < s.nextStreamId

/-- A stream changes, and signals are emitted about it alone. -/
theorem Watched.change (h : Watched s) (hmem : ∃ old ∈ s.streams, old.id = stream.id)
    (hnew : ∀ signal ∈ new, ∀ id, signal.SpeaksOf id → id = stream.id)
    (htold : Told (s.signals ++ new) stream) : Watched ((s.setStream stream).emit new) := by
  refine ⟨h.toDistinct.setStream hmem, fun other hother => ?_, fun signal hsignal id hspeaks => ?_⟩
  · rcases mem_setStream hother with rfl | ⟨hother, hne⟩
    · exact htold
    · refine (h.told other hother).frame (fun signal hsignal hspeaks => ?_)
      exact hne (hnew signal hsignal _ hspeaks)
  · rcases List.mem_append.mp hsignal with hsignal | hsignal
    · exact h.spoken signal hsignal id hspeaks
    · obtain ⟨old, hold, hid⟩ := hmem
      rw [hnew signal hsignal id hspeaks, ← hid]
      exact h.lt old hold

/-- Signals that say nothing of directions. -/
theorem Watched.emit (h : Watched s) (hnew : ∀ signal ∈ new, ∀ id, ¬ signal.SpeaksOf id) :
    Watched (s.emit new) := by
  refine ⟨h.toDistinct, fun stream hmem => ?_, fun signal hsignal id hspeaks => ?_⟩
  · exact (h.told stream hmem).frame (fun signal hsignal => hnew signal hsignal _)
  · rcases List.mem_append.mp hsignal with hsignal | hsignal
    · exact h.spoken signal hsignal id hspeaks
    · exact absurd hspeaks (hnew signal hsignal id)

theorem find_id (h : s.streams.find? (fun stream => stream.id = id) = some stream) :
    stream ∈ s.streams ∧ stream.id = id :=
  ⟨List.mem_of_find?_eq_some h, by simpa using List.find?_some h⟩

theorem Watched.addStream (h : Watched s) (sid : String) (type : PurpleMediaSessionType)
    (initiator : Bool) : Watched (s.addStream sid type initiator) := by
  refine ⟨h.toDistinct.addStream sid type (fun _ => rfl), fun stream hmem => ?_,
    fun signal hsignal id hspeaks => ?_⟩
  · rcases mem_addStream.mp hmem with hold | rfl
    · exact h.told stream hold
    · -- nothing was said of the id before
      have hfresh : ∀ signal ∈ s.signals, ¬ signal.SpeaksOf s.nextStreamId :=
        fun signal hsignal hspeaks => (h.spoken signal hsignal _ hspeaks).ne rfl
      refine ⟨?_, iff_of_false ?_ (not_not_intro rfl), ?_⟩
      · cases initiator
        · exact ⟨_, Nat.le_refl _, rfl⟩
        · exact ⟨0, Nat.zero_le _, rfl⟩
      · rintro ⟨mediaType, hadded⟩
        exact hfresh _ hadded rfl
      · exact (last_directions_eq_none hfresh).trans (if_pos rfl).symm
  · exact Nat.lt_succ_of_lt (h.spoken signal hsignal id hspeaks)

/-- A stream gets another direction, and the channel, where it watches, tells the bus. -/
theorem Watched.setCombinedDirection (h : Watched s) (hmem : stream ∈ s.streams) {pending : Nat}
    (hpending : pending ≤ tpMediaStreamPendingLocalSend) :
    Watched (s.setCombinedDirection stream
      (makeCombinedDirection tpMediaStreamDirectionBidirectional pending)) := by
  let changed : DirectedStream := { stream with
    combinedDirection := makeCombinedDirection tpMediaStreamDirectionBidirectional pending }
  have hall : ∀ signal ∈ List.replicate stream.watchers (streamDirectionChanged changed),
      signal = streamDirectionChanged changed :=
    fun signal hsignal => List.eq_of_mem_replicate hsignal
  show Watched ((s.setStream changed).emit _)
  refine h.change ⟨stream, hmem, rfl⟩ (fun signal hsignal id hspeaks => ?_)
    ⟨⟨pending, hpending, rfl⟩, ?_, ?_⟩
  · rw [hall signal hsignal] at hspeaks
    exact hspeaks.symm
  · rw [announced_append, (h.told stream hmem).announced]
    refine or_iff_left ?_
    rintro ⟨mediaType, hadded⟩
    cases hall _ hadded
  · rw [last_directions_append, last_replicate changed]
    have hlast := (h.told stream hmem).last
    show (if stream.watchers = 0 then none else some (directionParts changed.combinedDirection)).or
      (Mirror.last stream.id (directions s.signals)) = _
    rw [hlast]
    show _ = if stream.watchers = 0 then none else some (directionParts changed.combinedDirection)
    split_ifs <;> rfl

/-- Something else about a stream changes. -/
theorem Watched.setStream (h : Watched s) {changed : DirectedStream} (hmem : stream ∈ s.streams)
    (hid : changed.id = stream.id)
    (hdirection : changed.combinedDirection = stream.combinedDirection)
    (hwatchers : changed.watchers = stream.watchers) : Watched (s.setStream changed) := by
  have htold := h.told stream hmem
  have hsame : (s.setStream changed).emit [] = s.setStream changed := by
    rw [DirectedSession.emit, List.append_nil]
  rw [← hsame]
  refine h.change ⟨stream, hmem, hid.symm⟩ (fun signal hsignal => by cases hsignal) ?_
  rw [List.append_nil]
  refine ⟨?_, ?_, ?_⟩
  · rw [hdirection]
    exact htold.direction
  · rw [hid, hwatchers]
    exact htold.announced
  · rw [hid, hwatchers, hdirection]
    exact htold.last

/-- A stream is announced. -/
theorem Watched.announce (h : Watched s) (hmem : stream ∈ s.streams) {changed : DirectedStream}
    (hchanged : changed = { stream with watchers := stream.watchers + 1 }) :
    Watched ((s.setStream changed).emit
      [.streamAdded changed.id changed.mediaType, streamDirectionChanged changed]) := by
  have hid : changed.id = stream.id := by rw [hchanged]
  refine h.change ⟨stream, hmem, hid.symm⟩ (fun signal hsignal id hspeaks => ?_) ⟨?_, ?_, ?_⟩
  · rcases List.mem_cons.mp hsignal with rfl | hsignal
    · exact hspeaks.symm
    · rw [List.mem_singleton.mp hsignal] at hspeaks
      exact hspeaks.symm
  · rw [hchanged]
    exact (h.told stream hmem).direction
  · refine iff_of_true (announced_append.mpr (Or.inr ⟨_, List.mem_cons_self⟩)) ?_
    rw [hchanged]
    exact Nat.succ_ne_zero _
  · have hlast : Mirror.last changed.id (directions [.streamAdded changed.id changed.mediaType,
        streamDirectionChanged changed]) = some (directionParts changed.combinedDirection) :=
      last_replicate changed 1
    have hne : changed.watchers ≠ 0 := by
      rw [hchanged]
      exact Nat.succ_ne_zero _
    rw [last_directions_append, hlast, if_neg hne, Option.some_or]

theorem Watched.backendStateChanged (h : Watched s) (state : PurpleMediaState)
    (sid name : Option String) : Watched (s.backendStateChanged state sid name) where
  toDistinct := h.toDistinct.stateChangedCb state sid name
  told stream hmem := h.told stream (mem_of_mem_stateChangedCb hmem)
  spoken signal hsignal id hspeaks := by
    have hlt : id < s.nextStreamId := h.spoken signal hsignal id hspeaks
    rwa [← s.toBackendStreams.nextStreamId_stateChangedCb state sid name] at hlt

theorem Watched.mediaStateChanged (h : Watched s) {state : PurpleMediaState}
    {sid name : Option String} (hstep : s.mediaStateChanged state sid name = .ok s') :
    Watched s' := by
  unfold DirectedSession.mediaStateChanged at hstep
  split at hstep
  · cases hstep
    exact h
  · split at hstep
    · split at hstep
      · cases hstep
      · rename_i stream hfind
        cases hstep
        exact h.announce (mem_of_getStreamByName hfind).1 rfl
    · cases hstep
      exact h
  · split at hstep
    · cases hstep
      exact h
    · cases hstep
      refine h.emit (fun signal hsignal id hspeaks => ?_)
      rcases List.mem_append.mp hsignal with hsignal | hsignal
      · rw [List.mem_singleton.mp hsignal] at hspeaks
        exact hspeaks
      · split at hsignal
        · rw [List.mem_singleton.mp hsignal] at hspeaks
          exact hspeaks
        · cases hsignal

theorem Watched.step (h : Watched s) (hstep : directedSessions.step s e = .ok s') : Watched s' := by
  cases e with
  | addStream sid type initiator =>
      cases hstep
      exact h.addStream sid type initiator
  | stateChanged state sid name =>
      exact (h.backendStateChanged state sid name).mediaStateChanged hstep
  | accept sid name isInitiator =>
      cases hstep
      unfold mediaStreamInfoAccept
      split
      · split
        · exact h
        · rename_i stream hfind
          exact h.setCombinedDirection (mem_of_getStreamByName hfind).1 (Nat.zero_le _)
      · exact h
  | ready id sends =>
      cases hstep
      unfold streamReady
      split
      · exact h
      · rename_i stream hfind
        obtain ⟨hmem, -⟩ := find_id hfind
        split_ifs
        · exact h
        · have hready : Watched (s.setStream { stream with ready := true }) :=
            h.setStream hmem rfl rfl rfl
          refine hready.setCombinedDirection ?_ (Nat.zero_le _)
          exact List.mem_map.mpr ⟨stream, hmem, if_pos rfl⟩
        · exact h.setStream hmem rfl rfl rfl
  | streamState id state =>
      cases hstep
      unfold DirectedSession.streamState
      split
      · exact h
      · rename_i stream hfind
        exact h.setStream (find_id hfind).1 rfl rfl rfl

theorem watched_init : Watched init where
  toDistinct := BackendStreams.distinct_init
  told := by simp [init, BackendStreams.init]
  spoken := by simp [init]

/-- **What the bus knows of the directions** is what `ListStreams` answers, for every stream that
was announced; of the others it knows nothing. -/
theorem listStreams_told (es : List Event) (hrun : directedSessions.run .init es = .ok s) :
    ∀ info ∈ s.listStreams, info.direction = tpMediaStreamDirectionBidirectional ∧
      (Announced s.signals info.id → Mirror.last info.id (directions s.signals) =
        some (info.direction, info.pendingSend)) ∧
      (¬ Announced s.signals info.id → Mirror.last info.id (directions s.signals) = none) := by
  have hwatched : Watched s := Machine.run_invariant
    (fun _ _ _ h (_ : True) hstep => h.step hstep) watched_init
    (Machine.meets_of_forall (fun _ _ => trivial) _) hrun
  intro info hinfo
  obtain ⟨stream, hmem, rfl⟩ := List.mem_map.mp hinfo
  obtain ⟨⟨pending, -, hdirection⟩, hannounced, hlast⟩ := hwatched.told stream hmem
  refine ⟨?_, fun h => ?_, fun h => ?_⟩
  · have hparts := directionParts_make (d := tpMediaStreamDirectionBidirectional) (p := pending)
      (Nat.le_refl _)
    show (directionParts stream.combinedDirection).1 = _
    rw [hdirection, hparts]
  · rw [if_neg (hannounced.mp h)] at hlast
    exact hlast
  · have hzero : stream.watchers = 0 := by
      by_contra hne
      exact h (hannounced.mpr hne)
    rw [if_pos hzero] at hlast
    exact hlast

/-- A stream that the peer has added and the account has accepted. -/
theorem listStreams_told_accepted :
    ∃ s, directedSessions.run .init [.addStream "audio" ⟨true, false⟩ false,
        .stateChanged .new (some "audio") (some "bob"), .accept (some "audio") none false] = .ok s ∧
      Announced s.signals 1 ∧ Mirror.last 1 (directions s.signals) = some (3, 0) := by
  refine ⟨_, rfl, ⟨_, List.mem_cons_self⟩, ?_⟩
  exact (listStreams_told [.addStream "audio" ⟨true, false⟩ false,
    .stateChanged .new (some "audio") (some "bob"), .accept (some "audio") none false] rfl
    ⟨1, 0, .disconnected, 3, 0⟩ List.mem_cons_self).2.1 ⟨_, List.mem_cons_self⟩

/-! ## What is pending -/

/-- The event settles that the account sends: the session of the stream is accepted, or its client
is ready for the first time, in a session that sends. -/
def Clears (s : DirectedSession) (id : Nat) : Event → Prop
  | .accept (some sid) none false => ∃ stream ∈ s.getStreamByName sid, stream.id = id
  | .ready id' true => id' = id ∧ ∃ stream ∈ s.streams, stream.id = id ∧ stream.ready = false
  | _ => False

theorem Clears.exists (h : Clears s id e) : ∃ stream ∈ s.streams, stream.id = id := by
  unfold Clears at h
  split at h
  · obtain ⟨stream, hfind, hid⟩ := h
    exact ⟨stream, (mem_of_getStreamByName hfind).1, hid⟩
  · obtain ⟨-, stream, hmem, hid, -⟩ := h
    exact ⟨stream, hmem, hid⟩
  · exact h.elim

theorem Clears.of_ready {id' : Nat} {sends : Bool} (h : Clears s id (.ready id' sends)) :
    id' = id ∧ ∃ stream ∈ s.streams, stream.id = id ∧ stream.ready = false := by
  cases sends with
  | true => exact h
  | false => exact h.elim

/-- The stream is the old one, and its direction is the old one unless it was cleared. -/
def Continues (cleared : Prop) (old stream : DirectedStream) : Prop :=
  old.id = stream.id ∧ old.createdLocally = stream.createdLocally ∧
    (cleared → stream.combinedDirection =
      makeCombinedDirection tpMediaStreamDirectionBidirectional 0) ∧
    (¬ cleared → stream.combinedDirection = old.combinedDirection)

theorem Continues.refl {cleared : Prop} (h : ¬ cleared) (stream : DirectedStream) :
    Continues cleared stream stream :=
  ⟨rfl, rfl, fun hcleared => absurd hcleared h, fun _ => rfl⟩

/-- A change that leaves the direction alone. -/
theorem setStream_continues {cleared : Nat → Prop} (hcleared : ∀ id, ¬ cleared id)
    {changed : DirectedStream} (hother : other ∈ (s.setStream changed).streams)
    (hmem : stream ∈ s.streams) (hid : changed.id = stream.id)
    (hlocal : changed.createdLocally = stream.createdLocally)
    (hdirection : changed.combinedDirection = stream.combinedDirection) :
    ∃ old ∈ s.streams, Continues (cleared other.id) old other := by
  rcases mem_setStream hother with rfl | ⟨hother, -⟩
  · exact ⟨stream, hmem, hid.symm, hlocal.symm, fun h => absurd h (hcleared _), fun _ => hdirection⟩
  · exact ⟨other, hother, Continues.refl (hcleared _) other⟩

theorem mediaStateChanged_continues {state : PurpleMediaState} {sid name : Option String}
    (cleared : Nat → Prop) (hcleared : ∀ id, ¬ cleared id)
    (hstep : s.mediaStateChanged state sid name = .ok s') (hmem : stream ∈ s'.streams) :
    ∃ old ∈ s.streams, Continues (cleared stream.id) old stream := by
  unfold mediaStateChanged at hstep
  split at hstep
  · cases hstep
    exact ⟨stream, hmem, Continues.refl (hcleared _) stream⟩
  · split at hstep
    · split at hstep
      · cases hstep
      · rename_i announced hfind
        cases hstep
        exact setStream_continues hcleared hmem (mem_of_getStreamByName hfind).1 rfl rfl rfl
    · cases hstep
      exact ⟨stream, hmem, Continues.refl (hcleared _) stream⟩
  · split at hstep
    · cases hstep
      exact ⟨stream, hmem, Continues.refl (hcleared _) stream⟩
    · cases hstep
      exact ⟨stream, hmem, Continues.refl (hcleared _) stream⟩

/-- The direction of a stream is set: it was cleared, and no other. -/
theorem setCombinedDirection_continues (cleared : Nat → Prop) (hstream : stream ∈ s.streams)
    (hcleared : ∀ id, cleared id ↔ id = stream.id)
    (hmem : other ∈ (s.setCombinedDirection stream
      (makeCombinedDirection tpMediaStreamDirectionBidirectional 0)).streams) :
    ∃ old ∈ s.streams, Continues (cleared other.id) old other := by
  rcases mem_setStream hmem with rfl | ⟨hmem, hne⟩
  · exact ⟨stream, hstream, rfl, rfl, fun _ => rfl, fun h => absurd ((hcleared _).mpr rfl) h⟩
  · exact ⟨other, hmem, Continues.refl (fun h => hne ((hcleared _).mp h)) other⟩

/-- Every stream was there before the event, or the event has added it. -/
theorem Watched.continues (h : Watched s) (hstep : directedSessions.step s e = .ok s')
    (hmem : stream ∈ s'.streams) :
    (∃ old ∈ s.streams, Continues (Clears s stream.id e) old stream) ∨
      (stream.id = s.nextStreamId ∧
        stream.combinedDirection = initialDirection stream.createdLocally) := by
  cases e with
  | addStream sid type initiator =>
      cases hstep
      rcases mem_addStream.mp hmem with hold | rfl
      · exact Or.inl ⟨stream, hold, Continues.refl id stream⟩
      · exact Or.inr ⟨rfl, rfl⟩
  | stateChanged state sid name =>
      obtain ⟨old, hold, hcontinues⟩ := mediaStateChanged_continues
        (fun id => Clears s id (.stateChanged state sid name)) (fun _ h => h) hstep hmem
      exact Or.inl ⟨old, mem_of_mem_stateChangedCb hold, hcontinues⟩
  | accept sid name isInitiator =>
      cases hstep
      left
      unfold mediaStreamInfoAccept at hmem
      split at hmem
      · rename_i sid
        split at hmem
        · rename_i hfind
          refine ⟨stream, hmem, Continues.refl ?_ stream⟩
          rintro ⟨other, hother, -⟩
          rw [hfind] at hother
          cases hother
        · rename_i accepted hfind
          refine setCombinedDirection_continues
            (fun id => Clears s id (.accept (some sid) none false))
            (mem_of_getStreamByName hfind).1 (fun id => ?_) hmem
          constructor
          · rintro ⟨other, hother, rfl⟩
            rw [hfind] at hother
            cases hother
            rfl
          · rintro rfl
            exact ⟨accepted, hfind, rfl⟩
      · rename_i hother
        refine ⟨stream, hmem, Continues.refl ?_ stream⟩
        intro hclears
        unfold Clears at hclears
        split at hclears
        · rename_i heq
          cases heq
          exact hother _ rfl rfl rfl
        · rename_i heq
          cases heq
        · exact hclears
  | ready id sends =>
      cases hstep
      left
      unfold streamReady at hmem
      split at hmem
      · rename_i hnone
        refine ⟨stream, hmem, Continues.refl (fun hclears => ?_) stream⟩
        obtain ⟨hid, other, hother, hotherid, -⟩ := Clears.of_ready hclears
        have hne := List.find?_eq_none.mp hnone other hother
        exact hne (decide_eq_true (hotherid.trans hid.symm))
      · rename_i ready hfind
        obtain ⟨hready, hid⟩ := find_id hfind
        split_ifs at hmem with hwas hsends
        · refine ⟨stream, hmem, Continues.refl (fun hclears => ?_) stream⟩
          obtain ⟨hid', other, hother, hotherid, hnot⟩ := Clears.of_ready hclears
          rw [h.eq_of_id hother hready (hotherid.trans (hid'.symm.trans hid.symm)), hwas] at hnot
          cases hnot
        · subst hsends
          have hclears : Clears s ready.id (.ready id true) :=
            ⟨hid.symm, ready, hready, rfl, by simpa using hwas⟩
          rcases mem_setStream hmem with rfl | ⟨hmem, hne⟩
          · exact ⟨ready, hready, rfl, rfl, fun _ => rfl, fun hnot => absurd hclears hnot⟩
          · rcases mem_setStream hmem with rfl | ⟨hmem, -⟩
            · exact absurd rfl hne
            · refine ⟨stream, hmem, Continues.refl (fun hcleared => ?_) stream⟩
              exact hne (hcleared.1.symm.trans hid.symm)
        · obtain rfl : sends = false := by simpa using hsends
          exact setStream_continues (fun _ hclears => hclears) hmem hready rfl rfl rfl
  | streamState id state =>
      cases hstep
      unfold DirectedSession.streamState at hmem
      split at hmem
      · exact Or.inl ⟨stream, hmem, Continues.refl (fun h => h) stream⟩
      · rename_i changed hfind
        obtain ⟨old, hold, hcontinues⟩ := setStream_continues (fun _ h => h) hmem
          (find_id hfind).1 rfl rfl rfl
        exact Or.inl ⟨old, hold, hcontinues⟩

theorem nextStreamId_mono (hstep : directedSessions.step s e = .ok s') :
    s.nextStreamId ≤ s'.nextStreamId := by
  cases e with
  | addStream sid type initiator =>
      cases hstep
      exact Nat.le_succ _
  | stateChanged state sid name =>
      have hbackend : (s.backendStateChanged state sid name).nextStreamId = s.nextStreamId :=
        s.toBackendStreams.nextStreamId_stateChangedCb state sid name
      have hstep : (s.backendStateChanged state sid name).mediaStateChanged state sid name =
        .ok s' := hstep
      rw [← hbackend]
      unfold DirectedSession.mediaStateChanged at hstep
      split at hstep
      · cases hstep
        exact Nat.le_refl _
      · split at hstep
        · split at hstep <;> cases hstep
          exact Nat.le_refl _
        · cases hstep
          exact Nat.le_refl _
      · split at hstep <;> cases hstep <;> exact Nat.le_refl _
  | accept sid name isInitiator =>
      cases hstep
      unfold mediaStreamInfoAccept
      split
      · split <;> exact Nat.le_refl _
      · exact Nat.le_refl _
  | ready id sends =>
      cases hstep
      unfold streamReady
      split
      · exact Nat.le_refl _
      · split_ifs <;> exact Nat.le_refl _
  | streamState id state =>
      cases hstep
      unfold DirectedSession.streamState
      split <;> exact Nat.le_refl _

/-- No event so far has settled that the account sends in the stream. -/
def Uncleared (es : List Event) (id : Nat) : Prop :=
  directedSessions.Meets (fun s e => ¬ Clears s id e) .init es

/-- The invariant about what is pending, with the events so far. -/
structure PendingSince (es : List Event) (s : DirectedSession) : Prop where
  run : directedSessions.run .init es = .ok s
  watched : Watched s
  unborn : ∀ id, s.nextStreamId ≤ id → Uncleared es id
  pending : ∀ stream ∈ s.streams,
    (stream.createdLocally = false ∧ Uncleared es stream.id → stream.combinedDirection =
      makeCombinedDirection tpMediaStreamDirectionBidirectional tpMediaStreamPendingLocalSend) ∧
    (¬ (stream.createdLocally = false ∧ Uncleared es stream.id) → stream.combinedDirection =
      makeCombinedDirection tpMediaStreamDirectionBidirectional 0)

theorem PendingSince.step {es : List Event} (h : PendingSince es s)
    (hstep : directedSessions.step s e = .ok s') : PendingSince (es ++ [e]) s' := by
  have hconcat : ∀ id, Uncleared (es ++ [e]) id ↔ Uncleared es id ∧ ¬ Clears s id e :=
    fun id => Machine.meets_concat h.run
  have hunborn : ∀ id, s.nextStreamId ≤ id → Uncleared (es ++ [e]) id := by
    intro id hid
    refine (hconcat id).mpr ⟨h.unborn id hid, fun hclears => ?_⟩
    obtain ⟨stream, hmem, rfl⟩ := hclears.exists
    exact absurd (h.watched.lt stream hmem) (Nat.not_lt.mpr hid)
  refine ⟨?_, h.watched.step hstep, fun id hid => ?_, fun stream hmem => ?_⟩
  · rw [Machine.run_append_ok [e] h.run]
    exact Machine.run_cons_ok (M := directedSessions) [] hstep
  · exact hunborn id (Nat.le_trans (nextStreamId_mono hstep) hid)
  · rcases h.watched.continues hstep hmem with
      ⟨old, hold, hid, hlocal, hcleared, huncleared⟩ | ⟨hid, hdirection⟩
    · obtain ⟨hpending, hsettled⟩ := h.pending old hold
      rw [hlocal, hid] at hpending hsettled
      rw [hconcat]
      by_cases hclears : Clears s stream.id e
      · refine ⟨fun hboth => absurd hclears hboth.2.2, fun _ => hcleared hclears⟩
      · rw [huncleared hclears]
        exact ⟨fun hboth => hpending ⟨hboth.1, hboth.2.1⟩,
          fun hnot => hsettled (fun hboth => hnot ⟨hboth.1, hboth.2, hclears⟩)⟩
    · -- the event has added the stream
      have huncleared := hunborn stream.id (Nat.le_of_eq hid.symm)
      rw [hdirection]
      cases stream.createdLocally with
      | false => exact ⟨fun _ => rfl, fun hnot => absurd ⟨rfl, huncleared⟩ hnot⟩
      | true => exact ⟨fun hboth => Bool.noConfusion hboth.1, fun _ => rfl⟩

/-- **The account's agreement to send** is pending for the streams that the peer has added, from
their first moment until it is settled, and never again. -/
theorem pendingSend_iff_not_cleared (es : List Event)
    (hrun : directedSessions.run .init es = .ok s) : ∀ stream ∈ s.streams,
    ((mediaStreamInfo stream).pendingSend = tpMediaStreamPendingLocalSend ↔
      stream.createdLocally = false ∧ Uncleared es stream.id) ∧
    ((mediaStreamInfo stream).pendingSend = 0 ↔
      ¬ (stream.createdLocally = false ∧ Uncleared es stream.id)) := by
  have hinv : PendingSince es s := Machine.run_history
    (fun _ _ _ _ h (_ : True) hstep => h.step hstep)
    ⟨rfl, watched_init, fun _ _ => trivial, by simp [init, BackendStreams.init]⟩
    (Machine.meets_of_forall (fun _ _ => trivial) _) hrun
  intro stream hmem
  obtain ⟨hpending, hsettled⟩ := hinv.pending stream hmem
  have hparts : ∀ pending, stream.combinedDirection =
      makeCombinedDirection tpMediaStreamDirectionBidirectional pending →
      (mediaStreamInfo stream).pendingSend = pending := by
    intro pending hdirection
    show (directionParts stream.combinedDirection).2 = pending
    rw [hdirection, directionParts_make (Nat.le_refl _)]
  by_cases hboth : stream.createdLocally = false ∧ Uncleared es stream.id
  · rw [hparts _ (hpending hboth)]
    exact ⟨iff_of_true rfl hboth, iff_of_false (by decide) (not_not_intro hboth)⟩
  · rw [hparts _ (hsettled hboth)]
    exact ⟨iff_of_false (by decide) hboth, iff_of_true rfl hboth⟩

/-- The client is ready while the session does not send; that it is ready again settles nothing. -/
theorem pendingSend_ready_twice :
    ∃ s, directedSessions.run .init [.addStream "audio" ⟨true, false⟩ false,
        .ready 1 false, .ready 1 true] = .ok s ∧
      ∀ stream ∈ s.streams, (mediaStreamInfo stream).pendingSend = 1 ∧
        Uncleared [.addStream "audio" ⟨true, false⟩ false, .ready 1 false, .ready 1 true]
          stream.id := by
  refine ⟨_, rfl, fun stream hmem => ?_⟩
  obtain rfl := List.mem_singleton.mp hmem
  have hiff := (pendingSend_iff_not_cleared [.addStream "audio" ⟨true, false⟩ false,
    .ready 1 false, .ready 1 true] rfl _ hmem).1
  exact ⟨rfl, (hiff.mp rfl).2⟩

/-! ## The session in the channel's own model -/

/-- The streams alone. -/
def toBackend (s : DirectedSession) : HazeMediaBackend := s.named

/-- What the bus hears of a call, where it is about a stream. -/
def heard : MediaCall → Option StreamedMediaSignal
  | .streamAdded id _ mediaType => some (.streamAdded id mediaType)
  | .streamStateChanged id state => some (.streamStateChanged id state)
  | .streamRemoved id => some (.streamRemoved id)
  | _ => none

/-- The signals other than those of directions. -/
def undirected (signals : List StreamedMediaSignal) : List StreamedMediaSignal :=
  signals.filter (fun signal => signal.direction.isNone)

/-- The backend has the streams of the session, and the channel says of them what the session says,
their directions apart. -/
structure Shows (m : MediaSession) (s : DirectedSession) : Prop where
  handlers : m.handlers = [.backend, .channel]
  backend : m.backend = s.toBackend
  signals : m.chan.calls.filterMap heard = undirected s.signals

/-- A stream changes in what the channel's own model does not have. -/
theorem Watched.toBackend_setStream (h : Watched s) {changed : DirectedStream}
    (hmem : stream ∈ s.streams) (hnamed : changed.toNamedStream = stream.toNamedStream) :
    (s.setStream changed).toBackend = s.toBackend :=
  h.toDistinct.named_setStream hmem hnamed

theorem Watched.toBackend_backendStateChanged (h : Watched s) (state : PurpleMediaState)
    (sid name : Option String) :
    (s.backendStateChanged state sid name).toBackend =
      s.toBackend.stateChangedCb state sid name :=
  h.toDistinct.named_stateChangedCb state sid name

theorem announceStream_heard {chan chan' : HazeMediaChannel} {live : List HazeMediaStream}
    {stream : HazeMediaStream} (h : chan.announceStream live stream = .ok chan') :
    chan'.calls.filterMap heard =
      chan.calls.filterMap heard ++ [.streamAdded stream.id stream.mediaType] := by
  unfold HazeMediaChannel.announceStream at h
  split at h
  · cases h
  · rename_i requests calls hloop
    cases h
    have hnone : calls.filterMap heard = [] := by
      refine List.filterMap_eq_nil_iff.mpr (fun c hc => ?_)
      obtain ⟨context, streams, rfl⟩ := HazeMediaChannel.satisfyRequests_succeeded hloop c hc
      rfl
    show (chan.calls ++ (calls ++ [_])).filterMap heard = _
    rw [List.filterMap_append, List.filterMap_append, hnone, List.nil_append]
    rfl

/-- The channel hears of a state, and both models say the same of the streams. -/
theorem Watched.mediaStateChanged_shows (h : Watched s) {chan chan' : HazeMediaChannel}
    {state : PurpleMediaState} {sid name : Option String}
    (hsignals : chan.calls.filterMap heard = undirected s.signals)
    (hchan : chan.mediaStateChangedCb s.toBackend state sid name = .ok chan')
    (hstep : s.mediaStateChanged state sid name = .ok s') :
    s'.toBackend = s.toBackend ∧ chan'.calls.filterMap heard = undirected s'.signals := by
  have hquiet : ∀ c : MediaCall, c.quiet = true → heard c = none := by
    intro c hc
    cases c <;> first | rfl | cases hc
  cases sid with
  | none =>
      -- at most the session ends, and nothing is said of the streams
      cases hstep
      refine ⟨rfl, ?_⟩
      rw [← hsignals]
      rcases state with _ | _ | _ <;> rcases name with _ | name <;> cases hchan <;> try rfl
      exact (HazeMediaChannel.quiet_sessionEnd chan).filterMap_eq hquiet
  | some sid =>
      cases name with
      | some name =>
          rcases state with _ | _ | _
          · simp only [HazeMediaChannel.mediaStateChangedCb, HazeMediaChannel.stateNew,
              toBackend, BackendStreams.named_getStreamByName,
              DirectedSession.mediaStateChanged] at hchan hstep
            cases hfind : s.getStreamByName sid with
            | none =>
                rw [hfind] at hchan
                cases hchan
            | some stream =>
                rw [hfind] at hchan hstep
                cases hstep
                refine ⟨h.toBackend_setStream (mem_of_getStreamByName hfind).1 rfl, ?_⟩
                rw [Option.map_some] at hchan
                split at hchan
                · cases hchan
                · rename_i announced hannounce
                  cases hchan
                  show announced.calls.filterMap heard = undirected (s.signals ++ [_, _])
                  rw [announceStream_heard hannounce, hsignals, undirected, undirected,
                    List.filter_append]
                  rfl
          · cases hchan
            cases hstep
            exact ⟨rfl, hsignals⟩
          · cases hchan
            cases hstep
            exact ⟨rfl, hsignals⟩
      | none =>
          have hbackend : s.toBackend.getStreamByName sid = _ :=
            s.toBackendStreams.named_getStreamByName sid
          cases hfind : s.getStreamByName sid with
          | none =>
              rw [hfind, Option.map_none] at hbackend
              rcases state with _ | _ | _ <;>
                simp only [HazeMediaChannel.mediaStateChangedCb, HazeMediaChannel.stateNew,
                  HazeMediaChannel.stateOfSession, HazeMediaChannel.stateEnd, hbackend,
                  DirectedSession.mediaStateChanged, hfind] at hchan hstep <;>
                cases hchan <;> cases hstep <;> exact ⟨rfl, hsignals⟩
          | some stream =>
              rw [hfind, Option.map_some] at hbackend
              simp only [DirectedSession.mediaStateChanged, hfind] at hstep
              cases hstep
              refine ⟨rfl, ?_⟩
              show _ = undirected (s.signals ++ _)
              rw [undirected, List.filter_append, ← undirected, ← hsignals]
              rcases state with _ | _ | _ <;>
                simp only [HazeMediaChannel.mediaStateChangedCb, HazeMediaChannel.stateNew,
                  HazeMediaChannel.stateOfSession, HazeMediaChannel.stateEnd, hbackend] at hchan <;>
                cases hchan
              · exact List.filterMap_append
              · exact List.filterMap_append
              · show (chan.calls ++ [_] ++ [_]).filterMap heard = _
                rw [List.append_assoc]
                exact List.filterMap_append

/-- The event in the channel's own model, which knows nothing of directions. -/
def Event.onSession : Event → Option MediaSession.Event
  | .addStream sid type _ => some (.addStream sid type)
  | .stateChanged state sid name => some (.stateChanged state sid name)
  | _ => none

theorem Watched.undirected_setCombinedDirection (h : Watched s) (hmem : stream ∈ s.streams)
    (d : Nat) : (s.setCombinedDirection stream d).toBackend = s.toBackend ∧
      undirected (s.setCombinedDirection stream d).signals = undirected s.signals := by
  refine ⟨h.toBackend_setStream hmem rfl, ?_⟩
  show undirected (s.signals ++ List.replicate _ _) = _
  rw [undirected, List.filter_append, List.filter_replicate]
  exact List.append_nil _

/-- An event that the channel's own model does not have. -/
theorem Watched.step_unseen (h : Watched s) (he : e.onSession = none)
    (hstep : directedSessions.step s e = .ok s') :
    s'.toBackend = s.toBackend ∧ undirected s'.signals = undirected s.signals := by
  cases e with
  | addStream sid type initiator => cases he
  | stateChanged state sid name => cases he
  | accept sid name isInitiator =>
      cases hstep
      unfold mediaStreamInfoAccept
      split
      · split
        · exact ⟨rfl, rfl⟩
        · rename_i stream hfind
          exact h.undirected_setCombinedDirection (mem_of_getStreamByName hfind).1 _
      · exact ⟨rfl, rfl⟩
  | ready id sends =>
      cases hstep
      unfold streamReady
      split
      · exact ⟨rfl, rfl⟩
      · rename_i stream hfind
        obtain ⟨hmem, -⟩ := find_id hfind
        split_ifs
        · exact ⟨rfl, rfl⟩
        · have hready : Watched (s.setStream { stream with ready := true }) :=
            h.setStream hmem rfl rfl rfl
          have hstays : (s.setStream { stream with ready := true }).toBackend = s.toBackend :=
            h.toBackend_setStream hmem rfl
          obtain ⟨hbackend, hsignals⟩ := hready.undirected_setCombinedDirection
            (List.mem_map.mpr ⟨stream, hmem, if_pos rfl⟩)
            (makeCombinedDirection tpMediaStreamDirectionBidirectional 0)
          exact ⟨hbackend.trans hstays, hsignals⟩
        · exact ⟨h.toBackend_setStream hmem rfl, rfl⟩
  | streamState id state =>
      cases hstep
      unfold DirectedSession.streamState
      split
      · exact ⟨rfl, rfl⟩
      · rename_i stream hfind
        exact ⟨h.toBackend_setStream (find_id hfind).1 rfl, rfl⟩

/-- An event that both have. -/
theorem Shows.step {m m' : MediaSession} {e' : MediaSession.Event} (hs : Shows m s) (h : Watched s)
    (he : e.onSession = some e') (hsession : mediaSessions.step m e' = .ok m')
    (hstep : directedSessions.step s e = .ok s') : Shows m' s' := by
  obtain ⟨hhandlers, hbackend, hsignals⟩ := hs
  cases e with
  | addStream sid type initiator =>
      cases he
      cases hsession
      cases hstep
      refine ⟨hhandlers, ?_, hsignals⟩
      rw [hbackend]
      exact (BackendStreams.named_addStream _ sid type (fun _ => rfl)).symm
  | stateChanged state sid name =>
      cases he
      have hsession : m.emitStateChanged state sid name = .ok m' := hsession
      rw [MediaSession.emitStateChanged_eq hhandlers, hbackend,
        ← h.toBackend_backendStateChanged] at hsession
      split at hsession
      · cases hsession
      · rename_i chan hchan
        cases hsession
        obtain ⟨hback, hsig⟩ := (h.backendStateChanged state sid name).mediaStateChanged_shows
          hsignals hchan hstep
        exact ⟨hhandlers, hback.symm, hsig⟩
  | accept sid name isInitiator => cases he
  | ready id sends => cases he
  | streamState id state => cases he

/-- **The directions refine the channel's own model**: over every run, what is said of the streams
besides is what that model says. -/
theorem shows_run {chan : HazeMediaChannel} (hfresh : chan.calls.filterMap heard = [])
    {es : List Event} {m : MediaSession} (hrun : directedSessions.run .init es = .ok s)
    (hsession : mediaSessions.run (MediaSession.new chan).latchToSession
      (es.filterMap Event.onSession) = .ok m) : Shows m s := by
  have hinv : Watched s ∧ ∀ m, mediaSessions.run (MediaSession.new chan).latchToSession
      (es.filterMap Event.onSession) = .ok m → Shows m s := by
    refine Machine.run_history (M := directedSessions)
      (I := fun es s => Watched s ∧ ∀ m, mediaSessions.run (MediaSession.new chan).latchToSession
        (es.filterMap Event.onSession) = .ok m → Shows m s)
      (fun es s e s' hs (_ : True) hstep => ?_) ⟨watched_init, fun m hm => ?_⟩
      (Machine.meets_of_forall (fun _ _ => trivial) _) hrun
    · obtain ⟨hw, hs⟩ := hs
      refine ⟨hw.step hstep, fun m' hm' => ?_⟩
      rw [List.filterMap_append] at hm'
      cases he : e.onSession with
      | none =>
          rw [show [e].filterMap Event.onSession = [] by simp [he], List.append_nil] at hm'
          obtain ⟨hhandlers, hbackend, hsignals⟩ := hs m' hm'
          obtain ⟨hbackend', hsignals'⟩ := hw.step_unseen he hstep
          exact ⟨hhandlers, hbackend.trans hbackend'.symm, hsignals.trans hsignals'.symm⟩
      | some e' =>
          rw [show [e].filterMap Event.onSession = [e'] by simp [he],
            Machine.run_concat_ok] at hm'
          obtain ⟨m, hm, hst⟩ := hm'
          exact (hs m hm).step hw he hst hstep
    · cases hm
      exact ⟨rfl, rfl, hfresh⟩
  exact hinv.2 m hsession

end DirectedSession

end Haze
