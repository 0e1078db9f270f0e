import Haze.Basic.Numbered
import Haze.Media.Streams

set_option autoImplicit false

/-! # `media-backend.c` as a session handler

libpurple adds streams to the backend and takes them out again. The backend is the
`Media.SessionHandler` of the channel as well: it tells the streaming client about its streams with
`NewStreamHandler`, about those that are there when the client calls `Ready`, and from then on
about each one that is added. How the client gets through a NAT is read from the parameters of the
stream.
-/

namespace Haze

/-! ## The parameters of a stream -/

/-- A `GParameter`, as far as its value is asked for. -/
structure GParameter where
  name : String
  /-- the value of a `G_TYPE_UINT` -/
  uint : Option Nat
  /-- the value of a `G_TYPE_STRING` -/
  string : Option (Option String)
  deriving DecidableEq

/-- What `haze_media_backend_add_stream` reads from the parameters. -/
structure NatParameters where
  natTraversal : Option String
  stunServer : Option String
  stunPort : Nat
  deriving DecidableEq

/-- The traversal for a "compatibility-mode". -/
def natTraversalOf : Nat → Option String
  | 0 => some "ice-udp"
  | 1 => some "gtalk-p2p"
  | 2 => some "wlm-8.5"
  | 3 => some "wlm-2009"
  | _ => none

namespace GParameter

/-- A "compatibility-mode". -/
def compatibilityMode (param : GParameter) : Option Nat :=
  if param.name = "compatibility-mode" then param.uint else none

/-- A "stun-ip". -/
def stunIp (param : GParameter) : Option (Option String) :=
  if param.name = "stun-ip" then param.string else none

/-- A "stun-port". -/
def stunPort (param : GParameter) : Option Nat :=
  if param.name = "stun-port" then param.uint else none

end GParameter

/-- One round of the loop over the parameters. -/
def readParameter (read : NatParameters) (param : GParameter) : Except Fault NatParameters :=
  match param.compatibilityMode, param.stunIp, param.stunPort with
  | some mode, _, _ =>
      match natTraversalOf mode with
      | some traversal => .ok { read with natTraversal := some traversal }
      | none => .error .assertion
  | none, some server, _ => .ok { read with stunServer := server }
  | none, none, some port => .ok { read with stunPort := port }
  | none, none, none => .ok read

/-- The parameters of a stream, for its transmitter. 3478 is the "default stun port". -/
def natParameters (transmitter : String) (params : List GParameter) : Except Fault NatParameters :=
  if transmitter = "nice" then
    (params.foldlM readParameter ⟨none, none, 3478⟩).map (fun read =>
      { read with natTraversal := some (read.natTraversal.getD "ice-udp") })
  else if transmitter = "rawudp" then .ok ⟨some "none", none, 3478⟩
  else .error .assertion

/-- `haze_media_stream_add_stun_server`, on a stream without servers. -/
def addStunServer (stunIp : Option String) (stunPort : Nat) : List (String × Nat) :=
  match stunIp with
  | none => []
  | some ip => if ip = "" then [] else if stunPort > 65535 then [] else [(ip, stunPort)]

/-! ## The handler -/

/-- A stream on the bus. -/
structure HandledStream extends NamedStream where
  objectPath : String
  peer : String
  createdLocally : Bool
  natTraversal : Option String
  stunServers : List (String × Nat)
  deriving DecidableEq

instance : BackendStream HandledStream := ⟨HandledStream.toNamedStream⟩

/-- `NewStreamHandler`; all streams are bidirectional in it. -/
structure NewStreamHandler where
  objectPath : String
  id : Nat
  mediaType : Nat
  deriving DecidableEq

/-- A `HazeMediaBackend` with its streams, and the signals it has emitted. -/
structure MediaSessionHandler extends BackendStreams HandledStream where
  objectPath : String
  ready : Bool
  emitted : List NewStreamHandler

namespace MediaSessionHandler

/-- `haze_media_backend_init`, at an object path. -/
def init (objectPath : String) : MediaSessionHandler where
  toBackendStreams := .init
  objectPath := objectPath
  ready := false
  emitted := []

/-- The object path of a stream: `%s/MediaStream%u` -/
def streamPath (objectPath : String) (id : Nat) : String :=
  objectPath ++ "/MediaStream" ++ toString id

/-- `_emit_new_stream` -/
def emitNewStream (s : MediaSessionHandler) (stream : HandledStream) : MediaSessionHandler :=
  { s with emitted := s.emitted ++ [⟨stream.objectPath, guint stream.id, stream.mediaType⟩] }

/-- `haze_media_stream_new`, and the server that the stream is given then. -/
def hazeMediaStreamNew (objectPath who : String) (initiator : Bool) (read : NatParameters)
    (stream : NamedStream) : HandledStream :=
  { stream with
    objectPath := streamPath objectPath (guint stream.id)
    peer := who
    createdLocally := initiator
    natTraversal := read.natTraversal
    stunServers := addStunServer read.stunServer read.stunPort }

/-- `haze_media_backend_add_stream` -/
def addStream (s : MediaSessionHandler) (sid who : String) (type : PurpleMediaSessionType)
    (initiator : Bool) (transmitter : String) (params : List GParameter) :
    Except Fault MediaSessionHandler := do
  let read ← natParameters transmitter params
  let new := hazeMediaStreamNew s.objectPath who initiator read
  let stream := new (s.newStream sid type)
  let s := { s with toBackendStreams := s.toBackendStreams.addStream sid type new }
  return if s.ready then s.emitNewStream stream else s

/-- `haze_backend_state_changed_cb` -/
def stateChangedCb (s : MediaSessionHandler) (state : PurpleMediaState)
    (sid name : Option String) : MediaSessionHandler :=
  { s with toBackendStreams := s.toBackendStreams.stateChangedCb state sid name }

/-- `haze_media_backend_ready` -/
def handleReady (s : MediaSessionHandler) : MediaSessionHandler :=
  if s.ready then s else s.streams.foldl emitNewStream { s with ready := true }

/-- What happens to the handler. -/
inductive SessionEvent where
  | addStream (sid who : String) (type : PurpleMediaSessionType) (initiator : Bool)
      (transmitter : String) (params : List GParameter)
  | stateChanged (state : PurpleMediaState) (sid name : Option String)
  | ready

/-- The handler as a machine. -/
def handling : Machine MediaSessionHandler SessionEvent Fault where
  step
    | s, .addStream sid who type initiator transmitter params =>
        s.addStream sid who type initiator transmitter params
    | s, .stateChanged state sid name => .ok (s.stateChangedCb state sid name)
    | s, .ready => .ok s.handleReady

/-- The streams alone. -/
def toBackend (s : MediaSessionHandler) : HazeMediaBackend := s.named

/-! ## The invariant -/

/-- The signal about a stream. -/
def signalOf (stream : HandledStream) : NewStreamHandler :=
  ⟨stream.objectPath, guint stream.id, stream.mediaType⟩

/-- The sid of a stream that an event adds. -/
def SessionEvent.addedSid : SessionEvent → Option String
  | .addStream sid _ _ _ _ _ => some sid
  | _ => none

/-- **The invariant.** The streams have numbers of their own, and are at the paths of their ids. -/
structure Handles (s : MediaSessionHandler) : Prop extends
    BackendStreams.Distinct s.toBackendStreams where
  path : ∀ stream ∈ s.streams, stream.objectPath = streamPath s.objectPath (guint stream.id)

variable {s s' : MediaSessionHandler} {path : String}

theorem handles_init (objectPath : String) : Handles (init objectPath) where
  toDistinct := BackendStreams.distinct_init
  path _ h := by cases h

/-- What a stream that is added leaves behind. -/
theorem addStream_spec {sid who : String} {type : PurpleMediaSessionType} {initiator : Bool}
    {transmitter : String} {params : List GParameter}
    (h : s.addStream sid who type initiator transmitter params = .ok s') :
    ∃ read, natParameters transmitter params = .ok read ∧
      s' = { s with
        toBackendStreams := s.toBackendStreams.addStream sid type
          (hazeMediaStreamNew s.objectPath who initiator read)
        emitted := s.emitted ++ if s.ready then
          [signalOf (hazeMediaStreamNew s.objectPath who initiator read (s.newStream sid type))]
          else [] } := by
  obtain ⟨read, hread, h⟩ := Except.bind_eq_ok.mp h
  cases h
  refine ⟨read, hread, ?_⟩
  cases hready : s.ready with
  | false => simp
  | true => simp [emitNewStream, signalOf]

theorem foldl_emitNewStream (streams : List HandledStream) (s : MediaSessionHandler) :
    streams.foldl emitNewStream s = { s with emitted := s.emitted ++ streams.map signalOf } := by
  induction streams generalizing s with
  | nil => simp
  | cons stream streams ih =>
      rw [List.foldl_cons, ih]
      simp [emitNewStream, signalOf]

/-- The first `Ready` signals the streams that are there. -/
theorem handleReady_of_not_ready (h : s.ready = false) :
    s.handleReady = { s with ready := true, emitted := s.emitted ++ s.streams.map signalOf } := by
  rw [handleReady, h, if_neg Bool.false_ne_true, foldl_emitNewStream]

theorem Handles.addStream (hs : s.Handles) {sid who : String} {type : PurpleMediaSessionType}
    {initiator : Bool} {transmitter : String} {params : List GParameter}
    (h : s.addStream sid who type initiator transmitter params = .ok s') : s'.Handles := by
  obtain ⟨read, -, rfl⟩ := addStream_spec h
  refine ⟨hs.toDistinct.addStream sid type (fun _ => rfl), fun stream hmem => ?_⟩
  rcases BackendStreams.mem_addStream.mp hmem with hold | rfl
  · exact hs.path stream hold
  · rfl

theorem Handles.step (hs : s.Handles) {e : SessionEvent} (h : handling.step s e = .ok s') :
    s'.Handles := by
  cases e with
  | addStream sid who type initiator transmitter params => exact hs.addStream h
  | stateChanged state sid name =>
      cases h
      exact
        { toDistinct := hs.toDistinct.stateChangedCb state sid name
          path := fun stream hmem =>
            hs.path stream (BackendStreams.mem_of_mem_stateChangedCb hmem) }
  | ready =>
      cases h
      cases hready : s.ready with
      | true =>
          rw [handleReady, if_pos hready]
          exact hs
      | false =>
          rw [handleReady_of_not_ready hready]
          exact { toDistinct := hs.toDistinct, path := hs.path }

theorem Handles.run (hs : s.Handles) {events : List SessionEvent}
    (hrun : handling.run s events = .ok s') : s'.Handles :=
  Machine.run_invariant (fun _ _ _ hs (_ : True) hstep => hs.step hstep) hs
    (Machine.meets_of_forall (fun _ _ => trivial) s) hrun

/-! ## What the client hears -/

/-- Nothing is signalled before `Ready`, and the handler stays where it is. -/
theorem unheard_step (hs : s.ready = false ∧ s.emitted = [] ∧ s.objectPath = path)
    {e : SessionEvent} (he : e ≠ .ready) (h : handling.step s e = .ok s') :
    s'.ready = false ∧ s'.emitted = [] ∧ s'.objectPath = path := by
  obtain ⟨hready, hemitted, hpath⟩ := hs
  cases e with
  | addStream sid who type initiator transmitter params =>
      obtain ⟨read, -, rfl⟩ := addStream_spec h
      refine ⟨hready, ?_, hpath⟩
      rw [hemitted, hready, if_neg Bool.false_ne_true, List.append_nil]
  | stateChanged state sid name =>
      cases h
      exact ⟨hready, hemitted, hpath⟩
  | ready => exact absurd rfl he

/-- After the first `Ready` in the state `start`, some events on: the streams of these events are
`added`, and they have been signalled one after another. -/
structure Told (start : MediaSessionHandler) (events : List SessionEvent)
    (added : List HandledStream) (s : MediaSessionHandler) : Prop where
  ready : s.ready = true
  objectPath : s.objectPath = start.objectPath
  emitted : s.emitted = (start.streams ++ added).map signalOf
  names : added.map (·.name) = events.filterMap SessionEvent.addedSid
  ids : added.map (·.id) = List.range' start.nextStreamId added.length
  next : s.nextStreamId = start.nextStreamId + added.length
  path : ∀ stream ∈ added, stream.objectPath = streamPath start.objectPath (guint stream.id)
  live : ∀ stream ∈ s.streams, stream ∈ start.streams ++ added

variable {start : MediaSessionHandler} {events : List SessionEvent} {added : List HandledStream}

theorem Told.step (hs : Told start events added s) {e : SessionEvent}
    (h : handling.step s e = .ok s') : ∃ added', Told start (events ++ [e]) added' s' := by
  cases e with
  | addStream sid who type initiator transmitter params =>
      obtain ⟨read, -, rfl⟩ := addStream_spec h
      let stream := hazeMediaStreamNew s.objectPath who initiator read (s.newStream sid type)
      refine ⟨added ++ [stream],
        { ready := hs.ready
          objectPath := hs.objectPath
          emitted := ?_
          names := ?_
          ids := ?_
          next := ?_
          path := fun stream' hmem => ?_
          live := fun stream' hmem => ?_ }⟩
      · show s.emitted ++ (if s.ready then [signalOf stream] else []) = _
        rw [hs.ready, if_pos rfl, hs.emitted]
        simp only [List.map_append, List.map_singleton, List.append_assoc]
      · rw [List.map_append, List.filterMap_append, hs.names, List.map_singleton]
        rfl
      · have hid : stream.id = start.nextStreamId + added.length := hs.next
        rw [List.map_append, List.map_singleton, hs.ids, hid, List.length_append,
          List.length_singleton, List.range'_concat, Nat.one_mul]
      · show s.nextStreamId + 1 = _
        rw [hs.next, List.length_append, List.length_singleton, Nat.add_assoc]
      · rcases List.mem_append.mp hmem with hmem | hmem
        · exact hs.path stream' hmem
        · rw [List.mem_singleton.mp hmem, ← hs.objectPath]
          rfl
      · rw [← List.append_assoc]
        rcases List.mem_append.mp hmem with hmem | hmem
        · exact List.mem_append_left _ (hs.live stream' hmem)
        · exact List.mem_append_right _ hmem
  | stateChanged state sid name =>
      cases h
      refine ⟨added, ?_⟩
      exact
        { hs with
          names := by
            rw [hs.names, List.filterMap_append]
            exact (List.append_nil _).symm
          next := (BackendStreams.nextStreamId_stateChangedCb _ _ _ _).trans hs.next
          live := fun stream hmem =>
            hs.live stream (BackendStreams.mem_of_mem_stateChangedCb hmem) }
  | ready =>
      cases h
      refine ⟨added, ?_⟩
      rw [handleReady, if_pos hs.ready]
      exact
        { hs with
          names := by
            rw [hs.names, List.filterMap_append]
            exact (List.append_nil _).symm }

theorem Told.run (hs : Told start [] [] s) (hrun : handling.run s events = .ok s') :
    ∃ added, Told start events added s' := by
  refine Machine.run_history (M := handling)
    (I := fun events s => ∃ added, Told start events added s)
    (fun events s e s' hs (_ : True) hstep => ?_) ⟨[], hs⟩
    (Machine.meets_of_forall (fun _ _ => trivial) s) hrun
  obtain ⟨added, hs⟩ := hs
  exact hs.step hstep

/-- The streams that were there and those that were added have ids of their own. -/
theorem Told.nodup (hs : Told start events added s) (hstart : start.Handles) :
    ((start.streams ++ added).map (·.id)).Nodup := by
  rw [List.map_append, hs.ids]
  refine List.nodup_append.mpr ⟨hstart.nodup, List.nodup_range', fun id hmem id' hmem' => ?_⟩
  obtain ⟨stream, hstream, rfl⟩ := List.mem_map.mp hmem
  have hlt : stream.id < start.nextStreamId := hstart.lt stream hstream
  have hle := (List.mem_range'_1.mp hmem').1
  omega

/-- Their ids were given out. -/
theorem Told.lt (hs : Told start events added s) (hstart : start.Handles) {stream : HandledStream}
    (hmem : stream ∈ start.streams ++ added) : stream.id < s.nextStreamId := by
  rw [hs.next]
  rcases List.mem_append.mp hmem with hmem | hmem
  · have hlt : stream.id < start.nextStreamId := hstart.lt stream hmem
    omega
  · have hid : stream.id ∈ added.map (·.id) := List.mem_map_of_mem hmem
    rw [hs.ids] at hid
    exact (List.mem_range'_1.mp hid).2

/-- The counter goes by the streams that are added. -/
theorem nextStreamId_run (hrun : handling.run s events = .ok s') :
    s'.nextStreamId = s.nextStreamId + (events.filterMap SessionEvent.addedSid).length := by
  refine Machine.run_history (M := handling)
    (I := fun events t =>
      t.nextStreamId = s.nextStreamId + (events.filterMap SessionEvent.addedSid).length)
    (fun events t e t' ht (_ : True) hstep => ?_) rfl
    (Machine.meets_of_forall (fun _ _ => trivial) s) hrun
  rw [List.filterMap_append, List.length_append, ← Nat.add_assoc, ← ht]
  cases e with
  | addStream sid who type initiator transmitter params =>
      obtain ⟨read, -, rfl⟩ := addStream_spec hstep
      rfl
  | stateChanged state sid name =>
      cases hstep
      exact BackendStreams.nextStreamId_stateChangedCb _ _ _ _
  | ready =>
      cases hstep
      cases hready : t.ready with
      | true =>
          rw [handleReady, if_pos hready]
          rfl
      | false =>
          rw [handleReady_of_not_ready hready]
          rfl

theorem streamPath_injective (objectPath : String) :
    Function.Injective (streamPath objectPath) :=
  Numbered.append_toString_injective (objectPath ++ "/MediaStream")

/-- **The client hears of every stream once.** Before the client's first `Ready` it hears of no
stream; with it, of those that are there, in order; and after it, of each one that is added, at
once, whichever streams end meanwhile and however often `Ready` is called again. No stream is there
that the client has not heard of, and no id and no object path is signalled twice, unless the
backend has run out of ids. -/
theorem newStreamHandler_once {path : String} {before after : List SessionEvent}
    {s s' : MediaSessionHandler} (hfirst : SessionEvent.ready ∉ before)
    (hs : handling.run (init path) before = .ok s)
    (hs' : handling.run s (.ready :: after) = .ok s') :
    s.emitted = [] ∧
    (∃ added : List HandledStream,
      added.map (·.name) = after.filterMap SessionEvent.addedSid ∧
      s'.emitted = (s.streams ++ added).map signalOf ∧
      ∀ stream ∈ s'.streams, stream ∈ s.streams ++ added) ∧
    (((before ++ after).filterMap SessionEvent.addedSid).length < 2 ^ 32 →
      (s'.emitted.map (·.id)).Nodup ∧ (s'.emitted.map (·.objectPath)).Nodup) := by
  have hhandles := (handles_init path).run hs
  obtain ⟨hready, hemitted, hpath⟩ :
      s.ready = false ∧ s.emitted = [] ∧ s.objectPath = path :=
    Machine.run_invariant (M := handling)
      (I := fun s => s.ready = false ∧ s.emitted = [] ∧ s.objectPath = path)
      (fun _ _ _ hs (he : _ ≠ SessionEvent.ready) h => unheard_step hs he h) ⟨rfl, rfl, rfl⟩
      (Machine.meets_of_forall (fun _ he => ne_of_mem_of_not_mem he hfirst) _) hs
  have hafter : s'.nextStreamId =
      s.nextStreamId + (after.filterMap SessionEvent.addedSid).length := by
    rw [nextStreamId_run hs', List.filterMap_cons_none rfl]
  have hstep : handling.step s .ready = .ok s.handleReady := rfl
  rw [handling.run_cons_ok after hstep, handleReady_of_not_ready hready] at hs'
  have hbegin : Told s [] []
      { s with ready := true, emitted := s.emitted ++ s.streams.map signalOf } :=
    { ready := rfl
      objectPath := rfl
      emitted := by rw [hemitted, List.append_nil, List.nil_append]
      names := rfl
      ids := rfl
      next := rfl
      path := fun _ hmem => absurd hmem List.not_mem_nil
      live := fun stream hmem => List.mem_append_left _ hmem }
  obtain ⟨added, htold⟩ := hbegin.run hs'
  refine ⟨hemitted, ⟨added, htold.names, htold.emitted, htold.live⟩, fun hfew => ?_⟩
  -- the ids that were given out are below the counter, which has not wrapped
  have hnext : s'.nextStreamId ≤ 2 ^ 32 := by
    have hbefore : s.nextStreamId = 1 + (before.filterMap SessionEvent.addedSid).length :=
      nextStreamId_run hs
    rw [List.filterMap_append, List.length_append] at hfew
    omega
  have hguint : ∀ stream ∈ s.streams ++ added, guint stream.id = stream.id :=
    fun stream hmem => guint_of_lt (Nat.lt_of_lt_of_le (htold.lt hhandles hmem) hnext)
  have hids : s'.emitted.map (·.id) = (s.streams ++ added).map (·.id) := by
    rw [htold.emitted, List.map_map]
    exact List.map_congr_left hguint
  have hnodup : (s'.emitted.map (·.id)).Nodup := by
    rw [hids]
    exact htold.nodup hhandles
  have hpaths : s'.emitted.map (·.objectPath) = (s'.emitted.map (·.id)).map (streamPath path) := by
    rw [htold.emitted, List.map_map, List.map_map, List.map_map]
    refine List.map_congr_left fun stream hmem => ?_
    rw [← hpath]
    rcases List.mem_append.mp hmem with hmem | hmem
    · exact hhandles.path stream hmem
    · exact htold.path stream hmem
  refine ⟨hnodup, ?_⟩
  rw [hpaths]
  exact hnodup.map (streamPath_injective path)

/-- Two streams before `Ready`, of which one ends, and one after it. -/
theorem newStreamHandler_once_run :
    ∃ s s' : MediaSessionHandler,
      s.streams.map (·.name) = ["video"] ∧ s'.emitted.map (·.id) = [2, 3] ∧
      s.emitted = [] ∧
      (∃ added : List HandledStream, added.map (·.name) = ["file"] ∧
        s'.emitted = (s.streams ++ added).map signalOf ∧
        ∀ stream ∈ s'.streams, stream ∈ s.streams ++ added) ∧
      (s'.emitted.map (·.id)).Nodup ∧ (s'.emitted.map (·.objectPath)).Nodup := by
  obtain ⟨hnothing, htold, hnodup⟩ := @newStreamHandler_once "/chan"
    [.addStream "audio" "peer" ⟨true, false⟩ true "rawudp" [],
     .addStream "video" "peer" ⟨false, true⟩ true "rawudp" [],
     .stateChanged .end (some "audio") none]
    [.addStream "file" "peer" ⟨true, false⟩ false "rawudp" [],
     .ready, .stateChanged .end (some "video") none]
    _ _ (by simp) rfl rfl
  exact ⟨_, _, rfl, rfl, hnothing, htold, hnodup (by decide)⟩

/-! ## The streams alone -/

/-- An event, for the streams alone. -/
def SessionEvent.onBackend (b : HazeMediaBackend) : SessionEvent → HazeMediaBackend
  | .addStream sid _ type _ _ _ => b.addStream sid type
  | .stateChanged state sid name => b.stateChangedCb state sid name
  | .ready => b

theorem toBackend_addStream {sid who : String} {type : PurpleMediaSessionType}
    {initiator : Bool} {transmitter : String} {params : List GParameter}
    (h : s.addStream sid who type initiator transmitter params = .ok s') :
    s'.toBackend = s.toBackend.addStream sid type := by
  obtain ⟨read, -, rfl⟩ := addStream_spec h
  exact BackendStreams.named_addStream _ sid type (fun _ => rfl)

theorem toBackend_stateChangedCb (hs : s.Handles) (state : PurpleMediaState)
    (sid name : Option String) :
    (s.stateChangedCb state sid name).toBackend = s.toBackend.stateChangedCb state sid name :=
  hs.toDistinct.named_stateChangedCb state sid name

/-- The handler's streams are those of the backend that the channel looks into. -/
theorem toBackend_run {events : List SessionEvent}
    (hrun : handling.run (init path) events = .ok s) :
    s.toBackend = events.foldl SessionEvent.onBackend HazeMediaBackend.init := by
  suffices s.Handles ∧ s.toBackend = events.foldl SessionEvent.onBackend HazeMediaBackend.init from
    this.2
  refine Machine.run_history (M := handling)
    (I := fun events s => s.Handles ∧
      s.toBackend = events.foldl SessionEvent.onBackend HazeMediaBackend.init)
    (fun events s e s' hs (_ : True) hstep => ?_) ⟨handles_init path, rfl⟩
    (Machine.meets_of_forall (fun _ _ => trivial) _) hrun
  obtain ⟨hs, hbackend⟩ := hs
  refine ⟨hs.step hstep, ?_⟩
  rw [List.foldl_append, ← hbackend, List.foldl_cons, List.foldl_nil]
  cases e with
  | addStream sid who type initiator transmitter params => exact toBackend_addStream hstep
  | stateChanged state sid name =>
      cases hstep
      exact toBackend_stateChangedCb hs state sid name
  | ready =>
      cases hstep
      show s.handleReady.toBackend = s.toBackend
      cases hready : s.ready with
      | true => rw [handleReady, if_pos hready]
      | false => rw [handleReady_of_not_ready hready]; rfl

/-! ## What the parameters say -/

/-- The last element of a list that says something. -/
def lastOf {α β : Type*} (f : α → Option β) (l : List α) : Option β := (l.filterMap f).getLast?

theorem lastOf_concat {α β : Type*} (f : α → Option β) (l : List α) (a : α) :
    lastOf f (l ++ [a]) = (f a).or (lastOf f l) := by
  rw [lastOf, List.filterMap_append]
  cases h : f a with
  | none => simp [h, lastOf]
  | some b => simp [h]

/-- What a list of parameters says: the last of each name that is of the right type counts. -/
def parametersRead (params : List GParameter) : NatParameters where
  natTraversal := (lastOf GParameter.compatibilityMode params).bind natTraversalOf
  stunServer := (lastOf GParameter.stunIp params).getD none
  stunPort := (lastOf GParameter.stunPort params).getD 3478

theorem natTraversalOf_isSome : ∀ {mode : Nat}, (natTraversalOf mode).isSome ↔ mode ≤ 3
  | 0 | 1 | 2 | 3 => by simp [natTraversalOf]
  | mode + 4 => by simp [natTraversalOf]

/-- One parameter has one name. -/
theorem readParameter_eq (read : NatParameters) (param : GParameter) :
    readParameter read param =
      if ∀ mode ∈ param.compatibilityMode.toList, mode ≤ 3 then
        .ok
          { natTraversal := (param.compatibilityMode.bind natTraversalOf).or read.natTraversal
            stunServer := param.stunIp.getD read.stunServer
            stunPort := param.stunPort.getD read.stunPort }
      else .error .assertion := by
  by_cases hmode : param.name = "compatibility-mode"
  · have hip : param.stunIp = none := if_neg (by rw [hmode]; decide)
    have hport : param.stunPort = none := if_neg (by rw [hmode]; decide)
    cases h : param.compatibilityMode with
    | none => simp [readParameter, h, hip, hport]
    | some mode =>
        have hsome : (natTraversalOf mode).isSome ↔ mode ≤ 3 := natTraversalOf_isSome
        cases htraversal : natTraversalOf mode with
        | none => simp_all [readParameter]
        | some traversal => simp_all [readParameter]
  · have hnone : param.compatibilityMode = none := if_neg hmode
    by_cases hip : param.name = "stun-ip"
    · have hport : param.stunPort = none := if_neg (by rw [hip]; decide)
      cases h : param.stunIp <;> simp [readParameter, hnone, h, hport]
    · have hnone' : param.stunIp = none := if_neg hip
      cases h : param.stunPort <;> simp [readParameter, hnone, hnone', h]

theorem parametersRead_concat (params : List GParameter) {param : GParameter}
    (h : ∀ mode ∈ param.compatibilityMode.toList, mode ≤ 3) :
    parametersRead (params ++ [param]) =
      { natTraversal :=
          (param.compatibilityMode.bind natTraversalOf).or (parametersRead params).natTraversal
        stunServer := param.stunIp.getD (parametersRead params).stunServer
        stunPort := param.stunPort.getD (parametersRead params).stunPort } := by
  have htraversal : ((param.compatibilityMode).or
        (lastOf GParameter.compatibilityMode params)).bind natTraversalOf =
      (param.compatibilityMode.bind natTraversalOf).or (parametersRead params).natTraversal := by
    cases hmode : param.compatibilityMode with
    | none => rfl
    | some mode =>
        have hknown : mode ≤ 3 := h mode (by rw [hmode]; exact List.mem_singleton_self _)
        have hsome := natTraversalOf_isSome.mpr hknown
        obtain ⟨traversal, htraversal⟩ := Option.isSome_iff_exists.mp hsome
        simp [htraversal]
  simp only [parametersRead, lastOf_concat, htraversal]
  cases param.stunIp <;> cases param.stunPort <;> rfl

/-- **The loop over the parameters.** It aborts on a mode it does not know, wherever that is; else
the last parameter of each name counts. -/
theorem foldlM_readParameter (params : List GParameter) :
    params.foldlM readParameter ⟨none, none, 3478⟩ =
      if ∀ mode ∈ params.filterMap GParameter.compatibilityMode, mode ≤ 3 then
        .ok (parametersRead params)
      else .error .assertion := by
  induction params using List.reverseRecOn with
  | nil => rfl
  | append_singleton params param ih =>
      have hparam : [param].filterMap GParameter.compatibilityMode =
          param.compatibilityMode.toList := by
        cases h : param.compatibilityMode <;> simp [h]
      rw [List.foldlM_append, ih, List.filterMap_append, hparam]
      by_cases hmodes : ∀ mode ∈ params.filterMap GParameter.compatibilityMode, mode ≤ 3
      · rw [if_pos hmodes]
        show (readParameter (parametersRead params) param >>= pure) = _
        rw [bind_pure, readParameter_eq]
        by_cases hmode : ∀ mode ∈ param.compatibilityMode.toList, mode ≤ 3
        · rw [if_pos hmode, if_pos (List.forall_mem_append.mpr ⟨hmodes, hmode⟩),
            parametersRead_concat params hmode]
        · rw [if_neg hmode, if_neg fun h => hmode (List.forall_mem_append.mp h).2]
      · rw [if_neg hmodes, if_neg fun h => hmodes (List.forall_mem_append.mp h).1]
        rfl

theorem mem_addStunServer {stunIp : Option String} {stunPort : Nat} {ip : String} {port : Nat} :
    (ip, port) ∈ addStunServer stunIp stunPort ↔
      stunIp = some ip ∧ ip ≠ "" ∧ port = stunPort ∧ port ≤ 65535 := by
  cases stunIp with
  | none => simp [addStunServer]
  | some ip' =>
      rw [addStunServer]
      split_ifs with hempty hport
      · constructor
        · intro h
          cases h
        · rintro ⟨heq, hne, -, -⟩
          exact absurd (hempty.symm.trans (Option.some.inj heq)).symm hne
      · constructor
        · intro h
          cases h
        · rintro ⟨-, -, rfl, hle⟩
          omega
      · rw [List.mem_singleton, Prod.mk.injEq, Option.some.injEq]
        constructor
        · rintro ⟨rfl, rfl⟩
          exact ⟨rfl, hempty, rfl, Nat.le_of_not_lt hport⟩
        · rintro ⟨rfl, -, rfl, -⟩
          exact ⟨rfl, rfl⟩

/-- The transmitters and parameters that a stream can be added with. -/
def Transmits (transmitter : String) (params : List GParameter) : Prop :=
  transmitter = "rawudp" ∨
    transmitter = "nice" ∧ ∀ mode ∈ params.filterMap GParameter.compatibilityMode, mode ≤ 3

/-- What is read for a transmitter. -/
def readFor (transmitter : String) (params : List GParameter) : NatParameters :=
  if transmitter = "rawudp" then ⟨some "none", none, 3478⟩
  else { parametersRead params with
    natTraversal := some ((parametersRead params).natTraversal.getD "ice-udp") }

theorem natParameters_eq_ok {transmitter : String} {params : List GParameter}
    {read : NatParameters} :
    natParameters transmitter params = .ok read ↔
      Transmits transmitter params ∧ readFor transmitter params = read := by
  rw [natParameters, foldlM_readParameter, Transmits, readFor]
  by_cases hnice : transmitter = "nice"
  · have hraw : transmitter ≠ "rawudp" := by
      rw [hnice]
      decide
    rw [if_pos hnice, if_neg hraw, Except.map_eq_ok]
    split_ifs with hmodes
    · simp only [Except.ok.injEq, exists_eq_left']
      exact (and_iff_right (Or.inr ⟨hnice, hmodes⟩)).symm
    · simp only [false_and, exists_false, false_iff]
      rintro ⟨h | ⟨-, h⟩, -⟩
      · exact hraw h
      · exact hmodes h
  · rw [if_neg hnice]
    split_ifs with hraw
    · simp [hraw]
    · simp [hnice, hraw]

/-- **What a stream gets from its parameters.** A stream is added for "rawudp", and for "nice"
unless one of the parameters is a compatibility mode beyond 3; anything else aborts. With "rawudp"
the parameters are not looked at. With "nice" the last parameter of each name counts, wherever it
stands among the others: the last compatibility mode gives the traversal, which is "ice-udp" without
one, and the last address the only server, at the last port or 3478, unless it is empty or the port
is not one. -/
theorem addStream_parameters (s : MediaSessionHandler) (sid who : String)
    (type : PurpleMediaSessionType) (initiator : Bool) (transmitter : String)
    (params : List GParameter) :
    ((∃ s', s.addStream sid who type initiator transmitter params = .ok s') ↔
      Transmits transmitter params) ∧
    ∀ s', s.addStream sid who type initiator transmitter params = .ok s' →
      ∃ stream, s'.streams = s.streams ++ [stream] ∧
        stream.natTraversal = some (if transmitter = "rawudp" then "none"
          else ((lastOf GParameter.compatibilityMode params).bind natTraversalOf).getD "ice-udp") ∧
        stream.stunServers.length ≤ 1 ∧
        ∀ ip port, (ip, port) ∈ stream.stunServers ↔
          transmitter ≠ "rawudp" ∧ lastOf GParameter.stunIp params = some (some ip) ∧ ip ≠ "" ∧
          port = (lastOf GParameter.stunPort params).getD 3478 ∧ port ≤ 65535 := by
  constructor
  · constructor
    · rintro ⟨s', h⟩
      obtain ⟨read, hread, -⟩ := addStream_spec h
      exact (natParameters_eq_ok.mp hread).1
    · intro h
      exact ⟨_, Except.bind_eq_ok.mpr ⟨_, natParameters_eq_ok.mpr ⟨h, rfl⟩, rfl⟩⟩
  · intro s' h
    obtain ⟨read, hread, rfl⟩ := addStream_spec h
    obtain ⟨-, rfl⟩ := natParameters_eq_ok.mp hread
    refine ⟨_, rfl, ?_, ?_, fun ip port => ?_⟩
    · show (readFor transmitter params).natTraversal = _
      rw [readFor]
      split_ifs <;> rfl
    · show (addStunServer _ _).length ≤ 1
      unfold addStunServer
      split
      · exact Nat.zero_le 1
      · split_ifs <;> simp
    · show (ip, port) ∈ addStunServer _ _ ↔ _
      rw [mem_addStunServer, readFor]
      split_ifs with hraw
      · simp [hraw]
      · have hserver : (parametersRead params).stunServer = some ip ↔
            lastOf GParameter.stunIp params = some (some ip) := by
          rw [parametersRead]
          cases lastOf GParameter.stunIp params <;> simp
        rw [hserver, and_iff_right hraw]
        rfl

end MediaSessionHandler

end Haze
