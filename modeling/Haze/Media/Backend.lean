import Haze.Media.BackendStreams

set_option autoImplicit false

/-! # `media-backend.c` and the signal `state-changed`

A `PurpleMedia` reports on its sessions and streams with the signal `state-changed`. Its backend
connects to the signal when it is constructed with the media, the channel when it latches onto the
session, and the handlers run in the order in which they were connected. The backend drops a
stream when its session ends; the channel tells the bus about streams, which it looks up in the
backend.
-/

namespace Haze

/-- The streams of a `HazeMediaBackend`, with what the channel looks at. -/
abbrev HazeMediaBackend := BackendStreams NamedStream

namespace HazeMediaBackend

/-- `haze_media_backend_init` -/
def init : HazeMediaBackend := BackendStreams.init

/-- `haze_media_backend_add_stream` -/
def addStream (b : HazeMediaBackend) (sid : String) (type : PurpleMediaSessionType) :
    HazeMediaBackend :=
  BackendStreams.addStream b sid type id

end HazeMediaBackend

namespace HazeMediaChannel

/-- The state of a stream on the bus. -/
def tpMediaStreamState : PurpleMediaState → TpMediaStreamState
  | .new => .connecting
  | .connected => .connected
  | .end => .disconnected

/-- A stream appears: it is put in the slots of the requests and announced. -/
def announceStream (s : HazeMediaChannel) (live : List HazeMediaStream)
    (stream : HazeMediaStream) : Except Fault HazeMediaChannel :=
  match satisfyRequests live stream s.pendingStreamRequests with
  | .error fault => .error fault
  | .ok (requests, calls) =>
      .ok ({ s with pendingStreamRequests := requests }.log
        (calls ++ [MediaCall.streamAdded stream.id s.initialPeer stream.mediaType]))

/-- `media_state_changed_cb`, the block for `PURPLE_MEDIA_STATE_NEW`. -/
def stateNew (s : HazeMediaChannel) (backend : HazeMediaBackend) (state : PurpleMediaState)
    (sid name : Option String) : Except Fault HazeMediaChannel :=
  match state, sid, name with
  | .new, some sid, some _ =>
      match backend.getStreamByName sid with
      | none => .error .nullDereference
      | some stream => s.announceStream (backend.streams.map (·.toHazeMediaStream))
          stream.toHazeMediaStream
  | _, _, _ => .ok s

/-- `media_state_changed_cb`, the block for a session. -/
def stateOfSession (s : HazeMediaChannel) (backend : HazeMediaBackend) (state : PurpleMediaState)
    (sid name : Option String) : HazeMediaChannel :=
  match sid, name with
  | some sid, none =>
      match backend.getStreamByName sid with
      | none => s
      | some stream => s.log [.streamStateChanged stream.id (tpMediaStreamState state)]
  | _, _ => s

/-- `media_state_changed_cb`, the block for `PURPLE_MEDIA_STATE_END`. -/
def stateEnd (s : HazeMediaChannel) (backend : HazeMediaBackend) (state : PurpleMediaState)
    (sid name : Option String) : HazeMediaChannel :=
  match state, sid, name with
  | .end, some sid, none =>
      match backend.getStreamByName sid with
      | none => s
      | some stream => s.log [.streamRemoved stream.id]
  | .end, none, none => s.sessionEnd
  | _, _, _ => s

/-- `media_state_changed_cb` -/
def mediaStateChangedCb (s : HazeMediaChannel) (backend : HazeMediaBackend)
    (state : PurpleMediaState) (sid name : Option String) : Except Fault HazeMediaChannel :=
  match s.stateNew backend state sid name with
  | .error fault => .error fault
  | .ok s => .ok ((s.stateOfSession backend state sid name).stateEnd backend state sid name)

end HazeMediaChannel

/-- A handler of `state-changed`. -/
inductive StateChangedHandler where
  | backend
  | channel
  deriving DecidableEq

/-- A `PurpleMedia` with its backend, and the channel that shows it on the bus. -/
structure MediaSession where
  backend : HazeMediaBackend
  /-- the handlers of `state-changed` in the order in which they were connected -/
  handlers : List StateChangedHandler
  chan : HazeMediaChannel
  /-- the ids of the streams of which libpurple has reported `NEW` -/
  reported : List Nat

namespace MediaSession

/-- A new `PurpleMedia`: `haze_media_backend_set_property` connects the backend's handler. -/
def new (chan : HazeMediaChannel) : MediaSession where
  backend := .init
  handlers := [.backend]
  chan := chan
  reported := []

/-- `_latch_to_session` -/
def latchToSession (m : MediaSession) : MediaSession :=
  { m with handlers := m.handlers ++ [.channel] }

/-- One handler runs. -/
def handle (state : PurpleMediaState) (sid name : Option String) (m : MediaSession) :
    StateChangedHandler → Except Fault MediaSession
  | .backend => .ok { m with backend := m.backend.stateChangedCb state sid name }
  | .channel =>
      match m.chan.mediaStateChangedCb m.backend state sid name with
      | .error fault => .error fault
      | .ok chan => .ok { m with chan := chan }

/-- The streams of which a signal reports `NEW`. -/
def reports (m : MediaSession) : PurpleMediaState → Option String → Option String → List Nat
  | .new, some sid, some _ =>
      match m.backend.getStreamByName sid with
      | none => []
      | some stream => [stream.id]
  | _, _, _ => []

/-- libpurple emits `state-changed`. -/
def emitStateChanged (m : MediaSession) (state : PurpleMediaState) (sid name : Option String) :
    Except Fault MediaSession :=
  m.handlers.foldlM (handle state sid name)
    { m with reported := m.reported ++ m.reports state sid name }

/-- What happens in a session: libpurple adds streams and reports states, and the channel goes
on. -/
inductive Event where
  | addStream (sid : String) (type : PurpleMediaSessionType)
  | stateChanged (state : PurpleMediaState) (sid name : Option String)
  | channel (e : HazeMediaChannel.MediaEvent)

end MediaSession

/-- A session as a machine. -/
def mediaSessions : Machine MediaSession MediaSession.Event Fault where
  step
    | m, .addStream sid type => .ok { m with backend := m.backend.addStream sid type }
    | m, .stateChanged state sid name => m.emitStateChanged state sid name
    | m, .channel e =>
        match mediaChannels.step m.chan e with
        | .error fault => .error fault
        | .ok chan => .ok { m with chan := chan }

end Haze
