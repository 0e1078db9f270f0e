import Haze.Basic.Runs
import Haze.Basic.Log
import Haze.Telepathy.Types

set_option autoImplicit false

/-! # `media-stream.c`

A media stream stands between libpurple, which passes it the codecs and the candidates of the
peer, and the streaming client, which calls the methods of `Media.StreamHandler` and gets its
signals. Codecs and candidates are cached in lists, which are walked when the stream is `Ready`.
-/

namespace Haze

/-! ## Codecs and candidates -/

/-- `TpMediaStreamType`; the property of the stream has no other values. -/
inductive TpMediaStreamType where
  | audio
  | video
  deriving DecidableEq

/-- `PurpleMediaCandidateType` -/
inductive PurpleMediaCandidateType where
  | host
  | srflx
  | prflx
  | relay
  | multicast
  deriving DecidableEq

/-- `PurpleMediaNetworkProtocol` -/
inductive PurpleMediaNetworkProtocol where
  | udp
  | tcp
  deriving DecidableEq

/-- A `PurpleMediaCandidate` -/
structure PurpleMediaCandidate where
  foundation : String
  componentId : Nat
  ip : String
  port : Nat
  protocol : PurpleMediaNetworkProtocol
  candidateType : PurpleMediaCandidateType
  priority : Nat
  username : Option String
  password : Option String
  deriving DecidableEq

/-- `TpMediaStreamTransportType` -/
inductive TpMediaStreamTransportType where
  | local
  | derived
  | relay
  deriving DecidableEq

/-- A `Media_Stream_Handler_Transport` of D-Bus. -/
structure Transport where
  component : Nat
  address : String
  port : Nat
  /-- `TpMediaStreamBaseProto` -/
  protocol : PurpleMediaNetworkProtocol
  subtype : String
  profile : String
  preference : Nat
  type : TpMediaStreamTransportType
  username : Option String
  password : Option String
  deriving DecidableEq

/-- A `PurpleMediaCodec` -/
structure PurpleMediaCodec where
  id : Nat
  encodingName : String
  mediaType : TpMediaStreamType
  clockRate : Nat
  channels : Nat
  optionalParameters : List (String × String)
  deriving DecidableEq

/-- A `Media_Stream_Handler_Codec` of D-Bus. -/
structure Codec where
  id : Nat
  name : String
  mediaType : TpMediaStreamType
  clockRate : Nat
  channels : Nat
  params : List (String × String)
  deriving DecidableEq

/-- What the streaming client and libpurple hear from the stream. -/
inductive StreamSignal where
  | addRemoteCandidate (candidateId : String) (transports : List Transport)
  | setRemoteCodecs (codecs : List Codec)
  | setStreamPlaying (playing : Bool)
  | setStreamSending (sending : Bool)
  | setStreamHeld (held : Bool)
  /-- "codecs-changed" of the `PurpleMedia` -/
  | codecsChanged
  /-- the method returns -/
  | returned
  /-- the method returns an error -/
  | refused (error : GError)
  deriving DecidableEq

/-- `HazeMediaStreamPrivate`, with the signals that were emitted. -/
structure HazeMediaStreamPrivate where
  mediaType : TpMediaStreamType
  codecs : List PurpleMediaCodec := []
  remoteCodecs : List PurpleMediaCodec := []
  remoteCandidates : List PurpleMediaCandidate := []
  awaitingIntersection : Bool
  localHold : Bool
  ready : Bool := false
  createdLocally : Bool
  signals : List StreamSignal := []
  deriving DecidableEq

namespace HazeMediaStreamPrivate

/-- `haze_media_stream_new` -/
def new (mediaType : TpMediaStreamType) (createdLocally localHold : Bool) :
    HazeMediaStreamPrivate where
  mediaType := mediaType
  awaitingIntersection := !createdLocally
  localHold := localHold
  createdLocally := createdLocally

/-- A signal is emitted. -/
def emit (s : HazeMediaStreamPrivate) (signal : StreamSignal) : HazeMediaStreamPrivate :=
  { s with signals := s.signals ++ [signal] }

/-- `haze_media_stream_get_codecs` -/
def getCodecs (s : HazeMediaStreamPrivate) : List PurpleMediaCodec := s.codecs

/-! ## Candidates -/

/-- The type of the transport, "Unknown candidate type" aside. -/
def transportType : PurpleMediaCandidateType → TpMediaStreamTransportType
  | .host => .local
  | .srflx => .derived
  | .relay => .relay
  | .prflx => .local
  | .multicast => .local

/-- The signal of `pass_remote_candidates` for one candidate. -/
def candidateSignal (c : PurpleMediaCandidate) : StreamSignal :=
  .addRemoteCandidate c.foundation
    [{ component := c.componentId
       address := c.ip
       port := c.port
       protocol := c.protocol
       subtype := "RTP"
       profile := "AVP"
       preference := c.priority
       type := transportType c.candidateType
       username := c.username
       password := c.password }]

/-- `pass_remote_candidates` -/
def passRemoteCandidates (s : HazeMediaStreamPrivate) : HazeMediaStreamPrivate :=
  s.remoteCandidates.foldl (fun s c => s.emit (candidateSignal c)) s

/-- `haze_media_stream_add_remote_candidates` -/
def addRemoteCandidates (s : HazeMediaStreamPrivate)
    (remoteCandidates : List PurpleMediaCandidate) : HazeMediaStreamPrivate :=
  let s := { s with remoteCandidates := s.remoteCandidates ++ remoteCandidates }
  if s.ready then s.passRemoteCandidates else s

/-! ## Codecs -/

/-- One codec under `pass_remote_codecs`. -/
def remoteCodec (s : HazeMediaStreamPrivate) (c : PurpleMediaCodec) : Codec where
  id := c.id
  name := c.encodingName
  mediaType := s.mediaType
  clockRate := c.clockRate
  channels := c.channels
  params := c.optionalParameters

/-- `pass_remote_codecs`. The table that the parameters of a codec are put into frees their strings
when it is destroyed, and they are the codec's own: a codec with parameters that is passed, or freed
by libpurple, after that is read from freed memory. What is passed here is what the codec was set
to. -/
def passRemoteCodecs (s : HazeMediaStreamPrivate) : HazeMediaStreamPrivate :=
  s.emit (.setRemoteCodecs (s.remoteCodecs.map s.remoteCodec))

/-- `haze_media_stream_set_remote_codecs` -/
def setRemoteCodecs (s : HazeMediaStreamPrivate) (remoteCodecs : List PurpleMediaCodec) :
    HazeMediaStreamPrivate :=
  let s := { s with remoteCodecs := remoteCodecs }
  if s.ready then s.passRemoteCodecs else s

/-- One codec under `pass_local_codecs`. -/
def localCodec (s : HazeMediaStreamPrivate) (c : Codec) : PurpleMediaCodec where
  id := c.id
  encodingName := c.name
  mediaType := s.mediaType
  clockRate := c.clockRate
  channels := c.channels
  optionalParameters := c.params

/-- `pass_local_codecs` -/
def passLocalCodecs (s : HazeMediaStreamPrivate) (codecs : List Codec) : HazeMediaStreamPrivate :=
  codecs.foldl (fun s c =>
    ({ s with codecs := s.codecs ++ [s.localCodec c] } : HazeMediaStreamPrivate).emit
      .codecsChanged) s

/-- `haze_media_stream_set_local_codecs`; `isInitiator` is `purple_media_is_initiator` for the
stream. -/
def setLocalCodecs (s : HazeMediaStreamPrivate) (codecs : List Codec) (isInitiator : Bool) :
    HazeMediaStreamPrivate :=
  -- "ignoring local codecs, waiting for codec intersection"
  let s := if isInitiator then s.passLocalCodecs codecs else s
  s.emit .returned

/-- `haze_media_stream_supported_codecs` -/
def supportedCodecs (s : HazeMediaStreamPrivate) (codecs : List Codec) : HazeMediaStreamPrivate :=
  -- "we already sent, or don't need to send, our codecs"
  let s := if s.awaitingIntersection then
    { s.passLocalCodecs codecs with awaitingIntersection := false } else s
  s.emit .returned

/-- `haze_media_stream_codecs_updated` -/
def codecsUpdated (s : HazeMediaStreamPrivate) (codecs : List Codec) : HazeMediaStreamPrivate :=
  if s.codecs = [] then
    s.emit (.refused ⟨.notAvailable,
      "CodecsUpdated may only be called once an initial set of codecs has been set"⟩)
  else if s.awaitingIntersection then s.emit .returned
  else (s.passLocalCodecs codecs).emit .returned

/-- What `haze_media_stream_ready` does when it is called first; `sends` is whether
`purple_media_get_session_type` has a sending direction. -/
def firstReady (s : HazeMediaStreamPrivate) (sends : Bool) : HazeMediaStreamPrivate :=
  let s := ({ s with ready := true } : HazeMediaStreamPrivate).emit (.setStreamPlaying true)
  let s := if sends then s.emit (.setStreamSending true) else s
  if s.localHold then s.emit (.setStreamHeld s.localHold) else s

/-- `haze_media_stream_ready` -/
def handleReady (s : HazeMediaStreamPrivate) (codecs : List Codec) (isInitiator sends : Bool) :
    HazeMediaStreamPrivate :=
  -- "Ready called twice, running plain SetLocalCodecs instead"
  let s := if s.ready = false then s.firstReady sends else s
  ((s.setLocalCodecs codecs isInitiator).passRemoteCodecs).passRemoteCandidates

/-- What can happen to a stream. -/
inductive Event where
  /-- libpurple adds candidates -/
  | addRemoteCandidates (remoteCandidates : List PurpleMediaCandidate)
  /-- libpurple sets the codecs of the peer -/
  | setRemoteCodecs (remoteCodecs : List PurpleMediaCodec)
  /-- Ready -/
  | ready (codecs : List Codec) (isInitiator sends : Bool)
  /-- SetLocalCodecs -/
  | setLocalCodecs (codecs : List Codec) (isInitiator : Bool)
  /-- SupportedCodecs -/
  | supportedCodecs (codecs : List Codec)
  /-- CodecsUpdated -/
  | codecsUpdated (codecs : List Codec)
  /-- HoldState -/
  | holdState (holdState : Bool)
  deriving DecidableEq

def step (s : HazeMediaStreamPrivate) : Event → HazeMediaStreamPrivate
  | .addRemoteCandidates remoteCandidates => s.addRemoteCandidates remoteCandidates
  | .setRemoteCodecs remoteCodecs => s.setRemoteCodecs remoteCodecs
  | .ready codecs isInitiator sends => s.handleReady codecs isInitiator sends
  | .setLocalCodecs codecs isInitiator => s.setLocalCodecs codecs isInitiator
  | .supportedCodecs codecs => s.supportedCodecs codecs
  | .codecsUpdated codecs => s.codecsUpdated codecs
  | .holdState holdState =>
      ({ s with localHold := holdState } : HazeMediaStreamPrivate).emit .returned

end HazeMediaStreamPrivate

/-- A media stream as a machine. No step fails. -/
def mediaStreams : Machine HazeMediaStreamPrivate HazeMediaStreamPrivate.Event Empty where
  step := fun s e => .ok (s.step e)

end Haze
