import Haze.Capabilities.Model
import Haze.Media.Model

set_option autoImplicit false

/-! # `media-manager.c`

The channel manager for calls: the channels that it has created, the list of those that are not
closed, and the requests for channels that still wait for their streams. A channel is put on the
list when it is created, and announced when its first request for streams succeeds.

What a channel calls back about is dealt with after the step of the channel: the callbacks change
nothing in the channel.
-/

namespace Haze

/-- The context of a request for streams: a D-Bus call, or a `MediaChannelRequest`. -/
inductive MediaContext where
  | invocation (channel : Nat)
  | request (channel requestToken : Nat)
  | freed
  deriving DecidableEq

/-- The channel that the context belongs to. -/
def MediaContext.owner : MediaContext → Option Nat
  | .invocation channel => some channel
  | .request channel _ => some channel
  | .freed => none

/-- The channel that was created for the request. -/
def MediaContext.creates : MediaContext → Option Nat
  | .request channel _ => some channel
  | _ => none

/-- A media channel with what only its creation reads. -/
structure MediaChannelObject where
  chan : HazeMediaChannel
  initialAudio : Bool
  initialVideo : Bool
  creator : Nat

/-- The signals of the channel manager. -/
inductive MediaManagerCall where
  | newChannel (channel : Nat) (requestTokens : List Nat)
  | requestAlreadySatisfied (requestToken channel : Nat)
  | requestFailed (requestToken : Nat) (error : GError)
  | channelClosed (channel : Nat)
  deriving DecidableEq

/-- The channel that is announced. -/
def MediaManagerCall.announces : MediaManagerCall → Option Nat
  | .newChannel channel _ => some channel
  | _ => none

/-- The channel that is returned for a request though it was there before. -/
def MediaManagerCall.returns : MediaManagerCall → Option Nat
  | .requestAlreadySatisfied _ channel => some channel
  | _ => none

/-- The channel manager. Channels and contexts are known by their addresses. -/
structure HazeMediaManager where
  protocol : String
  selfHandle : Nat
  objects : List MediaChannelObject
  channels : List Nat
  contexts : List MediaContext
  calls : List MediaManagerCall

/-- `RequestMethod` -/
inductive RequestMethod where
  | request
  | create
  | ensure
  deriving DecidableEq

namespace HazeMediaManager

open Capabilities (tpPropChannelChannelType tpPropChannelTargetHandle
  tpIfaceChannelTypeStreamedMedia tpPropChannelTypeStreamedMediaInitialAudio
  tpPropChannelTypeStreamedMediaInitialVideo)

def init (protocol : String) (selfHandle : Nat) : HazeMediaManager where
  protocol := protocol
  selfHandle := selfHandle
  objects := []
  channels := []
  contexts := []
  calls := []

/-- Emit a signal. -/
def emit (m : HazeMediaManager) (c : MediaManagerCall) : HazeMediaManager :=
  { m with calls := m.calls ++ [c] }

/-! ## Callbacks -/

/-- `media_channel_request_succeeded_cb`, or the reply to a D-Bus call. -/
def succeededCb (m : HazeMediaManager) (context : Nat) : Except Fault HazeMediaManager :=
  match m.contexts[context]? with
  | some (.invocation _) => .ok { m with contexts := m.contexts.set context .freed }
  | some (.request channel requestToken) =>
      .ok { m.emit (.newChannel channel [requestToken]) with
        contexts := m.contexts.set context .freed }
  | some .freed => .error .useAfterFree
  | none => .error .useAfterFree

/-- `media_channel_request_failed_cb`, or the reply to a D-Bus call. -/
def failedCb (m : HazeMediaManager) (context : Nat) (error : Option GError) :
    Except Fault HazeMediaManager :=
  match m.contexts[context]?, error with
  | some (.invocation _), _ => .ok { m with contexts := m.contexts.set context .freed }
  | some (.request _ requestToken), some error =>
      .ok { m.emit (.requestFailed requestToken error) with
        contexts := m.contexts.set context .freed }
  | some (.request _ _), none => .error .nullDereference
  | some .freed, _ => .error .useAfterFree
  | none, _ => .error .useAfterFree

/-- `media_channel_closed_cb` -/
def mediaChannelClosedCb (m : HazeMediaManager) (channel : Nat) : HazeMediaManager :=
  { m.emit (.channelClosed channel) with channels := m.channels.erase channel }

/-- What a call of the channel means to the manager. -/
def callBack (channel : Nat) (m : HazeMediaManager) : MediaCall → Except Fault HazeMediaManager
  | .succeeded context _ => m.succeededCb context
  | .failed context error => m.failedCb context error
  | .closed => .ok (m.mediaChannelClosedCb channel)
  | _ => .ok m

/-- A step of a channel, with the callbacks. -/
def withChannel (m : HazeMediaManager) (channel : Nat)
    (f : HazeMediaChannel → Except Fault HazeMediaChannel) : Except Fault HazeMediaManager :=
  match m.objects[channel]? with
  | none => .error .useAfterFree
  | some o =>
      match f o.chan with
      | .error fault => .error fault
      | .ok chan => (chan.calls.drop o.chan.calls.length).foldlM (callBack channel)
          { m with objects := m.objects.set channel { o with chan := chan } }

/-! ## Channels -/

/-- `new_media_channel` -/
def newMediaChannel (m : HazeMediaManager) (media : Bool) (peer : Nat)
    (initialAudio initialVideo : Bool) : HazeMediaManager × Nat :=
  let o : MediaChannelObject :=
    { chan := .init m.protocol peer media
      initialAudio := initialAudio
      initialVideo := initialVideo
      creator := if media then peer else m.selfHandle }
  ({ m with
    objects := m.objects ++ [o]
    channels := m.channels ++ [m.objects.length] }, m.objects.length)

/-- The manager's `init_media_cb`: a call that comes in has a channel, which is announced. -/
def initMediaCb (m : HazeMediaManager) (initiator : Bool) (contact : Nat) : HazeMediaManager :=
  if initiator then m
  else
    let (m, channel) := m.newMediaChannel true contact false false
    m.emit (.newChannel channel [])

/-- `media_channel_request_new`, and the allocation of any other context. -/
def allocate (m : HazeMediaManager) (context : MediaContext) : HazeMediaManager × Nat :=
  ({ m with contexts := m.contexts ++ [context] }, m.contexts.length)

/-- The types that `haze_media_channel_request_initial_streams` requests. -/
def initialTypes (o : MediaChannelObject) : List Nat :=
  (if o.initialAudio then [tpMediaStreamTypeAudio] else []) ++
    (if o.initialVideo then [tpMediaStreamTypeVideo] else [])

/-- `haze_media_channel_request_initial_streams` -/
def requestInitialStreams (m : HazeMediaManager) (channel : Nat) (caps : PurpleMediaCaps)
    (context : Nat) : Except Fault HazeMediaManager :=
  match m.objects[channel]? with
  | none => .error .useAfterFree
  | some o =>
      -- "This has to be an outgoing call..."
      if o.creator ≠ m.selfHandle then .error .assertion
      else m.withChannel channel (fun chan =>
        chan.mediaChannelRequestStreams chan.initialPeer (initialTypes o) caps context)

/-- The search of `haze_media_manager_requestotron`. -/
def findPeer (m : HazeMediaManager) (handle : Nat) : Option Nat :=
  m.channels.find? (fun channel =>
    (m.objects[channel]?).map (fun o => o.chan.initialPeer) = some handle)

def tpPropChannelTargetHandleType : String :=
  "org.freedesktop.Telepathy.Channel.TargetHandleType"

def tpPropChannelTargetID : String := "org.freedesktop.Telepathy.Channel.TargetID"

/-- `media_channel_fixed_properties` -/
def mediaChannelFixedProperties : List String :=
  [tpPropChannelChannelType, tpPropChannelTargetHandleType]

/-- `named_channel_allowed_properties` -/
def namedChannelAllowedProperties : List String :=
  [tpPropChannelTargetHandle, tpPropChannelTargetID,
    tpPropChannelTypeStreamedMediaInitialAudio, tpPropChannelTypeStreamedMediaInitialVideo]

/-- `TP_HANDLE_TYPE_NONE` -/
def tpHandleTypeNone : Nat := 0

/-- `TP_HANDLE_TYPE_CONTACT` -/
def tpHandleTypeContact : Nat := 1

/-- What a request asks for, after the checks of `haze_media_manager_requestotron`. -/
inductive Requested where
  /-- not for this manager -/
  | other
  | refused (error : GError)
  | contact (handle : Nat)

/-- The checks of `haze_media_manager_requestotron`. -/
def requested (properties : Asv) : Except Fault Requested :=
  if properties.tpAsvGetString tpPropChannelChannelType ≠ some tpIfaceChannelTypeStreamedMedia then
    .ok .other
  else
    let handleType := properties.tpAsvGetUint32 tpPropChannelTargetHandleType
    let handle := properties.tpAsvGetUint32 tpPropChannelTargetHandle
    if handleType = tpHandleTypeNone then
      if handle ≠ 0 then .error .assertion
      else .ok (.refused ⟨.notImplemented,
        "A valid Contact handle must be provided when requesting a media channel"⟩)
    else if handleType = tpHandleTypeContact then
      if handle = 0 then .error .assertion
      else
        match properties.tpChannelManagerAsvHasUnknownProperties mediaChannelFixedProperties
            namedChannelAllowedProperties with
        | some error => .ok (.refused error)
        | none => .ok (.contact handle)
    else .ok .other

/-- A new channel for a request. -/
def createChannel (m : HazeMediaManager) (requestToken : Nat) (properties : Asv) (handle : Nat)
    (caps : PurpleMediaCaps) : Except Fault HazeMediaManager :=
  let (m, channel) := m.newMediaChannel false handle
    (properties.tpAsvGetBoolean tpPropChannelTypeStreamedMediaInitialAudio)
    (properties.tpAsvGetBoolean tpPropChannelTypeStreamedMediaInitialVideo)
  let (m, context) := m.allocate (.request channel requestToken)
  m.requestInitialStreams channel caps context

/-- `haze_media_manager_requestotron`, with what it returns. -/
def requestotron (m : HazeMediaManager) (requestToken : Nat) (properties : Asv)
    (method : RequestMethod) (caps : PurpleMediaCaps) : Except Fault (HazeMediaManager × Bool) :=
  match requested properties with
  | .error fault => .error fault
  | .ok .other => .ok (m, false)
  | .ok (.refused error) => .ok (m.emit (.requestFailed requestToken error), true)
  | .ok (.contact handle) =>
      match (if method = .ensure then m.findPeer handle else none) with
      -- "Per the spec, we ignore InitialAudio and InitialVideo"
      | some channel => .ok (m.emit (.requestAlreadySatisfied requestToken channel), true)
      | none =>
          match m.createChannel requestToken properties handle caps with
          | .error fault => .error fault
          | .ok m => .ok (m, true)

/-- A D-Bus call of `RequestStreams`. -/
def requestStreams (m : HazeMediaManager) (channel contactHandle : Nat) (types : List Nat)
    (caps : PurpleMediaCaps) : Except Fault HazeMediaManager :=
  let (m, context) := m.allocate (.invocation channel)
  m.withChannel channel (fun chan =>
    chan.mediaChannelRequestStreams contactHandle types caps context)

/-- What happens to the manager and its channels. -/
inductive Event where
  /-- `RequestChannel`, `CreateChannel` or `EnsureChannel` -/
  | request (method : RequestMethod) (requestToken : Nat) (properties : Asv)
      (caps : PurpleMediaCaps)
  /-- libpurple has a new media session -/
  | initMedia (initiator : Bool) (contact : Nat)
  | requestStreams (channel contactHandle : Nat) (types : List Nat) (caps : PurpleMediaCaps)
  /-- something else that happens to a channel -/
  | channel (channel : Nat) (e : HazeMediaChannel.MediaEvent)

end HazeMediaManager

/-- The media manager as a machine. -/
def mediaManagers : Machine HazeMediaManager HazeMediaManager.Event Fault where
  step
    | m, .request method requestToken properties caps =>
        (m.requestotron requestToken properties method caps).map Prod.fst
    | m, .initMedia initiator contact => .ok (m.initMediaCb initiator contact)
    | m, .requestStreams channel contactHandle types caps =>
        m.requestStreams channel contactHandle types caps
    | m, .channel channel e => m.withChannel channel (fun chan => mediaChannels.step chan e)

end Haze
