import Mathlib.Algebra.Group.Nat.Defs
import Mathlib.Data.Nat.Log
import Haze.Basic.Runs
import Haze.Telepathy.Types

set_option autoImplicit false

/-! # `media-channel.c`

One media channel: its requests for streams, its session, and its end. libpurple may call back
while a call that Haze made is under way (`purple_prpl_initiate_media`, or a hangup), so the
calls that have not returned are kept on a `stack`, and their return is a step of its own. The
rest of what libpurple does (a session begins, a stream appears or ends, the session ends) may
come from the main loop or from inside such a call.

`mediaChannels` is what the code computes. `mediaObjects` is the same machine with the memory that
it reads: the array of types that is copied, and the channel itself, which is freed in the end.
-/

namespace Haze

/-- `TP_MEDIA_STREAM_TYPE_AUDIO` -/
def tpMediaStreamTypeAudio : Nat := 0

/-- `TP_MEDIA_STREAM_TYPE_VIDEO` -/
def tpMediaStreamTypeVideo : Nat := 1

/-- A `HazeMediaStream`: what is read of it to reply to a request. -/
structure HazeMediaStream where
  /-- counts the streams of the backend, and so stands for this one; "id" is its guint -/
  id : Nat
  mediaType : Nat
  deriving DecidableEq

/-- The `PurpleMediaCaps` of a contact that Haze looks at. -/
structure PurpleMediaCaps where
  audio : Bool
  video : Bool
  modifySession : Bool
  deriving DecidableEq

/-- `PurpleMediaSessionType` -/
structure PurpleMediaSessionType where
  audio : Bool
  video : Bool
  deriving DecidableEq

/-- A `PendingStreamRequest`, with its address. `succeeded_cb` and `failed_cb` belong to the
context. -/
structure PendingStreamRequest where
  ptr : Nat
  types : List Nat
  /-- "when the stream for contents[i] is created, it is stored at streams[i]" -/
  streams : List (Option HazeMediaStream)
  /-- "number of non-NULL elements in streams" -/
  satisfied : Nat
  context : Option Nat
  deriving DecidableEq

/-- `TpMediaStreamState` -/
inductive TpMediaStreamState where
  | disconnected
  | connecting
  | connected
  deriving DecidableEq

/-- The calls of a media channel. -/
inductive MediaCall where
  /-- `media_channel_request_streams` is called for a context -/
  | requestStreams (context : Nat)
  | succeeded (context : Nat) (streams : List HazeMediaStream)
  | failed (context : Nat) (error : Option GError)
  /-- `purple_prpl_initiate_media` -/
  | initiateMedia (type : PurpleMediaSessionType)
  /-- `purple_media_stream_info` with `PURPLE_MEDIA_INFO_HANGUP` -/
  | hangup
  /-- the signals about streams, by the numbers of these -/
  | streamAdded (id peer mediaType : Nat)
  | streamStateChanged (id : Nat) (state : TpMediaStreamState)
  | streamRemoved (id : Nat)
  /-- the signal `Closed` -/
  | closed
  deriving DecidableEq

/-- A call into libpurple that has not returned. -/
inductive MediaFrame where
  /-- `purple_prpl_initiate_media`, for a request, with the calls that are still to be made -/
  | initiateMedia (psr context : Nat) (rest : List PurpleMediaSessionType)
  /-- the hangup in `haze_media_channel_close`, maybe from `haze_media_channel_dispose` -/
  | closing (disposing : Bool)
  /-- the hangup in `haze_media_channel_remove_member` -/
  | removing
  deriving DecidableEq

/-- A media channel, and what libpurple has of its session. -/
structure HazeMediaChannel where
  protocol : String
  initialPeer : Nat
  /-- `priv->media` is set -/
  media : Bool
  mediaEnded : Bool
  closed : Bool
  pendingStreamRequests : List PendingStreamRequest
  /-- the address of the next request -/
  nextRequest : Nat
  /-- the number of the next stream, from 1 on -/
  nextStreamId : Nat
  /-- the streams of the backend -/
  streams : List HazeMediaStream
  /-- `init_media_cb` is connected -/
  initMedia : Bool
  /-- the session has begun and has not ended -/
  live : Bool
  stack : List MediaFrame
  calls : List MediaCall

namespace HazeMediaChannel

/-- A new channel to a contact, for a call that comes in with its session or for one that is
to be made. -/
def init (protocol : String) (initialPeer : Nat) (media : Bool) : HazeMediaChannel where
  protocol := protocol
  initialPeer := initialPeer
  media := media
  mediaEnded := false
  closed := false
  pendingStreamRequests := []
  nextRequest := 0
  nextStreamId := 1
  streams := []
  initMedia := false
  live := media
  stack := []
  calls := []

/-- Record calls. -/
def log (s : HazeMediaChannel) (calls : List MediaCall) : HazeMediaChannel :=
  { s with calls := s.calls ++ calls }

/-! ## Pending requests -/

/-- `pending_stream_request_new`. `types` is the copy that `gMemdupTypes` makes. -/
def pendingStreamRequestNew (ptr : Nat) (types : List Nat) (context : Nat) :
    PendingStreamRequest where
  ptr := ptr
  types := types
  streams := List.replicate types.length none
  satisfied := 0
  context := some context

/-- `pending_stream_request_free`, with the reply that is due. -/
def pendingStreamRequestFree (p : PendingStreamRequest) : List MediaCall :=
  match p.context with
  | none => []
  | some context => [.failed context (some ⟨.cancelled,
      "The session terminated before the requested streams could be added"⟩)]

/-- `make_stream_list`: every stream is read. -/
def makeStreamList (live : List HazeMediaStream) :
    List (Option HazeMediaStream) → Except Fault (List HazeMediaStream)
  | [] => .ok []
  | none :: _ => .error .nullDereference
  | some stream :: rest =>
      if stream ∉ live then .error .useAfterFree
      else
        match makeStreamList live rest with
        | .error fault => .error fault
        | .ok streams => .ok (stream :: streams)

/-- The loop of `pending_stream_request_maybe_satisfy`, from the slot `i` on for `n` slots, with
whether the request is satisfied. -/
def fillSlots (stream : HazeMediaStream) :
    Nat → Nat → PendingStreamRequest → Except Fault (PendingStreamRequest × Bool)
  | 0, _, p => .ok (p, false)
  | n + 1, i, p =>
      if p.types[i]? = some stream.mediaType then
        if p.streams[i]? ≠ some none then .error .assertion
        else
          -- every slot of the type takes the stream
          let p := { p with
            streams := p.streams.set i (some stream)
            satisfied := p.satisfied + 1 }
          if p.satisfied = p.types.length ∧ p.context.isSome then .ok (p, true)
          else fillSlots stream n (i + 1) p
      else fillSlots stream n (i + 1) p

/-- `pending_stream_request_maybe_satisfy`, with the reply. -/
def pendingStreamRequestMaybeSatisfy (live : List HazeMediaStream) (stream : HazeMediaStream)
    (p : PendingStreamRequest) : Except Fault (PendingStreamRequest × Option MediaCall) :=
  match fillSlots stream p.types.length 0 p with
  | .error fault => .error fault
  | .ok (p, false) => .ok (p, none)
  | .ok (p, true) =>
      match makeStreamList live p.streams, p.context with
      | .error fault, _ => .error fault
      | .ok _, none => .ok (p, none)
      | .ok streams, some context =>
          .ok ({ p with context := none }, some (.succeeded context streams))

/-- The loop of `media_state_changed_cb` over the requests: one that is satisfied is freed and
taken off the list. -/
def satisfyRequests (live : List HazeMediaStream) (stream : HazeMediaStream) :
    List PendingStreamRequest → Except Fault (List PendingStreamRequest × List MediaCall)
  | [] => .ok ([], [])
  | p :: ps =>
      match pendingStreamRequestMaybeSatisfy live stream p with
      | .error fault => .error fault
      | .ok (p, reply) =>
          match satisfyRequests live stream ps with
          | .error fault => .error fault
          | .ok (ps, calls) =>
              match reply with
              | some reply => .ok (ps, reply :: pendingStreamRequestFree p ++ calls)
              | none => .ok (p :: ps, calls)

/-! ## Closing -/

/-- The end of `haze_media_channel_close`, and of `haze_media_channel_dispose`. -/
def finishClose (s : HazeMediaChannel) (disposing : Bool) : HazeMediaChannel :=
  let s := s.log [.closed]
  if disposing then { s with media := false } else s

/-- `haze_media_channel_close`. Nothing is done about the requests: the hangup is to end the
session. -/
def hazeMediaChannelClose (s : HazeMediaChannel) (disposing : Bool) : HazeMediaChannel :=
  if s.closed then (if disposing then { s with media := false } else s)
  else
    let s := { s with closed := true }
    -- the rest of the function follows when the hangup returns
    if s.media ∧ ¬ s.mediaEnded then
      { s.log [.hangup] with mediaEnded := true, stack := .closing disposing :: s.stack }
    else s.finishClose disposing

/-- `haze_media_channel_remove_member`, for a reason that is allowed. -/
def hazeMediaChannelRemoveMember (s : HazeMediaChannel) : HazeMediaChannel :=
  if ¬ s.media then s.hazeMediaChannelClose false
  else { s.log [.hangup] with stack := .removing :: s.stack }

/-! ## The session -/

/-- `init_media_cb`, for the session with the channel's peer. -/
def initMediaCb (s : HazeMediaChannel) : Except Fault HazeMediaChannel :=
  if s.media then .error .assertion
  else .ok { s with media := true, live := true, initMedia := false }

/-- `media_state_changed_cb` when a stream is `NEW`. -/
def streamNew (s : HazeMediaChannel) (mediaType : Nat) : Except Fault HazeMediaChannel :=
  let stream : HazeMediaStream := ⟨s.nextStreamId, mediaType⟩
  let s := { s with
    streams := s.streams ++ [stream]
    nextStreamId := s.nextStreamId + 1 }
  match satisfyRequests s.streams stream s.pendingStreamRequests with
  | .error fault => .error fault
  | .ok (requests, calls) =>
      .ok ({ s with pendingStreamRequests := requests }.log
        (calls ++ [MediaCall.streamAdded stream.id s.initialPeer mediaType]))

/-- A stream comes to its `END`. `haze_backend_state_changed_cb` drops it first, so
`media_state_changed_cb` does not find it any more. -/
def streamEnd (s : HazeMediaChannel) (id : Nat) : HazeMediaChannel :=
  { s with streams := s.streams.filter (fun stream => stream.id ≠ id) }

/-- `media_state_changed_cb` when the session comes to its `END`. -/
def sessionEnd (s : HazeMediaChannel) : HazeMediaChannel :=
  let s := { s with live := false, mediaEnded := true }
  -- "any contents that we were waiting for have now lost"
  let s := { s with pendingStreamRequests := [] }.log
    (s.pendingStreamRequests.flatMap pendingStreamRequestFree)
  if ¬ s.closed then s.hazeMediaChannelClose false else s

/-! ## Requests -/

/-- The loop that calls `purple_prpl_initiate_media` while there are audio or video streams to
ask for: the types of the calls, of which there are `n` at most. -/
def sessionTypesLoop : Nat → Nat → Nat → List PurpleMediaSessionType
  | 0, _, _ => []
  | n + 1, audioCount, videoCount =>
      if audioCount > 0 ∨ videoCount > 0 then
        ⟨audioCount > 0, videoCount > 0⟩ :: sessionTypesLoop n (audioCount - 1) (videoCount - 1)
      else []

/-- The types of all calls of `purple_prpl_initiate_media` for so many streams. -/
def sessionTypes (audioCount videoCount : Nat) : List PurpleMediaSessionType :=
  sessionTypesLoop (audioCount + videoCount) audioCount videoCount

/-- The checks of `_haze_media_channel_request_contents`, with the error that is set. -/
def refusal (s : HazeMediaChannel) (mediaTypes : List Nat) (caps : PurpleMediaCaps) :
    Option GError :=
  match mediaTypes.find? (fun type =>
      type ≠ tpMediaStreamTypeAudio ∧ type ≠ tpMediaStreamTypeVideo) with
  | some type =>
      some ⟨.notImplemented, "given media type " ++ toString type ++ " is invalid"⟩
  | none =>
      let wantAudio := tpMediaStreamTypeAudio ∈ mediaTypes
      let wantVideo := tpMediaStreamTypeVideo ∈ mediaTypes
      if s.media then
        if ¬ caps.modifySession then
          some ⟨.notAvailable,
            "Streams can't be added in Haze's \"" ++ s.protocol ++ "\" protocol's calls"⟩
        -- refuses the contact that has the capabilities
        else if (¬ wantAudio ∨ caps.audio) ∧ (¬ wantVideo ∨ caps.video) then
          some ⟨.notAvailable, "Member does not have the desired audio/video capabilities"⟩
        else none
      else none

/-- The `error` branch of `media_channel_request_streams`. The message for the debug output
reads the error before it is passed on. -/
def requestStreamsError (s : HazeMediaChannel) (psr : Option Nat) (context : Nat)
    (error : Option GError) : Except Fault HazeMediaChannel :=
  -- what frees the request replies to it a first time
  let freed : Except Fault HazeMediaChannel :=
    match psr with
    | none => .ok s
    | some ptr =>
        match s.pendingStreamRequests.find? (fun p => p.ptr = ptr) with
        | none => .error .useAfterFree
        | some p =>
            .ok ({ s with pendingStreamRequests :=
              s.pendingStreamRequests.filter (fun p => p.ptr ≠ ptr) }.log
                (pendingStreamRequestFree p))
  match freed, error with
  | .error fault, _ => .error fault
  | .ok _, none => .error .nullDereference
  | .ok s, some error => .ok (s.log [.failed context (some error)])

/-- The calls of `purple_prpl_initiate_media`, one after the other. -/
def initiateMedia (s : HazeMediaChannel) (psr context : Nat) :
    List PurpleMediaSessionType → HazeMediaChannel
  | [] => s
  | type :: rest =>
      { s.log [.initiateMedia type] with stack := .initiateMedia psr context rest :: s.stack }

/-- `media_channel_request_streams`, as far as the first call of
`purple_prpl_initiate_media`. -/
def mediaChannelRequestStreams (s : HazeMediaChannel) (contactHandle : Nat) (types : List Nat)
    (caps : PurpleMediaCaps) (context : Nat) : Except Fault HazeMediaChannel :=
  let s := s.log [.requestStreams context]
  if types = [] then .ok (s.log [.succeeded context []])
  else if s.media ∧ s.initialPeer ≠ contactHandle then
    s.requestStreamsError none context (some ⟨.notAvailable,
      "cannot add streams for " ++ toString contactHandle ++ ": this channel's peer is " ++
        toString s.initialPeer⟩)
  else
    -- "Pending stream requests can be completed before request_contents returns."
    let psr := s.nextRequest
    let s := { s with
      pendingStreamRequests :=
        pendingStreamRequestNew psr types context :: s.pendingStreamRequests
      nextRequest := s.nextRequest + 1 }
    match s.refusal types caps with
    | some error => s.requestStreamsError (some psr) context (some error)
    | none =>
        let s := if s.media then s else { s with initMedia := true }
        .ok (s.initiateMedia psr context (sessionTypes
          (types.count tpMediaStreamTypeAudio) (types.count tpMediaStreamTypeVideo)))

/-- `purple_prpl_initiate_media` returns. -/
def initiateMediaReturns (s : HazeMediaChannel) (result : Bool) : Except Fault HazeMediaChannel :=
  match s.stack with
  | .initiateMedia psr context rest :: stack =>
      let s := { s with stack := stack }
      -- no error has been set
      if ¬ result then s.requestStreamsError (some psr) context none
      else .ok (s.initiateMedia psr context rest)
  | _ => .ok s

/-- A hangup returns. -/
def hangupReturns (s : HazeMediaChannel) : HazeMediaChannel :=
  match s.stack with
  | .closing disposing :: stack => { s with stack := stack }.finishClose disposing
  | .removing :: stack => { s with stack := stack }
  | _ => s

/-! ## Events -/

/-- What happens to a media channel. -/
inductive MediaEvent where
  | requestStreams (contactHandle : Nat) (types : List Nat) (caps : PurpleMediaCaps)
      (context : Nat)
  | initiateMediaReturns (result : Bool)
  | hangupReturns
  | initMedia
  | streamNew (mediaType : Nat)
  | streamEnd (id : Nat)
  | sessionEnd
  | close
  | removeMember
  | dispose

end HazeMediaChannel

open HazeMediaChannel in
/-- A media channel as a machine. -/
def mediaChannels : Machine HazeMediaChannel MediaEvent Fault where
  step
    | s, .requestStreams contactHandle types caps context =>
        s.mediaChannelRequestStreams contactHandle types caps context
    | s, .initiateMediaReturns result => s.initiateMediaReturns result
    | s, .hangupReturns => .ok s.hangupReturns
    | s, .initMedia => s.initMediaCb
    | s, .streamNew mediaType => s.streamNew mediaType
    | s, .streamEnd id => .ok (s.streamEnd id)
    | s, .sessionEnd => .ok s.sessionEnd
    | s, .close => .ok (s.hazeMediaChannelClose false)
    | s, .removeMember => .ok s.hazeMediaChannelRemoveMember
    | s, .dispose => .ok (s.hazeMediaChannelClose true)

/-! ## Memory -/

/-- The number of guints that there is room for in a `GArray` that has been given so many. GLib
allocates 16 bytes, or the next power of two. -/
def gArrayRoom (len : Nat) : Nat := max 4 (2 ^ Nat.clog 2 len)

/-- `g_memdup (types->data, types->len * sizeof (gpointer))` in `pending_stream_request_new`: the
types are guints, of which a pointer has the size of two. What follows the types is copied, and not
looked at. -/
def gMemdupTypes (types : List Nat) : Except Fault (List Nat) :=
  if gArrayRoom types.length < 2 * types.length then .error .outOfBounds else .ok types

/-- A media channel as an object, which is freed in the end. -/
structure MediaObject where
  chan : HazeMediaChannel
  /-- `haze_media_channel_dispose` and the finalizer are done -/
  freed : Bool

namespace MediaObject

open HazeMediaChannel

def init (protocol : String) (initialPeer : Nat) (media : Bool) : MediaObject where
  chan := .init protocol initialPeer media
  freed := false

/-- The types that `media_channel_request_streams` passes to `pending_stream_request_new`. -/
def copiedTypes (s : HazeMediaChannel) : MediaEvent → List Nat
  | .requestStreams contactHandle types _ _ =>
      if s.media ∧ s.initialPeer ≠ contactHandle then [] else types
  | _ => []

/-- The event, from `s` to `s'`, is the end of `haze_media_channel_dispose`, which may have to wait
for its hangup. -/
def disposed (s s' : HazeMediaChannel) : MediaEvent → Bool
  | .dispose => .closing true ∉ s'.stack
  | .hangupReturns => s.stack.head? = some (.closing true)
  | _ => false

end MediaObject

open MediaObject in
/-- A media channel as a machine with its memory. `init_media_cb` and the handlers of the session
stay connected when the channel is freed. -/
def mediaObjects : Machine MediaObject HazeMediaChannel.MediaEvent Fault where
  step s e :=
    if s.freed then .error .useAfterFree
    else
      match gMemdupTypes (copiedTypes s.chan e) with
      | .error fault => .error fault
      | .ok _ =>
          match mediaChannels.step s.chan e with
          | .error fault => .error fault
          | .ok chan => .ok ⟨chan, disposed s.chan chan e⟩

end Haze
