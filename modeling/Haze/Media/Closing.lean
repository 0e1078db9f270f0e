import Haze.Media.Ensure

set_option autoImplicit false

/-! # How a media channel ends

A channel is closed by a call from the bus, by the removal of the local user, by the end of its
session, by the manager that closes all channels, and when it is disposed of. What asks libpurple
to hang up is called back when the session ends, before the hangup returns or later. A hangup that
has not returned is on the stack of its channel; the hangups of different channels may return in any
order, of which the order of the C stack is one.

A channel that is freed still has its handlers connected to the session, and `close_all` goes
through a copy of the list that holds no references: both may come upon a channel that is gone.
-/

namespace Haze

/-- The reasons for which `haze_media_channel_remove_member` hangs up: "The remaining options don't
make sense". -/
def TpChannelGroupChangeReason.hangsUp : TpChannelGroupChangeReason → Bool
  | .none => true
  | .offline => true
  | .busy => true
  | .error => true
  | .noAnswer => true
  | _ => false

/-- The hangup in `haze_media_channel_close`. -/
def MediaFrame.closes : MediaFrame → Bool
  | .closing _ => true
  | _ => false

/-- What the session of a channel is asked, what it reports, and the signal of the channel. -/
inductive EndCall where
  /-- a hangup, in `haze_media_channel_close` or in `haze_media_channel_remove_member` -/
  | hangup (closing : Bool)
  /-- the session is at its `END` -/
  | sessionEnd
  | closed
  deriving DecidableEq

/-- What a call of a channel says about its end. -/
def EndCall.ofCall (closing : Bool) : MediaCall → Option EndCall
  | .hangup => some (.hangup closing)
  | .closed => some .closed
  | _ => none

/-- What decides about the end of a channel, apart from the channel itself. -/
structure ChannelEnd where
  /-- the self handle is in the group -/
  selfMember : Bool
  disposeHasRun : Bool
  freed : Bool
  history : List EndCall

def ChannelEnd.init : ChannelEnd where
  selfMember := true
  disposeHasRun := false
  freed := false
  history := []

/-- The ways in which the process goes down, with the two assertions about the end of a channel. -/
inductive EndFault where
  | other (fault : Fault)
  /-- "g_assert (priv->closed)" -/
  | notClosed
  /-- "g_assert (priv->channels->len == 0)" -/
  | channelsLeft
  deriving DecidableEq

/-- The media manager, and what decides about the end of its channels. -/
structure MediaEnd where
  manager : HazeMediaManager
  ends : Nat → ChannelEnd
  /-- the copies of the list that are gone through, with the channels to come -/
  closing : List (List Nat)
  /-- the manager has been disposed of, or is about to be -/
  disposeHasRun : Bool

namespace MediaEnd

def init (protocol : String) (selfHandle : Nat) : MediaEnd where
  manager := .init protocol selfHandle
  ends := fun _ => .init
  closing := []
  disposeHasRun := false

/-- The calls that a channel makes as the manager goes from `m` to `m'`. -/
def newCalls (m m' : HazeMediaManager) (channel : Nat) : List MediaCall :=
  match m'.objects[channel]?, m.objects[channel]? with
  | none, _ => []
  | some o', none => o'.chan.calls
  | some o', some o => o'.chan.calls.drop o.chan.calls.length

/-- The manager and its channels go on, which is recorded. -/
def advance (s : MediaEnd) (closing : Bool) (r : Except Fault HazeMediaManager) :
    Except EndFault MediaEnd :=
  match r with
  | .error fault => .error (.other fault)
  | .ok m => .ok { s with
      manager := m
      ends := fun channel => { s.ends channel with
        history := (s.ends channel).history ++
          (newCalls s.manager m channel).filterMap (EndCall.ofCall closing) } }

def setEnd (s : MediaEnd) (channel : Nat) (f : ChannelEnd → ChannelEnd) : MediaEnd :=
  { s with ends := Function.update s.ends channel (f (s.ends channel)) }

/-! ## Closing -/

/-- `haze_media_channel_close` -/
def hazeMediaChannelClose (s : MediaEnd) (channel : Nat) : Except EndFault MediaEnd :=
  s.advance true (s.manager.withChannel channel (fun chan =>
    .ok (chan.hazeMediaChannelClose false)))

/-- `haze_media_channel_close_async`. A channel that is freed is not on the bus. -/
def closeAsync (s : MediaEnd) (channel : Nat) : Except EndFault MediaEnd :=
  if (s.ends channel).freed then .ok s else s.hazeMediaChannelClose channel

/-- `haze_media_channel_remove_member`, for the self handle. -/
def hazeMediaChannelRemoveMember (s : MediaEnd) (channel : Nat)
    (reason : TpChannelGroupChangeReason) : Except EndFault MediaEnd :=
  match s.manager.objects[channel]? with
  | none => .ok s
  | some o =>
      -- telepathy-glib refuses to remove who is not in the group
      if (s.ends channel).freed ∨ ¬ (s.ends channel).selfMember then .ok s
      else if o.chan.media ∧ ¬ reason.hangsUp then .ok s
      else s.advance false (s.manager.withChannel channel (fun chan =>
        .ok chan.hazeMediaChannelRemoveMember))

/-- `media_state_changed_cb` when the session comes to its `END`, which it does once. It takes the
self handle out of the group. -/
def sessionEnd (s : MediaEnd) (channel : Nat) : Except EndFault MediaEnd :=
  match s.manager.objects[channel]? with
  | none => .ok s
  | some o =>
      if ¬ o.chan.live then .ok s
      -- the handler is still connected
      else if (s.ends channel).freed then .error (.other .useAfterFree)
      else (s.setEnd channel (fun e => { e with
          selfMember := false
          history := e.history ++ [.sessionEnd] })).advance true
        (s.manager.withChannel channel (fun chan => .ok chan.sessionEnd))

/-- `media_stream_info_cb` for a hangup takes the self handle out of the group. -/
def selfRemoved (s : MediaEnd) (channel : Nat) : MediaEnd :=
  if channel < s.manager.objects.length then
    s.setEnd channel (fun e => { e with selfMember := false })
  else s

/-! ## Disposal -/

/-- The end of `haze_media_channel_dispose`. -/
def finishDispose (s : MediaEnd) (channel : Nat) : Except EndFault MediaEnd :=
  match s.manager.objects[channel]? with
  | none => .ok s
  | some o =>
      if ¬ o.chan.closed then .error .notClosed
      else .ok (s.setEnd channel (fun e => { e with freed := true }))

/-- `haze_media_channel_dispose`, and the finalizer. While the channel hangs up it is referenced, by
the manager's list or by `haze_media_channel_remove_member`. -/
def hazeMediaChannelDispose (s : MediaEnd) (channel : Nat) : Except EndFault MediaEnd :=
  match s.manager.objects[channel]? with
  | none => .ok s
  | some o =>
      if (s.ends channel).disposeHasRun ∨ ¬ o.chan.stack.all MediaFrame.initiates then .ok s
      else
        match (s.setEnd channel (fun e => { e with disposeHasRun := true })).advance true
            (s.manager.withChannel channel (fun chan =>
              .ok (chan.hazeMediaChannelClose true))) with
        | .error fault => .error fault
        | .ok s' =>
            -- the rest follows when the hangup returns
            if (s'.manager.objects[channel]?).any (fun o => o.chan.stack.any MediaFrame.closes)
            then .ok s'
            else s'.finishDispose channel

/-- A hangup returns. -/
def hangupReturns (s : MediaEnd) (channel : Nat) : Except EndFault MediaEnd :=
  let disposing := (s.manager.objects[channel]?).any (fun o =>
    o.chan.stack.head? = some (.closing true))
  match s.advance true (s.manager.withChannel channel (fun chan => .ok chan.hangupReturns)) with
  | .error fault => .error fault
  | .ok s => if disposing then s.finishDispose channel else .ok s

/-! ## The manager -/

/-- `haze_media_manager_close_all` copies the list. It is called when the connection is
disconnected, which is over when the manager is disposed of. -/
def closeAll (s : MediaEnd) : MediaEnd :=
  if s.disposeHasRun then s else { s with closing := s.manager.channels :: s.closing }

/-- The loop of `haze_media_manager_close_all`, and what follows it in
`haze_media_manager_dispose`. -/
def closeNext (s : MediaEnd) : Except EndFault MediaEnd :=
  match s.closing with
  | [] => .ok s
  | [] :: loops =>
      if s.disposeHasRun then
        -- not before the last hangup has returned
        if ¬ s.manager.Quiescent then .ok s
        else if s.manager.channels ≠ [] then .error .channelsLeft
        else .ok { s with closing := loops }
      else .ok { s with closing := loops }
  | (channel :: rest) :: loops =>
      -- the copy holds no references
      if (s.ends channel).freed then .error (.other .useAfterFree)
      else { s with closing := rest :: loops }.hazeMediaChannelClose channel

/-- `haze_media_manager_dispose`, called from the main loop. -/
def hazeMediaManagerDispose (s : MediaEnd) : MediaEnd :=
  if s.disposeHasRun ∨ ¬ s.manager.Quiescent ∨ s.closing ≠ [] then s
  else { s with disposeHasRun := true, closing := [s.manager.channels] }

/-- What is dealt with here and not by the manager's own model. -/
def endsChannel : HazeMediaChannel.MediaEvent → Bool
  | .hangupReturns => true
  | .sessionEnd => true
  | .close => true
  | .removeMember => true
  | .dispose => true
  | _ => false

/-- Whatever else happens to the manager and its channels. No channel is made for a manager that is
being disposed of: the connection is disconnected by then. -/
def goOn (s : MediaEnd) (e : HazeMediaManager.Event) : Except EndFault MediaEnd :=
  let next := s.advance true (mediaManagers.step s.manager e)
  match e with
  | .request _ _ _ _ => if s.disposeHasRun then .ok s else next
  | .initMedia _ _ => if s.disposeHasRun then .ok s else next
  | .requestStreams channel _ _ _ => if (s.ends channel).freed then .ok s else next
  | .channel channel e =>
      if endsChannel e then .ok s
      else if (s.ends channel).freed then .error (.other .useAfterFree)
      else next

/-- What happens to the channels and their manager. -/
inductive Event where
  | closeAsync (channel : Nat)
  | removeMember (channel : Nat) (reason : TpChannelGroupChangeReason)
  | selfRemoved (channel : Nat)
  | sessionEnd (channel : Nat)
  | hangupReturns (channel : Nat)
  | dispose (channel : Nat)
  | closeAll
  | closeNext
  | disposeManager
  | manager (e : HazeMediaManager.Event)

end MediaEnd

/-- The media manager with the ends of its channels, as a machine. -/
def mediaEnds : Machine MediaEnd MediaEnd.Event EndFault where
  step
    | s, .closeAsync channel => s.closeAsync channel
    | s, .removeMember channel reason => s.hazeMediaChannelRemoveMember channel reason
    | s, .selfRemoved channel => .ok (s.selfRemoved channel)
    | s, .sessionEnd channel => s.sessionEnd channel
    | s, .hangupReturns channel => s.hangupReturns channel
    | s, .dispose channel => s.hazeMediaChannelDispose channel
    | s, .closeAll => .ok s.closeAll
    | s, .closeNext => s.closeNext
    | s, .disposeManager => .ok s.hazeMediaManagerDispose
    | s, .manager e => s.goOn e

end Haze
