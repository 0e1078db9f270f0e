import Haze.Media.Closing
import Haze.Telepathy.GroupMixin

set_option autoImplicit false

/-! # The group of a media channel

A media channel is a group of the account and its peer. Whoever made the call is a member from the
start; a call that comes in makes the account local pending, and it answers by adding itself to the
members (`haze_media_channel_add_member`). libpurple reports who accepts and who leaves
(`media_stream_info_cb`), and the end of the session.

`AddMembers` and `RemoveMembers` go through the contacts one by one, and the call into libpurple
that one of them makes may call back, so what is left of them is kept in a frame until it returns.
-/

namespace Haze

/-- `PurpleMediaInfoType` -/
inductive PurpleMediaInfoType where
  | hangup
  | accept
  | reject
  | mute
  | unmute
  | pause
  | unpause
  | hold
  | unhold
  deriving DecidableEq

/-- `TpLocalHoldState` -/
inductive TpLocalHoldState where
  | unheld
  | held
  | pendingHold
  | pendingUnhold
  deriving DecidableEq

/-- What `AddMembers` and `RemoveMembers` answer. -/
inductive GroupReply where
  | returned
  /-- `TP_ERROR_PERMISSION_DENIED`: the flags do not allow it for the handle -/
  | permissionDenied (handle : Nat)
  /-- the handle is "not a current or pending member" -/
  | notMember (handle : Nat)
  | error (error : GError)
  /-- `FALSE` without an error -/
  | failed
  deriving DecidableEq

/-- The calls and signals of the group. -/
inductive GroupCall where
  | membersChanged (signal : MembersChanged)
  /-- `purple_media_stream_info` with `PURPLE_MEDIA_INFO_ACCEPT` -/
  | accept
  | reply (reply : GroupReply)
  deriving DecidableEq

/-- A method whose call into libpurple has not returned, with the contacts that are left. -/
inductive GroupFrame where
  | adding (rest : List Nat)
  | removing (rest : List Nat) (reason : TpChannelGroupChangeReason)
  deriving DecidableEq

/-- A media channel with its group. -/
structure MediaGroup where
  chan : HazeMediaChannel
  /-- `conn->self_handle`, which is that of the mixin -/
  selfHandle : Nat
  creator : Nat
  group : TpGroupMixin
  /-- `TP_CHANNEL_GROUP_FLAG_CAN_ADD` is set -/
  canAdd : Bool
  holdState : TpLocalHoldState
  frames : List GroupFrame
  calls : List GroupCall

namespace MediaGroup

/-- `tp_group_mixin_change_members` -/
def changeMembers (s : MediaGroup) (c : MembersChange) : MediaGroup :=
  { s with
    group := s.group.changeMembers c
    calls := s.calls ++ (s.group.membersChanged c).toList.map GroupCall.membersChanged }

/-- A method returns. -/
def reply (s : MediaGroup) (reply : GroupReply) : MediaGroup :=
  { s with calls := s.calls ++ [.reply reply] }

/-- `haze_media_channel_constructor` -/
def construct (protocol : String) (initialPeer : Nat) (media : Bool) (selfHandle : Nat) :
    Except Fault MediaGroup :=
  let creator := if media then initialPeer else selfHandle
  -- `g_assert (priv->creator != 0)`
  if creator = 0 then .error .assertion
  else
    let s : MediaGroup :=
      { chan := .init protocol initialPeer media
        selfHandle := selfHandle
        creator := creator
        group := .init
        canAdd := false
        holdState := .unheld
        frames := []
        calls := [] }
    let s := s.changeMembers (.adds (some "") {creator} 0 .none)
    if media then
      .ok (s.changeMembers (.addsLocalPending (some "") {selfHandle} initialPeer .invited))
    else .ok s

/-! ## Adding -/

/-- What `haze_media_channel_add_member` comes to. -/
inductive Added where
  | refused (error : GError)
  | pending (s : MediaGroup)
  /-- the acceptance is on its way to libpurple -/
  | accepting (s : MediaGroup)

/-- The account answers: it becomes a member, and libpurple is told that it accepts. -/
def answer (s : MediaGroup) : MediaGroup :=
  let s := s.changeMembers (.adds (some "") {s.selfHandle} s.selfHandle .none)
  -- "signal acceptance"
  { s with calls := s.calls ++ [.accept] }

/-- `haze_media_channel_add_member` -/
def hazeMediaChannelAddMember (s : MediaGroup) (handle : Nat) : Added :=
  if s.creator = s.selfHandle then
    if s.chan.media ∧ s.chan.initialPeer ≠ handle then
      .refused ⟨.notAvailable, "handle " ++ toString handle ++
        " cannot be added: this channel's peer is " ++ toString s.chan.initialPeer⟩
    else
      -- "make the peer remote pending"
      let s := s.changeMembers (.addsRemotePending (some "") {handle} s.selfHandle .invited)
      .pending { s with canAdd := false }
  else if s.chan.media ∧ handle = s.selfHandle ∧ handle ∈ s.group.localPending then
    if s.holdState ≠ .unheld then
      .refused ⟨.notAvailable, "Can't answer a call while it's on hold"⟩
    else .accepting s.answer
  else
    .refused ⟨.notAvailable, "handle " ++ toString handle ++
      " cannot be added in the current state"⟩

/-- `tp_group_mixin_add_members`, handle by handle. -/
def addHandles (s : MediaGroup) : List Nat → MediaGroup
  | [] => s.reply .returned
  | handle :: rest =>
      -- "already a member, skipping"
      if handle ∈ s.group.members then s.addHandles rest
      else
        match s.hazeMediaChannelAddMember handle with
        | .refused error => s.reply (.error error)
        | .pending s => s.addHandles rest
        | .accepting s => { s with frames := .adding rest :: s.frames }

/-- The handle may not be added. -/
def addRefused (s : MediaGroup) (handle : Nat) : Bool :=
  ¬ s.canAdd ∧ handle ∉ s.group.members ∧ handle ∉ s.group.localPending

/-- AddMembers -/
def addMembers (s : MediaGroup) (contacts : List Nat) : MediaGroup :=
  match contacts.find? s.addRefused with
  | some handle => s.reply (.permissionDenied handle)
  | none => s.addHandles contacts

/-! ## Removing -/

/-- `haze_media_channel_remove_member` as far as the call into libpurple; `none` when it returns
`FALSE`. -/
def hazeMediaChannelRemoveMember (s : MediaGroup) (handle : Nat)
    (reason : TpChannelGroupChangeReason) : Except Fault (Option MediaGroup) :=
  -- "We don't set CanRemove, and did allow self removal. So tp-glib should ensure this."
  if handle ≠ s.selfHandle then .error .assertion
  else if s.chan.media ∧ ¬ reason.hangsUp then .ok none
  else .ok (some { s with chan := s.chan.hazeMediaChannelRemoveMember })

/-- `tp_group_mixin_remove_members_with_reason`, handle by handle. -/
def removeHandles (s : MediaGroup) (reason : TpChannelGroupChangeReason) :
    List Nat → Except Fault MediaGroup
  | [] => .ok (s.reply .returned)
  | handle :: rest =>
      match s.hazeMediaChannelRemoveMember handle reason with
      | .error fault => .error fault
      | .ok none => .ok (s.reply .failed)
      | .ok (some s) => .ok { s with frames := .removing rest reason :: s.frames }

/-- Why the handle may not be removed: the account may always leave, and the flags that would let
others be removed are not set. -/
def removeRefused (s : MediaGroup) (handle : Nat) : Option GroupReply :=
  if handle = s.selfHandle ∧ handle ∈ s.group.all then none
  else if handle ∈ s.group.members ∨ handle ∈ s.group.remotePending then
    some (.permissionDenied handle)
  else if handle ∉ s.group.localPending then some (.notMember handle)
  else none

/-- RemoveMembers -/
def removeMembers (s : MediaGroup) (contacts : List Nat) (reason : TpChannelGroupChangeReason) :
    Except Fault MediaGroup :=
  match contacts.findSome? s.removeRefused with
  | some refusal => .ok (s.reply refusal)
  | none => s.removeHandles reason contacts

/-- The call into libpurple returns, and the method goes on. -/
def resume (s : MediaGroup) : Except Fault MediaGroup :=
  match s.frames with
  | [] => .ok s
  | .adding rest :: frames => .ok ({ s with frames := frames }.addHandles rest)
  | .removing rest reason :: frames =>
      { s with frames := frames, canAdd := false }.removeHandles reason rest

/-! ## What libpurple reports -/

/-- `media_stream_info_cb`, what it does to the group. -/
def mediaStreamInfoCb (s : MediaGroup) (type : PurpleMediaInfoType) (sid name : Option String)
    (isLocal : Bool) : MediaGroup :=
  let actor := if isLocal then s.selfHandle else s.chan.initialPeer
  match type with
  | .accept => s.changeMembers (.adds (some "") {actor} actor .none)
  | .reject | .hangup =>
      match sid with
      | some _ => s
      | none =>
          -- "Remove participant", or "Remove us"
          let leaver := if name.isSome then s.chan.initialPeer else s.selfHandle
          s.changeMembers (.removes none {leaver} actor .none)
  | _ => s

/-- What the end of the session does to the group. -/
def sessionEnded (s : MediaGroup) : MediaGroup :=
  s.changeMembers (.removes (some "Media session ended") {s.selfHandle, s.chan.initialPeer}
    s.selfHandle .none)

/-- What concerns the channel alone. -/
def Concerns (e : HazeMediaChannel.MediaEvent) : Prop :=
  e ≠ .sessionEnd ∧ e ≠ .removeMember ∧ e ≠ .dispose

/-- What happens to a media channel and its group, until it is disposed of. -/
inductive Event where
  | channel (e : HazeMediaChannel.MediaEvent) (h : Concerns e)
  | sessionEnd
  | streamInfo (type : PurpleMediaInfoType) (sid name : Option String) (isLocal : Bool)
  | addMembers (contacts : List Nat)
  | removeMembers (contacts : List Nat) (reason : TpChannelGroupChangeReason)
  /-- the call into libpurple of a method returns -/
  | resume

/-- A step of the channel. -/
def channelStep (s : MediaGroup) (e : HazeMediaChannel.MediaEvent) : Except Fault MediaGroup :=
  match mediaChannels.step s.chan e with
  | .error fault => .error fault
  | .ok chan => .ok { s with chan := chan }

end MediaGroup

open MediaGroup in
/-- A media channel with its group as a machine. The handlers of the session are connected while
there is one. -/
def mediaGroups : Machine MediaGroup MediaGroup.Event Fault where
  step
    | s, .channel e _ => s.channelStep e
    | s, .sessionEnd => s.sessionEnded.channelStep .sessionEnd
    | s, .streamInfo type sid name isLocal =>
        if s.chan.media then .ok (s.mediaStreamInfoCb type sid name isLocal) else .ok s
    | s, .addMembers contacts => .ok (s.addMembers contacts)
    | s, .removeMembers contacts reason => s.removeMembers contacts reason
    | s, .resume => s.resume

end Haze
