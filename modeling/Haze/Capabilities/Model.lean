import Haze.Basic.Flags
import Haze.Basic.Runs
import Haze.Telepathy.Asv
import Haze.Telepathy.Types

set_option autoImplicit false

/-! # `connection-capabilities.c`

The capabilities of a connection, with media enabled: what the clients have declared
(`client_caps`), what libpurple's media manager holds as the capabilities of the user
interface, and the D-Bus replies and signals, which are recorded in `calls`.

Two encodings of "audio" and "video" share the type `guint`: `PurpleMediaCaps` and the
type-specific flags of the StreamedMedia channel type.
-/

namespace Haze.Capabilities

/-- `PurpleMediaCaps` -/
abbrev PurpleMediaCaps := BitVec 32

def purpleMediaCapsNone : PurpleMediaCaps := 0#32
def purpleMediaCapsAudio : PurpleMediaCaps := 1#32
def purpleMediaCapsVideo : PurpleMediaCaps := 4#32

theorem purpleMediaCaps_flags :
    (Flags.Has purpleMediaCapsAudio purpleMediaCapsAudio ∧
      Flags.Has purpleMediaCapsVideo purpleMediaCapsVideo) ∧
    ¬ Flags.Has purpleMediaCapsAudio purpleMediaCapsVideo ∧
      ¬ Flags.Has purpleMediaCapsVideo purpleMediaCapsAudio := by decide

/-- `TpChannelMediaCapabilities` -/
abbrev TpChannelMediaCapabilities := BitVec 32

def tpChannelMediaCapabilityAudio : TpChannelMediaCapabilities := 1#32
def tpChannelMediaCapabilityVideo : TpChannelMediaCapabilities := 2#32

/-- `CapsFlags`, of one client. -/
abbrev CapsFlags := BitVec 32

def capsFlagsAudio : CapsFlags := 1#32
def capsFlagsVideo : CapsFlags := 2#32

theorem capsFlags_flags :
    (Flags.Has capsFlagsAudio capsFlagsAudio ∧ Flags.Has capsFlagsVideo capsFlagsVideo) ∧
    ¬ Flags.Has capsFlagsAudio capsFlagsVideo ∧ ¬ Flags.Has capsFlagsVideo capsFlagsAudio := by
  decide

/-- `TP_CONNECTION_CAPABILITY_FLAG_CREATE | TP_CONNECTION_CAPABILITY_FLAG_INVITE` -/
def tpConnectionCapabilityFlagCreateInvite : BitVec 32 := 1#32 ||| 2#32

def tpIfaceChannelTypeText : String := "org.freedesktop.Telepathy.Channel.Type.Text"

def tpIfaceChannelTypeStreamedMedia : String :=
  "org.freedesktop.Telepathy.Channel.Type.StreamedMedia"

def tpPropChannelChannelType : String := "org.freedesktop.Telepathy.Channel.ChannelType"

def tpPropChannelTargetHandle : String := "org.freedesktop.Telepathy.Channel.TargetHandle"

def tpPropChannelTypeStreamedMediaInitialAudio : String :=
  tpIfaceChannelTypeStreamedMedia ++ ".InitialAudio"

def tpPropChannelTypeStreamedMediaInitialVideo : String :=
  tpIfaceChannelTypeStreamedMedia ++ ".InitialVideo"

/-- `tp_flags_to_purple_caps` -/
def tpFlagsToPurpleCaps (flags : TpChannelMediaCapabilities) : PurpleMediaCaps :=
  let caps := purpleMediaCapsNone
  let caps := if Flags.Has flags tpChannelMediaCapabilityAudio
    then caps ||| purpleMediaCapsAudio else caps
  if Flags.Has flags tpChannelMediaCapabilityVideo then caps ||| purpleMediaCapsVideo else caps

/-- `purple_caps_to_tp_flags` -/
def purpleCapsToTpFlags (caps : PurpleMediaCaps) : TpChannelMediaCapabilities :=
  let flags := 0#32
  let flags := if Flags.Has caps purpleMediaCapsAudio
    then flags ||| tpChannelMediaCapabilityAudio else flags
  if Flags.Has caps purpleMediaCapsVideo then flags ||| tpChannelMediaCapabilityVideo else flags

/-! ## The state -/

/-- An entry of `AdvertiseCapabilities`' list `add`. -/
structure CapabilityPair where
  channelType : String
  flags : TpChannelMediaCapabilities

/-- An entry of `UpdateCapabilities`' list `clients`: the name of a client and the classes of
channels it handles. -/
structure ClientCaps where
  clientName : String
  rccs : List Asv

/-- `TP_STRUCT_TYPE_CONTACT_CAPABILITY` -/
structure ContactCapability where
  handle : Nat
  channelType : String
  generic : BitVec 32
  specific : TpChannelMediaCapabilities
  deriving DecidableEq

/-- `TP_STRUCT_TYPE_CAPABILITY_CHANGE` -/
structure CapabilityChange where
  handle : Nat
  channelType : String
  oldGeneric : BitVec 32
  newGeneric : BitVec 32
  oldSpecific : BitVec 32
  newSpecific : BitVec 32
  deriving DecidableEq

/-- `TP_STRUCT_TYPE_REQUESTABLE_CHANNEL_CLASS`; the target of each is a contact. -/
structure RequestableChannelClass where
  channelType : String
  allowed : List String
  deriving DecidableEq

/-- What goes out on the bus. -/
inductive CapabilityCall where
  | capabilitiesChanged (caps : List CapabilityChange)
  | contactCapabilitiesChanged (handle : Nat) (rccs : List RequestableChannelClass)
  /-- `TP_BASE_CONNECTION_ERROR_IF_NOT_CONNECTED` -/
  | returnNotConnected
  | returnFromAdvertiseCapabilities
  | returnFromUpdateCapabilities
  deriving DecidableEq

/-- An element is read past the end of a `GPtrArray`. -/
structure OutOfRange where
  index : Nat
  len : Nat
  deriving DecidableEq

/-- A connection and its capabilities. -/
structure CapabilityConnection where
  /-- `base->status` -/
  status : TpConnectionStatus
  /-- `base->self_handle` -/
  selfHandle : Nat
  /-- `purple_prpl_get_media_caps`, for the contact behind a handle -/
  prplMediaCaps : Nat → PurpleMediaCaps
  /-- `client_caps` -/
  clientCaps : AList (fun _ : String => CapsFlags)
  /-- `purple_media_manager_get_ui_caps`, one for the process -/
  uiCaps : PurpleMediaCaps
  calls : List CapabilityCall

namespace CapabilityConnection

/-- A connection that has just become connected; other connections may have set the
capabilities of the user interface. -/
def init (selfHandle : Nat) (prplMediaCaps : Nat → PurpleMediaCaps) (uiCaps : PurpleMediaCaps) :
    CapabilityConnection where
  status := .connected
  selfHandle := selfHandle
  prplMediaCaps := prplMediaCaps
  clientCaps := ∅
  uiCaps := uiCaps
  calls := []

/-- Record a call. -/
def call (s : CapabilityConnection) (c : CapabilityCall) : CapabilityConnection :=
  { s with calls := s.calls ++ [c] }

/-! ## Queries -/

/-- The capabilities of a handle, as both getters look them up. -/
def mediaCaps (s : CapabilityConnection) (handle : Nat) : PurpleMediaCaps :=
  if handle = s.selfHandle then s.uiCaps else s.prplMediaCaps handle

/-- `haze_connection_get_handle_capabilities`: what it adds to the array. -/
def getHandleCapabilities (s : CapabilityConnection) (handle : Nat) : List ContactCapability :=
  if handle = 0 then []
  else
    let typeflags := purpleCapsToTpFlags (s.mediaCaps handle)
    (if typeflags ≠ 0#32 then
      [⟨handle, tpIfaceChannelTypeStreamedMedia, tpConnectionCapabilityFlagCreateInvite,
        typeflags⟩]
    else []) ++
      -- `assumed_caps`
      [⟨handle, tpIfaceChannelTypeText, tpConnectionCapabilityFlagCreateInvite, 0#32⟩]

/-- `haze_connection_get_handle_contact_capabilities` -/
def getHandleContactCapabilities (s : CapabilityConnection) (handle : Nat) :
    List RequestableChannelClass :=
  if handle = 0 then []
  else
    let typeflags := purpleCapsToTpFlags (s.mediaCaps handle)
    (if typeflags ≠ 0#32 then
      [⟨tpIfaceChannelTypeStreamedMedia,
        if Flags.Has typeflags tpChannelMediaCapabilityVideo then
          [tpPropChannelTypeStreamedMediaInitialAudio,
            tpPropChannelTypeStreamedMediaInitialVideo]
        else [tpPropChannelTypeStreamedMediaInitialAudio]⟩]
    else []) ++
      [⟨tpIfaceChannelTypeText, [tpPropChannelTargetHandle]⟩]

/-! ## Changes -/

/-- `_emit_capabilities_changed` -/
def emitCapabilitiesChanged (s : CapabilityConnection) (handle : Nat)
    (oldSpecific newSpecific : BitVec 32) : CapabilityConnection :=
  let oldGeneric := if oldSpecific ≠ 0#32 then tpConnectionCapabilityFlagCreateInvite else 0#32
  let newGeneric := if newSpecific ≠ 0#32 then tpConnectionCapabilityFlagCreateInvite else 0#32
  let capsArr : List CapabilityChange :=
    if oldSpecific ≠ 0#32 ∨ newSpecific ≠ 0#32 then
      if oldSpecific ^^^ newSpecific ≠ 0#32 then
        [⟨handle, tpIfaceChannelTypeStreamedMedia, oldGeneric, newGeneric, oldSpecific,
          newSpecific⟩]
      else []
    else []
  if capsArr ≠ [] then
    let s := s.call (.capabilitiesChanged capsArr)
    s.call (.contactCapabilitiesChanged handle (s.getHandleContactCapabilities handle))
  else s

/-- What `CapabilitiesChanged` says when the flags of a handle change. -/
def capabilityChange (handle : Nat) (oldSpecific newSpecific : BitVec 32) : CapabilityChange where
  handle := handle
  channelType := tpIfaceChannelTypeStreamedMedia
  oldGeneric := if oldSpecific ≠ 0#32 then tpConnectionCapabilityFlagCreateInvite else 0#32
  newGeneric := if newSpecific ≠ 0#32 then tpConnectionCapabilityFlagCreateInvite else 0#32
  oldSpecific := oldSpecific
  newSpecific := newSpecific

theorem emitCapabilitiesChanged_self (s : CapabilityConnection) (handle : Nat)
    (flags : BitVec 32) : s.emitCapabilitiesChanged handle flags flags = s := by
  simp [emitCapabilitiesChanged]

theorem emitCapabilitiesChanged_ne (s : CapabilityConnection) (handle : Nat)
    {oldSpecific newSpecific : BitVec 32} (h : oldSpecific ≠ newSpecific) :
    s.emitCapabilitiesChanged handle oldSpecific newSpecific =
      (s.call (.capabilitiesChanged [capabilityChange handle oldSpecific newSpecific])).call
        (.contactCapabilitiesChanged handle (s.getHandleContactCapabilities handle)) := by
  have hor : oldSpecific ≠ 0#32 ∨ newSpecific ≠ 0#32 := by
    by_contra hnot
    obtain ⟨hold, hnew⟩ := not_or.mp hnot
    exact h ((not_not.mp hold).trans (not_not.mp hnew).symm)
  have hxor : oldSpecific ^^^ newSpecific ≠ 0#32 := fun h0 => h (BitVec.xor_eq_zero_iff.mp h0)
  unfold emitCapabilitiesChanged
  dsimp only
  rw [if_pos hor, if_pos hxor, if_pos (List.cons_ne_nil _ _)]
  rfl

/-- An emission changes nothing but the record of the calls. -/
theorem emitCapabilitiesChanged_frame (s : CapabilityConnection) (handle : Nat)
    (oldSpecific newSpecific : BitVec 32) :
    ∃ calls, s.emitCapabilitiesChanged handle oldSpecific newSpecific =
      { s with calls := s.calls ++ calls } := by
  by_cases h : oldSpecific = newSpecific
  · refine ⟨[], ?_⟩
    rw [h, emitCapabilitiesChanged_self, List.append_nil]
  · rw [emitCapabilitiesChanged_ne s handle h]
    simp only [call, List.append_assoc]
    exact ⟨_, rfl⟩

/-- The turn of the first loop of `haze_connection_advertise_capabilities` for a pair. -/
def addPair (caps : PurpleMediaCaps) (pair : CapabilityPair) : PurpleMediaCaps :=
  if pair.channelType = tpIfaceChannelTypeStreamedMedia
  then caps ||| tpFlagsToPurpleCaps pair.flags else caps

/-- `haze_connection_advertise_capabilities` -/
def advertiseCapabilities (s : CapabilityConnection) (add : List CapabilityPair)
    (del : List String) : CapabilityConnection :=
  if s.status ≠ .connected then s.call .returnNotConnected
  else
    let oldCaps := s.uiCaps
    let caps := add.foldl addPair oldCaps
    let caps := if tpIfaceChannelTypeStreamedMedia ∈ del then purpleMediaCapsNone else caps
    ({ s with uiCaps := caps }.emitCapabilitiesChanged s.selfHandle oldCaps caps).call
      .returnFromAdvertiseCapabilities

/-- What a class adds to the flags of its client. -/
def addClass (flags : CapsFlags) (cls : Asv) : CapsFlags :=
  if cls.tpAsvGetString tpPropChannelChannelType ≠ some tpIfaceChannelTypeStreamedMedia
  then flags
  else
    let flags := if cls.tpAsvGetBoolean tpPropChannelTypeStreamedMediaInitialAudio
      then flags ||| capsFlagsAudio else flags
    if cls.tpAsvGetBoolean tpPropChannelTypeStreamedMediaInitialVideo
    then flags ||| capsFlagsVideo else flags

/-- The inner loop of `haze_connection_update_capabilities` for the client at position `i`.
Every turn reads the class at position `i`: `g_ptr_array_index (rccs, i)`. -/
def clientFlags (i : Nat) (rccs : List Asv) : Except OutOfRange CapsFlags :=
  (List.range rccs.length).foldlM (fun flags _ =>
    match rccs[i]? with
    | some cls => .ok (addClass flags cls)
    | none => .error ⟨i, rccs.length⟩) 0#32

/-- The turn of the outer loop for the client at position `i`. -/
def updateClient (clientCaps : AList (fun _ : String => CapsFlags)) (e : ClientCaps × Nat) :
    Except OutOfRange (AList (fun _ : String => CapsFlags)) := do
  let clientCaps := clientCaps.erase e.1.clientName
  let flags ← clientFlags e.2 e.1.rccs
  if flags ≠ 0#32 then return clientCaps.insert e.1.clientName flags
  else return clientCaps

/-- What the flags of a client in the table add to the capabilities of the user interface. -/
def addClient (caps : PurpleMediaCaps) (e : Sigma (fun _ : String => CapsFlags)) :
    PurpleMediaCaps :=
  let caps := if Flags.Has e.2 capsFlagsAudio then caps ||| purpleMediaCapsAudio else caps
  if Flags.Has e.2 capsFlagsVideo then caps ||| purpleMediaCapsVideo else caps

/-- `haze_connection_update_capabilities` -/
def updateCapabilities (s : CapabilityConnection) (clients : List ClientCaps) :
    Except OutOfRange CapabilityConnection :=
  if s.status ≠ .connected then .ok (s.call .returnNotConnected)
  else do
    let oldCaps := s.uiCaps
    -- "go through all the clients and if they can do audio or video save it"
    let clientCaps ← clients.zipIdx.foldlM updateClient s.clientCaps
    let caps := clientCaps.entries.foldl addClient purpleMediaCapsNone
    let s := { s with clientCaps := clientCaps, uiCaps := caps }
    return (s.emitCapabilitiesChanged s.selfHandle oldCaps caps).call
      .returnFromUpdateCapabilities

/-- `caps_changed_cb`, for the handle of the buddy. -/
def capsChangedCb (s : CapabilityConnection) (contact : Nat) (caps oldcaps : PurpleMediaCaps) :
    CapabilityConnection :=
  s.emitCapabilitiesChanged contact (purpleCapsToTpFlags oldcaps) (purpleCapsToTpFlags caps)

/-- The D-Bus methods that set capabilities. -/
inductive CapabilityEvent where
  | advertiseCapabilities (add : List CapabilityPair) (del : List String)
  | updateCapabilities (clients : List ClientCaps)

/-- What one method call does. -/
def step (s : CapabilityConnection) : CapabilityEvent → Except OutOfRange CapabilityConnection
  | .advertiseCapabilities add del => .ok (s.advertiseCapabilities add del)
  | .updateCapabilities clients => s.updateCapabilities clients

end CapabilityConnection

/-- The capabilities of a connection as a machine. -/
def capabilities :
    Machine CapabilityConnection CapabilityConnection.CapabilityEvent OutOfRange where
  step := CapabilityConnection.step

end Haze.Capabilities
