import Haze.Basic.Runs
import Haze.Telepathy.Asv

set_option autoImplicit false

/-! # `im-channel-factory.c` and `im-channel.c`

The IM channels of one connection: the factory's table, the channel objects it made, and
libpurple's conversations. A pointer to a channel is its place in `objects`, from which
nothing is ever taken away, so that what became of a closed channel can be said; the table
maps the handles of contacts to such pointers, and is `NULL` after the connection is lost.

A handle stands for a normalized name, and libpurple finds a conversation by the normalized
name, so the conversation of a contact is found by the handle of its name.
-/

namespace Haze

/-! ## The connection and libpurple -/

/-- What the IM channels use of their connection, of its contact handles and of libpurple's
text functions. -/
structure ImConnection where
  /-- `conn->object_path` -/
  objectPath : String
  /-- `base_conn->self_handle` -/
  selfHandle : Nat
  /-- `tp_handle_ensure` -/
  ensure : String → Nat
  /-- `tp_handle_inspect` -/
  inspect : Nat → String
  purpleStrdupWithhtml : String → String
  purpleMarkupStripHtml : String → String
  /-- `purple_message_meify`, with the text that is left -/
  purpleMessageMeify : String → Option String
  selfHandle_ne_zero : selfHandle ≠ 0
  ensure_ne_zero : ∀ name, ensure name ≠ 0
  ensure_inspect : ∀ name, ensure (inspect (ensure name)) = ensure name

/-- `PurpleConversationType` -/
inductive PurpleConversationType where
  | im
  | chat
  | misc
  deriving DecidableEq

/-- `PurpleTypingState` -/
inductive PurpleTypingState where
  | notTyping
  | typing
  | typed
  deriving DecidableEq

/-- `PurpleConvUpdateType`, as far as Haze tells them apart. -/
inductive PurpleConvUpdateType where
  | typing
  | other
  deriving DecidableEq

/-- The `PurpleMessageFlags` that Haze looks at. -/
structure PurpleMessageFlags where
  send : Bool := false
  recv : Bool := false
  autoResp : Bool := false
  error : Bool := false
  delayed : Bool := false
  deriving DecidableEq

/-- `HazeConversationUiData` -/
structure HazeConversationUiData where
  contactHandle : Nat
  deriving DecidableEq

/-- A `PurpleConversation`, with its address. -/
structure PurpleConversation where
  ptr : Nat
  type : PurpleConversationType
  name : String
  uiData : Option HazeConversationUiData
  deriving DecidableEq

/-! ## Messages -/

/-- `TpChannelTextMessageType` -/
inductive TpChannelTextMessageType where
  | normal
  | action
  | autoReply
  | deliveryReport
  deriving DecidableEq

/-- `TpDeliveryStatus` -/
inductive TpDeliveryStatus where
  | temporarilyFailed
  deriving DecidableEq

/-- A `TpMessage` with one plain-text part. -/
structure TpMessage where
  messageSender : Nat
  messageType : TpChannelTextMessageType
  messageSent : Option Int := none
  messageReceived : Option Int := none
  deliveryStatus : Option TpDeliveryStatus := none
  deliveryErrorMessage : Option String := none
  contentType : String := "text/plain"
  content : String
  deriving DecidableEq

/-- `_make_message` -/
def makeMessage (E : ImConnection) (handle : Nat) (textPlain : String)
    (flags : PurpleMessageFlags) (mtime now : Int) : TpMessage :=
  let (type, textPlain) :=
    if flags.autoResp then (TpChannelTextMessageType.autoReply, textPlain)
    else match E.purpleMessageMeify textPlain with
      | some rest => (.action, rest)
      | none => (.normal, textPlain)
  { messageSender := handle
    messageType := type
    messageSent := if flags.delayed ∨ mtime ≠ now then some mtime else none
    messageReceived := some now
    content := textPlain }

/-- `_make_delivery_report` -/
def makeDeliveryReport (handle : Nat) (textPlain : String) : TpMessage where
  messageSender := handle
  messageType := .deliveryReport
  -- "FIXME: we don't know that the failure is temporary"
  deliveryStatus := some .temporarilyFailed
  deliveryErrorMessage := some textPlain
  content := textPlain

/-- A message in the queue of a `TpMessageMixin`. -/
structure PendingMessage where
  /-- "pending-message-id" -/
  id : Nat
  rescued : Bool
  message : TpMessage
  deriving DecidableEq

/-- What identifies a pending message, whether it is rescued or not. -/
def PendingMessage.entry (m : PendingMessage) : Nat × TpMessage := (m.id, m.message)

/-! ## The state -/

/-- A `HazeIMChannel` with its message mixin. -/
structure HazeIMChannel where
  objectPath : String
  handle : Nat
  initiator : Nat
  conv : Option Nat := none
  closed : Bool := false
  pending : List PendingMessage := []
  /-- the id of the next message -/
  recvId : Nat := 0
  deriving DecidableEq

/-- The calls and signals of the factory and its channels. -/
inductive ImCall where
  /-- a critical warning: a `NULL` table or conversation is used -/
  | critical
  /-- `tp_channel_manager_emit_new_channel`, with the channel's properties -/
  | newChannel (chan : Nat) (path : String) (handle initiator : Nat) (requested : Bool)
      (tokens : List Nat)
  /-- `tp_channel_manager_emit_channel_closed_for_object` -/
  | channelClosed (path : String)
  /-- the signal `Closed` of a channel -/
  | closed (path : String)
  | requestFailed (token : Nat) (error : GError)
  | requestAlreadySatisfied (token : Nat) (path : String)
  /-- what `haze_im_channel_factory_request` returns for a token -/
  | requestReturns (token : Nat) (accepted : Bool)
  /-- `haze_write_im` -/
  | writeIm (handle : Nat) (xhtmlMessage : String) (flags : PurpleMessageFlags)
      (mtime now : Int)
  /-- `tp_message_mixin_take_received` -/
  | messageReceived (chan : Nat) (id : Nat) (message : TpMessage)
  /-- pending messages are acknowledged -/
  | pendingMessagesRemoved (chan : Nat) (messages : List (Nat × TpMessage))
  /-- `tp_message_mixin_clear` -/
  | messagesCleared (chan : Nat) (messages : List (Nat × TpMessage))
  | chatStateChanged (chan : Nat) (handle : Nat) (state : PurpleTypingState)
  deriving DecidableEq

/-- The IM channel factory, its channels, and libpurple's conversations. -/
structure HazeImChannelFactory where
  channels : Option (AList (fun _ : Nat => Nat))
  objects : List HazeIMChannel
  conversations : List PurpleConversation
  /-- the address of the next conversation -/
  nextConversation : Nat
  calls : List ImCall

namespace HazeImChannelFactory

/-- A new factory. -/
def init : HazeImChannelFactory := ⟨some ∅, [], [], 0, []⟩

variable (E : ImConnection)

/-- Record a call. -/
def call (s : HazeImChannelFactory) (c : ImCall) : HazeImChannelFactory :=
  { s with calls := s.calls ++ [c] }

/-- Write to a channel object. -/
def setObject (s : HazeImChannelFactory) (chan : Nat) (c : HazeIMChannel) :
    HazeImChannelFactory :=
  { s with objects := s.objects.set chan c }

/-! ## Conversations -/

/-- `haze_create_conversation`, with the `ui_data` of the conversation. -/
def hazeCreateConversation (type : PurpleConversationType) (who : String) :
    Except Fault (Option HazeConversationUiData) :=
  if type ≠ .im then .ok none
  else if E.ensure who = 0 then .error .assertion
  else .ok (some ⟨E.ensure who⟩)

/-- `purple_conversation_new`, which returns the conversation that is there already if there is
one, and else makes one and has Haze look at it. -/
def purpleConversationNew (s : HazeImChannelFactory) (type : PurpleConversationType)
    (name : String) : Except Fault (HazeImChannelFactory × Nat) :=
  match s.conversations.find? (fun d => d.type = type ∧ E.ensure d.name = E.ensure name) with
  | some d => .ok (s, d.ptr)
  | none =>
      match hazeCreateConversation E type name with
      | .error fault => .error fault
      | .ok uiData =>
          .ok ({ s with
            conversations := s.conversations ++ [⟨s.nextConversation, type, name, uiData⟩]
            nextConversation := s.nextConversation + 1 }, s.nextConversation)

/-- `purple_conversation_destroy`, with `haze_destroy_conversation`. -/
def purpleConversationDestroy (s : HazeImChannelFactory) :
    Option Nat → Except Fault HazeImChannelFactory
  | none => .ok (s.call .critical)
  | some conv =>
      if ∃ d ∈ s.conversations, d.ptr = conv then
        .ok { s with conversations := s.conversations.filter (fun d => d.ptr ≠ conv) }
      else .error .useAfterFree

/-! ## The table -/

/-- `g_hash_table_lookup` on the table. -/
def lookup (s : HazeImChannelFactory) (handle : Nat) : HazeImChannelFactory × Option Nat :=
  match s.channels with
  | none => (s.call .critical, none)
  | some t => (s, t.lookup handle)

/-- `g_hash_table_insert` on the table. -/
def insert (s : HazeImChannelFactory) (handle chan : Nat) : HazeImChannelFactory :=
  match s.channels with
  | none => s.call .critical
  | some t => { s with channels := some (t.insert handle chan) }

/-- `haze_im_channel_factory_foreach`, which only reads the channels. -/
def foreachChannel (s : HazeImChannelFactory) : HazeImChannelFactory :=
  match s.channels with
  | none => s.call .critical
  | some _ => s

/-! ## Closing -/

/-- `tp_channel_manager_emit_new_channel`, with what is read of the channel. -/
def emitNewChannel (s : HazeImChannelFactory) (chan : Nat) (c : HazeIMChannel)
    (tokens : List Nat) : HazeImChannelFactory :=
  s.call (.newChannel chan c.objectPath c.handle c.initiator (c.initiator = E.selfHandle) tokens)

/-- `im_channel_closed_cb` -/
def imChannelClosedCb (s : HazeImChannelFactory) (chan : Nat) (c : HazeIMChannel) :
    HazeImChannelFactory :=
  let s := s.call (.channelClosed c.objectPath)
  match s.channels with
  -- `close_all` has taken the table away
  | none => s
  | some t =>
      if c.closed then { s with channels := some (t.erase c.handle) }
      -- reopening "due to pending messages"
      else s.emitNewChannel E chan c []

/-- `tp_svc_channel_emit_closed`, which the factory hears too. -/
def emitClosed (s : HazeImChannelFactory) (chan : Nat) (c : HazeIMChannel) :
    HazeImChannelFactory :=
  (s.call (.closed c.objectPath)).imChannelClosedCb E chan c

/-- `haze_im_channel_close` -/
def hazeImChannelClose (s : HazeImChannelFactory) (chan : Nat) :
    Except Fault HazeImChannelFactory :=
  match s.objects[chan]? with
  | none => .ok s
  | some c =>
      if c.closed then .ok s
      else if c.pending ≠ [] then
        if c.initiator ≠ c.handle ∧ (c.initiator = 0 ∨ c.handle = 0) then .error .assertion
        else
          -- the channel comes back as one that its peer began
          let c := { c with
            initiator := c.handle
            pending := c.pending.map (fun m => { m with rescued := true }) }
          .ok ((s.setObject chan c).emitClosed E chan c)
      else
        match s.purpleConversationDestroy c.conv with
        | .error fault => .error fault
        | .ok s =>
            let c := { c with conv := none, closed := true }
            .ok ((s.setObject chan c).emitClosed E chan c)

/-- `haze_im_channel_destroy` -/
def hazeImChannelDestroy (s : HazeImChannelFactory) (chan : Nat) :
    Except Fault HazeImChannelFactory :=
  match s.objects[chan]? with
  | none => .ok s
  | some c =>
      let s := s.call (.messagesCleared chan (c.pending.map PendingMessage.entry))
      (s.setObject chan { c with pending := [] }).hazeImChannelClose E chan

/-- `haze_im_channel_dispose`, with the end of the message mixin. -/
def hazeImChannelDispose (s : HazeImChannelFactory) (chan : Nat) :
    Except Fault HazeImChannelFactory :=
  match s.objects[chan]? with
  | none => .ok s
  | some c =>
      if c.closed then .ok (s.setObject chan { c with pending := [] })
      else
        match s.purpleConversationDestroy c.conv with
        | .error fault => .error fault
        | .ok s =>
            let c := { c with conv := none }
            -- `closed` is set only after the signal
            let s := (s.setObject chan c).emitClosed E chan c
            .ok (s.setObject chan { c with closed := true, pending := [] })

/-- `close_all` -/
def closeAll (s : HazeImChannelFactory) : Except Fault HazeImChannelFactory :=
  match s.channels with
  | none => .ok s
  | some t =>
      (t.entries.map Sigma.snd).foldlM (hazeImChannelDispose E) { s with channels := none }

/-! ## Making channels -/

/-- `haze_im_channel_start` -/
def hazeImChannelStart (s : HazeImChannelFactory) (chan : Nat) (c : HazeIMChannel) :
    Except Fault HazeImChannelFactory :=
  match s.purpleConversationNew E .im (E.inspect c.handle) with
  | .error fault => .error fault
  | .ok (s, conv) => .ok (s.setObject chan { c with conv := some conv })

/-- `new_im_channel` -/
def newImChannel (s : HazeImChannelFactory) (handle initiator : Nat)
    (requestToken : Option Nat) : Except Fault (HazeImChannelFactory × Nat) :=
  let (s, chan) := s.lookup handle
  if chan ≠ none then .error .assertion
  -- `haze_im_channel_constructor`
  else if initiator = 0 then .error .assertion
  else
    let chan := s.objects.length
    let c : HazeIMChannel :=
      { objectPath := E.objectPath ++ "/ImChannel" ++ toString handle
        handle := handle
        initiator := initiator }
    let s := { s with objects := s.objects ++ [c] }.insert handle chan
    match s.hazeImChannelStart E chan c with
    | .error fault => .error fault
    | .ok s => .ok (s.emitNewChannel E chan c requestToken.toList, chan)

/-- `get_im_channel`, with `created`. -/
def getImChannel (s : HazeImChannelFactory) (handle initiator : Nat)
    (requestToken : Option Nat) : Except Fault (HazeImChannelFactory × Nat × Bool) :=
  match s.lookup handle with
  | (s, some chan) => .ok (s, chan, false)
  | (s, none) =>
      match s.newImChannel E handle initiator requestToken with
      | .error fault => .error fault
      | .ok (s, chan) => .ok (s, chan, true)

/-! ## What libpurple tells -/

/-- `tp_message_mixin_take_received` -/
def takeReceived (s : HazeImChannelFactory) (chan : Nat) (message : TpMessage) :
    HazeImChannelFactory :=
  match s.objects[chan]? with
  | none => s
  | some c =>
      (s.setObject chan { c with
        pending := c.pending ++ [⟨c.recvId, false, message⟩]
        recvId := c.recvId + 1 }).call (.messageReceived chan c.recvId message)

/-- `haze_im_channel_receive`; `handle` is the channel's. -/
def hazeImChannelReceive (s : HazeImChannelFactory) (chan handle : Nat) (xhtmlMessage : String)
    (flags : PurpleMessageFlags) (mtime now : Int) : HazeImChannelFactory :=
  let textPlain := E.purpleMarkupStripHtml (E.purpleStrdupWithhtml xhtmlMessage)
  if flags.recv then s.takeReceived chan (makeMessage E handle textPlain flags mtime now)
  -- "the message mixin emitted sent for us"
  else if flags.send then s
  else if flags.error then s.takeReceived chan (makeDeliveryReport handle textPlain)
  else s

/-- The conversation at an address. -/
def conversation (s : HazeImChannelFactory) (conv : Nat) : Option PurpleConversation :=
  s.conversations.find? (fun d => d.ptr = conv)

/-- `haze_write_im` -/
def hazeWriteIm (s : HazeImChannelFactory) (d : PurpleConversation) (xhtmlMessage : String)
    (flags : PurpleMessageFlags) (mtime now : Int) : Except Fault HazeImChannelFactory :=
  match d.uiData with
  | none => .error .nullDereference
  | some uiData =>
      let s := s.call (.writeIm uiData.contactHandle xhtmlMessage flags mtime now)
      match s.getImChannel E uiData.contactHandle uiData.contactHandle none with
      | .error fault => .error fault
      | .ok (s, chan, _) =>
          .ok (s.hazeImChannelReceive E chan uiData.contactHandle xhtmlMessage flags mtime now)

/-- `haze_write_conv` -/
def hazeWriteConv (s : HazeImChannelFactory) (d : PurpleConversation) (message : String)
    (flags : PurpleMessageFlags) (mtime now : Int) : Except Fault HazeImChannelFactory :=
  if d.type = .im then s.hazeWriteIm E d message flags mtime now else .ok s

/-- `conversation_updated_cb` -/
def conversationUpdatedCb (s : HazeImChannelFactory) (d : PurpleConversation)
    (type : PurpleConvUpdateType) (state : PurpleTypingState) :
    Except Fault HazeImChannelFactory :=
  if type ≠ .typing then .ok s
  else if d.type ≠ .im then .ok s
  else
    match d.uiData with
    | none => .error .nullDereference
    | some uiData =>
        match s.getImChannel E uiData.contactHandle uiData.contactHandle none with
        | .error fault => .error fault
        | .ok (s, chan, _) => .ok (s.call (.chatStateChanged chan uiData.contactHandle state))

/-! ## Requests -/

/-- `TP_IFACE_CHANNEL` -/
def tpIfaceChannel : String := "org.freedesktop.Telepathy.Channel"

/-- `TP_IFACE_CHANNEL_TYPE_TEXT` -/
def tpIfaceChannelTypeText : String := "org.freedesktop.Telepathy.Channel.Type.Text"

/-- `TP_HANDLE_TYPE_CONTACT` -/
def tpHandleTypeContact : Nat := 1

/-- `fixed_properties` -/
def fixedProperties : List String :=
  [tpIfaceChannel ++ ".ChannelType", tpIfaceChannel ++ ".TargetHandleType"]

/-- `allowed_properties` -/
def allowedProperties : List String :=
  [tpIfaceChannel ++ ".TargetHandle", tpIfaceChannel ++ ".TargetID"]

/-- `haze_im_channel_factory_request`, with what it returns. -/
def hazeImChannelFactoryRequest (s : HazeImChannelFactory) (requestToken : Nat)
    (requestProperties : Asv) (requireNew : Bool) :
    Except Fault (HazeImChannelFactory × Bool) :=
  if requestProperties.tpAsvGetString (tpIfaceChannel ++ ".ChannelType") ≠
      some tpIfaceChannelTypeText then .ok (s, false)
  else if requestProperties.tpAsvGetUint32 (tpIfaceChannel ++ ".TargetHandleType") ≠
      tpHandleTypeContact then .ok (s, false)
  else
    let handle := requestProperties.tpAsvGetUint32 (tpIfaceChannel ++ ".TargetHandle")
    if handle = 0 then .error .assertion
    else
      match requestProperties.tpChannelManagerAsvHasUnknownProperties fixedProperties
          allowedProperties with
      | some error => .ok (s.call (.requestFailed requestToken error), true)
      | none =>
          match s.getImChannel E handle E.selfHandle (some requestToken) with
          | .error fault => .error fault
          -- `NewChannel` has carried the token
          | .ok (s, _, true) => .ok (s, true)
          | .ok (s, chan, false) =>
              if requireNew then
                .ok (s.call (.requestFailed requestToken
                  ⟨.notAvailable, "Channel already exists"⟩), true)
              else
                match s.objects[chan]? with
                | none => .error .useAfterFree
                | some c => .ok (s.call (.requestAlreadySatisfied requestToken c.objectPath), true)

/-! ## Events -/

/-- `AcknowledgePendingMessages`: all of the messages, or an error. -/
def acknowledgePendingMessages (s : HazeImChannelFactory) (chan : Nat) (ids : List Nat) :
    HazeImChannelFactory :=
  match s.objects[chan]? with
  | none => s
  | some c =>
      if ∀ id ∈ ids, ∃ m ∈ c.pending, m.id = id then
        (s.setObject chan { c with pending := c.pending.filter (fun m => m.id ∉ ids) }).call
          (.pendingMessagesRemoved chan
            ((c.pending.filter (fun m => m.id ∈ ids)).map PendingMessage.entry))
      else s

/-- What happens to the factory and its channels: requests, libpurple's callbacks, and the
D-Bus methods of a channel. -/
inductive ImEvent where
  /-- `CreateChannel` when a new channel is required, else `EnsureChannel` and
  `RequestChannel` -/
  | request (token : Nat) (properties : Asv) (requireNew : Bool)
  | foreachChannel
  | conversationNew (type : PurpleConversationType) (name : String)
  | writeIm (conv : Nat) (message : String) (flags : PurpleMessageFlags) (mtime now : Int)
  | writeConv (conv : Nat) (message : String) (flags : PurpleMessageFlags) (mtime now : Int)
  | conversationUpdated (conv : Nat) (type : PurpleConvUpdateType) (state : PurpleTypingState)
  | acknowledge (chan : Nat) (ids : List Nat)
  | close (chan : Nat)
  | destroy (chan : Nat)
  /-- the status becomes `DISCONNECTED` -/
  | disconnected

/-- Call back about a conversation. -/
def withConversation (s : HazeImChannelFactory) (conv : Nat)
    (f : PurpleConversation → Except Fault HazeImChannelFactory) :
    Except Fault HazeImChannelFactory :=
  match s.conversation conv with
  | none => .error .useAfterFree
  | some d => f d

/-- What one event does. -/
def step (s : HazeImChannelFactory) : ImEvent → Except Fault HazeImChannelFactory
  | .request token properties requireNew =>
      match s.hazeImChannelFactoryRequest E token properties requireNew with
      | .error fault => .error fault
      | .ok (s, accepted) => .ok (s.call (.requestReturns token accepted))
  | .foreachChannel => .ok s.foreachChannel
  | .conversationNew type name =>
      match s.purpleConversationNew E type name with
      | .error fault => .error fault
      | .ok (s, _) => .ok s
  | .writeIm conv message flags mtime now =>
      s.withConversation conv (fun d => s.hazeWriteIm E d message flags mtime now)
  | .writeConv conv message flags mtime now =>
      s.withConversation conv (fun d => s.hazeWriteConv E d message flags mtime now)
  | .conversationUpdated conv type state =>
      s.withConversation conv (fun d => s.conversationUpdatedCb E d type state)
  | .acknowledge chan ids => .ok (s.acknowledgePendingMessages chan ids)
  | .close chan => s.hazeImChannelClose E chan
  | .destroy chan => s.hazeImChannelDestroy E chan
  | .disconnected => s.closeAll E

end HazeImChannelFactory

/-- The IM channels of a connection as a machine. -/
def imChannels (E : ImConnection) :
    Machine HazeImChannelFactory HazeImChannelFactory.ImEvent Fault where
  step := HazeImChannelFactory.step E

end Haze
