import Haze.Basic.Numbered
import Haze.ImChannel.Model

set_option autoImplicit false

/-! # What an event does to the IM channels

While the connection is up, an event does a few things out of seven: a call is logged, a
conversation is added, a channel is opened, receives a message, loses some of its messages, is
announced again, or is closed. `Change` lists them, each with what holds when it is done, and
`Changes` puts them one after another, with the tokens they answer and the messages they take
in. What is said of every run is then proved for each change once.

`Sound` is what ties the table to the channel objects, and these to libpurple's conversations;
`step_changes` derives from it that an event goes through and what it does.
-/

namespace Haze

/-- The object path of the channel to a contact. -/
def channelPath (E : ImConnection) (handle : Nat) : String :=
  E.objectPath ++ "/ImChannel" ++ toString handle

theorem channelPath_injective (E : ImConnection) {handle handle' : Nat}
    (h : channelPath E handle = channelPath E handle') : handle = handle' :=
  Numbered.append_toString_injective _ h

namespace ImCall

/-- The tokens that are answered. -/
def answers : ImCall → List Nat
  | .newChannel _ _ _ _ _ tokens => tokens
  | .requestFailed token _ => [token]
  | .requestAlreadySatisfied token _ => [token]
  | _ => []

/-- The calls that concern no channel's announcement and no message. -/
def plain : ImCall → Bool
  | .requestFailed _ _ => true
  | .requestAlreadySatisfied _ _ => true
  | .chatStateChanged _ _ _ => true
  | _ => false

/-- The message that libpurple writes for a contact. A message that the contact sent or that
could not be delivered is received, unless it is flagged as sent by the user. -/
def carries (E : ImConnection) : ImCall → Option TpMessage
  | .writeIm handle xhtmlMessage flags mtime now =>
      let textPlain := E.purpleMarkupStripHtml (E.purpleStrdupWithhtml xhtmlMessage)
      if flags.recv then some (makeMessage E handle textPlain flags mtime now)
      else if flags.error ∧ ¬ flags.send then some (makeDeliveryReport handle textPlain)
      else none
  | _ => none

/-- The messages that leave a channel's queue. -/
def removes : ImCall → Option (Nat × List (Nat × TpMessage))
  | .pendingMessagesRemoved chan messages => some (chan, messages)
  | .messagesCleared chan messages => some (chan, messages)
  | _ => none

end ImCall

namespace HazeImChannelFactory

variable {E : ImConnection} {s s' : HazeImChannelFactory} {t : AList (fun _ : Nat => Nat)}

/-! ## The changes -/

/-- A channel is opened and announced. -/
def openChannel (E : ImConnection) (s : HazeImChannelFactory) (t : AList (fun _ : Nat => Nat))
    (handle initiator conv : Nat) (tokens : List Nat) : HazeImChannelFactory :=
  { s with
    channels := some (t.insert handle s.objects.length)
    objects := s.objects ++
      [⟨channelPath E handle, handle, initiator, some conv, false, [], 0⟩]
    calls := s.calls ++ [.newChannel s.objects.length (channelPath E handle) handle initiator
      (initiator = E.selfHandle) tokens] }

/-- The channel after `Close` with messages pending. -/
def rescuedChannel (c : HazeIMChannel) : HazeIMChannel :=
  { c with
    initiator := c.handle
    pending := c.pending.map (fun m => { m with rescued := true }) }

/-- The channel is closed and announced again. -/
def rescueChannel (E : ImConnection) (s : HazeImChannelFactory) (chan : Nat)
    (c : HazeIMChannel) : HazeImChannelFactory :=
  { s.setObject chan (rescuedChannel c) with
    calls := s.calls ++ [.closed c.objectPath] ++ [.channelClosed c.objectPath] ++
      [.newChannel chan c.objectPath c.handle c.handle (c.handle = E.selfHandle) []] }

/-- The channel is closed for good. -/
def closeChannel (s : HazeImChannelFactory) (t : AList (fun _ : Nat => Nat)) (chan : Nat)
    (c : HazeIMChannel) (conv : Nat) : HazeImChannelFactory :=
  { s.setObject chan { c with conv := none, closed := true } with
    channels := some (t.erase c.handle)
    conversations := s.conversations.filter (fun d => d.ptr ≠ conv)
    calls := s.calls ++ [.closed c.objectPath] ++ [.channelClosed c.objectPath] }

/-- One change, with the tokens that it answers and the messages that it takes in. -/
inductive Change (E : ImConnection) :
    HazeImChannelFactory → List Nat → List TpMessage → HazeImChannelFactory → Prop
  | log (s : HazeImChannelFactory) (call : ImCall) (hplain : call.plain = true) :
      Change E s call.answers [] (s.call call)
  | conversation (s : HazeImChannelFactory) (type : PurpleConversationType) (name : String)
      (uiData : Option HazeConversationUiData)
      (huiData : type = .im → uiData = some ⟨E.ensure name⟩) :
      Change E s [] [] { s with
        conversations := s.conversations ++ [⟨s.nextConversation, type, name, uiData⟩]
        nextConversation := s.nextConversation + 1 }
  | opened (s : HazeImChannelFactory) (t : AList (fun _ : Nat => Nat)) (handle initiator : Nat)
      (d : PurpleConversation) (tokens : List Nat) (hchannels : s.channels = some t)
      (hfree : t.lookup handle = none) (hd : d ∈ s.conversations)
      (huiData : d.uiData = some ⟨handle⟩) (hhandle : handle ≠ 0) (hinitiator : initiator ≠ 0) :
      Change E s tokens [] (openChannel E s t handle initiator d.ptr tokens)
  | received (s : HazeImChannelFactory) (chan : Nat) (c : HazeIMChannel) (message : TpMessage)
      (hc : s.objects[chan]? = some c) (hopen : c.closed = false)
      (hsender : message.messageSender = c.handle) :
      Change E s [] [message] (s.takeReceived chan message)
  | removed (s : HazeImChannelFactory) (chan : Nat) (c : HazeIMChannel)
      (p : PendingMessage → Bool) (call : ImCall) (hc : s.objects[chan]? = some c)
      (hremoves : call.removes = some (chan, (c.pending.filter p).map PendingMessage.entry)) :
      Change E s [] []
        ((s.setObject chan { c with pending := c.pending.filter (fun m => !p m) }).call call)
  | rescued (s : HazeImChannelFactory) (chan : Nat) (c : HazeIMChannel)
      (hc : s.objects[chan]? = some c) (hopen : c.closed = false) :
      Change E s [] [] (rescueChannel E s chan c)
  | closed (s : HazeImChannelFactory) (t : AList (fun _ : Nat => Nat)) (chan : Nat)
      (c : HazeIMChannel) (conv : Nat) (hchannels : s.channels = some t)
      (hc : s.objects[chan]? = some c) (hopen : c.closed = false) (hpending : c.pending = [])
      (hconv : c.conv = some conv) :
      Change E s [] [] (closeChannel s t chan c conv)

/-- Changes one after another. -/
inductive Changes (E : ImConnection) :
    HazeImChannelFactory → List Nat → List TpMessage → HazeImChannelFactory → Prop
  | none (s : HazeImChannelFactory) : Changes E s [] [] s
  | next {s s' s'' : HazeImChannelFactory} {answered answered' : List Nat}
      {taken taken' : List TpMessage} (h : Changes E s answered taken s')
      (h' : Change E s' answered' taken' s'') :
      Changes E s (answered ++ answered') (taken ++ taken') s''

theorem Changes.trans {s'' : HazeImChannelFactory} {answered answered' : List Nat}
    {taken taken' : List TpMessage} (h : Changes E s answered taken s')
    (h' : Changes E s' answered' taken' s'') :
    Changes E s (answered ++ answered') (taken ++ taken') s'' := by
  induction h' with
  | none => simpa using h
  | next _ hchange ih =>
      rw [← List.append_assoc, ← List.append_assoc]
      exact ih.next hchange

theorem Change.changes {answered : List Nat} {taken : List TpMessage}
    (h : Change E s answered taken s') : Changes E s answered taken s' :=
  (Changes.none s).next h

/-! ## The table, the channels and the conversations -/

/-- A channel object as it is between events. -/
structure Well (E : ImConnection) (s : HazeImChannelFactory) (c : HazeIMChannel) : Prop where
  path : c.objectPath = channelPath E c.handle
  handle : c.handle ≠ 0
  initiator : c.initiator ≠ 0
  /-- a closed channel has neither a conversation nor messages -/
  closed : c.closed = true → c.conv = none ∧ c.pending = []
  /-- an open channel has libpurple's conversation with its contact -/
  conv : c.closed = false →
    ∃ d ∈ s.conversations, c.conv = some d.ptr ∧ d.uiData = some ⟨c.handle⟩

/-- The table has the channels that are not closed, under their handles, and libpurple's
conversations belong to the contacts that their names are the names of. -/
structure Sound (E : ImConnection) (t : AList (fun _ : Nat => Nat))
    (s : HazeImChannelFactory) : Prop where
  channels : s.channels = some t
  lookup : ∀ (handle chan : Nat), t.lookup handle = some chan ↔
    ∃ c, s.objects[chan]? = some c ∧ c.handle = handle ∧ c.closed = false
  well : ∀ (chan : Nat) c, s.objects[chan]? = some c → Well E s c
  uiData : ∀ d ∈ s.conversations, d.type = .im → d.uiData = some ⟨E.ensure d.name⟩
  ptr_lt : ∀ d ∈ s.conversations, d.ptr < s.nextConversation
  ptr_inj : ∀ d ∈ s.conversations, ∀ d' ∈ s.conversations, d.ptr = d'.ptr → d = d'

theorem sound_init (E : ImConnection) : Sound E ∅ init where
  channels := rfl
  lookup := by simp [init]
  well := by simp [init]
  uiData := by simp [init]
  ptr_lt := by simp [init]
  ptr_inj := by simp [init]

/-- The channels do not mind what is logged. -/
theorem Sound.call (hs : Sound E t s) (c : ImCall) : Sound E t (s.call c) :=
  ⟨hs.channels, hs.lookup, fun chan c hc =>
    ⟨(hs.well chan c hc).path, (hs.well chan c hc).handle, (hs.well chan c hc).initiator,
      (hs.well chan c hc).closed, (hs.well chan c hc).conv⟩, hs.uiData, hs.ptr_lt, hs.ptr_inj⟩

/-- Two open channels are for two contacts. -/
theorem Sound.handle_inj (hs : Sound E t s) {chan chan' : Nat} {c c' : HazeIMChannel}
    (hc : s.objects[chan]? = some c) (hc' : s.objects[chan']? = some c')
    (hopen : c.closed = false) (hopen' : c'.closed = false) (hhandle : c.handle = c'.handle) :
    chan = chan' := by
  have hlookup := (hs.lookup c.handle chan).mpr ⟨c, hc, rfl, hopen⟩
  have hlookup' := (hs.lookup c.handle chan').mpr ⟨c', hc', hhandle.symm, hopen'⟩
  rw [hlookup] at hlookup'
  exact Option.some.inj hlookup'

theorem getElem?_concat_eq_some {α : Type*} {l : List α} {x y : α} {i : Nat} :
    (l ++ [x])[i]? = some y ↔ l[i]? = some y ∨ i = l.length ∧ x = y := by
  rcases Nat.lt_trichotomy i l.length with hlt | rfl | hgt
  · rw [List.getElem?_append_left hlt]
    simp [Nat.ne_of_lt hlt]
  · simp
  · have hnot : ¬ i < (l ++ [x]).length := by
      rw [List.length_append, List.length_singleton]
      omega
    rw [List.getElem?_eq_none (Nat.le_of_not_lt hnot), List.getElem?_eq_none (by omega)]
    simp [Nat.ne_of_gt hgt]

theorem getElem?_set_eq_some {α : Type*} {l : List α} {x y z : α} {i j : Nat}
    (hi : l[i]? = some z) :
    (l.set i x)[j]? = some y ↔ j = i ∧ x = y ∨ j ≠ i ∧ l[j]? = some y := by
  have hlt : i < l.length := (List.getElem?_eq_some_iff.mp hi).1
  by_cases hij : i = j
  · subst hij
    simp [hlt]
  · rw [List.getElem?_set_ne hij]
    simp [Ne.symm hij, eq_comm]

/-- A channel object is written to, and stays in the table if it was there. -/
theorem Sound.setObject (hs : Sound E t s) {chan : Nat} {c : HazeIMChannel}
    (hc : s.objects[chan]? = some c) (c' : HazeIMChannel) (hhandle : c'.handle = c.handle)
    (hclosed : c'.closed = c.closed) (hwell : Well E s c') :
    Sound E t (s.setObject chan c') := by
  refine ⟨hs.channels, fun handle chan' => ?_, fun chan' d hd => ?_, hs.uiData, hs.ptr_lt,
    hs.ptr_inj⟩
  · rw [hs.lookup]
    constructor
    · rintro ⟨d, hd, hdhandle, hdopen⟩
      by_cases hchan : chan' = chan
      · subst hchan
        rw [hc] at hd
        cases hd
        exact ⟨c', (getElem?_set_eq_some hc).mpr (Or.inl ⟨rfl, rfl⟩), hhandle.trans hdhandle,
          hclosed.trans hdopen⟩
      · exact ⟨d, (getElem?_set_eq_some hc).mpr (Or.inr ⟨hchan, hd⟩), hdhandle, hdopen⟩
    · rintro ⟨d, hd, hdhandle, hdopen⟩
      rcases (getElem?_set_eq_some hc).mp hd with ⟨rfl, rfl⟩ | ⟨-, hd⟩
      · exact ⟨c, hc, hhandle.symm.trans hdhandle, hclosed.symm.trans hdopen⟩
      · exact ⟨d, hd, hdhandle, hdopen⟩
  · rcases (getElem?_set_eq_some hc).mp hd with ⟨-, rfl⟩ | ⟨-, hd⟩
    · exact ⟨hwell.path, hwell.handle, hwell.initiator, hwell.closed, hwell.conv⟩
    · have h := hs.well chan' d hd
      exact ⟨h.path, h.handle, h.initiator, h.closed, h.conv⟩

theorem Sound.conversation (hs : Sound E t s) {type : PurpleConversationType} {name : String}
    {uiData : Option HazeConversationUiData}
    (huiData : type = .im → uiData = some ⟨E.ensure name⟩) :
    Sound E t { s with
      conversations := s.conversations ++ [⟨s.nextConversation, type, name, uiData⟩]
      nextConversation := s.nextConversation + 1 } := by
  refine ⟨hs.channels, hs.lookup, fun chan c hc => ?_, fun d hd htype => ?_, fun d hd => ?_,
    fun d hd d' hd' hptr => ?_⟩
  · have h := hs.well chan c hc
    refine ⟨h.path, h.handle, h.initiator, h.closed, fun hopen => ?_⟩
    obtain ⟨d, hd, hconv, hdata⟩ := h.conv hopen
    exact ⟨d, List.mem_append_left _ hd, hconv, hdata⟩
  · rcases List.mem_append.mp hd with hd | hd
    · exact hs.uiData d hd htype
    · rw [List.mem_singleton] at hd
      subst hd
      exact huiData htype
  · rcases List.mem_append.mp hd with hd | hd
    · exact Nat.lt_succ_of_lt (hs.ptr_lt d hd)
    · rw [List.mem_singleton] at hd
      rw [hd]
      exact Nat.lt_succ_self _
  · -- the new conversation has a new address
    rcases List.mem_append.mp hd with hd | hd <;> rcases List.mem_append.mp hd' with hd' | hd'
    · exact hs.ptr_inj d hd d' hd' hptr
    · rw [List.mem_singleton] at hd'
      rw [hd'] at hptr
      exact absurd hptr (Nat.ne_of_lt (hs.ptr_lt d hd))
    · rw [List.mem_singleton] at hd
      rw [hd] at hptr
      exact absurd hptr.symm (Nat.ne_of_lt (hs.ptr_lt d' hd'))
    · rw [List.mem_singleton] at hd hd'
      rw [hd, hd']

theorem Sound.openChannel (hs : Sound E t s) {handle initiator : Nat} {d : PurpleConversation}
    (tokens : List Nat) (hfree : t.lookup handle = none) (hd : d ∈ s.conversations)
    (huiData : d.uiData = some ⟨handle⟩) (hhandle : handle ≠ 0) (hinitiator : initiator ≠ 0) :
    Sound E (t.insert handle s.objects.length)
      (openChannel E s t handle initiator d.ptr tokens) := by
  refine ⟨rfl, fun handle' chan' => ?_, fun chan' c hc => ?_, hs.uiData, hs.ptr_lt, hs.ptr_inj⟩
  · by_cases hsame : handle' = handle
    · subst hsame
      rw [AList.lookup_insert, Option.some.injEq]
      constructor
      · rintro rfl
        exact ⟨_, getElem?_concat_eq_some.mpr (Or.inr ⟨rfl, rfl⟩), rfl, rfl⟩
      · rintro ⟨c, hc, hchandle, hcopen⟩
        rcases getElem?_concat_eq_some.mp hc with hc | ⟨rfl, -⟩
        · -- an open channel to this contact would be in the table
          rw [(hs.lookup handle' chan').mpr ⟨c, hc, hchandle, hcopen⟩] at hfree
          cases hfree
        · rfl
    · rw [AList.lookup_insert_ne hsame, hs.lookup]
      constructor
      · rintro ⟨c, hc, h⟩
        exact ⟨c, getElem?_concat_eq_some.mpr (Or.inl hc), h⟩
      · rintro ⟨c, hc, hchandle, hcopen⟩
        rcases getElem?_concat_eq_some.mp hc with hc | ⟨-, rfl⟩
        · exact ⟨c, hc, hchandle, hcopen⟩
        · exact absurd hchandle.symm hsame
  · rcases getElem?_concat_eq_some.mp hc with hc | ⟨-, rfl⟩
    · have h := hs.well chan' c hc
      exact ⟨h.path, h.handle, h.initiator, h.closed, h.conv⟩
    · refine ⟨rfl, hhandle, hinitiator, fun hclosed => absurd hclosed Bool.false_ne_true,
        fun _ => ?_⟩
      exact ⟨d, hd, rfl, huiData⟩

theorem Sound.closeChannel (hs : Sound E t s) {chan conv : Nat} {c : HazeIMChannel}
    (hc : s.objects[chan]? = some c) (hopen : c.closed = false) (hpending : c.pending = [])
    (hconv : c.conv = some conv) :
    Sound E (t.erase c.handle) (closeChannel s t chan c conv) := by
  have hwell := hs.well chan c hc
  refine ⟨rfl, fun handle chan' => ?_, fun chan' c' hc' => ?_,
    fun d hd => hs.uiData d (List.mem_of_mem_filter hd),
    fun d hd => hs.ptr_lt d (List.mem_of_mem_filter hd),
    fun d hd d' hd' => hs.ptr_inj d (List.mem_of_mem_filter hd) d' (List.mem_of_mem_filter hd')⟩
  · by_cases hhandle : handle = c.handle
    · subst hhandle
      rw [AList.lookup_erase]
      apply iff_of_false (by simp)
      rintro ⟨c', hc', hhandle, hopen'⟩
      -- an open channel to the same contact would be the one that is closed
      rcases (getElem?_set_eq_some hc).mp hc' with ⟨-, rfl⟩ | ⟨hne, hc'⟩
      · cases hopen'
      · exact hne (hs.handle_inj hc' hc hopen' hopen hhandle)
    · rw [AList.lookup_erase_ne hhandle, hs.lookup]
      constructor
      · rintro ⟨c', hc', hhandle', hopen'⟩
        refine ⟨c', (getElem?_set_eq_some hc).mpr (Or.inr ⟨?_, hc'⟩), hhandle', hopen'⟩
        rintro rfl
        rw [hc] at hc'
        cases hc'
        exact hhandle hhandle'.symm
      · rintro ⟨c', hc', hhandle', hopen'⟩
        rcases (getElem?_set_eq_some hc).mp hc' with ⟨-, rfl⟩ | ⟨-, hc'⟩
        · cases hopen'
        · exact ⟨c', hc', hhandle', hopen'⟩
  · rcases (getElem?_set_eq_some hc).mp hc' with ⟨-, rfl⟩ | ⟨hne, hc'⟩
    · exact ⟨hwell.path, hwell.handle, hwell.initiator, fun _ => ⟨rfl, hpending⟩, by simp⟩
    · have h := hs.well chan' c' hc'
      refine ⟨h.path, h.handle, h.initiator, h.closed, fun hopen' => ?_⟩
      obtain ⟨d, hd, hdconv, hdata⟩ := h.conv hopen'
      refine ⟨d, List.mem_filter.mpr ⟨hd, ?_⟩, hdconv, hdata⟩
      -- the conversation that goes belongs to another contact
      obtain ⟨d', hd', hdconv', hdata'⟩ := hwell.conv hopen
      rw [decide_eq_true_eq]
      intro hptr
      have hsame : d = d' := by
        refine hs.ptr_inj d hd d' hd' (hptr.trans ?_)
        rw [hconv] at hdconv'
        exact Option.some.inj hdconv'
      rw [← hsame, hdata, Option.some.injEq, HazeConversationUiData.mk.injEq] at hdata'
      exact hne (hs.handle_inj hc' hc hopen' hopen hdata')

/-- A change keeps the channels sound. -/
theorem Sound.change {answered : List Nat} {taken : List TpMessage} (hs : Sound E t s)
    (h : Change E s answered taken s') : ∃ t', Sound E t' s' := by
  cases h with
  | log call hplain => exact ⟨t, hs.call call⟩
  | conversation type name uiData huiData => exact ⟨t, hs.conversation huiData⟩
  | opened t' handle initiator d _ hchannels hfree hd huiData hhandle hinitiator =>
      rw [hs.channels] at hchannels
      cases hchannels
      exact ⟨_, hs.openChannel answered hfree hd huiData hhandle hinitiator⟩
  | received chan c message hc hopen hsender =>
      refine ⟨t, ?_⟩
      have h := hs.well chan c hc
      have hsound := hs.setObject hc { c with
        pending := c.pending ++ [⟨c.recvId, false, message⟩], recvId := c.recvId + 1 } rfl rfl
        ⟨h.path, h.handle, h.initiator, fun hclosed => absurd hclosed (by simp [hopen]), h.conv⟩
      simp only [takeReceived, hc]
      exact hsound.call _
  | removed chan c p call hc hremoves =>
      have h := hs.well chan c hc
      have hsound := hs.setObject hc { c with pending := c.pending.filter (fun m => !p m) }
        rfl rfl ⟨h.path, h.handle, h.initiator,
          fun hclosed => ⟨(h.closed hclosed).1, by simp [(h.closed hclosed).2]⟩, h.conv⟩
      exact ⟨t, hsound.call _⟩
  | rescued chan c hc hopen =>
      have h := hs.well chan c hc
      have hsound := hs.setObject hc (rescuedChannel c) rfl rfl
        ⟨h.path, h.handle, h.handle, fun hclosed => absurd (hopen.symm.trans hclosed) (by decide),
          h.conv⟩
      exact ⟨t, ((hsound.call _).call _).call _⟩
  | closed t' chan c conv hchannels hc hopen hpending hconv =>
      rw [hs.channels] at hchannels
      cases hchannels
      exact ⟨_, hs.closeChannel hc hopen hpending hconv⟩

/-! ## What an event does -/

/-- The conversation of a name is found or made, whatever the channels are. -/
theorem purpleConversationNew_spec (E : ImConnection)
    (hs : ∀ d ∈ s.conversations, d.type = .im → d.uiData = some ⟨E.ensure d.name⟩)
    (type : PurpleConversationType) (name : String) :
    ∃ cs n d, d ∈ cs ∧ (type = .im → d.uiData = some ⟨E.ensure name⟩) ∧
      (∀ d ∈ cs, d.type = .im → d.uiData = some ⟨E.ensure d.name⟩) ∧
      Changes E s [] [] { s with conversations := cs, nextConversation := n } ∧
      ∀ channels objects,
        { s with channels := channels, objects := objects }.purpleConversationNew E type name =
          .ok ({ s with
            channels := channels
            objects := objects
            conversations := cs
            nextConversation := n }, d.ptr) := by
  cases hfind : s.conversations.find? (fun d => d.type = type ∧ E.ensure d.name = E.ensure name)
    with
  | some d =>
      have hmem := List.mem_of_find?_eq_some hfind
      have hmatch : d.type = type ∧ E.ensure d.name = E.ensure name := by
        simpa using List.find?_some hfind
      refine ⟨s.conversations, s.nextConversation, d, hmem, fun him => ?_, hs, Changes.none s,
        fun channels objects => ?_⟩
      · rw [hs d hmem (hmatch.1.trans him), hmatch.2]
      · simp only [purpleConversationNew, hfind]
  | none =>
      obtain ⟨uiData, hcreate, hdata⟩ : ∃ uiData, hazeCreateConversation E type name = .ok uiData ∧
          (type = .im → uiData = some ⟨E.ensure name⟩) := by
        by_cases him : type = .im
        · refine ⟨some ⟨E.ensure name⟩, ?_, fun _ => rfl⟩
          simp [hazeCreateConversation, him, E.ensure_ne_zero]
        · exact ⟨Option.none, by simp [hazeCreateConversation, him], fun h => absurd h him⟩
      refine ⟨_, _, ⟨s.nextConversation, type, name, uiData⟩, List.mem_concat_self, hdata, ?_,
        (Change.conversation s type name uiData hdata).changes, fun channels objects => ?_⟩
      · intro d hd
        rcases List.mem_append.mp hd with hd | hd
        · exact hs d hd
        · rw [List.mem_singleton.mp hd]
          exact hdata
      · simp only [purpleConversationNew, hfind, hcreate]

/-- The channel to a contact is found, or opened to answer the request. -/
theorem getImChannel_spec (hs : Sound E t s) {handle initiator : Nat}
    (hvalid : E.ensure (E.inspect handle) = handle) (hinitiator : initiator ≠ 0)
    (requestToken : Option Nat) :
    ∃ s' chan c created,
      s.getImChannel E handle initiator requestToken = .ok (s', chan, created) ∧
      Changes E s (if created then requestToken.toList else []) [] s' ∧
      s'.objects[chan]? = some c ∧ c.handle = handle ∧ c.closed = false := by
  have hlookup : s.lookup handle = (s, t.lookup handle) := by
    simp only [lookup, hs.channels]
  cases hfree : t.lookup handle with
  | some chan =>
      obtain ⟨c, hc, hhandle, hopen⟩ := (hs.lookup handle chan).mp hfree
      refine ⟨s, chan, c, false, ?_, Changes.none s, hc, hhandle, hopen⟩
      simp only [getImChannel, hlookup, hfree]
  | none =>
      obtain ⟨cs, n, d, hd, hdata, -, hconversation, hnew⟩ :=
        purpleConversationNew_spec E hs.uiData .im (E.inspect handle)
      have huiData : d.uiData = some ⟨handle⟩ := by rw [hdata rfl, hvalid]
      have hhandle : handle ≠ 0 := hvalid ▸ E.ensure_ne_zero _
      let s₁ : HazeImChannelFactory := { s with conversations := cs, nextConversation := n }
      -- the conversation first, then the channel that shows it
      refine ⟨openChannel E s₁ t handle initiator d.ptr requestToken.toList, s.objects.length, _,
        true, ?_, hconversation.next (Change.opened s₁ t handle initiator d requestToken.toList
          hs.channels hfree hd huiData hhandle hinitiator),
        getElem?_concat_eq_some.mpr (Or.inr ⟨rfl, rfl⟩), rfl, rfl⟩
      simp only [getImChannel, newImChannel, hlookup, hfree, ne_eq, not_true, if_false,
        if_neg hinitiator, insert, hs.channels, hazeImChannelStart, hnew]
      simp [setObject, emitNewChannel, call, openChannel, s₁, channelPath]

/-- `Close` with messages pending: the channel is announced again. -/
theorem hazeImChannelClose_rescued (hs : Sound E t s) {chan : Nat} {c : HazeIMChannel}
    (hc : s.objects[chan]? = some c) (hopen : c.closed = false) (hpending : c.pending ≠ []) :
    s.hazeImChannelClose E chan = .ok (rescueChannel E s chan c) := by
  have hwell := hs.well chan c hc
  -- both handles are valid, so the assertions hold
  have hassert : ¬ (c.initiator ≠ c.handle ∧ (c.initiator = 0 ∨ c.handle = 0)) :=
    fun h => h.2.elim hwell.initiator hwell.handle
  simp only [hazeImChannelClose, hc, hopen, hpending, hassert, Bool.false_eq_true, if_false, ne_eq,
    not_false_eq_true, if_true]
  simp [rescueChannel, rescuedChannel, setObject, emitClosed, imChannelClosedCb,
    emitNewChannel, call, hs.channels, hopen]

/-- `Close` of an open channel without messages. -/
theorem hazeImChannelClose_closed (hs : Sound E t s) {chan : Nat} {c : HazeIMChannel}
    (hc : s.objects[chan]? = some c) (hopen : c.closed = false) (hpending : c.pending = []) :
    ∃ conv, c.conv = some conv ∧
      s.hazeImChannelClose E chan = .ok (closeChannel s t chan c conv) := by
  obtain ⟨d, hd, hconv, -⟩ := (hs.well chan c hc).conv hopen
  refine ⟨d.ptr, hconv, ?_⟩
  have hdestroy : s.purpleConversationDestroy c.conv =
      .ok { s with conversations := s.conversations.filter (fun d' => d'.ptr ≠ d.ptr) } := by
    rw [hconv]
    exact if_pos ⟨d, hd, rfl⟩
  simp only [hazeImChannelClose, hc, hopen, hpending, hdestroy]
  simp [closeChannel, setObject, emitClosed, imChannelClosedCb, call, hs.channels, hpending]

/-- `Close` drops nothing: the channel is announced again if there are messages. -/
theorem hazeImChannelClose_spec (hs : Sound E t s) (chan : Nat) :
    ∃ s', s.hazeImChannelClose E chan = .ok s' ∧ Changes E s [] [] s' := by
  cases hc : s.objects[chan]? with
  | none => exact ⟨s, by simp only [hazeImChannelClose, hc], Changes.none s⟩
  | some c =>
      cases hopen : c.closed with
      | true => exact ⟨s, by simp [hazeImChannelClose, hc, hopen], Changes.none s⟩
      | false =>
          by_cases hpending : c.pending = []
          · obtain ⟨conv, hconv, hclose⟩ := hazeImChannelClose_closed hs hc hopen hpending
            exact ⟨_, hclose,
              (Change.closed s t chan c conv hs.channels hc hopen hpending hconv).changes⟩
          · exact ⟨_, hazeImChannelClose_rescued hs hc hopen hpending,
              (Change.rescued s chan c hc hopen).changes⟩

/-- `Destroy` clears the messages first. -/
theorem hazeImChannelDestroy_spec (hs : Sound E t s) (chan : Nat) :
    ∃ s', s.hazeImChannelDestroy E chan = .ok s' ∧ Changes E s [] [] s' := by
  unfold hazeImChannelDestroy
  cases hc : s.objects[chan]? with
  | none => exact ⟨s, rfl, Changes.none s⟩
  | some c =>
      have hclear := Change.removed (E := E) s chan c (fun _ => true)
        (.messagesCleared chan (c.pending.map PendingMessage.entry)) hc (by simp [ImCall.removes])
      obtain ⟨t', hs'⟩ := hs.change hclear
      obtain ⟨s', hclose, hchanges⟩ := hazeImChannelClose_spec hs' chan
      refine ⟨s', ?_, ?_⟩
      · rw [← hclose]
        simp [call, setObject]
      · exact hclear.changes.trans hchanges

theorem acknowledgePendingMessages_spec (s : HazeImChannelFactory) (chan : Nat) (ids : List Nat) :
    Changes E s [] [] (s.acknowledgePendingMessages chan ids) := by
  unfold acknowledgePendingMessages
  cases hc : s.objects[chan]? with
  | none => exact Changes.none s
  | some c =>
      by_cases hids : ∀ id ∈ ids, ∃ m ∈ c.pending, m.id = id
      · have hremove := Change.removed (E := E) s chan c (fun m => m.id ∈ ids)
          (.pendingMessagesRemoved chan
            ((c.pending.filter (fun m => m.id ∈ ids)).map PendingMessage.entry)) hc rfl
        simp only [if_pos hids]
        simpa using hremove.changes
      · simp only [if_neg hids]
        exact Changes.none s

/-- What a channel to the contact takes in is what libpurple's write carries. -/
theorem hazeImChannelReceive_spec (E : ImConnection) {chan : Nat} {c : HazeIMChannel}
    (hc : s.objects[chan]? = some c) (hopen : c.closed = false) (xhtmlMessage : String)
    (flags : PurpleMessageFlags) (mtime now : Int) :
    Changes E s [] ((ImCall.writeIm c.handle xhtmlMessage flags mtime now).carries E).toList
      (s.hazeImChannelReceive E chan c.handle xhtmlMessage flags mtime now) := by
  let textPlain := E.purpleMarkupStripHtml (E.purpleStrdupWithhtml xhtmlMessage)
  -- the flags are looked at in the order of the source
  by_cases hrecv : flags.recv = true
  · have hchange : Change E s [] [makeMessage E c.handle textPlain flags mtime now] _ :=
      Change.received s chan c _ hc hopen rfl
    simpa [hazeImChannelReceive, ImCall.carries, hrecv] using hchange.changes
  by_cases hsend : flags.send = true
  · simpa [hazeImChannelReceive, ImCall.carries, hrecv, hsend] using Changes.none s
  by_cases herror : flags.error = true
  · have hchange : Change E s [] [makeDeliveryReport c.handle textPlain] _ :=
      Change.received s chan c _ hc hopen rfl
    simpa [hazeImChannelReceive, ImCall.carries, hrecv, hsend, herror] using hchange.changes
  · simpa [hazeImChannelReceive, ImCall.carries, hrecv, hsend, herror] using Changes.none s

theorem hazeWriteIm_spec (hs : Sound E t s) {d : PurpleConversation} (hd : d ∈ s.conversations)
    (him : d.type = .im) (message : String) (flags : PurpleMessageFlags) (mtime now : Int) :
    ∃ s', s.hazeWriteIm E d message flags mtime now = .ok s' ∧
      Changes E (s.call (.writeIm (E.ensure d.name) message flags mtime now)) []
        ((ImCall.writeIm (E.ensure d.name) message flags mtime now).carries E).toList s' := by
  have hdata := hs.uiData d hd him
  obtain ⟨s', chan, c, created, hget, hchanges, hc, hhandle, hopen⟩ :=
    getImChannel_spec (hs.call (.writeIm (E.ensure d.name) message flags mtime now))
      (E.ensure_inspect d.name) (E.ensure_ne_zero d.name) none
  refine ⟨_, by simp only [hazeWriteIm, hdata, hget]; rfl, ?_⟩
  have hreceive := hazeImChannelReceive_spec E hc hopen message flags mtime now
  rw [hhandle] at hreceive
  simpa using hchanges.trans hreceive

theorem conversationUpdatedCb_spec (hs : Sound E t s) {d : PurpleConversation}
    (hd : d ∈ s.conversations) (type : PurpleConvUpdateType) (state : PurpleTypingState) :
    ∃ s', s.conversationUpdatedCb E d type state = .ok s' ∧ Changes E s [] [] s' := by
  unfold conversationUpdatedCb
  by_cases htyping : type = .typing
  · by_cases him : d.type = .im
    · have hdata := hs.uiData d hd him
      obtain ⟨s', chan, c, created, hget, hchanges, -⟩ := getImChannel_spec hs
        (E.ensure_inspect d.name) (E.ensure_ne_zero d.name) none
      refine ⟨s'.call (.chatStateChanged chan (E.ensure d.name) state), ?_, ?_⟩
      · simp only [htyping, him, hdata, hget, ne_eq, not_true, if_false]
      · have hlog := Change.log (E := E) s' (.chatStateChanged chan (E.ensure d.name) state) rfl
        simpa [ImCall.answers] using hchanges.next hlog
    · exact ⟨s, by simp [htyping, him], Changes.none s⟩
  · exact ⟨s, by simp [htyping], Changes.none s⟩

/-- A request is answered if and only if the factory accepts it. -/
theorem hazeImChannelFactoryRequest_spec (hs : Sound E t s) (requestToken : Nat)
    {requestProperties : Asv} (requireNew : Bool)
    (hvalid : requestProperties.tpAsvGetUint32 (tpIfaceChannel ++ ".TargetHandleType") =
      tpHandleTypeContact → E.ensure (E.inspect (requestProperties.tpAsvGetUint32
      (tpIfaceChannel ++ ".TargetHandle"))) =
        requestProperties.tpAsvGetUint32 (tpIfaceChannel ++ ".TargetHandle")) :
    ∃ s' accepted,
      s.hazeImChannelFactoryRequest E requestToken requestProperties requireNew =
        .ok (s', accepted) ∧
      Changes E s (if accepted then [requestToken] else []) [] s' := by
  unfold hazeImChannelFactoryRequest
  by_cases htype : requestProperties.tpAsvGetString (tpIfaceChannel ++ ".ChannelType") =
      some tpIfaceChannelTypeText
  case neg => exact ⟨s, false, if_pos htype, Changes.none s⟩
  by_cases hcontact : requestProperties.tpAsvGetUint32 (tpIfaceChannel ++ ".TargetHandleType") =
      tpHandleTypeContact
  case neg => exact ⟨s, false, by simp [htype, hcontact], Changes.none s⟩
  have hvalid := hvalid hcontact
  have hhandle : requestProperties.tpAsvGetUint32 (tpIfaceChannel ++ ".TargetHandle") ≠ 0 :=
    hvalid ▸ E.ensure_ne_zero _
  simp only [htype, hcontact, hhandle, ne_eq, not_true, if_false]
  cases requestProperties.tpChannelManagerAsvHasUnknownProperties fixedProperties
      allowedProperties with
  | some error =>
      exact ⟨_, true, rfl, (Change.log s (.requestFailed requestToken error) rfl).changes⟩
  | none =>
      obtain ⟨s₁, chan, c, created, hget, hchanges, hc, -, -⟩ :=
        getImChannel_spec hs hvalid E.selfHandle_ne_zero (some requestToken)
      rw [hget]
      cases created with
      | true => exact ⟨s₁, true, rfl, hchanges⟩
      | false =>
          -- there is a channel already
          cases requireNew with
          | true =>
              have hlog := Change.log (E := E) s₁ (.requestFailed requestToken
                ⟨.notAvailable, "Channel already exists"⟩) rfl
              exact ⟨_, true, rfl, hchanges.next hlog⟩
          | false =>
              have hlog := Change.log (E := E) s₁
                (.requestAlreadySatisfied requestToken c.objectPath) rfl
              refine ⟨_, true, ?_, hchanges.next hlog⟩
              simp [hc]

/-! ## Runs of a connected connection -/

/-- What telepathy-glib and libpurple promise while the connection is up: a request for a
contact has a valid handle, and libpurple calls back about conversations that exist, with
`write_im` about those with a contact. -/
def Legal (E : ImConnection) (s : HazeImChannelFactory) : ImEvent → Prop
  | .request _ properties _ =>
      properties.tpAsvGetUint32 (tpIfaceChannel ++ ".TargetHandleType") = tpHandleTypeContact →
      E.ensure (E.inspect (properties.tpAsvGetUint32 (tpIfaceChannel ++ ".TargetHandle"))) =
        properties.tpAsvGetUint32 (tpIfaceChannel ++ ".TargetHandle")
  | .writeIm conv _ _ _ _ => ∃ d ∈ s.conversation conv, d.type = .im
  | .writeConv conv _ _ _ _ => (s.conversation conv).isSome
  | .conversationUpdated conv _ _ => (s.conversation conv).isSome
  | .disconnected => False
  | _ => True

instance (E : ImConnection) (s : HazeImChannelFactory) : DecidablePred (Legal E s)
  | .request _ properties _ => inferInstanceAs (Decidable
      (properties.tpAsvGetUint32 (tpIfaceChannel ++ ".TargetHandleType") = tpHandleTypeContact →
        E.ensure (E.inspect (properties.tpAsvGetUint32 (tpIfaceChannel ++ ".TargetHandle"))) =
          properties.tpAsvGetUint32 (tpIfaceChannel ++ ".TargetHandle")))
  | .writeIm conv _ _ _ _ => inferInstanceAs (Decidable (∃ d ∈ s.conversation conv, d.type = .im))
  | .writeConv conv _ _ _ _ => inferInstanceAs (Decidable (s.conversation conv).isSome)
  | .conversationUpdated conv _ _ => inferInstanceAs (Decidable (s.conversation conv).isSome)
  | .disconnected => isFalse id
  | .foreachChannel => isTrue trivial
  | .conversationNew _ _ => isTrue trivial
  | .acknowledge _ _ => isTrue trivial
  | .close _ => isTrue trivial
  | .destroy _ => isTrue trivial

/-- What an event does: changes that answer no token and take in no message; or a request, in
which the token is answered if it is accepted; or a write, whose message is taken in. -/
inductive Outcome (E : ImConnection) (s s' : HazeImChannelFactory) : Prop
  | changes (h : Changes E s [] [] s')
  | requested (s₁ : HazeImChannelFactory) (token : Nat) (accepted : Bool)
      (h : Changes E s (if accepted then [token] else []) [] s₁)
      (hs' : s' = s₁.call (.requestReturns token accepted))
  | written (handle : Nat) (message : String) (flags : PurpleMessageFlags) (mtime now : Int)
      (h : Changes E (s.call (.writeIm handle message flags mtime now)) []
        ((ImCall.writeIm handle message flags mtime now).carries E).toList s')

theorem mem_of_conversation {conv : Nat} {d : PurpleConversation}
    (h : s.conversation conv = some d) : d ∈ s.conversations :=
  List.mem_of_find?_eq_some h

/-- Every event goes through. -/
theorem step_outcome (hs : Sound E t s) {e : ImEvent} (hlegal : Legal E s e) :
    ∃ s', (imChannels E).step s e = .ok s' ∧ Outcome E s s' := by
  cases e with
  | request token properties requireNew =>
      obtain ⟨s₁, accepted, hrequest, hchanges⟩ :=
        hazeImChannelFactoryRequest_spec hs token requireNew hlegal
      refine ⟨s₁.call (.requestReturns token accepted), ?_,
        Outcome.requested s₁ token accepted hchanges rfl⟩
      simp only [imChannels, step, hrequest]
  | foreachChannel =>
      refine ⟨s, ?_, Outcome.changes (Changes.none s)⟩
      simp only [imChannels, step, foreachChannel, hs.channels]
  | conversationNew type name =>
      obtain ⟨cs, n, d, -, -, -, hchanges, hnew⟩ :=
        purpleConversationNew_spec E hs.uiData type name
      refine ⟨_, ?_, Outcome.changes hchanges⟩
      have hnew' := hnew s.channels s.objects
      simp only [imChannels, step]
      rw [hnew']
  | writeIm conv message flags mtime now =>
      obtain ⟨d, hd, him⟩ := hlegal
      obtain ⟨s', hwrite, hchanges⟩ :=
        hazeWriteIm_spec hs (mem_of_conversation hd) him message flags mtime now
      refine ⟨s', ?_, Outcome.written _ message flags mtime now hchanges⟩
      simp only [imChannels, step, withConversation, Option.mem_def.mp hd, hwrite]
  | writeConv conv message flags mtime now =>
      obtain ⟨d, hd⟩ := Option.isSome_iff_exists.mp hlegal
      simp only [imChannels, step, withConversation, hd, hazeWriteConv]
      by_cases him : d.type = .im
      · obtain ⟨s', hwrite, hchanges⟩ :=
          hazeWriteIm_spec hs (mem_of_conversation hd) him message flags mtime now
        exact ⟨s', by rw [if_pos him, hwrite],
          Outcome.written _ message flags mtime now hchanges⟩
      · exact ⟨s, if_neg him, Outcome.changes (Changes.none s)⟩
  | conversationUpdated conv type state =>
      obtain ⟨d, hd⟩ := Option.isSome_iff_exists.mp hlegal
      obtain ⟨s', hupdated, hchanges⟩ :=
        conversationUpdatedCb_spec hs (mem_of_conversation hd) type state
      refine ⟨s', ?_, Outcome.changes hchanges⟩
      simp only [imChannels, step, withConversation, hd, hupdated]
  | acknowledge chan ids =>
      exact ⟨_, rfl, Outcome.changes (acknowledgePendingMessages_spec s chan ids)⟩
  | close chan =>
      obtain ⟨s', hclose, hchanges⟩ := hazeImChannelClose_spec hs chan
      exact ⟨s', hclose, Outcome.changes hchanges⟩
  | destroy chan =>
      obtain ⟨s', hdestroy, hchanges⟩ := hazeImChannelDestroy_spec hs chan
      exact ⟨s', hdestroy, Outcome.changes hchanges⟩
  | disconnected => exact absurd hlegal id

end HazeImChannelFactory

end Haze
