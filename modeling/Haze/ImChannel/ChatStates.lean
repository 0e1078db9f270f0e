import Haze.Basic.Stutter
import Haze.ImChannel.Conversation
import Haze.ImChannel.Typing

set_option autoImplicit false

/-! # Chat states from end to end

A contact that uses Haze too sets chat states on its channel; `haze_im_channel_set_chat_state`
gives them to libpurple, and `resend_typing_cb` gives them again. libpurple brings them to the user,
whose `conversation_updated_cb` makes signals of them. Timers and libpurple may repeat a state, so
the two ends agree up to repetition (`chatStates_arrive`): no resent state is out of date, and a
refused one is not heard of.
-/

namespace Haze

namespace TypingChannel

variable {s s' : TypingChannel} {uiData : TypingUiData} {e : TypingEvent} {es : List TypingEvent}

/-! ## The contact's end -/

/-- The typing state that an accepted call sets. -/
def TypingEvent.sets : TypingEvent → Option PurpleTypingState
  | .setChatState state _ _ => (typingOf state).toOption
  | _ => none

/-- What has been sent is what was set, up to repetition, and a live timer repeats the last. -/
structure RepeatsLast (es : List TypingEvent) (s : TypingChannel) : Prop where
  kept : TimerKept s
  agrees : s.sent.destutter (· ≠ ·) = (es.filterMap TypingEvent.sets).destutter (· ≠ ·)
  live : s.timeouts ≠ [] → ∀ uiData, s.uiData = some uiData →
    s.sent.getLast? = some uiData.activeState

/-- After an event that sets nothing. -/
theorem RepeatsLast.unset (hs : RepeatsLast es s) (hsets : e.sets = none) (hkept : TimerKept s')
    (hsent : s'.sent = s.sent)
    (htimer : s'.uiData = s.uiData ∧ s'.timeouts = s.timeouts ∨ s'.timeouts = []) :
    RepeatsLast (es ++ [e]) s' where
  kept := hkept
  agrees := by rw [hsent, Log.filterMap_concat_none hsets, hs.agrees]
  live := by
    rcases htimer with ⟨hdata, htimeouts⟩ | hnone
    · rw [hsent, hdata, htimeouts]
      exact hs.live
    · exact fun hlive => absurd hnone hlive

/-- After a state has been sent, with or without a timer for it. -/
theorem RepeatsLast.said {active : PurpleTypingState} (hkept : TimerKept s')
    (hsent : s'.sent = s.sent ++ [active])
    (hdata : ∀ uiData, s'.uiData = some uiData → uiData.activeState = active)
    (hagrees : (s.sent ++ [active]).destutter (· ≠ ·) =
      ((es ++ [e]).filterMap TypingEvent.sets).destutter (· ≠ ·)) : RepeatsLast (es ++ [e]) s' where
  kept := hkept
  agrees := by rw [hsent, hagrees]
  live := by
    intro _ uiData h
    rw [hsent, List.getLast?_concat, hdata uiData h]

theorem RepeatsLast.setChatState (hs : RepeatsLast es s) (hopen : s.closed = false)
    (state timeout : Nat) {source : Nat} (hsource : 0 < source) :
    ∃ s', (typingChannels true).step s (.setChatState state timeout source) = .ok s' ∧
      RepeatsLast (es ++ [.setChatState state timeout source]) s' := by
  obtain ⟨-, uiData, hdata, htimer⟩ := hs.kept.exists_uiData hopen
  obtain ⟨s', hstep, hkept⟩ := hs.kept.step (e := .setChatState state timeout source)
    ⟨hopen, hsource⟩
  refine ⟨s', hstep, ?_⟩
  simp only [typingChannels] at hstep
  cases hnumber : typingOf state with
  | error error =>
      rw [setChatState_refused hdata htimer hnumber] at hstep
      cases hstep
      exact hs.unset (by simp [TypingEvent.sets, hnumber, Except.toOption]) hkept rfl (Or.inr rfl)
  | ok active =>
      have hsets : (TypingEvent.setChatState state timeout source).sets = some active := by
        simp [TypingEvent.sets, hnumber, Except.toOption]
      rw [setChatState_accepted hdata htimer hnumber] at hstep
      have hagrees := Stutter.concat_congr hs.agrees active
      rw [← Log.filterMap_concat_some hsets] at hagrees
      split at hstep
      · cases hstep
        exact RepeatsLast.said hkept rfl (by rintro _ ⟨⟩; rfl) hagrees
      · cases hstep
        exact RepeatsLast.said hkept rfl (by rintro _ ⟨⟩; rfl) hagrees

/-- A live timer is the one that the id names. -/
theorem TimerKept.exists_running (hs : TimerKept s) {live : ResendTimeout}
    (hlive : live ∈ s.timeouts) :
    ∃ active, s.uiData = some ⟨active, live.id⟩ ∧ s.timeouts = [live] := by
  cases hdata : s.uiData with
  | none =>
      rw [(hs.gone hdata).1] at hlive
      cases hlive
  | some uiData =>
      have htimer := (hs.opened uiData hdata).1
      generalize s.timeouts = timeouts at hlive htimer ⊢
      cases htimer with
      | idle active => cases hlive
      | running active timeout hid hactive =>
          obtain rfl := List.mem_singleton.mp hlive
          exact ⟨active, rfl, rfl⟩

/-- The timer repeats what was set last. -/
theorem RepeatsLast.resendTyping (hs : RepeatsLast es s) {id : Nat}
    (hlive : ∃ timeout ∈ s.timeouts, timeout.id = id) (timeout : Nat) :
    ∃ s', (typingChannels true).step s (.resendTyping id timeout) = .ok s' ∧
      RepeatsLast (es ++ [.resendTyping id timeout]) s' := by
  obtain ⟨s', hstep, hkept⟩ := hs.kept.step (e := .resendTyping id timeout) hlive
  refine ⟨s', hstep, ?_⟩
  obtain ⟨live, hmem, rfl⟩ := hlive
  obtain ⟨active, hdata, htimeouts⟩ := hs.kept.exists_running hmem
  have hlast := hs.live (List.ne_nil_of_mem hmem) _ hdata
  have hagrees : (s.sent ++ [active]).destutter (· ≠ ·) =
      ((es ++ [TypingEvent.resendTyping live.id timeout]).filterMap
        TypingEvent.sets).destutter (· ≠ ·) := by
    rw [Stutter.destutter_concat_same hlast, hs.agrees, Log.filterMap_concat_none rfl]
  simp only [typingChannels] at hstep
  rw [resendTyping_running hdata htimeouts] at hstep
  split at hstep
  · cases hstep
    exact RepeatsLast.said hkept rfl (by rintro _ ⟨⟩; rfl) hagrees
  · cases hstep
    exact RepeatsLast.said hkept rfl (by rintro _ ⟨⟩; rfl) hagrees

/-- The end of a channel sends nothing, and leaves the timer alone or none. -/
theorem hazeImChannelClose_frame (hs : TimerKept s) {hasPendingMessages : Bool}
    (hclose : s.hazeImChannelClose hasPendingMessages = .ok s') :
    s'.sent = s.sent ∧
      (s'.uiData = s.uiData ∧ s'.timeouts = s.timeouts ∨ s'.timeouts = []) := by
  unfold hazeImChannelClose at hclose
  split_ifs at hclose with hclosed hpending
  · cases hclose
    exact ⟨rfl, Or.inl ⟨rfl, rfl⟩⟩
  · cases hclose
    exact ⟨rfl, Or.inl ⟨rfl, rfl⟩⟩
  · obtain ⟨-, uiData, hdata, htimer⟩ := hs.exists_uiData (by simpa using hclosed)
    rw [hazeDestroyConversation_ok hdata htimer] at hclose
    cases hclose
    exact ⟨rfl, Or.inr rfl⟩

theorem hazeImChannelDispose_frame (hs : TimerKept s) (hdispose : s.hazeImChannelDispose = .ok s') :
    s'.sent = s.sent ∧
      (s'.uiData = s.uiData ∧ s'.timeouts = s.timeouts ∨ s'.timeouts = []) := by
  unfold hazeImChannelDispose at hdispose
  by_cases hrun : s.disposeHasRun = true
  · rw [if_pos hrun] at hdispose
    cases hdispose
    exact ⟨rfl, Or.inl ⟨rfl, rfl⟩⟩
  rw [if_neg hrun] at hdispose
  by_cases hopen : s.closed = false
  · obtain ⟨-, uiData, hdata, htimer⟩ := hs.exists_uiData hopen
    replace hdispose := (if_pos hopen).symm.trans hdispose
    rw [hazeDestroyConversation_ok (s := { s with disposeHasRun := true }) hdata htimer] at hdispose
    cases hdispose
    exact ⟨rfl, Or.inr rfl⟩
  · cases (if_neg hopen).symm.trans hdispose
    exact ⟨rfl, Or.inl ⟨rfl, rfl⟩⟩

/-- What is sent is what is set, up to repetition, after one event more. -/
theorem RepeatsLast.step (hs : RepeatsLast es s) (hlegal : Legal s e) :
    ∃ s', (typingChannels true).step s e = .ok s' ∧ RepeatsLast (es ++ [e]) s' := by
  obtain ⟨s', hstep, hkept⟩ := hs.kept.step hlegal
  cases e with
  | setChatState state timeout source =>
      exact hs.setChatState hlegal.1 state timeout hlegal.2
  | resendTyping id timeout => exact hs.resendTyping hlegal timeout
  | close hasPendingMessages =>
      obtain ⟨hsent, htimer⟩ := hazeImChannelClose_frame hs.kept hstep
      exact ⟨s', hstep, hs.unset rfl hkept hsent htimer⟩
  | destroy =>
      obtain ⟨hsent, htimer⟩ := hazeImChannelClose_frame hs.kept hstep
      exact ⟨s', hstep, hs.unset rfl hkept hsent htimer⟩
  | dispose =>
      obtain ⟨hsent, htimer⟩ := hazeImChannelDispose_frame hs.kept hstep
      exact ⟨s', hstep, hs.unset rfl hkept hsent htimer⟩

theorem repeatsLast_run (hes : (typingChannels true).Meets Legal .new es) :
    ∃ s, (typingChannels true).run .new es = .ok s ∧ RepeatsLast es s := by
  refine Machine.run_ok_of_history (M := typingChannels true) (I := RepeatsLast)
    (fun _ _ _ hs hlegal => hs.step hlegal) ⟨TimerKept.new, rfl, ?_⟩ hes
  exact fun hlive => absurd rfl hlive

end TypingChannel

/-! ## The user's end -/

/-- The `switch` of `conversation_updated_cb`, with the numbers of `TpChannelChatState`. -/
def tpChannelChatState : PurpleTypingState → Nat
  | .typing => 4
  | .typed => 3
  | .notTyping => 2

/-- The chat state that a `ChatStateChanged` says the contact is in. -/
def ImCall.chatState (handle : Nat) : ImCall → Option Nat
  | .chatStateChanged _ contact state =>
      if contact = handle then some (tpChannelChatState state) else none
  | _ => none

namespace HazeImChannelFactory

variable {E : ImConnection} {s s' s'' : HazeImChannelFactory} {t : AList (fun _ : Nat => Nat)}

/-- What clients hear of the contact's chat states. -/
def chatStates (s : HazeImChannelFactory) (handle : Nat) : List Nat :=
  s.calls.filterMap (ImCall.chatState handle)

/-- Nothing is said of chat states between `s` and `s'`. -/
def Silent (s s' : HazeImChannelFactory) : Prop :=
  ∀ handle, s'.chatStates handle = s.chatStates handle

theorem Silent.refl (s : HazeImChannelFactory) : Silent s s := fun _ => rfl

theorem Silent.trans (h : Silent s s') (h' : Silent s' s'') : Silent s s'' :=
  fun handle => (h' handle).trans (h handle)

theorem silent_call {c : ImCall} (hc : ∀ handle, c.chatState handle = none) :
    Silent s (s.call c) :=
  fun handle => Log.filterMap_concat_none (hc handle)

theorem silent_purpleConversationNew {type : PurpleConversationType} {name : String} {conv : Nat}
    (h : s.purpleConversationNew E type name = .ok (s', conv)) : Silent s s' := by
  unfold purpleConversationNew at h
  split at h
  · cases h
    exact Silent.refl s
  · split at h
    · cases h
    · cases h
      exact fun _ => rfl

theorem silent_purpleConversationDestroy {conv : Option Nat}
    (h : s.purpleConversationDestroy conv = .ok s') : Silent s s' := by
  cases conv with
  | none =>
      cases h
      exact silent_call fun _ => rfl
  | some conv =>
      dsimp only [purpleConversationDestroy] at h
      split_ifs at h
      cases h
      exact fun _ => rfl

theorem silent_lookup (s : HazeImChannelFactory) (handle : Nat) :
    Silent s (s.lookup handle).1 := by
  unfold lookup
  split
  · exact silent_call fun _ => rfl
  · exact Silent.refl s

theorem silent_insert (s : HazeImChannelFactory) (handle chan : Nat) :
    Silent s (s.insert handle chan) := by
  unfold insert
  split
  · exact silent_call fun _ => rfl
  · exact fun _ => rfl

theorem silent_newImChannel {handle initiator chan : Nat} {requestToken : Option Nat}
    (h : s.newImChannel E handle initiator requestToken = .ok (s', chan)) : Silent s s' := by
  simp only [newImChannel] at h
  split_ifs at h
  simp only [hazeImChannelStart] at h
  split at h
  · cases h
  · rename_i s₃ hstart
    cases h
    split at hstart
    · cases hstart
    · rename_i s₂ conv hnew
      cases hstart
      have hinsert : Silent s (insert { (s.lookup handle).1 with
          objects := (s.lookup handle).1.objects ++ [{
            objectPath := E.objectPath ++ "/ImChannel" ++ toString handle
            handle := handle
            initiator := initiator }] } handle (s.lookup handle).1.objects.length) :=
        (silent_lookup s handle).trans (Silent.trans (fun _ => rfl) (silent_insert _ _ _))
      refine (hinsert.trans (silent_purpleConversationNew hnew)).trans ?_
      exact Silent.trans (fun _ => rfl) (silent_call fun _ => rfl)

theorem silent_getImChannel {handle initiator chan : Nat} {requestToken : Option Nat}
    {created : Bool} (h : s.getImChannel E handle initiator requestToken =
      .ok (s', chan, created)) : Silent s s' := by
  have hlookup := silent_lookup s handle
  unfold getImChannel at h
  split at h
  · rename_i s₁ chan₁ heq
    cases h
    rw [heq] at hlookup
    exact hlookup
  · rename_i s₁ heq
    rw [heq] at hlookup
    split at h
    · cases h
    · rename_i hnew
      cases h
      exact hlookup.trans (silent_newImChannel hnew)

theorem silent_takeReceived (s : HazeImChannelFactory) (chan : Nat) (message : TpMessage) :
    Silent s (s.takeReceived chan message) := by
  unfold takeReceived
  split
  · exact Silent.refl s
  · exact silent_call fun _ => rfl

theorem silent_hazeImChannelReceive (s : HazeImChannelFactory) (chan handle : Nat)
    (message : String) (flags : PurpleMessageFlags) (mtime now : Int) :
    Silent s (s.hazeImChannelReceive E chan handle message flags mtime now) := by
  unfold hazeImChannelReceive
  split_ifs
  · exact silent_takeReceived s chan _
  · exact Silent.refl s
  · exact silent_takeReceived s chan _
  · exact Silent.refl s

theorem silent_hazeWriteIm {d : PurpleConversation} {message : String}
    {flags : PurpleMessageFlags} {mtime now : Int}
    (h : s.hazeWriteIm E d message flags mtime now = .ok s') : Silent s s' := by
  unfold hazeWriteIm at h
  split at h
  · cases h
  · simp only at h
    split at h
    · cases h
    · rename_i hget
      cases h
      exact (Silent.trans (silent_call fun _ => rfl) (silent_getImChannel hget)).trans
        (silent_hazeImChannelReceive _ _ _ _ _ _ _)

theorem silent_emitClosed (s : HazeImChannelFactory) (chan : Nat) (c : HazeIMChannel) :
    Silent s (s.emitClosed E chan c) := by
  have hcalls : Silent s ((s.call (.closed c.objectPath)).call (.channelClosed c.objectPath)) :=
    Silent.trans (silent_call fun _ => rfl) (silent_call fun _ => rfl)
  refine hcalls.trans ?_
  simp only [emitClosed, imChannelClosedCb]
  split
  · exact Silent.refl _
  · split
    · exact fun _ => rfl
    · exact silent_call fun _ => rfl

theorem silent_hazeImChannelClose {chan : Nat} (h : s.hazeImChannelClose E chan = .ok s') :
    Silent s s' := by
  unfold hazeImChannelClose at h
  split at h
  · cases h
    exact Silent.refl s
  · split_ifs at h
    · cases h
      exact Silent.refl s
    · cases h
      exact Silent.trans (fun _ => rfl) (silent_emitClosed _ _ _)
    · split at h
      · cases h
      · rename_i hdestroy
        cases h
        exact (silent_purpleConversationDestroy hdestroy).trans
          (Silent.trans (fun _ => rfl) (silent_emitClosed _ _ _))

theorem silent_hazeImChannelDestroy {chan : Nat} (h : s.hazeImChannelDestroy E chan = .ok s') :
    Silent s s' := by
  unfold hazeImChannelDestroy at h
  split at h
  · cases h
    exact Silent.refl s
  · dsimp only at h
    refine Silent.trans ?_ (silent_hazeImChannelClose h)
    exact Silent.trans (silent_call (c := .messagesCleared chan _) fun _ => rfl) (fun _ => rfl)

theorem silent_hazeImChannelFactoryRequest {token : Nat}
    {properties : Asv} {requireNew accepted : Bool}
    (h : s.hazeImChannelFactoryRequest E token properties requireNew = .ok (s', accepted)) :
    Silent s s' := by
  dsimp only [hazeImChannelFactoryRequest] at h
  split at h
  · cases h
    exact Silent.refl s
  split at h
  · cases h
    exact Silent.refl s
  split at h
  · cases h
  split at h
  · cases h
    exact silent_call fun _ => rfl
  split at h
  · cases h
  · rename_i hget
    cases h
    exact silent_getImChannel hget
  · -- there is a channel already
    rename_i hget
    split at h
    · cases h
      exact (silent_getImChannel hget).trans (silent_call fun _ => rfl)
    · split at h
      · cases h
      · cases h
        exact (silent_getImChannel hget).trans (silent_call fun _ => rfl)

theorem silent_acknowledgePendingMessages (s : HazeImChannelFactory) (chan : Nat)
    (ids : List Nat) : Silent s (s.acknowledgePendingMessages chan ids) := by
  unfold acknowledgePendingMessages
  split
  · exact Silent.refl s
  · split
    · exact silent_call fun _ => rfl
    · exact Silent.refl s

/-- No typing state of a contact is updated. -/
def Typeless (s : HazeImChannelFactory) : ImEvent → Prop
  | .conversationUpdated conv type _ =>
      type = .typing → ∀ d ∈ s.conversation conv, d.type ≠ .im
  | _ => True

instance (s : HazeImChannelFactory) : DecidablePred (Typeless s)
  | .conversationUpdated conv type _ => inferInstanceAs
      (Decidable (type = .typing → ∀ d ∈ s.conversation conv, d.type ≠ .im))
  | .request _ _ _ => isTrue trivial
  | .foreachChannel => isTrue trivial
  | .conversationNew _ _ => isTrue trivial
  | .writeIm _ _ _ _ _ => isTrue trivial
  | .writeConv _ _ _ _ _ => isTrue trivial
  | .acknowledge _ _ => isTrue trivial
  | .close _ => isTrue trivial
  | .destroy _ => isTrue trivial
  | .disconnected => isTrue trivial

/-- Other events say nothing of chat states. -/
theorem silent_step {e : ImEvent} (hlegal : Legal E s e) (he : Typeless s e)
    (h : (imChannels E).step s e = .ok s') : Silent s s' := by
  cases e with
  | request token properties requireNew =>
      simp only [imChannels, step] at h
      split at h
      · cases h
      · rename_i hrequest
        cases h
        exact (silent_hazeImChannelFactoryRequest hrequest).trans (silent_call fun _ => rfl)
  | foreachChannel =>
      cases h
      unfold foreachChannel
      split
      · exact silent_call fun _ => rfl
      · exact Silent.refl s
  | conversationNew type name =>
      simp only [imChannels, step] at h
      split at h
      · cases h
      · rename_i hnew
        cases h
        exact silent_purpleConversationNew hnew
  | writeIm conv message flags mtime now =>
      obtain ⟨d, hd, -⟩ := hlegal
      simp only [imChannels, step, withConversation, Option.mem_def.mp hd] at h
      exact silent_hazeWriteIm h
  | writeConv conv message flags mtime now =>
      obtain ⟨d, hd⟩ := Option.isSome_iff_exists.mp hlegal
      simp only [imChannels, step, withConversation, hd, hazeWriteConv] at h
      split_ifs at h
      · exact silent_hazeWriteIm h
      · cases h
        exact Silent.refl s
  | conversationUpdated conv type state =>
      obtain ⟨d, hd⟩ := Option.isSome_iff_exists.mp hlegal
      simp only [imChannels, step, withConversation, hd, conversationUpdatedCb] at h
      split_ifs at h with htype him
      · cases h
        exact Silent.refl s
      · cases h
        exact Silent.refl s
      · exact absurd (not_not.mp him) (he (not_not.mp htype) d hd)
  | acknowledge chan ids =>
      cases h
      exact silent_acknowledgePendingMessages s chan ids
  | close chan => exact silent_hazeImChannelClose h
  | destroy chan => exact silent_hazeImChannelDestroy h
  | disconnected => exact absurd hlegal id

/-- An update of a contact's typing state is signalled once. -/
theorem chatStates_updated (hs : Sound E t s) {conv : Nat} {d : PurpleConversation}
    (hd : s.conversation conv = some d) (him : d.type = .im) {state : PurpleTypingState}
    (h : (imChannels E).step s (.conversationUpdated conv .typing state) = .ok s') (handle : Nat) :
    s'.chatStates handle = s.chatStates handle ++
      (if E.ensure d.name = handle then some (tpChannelChatState state) else none).toList := by
  have hdata := hs.uiData d (mem_of_conversation hd) him
  simp only [imChannels, step, withConversation, hd, conversationUpdatedCb, him, hdata, ne_eq,
    not_true, if_false] at h
  split at h
  · cases h
  · rename_i s₁ chan created hget
    cases h
    rw [← silent_getImChannel hget handle]
    exact Log.filterMap_concat _ _ _

end HazeImChannelFactory

/-- What happens to the user's conversations. -/
inductive ChatStateEvent where
  /-- libpurple updates the contact's typing state in a conversation with it -/
  | typing (handle conv : Nat) (state : PurpleTypingState)
  /-- something else -/
  | here (e : HazeImChannelFactory.ImEvent)

/-- The IM channels of the user as a machine, with the contacts' typing states. -/
def chatting (E : ImConnection) : Machine HazeImChannelFactory ChatStateEvent Fault where
  step
    | s, .typing _ conv state => (imChannels E).step s (.conversationUpdated conv .typing state)
    | s, .here e => (imChannels E).step s e

namespace ChatStateEvent

open HazeImChannelFactory

variable {E : ImConnection} {s s' : HazeImChannelFactory} {e : ChatStateEvent}
  {es : List ChatStateEvent}

/-- What libpurple tells of the contact. -/
def tells (handle : Nat) : ChatStateEvent → Option PurpleTypingState
  | .typing contact _ state => if contact = handle then some state else none
  | .here _ => none

/-- The conversation is with the contact; other events update no typing states. -/
def Legal (E : ImConnection) (s : HazeImChannelFactory) : ChatStateEvent → Prop
  | .typing handle conv _ => ∃ d ∈ s.conversation conv, d.type = .im ∧ E.ensure d.name = handle
  | .here e => HazeImChannelFactory.Legal E s e ∧ Typeless s e

instance (E : ImConnection) (s : HazeImChannelFactory) : DecidablePred (Legal E s)
  | .typing handle conv _ => inferInstanceAs
      (Decidable (∃ d ∈ s.conversation conv, d.type = .im ∧ E.ensure d.name = handle))
  | .here e => inferInstanceAs (Decidable (HazeImChannelFactory.Legal E s e ∧ Typeless s e))

/-- A step goes through, and what libpurple tells is signalled. -/
theorem step_chatStates (hs : Settled E s) (hlegal : Legal E s e) :
    ∃ s', (chatting E).step s e = .ok s' ∧ Settled E s' ∧ ∀ handle, s'.chatStates handle =
      s.chatStates handle ++ ((e.tells handle).map tpChannelChatState).toList := by
  obtain ⟨t, hsound⟩ := hs.alive.sound
  cases e with
  | here e =>
      obtain ⟨hlegal, htypeless⟩ := hlegal
      obtain ⟨s', hstep, houtcome⟩ := step_outcome hsound hlegal
      refine ⟨s', hstep, hs.outcome houtcome, fun handle => ?_⟩
      rw [silent_step hlegal htypeless hstep handle]
      exact (List.append_nil _).symm
  | typing contact conv state =>
      obtain ⟨d, hd, him, rfl⟩ := hlegal
      have hlegal' : HazeImChannelFactory.Legal E s (.conversationUpdated conv .typing state) :=
        Option.isSome_iff_exists.mpr ⟨d, hd⟩
      obtain ⟨s', hstep, houtcome⟩ := step_outcome hsound hlegal'
      refine ⟨s', hstep, hs.outcome houtcome, fun handle => ?_⟩
      rw [chatStates_updated hsound hd him hstep handle, tells]
      split
      · rfl
      · rfl

/-- Every typing state that libpurple tells of a contact is signalled, once and in its turn. -/
theorem chatStates_run (hlegal : (chatting E).Meets (Legal E) init es) :
    ∃ s, (chatting E).run init es = .ok s ∧ ∀ handle,
      s.chatStates handle = (es.filterMap (tells handle)).map tpChannelChatState := by
  have hevery : ∃ s, (chatting E).run init es = .ok s ∧ (Settled E s ∧ ∀ handle,
      s.chatStates handle = (es.filterMap (tells handle)).map tpChannelChatState) := by
    refine Machine.run_ok_of_history (M := chatting E)
      (I := fun es s => Settled E s ∧ ∀ handle,
        s.chatStates handle = (es.filterMap (tells handle)).map tpChannelChatState)
      (fun past s e hs hlegal => ?_) ⟨settled_init E, fun _ => rfl⟩ hlegal
    obtain ⟨hsettled, hstates⟩ := hs
    obtain ⟨s', hstep, hsettled', hstates'⟩ := step_chatStates hsettled hlegal
    refine ⟨s', hstep, hsettled', fun handle => ?_⟩
    rw [hstates', hstates, Log.filterMap_concat, List.map_append]
    cases e.tells handle <;> rfl
  obtain ⟨s, hrun, -, hstates⟩ := hevery
  exact ⟨s, hrun, hstates⟩

end ChatStateEvent

/-! ## Both ends -/

namespace TypingChannel

/-- What the user is to see after a call: the chat state that is set, if it can be set. libpurple
has one state for Inactive and Active. -/
def TypingEvent.means : TypingEvent → Option Nat
  | .setChatState state _ _ =>
      if state = 1 then some 2 else if 2 ≤ state ∧ state ≤ 4 then some state else none
  | _ => none

theorem TypingEvent.map_sets (e : TypingEvent) : e.sets.map tpChannelChatState = e.means := by
  cases e with
  | setChatState state timeout source =>
      match state with
      | 0 => rfl
      | 1 => rfl
      | 2 => rfl
      | 3 => rfl
      | 4 => rfl
      | n + 5 => simp [TypingEvent.sets, TypingEvent.means, typingOf, Except.toOption]
  | resendTyping id timeout => rfl
  | close hasPendingMessages => rfl
  | destroy => rfl
  | dispose => rfl

open ChatStateEvent HazeImChannelFactory in
/-- **Chat states arrive.** For every run of the contact's channel, and every run of the user's
channels in which libpurple brings what the contact's end has sent, up to repetition, the user hears
the chat states that the contact has set and that can be set, up to repetition, and the last of them
last. -/
theorem chatStates_arrive {E : ImConnection} (handle : Nat) (es : List TypingEvent)
    {s : TypingChannel} (hes : (typingChannels true).Meets TypingChannel.Legal .new es)
    (hrun : (typingChannels true).run .new es = .ok s) (fs : List ChatStateEvent)
    (hfs : (chatting E).Meets (ChatStateEvent.Legal E) init fs)
    (hbrings : (fs.filterMap (tells handle)).destutter (· ≠ ·) = s.sent.destutter (· ≠ ·)) :
    ∃ f, (chatting E).run init fs = .ok f ∧
      (f.chatStates handle).destutter (· ≠ ·) =
        (es.filterMap TypingEvent.means).destutter (· ≠ ·) ∧
      (f.chatStates handle).getLast? = (es.filterMap TypingEvent.means).getLast? := by
  obtain ⟨s₁, hrun₁, hs⟩ := repeatsLast_run hes
  rw [hrun] at hrun₁
  cases hrun₁
  obtain ⟨f, hrunf, hstates⟩ := chatStates_run hfs
  have hmeans : (es.filterMap TypingEvent.sets).map tpChannelChatState =
      es.filterMap TypingEvent.means := by
    rw [List.map_filterMap]
    exact List.filterMap_congr fun e _ => e.map_sets
  have hagree : (f.chatStates handle).destutter (· ≠ ·) =
      (es.filterMap TypingEvent.means).destutter (· ≠ ·) := by
    rw [hstates, ← hmeans]
    exact Stutter.map_congr tpChannelChatState (hbrings.trans hs.agrees)
  exact ⟨f, hrunf, hagree, Stutter.getLast?_congr hagree⟩

open HazeImChannelFactory in
/-- Juliet is composing, which is sent twice; she cannot be gone, pauses, and is inactive. -/
theorem chatStates_arrive_balcony :
    ∃ f, (chatting balcony).run HazeImChannelFactory.init
        [.here (.request 0 (textRequest 2) true), .typing 2 0 .typing, .typing 2 0 .typed,
          .here (.acknowledge 0 []), .typing 2 0 .notTyping] = .ok f ∧
      (f.chatStates 2).destutter (· ≠ ·) = [4, 3, 2] ∧ (f.chatStates 2).getLast? = some 2 :=
  chatStates_arrive 2 [.setChatState 4 30 7, .resendTyping 7 30, .setChatState 0 0 8,
    .setChatState 3 0 8, .setChatState 1 0 9] (by decide) rfl _ (by decide +kernel) (by decide)

end TypingChannel

end Haze
