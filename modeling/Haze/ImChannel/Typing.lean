import Haze.ImChannel.Changes
import Mathlib.Algebra.Group.Nat.Defs

set_option autoImplicit false

/-! # Chat states and the timer that resends them

A contact is told that the user is typing, or has typed. Some protocols forget this after a while,
so a timer tells them again (`resend_typing_cb`) until the state is set anew or the conversation is
destroyed. The id of the timer is written in three places and read in two; `TimerKept` says that it
always names the one timer that is live. A call that is refused for its state number has removed
the timer before it looks at the number (`refused_harmless_iff`).
-/

namespace Haze

/-- A timeout of the main loop whose callback is `resend_typing_cb` for the conversation. -/
structure ResendTimeout where
  id : Nat
  /-- milliseconds -/
  interval : Nat
  deriving DecidableEq

/-- The part of `HazeConversationUiData` that is about typing. -/
structure TypingUiData where
  activeState : PurpleTypingState
  resendTypingTimeoutId : Nat
  deriving DecidableEq

/-- An IM channel with its conversation: what `SetChatState` reads and writes. -/
structure TypingChannel where
  closed : Bool
  disposeHasRun : Bool
  /-- `conv->ui_data`; `none` when the conversation has been destroyed -/
  uiData : Option TypingUiData
  /-- the timeouts of the conversation that are live -/
  timeouts : List ResendTimeout
  /-- the states that `serv_send_typing` has been called with -/
  sent : List PurpleTypingState
  deriving DecidableEq

namespace TypingChannel

/-- A new channel: `g_slice_new0` makes the data of its conversation. -/
def new : TypingChannel where
  closed := false
  disposeHasRun := false
  uiData := some ⟨.notTyping, 0⟩
  timeouts := []
  sent := []

/-- `g_source_remove` -/
def gSourceRemove (s : TypingChannel) (id : Nat) : TypingChannel :=
  { s with timeouts := s.timeouts.filter (fun timeout => timeout.id ≠ id) }

/-- `serv_send_typing` -/
def servSendTyping (s : TypingChannel) (state : PurpleTypingState) : TypingChannel :=
  { s with sent := s.sent ++ [state] }

/-- The `switch` of `haze_im_channel_set_chat_state` over `TpChannelChatState`, with the error that
it sets. -/
def typingOf : Nat → Except GError PurpleTypingState
  | 0 => .error ⟨.invalidArgument, "The Gone state may not be explicitly set"⟩
  | 1 => .ok .notTyping
  | 2 => .ok .notTyping
  | 3 => .ok .typed
  | 4 => .ok .typing
  | state => .error ⟨.invalidArgument, "Invalid chat state: " ++ toString state⟩

/-- `haze_im_channel_set_chat_state`, with the error that is returned on the bus. `available` says
whether the protocol has `send_typing`; `timeout` is what `serv_send_typing` returns, and `source`
what `g_timeout_add` returns. -/
def hazeImChannelSetChatState (available : Bool) (s : TypingChannel) (state timeout source : Nat) :
    Except Fault (TypingChannel × Option GError) :=
  match s.uiData with
  | none => .error .nullDereference
  | some uiData =>
      if available = false then .error .assertion
      else
        -- "clearing existing resend_typing_cb timeout"
        let s :=
          if uiData.resendTypingTimeoutId ≠ 0 then s.gSourceRemove uiData.resendTypingTimeoutId
          else s
        let uiData := { uiData with resendTypingTimeoutId := 0 }
        match typingOf state with
        | .error error => .ok ({ s with uiData := some uiData }, some error)
        | .ok active =>
            let uiData := { uiData with activeState := active }
            let s := s.servSendTyping active
            -- "it would be stupid to repeatedly send not typing"
            if timeout ≠ 0 ∧ active ≠ .notTyping then
              .ok ({ s with
                uiData := some { uiData with resendTypingTimeoutId := source }
                timeouts := s.timeouts ++ [⟨source, timeout * 1000 % 2 ^ 32⟩] }, none)
            else .ok ({ s with uiData := some uiData }, none)

/-- The main loop runs the timeout `id`: `resend_typing_cb`, for which `serv_send_typing` returns
`timeout`. A callback that returns `FALSE` is removed. -/
def resendTypingCb (s : TypingChannel) (id timeout : Nat) : Except Fault TypingChannel :=
  match s.uiData with
  | none => .error .useAfterFree
  | some uiData =>
      let s := s.servSendTyping uiData.activeState
      if timeout ≠ 0 then .ok s
      else
        .ok ({ s with uiData := some { uiData with resendTypingTimeoutId := 0 } }.gSourceRemove id)

/-- `haze_destroy_conversation`, through `purple_conversation_destroy`. -/
def hazeDestroyConversation (s : TypingChannel) : Except Fault TypingChannel :=
  match s.uiData with
  | none => .error .nullDereference
  | some uiData =>
      let s :=
        if uiData.resendTypingTimeoutId ≠ 0 then s.gSourceRemove uiData.resendTypingTimeoutId
        else s
      .ok { s with uiData := none }

/-- `haze_im_channel_close`. With pending messages the channel is rescued, and stays. -/
def hazeImChannelClose (s : TypingChannel) (hasPendingMessages : Bool) :
    Except Fault TypingChannel :=
  if s.closed then .ok s
  else if hasPendingMessages then .ok s
  else
    match s.hazeDestroyConversation with
    | .error fault => .error fault
    | .ok s => .ok { s with closed := true }

/-- `haze_im_channel_destroy`: the pending messages are cleared first. -/
def hazeImChannelDestroy (s : TypingChannel) : Except Fault TypingChannel :=
  s.hazeImChannelClose false

/-- `haze_im_channel_dispose` -/
def hazeImChannelDispose (s : TypingChannel) : Except Fault TypingChannel :=
  if s.disposeHasRun then .ok s
  else
    let s := { s with disposeHasRun := true }
    if s.closed = false then
      match s.hazeDestroyConversation with
      | .error fault => .error fault
      | .ok s => .ok { s with closed := true }
    else .ok s

/-! ## Events -/

/-- What happens to the channel, with what libpurple and the main loop return. -/
inductive TypingEvent where
  | setChatState (state timeout source : Nat)
  | resendTyping (id timeout : Nat)
  | close (hasPendingMessages : Bool)
  | destroy
  | dispose
  deriving DecidableEq

end TypingChannel

open TypingChannel in
/-- The channel as a machine, for a protocol with or without `send_typing`. -/
def typingChannels (available : Bool) : Machine TypingChannel TypingEvent Fault where
  step
    | s, .setChatState state timeout source =>
        (hazeImChannelSetChatState available s state timeout source).map Prod.fst
    | s, .resendTyping id timeout => s.resendTypingCb id timeout
    | s, .close hasPendingMessages => s.hazeImChannelClose hasPendingMessages
    | s, .destroy => s.hazeImChannelDestroy
    | s, .dispose => s.hazeImChannelDispose

namespace TypingChannel

variable {s s' : TypingChannel} {uiData : TypingUiData} {available : Bool}

/-- `SetChatState` is called on an open channel, the main loop runs a timeout only while it is live,
and a source id "(greater than 0)" is returned for a new one. -/
def Legal (s : TypingChannel) : TypingEvent → Prop
  | .setChatState _ _ source => s.closed = false ∧ 0 < source
  | .resendTyping id _ => ∃ timeout ∈ s.timeouts, timeout.id = id
  | _ => True

instance (s : TypingChannel) : DecidablePred (Legal s)
  | .setChatState _ _ source => inferInstanceAs (Decidable (s.closed = false ∧ 0 < source))
  | .resendTyping id _ => inferInstanceAs (Decidable (∃ timeout ∈ s.timeouts, timeout.id = id))
  | .close _ => inferInstanceAs (Decidable True)
  | .destroy => inferInstanceAs (Decidable True)
  | .dispose => inferInstanceAs (Decidable True)

/-! ## The invariant -/

/-- The timer of a conversation with these data: none, or the one that the id names, which resends
a state worth resending. -/
inductive OneTimer : TypingUiData → List ResendTimeout → Prop where
  | idle (activeState : PurpleTypingState) : OneTimer ⟨activeState, 0⟩ []
  | running (activeState : PurpleTypingState) (timeout : ResendTimeout)
      (hid : 0 < timeout.id) (hactive : activeState ≠ .notTyping) :
      OneTimer ⟨activeState, timeout.id⟩ [timeout]

/-- The id and the live timeouts are in step, and a channel that was closed or disposed of has
neither. -/
structure TimerKept (s : TypingChannel) : Prop where
  opened : ∀ uiData, s.uiData = some uiData →
    OneTimer uiData s.timeouts ∧ s.closed = false ∧ s.disposeHasRun = false
  gone : s.uiData = none → s.timeouts = [] ∧ s.closed = true

theorem TimerKept.new : TimerKept TypingChannel.new where
  opened := by
    intro uiData h
    cases h
    exact ⟨.idle .notTyping, rfl, rfl⟩
  gone := by intro h; cases h

/-- Removing the timer that the id names leaves none. -/
theorem OneTimer.clear {timeouts : List ResendTimeout} (h : OneTimer uiData timeouts)
    (hs : s.timeouts = timeouts) :
    (if uiData.resendTypingTimeoutId ≠ 0 then s.gSourceRemove uiData.resendTypingTimeoutId
      else s) = { s with timeouts := [] } := by
  cases h with
  | idle activeState =>
      rw [if_neg (by simp), ← hs]
  | running activeState timeout hid hactive =>
      rw [if_pos (Nat.ne_of_gt hid), gSourceRemove, hs]
      simp

/-- An open channel without a timer. -/
def idle (s : TypingChannel) (activeState : PurpleTypingState) : TypingChannel :=
  { s with uiData := some ⟨activeState, 0⟩, timeouts := [] }

theorem TimerKept.idle (hopen : s.closed = false) (hlive : s.disposeHasRun = false)
    (activeState : PurpleTypingState) : TimerKept (s.idle activeState) where
  opened := by
    intro uiData h
    cases h
    exact ⟨.idle activeState, hopen, hlive⟩
  gone := by intro h; cases h

/-- An open channel with a timer. -/
def running (s : TypingChannel) (activeState : PurpleTypingState) (timeout : ResendTimeout) :
    TypingChannel :=
  { s with uiData := some ⟨activeState, timeout.id⟩, timeouts := [timeout] }

theorem TimerKept.running (hopen : s.closed = false) (hlive : s.disposeHasRun = false)
    {activeState : PurpleTypingState} {timeout : ResendTimeout} (hid : 0 < timeout.id)
    (hactive : activeState ≠ .notTyping) : TimerKept (s.running activeState timeout) where
  opened := by
    intro uiData h
    cases h
    exact ⟨.running activeState timeout hid hactive, hopen, hlive⟩
  gone := by intro h; cases h

/-- An open channel was not disposed of, and has the data of its conversation. -/
theorem TimerKept.exists_uiData (hs : TimerKept s) (hopen : s.closed = false) :
    s.disposeHasRun = false ∧
      ∃ uiData, s.uiData = some uiData ∧ OneTimer uiData s.timeouts := by
  cases hdata : s.uiData with
  | none =>
      rw [(hs.gone hdata).2] at hopen
      cases hopen
  | some uiData =>
      obtain ⟨htimer, -, hlive⟩ := hs.opened uiData hdata
      exact ⟨hlive, uiData, rfl, htimer⟩

/-! ## What the functions do -/

/-- A call with a number that is not a chat state to be set removes the timer, and nothing else. -/
theorem setChatState_refused (hdata : s.uiData = some uiData) (htimer : OneTimer uiData s.timeouts)
    {state : Nat} {error : GError} (herror : typingOf state = .error error) (timeout source : Nat) :
    hazeImChannelSetChatState true s state timeout source =
      .ok (s.idle uiData.activeState, some error) := by
  have hclear := htimer.clear (rfl : s.timeouts = s.timeouts)
  simp only [hazeImChannelSetChatState, hdata, herror, hclear, Bool.true_eq_false, if_false]
  rfl

/-- A call with another number sends the state, and starts a timer for one that times out. -/
theorem setChatState_accepted (hdata : s.uiData = some uiData)
    (htimer : OneTimer uiData s.timeouts) {state : Nat} {active : PurpleTypingState}
    (hactive : typingOf state = .ok active) (timeout source : Nat) :
    hazeImChannelSetChatState true s state timeout source =
      .ok (if timeout ≠ 0 ∧ active ≠ .notTyping then
          (s.servSendTyping active).running active ⟨source, timeout * 1000 % 2 ^ 32⟩
        else (s.servSendTyping active).idle active, none) := by
  have hclear := htimer.clear (rfl : s.timeouts = s.timeouts)
  simp only [hazeImChannelSetChatState, hdata, hactive, hclear, Bool.true_eq_false, if_false]
  split
  · rfl
  · rfl

/-- The timer resends the state, and stops when the state does not time out any longer. -/
theorem resendTyping_running {active : PurpleTypingState} {live : ResendTimeout}
    (hdata : s.uiData = some ⟨active, live.id⟩) (htimeouts : s.timeouts = [live])
    (timeout : Nat) : s.resendTypingCb live.id timeout =
      .ok (if timeout ≠ 0 then (s.servSendTyping active).running active live
        else (s.servSendTyping active).idle active) := by
  simp only [resendTypingCb, hdata]
  split
  · simp [TypingChannel.running, servSendTyping, hdata, htimeouts]
  · simp [TypingChannel.idle, servSendTyping, gSourceRemove, htimeouts]

/-- The conversation takes its timer with it. -/
theorem hazeDestroyConversation_ok (hdata : s.uiData = some uiData)
    (htimer : OneTimer uiData s.timeouts) :
    s.hazeDestroyConversation = .ok { s with uiData := none, timeouts := [] } := by
  have hclear := htimer.clear (rfl : s.timeouts = s.timeouts)
  simp only [hazeDestroyConversation, hdata, hclear]

/-! ## One event -/

theorem TimerKept.destroyed :
    TimerKept { s with uiData := none, timeouts := [], closed := true } where
  opened := by intro uiData h; cases h
  gone := fun _ => ⟨rfl, rfl⟩

theorem TimerKept.setChatState (hs : TimerKept s) (hopen : s.closed = false)
    (state timeout : Nat) {source : Nat} (hsource : 0 < source) :
    ∃ s' error, hazeImChannelSetChatState true s state timeout source = .ok (s', error) ∧
      TimerKept s' := by
  obtain ⟨hlive, uiData, hdata, htimer⟩ := hs.exists_uiData hopen
  cases hnumber : typingOf state with
  | error error =>
      exact ⟨_, _, setChatState_refused hdata htimer hnumber timeout source,
        TimerKept.idle hopen hlive _⟩
  | ok active =>
      refine ⟨_, _, setChatState_accepted hdata htimer hnumber timeout source, ?_⟩
      split
      · rename_i hworth
        exact TimerKept.running (s := s.servSendTyping active) hopen hlive hsource hworth.2
      · exact TimerKept.idle (s := s.servSendTyping active) hopen hlive active

theorem TimerKept.resendTyping (hs : TimerKept s) {id : Nat}
    (hlive : ∃ timeout ∈ s.timeouts, timeout.id = id) (timeout : Nat) :
    ∃ s', s.resendTypingCb id timeout = .ok s' ∧ TimerKept s' := by
  obtain ⟨live, hmem, rfl⟩ := hlive
  cases hdata : s.uiData with
  | none =>
      rw [(hs.gone hdata).1] at hmem
      cases hmem
  | some uiData =>
      obtain ⟨htimer, hopen, hlive⟩ := hs.opened uiData hdata
      cases htimeouts : s.timeouts with
      | nil =>
          rw [htimeouts] at hmem
          cases hmem
      | cons first rest =>
          rw [htimeouts] at htimer hmem
          cases htimer with
          | running active first hid hactive =>
              rw [List.mem_singleton.mp hmem]
              refine ⟨_, resendTyping_running hdata htimeouts timeout, ?_⟩
              split
              · exact TimerKept.running (s := s.servSendTyping active) hopen hlive hid hactive
              · exact TimerKept.idle (s := s.servSendTyping active) hopen hlive active

/-- No timer is live, and the conversation is destroyed. -/
def Ended (s : TypingChannel) : Prop := s.uiData = none ∧ s.timeouts = []

/-- A channel that is closed has no conversation. -/
theorem TimerKept.ended (hs : TimerKept s) (hclosed : s.closed = true) : Ended s := by
  have hdata : s.uiData = none := by
    by_contra hsome
    obtain ⟨uiData, hdata⟩ := Option.ne_none_iff_exists'.mp hsome
    rw [(hs.opened uiData hdata).2.1] at hclosed
    cases hclosed
  exact ⟨hdata, (hs.gone hdata).1⟩

theorem TimerKept.close (hs : TimerKept s) (hasPendingMessages : Bool) :
    ∃ s', s.hazeImChannelClose hasPendingMessages = .ok s' ∧ TimerKept s' ∧
      (hasPendingMessages = false → Ended s') := by
  unfold hazeImChannelClose
  by_cases hclosed : s.closed = true
  · exact ⟨s, if_pos hclosed, hs, fun _ => hs.ended hclosed⟩
  rw [if_neg hclosed]
  by_cases hpending : hasPendingMessages = true
  · refine ⟨s, if_pos hpending, hs, fun hnone => ?_⟩
    rw [hnone] at hpending
    cases hpending
  rw [if_neg hpending]
  obtain ⟨-, uiData, hdata, htimer⟩ := hs.exists_uiData (by simpa using hclosed)
  rw [hazeDestroyConversation_ok hdata htimer]
  exact ⟨_, rfl, TimerKept.destroyed, fun _ => ⟨rfl, rfl⟩⟩

theorem TimerKept.dispose (hs : TimerKept s) :
    ∃ s', s.hazeImChannelDispose = .ok s' ∧ TimerKept s' ∧ Ended s' := by
  unfold hazeImChannelDispose
  by_cases hopen : s.closed = false
  · obtain ⟨hlive, uiData, hdata, htimer⟩ := hs.exists_uiData hopen
    let t : TypingChannel := { s with disposeHasRun := true }
    have hdestroy : t.hazeDestroyConversation = .ok { t with uiData := none, timeouts := [] } :=
      hazeDestroyConversation_ok (s := t) hdata htimer
    refine ⟨{ t with uiData := none, timeouts := [], closed := true }, ?_,
      TimerKept.destroyed (s := t), rfl, rfl⟩
    rw [if_neg (by simp [hlive])]
    refine (if_pos hopen).trans ?_
    rw [hdestroy]
  · have hended := hs.ended (by simpa using hopen)
    by_cases hrun : s.disposeHasRun = true
    · exact ⟨s, if_pos hrun, hs, hended⟩
    · refine ⟨{ s with disposeHasRun := true }, (if_neg hrun).trans (if_neg hopen), ?_, hended⟩
      exact ⟨fun uiData hdata => absurd (hs.opened uiData hdata).2.1 hopen, hs.gone⟩

/-- One event keeps the id and the timer in step, and does not fail. -/
theorem TimerKept.step (hs : TimerKept s) {e : TypingEvent} (hlegal : Legal s e) :
    ∃ s', (typingChannels true).step s e = .ok s' ∧ TimerKept s' := by
  cases e with
  | setChatState state timeout source =>
      obtain ⟨s', error, hset, hs'⟩ := hs.setChatState hlegal.1 state timeout hlegal.2
      refine ⟨s', ?_, hs'⟩
      show (hazeImChannelSetChatState true s state timeout source).map Prod.fst = .ok s'
      rw [hset]
      rfl
  | resendTyping id timeout => exact hs.resendTyping hlegal timeout
  | close hasPendingMessages =>
      obtain ⟨s', hclose, hs', -⟩ := hs.close hasPendingMessages
      exact ⟨s', hclose, hs'⟩
  | destroy =>
      obtain ⟨s', hclose, hs', -⟩ := hs.close false
      exact ⟨s', hclose, hs'⟩
  | dispose =>
      obtain ⟨s', hdispose, hs', -⟩ := hs.dispose
      exact ⟨s', hdispose, hs'⟩

/-- Without `send_typing` the assertion fails; every other step is the same. -/
theorem step_available {e : TypingEvent} (hstep : (typingChannels available).step s e = .ok s') :
    (typingChannels true).step s e = .ok s' := by
  cases available with
  | true => exact hstep
  | false =>
      cases e with
      | setChatState state timeout source =>
          have hset : (hazeImChannelSetChatState false s state timeout source).map Prod.fst =
            .ok s' := hstep
          unfold hazeImChannelSetChatState at hset
          cases hdata : s.uiData with
          | none => rw [hdata] at hset; cases hset
          | some uiData => rw [hdata] at hset; cases hset
      | resendTyping id timeout => exact hstep
      | close hasPendingMessages => exact hstep
      | destroy => exact hstep
      | dispose => exact hstep

theorem timerKept_run {es : List TypingEvent} (hes : (typingChannels true).Meets Legal .new es) :
    ∃ s, (typingChannels true).run .new es = .ok s ∧ TimerKept s :=
  Machine.run_ok_of_invariant (fun _ _ hs hlegal => hs.step hlegal) TimerKept.new hes

/-! ## The timer of a conversation -/

/-- At most one timer is live; the id is that of the live timer, and not zero exactly if there is
one; it resends typing or typed; and it does not outlive the conversation, which ends when the
channel is closed without pending messages, destroyed, or disposed of. -/
structure TimerRight (s : TypingChannel) : Prop where
  one : s.timeouts.length ≤ 1
  id_iff : ∀ uiData, s.uiData = some uiData →
    (uiData.resendTypingTimeoutId ≠ 0 ↔ s.timeouts ≠ [])
  named : ∀ uiData, s.uiData = some uiData → ∀ timeout ∈ s.timeouts,
    timeout.id = uiData.resendTypingTimeoutId
  worth : ∀ uiData, s.uiData = some uiData → s.timeouts ≠ [] →
    uiData.activeState = .typing ∨ uiData.activeState = .typed
  gone : s.uiData = none → s.timeouts = []
  ended : ∀ e ∈ [TypingEvent.close false, .destroy, .dispose], ∀ available,
    ∃ s', (typingChannels available).step s e = .ok s' ∧ Ended s'

theorem OneTimer.length_le {timeouts : List ResendTimeout} (h : OneTimer uiData timeouts) :
    timeouts.length ≤ 1 := by
  cases h with
  | idle activeState => exact Nat.zero_le 1
  | running activeState timeout hid hactive => exact Nat.le_refl 1

theorem TimerKept.timerRight (hs : TimerKept s) : TimerRight s where
  one := by
    cases hdata : s.uiData with
    | none => rw [(hs.gone hdata).1]; exact Nat.zero_le 1
    | some uiData => exact (hs.opened uiData hdata).1.length_le
  id_iff := by
    intro uiData hdata
    have htimer := (hs.opened uiData hdata).1
    generalize s.timeouts = timeouts at htimer ⊢
    cases htimer with
    | idle activeState => simp
    | running activeState timeout hid hactive => simpa using Nat.ne_of_gt hid
  named := by
    intro uiData hdata
    have htimer := (hs.opened uiData hdata).1
    generalize s.timeouts = timeouts at htimer ⊢
    cases htimer with
    | idle activeState => simp
    | running activeState timeout hid hactive => simp
  worth := by
    intro uiData hdata
    have htimer := (hs.opened uiData hdata).1
    generalize s.timeouts = timeouts at htimer ⊢
    intro hne
    cases htimer with
    | idle activeState => exact absurd rfl hne
    | running activeState timeout hid hactive =>
        cases activeState with
        | notTyping => exact absurd rfl hactive
        | typing => exact Or.inl rfl
        | typed => exact Or.inr rfl
  gone := fun hdata => (hs.gone hdata).1
  ended := by
    obtain ⟨s₁, hclose, -, hended₁⟩ := hs.close false
    obtain ⟨s₂, hdispose, -, hended₂⟩ := hs.dispose
    intro e he available
    simp only [List.mem_cons, List.not_mem_nil, or_false] at he
    rcases he with rfl | rfl | rfl
    · exact ⟨s₁, hclose, hended₁ rfl⟩
    · exact ⟨s₁, hclose, hended₁ rfl⟩
    · exact ⟨s₂, hdispose, hended₂⟩

/-- **The timer of a conversation is unique and does not outlive it**, in every run of an open
channel: calls of SetChatState with any number, timers that fire, whatever the protocol returns,
and the end of the conversation. When the protocol can send typing states, no such run fails. -/
theorem timer_right (available : Bool) (es : List TypingEvent)
    (hes : (typingChannels available).Meets Legal .new es) :
    (∀ s, (typingChannels available).run .new es = .ok s → TimerRight s) ∧
      (available = true → ∃ s, (typingChannels available).run .new es = .ok s) := by
  constructor
  · intro s hrun
    have hs : TimerKept s := by
      refine Machine.run_invariant (fun s e s' hs hlegal hstep => ?_) TimerKept.new hes hrun
      obtain ⟨s₁, hs₁, hkept⟩ := hs.step hlegal
      rw [step_available hstep] at hs₁
      cases hs₁
      exact hkept
    exact hs.timerRight
  · rintro rfl
    obtain ⟨s, hrun, -⟩ := timerKept_run hes
    exact ⟨s, hrun⟩

/-- Typing, resent twice, of which the second stops the timer; a pause, and the end. -/
theorem timer_right_paused :
    ∃ s, (typingChannels true).run .new [.setChatState 4 30 7, .resendTyping 7 30,
        .resendTyping 7 0, .setChatState 3 30 8, .setChatState 9 0 9, .destroy] = .ok s ∧
      TimerRight s :=
  ⟨_, rfl, (timer_right true [.setChatState 4 30 7, .resendTyping 7 30, .resendTyping 7 0,
    .setChatState 3 30 8, .setChatState 9 0 9, .destroy] (by decide)).1 _ rfl⟩

/-! ## The channel of the factory -/

/-- Closing a channel of the factory ends its conversation here too: unless messages are pending,
both are closed. -/
theorem close_agrees {E : ImConnection} {t : AList (fun _ : Nat => Nat)} {f : HazeImChannelFactory}
    (hf : HazeImChannelFactory.Sound E t f) {chan : Nat} {c : HazeIMChannel}
    (hc : f.objects[chan]? = some c) (hs : TimerKept s) (hsame : s.closed = c.closed) :
    ∃ f' c' s', f.hazeImChannelClose E chan = .ok f' ∧ f'.objects[chan]? = some c' ∧
      s.hazeImChannelClose (decide (c.pending ≠ [])) = .ok s' ∧ s'.closed = c'.closed := by
  have hlt : chan < f.objects.length := (List.getElem?_eq_some_iff.mp hc).1
  cases hclosed : c.closed with
  | true =>
      rw [hclosed] at hsame
      refine ⟨f, c, s, ?_, hc, if_pos hsame, hsame.trans hclosed.symm⟩
      simp [HazeImChannelFactory.hazeImChannelClose, hc, hclosed]
  | false =>
      rw [hclosed] at hsame
      have hopen : ¬ s.closed = true := by simp [hsame]
      by_cases hpending : c.pending = []
      · obtain ⟨conv, -, hclose⟩ :=
          HazeImChannelFactory.hazeImChannelClose_closed hf hc hclosed hpending
        obtain ⟨-, uiData, hdata, htimer⟩ := hs.exists_uiData hsame
        refine ⟨_, { c with conv := none, closed := true },
          { s with uiData := none, timeouts := [], closed := true }, hclose, ?_, ?_, rfl⟩
        · simp [HazeImChannelFactory.closeChannel, HazeImChannelFactory.setObject, hlt]
        · simp only [hazeImChannelClose, hpending, hsame, hazeDestroyConversation_ok hdata htimer,
            ne_eq, not_true_eq_false, decide_false, Bool.false_eq_true, if_false]
      · refine ⟨_, HazeImChannelFactory.rescuedChannel c, s,
          HazeImChannelFactory.hazeImChannelClose_rescued hf hc hclosed hpending, ?_, ?_, ?_⟩
        · simp [HazeImChannelFactory.rescueChannel, HazeImChannelFactory.setObject, hlt]
        · simp [hazeImChannelClose, hopen, hpending]
        · exact hsame.trans hclosed.symm

/-! ## A refused call -/

/-- A call changes nothing: neither the state and the timer, nor what is sent, nor what the timer
sends later on. -/
structure Harmless (s s' : TypingChannel) : Prop where
  uiData : s'.uiData = s.uiData
  timeouts : s'.timeouts = s.timeouts
  sent : s'.sent = s.sent
  later : ∀ es, ((typingChannels true).run s' es).map TypingChannel.sent =
    ((typingChannels true).run s es).map TypingChannel.sent

/-- The numbers that are refused: Gone, and what is not a chat state. -/
theorem typingOf_error_iff {state : Nat} :
    (∃ error, typingOf state = .error error) ↔ state = 0 ∨ 4 < state := by
  match state with
  | 0 => simp [typingOf]
  | 1 => simp [typingOf]
  | 2 => simp [typingOf]
  | 3 => simp [typingOf]
  | 4 => simp [typingOf]
  | n + 5 =>
      simp only [typingOf, Except.error.injEq, exists_eq', true_iff]
      omega

/-- **When a refused SetChatState changes nothing**: on every open channel that is reached, exactly
if no timer is live. A live one is removed, and the state is not resent any longer. -/
theorem refused_harmless_iff (es : List TypingEvent)
    (hes : (typingChannels true).Meets Legal .new es)
    (hrun : (typingChannels true).run .new es = .ok s) (hopen : s.closed = false) {state : Nat}
    (hstate : state = 0 ∨ 4 < state) (timeout source : Nat) :
    ∃ s' error, hazeImChannelSetChatState true s state timeout source = .ok (s', some error) ∧
      (Harmless s s' ↔ s.timeouts = []) := by
  obtain ⟨s₁, hrun₁, hs⟩ := timerKept_run hes
  rw [hrun] at hrun₁
  cases hrun₁
  obtain ⟨-, uiData, hdata, htimer⟩ := hs.exists_uiData hopen
  obtain ⟨error, herror⟩ := typingOf_error_iff.mpr hstate
  refine ⟨_, error, setChatState_refused hdata htimer herror timeout source, ?_⟩
  constructor
  · intro hharmless
    exact hharmless.timeouts.symm
  · intro hnone
    have hsame : s.idle uiData.activeState = s := by
      have hid : uiData.resendTypingTimeoutId = 0 := by
        by_contra hne
        exact (hs.timerRight.id_iff uiData hdata).mp hne hnone
      cases s
      simp only [TypingChannel.idle, TypingChannel.mk.injEq, true_and, and_true]
      cases uiData
      simp_all
    rw [hsame]
    exact ⟨rfl, rfl, rfl, fun _ => rfl⟩

/-- No timer is live after a state that does not time out. -/
theorem refused_harmless_iff_untimed :
    ∃ s s' error, (typingChannels true).run .new [.setChatState 4 0 7] = .ok s ∧
      s.timeouts = [] ∧
      hazeImChannelSetChatState true s 0 0 8 = .ok (s', some error) ∧ Harmless s s' := by
  obtain ⟨s', error, hset, hiff⟩ := refused_harmless_iff [.setChatState 4 0 7] (by decide) rfl rfl
    (Or.inl (rfl : 0 = 0)) 0 8
  exact ⟨_, s', error, rfl, rfl, hset, hiff.mpr rfl⟩

/-- The user is typing, and the timer runs; Gone is refused, and has removed the timer. -/
theorem refused_call_removes_timer : ¬ ∀ (es : List TypingEvent) (s s' : TypingChannel)
    (state timeout source : Nat) (error : GError),
    (typingChannels true).Meets Legal .new es → (typingChannels true).run .new es = .ok s →
    s.closed = false →
    hazeImChannelSetChatState true s state timeout source = .ok (s', some error) →
    Harmless s s' := by
  intro hall
  have hharmless := hall [.setChatState 4 30 7] _ _ 0 0 8 _ (by decide) rfl rfl rfl
  exact absurd hharmless.timeouts (by decide)

end TypingChannel

end Haze
