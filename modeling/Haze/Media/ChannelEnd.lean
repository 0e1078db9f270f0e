import Haze.Media.Closing

set_option autoImplicit false

/-! # The end of one media channel

The flag `closed` is set by the first call of `haze_media_channel_close`, and `Closed` follows, at
once or when the hangup has returned: at any time the flag accounts for one hangup that has not
returned, or for one `Closed` (`EndsRight.balance`). Every step of a channel keeps this
(`EndStep`), whatever comes in between. A disposal that has begun is over, or waits for its hangup
(`EndsRight.disposing`), which no other step takes off the stack (`Waits`).
-/

namespace Haze

namespace HazeMediaChannel

variable {s s' s'' : HazeMediaChannel} {calls : List MediaCall} {b : Bool}

/-- The hangups of `haze_media_channel_close` that have not returned. -/
def closings (s : HazeMediaChannel) : Nat := s.stack.countP MediaFrame.closes

/-- What the calls say about the end of the channel. -/
def endCalls (b : Bool) (calls : List MediaCall) : List EndCall :=
  calls.filterMap (EndCall.ofCall b)

/-- What a step of the channel, which makes the given calls, does about its end. -/
structure EndStep (b : Bool) (s s' : HazeMediaChannel) (new : List MediaCall) : Prop where
  calls : s'.calls = s.calls ++ new
  /-- what closes the channel hangs up or says so, and so does a hangup that returns -/
  balance : s'.closed.toNat + s.closings =
    s.closed.toNat + s'.closings + (endCalls b new).count .closed
  ended : s.mediaEnded = true → s'.mediaEnded = true
  hangups : s.closed.toNat + (endCalls b new).count (.hangup true) ≤ s'.closed.toNat
  /-- `haze_media_channel_close` does not hang up when the session has ended -/
  live : .hangup true ∈ endCalls b new → s.mediaEnded = false

theorem EndStep.closed (h : EndStep b s s' calls) (hclosed : s.closed = true) :
    s'.closed = true := by
  have hle := h.hangups
  rw [hclosed] at hle
  cases hs' : s'.closed with
  | true => rfl
  | false =>
      rw [hs'] at hle
      simp at hle

theorem endCalls_append (b : Bool) (new new' : List MediaCall) :
    endCalls b (new ++ new') = endCalls b new ++ endCalls b new' := List.filterMap_append

/-- One step after the other. -/
theorem EndStep.trans {new new' : List MediaCall} (h : EndStep b s s' new)
    (h' : EndStep b s' s'' new') : EndStep b s s'' (new ++ new') := by
  have hends := endCalls_append b new new'
  have hbalance := h.balance
  have hbalance' := h'.balance
  have hhangups := h.hangups
  have hhangups' := h'.hangups
  refine ⟨by rw [h'.calls, h.calls, List.append_assoc], ?_, fun hended => h'.ended (h.ended hended),
    ?_, fun hmem => ?_⟩
  · rw [hends, List.count_append]
    omega
  · rw [hends, List.count_append]
    omega
  · rw [hends] at hmem
    rcases List.mem_append.mp hmem with hmem | hmem
    · exact h.live hmem
    · cases hended : s.mediaEnded with
      | false => rfl
      | true => exact (h.ended hended).symm.trans (h'.live hmem)

/-- The hangup that disposal waits for is still to return, if it was before. -/
def Waits (s s' : HazeMediaChannel) : Prop := .closing true ∈ s.stack → .closing true ∈ s'.stack

/-- The stack has lost a frame that disposal does not wait for. -/
theorem waits_pop {frame : MediaFrame} (hstack : s.stack = frame :: s'.stack)
    (hframe : frame ≠ .closing true) : Waits s s' := by
  intro h
  rw [hstack] at h
  exact (List.mem_cons.mp h).resolve_left hframe.symm

/-! ## Steps that have nothing to do with the end -/

/-- The call says nothing about the end of a channel. -/
def Unending (c : MediaCall) : Prop := ∀ b, EndCall.ofCall b c = none

/-- The channel is no nearer to its end. -/
structure Inert (s s' : HazeMediaChannel) : Prop where
  calls : ∃ calls, s'.calls = s.calls ++ calls ∧ ∀ c ∈ calls, Unending c
  closed : s'.closed = s.closed
  ended : s'.mediaEnded = s.mediaEnded
  closings : s'.closings = s.closings
  waits : Waits s s'

theorem Inert.of_eq (hcalls : s'.calls = s.calls) (hclosed : s'.closed = s.closed)
    (hended : s'.mediaEnded = s.mediaEnded) (hclosings : s'.closings = s.closings)
    (hwaits : Waits s s') : Inert s s' :=
  ⟨⟨[], by rw [hcalls, List.append_nil], by simp⟩, hclosed, hended, hclosings, hwaits⟩

/-- Neither the calls nor the flags nor the stack change. -/
theorem Inert.of_stack (hcalls : s'.calls = s.calls) (hclosed : s'.closed = s.closed)
    (hended : s'.mediaEnded = s.mediaEnded) (hstack : s'.stack = s.stack) : Inert s s' := by
  refine Inert.of_eq hcalls hclosed hended ?_ (fun h => hstack.symm ▸ h)
  rw [HazeMediaChannel.closings, HazeMediaChannel.closings, hstack]

theorem Inert.refl (s : HazeMediaChannel) : Inert s s := Inert.of_stack rfl rfl rfl rfl

theorem Inert.trans (h : Inert s s') (h' : Inert s' s'') : Inert s s'' := by
  obtain ⟨calls, hcalls, hunending⟩ := h.calls
  obtain ⟨calls', hcalls', hunending'⟩ := h'.calls
  refine ⟨⟨calls ++ calls', by rw [hcalls', hcalls, List.append_assoc], fun c hc => ?_⟩,
    h'.closed.trans h.closed, h'.ended.trans h.ended, h'.closings.trans h.closings,
    fun hwait => h'.waits (h.waits hwait)⟩
  exact (List.mem_append.mp hc).elim (hunending c) (hunending' c)

theorem inert_log (s : HazeMediaChannel) (h : ∀ c ∈ calls, Unending c) : Inert s (s.log calls) :=
  ⟨⟨calls, rfl, h⟩, rfl, rfl, rfl, id⟩

theorem endCalls_unending (h : ∀ c ∈ calls, Unending c) : endCalls b calls = [] :=
  List.filterMap_eq_nil_iff.mpr (fun c hc => h c hc b)

theorem Inert.endStep (h : Inert s s') : ∃ calls, EndStep b s s' calls ∧ Waits s s' := by
  obtain ⟨calls, hcalls, hunending⟩ := h.calls
  have hnone : endCalls b calls = [] := endCalls_unending hunending
  refine ⟨calls, ⟨hcalls, ?_, fun hended => h.ended.trans hended, ?_, ?_⟩, h.waits⟩
  · rw [hnone, h.closed, h.closings]
    rfl
  · rw [hnone, h.closed]
    exact Nat.le_refl _
  · rw [hnone]
    simp

theorem unending_failed (context : Nat) (error : Option GError) :
    Unending (.failed context error) := fun _ => rfl

theorem inert_initiateMedia (s : HazeMediaChannel) (psr context : Nat)
    (types : List PurpleMediaSessionType) : Inert s (s.initiateMedia psr context types) := by
  cases types with
  | nil => exact Inert.refl s
  | cons type rest =>
      have hlog : Inert s (s.log [.initiateMedia type]) :=
        inert_log s (by simp [Unending, EndCall.ofCall])
      refine hlog.trans (Inert.of_eq rfl rfl rfl ?_ (List.mem_cons_of_mem _))
      exact List.countP_cons_of_neg (by simp [MediaFrame.closes])

theorem inert_initiateMediaReturns {result : Bool}
    (h : s.initiateMediaReturns result = .ok s') : Inert s s' := by
  rcases initiateMediaReturns_ok h with rfl | ⟨psr, context, rest, stack, hstack, rfl⟩
  · exact Inert.refl s'
  · have hpop : Inert s { s with stack := stack } := by
      refine Inert.of_eq rfl rfl rfl ?_ (waits_pop hstack (by simp))
      rw [closings, closings, hstack]
      exact (List.countP_cons_of_neg (by simp [MediaFrame.closes])).symm
    exact hpop.trans (inert_initiateMedia _ psr context rest)

theorem inert_initMediaCb (h : s.initMediaCb = .ok s') : Inert s s' := by
  obtain ⟨-, rfl⟩ := initMediaCb_ok h
  exact Inert.of_stack rfl rfl rfl rfl

theorem inert_streamNew {mediaType : Nat} (h : s.streamNew mediaType = .ok s') : Inert s s' := by
  obtain ⟨requests, calls, hloop, rfl⟩ := streamNew_ok h
  refine ⟨⟨_, rfl, fun c hc => ?_⟩, rfl, rfl, rfl, id⟩
  rcases List.mem_append.mp hc with hc | hc
  · obtain ⟨context, streams, rfl⟩ := satisfyRequests_succeeded hloop c hc
    exact fun _ => rfl
  · rw [List.mem_singleton.mp hc]
    exact fun _ => rfl

theorem inert_requestStreams {contactHandle : Nat} {types : List Nat} {caps : PurpleMediaCaps}
    {context : Nat} (h : s.mediaChannelRequestStreams contactHandle types caps context = .ok s') :
    Inert s s' := by
  have hlog : Inert s (s.log [.requestStreams context]) :=
    inert_log s (by simp [Unending, EndCall.ofCall])
  have hpend : Inert s (s.pend types context) := hlog.trans (Inert.of_stack rfl rfl rfl rfl)
  have hfail : ∀ (t : HazeMediaChannel) (e : GError), Inert t (t.log [.failed context (some e)]) :=
    fun t e => inert_log t (List.forall_mem_singleton.mpr (unending_failed context _))
  rcases mediaChannelRequestStreams_ok h with
    ⟨-, rfl⟩ | ⟨-, ⟨-, error, rfl⟩ | ⟨error, rfl⟩ | ⟨t, ht, rfl⟩⟩
  · exact hlog.trans (inert_log _ (by simp [Unending, EndCall.ofCall]))
  · exact hlog.trans (hfail _ error)
  · refine (hpend.trans ?_).trans (hfail _ error)
    refine ⟨⟨_, rfl, fun c hc => ?_⟩, rfl, rfl, rfl, id⟩
    obtain ⟨context', error', rfl⟩ := failed_of_mem_free hc
    exact unending_failed context' _
  · have hinit : Inert (s.pend types context) t := by
      rcases ht with rfl | rfl
      · exact Inert.refl _
      · exact Inert.of_stack rfl rfl rfl rfl
    exact (hpend.trans hinit).trans (inert_initiateMedia _ _ _ _)

/-! ## Steps that end the channel -/

/-- The flags are all that changes. -/
theorem endStep_of_flags (hcalls : s'.calls = s.calls) (hstack : s'.stack = s.stack)
    (hclosed : s'.closed = s.closed) (hended : s'.mediaEnded = s.mediaEnded) :
    EndStep b s s' [] := by
  refine ⟨by rw [hcalls, List.append_nil], ?_, fun h => hended.trans h, ?_, ?_⟩
  · rw [hclosed, closings, closings, hstack]
    rfl
  · rw [hclosed]
    exact Nat.le_refl _
  · intro h
    cases h

/-- The channel is open, and says that it is closed. -/
theorem endStep_shut (hopen : s.closed = false) (hcalls : s'.calls = s.calls ++ [.closed])
    (hstack : s'.stack = s.stack) (hclosed : s'.closed = true)
    (hended : s.mediaEnded = true → s'.mediaEnded = true) : EndStep b s s' [.closed] := by
  have hnew : endCalls b [.closed] = [.closed] := rfl
  refine ⟨hcalls, ?_, hended, ?_, ?_⟩
  · rw [hopen, hclosed, hnew, closings, closings, hstack]
    simp
    omega
  · rw [hopen, hclosed, hnew]
    simp
  · rw [hnew]
    simp

/-- The channel is open, and hangs up. -/
theorem endStep_hangUp {disposing : Bool} (hopen : s.closed = false)
    (hlive : s.mediaEnded = false) (hcalls : s'.calls = s.calls ++ [.hangup])
    (hstack : s'.stack = .closing disposing :: s.stack) (hclosed : s'.closed = true) :
    EndStep b s s' [.hangup] := by
  have hnew : endCalls b [.hangup] = [.hangup b] := rfl
  have hclosings : s'.closings = s.closings + 1 := by
    rw [closings, closings, hstack]
    exact List.countP_cons_of_pos rfl
  refine ⟨hcalls, ?_, fun h => ?_, ?_, fun _ => hlive⟩
  · rw [hopen, hclosed, hnew, hclosings]
    simp
    omega
  · rw [hlive] at h
    cases h
  · rw [hopen, hclosed, hnew]
    have hle := List.count_le_length (a := EndCall.hangup true) (l := [EndCall.hangup b])
    simpa using hle

theorem endStep_close (s : HazeMediaChannel) (disposing : Bool) :
    (s.hazeMediaChannelClose disposing).closed = true ∧
      ∃ new, EndStep b s (s.hazeMediaChannelClose disposing) new ∧
        Waits s (s.hazeMediaChannelClose disposing) := by
  rcases hazeMediaChannelClose_cases s disposing with
    ⟨hclosed, media, hclose⟩ | ⟨hopen, -, hended, hclose⟩ | ⟨hopen, -, hclose⟩
  · rw [hclose]
    exact ⟨hclosed, [], endStep_of_flags rfl rfl rfl rfl, id⟩
  · rw [hclose]
    exact ⟨rfl, [.hangup], endStep_hangUp hopen hended rfl rfl rfl, List.mem_cons_of_mem _⟩
  · rw [hclose]
    cases disposing with
    | false => exact ⟨rfl, [.closed], endStep_shut hopen rfl rfl rfl (fun h => h), id⟩
    | true => exact ⟨rfl, [.closed], endStep_shut hopen rfl rfl rfl (fun h => h), id⟩

/-- Disposal that finds no hangup under way is over, or waits for its own. -/
theorem hazeMediaChannelClose_disposing (hstack : ∀ frame ∈ s.stack, ¬ frame.closes = true) :
    (s.hazeMediaChannelClose true).closings = 0 ∨
      .closing true ∈ (s.hazeMediaChannelClose true).stack := by
  have hnone : s.closings = 0 := List.countP_eq_zero.mpr hstack
  rcases hazeMediaChannelClose_cases s true with
    ⟨-, media, hclose⟩ | ⟨-, -, -, hclose⟩ | ⟨-, -, hclose⟩
  · rw [hclose]
    exact Or.inl hnone
  · rw [hclose]
    exact Or.inr List.mem_cons_self
  · rw [hclose]
    exact Or.inl hnone

/-- Removing the local user closes a channel without a session, and hangs up otherwise. -/
theorem endStep_removeMember (s : HazeMediaChannel) :
    ∃ new, EndStep false s s.hazeMediaChannelRemoveMember new ∧
      Waits s s.hazeMediaChannelRemoveMember := by
  unfold hazeMediaChannelRemoveMember
  by_cases hmedia : s.media = true
  · rw [if_neg (not_not.mpr hmedia)]
    have hclosings : (MediaFrame.removing :: s.stack).countP MediaFrame.closes =
        s.stack.countP MediaFrame.closes := List.countP_cons_of_neg (by simp [MediaFrame.closes])
    refine ⟨[.hangup], ⟨rfl, ?_, fun h => h, ?_, ?_⟩, List.mem_cons_of_mem _⟩
    · show s.closed.toNat + s.stack.countP MediaFrame.closes =
        s.closed.toNat + (MediaFrame.removing :: s.stack).countP MediaFrame.closes + 0
      rw [hclosings]
      rfl
    · exact Nat.le_refl _
    · intro h
      simp [endCalls, EndCall.ofCall] at h
  · rw [if_pos hmedia]
    exact (endStep_close s false).2

/-- The end of the session closes the channel, which has nothing to hang up then. -/
theorem endStep_sessionEnd (s : HazeMediaChannel) :
    s.sessionEnd.mediaEnded = true ∧
      ∃ new, EndStep true s s.sessionEnd new ∧ .hangup true ∉ endCalls true new ∧
        Waits s s.sessionEnd := by
  let freed := s.pendingStreamRequests.flatMap pendingStreamRequestFree
  have hnone : endCalls true freed = [] := by
    apply endCalls_unending
    intro c hc
    obtain ⟨context, error, rfl⟩ := failed_of_mem_frees hc
    exact unending_failed context _
  have hended : EndStep true s s.ended freed := by
    refine ⟨rfl, ?_, fun _ => rfl, ?_, ?_⟩
    · rw [hnone]
      rfl
    · rw [hnone]
      exact Nat.le_refl _
    · rw [hnone]
      simp
  rcases sessionEnd_cases s with ⟨-, hend⟩ | ⟨hopen, hend⟩
  · rw [hend]
    refine ⟨rfl, freed, hended, ?_, id⟩
    rw [hnone]
    exact List.not_mem_nil
  · rw [hend]
    have hshut : EndStep true s.ended
        (HazeMediaChannel.finishClose { s.ended with closed := true } false) [.closed] :=
      endStep_shut hopen rfl rfl rfl (fun h => h)
    refine ⟨rfl, freed ++ [.closed], hended.trans hshut, ?_, id⟩
    rw [endCalls_append, hnone]
    simp [endCalls, EndCall.ofCall]

/-- A hangup that returns is followed by `Closed`. -/
theorem endStep_hangupReturns (s : HazeMediaChannel) :
    ∃ new, EndStep b s s.hangupReturns new ∧
      (s.stack.head? ≠ some (.closing true) → Waits s s.hangupReturns) := by
  rcases hangupReturns_cases s with
    hsame | ⟨stack, hstack, hpop⟩ | ⟨disposing, stack, hstack, hfinish⟩
  · rw [hsame]
    exact ⟨[], endStep_of_flags rfl rfl rfl rfl, fun _ => id⟩
  · have hinert : Inert s { s with stack := stack } := by
      refine Inert.of_eq rfl rfl rfl ?_ (waits_pop hstack (by simp))
      rw [closings, closings, hstack]
      exact (List.countP_cons_of_neg (by simp [MediaFrame.closes])).symm
    rw [hpop]
    obtain ⟨new, hend, hwaits⟩ := hinert.endStep (b := b)
    exact ⟨new, hend, fun _ => hwaits⟩
  · have hclosings : s.closings = stack.countP MediaFrame.closes + 1 := by
      rw [closings, hstack]
      exact List.countP_cons_of_pos rfl
    have hnew : endCalls b [.closed] = [.closed] := rfl
    have hafter : s.hangupReturns.closings = stack.countP MediaFrame.closes := by
      rw [hfinish]
      cases disposing <;> rfl
    have hsame : s.hangupReturns.closed = s.closed := by
      rw [hfinish]
      cases disposing <;> rfl
    refine ⟨[.closed], ⟨?_, ?_, fun h => ?_, ?_, ?_⟩, fun hhead => ?_⟩
    · rw [hfinish]
      cases disposing <;> rfl
    · rw [hsame, hafter, hclosings, hnew]
      simp
      omega
    · rw [hfinish]
      cases disposing with
      | false => exact h
      | true => exact h
    · rw [hsame, hnew]
      exact Nat.le_refl _
    · rw [hnew]
      simp
    · rw [hfinish]
      cases disposing with
      | false => exact waits_pop hstack (by simp)
      | true => exact absurd (by rw [hstack, List.head?_cons]) hhead

/-- The hangup is no longer under way. -/
theorem closings_hangupReturns {disposing : Bool}
    (h : s.stack.head? = some (.closing disposing)) :
    s.closings = s.hangupReturns.closings + 1 := by
  obtain ⟨stack, hstack⟩ := List.head?_eq_some_iff.mp h
  have hclosings : s.closings = stack.countP MediaFrame.closes + 1 := by
    rw [closings, hstack]
    exact List.countP_cons_of_pos rfl
  rw [hclosings, HazeMediaChannel.hangupReturns, hstack]
  cases disposing with
  | false => rfl
  | true => rfl

/-- What any other step does about the end of the channel: nothing. -/
theorem endStep_other {e : MediaEvent} (he : MediaEnd.endsChannel e = false)
    (hstep : mediaChannels.step s e = .ok s') : ∃ new, EndStep b s s' new ∧ Waits s s' := by
  cases e with
  | requestStreams contactHandle types caps context => exact (inert_requestStreams hstep).endStep
  | initiateMediaReturns result => exact (inert_initiateMediaReturns hstep).endStep
  | initMedia => exact (inert_initMediaCb hstep).endStep
  | streamNew mediaType => exact (inert_streamNew hstep).endStep
  | streamEnd id =>
      cases hstep
      exact Inert.endStep (Inert.of_stack rfl rfl rfl rfl)
  | hangupReturns => cases he
  | sessionEnd => cases he
  | close => cases he
  | removeMember => cases he
  | dispose => cases he

end HazeMediaChannel

namespace MediaEnd

open HazeMediaChannel (EndStep Waits endCalls)

variable {b : Bool}

/-! ## One channel -/

/-- What holds of a channel at any time. -/
structure EndsRight (listed : Prop) (chan : HazeMediaChannel) (e : ChannelEnd) : Prop where
  /-- a channel that is closed hangs up, or has said that it is closed -/
  balance : chan.closed.toNat = chan.closings + e.history.count .closed
  listed : listed ↔ .closed ∉ e.history
  hangups : e.history.count (.hangup true) ≤ chan.closed.toNat
  ended : .sessionEnd ∈ e.history → chan.mediaEnded = true ∧ e.selfMember = false
  after : e.history.Pairwise (fun x y => x = .sessionEnd → ∀ b, y ≠ .hangup b)
  freed : e.freed = true → .closed ∈ e.history
  /-- a disposal that has begun is over, or waits for its hangup -/
  disposing : e.disposeHasRun = true → e.freed = true ∨ .closing true ∈ chan.stack

/-- What is known of the disposal of a channel may change, as long as it stays right. -/
theorem EndsRight.withDisposal {listed : Prop} {chan : HazeMediaChannel} {e : ChannelEnd}
    (h : EndsRight listed chan e) (disposeHasRun freed : Bool)
    (hfreed : freed = true → .closed ∈ e.history)
    (hdisposing : disposeHasRun = true → freed = true ∨ .closing true ∈ chan.stack) :
    EndsRight listed chan { e with disposeHasRun := disposeHasRun, freed := freed } :=
  ⟨h.balance, h.listed, h.hangups, h.ended, h.after, hfreed, hdisposing⟩

/-- A channel that is closed and does not hang up has said so. -/
theorem EndsRight.mem_closed {listed : Prop} {chan : HazeMediaChannel} {e : ChannelEnd}
    (h : EndsRight listed chan e) (hclosed : chan.closed = true) (hclosings : chan.closings = 0) :
    .closed ∈ e.history := by
  have hcount := h.balance
  rw [hclosed, hclosings, Nat.zero_add] at hcount
  apply List.count_pos_iff.mp
  rw [← hcount]
  exact Nat.one_pos

theorem mem_endCalls_closed {new : List MediaCall} : .closed ∈ endCalls b new ↔ .closed ∈ new := by
  rw [endCalls, List.mem_filterMap]
  constructor
  · rintro ⟨c, hc, hof⟩
    cases c <;> first | exact hc | cases hof
  · exact fun hc => ⟨_, hc, rfl⟩

theorem ne_sessionEnd_of_mem {new : List MediaCall} {x : EndCall} (h : x ∈ endCalls b new) :
    x ≠ .sessionEnd := by
  rw [endCalls, List.mem_filterMap] at h
  obtain ⟨c, -, hof⟩ := h
  rintro rfl
  cases c <;> cases hof

theorem eq_of_mem_hangup {new : List MediaCall} {b' : Bool} (h : .hangup b' ∈ endCalls b new) :
    b' = b := by
  rw [endCalls, List.mem_filterMap] at h
  obtain ⟨c, -, hof⟩ := h
  cases c <;> cases hof
  rfl

/-- The step lemma of a channel. Outside of `haze_media_channel_close` it hangs up only when the
local user leaves the group. -/
theorem EndsRight.step {listed listed' : Prop} {chan chan' : HazeMediaChannel} {e : ChannelEnd}
    {new : List MediaCall} (h : EndsRight listed chan e) (hstep : EndStep b chan chan' new)
    (hb : b = false → e.selfMember = true) (hwaits : e.disposeHasRun = true → Waits chan chan')
    (hlisted : listed' ↔ listed ∧ .closed ∉ new) :
    EndsRight listed' chan' { e with history := e.history ++ endCalls b new } := by
  have hbalance := h.balance
  have hbalance' := hstep.balance
  have hhangups := h.hangups
  have hhangups' := hstep.hangups
  -- a session that has ended is not asked to hang up
  have hafter : .sessionEnd ∈ e.history → ∀ b', .hangup b' ∉ endCalls b new := by
    intro hend b' hmem
    obtain ⟨hended, hmember⟩ := h.ended hend
    obtain rfl := eq_of_mem_hangup hmem
    cases b' with
    | true =>
        rw [hstep.live hmem] at hended
        cases hended
    | false =>
        rw [hb rfl] at hmember
        cases hmember
  refine ⟨?_, ?_, ?_, fun hmem => ?_, ?_, fun hfreed => List.mem_append_left _ (h.freed hfreed),
    fun hrun => (h.disposing hrun).imp_right (hwaits hrun)⟩
  · rw [List.count_append]
    omega
  · rw [hlisted, h.listed, List.mem_append, not_or, mem_endCalls_closed]
  · rw [List.count_append]
    omega
  · rcases List.mem_append.mp hmem with hmem | hmem
    · exact ⟨hstep.ended (h.ended hmem).1, (h.ended hmem).2⟩
    · exact absurd rfl (ne_sessionEnd_of_mem hmem)
  · rw [List.pairwise_append]
    refine ⟨h.after, ?_, fun x hx y hy hend b' heq => ?_⟩
    · apply List.pairwise_of_forall_mem_list
      intro x hx y _ hend
      exact absurd hend (ne_sessionEnd_of_mem hx)
    · rw [heq] at hy
      rw [hend] at hx
      exact hafter hx b' hy

/-- The step lemma for the end of the session, which is recorded before what it entails. -/
theorem EndsRight.sessionEnd {listed listed' : Prop} {chan chan' : HazeMediaChannel}
    {e : ChannelEnd} {new : List MediaCall} (h : EndsRight listed chan e)
    (hstep : EndStep true chan chan' new) (hended : chan'.mediaEnded = true)
    (hsilent : .hangup true ∉ endCalls true new) (hwaits : Waits chan chan')
    (hlisted : listed' ↔ listed ∧ .closed ∉ new) :
    EndsRight listed' chan' { e with
      selfMember := false
      history := e.history ++ [.sessionEnd] ++ endCalls true new } := by
  let before := e.history ++ [EndCall.sessionEnd]
  have hcount : ∀ x, x ≠ .sessionEnd → before.count x = e.history.count x := by
    intro x hx
    have hzero : [EndCall.sessionEnd].count x = 0 :=
      List.count_eq_zero.mpr (fun hmem => hx (List.mem_singleton.mp hmem))
    rw [List.count_append, hzero, Nat.add_zero]
  have hbefore : EndsRight listed { chan with mediaEnded := true }
      { e with selfMember := false, history := before } := by
    refine ⟨?_, ?_, ?_, fun _ => ⟨rfl, rfl⟩, ?_,
      fun hfreed => List.mem_append_left _ (h.freed hfreed), h.disposing⟩
    · show chan.closed.toNat = chan.closings + before.count .closed
      rw [hcount .closed (by simp)]
      exact h.balance
    · rw [h.listed, List.mem_append]
      simp
    · show before.count (.hangup true) ≤ chan.closed.toNat
      rw [hcount (.hangup true) (by simp)]
      exact h.hangups
    · rw [List.pairwise_append]
      refine ⟨h.after, List.pairwise_singleton _ _, fun x _ y hy _ b' heq => ?_⟩
      rw [List.mem_singleton.mp hy] at heq
      cases heq
  have hafter : EndStep true { chan with mediaEnded := true } chan' new :=
    ⟨hstep.calls, hstep.balance, fun _ => hended, hstep.hangups,
      fun hmem => absurd hmem hsilent⟩
  exact hbefore.step hafter (by simp) (fun _ => hwaits) hlisted

/-- The step lemma for disposal: what it leaves of the channel is as it should be once the disposal
is known about. -/
theorem EndsRight.dispose {listed listed' : Prop} {chan chan' : HazeMediaChannel} {e : ChannelEnd}
    {new : List MediaCall} (h : EndsRight listed chan e) (hstep : EndStep true chan chan' new)
    (hlisted : listed' ↔ listed ∧ .closed ∉ new) (disposeHasRun freed : Bool)
    (hfreed : freed = true → e.freed = true ∨ chan'.closed = true ∧ chan'.closings = 0)
    (hdisposing : disposeHasRun = true → freed = true ∨ .closing true ∈ chan'.stack) :
    EndsRight listed' chan' { e with
      disposeHasRun := disposeHasRun
      freed := freed
      history := e.history ++ endCalls true new } := by
  have hbefore : EndsRight listed chan { e with disposeHasRun := false } :=
    h.withDisposal false e.freed h.freed (by simp)
  have hafter : EndsRight listed' chan' { e with
      disposeHasRun := false
      history := e.history ++ endCalls true new } := hbefore.step hstep (by simp) (by simp) hlisted
  refine hafter.withDisposal disposeHasRun freed (fun htrue => ?_) hdisposing
  rcases hfreed htrue with hold | ⟨hclosed, hclosings⟩
  · exact hafter.freed hold
  · exact hafter.mem_closed hclosed hclosings

end MediaEnd

end Haze
