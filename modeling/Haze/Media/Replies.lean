import Haze.Media.Quiet
import Haze.Media.Requests

set_option autoImplicit false

/-! # What one step of a channel settles

`Settles own s s' new` sums up a step that makes the calls `new`: the contexts that were
outstanding, and the one that comes with the step, are outstanding or have their replies; requests
fail only when the session ends, which closes the channel; and a channel that is closed says so, at
once or when a hangup returns.
-/

namespace Haze

namespace HazeMediaChannel

variable {s s' s'' : HazeMediaChannel} {own : List Nat} {new new' calls : List MediaCall}

/-- The channel was closed, says that it is, or is about to. -/
def Ends (s s' : HazeMediaChannel) (new : List MediaCall) : Prop :=
  s.closed = true ∨ .closed ∈ new ∨ s'.Closing

/-- What a step settles, which makes the calls `new` and opens the contexts `own`. -/
structure Settles (own : List Nat) (s s' : HazeMediaChannel) (new : List MediaCall) : Prop where
  calls : s'.calls = s.calls ++ new
  contexts : (own ++ s.outstanding).Perm (s'.outstanding ++ new.filterMap MediaCall.replies)
  waiting : (∀ p ∈ s.pendingStreamRequests, p.context.isSome) →
    ∀ p ∈ s'.pendingStreamRequests, p.context.isSome
  closed : s'.closed = true → Ends s s' new
  closing : s.Closing → .closed ∈ new ∨ s'.Closing
  failed : ∀ context error, .failed context error ∈ new → context ∈ own ∨ Ends s s' new

/-- Two steps, of which the second opens no context. -/
theorem Settles.trans (h : Settles own s s' new) (h' : Settles [] s' s'' new') :
    Settles own s s'' (new ++ new') := by
  have hends : Ends s s' new → Ends s s'' (new ++ new') := by
    rintro (hclosed | hnew | hclosing)
    · exact Or.inl hclosed
    · exact Or.inr (Or.inl (List.mem_append_left _ hnew))
    · exact Or.inr ((h'.closing hclosing).imp_left (List.mem_append_right _))
  have hends' : Ends s' s'' new' → Ends s s'' (new ++ new') := by
    rintro (hclosed | hnew | hclosing)
    · exact hends (h.closed hclosed)
    · exact Or.inr (Or.inl (List.mem_append_right _ hnew))
    · exact Or.inr (Or.inr hclosing)
  refine ⟨?_, ?_, fun hs => h'.waiting (h.waiting hs), fun hclosed => hends' (h'.closed hclosed),
    fun hclosing => ?_, fun context error hmem => ?_⟩
  · rw [h'.calls, h.calls, List.append_assoc]
  · have hboth := h.contexts.trans (h'.contexts.append_right (new.filterMap MediaCall.replies))
    rw [List.append_assoc] at hboth
    rw [List.filterMap_append]
    exact hboth.trans (List.perm_append_comm.append_left s''.outstanding)
  · rcases h.closing hclosing with hnew | hclosing
    · exact Or.inl (List.mem_append_left _ hnew)
    · exact (h'.closing hclosing).imp_left (List.mem_append_right _)
  · rcases List.mem_append.mp hmem with hmem | hmem
    · exact (h.failed context error hmem).imp_right hends
    · rcases h'.failed context error hmem with hown | hend
      · cases hown
      · exact Or.inr (hends' hend)

/-- Nothing that matters changes. -/
theorem settles_of_eq (hcalls : s'.calls = s.calls)
    (hpending : s'.pendingStreamRequests = s.pendingStreamRequests)
    (hclosed : s'.closed = s.closed) (hclosing : s.Closing → s'.Closing) :
    Settles [] s s' [] := by
  refine ⟨by rw [hcalls, List.append_nil], ?_, by rw [hpending]; exact id,
    fun h => Or.inl (hclosed ▸ h), fun h => Or.inr (hclosing h), by simp⟩
  rw [outstanding, outstanding, hpending]
  simp

/-- A step that ends with `Closed`. -/
theorem settles_of_closed (hcalls : s'.calls = s.calls ++ new)
    (hcontexts : (own ++ s.outstanding).Perm
      (s'.outstanding ++ new.filterMap MediaCall.replies))
    (hwaiting : ∀ p ∈ s'.pendingStreamRequests, p ∈ s.pendingStreamRequests)
    (hnew : .closed ∈ new) : Settles own s s' new :=
  ⟨hcalls, hcontexts, fun hs p hp => hs p (hwaiting p hp), fun _ => Or.inr (Or.inl hnew),
    fun _ => Or.inl hnew, fun _ _ _ => Or.inr (Or.inr (Or.inl hnew))⟩

/-- Calls are logged that reply to nobody. -/
theorem settles_log (s : HazeMediaChannel) (hreplies : ∀ c ∈ calls, c.replies = none) :
    Settles [] s (s.log calls) calls := by
  refine ⟨rfl, ?_, id, fun h => Or.inl h, fun h => Or.inr h, fun context error hmem => ?_⟩
  · rw [List.filterMap_eq_nil_iff.mpr hreplies, List.append_nil]
    exact List.Perm.refl _
  · cases hreplies _ hmem

theorem settles_finishClose (s : HazeMediaChannel) (disposing : Bool) (closed : Bool)
    (stack : List MediaFrame) :
    Settles [] s ({ s with closed := closed, stack := stack }.finishClose disposing) [.closed] := by
  refine settles_of_closed ?_ ?_ ?_ (List.mem_singleton_self _)
  · cases disposing <;> rfl
  · have hsame : ({ s with closed := closed, stack := stack }.finishClose disposing).outstanding =
        s.outstanding := by
      cases disposing <;> rfl
    rw [hsame]
    exact (List.append_nil _).symm ▸ List.Perm.refl _
  · intro p hp
    cases disposing with
    | false => exact hp
    | true => exact hp

/-- `Closed` is emitted, or a hangup is under way after which it will be. -/
theorem settles_close (s : HazeMediaChannel) (disposing : Bool) :
    ∃ new, Settles [] s (s.hazeMediaChannelClose disposing) new ∧
      Ends s (s.hazeMediaChannelClose disposing) new := by
  rcases hazeMediaChannelClose_cases s disposing with
    ⟨hclosed, media, hclose⟩ | ⟨-, -, -, hclose⟩ | ⟨-, -, hclose⟩
  · rw [hclose]
    exact ⟨[], settles_of_eq rfl rfl rfl id, Or.inl hclosed⟩
  · have hclosing : Closing (s.hazeMediaChannelClose disposing) := by
      rw [hclose]
      exact ⟨disposing, List.mem_cons_self⟩
    refine ⟨[.hangup], ⟨?_, ?_, ?_, fun _ => Or.inr (Or.inr hclosing), fun _ => Or.inr hclosing,
      by simp⟩, Or.inr (Or.inr hclosing)⟩
    · rw [hclose]
      rfl
    · rw [hclose]
      exact (List.append_nil _).symm ▸ List.Perm.refl _
    · rw [hclose]
      exact id
  · have hnew : .closed ∈ [MediaCall.closed] := List.mem_singleton_self _
    rw [hclose]
    exact ⟨[.closed], settles_finishClose s disposing true s.stack, Or.inr (Or.inl hnew)⟩

theorem settles_removeMember (s : HazeMediaChannel) :
    ∃ new, Settles [] s s.hazeMediaChannelRemoveMember new := by
  unfold hazeMediaChannelRemoveMember
  split
  · obtain ⟨new, hnew, -⟩ := settles_close s false
    exact ⟨new, hnew⟩
  · have hlog : Settles [] s (s.log [.hangup]) [.hangup] :=
      settles_log s (by simp [MediaCall.replies])
    have hrest : Settles [] (s.log [.hangup])
        { s.log [.hangup] with stack := .removing :: s.stack } [] := by
      refine settles_of_eq rfl rfl rfl ?_
      rintro ⟨disposing, hmem⟩
      exact ⟨disposing, List.mem_cons_of_mem _ hmem⟩
    exact ⟨_, hlog.trans hrest⟩

/-- All requests fail, and the channel is closed. -/
theorem settles_sessionEnd (s : HazeMediaChannel) : ∃ new, Settles [] s s.sessionEnd new := by
  let freed := s.pendingStreamRequests.flatMap pendingStreamRequestFree
  have hcontexts : s.outstanding.Perm
      (s.ended.outstanding ++ freed.filterMap MediaCall.replies) := by
    rw [filterMap_replies_free]
    exact List.Perm.refl _
  rcases sessionEnd_cases s with ⟨hclosed, hend⟩ | ⟨-, hend⟩
  · rw [hend]
    exact ⟨freed, rfl, hcontexts, by simp [HazeMediaChannel.ended, HazeMediaChannel.log],
      fun h => Or.inl h, fun h => Or.inr h, fun _ _ _ => Or.inr (Or.inl hclosed)⟩
  · rw [hend]
    have hfinish := settles_finishClose s.ended false true s.ended.stack
    refine ⟨freed ++ [.closed], settles_of_closed ?_ ?_ ?_ List.mem_concat_self⟩
    · exact List.append_assoc _ _ _
    · have hrest := hfinish.contexts.append_right (freed.filterMap MediaCall.replies)
      rw [List.filterMap_append]
      refine (hcontexts.trans hrest).trans ?_
      rw [List.append_assoc]
      exact List.perm_append_comm.append_left _
    · intro p hp
      cases hp

theorem settles_hangupReturns (s : HazeMediaChannel) :
    ∃ new, Settles [] s s.hangupReturns new := by
  rcases hangupReturns_cases s with hsame | ⟨stack, hstack, hpop⟩ | ⟨disposing, stack, -, hfinish⟩
  · rw [hsame]
    exact ⟨[], settles_of_eq rfl rfl rfl id⟩
  · rw [hpop]
    refine ⟨[], settles_of_eq rfl rfl rfl ?_⟩
    exact (closing_cons (s := { s with stack := stack }) hstack (by simp)).mp
  · rw [hfinish]
    exact ⟨[.closed], settles_finishClose s disposing s.closed stack⟩

theorem settles_initiateMedia (s : HazeMediaChannel) (psr context : Nat)
    (types : List PurpleMediaSessionType) :
    ∃ new, Settles [] s (s.initiateMedia psr context types) new ∧
      ∀ c ∈ new, c.replies = none := by
  cases types with
  | nil => exact ⟨[], settles_of_eq rfl rfl rfl id, by simp⟩
  | cons type rest =>
      have hlog : Settles [] s (s.log [.initiateMedia type]) [.initiateMedia type] :=
        settles_log s (by simp [MediaCall.replies])
      have hpush : Settles [] (s.log [.initiateMedia type])
          (s.initiateMedia psr context (type :: rest)) [] := by
        refine settles_of_eq rfl rfl rfl ?_
        rintro ⟨disposing, hmem⟩
        exact ⟨disposing, List.mem_cons_of_mem _ hmem⟩
      exact ⟨_, hlog.trans hpush, by simp [MediaCall.replies]⟩

theorem settles_initiateMediaReturns {result : Bool}
    (h : s.initiateMediaReturns result = .ok s') : ∃ new, Settles [] s s' new := by
  rcases initiateMediaReturns_ok h with rfl | ⟨psr, context, rest, stack, hstack, rfl⟩
  · exact ⟨[], settles_of_eq rfl rfl rfl id⟩
  · have hpop : Settles [] s { s with stack := stack } [] := by
      refine settles_of_eq rfl rfl rfl ?_
      exact (closing_cons (s := { s with stack := stack }) hstack (by simp)).mp
    obtain ⟨new, hnew, -⟩ := settles_initiateMedia { s with stack := stack } psr context rest
    exact ⟨_, hpop.trans hnew⟩

theorem settles_streamNew {mediaType : Nat} (h : s.streamNew mediaType = .ok s')
    (hs : ∀ p ∈ s.pendingStreamRequests, p.context.isSome) : ∃ new, Settles [] s s' new := by
  obtain ⟨requests, calls, hloop, rfl⟩ := streamNew_ok h
  obtain ⟨hperm, hsome⟩ := satisfyRequests_contexts hloop hs
  refine ⟨_, rfl, ?_, fun _ => hsome, fun hclosed => Or.inl hclosed, fun h => Or.inr h,
    fun context error hmem => ?_⟩
  · rw [List.filterMap_append]
    exact (List.append_nil (calls.filterMap MediaCall.replies)).symm ▸ hperm
  · rcases List.mem_append.mp hmem with hmem | hmem
    · obtain ⟨context', streams, heq⟩ := satisfyRequests_succeeded hloop _ hmem
      cases heq
    · cases List.mem_singleton.mp hmem

/-- A request is replied to at once. -/
theorem settles_replyNow {context : Nat} {reply : MediaCall} (hreply : reply.replies = some context)
    (s : HazeMediaChannel) : Settles [context] s ((s.log [.requestStreams context]).log [reply])
      [.requestStreams context, reply] := by
  have hreplies : [MediaCall.requestStreams context, reply].filterMap MediaCall.replies =
      [context] := by
    rw [List.filterMap_cons_none rfl, List.filterMap_cons_some hreply, List.filterMap_nil]
  refine ⟨by simp [HazeMediaChannel.log], ?_, id, fun h => Or.inl h, fun h => Or.inr h,
    fun context' error hmem => Or.inl ?_⟩
  · rw [hreplies]
    exact List.perm_append_comm
  · rcases List.mem_cons.mp hmem with heq | hmem
    · cases heq
    · rw [← List.mem_singleton.mp hmem] at hreply
      cases hreply
      exact List.mem_singleton_self _

/-- A request is put on the list. -/
theorem settles_pend (s : HazeMediaChannel) (types : List Nat) (context : Nat) :
    Settles [context] s (s.pend types context) [.requestStreams context] := by
  refine ⟨rfl, ?_, fun hs p hp => ?_, fun h => Or.inl h, fun h => Or.inr h, by simp⟩
  · have hnone : [MediaCall.requestStreams context].filterMap MediaCall.replies = [] := rfl
    rw [hnone, List.append_nil]
    exact List.Perm.refl _
  · rcases List.mem_cons.mp hp with rfl | hp
    · rfl
    · exact hs p hp

/-- What a request settles. It fails at once only if the channel has its session; one that is
refused for other reasons is replied to twice. -/
theorem requestStreams_settles {contactHandle : Nat} {types : List Nat} {caps : PurpleMediaCaps}
    {context : Nat} (h : s.mediaChannelRequestStreams contactHandle types caps context = .ok s') :
    (∃ new, Settles [context] s s' new ∧
      ∀ error, .failed context error ∈ new → s.media = true) ∨
      ∃ new, s'.calls = s.calls ++ new ∧ new.filterMap MediaCall.replies = [context, context] := by
  rcases mediaChannelRequestStreams_ok h with
    ⟨-, rfl⟩ | ⟨-, ⟨hmedia, error, rfl⟩ | ⟨error, rfl⟩ | ⟨t, ht, rfl⟩⟩
  · exact Or.inl ⟨_, settles_replyNow rfl s, by simp⟩
  · exact Or.inl ⟨_, settles_replyNow rfl s, fun _ _ => hmedia⟩
  · right
    let p := pendingStreamRequestNew s.nextRequest types context
    -- it is replied to when it is freed, and again
    refine ⟨[.requestStreams context] ++ pendingStreamRequestFree p ++
      [.failed context (some error)], ?_, rfl⟩
    simp [HazeMediaChannel.log, HazeMediaChannel.pend, p]
  · left
    have hinit : Settles [] (s.pend types context) t [] := by
      rcases ht with rfl | rfl
      · exact settles_of_eq rfl rfl rfl (fun h => h)
      · exact settles_of_eq rfl rfl rfl (fun h => h)
    obtain ⟨new, hnew, hsilent⟩ := settles_initiateMedia t s.nextRequest context
      (sessionTypes (types.count tpMediaStreamTypeAudio) (types.count tpMediaStreamTypeVideo))
    refine ⟨_, ((settles_pend s types context).trans hinit).trans hnew, fun error hmem => ?_⟩
    rcases List.mem_append.mp hmem with hmem | hmem
    · simp at hmem
    · cases hsilent _ hmem

/-- What a step of the channel settles, other than a request. -/
theorem step_settles {e : MediaEvent} (hs : ∀ p ∈ s.pendingStreamRequests, p.context.isSome)
    (hevent : ∀ contactHandle types caps context,
      e ≠ .requestStreams contactHandle types caps context)
    (hstep : mediaChannels.step s e = .ok s') : ∃ new, Settles [] s s' new := by
  cases e with
  | requestStreams contactHandle types caps context =>
      exact absurd rfl (hevent contactHandle types caps context)
  | initiateMediaReturns result => exact settles_initiateMediaReturns hstep
  | hangupReturns =>
      cases hstep
      exact settles_hangupReturns s
  | initMedia =>
      obtain ⟨-, rfl⟩ := initMediaCb_ok hstep
      exact ⟨[], settles_of_eq rfl rfl rfl (fun h => h)⟩
  | streamNew mediaType => exact settles_streamNew hstep hs
  | streamEnd id =>
      cases hstep
      exact ⟨[], settles_of_eq rfl rfl rfl (fun h => h)⟩
  | sessionEnd =>
      cases hstep
      exact settles_sessionEnd s
  | close =>
      cases hstep
      obtain ⟨new, hnew, -⟩ := settles_close s false
      exact ⟨new, hnew⟩
  | removeMember =>
      cases hstep
      exact settles_removeMember s
  | dispose =>
      cases hstep
      obtain ⟨new, hnew, -⟩ := settles_close s true
      exact ⟨new, hnew⟩

end HazeMediaChannel

end Haze
