import Haze.Media.Steps

set_option autoImplicit false

/-! # What a media channel does without a stream

Apart from the streams that come and go, and from the beginning of a request, the operations of a
channel only drop requests, with a reply of failure, and make calls that concern no stream. Such a
step is `Quiet`.
-/

namespace Haze

/-- The calls that neither announce a stream nor reply with one. -/
def MediaCall.quiet : MediaCall → Bool
  | .requestStreams _ => true
  | .succeeded _ _ => false
  | .failed _ _ => true
  | .initiateMedia _ => true
  | .hangup => true
  | .streamAdded _ _ _ => false
  | .streamStateChanged _ _ => false
  | .streamRemoved _ => false
  | .closed => true

namespace HazeMediaChannel

variable {s s' : HazeMediaChannel} {calls : List MediaCall}

/-- Requests may be dropped; no reply of success is sent, no stream appears and none is
announced. -/
structure Quiet (s s' : HazeMediaChannel) : Prop where
  pending : s'.pendingStreamRequests.Sublist s.pendingStreamRequests
  calls : ∃ new, s'.calls = s.calls ++ new ∧ ∀ c ∈ new, c.quiet = true
  nextStreamId : s'.nextStreamId = s.nextStreamId

theorem Quiet.of_eq (hpending : s'.pendingStreamRequests = s.pendingStreamRequests)
    (hcalls : s'.calls = s.calls) (hid : s'.nextStreamId = s.nextStreamId) : Quiet s s' := by
  refine ⟨?_, ⟨[], ?_, by simp⟩, hid⟩
  · rw [hpending]
  · rw [hcalls, List.append_nil]

theorem Quiet.refl (s : HazeMediaChannel) : Quiet s s := Quiet.of_eq rfl rfl rfl

theorem Quiet.trans {s'' : HazeMediaChannel} (h : Quiet s s') (h' : Quiet s' s'') :
    Quiet s s'' := by
  obtain ⟨new, hnew, hquiet⟩ := h.calls
  obtain ⟨new', hnew', hquiet'⟩ := h'.calls
  refine ⟨h'.pending.trans h.pending, ⟨new ++ new', ?_, fun c hc => ?_⟩,
    h'.nextStreamId.trans h.nextStreamId⟩
  · rw [hnew', hnew, List.append_assoc]
  · exact (List.mem_append.mp hc).elim (hquiet c) (hquiet' c)

/-- What is read of other calls is as it was. -/
theorem Quiet.filterMap_eq {β : Type*} {f : MediaCall → Option β} (h : Quiet s s')
    (hf : ∀ c : MediaCall, c.quiet = true → f c = none) :
    s'.calls.filterMap f = s.calls.filterMap f := by
  obtain ⟨new, hnew, hquiet⟩ := h.calls
  have hnone : new.filterMap f = [] :=
    List.filterMap_eq_nil_iff.mpr (fun c hc => hf c (hquiet c hc))
  rw [hnew, List.filterMap_append, hnone, List.append_nil]

/-- Calls are logged that concern no stream. -/
theorem quiet_log (s : HazeMediaChannel) (h : ∀ c ∈ calls, c.quiet = true) :
    Quiet s (s.log calls) :=
  ⟨List.Sublist.refl _, ⟨calls, rfl, h⟩, rfl⟩

theorem quiet_finishClose (s : HazeMediaChannel) (disposing : Bool) :
    Quiet s (s.finishClose disposing) := by
  have hlog : Quiet s (s.log [.closed]) := quiet_log s (by simp [MediaCall.quiet])
  cases disposing with
  | false => exact hlog
  | true => exact hlog.trans (Quiet.of_eq rfl rfl rfl)

theorem quiet_close (s : HazeMediaChannel) (disposing : Bool) :
    Quiet s (s.hazeMediaChannelClose disposing) := by
  rcases hazeMediaChannelClose_cases s disposing with
    ⟨-, media, hclose⟩ | ⟨-, -, -, hclose⟩ | ⟨-, -, hclose⟩
  · rw [hclose]
    exact Quiet.of_eq rfl rfl rfl
  · have hhangup : Quiet s (s.log [.hangup]) := quiet_log s (by simp [MediaCall.quiet])
    rw [hclose]
    exact hhangup.trans (Quiet.of_eq rfl rfl rfl)
  · have hclosed : Quiet s { s with closed := true } := Quiet.of_eq rfl rfl rfl
    rw [hclose]
    exact hclosed.trans (quiet_finishClose _ disposing)

theorem quiet_removeMember (s : HazeMediaChannel) : Quiet s s.hazeMediaChannelRemoveMember := by
  unfold hazeMediaChannelRemoveMember
  split
  · exact quiet_close s false
  · have hhangup : Quiet s (s.log [.hangup]) := quiet_log s (by simp [MediaCall.quiet])
    exact hhangup.trans (Quiet.of_eq rfl rfl rfl)

theorem quiet_pendingStreamRequestFree {p : PendingStreamRequest} :
    ∀ c ∈ pendingStreamRequestFree p, c.quiet = true := by
  intro c hc
  obtain ⟨context, error, rfl⟩ := failed_of_mem_free hc
  rfl

theorem quiet_ended (s : HazeMediaChannel) : Quiet s s.ended := by
  refine ⟨List.nil_sublist _, ⟨_, rfl, fun c hc => ?_⟩, rfl⟩
  obtain ⟨context, error, rfl⟩ := failed_of_mem_frees hc
  rfl

theorem quiet_sessionEnd (s : HazeMediaChannel) : Quiet s s.sessionEnd := by
  rcases sessionEnd_cases s with ⟨-, hend⟩ | ⟨-, hend⟩
  · rw [hend]
    exact quiet_ended s
  · have hclosed : Quiet s.ended { s.ended with closed := true } := Quiet.of_eq rfl rfl rfl
    rw [hend]
    exact ((quiet_ended s).trans hclosed).trans (quiet_finishClose _ false)

theorem quiet_initiateMedia (s : HazeMediaChannel) (psr context : Nat)
    (types : List PurpleMediaSessionType) : Quiet s (s.initiateMedia psr context types) := by
  cases types with
  | nil => exact Quiet.refl s
  | cons type rest =>
      have hlog : Quiet s (s.log [.initiateMedia type]) := quiet_log s (by simp [MediaCall.quiet])
      exact hlog.trans (Quiet.of_eq rfl rfl rfl)

theorem quiet_initiateMediaReturns {result : Bool}
    (h : s.initiateMediaReturns result = .ok s') : Quiet s s' := by
  rcases initiateMediaReturns_ok h with rfl | ⟨psr, context, rest, stack, -, rfl⟩
  · exact Quiet.refl s'
  · have hpop : Quiet s { s with stack := stack } := Quiet.of_eq rfl rfl rfl
    exact hpop.trans (quiet_initiateMedia _ psr context rest)

theorem quiet_hangupReturns (s : HazeMediaChannel) : Quiet s s.hangupReturns := by
  rcases hangupReturns_cases s with hsame | ⟨stack, -, hpop⟩ | ⟨disposing, stack, -, hfinish⟩
  · rw [hsame]
    exact Quiet.refl s
  · rw [hpop]
    exact Quiet.of_eq rfl rfl rfl
  · have hpop : Quiet s { s with stack := stack } := Quiet.of_eq rfl rfl rfl
    rw [hfinish]
    exact hpop.trans (quiet_finishClose _ disposing)

theorem quiet_initMediaCb (h : s.initMediaCb = .ok s') : Quiet s s' := by
  obtain ⟨-, rfl⟩ := initMediaCb_ok h
  exact Quiet.of_eq rfl rfl rfl

/-- `media_channel_request_streams` replies at once, or is quiet, or is quiet but for the request
that it puts on the list. -/
theorem requestStreams_cases {contactHandle : Nat} {types : List Nat} {caps : PurpleMediaCaps}
    {context : Nat} (h : s.mediaChannelRequestStreams contactHandle types caps context = .ok s') :
    (types = [] ∧ s' = (s.log [.requestStreams context]).log [.succeeded context []]) ∨
    types ≠ [] ∧ (Quiet s s' ∨ Quiet (s.pend types context) s') := by
  have hlog : Quiet s (s.log [.requestStreams context]) := quiet_log s (by simp [MediaCall.quiet])
  have hfail : ∀ (t : HazeMediaChannel) (e : GError), Quiet t (t.log [.failed context (some e)]) :=
    fun t e => quiet_log t (by simp [MediaCall.quiet])
  rcases mediaChannelRequestStreams_ok h with hnow | ⟨hne, ⟨-, error, rfl⟩ | ⟨error, rfl⟩ | hstarts⟩
  · exact Or.inl hnow
  · exact Or.inr ⟨hne, Or.inl (hlog.trans (hfail _ error))⟩
  · refine Or.inr ⟨hne, Or.inr (Quiet.trans ?_ (hfail _ error))⟩
    exact ⟨List.filter_sublist, ⟨_, rfl, quiet_pendingStreamRequestFree⟩, rfl⟩
  · obtain ⟨t, ht, rfl⟩ := hstarts
    have hinit : Quiet (s.pend types context) t := by
      rcases ht with rfl | rfl
      · exact Quiet.refl _
      · exact Quiet.of_eq rfl rfl rfl
    exact Or.inr ⟨hne, Or.inr (hinit.trans (quiet_initiateMedia _ _ _ _))⟩

end HazeMediaChannel

end Haze
