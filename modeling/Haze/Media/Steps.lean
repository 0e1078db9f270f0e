import Haze.Media.Model

set_option autoImplicit false

/-! # What the steps of a media channel come to

For every step that may fail or that has several ways to go: which way it went, and the state that
it leaves. The properties of a channel are proved from these lemmas, without the definitions of the
steps.
-/

namespace Haze

namespace HazeMediaChannel

variable {s s' : HazeMediaChannel} {context : Nat}

/-- A channel that is closed stays as it is, but for what disposal takes from it; another one hangs
up, or closes at once. -/
theorem hazeMediaChannelClose_cases (s : HazeMediaChannel) (disposing : Bool) :
    (s.closed = true ∧ ∃ media, s.hazeMediaChannelClose disposing = { s with media := media }) ∨
    (s.closed = false ∧ s.media = true ∧ s.mediaEnded = false ∧
      s.hazeMediaChannelClose disposing = { HazeMediaChannel.log s [MediaCall.hangup] with
        closed := true
        mediaEnded := true
        stack := .closing disposing :: s.stack }) ∨
    (s.closed = false ∧ ¬ (s.media = true ∧ s.mediaEnded = false) ∧
      s.hazeMediaChannelClose disposing =
        HazeMediaChannel.finishClose { s with closed := true } disposing) := by
  unfold hazeMediaChannelClose
  by_cases hclosed : s.closed = true
  · rw [if_pos hclosed]
    refine Or.inl ⟨hclosed, ?_⟩
    cases disposing with
    | false => exact ⟨s.media, rfl⟩
    | true => exact ⟨false, rfl⟩
  rw [if_neg hclosed]
  have hopen : s.closed = false := by simpa using hclosed
  by_cases hlive : s.media = true ∧ ¬ s.mediaEnded = true
  · rw [if_pos hlive]
    exact Or.inr (Or.inl ⟨hopen, hlive.1, by simpa using hlive.2, rfl⟩)
  · rw [if_neg hlive]
    exact Or.inr (Or.inr ⟨hopen, by simpa using hlive, rfl⟩)

/-- The session has ended, and no request waits any longer. -/
def ended (s : HazeMediaChannel) : HazeMediaChannel :=
  HazeMediaChannel.log { s with
    live := false
    mediaEnded := true
    pendingStreamRequests := [] } (s.pendingStreamRequests.flatMap pendingStreamRequestFree)

/-- What is freed is replied to with an error. -/
theorem failed_of_mem_free {p : PendingStreamRequest} {c : MediaCall}
    (h : c ∈ pendingStreamRequestFree p) : ∃ context error, c = .failed context (some error) := by
  unfold pendingStreamRequestFree at h
  split at h
  · cases h
  · exact ⟨_, _, List.mem_singleton.mp h⟩

theorem failed_of_mem_frees {ps : List PendingStreamRequest} {c : MediaCall}
    (h : c ∈ ps.flatMap pendingStreamRequestFree) :
    ∃ context error, c = .failed context (some error) := by
  obtain ⟨p, -, hmem⟩ := List.mem_flatMap.mp h
  exact failed_of_mem_free hmem

/-- When the session has ended there is nothing to hang up. -/
theorem sessionEnd_cases (s : HazeMediaChannel) :
    (s.closed = true ∧ s.sessionEnd = s.ended) ∨
    (s.closed = false ∧
      s.sessionEnd = HazeMediaChannel.finishClose { s.ended with closed := true } false) := by
  by_cases hclosed : s.closed = true
  · exact Or.inl ⟨hclosed, if_neg (not_not.mpr hclosed)⟩
  · have hend : s.sessionEnd = s.ended.hazeMediaChannelClose false := if_pos hclosed
    refine Or.inr ⟨by simpa using hclosed, ?_⟩
    rcases hazeMediaChannelClose_cases s.ended false with ⟨h, -⟩ | ⟨-, -, h, -⟩ | ⟨-, -, hclose⟩
    · exact absurd h hclosed
    · cases h
    · rw [hend, hclose]

/-- There is an error to report, and the request, if it is on the list, is freed before. -/
theorem requestStreamsError_ok {psr : Option Nat} {error : Option GError}
    (h : s.requestStreamsError psr context error = .ok s') :
    ∃ e, error = some e ∧
      ((psr = none ∧ s' = s.log [.failed context (some e)]) ∨
        ∃ ptr p, psr = some ptr ∧ s.pendingStreamRequests.find? (fun p => p.ptr = ptr) = some p ∧
          s' = ({ s with pendingStreamRequests :=
            s.pendingStreamRequests.filter (fun p => p.ptr ≠ ptr) }.log
              (pendingStreamRequestFree p)).log [.failed context (some e)]) := by
  unfold requestStreamsError at h
  cases psr with
  | none =>
      cases error with
      | none => cases h
      | some e =>
          cases h
          exact ⟨e, rfl, Or.inl ⟨rfl, rfl⟩⟩
  | some ptr =>
      cases hfind : s.pendingStreamRequests.find? (fun p => p.ptr = ptr) with
      | none =>
          simp only [hfind] at h
          cases h
      | some p =>
          simp only [hfind] at h
          cases error with
          | none => cases h
          | some e =>
              cases h
              exact ⟨e, rfl, Or.inr ⟨ptr, p, rfl, hfind, rfl⟩⟩

/-- Without an error to report the process goes down. -/
theorem requestStreamsError_none (psr : Option Nat) (context : Nat) :
    ¬ s.requestStreamsError psr context none = .ok s' := by
  intro h
  obtain ⟨e, he, -⟩ := requestStreamsError_ok h
  cases he

/-- A call of `purple_prpl_initiate_media` that fails leaves no error to report. -/
theorem initiateMediaReturns_ok {result : Bool} (h : s.initiateMediaReturns result = .ok s') :
    s' = s ∨ ∃ psr context rest stack, s.stack = .initiateMedia psr context rest :: stack ∧
      s' = { s with stack := stack }.initiateMedia psr context rest := by
  unfold initiateMediaReturns at h
  cases hstack : s.stack with
  | nil =>
      rw [hstack] at h
      cases h
      exact Or.inl rfl
  | cons frame stack =>
      rw [hstack] at h
      cases frame with
      | initiateMedia psr context rest =>
          cases result with
          | false =>
              have herror : { s with stack := stack }.requestStreamsError (some psr) context none =
                  .ok s' := h
              exact absurd herror (requestStreamsError_none _ _)
          | true =>
              cases h
              exact Or.inr ⟨psr, context, rest, stack, rfl, rfl⟩
      | closing disposing =>
          cases h
          exact Or.inl rfl
      | removing =>
          cases h
          exact Or.inl rfl

/-- A hangup that returns in `haze_media_channel_close` is followed by the rest of that function. -/
theorem hangupReturns_cases (s : HazeMediaChannel) :
    s.hangupReturns = s ∨
    (∃ stack, s.stack = .removing :: stack ∧ s.hangupReturns = { s with stack := stack }) ∨
    ∃ disposing stack, s.stack = .closing disposing :: stack ∧
      s.hangupReturns = HazeMediaChannel.finishClose { s with stack := stack } disposing := by
  unfold hangupReturns
  cases hstack : s.stack with
  | nil => exact Or.inl rfl
  | cons frame stack =>
      cases frame with
      | initiateMedia psr context rest => exact Or.inl rfl
      | removing => exact Or.inr (Or.inl ⟨stack, rfl, rfl⟩)
      | closing disposing => exact Or.inr (Or.inr ⟨disposing, stack, rfl, rfl⟩)

theorem initMediaCb_ok (h : s.initMediaCb = .ok s') :
    s.media = false ∧ s' = { s with media := true, live := true, initMedia := false } := by
  unfold initMediaCb at h
  split at h
  · cases h
  · rename_i hmedia
    cases h
    exact ⟨by simpa using hmedia, rfl⟩

/-- The loop over the requests comes to its end, and the stream is announced after the replies. -/
theorem streamNew_ok {mediaType : Nat} (h : s.streamNew mediaType = .ok s') :
    ∃ requests calls,
      satisfyRequests (s.streams ++ [⟨s.nextStreamId, mediaType⟩]) ⟨s.nextStreamId, mediaType⟩
        s.pendingStreamRequests = .ok (requests, calls) ∧
      s' = HazeMediaChannel.log { s with
        streams := s.streams ++ [⟨s.nextStreamId, mediaType⟩]
        nextStreamId := s.nextStreamId + 1
        pendingStreamRequests := requests }
          (calls ++ [MediaCall.streamAdded s.nextStreamId s.initialPeer mediaType]) := by
  unfold HazeMediaChannel.streamNew at h
  dsimp only at h
  split at h
  · cases h
  · rename_i requests calls hloop
    cases h
    exact ⟨requests, calls, hloop, rfl⟩

/-- A request is put on the list. -/
def pend (s : HazeMediaChannel) (types : List Nat) (context : Nat) : HazeMediaChannel :=
  { s.log [.requestStreams context] with
    pendingStreamRequests :=
      pendingStreamRequestNew s.nextRequest types context :: s.pendingStreamRequests
    nextRequest := s.nextRequest + 1 }

/-- A request that is not refused asks for its streams. -/
theorem mediaChannelRequestStreams_of_accepted {contactHandle : Nat} {types : List Nat}
    {caps : PurpleMediaCaps} (context : Nat) (htypes : types ≠ [])
    (hpeer : ¬ (s.media = true ∧ s.initialPeer ≠ contactHandle))
    (haccepted : s.refusal types caps = none) :
    ∃ t, (t = s.pend types context ∨ t = { s.pend types context with initMedia := true }) ∧
      s.mediaChannelRequestStreams contactHandle types caps context =
        .ok (t.initiateMedia s.nextRequest context (sessionTypes
          (types.count tpMediaStreamTypeAudio) (types.count tpMediaStreamTypeVideo))) := by
  have hrefusal : (s.pend types context).refusal types caps = none := haccepted
  refine ⟨if (s.pend types context).media then s.pend types context
    else { s.pend types context with initMedia := true }, ?_, ?_⟩
  · split
    · exact Or.inl rfl
    · exact Or.inr rfl
  · unfold mediaChannelRequestStreams
    dsimp only
    rw [if_neg htypes]
    refine (if_neg hpeer).trans ?_
    split
    · rename_i error herror
      exact absurd (hrefusal.symm.trans herror) (by simp)
    · rfl

/-- A request is replied to at once, or put on the list. From there it is freed when it is
refused. -/
theorem mediaChannelRequestStreams_ok {contactHandle : Nat} {types : List Nat}
    {caps : PurpleMediaCaps}
    (h : s.mediaChannelRequestStreams contactHandle types caps context = .ok s') :
    (types = [] ∧ s' = (s.log [.requestStreams context]).log [.succeeded context []]) ∨
    types ≠ [] ∧ ((s.media = true ∧ ∃ error,
        s' = (s.log [.requestStreams context]).log [.failed context (some error)]) ∨
      (∃ error, s' = ({ s.pend types context with pendingStreamRequests :=
          (s.pend types context).pendingStreamRequests.filter (fun p => p.ptr ≠ s.nextRequest) }.log
            (pendingStreamRequestFree (pendingStreamRequestNew s.nextRequest types context))).log
          [.failed context (some error)]) ∨
      ∃ t, (t = s.pend types context ∨ t = { s.pend types context with initMedia := true }) ∧
        s' = t.initiateMedia s.nextRequest context (sessionTypes
          (types.count tpMediaStreamTypeAudio) (types.count tpMediaStreamTypeVideo))) := by
  unfold mediaChannelRequestStreams at h
  dsimp only at h
  split at h
  · rename_i hempty
    cases h
    exact Or.inl ⟨hempty, rfl⟩
  rename_i hne
  refine Or.inr ⟨hne, ?_⟩
  split at h
  · rename_i hpeer
    cases h
    exact Or.inl ⟨hpeer.1, _, rfl⟩
  split at h
  · rename_i error _
    have herror : (s.pend types context).requestStreamsError (some s.nextRequest) context
        (some error) = .ok s' := h
    have hfirst : (s.pend types context).pendingStreamRequests.find?
        (fun p => p.ptr = s.nextRequest) =
          some (pendingStreamRequestNew s.nextRequest types context) :=
      List.find?_cons_of_pos (by simp [pendingStreamRequestNew])
    obtain ⟨e, -, ⟨hnone, -⟩ | ⟨ptr, p, hptr, hfind, hs'⟩⟩ := requestStreamsError_ok herror
    · cases hnone
    · cases hptr
      rw [hfirst] at hfind
      cases hfind
      exact Or.inr (Or.inl ⟨e, hs'⟩)
  · cases h
    refine Or.inr (Or.inr ⟨_, ?_, rfl⟩)
    split
    · exact Or.inl rfl
    · exact Or.inr rfl

end HazeMediaChannel

end Haze
