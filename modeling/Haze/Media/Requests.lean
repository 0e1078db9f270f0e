import Haze.Basic.Ledger
import Haze.Basic.Log
import Haze.Media.Slots
import Haze.Media.Steps

set_option autoImplicit false

/-! # One reply to each stream request

A request is on the list of pending requests from `media_channel_request_streams` on, until a
stream completes it or the session ends, and has its reply when it leaves the list. Where it
leaves the list in another way, or does not leave it although the channel closes, the number of
replies is wrong: when the request is refused or `purple_prpl_initiate_media` fails, when a
stream appears whose type has a slot that is filled already, and when the channel closes
without a session that could end. `HazeMediaChannel.RequestsSafe` excludes just these, and
`MediaObject.RequestsSafe` what is wrong with the memory besides.
-/

namespace Haze

namespace MediaCall

/-- The context of a request. -/
def requests : MediaCall → Option Nat
  | .requestStreams context => some context
  | _ => none

/-- The calls that have nothing to do with requests, nor with the end of the channel. -/
def plain : MediaCall → Bool
  | .initiateMedia _ => true
  | .hangup => true
  | .streamAdded _ _ _ => true
  | .streamStateChanged _ _ => true
  | .streamRemoved _ => true
  | _ => false

end MediaCall

/-- The call of `purple_prpl_initiate_media`; the others are hangups. -/
def MediaFrame.initiates : MediaFrame → Bool
  | .initiateMedia _ _ _ => true
  | _ => false

namespace HazeMediaChannel

variable {s s' : HazeMediaChannel}

/-- The contexts that were passed to `media_channel_request_streams`. -/
def requested (s : HazeMediaChannel) : List Nat := s.calls.filterMap MediaCall.requests

/-- The contexts that a reply was sent to. -/
def replied (s : HazeMediaChannel) : List Nat := s.calls.filterMap MediaCall.replies

/-- The contexts of the pending requests. -/
def outstanding (s : HazeMediaChannel) : List Nat :=
  s.pendingStreamRequests.filterMap PendingStreamRequest.context

/-- Every request gets one reply, before the channel is closed, and a failure has an error. -/
structure OneReply (s : HazeMediaChannel) : Prop where
  balanced : Ledger.Balanced s.requested s.outstanding s.replied
  closed : .closed ∈ s.calls → s.outstanding = []
  errors : ∀ context error, .failed context error ∈ s.calls → error.isSome

/-! ## Waiting for streams -/

/-- A pending request: its counter is right, and the streams it has are there. -/
structure Waiting (live : List HazeMediaStream) (p : PendingStreamRequest) : Prop where
  length : p.streams.length = p.types.length
  satisfied : p.satisfied = p.streams.countP Option.isSome
  live : ∀ slot ∈ p.streams, ∀ stream ∈ slot, stream ∈ live
  context : p.context.isSome

theorem Waiting.counted {live : List HazeMediaStream} {p : PendingStreamRequest}
    (hp : Waiting live p) : Counted p := ⟨hp.length, hp.satisfied, hp.context⟩

theorem FilledFrom.waiting {live : List HazeMediaStream} {stream : HazeMediaStream}
    {p p' : PendingStreamRequest} (h : FilledFrom stream 0 p p') (hstream : stream ∈ live)
    (hp : Waiting live p) : Waiting live p' := by
  have hp' : Counted p' := h.counted hp.counted
  refine ⟨hp'.length, hp'.satisfied, fun slot hslot held hheld => ?_, hp'.context⟩
  rw [Option.mem_def.mp hheld] at hslot
  rcases h.mem_streams hslot with rfl | hold
  · exact hstream
  · exact hp.live _ hold held rfl

/-- While the streams in the slots are there, the loop over the requests goes through. -/
theorem satisfyRequests_waiting {live : List HazeMediaStream} {stream : HazeMediaStream}
    (hstream : stream ∈ live) {ps : List PendingStreamRequest}
    (hps : ∀ p ∈ ps, Waiting live p) (hfree : ∀ p ∈ ps, TypeFree stream.mediaType p) :
    ∃ ps' calls, satisfyRequests live stream ps = .ok (ps', calls) ∧
      SatisfiesAll stream ps ps' calls := by
  rcases satisfyRequests_spec live stream (fun p hp => (hps p hp).counted) hfree with
    hok | ⟨-, p, hp, p', held, hfilled, hheld, hgone⟩
  · exact hok
  · exact absurd ((hfilled.waiting hstream (hps p hp)).live _ hheld held rfl) hgone

/-! ## The invariant -/

/-- The channel is going to be closed: `Closed` follows when the hangup returns. -/
def Closing (s : HazeMediaChannel) : Prop := ∃ disposing, .closing disposing ∈ s.stack

/-- Each request is pending or has its reply; and none is pending once the channel is closed,
unless a hangup is under way. -/
structure Prompt (s : HazeMediaChannel) : Prop where
  balanced : Ledger.Balanced s.requested s.outstanding s.replied
  errors : ∀ context error, .failed context error ∈ s.calls → error.isSome
  waiting : ∀ p ∈ s.pendingStreamRequests, Waiting s.streams p
  closing : s.closed = true → s.pendingStreamRequests = [] ∨ s.Closing
  closed : s.Closing → s.closed = true
  signalled : .closed ∈ s.calls → s.closed = true ∧ s.pendingStreamRequests = []

theorem prompt_init (protocol : String) (initialPeer : Nat) (media : Bool) :
    Prompt (init protocol initialPeer media) where
  balanced := Ledger.Balanced.nil
  errors := by simp [init]
  waiting := by simp [init]
  closing := by simp [init]
  closed := by simp [Closing, init]
  signalled := by simp [init]

theorem Prompt.oneReply (hs : Prompt s) : OneReply s where
  balanced := hs.balanced
  closed := by
    intro hclosed
    rw [outstanding, (hs.signalled hclosed).2, List.filterMap_nil]
  errors := hs.errors

/-- Calls are logged: the requests among them are new, the replies settle what they settle. -/
theorem Prompt.log (hs : Prompt s) {calls : List MediaCall}
    (hbalanced : Ledger.Balanced (s.log calls).requested s.outstanding (s.log calls).replied)
    (herrors : ∀ context error, .failed context error ∈ calls → error.isSome)
    (hclosed : .closed ∉ calls) : Prompt (s.log calls) := by
  refine ⟨hbalanced, fun context error hmem => ?_, hs.waiting, hs.closing, hs.closed,
    fun hmem => ?_⟩
  · exact (List.mem_append.mp hmem).elim (hs.errors context error) (herrors context error)
  · exact hs.signalled ((List.mem_append.mp hmem).resolve_right hclosed)

theorem requested_log (s : HazeMediaChannel) (calls : List MediaCall) :
    (s.log calls).requested = s.requested ++ calls.filterMap MediaCall.requests :=
  List.filterMap_append

theorem replied_log (s : HazeMediaChannel) (calls : List MediaCall) :
    (s.log calls).replied = s.replied ++ calls.filterMap MediaCall.replies :=
  List.filterMap_append

theorem Prompt.plain (hs : Prompt s) {c : MediaCall} (hc : c.plain = true) :
    Prompt (s.log [c]) := by
  have hrequested : (s.log [c]).requested = s.requested :=
    Log.filterMap_concat_none (by cases c <;> first | rfl | cases hc)
  have hreplied : (s.log [c]).replied = s.replied :=
    Log.filterMap_concat_none (by cases c <;> first | rfl | cases hc)
  refine hs.log ?_ (fun context error hmem => ?_) (fun hmem => ?_)
  · rw [hrequested, hreplied]
    exact hs.balanced
  · rw [← List.mem_singleton.mp hmem] at hc
    cases hc
  · rw [← List.mem_singleton.mp hmem] at hc
    cases hc

/-- A frame that is not a hangup of `Close` comes or goes. -/
theorem closing_cons {frame : MediaFrame} (hstack : s'.stack = frame :: s.stack)
    (hframe : ∀ disposing, frame ≠ .closing disposing) : s'.Closing ↔ s.Closing := by
  constructor
  · rintro ⟨disposing, hmem⟩
    rw [hstack] at hmem
    rcases List.mem_cons.mp hmem with heq | hmem
    · exact absurd heq.symm (hframe disposing)
    · exact ⟨disposing, hmem⟩
  · rintro ⟨disposing, hmem⟩
    exact ⟨disposing, by rw [hstack]; exact List.mem_cons_of_mem _ hmem⟩

/-- What is neither a request nor a call, and not the channel's end, may change. -/
theorem Prompt.of_eq (hs : Prompt s) (hcalls : s'.calls = s.calls)
    (hrequests : s'.pendingStreamRequests = s.pendingStreamRequests)
    (hstreams : ∀ stream ∈ s.streams, stream ∈ s'.streams) (hclosed : s'.closed = s.closed)
    (hclosing : s'.Closing ↔ s.Closing) : Prompt s' := by
  refine ⟨?_, fun context error hmem => ?_, fun p hp => ?_, fun hc => ?_, fun hc => ?_,
    fun hmem => ?_⟩
  · rw [requested, replied, outstanding, hcalls, hrequests]
    exact hs.balanced
  · rw [hcalls] at hmem
    exact hs.errors context error hmem
  · rw [hrequests] at hp
    have hwaiting := hs.waiting p hp
    exact ⟨hwaiting.length, hwaiting.satisfied,
      fun slot hslot stream hmem => hstreams stream (hwaiting.live slot hslot stream hmem),
      hwaiting.context⟩
  · rw [hrequests]
    exact (hs.closing (hclosed ▸ hc)).imp_right hclosing.mpr
  · rw [hclosed]
    exact hs.closed (hclosing.mp hc)
  · rw [hcalls] at hmem
    rw [hclosed, hrequests]
    exact hs.signalled hmem

/-! ## Closing -/

/-- The channel is closed while no request is pending. -/
theorem Prompt.finishClose (hs : Prompt s) (hclosed : s.closed = true)
    (hnone : s.pendingStreamRequests = []) (disposing : Bool) :
    Prompt (s.finishClose disposing) := by
  have hlog : Prompt (s.log [.closed]) := by
    refine ⟨?_, fun context error hmem => ?_, hs.waiting, hs.closing, hs.closed,
      fun _ => ⟨hclosed, hnone⟩⟩
    · have hrequested : (s.log [.closed]).requested = s.requested := Log.filterMap_concat_none rfl
      have hreplied : (s.log [.closed]).replied = s.replied := Log.filterMap_concat_none rfl
      rw [hrequested, hreplied]
      exact hs.balanced
    · exact hs.errors context error (by simpa [HazeMediaChannel.log] using hmem)
  cases disposing with
  | false => exact hlog
  | true => exact hlog.of_eq rfl rfl (fun _ h => h) rfl Iff.rfl

/-- `Close` while no request is pending, or with a session that is to end. -/
theorem Prompt.close (hs : Prompt s) (disposing : Bool)
    (hsafe : s.closed = true ∨ s.pendingStreamRequests = [] ∨
      s.media = true ∧ s.mediaEnded = false) :
    Prompt (s.hazeMediaChannelClose disposing) := by
  rcases hazeMediaChannelClose_cases s disposing with
    ⟨-, media, hclose⟩ | ⟨hopen, -, -, hclose⟩ | ⟨hopen, hdead, hclose⟩
  · rw [hclose]
    exact hs.of_eq rfl rfl (fun _ h => h) rfl Iff.rfl
  · -- the hangup is under way
    have hlog : Prompt (s.log [.hangup]) := hs.plain rfl
    rw [hclose]
    refine ⟨hlog.balanced, hlog.errors, hlog.waiting,
      fun _ => Or.inr ⟨disposing, List.mem_cons_self⟩, fun _ => rfl, fun hmem => ?_⟩
    have hmem' : .closed ∈ s.calls := by simpa [HazeMediaChannel.log] using hmem
    exact absurd (hopen.symm.trans (hs.signalled hmem').1) Bool.false_ne_true
  · -- there is no session to end, so nothing may be pending
    have hnone : s.pendingStreamRequests = [] := by
      rcases hsafe with h | h | h
      · exact absurd (hopen.symm.trans h) Bool.false_ne_true
      · exact h
      · exact absurd h hdead
    have hs₁ : Prompt { s with closed := true } :=
      ⟨hs.balanced, hs.errors, hs.waiting, fun _ => Or.inl hnone, fun _ => rfl,
        fun hmem => absurd (hopen.symm.trans (hs.signalled hmem).1) Bool.false_ne_true⟩
    rw [hclose]
    exact hs₁.finishClose rfl hnone disposing

theorem filterMap_replies_free (ps : List PendingStreamRequest) :
    (ps.flatMap pendingStreamRequestFree).filterMap MediaCall.replies =
      ps.filterMap PendingStreamRequest.context := by
  induction ps with
  | nil => rfl
  | cons p ps ih =>
      rw [List.flatMap_cons, List.filterMap_append, ih]
      cases h : p.context with
      | none => simp [pendingStreamRequestFree, h]
      | some context => simp [pendingStreamRequestFree, h, MediaCall.replies]

theorem filterMap_requests_free (ps : List PendingStreamRequest) :
    (ps.flatMap pendingStreamRequestFree).filterMap MediaCall.requests = [] := by
  induction ps with
  | nil => rfl
  | cons p ps ih =>
      rw [List.flatMap_cons, List.filterMap_append, ih, List.append_nil]
      cases h : p.context with
      | none => simp [pendingStreamRequestFree, h]
      | some context => simp [pendingStreamRequestFree, h, MediaCall.requests]

theorem Prompt.ended (hs : Prompt s) : Prompt s.ended := by
  refine ⟨?_, fun context error hmem => ?_, by simp [HazeMediaChannel.ended, HazeMediaChannel.log],
    fun _ => Or.inl rfl, hs.closed, fun hmem => ⟨?_, rfl⟩⟩
  · have hrequested : s.ended.requested = s.requested := by
      show (s.log (s.pendingStreamRequests.flatMap pendingStreamRequestFree)).requested = _
      rw [requested_log, filterMap_requests_free, List.append_nil]
    have hreplied : s.ended.replied = s.replied ++ s.outstanding := by
      show (s.log (s.pendingStreamRequests.flatMap pendingStreamRequestFree)).replied = _
      rw [replied_log, filterMap_replies_free]
      rfl
    rw [hrequested, hreplied]
    exact hs.balanced.settle_all
  · rcases List.mem_append.mp hmem with hmem | hmem
    · exact hs.errors context error hmem
    · obtain ⟨context', error', heq⟩ := failed_of_mem_frees hmem
      rw [MediaCall.failed.injEq] at heq
      rw [heq.2]
      rfl
  · rcases List.mem_append.mp hmem with hmem | hmem
    · exact (hs.signalled hmem).1
    · obtain ⟨context', error', heq⟩ := failed_of_mem_frees hmem
      cases heq

/-- The session ends, and all requests fail that are pending. -/
theorem Prompt.sessionEnd (hs : Prompt s) : Prompt s.sessionEnd := by
  rcases sessionEnd_cases s with ⟨-, hend⟩ | ⟨hopen, hend⟩
  · rw [hend]
    exact hs.ended
  · have hs₁ : Prompt { s.ended with closed := true } :=
      ⟨hs.ended.balanced, hs.ended.errors, hs.ended.waiting, fun _ => Or.inl rfl, fun _ => rfl,
        fun hmem => absurd (hopen.symm.trans (hs.ended.signalled hmem).1) Bool.false_ne_true⟩
    rw [hend]
    exact hs₁.finishClose rfl rfl false

/-! ## Requests -/

/-- The call of `purple_prpl_initiate_media` that comes next is made. -/
theorem Prompt.initiateMedia (hs : Prompt s) (psr context : Nat)
    (types : List PurpleMediaSessionType) : Prompt (s.initiateMedia psr context types) := by
  cases types with
  | nil => exact hs
  | cons type rest =>
      have hlog : Prompt (s.log [.initiateMedia type]) := hs.plain rfl
      exact hlog.of_eq rfl rfl (fun _ h => h) rfl (closing_cons rfl (by simp))

/-- A request is replied to at once. -/
theorem Prompt.replyNow (hs : Prompt s) {context : Nat} {reply : MediaCall}
    (hreply : (∃ streams, reply = .succeeded context streams) ∨
      ∃ error, reply = .failed context (some error)) :
    Prompt ((s.log [.requestStreams context]).log [reply]) := by
  have hlog : (s.log [.requestStreams context]).log [reply] =
      s.log [.requestStreams context, reply] := by
    simp [HazeMediaChannel.log]
  rw [hlog]
  refine hs.log ?_ (fun context' error hmem => ?_) (fun hmem => ?_)
  · rw [requested_log, replied_log]
    rcases hreply with ⟨streams, rfl⟩ | ⟨error, rfl⟩
    · exact hs.balanced.push_settled context
    · exact hs.balanced.push_settled context
  · rcases hreply with ⟨streams, rfl⟩ | ⟨error', rfl⟩
    · simp at hmem
    · simp only [List.mem_cons, reduceCtorEq, MediaCall.failed.injEq, List.not_mem_nil, or_false,
        false_or] at hmem
      rw [hmem.2]
      rfl
  · rcases hreply with ⟨streams, rfl⟩ | ⟨error, rfl⟩
    · simp at hmem
    · simp at hmem

theorem waiting_new (live : List HazeMediaStream) (ptr : Nat) (types : List Nat) (context : Nat) :
    Waiting live (pendingStreamRequestNew ptr types context) where
  length := List.length_replicate
  satisfied := by simp [pendingStreamRequestNew, List.countP_replicate]
  live := by
    intro slot hslot stream hstream
    rw [List.eq_of_mem_replicate hslot] at hstream
    cases hstream
  context := rfl

/-- A request that is not refused is pending. -/
theorem Prompt.pend (hs : Prompt s) (hopen : s.closed = false) (types : List Nat) (context : Nat) :
    Prompt { s.log [.requestStreams context] with
      pendingStreamRequests :=
        pendingStreamRequestNew s.nextRequest types context :: s.pendingStreamRequests
      nextRequest := s.nextRequest + 1 } := by
  refine ⟨?_, fun context' error hmem => ?_, fun p hp => ?_, fun hclosed => ?_, hs.closed,
    fun hmem => ?_⟩
  · have hrequested : (s.log [.requestStreams context]).requested = s.requested ++ [context] :=
      Log.filterMap_concat_some rfl
    have hreplied : (s.log [.requestStreams context]).replied = s.replied :=
      Log.filterMap_concat_none rfl
    show Ledger.Balanced (s.log [.requestStreams context]).requested (context :: s.outstanding)
      (s.log [.requestStreams context]).replied
    rw [hrequested, hreplied]
    exact (hs.balanced.push context).trans
      (List.Perm.append_right _ (List.perm_append_singleton context _))
  · exact hs.errors context' error (by simpa [HazeMediaChannel.log] using hmem)
  · rcases List.mem_cons.mp hp with rfl | hp
    · exact waiting_new s.streams s.nextRequest types context
    · exact hs.waiting p hp
  · exact absurd (hopen.symm.trans hclosed) Bool.false_ne_true
  · have hclosed := (hs.signalled (by simpa [HazeMediaChannel.log] using hmem)).1
    exact absurd (hopen.symm.trans hclosed) Bool.false_ne_true

/-- `media_channel_request_streams`, when the request is not refused. -/
theorem Prompt.requestStreams (hs : Prompt s) (hopen : s.closed = false) {contactHandle : Nat}
    {types : List Nat} {caps : PurpleMediaCaps} (context : Nat)
    (hsafe : types = [] ∨ (s.media = true ∧ s.initialPeer ≠ contactHandle) ∨
      s.refusal types caps = none) :
    ∃ s', s.mediaChannelRequestStreams contactHandle types caps context = .ok s' ∧ Prompt s' := by
  by_cases hempty : types = []
  · exact ⟨_, if_pos hempty, hs.replyNow (Or.inl ⟨[], rfl⟩)⟩
  by_cases hpeer : s.media = true ∧ s.initialPeer ≠ contactHandle
  · exact ⟨_, (if_neg hempty).trans (if_pos hpeer), hs.replyNow (Or.inr ⟨_, rfl⟩)⟩
  obtain ⟨t, ht, hstarts⟩ := mediaChannelRequestStreams_of_accepted context hempty hpeer
    ((hsafe.resolve_left hempty).resolve_left hpeer)
  have hpend : Prompt (s.pend types context) := hs.pend hopen types context
  have ht : Prompt t := by
    rcases ht with rfl | rfl
    · exact hpend
    · exact hpend.of_eq rfl rfl (fun _ h => h) rfl Iff.rfl
  exact ⟨_, hstarts, ht.initiateMedia s.nextRequest context _⟩

/-- A stream appears whose type no pending request has yet. -/
theorem Prompt.streamNew (hs : Prompt s) {mediaType : Nat}
    (hfree : ∀ p ∈ s.pendingStreamRequests, TypeFree mediaType p) :
    ∃ s', s.streamNew mediaType = .ok s' ∧ Prompt s' := by
  let stream : HazeMediaStream := ⟨s.nextStreamId, mediaType⟩
  let s₁ : HazeMediaChannel := { s with
    streams := s.streams ++ [stream]
    nextStreamId := s.nextStreamId + 1 }
  have hs₁ : Prompt s₁ := hs.of_eq rfl rfl (fun _ h => List.mem_append_left _ h) rfl Iff.rfl
  have hlive : stream ∈ s₁.streams := List.mem_concat_self
  obtain ⟨ps, calls, hsatisfy, hall⟩ := satisfyRequests_waiting hlive hs₁.waiting hfree
  have hwaiting : ∀ p ∈ ps, Waiting s₁.streams p := by
    intro p' hp'
    obtain ⟨p, hp, hfilled, -⟩ := hall.waits_of_mem hp'
    exact hfilled.waiting hlive (hs₁.waiting p hp)
  have hsucceeded := satisfyRequests_succeeded hsatisfy
  have hperm := (satisfyRequests_contexts hsatisfy (fun p hp => (hs₁.waiting p hp).context)).1
  refine ⟨_, streamNew_eq hsatisfy, ?_⟩
  have hnone : s₁.pendingStreamRequests = [] → ps = [] := by
    intro hnil
    rw [hnil] at hsatisfy
    cases hsatisfy
    rfl
  have hs₂ : Prompt ({ s₁ with pendingStreamRequests := ps }.log calls) := by
    refine ⟨?_, fun context error hmem => ?_, hwaiting, fun hclosed => ?_, hs₁.closed,
      fun hmem => ?_⟩
    · have hrequests : calls.filterMap MediaCall.requests = [] := by
        apply List.filterMap_eq_nil_iff.mpr
        intro c hc
        obtain ⟨context, streams, rfl⟩ := hsucceeded c hc
        rfl
      rw [requested_log, replied_log, hrequests, List.append_nil]
      exact hs₁.balanced.settle_some hperm
    · rcases List.mem_append.mp hmem with hmem | hmem
      · exact hs₁.errors context error hmem
      · obtain ⟨context', streams, heq⟩ := hsucceeded _ hmem
        cases heq
    · exact (hs₁.closing hclosed).imp_left hnone
    · rcases List.mem_append.mp hmem with hmem | hmem
      · exact ⟨(hs₁.signalled hmem).1, hnone (hs₁.signalled hmem).2⟩
      · obtain ⟨context', streams, heq⟩ := hsucceeded _ hmem
        cases heq
  have hadded : Prompt (({ s₁ with pendingStreamRequests := ps }.log calls).log
      [.streamAdded stream.id s₁.initialPeer mediaType]) := hs₂.plain rfl
  simpa [HazeMediaChannel.log] using hadded

/-- A stream ends that no pending request has. -/
theorem Prompt.streamEnd (hs : Prompt s) {id : Nat}
    (hunused : ∀ p ∈ s.pendingStreamRequests, ∀ slot ∈ p.streams, ∀ stream ∈ slot,
      stream.id ≠ id) : Prompt (s.streamEnd id) := by
  refine ⟨hs.balanced, hs.errors, fun p hp => ?_, hs.closing, hs.closed, hs.signalled⟩
  have hwaiting := hs.waiting p hp
  refine ⟨hwaiting.length, hwaiting.satisfied, fun slot hslot stream hstream => ?_,
    hwaiting.context⟩
  exact List.mem_filter.mpr ⟨hwaiting.live slot hslot stream hstream,
    decide_eq_true (hunused p hp slot hslot stream hstream)⟩

/-! ## Every run -/

/-- What telepathy-glib and libpurple promise. Requests come from the bus, while the channel is
open, and not from inside a call into libpurple; `init_media_cb` runs while it is connected and
there is no session; a session that has begun ends once, and its streams appear and end while
it lasts. -/
def Legal (s : HazeMediaChannel) : MediaEvent → Prop
  | .requestStreams _ _ _ _ => s.stack = [] ∧ s.closed = false
  | .initiateMediaReturns _ => ∃ frame ∈ s.stack.head?, frame.initiates = true
  | .hangupReturns => ∃ frame ∈ s.stack.head?, frame.initiates = false
  | .initMedia => s.initMedia = true ∧ s.media = false
  | .streamNew _ => s.live = true
  | .streamEnd _ => s.live = true
  | .sessionEnd => s.live = true
  | .close => True
  | .removeMember => s.stack = [] ∧ s.closed = false
  | .dispose => s.stack = []

/-- What goes well for the requests. A request is not refused, and no call of
`purple_prpl_initiate_media` fails. A stream appears while no pending request has one of its
type, and one that a pending request has does not end. The channel is closed while no request
is pending, or with a session, which ends before the hangup returns. -/
def RequestsSafe (s : HazeMediaChannel) : MediaEvent → Prop
  | .requestStreams contactHandle types caps _ =>
      types = [] ∨ (s.media = true ∧ s.initialPeer ≠ contactHandle) ∨
        s.refusal types caps = none
  | .initiateMediaReturns result => result = true
  | .hangupReturns =>
      ∀ frame ∈ s.stack.head?, frame ≠ .removing → s.pendingStreamRequests = []
  | .streamNew mediaType => ∀ p ∈ s.pendingStreamRequests, TypeFree mediaType p
  | .streamEnd id =>
      ∀ p ∈ s.pendingStreamRequests, ∀ slot ∈ p.streams, ∀ stream ∈ slot, stream.id ≠ id
  | .close =>
      s.closed = true ∨ s.pendingStreamRequests = [] ∨ s.media = true ∧ s.mediaEnded = false
  | .removeMember => s.media = true ∨ s.pendingStreamRequests = []
  | .dispose =>
      s.closed = true ∨ s.pendingStreamRequests = [] ∨ s.media = true ∧ s.mediaEnded = false
  | _ => True

instance (s : HazeMediaChannel) : DecidablePred (Legal s)
  | .requestStreams _ _ _ _ => inferInstanceAs (Decidable (s.stack = [] ∧ s.closed = false))
  | .initiateMediaReturns _ =>
      inferInstanceAs (Decidable (∃ frame ∈ s.stack.head?, frame.initiates = true))
  | .hangupReturns =>
      inferInstanceAs (Decidable (∃ frame ∈ s.stack.head?, frame.initiates = false))
  | .initMedia => inferInstanceAs (Decidable (s.initMedia = true ∧ s.media = false))
  | .streamNew _ => inferInstanceAs (Decidable (s.live = true))
  | .streamEnd _ => inferInstanceAs (Decidable (s.live = true))
  | .sessionEnd => inferInstanceAs (Decidable (s.live = true))
  | .close => isTrue trivial
  | .removeMember => inferInstanceAs (Decidable (s.stack = [] ∧ s.closed = false))
  | .dispose => inferInstanceAs (Decidable (s.stack = []))

instance (s : HazeMediaChannel) : DecidablePred (RequestsSafe s)
  | .requestStreams contactHandle types caps _ => inferInstanceAs (Decidable
      (types = [] ∨ (s.media = true ∧ s.initialPeer ≠ contactHandle) ∨
        s.refusal types caps = none))
  | .initiateMediaReturns result => inferInstanceAs (Decidable (result = true))
  | .hangupReturns => inferInstanceAs (Decidable
      (∀ frame ∈ s.stack.head?, frame ≠ .removing → s.pendingStreamRequests = []))
  | .streamNew mediaType =>
      inferInstanceAs (Decidable (∀ p ∈ s.pendingStreamRequests, TypeFree mediaType p))
  | .streamEnd id => inferInstanceAs (Decidable (∀ p ∈ s.pendingStreamRequests,
      ∀ slot ∈ p.streams, ∀ stream ∈ slot, stream.id ≠ id))
  | .close => inferInstanceAs (Decidable (s.closed = true ∨ s.pendingStreamRequests = [] ∨
      s.media = true ∧ s.mediaEnded = false))
  | .removeMember => inferInstanceAs (Decidable (s.media = true ∨ s.pendingStreamRequests = []))
  | .dispose => inferInstanceAs (Decidable (s.closed = true ∨ s.pendingStreamRequests = [] ∨
      s.media = true ∧ s.mediaEnded = false))
  | .initMedia => isTrue trivial
  | .sessionEnd => isTrue trivial

/-- A call of `purple_prpl_initiate_media` succeeds, and the next one is made. -/
theorem Prompt.initiateMediaReturns (hs : Prompt s)
    (hlegal : ∃ frame ∈ s.stack.head?, frame.initiates = true) :
    ∃ s', s.initiateMediaReturns true = .ok s' ∧ Prompt s' := by
  obtain ⟨frame, hhead, hinitiates⟩ := hlegal
  cases frame with
  | initiateMedia psr context rest =>
      obtain ⟨stack, hstack⟩ := List.head?_eq_some_iff.mp hhead
      have hpop : Prompt { s with stack := stack } :=
        hs.of_eq rfl rfl (fun _ h => h) rfl
          (closing_cons (s := { s with stack := stack }) hstack (by simp)).symm
      refine ⟨_, ?_, hpop.initiateMedia psr context rest⟩
      simp only [HazeMediaChannel.initiateMediaReturns, hstack]
      exact if_neg (by simp)
  | closing disposing => cases hinitiates
  | removing => cases hinitiates

/-- A hangup returns; if it was that of `Close`, nothing is pending. -/
theorem Prompt.hangupReturns (hs : Prompt s)
    (hlegal : ∃ frame ∈ s.stack.head?, frame.initiates = false)
    (hsafe : ∀ frame ∈ s.stack.head?, frame ≠ .removing → s.pendingStreamRequests = []) :
    Prompt s.hangupReturns := by
  obtain ⟨frame, hhead, hinitiates⟩ := hlegal
  obtain ⟨stack, hstack⟩ := List.head?_eq_some_iff.mp hhead
  cases frame with
  | initiateMedia psr context rest => cases hinitiates
  | closing disposing =>
      have hnone := hsafe _ hhead (by simp)
      have hclosed : s.closed = true :=
        hs.closed ⟨disposing, by rw [hstack]; exact List.mem_cons_self⟩
      have hpop : Prompt { s with stack := stack } :=
        ⟨hs.balanced, hs.errors, hs.waiting, fun _ => Or.inl hnone, fun _ => hclosed,
          hs.signalled⟩
      simp only [HazeMediaChannel.hangupReturns, hstack]
      exact hpop.finishClose hclosed hnone disposing
  | removing =>
      simp only [HazeMediaChannel.hangupReturns, hstack]
      exact hs.of_eq rfl rfl (fun _ h => h) rfl
        (closing_cons (s := { s with stack := stack }) hstack (by simp)).symm

/-- The user leaves the call. -/
theorem Prompt.removeMember (hs : Prompt s)
    (hsafe : s.media = true ∨ s.pendingStreamRequests = []) :
    Prompt s.hazeMediaChannelRemoveMember := by
  unfold hazeMediaChannelRemoveMember
  by_cases hmedia : s.media = true
  · rw [if_neg (not_not.mpr hmedia)]
    have hlog : Prompt (s.log [.hangup]) := hs.plain rfl
    exact hlog.of_eq rfl rfl (fun _ h => h) rfl (closing_cons rfl (by simp))
  · rw [if_pos hmedia]
    exact hs.close false (Or.inr (Or.inl (hsafe.resolve_left hmedia)))

theorem Prompt.step (hs : Prompt s) {e : MediaEvent} (hlegal : Legal s e)
    (hsafe : RequestsSafe s e) : ∃ s', mediaChannels.step s e = .ok s' ∧ Prompt s' := by
  cases e with
  | requestStreams contactHandle types caps context =>
      exact hs.requestStreams hlegal.2 context hsafe
  | initiateMediaReturns result =>
      have hresult : result = true := hsafe
      subst hresult
      exact hs.initiateMediaReturns hlegal
  | hangupReturns => exact ⟨_, rfl, hs.hangupReturns hlegal hsafe⟩
  | initMedia =>
      have hnone : ¬ s.media = true := by simp [hlegal.2]
      exact ⟨_, if_neg hnone, hs.of_eq rfl rfl (fun _ h => h) rfl Iff.rfl⟩
  | streamNew mediaType => exact hs.streamNew hsafe
  | streamEnd id => exact ⟨_, rfl, hs.streamEnd hsafe⟩
  | sessionEnd => exact ⟨_, rfl, hs.sessionEnd⟩
  | close => exact ⟨_, rfl, hs.close false hsafe⟩
  | removeMember => exact ⟨_, rfl, hs.removeMember hsafe⟩
  | dispose => exact ⟨_, rfl, hs.close true hsafe⟩

end HazeMediaChannel

/-! ## Memory -/

/-- A list of more than two types is copied from beyond the end of its array. -/
theorem gMemdupTypes_eq_ok {types : List Nat} :
    gMemdupTypes types = .ok types ↔ types.length ≤ 2 := by
  unfold gMemdupTypes
  constructor
  · intro h
    by_contra hlong
    have hone : 1 < types.length := by omega
    have hpow : 2 ^ (Nat.clog 2 types.length).pred < types.length :=
      Nat.pow_pred_clog_lt_self Nat.one_lt_two hone
    -- the next power of two is less than twice the length
    have hsucc : 2 ^ Nat.clog 2 types.length = 2 * 2 ^ (Nat.clog 2 types.length).pred := by
      rw [← Nat.pow_succ', Nat.succ_pred (Nat.clog_pos Nat.one_lt_two hone).ne']
    have hroom : gArrayRoom types.length < 2 * types.length := by
      rw [gArrayRoom, hsucc]
      omega
    rw [if_pos hroom] at h
    cases h
  · intro h
    have hroom : 4 ≤ gArrayRoom types.length := Nat.le_max_left _ _
    exact if_neg (by omega)

namespace MediaObject

open HazeMediaChannel (MediaEvent OneReply Prompt prompt_init)

variable {s s' : MediaObject} {e : MediaEvent}

/-- A step that does not fail is one of the channel. -/
theorem step_chan (h : mediaObjects.step s e = .ok s') :
    mediaChannels.step s.chan e = .ok s'.chan := by
  unfold mediaObjects at h
  dsimp only at h
  split_ifs at h
  split at h
  · cases h
  split at h
  · cases h
  · rename_i chan hchan
    cases h
    exact hchan

/-- Memory has no say in what a channel does, only in whether it goes on. -/
theorem run_chan {es : List MediaEvent} (h : mediaObjects.run s es = .ok s') :
    mediaChannels.run s.chan es = .ok s'.chan := by
  induction es generalizing s with
  | nil =>
      cases h
      rfl
  | cons e es ih =>
      cases hstep : mediaObjects.step s e with
      | error fault =>
          rw [mediaObjects.run_cons_error es hstep] at h
          cases h
      | ok t =>
          rw [mediaObjects.run_cons_ok es hstep] at h
          rw [mediaChannels.run_cons_ok es (step_chan hstep)]
          exact ih h

/-- A step of the channel goes through in a channel that is not freed, for a list of which the
copy stays within the array. -/
theorem step_ok {chan : HazeMediaChannel} (hfreed : s.freed = false)
    (hcopied : (copiedTypes s.chan e).length ≤ 2)
    (h : mediaChannels.step s.chan e = .ok chan) :
    mediaObjects.step s e = .ok ⟨chan, disposed s.chan chan e⟩ := by
  unfold mediaObjects
  dsimp only
  rw [hfreed, if_neg Bool.false_ne_true, gMemdupTypes_eq_ok.mpr hcopied, h]

/-- What libpurple calls back about, through handlers that nobody disconnects, or returns from. -/
def fromLibpurple : MediaEvent → Bool
  | .initMedia => true
  | .streamNew _ => true
  | .streamEnd _ => true
  | .sessionEnd => true
  | .initiateMediaReturns _ => true
  | .hangupReturns => true
  | _ => false

/-- What telepathy-glib and libpurple promise. A channel that is freed is not on the bus and not
disposed of again, but libpurple may come upon it. -/
def Legal (s : MediaObject) (e : MediaEvent) : Prop :=
  HazeMediaChannel.Legal s.chan e ∧ (s.freed = true → fromLibpurple e = true)

/-- What goes well for the requests, and for the memory: a request that comes to be pending is for
at most two streams, and the channel has not been freed. -/
def RequestsSafe (s : MediaObject) (e : MediaEvent) : Prop :=
  HazeMediaChannel.RequestsSafe s.chan e ∧ (copiedTypes s.chan e).length ≤ 2 ∧ s.freed = false

instance (s : MediaObject) : DecidablePred (Legal s) := fun e =>
  inferInstanceAs (Decidable (HazeMediaChannel.Legal s.chan e ∧ (_ → _)))

instance (s : MediaObject) : DecidablePred (RequestsSafe s) := fun e =>
  inferInstanceAs (Decidable (HazeMediaChannel.RequestsSafe s.chan e ∧ _ ∧ _))

/-- **One reply to each request.** Every run in which no request is refused or too long, nothing
goes wrong while one is pending and libpurple leaves a channel alone that is freed goes through:
each request has one reply, or is pending on a channel that is not closed. -/
theorem requests_one_reply (protocol : String) (initialPeer : Nat) (media : Bool)
    (es : List MediaEvent)
    (hes : mediaObjects.Meets (fun s e => Legal s e ∧ RequestsSafe s e)
      (init protocol initialPeer media) es) :
    ∃ s, mediaObjects.run (init protocol initialPeer media) es = .ok s ∧ OneReply s.chan := by
  have hstep : ∀ (s : MediaObject) (e : MediaEvent), Prompt s.chan →
      Legal s e ∧ RequestsSafe s e →
      ∃ s', mediaObjects.step s e = .ok s' ∧ Prompt s'.chan := by
    rintro s e hs ⟨⟨hlegal, -⟩, hsafe, hcopied, hfreed⟩
    obtain ⟨chan, hchan, hprompt⟩ := hs.step hlegal hsafe
    exact ⟨_, step_ok hfreed hcopied hchan, hprompt⟩
  obtain ⟨s, hrun, hs⟩ := Machine.run_ok_of_invariant hstep
    (prompt_init protocol initialPeer media) hes
  exact ⟨s, hrun, hs.oneReply⟩

/-- A call with sound and video, to which a stream is to be added when it is closed. -/
theorem requests_one_reply_call :
    ∃ s, mediaObjects.run (init "jabber" 2 false)
        [.requestStreams 2 [0, 1] ⟨true, true, true⟩ 7, .initMedia, .streamNew 0,
          .initiateMediaReturns true, .streamNew 1,
          .requestStreams 2 [1] ⟨true, false, true⟩ 8, .initiateMediaReturns true,
          .close, .sessionEnd, .hangupReturns, .dispose] = .ok s ∧ OneReply s.chan :=
  requests_one_reply "jabber" 2 false
    [.requestStreams 2 [0, 1] ⟨true, true, true⟩ 7, .initMedia, .streamNew 0,
      .initiateMediaReturns true, .streamNew 1,
      .requestStreams 2 [1] ⟨true, false, true⟩ 8, .initiateMediaReturns true,
      .close, .sessionEnd, .hangupReturns, .dispose] (by decide)

/-- A request that is refused has two replies. -/
theorem requests_refused_twice :
    ¬ ∀ es, mediaObjects.Meets Legal (init "jabber" 2 false) es →
      ∃ s, mediaObjects.run (init "jabber" 2 false) es = .ok s ∧ OneReply s.chan := by
  intro hall
  obtain ⟨s, hrun, hreply⟩ := hall [.requestStreams 2 [7] ⟨true, true, true⟩ 5] (by decide)
  cases hrun
  have hlength := hreply.balanced.length_eq
  revert hlength
  decide

end MediaObject

end Haze
