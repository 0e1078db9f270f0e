import Haze.Media.Quiet
import Haze.Media.Slots
import Mathlib.Data.List.Flatten

set_option autoImplicit false

/-! # Which stream answers which request

A stream that appears is matched with the slots of the pending requests by its type alone, and the
loop over the slots goes on after a match. So a stream answers every slot of its type, of every
request. `OneSlot` says that there is at most one such slot and that it is empty. As long as that
holds of every stream when it appears, no stream answers two slots (`streams_answer_once`).
-/

namespace Haze

/-- The context and the streams of a successful reply. -/
def MediaCall.success : MediaCall → Option (Nat × List HazeMediaStream)
  | .succeeded context streams => some (context, streams)
  | _ => none

namespace HazeMediaChannel

variable {s s' : HazeMediaChannel} {stream : HazeMediaStream}
variable {ps ps' : List PendingStreamRequest} {calls : List MediaCall} {es : List MediaEvent}

/-- The successful replies. -/
def successes (s : HazeMediaChannel) : List (Nat × List HazeMediaStream) :=
  s.calls.filterMap MediaCall.success

/-- The streams in the slots of the requests. -/
def slotted (ps : List PendingStreamRequest) : List HazeMediaStream :=
  ps.flatMap (fun p => p.streams.reduceOption)

/-- The streams that answer something: those in the slots of pending requests and those that were
replied with, each as often as it does. -/
def answers (s : HazeMediaChannel) : List HazeMediaStream :=
  slotted s.pendingStreamRequests ++ s.successes.flatMap Prod.snd

/-- A request for streams of these types was made for this context. -/
def Asked (es : List MediaEvent) (context : Nat) (types : List Nat) : Prop :=
  ∃ contactHandle caps, .requestStreams contactHandle types caps context ∈ es

/-- Every counter is right, every reply lists a stream for each type that was asked for, and no
stream answers two slots. -/
structure SlotsRight (es : List MediaEvent) (s : HazeMediaChannel) : Prop where
  satisfied : ∀ p ∈ s.pendingStreamRequests, p.streams.length = p.types.length ∧
    p.satisfied = p.streams.countP Option.isSome ∧ p.satisfied ≤ p.types.length
  replies : ∀ context streams, .succeeded context streams ∈ s.calls →
    Asked es context (streams.map HazeMediaStream.mediaType) ∧ streams.Nodup
  once : s.answers.Nodup

/-- When a stream appears, at most one slot of the pending requests is of its type, and it is
empty. -/
def OneSlot (s : HazeMediaChannel) : MediaEvent → Prop
  | .streamNew mediaType => (∀ p ∈ s.pendingStreamRequests, TypeFree mediaType p) ∧
      (s.pendingStreamRequests.flatMap PendingStreamRequest.types).count mediaType ≤ 1
  | _ => True

instance (s : HazeMediaChannel) : DecidablePred (OneSlot s)
  | .streamNew mediaType => inferInstanceAs (Decidable
      ((∀ p ∈ s.pendingStreamRequests, TypeFree mediaType p) ∧
        (s.pendingStreamRequests.flatMap PendingStreamRequest.types).count mediaType ≤ 1))
  | .requestStreams _ _ _ _ => isTrue trivial
  | .initiateMediaReturns _ => isTrue trivial
  | .hangupReturns => isTrue trivial
  | .initMedia => isTrue trivial
  | .streamEnd _ => isTrue trivial
  | .sessionEnd => isTrue trivial
  | .close => isTrue trivial
  | .removeMember => isTrue trivial
  | .dispose => isTrue trivial

theorem Asked.mono {es' : List MediaEvent} {context : Nat} {types : List Nat}
    (h : Asked es context types) : Asked (es ++ es') context types := by
  obtain ⟨contactHandle, caps, hmem⟩ := h
  exact ⟨contactHandle, caps, List.mem_append_left _ hmem⟩

theorem mem_successes {context : Nat} {streams : List HazeMediaStream} :
    (context, streams) ∈ s.successes ↔ .succeeded context streams ∈ s.calls := by
  rw [successes, List.mem_filterMap]
  constructor
  · rintro ⟨c, hc, hsuccess⟩
    cases c with
    | succeeded context' streams' =>
        cases hsuccess
        exact hc
    | _ => cases hsuccess
  · intro hc
    exact ⟨_, hc, rfl⟩

theorem successes_log (s : HazeMediaChannel) (calls : List MediaCall) :
    (s.log calls).successes = s.successes ++ calls.filterMap MediaCall.success :=
  List.filterMap_append

/-! ## A stream in the slots -/

/-- What one request holds after a stream has appeared. -/
theorem FilledFrom.reduceOption_perm {p p' : PendingStreamRequest} (h : FilledFrom stream 0 p p')
    (hp : Counted p) (hfree : TypeFree stream.mediaType p) :
    p'.streams.reduceOption.Perm
      (List.replicate (p.types.count stream.mediaType) stream ++ p.streams.reduceOption) := by
  rw [h.streams_eq hp.length]
  exact Slots.reduceOption_fill_perm hp.length hfree

/-- The streams that answer something after a stream has appeared: those before, and the new one
for every slot of its type. -/
theorem SatisfiesAll.answers_perm (h : SatisfiesAll stream ps ps' calls)
    (hps : ∀ p ∈ ps, Counted p) (hfree : ∀ p ∈ ps, TypeFree stream.mediaType p) :
    (slotted ps' ++ (calls.filterMap MediaCall.success).flatMap Prod.snd).Perm
      (List.replicate ((ps.flatMap PendingStreamRequest.types).count stream.mediaType) stream ++
        slotted ps) := by
  -- one request more, whose streams go to the slots or to the reply
  have hcons : ∀ {p p' : PendingStreamRequest} {ps : List PendingStreamRequest}
      {rest : List HazeMediaStream}, FilledFrom stream 0 p p' → Counted p →
      TypeFree stream.mediaType p →
      rest.Perm (List.replicate
        ((ps.flatMap PendingStreamRequest.types).count stream.mediaType) stream ++ slotted ps) →
      (p'.streams.reduceOption ++ rest).Perm (List.replicate
        (((p :: ps).flatMap PendingStreamRequest.types).count stream.mediaType) stream ++
          slotted (p :: ps)) := by
    intro p p' ps rest hfilled hp hp' hrest
    have hboth := (hfilled.reduceOption_perm hp hp').append hrest
    have hswap := (List.perm_append_comm_assoc p.streams.reduceOption
      (List.replicate ((ps.flatMap PendingStreamRequest.types).count stream.mediaType) stream)
      (slotted ps)).append_left (List.replicate (p.types.count stream.mediaType) stream)
    rw [List.append_assoc] at hboth
    rw [List.flatMap_cons, List.count_append, List.replicate_add, List.append_assoc]
    exact hboth.trans hswap
  induction h with
  | nil => exact List.Perm.refl _
  | @waits p p' ps ps' calls hfilled _ _ ih =>
      have hrest := ih (fun q hq => hps q (List.mem_cons_of_mem _ hq))
        (fun q hq => hfree q (List.mem_cons_of_mem _ hq))
      have hfirst := hcons hfilled (hps p List.mem_cons_self) (hfree p List.mem_cons_self) hrest
      rw [← List.append_assoc] at hfirst
      exact hfirst
  | @replies p p' ps ps' calls context streams hfilled hcontext hstreams _ ih =>
      have hrest := ih (fun q hq => hps q (List.mem_cons_of_mem _ hq))
        (fun q hq => hfree q (List.mem_cons_of_mem _ hq))
      have hfirst := hcons hfilled (hps p List.mem_cons_self) (hfree p List.mem_cons_self) hrest
      have hreply : p'.streams.reduceOption = streams := by
        rw [hstreams, List.reduceOption, List.filterMap_map, Function.id_comp,
          List.filterMap_some]
      rw [hreply] at hfirst
      exact (List.perm_append_comm_assoc (slotted ps') streams _).trans hfirst

/-! ## The invariant -/

/-- What holds of a channel after the events `es`: the pending requests are counted, incomplete
and were asked for, their streams are in slots of their types, and a type that has a stream occurs
once; the replies list what was asked for; and no stream answers two slots. -/
structure Answering (es : List MediaEvent) (s : HazeMediaChannel) : Prop where
  counted : ∀ p ∈ s.pendingStreamRequests, Counted p
  incomplete : ∀ p ∈ s.pendingStreamRequests, p.satisfied < p.types.length
  asked : ∀ p ∈ s.pendingStreamRequests, ∀ context, p.context = some context →
    Asked es context p.types
  keyed : ∀ p ∈ s.pendingStreamRequests,
    Slots.Keyed HazeMediaStream.mediaType p.types p.streams
  single : ∀ p ∈ s.pendingStreamRequests, ∀ mediaType held,
    (mediaType, some held) ∈ p.types.zip p.streams → p.types.count mediaType = 1
  replies : ∀ context streams, (context, streams) ∈ s.successes →
    Asked es context (streams.map HazeMediaStream.mediaType)
  once : s.answers.Nodup
  old : ∀ held ∈ s.answers, held.id < s.nextStreamId

theorem answering_init (protocol : String) (initialPeer : Nat) (media : Bool) :
    Answering [] (init protocol initialPeer media) := by
  constructor <;> simp [init, successes, answers, slotted]

theorem Answering.slotsRight (hs : Answering es s) : SlotsRight es s where
  satisfied := fun p hp => ⟨(hs.counted p hp).length, (hs.counted p hp).satisfied,
    Nat.le_of_lt (hs.incomplete p hp)⟩
  replies := by
    intro context streams hmem
    rw [← mem_successes] at hmem
    refine ⟨hs.replies context streams hmem, ?_⟩
    have hreplied : (s.successes.flatMap Prod.snd).Nodup :=
      hs.once.sublist (List.sublist_append_right _ _)
    exact (List.nodup_flatMap.mp hreplied).1 _ hmem
  once := hs.once

theorem Answering.mono (hs : Answering es s) (es' : List MediaEvent) :
    Answering (es ++ es') s where
  counted := hs.counted
  incomplete := hs.incomplete
  asked := fun p hp context hcontext => (hs.asked p hp context hcontext).mono
  keyed := hs.keyed
  single := hs.single
  replies := fun context streams hmem => (hs.replies context streams hmem).mono
  once := hs.once
  old := hs.old

theorem Answering.quiet (hs : Answering es s) (h : Quiet s s') : Answering es s' := by
  have hsuccesses : s'.successes = s.successes := h.filterMap_eq (by
    intro c hc
    cases c <;> first | rfl | cases hc)
  have hanswers : s'.answers.Sublist s.answers := by
    rw [answers, answers, hsuccesses]
    exact (h.pending.flatMap _).append (List.Sublist.refl _)
  have hold : ∀ p ∈ s'.pendingStreamRequests, p ∈ s.pendingStreamRequests :=
    fun p hp => h.pending.subset hp
  refine ⟨fun p hp => hs.counted p (hold p hp), fun p hp => hs.incomplete p (hold p hp),
    fun p hp => hs.asked p (hold p hp), fun p hp => hs.keyed p (hold p hp),
    fun p hp => hs.single p (hold p hp), ?_, hs.once.sublist hanswers, fun held hheld => ?_⟩
  · rw [hsuccesses]
    exact hs.replies
  · rw [h.nextStreamId]
    exact hs.old held (hanswers.subset hheld)

/-! ## A request -/

theorem reduceOption_replicate_none (n : Nat) :
    (List.replicate n (none : Option HazeMediaStream)).reduceOption = [] := by
  rw [List.reduceOption, List.filterMap_eq_nil_iff]
  intro slot hslot
  rw [List.eq_of_mem_replicate hslot]
  rfl

/-- A request is put on the list, with empty slots. -/
theorem Answering.pend (hs : Answering es s) {context : Nat} {types : List Nat}
    (hasked : Asked es context types) (hne : types ≠ []) :
    Answering es (s.pend types context) := by
  have hpending : (s.pend types context).pendingStreamRequests =
      pendingStreamRequestNew s.nextRequest types context :: s.pendingStreamRequests := rfl
  have hsuccesses : (s.pend types context).successes = s.successes := by
    show (s.log [.requestStreams context]).successes = s.successes
    rw [successes_log]
    exact List.append_nil _
  have hid : (s.pend types context).nextStreamId = s.nextStreamId := rfl
  have hempty : ∀ {mediaType : Nat} {held : HazeMediaStream},
      (mediaType, some held) ∉ types.zip (List.replicate types.length none) := by
    intro mediaType held hmem
    have hnone := List.eq_of_mem_replicate (List.of_mem_zip hmem).2
    cases hnone
  have hanswers : (s.pend types context).answers = s.answers := by
    rw [answers, answers, hpending, hsuccesses, slotted, List.flatMap_cons,
      pendingStreamRequestNew, reduceOption_replicate_none]
    rfl
  refine ⟨?_, ?_, ?_, ?_, ?_, ?_, ?_, ?_⟩
  · rw [hpending]
    refine List.forall_mem_cons.mpr ⟨⟨List.length_replicate, ?_, rfl⟩, hs.counted⟩
    rw [pendingStreamRequestNew, eq_comm, List.countP_eq_zero]
    intro slot hslot
    rw [List.eq_of_mem_replicate hslot]
    simp
  · rw [hpending]
    exact List.forall_mem_cons.mpr ⟨List.length_pos_iff.mpr hne, hs.incomplete⟩
  · rw [hpending]
    refine List.forall_mem_cons.mpr ⟨fun context' hcontext => ?_, hs.asked⟩
    cases hcontext
    exact hasked
  · rw [hpending]
    refine List.forall_mem_cons.mpr ⟨fun slot hslot held hheld => ?_, hs.keyed⟩
    obtain ⟨mediaType, slot⟩ := slot
    cases hheld
    exact absurd hslot hempty
  · rw [hpending]
    refine List.forall_mem_cons.mpr ⟨fun mediaType held hmem => ?_, hs.single⟩
    exact absurd hmem hempty
  · rw [hsuccesses]
    exact hs.replies
  · rw [hanswers]
    exact hs.once
  · rw [hanswers, hid]
    exact hs.old

/-- A request for no streams is replied to at once. -/
theorem Answering.replyEmpty (hs : Answering es s) {context : Nat} (hasked : Asked es context []) :
    Answering es (s.log [.succeeded context []]) := by
  have hsuccesses : (s.log [.succeeded context []]).successes = s.successes ++ [(context, [])] :=
    successes_log s _
  have hanswers : (s.log [.succeeded context []]).answers = s.answers := by
    rw [answers, hsuccesses, List.flatMap_append]
    simp [answers, HazeMediaChannel.log]
  refine ⟨hs.counted, hs.incomplete, hs.asked, hs.keyed, hs.single, ?_, ?_, ?_⟩
  · intro context' streams hmem
    rw [hsuccesses] at hmem
    rcases List.mem_append.mp hmem with hmem | hmem
    · exact hs.replies context' streams hmem
    · cases List.mem_singleton.mp hmem
      exact hasked
  · rw [hanswers]
    exact hs.once
  · rw [hanswers]
    exact hs.old

theorem Answering.requestStreams (hs : Answering es s) {contactHandle : Nat} {types : List Nat}
    {caps : PurpleMediaCaps} {context : Nat}
    (hstep : s.mediaChannelRequestStreams contactHandle types caps context = .ok s') :
    Answering (es ++ [.requestStreams contactHandle types caps context]) s' := by
  have hasked : Asked (es ++ [.requestStreams contactHandle types caps context]) context types :=
    ⟨contactHandle, caps, List.mem_concat_self⟩
  have hlog : Quiet s (s.log [.requestStreams context]) := quiet_log s (by simp [MediaCall.quiet])
  have hs₁ := (hs.mono [.requestStreams contactHandle types caps context]).quiet hlog
  rcases requestStreams_cases hstep with ⟨rfl, rfl⟩ | ⟨hne, hquiet | hquiet⟩
  · exact hs₁.replyEmpty hasked
  · exact (hs.mono _).quiet hquiet
  · exact ((hs.mono _).pend hasked hne).quiet hquiet

/-! ## A stream -/

/-- A stream appears: what answers something afterwards is what did before, and the stream as
often as there are slots of its type. -/
theorem answers_streamNew {mediaType : Nat} (hs : Answering es s)
    (hfree : ∀ p ∈ s.pendingStreamRequests, TypeFree mediaType p)
    (hsatisfied : SatisfiesAll ⟨s.nextStreamId, mediaType⟩ s.pendingStreamRequests ps calls)
    (hpending : s'.pendingStreamRequests = ps)
    (hsuccesses : s'.successes = s.successes ++ calls.filterMap MediaCall.success) :
    s'.answers.Perm (List.replicate
      ((s.pendingStreamRequests.flatMap PendingStreamRequest.types).count mediaType)
        ⟨s.nextStreamId, mediaType⟩ ++ s.answers) := by
  have hnew := hsatisfied.answers_perm hs.counted hfree
  have hreplied := (hnew.append_right (s.successes.flatMap Prod.snd))
  rw [answers, hpending, hsuccesses, List.flatMap_append]
  rw [List.append_assoc, List.append_assoc] at hreplied
  exact (List.perm_append_comm.append_left (slotted ps)).trans hreplied

/-- A stream fills slots of its own type only. -/
theorem Answering.keyed_filled (hs : Answering es s) {stream : HazeMediaStream}
    {p p' : PendingStreamRequest} (hp : p ∈ s.pendingStreamRequests)
    (hfilled : FilledFrom stream 0 p p') :
    Slots.Keyed HazeMediaStream.mediaType p'.types p'.streams := by
  rw [hfilled.types, hfilled.streams_eq (hs.counted p hp).length]
  exact (hs.keyed p hp).fill rfl

/-- A request that a stream completes is replied to with the types that were asked for. -/
theorem Answering.asked_filled (hs : Answering es s) {stream : HazeMediaStream}
    {p p' : PendingStreamRequest} {context : Nat} {streams : List HazeMediaStream}
    (hp : p ∈ s.pendingStreamRequests) (hfilled : FilledFrom stream 0 p p')
    (hcontext : p.context = some context) (hstreams : p'.streams = streams.map some) :
    Asked es context (streams.map HazeMediaStream.mediaType) := by
  have hlist := hs.keyed_filled hp hfilled
  have hlength := (hfilled.counted (hs.counted p hp)).length
  rw [hstreams] at hlist hlength
  rw [List.length_map] at hlength
  rw [hlist.map_eq hlength, hfilled.types]
  exact hs.asked p hp context hcontext

/-- One request has no more slots of a type than all requests together. -/
theorem count_types_le {ps : List PendingStreamRequest} {p : PendingStreamRequest} (hp : p ∈ ps)
    (type : Nat) :
    p.types.count type ≤ (ps.flatMap PendingStreamRequest.types).count type := by
  have hsub := (List.singleton_sublist.mpr hp).flatMap PendingStreamRequest.types
  rw [List.flatMap_singleton] at hsub
  exact hsub.count_le type

/-- A stream appears of whose type there is at most one slot, which is empty. -/
theorem Answering.streamNew (hs : Answering es s) {mediaType : Nat}
    (hone : OneSlot s (.streamNew mediaType))
    (hsatisfied : SatisfiesAll ⟨s.nextStreamId, mediaType⟩ s.pendingStreamRequests ps calls)
    (hpending : s'.pendingStreamRequests = ps)
    (hsuccesses : s'.successes = s.successes ++ calls.filterMap MediaCall.success)
    (hid : s'.nextStreamId = s.nextStreamId + 1) : Answering es s' := by
  obtain ⟨hfree, hcount⟩ := hone
  have hperm := answers_streamNew hs hfree hsatisfied hpending hsuccesses
  -- the requests that go on waiting, one by one
  have hwaits : ∀ p' ∈ ps, ∃ p ∈ s.pendingStreamRequests,
      FilledFrom ⟨s.nextStreamId, mediaType⟩ 0 p p' ∧
        (p.satisfied < p.types.length → p'.satisfied < p'.types.length) :=
    fun p' hp' => hsatisfied.waits_of_mem hp'
  refine ⟨?_, ?_, ?_, ?_, ?_, ?_, ?_, ?_⟩
  · rw [hpending]
    intro p' hp'
    obtain ⟨p, hp, hfilled, -⟩ := hwaits p' hp'
    exact hfilled.counted (hs.counted p hp)
  · rw [hpending]
    intro p' hp'
    obtain ⟨p, hp, -, hopen⟩ := hwaits p' hp'
    exact hopen (hs.incomplete p hp)
  · rw [hpending]
    intro p' hp' context hcontext
    obtain ⟨p, hp, hfilled, -⟩ := hwaits p' hp'
    rw [hfilled.types]
    exact hs.asked p hp context (hfilled.context.symm.trans hcontext)
  · rw [hpending]
    intro p' hp'
    obtain ⟨p, hp, hfilled, -⟩ := hwaits p' hp'
    exact hs.keyed_filled hp hfilled
  · rw [hpending]
    intro p' hp' type held hheld
    obtain ⟨p, hp, hfilled, -⟩ := hwaits p' hp'
    rw [hfilled.types] at hheld ⊢
    rw [hfilled.streams_eq (hs.counted p hp).length] at hheld
    rcases Slots.mem_zip_fill hheld with ⟨rfl, -, hin⟩ | hold
    · -- the type of the new stream occurs once in all requests together
      have hle := count_types_le hp type
      have hpos : 0 < p.types.count type := List.count_pos_iff.mpr hin
      have hcount' : (s.pendingStreamRequests.flatMap PendingStreamRequest.types).count type ≤ 1 :=
        hcount
      omega
    · exact hs.single p hp type held hold
  · intro context streams hmem
    rw [hsuccesses] at hmem
    rcases List.mem_append.mp hmem with hmem | hmem
    · exact hs.replies context streams hmem
    · obtain ⟨c, hc, hsuccess⟩ := List.mem_filterMap.mp hmem
      obtain ⟨p, hp, p', context', streams', rfl, hfilled, hcontext, hstreams⟩ :=
        hsatisfied.replies_of_mem hc
      cases hsuccess
      exact hs.asked_filled hp hfilled hcontext hstreams
  · have hfresh : (⟨s.nextStreamId, mediaType⟩ : HazeMediaStream) ∉ s.answers :=
      fun hmem => Nat.lt_irrefl _ (hs.old _ hmem)
    rw [hperm.nodup_iff]
    have hcases : (s.pendingStreamRequests.flatMap PendingStreamRequest.types).count mediaType = 0 ∨
        (s.pendingStreamRequests.flatMap PendingStreamRequest.types).count mediaType = 1 := by
      omega
    rcases hcases with hzero | hsingle
    · rw [hzero]
      exact hs.once
    · rw [hsingle]
      exact List.nodup_cons.mpr ⟨hfresh, hs.once⟩
  · intro held hheld
    rw [hperm.mem_iff, List.mem_append] at hheld
    rw [hid]
    rcases hheld with hnew | hold
    · rw [List.eq_of_mem_replicate hnew]
      exact Nat.lt_succ_self _
    · exact Nat.lt_succ_of_lt (hs.old held hold)

/-- What a new stream makes of a channel when no slot of its type is filled: nothing goes wrong,
unless a stream in another slot is gone. -/
theorem streamNew_spec {mediaType : Nat} (hs : Answering es s)
    (hfree : ∀ p ∈ s.pendingStreamRequests, TypeFree mediaType p) :
    (∃ s' ps calls, s.streamNew mediaType = .ok s' ∧
      SatisfiesAll ⟨s.nextStreamId, mediaType⟩ s.pendingStreamRequests ps calls ∧
      s'.pendingStreamRequests = ps ∧
      s'.successes = s.successes ++ calls.filterMap MediaCall.success ∧
      s'.nextStreamId = s.nextStreamId + 1) ∨
    s.streamNew mediaType = .error .useAfterFree ∧ ∃ p ∈ s.pendingStreamRequests,
      ∃ held, some held ∈ p.streams ∧ held ∉ s.streams := by
  rcases satisfyRequests_spec (s.streams ++ [⟨s.nextStreamId, mediaType⟩])
    ⟨s.nextStreamId, mediaType⟩ hs.counted hfree with
    ⟨ps, calls, hloop, hall⟩ | ⟨hloop, p, hp, p', held, hfilled, hheld, hgone⟩
  · refine Or.inl ⟨_, ps, calls, streamNew_eq hloop, hall, rfl, ?_, rfl⟩
    rw [successes_log, List.filterMap_append]
    exact congrArg (s.successes ++ ·) (List.append_nil _)
  · refine Or.inr ⟨streamNew_error hloop, p, hp, held, ?_,
      fun h => hgone (List.mem_append_left _ h)⟩
    exact (hfilled.mem_streams hheld).resolve_left
      (fun h => hgone (List.mem_append_right _ (List.mem_singleton.mpr h)))

/-- The assertion fails when a slot of the stream's type is filled. -/
theorem typeFree_of_streamNew {mediaType : Nat} (hs : Answering es s)
    (hstep : s.streamNew mediaType = .ok s') :
    ∀ p ∈ s.pendingStreamRequests, TypeFree mediaType p := by
  have hloop : ∃ out, satisfyRequests (s.streams ++ [⟨s.nextStreamId, mediaType⟩])
      ⟨s.nextStreamId, mediaType⟩ s.pendingStreamRequests = .ok out := by
    obtain ⟨requests, calls, hok, -⟩ := streamNew_ok hstep
    exact ⟨_, hok⟩
  -- every request came through the loop over its slots
  have heach : ∀ (live : List HazeMediaStream) (stream : HazeMediaStream)
      (ps : List PendingStreamRequest), (∃ out, satisfyRequests live stream ps = .ok out) →
      ∀ p ∈ ps, fillSlots stream p.types.length 0 p ≠ .error .assertion := by
    intro live stream ps
    induction ps with
    | nil => simp
    | cons q ps ih =>
        rintro ⟨out, hout⟩
        unfold satisfyRequests at hout
        split at hout
        · cases hout
        · rename_i hfirst
          split at hout
          · cases hout
          · rename_i hrest
            refine List.forall_mem_cons.mpr ⟨fun hfault => ?_, ih ⟨_, hrest⟩⟩
            unfold pendingStreamRequestMaybeSatisfy at hfirst
            rw [hfault] at hfirst
            cases hfirst
  intro p hp slot hslot htype
  obtain ⟨type, slot⟩ := slot
  dsimp only at htype ⊢
  subst htype
  cases slot with
  | none => rfl
  | some held =>
      have hcount := hs.single p hp type held hslot
      have hfilled : ∀ j : Nat, p.types[j]? = some type → p.streams[j]? ≠ some none :=
        fun j hj => Slots.getElem?_ne_none_of_count (hs.counted p hp).length hcount hslot hj
      obtain ⟨j, hj⟩ := List.mem_iff_getElem?.mp (List.of_mem_zip hslot).1
      have hlt := (List.getElem?_eq_some_iff.mp hj).1
      have hfault := fillSlots_assertion ⟨s.nextStreamId, type⟩ p.types.length 0 hfilled
        ⟨j, Nat.zero_le j, by omega, hj⟩
      exact absurd hfault (heach _ _ _ hloop p hp)

/-- The streams in the slots are there. -/
def SlotsLive (s : HazeMediaChannel) : Prop :=
  ∀ p ∈ s.pendingStreamRequests, ∀ held, some held ∈ p.streams → held ∈ s.streams

/-- A new stream answers at most one slot, without a fault, exactly when there is at most one slot
of its type and that is empty. -/
theorem streamNew_once_iff {mediaType : Nat} (hs : Answering es s) (hlive : SlotsLive s) :
    (∃ s', s.streamNew mediaType = .ok s' ∧ s'.answers.Nodup) ↔
      OneSlot s (.streamNew mediaType) := by
  constructor
  · rintro ⟨s', hstep, honce⟩
    have hfree := typeFree_of_streamNew hs hstep
    refine ⟨hfree, ?_⟩
    rcases streamNew_spec hs hfree with
      ⟨s₁, ps, calls, hstep', hall, hpending, hsuccesses, -⟩ | ⟨hfault, -⟩
    · rw [hstep'] at hstep
      cases hstep
      rw [(answers_streamNew hs hfree hall hpending hsuccesses).nodup_iff] at honce
      exact List.nodup_replicate.mp (honce.sublist (List.sublist_append_left _ _))
    · rw [hfault] at hstep
      cases hstep
  · intro hone
    rcases streamNew_spec hs hone.1 with
      ⟨s', ps, calls, hstep, hall, hpending, hsuccesses, hid⟩ | ⟨-, p, hp, held, hheld, hgone⟩
    · exact ⟨s', hstep, (hs.streamNew hone hall hpending hsuccesses hid).once⟩
    · exact absurd (hlive p hp held hheld) hgone

/-! ## Every run -/

theorem Answering.step (hs : Answering es s) {e : MediaEvent} (hone : OneSlot s e)
    (hstep : mediaChannels.step s e = .ok s') : Answering (es ++ [e]) s' := by
  cases e with
  | requestStreams contactHandle types caps context => exact hs.requestStreams hstep
  | initiateMediaReturns result => exact (hs.mono _).quiet (quiet_initiateMediaReturns hstep)
  | hangupReturns =>
      cases hstep
      exact (hs.mono _).quiet (quiet_hangupReturns s)
  | initMedia =>
      have hinit : s.initMediaCb = .ok s' := hstep
      exact (hs.mono _).quiet (quiet_initMediaCb hinit)
  | streamNew mediaType =>
      have hnew : s.streamNew mediaType = .ok s' := hstep
      rcases streamNew_spec hs hone.1 with
        ⟨s₁, ps, calls, hstep', hall, hpending, hsuccesses, hid⟩ | ⟨hfault, -⟩
      · rw [hstep'] at hnew
        cases hnew
        exact (hs.streamNew hone hall hpending hsuccesses hid).mono _
      · rw [hfault] at hnew
        cases hnew
  | streamEnd id =>
      cases hstep
      exact (hs.mono _).quiet (Quiet.of_eq rfl rfl rfl)
  | sessionEnd =>
      cases hstep
      exact (hs.mono _).quiet (quiet_sessionEnd s)
  | close =>
      cases hstep
      exact (hs.mono _).quiet (quiet_close s false)
  | removeMember =>
      cases hstep
      exact (hs.mono _).quiet (quiet_removeMember s)
  | dispose =>
      cases hstep
      exact (hs.mono _).quiet (quiet_close s true)

/-- **No stream answers two slots** in a run in which every stream finds at most one slot of its
type, which is empty. Then the counters and the replies are right and the next stream does not
fail the assertion; and if there is more than one slot of its type, or a filled one, it does fail
it or answers two. -/
theorem streams_answer_once (protocol : String) (initialPeer : Nat) (media : Bool)
    (es : List MediaEvent) (hes : mediaChannels.Meets OneSlot (init protocol initialPeer media) es)
    (hrun : mediaChannels.run (init protocol initialPeer media) es = .ok s) :
    SlotsRight es s ∧ ∀ mediaType,
      (OneSlot s (.streamNew mediaType) → s.streamNew mediaType ≠ .error .assertion) ∧
      (SlotsLive s → ((∃ s', s.streamNew mediaType = .ok s' ∧ s'.answers.Nodup) ↔
        OneSlot s (.streamNew mediaType))) := by
  have hs : Answering es s := Machine.run_history
    (fun _ _ _ _ hI hone hstep => hI.step hone hstep)
    (answering_init protocol initialPeer media) hes hrun
  refine ⟨hs.slotsRight, fun mediaType => ⟨fun hone hfault => ?_, streamNew_once_iff hs⟩⟩
  rcases streamNew_spec hs hone.1 with ⟨s', -, -, hstep, -⟩ | ⟨hgone, -⟩
  · rw [hfault] at hstep
    cases hstep
  · rw [hfault] at hgone
    cases hgone

/-- Sound and video are asked for, and appear; then a third stream does. -/
theorem streams_answer_once_call :
    ∃ s, mediaChannels.run (init "jabber" 2 false)
        [.requestStreams 2 [0, 1] ⟨true, true, true⟩ 7, .initMedia, .streamNew 1,
          .initiateMediaReturns true, .streamNew 0, .streamNew 0] = .ok s ∧
      SlotsRight [.requestStreams 2 [0, 1] ⟨true, true, true⟩ 7, .initMedia, .streamNew 1,
        .initiateMediaReturns true, .streamNew 0, .streamNew 0] s :=
  ⟨_, rfl, (streams_answer_once "jabber" 2 false
    [.requestStreams 2 [0, 1] ⟨true, true, true⟩ 7, .initMedia, .streamNew 1,
      .initiateMediaReturns true, .streamNew 0, .streamNew 0] (by decide) rfl).1⟩

/-- One stream is the answer to a request for two. -/
theorem stream_answers_twice :
    ¬ ∀ es s, mediaChannels.run (init "jabber" 2 false) es = .ok s → SlotsRight es s := by
  intro hall
  have hright := hall [.requestStreams 2 [0, 0] ⟨true, true, true⟩ 7, .initMedia, .streamNew 0]
    _ rfl
  have honce := hright.once
  revert honce
  decide

end HazeMediaChannel

end Haze
