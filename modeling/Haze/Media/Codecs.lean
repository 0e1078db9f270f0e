import Haze.Media.StreamCaches
import Haze.Media.Streams

set_option autoImplicit false

/-! # When the codecs of a call are ready

libpurple asks the backend whether the codecs are ready before it offers or accepts a session. The
codecs of a stream come from its streaming client: those of a stream that the account has created
from `Ready` and `SetLocalCodecs`, those of another from `SupportedCodecs`, which counts once
(`codecs_ne_nil_iff`). So the backend's answer can be read off what the clients have called
(`codecsReady_iff_negotiated`).
-/

namespace Haze

namespace HazeMediaStreamPrivate

/-- "codecs-ready" -/
def codecsReady (s : HazeMediaStreamPrivate) : Bool := !s.codecs.isEmpty

/-- libpurple has the initiator that the stream was created with. -/
def Consistent (createdLocally : Bool) : Event → Prop
  | .ready _ isInitiator _ => isInitiator = createdLocally
  | .setLocalCodecs _ isInitiator => isInitiator = createdLocally
  | _ => True

instance (createdLocally : Bool) : DecidablePred (Consistent createdLocally)
  | .ready _ isInitiator _ => inferInstanceAs (Decidable (isInitiator = createdLocally))
  | .setLocalCodecs _ isInitiator => inferInstanceAs (Decidable (isInitiator = createdLocally))
  | .addRemoteCandidates _ => isTrue trivial
  | .setRemoteCodecs _ => isTrue trivial
  | .supportedCodecs _ => isTrue trivial
  | .codecsUpdated _ => isTrue trivial
  | .holdState _ => isTrue trivial

/-- The codecs that the client offers. -/
def offered : Event → List Codec
  | .ready codecs _ _ => codecs
  | .setLocalCodecs codecs _ => codecs
  | _ => []

/-- The codecs that the client shares with the peer. -/
def supported : Event → Option (List Codec)
  | .supportedCodecs codecs => some codecs
  | _ => none

/-- The client has named a codec: it has offered one, or its first answer to the peer has one. -/
def Negotiated (createdLocally : Bool) (es : List Event) : Prop :=
  if createdLocally then ∃ e ∈ es, offered e ≠ []
  else ∃ codecs ∈ (es.filterMap supported).head?, codecs ≠ []

instance (createdLocally : Bool) (es : List Event) : Decidable (Negotiated createdLocally es) := by
  unfold Negotiated
  infer_instance

variable {s : HazeMediaStreamPrivate} {e : Event} {es : List Event} {createdLocally : Bool}

theorem passLocalCodecs_awaiting (s : HazeMediaStreamPrivate) (codecs : List Codec) :
    (s.passLocalCodecs codecs).awaitingIntersection = s.awaitingIntersection := by
  unfold passLocalCodecs
  induction codecs generalizing s with
  | nil => rfl
  | cons c codecs ih =>
      rw [List.foldl_cons, ih]
      rfl

theorem setLocalCodecs_awaiting (s : HazeMediaStreamPrivate) (codecs : List Codec)
    (isInitiator : Bool) :
    (s.setLocalCodecs codecs isInitiator).awaitingIntersection = s.awaitingIntersection := by
  cases isInitiator with
  | false => rfl
  | true => exact passLocalCodecs_awaiting s codecs

theorem firstReady_awaiting (s : HazeMediaStreamPrivate) (sends : Bool) :
    (s.firstReady sends).awaitingIntersection = s.awaitingIntersection := by
  unfold firstReady
  cases sends <;> simp only [emit, if_true, if_false, Bool.false_eq_true] <;> split_ifs <;> rfl

/-- The first SupportedCodecs is the last that is waited for. -/
theorem step_awaiting (s : HazeMediaStreamPrivate) (e : Event) :
    (s.step e).awaitingIntersection = (s.awaitingIntersection && (supported e).isNone) := by
  have hkeep : ∀ {b : Bool}, b = s.awaitingIntersection → b = (s.awaitingIntersection && true) := by
    intro b h
    rw [h, Bool.and_true]
  cases e with
  | addRemoteCandidates cs =>
      refine hkeep ?_
      show (s.addRemoteCandidates cs).awaitingIntersection = s.awaitingIntersection
      unfold addRemoteCandidates
      by_cases hready : s.ready = true
      · simp only [hready, if_true, passRemoteCandidates_eq]
      · simp only [hready, if_false, Bool.false_eq_true]
  | setRemoteCodecs cs =>
      refine hkeep ?_
      show (s.setRemoteCodecs cs).awaitingIntersection = s.awaitingIntersection
      unfold setRemoteCodecs
      by_cases hready : s.ready = true
      · simp only [hready, if_true]
        rfl
      · simp only [hready, if_false, Bool.false_eq_true]
  | ready codecs isInitiator sends =>
      refine hkeep ?_
      show (passRemoteCandidates _).awaitingIntersection = _
      rw [passRemoteCandidates_eq]
      show (setLocalCodecs _ codecs isInitiator).awaitingIntersection = _
      rw [setLocalCodecs_awaiting]
      split_ifs
      · exact firstReady_awaiting s sends
      · rfl
  | setLocalCodecs codecs isInitiator => exact hkeep (setLocalCodecs_awaiting s codecs isInitiator)
  | supportedCodecs codecs =>
      show (s.supportedCodecs codecs).awaitingIntersection = (s.awaitingIntersection && false)
      rw [Bool.and_false]
      unfold supportedCodecs
      by_cases hawaiting : s.awaitingIntersection = true
      · simp only [hawaiting, if_true]
        rfl
      · simp only [hawaiting, if_false, Bool.false_eq_true]
        exact Bool.eq_false_iff.mpr hawaiting
  | codecsUpdated codecs =>
      refine hkeep ?_
      show (s.codecsUpdated codecs).awaitingIntersection = s.awaitingIntersection
      unfold codecsUpdated
      split_ifs
      · rfl
      · rfl
      · exact passLocalCodecs_awaiting s codecs
  | holdState holdState => exact hkeep rfl

theorem negotiated_concat_true :
    Negotiated true (es ++ [e]) ↔ Negotiated true es ∨ offered e ≠ [] := by
  simp only [Negotiated, if_true, List.mem_append, List.mem_singleton, or_and_right, exists_or,
    exists_eq_left]

theorem negotiated_concat_false : Negotiated false (es ++ [e]) ↔ Negotiated false es ∨
    es.filterMap supported = [] ∧ ∃ codecs ∈ supported e, codecs ≠ [] := by
  simp only [Negotiated, if_false, Bool.false_eq_true, List.filterMap_append]
  cases hes : es.filterMap supported with
  | nil => cases he : supported e <;> simp [he]
  | cons codecs rest => simp

/-- The calls that count for a stream that the account has created. -/
theorem or_iff_or_of_accepted_true (hcodecs : s.codecs ≠ [] ↔ Negotiated true es)
    (hawaiting : s.awaitingIntersection = false) (he : Consistent true e) :
    Negotiated true es ∨ (s.accepted e).getD [] ≠ [] ↔ Negotiated true es ∨ offered e ≠ [] := by
  cases e with
  | addRemoteCandidates cs => exact Iff.rfl
  | setRemoteCodecs cs => exact Iff.rfl
  | ready codecs isInitiator sends =>
      obtain rfl : isInitiator = true := he
      exact Iff.rfl
  | setLocalCodecs codecs isInitiator =>
      obtain rfl : isInitiator = true := he
      exact Iff.rfl
  | supportedCodecs codecs =>
      have hnone : s.accepted (.supportedCodecs codecs) = none := by
        simp only [accepted, hawaiting, Bool.false_eq_true, if_false]
      rw [hnone]
      exact Iff.rfl
  | codecsUpdated codecs =>
      by_cases hempty : s.codecs = []
      · rw [show s.accepted (.codecsUpdated codecs) = none from if_pos (Or.inl hempty)]
        exact Iff.rfl
      · exact iff_of_true (Or.inl (hcodecs.mp hempty)) (Or.inl (hcodecs.mp hempty))
  | holdState holdState => exact Iff.rfl

/-- The calls that count for a stream that the peer has created. -/
theorem or_iff_or_of_accepted_false (hcodecs : s.codecs ≠ [] ↔ Negotiated false es)
    (hawaiting : s.awaitingIntersection = (es.filterMap supported).isEmpty)
    (he : Consistent false e) :
    Negotiated false es ∨ (s.accepted e).getD [] ≠ [] ↔ Negotiated false es ∨
      es.filterMap supported = [] ∧ ∃ codecs ∈ supported e, codecs ≠ [] := by
  have hnothing : ∀ p : Prop, supported e = none → s.accepted e = none →
      (p ∨ (s.accepted e).getD [] ≠ [] ↔ p ∨ es.filterMap supported = [] ∧
        ∃ codecs ∈ supported e, codecs ≠ []) := by
    intro p hsupported haccepted
    rw [hsupported, haccepted]
    simp
  cases e with
  | addRemoteCandidates cs => exact hnothing _ rfl rfl
  | setRemoteCodecs cs => exact hnothing _ rfl rfl
  | ready codecs isInitiator sends =>
      obtain rfl : isInitiator = false := he
      exact hnothing _ rfl rfl
  | setLocalCodecs codecs isInitiator =>
      obtain rfl : isInitiator = false := he
      exact hnothing _ rfl rfl
  | supportedCodecs codecs =>
      refine or_congr_right ?_
      cases hes : es.filterMap supported with
      | nil =>
          have hfirst : s.accepted (.supportedCodecs codecs) = some codecs := by
            simp only [accepted, hawaiting, hes, List.isEmpty_nil, if_true]
          rw [hfirst]
          simp [supported]
      | cons first rest =>
          have hlater : s.accepted (.supportedCodecs codecs) = none := by
            simp only [accepted, hawaiting, hes, List.isEmpty_cons, Bool.false_eq_true, if_false]
          rw [hlater]
          simp
  | codecsUpdated codecs =>
      by_cases hempty : s.codecs = []
      · exact hnothing _ rfl (if_pos (Or.inl hempty))
      · exact iff_of_true (Or.inl (hcodecs.mp hempty)) (Or.inl (hcodecs.mp hempty))
  | holdState holdState => exact hnothing _ rfl rfl

/-- **A stream has codecs** just when its client has named one. -/
theorem codecs_ne_nil_iff (mediaType : TpMediaStreamType) (localHold : Bool)
    (hes : ∀ e ∈ es, Consistent createdLocally e) :
    (es.foldl step (new mediaType createdLocally localHold)).codecs ≠ [] ↔
      Negotiated createdLocally es := by
  suffices
      (es.foldl step (new mediaType createdLocally localHold)).awaitingIntersection =
          (!createdLocally && (es.filterMap supported).isEmpty) ∧
        ((es.foldl step (new mediaType createdLocally localHold)).codecs ≠ [] ↔
          Negotiated createdLocally es) from this.2
  induction es using List.reverseRecOn with
  | nil => cases createdLocally <;> simp [new, Negotiated]
  | append_singleton es e ih =>
      obtain ⟨hawaiting, hcodecs⟩ := ih (fun e he => hes e (List.mem_append_left _ he))
      have he := hes e (by simp)
      let s := es.foldl step (new mediaType createdLocally localHold)
      have hgrows : (s.step e).codecs ≠ [] ↔
          Negotiated createdLocally es ∨ (s.accepted e).getD [] ≠ [] := by
        rw [step_codecs, ← hcodecs, ne_eq, List.append_eq_nil_iff, List.map_eq_nil_iff, not_and_or]
      rw [List.foldl_append, List.foldl_cons, List.foldl_nil]
      refine ⟨?_, hgrows.trans ?_⟩
      · rw [step_awaiting, hawaiting, List.filterMap_append]
        cases hsupported : supported e <;> simp [hsupported]
      · cases createdLocally with
        | true =>
            rw [negotiated_concat_true]
            exact or_iff_or_of_accepted_true hcodecs (by simpa using hawaiting) he
        | false =>
            rw [negotiated_concat_false]
            exact or_iff_or_of_accepted_false hcodecs (by simpa using hawaiting) he

end HazeMediaStreamPrivate

/-! ## The backend -/

/-- A stream in the backend, with the events that it has seen. -/
structure CodecStream extends NamedStream where
  createdLocally : Bool
  priv : HazeMediaStreamPrivate
  history : List HazeMediaStreamPrivate.Event
  deriving DecidableEq

instance : BackendStream CodecStream := ⟨CodecStream.toNamedStream⟩

/-- A backend with its streams. -/
abbrev CodecSession := BackendStreams CodecStream

namespace CodecSession

/-- `haze_media_backend_init` -/
def init : CodecSession := BackendStreams.init

/-- `haze_media_stream_new` -/
def hazeMediaStreamNew (type : PurpleMediaSessionType) (initiator : Bool) (stream : NamedStream) :
    CodecStream :=
  { stream with
    createdLocally := initiator
    priv := .new (if type.audio then .audio else .video) initiator false
    history := [] }

/-- `haze_media_backend_add_stream` -/
def addStream (s : CodecSession) (sid : String) (type : PurpleMediaSessionType)
    (initiator : Bool) : CodecSession :=
  BackendStreams.addStream s sid type (hazeMediaStreamNew type initiator)

/-- Something happens to a stream, if there is one. -/
def handle (s : CodecSession) (e : HazeMediaStreamPrivate.Event) :
    Option CodecStream → CodecSession
  | none => s
  | some stream =>
      s.setStream { stream with priv := stream.priv.step e, history := stream.history ++ [e] }

/-- `haze_media_backend_add_remote_candidates` -/
def addRemoteCandidates (s : CodecSession) (sid : String)
    (remoteCandidates : List PurpleMediaCandidate) : CodecSession :=
  s.handle (.addRemoteCandidates remoteCandidates) (s.getStreamByName sid)

/-- `haze_media_backend_set_remote_codecs` -/
def setRemoteCodecs (s : CodecSession) (sid : String) (codecs : List PurpleMediaCodec) :
    CodecSession :=
  s.handle (.setRemoteCodecs codecs) (s.getStreamByName sid)

/-- The streaming client calls a method of the stream. -/
def client (s : CodecSession) (id : Nat) (e : HazeMediaStreamPrivate.Event) : CodecSession :=
  s.handle e (s.streams.find? (fun stream => stream.id = id))

/-- The loop of `haze_media_backend_codecs_ready`. -/
def allReady : List CodecStream → Bool
  | [] => true
  | stream :: streams => if !stream.priv.codecsReady then false else allReady streams

/-- `haze_media_backend_codecs_ready` -/
def codecsReady (s : CodecSession) : Option String → Bool
  | some sid =>
      match s.getStreamByName sid with
      | some stream => stream.priv.codecsReady
      | none => false
  | none => allReady s.streams

/-- What happens to a backend: libpurple adds streams, reports states and passes on what the peer
says; the streaming clients call their streams. -/
inductive Event where
  | addStream (sid : String) (type : PurpleMediaSessionType) (initiator : Bool)
  | stateChanged (state : PurpleMediaState) (sid name : Option String)
  | addRemoteCandidates (sid : String) (remoteCandidates : List PurpleMediaCandidate)
  | setRemoteCodecs (sid : String) (codecs : List PurpleMediaCodec)
  | client (id : Nat) (e : HazeMediaStreamPrivate.Event)

/-- `purple_media_is_initiator` says of a stream what it was created with. -/
def Legal (s : CodecSession) : Event → Prop
  | .client id e => ∀ stream ∈ s.streams, stream.id = id →
      HazeMediaStreamPrivate.Consistent stream.createdLocally e
  | _ => True

instance (s : CodecSession) : DecidablePred (Legal s)
  | .client id e => inferInstanceAs (Decidable (∀ stream ∈ s.streams, stream.id = id →
      HazeMediaStreamPrivate.Consistent stream.createdLocally e))
  | .addStream _ _ _ => isTrue trivial
  | .stateChanged _ _ _ => isTrue trivial
  | .addRemoteCandidates _ _ => isTrue trivial
  | .setRemoteCodecs _ _ => isTrue trivial

end CodecSession

/-- The streams of a backend and their clients as a machine. No step fails: memory is not modelled,
so neither is the use of a codec's parameters after they were freed with the table that they were
passed in. -/
def codecSessions : Machine CodecSession CodecSession.Event Empty where
  step
    | s, .addStream sid type initiator => .ok (s.addStream sid type initiator)
    | s, .stateChanged state sid name => .ok (s.stateChangedCb state sid name)
    | s, .addRemoteCandidates sid remoteCandidates =>
        .ok (s.addRemoteCandidates sid remoteCandidates)
    | s, .setRemoteCodecs sid codecs => .ok (s.setRemoteCodecs sid codecs)
    | s, .client id e => .ok (s.client id e)

namespace CodecSession

open HazeMediaStreamPrivate (Consistent Negotiated)

variable {s s' : CodecSession} {stream : CodecStream} {e : Event}

/-- The stream is what its history has made of it. -/
structure Historic (stream : CodecStream) : Prop where
  priv : ∃ mediaType, stream.priv = stream.history.foldl HazeMediaStreamPrivate.step
    (.new mediaType stream.createdLocally false)
  consistent : ∀ e ∈ stream.history, Consistent stream.createdLocally e

theorem Historic.codecsReady_iff (h : Historic stream) :
    stream.priv.codecsReady = true ↔ Negotiated stream.createdLocally stream.history := by
  obtain ⟨mediaType, hpriv⟩ := h.priv
  rw [← HazeMediaStreamPrivate.codecs_ne_nil_iff mediaType false h.consistent, ← hpriv,
    HazeMediaStreamPrivate.codecsReady, Bool.not_eq_true', ← Bool.not_eq_true, List.isEmpty_iff]

theorem allReady_iff (streams : List CodecStream) :
    allReady streams = true ↔ ∀ stream ∈ streams, stream.priv.codecsReady = true := by
  induction streams with
  | nil => simp [allReady]
  | cons stream streams ih =>
      rw [allReady, List.forall_mem_cons, ← ih]
      cases stream.priv.codecsReady <;> simp

theorem historic_handle (h : ∀ stream ∈ s.streams, Historic stream)
    {found : Option CodecStream} {e : HazeMediaStreamPrivate.Event}
    (hfound : ∀ stream ∈ found, stream ∈ s.streams ∧ Consistent stream.createdLocally e) :
    ∀ stream ∈ (s.handle e found).streams, Historic stream := by
  cases found with
  | none => exact h
  | some stream =>
      obtain ⟨hmem, he⟩ := hfound stream rfl
      obtain ⟨⟨mediaType, hpriv⟩, hconsistent⟩ := h stream hmem
      intro other hother
      rcases BackendStreams.mem_setStream hother with rfl | ⟨hold, -⟩
      · refine ⟨⟨mediaType, ?_⟩, fun e' he' => ?_⟩
        · show stream.priv.step e = (stream.history ++ [e]).foldl HazeMediaStreamPrivate.step _
          rw [List.foldl_append, ← hpriv]
          rfl
        · rcases List.mem_append.mp he' with he' | he'
          · exact hconsistent e' he'
          · rw [List.mem_singleton.mp he']
            exact he
      · exact h other hold

theorem historic_step (h : ∀ stream ∈ s.streams, Historic stream) (hlegal : Legal s e)
    (hstep : codecSessions.step s e = .ok s') : ∀ stream ∈ s'.streams, Historic stream := by
  cases e with
  | addStream sid type initiator =>
      cases hstep
      intro stream hmem
      rcases BackendStreams.mem_addStream.mp hmem with hold | rfl
      · exact h stream hold
      · exact ⟨⟨_, rfl⟩, fun e he => by cases he⟩
  | stateChanged state sid name =>
      cases hstep
      exact fun stream hmem => h stream (BackendStreams.mem_of_mem_stateChangedCb hmem)
  | addRemoteCandidates sid remoteCandidates =>
      cases hstep
      exact historic_handle h (fun stream hfound => ⟨List.mem_of_find?_eq_some hfound, trivial⟩)
  | setRemoteCodecs sid codecs =>
      cases hstep
      exact historic_handle h (fun stream hfound => ⟨List.mem_of_find?_eq_some hfound, trivial⟩)
  | client id e =>
      cases hstep
      refine historic_handle h (fun stream hfound => ?_)
      have hmem := List.mem_of_find?_eq_some hfound
      exact ⟨hmem, hlegal stream hmem (by simpa using List.find?_some hfound)⟩

/-- **What libpurple hears of the codecs**: those of a call are ready just when the client of every
stream has named one, and those of a session when the client of its stream has. -/
theorem codecsReady_iff_negotiated (events : List Event)
    (hlegal : codecSessions.Meets Legal init events)
    (hrun : codecSessions.run init events = .ok s) :
    (s.codecsReady none = true ↔
      ∀ stream ∈ s.streams, Negotiated stream.createdLocally stream.history) ∧
    ∀ sid, s.codecsReady (some sid) = true ↔
      ∃ stream ∈ s.getStreamByName sid, Negotiated stream.createdLocally stream.history := by
  have hhistoric : ∀ stream ∈ s.streams, Historic stream :=
    Machine.run_invariant (fun _ _ _ h hlegal hstep => historic_step h hlegal hstep)
      (by simp [init, BackendStreams.init]) hlegal hrun
  constructor
  · show allReady s.streams = true ↔ _
    rw [allReady_iff]
    exact forall₂_congr (fun stream hmem => (hhistoric stream hmem).codecsReady_iff)
  · intro sid
    cases hfind : s.getStreamByName sid with
    | none => simp [codecsReady, hfind]
    | some stream =>
        have hmem : stream ∈ s.streams := List.mem_of_find?_eq_some hfind
        simp only [codecsReady, hfind, (hhistoric stream hmem).codecsReady_iff, Option.mem_def,
          Option.some.injEq, exists_eq_left']

/-- A call with sound from the account and pictures from the peer, whose client first shares no
codec and then one: that one does not count. -/
def soundAndPictures : List Event :=
  let codec : Codec := ⟨96, "THEORA", .video, 90000, 0, []⟩
  [.addStream "audio" ⟨true, false⟩ true, .addStream "video" ⟨false, true⟩ false,
    .client 1 (.ready [⟨0, "PCMU", .audio, 8000, 1, []⟩] true true),
    .client 2 (.ready [codec] false true), .client 2 (.supportedCodecs []),
    .client 2 (.supportedCodecs [codec])]

theorem codecsReady_soundAndPictures :
    ∃ s, codecSessions.run init soundAndPictures = .ok s ∧ s.codecsReady none = false ∧
      s.codecsReady (some "audio") = true := by
  obtain ⟨hall, hone⟩ := codecsReady_iff_negotiated soundAndPictures (by decide) rfl
  refine ⟨_, rfl, ?_, ?_⟩
  · rw [← Bool.not_eq_true, hall]
    decide
  · rw [hone]
    decide

end CodecSession

end Haze
