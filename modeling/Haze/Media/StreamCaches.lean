import Haze.Media.StreamHandler

set_option autoImplicit false

/-! # What a media stream passes on

The list of remote candidates is walked from its beginning whenever candidates are passed on,
and the list of local codecs is only ever added to. So each is right as long as what is added
to has been empty before.
-/

namespace Haze

namespace HazeMediaStreamPrivate

/-! ## Remote candidates -/

/-- An AddRemoteCandidate signal. -/
def isCandidate : StreamSignal → Bool
  | .addRemoteCandidate _ _ => true
  | _ => false

/-- The AddRemoteCandidate signals that were emitted. -/
def passed (s : HazeMediaStreamPrivate) : List StreamSignal := s.signals.filter isCandidate

/-- The candidates that libpurple adds with the event. -/
def addedBy : Event → List PurpleMediaCandidate
  | .addRemoteCandidates remoteCandidates => remoteCandidates
  | _ => []

/-- The streaming client calls Ready. -/
def isReady : Event → Bool
  | .ready _ _ _ => true
  | _ => false

/-- The candidates added so far. -/
def added (es : List Event) : List PurpleMediaCandidate := es.flatMap addedBy

/-- Once Ready has been called, each candidate added so far has been passed on once, in order;
before that nothing has. -/
def PassedOnce (es : List Event) (s : HazeMediaStreamPrivate) : Prop :=
  s.passed = if es.any isReady then (added es).map candidateSignal else []

/-- The event makes the stream pass its candidates on. -/
def Passes (s : HazeMediaStreamPrivate) : Event → Prop
  | .addRemoteCandidates _ => s.ready = true
  | .ready _ _ _ => True
  | _ => False

instance (s : HazeMediaStreamPrivate) (e : Event) : Decidable (s.Passes e) := by
  cases e <;> unfold Passes <;> infer_instance

/-- What is passed on has not been passed on before: a stream that is ready has no candidate
when it passes its candidates on. -/
def PassesNew (s : HazeMediaStreamPrivate) (e : Event) : Prop :=
  s.Passes e → s.ready = true → s.remoteCandidates = []

/-- The two streams have the same candidates, and have passed the same on. -/
structure SameCandidates (s t : HazeMediaStreamPrivate) : Prop where
  remoteCandidates : t.remoteCandidates = s.remoteCandidates
  ready : t.ready = s.ready
  passed : t.passed = s.passed

theorem SameCandidates.refl (s : HazeMediaStreamPrivate) : SameCandidates s s := ⟨rfl, rfl, rfl⟩

theorem SameCandidates.trans {s t u : HazeMediaStreamPrivate} (h : SameCandidates s t)
    (h' : SameCandidates t u) : SameCandidates s u where
  remoteCandidates := h'.remoteCandidates.trans h.remoteCandidates
  ready := h'.ready.trans h.ready
  passed := h'.passed.trans h.passed

theorem SameCandidates.ite {s t u : HazeMediaStreamPrivate} {b : Prop} [Decidable b]
    (h : SameCandidates s t) (h' : SameCandidates s u) :
    SameCandidates s (if b then t else u) := by
  split_ifs
  · exact h
  · exact h'

theorem sameCandidates_emit (s : HazeMediaStreamPrivate) {signal : StreamSignal}
    (h : isCandidate signal = false) : SameCandidates s (s.emit signal) where
  remoteCandidates := rfl
  ready := rfl
  passed := by
    show (s.signals ++ [signal]).filter isCandidate = s.signals.filter isCandidate
    rw [List.filter_append, List.filter_singleton, h]
    exact List.append_nil _

theorem sameCandidates_passLocalCodecs (s : HazeMediaStreamPrivate) (codecs : List Codec) :
    SameCandidates s (s.passLocalCodecs codecs) := by
  unfold passLocalCodecs
  induction codecs generalizing s with
  | nil => exact .refl s
  | cons c codecs ih =>
      have hone : SameCandidates s
          (({ s with codecs := s.codecs ++ [s.localCodec c] } : HazeMediaStreamPrivate).emit
            .codecsChanged) := by
        have hsame : SameCandidates s { s with codecs := s.codecs ++ [s.localCodec c] } :=
          ⟨rfl, rfl, rfl⟩
        exact hsame.trans (sameCandidates_emit _ rfl)
      exact hone.trans (ih _)

theorem sameCandidates_setLocalCodecs (s : HazeMediaStreamPrivate) (codecs : List Codec)
    (isInitiator : Bool) : SameCandidates s (s.setLocalCodecs codecs isInitiator) := by
  unfold setLocalCodecs
  cases isInitiator
  · exact sameCandidates_emit s rfl
  · exact (sameCandidates_passLocalCodecs s codecs).trans (sameCandidates_emit _ rfl)

theorem sameCandidates_supportedCodecs (s : HazeMediaStreamPrivate) (codecs : List Codec) :
    SameCandidates s (s.supportedCodecs codecs) := by
  unfold supportedCodecs
  have hone : SameCandidates s (if s.awaitingIntersection then
      { s.passLocalCodecs codecs with awaitingIntersection := false } else s) := by
    split_ifs
    · have hpass := sameCandidates_passLocalCodecs s codecs
      exact ⟨hpass.remoteCandidates, hpass.ready, hpass.passed⟩
    · exact .refl s
  exact hone.trans (sameCandidates_emit _ rfl)

theorem sameCandidates_codecsUpdated (s : HazeMediaStreamPrivate) (codecs : List Codec) :
    SameCandidates s (s.codecsUpdated codecs) := by
  unfold codecsUpdated
  split_ifs
  · exact sameCandidates_emit s rfl
  · exact sameCandidates_emit s rfl
  · exact (sameCandidates_passLocalCodecs s codecs).trans (sameCandidates_emit _ rfl)

theorem sameCandidates_passRemoteCodecs (s : HazeMediaStreamPrivate) :
    SameCandidates s s.passRemoteCodecs := sameCandidates_emit s rfl

theorem sameCandidates_setRemoteCodecs (s : HazeMediaStreamPrivate)
    (codecs : List PurpleMediaCodec) : SameCandidates s (s.setRemoteCodecs codecs) := by
  unfold setRemoteCodecs
  have hone : SameCandidates s { s with remoteCodecs := codecs } := ⟨rfl, rfl, rfl⟩
  by_cases hready : s.ready = true
  · rw [if_pos hready]
    exact hone.trans (sameCandidates_passRemoteCodecs _)
  · rw [if_neg hready]
    exact hone

/-- All candidates of the list are passed on. -/
theorem passRemoteCandidates_eq (s : HazeMediaStreamPrivate) :
    s.passRemoteCandidates =
      { s with signals := s.signals ++ s.remoteCandidates.map candidateSignal } := by
  suffices ∀ (l : List PurpleMediaCandidate) (s : HazeMediaStreamPrivate),
      l.foldl (fun s c => s.emit (candidateSignal c)) s =
        { s with signals := s.signals ++ l.map candidateSignal } from this _ s
  intro l
  induction l with
  | nil => intro s; simp
  | cons c l ih =>
      intro s
      rw [List.foldl_cons, ih, List.map_cons]
      simp [emit]

theorem passed_passRemoteCandidates (s : HazeMediaStreamPrivate) :
    s.passRemoteCandidates.passed = s.passed ++ s.remoteCandidates.map candidateSignal := by
  rw [passRemoteCandidates_eq]
  show (s.signals ++ s.remoteCandidates.map candidateSignal).filter isCandidate = _
  have hall : ∀ signal ∈ s.remoteCandidates.map candidateSignal, isCandidate signal = true := by
    intro signal hsignal
    obtain ⟨c, -, rfl⟩ := List.mem_map.mp hsignal
    rfl
  rw [List.filter_append, List.filter_eq_self.mpr hall]
  rfl

/-- What Ready does before the caches are walked. -/
theorem sameCandidates_firstReady (s : HazeMediaStreamPrivate) (sends : Bool) :
    SameCandidates { s with ready := true } (s.firstReady sends) := by
  unfold firstReady
  have hplaying : SameCandidates { s with ready := true }
      (({ s with ready := true } : HazeMediaStreamPrivate).emit (.setStreamPlaying true)) :=
    sameCandidates_emit _ rfl
  have hsending := SameCandidates.ite (b := sends = true)
    (hplaying.trans (@sameCandidates_emit _ (.setStreamSending true) rfl)) hplaying
  exact SameCandidates.ite (hsending.trans (sameCandidates_emit _ rfl)) hsending

/-- **What a step does with the candidates.** -/
theorem step_candidates (s : HazeMediaStreamPrivate) (e : Event) :
    (s.step e).remoteCandidates = s.remoteCandidates ++ addedBy e ∧
      (s.step e).ready = (s.ready || isReady e) ∧
      (s.step e).passed = s.passed ++
        if s.Passes e then (s.remoteCandidates ++ addedBy e).map candidateSignal else [] := by
  have hsame : ∀ {t}, SameCandidates s t → t.remoteCandidates = s.remoteCandidates ++ [] ∧
      t.ready = (s.ready || false) ∧ t.passed = s.passed ++ [] := by
    intro t h
    rw [List.append_nil, Bool.or_false, List.append_nil]
    exact ⟨h.remoteCandidates, h.ready, h.passed⟩
  cases e with
  | addRemoteCandidates cs =>
      show (s.addRemoteCandidates cs).remoteCandidates = _ ∧ (s.addRemoteCandidates cs).ready = _ ∧
        (s.addRemoteCandidates cs).passed = s.passed ++ if s.ready = true then _ else _
      unfold addRemoteCandidates
      by_cases hready : s.ready = true
      · simp only [hready, if_true]
        refine ⟨?_, ?_, passed_passRemoteCandidates _⟩
        · rw [passRemoteCandidates_eq]
          rfl
        · rw [passRemoteCandidates_eq]
          rfl
      · simp only [hready, if_false, Bool.false_eq_true]
        exact ⟨rfl, rfl, (List.append_nil _).symm⟩
  | setRemoteCodecs cs => exact hsame (sameCandidates_setRemoteCodecs s cs)
  | ready codecs isInitiator sends =>
      have hfirst : SameCandidates { s with ready := true }
          (if s.ready = false then s.firstReady sends else s) := by
        by_cases hready : s.ready = false
        · rw [if_pos hready]
          exact sameCandidates_firstReady s sends
        · rw [if_neg hready]
          exact ⟨rfl, by simpa using hready, rfl⟩
      have hbefore := (hfirst.trans (sameCandidates_setLocalCodecs _ codecs isInitiator)).trans
        (sameCandidates_passRemoteCodecs _)
      show (passRemoteCandidates _).remoteCandidates = s.remoteCandidates ++ [] ∧
        (passRemoteCandidates _).ready = (s.ready || true) ∧
        (passRemoteCandidates _).passed = s.passed ++ if True then _ else _
      refine ⟨?_, ?_, ?_⟩
      · rw [passRemoteCandidates_eq, List.append_nil]
        exact hbefore.remoteCandidates
      · rw [passRemoteCandidates_eq, Bool.or_true]
        exact hbefore.ready
      · rw [passed_passRemoteCandidates, if_pos trivial]
        show _ = s.passed ++ (s.remoteCandidates ++ []).map candidateSignal
        rw [List.append_nil]
        exact congrArg₂ (· ++ List.map candidateSignal ·) hbefore.passed hbefore.remoteCandidates
  | setLocalCodecs codecs isInitiator =>
      exact hsame (sameCandidates_setLocalCodecs s codecs isInitiator)
  | supportedCodecs codecs => exact hsame (sameCandidates_supportedCodecs s codecs)
  | codecsUpdated codecs => exact hsame (sameCandidates_codecsUpdated s codecs)
  | holdState holdState =>
      have hone : SameCandidates s { s with localHold := holdState } := ⟨rfl, rfl, rfl⟩
      exact hsame (hone.trans (sameCandidates_emit _ rfl))

/-- The stream keeps all candidates added so far, and knows whether it is ready. -/
def Tracks (es : List Event) (s : HazeMediaStreamPrivate) : Prop :=
  s.remoteCandidates = added es ∧ s.ready = es.any isReady

theorem Tracks.step {es : List Event} {s : HazeMediaStreamPrivate} (h : Tracks es s) (e : Event) :
    Tracks (es ++ [e]) (s.step e) := by
  obtain ⟨hcandidates, hready, -⟩ := step_candidates s e
  constructor
  · rw [hcandidates, h.1]
    simp [added]
  · rw [hready, h.2]
    simp

/-- A step keeps the candidates passed on once when it passes on what is new. -/
theorem passedOnce_step_iff {es : List Event} {s : HazeMediaStreamPrivate} (h : Tracks es s)
    (hpassed : PassedOnce es s) (e : Event) :
    PassedOnce (es ++ [e]) (s.step e) ↔ s.PassesNew e := by
  obtain ⟨hcandidates, hready, hstep⟩ := step_candidates s e
  have htracks := h.step e
  unfold PassedOnce at hpassed ⊢
  rw [← htracks.1, ← htracks.2, hcandidates, hready, hstep, hpassed, ← h.1, ← h.2]
  by_cases hpasses : s.Passes e
  · -- the whole list is passed on, after what has been passed on before
    have hready' : (s.ready || isReady e) = true := by
      cases e <;> simp_all [Passes, isReady]
    rw [if_pos hpasses, hready', if_pos rfl]
    unfold PassesNew
    by_cases hs : s.ready = true
    · simp [hs, hpasses]
    · simp [hs]
  · -- nothing is passed on, and what is added waits for Ready
    rw [if_neg hpasses, List.append_nil]
    have hnew : s.PassesNew e := fun hp => absurd hp hpasses
    simp only [hnew, iff_true]
    cases e <;> simp_all [Passes, isReady, addedBy]

theorem mediaStreams_total (s : HazeMediaStreamPrivate) (e : Event) :
    ∃ s', mediaStreams.step s e = .ok s' := ⟨s.step e, rfl⟩

theorem tracks_new (mediaType : TpMediaStreamType) (createdLocally localHold : Bool) :
    Tracks [] (new mediaType createdLocally localHold) := ⟨rfl, rfl⟩

theorem tracks_run {mediaType : TpMediaStreamType} {createdLocally localHold : Bool}
    {es : List Event} {s : HazeMediaStreamPrivate}
    (h : mediaStreams.run (new mediaType createdLocally localHold) es = .ok s) : Tracks es s := by
  have hmeets : mediaStreams.Meets (fun _ _ => True)
      (new mediaType createdLocally localHold) es :=
    Machine.meets_of_forall (fun _ _ => trivial) _
  refine Machine.run_history (I := Tracks) ?_ (tracks_new ..) hmeets h
  intro es s e s' htracks _ hstep
  cases hstep
  exact htracks.step e

/-- **When the remote candidates are passed on exactly once**: in a run of a stream, at every
moment each candidate added so far has been passed on once, in order, if Ready has been called,
and nothing has been otherwise, if and only if the stream never passes candidates on when it is
ready and has candidates already. -/
theorem candidates_passed_once_iff (mediaType : TpMediaStreamType)
    (createdLocally localHold : Bool) (es : List Event) :
    (∀ es₁ es₂ s, es = es₁ ++ es₂ →
        mediaStreams.run (new mediaType createdLocally localHold) es₁ = .ok s →
        PassedOnce es₁ s) ↔
      mediaStreams.Meets PassesNew (new mediaType createdLocally localHold) es := by
  have hiff : (∀ es₁ es₂ s, es = es₁ ++ es₂ →
      mediaStreams.run (new mediaType createdLocally localHold) es₁ = .ok s →
      Tracks es₁ s ∧ PassedOnce es₁ s) ↔
        mediaStreams.Meets PassesNew (new mediaType createdLocally localHold) es := by
    refine Machine.forall_prefix_iff_meets mediaStreams_total ?_ ⟨tracks_new .., rfl⟩
    rintro es s e s' ⟨htracks, hpassed⟩ hstep
    cases hstep
    rw [← passedOnce_step_iff htracks hpassed e]
    exact and_iff_right (htracks.step e)
  rw [← hiff]
  constructor
  · intro h es₁ es₂ s heq hrun
    exact ⟨tracks_run hrun, h es₁ es₂ s heq hrun⟩
  · intro h es₁ es₂ s heq hrun
    exact (h es₁ es₂ s heq hrun).2

/-- A candidate of the peer. -/
def aCandidate (foundation : String) : PurpleMediaCandidate where
  foundation := foundation
  componentId := 1
  ip := "192.0.2.1"
  port := 5000
  protocol := .udp
  candidateType := .host
  priority := 100
  username := none
  password := none

/-- A second batch after Ready: the first one is passed on again. -/
theorem candidate_passed_twice :
    ∃ s, mediaStreams.run (new .audio true false)
        [.ready [] true true, .addRemoteCandidates [aCandidate "1"],
          .addRemoteCandidates [aCandidate "2"]] = .ok s ∧
      s.passed = [candidateSignal (aCandidate "1"), candidateSignal (aCandidate "1"),
        candidateSignal (aCandidate "2")] ∧
      ¬ PassedOnce [.ready [] true true, .addRemoteCandidates [aCandidate "1"],
          .addRemoteCandidates [aCandidate "2"]] s := by
  refine ⟨_, rfl, by decide, ?_⟩
  unfold PassedOnce
  decide

/-! ## Local codecs -/

/-- The codecs of the call, when it is accepted and is not ignored: Ready and SetLocalCodecs are
for the initiator, SupportedCodecs is for a stream that awaits the intersection, and
CodecsUpdated for one that does not and has codecs. -/
def accepted (s : HazeMediaStreamPrivate) : Event → Option (List Codec)
  | .ready codecs isInitiator _ => if isInitiator then some codecs else none
  | .setLocalCodecs codecs isInitiator => if isInitiator then some codecs else none
  | .supportedCodecs codecs => if s.awaitingIntersection then some codecs else none
  | .codecsUpdated codecs =>
      if s.codecs = [] ∨ s.awaitingIntersection then none else some codecs
  | _ => none

/-- After a call that is accepted the cached codecs are those of the call; otherwise they are
what they were. -/
def CachesLatest (s : HazeMediaStreamPrivate) (e : Event) : Prop :=
  (s.step e).getCodecs =
    match s.accepted e with
    | some codecs => codecs.map s.localCodec
    | none => s.getCodecs

/-- The call finds the cache empty, if it is accepted. -/
def FindsEmpty (s : HazeMediaStreamPrivate) (e : Event) : Prop :=
  s.accepted e ≠ none → s.codecs = []

/-- **The cache is added to.** -/
theorem passLocalCodecs_codecs (s : HazeMediaStreamPrivate) (codecs : List Codec) :
    (s.passLocalCodecs codecs).codecs = s.codecs ++ codecs.map s.localCodec := by
  unfold passLocalCodecs
  induction codecs generalizing s with
  | nil => simp
  | cons c codecs ih =>
      rw [List.foldl_cons, ih, List.map_cons]
      -- the type of the codecs is that of the stream
      show (s.codecs ++ [s.localCodec c]) ++ codecs.map s.localCodec = _
      rw [List.append_assoc, List.singleton_append]

theorem setLocalCodecs_codecs (s : HazeMediaStreamPrivate) (codecs : List Codec)
    (isInitiator : Bool) :
    (s.setLocalCodecs codecs isInitiator).codecs =
      s.codecs ++ if isInitiator then codecs.map s.localCodec else [] := by
  unfold setLocalCodecs
  cases isInitiator
  · exact (List.append_nil _).symm
  · exact passLocalCodecs_codecs s codecs

/-- Before the caches are walked Ready leaves the codecs alone. -/
theorem firstReady_codecs (s : HazeMediaStreamPrivate) (sends : Bool) :
    (s.firstReady sends).codecs = s.codecs ∧
      (s.firstReady sends).mediaType = s.mediaType := by
  unfold firstReady
  cases sends <;> simp only [emit, if_true, if_false, Bool.false_eq_true] <;>
    split_ifs <;> exact ⟨rfl, rfl⟩

/-- What a step does with the cached codecs. -/
theorem step_codecs (s : HazeMediaStreamPrivate) (e : Event) :
    (s.step e).codecs = s.codecs ++ ((s.accepted e).getD []).map s.localCodec := by
  have hsame : ∀ {l : List PurpleMediaCodec}, l = s.codecs → l = s.codecs ++ [] := by
    intro l h
    rw [h, List.append_nil]
  cases e with
  | addRemoteCandidates cs =>
      refine hsame ?_
      show (s.addRemoteCandidates cs).codecs = s.codecs
      unfold addRemoteCandidates
      by_cases hready : s.ready = true
      · simp only [hready, if_true, passRemoteCandidates_eq]
      · simp only [hready, if_false, Bool.false_eq_true]
  | setRemoteCodecs cs =>
      refine hsame ?_
      show (s.setRemoteCodecs cs).codecs = s.codecs
      unfold setRemoteCodecs
      by_cases hready : s.ready = true
      · simp only [hready, if_true]
        rfl
      · simp only [hready, if_false, Bool.false_eq_true]
  | ready codecs isInitiator sends =>
      have hfirst : (if s.ready = false then s.firstReady sends else s).codecs = s.codecs ∧
          (if s.ready = false then s.firstReady sends else s).mediaType = s.mediaType := by
        split_ifs
        · exact firstReady_codecs s sends
        · exact ⟨rfl, rfl⟩
      have hlocal : ∀ c, (if s.ready = false then s.firstReady sends else s).localCodec c =
          s.localCodec c := by
        intro c
        unfold localCodec
        rw [hfirst.2]
      show (passRemoteCandidates _).codecs = _
      rw [passRemoteCandidates_eq]
      show (setLocalCodecs _ codecs isInitiator).codecs = _
      rw [setLocalCodecs_codecs, hfirst.1, funext hlocal]
      cases isInitiator <;> rfl
  | setLocalCodecs codecs isInitiator =>
      show (s.setLocalCodecs codecs isInitiator).codecs = _
      rw [setLocalCodecs_codecs]
      cases isInitiator <;> rfl
  | supportedCodecs codecs =>
      show (s.supportedCodecs codecs).codecs = _
      have haccepted : s.accepted (.supportedCodecs codecs) =
          if s.awaitingIntersection then some codecs else none := rfl
      rw [haccepted]
      unfold supportedCodecs
      by_cases hawaiting : s.awaitingIntersection = true
      · rw [if_pos hawaiting, if_pos hawaiting]
        exact passLocalCodecs_codecs s codecs
      · rw [if_neg hawaiting, if_neg hawaiting]
        exact hsame rfl
  | codecsUpdated codecs =>
      show (s.codecsUpdated codecs).codecs = _
      have haccepted : s.accepted (.codecsUpdated codecs) =
          if s.codecs = [] ∨ s.awaitingIntersection then none else some codecs := rfl
      rw [haccepted]
      unfold codecsUpdated
      by_cases hempty : s.codecs = []
      · rw [if_pos hempty, if_pos (Or.inl hempty)]
        exact hsame rfl
      · rw [if_neg hempty]
        by_cases hawaiting : s.awaitingIntersection = true
        · rw [if_pos hawaiting, if_pos (Or.inr hawaiting)]
          exact hsame rfl
        · rw [if_neg hawaiting, if_neg (not_or.mpr ⟨hempty, hawaiting⟩)]
          exact passLocalCodecs_codecs s codecs
  | holdState holdState => exact hsame rfl

/-- A step caches the latest codecs when it finds none of earlier calls. -/
theorem cachesLatest_iff (s : HazeMediaStreamPrivate) (e : Event) :
    s.CachesLatest e ↔ s.FindsEmpty e := by
  unfold CachesLatest FindsEmpty getCodecs
  rw [step_codecs]
  cases haccepted : s.accepted e with
  | none => simp
  | some codecs =>
      show s.codecs ++ codecs.map s.localCodec = codecs.map s.localCodec ↔ _
      rw [List.append_left_eq_self]
      simp

/-- **When the cached local codecs are the latest ones**: in a run of a stream every call that is
accepted leaves exactly its codecs, and every other event leaves the codecs as they were, if and
only if every call that is accepted finds no codecs of earlier calls. -/
theorem codecs_latest_iff (s : HazeMediaStreamPrivate) (es : List Event) :
    mediaStreams.Meets CachesLatest s es ↔ mediaStreams.Meets FindsEmpty s es :=
  Machine.meets_congr cachesLatest_iff s es

/-- A codec of the streaming client. -/
def aCodec (name : String) : Codec where
  id := 96
  name := name
  mediaType := .audio
  clockRate := 8000
  channels := 1
  params := []

/-- An update of the codecs of a stream that was created locally: the old codec stays. -/
theorem codecs_of_earlier_call :
    ¬ mediaStreams.Meets CachesLatest (new .audio true false)
        [.ready [aCodec "PCMU"] true true, .codecsUpdated [aCodec "PCMA"]] ∧
      ∃ s, mediaStreams.run (new .audio true false)
          [.ready [aCodec "PCMU"] true true, .codecsUpdated [aCodec "PCMA"]] = .ok s ∧
        s.getCodecs.map PurpleMediaCodec.encodingName = ["PCMU", "PCMA"] := by
  constructor
  · rintro ⟨-, hupdated, -⟩
    exact absurd hupdated (by unfold CachesLatest; decide)
  · exact ⟨_, rfl, by decide⟩

end HazeMediaStreamPrivate

end Haze
