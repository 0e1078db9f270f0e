import Haze.Media.StreamCaches
import Mathlib.Data.Multiset.Bind
import Mathlib.Tactic.NormNum

set_option autoImplicit false

/-! # The candidates of a media stream

The streaming client finds candidates and gives them to its stream, which hands them to libpurple;
what libpurple has from the peer goes to the client (`StreamHandler`). So a candidate that one
client gives is turned into a `PurpleMediaCandidate` by its own Haze, and back again by the Haze of
the peer. In the end each client names the pair of candidates that is used, and libpurple is told of
it for each component.
-/

namespace Haze

/-! ## A transport of the client -/

/-- A `Media_Stream_Handler_Transport` as a streaming client gives it. -/
structure NativeTransport where
  component : Nat
  address : String
  port : Nat
  proto : Nat
  subtype : String
  profile : String
  preference : Rat
  type : Nat
  username : String
  password : String
  /-- The preference is cast to `guint`, which C defines for such numbers only. -/
  fits : 0 ≤ preference ∧ preference < 2 ^ 32

namespace NativeTransport

/-- The type of a transport, "Unknown candidate type" a host. -/
def candidateType (t : NativeTransport) : PurpleMediaCandidateType :=
  if t.type = 0 then .host
  else if t.type = 1 then .srflx
  else if t.type = 2 then .relay
  else .host

/-- The protocol of a transport, "Unknown network protocol" UDP. -/
def protocol (t : NativeTransport) : PurpleMediaNetworkProtocol :=
  if t.proto = 0 then .udp
  else if t.proto = 1 then .tcp
  else .udp

/-- One round of `haze_media_stream_new_native_candidate`. -/
def toCandidate (candidateId : String) (t : NativeTransport) : PurpleMediaCandidate where
  foundation := candidateId
  componentId := t.component
  ip := t.address
  port := t.port
  protocol := t.protocol
  candidateType := t.candidateType
  priority := t.preference.floor.toNat
  username := some t.username
  password := some t.password

/-- A transport at the client of the peer. -/
def carried (t : NativeTransport) : Transport where
  component := t.component
  address := t.address
  port := t.port
  protocol := if t.proto = 1 then .tcp else .udp
  subtype := "RTP"
  profile := "AVP"
  preference := t.preference.floor.toNat
  type := if t.type = 1 then .derived else if t.type = 2 then .relay else .local
  username := some t.username
  password := some t.password

end NativeTransport

/-! ## The stream -/

/-- What libpurple hears of a stream's candidates. -/
inductive BackendSignal where
  /-- "new-candidate" -/
  | newCandidate (c : PurpleMediaCandidate)
  /-- "candidates-prepared" -/
  | candidatesPrepared
  /-- "active-candidate-pair" -/
  | activeCandidatePair (lc rc : PurpleMediaCandidate)
  deriving DecidableEq

/-- A media stream with its local candidates. -/
structure CandidateStream extends HazeMediaStreamPrivate where
  localCandidates : List PurpleMediaCandidate := []
  /-- what libpurple has heard -/
  backendSignals : List BackendSignal := []

namespace CandidateStream

/-- `haze_media_stream_new` -/
def new (mediaType : TpMediaStreamType) (createdLocally localHold : Bool) : CandidateStream where
  toHazeMediaStreamPrivate := HazeMediaStreamPrivate.new mediaType createdLocally localHold

/-- `haze_media_stream_get_local_candidates` -/
def getLocalCandidates (s : CandidateStream) : List PurpleMediaCandidate := s.localCandidates

/-- A signal for libpurple. -/
def emitByName (s : CandidateStream) (signal : BackendSignal) : CandidateStream :=
  { s with backendSignals := s.backendSignals ++ [signal] }

/-- The method returns. -/
def returns (s : CandidateStream) : CandidateStream :=
  { s with toHazeMediaStreamPrivate := s.emit .returned }

/-- `haze_media_stream_new_native_candidate` -/
def newNativeCandidate (s : CandidateStream) (candidateId : String)
    (transports : List NativeTransport) : CandidateStream :=
  (transports.foldl (fun (s : CandidateStream) t =>
    let c := t.toCandidate candidateId
    ({ s with localCandidates := s.localCandidates ++ [c] } : CandidateStream).emitByName
      (.newCandidate c)) s).returns

/-- `haze_media_stream_native_candidates_prepared` -/
def nativeCandidatesPrepared (s : CandidateStream) : CandidateStream :=
  (s.emitByName .candidatesPrepared).returns

/-- `haze_media_stream_new_active_candidate_pair` -/
def newActiveCandidatePair (s : CandidateStream)
    (nativeCandidateId remoteCandidateId : String) : CandidateStream :=
  (s.localCandidates.foldl (fun s' lc =>
    s.remoteCandidates.foldl (fun (s' : CandidateStream) rc =>
      if lc.componentId = rc.componentId then
        if lc.foundation = nativeCandidateId ∧ rc.foundation = remoteCandidateId then
          s'.emitByName (.activeCandidatePair lc rc)
        else s'
      else s') s') s).returns

/-- What can happen to a stream. -/
inductive Event where
  | stream (e : HazeMediaStreamPrivate.Event)
  | newNativeCandidate (candidateId : String) (transports : List NativeTransport)
  | nativeCandidatesPrepared
  | newActiveCandidatePair (nativeCandidateId remoteCandidateId : String)

def step (s : CandidateStream) : Event → CandidateStream
  | .stream e => { s with toHazeMediaStreamPrivate := s.toHazeMediaStreamPrivate.step e }
  | .newNativeCandidate candidateId transports => s.newNativeCandidate candidateId transports
  | .nativeCandidatesPrepared => s.nativeCandidatesPrepared
  | .newActiveCandidatePair nativeCandidateId remoteCandidateId =>
      s.newActiveCandidatePair nativeCandidateId remoteCandidateId

/-- The state of a stream after some events. -/
def after (s : CandidateStream) (events : List Event) : CandidateStream := events.foldl step s

/-! ## What has been given and added -/

/-- The candidates that the client has given, with their ids. -/
def given : List Event → List (String × NativeTransport)
  | [] => []
  | .newNativeCandidate candidateId transports :: events =>
      transports.map (candidateId, ·) ++ given events
  | _ :: events => given events

/-- The candidates that libpurple has added. -/
def added : List Event → List PurpleMediaCandidate
  | [] => []
  | .stream e :: events => HazeMediaStreamPrivate.addedBy e ++ added events
  | _ :: events => added events

/-- The candidate that libpurple gets for one that the client has given. -/
def candidateOf (g : String × NativeTransport) : PurpleMediaCandidate := g.2.toCandidate g.1

/-- The candidate of a "new-candidate". -/
def newCandidateOf : BackendSignal → Option PurpleMediaCandidate
  | .newCandidate c => some c
  | _ => none

/-- The candidates that libpurple has heard of. -/
def announced (s : CandidateStream) : List PurpleMediaCandidate :=
  s.backendSignals.filterMap newCandidateOf

/-- The pairs of candidates of two ids. -/
def pairsOf (locals remotes : List PurpleMediaCandidate) (nativeId remoteId : String) :
    List (PurpleMediaCandidate × PurpleMediaCandidate) :=
  (locals ×ˢ remotes).filter fun p =>
    p.1.componentId = p.2.componentId ∧ p.1.foundation = nativeId ∧ p.2.foundation = remoteId

variable {s : CandidateStream}

/-! ## What each method does -/

theorem newNativeCandidate_eq (s : CandidateStream) (candidateId : String)
    (transports : List NativeTransport) :
    s.newNativeCandidate candidateId transports =
      ({ s with
        localCandidates := s.localCandidates ++ transports.map (·.toCandidate candidateId)
        backendSignals := s.backendSignals ++
          transports.map fun t => .newCandidate (t.toCandidate candidateId) } :
        CandidateStream).returns := by
  unfold newNativeCandidate
  congr 1
  induction transports generalizing s with
  | nil => simp
  | cons t transports ih =>
      rw [List.foldl_cons, ih]
      simp [emitByName]

theorem pairsOf_nil (locals : List PurpleMediaCandidate) (nativeId remoteId : String) :
    pairsOf locals [] nativeId remoteId = [] := by
  rw [pairsOf, List.product_nil]
  rfl

theorem pairsOf_cons_left (lc : PurpleMediaCandidate) (locals remotes : List PurpleMediaCandidate)
    (nativeId remoteId : String) :
    pairsOf (lc :: locals) remotes nativeId remoteId =
      pairsOf [lc] remotes nativeId remoteId ++ pairsOf locals remotes nativeId remoteId := by
  simp only [pairsOf, List.product_cons, List.nil_product, List.append_nil, List.filter_append]

theorem pairsOf_cons_right (lc rc : PurpleMediaCandidate) (remotes : List PurpleMediaCandidate)
    (nativeId remoteId : String) :
    pairsOf [lc] (rc :: remotes) nativeId remoteId =
      (if lc.componentId = rc.componentId ∧ lc.foundation = nativeId ∧ rc.foundation = remoteId
        then [(lc, rc)] else []) ++ pairsOf [lc] remotes nativeId remoteId := by
  simp only [pairsOf, List.product_cons, List.nil_product, List.append_nil, List.map_cons,
    List.filter_cons, decide_eq_true_eq]
  split_ifs <;> rfl

/-- The inner loop, for one local candidate. -/
theorem foldl_emitPair (remotes : List PurpleMediaCandidate) (lc : PurpleMediaCandidate)
    (nativeId remoteId : String) (s : CandidateStream) :
    remotes.foldl (fun (s' : CandidateStream) rc =>
      if lc.componentId = rc.componentId then
        if lc.foundation = nativeId ∧ rc.foundation = remoteId then
          s'.emitByName (.activeCandidatePair lc rc)
        else s'
      else s') s =
    { s with
      backendSignals := s.backendSignals ++
        (pairsOf [lc] remotes nativeId remoteId).map (fun p => .activeCandidatePair p.1 p.2) } := by
  induction remotes generalizing s with
  | nil => simp [pairsOf_nil]
  | cons rc remotes ih =>
      rw [List.foldl_cons, ih, pairsOf_cons_right]
      by_cases hcomponent : lc.componentId = rc.componentId
      · by_cases hids : lc.foundation = nativeId ∧ rc.foundation = remoteId
        · rw [if_pos hcomponent, if_pos hids, if_pos ⟨hcomponent, hids⟩]
          simp [emitByName]
        · rw [if_pos hcomponent, if_neg hids, if_neg fun h => hids h.2]
          rfl
      · rw [if_neg hcomponent, if_neg fun h => hcomponent h.1]
        rfl

/-- The two loops go over the pairs. -/
theorem newActiveCandidatePair_eq (s : CandidateStream) (nativeId remoteId : String) :
    s.newActiveCandidatePair nativeId remoteId =
      ({ s with
        backendSignals := s.backendSignals ++
          (pairsOf s.localCandidates s.remoteCandidates nativeId remoteId).map
            (fun p => .activeCandidatePair p.1 p.2) } : CandidateStream).returns := by
  suffices ∀ (locals : List PurpleMediaCandidate) (s' : CandidateStream),
      locals.foldl (fun (s' : CandidateStream) lc =>
        { s' with
          backendSignals := s'.backendSignals ++
            (pairsOf [lc] s.remoteCandidates nativeId remoteId).map
              (fun p => .activeCandidatePair p.1 p.2) }) s' =
      { s' with
        backendSignals := s'.backendSignals ++
          (pairsOf locals s.remoteCandidates nativeId remoteId).map
            (fun p => .activeCandidatePair p.1 p.2) } by
    rw [newActiveCandidatePair]
    simp only [foldl_emitPair, this]
  intro locals
  induction locals with
  | nil => intro s'; simp [pairsOf]
  | cons lc locals ih =>
      intro s'
      rw [List.foldl_cons, ih, pairsOf_cons_left lc locals]
      simp

theorem mem_pairsOf {locals remotes : List PurpleMediaCandidate} {nativeId remoteId : String}
    {lc rc : PurpleMediaCandidate} :
    (lc, rc) ∈ pairsOf locals remotes nativeId remoteId ↔
      lc ∈ locals ∧ rc ∈ remotes ∧ lc.componentId = rc.componentId ∧
        lc.foundation = nativeId ∧ rc.foundation = remoteId := by
  rw [pairsOf, List.mem_filter, List.mem_product, decide_eq_true_eq, and_assoc]

/-- A pair seen from the other side. -/
theorem map_swap_pairsOf (locals remotes : List PurpleMediaCandidate) (nativeId remoteId : String) :
    ((pairsOf locals remotes nativeId remoteId).map Prod.swap).Perm
      (pairsOf remotes locals remoteId nativeId) := by
  have hproduct : ((locals ×ˢ remotes).map Prod.swap).Perm (remotes ×ˢ locals) := by
    rw [← Multiset.coe_eq_coe, ← Multiset.map_coe, ← Multiset.coe_product, ← Multiset.coe_product]
    exact Multiset.map_swap_product _ _
  have hfilter : (pairsOf locals remotes nativeId remoteId).map Prod.swap =
      ((locals ×ˢ remotes).map Prod.swap).filter fun p =>
        p.1.componentId = p.2.componentId ∧ p.1.foundation = remoteId ∧
          p.2.foundation = nativeId := by
    rw [List.filter_map, pairsOf]
    congr 1
    refine List.filter_congr fun p _ => ?_
    simp only [Function.comp, Prod.fst_swap, Prod.snd_swap, decide_eq_decide]
    constructor
    · rintro ⟨h, hn, hr⟩
      exact ⟨h.symm, hr, hn⟩
    · rintro ⟨h, hr, hn⟩
      exact ⟨h.symm, hn, hr⟩
  rw [hfilter]
  exact hproduct.filter _

theorem pairsOf_perm {locals locals' remotes remotes' : List PurpleMediaCandidate}
    (hlocals : locals.Perm locals') (hremotes : remotes.Perm remotes')
    (nativeId remoteId : String) :
    (pairsOf locals remotes nativeId remoteId).Perm
      (pairsOf locals' remotes' nativeId remoteId) :=
  (hlocals.product hremotes).filter _

/-! ## Runs -/

theorem given_append (es es' : List Event) : given (es ++ es') = given es ++ given es' := by
  induction es with
  | nil => rfl
  | cons e es ih => cases e <;> simp [given, ih]

theorem added_append (es es' : List Event) : added (es ++ es') = added es ++ added es' := by
  induction es with
  | nil => rfl
  | cons e es ih => cases e <;> simp [added, ih]

/-- What has become of the candidates of the client and of libpurple. -/
structure Relays (es : List Event) (s : CandidateStream) : Prop where
  localCandidates : s.localCandidates = (given es).map candidateOf
  announced : s.announced = s.localCandidates
  remoteCandidates : s.remoteCandidates = added es
  passed : ∀ signal, signal ∈ s.passed ↔
    s.ready = true ∧ ∃ c ∈ s.remoteCandidates, signal = HazeMediaStreamPrivate.candidateSignal c

theorem relays_new (mediaType : TpMediaStreamType) (createdLocally localHold : Bool) :
    Relays [] (new mediaType createdLocally localHold) where
  localCandidates := rfl
  announced := rfl
  remoteCandidates := rfl
  passed signal := by
    constructor
    · intro h
      cases h
    · rintro ⟨h, -⟩
      cases h

variable {es : List Event}

/-- That a method returns is not one of the signals. -/
theorem Relays.returns (h : Relays es s) : Relays es s.returns := by
  have hsame := @HazeMediaStreamPrivate.sameCandidates_emit s.toHazeMediaStreamPrivate
    .returned rfl
  exact
    { localCandidates := h.localCandidates
      announced := h.announced
      remoteCandidates := h.remoteCandidates
      passed := fun signal => by
        show signal ∈ (s.emit .returned).passed ↔ _
        rw [hsame.passed]
        exact h.passed signal }

theorem Relays.stream (h : Relays es s) (e : HazeMediaStreamPrivate.Event) :
    Relays (es ++ [.stream e]) (s.step (.stream e)) := by
  obtain ⟨hcandidates, hready, hpassed⟩ :=
    HazeMediaStreamPrivate.step_candidates s.toHazeMediaStreamPrivate e
  refine
    { localCandidates := ?_
      announced := h.announced
      remoteCandidates := ?_
      passed := fun signal => ?_ }
  · rw [given_append]
    show s.localCandidates = (given es ++ []).map candidateOf
    rw [List.append_nil]
    exact h.localCandidates
  · rw [added_append, ← h.remoteCandidates]
    exact hcandidates.trans (congrArg _ (List.append_nil _).symm)
  · show signal ∈ (s.toHazeMediaStreamPrivate.step e).passed ↔
      (s.toHazeMediaStreamPrivate.step e).ready = true ∧
        ∃ c ∈ (s.toHazeMediaStreamPrivate.step e).remoteCandidates, _
    rw [hcandidates, hready, hpassed, List.mem_append, h.passed signal]
    by_cases hpasses : s.toHazeMediaStreamPrivate.Passes e
    · -- the whole list goes to the client
      have hready' : (s.ready || HazeMediaStreamPrivate.isReady e) = true := by
        cases e <;> simp_all [HazeMediaStreamPrivate.Passes, HazeMediaStreamPrivate.isReady]
      rw [if_pos hpasses, hready', List.mem_map]
      constructor
      · rintro (⟨-, c, hc, rfl⟩ | ⟨c, hc, rfl⟩)
        · exact ⟨rfl, c, List.mem_append_left _ hc, rfl⟩
        · exact ⟨rfl, c, hc, rfl⟩
      · rintro ⟨-, c, hc, rfl⟩
        exact Or.inr ⟨c, hc, rfl⟩
    · -- nothing new for a client that is ready
      rw [if_neg hpasses]
      cases e <;> simp_all [HazeMediaStreamPrivate.Passes, HazeMediaStreamPrivate.isReady,
        HazeMediaStreamPrivate.addedBy]

theorem Relays.newNativeCandidate (h : Relays es s) (candidateId : String)
    (transports : List NativeTransport) :
    Relays (es ++ [.newNativeCandidate candidateId transports])
      (s.newNativeCandidate candidateId transports) := by
  have hgiven : (given [.newNativeCandidate candidateId transports]).map candidateOf =
      transports.map (·.toCandidate candidateId) := by
    simp [given, candidateOf]
  have hnew : (transports.map fun t => BackendSignal.newCandidate
      (t.toCandidate candidateId)).filterMap newCandidateOf =
      transports.map (·.toCandidate candidateId) := by
    rw [List.filterMap_map]
    exact congrFun List.filterMap_eq_map transports
  rw [newNativeCandidate_eq]
  refine Relays.returns
    { localCandidates := ?_
      announced := ?_
      remoteCandidates := ?_
      passed := h.passed }
  · rw [given_append, List.map_append, hgiven, ← h.localCandidates]
  · show (s.backendSignals ++ _).filterMap newCandidateOf = _
    rw [List.filterMap_append, hnew]
    exact congrArg (· ++ _) h.announced
  · rw [added_append]
    exact h.remoteCandidates.trans (List.append_nil _).symm

/-- Signals that announce no candidate. -/
theorem Relays.signals (h : Relays es s) {e : Event} (hgiven : given [e] = [])
    (hadded : added [e] = []) {signals : List BackendSignal}
    (hsignals : signals.filterMap newCandidateOf = []) :
    Relays (es ++ [e])
      ({ s with backendSignals := s.backendSignals ++ signals } : CandidateStream).returns := by
  refine Relays.returns
    { localCandidates := ?_
      announced := ?_
      remoteCandidates := ?_
      passed := h.passed }
  · rw [given_append, hgiven, List.append_nil]
    exact h.localCandidates
  · show (s.backendSignals ++ _).filterMap newCandidateOf = _
    rw [List.filterMap_append, hsignals, List.append_nil]
    exact h.announced
  · rw [added_append, hadded, List.append_nil]
    exact h.remoteCandidates

/-- **A step relays the candidates.** -/
theorem Relays.step (h : Relays es s) (e : Event) : Relays (es ++ [e]) (s.step e) := by
  cases e with
  | stream e => exact h.stream e
  | newNativeCandidate candidateId transports =>
      exact h.newNativeCandidate candidateId transports
  | nativeCandidatesPrepared => exact h.signals rfl rfl rfl
  | newActiveCandidatePair nativeId remoteId =>
      show Relays _ (s.newActiveCandidatePair nativeId remoteId)
      rw [newActiveCandidatePair_eq]
      refine h.signals rfl rfl ?_
      rw [List.filterMap_map]
      exact List.filterMap_eq_nil_iff.mpr fun p _ => rfl

theorem relays_after (mediaType : TpMediaStreamType) (createdLocally localHold : Bool)
    (es : List Event) :
    Relays es ((new mediaType createdLocally localHold).after es) := by
  induction es using List.reverseRecOn with
  | nil => exact relays_new mediaType createdLocally localHold
  | append_singleton es e ih =>
      rw [after, List.foldl_append]
      exact ih.step e

/-! ## From one client to the other -/

/-- What the client of the peer hears for a candidate that a client gives. -/
def signalFor (g : String × NativeTransport) : StreamSignal :=
  .addRemoteCandidate g.1 [g.2.carried]

/-- A transport goes there and back. -/
theorem candidateSignal_candidateOf (g : String × NativeTransport) :
    HazeMediaStreamPrivate.candidateSignal (candidateOf g) = signalFor g := by
  obtain ⟨candidateId, t⟩ := g
  have hprotocol : t.protocol = if t.proto = 1 then .tcp else .udp := by
    unfold NativeTransport.protocol
    split_ifs <;> first | rfl | omega
  have htype : HazeMediaStreamPrivate.transportType t.candidateType =
      if t.type = 1 then .derived else if t.type = 2 then .relay else .local := by
    unfold NativeTransport.candidateType
    split_ifs <;> first | rfl | omega
  simp only [HazeMediaStreamPrivate.candidateSignal, candidateOf, NativeTransport.toCandidate,
    signalFor, NativeTransport.carried, hprotocol, htype]

/-- **Candidates get from client to client.** A client gives candidates to its stream in any number
of calls, and libpurple hears of each of them once and in order. If libpurple at the peer adds what
it got from there, in any order and any number of batches, before or after the peer's client is
ready, then that client hears of these candidates only, with their ids, addresses, ports and
credentials, with what it knows of their types and protocols, and with their preferences without the
fraction; and once it is ready it has heard of all that have arrived. -/
theorem candidates_round_trip (mediaType mediaType' : TpMediaStreamType)
    (createdLocally createdLocally' localHold localHold' : Bool) (es es' : List Event)
    (harrived : ∀ c ∈ added es',
      c ∈ ((new mediaType createdLocally localHold).after es).announced) :
    let s := (new mediaType createdLocally localHold).after es
    let peer := (new mediaType' createdLocally' localHold').after es'
    s.announced = (given es).map candidateOf ∧
    s.getLocalCandidates = s.announced ∧
    (∀ signal ∈ peer.passed, peer.ready = true ∧ ∃ g ∈ given es, signal = signalFor g) ∧
    ∀ g ∈ given es, candidateOf g ∈ added es' → peer.ready = true → signalFor g ∈ peer.passed := by
  intro s peer
  have hs := relays_after mediaType createdLocally localHold es
  have hpeer := relays_after mediaType' createdLocally' localHold' es'
  have hannounced := hs.announced.trans hs.localCandidates
  refine ⟨hannounced, hs.announced.symm, fun signal hsignal => ?_, fun g hg harrived hready => ?_⟩
  · obtain ⟨hready, c, hc, rfl⟩ := (hpeer.passed signal).mp hsignal
    rw [hpeer.remoteCandidates] at hc
    have hfrom := harrived c hc
    rw [hannounced] at hfrom
    obtain ⟨g, hg, rfl⟩ := List.mem_map.mp hfrom
    exact ⟨hready, g, hg, candidateSignal_candidateOf g⟩
  · rw [hpeer.passed, hpeer.remoteCandidates]
    exact ⟨hready, candidateOf g, harrived, (candidateSignal_candidateOf g).symm⟩

/-- **Both ends name the same pairs.** When all candidates of each side have arrived once at the
other, in whatever order, and one client names the active pair `(n, r)` and the other `(r, n)`, then
libpurple hears of the same pairs on both sides, each from its own end: of every two candidates that
were given under these ids for one component. -/
theorem active_pairs_agree (mediaType mediaType' : TpMediaStreamType)
    (createdLocally createdLocally' localHold localHold' : Bool) (es es' : List Event)
    (harrived : (added es).Perm
      ((new mediaType' createdLocally' localHold').after es').announced)
    (harrived' : (added es').Perm ((new mediaType createdLocally localHold).after es).announced)
    (n r : String) :
    ∃ pairs pairs' : List (PurpleMediaCandidate × PurpleMediaCandidate),
      ((new mediaType createdLocally localHold).after
          (es ++ [.newActiveCandidatePair n r])).backendSignals =
        ((new mediaType createdLocally localHold).after es).backendSignals ++
          pairs.map (fun p => .activeCandidatePair p.1 p.2) ∧
      ((new mediaType' createdLocally' localHold').after
          (es' ++ [.newActiveCandidatePair r n])).backendSignals =
        ((new mediaType' createdLocally' localHold').after es').backendSignals ++
          pairs'.map (fun p => .activeCandidatePair p.1 p.2) ∧
      pairs'.Perm (pairs.map Prod.swap) ∧
      ∀ lc rc, (lc, rc) ∈ pairs ↔ ∃ t t' : NativeTransport,
        (n, t) ∈ given es ∧ (r, t') ∈ given es' ∧ t.component = t'.component ∧
        lc = candidateOf (n, t) ∧ rc = candidateOf (r, t') := by
  have hs := relays_after mediaType createdLocally localHold es
  have hs' := relays_after mediaType' createdLocally' localHold' es'
  set s := (new mediaType createdLocally localHold).after es with hsdef
  set s' := (new mediaType' createdLocally' localHold').after es' with hsdef'
  have hremote : s.remoteCandidates.Perm s'.localCandidates := by
    rw [hs.remoteCandidates, ← hs'.announced]
    exact harrived
  have hremote' : s'.remoteCandidates.Perm s.localCandidates := by
    rw [hs'.remoteCandidates, ← hs.announced]
    exact harrived'
  refine ⟨pairsOf s.localCandidates s.remoteCandidates n r,
    pairsOf s'.localCandidates s'.remoteCandidates r n, ?_, ?_, ?_, fun lc rc => ?_⟩
  · rw [after, List.foldl_append]
    show (s.newActiveCandidatePair n r).backendSignals = _
    rw [newActiveCandidatePair_eq]
    rfl
  · rw [after, List.foldl_append]
    show (s'.newActiveCandidatePair r n).backendSignals = _
    rw [newActiveCandidatePair_eq]
    rfl
  · exact (pairsOf_perm hremote.symm hremote' r n).trans (map_swap_pairsOf _ _ n r).symm
  · rw [mem_pairsOf, hremote.mem_iff, hs.localCandidates, hs'.localCandidates]
    constructor
    · rintro ⟨hlc, hrc, hcomponent, rfl, rfl⟩
      obtain ⟨⟨n, t⟩, ht, rfl⟩ := List.mem_map.mp hlc
      obtain ⟨⟨r, t'⟩, ht', rfl⟩ := List.mem_map.mp hrc
      exact ⟨t, t', ht, ht', hcomponent, rfl, rfl⟩
    · rintro ⟨t, t', ht, ht', hcomponent, rfl, rfl⟩
      exact ⟨List.mem_map_of_mem ht, List.mem_map_of_mem ht', hcomponent, rfl, rfl⟩

/-- A host candidate for a component. -/
def aTransport (component : Nat) (address : String) : NativeTransport where
  component := component
  address := address
  port := 5000 + component
  proto := 0
  subtype := ""
  profile := ""
  preference := 1 / 2
  type := 0
  username := "user"
  password := "secret"
  fits := by constructor <;> norm_num

/-- Two components, given in one call. -/
def twoComponents (candidateId address : String) : Event :=
  .newNativeCandidate candidateId [aTransport 1 address, aTransport 2 address]

/-- They arrive in the other order, one before the peer's client is ready and one after. -/
theorem candidates_round_trip_run :
    let es := [twoComponents "L1" "192.0.2.1"]
    let es' : List Event :=
      [.stream (.addRemoteCandidates [candidateOf ("L1", aTransport 2 "192.0.2.1")]),
        .stream (.ready [] false true),
        .stream (.addRemoteCandidates [candidateOf ("L1", aTransport 1 "192.0.2.1")])]
    let s := (new .audio true false).after es
    let peer := (new .audio false false).after es'
    s.announced = (given es).map candidateOf ∧
    s.getLocalCandidates = s.announced ∧
    (∀ signal ∈ peer.passed, peer.ready = true ∧ ∃ g ∈ given es, signal = signalFor g) ∧
    ∀ g ∈ given es, candidateOf g ∈ added es' → peer.ready = true → signalFor g ∈ peer.passed :=
  candidates_round_trip .audio .audio true false false false _ _ (by
    intro c hc
    show c ∈ [candidateOf ("L1", aTransport 1 "192.0.2.1"),
      candidateOf ("L1", aTransport 2 "192.0.2.1")]
    exact (List.Perm.swap _ _ _).mem_iff.mp hc)

/-- Each side gives two components, and the other gets them in the other order. -/
theorem active_pairs_agree_run :
    let es : List Event := [twoComponents "L1" "192.0.2.1",
      .stream (.addRemoteCandidates [candidateOf ("R1", aTransport 2 "192.0.2.2"),
        candidateOf ("R1", aTransport 1 "192.0.2.2")])]
    let es' : List Event := [twoComponents "R1" "192.0.2.2",
      .stream (.addRemoteCandidates [candidateOf ("L1", aTransport 2 "192.0.2.1"),
        candidateOf ("L1", aTransport 1 "192.0.2.1")])]
    ∃ pairs pairs' : List (PurpleMediaCandidate × PurpleMediaCandidate),
      ((new .audio true false).after (es ++ [.newActiveCandidatePair "L1" "R1"])).backendSignals =
        ((new .audio true false).after es).backendSignals ++
          pairs.map (fun p => .activeCandidatePair p.1 p.2) ∧
      ((new .audio false false).after (es' ++ [.newActiveCandidatePair "R1" "L1"])).backendSignals =
        ((new .audio false false).after es').backendSignals ++
          pairs'.map (fun p => .activeCandidatePair p.1 p.2) ∧
      pairs'.Perm (pairs.map Prod.swap) ∧
      ∀ lc rc, (lc, rc) ∈ pairs ↔ ∃ t t' : NativeTransport,
        ("L1", t) ∈ given es ∧ ("R1", t') ∈ given es' ∧ t.component = t'.component ∧
        lc = candidateOf ("L1", t) ∧ rc = candidateOf ("R1", t') := by
  intro es es'
  exact active_pairs_agree .audio .audio true false false false es es'
    (List.Perm.swap _ _ _) (List.Perm.swap _ _ _) "L1" "R1"

end CandidateStream

end Haze
