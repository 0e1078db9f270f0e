import Haze.Media.Steps

set_option autoImplicit false

/-! # Adding streams to a call

`_haze_media_channel_request_contents` as one function: its checks (`refusal`), and the loop that
asks libpurple for the streams, up to the first call that fails. The check of the contact's
capabilities has the wrong polarity: once the types are known and the session can be modified, it
refuses what the contact supports, and lets through what the contact does not support. So the
decision is the right one only where an earlier check has made it (`contentsRight_iff`). What is
let through asks for the streams of the list, as many of each kind (`initiated_counts`).
-/

namespace Haze

namespace HazeMediaChannel

variable {s : HazeMediaChannel} {types : List Nat} {caps : PurpleMediaCaps} {result : Nat → Bool}

/-- What a call of `_haze_media_channel_request_contents` comes to: the error that is set, the
calls of `purple_prpl_initiate_media`, and what is returned. -/
structure ContentsOutcome where
  error : Option GError
  calls : List PurpleMediaSessionType
  returned : Bool
  deriving DecidableEq

/-- The calls of `purple_prpl_initiate_media`, of which the `i`-th returns `result i`: "return
FALSE" at the first that fails. -/
def initiateAll (result : Nat → Bool) : Nat → List PurpleMediaSessionType → ContentsOutcome
  | _, [] => ⟨none, [], true⟩
  | i, type :: rest =>
      if result i = false then ⟨none, [type], false⟩
      else
        let outcome := initiateAll result (i + 1) rest
        { outcome with calls := type :: outcome.calls }

/-- `_haze_media_channel_request_contents`, for a contact with these capabilities. -/
def hazeMediaChannelRequestContents (s : HazeMediaChannel) (mediaTypes : List Nat)
    (caps : PurpleMediaCaps) (result : Nat → Bool) : ContentsOutcome :=
  match s.refusal mediaTypes caps with
  | some error => ⟨some error, [], false⟩
  | none =>
      initiateAll result 0 (sessionTypes (mediaTypes.count tpMediaStreamTypeAudio)
        (mediaTypes.count tpMediaStreamTypeVideo))

/-- The request is refused before anything is initiated. -/
def ContentsOutcome.Refused (o : ContentsOutcome) : Prop := o.returned = false ∧ o.calls = []

/-! ## The loop -/

/-- One round of the loop asks for one stream of each kind that is still wanted. -/
theorem counts_sessionTypesLoop (n audioCount videoCount : Nat) (haudio : audioCount ≤ n)
    (hvideo : videoCount ≤ n) :
    (sessionTypesLoop n audioCount videoCount).countP PurpleMediaSessionType.audio = audioCount ∧
    (sessionTypesLoop n audioCount videoCount).countP PurpleMediaSessionType.video =
      videoCount := by
  induction n generalizing audioCount videoCount with
  | zero =>
      have ha : audioCount = 0 := by omega
      have hv : videoCount = 0 := by omega
      subst ha hv
      exact ⟨rfl, rfl⟩
  | succ n ih =>
      obtain ⟨hrestAudio, hrestVideo⟩ := ih (audioCount - 1) (videoCount - 1) (by omega) (by omega)
      unfold sessionTypesLoop
      by_cases hmore : audioCount > 0 ∨ videoCount > 0
      · rw [if_pos hmore, List.countP_cons, List.countP_cons, hrestAudio, hrestVideo]
        constructor
        · by_cases ha : audioCount > 0
          · simp only [ha, decide_true, if_true]
            omega
          · simp only [ha, decide_false, Bool.false_eq_true, if_false]
            omega
        · by_cases hv : videoCount > 0
          · simp only [hv, decide_true, if_true]
            omega
          · simp only [hv, decide_false, Bool.false_eq_true, if_false]
            omega
      · rw [if_neg hmore]
        simp only [List.countP_nil]
        omega

theorem counts_sessionTypes (audioCount videoCount : Nat) :
    (sessionTypes audioCount videoCount).countP PurpleMediaSessionType.audio = audioCount ∧
    (sessionTypes audioCount videoCount).countP PurpleMediaSessionType.video = videoCount :=
  counts_sessionTypesLoop _ _ _ (by omega) (by omega)

/-- As long as each call succeeds, all of them are made. -/
theorem initiateAll_of_succeeds (hresult : ∀ i, result i = true) (i : Nat)
    (l : List PurpleMediaSessionType) : initiateAll result i l = ⟨none, l, true⟩ := by
  induction l generalizing i with
  | nil => rfl
  | cons type rest ih => simp only [initiateAll, hresult, ih, Bool.true_eq_false, if_false]

/-- The loop sets no error, and fails only after a call. -/
theorem initiateAll_not_refused (result : Nat → Bool) (i : Nat)
    (l : List PurpleMediaSessionType) :
    (initiateAll result i l).error = none ∧ ¬ (initiateAll result i l).Refused := by
  induction l generalizing i with
  | nil => exact ⟨rfl, fun h => by cases h.1⟩
  | cons type rest ih =>
      unfold initiateAll
      by_cases hfail : result i = false
      · rw [if_pos hfail]
        exact ⟨rfl, fun h => by cases h.2⟩
      · rw [if_neg hfail]
        exact ⟨(ih (i + 1)).1, fun h => by cases h.2⟩

/-! ## The checks -/

/-- A request is refused exactly when an error is set. -/
theorem refused_iff_isSome : (s.hazeMediaChannelRequestContents types caps result).Refused ↔
    (s.refusal types caps).isSome := by
  unfold hazeMediaChannelRequestContents
  cases s.refusal types caps with
  | some error => exact iff_of_true ⟨rfl, rfl⟩ rfl
  | none => exact iff_of_false (initiateAll_not_refused _ _ _).2 (by decide)

/-- Some type of the list is neither audio nor video. -/
def HasOtherType (types : List Nat) : Prop :=
  ∃ t ∈ types, t ≠ tpMediaStreamTypeAudio ∧ t ≠ tpMediaStreamTypeVideo

/-- The contact lacks the capability for a type of the list. -/
def LacksWanted (types : List Nat) (caps : PurpleMediaCaps) : Prop :=
  (tpMediaStreamTypeAudio ∈ types ∧ caps.audio = false) ∨
    (tpMediaStreamTypeVideo ∈ types ∧ caps.video = false)

/-- When the checks refuse a request for more streams: the last one in the case in which the
contact lacks nothing. -/
theorem refusal_isSome_iff (hs : s.media = true) : (s.refusal types caps).isSome ↔
    HasOtherType types ∨ caps.modifySession = false ∨ ¬ LacksWanted types caps := by
  unfold refusal
  cases hfind : types.find? (fun type =>
      type ≠ tpMediaStreamTypeAudio ∧ type ≠ tpMediaStreamTypeVideo) with
  | some type =>
      have hother : HasOtherType types :=
        ⟨type, List.mem_of_find?_eq_some hfind, by simpa using List.find?_some hfind⟩
      exact iff_of_true rfl (Or.inl hother)
  | none =>
      have hno : ¬ HasOtherType types := by
        rintro ⟨t, ht, hother⟩
        exact absurd hother (by simpa using List.find?_eq_none.mp hfind t ht)
      simp only [hs, if_true, hno, false_or]
      by_cases hmodify : caps.modifySession = true
      · have hlacks : (tpMediaStreamTypeAudio ∉ types ∨ caps.audio = true) ∧
            (tpMediaStreamTypeVideo ∉ types ∨ caps.video = true) ↔ ¬ LacksWanted types caps := by
          unfold LacksWanted
          cases caps.audio <;> cases caps.video <;> simp
        simp only [hmodify, not_true_eq_false, if_false, Bool.true_eq_false, false_or]
        by_cases hwanted : LacksWanted types caps
        · rw [if_neg (fun hc => hlacks.mp hc hwanted)]
          simp [hwanted]
        · rw [if_pos (hlacks.mpr hwanted)]
          simp [hwanted]
      · have hlocked : caps.modifySession = false := by simpa using hmodify
        simp [hlocked]

/-! ## The decision -/

/-- The contact does not support adding the streams of the list. -/
def Unsupported (types : List Nat) (caps : PurpleMediaCaps) : Prop :=
  HasOtherType types ∨ caps.modifySession = false ∨ LacksWanted types caps

/-- The calls that are made ask for the streams of the list. -/
def AsksFor (types : List Nat) (o : ContentsOutcome) : Prop :=
  o.calls.countP PurpleMediaSessionType.audio = types.count tpMediaStreamTypeAudio ∧
    o.calls.countP PurpleMediaSessionType.video = types.count tpMediaStreamTypeVideo

/-- Streams can be added exactly when the contact supports them, and then those of the list are
asked for as long as each call succeeds. -/
structure ContentsRight (s : HazeMediaChannel) (types : List Nat) (caps : PurpleMediaCaps) :
    Prop where
  refused : ∀ result,
    (s.hazeMediaChannelRequestContents types caps result).Refused ↔ Unsupported types caps
  counts : ¬ Unsupported types caps → ∀ result, (∀ i, result i = true) →
    AsksFor types (s.hazeMediaChannelRequestContents types caps result)

/-- What is not refused asks for as many streams of each kind as the list has. -/
theorem initiated_counts (hresult : ∀ i, result i = true)
    (haccepted : ¬ (s.hazeMediaChannelRequestContents types caps result).Refused) :
    AsksFor types (s.hazeMediaChannelRequestContents types caps result) := by
  rw [refused_iff_isSome, Option.isSome_iff_ne_none, not_not] at haccepted
  simp only [AsksFor, hazeMediaChannelRequestContents, haccepted, initiateAll_of_succeeds hresult]
  exact counts_sessionTypes _ _

/-- **When streams can be added exactly if the contact supports them**: the decision about a list
of types is the right one if and only if the list has a type other than audio and video or the
session cannot be modified, which is refused. In every case, what is not refused asks for as many
streams of each kind as the list has. -/
theorem contentsRight_iff (hs : s.media = true) (types : List Nat) (caps : PurpleMediaCaps) :
    (ContentsRight s types caps ↔ HasOtherType types ∨ caps.modifySession = false) ∧
      ∀ result, (∀ i, result i = true) →
        ¬ (s.hazeMediaChannelRequestContents types caps result).Refused →
        AsksFor types (s.hazeMediaChannelRequestContents types caps result) := by
  have hrefused : ∀ result, (s.hazeMediaChannelRequestContents types caps result).Refused ↔
      HasOtherType types ∨ caps.modifySession = false ∨ ¬ LacksWanted types caps :=
    fun result => refused_iff_isSome.trans (refusal_isSome_iff hs)
  refine ⟨⟨fun hright => ?_, fun hearlier => ?_⟩, fun result => initiated_counts⟩
  · have hdecision := hright.refused (fun _ => true)
    rw [hrefused, Unsupported] at hdecision
    by_contra hlate
    -- both earlier checks are passed, and the last one decides the other way round
    tauto
  · refine ⟨fun result => ?_, fun hsupported => ?_⟩
    · rw [hrefused, Unsupported]
      tauto
    · exact absurd (hearlier.imp id Or.inl) hsupported

/-- A call whose session cannot be modified: no stream is added to it. -/
theorem contentsRight_iff_unmodifiable :
    (init "jabber" 1 true).media = true ∧
      ContentsRight (init "jabber" 1 true) [0, 1] ⟨true, true, false⟩ :=
  ⟨rfl, (contentsRight_iff rfl [0, 1] ⟨true, true, false⟩).1.mpr (Or.inr rfl)⟩

/-- A contact with audio, in a session that can be modified: audio cannot be added. -/
theorem supported_contents_refused : ¬ ∀ (s : HazeMediaChannel) (types : List Nat)
    (caps : PurpleMediaCaps), s.media = true → ContentsRight s types caps := by
  intro hall
  have hright := hall (init "jabber" 1 true) [tpMediaStreamTypeAudio] ⟨true, false, true⟩ rfl
  have hunsupported := (hright.refused (fun _ => true)).mp ⟨by decide, by decide⟩
  simp [Unsupported, HasOtherType, LacksWanted, tpMediaStreamTypeAudio,
    tpMediaStreamTypeVideo] at hunsupported

/-! ## The calls in a run of the channel -/

/-- When nothing else happens while the calls are under way and each succeeds, the channel makes
them one after the other. -/
theorem run_initiateMedia (s : HazeMediaChannel) (psr context : Nat)
    (l : List PurpleMediaSessionType) :
    mediaChannels.run (s.initiateMedia psr context l)
        (List.replicate l.length (.initiateMediaReturns true)) =
      .ok (s.log (l.map MediaCall.initiateMedia)) := by
  induction l generalizing s with
  | nil => simp [initiateMedia, HazeMediaChannel.log]
  | cons type rest ih =>
      have hreturns : mediaChannels.step (s.initiateMedia psr context (type :: rest))
          (.initiateMediaReturns true) =
          .ok ((s.log [.initiateMedia type]).initiateMedia psr context rest) := rfl
      rw [List.length_cons, List.replicate_succ, Machine.run_cons_ok _ _ hreturns, ih]
      simp [HazeMediaChannel.log]

/-- A request for streams with the channel's peer that is not refused makes the calls of
`hazeMediaChannelRequestContents`. -/
theorem run_requestStreams {context : Nat} (htypes : types ≠ [])
    (haccepted : s.refusal types caps = none) :
    ∃ t, mediaChannels.run s (.requestStreams s.initialPeer types caps context ::
        List.replicate (sessionTypes (types.count tpMediaStreamTypeAudio)
          (types.count tpMediaStreamTypeVideo)).length (.initiateMediaReturns true)) = .ok t ∧
      t.calls = s.calls ++ .requestStreams context ::
        (s.hazeMediaChannelRequestContents types caps (fun _ => true)).calls.map
          MediaCall.initiateMedia := by
  obtain ⟨t, ht, hstep⟩ := mediaChannelRequestStreams_of_accepted context htypes
    (fun hpeer : s.media = true ∧ s.initialPeer ≠ s.initialPeer => hpeer.2 rfl) haccepted
  have hcalls : t.calls = (s.pend types context).calls := by
    rcases ht with rfl | rfl
    · rfl
    · rfl
  have hrun : mediaChannels.step s (.requestStreams s.initialPeer types caps context) = _ := hstep
  refine ⟨_, by rw [Machine.run_cons_ok _ _ hrun, run_initiateMedia], ?_⟩
  have hall := @initiateAll_of_succeeds (fun _ => true) (fun _ => rfl) 0
    (sessionTypes (types.count tpMediaStreamTypeAudio) (types.count tpMediaStreamTypeVideo))
  simp [HazeMediaChannel.log, hcalls, pend, hazeMediaChannelRequestContents, haccepted, hall]

end HazeMediaChannel

end Haze
