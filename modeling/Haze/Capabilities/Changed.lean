import Haze.Capabilities.Clients

set_option autoImplicit false

/-! # What `CapabilitiesChanged` says

`GetCapabilities` converts libpurple's flags into those of the StreamedMedia channel type, and
`caps_changed_cb` does so too. The two D-Bus methods that set the capabilities of the user
interface hand libpurple's flags to the signal as they are. The encodings agree on audio and
differ on video, so the signal agrees with the query as long as video has no part in a change
(`capabilitiesChanged_agrees_iff`).
-/

namespace Haze.Capabilities

open CapabilityConnection

/-! ## The two encodings -/

/-- The flags that Haze gives libpurple. -/
def AudioVideo (caps : PurpleMediaCaps) : Prop :=
  Flags.Within caps (purpleMediaCapsAudio ||| purpleMediaCapsVideo)

instance (caps : PurpleMediaCaps) : Decidable (AudioVideo caps) :=
  inferInstanceAs (Decidable (Flags.Within _ _))

theorem flag_purpleMediaCapsAudio : Flags.Flag purpleMediaCapsAudio := Flags.flag_twoPow 0

theorem flag_purpleMediaCapsVideo : Flags.Flag purpleMediaCapsVideo := Flags.flag_twoPow 2

theorem AudioVideo.ext {caps caps' : PurpleMediaCaps} (h : AudioVideo caps)
    (h' : AudioVideo caps')
    (hm : ∀ m : Medium, Flags.Has caps m.purpleCaps ↔ Flags.Has caps' m.purpleCaps) :
    caps = caps' :=
  Flags.Within.ext flag_purpleMediaCapsAudio flag_purpleMediaCapsVideo h h' (hm .audio)
    (hm .video)

/-- What the signal carries is what the query gives before and after, exactly when nothing
changes or neither word has video. -/
theorem encodings_agree_iff {old new : PurpleMediaCaps} (hold : AudioVideo old)
    (hnew : AudioVideo new) :
    (if old = new then [] else [(old, new)]) =
        (if purpleCapsToTpFlags old = purpleCapsToTpFlags new then []
        else [(purpleCapsToTpFlags old, purpleCapsToTpFlags new)]) ↔
      old = new ∨
        ¬ Flags.Has old purpleMediaCapsVideo ∧ ¬ Flags.Has new purpleMediaCapsVideo := by
  have hflags := And.intro flag_purpleMediaCapsAudio flag_purpleMediaCapsVideo
  rcases hold.cases hflags.1 hflags.2 with rfl | rfl | rfl | rfl <;>
    rcases hnew.cases hflags.1 hflags.2 with rfl | rfl | rfl | rfl <;> decide

/-! ## What a call makes of the capabilities -/

/-- The class of its list that stands for a client after a call of `UpdateCapabilities`, or what
the table says of a client that is not in the call, has the medium. -/
def ClientHas (m : Medium) (clientCaps : AList (fun _ : String => CapsFlags))
    (clients : List (ClientCaps × Nat)) (name : String) : Prop :=
  match (clients.filter (fun e => e.1.clientName = name)).getLast? with
  | none => Flags.Has (recorded clientCaps name) m.capsFlags
  | some e => ∃ cls, e.1.rccs[e.2]? = some cls ∧ Declares m cls

/-- The medium is among the capabilities when the call has been made. -/
def WillHave (m : Medium) (s : CapabilityConnection) : CapabilityEvent → Prop
  | .advertiseCapabilities add del =>
      tpIfaceChannelTypeStreamedMedia ∉ del ∧
        (Flags.Has s.uiCaps m.purpleCaps ∨
          ∃ pair ∈ add, pair.channelType = tpIfaceChannelTypeStreamedMedia ∧
            Flags.Has pair.flags m.tpFlags)
  | .updateCapabilities clients => ∃ name, ClientHas m s.clientCaps clients.zipIdx name

theorem has_tpFlagsToPurpleCaps (m : Medium) (flags : TpChannelMediaCapabilities) :
    Flags.Has (tpFlagsToPurpleCaps flags) m.purpleCaps ↔ Flags.Has flags m.tpFlags := by
  have hnone : ¬ Flags.Has purpleMediaCapsNone m.purpleCaps := Flags.not_has_zero
  unfold tpFlagsToPurpleCaps
  cases m
  · simp_all [Flags.has_ite_or, Medium.purpleCaps, Medium.tpFlags, purpleMediaCaps_flags]
  · simp_all [Flags.has_ite_or, Medium.purpleCaps, Medium.tpFlags, purpleMediaCaps_flags]

theorem has_addPair (m : Medium) (caps : PurpleMediaCaps) (pair : CapabilityPair) :
    Flags.Has (addPair caps pair) m.purpleCaps ↔ Flags.Has caps m.purpleCaps ∨
      (pair.channelType = tpIfaceChannelTypeStreamedMedia ∧ Flags.Has pair.flags m.tpFlags) := by
  unfold addPair
  rw [Flags.has_ite_or, has_tpFlagsToPurpleCaps]

theorem AudioVideo.addPair {caps : PurpleMediaCaps} (h : AudioVideo caps)
    (pair : CapabilityPair) : AudioVideo (addPair caps pair) := by
  have hnone : AudioVideo purpleMediaCapsNone := Flags.within_zero
  have haudio : AudioVideo purpleMediaCapsAudio := by decide
  have hvideo : AudioVideo purpleMediaCapsVideo := by decide
  have hpair : AudioVideo (tpFlagsToPurpleCaps pair.flags) := by
    unfold tpFlagsToPurpleCaps
    exact (hnone.ite_or haudio).ite_or hvideo
  exact Flags.Within.ite_or h hpair

theorem AudioVideo.addClient {caps : PurpleMediaCaps} (h : AudioVideo caps)
    (e : Sigma (fun _ : String => CapsFlags)) : AudioVideo (addClient caps e) := by
  have haudio : AudioVideo purpleMediaCapsAudio := by decide
  have hvideo : AudioVideo purpleMediaCapsVideo := by decide
  unfold CapabilityConnection.addClient
  exact (Flags.Within.ite_or h haudio).ite_or hvideo

/-- What the table says after the clients of a call, whichever class of its list stands for a
client. -/
theorem has_recorded_foldlM {clientCaps : AList (fun _ : String => CapsFlags)} (m : Medium)
    (name : String) (l : List (ClientCaps × Nat)) :
    ∀ {t}, l.foldlM updateClient clientCaps = .ok t →
      (Flags.Has (recorded t name) m.capsFlags ↔ ClientHas m clientCaps l name) := by
  induction l using List.reverseRecOn with
  | nil =>
      intro t ht
      cases ht
      exact Iff.rfl
  | append_singleton l e ih =>
      intro t ht
      rw [List.foldlM_append] at ht
      cases hl : l.foldlM updateClient clientCaps with
      | error fault =>
          rw [hl] at ht
          cases ht
      | ok t₁ =>
          rw [hl] at ht
          have hlast : updateClient t₁ e = .ok t := by
            cases hu : updateClient t₁ e with
            | error fault => simp [bind, Except.bind, hu] at ht
            | ok t₂ => simpa [bind, Except.bind, pure, Except.pure, hu] using ht
          obtain ⟨flags, hflags, hrec⟩ := recorded_updateClient hlast
          rw [hrec name]
          unfold ClientHas
          by_cases hname : name = e.1.clientName
          · subst hname
            simpa using has_of_clientFlags hflags m
          · have hne : ¬ e.1.clientName = name := fun h => hname h.symm
            have hsame := ih hl
            unfold ClientHas at hsame
            simpa [hname, hne] using hsame

/-- What one call does: it gives libpurple the capabilities it comes to, and hands the old and
the new ones to the signal. -/
theorem step_cases {s s' : CapabilityConnection} {e : CapabilityEvent}
    (hs : s.status = .connected) (hold : AudioVideo s.uiCaps)
    (h : capabilities.step s e = .ok s') :
    ∃ t caps ret, (ret = .returnFromAdvertiseCapabilities ∨ ret = .returnFromUpdateCapabilities) ∧
      s' = ({ s with clientCaps := t, uiCaps := caps }.emitCapabilitiesChanged s.selfHandle
        s.uiCaps caps).call ret ∧
      AudioVideo caps ∧ ∀ m : Medium, Flags.Has caps m.purpleCaps ↔ WillHave m s e := by
  have hnone : AudioVideo purpleMediaCapsNone := Flags.within_zero
  cases e with
  | advertiseCapabilities add del =>
      have heq : s.advertiseCapabilities add del = s' := by
        simpa [capabilities, CapabilityConnection.step] using h
      unfold advertiseCapabilities at heq
      rw [if_neg (not_not.mpr hs)] at heq
      refine ⟨s.clientCaps, _, _, Or.inl rfl, heq.symm, ?_, fun m => ?_⟩
      · split
        · exact hnone
        · exact Flags.Within.foldl (fun _ pair hcaps => AudioVideo.addPair hcaps pair) hold add
      · unfold WillHave
        split
        · rename_i hdel
          simp [hdel, purpleMediaCapsNone]
        · rename_i hdel
          rw [Flags.has_foldl (has_addPair m)]
          simp [hdel]
  | updateCapabilities clients =>
      have heq : s.updateCapabilities clients = .ok s' := h
      unfold updateCapabilities at heq
      rw [if_neg (not_not.mpr hs)] at heq
      cases ht : clients.zipIdx.foldlM updateClient s.clientCaps with
      | error fault =>
          rw [ht] at heq
          cases heq
      | ok t =>
          rw [ht] at heq
          cases heq
          refine ⟨t, _, _, Or.inr rfl, rfl, ?_, fun m => ?_⟩
          · exact Flags.Within.foldl (fun _ c hcaps => AudioVideo.addClient hcaps c) hnone _
          · rw [has_foldl_addClient]
            exact exists_congr (fun name => has_recorded_foldlM m name _ ht)

/-! ## Signals and queries -/

/-- The type-specific flags that `haze_connection_get_handle_capabilities` returns for the
StreamedMedia channel type; none when it has no entry. -/
def streamedMediaFlags (s : CapabilityConnection) (handle : Nat) : BitVec 32 :=
  ((s.getHandleCapabilities handle).find?
    (fun c => c.channelType = tpIfaceChannelTypeStreamedMedia)).elim 0#32
      ContactCapability.specific

/-- The old and the new flags that a call signals for a handle. -/
def signalled (handle : Nat) (calls : List CapabilityCall) : List (BitVec 32 × BitVec 32) :=
  calls.flatMap fun
    | .capabilitiesChanged caps =>
        (caps.filter (fun c => c.handle = handle ∧
          c.channelType = tpIfaceChannelTypeStreamedMedia)).map
            (fun c => (c.oldSpecific, c.newSpecific))
    | _ => []

/-- The calls that a step has added. -/
def newCalls (s s' : CapabilityConnection) : List CapabilityCall :=
  s'.calls.drop s.calls.length

/-- The signal for the self handle goes out exactly when the flags that the query gives have
changed, and carries them. -/
def SignalsQueried (s s' : CapabilityConnection) : Prop :=
  signalled s.selfHandle (newCalls s s') =
    if streamedMediaFlags s s.selfHandle = streamedMediaFlags s' s'.selfHandle then []
    else [(streamedMediaFlags s s.selfHandle, streamedMediaFlags s' s'.selfHandle)]

theorem streamedMediaFlags_self {s : CapabilityConnection} (hself : s.selfHandle ≠ 0) :
    streamedMediaFlags s s.selfHandle = purpleCapsToTpFlags s.uiCaps := by
  unfold streamedMediaFlags getHandleCapabilities mediaCaps
  rw [if_neg hself, if_pos rfl]
  dsimp only
  by_cases hzero : purpleCapsToTpFlags s.uiCaps = 0#32
  · have htext : ¬ tpIfaceChannelTypeText = tpIfaceChannelTypeStreamedMedia := by decide
    simp [hzero, htext]
  · simp [hzero]

theorem signalled_emit (s : CapabilityConnection) (handle : Nat) (old new : BitVec 32)
    (ret : CapabilityCall)
    (hret : ret = .returnFromAdvertiseCapabilities ∨ ret = .returnFromUpdateCapabilities) :
    signalled handle (newCalls s ((s.emitCapabilitiesChanged handle old new).call ret)) =
      if old = new then [] else [(old, new)] := by
  have hquiet : signalled handle [ret] = [] := by
    rcases hret with rfl | rfl <;> rfl
  unfold newCalls
  split
  · rename_i heq
    rw [heq, emitCapabilitiesChanged_self]
    simpa [CapabilityConnection.call] using hquiet
  · rename_i hne
    rw [emitCapabilitiesChanged_ne s handle hne]
    have hcalls : signalled handle [.capabilitiesChanged [capabilityChange handle old new],
        .contactCapabilitiesChanged handle (s.getHandleContactCapabilities handle), ret] =
        [(old, new)] ++ signalled handle [ret] := by
      simp [signalled, capabilityChange]
    rw [hquiet, List.append_nil] at hcalls
    simpa [CapabilityConnection.call] using hcalls

/-- The sibling path: when a buddy's capabilities change, the signal carries the flags that the
query gives for the old and the new ones. -/
theorem signalled_capsChangedCb (s : CapabilityConnection) (contact : Nat)
    (caps oldcaps : PurpleMediaCaps) :
    ∃ calls, (s.capsChangedCb contact caps oldcaps).calls = s.calls ++ calls ∧
      signalled contact calls =
        if purpleCapsToTpFlags oldcaps = purpleCapsToTpFlags caps then []
        else [(purpleCapsToTpFlags oldcaps, purpleCapsToTpFlags caps)] := by
  unfold capsChangedCb
  split
  · rename_i heq
    rw [heq, emitCapabilitiesChanged_self]
    exact ⟨[], by simp, rfl⟩
  · rename_i hne
    rw [emitCapabilitiesChanged_ne s contact hne]
    refine ⟨_, by rw [call, call, List.append_assoc], ?_⟩
    simp [signalled, capabilityChange]

/-- Video has no part in the call, before or after; or the call changes nothing. -/
def WithoutVideo (s : CapabilityConnection) (e : CapabilityEvent) : Prop :=
  (∀ m : Medium, Flags.Has s.uiCaps m.purpleCaps ↔ WillHave m s e) ∨
    ¬ Flags.Has s.uiCaps purpleMediaCapsVideo ∧ ¬ WillHave .video s e

theorem signalsQueried_iff {s s' : CapabilityConnection} {e : CapabilityEvent}
    (hs : s.status = .connected) (hself : s.selfHandle ≠ 0) (hold : AudioVideo s.uiCaps)
    (h : capabilities.step s e = .ok s') : SignalsQueried s s' ↔ WithoutVideo s e := by
  obtain ⟨t, caps, ret, hret, rfl, hnew, hwill⟩ := step_cases hs hold h
  obtain ⟨calls, hcalls⟩ := emitCapabilitiesChanged_frame
    { s with clientCaps := t, uiCaps := caps } s.selfHandle s.uiCaps caps
  have hbefore : streamedMediaFlags s s.selfHandle = purpleCapsToTpFlags s.uiCaps :=
    streamedMediaFlags_self hself
  have hafter : streamedMediaFlags
      (({ s with clientCaps := t, uiCaps := caps }.emitCapabilitiesChanged s.selfHandle
        s.uiCaps caps).call ret) s.selfHandle = purpleCapsToTpFlags caps := by
    rw [hcalls]
    exact streamedMediaFlags_self
      (s := { s with clientCaps := t, uiCaps := caps, calls := (s.calls ++ calls) ++ [ret] }) hself
  have hsignal := signalled_emit { s with clientCaps := t, uiCaps := caps } s.selfHandle s.uiCaps
    caps ret hret
  have hsame : s.uiCaps = caps ↔
      ∀ m : Medium, Flags.Has s.uiCaps m.purpleCaps ↔ WillHave m s e := by
    constructor
    · intro heq m
      rw [← hwill m, heq]
    · intro hm
      exact AudioVideo.ext hold hnew (fun m => (hm m).trans (hwill m).symm)
  have hself' : (({ s with clientCaps := t, uiCaps := caps }.emitCapabilitiesChanged s.selfHandle
      s.uiCaps caps).call ret).selfHandle = s.selfHandle := by
    rw [hcalls]
    rfl
  unfold SignalsQueried WithoutVideo
  rw [hself', hbefore, hafter, ← hsame, ← hwill .video]
  have hnewCalls : newCalls s (({ s with clientCaps := t, uiCaps := caps }.emitCapabilitiesChanged
      s.selfHandle s.uiCaps caps).call ret) = newCalls { s with clientCaps := t, uiCaps := caps }
        (({ s with clientCaps := t, uiCaps := caps }.emitCapabilitiesChanged s.selfHandle
          s.uiCaps caps).call ret) := rfl
  rw [hnewCalls, hsignal]
  exact encodings_agree_iff hold hnew

/-- A connected connection, with the capabilities that Haze gives libpurple. -/
structure Ready (s : CapabilityConnection) : Prop where
  connected : s.status = .connected
  self : s.selfHandle ≠ 0
  audioVideo : AudioVideo s.uiCaps

theorem Ready.step {s s' : CapabilityConnection} {e : CapabilityEvent} (hs : Ready s)
    (h : capabilities.step s e = .ok s') : Ready s' := by
  obtain ⟨t, caps, ret, -, rfl, hcaps, -⟩ := step_cases hs.connected hs.audioVideo h
  obtain ⟨calls, hcalls⟩ := emitCapabilitiesChanged_frame
    { s with clientCaps := t, uiCaps := caps } s.selfHandle s.uiCaps caps
  rw [hcalls]
  exact ⟨hs.connected, hs.self, hcaps⟩

/-- **`CapabilitiesChanged` and `GetCapabilities`.** In every sequence of calls that set
capabilities, each call signals exactly the change of what the query gives for the self handle if
and only if each call leaves video out, or changes nothing. -/
theorem capabilitiesChanged_agrees_iff {selfHandle : Nat} (hself : selfHandle ≠ 0)
    (prplMediaCaps : Nat → PurpleMediaCaps) {uiCaps : PurpleMediaCaps}
    (hcaps : AudioVideo uiCaps) {es : List CapabilityEvent} {s : CapabilityConnection}
    (hrun : capabilities.run (CapabilityConnection.init selfHandle prplMediaCaps uiCaps) es =
      .ok s) :
    capabilities.Meets (fun s e => ∀ s', capabilities.step s e = .ok s' → SignalsQueried s s')
        (CapabilityConnection.init selfHandle prplMediaCaps uiCaps) es ↔
      capabilities.Meets WithoutVideo
        (CapabilityConnection.init selfHandle prplMediaCaps uiCaps) es := by
  have hinit : Ready (CapabilityConnection.init selfHandle prplMediaCaps uiCaps) :=
    ⟨rfl, hself, hcaps⟩
  refine Machine.meets_iff_of_invariant (I := Ready) (fun s e s' hs _ hstep => ?_) hinit
    (Machine.meets_of_forall (p := fun _ => True) (fun _ _ => trivial) _) hrun
  have hiff := signalsQueried_iff hs.connected hs.self hs.audioVideo hstep
  exact ⟨(Machine.forall_step_iff hstep).trans hiff, fun _ => hs.step hstep⟩

/-- Audio is advertised, declared by a client and withdrawn. -/
theorem capabilitiesChanged_agrees_iff_audio :
    capabilities.Meets (fun s e => ∀ s', capabilities.step s e = .ok s' → SignalsQueried s s')
        (CapabilityConnection.init 1 (fun _ => 0#32) 0#32)
        [.advertiseCapabilities [⟨tpIfaceChannelTypeStreamedMedia, 1#32⟩] [],
          .updateCapabilities [⟨"A", [mediaClass .audio]⟩],
          .advertiseCapabilities [] [tpIfaceChannelTypeStreamedMedia]] ↔
      capabilities.Meets WithoutVideo (CapabilityConnection.init 1 (fun _ => 0#32) 0#32)
        [.advertiseCapabilities [⟨tpIfaceChannelTypeStreamedMedia, 1#32⟩] [],
          .updateCapabilities [⟨"A", [mediaClass .audio]⟩],
          .advertiseCapabilities [] [tpIfaceChannelTypeStreamedMedia]] :=
  capabilitiesChanged_agrees_iff (by decide) (fun _ => 0#32) (by decide) rfl

/-- Video that is advertised is signalled as 4 and queried as 2. -/
theorem capabilitiesChanged_mixes_encodings :
    ∃ s, capabilities.step (CapabilityConnection.init 1 (fun _ => 0#32) 0#32)
        (.advertiseCapabilities
          [⟨tpIfaceChannelTypeStreamedMedia, tpChannelMediaCapabilityVideo⟩] []) = .ok s ∧
      signalled 1 s.calls = [(0#32, 4#32)] ∧ streamedMediaFlags s 1 = 2#32 ∧
      ¬ SignalsQueried (CapabilityConnection.init 1 (fun _ => 0#32) 0#32) s := by
  refine ⟨_, rfl, by decide, by decide, ?_⟩
  unfold SignalsQueried
  decide

end Haze.Capabilities
