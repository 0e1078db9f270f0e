import Haze.Media.ChannelEnd

set_option autoImplicit false

/-! # The ends of the channels of a manager

The manager keeps a channel on its list until it says `Closed`, and every step of the manager is a
step of one of its channels (`EndInv.withChannel`) or makes a new one. What a step may leave is
summed up in `Advanced`: channels only come off the list, and stay closed.
-/

namespace Haze

namespace MediaEnd

open HazeMediaChannel (EndStep Waits endCalls endStep_close endStep_removeMember
  endStep_sessionEnd endStep_hangupReturns endStep_other)

variable {s s' t : MediaEnd} {m m' : HazeMediaManager} {channel : Nat} {b : Bool}
  {f : HazeMediaChannel → Except Fault HazeMediaChannel}

/-! ## The list of channels -/

theorem channels_succeededCb {context : Nat} (h : m.succeededCb context = .ok m') :
    m'.channels = m.channels := by
  unfold HazeMediaManager.succeededCb at h
  split at h
  · cases h
    rfl
  · cases h
    rfl
  · cases h
  · cases h

theorem channels_failedCb {context : Nat} {error : Option GError}
    (h : m.failedCb context error = .ok m') : m'.channels = m.channels := by
  unfold HazeMediaManager.failedCb at h
  split at h
  · cases h
    rfl
  · cases h
    rfl
  · cases h
  · cases h
  · cases h

theorem channels_callBack {c : MediaCall}
    (h : HazeMediaManager.callBack channel m c = .ok m') :
    m'.channels = if c = .closed then m.channels.erase channel else m.channels := by
  cases c with
  | succeeded context streams =>
      rw [if_neg (by simp)]
      exact channels_succeededCb h
  | failed context error =>
      rw [if_neg (by simp)]
      exact channels_failedCb h
  | closed =>
      cases h
      rfl
  | requestStreams context =>
      cases h
      rfl
  | initiateMedia type =>
      cases h
      rfl
  | hangup =>
      cases h
      rfl
  | streamAdded id peer mediaType =>
      cases h
      rfl
  | streamStateChanged id state =>
      cases h
      rfl
  | streamRemoved id =>
      cases h
      rfl

/-- A channel comes off the list when it says that it is closed. -/
theorem mem_channels_callBacks {new : List MediaCall} (hnodup : m.channels.Nodup)
    (h : new.foldlM (HazeMediaManager.callBack channel) m = .ok m') :
    m'.channels.Nodup ∧
      ∀ y, y ∈ m'.channels ↔ y ∈ m.channels ∧ (y = channel → .closed ∉ new) := by
  induction new generalizing m with
  | nil =>
      cases h
      exact ⟨hnodup, by simp⟩
  | cons c new ih =>
      rw [List.foldlM_cons] at h
      cases hc : HazeMediaManager.callBack channel m c with
      | error fault =>
          rw [hc] at h
          cases h
      | ok t =>
          rw [hc] at h
          have hchannels := channels_callBack hc
          by_cases hclosed : c = .closed
          · rw [if_pos hclosed] at hchannels
            obtain ⟨hnodup', hmem⟩ := ih (hchannels ▸ hnodup.erase channel) h
            refine ⟨hnodup', fun y => ?_⟩
            rw [hmem, hchannels, hnodup.mem_erase_iff, List.mem_cons, not_or, hclosed]
            tauto
          · rw [if_neg hclosed] at hchannels
            obtain ⟨hnodup', hmem⟩ := ih (hchannels ▸ hnodup) h
            refine ⟨hnodup', fun y => ?_⟩
            rw [hmem, hchannels, List.mem_cons, not_or]
            have hne : ¬ MediaCall.closed = c := fun heq => hclosed heq.symm
            tauto

/-- What a channel calls in a step is new, and the other channels call nothing. -/
theorem newCalls_set {o : MediaChannelObject} {chan : HazeMediaChannel}
    (ho : m.objects[channel]? = some o)
    (hobjects : m'.objects = m.objects.set channel { o with chan := chan }) (y : Nat) :
    newCalls m m' y = if y = channel then chan.calls.drop o.chan.calls.length else [] := by
  have hlt : channel < m.objects.length := (List.getElem?_eq_some_iff.mp ho).1
  unfold newCalls
  rw [hobjects]
  by_cases hy : y = channel
  · rw [hy, List.getElem?_set_self hlt, ho, if_pos rfl]
  · rw [List.getElem?_set_ne (fun heq => hy heq.symm), if_neg hy]
    cases hother : m.objects[y]? with
    | none => rfl
    | some o' => exact List.drop_length

/-- A step of a channel with its callbacks. -/
theorem withChannel_ok (hnodup : m.channels.Nodup) (h : m.withChannel channel f = .ok m') :
    ∃ o chan, m.objects[channel]? = some o ∧ f o.chan = .ok chan ∧
      m'.objects = m.objects.set channel { o with chan := chan } ∧ m'.channels.Nodup ∧
      ∀ y, y ∈ m'.channels ↔ y ∈ m.channels ∧
        (y = channel → .closed ∉ chan.calls.drop o.chan.calls.length) := by
  unfold HazeMediaManager.withChannel at h
  cases ho : m.objects[channel]? with
  | none =>
      rw [ho] at h
      cases h
  | some o =>
      simp only [ho] at h
      cases hchan : f o.chan with
      | error fault =>
          rw [hchan] at h
          cases h
      | ok chan =>
          simp only [hchan] at h
          have hback := HazeMediaManager.calledBack_foldlM h
          obtain ⟨hnodup', hmem⟩ := mem_channels_callBacks
            (m := { m with objects := m.objects.set channel { o with chan := chan } }) hnodup h
          exact ⟨o, chan, rfl, hchan, hback.objects, hnodup', hmem⟩

/-! ## The invariant -/

/-- What holds of the manager and its channels at any time. -/
structure EndInv (s : MediaEnd) : Prop where
  nodup : s.manager.channels.Nodup
  bound : ∀ y ∈ s.manager.channels, y < s.manager.objects.length
  fresh : ∀ y, s.manager.objects.length ≤ y → s.ends y = .init
  right : ∀ y o, s.manager.objects[y]? = some o →
    EndsRight (y ∈ s.manager.channels) o.chan (s.ends y)

/-- The channel has begun to close. -/
def IsClosed (m : HazeMediaManager) (channel : Nat) : Prop :=
  ∃ o, m.objects[channel]? = some o ∧ o.chan.closed = true

/-- Channels only come off the list, and stay closed. -/
structure Fewer (m m' : HazeMediaManager) : Prop where
  listed : ∀ y ∈ m'.channels, y ∈ m.channels
  closed : ∀ y, IsClosed m y → IsClosed m' y

/-- What a step from `s` leaves as it is, when the manager was `m` before. -/
structure Advanced (m : HazeMediaManager) (s s' : MediaEnd) : Prop where
  inv : s'.EndInv
  closing : s'.closing = s.closing
  disposeHasRun : s'.disposeHasRun = s.disposeHasRun
  fewer : Fewer m s'.manager

theorem endInv_init (protocol : String) (selfHandle : Nat) :
    (MediaEnd.init protocol selfHandle).EndInv where
  nodup := List.nodup_nil
  bound := by
    intro y hy
    cases hy
  fresh := fun _ _ => rfl
  right := by
    intro y o ho
    cases ho

/-- What decides about the ends of the other channels is as it was. -/
theorem EndInv.setEnd {g : ChannelEnd → ChannelEnd} (hs : s.EndInv)
    (hlt : channel < s.manager.objects.length)
    (hg : ∀ o, s.manager.objects[channel]? = some o →
      EndsRight (channel ∈ s.manager.channels) o.chan (g (s.ends channel))) :
    (s.setEnd channel g).EndInv where
  nodup := hs.nodup
  bound := hs.bound
  fresh := by
    intro y hy
    have hne : y ≠ channel := by
      rintro rfl
      exact Nat.lt_irrefl _ (Nat.lt_of_lt_of_le hlt hy)
    exact (Function.update_of_ne hne _ _).trans (hs.fresh y hy)
  right := by
    intro y o ho
    by_cases hy : y = channel
    · subst hy
      have hself : (s.setEnd y g).ends y = g (s.ends y) := Function.update_self _ _ _
      rw [hself]
      exact hg o ho
    · have hother : (s.setEnd channel g).ends y = s.ends y := Function.update_of_ne hy _ _
      rw [hother]
      exact hs.right y o ho

theorem advance_ok {r : Except Fault HazeMediaManager} (h : s.advance b r = .ok s') :
    r = .ok s'.manager ∧ s'.closing = s.closing ∧ s'.disposeHasRun = s.disposeHasRun ∧
      ∀ y, s'.ends y = { s.ends y with
        history := (s.ends y).history ++ endCalls b (newCalls s.manager s'.manager y) } := by
  unfold advance at h
  cases r with
  | error fault => cases h
  | ok m' =>
      cases h
      exact ⟨rfl, rfl, rfl, fun _ => rfl⟩

/-- **A step of one channel.** `t` is the manager before the step, with a channel or a context that
was made for it. -/
theorem EndInv.withChannel (ht : t.EndInv)
    (hnew : ∀ m' y, newCalls s.manager m' y = newCalls t.manager m' y)
    (hends : ∀ y, y ≠ channel → s.ends y = t.ends y)
    (hstep : ∀ o chan, t.manager.objects[channel]? = some o → f o.chan = .ok chan →
      ∃ new, EndStep b o.chan chan new ∧ ∀ listed listed',
        EndsRight listed o.chan (t.ends channel) → (listed' ↔ listed ∧ .closed ∉ new) →
        EndsRight listed' chan { s.ends channel with
          history := (s.ends channel).history ++ endCalls b new })
    (h : s.advance b (t.manager.withChannel channel f) = .ok s') :
    Advanced t.manager s s' ∧ ∃ o chan, t.manager.objects[channel]? = some o ∧ f o.chan = .ok chan ∧
      s'.manager.objects = t.manager.objects.set channel { o with chan := chan } := by
  obtain ⟨hwith, hclosing, hdispose, hafter⟩ := advance_ok h
  obtain ⟨o, chan, ho, hchan, hobjects, hnodup, hmem⟩ := withChannel_ok ht.nodup hwith
  obtain ⟨new, hend, hright⟩ := hstep o chan ho hchan
  have hlt : channel < t.manager.objects.length := (List.getElem?_eq_some_iff.mp ho).1
  have hlength : s'.manager.objects.length = t.manager.objects.length := by
    rw [hobjects, List.length_set]
  have hcalls : chan.calls.drop o.chan.calls.length = new := by
    rw [hend.calls, List.drop_left]
  have hcalled : ∀ y, newCalls s.manager s'.manager y = if y = channel then new else [] := by
    intro y
    rw [hnew, newCalls_set ho hobjects, hcalls]
  have hself : s'.ends channel = { s.ends channel with
      history := (s.ends channel).history ++ endCalls b new } := by
    rw [hafter, hcalled, if_pos rfl]
  have hother : ∀ y, y ≠ channel → s'.ends y = t.ends y := by
    intro y hy
    have hnone : endCalls b [] = [] := rfl
    rw [hafter, hcalled, if_neg hy, hnone, List.append_nil]
    exact hends y hy
  have hlisted : ∀ y ∈ s'.manager.channels, y ∈ t.manager.channels :=
    fun y hy => ((hmem y).mp hy).1
  refine ⟨⟨⟨hnodup, fun y hy => ?_, fun y hy => ?_, fun y o' ho' => ?_⟩,
    hclosing, hdispose, hlisted, fun y hy => ?_⟩, o, chan, ho, hchan, hobjects⟩
  · rw [hlength]
    exact ht.bound y (hlisted y hy)
  · rw [hlength] at hy
    have hne : y ≠ channel := by
      rintro rfl
      exact Nat.lt_irrefl _ (Nat.lt_of_lt_of_le hlt hy)
    rw [hother y hne]
    exact ht.fresh y hy
  · by_cases hy : y = channel
    · subst hy
      rw [hobjects, List.getElem?_set_self hlt] at ho'
      cases ho'
      rw [hself]
      refine hright _ _ (ht.right y o ho) ?_
      rw [hmem y, hcalls]
      simp
    · rw [hobjects, List.getElem?_set_ne (fun heq => hy heq.symm)] at ho'
      have hsame : y ∈ s'.manager.channels ↔ y ∈ t.manager.channels := by
        rw [hmem y]
        exact ⟨And.left, fun hlist => ⟨hlist, fun heq => absurd heq hy⟩⟩
      rw [hother y hy, hsame]
      exact ht.right y o' ho'
  · obtain ⟨o', ho', hclosed⟩ := hy
    by_cases heq : y = channel
    · subst heq
      rw [ho] at ho'
      cases ho'
      exact ⟨{ o with chan := chan }, by rw [hobjects, List.getElem?_set_self hlt],
        hend.closed hclosed⟩
    · refine ⟨o', ?_, hclosed⟩
      rw [hobjects, List.getElem?_set_ne (fun h => heq h.symm)]
      exact ho'

/-- A step of a channel from which nothing needs to be recorded besides what the channel calls. -/
theorem EndInv.stepChannel (ht : { s with manager := m }.EndInv)
    (hnew : ∀ m' y, newCalls s.manager m' y = newCalls m m' y)
    (hstep : ∀ o chan, m.objects[channel]? = some o → f o.chan = .ok chan →
      ∃ new, EndStep b o.chan chan new ∧
        ((s.ends channel).disposeHasRun = true → Waits o.chan chan))
    (hb : b = false → (s.ends channel).selfMember = true)
    (h : s.advance b (m.withChannel channel f) = .ok s') :
    Advanced m s s' ∧ ∃ o chan, m.objects[channel]? = some o ∧ f o.chan = .ok chan ∧
      s'.manager.objects = m.objects.set channel { o with chan := chan } := by
  refine ht.withChannel hnew (fun _ _ => rfl) (fun o chan ho hchan => ?_) h
  obtain ⟨new, hend, hwaits⟩ := hstep o chan ho hchan
  exact ⟨new, hend, fun _ _ hright hlisted => hright.step hend hb hwaits hlisted⟩

theorem Fewer.refl (m : HazeMediaManager) : Fewer m m := ⟨fun _ hy => hy, fun _ hy => hy⟩

theorem Advanced.of_manager (hs : s'.EndInv) (hmanager : s'.manager = m)
    (hclosing : s'.closing = s.closing) (hdispose : s'.disposeHasRun = s.disposeHasRun) :
    Advanced m s s' := ⟨hs, hclosing, hdispose, hmanager ▸ Fewer.refl m⟩

theorem EndInv.advanced (hs : s.EndInv) : Advanced s.manager s s :=
  Advanced.of_manager hs rfl rfl rfl

theorem Advanced.of_setEnd {g : ChannelEnd → ChannelEnd}
    (h : Advanced m (s.setEnd channel g) s') : Advanced m s s' :=
  ⟨h.inv, h.closing, h.disposeHasRun, h.fewer⟩

/-- What is left to be closed has nothing to do with the channels. -/
theorem EndInv.withClosing (hs : s.EndInv) (closing : List (List Nat)) (disposeHasRun : Bool) :
    { s with closing := closing, disposeHasRun := disposeHasRun }.EndInv :=
  ⟨hs.nodup, hs.bound, hs.fresh, hs.right⟩

/-! ## Outcomes -/

/-- The two assertions hold, and what a step leaves is as it should be. -/
structure Sound (p : MediaEnd → Prop) (r : Except EndFault MediaEnd) : Prop where
  ok : ∀ s', r = .ok s' → p s'
  notClosed : r ≠ .error .notClosed
  channelsLeft : r ≠ .error .channelsLeft

theorem sound_ok {p : MediaEnd → Prop} (h : p s) : Sound p (.ok s) where
  ok := by
    intro s' hs'
    cases hs'
    exact h
  notClosed := by simp
  channelsLeft := by simp

theorem sound_other (p : MediaEnd → Prop) (fault : Fault) : Sound p (.error (.other fault)) where
  ok := by
    intro s' hs'
    cases hs'
  notClosed := by simp
  channelsLeft := by simp

theorem sound_advance {p : MediaEnd → Prop} {r : Except Fault HazeMediaManager}
    (h : ∀ s', s.advance b r = .ok s' → p s') : Sound p (s.advance b r) := by
  cases r with
  | error fault => exact sound_other p fault
  | ok m' => exact sound_ok (h _ rfl)

theorem Sound.mono {p q : MediaEnd → Prop} {r : Except EndFault MediaEnd} (h : Sound p r)
    (hpq : ∀ s', p s' → q s') : Sound q r :=
  ⟨fun s' hs' => hpq s' (h.ok s' hs'), h.notClosed, h.channelsLeft⟩

theorem sound_ite {p : MediaEnd → Prop} {c : Prop} [Decidable c]
    {r r' : Except EndFault MediaEnd} (hpos : c → Sound p r) (hneg : ¬ c → Sound p r') :
    Sound p (if c then r else r') := by
  split
  · exact hpos ‹c›
  · exact hneg ‹¬ c›

/-! ## Closing -/

theorem EndInv.close (hs : s.EndInv) (channel : Nat) (disposing : Bool) :
    Sound (fun s' => Advanced s.manager s s' ∧ IsClosed s'.manager channel)
      (s.advance true (s.manager.withChannel channel (fun chan =>
        .ok (chan.hazeMediaChannelClose disposing)))) := by
  refine sound_advance (fun s' h => ?_)
  have hstep : ∀ o chan, s.manager.objects[channel]? = some o →
      (.ok (o.chan.hazeMediaChannelClose disposing) : Except Fault HazeMediaChannel) = .ok chan →
      ∃ new, EndStep true o.chan chan new ∧
        ((s.ends channel).disposeHasRun = true → Waits o.chan chan) := by
    intro o chan _ hchan
    cases hchan
    obtain ⟨-, new, hend, hwaits⟩ := endStep_close o.chan disposing
    exact ⟨new, hend, fun _ => hwaits⟩
  obtain ⟨hadvanced, o, chan, ho, hchan, hobjects⟩ :=
    hs.stepChannel (fun _ _ => rfl) hstep (by simp) h
  cases hchan
  have hlt : channel < s.manager.objects.length := (List.getElem?_eq_some_iff.mp ho).1
  refine ⟨hadvanced, { o with chan := o.chan.hazeMediaChannelClose disposing }, ?_,
    (@endStep_close true o.chan disposing).1⟩
  rw [hobjects, List.getElem?_set_self hlt]

theorem EndInv.closeAsync (hs : s.EndInv) (channel : Nat) :
    Sound (Advanced s.manager s) (s.closeAsync channel) := by
  unfold MediaEnd.closeAsync
  refine sound_ite (fun _ => sound_ok hs.advanced) (fun _ => ?_)
  exact (hs.close channel false).mono (fun _ h => h.1)

theorem EndInv.removeMember (hs : s.EndInv) (channel : Nat)
    (reason : TpChannelGroupChangeReason) :
    Sound (Advanced s.manager s) (s.hazeMediaChannelRemoveMember channel reason) := by
  unfold hazeMediaChannelRemoveMember
  cases ho : s.manager.objects[channel]? with
  | none => exact sound_ok hs.advanced
  | some o =>
      dsimp only
      refine sound_ite (fun _ => sound_ok hs.advanced) (fun hrefused => ?_)
      refine sound_ite (fun _ => sound_ok hs.advanced) (fun _ => ?_)
      have hmember : (s.ends channel).selfMember = true :=
        not_not.mp (fun hnot => hrefused (Or.inr hnot))
      refine sound_advance (fun s' h => ?_)
      refine (hs.stepChannel (fun _ _ => rfl) (fun o chan _ hchan => ?_) (fun _ => hmember) h).1
      cases hchan
      obtain ⟨new, hend, hwaits⟩ := endStep_removeMember o.chan
      exact ⟨new, hend, fun _ => hwaits⟩

theorem EndInv.selfRemoved (hs : s.EndInv) (channel : Nat) :
    Advanced s.manager s (s.selfRemoved channel) := by
  unfold MediaEnd.selfRemoved
  by_cases hlt : channel < s.manager.objects.length
  · rw [if_pos hlt]
    refine Advanced.of_manager (hs.setEnd hlt (fun o ho => ?_)) rfl rfl rfl
    have hright := hs.right channel o ho
    exact ⟨hright.balance, hright.listed, hright.hangups, fun hend => ⟨(hright.ended hend).1, rfl⟩,
      hright.after, hright.freed, hright.disposing⟩
  · rw [if_neg hlt]
    exact hs.advanced

theorem EndInv.sessionEnd (hs : s.EndInv) (channel : Nat) :
    Sound (Advanced s.manager s) (s.sessionEnd channel) := by
  unfold MediaEnd.sessionEnd
  cases ho : s.manager.objects[channel]? with
  | none => exact sound_ok hs.advanced
  | some o =>
      dsimp only
      refine sound_ite (fun _ => sound_ok hs.advanced) (fun _ => ?_)
      refine sound_ite (fun _ => sound_other _ _) (fun _ => ?_)
      let u := s.setEnd channel (fun e => { e with
        selfMember := false
        history := e.history ++ [.sessionEnd] })
      have hself : u.ends channel = { s.ends channel with
          selfMember := false
          history := (s.ends channel).history ++ [.sessionEnd] } := Function.update_self _ _ _
      have hothers : ∀ y, y ≠ channel → u.ends y = s.ends y :=
        fun y hy => Function.update_of_ne hy _ _
      refine sound_advance (fun s' h => ?_)
      have hadvanced : Advanced s.manager u s' := by
        refine (hs.withChannel (s := u) (fun _ _ => rfl) hothers (fun o chan _ hchan => ?_) h).1
        cases hchan
        obtain ⟨hended, new, hend, hsilent, hwaits⟩ := endStep_sessionEnd o.chan
        refine ⟨new, hend, fun listed listed' hright hlisted => ?_⟩
        rw [hself]
        exact hright.sessionEnd hend hended hsilent hwaits hlisted
      exact hadvanced.of_setEnd

/-! ## Disposal -/

@[simp] theorem setEnd_ends_self (s : MediaEnd) (channel : Nat) (g : ChannelEnd → ChannelEnd) :
    (s.setEnd channel g).ends channel = g (s.ends channel) := Function.update_self _ _ _

/-- What is known of a channel besides its history may be known before a step as well as after. -/
theorem advance_setEnd {g : ChannelEnd → ChannelEnd} {r : Except Fault HazeMediaManager}
    (hg : ∀ e history, g { e with history := history } = { g e with history := history })
    (h : s.advance b r = .ok s') :
    (s.setEnd channel g).advance b r = .ok (s'.setEnd channel g) := by
  cases r with
  | error fault => cases h
  | ok m' =>
      cases h
      have hends : ∀ y, ({ (s.setEnd channel g).ends y with
          history := ((s.setEnd channel g).ends y).history ++
            endCalls b (newCalls s.manager m' y) } : ChannelEnd) =
          Function.update (fun y => { s.ends y with
            history := (s.ends y).history ++ endCalls b (newCalls s.manager m' y) }) channel
            (g { s.ends channel with
              history := (s.ends channel).history ++
                endCalls b (newCalls s.manager m' channel) }) y := by
        intro y
        by_cases hy : y = channel
        · subst hy
          have hhistory := congrArg ChannelEnd.history (hg (s.ends y) (s.ends y).history)
          have hhistory : (g (s.ends y)).history = (s.ends y).history := hhistory
          simp only [setEnd, Function.update_self]
          rw [hhistory]
          exact (hg (s.ends y) _).symm
        · simp only [setEnd, Function.update_of_ne hy]
      exact congrArg Except.ok
        (congrArg (MediaEnd.mk m' · s.closing s.disposeHasRun) (funext hends))

/-- A channel that is closed is freed. -/
theorem finishDispose_eq {o : MediaChannelObject} (ho : s.manager.objects[channel]? = some o)
    (hclosed : o.chan.closed = true) :
    s.finishDispose channel = .ok (s.setEnd channel (fun e => { e with freed := true })) := by
  unfold finishDispose
  rw [ho]
  exact if_neg (not_not.mpr hclosed)

/-- **A step of disposal.** The channel closes or its hangup returns, and `g` says what is known
of its disposal then. -/
theorem EndInv.disposeStep (hs : s.EndInv) {step : HazeMediaChannel → HazeMediaChannel}
    (hstep : ∀ chan, ∃ new, EndStep true chan (step chan) new) {g : ChannelEnd → ChannelEnd}
    (disposeHasRun freed : Bool)
    (hg : ∀ e history, g { e with history := history } = { g e with history := history })
    (hends : g (s.ends channel) = { s.ends channel with
      disposeHasRun := disposeHasRun
      freed := freed })
    (hfreed : ∀ o, s.manager.objects[channel]? = some o → freed = true →
      (s.ends channel).freed = true ∨ (step o.chan).closed = true ∧ (step o.chan).closings = 0)
    (hdisposing : ∀ o, s.manager.objects[channel]? = some o → disposeHasRun = true →
      freed = true ∨ .closing true ∈ (step o.chan).stack)
    (h : s.advance true (s.manager.withChannel channel (fun chan => .ok (step chan))) = .ok s') :
    Advanced s.manager s (s'.setEnd channel g) := by
  let u := s.setEnd channel g
  have hself : u.ends channel = g (s.ends channel) := Function.update_self _ _ _
  have hothers : ∀ y, y ≠ channel → u.ends y = s.ends y :=
    fun y hy => Function.update_of_ne hy _ _
  have hu : u.advance true (s.manager.withChannel channel (fun chan => .ok (step chan))) =
      .ok (s'.setEnd channel g) := advance_setEnd hg h
  have hadvanced : Advanced s.manager u (s'.setEnd channel g) := by
    refine (hs.withChannel (s := u) (fun _ _ => rfl) hothers (fun o chan ho hchan => ?_) hu).1
    cases hchan
    obtain ⟨new, hend⟩ := hstep o.chan
    refine ⟨new, hend, fun listed listed' hright hlisted => ?_⟩
    rw [hself, hends]
    exact hright.dispose hend hlisted disposeHasRun freed (hfreed o ho) (hdisposing o ho)
  exact hadvanced.of_setEnd

theorem setEnd_setEnd (s : MediaEnd) (channel : Nat) (f g : ChannelEnd → ChannelEnd) :
    (s.setEnd channel f).setEnd channel g = s.setEnd channel (g ∘ f) := by
  simp only [setEnd, Function.update_idem, Function.update_self, Function.comp_apply]

/-- When libpurple and the manager are called for nothing but a hangup and `Closed`, nothing goes
wrong. -/
theorem withChannel_eq_ok {o : MediaChannelObject} {chan : HazeMediaChannel}
    (ho : m.objects[channel]? = some o) (hchan : f o.chan = .ok chan) {new : List MediaCall}
    (hcalls : chan.calls = o.chan.calls ++ new) (hnew : ∀ c ∈ new, c = .hangup ∨ c = .closed) :
    ∃ m', m.withChannel channel f = .ok m' := by
  have hback : ∀ t : HazeMediaManager,
      ∃ m', new.foldlM (HazeMediaManager.callBack channel) t = .ok m' := by
    clear hcalls
    induction new with
    | nil => exact fun t => ⟨t, rfl⟩
    | cons c new ih =>
        intro t
        have hrest := ih (fun c hc => hnew c (List.mem_cons_of_mem _ hc))
        rw [List.foldlM_cons]
        rcases hnew c List.mem_cons_self with rfl | rfl
        · exact hrest t
        · exact hrest (t.mediaChannelClosedCb channel)
  unfold HazeMediaManager.withChannel
  rw [ho]
  dsimp only
  rw [hchan]
  dsimp only
  rw [hcalls, List.drop_left]
  exact hback _

/-- Closing goes through. -/
theorem close_eq_ok {o : MediaChannelObject} (ho : s.manager.objects[channel]? = some o)
    (disposing : Bool) : ∃ s', s.advance b (s.manager.withChannel channel (fun chan =>
      .ok (chan.hazeMediaChannelClose disposing))) = .ok s' := by
  have hcalls : ∃ new, (o.chan.hazeMediaChannelClose disposing).calls = o.chan.calls ++ new ∧
      ∀ c ∈ new, c = .hangup ∨ c = .closed := by
    rcases HazeMediaChannel.hazeMediaChannelClose_cases o.chan disposing with
      ⟨-, media, hclose⟩ | ⟨-, -, -, hclose⟩ | ⟨-, -, hclose⟩
    · rw [hclose]
      exact ⟨[], (List.append_nil _).symm, by simp⟩
    · rw [hclose]
      exact ⟨[.hangup], rfl, by simp⟩
    · rw [hclose]
      exact ⟨[.closed], by cases disposing <;> rfl, by simp⟩
  obtain ⟨new, hnew, hquiet⟩ := hcalls
  obtain ⟨m', hm'⟩ := withChannel_eq_ok (f := fun chan =>
    .ok (chan.hazeMediaChannelClose disposing)) ho rfl hnew hquiet
  exact ⟨_, congrArg (s.advance b) hm'⟩

/-- The return of a hangup goes through. -/
theorem hangupReturns_eq_ok {o : MediaChannelObject}
    (ho : s.manager.objects[channel]? = some o) : ∃ s', s.advance b
      (s.manager.withChannel channel (fun chan => .ok chan.hangupReturns)) = .ok s' := by
  have hcalls : ∃ new, o.chan.hangupReturns.calls = o.chan.calls ++ new ∧
      ∀ c ∈ new, c = .hangup ∨ c = .closed := by
    rcases HazeMediaChannel.hangupReturns_cases o.chan with
      hreturns | ⟨stack, -, hreturns⟩ | ⟨disposing, stack, -, hreturns⟩
    · rw [hreturns]
      exact ⟨[], (List.append_nil _).symm, by simp⟩
    · rw [hreturns]
      exact ⟨[], (List.append_nil _).symm, by simp⟩
    · rw [hreturns]
      exact ⟨[.closed], by cases disposing <;> rfl, by simp⟩
  obtain ⟨new, hnew, hquiet⟩ := hcalls
  obtain ⟨m', hm'⟩ := withChannel_eq_ok (f := fun chan => .ok chan.hangupReturns) ho rfl hnew hquiet
  exact ⟨_, congrArg (s.advance b) hm'⟩

/-- What is left of the object after a step of its channel. -/
theorem getElem?_advance {step : HazeMediaChannel → HazeMediaChannel} {o : MediaChannelObject}
    (hs : s.EndInv) (ho : s.manager.objects[channel]? = some o)
    (h : s.advance b (s.manager.withChannel channel (fun chan => .ok (step chan))) = .ok s') :
    s'.manager.objects[channel]? = some { o with chan := step o.chan } := by
  obtain ⟨o', chan, ho', hchan, hobjects, -⟩ := withChannel_ok hs.nodup (advance_ok h).1
  rw [ho] at ho'
  cases ho'
  cases hchan
  rw [hobjects, List.getElem?_set_self (List.getElem?_eq_some_iff.mp ho).1]

/-- What is left of disposal when the channel has closed: the flag, and the channel is freed unless
its hangup is under way. -/
theorem hazeMediaChannelDispose_eq {t : MediaEnd} {o o' : MediaChannelObject}
    (ho : s.manager.objects[channel]? = some o) (hrun : (s.ends channel).disposeHasRun = false)
    (hstack : o.chan.stack.all MediaFrame.initiates = true)
    (ht : s.advance true (s.manager.withChannel channel (fun chan =>
      .ok (chan.hazeMediaChannelClose true))) = .ok t)
    (ho' : t.manager.objects[channel]? = some o') (hclosed : o'.chan.closed = true) :
    s.hazeMediaChannelDispose channel =
      if o'.chan.stack.any MediaFrame.closes
      then .ok (t.setEnd channel (fun e => { e with disposeHasRun := true }))
      else .ok (t.setEnd channel (fun e => { e with disposeHasRun := true, freed := true })) := by
  have hu : (s.setEnd channel (fun e => { e with disposeHasRun := true })).advance true
      (s.manager.withChannel channel (fun chan => .ok (chan.hazeMediaChannelClose true))) =
        .ok (t.setEnd channel (fun e => { e with disposeHasRun := true })) :=
    advance_setEnd (fun _ _ => rfl) ht
  have hfinish := finishDispose_eq
    (s := t.setEnd channel (fun e => { e with disposeHasRun := true })) ho' hclosed
  rw [setEnd_setEnd] at hfinish
  have hgo : ¬ ((s.ends channel).disposeHasRun = true ∨
      ¬ o.chan.stack.all MediaFrame.initiates = true) := by
    simp [hrun, hstack]
  unfold hazeMediaChannelDispose
  rw [ho]
  dsimp only
  rw [if_neg hgo, hu]
  dsimp only
  show (if (t.manager.objects[channel]?).any _ = true then _ else _) = _
  rw [ho', hfinish]
  rfl

/-- `haze_media_channel_dispose` goes through. -/
theorem EndInv.dispose_ok (hs : s.EndInv) {o : MediaChannelObject}
    (ho : s.manager.objects[channel]? = some o) (hrun : (s.ends channel).disposeHasRun = false)
    (hstack : o.chan.stack.all MediaFrame.initiates = true) :
    ∃ s', s.hazeMediaChannelDispose channel = .ok s' ∧ Advanced s.manager s s' ∧
      (s'.ends channel).disposeHasRun = true := by
  obtain ⟨t, ht⟩ := close_eq_ok (s := s) (b := true) ho true
  have hclosed : (o.chan.hazeMediaChannelClose true).closed = true :=
    (@endStep_close true o.chan true).1
  have hopen : ∀ frame ∈ o.chan.stack, ¬ frame.closes = true := by
    intro frame hframe hcloses
    have hinitiates := List.all_eq_true.mp hstack frame hframe
    cases frame with
    | initiateMedia psr context rest => cases hcloses
    | closing disposing => cases hinitiates
    | removing => cases hinitiates
  have hstep : ∀ chan : HazeMediaChannel,
      ∃ new, EndStep true chan (chan.hazeMediaChannelClose true) new := by
    intro chan
    obtain ⟨-, new, hend, -⟩ := endStep_close chan true
    exact ⟨new, hend⟩
  have hobject : t.manager.objects[channel]? =
      some { o with chan := o.chan.hazeMediaChannelClose true } := getElem?_advance hs ho ht
  have hdispose := hazeMediaChannelDispose_eq ho hrun hstack ht hobject hclosed
  by_cases hany : (o.chan.hazeMediaChannelClose true).stack.any MediaFrame.closes = true
  · rw [if_pos hany] at hdispose
    refine ⟨_, hdispose, ?_, by simp⟩
    refine hs.disposeStep hstep true (s.ends channel).freed
      (fun _ _ => rfl) rfl (fun _ _ hfreed => Or.inl hfreed) (fun o' ho' _ => ?_) ht
    rw [ho] at ho'
    cases ho'
    refine Or.inr ((HazeMediaChannel.hazeMediaChannelClose_disposing hopen).resolve_left ?_)
    intro hnone
    obtain ⟨frame, hframe, hcloses⟩ := List.any_eq_true.mp hany
    exact List.countP_eq_zero.mp hnone frame hframe hcloses
  · rw [if_neg hany] at hdispose
    refine ⟨_, hdispose, ?_, by simp⟩
    refine hs.disposeStep hstep true true
      (fun _ _ => rfl) rfl (fun o' ho' _ => ?_) (fun _ _ _ => Or.inl rfl) ht
    rw [ho] at ho'
    cases ho'
    refine Or.inr ⟨hclosed, List.countP_eq_zero.mpr (fun frame hframe hcloses => hany ?_)⟩
    exact List.any_eq_true.mpr ⟨frame, hframe, hcloses⟩

theorem EndInv.dispose (hs : s.EndInv) (channel : Nat) :
    Sound (Advanced s.manager s) (s.hazeMediaChannelDispose channel) := by
  cases ho : s.manager.objects[channel]? with
  | none =>
      unfold hazeMediaChannelDispose
      rw [ho]
      exact sound_ok hs.advanced
  | some o =>
      by_cases hgo : (s.ends channel).disposeHasRun = true ∨
          ¬ o.chan.stack.all MediaFrame.initiates = true
      · unfold hazeMediaChannelDispose
        rw [ho]
        dsimp only
        rw [if_pos hgo]
        exact sound_ok hs.advanced
      · obtain ⟨hrun, hstack⟩ := not_or.mp hgo
        obtain ⟨s', hs', hadvanced, -⟩ :=
          hs.dispose_ok ho (by simpa using hrun) (not_not.mp hstack)
        rw [hs']
        exact sound_ok hadvanced

/-- The hangup of disposal returns, and the channel is freed. -/
theorem EndInv.disposed_ok (hs : s.EndInv) {o : MediaChannelObject}
    (ho : s.manager.objects[channel]? = some o)
    (hhead : o.chan.stack.head? = some (.closing true)) :
    ∃ s', s.hangupReturns channel = .ok s' ∧ Advanced s.manager s s' ∧
      (s'.ends channel).freed = true := by
  obtain ⟨t, ht⟩ := hangupReturns_eq_ok (s := s) (b := true) ho
  -- the flag accounts for the hangup that has returned
  have hdone : o.chan.hangupReturns.closed = true ∧ o.chan.hangupReturns.closings = 0 := by
    have hbalance := (hs.right channel o ho).balance
    have hbound : o.chan.closed.toNat ≤ 1 := Bool.toNat_le _
    have hreturned := HazeMediaChannel.closings_hangupReturns hhead
    obtain ⟨new, hend, -⟩ := @endStep_hangupReturns true o.chan
    have hone : o.chan.closed.toNat = 1 := by omega
    exact ⟨hend.closed (Bool.toNat_eq_one.mp hone), by omega⟩
  have hobject : t.manager.objects[channel]? = some { o with chan := o.chan.hangupReturns } :=
    getElem?_advance hs ho ht
  have hreturns : s.hangupReturns channel =
      .ok (t.setEnd channel (fun e => { e with freed := true })) := by
    have hdisposing : (s.manager.objects[channel]?).any (fun o =>
        o.chan.stack.head? = some (.closing true)) = true := by
      rw [ho]
      exact decide_eq_true hhead
    unfold MediaEnd.hangupReturns
    dsimp only
    rw [ht, hdisposing]
    exact finishDispose_eq hobject hdone.1
  refine ⟨_, hreturns, ?_, by simp⟩
  refine hs.disposeStep (fun chan => ?_) (s.ends channel).disposeHasRun true
    (fun _ _ => rfl) rfl (fun o' ho' _ => ?_) (fun _ _ _ => Or.inl rfl) ht
  · obtain ⟨new, hend, -⟩ := endStep_hangupReturns chan
    exact ⟨new, hend⟩
  · rw [ho] at ho'
    cases ho'
    exact Or.inr hdone

theorem EndInv.hangupReturns (hs : s.EndInv) (channel : Nat) :
    Sound (Advanced s.manager s) (s.hangupReturns channel) := by
  by_cases hdisposing : (s.manager.objects[channel]?).any (fun o =>
      o.chan.stack.head? = some (.closing true)) = true
  · cases ho : s.manager.objects[channel]? with
    | none =>
        rw [ho] at hdisposing
        cases hdisposing
    | some o =>
        rw [ho] at hdisposing
        obtain ⟨s', hs', hadvanced, -⟩ := hs.disposed_ok ho (of_decide_eq_true hdisposing)
        rw [hs']
        exact sound_ok hadvanced
  · have hreturns : s.hangupReturns channel = s.advance true
        (s.manager.withChannel channel (fun chan => .ok chan.hangupReturns)) := by
      unfold MediaEnd.hangupReturns
      dsimp only
      cases s.advance true (s.manager.withChannel channel (fun chan => .ok chan.hangupReturns)) with
      | error fault => rfl
      | ok s' => exact if_neg hdisposing
    rw [hreturns]
    refine sound_advance (fun s' h => ?_)
    refine (hs.stepChannel (fun _ _ => rfl) (fun o chan ho hchan => ?_) (by simp) h).1
    cases hchan
    obtain ⟨new, hend, hwaits⟩ := endStep_hangupReturns o.chan
    refine ⟨new, hend, fun _ => hwaits (fun hhead => hdisposing ?_)⟩
    rw [ho]
    exact decide_eq_true hhead

/-! ## New channels -/

theorem EndInv.congr (hs : { s with manager := m }.EndInv) (hobjects : m'.objects = m.objects)
    (hchannels : m'.channels = m.channels) : { s with manager := m' }.EndInv where
  nodup := by
    show m'.channels.Nodup
    rw [hchannels]
    exact hs.nodup
  bound := by
    show ∀ y ∈ m'.channels, y < m'.objects.length
    rw [hchannels, hobjects]
    exact hs.bound
  fresh := by
    show ∀ y, m'.objects.length ≤ y → s.ends y = .init
    rw [hobjects]
    exact hs.fresh
  right := by
    show ∀ y o, m'.objects[y]? = some o → EndsRight (y ∈ m'.channels) o.chan (s.ends y)
    rw [hobjects, hchannels]
    exact hs.right

theorem endsRight_init (protocol : String) (peer : Nat) (media : Bool) :
    EndsRight True (.init protocol peer media) .init where
  balance := rfl
  listed := by simp [ChannelEnd.init]
  hangups := Nat.zero_le _
  ended := by
    intro hmem
    cases hmem
  after := List.Pairwise.nil
  freed := by
    intro hfreed
    cases hfreed
  disposing := by
    intro hrun
    cases hrun

theorem EndInv.newMediaChannel (hs : s.EndInv) (media : Bool) (peer : Nat)
    (initialAudio initialVideo : Bool) :
    { s with manager := (s.manager.newMediaChannel media peer initialAudio initialVideo).1 }.EndInv
    := by
  let n := s.manager.objects.length
  let t := (s.manager.newMediaChannel media peer initialAudio initialVideo).1
  have hlength : t.objects.length = n + 1 := List.length_append
  have hnew : n ∉ s.manager.channels := fun hmem => Nat.lt_irrefl _ (hs.bound n hmem)
  have hlisted : ∀ y, y ∈ t.channels ↔ y ∈ s.manager.channels ∨ y = n := by
    intro y
    exact List.mem_append.trans (or_congr_right List.mem_singleton)
  refine ⟨?_, fun y hy => ?_, fun y hy => ?_, fun y o ho => ?_⟩
  · have hnodup : t.channels = s.manager.channels.concat n := List.concat_eq_append.symm
    rw [hnodup]
    exact hs.nodup.concat hnew
  · rw [hlength]
    rcases (hlisted y).mp hy with hy | rfl
    · exact Nat.lt_succ_of_lt (hs.bound y hy)
    · exact Nat.lt_succ_self n
  · rw [hlength] at hy
    exact hs.fresh y (Nat.le_of_succ_le hy)
  · rcases HazeMediaManager.getElem?_concat_cases ho with hbefore | ⟨rfl, rfl⟩
    · have hne : y ≠ n := Nat.ne_of_lt (List.getElem?_eq_some_iff.mp hbefore).1
      have hsame : y ∈ t.channels ↔ y ∈ s.manager.channels := by
        rw [hlisted]
        exact or_iff_left hne
      have hright : EndsRight (y ∈ t.channels) o.chan (s.ends y) := by
        rw [hsame]
        exact hs.right y o hbefore
      exact hright
    · have htrue : n ∈ t.channels ↔ True := iff_true_intro ((hlisted n).mpr (Or.inr rfl))
      have hright : EndsRight (n ∈ t.channels) (.init s.manager.protocol peer media)
          (s.ends n) := by
        rw [htrue, hs.fresh n (Nat.le_refl n)]
        exact endsRight_init s.manager.protocol peer media
      exact hright

/-- The new channel has called nothing. -/
theorem newCalls_concat {o : MediaChannelObject} (hcalls : o.chan.calls = [])
    (hobjects : m.objects = s.manager.objects ++ [o]) (m' : HazeMediaManager) (y : Nat) :
    newCalls s.manager m' y = newCalls m m' y := by
  unfold newCalls
  rw [hobjects]
  cases m'.objects[y]? with
  | none => rfl
  | some o' =>
      rcases Nat.lt_trichotomy y s.manager.objects.length with hlt | rfl | hgt
      · rw [List.getElem?_append_left hlt]
      · rw [List.getElem?_concat_length, List.getElem?_eq_none (Nat.le_refl _)]
        show o'.chan.calls = o'.chan.calls.drop o.chan.calls.length
        rw [hcalls]
        rfl
      · have hlength : (s.manager.objects ++ [o]).length ≤ y := by
          rw [List.length_append]
          exact hgt
        rw [List.getElem?_eq_none hlength, List.getElem?_eq_none (Nat.le_of_lt hgt)]

/-- The manager goes on, and no channel calls anything. -/
theorem EndInv.silent {r : Except Fault HazeMediaManager} (hr : r = .ok m)
    (hm : { s with manager := m }.EndInv)
    (hsilent : ∀ y, newCalls s.manager m y = []) (h : s.advance true r = .ok s') :
    s'.EndInv := by
  obtain ⟨hmanager, -, -, hends⟩ := advance_ok h
  rw [hr] at hmanager
  cases hmanager
  have hsame : ∀ y, s'.ends y = s.ends y := by
    intro y
    have hnone : endCalls true [] = [] := rfl
    rw [hends, hsilent, hnone, List.append_nil]
  exact ⟨hm.nodup, hm.bound, fun y hy => (hsame y).trans (hm.fresh y hy), fun y o ho =>
    (hsame y).symm ▸ hm.right y o ho⟩

theorem newCalls_of_objects (hobjects : m'.objects = m.objects) (y : Nat) :
    newCalls m m' y = [] := by
  unfold newCalls
  rw [hobjects]
  cases m.objects[y]? with
  | none => rfl
  | some o => exact List.drop_length

theorem EndInv.initMedia (hs : s.EndInv) {initiator : Bool} {contact : Nat}
    (h : s.advance true (mediaManagers.step s.manager (.initMedia initiator contact)) = .ok s') :
    s'.EndInv := by
  have hstep : mediaManagers.step s.manager (.initMedia initiator contact) =
      .ok (s.manager.initMediaCb initiator contact) := rfl
  unfold HazeMediaManager.initMediaCb at hstep
  cases initiator with
  | true => exact EndInv.silent hstep hs (newCalls_of_objects rfl) h
  | false =>
      refine EndInv.silent hstep ?_ (fun y => ?_) h
      · exact (hs.newMediaChannel true contact false false).congr rfl rfl
      · rw [newCalls_concat (m := (s.manager.newMediaChannel true contact false false).1) rfl rfl]
        exact newCalls_of_objects rfl y

theorem EndInv.createChannel (hs : s.EndInv) {requestToken handle : Nat} {properties : Asv}
    {caps : PurpleMediaCaps}
    (hcreate : s.manager.createChannel requestToken properties handle caps = .ok m)
    (h : s.advance true (.ok m) = .ok s') : s'.EndInv := by
  obtain ⟨initialAudio, initialVideo, types, hwith⟩ :=
    HazeMediaManager.createChannel_ok hcreate
  rw [← hwith] at h
  have ht : { s with
      manager := ((s.manager.newMediaChannel false handle initialAudio initialVideo).1.allocate
        (.request s.manager.objects.length requestToken)).1 }.EndInv :=
    (hs.newMediaChannel false handle initialAudio initialVideo).congr rfl rfl
  refine (ht.stepChannel (newCalls_concat rfl rfl) (fun o chan _ hchan => ?_) (by simp) h).1.inv
  obtain ⟨new, hend, hwaits⟩ := (HazeMediaChannel.inert_requestStreams hchan).endStep
  exact ⟨new, hend, fun _ => hwaits⟩

/-- A request for a channel makes one, or does nothing to the channels. -/
theorem EndInv.request (hs : s.EndInv) {method : RequestMethod} {requestToken : Nat}
    {properties : Asv} {caps : PurpleMediaCaps}
    (h : s.advance true (mediaManagers.step s.manager
      (.request method requestToken properties caps)) = .ok s') : s'.EndInv := by
  have hstep : mediaManagers.step s.manager (.request method requestToken properties caps) =
      (s.manager.requestotron requestToken properties method caps).map Prod.fst := rfl
  cases hrequest : s.manager.requestotron requestToken properties method caps with
  | error fault =>
      rw [hstep, hrequest] at h
      cases h
  | ok result =>
      obtain ⟨m, handled⟩ := result
      rw [hrequest] at hstep
      have hsilent : m.objects = s.manager.objects → m.channels = s.manager.channels →
          s'.EndInv := by
        intro hobjects hchannels
        exact EndInv.silent hstep (EndInv.congr (m := s.manager) hs hobjects hchannels)
          (newCalls_of_objects hobjects) h
      rcases HazeMediaManager.requestotron_ok hrequest with
        ⟨-, rfl⟩ | ⟨error, -, rfl⟩ | ⟨handle, -, ⟨y, -, rfl⟩ | ⟨-, hcreate⟩⟩
      · exact hsilent rfl rfl
      · exact hsilent rfl rfl
      · exact hsilent rfl rfl
      · rw [hstep] at h
        exact hs.createChannel hcreate h

theorem EndInv.requestStreams (hs : s.EndInv) {contactHandle : Nat} {types : List Nat}
    {caps : PurpleMediaCaps} (h : s.advance true (mediaManagers.step s.manager
      (.requestStreams channel contactHandle types caps)) = .ok s') :
    Advanced s.manager s s' := by
  have ht : { s with manager := (s.manager.allocate (.invocation channel)).1 }.EndInv :=
    EndInv.congr (m := s.manager) hs rfl rfl
  have hchannel : s.advance true ((s.manager.allocate (.invocation channel)).1.withChannel channel
      (fun chan => chan.mediaChannelRequestStreams contactHandle types caps
        s.manager.contexts.length)) = .ok s' := h
  have hadvanced : Advanced (s.manager.allocate (.invocation channel)).1 s s' := by
    refine (ht.stepChannel (fun _ _ => rfl) (fun o chan _ hchan => ?_) (by simp) hchannel).1
    obtain ⟨new, hend, hwaits⟩ := (HazeMediaChannel.inert_requestStreams hchan).endStep
    exact ⟨new, hend, fun _ => hwaits⟩
  exact ⟨hadvanced.inv, hadvanced.closing, hadvanced.disposeHasRun, hadvanced.fewer.listed,
    hadvanced.fewer.closed⟩

end MediaEnd

end Haze
