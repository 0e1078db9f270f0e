import Haze.Media.ManagerEnds

set_option autoImplicit false

/-! # A media channel closes once

The manager that is disposed of closes its channels one by one: each is still to come, or its flag
is set (`Disposing`), so that none is left when the last hangup has returned. With what holds of
each channel (`EndsRight`) this gives, for every run, what `channels_close_once` says.
-/

namespace Haze

namespace MediaEnd

open HazeMediaChannel (endStep_other)

variable {s s' : MediaEnd}

/-! ## Disposal of the manager -/

/-- Once the manager is being disposed of, a channel on the list is still to be closed, or is
closing. -/
def Disposing (s : MediaEnd) : Prop :=
  s.disposeHasRun = true → s.closing.length ≤ 1 ∧
    ∀ y ∈ s.manager.channels, y ∈ s.closing.flatten ∨ IsClosed s.manager y

theorem Disposing.advanced (hs : s.Disposing) (h : Advanced s.manager s s') : s'.Disposing := by
  intro hdispose
  rw [h.disposeHasRun] at hdispose
  obtain ⟨hlength, hlisted⟩ := hs hdispose
  rw [h.closing]
  exact ⟨hlength, fun y hy =>
    (hlisted y (h.fewer.listed y hy)).imp_right (h.fewer.closed y)⟩

/-- What holds at any time. -/
structure Ending (s : MediaEnd) : Prop where
  inv : s.EndInv
  disposing : s.Disposing

theorem Ending.advanced (hs : s.Ending) (h : Advanced s.manager s s') : s'.Ending :=
  ⟨h.inv, hs.disposing.advanced h⟩

theorem ending_init (protocol : String) (selfHandle : Nat) :
    (MediaEnd.init protocol selfHandle).Ending where
  inv := endInv_init protocol selfHandle
  disposing := by
    intro hdispose
    cases hdispose

theorem Ending.goOn (hs : s.Ending) (e : HazeMediaManager.Event) : Sound Ending (s.goOn e) := by
  unfold MediaEnd.goOn
  have hbegun : ¬ s.disposeHasRun = true → ∀ s', s.advance true (mediaManagers.step s.manager e) =
      .ok s' → s'.EndInv → s'.Ending := by
    intro hnot s' h hinv
    obtain ⟨-, -, hdispose, -⟩ := advance_ok h
    refine ⟨hinv, fun htrue => ?_⟩
    rw [hdispose] at htrue
    exact absurd htrue hnot
  cases e with
  | request method requestToken properties caps =>
      exact sound_ite (fun _ => sound_ok hs) (fun hdispose =>
        sound_advance (fun s' h => hbegun hdispose s' h (hs.inv.request h)))
  | initMedia initiator contact =>
      exact sound_ite (fun _ => sound_ok hs) (fun hdispose =>
        sound_advance (fun s' h => hbegun hdispose s' h (hs.inv.initMedia h)))
  | requestStreams channel contactHandle types caps =>
      exact sound_ite (fun _ => sound_ok hs) (fun _ =>
        sound_advance (fun s' h => hs.advanced (hs.inv.requestStreams h)))
  | channel channel e =>
      refine sound_ite (fun _ => sound_ok hs) (fun hends => ?_)
      refine sound_ite (fun _ => sound_other _ _) (fun _ => ?_)
      have hother : endsChannel e = false := by simpa using hends
      refine sound_advance (fun s' h => hs.advanced ?_)
      have hchannel : s.advance true (s.manager.withChannel channel
          (fun chan => mediaChannels.step chan e)) = .ok s' := h
      refine (hs.inv.stepChannel (fun _ _ => rfl) (fun o chan _ hchan => ?_) (by simp) hchannel).1
      obtain ⟨new, hend, hwaits⟩ := endStep_other hother hchan
      exact ⟨new, hend, fun _ => hwaits⟩

theorem Ending.closeAll (hs : s.Ending) : s.closeAll.Ending := by
  unfold MediaEnd.closeAll
  by_cases hdispose : s.disposeHasRun = true
  · rw [if_pos hdispose]
    exact hs
  · rw [if_neg hdispose]
    exact ⟨hs.inv.withClosing _ _, fun htrue => absurd htrue hdispose⟩

theorem Ending.disposeManager (hs : s.Ending) : s.hazeMediaManagerDispose.Ending := by
  unfold hazeMediaManagerDispose
  by_cases hnot : s.disposeHasRun = true ∨ ¬ s.manager.Quiescent ∨ s.closing ≠ []
  · rw [if_pos hnot]
    exact hs
  · rw [if_neg hnot]
    refine ⟨hs.inv.withClosing _ _, fun _ => ⟨Nat.le_refl 1, fun y hy => Or.inl ?_⟩⟩
    rw [List.flatten_singleton]
    exact hy

/-- When the last channel has been closed and no hangup is under way, the list is empty. -/
theorem Ending.channels_eq_nil (hs : s.Ending) (hdispose : s.disposeHasRun = true)
    {loops : List (List Nat)} (hclosing : s.closing = [] :: loops)
    (hquiet : s.manager.Quiescent) : s.manager.channels = [] := by
  apply List.eq_nil_iff_forall_not_mem.mpr
  intro y hy
  obtain ⟨hlength, hlisted⟩ := hs.disposing hdispose
  have hnone : s.closing.flatten = [] := by
    rw [hclosing, List.length_cons] at hlength
    rw [hclosing, List.eq_nil_of_length_eq_zero (Nat.le_zero.mp (Nat.le_of_succ_le_succ hlength))]
    rfl
  rcases hlisted y hy with hmem | ⟨o, ho, hclosed⟩
  · rw [hnone] at hmem
    cases hmem
  · have hright := hs.inv.right y o ho
    have hclosings : o.chan.closings = 0 := by
      rw [HazeMediaChannel.closings, hquiet o (List.mem_of_getElem? ho)]
      rfl
    exact hright.listed.mp hy (hright.mem_closed hclosed hclosings)

theorem Ending.closeNext (hs : s.Ending) : Sound Ending s.closeNext := by
  unfold MediaEnd.closeNext
  cases hclosing : s.closing with
  | nil => exact sound_ok hs
  | cons loop loops =>
      cases loop with
      | nil =>
          dsimp only
          have hinv : { s with closing := loops }.EndInv := hs.inv.withClosing _ _
          have hdisposing : { s with closing := loops }.Disposing := by
            intro hdispose
            obtain ⟨hlength, hlisted⟩ := hs.disposing hdispose
            rw [hclosing] at hlength hlisted
            exact ⟨Nat.le_of_succ_le hlength, hlisted⟩
          refine sound_ite (fun hdispose => ?_) (fun _ => sound_ok ⟨hinv, hdisposing⟩)
          refine sound_ite (fun _ => sound_ok hs) (fun hquiet => ?_)
          have hnone := hs.channels_eq_nil hdispose hclosing (not_not.mp hquiet)
          rw [if_neg (not_not.mpr hnone)]
          exact sound_ok ⟨hinv, hdisposing⟩
      | cons channel rest =>
          dsimp only
          refine sound_ite (fun _ => sound_other _ _) (fun _ => ?_)
          have hinv : { s with closing := rest :: loops }.EndInv := hs.inv.withClosing _ _
          refine (hinv.close channel false).mono (fun s' h => ⟨h.1.inv, fun hdispose => ?_⟩)
          have hbefore : s.disposeHasRun = true := h.1.disposeHasRun.symm.trans hdispose
          obtain ⟨hlength, hlisted⟩ := hs.disposing hbefore
          have hafter : s'.closing = rest :: loops := h.1.closing
          rw [hclosing] at hlength hlisted
          rw [hafter]
          refine ⟨hlength, fun y hy => ?_⟩
          rcases hlisted y (h.1.fewer.listed y hy) with hmem | hclosed
          · rcases List.mem_cons.mp hmem with rfl | hmem
            · exact Or.inr h.2
            · exact Or.inl hmem
          · exact Or.inr (h.1.fewer.closed y hclosed)

/-- **The step lemma.** -/
theorem Ending.step (hs : s.Ending) (e : Event) : Sound Ending (mediaEnds.step s e) := by
  have hadvanced : ∀ {r}, Sound (Advanced s.manager s) r → Sound Ending r :=
    fun h => h.mono (fun _ hs' => hs.advanced hs')
  cases e with
  | closeAsync channel => exact hadvanced (hs.inv.closeAsync channel)
  | removeMember channel reason => exact hadvanced (hs.inv.removeMember channel reason)
  | selfRemoved channel => exact hadvanced (sound_ok (hs.inv.selfRemoved channel))
  | sessionEnd channel => exact hadvanced (hs.inv.sessionEnd channel)
  | hangupReturns channel => exact hadvanced (hs.inv.hangupReturns channel)
  | dispose channel => exact hadvanced (hs.inv.dispose channel)
  | closeAll => exact sound_ok hs.closeAll
  | closeNext => exact hs.closeNext
  | disposeManager => exact sound_ok hs.disposeManager
  | manager e => exact hs.goOn e

/-! ## What a channel does about its end -/

/-- The channel has been disposed of: it is freed, and has said once that it is closed. -/
structure Disposed (s : MediaEnd) (channel : Nat) : Prop where
  freed : (s.ends channel).freed = true
  closed : (s.ends channel).history.count .closed = 1

/-- The disposal of the channel waits for its hangup. -/
def DisposalWaits (s : MediaEnd) (channel : Nat) : Prop :=
  ∃ o, s.manager.objects[channel]? = some o ∧ .closing true ∈ o.chan.stack

/-- What a media channel does about its end. -/
structure ClosesOnce (s : MediaEnd) : Prop where
  once : ∀ channel, (s.ends channel).history.count .closed ≤ 1
  disposed : ∀ channel, (s.ends channel).freed = true → (s.ends channel).history.count .closed = 1
  /-- a disposal that has begun is over, or waits for its hangup -/
  disposing : ∀ channel, (s.ends channel).disposeHasRun = true →
    s.Disposed channel ∨ s.DisposalWaits channel
  /-- a channel that no hangup holds is disposed of at once, or hangs up for it -/
  dispose : ∀ channel o, s.manager.objects[channel]? = some o →
    (∀ frame ∈ o.chan.stack, frame.initiates = true) →
    ∃ s', mediaEnds.step s (.dispose channel) = .ok s' ∧
      (s'.Disposed channel ∨ s'.DisposalWaits channel)
  /-- the return of this hangup is the end of the disposal -/
  returned : ∀ channel o, s.manager.objects[channel]? = some o →
    o.chan.stack.head? = some (.closing true) →
    ∃ s', mediaEnds.step s (.hangupReturns channel) = .ok s' ∧ s'.Disposed channel
  /-- what is there to close a channel closes it -/
  closes : ∀ channel o, s.manager.objects[channel]? = some o → (s.ends channel).freed = false →
    (∃ s', mediaEnds.step s (.closeAsync channel) = .ok s' ∧ IsClosed s'.manager channel) ∧
    (∀ rest loops, s.closing = (channel :: rest) :: loops →
      ∃ s', mediaEnds.step s .closeNext = .ok s' ∧ IsClosed s'.manager channel) ∧
    ∀ s', o.chan.live = true → mediaEnds.step s (.sessionEnd channel) = .ok s' →
      IsClosed s'.manager channel
  listed : ∀ channel < s.manager.objects.length,
    channel ∈ s.manager.channels ↔ .closed ∉ (s.ends channel).history
  /-- the flag says the same, unless `haze_media_channel_close` is hanging up -/
  flag : ∀ channel o, s.manager.objects[channel]? = some o →
    (∀ frame ∈ o.chan.stack, ¬ frame.closes = true) →
    (channel ∈ s.manager.channels ↔ o.chan.closed = false)
  hangup : ∀ channel, (s.ends channel).history.count (.hangup true) ≤ 1
  never : ∀ channel,
    (s.ends channel).history.Pairwise (fun x y => x = .sessionEnd → ∀ b, y ≠ .hangup b)

/-- A channel exists, or nothing has happened to it. -/
theorem EndInv.right_or_init (hs : s.EndInv) (channel : Nat) :
    (∃ o listed, EndsRight listed o (s.ends channel)) ∨ s.ends channel = .init := by
  by_cases hlt : channel < s.manager.objects.length
  · exact Or.inl ⟨_, _, hs.right channel _ (List.getElem?_eq_getElem hlt)⟩
  · exact Or.inr (hs.fresh channel (Nat.le_of_not_lt hlt))

theorem EndsRight.count_closed_le {listed : Prop} {chan : HazeMediaChannel} {e : ChannelEnd}
    (h : EndsRight listed chan e) : e.history.count .closed ≤ 1 := by
  have hbalance := h.balance
  have hbound : chan.closed.toNat ≤ 1 := Bool.toNat_le _
  omega

theorem EndInv.disposed (hs : s.EndInv) {channel : Nat} (hfreed : (s.ends channel).freed = true) :
    s.Disposed channel := by
  refine ⟨hfreed, ?_⟩
  rcases hs.right_or_init channel with ⟨o, listed, hright⟩ | hinit
  · exact Nat.le_antisymm hright.count_closed_le (List.count_pos_iff.mpr (hright.freed hfreed))
  · rw [hinit] at hfreed
    cases hfreed

theorem EndInv.disposed_or_waits (hs : s.EndInv) {channel : Nat}
    (hrun : (s.ends channel).disposeHasRun = true) :
    s.Disposed channel ∨ s.DisposalWaits channel := by
  cases ho : s.manager.objects[channel]? with
  | none =>
      rw [hs.fresh channel (List.getElem?_eq_none_iff.mp ho)] at hrun
      cases hrun
  | some o =>
      rcases (hs.right channel o ho).disposing hrun with hfreed | hwaits
      · exact Or.inl (hs.disposed hfreed)
      · exact Or.inr ⟨o, ho, hwaits⟩

/-- Disposal begins, unless it has begun before. -/
theorem EndInv.dispose_completes (hs : s.EndInv) {channel : Nat} {o : MediaChannelObject}
    (ho : s.manager.objects[channel]? = some o)
    (hstack : ∀ frame ∈ o.chan.stack, frame.initiates = true) :
    ∃ s', s.hazeMediaChannelDispose channel = .ok s' ∧
      (s'.Disposed channel ∨ s'.DisposalWaits channel) := by
  cases hrun : (s.ends channel).disposeHasRun with
  | true =>
      refine ⟨s, ?_, hs.disposed_or_waits hrun⟩
      unfold hazeMediaChannelDispose
      rw [ho]
      exact if_pos (Or.inl hrun)
  | false =>
      obtain ⟨s', hs', hadvanced, hdone⟩ := hs.dispose_ok ho hrun (List.all_eq_true.mpr hstack)
      exact ⟨s', hs', hadvanced.inv.disposed_or_waits hdone⟩

theorem EndInv.close_closes (hs : s.EndInv) {channel : Nat} {o : MediaChannelObject}
    (ho : s.manager.objects[channel]? = some o) :
    ∃ s', s.hazeMediaChannelClose channel = .ok s' ∧ IsClosed s'.manager channel := by
  obtain ⟨s', hs'⟩ := close_eq_ok (s := s) (b := true) ho false
  exact ⟨s', hs', ((hs.close channel false).ok s' hs').2⟩

theorem EndInv.sessionEnd_closes (hs : s.EndInv) {channel : Nat} {o : MediaChannelObject}
    (ho : s.manager.objects[channel]? = some o) (hlive : o.chan.live = true)
    (h : s.sessionEnd channel = .ok s') : IsClosed s'.manager channel := by
  unfold MediaEnd.sessionEnd at h
  rw [ho] at h
  dsimp only at h
  rw [if_neg (not_not.mpr hlive)] at h
  split_ifs at h
  obtain ⟨o', chan, ho', hchan, hobjects, -⟩ := withChannel_ok hs.nodup (advance_ok h).1
  rw [ho] at ho'
  cases ho'
  cases hchan
  refine ⟨_, by rw [hobjects, List.getElem?_set_self (List.getElem?_eq_some_iff.mp ho).1], ?_⟩
  rcases HazeMediaChannel.sessionEnd_cases o.chan with ⟨hclosed, hend⟩ | ⟨-, hend⟩
  · exact (congrArg HazeMediaChannel.closed hend).trans hclosed
  · exact congrArg HazeMediaChannel.closed hend

theorem EndInv.closesOnce (hs : s.EndInv) : s.ClosesOnce where
  once := by
    intro channel
    rcases hs.right_or_init channel with ⟨o, listed, hright⟩ | hinit
    · exact hright.count_closed_le
    · rw [hinit]
      exact Nat.zero_le 1
  disposed := fun channel hfreed => (hs.disposed hfreed).closed
  disposing := fun channel hrun => hs.disposed_or_waits hrun
  dispose := fun channel o ho hstack => hs.dispose_completes ho hstack
  returned := by
    intro channel o ho hhead
    obtain ⟨s', hs', hadvanced, hfreed⟩ := hs.disposed_ok ho hhead
    exact ⟨s', hs', hadvanced.inv.disposed hfreed⟩
  closes := by
    intro channel o ho hfreed
    have hnot : ¬ (s.ends channel).freed = true := by simp [hfreed]
    refine ⟨?_, fun rest loops hclosing => ?_, fun s' hlive h => hs.sessionEnd_closes ho hlive h⟩
    · obtain ⟨s', hs', hclosed⟩ := hs.close_closes ho
      exact ⟨s', (if_neg hnot).trans hs', hclosed⟩
    · have hinv : { s with closing := rest :: loops }.EndInv := hs.withClosing _ _
      obtain ⟨s', hs', hclosed⟩ := hinv.close_closes ho
      refine ⟨s', ?_, hclosed⟩
      show s.closeNext = .ok s'
      unfold MediaEnd.closeNext
      rw [hclosing]
      exact (if_neg hnot).trans hs'
  listed := by
    intro channel hlt
    exact (hs.right channel _ (List.getElem?_eq_getElem hlt)).listed
  flag := by
    intro channel o ho hframes
    have hright := hs.right channel o ho
    have hclosings : o.chan.closings = 0 := List.countP_eq_zero.mpr hframes
    have hbalance := hright.balance
    rw [hclosings, Nat.zero_add] at hbalance
    rw [hright.listed, ← List.count_eq_zero, ← hbalance]
    exact Bool.toNat_eq_zero
  hangup := by
    intro channel
    rcases hs.right_or_init channel with ⟨o, listed, hright⟩ | hinit
    · exact hright.hangups.trans (Bool.toNat_le _)
    · rw [hinit]
      exact Nat.zero_le 1
  never := by
    intro channel
    rcases hs.right_or_init channel with ⟨o, listed, hright⟩ | hinit
    · exact hright.after
    · rw [hinit]
      exact List.Pairwise.nil

/-- **A media channel closes once.** Whatever the order in which it is closed, the local user is
removed, the session ends, the manager closes all channels, and the channels and the manager are
disposed of: what a channel does about its end is right, disposal comes to an end with the channel
closed and freed, and neither assertion fails. -/
theorem channels_close_once (protocol : String) (selfHandle : Nat) (es : List Event) :
    (∀ s, mediaEnds.run (.init protocol selfHandle) es = .ok s → s.ClosesOnce) ∧
      mediaEnds.run (.init protocol selfHandle) es ≠ .error .notClosed ∧
      mediaEnds.run (.init protocol selfHandle) es ≠ .error .channelsLeft := by
  have hinit : Sound Ending (.ok (MediaEnd.init protocol selfHandle)) :=
    sound_ok (ending_init protocol selfHandle)
  have hrun : Sound Ending (mediaEnds.run (.init protocol selfHandle) es) :=
    Machine.run_outcome (fun s e hs => (hs.ok s rfl).step e) es hinit
  exact ⟨fun s hs => (hrun.ok s hs).inv.closesOnce, hrun.notClosed, hrun.channelsLeft⟩

end MediaEnd

end Haze
