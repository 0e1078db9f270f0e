import Haze.Media.Kept

set_option autoImplicit false

/-! # What `EnsureChannel` returns

A channel is on the manager's list from its creation on, and announced when the streams that were
requested with it are there. In between `EnsureChannel` finds it and returns a channel that nobody
has heard of. This is the only way in which that happens (`ensure_announced_iff`): a channel on the
list is announced, or its request is outstanding, or it is being closed.
-/

namespace Haze

namespace HazeMediaManager

variable {m m' : HazeMediaManager} {channel : Nat}

/-- The channel is not closed. -/
def Open (m : HazeMediaManager) (channel : Nat) : Prop :=
  ∃ o ∈ m.objects[channel]?, o.chan.closed = false

/-- The request that the channel was created for waits for its streams. -/
def Outstanding (m : HazeMediaManager) (channel : Nat) : Prop :=
  ∃ o ∈ m.objects[channel]?, ∃ x ∈ o.chan.outstanding, m.IsCreation channel x

/-- The channels that a step returns for `EnsureChannel` are announced and not closed. -/
def EnsureRight (m m' : HazeMediaManager) : Prop :=
  ∀ channel ∈ (m'.calls.drop m.calls.length).filterMap MediaManagerCall.returns,
    m.Announced channel ∧ m.Open channel

/-- Every channel on the list is announced, or its request is outstanding. -/
def ListRight (m : HazeMediaManager) : Prop :=
  ∀ channel ∈ m.channels, m.Announced channel ∨ m.Outstanding channel

/-- No call into libpurple is under way. -/
def Quiescent (m : HazeMediaManager) : Prop := ∀ o ∈ m.objects, o.chan.stack = []

/-- Calls from the bus are dealt with one after the other, not from inside libpurple. -/
def Legal (m : HazeMediaManager) : Event → Prop
  | .request _ _ _ _ => m.Quiescent
  | .initMedia _ _ => True
  | .requestStreams _ _ _ _ => m.Quiescent
  | .channel _ (.requestStreams _ _ _ _) => False
  | .channel _ _ => True

/-- The channel that `EnsureChannel` finds. -/
def found (m : HazeMediaManager) : Event → Option Nat
  | .request .ensure _ properties _ =>
      match requested properties with
      | .ok (.contact handle) => m.findPeer handle
      | _ => none
  | _ => none

/-- A channel that `EnsureChannel` finds is not one whose request is outstanding. -/
def NoneOutstanding (m : HazeMediaManager) (e : Event) : Prop :=
  ∀ channel ∈ m.found e, ¬ m.Outstanding channel

instance (m : HazeMediaManager) : DecidablePred m.Open :=
  fun _ => inferInstanceAs (Decidable (∃ _ ∈ _, _))

instance (m : HazeMediaManager) : DecidablePred m.Outstanding :=
  fun channel => inferInstanceAs
    (Decidable (∃ o ∈ m.objects[channel]?, ∃ x ∈ o.chan.outstanding, m.IsCreation channel x))

instance (m : HazeMediaManager) : Decidable m.Quiescent :=
  inferInstanceAs (Decidable (∀ o ∈ m.objects, o.chan.stack = []))

instance (m : HazeMediaManager) : DecidablePred m.Legal
  | .request _ _ _ _ => inferInstanceAs (Decidable m.Quiescent)
  | .initMedia _ _ => isTrue trivial
  | .requestStreams _ _ _ _ => inferInstanceAs (Decidable m.Quiescent)
  | .channel _ (.requestStreams _ _ _ _) => isFalse id
  | .channel _ (.initiateMediaReturns _) => isTrue trivial
  | .channel _ .hangupReturns => isTrue trivial
  | .channel _ .initMedia => isTrue trivial
  | .channel _ (.streamNew _) => isTrue trivial
  | .channel _ (.streamEnd _) => isTrue trivial
  | .channel _ .sessionEnd => isTrue trivial
  | .channel _ .close => isTrue trivial
  | .channel _ .removeMember => isTrue trivial
  | .channel _ .dispose => isTrue trivial

instance (m : HazeMediaManager) : DecidablePred m.NoneOutstanding :=
  fun e => inferInstanceAs (Decidable (∀ channel ∈ m.found e, ¬ m.Outstanding channel))

/-- **The step lemma.** -/
theorem Keeping.step (hm : Keeping (fun _ => []) m) {e : Event} (hlegal : m.Legal e)
    (h : mediaManagers.step m e = .ok m') : Keeping (fun _ => []) m' := by
  cases e with
  | request method requestToken properties caps =>
      obtain ⟨handled, hrequest⟩ := step_request_ok h
      exact hm.requestotron hrequest
  | initMedia initiator contact =>
      cases h
      exact hm.initMediaCb initiator contact
  | requestStreams channel contactHandle types caps => exact hm.requestStreams h
  | channel channel e =>
      have hchannel : m.withChannel channel (fun chan => mediaChannels.step chan e) = .ok m' := h
      refine hm.withChannel (fun _ _ => rfl) (fun o chan ho hchan => ?_) hchannel
      have hevent : ∀ contactHandle types caps context,
          e ≠ .requestStreams contactHandle types caps context := by
        rintro contactHandle types caps context rfl
        exact hlegal
      obtain ⟨new, hsettles⟩ := HazeMediaChannel.step_settles (hm.kept channel o ho).waiting
        hevent hchan
      exact ⟨new, hsettles.calls, fun _ => ⟨hsettles, fun _ _ _ hx => absurd hx List.not_mem_nil⟩⟩

/-! ## What is returned -/

/-- The channels that a step returns for a request though they were there before. -/
def returned (m m' : HazeMediaManager) : List Nat :=
  (m'.calls.drop m.calls.length).filterMap MediaManagerCall.returns

theorem returned_of_append {added : List MediaManagerCall} (h : m'.calls = m.calls ++ added) :
    returned m m' = added.filterMap MediaManagerCall.returns := by
  unfold returned
  rw [h, List.drop_left]

theorem returned_withChannel {t : HazeMediaManager}
    {f : HazeMediaChannel → Except Fault HazeMediaChannel} (ht : t.calls = m.calls)
    (h : t.withChannel channel f = .ok m') : returned m m' = [] := by
  obtain ⟨o, chan, -, -, hback⟩ := withChannel_ok h
  obtain ⟨added, hcalls, hadded⟩ := hback.returns
  have hall : m'.calls = m.calls ++ added := by
    rw [hcalls, ← ht]
  rw [returned_of_append hall, hadded]

theorem returned_createChannel {requestToken handle : Nat} {properties : Asv}
    {caps : PurpleMediaCaps} (h : m.createChannel requestToken properties handle caps = .ok m') :
    returned m m' = [] := by
  obtain ⟨initialAudio, initialVideo, types, hwith⟩ := createChannel_ok h
  refine returned_withChannel ?_ hwith
  rfl

/-- What a step returns is what `EnsureChannel` finds. -/
theorem returned_step {e : Event} (h : mediaManagers.step m e = .ok m') :
    returned m m' = (m.found e).toList := by
  have hsame : returned m m = [] := by
    rw [returned_of_append (List.append_nil _).symm]
    rfl
  cases e with
  | request method requestToken properties caps =>
      obtain ⟨handled, hrequest⟩ := step_request_ok h
      rcases requestotron_ok hrequest with ⟨hrequested, rfl⟩ | ⟨error, hrequested, rfl⟩ |
        ⟨handle, hrequested, hcontact⟩
      · rw [hsame]
        cases method <;> simp [found, hrequested]
      · have hcalls : (m.emit (.requestFailed requestToken error)).calls =
            m.calls ++ [.requestFailed requestToken error] := rfl
        rw [returned_of_append hcalls]
        cases method <;> simp [found, hrequested, MediaManagerCall.returns]
      · have hfound : m.found (.request method requestToken properties caps) =
            if method = .ensure then m.findPeer handle else none := by
          cases method <;> simp [found, hrequested]
        rw [hfound]
        rcases hcontact with ⟨y, hy, rfl⟩ | ⟨hnone, hcreate⟩
        · have hcalls : (m.emit (.requestAlreadySatisfied requestToken y)).calls =
              m.calls ++ [.requestAlreadySatisfied requestToken y] := rfl
          rw [returned_of_append hcalls, hy]
          rfl
        · rw [hnone]
          exact returned_createChannel hcreate
  | initMedia initiator contact =>
      cases h
      unfold initMediaCb
      split
      · exact hsame
      · have hcalls : ((m.newMediaChannel true contact false false).1.emit
            (.newChannel m.objects.length [])).calls =
              m.calls ++ [.newChannel m.objects.length []] := rfl
        exact returned_of_append hcalls
  | requestStreams channel contactHandle types caps =>
      have hchannel : (m.allocate (.invocation channel)).1.withChannel channel (fun chan =>
          chan.mediaChannelRequestStreams contactHandle types caps m.contexts.length) = .ok m' := h
      refine returned_withChannel ?_ hchannel
      rfl
  | channel channel e =>
      have hchannel : m.withChannel channel (fun chan => mediaChannels.step chan e) = .ok m' := h
      exact returned_withChannel rfl hchannel

/-! ## The list -/

/-- A channel that is found is on the list. -/
theorem mem_of_found {e : Event} (h : channel ∈ m.found e) :
    channel ∈ m.channels ∧ ∃ requestToken properties caps,
      e = .request .ensure requestToken properties caps := by
  unfold found at h
  split at h
  · rename_i requestToken properties caps
    split at h
    · exact ⟨List.mem_of_find?_eq_some h, requestToken, properties, caps, rfl⟩
    · cases h
  · cases h

/-- When no call is under way, a channel on the list is not closed, and it has been announced unless
its request is outstanding. -/
theorem Keeping.announced_and_open_iff (hm : Keeping (fun _ => []) m) (hquiet : m.Quiescent)
    (hlisted : channel ∈ m.channels) :
    (m.Announced channel ∧ m.Open channel) ↔ ¬ m.Outstanding channel := by
  have hlt := hm.listed channel hlisted
  have ho : m.objects[channel]? = some m.objects[channel] := List.getElem?_eq_getElem hlt
  have hkept := hm.kept channel _ ho
  have hclosing : ¬ (m.objects[channel]).chan.Closing := by
    rintro ⟨disposing, hmem⟩
    rw [hquiet _ (List.getElem_mem hlt)] at hmem
    cases hmem
  constructor
  · rintro ⟨hannounced, -⟩ ⟨o, -, x, -, hcreation⟩
    exact (hm.creation channel x hcreation).2 hannounced
  · intro hnot
    refine ⟨?_, _, ho, ?_⟩
    · rcases hkept.listed hlisted with hannounced | ⟨x, hx, hcreation⟩ | hbad
      · exact hannounced
      · exact absurd ⟨_, ho, x, hx, hcreation⟩ hnot
      · exact absurd hbad hclosing
    · by_contra hopen
      exact hclosing (hkept.closed hlisted (Bool.not_eq_false _ ▸ hopen))

theorem Keeping.listRight (hm : Keeping (fun _ => []) m) (hquiet : m.Quiescent) : m.ListRight := by
  intro y hy
  by_cases hout : m.Outstanding y
  · exact Or.inr hout
  · exact Or.inl ((hm.announced_and_open_iff hquiet hy).mpr hout).1

/-- `EnsureChannel` is right exactly when it does not find a channel whose request is
outstanding. -/
theorem Keeping.ensureRight_iff (hm : Keeping (fun _ => []) m) {e : Event} (hlegal : m.Legal e)
    (h : mediaManagers.step m e = .ok m') : m.EnsureRight m' ↔ m.NoneOutstanding e := by
  have hreturned := returned_step h
  unfold returned at hreturned
  unfold EnsureRight NoneOutstanding
  rw [hreturned]
  refine forall_congr' fun y => ?_
  rw [Option.mem_toList]
  refine imp_congr_right fun hfound => ?_
  obtain ⟨hlisted, requestToken, properties, caps, rfl⟩ := mem_of_found hfound
  exact hm.announced_and_open_iff hlegal hlisted

/-- **What `EnsureChannel` returns.** In every run it returns announced, open channels only if and
only if it never finds a channel whose request is outstanding. The channels on the list are
announced or wait for their streams, whenever no call is under way. -/
theorem ensure_announced_iff (protocol : String) (selfHandle : Nat) (es : List Event)
    (hlegal : mediaManagers.Meets Legal (.init protocol selfHandle) es)
    (hrun : mediaManagers.run (.init protocol selfHandle) es = .ok m) :
    (mediaManagers.Meets (fun m e => ∀ m', mediaManagers.step m e = .ok m' → m.EnsureRight m')
      (.init protocol selfHandle) es ↔
        mediaManagers.Meets NoneOutstanding (.init protocol selfHandle) es) ∧
      (m.Quiescent → m.ListRight) := by
  have hinit := keeping_init protocol selfHandle
  constructor
  · refine Machine.meets_iff_of_invariant (fun m e m' hm he hstep => ?_) hinit hlegal hrun
    rw [Machine.forall_step_iff hstep]
    exact ⟨hm.ensureRight_iff he hstep, fun _ => hm.step he hstep⟩
  · have hkeeping := Machine.run_invariant (fun m e m' hm he hstep => hm.step he hstep) hinit
      hlegal hrun
    exact hkeeping.listRight

open Capabilities in
/-- A request for a call with the contact `handle`. -/
def callTo (handle : Nat) : Asv :=
  [⟨tpPropChannelChannelType, .string tpIfaceChannelTypeStreamedMedia⟩,
    ⟨tpPropChannelTargetHandleType, .uint tpHandleTypeContact⟩,
    ⟨tpPropChannelTargetHandle, .uint handle⟩,
    ⟨tpPropChannelTypeStreamedMediaInitialAudio, .boolean true⟩].toAList

/-- The stream for the first request is there before the second request comes. -/
theorem ensure_announced_call :
    ∃ m, mediaManagers.run (.init "jabber" 1)
        [.request .create 1 (callTo 2) ⟨true, true, true⟩, .channel 0 .initMedia,
          .channel 0 (.streamNew tpMediaStreamTypeAudio), .channel 0 (.initiateMediaReturns true),
          .request .ensure 2 (callTo 2) ⟨true, true, true⟩] = .ok m ∧
      m.Announced 0 ∧ m.ListRight :=
  ⟨_, rfl, by decide, (ensure_announced_iff "jabber" 1
    [.request .create 1 (callTo 2) ⟨true, true, true⟩, .channel 0 .initMedia,
      .channel 0 (.streamNew tpMediaStreamTypeAudio), .channel 0 (.initiateMediaReturns true),
      .request .ensure 2 (callTo 2) ⟨true, true, true⟩] (by decide) rfl).2 (by decide)⟩

/-- `EnsureChannel` for a contact that is being called. -/
theorem ensure_unannounced :
    ¬ ∀ (es : List Event) (m : HazeMediaManager),
      mediaManagers.Meets Legal (.init "jabber" 1) es →
      mediaManagers.run (.init "jabber" 1) es = .ok m →
      mediaManagers.Meets (fun m e => ∀ m', mediaManagers.step m e = .ok m' → m.EnsureRight m')
        (.init "jabber" 1) es ∧ (m.Quiescent → m.ListRight) := by
  intro hall
  have hright := (hall
    [.request .create 1 (callTo 2) ⟨true, true, true⟩, .channel 0 (.initiateMediaReturns true),
      .request .ensure 2 (callTo 2) ⟨true, true, true⟩] _ (by decide) rfl).1
  have hensure := ((hright.tail rfl).tail rfl).head _ rfl
  have hannounced := (hensure 0 (by decide)).1
  revert hannounced
  decide

end HazeMediaManager

end Haze
