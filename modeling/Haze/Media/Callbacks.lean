import Haze.Media.Manager
import Haze.Media.Slots

set_option autoImplicit false

/-! # The callbacks of a media channel

What a step of a channel means to the manager. `CalledBack` sums up the callbacks for a list of
calls: each frees its context, so that no context is called back with twice; the success of the
request that a channel was created for announces the channel; and a channel that is closed comes
off the list.
-/

namespace Haze

namespace HazeMediaManager

variable {m m' m'' : HazeMediaManager} {channel : Nat} {new new' : List MediaCall}
  {c : MediaCall}

/-- The channel has been announced. -/
def Announced (m : HazeMediaManager) (channel : Nat) : Prop :=
  channel ∈ m.calls.filterMap MediaManagerCall.announces

/-- The context of the request that the channel was created for. -/
def IsCreation (m : HazeMediaManager) (channel x : Nat) : Prop :=
  (m.contexts[x]?).bind MediaContext.creates = some channel

instance (m : HazeMediaManager) : DecidablePred m.Announced :=
  fun _ => inferInstanceAs (Decidable (_ ∈ _))

instance (m : HazeMediaManager) (channel : Nat) : DecidablePred (m.IsCreation channel) :=
  fun _ => inferInstanceAs (Decidable (_ = _))

/-- What the callbacks for the calls `new` of a channel do. -/
structure CalledBack (channel : Nat) (m : HazeMediaManager) (new : List MediaCall)
    (m' : HazeMediaManager) : Prop where
  objects : m'.objects = m.objects
  selfHandle : m'.selfHandle = m.selfHandle
  nodup : m.channels.Nodup → m'.channels.Nodup
  channels : ∀ y ∈ m'.channels, y ∈ m.channels
  closed : m.channels.Nodup → .closed ∈ new → channel ∉ m'.channels
  /-- a context is called back with at most once -/
  once : (new.filterMap MediaCall.replies).Nodup
  live : ∀ x ∈ new.filterMap MediaCall.replies, ∃ context, m.contexts[x]? = some context ∧
    context ≠ .freed
  contexts : ∀ x context, context ≠ .freed → (m'.contexts[x]? = some context ↔
    m.contexts[x]? = some context ∧ x ∉ new.filterMap MediaCall.replies)
  returns : ∃ added, m'.calls = m.calls ++ added ∧ added.filterMap MediaManagerCall.returns = []
  announced : ∀ y, m'.Announced y ↔ m.Announced y ∨ ∃ x streams,
    .succeeded x streams ∈ new ∧ m.IsCreation y x

theorem isCreation_iff {y x : Nat} : m.IsCreation y x ↔
    ∃ token, m.contexts[x]? = some (.request y token) := by
  unfold IsCreation
  cases hcontext : m.contexts[x]? with
  | none => simp
  | some context =>
      cases context with
      | invocation z => simp [MediaContext.creates]
      | request z token => simp [MediaContext.creates]
      | freed => simp [MediaContext.creates]

/-- A context stays what it is until it is called back with. -/
theorem CalledBack.isCreation_iff (h : CalledBack channel m new m') {y x : Nat} :
    m'.IsCreation y x ↔ m.IsCreation y x ∧ x ∉ new.filterMap MediaCall.replies := by
  rw [HazeMediaManager.isCreation_iff, HazeMediaManager.isCreation_iff]
  have hsame := fun token => h.contexts x (.request y token) (by simp)
  constructor
  · rintro ⟨token, htoken⟩
    obtain ⟨hbefore, hnot⟩ := (hsame token).mp htoken
    exact ⟨⟨token, hbefore⟩, hnot⟩
  · rintro ⟨⟨token, hbefore⟩, hnot⟩
    exact ⟨token, (hsame token).mpr ⟨hbefore, hnot⟩⟩

theorem CalledBack.nil (channel : Nat) (m : HazeMediaManager) : CalledBack channel m [] m where
  objects := rfl
  selfHandle := rfl
  nodup := id
  channels := fun _ h => h
  closed := by simp
  once := by simp
  live := by simp
  contexts := by simp
  returns := ⟨[], by simp⟩
  announced := by simp

theorem mem_replies_of_succeeded {x : Nat} {streams : List HazeMediaStream}
    (h : .succeeded x streams ∈ new) : x ∈ new.filterMap MediaCall.replies :=
  List.mem_filterMap.mpr ⟨_, h, rfl⟩

/-- The callbacks for some calls and then for others. -/
theorem CalledBack.trans (h : CalledBack channel m new m') (h' : CalledBack channel m' new' m'') :
    CalledBack channel m (new ++ new') m'' := by
  have hlive : ∀ x ∈ new'.filterMap MediaCall.replies, (∃ context,
      m.contexts[x]? = some context ∧ context ≠ .freed) ∧
        x ∉ new.filterMap MediaCall.replies := by
    intro x hx
    obtain ⟨context, hcontext, hfreed⟩ := h'.live x hx
    obtain ⟨hbefore, hnot⟩ := (h.contexts x context hfreed).mp hcontext
    exact ⟨⟨context, hbefore, hfreed⟩, hnot⟩
  refine
    { objects := h'.objects.trans h.objects
      selfHandle := h'.selfHandle.trans h.selfHandle
      nodup := fun hm => h'.nodup (h.nodup hm)
      channels := fun y hy => h.channels y (h'.channels y hy)
      closed := fun hm hnew => ?_
      once := ?_
      live := fun x hx => ?_
      contexts := fun x context hfreed => ?_
      returns := ?_
      announced := fun y => ?_ }
  · rcases List.mem_append.mp hnew with hnew | hnew
    · exact fun hmem => h.closed hm hnew (h'.channels channel hmem)
    · exact h'.closed (h.nodup hm) hnew
  · rw [List.filterMap_append, List.nodup_append]
    refine ⟨h.once, h'.once, fun x hx y hy heq => ?_⟩
    subst heq
    exact (hlive x hy).2 hx
  · rw [List.filterMap_append] at hx
    rcases List.mem_append.mp hx with hx | hx
    · exact h.live x hx
    · exact (hlive x hx).1
  · rw [h'.contexts x context hfreed, h.contexts x context hfreed, List.filterMap_append,
      List.mem_append, not_or, and_assoc]
  · obtain ⟨added, hcalls, hadded⟩ := h.returns
    obtain ⟨added', hcalls', hadded'⟩ := h'.returns
    refine ⟨added ++ added', ?_, ?_⟩
    · rw [hcalls', hcalls, List.append_assoc]
    · rw [List.filterMap_append, hadded, hadded', List.append_nil]
  · rw [h'.announced y, h.announced y, or_assoc]
    refine or_congr_right ?_
    constructor
    · rintro (⟨x, streams, hmem, hcreation⟩ | ⟨x, streams, hmem, hcreation⟩)
      · exact ⟨x, streams, List.mem_append_left _ hmem, hcreation⟩
      · exact ⟨x, streams, List.mem_append_right _ hmem, (h.isCreation_iff.mp hcreation).1⟩
    · rintro ⟨x, streams, hmem, hcreation⟩
      rcases List.mem_append.mp hmem with hmem | hmem
      · exact Or.inl ⟨x, streams, hmem, hcreation⟩
      · have hnot := (hlive x (mem_replies_of_succeeded hmem)).2
        exact Or.inr ⟨x, streams, hmem, h.isCreation_iff.mpr ⟨hcreation, hnot⟩⟩

/-- A call that replies to nobody and does not say that the channel is closed. -/
theorem calledBack_of_silent {c : MediaCall} (channel : Nat) (m : HazeMediaManager)
    (hreplies : c.replies = none)
    (hclosed : c ≠ .closed) : CalledBack channel m [c] m where
  objects := rfl
  selfHandle := rfl
  nodup := id
  channels := fun _ h => h
  closed := fun _ hmem => absurd (List.mem_singleton.mp hmem).symm hclosed
  once := by simp [hreplies]
  live := by simp [hreplies]
  contexts := by simp [hreplies]
  returns := ⟨[], by simp⟩
  announced := by
    intro y
    refine ⟨Or.inl, ?_⟩
    rintro (hy | ⟨x, streams, hmem, -⟩)
    · exact hy
    · rw [← List.mem_singleton.mp hmem] at hreplies
      cases hreplies

theorem announced_emit {m : HazeMediaManager} (call : MediaManagerCall) (y : Nat) :
    (m.emit call).Announced y ↔ m.Announced y ∨ call.announces = some y := by
  unfold Announced emit
  rw [List.filterMap_append, List.mem_append, List.mem_filterMap]
  simp

theorem calledBack_closed (channel : Nat) (m : HazeMediaManager) :
    CalledBack channel m [.closed] (m.mediaChannelClosedCb channel) where
  objects := rfl
  selfHandle := rfl
  nodup := fun hm => hm.erase channel
  channels := fun y hy => List.mem_of_mem_erase hy
  closed := fun hm _ hmem => ((List.Nodup.mem_erase_iff hm).mp hmem).1 rfl
  once := List.nodup_nil
  live := fun _ hx => absurd hx List.not_mem_nil
  contexts := by
    intro x context _
    exact ⟨fun h => ⟨h, List.not_mem_nil⟩, And.left⟩
  returns := ⟨[.channelClosed channel], rfl, rfl⟩
  announced := by
    intro y
    have hsame : (m.mediaChannelClosedCb channel).Announced y ↔ m.Announced y ∨ none = some y :=
      announced_emit (.channelClosed channel) y
    rw [hsame]
    simp

/-- A reply frees its context, and announces a channel if that was created for the request and the
request succeeded. -/
theorem calledBack_reply {x : Nat} {context : MediaContext} {calls : List MediaManagerCall}
    (channel : Nat) (hreplies : c.replies = some x) (hcontext : m.contexts[x]? = some context)
    (hfreed : context ≠ .freed) (hreturns : calls.filterMap MediaManagerCall.returns = [])
    (hannounces : ∀ y, y ∈ calls.filterMap MediaManagerCall.announces ↔
      (∃ streams, c = .succeeded x streams) ∧ context.creates = some y)
    (hm' : m' = { m with calls := m.calls ++ calls, contexts := m.contexts.set x .freed }) :
    CalledBack channel m [c] m' where
  objects := by rw [hm']
  selfHandle := by rw [hm']
  nodup := by
    rw [hm']
    exact id
  channels := by
    rw [hm']
    exact fun _ h => h
  closed := by
    intro _ hmem
    rw [← List.mem_singleton.mp hmem] at hreplies
    cases hreplies
  once := by simp [hreplies]
  live := by
    intro y hy
    rw [List.filterMap_cons_some hreplies] at hy
    rw [List.mem_singleton.mp hy]
    exact ⟨context, hcontext, hfreed⟩
  contexts := by
    intro y context' hfreed'
    rw [hm', List.filterMap_cons_some hreplies, List.filterMap_nil, List.mem_singleton,
      List.getElem?_set]
    by_cases heq : x = y
    · have hbound : y < m.contexts.length := by
        rw [← heq]
        exact (List.getElem?_eq_some_iff.mp hcontext).1
      simp [heq, hbound, Ne.symm hfreed']
    · simp [heq, Ne.symm heq]
  returns := by
    rw [hm']
    exact ⟨calls, rfl, hreturns⟩
  announced := by
    intro y
    have hnew : (∃ z streams, .succeeded z streams ∈ [c] ∧ m.IsCreation y z) ↔
        y ∈ calls.filterMap MediaManagerCall.announces := by
      rw [hannounces]
      constructor
      · rintro ⟨z, streams, hmem, hcreation⟩
        rw [← List.mem_singleton.mp hmem] at hreplies ⊢
        cases hreplies
        unfold IsCreation at hcreation
        rw [hcontext] at hcreation
        exact ⟨⟨streams, rfl⟩, hcreation⟩
      · rintro ⟨⟨streams, rfl⟩, hcreates⟩
        refine ⟨x, streams, List.mem_singleton_self _, ?_⟩
        unfold IsCreation
        rw [hcontext]
        exact hcreates
    rw [hnew, hm']
    unfold Announced
    rw [List.filterMap_append, List.mem_append]

theorem calledBack_succeededCb {x : Nat} {streams : List HazeMediaStream}
    (h : m.succeededCb x = .ok m') : CalledBack channel m [.succeeded x streams] m' := by
  unfold succeededCb at h
  split at h
  · rename_i y hcontext
    cases h
    have hnone : ([] : List MediaManagerCall).filterMap MediaManagerCall.returns = [] := rfl
    refine calledBack_reply channel rfl hcontext (by simp) hnone (fun z => ?_) ?_
    · simp [MediaContext.creates]
    · rw [List.append_nil]
  · rename_i y token hcontext
    cases h
    refine calledBack_reply channel rfl hcontext (by simp) rfl (fun z => ?_) rfl
    simp [MediaManagerCall.announces, MediaContext.creates, eq_comm]
  · cases h
  · cases h

theorem calledBack_failedCb {x : Nat} {error : Option GError} (h : m.failedCb x error = .ok m') :
    CalledBack channel m [.failed x error] m' := by
  unfold failedCb at h
  split at h
  · rename_i hcontext
    cases h
    have hnone : ([] : List MediaManagerCall).filterMap MediaManagerCall.returns = [] := rfl
    refine calledBack_reply channel rfl hcontext (by simp) hnone (fun z => ?_) ?_
    · simp
    · rw [List.append_nil]
  · rename_i hcontext
    cases h
    refine calledBack_reply channel rfl hcontext (by simp) rfl (fun z => ?_) rfl
    simp [MediaManagerCall.announces]
  · cases h
  · cases h
  · cases h

theorem calledBack_callBack (h : callBack channel m c = .ok m') :
    CalledBack channel m [c] m' := by
  cases c with
  | succeeded x streams => exact calledBack_succeededCb h
  | failed x error => exact calledBack_failedCb h
  | closed =>
      cases h
      exact calledBack_closed channel m
  | requestStreams x =>
      cases h
      exact calledBack_of_silent channel m rfl (by simp)
  | initiateMedia type =>
      cases h
      exact calledBack_of_silent channel m rfl (by simp)
  | hangup =>
      cases h
      exact calledBack_of_silent channel m rfl (by simp)
  | streamAdded id peer mediaType =>
      cases h
      exact calledBack_of_silent channel m rfl (by simp)
  | streamStateChanged id state =>
      cases h
      exact calledBack_of_silent channel m rfl (by simp)
  | streamRemoved id =>
      cases h
      exact calledBack_of_silent channel m rfl (by simp)

/-- The callbacks of a step of the channel, one after the other. -/
theorem calledBack_foldlM (h : new.foldlM (callBack channel) m = .ok m') :
    CalledBack channel m new m' := by
  induction new generalizing m with
  | nil =>
      cases h
      exact CalledBack.nil channel m'
  | cons c new ih =>
      rw [List.foldlM_cons] at h
      cases hc : callBack channel m c with
      | error fault =>
          rw [hc] at h
          cases h
      | ok t =>
          rw [hc] at h
          exact (calledBack_callBack hc).trans (ih h)

end HazeMediaManager

end Haze
