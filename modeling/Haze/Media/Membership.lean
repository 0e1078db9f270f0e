import Haze.Media.Group
import Haze.Basic.Log
import Mathlib.Logic.Relation

set_option autoImplicit false

/-! # What a group goes through

Every step of a media channel and its group is put together of a few acts, each of which keeps what
is so in every state: nobody but the account is ever local pending, so nobody else is removed and no
assertion of `haze_media_channel_remove_member` fails; the account accepts a call once, right after
it has become a member; and a client that follows the signals knows who is in the group.
-/

namespace Haze

namespace MediaGroup

variable {s s' t : MediaGroup}

/-! ## What a step comes to

A step is put together of a few acts, none of which makes anybody local pending. -/

/-- The contacts that are still to be removed are the account itself. -/
def FramesOk (selfHandle : Nat) (frames : List GroupFrame) : Prop :=
  ∀ rest reason, .removing rest reason ∈ frames → ∀ h ∈ rest, h = selfHandle

/-- The acts. -/
inductive Act (s : MediaGroup) : MediaGroup → Prop where
  | reply (r : GroupReply) : Act s (s.reply r)
  | change (c : MembersChange) (h : c.addLocalPending = ∅) : Act s (s.changeMembers c)
  | answer (h : s.selfHandle ∈ s.group.localPending) : Act s s.answer
  | chan (chan : HazeMediaChannel) : Act s { s with chan := chan }
  | frames (frames : List GroupFrame) (h : FramesOk s.selfHandle frames) :
      Act s { s with frames := frames }
  | noAdd : Act s { s with canAdd := false }

/-- One act after the other. -/
abbrev Acts : MediaGroup → MediaGroup → Prop := Relation.ReflTransGen Act

theorem Act.acts (h : Act s s') : Acts s s' := Relation.ReflTransGen.single h

theorem FramesOk.tail {selfHandle : Nat} {frame : GroupFrame} {frames : List GroupFrame}
    (h : FramesOk selfHandle (frame :: frames)) : FramesOk selfHandle frames :=
  fun rest reason hmem => h rest reason (List.mem_cons_of_mem _ hmem)

theorem FramesOk.adding {selfHandle : Nat} {frames : List GroupFrame}
    (h : FramesOk selfHandle frames) (rest : List Nat) :
    FramesOk selfHandle (.adding rest :: frames) := by
  intro rest' reason hmem
  rcases List.mem_cons.mp hmem with heq | hmem
  · cases heq
  · exact h rest' reason hmem

theorem FramesOk.removing {selfHandle : Nat} {frames : List GroupFrame}
    (h : FramesOk selfHandle frames) {rest : List Nat} (hrest : ∀ h ∈ rest, h = selfHandle)
    (reason : TpChannelGroupChangeReason) :
    FramesOk selfHandle (.removing rest reason :: frames) := by
  intro rest' reason' hmem
  rcases List.mem_cons.mp hmem with heq | hmem
  · cases heq
    exact hrest
  · exact h rest' reason' hmem

/-- What adding one contact comes to. -/
theorem addMember_acts (s : MediaGroup) (handle : Nat) :
    match s.hazeMediaChannelAddMember handle with
    | .refused _ => True
    | .pending t => Acts s t ∧ t.frames = s.frames ∧ t.selfHandle = s.selfHandle
    | .accepting t => t = s.answer ∧ s.selfHandle ∈ s.group.localPending := by
  unfold hazeMediaChannelAddMember
  split_ifs with hcreator hpeer hanswer hhold
  · trivial
  · refine ⟨?_, rfl, rfl⟩
    exact (Act.change _ rfl).acts.trans Act.noAdd.acts
  · trivial
  · obtain ⟨-, rfl, hpending⟩ := hanswer
    exact ⟨rfl, hpending⟩
  · trivial

theorem addHandles_acts (hframes : FramesOk s.selfHandle s.frames) (contacts : List Nat) :
    Acts s (s.addHandles contacts) := by
  induction contacts generalizing s with
  | nil => exact (Act.reply _).acts
  | cons handle rest ih =>
      unfold addHandles
      split_ifs with hmember
      · exact ih hframes
      · have hadd := addMember_acts s handle
        cases hcase : s.hazeMediaChannelAddMember handle with
        | refused error => exact (Act.reply _).acts
        | pending t =>
            rw [hcase] at hadd
            obtain ⟨hacts, hsame, hself⟩ := hadd
            exact hacts.trans (ih (by rwa [hsame, hself]))
        | accepting t =>
            rw [hcase] at hadd
            obtain ⟨rfl, hpending⟩ := hadd
            have hpush := Act.frames (s := s.answer) (.adding rest :: s.frames)
              (hframes.adding rest)
            exact (Act.answer hpending).acts.trans hpush.acts

/-- The removal of the account is never stopped by the assertion. -/
theorem removeHandles_acts (hframes : FramesOk s.selfHandle s.frames)
    {contacts : List Nat} (hcontacts : ∀ h ∈ contacts, h = s.selfHandle)
    (reason : TpChannelGroupChangeReason) :
    ∃ t, s.removeHandles reason contacts = .ok t ∧ Acts s t := by
  cases contacts with
  | nil => exact ⟨_, rfl, (Act.reply _).acts⟩
  | cons handle rest =>
      have hself : ¬ handle ≠ s.selfHandle := not_not.mpr (hcontacts handle List.mem_cons_self)
      simp only [removeHandles, hazeMediaChannelRemoveMember, if_neg hself]
      by_cases hreason : s.chan.media ∧ ¬ reason.hangsUp
      · rw [if_pos hreason]
        exact ⟨_, rfl, (Act.reply _).acts⟩
      · rw [if_neg hreason]
        have hrest : ∀ h ∈ rest, h = s.selfHandle :=
          fun h hmem => hcontacts h (List.mem_cons_of_mem _ hmem)
        have hpush := Act.frames
          (s := { s with chan := s.chan.hazeMediaChannelRemoveMember })
          (.removing rest reason :: s.frames) (hframes.removing hrest reason)
        exact ⟨_, rfl, (Act.chan _).acts.trans hpush.acts⟩

/-- Only the account passes for being removed, as long as nobody else is local pending. -/
theorem eq_self_of_removeRefused (hlocal : s.group.localPending ⊆ {s.selfHandle}) {handle : Nat}
    (h : s.removeRefused handle = none) : handle = s.selfHandle := by
  unfold removeRefused at h
  split_ifs at h with hself hmember hpending
  · exact hself.1
  · exact Finset.mem_singleton.mp (hlocal hpending)

theorem removeMembers_acts (hframes : FramesOk s.selfHandle s.frames)
    (hlocal : s.group.localPending ⊆ {s.selfHandle}) (contacts : List Nat)
    (reason : TpChannelGroupChangeReason) :
    ∃ t, s.removeMembers contacts reason = .ok t ∧ Acts s t := by
  unfold removeMembers
  cases hfind : contacts.findSome? s.removeRefused with
  | some refusal => exact ⟨_, rfl, (Act.reply _).acts⟩
  | none =>
      refine removeHandles_acts hframes (fun h hmem => ?_) reason
      exact eq_self_of_removeRefused hlocal (List.findSome?_eq_none_iff.mp hfind h hmem)

theorem resume_acts (hframes : FramesOk s.selfHandle s.frames) :
    ∃ t, s.resume = .ok t ∧ Acts s t := by
  unfold resume
  cases hstack : s.frames with
  | nil => exact ⟨s, rfl, Relation.ReflTransGen.refl⟩
  | cons frame frames =>
      rw [hstack] at hframes
      have hpop : Acts s { s with frames := frames } := (Act.frames frames hframes.tail).acts
      cases frame with
      | adding rest =>
          exact ⟨_, rfl, hpop.trans (addHandles_acts hframes.tail rest)⟩
      | removing rest reason =>
          obtain ⟨t, ht, hacts⟩ := removeHandles_acts
            (s := { s with frames := frames, canAdd := false }) hframes.tail
            (hframes rest reason List.mem_cons_self) reason
          exact ⟨t, ht, (hpop.trans Act.noAdd.acts).trans hacts⟩

theorem mediaStreamInfoCb_acts (s : MediaGroup) (type : PurpleMediaInfoType)
    (sid name : Option String) (isLocal : Bool) :
    Acts s (s.mediaStreamInfoCb type sid name isLocal) := by
  unfold mediaStreamInfoCb
  dsimp only
  split
  · exact (Act.change _ rfl).acts
  · split
    · exact Relation.ReflTransGen.refl
    · exact (Act.change _ rfl).acts
  · split
    · exact Relation.ReflTransGen.refl
    · exact (Act.change _ rfl).acts
  · exact Relation.ReflTransGen.refl

theorem channelStep_acts {e : HazeMediaChannel.MediaEvent} (h : s.channelStep e = .ok s') :
    Acts s s' := by
  unfold channelStep at h
  split at h
  · cases h
  · cases h
    exact (Act.chan _).acts

/-- **What a step comes to.** -/
theorem step_acts {e : Event} (hframes : FramesOk s.selfHandle s.frames)
    (hlocal : s.group.localPending ⊆ {s.selfHandle}) (h : mediaGroups.step s e = .ok s') :
    Acts s s' := by
  cases e with
  | channel e he => exact channelStep_acts h
  | sessionEnd =>
      have hended : Acts s s.sessionEnded := (Act.change _ rfl).acts
      have hstep : s.sessionEnded.channelStep .sessionEnd = .ok s' := h
      exact hended.trans (channelStep_acts hstep)
  | streamInfo type sid name isLocal =>
      simp only [mediaGroups] at h
      split_ifs at h
      · cases h
        exact mediaStreamInfoCb_acts s type sid name isLocal
      · cases h
        exact Relation.ReflTransGen.refl
  | addMembers contacts =>
      cases h
      unfold addMembers
      split
      · exact (Act.reply _).acts
      · exact addHandles_acts hframes contacts
  | removeMembers contacts reason =>
      obtain ⟨t, ht, hacts⟩ := removeMembers_acts hframes hlocal contacts reason
      obtain rfl := Except.ok.inj (ht.symm.trans h)
      exact hacts
  | resume =>
      obtain ⟨t, ht, hacts⟩ := resume_acts hframes
      obtain rfl := Except.ok.inj (ht.symm.trans h)
      exact hacts

/-! ## What every step keeps -/

/-- The signals, as a client hears them. -/
def heard : GroupCall → Option MembersChanged
  | .membersChanged signal => some signal
  | _ => none

/-- The account accepts right after it has become a member, and for the first time. -/
def AcceptsRight (selfHandle : Nat) (l : List GroupCall) (c : GroupCall) : Prop :=
  c = .accept → .accept ∉ l ∧
    ∃ before, l = before ++ [.membersChanged ⟨some "", {selfHandle}, ∅, ∅, ∅, selfHandle, .none⟩]

/-- What is so in every state of a channel. -/
structure Sound (s : MediaGroup) : Prop where
  separate : s.group.Separate
  localPending : s.group.localPending ⊆ {s.selfHandle}
  frames : FramesOk s.selfHandle s.frames
  /-- a client that follows the signals knows the sets -/
  view : (s.calls.filterMap heard).foldl TpGroupMixin.hear .init = s.group
  accepts : Log.Each (AcceptsRight s.selfHandle) s.calls
  /-- a call that is not answered has not been accepted -/
  unanswered : s.selfHandle ∈ s.group.localPending → .accept ∉ s.calls

theorem heard_membersChanged (o : Option MembersChanged) :
    (o.toList.map GroupCall.membersChanged).filterMap heard = o.toList := by
  cases o <;> rfl

theorem ne_accept_of_mem_signals {o : Option MembersChanged} {c : GroupCall}
    (h : c ∈ o.toList.map GroupCall.membersChanged) : c ≠ .accept := by
  obtain ⟨signal, -, rfl⟩ := List.mem_map.mp h
  nofun

theorem view_changeMembers (hsep : s.group.Separate)
    (hview : (s.calls.filterMap heard).foldl TpGroupMixin.hear .init = s.group)
    (c : MembersChange) :
    ((s.changeMembers c).calls.filterMap heard).foldl TpGroupMixin.hear .init =
      (s.changeMembers c).group := by
  have hnew := TpGroupMixin.hear_changeMembers hsep c
  show (List.filterMap heard (s.calls ++ _)).foldl _ _ = s.group.changeMembers c
  rw [List.filterMap_append, heard_membersChanged, List.foldl_append, hview]
  exact hnew

theorem accepts_changeMembers {selfHandle : Nat}
    (haccepts : Log.Each (AcceptsRight selfHandle) s.calls) (c : MembersChange) :
    Log.Each (AcceptsRight selfHandle) (s.changeMembers c).calls :=
  haccepts.append (fun _ hmem _ heq => absurd heq (ne_accept_of_mem_signals hmem))

/-- Nobody becomes local pending. -/
theorem localPending_changeMembers {c : MembersChange} (hc : c.addLocalPending = ∅) {h : Nat}
    (hmem : h ∈ (s.changeMembers c).group.localPending) : h ∈ s.group.localPending := by
  have hsets := Finset.mem_sdiff.mp hmem
  rw [hc, Finset.union_empty] at hsets
  exact hsets.1

theorem Sound.changeMembers (hs : s.Sound) {c : MembersChange} (hc : c.addLocalPending = ∅) :
    (s.changeMembers c).Sound where
  separate := TpGroupMixin.separate_changeMembers hs.separate c
  localPending := fun _ hmem => hs.localPending (localPending_changeMembers hc hmem)
  frames := hs.frames
  view := view_changeMembers hs.separate hs.view c
  accepts := accepts_changeMembers hs.accepts c
  unanswered := by
    intro hself hmem
    rcases List.mem_append.mp hmem with hmem | hmem
    · exact hs.unanswered (localPending_changeMembers hc hself) hmem
    · exact ne_accept_of_mem_signals hmem rfl

/-- The signal that the account becomes a member. -/
theorem membersChanged_answer (hsep : s.group.Separate)
    (hpending : s.selfHandle ∈ s.group.localPending) :
    s.group.membersChanged (.adds (some "") {s.selfHandle} s.selfHandle .none) =
      some ⟨some "", {s.selfHandle}, ∅, ∅, ∅, s.selfHandle, .none⟩ := by
  have hmember : s.selfHandle ∉ s.group.members :=
    fun h => (TpGroupMixin.separate_iff.mp hsep s.selfHandle).1 h hpending
  have hadded : ({s.selfHandle} : Finset Nat) \ s.group.members = {s.selfHandle} :=
    Finset.sdiff_eq_self_of_disjoint (Finset.disjoint_singleton_left.mpr hmember)
  simp [TpGroupMixin.membersChanged, TpGroupMixin.signalOf, MembersChange.adds, hadded]

theorem Sound.answer (hs : s.Sound) (hpending : s.selfHandle ∈ s.group.localPending) :
    s.answer.Sound := by
  have hjoin := hs.changeMembers
    (c := .adds (some "") {s.selfHandle} s.selfHandle .none) rfl
  have hgone : s.selfHandle ∉ s.answer.group.localPending := by
    intro hmem
    have hout := (Finset.mem_sdiff.mp hmem).2
    exact hout (by simp [MembersChange.adds])
  refine ⟨hjoin.separate, hjoin.localPending, hjoin.frames, ?_, ?_, fun h => absurd h hgone⟩
  · have hview := hjoin.view
    show (List.filterMap heard (_ ++ [GroupCall.accept])).foldl _ _ = _
    rw [List.filterMap_append, List.foldl_append]
    exact hview
  · refine Log.each_concat.mpr ⟨hjoin.accepts, fun _ => ⟨?_, s.calls, ?_⟩⟩
    · intro hmem
      rcases List.mem_append.mp hmem with hmem | hmem
      · exact hs.unanswered hpending hmem
      · exact ne_accept_of_mem_signals hmem rfl
    · show s.calls ++ _ = _
      rw [membersChanged_answer hs.separate hpending]
      rfl

theorem Sound.act (hs : s.Sound) (h : Act s s') : s'.Sound := by
  cases h with
  | reply r =>
      refine ⟨hs.separate, hs.localPending, hs.frames, ?_, ?_, fun h hmem => ?_⟩
      · have hview := hs.view
        show (List.filterMap heard (_ ++ [GroupCall.reply r])).foldl _ _ = _
        rw [List.filterMap_append, List.foldl_append]
        exact hview
      · exact Log.each_concat.mpr ⟨hs.accepts, nofun⟩
      · rcases List.mem_append.mp hmem with hmem | hmem
        · exact hs.unanswered h hmem
        · simp at hmem
  | change c hc => exact hs.changeMembers hc
  | answer hpending => exact hs.answer hpending
  | chan chan => exact ⟨hs.1, hs.2, hs.3, hs.4, hs.5, hs.6⟩
  | frames frames hframes => exact ⟨hs.1, hs.2, hframes, hs.4, hs.5, hs.6⟩
  | noAdd => exact ⟨hs.1, hs.2, hs.3, hs.4, hs.5, hs.6⟩

theorem Sound.acts (hs : s.Sound) (h : Acts s s') : s'.Sound := by
  induction h with
  | refl => exact hs
  | tail _ hact ih => exact ih.act hact

theorem Acts.selfHandle_eq {s s' : MediaGroup} (h : Acts s s') : s'.selfHandle = s.selfHandle := by
  induction h with
  | refl => rfl
  | tail _ hact ih =>
      rw [← ih]
      cases hact <;> rfl

/-- A group in which nobody is yet. -/
def fresh (protocol : String) (initialPeer : Nat) (media : Bool) (selfHandle creator : Nat) :
    MediaGroup where
  chan := .init protocol initialPeer media
  selfHandle := selfHandle
  creator := creator
  group := .init
  canAdd := false
  holdState := .unheld
  frames := []
  calls := []

/-- The creator of a channel joins it. -/
def created (protocol : String) (initialPeer : Nat) (media : Bool) (selfHandle creator : Nat) :
    MediaGroup :=
  (fresh protocol initialPeer media selfHandle creator).changeMembers
    (.adds (some "") {creator} 0 .none)

/-- How a channel begins, for a call that comes in and for one that is made. -/
theorem construct_cases {protocol : String} {initialPeer selfHandle : Nat} {media : Bool}
    (h : construct protocol initialPeer media selfHandle = .ok s) :
    (media = true ∧ s = (created protocol initialPeer true selfHandle initialPeer).changeMembers
      (.addsLocalPending (some "") {selfHandle} initialPeer .invited)) ∨
    (media = false ∧ s = created protocol initialPeer false selfHandle selfHandle) := by
  cases media with
  | true =>
      simp only [construct, if_true] at h
      split at h
      · cases h
      · cases h
        exact Or.inl ⟨rfl, rfl⟩
  | false =>
      simp only [construct, Bool.false_eq_true, if_false] at h
      split at h
      · cases h
      · cases h
        exact Or.inr ⟨rfl, rfl⟩

theorem sound_created (protocol : String) (initialPeer : Nat) (media : Bool)
    (selfHandle creator : Nat) : (created protocol initialPeer media selfHandle creator).Sound := by
  have hfresh : (fresh protocol initialPeer media selfHandle creator).Sound := by
    refine ⟨by simp [fresh, TpGroupMixin.init, TpGroupMixin.Separate], by simp [fresh,
      TpGroupMixin.init], ?_, rfl, Log.each_nil, by simp [fresh]⟩
    intro rest reason hmem
    cases hmem
  exact hfresh.changeMembers rfl

theorem sound_construct {protocol : String} {initialPeer selfHandle : Nat} {media : Bool}
    (h : construct protocol initialPeer media selfHandle = .ok s) : s.Sound := by
  rcases construct_cases h with ⟨-, rfl⟩ | ⟨-, rfl⟩
  · have hs := sound_created protocol initialPeer true selfHandle initialPeer
    -- the account becomes local pending, before anything has been accepted
    refine ⟨TpGroupMixin.separate_changeMembers hs.separate _, ?_, hs.frames,
      view_changeMembers hs.separate hs.view _, accepts_changeMembers hs.accepts _,
      fun _ hmem => ?_⟩
    · intro handle hmem
      rcases Finset.mem_union.mp (Finset.mem_sdiff.mp hmem).1 with hmem | hmem
      · exact hs.localPending hmem
      · exact hmem
    · rcases List.mem_append.mp hmem with hmem | hmem
      · rcases List.mem_append.mp hmem with hmem | hmem
        · cases hmem
        · exact ne_accept_of_mem_signals hmem rfl
      · exact ne_accept_of_mem_signals hmem rfl
  · exact sound_created protocol initialPeer false selfHandle selfHandle

theorem sound_run {protocol : String} {initialPeer selfHandle : Nat} {media : Bool}
    {s₀ : MediaGroup} {es : List Event}
    (h : construct protocol initialPeer media selfHandle = .ok s₀)
    (hrun : mediaGroups.run s₀ es = .ok s) : s.Sound ∧ s.selfHandle = selfHandle := by
  have hself : s₀.selfHandle = selfHandle := by
    rcases construct_cases h with ⟨-, rfl⟩ | ⟨-, rfl⟩ <;> rfl
  refine Machine.run_invariant (I := fun s => s.Sound ∧ s.selfHandle = selfHandle)
    (fun s e s' hs (_ : True) hst => ?_) ⟨sound_construct h, hself⟩
    (Machine.meets_of_forall (p := fun _ => True) (fun _ _ => trivial) s₀) hrun
  have hacts := step_acts hs.1.frames hs.1.localPending hst
  exact ⟨hs.1.acts hacts, hacts.selfHandle_eq.trans hs.2⟩

end MediaGroup

open MediaGroup

/-- **Only the account is removed.** In every state that a channel comes to, RemoveMembers and what
is left of it go through: the assertion that the handle is the account's own does not fail. -/
theorem removeMembers_never_asserts {protocol : String} {initialPeer selfHandle : Nat}
    {media : Bool} {s₀ s : MediaGroup} {es : List MediaGroup.Event}
    (hstart : construct protocol initialPeer media selfHandle = .ok s₀)
    (hrun : mediaGroups.run s₀ es = .ok s) :
    (∀ contacts reason, ∃ t, mediaGroups.step s (.removeMembers contacts reason) = .ok t) ∧
      ∃ t, mediaGroups.step s .resume = .ok t := by
  have hs := (sound_run hstart hrun).1
  constructor
  · intro contacts reason
    obtain ⟨t, ht, -⟩ := removeMembers_acts hs.frames hs.localPending contacts reason
    exact ⟨t, ht⟩
  · obtain ⟨t, ht, -⟩ := resume_acts hs.frames
    exact ⟨t, ht⟩

/-- The contact of a call is to be removed, and then the account. -/
theorem removeMembers_never_asserts_answered : ∃ s₀ s,
    construct "xmpp" 2 true 1 = .ok s₀ ∧
      mediaGroups.run s₀ [.addMembers [1], .removeMembers [2] .none] = .ok s ∧
      ∃ t, mediaGroups.step s (.removeMembers [1, 1] .busy) = .ok t := by
  obtain ⟨s₀, hstart⟩ : ∃ s₀, construct "xmpp" 2 true 1 = .ok s₀ := ⟨_, rfl⟩
  obtain ⟨s, hrun⟩ : ∃ s, mediaGroups.run s₀
      [.addMembers [1], .removeMembers [2] .none] = .ok s := by
    cases hstart
    exact ⟨_, rfl⟩
  exact ⟨s₀, s, hstart, hrun, (removeMembers_never_asserts hstart hrun).1 [1, 1] .busy⟩

/-- **The client's view.** Who follows the signals of a channel from its beginning knows the members
and those who are pending, in every state. -/
theorem membersChanged_tells_group {protocol : String} {initialPeer selfHandle : Nat}
    {media : Bool} {s₀ s : MediaGroup} {es : List MediaGroup.Event}
    (hstart : construct protocol initialPeer media selfHandle = .ok s₀)
    (hrun : mediaGroups.run s₀ es = .ok s) :
    (s.calls.filterMap heard).foldl TpGroupMixin.hear .init = s.group :=
  (sound_run hstart hrun).1.view

/-- A call is answered while it goes on. -/
theorem membersChanged_tells_group_answered : ∃ s₀ s,
    construct "xmpp" 2 true 1 = .ok s₀ ∧ mediaGroups.run s₀ [.addMembers [1]] = .ok s ∧
      (s.calls.filterMap heard).foldl TpGroupMixin.hear .init = s.group := by
  obtain ⟨s₀, hstart⟩ : ∃ s₀, construct "xmpp" 2 true 1 = .ok s₀ := ⟨_, rfl⟩
  obtain ⟨s, hrun⟩ : ∃ s, mediaGroups.run s₀ [.addMembers [1]] = .ok s := by
    cases hstart
    exact ⟨_, rfl⟩
  exact ⟨s₀, s, hstart, hrun, membersChanged_tells_group hstart hrun⟩

/-- **The account accepts once it is a member**: libpurple hears of it right after the signal that
the account has joined, and never again. -/
theorem accept_follows_joining {protocol : String} {initialPeer selfHandle : Nat} {media : Bool}
    {s₀ s : MediaGroup} {es : List MediaGroup.Event}
    (hstart : construct protocol initialPeer media selfHandle = .ok s₀)
    (hrun : mediaGroups.run s₀ es = .ok s) :
    Log.Each (AcceptsRight selfHandle) s.calls := by
  obtain ⟨hs, hself⟩ := sound_run hstart hrun
  rw [← hself]
  exact hs.accepts

/-- A call is answered, and the account is to be added again. -/
theorem accept_follows_joining_answered : ∃ s₀ s,
    construct "xmpp" 2 true 1 = .ok s₀ ∧
      mediaGroups.run s₀ [.addMembers [1], .resume, .addMembers [1]] = .ok s ∧
      .accept ∈ s.calls ∧ Log.Each (AcceptsRight 1) s.calls := by
  obtain ⟨s₀, hstart⟩ : ∃ s₀, construct "xmpp" 2 true 1 = .ok s₀ := ⟨_, rfl⟩
  obtain ⟨s, hrun⟩ : ∃ s, mediaGroups.run s₀ [.addMembers [1], .resume, .addMembers [1]] =
      .ok s := by
    cases hstart
    exact ⟨_, rfl⟩
  refine ⟨s₀, s, hstart, hrun, ?_, accept_follows_joining hstart hrun⟩
  cases hstart
  cases hrun
  decide

end Haze
