import Haze.Media.Membership

set_option autoImplicit false

/-! # Who is in a call

A call between two contacts has two parties, each of which is out of the call, is being called, or
is in it. What happens to them is said by `PhoneCall`, without sets, flags and frames; the group of
a media channel is that of its `PhoneCall` in every run (`group_eq_phoneCall`).
-/

namespace Haze

namespace HazeMediaChannel

variable {s s' : HazeMediaChannel}

/-- The session and the peer of a channel are kept, and it is not being disposed of. -/
structure Same (s s' : HazeMediaChannel) : Prop where
  initialPeer : s'.initialPeer = s.initialPeer
  media : s'.media = s.media
  stack : .closing true ∉ s.stack → .closing true ∉ s'.stack

theorem Same.of_eq (hpeer : s'.initialPeer = s.initialPeer) (hmedia : s'.media = s.media)
    (hstack : s'.stack = s.stack) : Same s s' :=
  ⟨hpeer, hmedia, fun h => by rwa [hstack]⟩

/-- A call is made. -/
theorem Same.push {frame : MediaFrame} (hpeer : s'.initialPeer = s.initialPeer)
    (hmedia : s'.media = s.media) (hstack : s'.stack = frame :: s.stack)
    (hframe : frame ≠ .closing true) : Same s s' := by
  refine ⟨hpeer, hmedia, fun h => ?_⟩
  rw [hstack]
  exact List.not_mem_cons_of_ne_of_not_mem hframe.symm h

/-- A call returns. -/
theorem Same.pop {frame : MediaFrame} (hpeer : s'.initialPeer = s.initialPeer)
    (hmedia : s'.media = s.media) (hstack : s.stack = frame :: s'.stack) : Same s s' := by
  refine ⟨hpeer, hmedia, fun h => ?_⟩
  rw [hstack] at h
  exact List.not_mem_of_not_mem_cons h

theorem Same.trans {s'' : HazeMediaChannel} (h : Same s s') (h' : Same s' s'') : Same s s'' :=
  ⟨h'.initialPeer.trans h.initialPeer, h'.media.trans h.media, fun hs => h'.stack (h.stack hs)⟩

theorem same_close (s : HazeMediaChannel) : Same s (s.hazeMediaChannelClose false) := by
  unfold hazeMediaChannelClose
  simp only [Bool.false_eq_true, if_false]
  split_ifs
  · exact Same.of_eq rfl rfl rfl
  · exact Same.push rfl rfl rfl (by simp)
  · exact Same.of_eq rfl rfl rfl

theorem same_removeMember (s : HazeMediaChannel) : Same s s.hazeMediaChannelRemoveMember := by
  unfold hazeMediaChannelRemoveMember
  split_ifs
  · exact Same.push rfl rfl rfl (by simp)
  · exact same_close s

theorem same_sessionEnd (s : HazeMediaChannel) : Same s s.sessionEnd := by
  rcases sessionEnd_cases s with ⟨-, hend⟩ | ⟨-, hend⟩
  · rw [hend]
    exact Same.of_eq rfl rfl rfl
  · rw [hend]
    exact Same.of_eq rfl rfl rfl

theorem same_initiateMedia (s : HazeMediaChannel) (psr context : Nat)
    (types : List PurpleMediaSessionType) : Same s (s.initiateMedia psr context types) := by
  cases types with
  | nil => exact Same.of_eq rfl rfl rfl
  | cons type rest => exact Same.push rfl rfl rfl (by simp)

theorem same_hangupReturns (hstack : .closing true ∉ s.stack) : Same s s.hangupReturns := by
  rcases hangupReturns_cases s with h | ⟨stack, hs, h⟩ | ⟨disposing, stack, hs, h⟩
  · rw [h]
    exact Same.of_eq rfl rfl rfl
  · rw [h]
    exact Same.pop rfl rfl hs
  · rw [hs] at hstack
    cases disposing with
    | true => simp at hstack
    | false =>
        rw [h]
        exact Same.pop rfl rfl hs

theorem same_requestStreams {contactHandle context : Nat} {types : List Nat}
    {caps : PurpleMediaCaps}
    (h : s.mediaChannelRequestStreams contactHandle types caps context = .ok s') : Same s s' := by
  rcases mediaChannelRequestStreams_ok h with
    ⟨-, rfl⟩ | ⟨-, ⟨-, error, rfl⟩ | ⟨error, rfl⟩ | ⟨t, ht, rfl⟩⟩
  · exact Same.of_eq rfl rfl rfl
  · exact Same.of_eq rfl rfl rfl
  · exact Same.of_eq rfl rfl rfl
  · have hpend : Same s t := by
      rcases ht with rfl | rfl
      · exact Same.of_eq rfl rfl rfl
      · exact Same.of_eq rfl rfl rfl
    exact hpend.trans (same_initiateMedia t _ _ _)

/-- Only the session that begins is a change. -/
theorem same_step {e : MediaEvent} (hstack : .closing true ∉ s.stack) (hinit : e ≠ .initMedia)
    (hdispose : e ≠ .dispose) (h : mediaChannels.step s e = .ok s') : Same s s' := by
  cases e with
  | requestStreams contactHandle types caps context => exact same_requestStreams h
  | initiateMediaReturns result =>
      rcases initiateMediaReturns_ok h with rfl | ⟨psr, context, rest, stack, hs, rfl⟩
      · exact Same.of_eq rfl rfl rfl
      · have hpop : Same s { s with stack := stack } :=
          ⟨rfl, rfl, fun hnot => by simpa [hs] using hnot⟩
        exact hpop.trans (same_initiateMedia _ _ _ _)
  | hangupReturns =>
      cases h
      exact same_hangupReturns hstack
  | initMedia => exact absurd rfl hinit
  | streamNew mediaType =>
      obtain ⟨requests, calls, -, rfl⟩ := streamNew_ok h
      exact Same.of_eq rfl rfl rfl
  | streamEnd id =>
      cases h
      exact Same.of_eq rfl rfl rfl
  | sessionEnd =>
      cases h
      exact same_sessionEnd s
  | close =>
      cases h
      exact same_close s
  | removeMember =>
      cases h
      exact same_removeMember s
  | dispose => exact absurd rfl hdispose

end HazeMediaChannel

/-! ## The call -/

/-- Where a party of a call stands. -/
inductive Standing where
  | out
  | called
  | member
  deriving DecidableEq

/-- A call: whether it has a session, where the account and its peer stand, and whether the account
has answered. -/
structure PhoneCall where
  session : Bool
  self : Standing
  peer : Standing
  answered : Bool
  deriving DecidableEq

namespace PhoneCall

/-- A call that comes in is to be answered; one that is made has the account in it. -/
def start (incoming : Bool) : PhoneCall where
  session := incoming
  self := if incoming then .called else .member
  peer := if incoming then .member else .out
  answered := false

/-- The account or its peer moves. -/
def move (c : PhoneCall) (isSelf : Bool) (st : Standing) : PhoneCall :=
  if isSelf then { c with self := st } else { c with peer := st }

/-- libpurple says who accepts and who leaves. -/
def hear (c : PhoneCall) : PurpleMediaInfoType → Option String → Option String → Bool → PhoneCall
  | .accept, _, _, isLocal => c.move isLocal .member
  | .reject, none, name, _ => c.move name.isNone .out
  | .hangup, none, name, _ => c.move name.isNone .out
  | _, _, _, _ => c

/-- Where a handle stands. -/
def standing (c : PhoneCall) (selfHandle peer h : Nat) : Standing :=
  if h = selfHandle then c.self else if h = peer then c.peer else .out

/-- The account is called, and is to join those of the contacts that are in the call. -/
def Answers (c : PhoneCall) (selfHandle peer : Nat) (contacts : List Nat) : Prop :=
  c.self = .called ∧ selfHandle ∈ contacts ∧ ∀ h ∈ contacts, c.standing selfHandle peer h ≠ .out

instance (c : PhoneCall) (selfHandle peer : Nat) (contacts : List Nat) :
    Decidable (c.Answers selfHandle peer contacts) :=
  inferInstanceAs (Decidable (_ ∧ _ ∧ _))

/-- What becomes of a call. -/
def step (selfHandle peer : Nat) (c : PhoneCall) : MediaGroup.Event → PhoneCall
  | .channel .initMedia _ => { c with session := true }
  | .channel _ _ => c
  | .sessionEnd => { c with self := .out, peer := .out }
  | .streamInfo type sid name isLocal => if c.session then c.hear type sid name isLocal else c
  | .addMembers contacts =>
      if c.Answers selfHandle peer contacts then { c with self := .member, answered := true } else c
  | .removeMembers _ _ => c
  | .resume => c

/-- The sets of a call. -/
def group (c : PhoneCall) (selfHandle peer : Nat) : TpGroupMixin where
  members := ({selfHandle, peer} : Finset Nat).filter
    (fun h => c.standing selfHandle peer h = .member)
  localPending := ({selfHandle, peer} : Finset Nat).filter
    (fun h => c.standing selfHandle peer h = .called)
  remotePending := ∅

variable {c : PhoneCall} {selfHandle peer h : Nat}

theorem mem_parties (hne : c.standing selfHandle peer h ≠ .out) :
    h ∈ ({selfHandle, peer} : Finset Nat) := by
  unfold standing at hne
  split_ifs at hne with hself hpeer
  · simp [hself]
  · simp [hpeer]
  · exact absurd rfl hne

@[simp] theorem mem_group_members :
    h ∈ (c.group selfHandle peer).members ↔ c.standing selfHandle peer h = .member := by
  refine Finset.mem_filter.trans ⟨And.right, fun hs => ⟨mem_parties (c := c) ?_, hs⟩⟩
  simp [hs]

@[simp] theorem mem_group_localPending :
    h ∈ (c.group selfHandle peer).localPending ↔ c.standing selfHandle peer h = .called := by
  refine Finset.mem_filter.trans ⟨And.right, fun hs => ⟨mem_parties (c := c) ?_, hs⟩⟩
  simp [hs]

theorem standing_self : c.standing selfHandle peer selfHandle = c.self := if_pos rfl

/-- The handle of a party. -/
def party (selfHandle peer : Nat) (isSelf : Bool) : Nat := if isSelf then selfHandle else peer

theorem standing_move (hne : peer ≠ selfHandle) (isSelf : Bool) (st : Standing) :
    (c.move isSelf st).standing selfHandle peer h =
      if h = party selfHandle peer isSelf then st else c.standing selfHandle peer h := by
  cases isSelf with
  | true =>
      simp only [move, standing, party, if_true]
      split_ifs <;> rfl
  | false =>
      simp only [move, standing, party, Bool.false_eq_true, if_false]
      split_ifs with hself hpeer
      · exact absurd (hpeer.symm.trans hself) hne
      all_goals rfl

/-- A party that becomes a member. -/
theorem group_adds (hne : peer ≠ selfHandle) (isSelf : Bool) (message : Option String)
    (actor : Nat) (reason : TpChannelGroupChangeReason) :
    (c.group selfHandle peer).changeMembers
        (.adds message {party selfHandle peer isSelf} actor reason) =
      (c.move isSelf .member).group selfHandle peer := by
  refine TpGroupMixin.ext ?_ ?_ (by simp [TpGroupMixin.changeMembers, MembersChange.adds, group])
  · ext h
    simp only [TpGroupMixin.changeMembers, MembersChange.adds, Finset.union_empty,
      Finset.sdiff_empty, Finset.mem_union, Finset.mem_singleton, mem_group_members,
      standing_move hne]
    split_ifs with hp <;> simp [hp]
  · ext h
    simp only [TpGroupMixin.changeMembers, MembersChange.adds, Finset.union_empty,
      Finset.mem_sdiff, Finset.mem_singleton, mem_group_localPending, standing_move hne]
    split_ifs with hp <;> simp [hp]

/-- A party that leaves. -/
theorem group_removes (hne : peer ≠ selfHandle) (isSelf : Bool) (message : Option String)
    (actor : Nat) (reason : TpChannelGroupChangeReason) :
    (c.group selfHandle peer).changeMembers
        (.removes message {party selfHandle peer isSelf} actor reason) =
      (c.move isSelf .out).group selfHandle peer := by
  refine TpGroupMixin.ext ?_ ?_
    (by simp [TpGroupMixin.changeMembers, MembersChange.removes, group])
  · ext h
    simp only [TpGroupMixin.changeMembers, MembersChange.removes, Finset.union_empty,
      Finset.mem_sdiff, Finset.mem_singleton, mem_group_members, standing_move hne]
    split_ifs with hp <;> simp [hp]
  · ext h
    simp only [TpGroupMixin.changeMembers, MembersChange.removes, Finset.union_empty,
      Finset.empty_union, Finset.mem_sdiff, Finset.mem_singleton, mem_group_localPending,
      standing_move hne]
    split_ifs with hp <;> simp [hp]

/-- Both parties leave. -/
theorem group_ends (message : Option String) (actor : Nat) (reason : TpChannelGroupChangeReason) :
    (c.group selfHandle peer).changeMembers (.removes message {selfHandle, peer} actor reason) =
      ({ c with self := .out, peer := .out } : PhoneCall).group selfHandle peer := by
  have hout : ∀ h, ({ c with self := .out, peer := .out } : PhoneCall).standing selfHandle peer h =
      .out := by
    intro h
    unfold standing
    split_ifs <;> rfl
  refine TpGroupMixin.ext ?_ ?_
    (by simp [TpGroupMixin.changeMembers, MembersChange.removes, group])
  · ext h
    simp only [TpGroupMixin.changeMembers, MembersChange.removes, Finset.union_empty,
      Finset.mem_sdiff, mem_group_members, hout, reduceCtorEq, iff_false, not_and, not_not]
    exact fun hs => mem_parties (c := c) (by simp [hs])
  · ext h
    simp only [TpGroupMixin.changeMembers, MembersChange.removes, Finset.union_empty,
      Finset.empty_union, Finset.mem_sdiff, mem_group_localPending, hout, reduceCtorEq, iff_false,
      not_and, not_not]
    exact fun hs => mem_parties (c := c) (by simp [hs])

end PhoneCall

/-! ## The group is that of the call -/

namespace MediaGroup

variable {s s' : MediaGroup} {c : PhoneCall} {selfHandle peer : Nat}

/-- A channel shows a call. -/
structure Shows (selfHandle peer : Nat) (c : PhoneCall) (s : MediaGroup) : Prop where
  selfHandle_eq : s.selfHandle = selfHandle
  peer_eq : s.chan.initialPeer = peer
  group : s.group = c.group selfHandle peer
  media : s.chan.media = c.session
  stack : .closing true ∉ s.chan.stack
  canAdd : s.canAdd = false
  hold : s.holdState = .unheld
  peer_not_called : c.peer ≠ .called
  /-- whoever is called has not made the call -/
  called : c.self = .called → s.creator ≠ selfHandle ∧ c.session = true ∧ c.answered = false
  /-- who goes on adding has answered -/
  adding : ∀ rest, .adding rest ∈ s.frames → c.self ≠ .called ∧ s.creator ≠ selfHandle
  accepts : s.calls.count .accept = if c.answered then 1 else 0

theorem count_signals (o : Option MembersChanged) :
    (o.toList.map GroupCall.membersChanged).count .accept = 0 :=
  List.count_eq_zero.mpr (fun hmem => ne_accept_of_mem_signals hmem rfl)

theorem count_changeMembers (s : MediaGroup) (change : MembersChange) :
    (s.changeMembers change).calls.count .accept = s.calls.count .accept := by
  show List.count _ (s.calls ++ _) = _
  rw [List.count_append, count_signals, Nat.add_zero]

theorem Shows.reply (h : Shows selfHandle peer c s) (r : GroupReply) :
    Shows selfHandle peer c (s.reply r) := by
  refine ⟨h.1, h.2, h.3, h.4, h.5, h.6, h.7, h.8, h.9, h.10, ?_⟩
  show List.count _ (s.calls ++ [.reply r]) = _
  rw [List.count_append, h.accepts]
  rfl

/-- The frames change, but for what goes on adding. -/
theorem Shows.of_frames (h : Shows selfHandle peer c s) {frames : List GroupFrame} (canAdd : Bool)
    (hcan : canAdd = false) (hframes : ∀ rest, .adding rest ∈ frames → .adding rest ∈ s.frames) :
    Shows selfHandle peer c { s with frames := frames, canAdd := canAdd } :=
  ⟨h.1, h.2, h.3, h.4, h.5, hcan, h.7, h.8, h.9,
    fun rest hmem => h.adding rest (hframes rest hmem), h.11⟩

theorem Shows.chan (h : Shows selfHandle peer c s) {chan : HazeMediaChannel}
    (hsame : s.chan.Same chan) : Shows selfHandle peer c { s with chan := chan } :=
  ⟨h.1, hsame.initialPeer.trans h.2, h.3, hsame.media.trans h.4, hsame.stack h.5, h.6, h.7, h.8,
    h.9, h.10, h.11⟩

/-- The call changes as the group does, and nobody is called by it. -/
theorem Shows.changeMembers (h : Shows selfHandle peer c s) {c' : PhoneCall}
    (change : MembersChange)
    (hgroup : (c.group selfHandle peer).changeMembers change = c'.group selfHandle peer)
    (hsession : c'.session = c.session) (hanswered : c'.answered = c.answered)
    (hself : c'.self = .called → c.self = .called) (hpeer : c'.peer = .called → c.peer = .called) :
    Shows selfHandle peer c' (s.changeMembers change) where
  selfHandle_eq := h.selfHandle_eq
  peer_eq := h.peer_eq
  group := by
    show s.group.changeMembers change = _
    rw [h.group, hgroup]
  media := h.media.trans hsession.symm
  stack := h.stack
  canAdd := h.canAdd
  hold := h.hold
  peer_not_called := fun hc => h.peer_not_called (hpeer hc)
  called := by
    intro hc
    rw [hsession, hanswered]
    exact h.called (hself hc)
  adding := fun rest hmem => ⟨fun hc => (h.adding rest hmem).1 (hself hc), (h.adding rest hmem).2⟩
  accepts := by
    rw [count_changeMembers, h.accepts, hanswered]

theorem Shows.sessionEnded (h : Shows selfHandle peer c s) :
    Shows selfHandle peer { c with self := .out, peer := .out } s.sessionEnded := by
  unfold MediaGroup.sessionEnded
  rw [h.selfHandle_eq, h.peer_eq]
  exact h.changeMembers _ (PhoneCall.group_ends _ _ _) rfl rfl nofun nofun

/-- The handle that a report of libpurple is about. -/
theorem Shows.party_eq (h : Shows selfHandle peer c s) (isSelf : Bool) :
    (if isSelf then s.selfHandle else s.chan.initialPeer) =
      PhoneCall.party selfHandle peer isSelf := by
  rw [h.selfHandle_eq, h.peer_eq]
  rfl

theorem Shows.moves (h : Shows selfHandle peer c s) {isSelf : Bool} {st : Standing}
    {change : MembersChange} (hst : st ≠ .called)
    (hgroup : (c.group selfHandle peer).changeMembers change =
      (c.move isSelf st).group selfHandle peer) :
    Shows selfHandle peer (c.move isSelf st) (s.changeMembers change) := by
  cases isSelf with
  | true => exact h.changeMembers change hgroup rfl rfl (fun hc => absurd hc hst) id
  | false => exact h.changeMembers change hgroup rfl rfl id (fun hc => absurd hc hst)

/-- Who a hangup takes out of the call. -/
theorem leaver_eq (s : MediaGroup) (name : Option String) :
    (if name.isSome then s.chan.initialPeer else s.selfHandle) =
      if name.isNone then s.selfHandle else s.chan.initialPeer := by
  cases name <;> rfl

theorem Shows.hear (hne : peer ≠ selfHandle) (h : Shows selfHandle peer c s)
    (type : PurpleMediaInfoType) (sid name : Option String) (isLocal : Bool) :
    Shows selfHandle peer (c.hear type sid name isLocal)
      (s.mediaStreamInfoCb type sid name isLocal) := by
  have hleaves : Shows selfHandle peer (c.move name.isNone .out) (s.changeMembers
      (.removes none {if name.isSome then s.chan.initialPeer else s.selfHandle}
        (if isLocal then s.selfHandle else s.chan.initialPeer) .none)) := by
    rw [leaver_eq, h.party_eq name.isNone]
    exact h.moves nofun (PhoneCall.group_removes hne _ _ _ _)
  cases type with
  | accept =>
      show Shows selfHandle peer (c.move isLocal .member) (s.changeMembers (.adds (some "")
        {if isLocal then s.selfHandle else s.chan.initialPeer}
        (if isLocal then s.selfHandle else s.chan.initialPeer) .none))
      rw [h.party_eq isLocal]
      exact h.moves nofun (PhoneCall.group_adds hne _ _ _ _)
  | reject =>
      cases sid with
      | some _ => exact h
      | none => exact hleaves
  | hangup =>
      cases sid with
      | some _ => exact h
      | none => exact hleaves
  | mute => exact h
  | unmute => exact h
  | pause => exact h
  | unpause => exact h
  | hold => exact h
  | unhold => exact h

/-! ### Answering -/

/-- The account answers. -/
theorem Shows.answer (hne : peer ≠ selfHandle) (h : Shows selfHandle peer c s)
    (hcalled : c.self = .called) (rest : List Nat) :
    Shows selfHandle peer { c with self := .member, answered := true }
      { s.answer with frames := .adding rest :: s.frames } := by
  obtain ⟨hcreator, hsession, hanswered⟩ := h.called hcalled
  have hjoins : Shows selfHandle peer (c.move true .member) (s.changeMembers
      (.adds (some "") {s.selfHandle} s.selfHandle .none)) := by
    have hself : s.selfHandle = PhoneCall.party selfHandle peer true := h.selfHandle_eq
    rw [hself]
    exact h.moves nofun (PhoneCall.group_adds hne true _ _ _)
  refine ⟨hjoins.1, hjoins.2, hjoins.3, hjoins.4, hjoins.5, hjoins.6, hjoins.7, hjoins.8, nofun,
    fun rest' _ => ⟨nofun, hcreator⟩, ?_⟩
  show List.count _ (_ ++ [GroupCall.accept]) = 1
  rw [List.count_append, hjoins.accepts]
  show (if c.answered then 1 else 0) + 1 = 1
  rw [hanswered]
  rfl

/-- Who has answered only goes through the members. -/
theorem addHandles_of_not_called (h : Shows selfHandle peer c s) (hcalled : c.self ≠ .called)
    (contacts : List Nat)
    (hcontacts : s.creator ≠ selfHandle ∨ ∀ h ∈ contacts, h ∈ s.group.members) :
    ∃ r, s.addHandles contacts = s.reply r := by
  induction contacts with
  | nil => exact ⟨_, rfl⟩
  | cons handle rest ih =>
      unfold addHandles
      split_ifs with hmember
      · exact ih (hcontacts.imp_right (fun hall h hmem => hall h (List.mem_cons_of_mem _ hmem)))
      · have hcreator : ¬ s.creator = s.selfHandle := by
          rw [h.selfHandle_eq]
          exact hcontacts.resolve_right (fun hall => hmember (hall handle List.mem_cons_self))
        have hpending : ¬ (s.chan.media ∧ handle = s.selfHandle ∧
            handle ∈ s.group.localPending) := by
          rintro ⟨-, rfl, hmem⟩
          rw [h.group, h.selfHandle_eq, PhoneCall.mem_group_localPending,
            PhoneCall.standing_self] at hmem
          exact hcalled hmem
        unfold hazeMediaChannelAddMember
        rw [if_neg hcreator, if_neg hpending]
        exact ⟨_, rfl⟩

/-- Who is called answers when it comes to itself. -/
theorem addHandles_of_called (h : Shows selfHandle peer c s) (hcalled : c.self = .called)
    {contacts : List Nat}
    (hcontacts : ∀ h ∈ contacts, c.standing selfHandle peer h ≠ .out) :
    if selfHandle ∈ contacts then
      ∃ rest, s.addHandles contacts = { s.answer with frames := .adding rest :: s.frames }
    else s.addHandles contacts = s.reply .returned := by
  induction contacts with
  | nil => rfl
  | cons handle rest ih =>
      have hrest := ih (fun h hmem => hcontacts h (List.mem_cons_of_mem _ hmem))
      unfold addHandles
      by_cases hself : handle = selfHandle
      · obtain ⟨hcreator, hsession, -⟩ := h.called hcalled
        have hmember : handle ∉ s.group.members := by
          rw [h.group, hself, PhoneCall.mem_group_members, PhoneCall.standing_self, hcalled]
          simp
        have hpending : s.chan.media ∧ handle = s.selfHandle ∧
            handle ∈ s.group.localPending := by
          refine ⟨h.media.trans hsession, hself.trans h.selfHandle_eq.symm, ?_⟩
          rw [h.group, hself, PhoneCall.mem_group_localPending, PhoneCall.standing_self, hcalled]
        have hmade : ¬ s.creator = s.selfHandle := by
          rw [h.selfHandle_eq]
          exact hcreator
        rw [if_pos (by simp [hself]), if_neg hmember]
        unfold hazeMediaChannelAddMember
        rw [if_neg hmade, if_pos hpending, if_neg (not_not.mpr h.hold)]
        exact ⟨rest, rfl⟩
      · -- the peer is in the call
        have hmember : handle ∈ s.group.members := by
          have hin := hcontacts handle List.mem_cons_self
          rw [h.group, PhoneCall.mem_group_members]
          unfold PhoneCall.standing at hin ⊢
          rw [if_neg hself] at hin ⊢
          split_ifs at hin ⊢ with hpeer
          · cases hstands : c.peer with
            | out => exact absurd hstands hin
            | called => exact absurd hstands h.peer_not_called
            | member => rfl
          · exact absurd rfl hin
        have hiff : selfHandle ∈ handle :: rest ↔ selfHandle ∈ rest := by
          rw [List.mem_cons]
          exact or_iff_right (fun heq => hself heq.symm)
        rw [if_pos hmember]
        simp only [hiff]
        exact hrest

theorem addRefused_iff (h : Shows selfHandle peer c s) (handle : Nat) :
    s.addRefused handle = true ↔ c.standing selfHandle peer handle = .out := by
  unfold addRefused
  rw [h.canAdd, h.group, decide_eq_true_eq, PhoneCall.mem_group_members,
    PhoneCall.mem_group_localPending]
  cases c.standing selfHandle peer handle <;> simp

theorem Shows.addMembers (hne : peer ≠ selfHandle) (h : Shows selfHandle peer c s)
    (contacts : List Nat) :
    Shows selfHandle peer (if c.Answers selfHandle peer contacts then
      { c with self := .member, answered := true } else c) (s.addMembers contacts) := by
  unfold MediaGroup.addMembers
  cases hfind : contacts.find? s.addRefused with
  | some handle =>
      have hmem := List.mem_of_find?_eq_some hfind
      have hout := (addRefused_iff h handle).mp (List.find?_some hfind)
      rw [if_neg (fun hc => hc.2.2 handle hmem hout)]
      exact h.reply _
  | none =>
      have hin : ∀ handle ∈ contacts, c.standing selfHandle peer handle ≠ .out := by
        intro handle hmem hout
        exact List.find?_eq_none.mp hfind handle hmem ((addRefused_iff h handle).mpr hout)
      show Shows _ _ _ (s.addHandles contacts)
      by_cases hcalled : c.self = .called
      · have hadd := addHandles_of_called h hcalled hin
        by_cases hself : selfHandle ∈ contacts
        · rw [if_pos hself] at hadd
          obtain ⟨rest, heq⟩ := hadd
          rw [if_pos ⟨hcalled, hself, hin⟩, heq]
          exact h.answer hne hcalled rest
        · rw [if_neg hself] at hadd
          rw [if_neg (fun hc => hself hc.2.1), hadd]
          exact h.reply _
      · have hmembers : ∀ handle ∈ contacts, handle ∈ s.group.members := by
          intro handle hmem
          rw [h.group, PhoneCall.mem_group_members]
          cases hstands : c.standing selfHandle peer handle with
          | out => exact absurd hstands (hin handle hmem)
          | member => rfl
          | called =>
              unfold PhoneCall.standing at hstands
              split_ifs at hstands
              · exact absurd hstands hcalled
              · exact absurd hstands h.peer_not_called
        obtain ⟨r, heq⟩ := addHandles_of_not_called h hcalled contacts (Or.inr hmembers)
        rw [if_neg (fun hc => hcalled hc.1), heq]
        exact h.reply r

/-! ### Removing, and what is left -/

theorem Shows.removeHandles (h : Shows selfHandle peer c s) {contacts : List Nat}
    {reason : TpChannelGroupChangeReason} (hst : s.removeHandles reason contacts = .ok s') :
    Shows selfHandle peer c s' := by
  cases contacts with
  | nil =>
      cases hst
      exact h.reply _
  | cons handle rest =>
      simp only [MediaGroup.removeHandles, hazeMediaChannelRemoveMember] at hst
      by_cases hself : handle ≠ s.selfHandle
      · rw [if_pos hself] at hst
        cases hst
      · rw [if_neg hself] at hst
        by_cases hreason : s.chan.media ∧ ¬ reason.hangsUp
        · rw [if_pos hreason] at hst
          cases hst
          exact h.reply _
        · rw [if_neg hreason] at hst
          cases hst
          have hchan := h.chan (HazeMediaChannel.same_removeMember s.chan)
          exact hchan.of_frames s.canAdd h.canAdd (fun rest' hmem => by simpa using hmem)

theorem Shows.resume (h : Shows selfHandle peer c s) (hst : s.resume = .ok s') :
    Shows selfHandle peer c s' := by
  unfold MediaGroup.resume at hst
  cases hframes : s.frames with
  | nil =>
      rw [hframes] at hst
      cases hst
      exact h
  | cons frame frames =>
      rw [hframes] at hst
      have hpop : ∀ rest, .adding rest ∈ frames → .adding rest ∈ s.frames := by
        intro rest hmem
        rw [hframes]
        exact List.mem_cons_of_mem _ hmem
      cases frame with
      | adding rest =>
          cases hst
          obtain ⟨hcalled, hcreator⟩ := h.adding rest (by rw [hframes]; exact List.mem_cons_self)
          have hs := h.of_frames s.canAdd h.canAdd hpop
          obtain ⟨r, heq⟩ := addHandles_of_not_called hs hcalled rest (Or.inl hcreator)
          rw [heq]
          exact hs.reply r
      | removing rest reason =>
          exact (h.of_frames false rfl hpop).removeHandles hst

/-- A step of the channel other than the beginning of its session. -/
theorem Shows.channelStep (h : Shows selfHandle peer c s) {e : HazeMediaChannel.MediaEvent}
    (hinit : e ≠ .initMedia) (hdispose : e ≠ .dispose) (hst : s.channelStep e = .ok s') :
    Shows selfHandle peer c s' := by
  unfold MediaGroup.channelStep at hst
  split at hst
  · cases hst
  · rename_i chan hchan
    cases hst
    exact h.chan (HazeMediaChannel.same_step h.stack hinit hdispose hchan)

theorem Shows.initMedia (h : Shows selfHandle peer c s) (hst : s.channelStep .initMedia = .ok s') :
    Shows selfHandle peer { c with session := true } s' := by
  unfold MediaGroup.channelStep at hst
  split at hst
  · cases hst
  · rename_i chan hchan
    cases hst
    obtain ⟨-, rfl⟩ := HazeMediaChannel.initMediaCb_ok hchan
    refine ⟨h.1, h.2, h.3, rfl, h.5, h.6, h.7, h.8, fun hc => ?_, h.10, h.11⟩
    obtain ⟨hcreator, -, hanswered⟩ := h.called hc
    exact ⟨hcreator, rfl, hanswered⟩

/-- **A step of the channel is one of the call.** -/
theorem shows_step (hne : peer ≠ selfHandle) {e : Event} (h : Shows selfHandle peer c s)
    (hst : mediaGroups.step s e = .ok s') :
    Shows selfHandle peer (c.step selfHandle peer e) s' := by
  cases e with
  | channel e he =>
      have hstep : s.channelStep e = .ok s' := hst
      by_cases hinit : e = .initMedia
      · subst hinit
        exact h.initMedia hstep
      · have hsame := h.channelStep hinit he.2.2 hstep
        cases e <;> first | exact hsame | exact absurd rfl hinit
  | sessionEnd =>
      have hstep : s.sessionEnded.channelStep .sessionEnd = .ok s' := hst
      exact h.sessionEnded.channelStep (e := .sessionEnd) nofun nofun hstep
  | streamInfo type sid name isLocal =>
      simp only [mediaGroups] at hst
      show Shows _ _ (if c.session then c.hear type sid name isLocal else c) s'
      rw [h.media] at hst
      split_ifs at hst ⊢
      · cases hst
        exact h.hear hne type sid name isLocal
      · cases hst
        exact h
  | addMembers contacts =>
      cases hst
      exact h.addMembers hne contacts
  | removeMembers contacts reason =>
      have hstep : s.removeMembers contacts reason = .ok s' := hst
      unfold MediaGroup.removeMembers at hstep
      split at hstep
      · cases hstep
        exact h.reply _
      · exact h.removeHandles hstep
  | resume => exact h.resume hst

/-! ### Runs -/

theorem group_init (selfHandle peer : Nat) :
    TpGroupMixin.init = (⟨false, .out, .out, false⟩ : PhoneCall).group selfHandle peer := by
  have hout : ∀ h, (⟨false, .out, .out, false⟩ : PhoneCall).standing selfHandle peer h = .out := by
    intro h
    unfold PhoneCall.standing
    split_ifs <;> rfl
  refine TpGroupMixin.ext ?_ ?_ rfl
  · ext h
    simp [TpGroupMixin.init, hout]
  · ext h
    simp [TpGroupMixin.init, hout]

/-- The account becomes local pending. -/
theorem group_called (hne : peer ≠ selfHandle) :
    ((c.move false .member).group selfHandle peer).changeMembers
        (.addsLocalPending (some "") {selfHandle} peer .invited) =
      ((c.move false .member).move true .called).group selfHandle peer := by
  refine TpGroupMixin.ext ?_ ?_
    (by simp [TpGroupMixin.changeMembers, MembersChange.addsLocalPending, PhoneCall.group])
  · ext h
    simp only [TpGroupMixin.changeMembers, MembersChange.addsLocalPending, Finset.union_empty,
      Finset.empty_union, Finset.mem_sdiff, Finset.mem_singleton, PhoneCall.mem_group_members,
      PhoneCall.standing_move hne true, PhoneCall.party, if_true]
    split_ifs with hp <;> simp [hp]
  · ext h
    simp only [TpGroupMixin.changeMembers, MembersChange.addsLocalPending, Finset.union_empty,
      Finset.sdiff_empty, Finset.mem_union, Finset.mem_singleton,
      PhoneCall.mem_group_localPending, PhoneCall.standing_move hne true, PhoneCall.party, if_true]
    split_ifs with hp <;> simp [hp]

/-- A channel begins as its call does. -/
theorem shows_construct (hne : peer ≠ selfHandle) {protocol : String} {incoming : Bool}
    (h : construct protocol peer incoming selfHandle = .ok s) :
    Shows selfHandle peer (.start incoming) s := by
  rcases construct_cases h with ⟨rfl, rfl⟩ | ⟨rfl, rfl⟩
  · refine ⟨rfl, rfl, ?_, rfl, nofun, rfl, rfl, nofun, fun _ => ⟨hne, rfl, rfl⟩, nofun, ?_⟩
    · show (TpGroupMixin.init.changeMembers _).changeMembers _ = _
      rw [group_init selfHandle peer]
      have hpeer := PhoneCall.group_adds (c := ⟨false, .out, .out, false⟩) hne false (some "") 0
        .none
      rw [show PhoneCall.party selfHandle peer false = peer from rfl] at hpeer
      rw [hpeer, group_called hne]
      rfl
    · rw [count_changeMembers, created, count_changeMembers]
      rfl
  · refine ⟨rfl, rfl, ?_, rfl, nofun, rfl, rfl, nofun, nofun, nofun, ?_⟩
    · show TpGroupMixin.init.changeMembers _ = _
      rw [group_init selfHandle peer]
      have hself := PhoneCall.group_adds (c := ⟨false, .out, .out, false⟩) hne true (some "") 0
        .none
      rw [show PhoneCall.party selfHandle peer true = selfHandle from rfl] at hself
      rw [hself]
      rfl
    · rw [created, count_changeMembers]
      rfl

/-- A channel shows its call in every run. -/
theorem shows_run (hne : peer ≠ selfHandle) {protocol : String} {incoming : Bool}
    {s₀ : MediaGroup} {es : List Event}
    (hstart : construct protocol peer incoming selfHandle = .ok s₀)
    (hrun : mediaGroups.run s₀ es = .ok s) :
    Shows selfHandle peer (es.foldl (PhoneCall.step selfHandle peer) (.start incoming)) s := by
  refine Machine.run_history
    (I := fun es s => Shows selfHandle peer
      (es.foldl (PhoneCall.step selfHandle peer) (.start incoming)) s)
    (fun es s e s' hs (_ : True) hst => ?_) (shows_construct hne hstart)
    (Machine.meets_of_forall (p := fun _ => True) (fun _ _ => trivial) s₀) hrun
  rw [List.foldl_append]
  exact shows_step hne hs hst

end MediaGroup

open MediaGroup

/-- **The group is that of the call.** Whatever happens to a channel between two contacts, its
members and those who are pending are the ones of the call, and the account has accepted exactly
when it has answered. -/
theorem group_eq_phoneCall {protocol : String} {peer selfHandle : Nat} {incoming : Bool}
    {s₀ s : MediaGroup} {es : List MediaGroup.Event} (hne : peer ≠ selfHandle)
    (hstart : construct protocol peer incoming selfHandle = .ok s₀)
    (hrun : mediaGroups.run s₀ es = .ok s) :
    let call := es.foldl (PhoneCall.step selfHandle peer) (.start incoming)
    s.group = call.group selfHandle peer ∧
      s.calls.count .accept = if call.answered then 1 else 0 :=
  ⟨(shows_run hne hstart hrun).group, (shows_run hne hstart hrun).accepts⟩

/-- A call comes in, is answered, and ends. -/
theorem group_eq_phoneCall_answered :
    let es : List MediaGroup.Event := [.addMembers [1], .resume, .streamInfo .accept none none true]
    ∃ s₀ s, construct "xmpp" 2 true 1 = .ok s₀ ∧ mediaGroups.run s₀ es = .ok s ∧
      s.group = ⟨{1, 2}, ∅, ∅⟩ ∧ s.calls.count .accept = 1 := by
  obtain ⟨s₀, hstart⟩ : ∃ s₀, construct "xmpp" 2 true 1 = .ok s₀ := ⟨_, rfl⟩
  obtain ⟨s, hrun⟩ : ∃ s, mediaGroups.run s₀
      [.addMembers [1], .resume, .streamInfo .accept none none true] = .ok s := by
    cases hstart
    exact ⟨_, rfl⟩
  obtain ⟨hgroup, haccept⟩ := group_eq_phoneCall (by decide) hstart hrun
  refine ⟨s₀, s, hstart, hrun, hgroup.trans (by decide), haccept.trans (by decide)⟩

end Haze
