import Haze.ContactList.Events
import Haze.ContactList.Publish
import Haze.ContactList.Removal

set_option autoImplicit false

/-! # The announced roster

The bus knows the roster from announcements alone: `one_contact_changed` puts a contact on
it with the states it then has, `one_contact_removed` takes it off. `RosterAgrees` says that
this is the roster `dup_contacts` and `dup_states` enumerate.

A contact is enumerated for one of three reasons: a buddy, a pending request, an accepted
request. `buddy_removed_cb` takes the contact off the announced roster when the last buddy
goes, whatever the other two say; `reject_publish_request` and `close_account_request`
announce a change when the request goes, though nothing else may be left. `Safe` excludes
these cases, and then every event keeps the two rosters equal (`roster_agrees`).
-/

namespace Haze

namespace HazeContactList

variable {P : Libpurple} {a : PurpleAccount} {s s' : HazeContactList P a}
variable {group : PurpleGroup} {h : TpHandle P a} {d : PublishRequestData P a}
variable {names : List String}

/-! ## Agreement at one contact -/

/-- The announced roster is the enumerated one as far as `h` is concerned. -/
def RosterAgreesAt (s : HazeContactList P a) (h : TpHandle P a) : Prop :=
  s.announced.roster h = if h ∈ s.dupContacts then some (s.dupStates h) else none

/-- The announced roster is the enumerated one. -/
def RosterAgrees (s : HazeContactList P a) : Prop := ∀ h, s.RosterAgreesAt h

theorem rosterAgrees_setListReceived (s : HazeContactList P a) :
    RosterAgrees s.setListReceived := fun _ => rfl

/-- Nothing that matters for `h` has changed. -/
structure SameAt (s s' : HazeContactList P a) (h : TpHandle P a) : Prop where
  onList : OnList s'.blist h ↔ OnList s.blist h
  pending : s'.pendingPublishRequests.lookup h = s.pendingPublishRequests.lookup h
  publishingTo : h ∈ s'.publishingTo ↔ h ∈ s.publishingTo
  notPublishingTo : h ∈ s'.notPublishingTo ↔ h ∈ s.notPublishingTo

theorem SameRequests.sameAt (hsame : SameRequests s s')
    (hon : OnList s'.blist h ↔ OnList s.blist h) : SameAt s s' h where
  onList := hon
  pending := by rw [hsame.pending]
  publishingTo := by rw [hsame.publishingTo]
  notPublishingTo := by rw [hsame.notPublishingTo]

theorem SameAt.mem_pending (hsame : SameAt s s' h) :
    h ∈ s'.pendingPublishRequests ↔ h ∈ s.pendingPublishRequests := by
  rw [← AList.lookup_isSome, ← AList.lookup_isSome, hsame.pending]

/-- A contact that is not announced, and for which nothing has changed. -/
theorem RosterAgreesAt.same (hs : s.RosterAgreesAt h) (hsame : SameAt s s' h)
    (hroster : s'.announced.roster h = s.announced.roster h) : s'.RosterAgreesAt h := by
  have hlisted : h ∈ s'.dupContacts ↔ h ∈ s.dupContacts := by
    rw [mem_dupContacts, mem_dupContacts, hsame.onList, hsame.publishingTo, hsame.mem_pending]
  have hstates := dupStates_congr hsame.onList hsame.pending hsame.publishingTo
    hsame.notPublishingTo
  rw [RosterAgreesAt, hroster, hstates]
  simp only [hlisted]
  exact hs

/-- A contact that is announced with its states, and is enumerated. -/
theorem RosterAgreesAt.changed (hroster : s'.announced.roster h = some (s'.dupStates h))
    (hlisted : h ∈ s'.dupContacts) : s'.RosterAgreesAt h := by
  rw [RosterAgreesAt, hroster, if_pos hlisted]

/-- A contact that is announced as removed, and is not enumerated. -/
theorem RosterAgreesAt.removed (hroster : s'.announced.roster h = none)
    (hlisted : h ∉ s'.dupContacts) : s'.RosterAgreesAt h := by
  rw [RosterAgreesAt, hroster, if_neg hlisted]

/-! ## Moving buddies -/

theorem onList_congr {bl bl' : BuddyList P}
    (hhas : ∀ p (h : TpHandle P a), bl'.Has p a h.id ↔ bl.Has p a h.id) (h : TpHandle P a) :
    OnList bl' h ↔ OnList bl h :=
  exists_congr (fun p => hhas p h)

/-- A change of the list that moves nobody and announces nobody. -/
theorem RosterAgrees.same (hs : RosterAgrees s) (hsame : SameRequests s s')
    (hhas : ∀ p (h : TpHandle P a), s'.blist.Has p a h.id ↔ s.blist.Has p a h.id)
    (hroster : s'.announced.roster = s.announced.roster) : RosterAgrees s' :=
  fun h => (hs h).same (hsame.sameAt (onList_congr hhas h)) (by rw [hroster])

theorem onList_addBuddy {bl : BuddyList P} (hu : bl.Usable group) (b : PurpleBuddy) :
    OnList (bl.purpleBlistAddBuddy b group) h ↔ OnList bl h ∨ h.contact = b.contact P := by
  simp only [OnList, BuddyList.has_addBuddy hu]
  constructor
  · rintro ⟨p, hhas | ⟨-, hacc, hn⟩⟩
    · exact Or.inl ⟨p, hhas⟩
    · exact Or.inr (Prod.ext hacc hn)
  · rintro (⟨p, hhas⟩ | hc)
    · exact ⟨p, Or.inl hhas⟩
    · rw [TpHandle.contact, PurpleBuddy.contact, Prod.mk.injEq] at hc
      exact ⟨group.ptr, Or.inr ⟨rfl, hc.1, hc.2⟩⟩

/-- The handle that the repository gives a buddy of the account. -/
theorem contact_eq_contact_iff {b : PurpleBuddy} (hacc : b.account = a) :
    h.contact = b.contact P ↔ h = tpHandleEnsure P a b.name := by
  rw [eq_comm, contact_eq_iff, ← tpHandleEnsure_eq_iff]
  exact ⟨fun hc => hc.2.symm, fun hc => ⟨hacc, hc.symm⟩⟩

/-- Adding a buddy announces its contact, with the states it then has. -/
theorem rosterAgrees_purpleBlistAddBuddy (hs : RosterAgrees s) (hu : s.blist.Usable group)
    (b : PurpleBuddy) : RosterAgrees (s.purpleBlistAddBuddy b group) := by
  intro h
  simp only [purpleBlistAddBuddy, buddyAddedCb]
  by_cases hacc : b.account = a
  · rw [if_pos hacc]
    by_cases heq : h = tpHandleEnsure P a b.name
    · refine RosterAgreesAt.changed ?_ (mem_dupContacts.mpr (Or.inr (Or.inl ?_)))
      · rw [heq]
        exact Function.update_self _ _ _
      · exact (onList_addBuddy hu b).mpr (Or.inr ((contact_eq_contact_iff hacc).mpr heq))
    · refine (hs h).same ⟨?_, rfl, Iff.rfl, Iff.rfl⟩ (Function.update_of_ne heq _ _)
      refine (onList_addBuddy hu b).trans (or_iff_left ?_)
      exact fun hc => heq ((contact_eq_contact_iff hacc).mp hc)
  · rw [if_neg hacc]
    refine (hs h).same ⟨?_, rfl, Iff.rfl, Iff.rfl⟩ rfl
    refine (onList_addBuddy hu b).trans (or_iff_left ?_)
    exact fun hc => hacc (congrArg Prod.fst hc).symm

theorem rosterAgrees_addNewBuddy (hs : RosterAgrees s) (hu : s.blist.Usable group)
    (h : TpHandle P a) : RosterAgrees (s.addNewBuddy h group) :=
  rosterAgrees_purpleBlistAddBuddy
    (s := { s with blist := (s.blist.purpleBuddyNew a h.inspect).1 }) hs hu _

/-- The contact is neither asking nor accepted. -/
def Unasked (s : HazeContactList P a) (h : TpHandle P a) : Prop :=
  h ∉ s.pendingPublishRequests ∧ h ∉ s.publishingTo

/-- A buddy can go when its contact has another one, or is on the list for no other reason. -/
def CanGo (s : HazeContactList P a) (e : Nat × PurpleBuddy) : Prop :=
  (∃ e' ∈ s.blist.purpleFindBuddies a (some e.2.name), e' ≠ e) ∨
    Unasked s (tpHandleEnsure P a e.2.name)

theorem onList_removeBuddy_subset {bl : BuddyList P} {e : Nat × PurpleBuddy}
    (hon : OnList (bl.purpleBlistRemoveBuddy e) h) : OnList bl h := by
  obtain ⟨p, hp, b, hb, hacc, hn⟩ := hon
  exact ⟨p, hp, b, ((BuddyList.mem_members_removeBuddy bl e (p, b)).mp hb).1, hacc, hn⟩

/-- Removing a buddy only matters for its own contact. -/
theorem onList_removeBuddy_of_ne {bl : BuddyList P} {e : Nat × PurpleBuddy}
    (hne : h.contact ≠ e.2.contact P) :
    OnList (bl.purpleBlistRemoveBuddy e) h ↔ OnList bl h := by
  refine ⟨onList_removeBuddy_subset, fun hon => ?_⟩
  rw [onList_iff_members] at hon ⊢
  obtain ⟨x, hx, hp, hc⟩ := hon
  refine ⟨x, (BuddyList.mem_members_removeBuddy bl e x).mpr ⟨hx, ?_⟩, hp, hc⟩
  rintro rfl
  exact hne hc.symm

/-- The contact of the last buddy is off the list. -/
theorem not_onList_of_last {bl : BuddyList P} {e : Nat × PurpleBuddy}
    (hlast : ¬ ∃ e' ∈ bl.purpleFindBuddies a (some e.2.name), e' ≠ e) :
    ¬ OnList (bl.purpleBlistRemoveBuddy e) (tpHandleEnsure P a e.2.name) := by
  intro hon
  obtain ⟨e', he'⟩ := onList_iff_findBuddies.mp hon
  obtain ⟨hmem, hp, hacc, hn⟩ := mem_findBuddies_handle.mp he'
  obtain ⟨hmem, hne⟩ := (BuddyList.mem_members_removeBuddy bl e e').mp hmem
  have hname := tpHandleEnsure_eq_iff.mp hn
  exact hlast ⟨e', BuddyList.mem_findBuddies.mpr ⟨hmem, hp, hacc, hname⟩, hne⟩

/-- Removing a buddy that can go: the contact is still on the list, or it is announced as
removed and nothing else keeps it. -/
theorem rosterAgrees_purpleBlistRemoveBuddy (hs : RosterAgrees s)
    (hstatus : s.status ≠ .disconnected) {e : Nat × PurpleBuddy}
    (hgo : e.2.account = a → CanGo s e) : RosterAgrees (s.purpleBlistRemoveBuddy e) := by
  let t : HazeContactList P a :=
    { s with
      blist := s.blist.purpleBlistRemoveBuddy e
      lists := s.lists ++ [s.blist.purpleBlistRemoveBuddy e] }
  show RosterAgrees (t.buddyRemovedCb e)
  by_cases hacc : e.2.account = a
  · have hne : ∀ h : TpHandle P a, h ≠ tpHandleEnsure P a e.2.name →
        h.contact ≠ e.2.contact P := fun h hne hc => hne ((contact_eq_contact_iff hacc).mp hc)
    -- `buddy_removed_cb` announces the removal of the last buddy's contact only
    by_cases hother : ∃ e' ∈ s.blist.purpleFindBuddies a (some e.2.name), e' ≠ e
    · obtain ⟨e', he', hne'⟩ := hother
      rw [buddyRemovedCb_of_other (s := t) hacc hstatus
        ⟨e', mem_findBuddies_removeBuddy.mpr ⟨he', hne'⟩, hne'⟩]
      intro h
      refine (hs h).same ⟨?_, rfl, Iff.rfl, Iff.rfl⟩ rfl
      refine ⟨onList_removeBuddy_subset, fun hon => ?_⟩
      rw [onList_iff_mem_contacts] at hon ⊢
      exact contacts_subset_removeBuddy hacc ⟨he', hne'⟩ hon
    · have hlast : ¬ ∃ e' ∈ t.blist.purpleFindBuddies a (some e.2.name), e' ≠ e :=
        fun ⟨e', he', hne'⟩ => hother ⟨e', (mem_findBuddies_removeBuddy.mp he').1, hne'⟩
      obtain ⟨hpending, hpublishing⟩ := (hgo hacc).resolve_left hother
      rw [buddyRemovedCb_of_last (s := t) hacc hstatus hlast]
      intro h
      by_cases heq : h = tpHandleEnsure P a e.2.name
      · apply RosterAgreesAt.removed (by rw [heq]; exact Function.update_self _ _ _)
        rw [mem_dupContacts, heq]
        rintro (hpub | hon | hask)
        · exact hpublishing hpub
        · exact not_onList_of_last hother hon
        · exact hpending hask
      · exact (hs h).same ⟨onList_removeBuddy_of_ne (hne h heq), rfl, Iff.rfl, Iff.rfl⟩
          (Function.update_of_ne heq _ _)
  · -- another account's buddy
    have hunchanged : t.buddyRemovedCb e = t := if_neg hacc
    rw [hunchanged]
    exact fun h => (hs h).same ⟨onList_removeBuddy_of_ne
      (fun hc => hacc (congrArg Prod.fst hc).symm), rfl, Iff.rfl, Iff.rfl⟩ rfl

theorem rosterAgrees_removeBuddy (hs : RosterAgrees s) (hstatus : s.status ≠ .disconnected)
    {e : Nat × PurpleBuddy} (hgo : e.2.account = a → CanGo s e) :
    RosterAgrees (s.removeBuddy e) :=
  rosterAgrees_purpleBlistRemoveBuddy
    (s := s.call (.purpleAccountRemoveBuddy e.2.name (s.blist.purpleGroupGetName e.1)))
    hs hstatus hgo

/-- Moves keep the rosters equal. -/
theorem Moves.rosterAgrees (hm : Moves names s s') (hs : RosterAgrees s)
    (hstatus : s.status ≠ .disconnected) : RosterAgrees s' := by
  induction hm with
  | refl => exact hs
  | tail hmoves hmove ih =>
      have hstatus' := (Moves.sameRequests hmoves).status ▸ hstatus
      cases hmove with
      | announce bl name _ hroot hmembers =>
          refine ih.same (sameRequests_announce _ bl name) (fun p h => ?_) rfl
          show bl.Has p a h.id ↔ _
          simp only [BuddyList.Has, BuddyList.ptrs, hroot, hmembers]
      | add h group hu _ _ => exact rosterAgrees_addNewBuddy ih hu h
      | remove e e' _ he' =>
          exact rosterAgrees_removeBuddy ih hstatus' (fun _ => Or.inl ⟨e', he'.1, he'.2⟩)

/-- A loop that removes buddies of a contact that nothing else keeps on the list. -/
theorem rosterAgrees_removeBuddies {l : List (Nat × PurpleBuddy)} (hs : RosterAgrees s)
    (hstatus : s.status ≠ .disconnected) (h : TpHandle P a) (hunasked : Unasked s h)
    (hl : ∀ e ∈ l, tpHandleEnsure P a e.2.name = h) : RosterAgrees (s.removeBuddies l) := by
  induction l generalizing s with
  | nil => exact hs
  | cons e l ih =>
      have hsame := sameRequests_removeBuddy s e
      have hfirst : RosterAgrees (s.removeBuddy e) := by
        refine rosterAgrees_removeBuddy hs hstatus (fun _ => Or.inr ?_)
        rw [hl e List.mem_cons_self]
        exact hunasked
      refine ih hfirst (hsame.status ▸ hstatus) ?_ (fun x hx => hl x (List.mem_cons_of_mem e hx))
      rw [Unasked, hsame.pending, hsame.publishingTo]
      exact hunasked

/-! ## Operations on groups -/

/-- The events on the list that keep the two rosters equal: the last buddy of a contact does not
go while the contact is asking or accepted, and `set_contact_groups` does not drop such a
contact because the fallback group is spelled differently. -/
def ListSafe (s : HazeContactList P a) : ListEvent P a → Prop
  | .prplRemoveBuddy e => e.2.account = a → CanGo s e
  | .setContactGroups h names => names = [] → FallbackSpelled s ∨ Unasked s h
  | _ => True

theorem sameRequests_groupsRemoved (s : HazeContactList P a) (names : List String) :
    SameRequests s (s.groupsRemoved names) :=
  sameRequests_tell s _ rfl rfl

theorem sameRequests_groupRenamed (s : HazeContactList P a) (old new : String) :
    SameRequests s (s.groupRenamed old new) :=
  sameRequests_tell s _ rfl rfl

/-- What an operation on groups does to the requests and to the announced roster. -/
structure KeepsRoster (safe : Prop) (s s' : HazeContactList P a) : Prop where
  same : SameRequests s s'
  agrees : RosterAgrees s → s.status ≠ .disconnected → safe → RosterAgrees s'

theorem Moves.keepsRoster {safe : Prop} (hm : Moves names s s') : KeepsRoster safe s s' :=
  ⟨hm.sameRequests, fun hs hstatus _ => hm.rosterAgrees hs hstatus⟩

theorem keepsRoster_setContactGroups (hnames : ∀ n ∈ names, NormalName s n) :
    KeepsRoster (names = [] → FallbackSpelled s ∨ Unasked s h) s
      (s.setContactGroupsAsync h names) := by
  have hgroup : ∀ n ∈ wantedNames P names, P.IsGroupName n :=
    isGroupName_of_mem_wantedNames (fun n hn => (hnames n hn).1)
  have hadd : Moves (wantedNames P names) s (s.addToGroups (wantedNames P names) h) :=
    moves_addToGroups hgroup
  constructor
  · rw [setContactGroupsAsync_eq]
    exact hadd.sameRequests.trans (sameRequests_removeBuddies _ _)
  · intro hs hstatus hsafe
    have hmoves : (∀ n ∈ wantedNames P names, NormalName s n) →
        RosterAgrees (s.setContactGroupsAsync h names) :=
      fun hnormal => (moves_setContactGroups hnormal).rosterAgrees hs hstatus
    -- without names the contact goes to the fallback group
    by_cases hnil : names = []
    · rcases hsafe hnil with hspelled | hunasked
      · apply hmoves
        intro n hn
        rw [wantedNames, if_pos hnil] at hn
        rw [List.mem_singleton.mp hn]
        exact hspelled
      · rw [setContactGroupsAsync_eq]
        have hsame := hadd.sameRequests
        refine rosterAgrees_removeBuddies (hadd.rosterAgrees hs hstatus)
          (hsame.status ▸ hstatus) h ?_ (fun e he => ?_)
        · rw [Unasked, hsame.pending, hsame.publishingTo]
          exact hunasked
        · exact (mem_findBuddies_handle.mp (List.mem_of_mem_filter he)).2.2.2
    · apply hmoves
      intro n hn
      rw [wantedNames, if_neg hnil] at hn
      exact hnames n hn

theorem keepsRoster_removeGroup {safe : Prop} (s : HazeContactList P a)
    (groupName : String) : KeepsRoster safe s (s.removeGroupAsync groupName).1 := by
  simp only [removeGroupAsync]
  rcases hprep : s.prepRemoveFromGroup groupName (s.dupGroupMembers groupName)
    with ⟨s₁, _ | e⟩
  · have hmoves := (prepRemoveFromGroup_ok hprep).moves
    dsimp only
    have hrest : ∀ (bl : BuddyList P),
        (∀ p (h : TpHandle P a), bl.Has p a h.id ↔ s₁.blist.Has p a h.id) →
        KeepsRoster safe s ({ s₁ with blist := bl }.groupsRemoved [groupName]) := by
      intro bl hhas
      have hsame := (sameRequests_blist s₁ bl s₁.lists).trans
        (sameRequests_groupsRemoved _ [groupName])
      exact ⟨hmoves.sameRequests.trans hsame, fun hs hstatus _ =>
        (hmoves.rosterAgrees hs hstatus).same hsame hhas rfl⟩
    split
    · exact hrest _ (fun p h => BuddyList.has_removeGroup _ _ _ _ _)
    · exact hrest _ (fun p h => Iff.rfl)
  · exact (prepRemoveFromGroup_error hprep).moves.keepsRoster

theorem keepsRoster_renameGroup {safe : Prop} (s : HazeContactList P a)
    (oldName newName : String) :
    KeepsRoster safe s (s.renameGroupAsync oldName newName).1 := by
  unfold renameGroupAsync
  split
  · exact ⟨SameRequests.refl s, fun hs _ _ => hs⟩
  · exact ⟨SameRequests.refl s, fun hs _ _ => hs⟩
  · rename_i group _ _
    have hsame := (sameRequests_blist s (s.blist.purpleBlistRenameGroup group newName)
      s.lists).trans (sameRequests_groupRenamed _ oldName newName)
    exact ⟨hsame, fun hs _ _ =>
      hs.same hsame (fun p h => BuddyList.has_renameGroup _ _ _ _ _ _) rfl⟩

/-- Every operation on groups goes through, and the safe ones keep the rosters equal. -/
theorem listStep_ok (s : HazeContactList P a) {e : ListEvent P a} (hlegal : ListLegal s e) :
    ∃ s', s.listStep e = .ok s' ∧ KeepsRoster (ListSafe s e) s s' := by
  cases e with
  | prplAddBuddy account name groupName =>
      let bl := (s.blist.purpleGroupNew groupName).1
      let s₁ : HazeContactList P a := { s with blist := (bl.purpleBuddyNew account name).1 }
      have hsame : SameRequests s s₁ := sameRequests_blist s _ s.lists
      refine ⟨s₁.purpleBlistAddBuddy (bl.purpleBuddyNew account name).2
        (s.blist.purpleGroupNew groupName).2, rfl,
        ⟨hsame.trans (sameRequests_purpleBlistAddBuddy _ _ _), fun hs _ _ => ?_⟩⟩
      refine rosterAgrees_purpleBlistAddBuddy (hs.same hsame (fun p h => ?_) rfl)
        (BuddyList.usable_groupNew s.blist hlegal) _
      exact BuddyList.has_groupNew s.blist groupName p a h.id
  | prplRemoveBuddy e =>
      exact ⟨_, rfl, ⟨sameRequests_purpleBlistRemoveBuddy s e, fun hs hstatus hsafe =>
        rosterAgrees_purpleBlistRemoveBuddy hs hstatus hsafe⟩⟩
  | addToGroup groupName contacts =>
      obtain ⟨s', hs', -, hmoves⟩ := addToGroupAsync_ok hlegal.1 s contacts
      exact ⟨s', hs', hmoves.keepsRoster⟩
  | removeFromGroup groupName contacts =>
      refine ⟨_, rfl, ?_⟩
      rcases hr : s.removeFromGroupAsync groupName contacts with ⟨s', _ | e⟩
      · exact (removeFromGroupAsync_ok hr).2.2.keepsRoster
      · exact (removeFromGroupAsync_error hr).moves.keepsRoster
  | setGroupMembers groupName contacts =>
      rcases setGroupMembersAsync_cases hlegal.1 s contacts with
        ⟨s', e, hs', -, -, -, hmoves⟩ | ⟨s', hs', -, -, hmoves⟩
      · exact ⟨s', by rw [listStep, hs']; rfl, hmoves.keepsRoster⟩
      · exact ⟨s', by rw [listStep, hs']; rfl, hmoves.keepsRoster⟩
  | setContactGroups h names => exact ⟨_, rfl, keepsRoster_setContactGroups hlegal⟩
  | removeGroup groupName => exact ⟨_, rfl, keepsRoster_removeGroup s groupName⟩
  | renameGroup oldName newName => exact ⟨_, rfl, keepsRoster_renameGroup s oldName newName⟩

theorem listStep_same {e : ListEvent P a} (hlegal : ListLegal s e)
    (hstep : s.listStep e = .ok s') : SameRequests s s' := by
  obtain ⟨s₁, hs₁, hkeeps⟩ := listStep_ok s hlegal
  rw [hs₁] at hstep
  cases hstep
  exact hkeeps.same

/-! ## Requests -/

/-- Every pending request is filed under its own contact, and no contact is both asking and
accepted. -/
structure Consistent (s : HazeContactList P a) : Prop where
  status : s.status ≠ .disconnected
  keyed : ∀ h d, s.pendingPublishRequests.lookup h = some d → d.handle = h
  apart : ∀ h, h ∈ s.pendingPublishRequests → h ∉ s.publishingTo

theorem Consistent.init (bl : BuddyList P) : Consistent (init bl : HazeContactList P a) where
  status := by simp [HazeContactList.init]
  keyed := by intro h d hd; cases hd
  apart := by simp [HazeContactList.init]

theorem Consistent.same (hs : Consistent s) (hsame : SameRequests s s') : Consistent s' where
  status := by rw [hsame.status]; exact hs.status
  keyed := by rw [hsame.pending]; exact hs.keyed
  apart := by rw [hsame.pending, hsame.publishingTo]; exact hs.apart

/-- Forgetting the request of `h`, and possibly publishing to it, stays consistent. -/
theorem Consistent.erase (hs : Consistent s) (hstatus : s'.status = s.status)
    (hpending : s'.pendingPublishRequests = s.pendingPublishRequests.erase h)
    (hpublishing : ∀ h', h' ∈ s'.publishingTo → h' ∈ s.publishingTo ∨ h' = h) :
    Consistent s' where
  status := by rw [hstatus]; exact hs.status
  keyed := by
    intro h' d hd
    rw [hpending, lookup_erase_eq_some] at hd
    exact hs.keyed h' d hd.2
  apart := by
    intro h' hask hpub
    rw [hpending, AList.mem_erase] at hask
    rcases hpublishing h' hpub with hpub | heq
    · exact hs.apart h' hask.2 hpub
    · exact hask.1 heq

theorem Consistent.requestAuthorize (hs : Consistent s) (remoteUser : String)
    (message : Option String) : Consistent (s.requestAuthorize remoteUser message) where
  status := hs.status
  keyed := by
    intro h d hd
    change (s.pendingPublishRequests.insert (tpHandleEnsure P a remoteUser) _).lookup h = _ at hd
    by_cases heq : h = tpHandleEnsure P a remoteUser
    · subst heq
      rw [AList.lookup_insert, Option.some.injEq] at hd
      rw [← hd]
    · rw [AList.lookup_insert_ne heq] at hd
      exact hs.keyed h d hd
  apart := by
    intro h hask hpub
    change h ∈ s.pendingPublishRequests.insert (tpHandleEnsure P a remoteUser) _ at hask
    change h ∈ tpHandleSetRemove s.publishingTo (tpHandleEnsure P a remoteUser) at hpub
    rw [mem_tpHandleSetRemove] at hpub
    rw [AList.mem_insert] at hask
    exact hs.apart h (hask.resolve_left hpub.2) hpub.1

/-- A request puts the contact on both rosters. -/
theorem rosterAgrees_requestAuthorize (hs : RosterAgrees s) (remoteUser : String)
    (message : Option String) : RosterAgrees (s.requestAuthorize remoteUser message) := by
  intro h
  by_cases heq : h = tpHandleEnsure P a remoteUser
  · refine RosterAgreesAt.changed ?_ (mem_dupContacts.mpr (Or.inr (Or.inr ?_)))
    · rw [heq]
      exact Function.update_self _ _ _
    · rw [heq]
      exact (AList.mem_insert _).mpr (Or.inl rfl)
  · refine (hs h).same ⟨Iff.rfl, AList.lookup_insert_ne heq, ?_, ?_⟩
      (Function.update_of_ne heq _ _)
    · exact mem_tpHandleSetRemove.trans (and_iff_left heq)
    · exact mem_tpHandleSetAdd.trans (or_iff_left heq)

/-- An accepted contact is on both rosters. -/
theorem rosterAgrees_accepted (hs : RosterAgrees s) (h : TpHandle P a) (request : Nat) :
    RosterAgrees ((s.accepted h request).oneContactChanged h) := by
  intro h'
  by_cases heq : h' = h
  · subst heq
    exact RosterAgreesAt.changed (Function.update_self _ _ _)
      (mem_dupContacts.mpr (Or.inl (mem_tpHandleSetAdd.mpr (Or.inr rfl))))
  · refine (hs h').same ⟨Iff.rfl, AList.lookup_erase_ne heq, ?_, Iff.rfl⟩
      (Function.update_of_ne heq _ _)
    exact mem_tpHandleSetAdd.trans (or_iff_left heq)

/-- A contact whose request was turned down is announced, so it must have a buddy. -/
theorem rosterAgrees_rejected (hs : RosterAgrees s) (request : Nat)
    (hon : OnList s.blist h) :
    RosterAgrees ((s.rejected h request).oneContactChanged h) := by
  intro h'
  by_cases heq : h' = h
  · subst heq
    exact RosterAgreesAt.changed (Function.update_self _ _ _)
      (mem_dupContacts.mpr (Or.inr (Or.inl hon)))
  · refine (hs h').same ⟨Iff.rfl, AList.lookup_erase_ne heq, Iff.rfl, ?_⟩
      (Function.update_of_ne heq _ _)
    exact mem_tpHandleSetAdd.trans (or_iff_left heq)

theorem rosterAgrees_closed (hs : RosterAgrees s) (request : Nat)
    (hon : OnList s.blist h) : RosterAgrees ((s.closed h request).oneContactChanged h) :=
  rosterAgrees_rejected hs request hon

/-! ## Runs -/

/-- Everything that happens to the contact list. -/
inductive RosterEvent (P : Libpurple) (a : PurpleAccount) where
  | list (e : ListEvent P a)
  | requestSubscription (h : TpHandle P a)
  | request (e : RequestEvent P a)

/-- The contact list as a machine over all events. -/
def roster (P : Libpurple) (a : PurpleAccount) :
    Machine (HazeContactList P a) (RosterEvent P a) Fault where
  step
    | s, .list e => s.listStep e
    | s, .requestSubscription h => s.requestSubscription h
    | s, .request e => (requests P a).step s e

/-- What libpurple and telepathy-glib promise. -/
def RosterLegal (s : HazeContactList P a) : RosterEvent P a → Prop
  | .list e => ListLegal s e
  | .requestSubscription _ => True
  | .request e => RequestLegal s e

/-- The requests that keep the two rosters equal: one that is turned down or withdrawn is in the
table, from a contact that is on the list; and a contact that is removed is neither asking
nor, with a buddy, accepted. -/
def RequestSafe (s : HazeContactList P a) : RequestEvent P a → Prop
  | .rejectPublishRequest h => h ∈ s.pendingPublishRequests → OnList s.blist h
  | .removeContact h => h ∉ s.pendingPublishRequests ∧ (OnList s.blist h → h ∉ s.publishingTo)
  | .closeAccountRequest request =>
      ∃ d ∈ s.derefRequest request, OnList s.blist d.handle
  | _ => True

/-- The events that keep the two rosters equal. -/
def RosterSafe (s : HazeContactList P a) : RosterEvent P a → Prop
  | .list e => ListSafe s e
  | .requestSubscription h => ¬ OnList s.blist h
  | .request e => RequestSafe s e

instance (s : HazeContactList P a) : DecidablePred (RosterLegal s)
  | .list e => inferInstanceAs (Decidable (ListLegal s e))
  | .requestSubscription _ => inferInstanceAs (Decidable True)
  | .request e => inferInstanceAs (Decidable (RequestLegal s e))

instance (s : HazeContactList P a) : DecidablePred (Unasked s) := fun h =>
  inferInstanceAs (Decidable (h ∉ s.pendingPublishRequests ∧ h ∉ s.publishingTo))

instance (s : HazeContactList P a) : DecidablePred (CanGo s) := fun e =>
  inferInstanceAs (Decidable
    ((∃ e' ∈ s.blist.purpleFindBuddies a (some e.2.name), e' ≠ e) ∨
      Unasked s (tpHandleEnsure P a e.2.name)))

instance (s : HazeContactList P a) : DecidablePred (ListSafe s)
  | .prplRemoveBuddy e => inferInstanceAs (Decidable (e.2.account = a → CanGo s e))
  | .setContactGroups h names =>
      inferInstanceAs (Decidable (names = [] → FallbackSpelled s ∨ Unasked s h))
  | .prplAddBuddy _ _ _ => inferInstanceAs (Decidable True)
  | .addToGroup _ _ => inferInstanceAs (Decidable True)
  | .removeFromGroup _ _ => inferInstanceAs (Decidable True)
  | .setGroupMembers _ _ => inferInstanceAs (Decidable True)
  | .removeGroup _ => inferInstanceAs (Decidable True)
  | .renameGroup _ _ => inferInstanceAs (Decidable True)

instance (s : HazeContactList P a) : DecidablePred (RequestSafe s)
  | .rejectPublishRequest h =>
      inferInstanceAs (Decidable (h ∈ s.pendingPublishRequests → OnList s.blist h))
  | .removeContact h => inferInstanceAs (Decidable
      (h ∉ s.pendingPublishRequests ∧ (OnList s.blist h → h ∉ s.publishingTo)))
  | .closeAccountRequest request =>
      inferInstanceAs (Decidable (∃ d ∈ s.derefRequest request, OnList s.blist d.handle))
  | .requestAuthorize _ _ => inferInstanceAs (Decidable True)
  | .acceptPublishRequest _ => inferInstanceAs (Decidable True)

instance (s : HazeContactList P a) : DecidablePred (RosterSafe s)
  | .list e => inferInstanceAs (Decidable (ListSafe s e))
  | .requestSubscription h => inferInstanceAs (Decidable (¬ OnList s.blist h))
  | .request e => inferInstanceAs (Decidable (RequestSafe s e))

/-- The request at an address is on file under its own contact. -/
theorem Consistent.mem_of_deref (hs : Consistent s) {request : Nat}
    (hderef : s.derefRequest request = some d) : d.handle ∈ s.pendingPublishRequests := by
  obtain ⟨⟨h, d'⟩, hentry, hd'⟩ := List.mem_map.mp (List.mem_of_find?_eq_some hderef)
  have hlookup := AList.mem_lookup_iff.mpr hentry
  have hkey := hs.keyed h d' hlookup
  subst hd'
  rw [hkey]
  exact mem_pending_of_lookup hlookup

theorem Consistent.rejectPublishRequest (hs : Consistent s)
    (hstep : s.rejectPublishRequest h = .ok s') : Consistent s' := by
  cases hd : s.pendingPublishRequests.lookup h with
  | none =>
      rw [rejectPublishRequest_of_none hd] at hstep
      cases hstep
      exact hs
  | some d =>
      rw [rejectPublishRequest_of_some hd] at hstep
      cases hstep
      exact hs.erase rfl rfl (fun _ => Or.inl)

/-- Every successful event on requests stays consistent. -/
theorem Consistent.requestStep (hs : Consistent s) {e : RequestEvent P a}
    (hstep : (requests P a).step s e = .ok s') : Consistent s' := by
  cases e with
  | requestAuthorize remoteUser message =>
      cases hstep
      exact hs.requestAuthorize remoteUser message
  | acceptPublishRequest h =>
      change s.acceptPublishRequest h = .ok s' at hstep
      cases hd : s.pendingPublishRequests.lookup h with
      | none =>
          rw [acceptPublishRequest_of_none hd] at hstep
          cases hstep
          exact hs
      | some d =>
          rw [acceptPublishRequest_of_some hd] at hstep
          cases hstep
          exact hs.erase rfl rfl (fun h' hpub => mem_tpHandleSetAdd.mp hpub)
  | rejectPublishRequest h => exact hs.rejectPublishRequest hstep
  | removeContact h =>
      exact (hs.same (sameRequests_removeBuddies s _)).rejectPublishRequest hstep
  | closeAccountRequest request =>
      change s.closeAccountRequest request = .ok s' at hstep
      cases hd : s.derefRequest request with
      | none =>
          rw [closeAccountRequest_of_none hd] at hstep
          cases hstep
      | some d =>
          rw [closeAccountRequest_of_some hd (hs.mem_of_deref hd)] at hstep
          cases hstep
          exact hs.erase rfl rfl (fun _ => Or.inl)

/-- A safe event on requests goes through and keeps the rosters equal. -/
theorem requestStep_ok (hcons : Consistent s) {e : RequestEvent P a}
    (hsafe : RequestSafe s e) (hs : RosterAgrees s) :
    ∃ s', (requests P a).step s e = .ok s' ∧ RosterAgrees s' := by
  cases e with
  | requestAuthorize remoteUser message =>
      exact ⟨_, rfl, rosterAgrees_requestAuthorize hs remoteUser message⟩
  | acceptPublishRequest h =>
      cases hd : s.pendingPublishRequests.lookup h with
      | none => exact ⟨s, acceptPublishRequest_of_none hd, hs⟩
      | some d => exact ⟨_, acceptPublishRequest_of_some hd, rosterAgrees_accepted hs h d.ptr⟩
  | rejectPublishRequest h =>
      cases hd : s.pendingPublishRequests.lookup h with
      | none => exact ⟨s, rejectPublishRequest_of_none hd, hs⟩
      | some d =>
          exact ⟨_, rejectPublishRequest_of_some hd,
            rosterAgrees_rejected hs d.ptr (hsafe (mem_pending_of_lookup hd))⟩
  | removeContact h =>
      let s₁ := s.removeBuddies (s.blist.purpleFindBuddies a (some h.inspect))
      have hsame : SameRequests s s₁ := sameRequests_removeBuddies s _
      have hd : s₁.pendingPublishRequests.lookup h = none := by
        rw [hsame.pending]
        exact AList.lookup_eq_none.mpr hsafe.1
      refine ⟨s₁, rejectPublishRequest_of_none hd, ?_⟩
      by_cases hon : OnList s.blist h
      · exact rosterAgrees_removeBuddies hs hcons.status h ⟨hsafe.1, hsafe.2 hon⟩
          (fun e he => (mem_findBuddies_handle.mp he).2.2.2)
      · have hnone : s.blist.purpleFindBuddies a (some h.inspect) = [] := by
          rw [onList_iff_findBuddies] at hon
          exact List.eq_nil_iff_forall_not_mem.mpr (fun e he => hon ⟨e, he⟩)
        show RosterAgrees (s.removeBuddies _)
        rw [hnone]
        exact hs
  | closeAccountRequest request =>
      obtain ⟨d, hderef, hon⟩ := hsafe
      exact ⟨_, closeAccountRequest_of_some hderef (hcons.mem_of_deref hderef),
        rosterAgrees_closed hs request hon⟩

theorem requestSubscription_ok (hnew : ¬ OnList s.blist h) :
    ∃ s', s.requestSubscription h = .ok s' ∧ SameRequests s s' ∧
      (RosterAgrees s → RosterAgrees s') := by
  let s₁ : HazeContactList P a := { s with blist := (s.blist.purpleGroupNew P.buddies).1 }
  have hsame : SameRequests s s₁ := sameRequests_blist s _ s.lists
  refine ⟨s₁.addNewBuddy h (s.blist.purpleGroupNew P.buddies).2, ?_,
    hsame.trans (sameRequests_addNewBuddy _ _ _), fun hs => ?_⟩
  · simp only [requestSubscription]
    exact if_neg (fun hc => hnew (findBuddy_isSome.mp hc))
  · refine rosterAgrees_addNewBuddy (hs.same hsame (fun p h => ?_) rfl)
      (BuddyList.usable_groupNew s.blist P.isGroupName_buddies) h
    exact BuddyList.has_groupNew s.blist P.buddies p a h.id

theorem requestSubscription_same (hstep : s.requestSubscription h = .ok s') :
    SameRequests s s' := by
  by_cases hon : OnList s.blist h
  · simp only [requestSubscription, if_pos (findBuddy_isSome.mpr hon)] at hstep
    cases hstep
  · obtain ⟨s₁, hs₁, hsame, -⟩ := requestSubscription_ok hon
    rw [hs₁] at hstep
    cases hstep
    exact hsame

/-- Every successful event stays consistent. -/
theorem Consistent.step (hs : Consistent s) {e : RosterEvent P a} (hlegal : RosterLegal s e)
    (hstep : (roster P a).step s e = .ok s') : Consistent s' := by
  cases e with
  | list e => exact hs.same (listStep_same hlegal hstep)
  | requestSubscription h => exact hs.same (requestSubscription_same hstep)
  | request e => exact hs.requestStep hstep

/-- A legal and safe event goes through and keeps the rosters equal. -/
theorem rosterStep_ok {e : RosterEvent P a} (hcons : Consistent s) (hs : RosterAgrees s)
    (hlegal : RosterLegal s e) (hsafe : RosterSafe s e) :
    ∃ s', (roster P a).step s e = .ok s' ∧ Consistent s' ∧ RosterAgrees s' := by
  have hgoes : ∃ s', (roster P a).step s e = .ok s' ∧ RosterAgrees s' := by
    cases e with
    | list e =>
        obtain ⟨s', hs', hkeeps⟩ := listStep_ok s hlegal
        exact ⟨s', hs', hkeeps.agrees hs hcons.status hsafe⟩
    | requestSubscription h =>
        obtain ⟨s', hs', -, hagrees⟩ := requestSubscription_ok hsafe
        exact ⟨s', hs', hagrees hs⟩
    | request e => exact requestStep_ok hcons hsafe hs
  obtain ⟨s', hs', hagrees⟩ := hgoes
  exact ⟨s', hs', hcons.step hlegal hs', hagrees⟩

/-- **The announced roster is the enumerated roster** after every event of every run in which
no contact loses its last buddy, its request or itself while something else keeps it on the
list, or is announced while nothing does. -/
theorem roster_agrees (bl : BuddyList P) (es₀ es : List (RosterEvent P a))
    (hlegal : (roster P a).Meets RosterLegal (init bl) es₀)
    (hrun : (roster P a).run (init bl) es₀ = .ok s)
    (hes : (roster P a).Meets (fun s e => RosterLegal s e ∧ RosterSafe s e)
      s.setListReceived es) :
    ∃ s', (roster P a).run s.setListReceived es = .ok s' ∧ RosterAgrees s' := by
  have hcons : Consistent s := Machine.run_invariant
    (fun _ _ _ hs hlegal hstep => hs.step hlegal hstep) (Consistent.init bl) hlegal hrun
  have hreceived : Consistent s.setListReceived := ⟨hcons.status, hcons.keyed, hcons.apart⟩
  obtain ⟨s', hs', -, hagrees⟩ := Machine.run_ok_of_invariant
    (I := fun s => Consistent s ∧ RosterAgrees s)
    (fun s e hs hok => rosterStep_ok hs.1 hs.2 hok.1 hok.2)
    ⟨hreceived, rosterAgrees_setListReceived s⟩ hes
  exact ⟨s', hs', hagrees⟩

/-- Bob is added, asks and is turned down; then his buddy goes. -/
theorem roster_agrees_bob :
    ∃ s', (roster Libpurple.plain 0).run (init BuddyList.empty).setListReceived
        [.list (.prplAddBuddy 0 "bob" "Friends"), .request (.requestAuthorize "bob" none),
          .request (.rejectPublishRequest ⟨"bob", rfl⟩),
          .list (.prplRemoveBuddy (0, ⟨1, 0, "bob"⟩))] = .ok s' ∧ RosterAgrees s' :=
  roster_agrees BuddyList.empty [] _ trivial rfl (by decide)

/-- Bob is added and asks; then his buddy goes, and he is announced as removed although
`dup_contacts` lists him. -/
theorem roster_disagrees_bob :
    ¬ ∀ es : List (RosterEvent Libpurple.plain 0),
      (roster Libpurple.plain 0).Meets RosterLegal (init BuddyList.empty).setListReceived es →
      ∃ s', (roster Libpurple.plain 0).run (init BuddyList.empty).setListReceived es
        = .ok s' ∧ RosterAgrees s' := by
  intro hall
  obtain ⟨s', hrun, hagrees⟩ := hall [.list (.prplAddBuddy 0 "bob" "Friends"),
    .request (.requestAuthorize "bob" none), .list (.prplRemoveBuddy (0, ⟨1, 0, "bob"⟩))]
    (by decide)
  cases hrun
  have hbob := hagrees ⟨"bob", rfl⟩
  revert hbob
  unfold RosterAgreesAt
  decide

end HazeContactList

end Haze
