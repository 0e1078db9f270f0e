import Mathlib.Logic.Relation
import Haze.Libpurple.Memberships
import Haze.ContactList.Queries

set_option autoImplicit false

/-! # Moving buddies

What `addNewBuddy` and `removeBuddy` do, and the loops over them: the operations on groups
are made of these, and their proofs use the lemmas here instead of the definitions.

A `Move` announces a group, adds a buddy, or removes a buddy whose contact has another one.
The operations that edit groups consist of moves, so what moves preserve is proved once, for
a single move. `Keeps C` is the first instance: every buddy list an observer sees on the way
has the contacts of `C`, and no contact is reported as removed (`Moves.keeps`).
-/

namespace Haze

/-- The request that is handed over to libpurple. -/
def Call.opens {P : Libpurple} {a : PurpleAccount} : Call P a → Option Nat
  | .requestAuthorize r => some r
  | _ => none

/-- The request whose callback is run, or which libpurple closes. -/
def Call.settles {P : Libpurple} {a : PurpleAccount} : Call P a → Option Nat
  | .allow r => some r
  | .deny r => some r
  | .closeAccountRequest r => some r
  | _ => none

/-- The contact a handle stands for. -/
def TpHandle.contact {P : Libpurple} {a : PurpleAccount} (h : TpHandle P a) :
    PurpleAccount × String := (a, h.id)

namespace HazeContactList

variable {P : Libpurple} {a : PurpleAccount} {s s' s'' : HazeContactList P a}

theorem contact_inj {h h' : TpHandle P a} : h.contact = h'.contact ↔ h = h' := by
  constructor
  · intro heq
    cases h; cases h'
    simpa [TpHandle.contact] using heq
  · rintro rfl; rfl

theorem onList_iff_mem_contacts {bl : BuddyList P} {h : TpHandle P a} :
    OnList bl h ↔ h.contact ∈ bl.memberships.contacts := by
  rw [BuddyList.mem_contacts_memberships]
  rfl

/-- The contacts of a handle set. -/
def contactSet (hs : TpHandleSet P a) : Set (PurpleAccount × String) :=
  {c | ∃ h ∈ hs, h.contact = c}

@[simp] theorem contact_mem_contactSet {hs : TpHandleSet P a} {h : TpHandle P a} :
    h.contact ∈ contactSet hs ↔ h ∈ hs := by
  constructor
  · rintro ⟨h', hmem, heq⟩
    rwa [← contact_inj.mp heq]
  · exact fun hmem => ⟨h, hmem, rfl⟩

@[simp] theorem contactSet_nil : contactSet ([] : TpHandleSet P a) = ∅ := by
  ext c; simp [contactSet]

theorem contactSet_cons (h : TpHandle P a) (hs : TpHandleSet P a) :
    contactSet (h :: hs) = insert h.contact (contactSet hs) := by
  ext c
  simp only [contactSet, List.mem_cons, Set.mem_insert_iff, Set.mem_ofPred_eq]
  rw [exists_eq_or_imp, eq_comm]

theorem fst_of_mem_contactSet {hs : TpHandleSet P a} {c : PurpleAccount × String}
    (h : c ∈ contactSet hs) : c.1 = a := by
  obtain ⟨h', -, rfl⟩ := h
  rfl

/-! ## What is left alone, and what is kept -/

/-- The requests that were handed over to libpurple. -/
def opened (s : HazeContactList P a) : List Nat := s.calls.filterMap Call.opens

/-- The requests that were answered or closed, in that order. -/
def settled (s : HazeContactList P a) : List Nat := s.calls.filterMap Call.settles

/-- The functions that only move buddies leave the requests alone. -/
structure SameRequests (s s' : HazeContactList P a) : Prop where
  status : s'.status = s.status
  pending : s'.pendingPublishRequests = s.pendingPublishRequests
  publishingTo : s'.publishingTo = s.publishingTo
  notPublishingTo : s'.notPublishingTo = s.notPublishingTo
  refCount : s'.refCount = s.refCount
  nextRequest : s'.nextRequest = s.nextRequest
  handles : s'.handles = s.handles
  opened : s'.opened = s.opened
  settled : s'.settled = s.settled

theorem SameRequests.refl (s : HazeContactList P a) : SameRequests s s :=
  ⟨rfl, rfl, rfl, rfl, rfl, rfl, rfl, rfl, rfl⟩

theorem SameRequests.trans (h : SameRequests s s') (h' : SameRequests s' s'') :
    SameRequests s s'' :=
  ⟨h'.1.trans h.1, h'.2.trans h.2, h'.3.trans h.3, h'.4.trans h.4, h'.5.trans h.5,
    h'.6.trans h.6, h'.7.trans h.7, h'.8.trans h.8, h'.9.trans h.9⟩

theorem sameRequests_blist (s : HazeContactList P a) (bl : BuddyList P)
    (lists : List (BuddyList P)) : SameRequests s { s with blist := bl, lists := lists } :=
  ⟨rfl, rfl, rfl, rfl, rfl, rfl, rfl, rfl, rfl⟩

theorem sameRequests_call (s : HazeContactList P a) {c : Call P a} (hopens : c.opens = none)
    (hsettles : c.settles = none) : SameRequests s (s.call c) := by
  refine ⟨rfl, rfl, rfl, rfl, rfl, rfl, rfl, ?_, ?_⟩
  · simp [opened, call, hopens]
  · simp [settled, call, hsettles]

/-- A call to the base class that is recorded in its roster. -/
theorem sameRequests_tell (s : HazeContactList P a) {c : Call P a}
    (announced : TpBaseContactList (TpHandle P a)) (hopens : c.opens = none)
    (hsettles : c.settles = none) : SameRequests s { s.call c with announced := announced } :=
  (sameRequests_call s hopens hsettles).trans ⟨rfl, rfl, rfl, rfl, rfl, rfl, rfl, rfl, rfl⟩

theorem sameRequests_oneContactGroupsChanged (s : HazeContactList P a) (h : TpHandle P a)
    (added removed : List String) : SameRequests s (s.oneContactGroupsChanged h added removed) :=
  sameRequests_tell s _ rfl rfl

theorem sameRequests_buddyAddedCb (s : HazeContactList P a) (b : PurpleBuddy)
    (g : PurpleGroup) : SameRequests s (s.buddyAddedCb b g) := by
  unfold buddyAddedCb
  split
  · have hchanged : SameRequests s (s.oneContactChanged (tpHandleEnsure P a b.name)) :=
      sameRequests_tell s _ rfl rfl
    exact hchanged.trans (sameRequests_oneContactGroupsChanged _ _ _ _)
  · exact SameRequests.refl s

theorem sameRequests_buddyRemovedCb (s : HazeContactList P a) (e : Nat × PurpleBuddy) :
    SameRequests s (s.buddyRemovedCb e) := by
  simp only [buddyRemovedCb]
  split_ifs
  · exact SameRequests.refl s
  · exact sameRequests_oneContactGroupsChanged s _ _ _
  · have hgroups := sameRequests_oneContactGroupsChanged s (tpHandleEnsure P a e.2.name) []
      [s.blist.purpleGroupGetName e.1]
    exact hgroups.trans (sameRequests_tell _ _ rfl rfl)
  · exact SameRequests.refl s

theorem sameRequests_purpleBlistAddBuddy (s : HazeContactList P a) (b : PurpleBuddy)
    (g : PurpleGroup) : SameRequests s (s.purpleBlistAddBuddy b g) :=
  (sameRequests_blist s _ _).trans (sameRequests_buddyAddedCb _ b g)

theorem sameRequests_purpleBlistRemoveBuddy (s : HazeContactList P a)
    (e : Nat × PurpleBuddy) : SameRequests s (s.purpleBlistRemoveBuddy e) :=
  (sameRequests_blist s _ _).trans (sameRequests_buddyRemovedCb _ e)

theorem sameRequests_addNewBuddy (s : HazeContactList P a) (h : TpHandle P a)
    (g : PurpleGroup) : SameRequests s (s.addNewBuddy h g) :=
  ((sameRequests_blist s _ s.lists).trans (sameRequests_purpleBlistAddBuddy _ _ g)).trans
    (sameRequests_call _ rfl rfl)

theorem sameRequests_removeBuddy (s : HazeContactList P a) (e : Nat × PurpleBuddy) :
    SameRequests s (s.removeBuddy e) :=
  (sameRequests_call s rfl rfl).trans (sameRequests_purpleBlistRemoveBuddy _ e)

/-- On the way from `s` to `s'` every buddy list has the contacts of `C`, and no contact is
reported as removed. -/
structure Keeps (C : Set (PurpleAccount × String)) (s s' : HazeContactList P a) : Prop where
  lists : ∃ l, s'.lists = s.lists ++ l ∧ ∀ bl ∈ l, C ⊆ bl.memberships.contacts
  calls : ∃ l, s'.calls = s.calls ++ l ∧ ∀ h, Call.oneContactRemoved h ∉ l

variable {C : Set (PurpleAccount × String)}

theorem Keeps.refl (C : Set (PurpleAccount × String)) (s : HazeContactList P a) :
    Keeps C s s :=
  ⟨⟨[], by simp⟩, ⟨[], by simp⟩⟩

theorem Keeps.trans (h : Keeps C s s') (h' : Keeps C s' s'') : Keeps C s s'' := by
  obtain ⟨⟨l, hl, hkeep⟩, ⟨c, hc, hnone⟩⟩ := h
  obtain ⟨⟨l', hl', hkeep'⟩, ⟨c', hc', hnone'⟩⟩ := h'
  refine ⟨⟨l ++ l', by rw [hl', hl, List.append_assoc], ?_⟩,
    ⟨c ++ c', by rw [hc', hc, List.append_assoc], ?_⟩⟩
  · intro bl hbl
    rcases List.mem_append.mp hbl with hbl | hbl
    · exact hkeep bl hbl
    · exact hkeep' bl hbl
  · intro h hmem
    rcases List.mem_append.mp hmem with hmem | hmem
    · exact hnone h hmem
    · exact hnone' h hmem

theorem Keeps.mono {C' : Set (PurpleAccount × String)} (hsub : C' ⊆ C) (h : Keeps C s s') :
    Keeps C' s s' := by
  obtain ⟨⟨l, hl, hkeep⟩, hcalls⟩ := h
  exact ⟨⟨l, hl, fun bl hbl => hsub.trans (hkeep bl hbl)⟩, hcalls⟩

/-- A call that removes no contact keeps everybody. -/
theorem Keeps.of_call {c : Call P a} (hlists : s'.lists = s.lists)
    (hcalls : s'.calls = s.calls ++ [c]) (hc : ∀ h, c ≠ .oneContactRemoved h) :
    Keeps C s s' := by
  refine ⟨⟨[], by simp [hlists]⟩, ⟨[c], hcalls, ?_⟩⟩
  intro h hmem
  exact hc h (List.mem_singleton.mp hmem).symm

/-! ## Adding a buddy -/

variable {group : PurpleGroup} {h : TpHandle P a}

/-- The buddy list after `addNewBuddy`. -/
theorem blist_addNewBuddy (s : HazeContactList P a) (h : TpHandle P a)
    (group : PurpleGroup) : (s.addNewBuddy h group).blist =
      (s.blist.purpleBuddyNew a h.inspect).1.purpleBlistAddBuddy
        ⟨s.blist.next, a, h.inspect⟩ group := by
  simp [addNewBuddy, purpleBlistAddBuddy, buddyAddedCb, BuddyList.purpleBuddyNew, call,
    oneContactChanged, oneContactGroupsChanged]

theorem root_addNewBuddy (hu : s.blist.Usable group) :
    (s.addNewBuddy h group).blist.root
      = if group ∈ s.blist.root then s.blist.root else s.blist.root ++ [group] := by
  rw [blist_addNewBuddy, BuddyList.root_addBuddy (hu.buddyNew a h.inspect)]
  rfl

theorem has_addNewBuddy (hu : s.blist.Usable group) {p : Nat} {acc : PurpleAccount}
    {n : String} : (s.addNewBuddy h group).blist.Has p acc n ↔
      s.blist.Has p acc n ∨ (p = group.ptr ∧ acc = a ∧ n = h.id) := by
  rw [blist_addNewBuddy, BuddyList.has_addBuddy (hu.buddyNew a h.inspect), normalize_inspect]
  rfl

theorem mem_root_addNewBuddy (hu : s.blist.Usable group) :
    group ∈ (s.addNewBuddy h group).blist.root := by
  rw [root_addNewBuddy hu]
  split
  · assumption
  · simp

theorem usable_addNewBuddy (hu : s.blist.Usable group) :
    (s.addNewBuddy h group).blist.Usable group := Or.inl (mem_root_addNewBuddy hu)

/-- The contact joins the group. -/
theorem memberships_addNewBuddy (hu : s.blist.Usable group) :
    (s.addNewBuddy h group).blist.memberships =
      s.blist.memberships.join (P.gUtf8CollateKey group.name) {h.contact} := by
  rw [blist_addNewBuddy, BuddyList.memberships_addBuddy (hu.buddyNew a h.inspect),
    BuddyList.memberships_buddyNew]
  simp only [normalize_inspect, TpHandle.contact]

/-- What is on the list after a buddy has been added was there at every step. -/
theorem Keeps.addNewBuddy (hC : C ⊆ (s.addNewBuddy h group).blist.memberships.contacts) :
    Keeps C s (s.addNewBuddy h group) := by
  refine ⟨⟨[(s.addNewBuddy h group).blist], ?_, ?_⟩,
    ⟨[.oneContactChanged h, .oneContactGroupsChanged h [group.name] [],
      .purpleAccountAddBuddy h.inspect], ?_, by simp⟩⟩
  · rw [blist_addNewBuddy]
    simp [HazeContactList.addNewBuddy, purpleBlistAddBuddy, buddyAddedCb,
      BuddyList.purpleBuddyNew, call, oneContactChanged, oneContactGroupsChanged]
  · intro bl hbl
    rw [List.mem_singleton.mp hbl]
    exact hC
  · have hh : tpHandleEnsure P a h.inspect = h := tpHandleEnsure_eq_iff.mpr h.normal
    simp [HazeContactList.addNewBuddy, purpleBlistAddBuddy, buddyAddedCb,
      BuddyList.purpleBuddyNew, call, oneContactChanged, oneContactGroupsChanged, hh]

theorem keeps_addNewBuddy (hu : s.blist.Usable group)
    (hC : C ⊆ s.blist.memberships.contacts) : Keeps C s (s.addNewBuddy h group) := by
  apply Keeps.addNewBuddy
  rw [memberships_addNewBuddy hu]
  exact hC.trans Roster.contacts_subset_join

/-- The loop of `prep_remove_from_group`: every contact of the list joins the group. -/
theorem memberships_addNewBuddies (hs : TpHandleSet P a) (hu : s.blist.Usable group) :
    (hs.foldl (fun s h => s.addNewBuddy h group) s).blist.memberships =
      s.blist.memberships.join (P.gUtf8CollateKey group.name) (contactSet hs) := by
  induction hs generalizing s with
  | nil => simp
  | cons h hs ih =>
      rw [List.foldl_cons, ih (usable_addNewBuddy hu), memberships_addNewBuddy hu,
        Roster.join_insert, contactSet_cons]

/-! ## Removing buddies -/

@[simp] theorem blist_removeBuddy (s : HazeContactList P a) (e : Nat × PurpleBuddy) :
    (s.removeBuddy e).blist = s.blist.purpleBlistRemoveBuddy e := by
  simp only [removeBuddy, purpleBlistRemoveBuddy, buddyRemovedCb]
  split_ifs <;> rfl

/-- Another buddy of the same contact, in a group of the list. -/
def OtherInstance (bl : BuddyList P) (a : PurpleAccount) (e e' : Nat × PurpleBuddy) : Prop :=
  e' ∈ bl.purpleFindBuddies a (some e.2.name) ∧ e' ≠ e

/-- The buddy is found again after another one is removed. -/
theorem mem_findBuddies_removeBuddy {bl : BuddyList P} {e e' : Nat × PurpleBuddy}
    {name : String} : e' ∈ (bl.purpleBlistRemoveBuddy e).purpleFindBuddies a (some name) ↔
      e' ∈ bl.purpleFindBuddies a (some name) ∧ e' ≠ e := by
  rw [BuddyList.mem_findBuddies, BuddyList.mem_findBuddies, BuddyList.mem_members_removeBuddy]
  simp only [BuddyList.ptrs, BuddyList.root_removeBuddy]
  tauto

/-- Removing a buddy whose contact has another one loses no contact. -/
theorem contacts_subset_removeBuddy {bl : BuddyList P} {e e' : Nat × PurpleBuddy}
    (hacc : e.2.account = a) (he' : OtherInstance bl a e e') :
    bl.memberships.contacts ⊆ (bl.purpleBlistRemoveBuddy e).memberships.contacts := by
  rintro ⟨acc, n⟩ hc
  rw [BuddyList.mem_contacts_memberships] at hc ⊢
  obtain ⟨p, hp, b, hb, hbacc, hbn⟩ := hc
  -- only a contact that was found through `e` needs the other buddy
  by_cases heq : (p, b) = e
  · subst heq
    obtain ⟨hfound, hne⟩ := he'
    obtain ⟨hmem, hptr, hacc', hname⟩ := BuddyList.mem_findBuddies.mp hfound
    refine ⟨e'.1, (BuddyList.has_removeBuddy bl _ _ _ _).mpr
      ⟨hptr, e'.2, ⟨hmem, hne⟩, ?_, ?_⟩⟩
    · rw [hacc', ← hbacc, hacc]
    · have ha : acc = a := hbacc.symm.trans hacc
      rw [← hbn, ha]
      exact hname
  · exact ⟨p, (BuddyList.has_removeBuddy bl _ _ _ _).mpr ⟨hp, b, ⟨hb, heq⟩, hbacc, hbn⟩⟩

/-- The state in which `buddy-removed` is emitted: the buddy has been unlinked. -/
def unlinkBuddy (s : HazeContactList P a) (e : Nat × PurpleBuddy) : HazeContactList P a :=
  { s.call (.purpleAccountRemoveBuddy e.2.name (s.blist.purpleGroupGetName e.1)) with
    blist := s.blist.purpleBlistRemoveBuddy e
    lists := s.lists ++ [s.blist.purpleBlistRemoveBuddy e] }

theorem buddyRemovedCb_of_disconnected (hstatus : s.status = .disconnected)
    (e : Nat × PurpleBuddy) : s.buddyRemovedCb e = s := by
  simp only [buddyRemovedCb, if_pos hstatus, ite_self]

/-- `buddy_removed_cb` while another instance is on the list. -/
theorem buddyRemovedCb_of_other {e : Nat × PurpleBuddy} (hacc : e.2.account = a)
    (hstatus : s.status ≠ .disconnected)
    (hother : ∃ e' ∈ s.blist.purpleFindBuddies a (some e.2.name), e' ≠ e) :
    s.buddyRemovedCb e = s.oneContactGroupsChanged (tpHandleEnsure P a e.2.name) []
      [s.blist.purpleGroupGetName e.1] := by
  simp only [buddyRemovedCb, if_pos hacc, if_neg hstatus]
  exact if_neg (not_not.mpr hother)

/-- `buddy_removed_cb` for the last instance. -/
theorem buddyRemovedCb_of_last {e : Nat × PurpleBuddy} (hacc : e.2.account = a)
    (hstatus : s.status ≠ .disconnected)
    (hlast : ¬ ∃ e' ∈ s.blist.purpleFindBuddies a (some e.2.name), e' ≠ e) :
    s.buddyRemovedCb e = (s.oneContactGroupsChanged (tpHandleEnsure P a e.2.name) []
      [s.blist.purpleGroupGetName e.1]).oneContactRemoved (tpHandleEnsure P a e.2.name) := by
  simp only [buddyRemovedCb, if_pos hacc, if_neg hstatus]
  exact if_pos hlast

theorem removeBuddy_of_disconnected (hstatus : s.status = .disconnected)
    (e : Nat × PurpleBuddy) : s.removeBuddy e = s.unlinkBuddy e :=
  buddyRemovedCb_of_disconnected (s := s.unlinkBuddy e) hstatus e

theorem removeBuddy_of_other {e e' : Nat × PurpleBuddy} (hacc : e.2.account = a)
    (hstatus : s.status ≠ .disconnected) (he' : OtherInstance s.blist a e e') :
    s.removeBuddy e = (s.unlinkBuddy e).oneContactGroupsChanged
      (tpHandleEnsure P a e.2.name) [] [s.blist.purpleGroupGetName e.1] :=
  buddyRemovedCb_of_other (s := s.unlinkBuddy e) hacc hstatus
    ⟨e', mem_findBuddies_removeBuddy.mpr he', he'.2⟩

theorem keeps_removeBuddy {e e' : Nat × PurpleBuddy} (hacc : e.2.account = a)
    (he' : OtherInstance s.blist a e e') (hC : C ⊆ s.blist.memberships.contacts) :
    Keeps C s (s.removeBuddy e) := by
  have hlists : ∀ bl ∈ [s.blist.purpleBlistRemoveBuddy e],
      C ⊆ bl.memberships.contacts := by
    intro bl hbl
    rw [List.mem_singleton.mp hbl]
    exact hC.trans (contacts_subset_removeBuddy hacc he')
  by_cases hstatus : s.status = .disconnected
  · rw [removeBuddy_of_disconnected hstatus]
    exact ⟨⟨_, rfl, hlists⟩, ⟨_, rfl, by simp⟩⟩
  · rw [removeBuddy_of_other hacc hstatus he']
    refine ⟨⟨_, rfl, hlists⟩, ⟨[.purpleAccountRemoveBuddy e.2.name
      (s.blist.purpleGroupGetName e.1), .oneContactGroupsChanged
      (tpHandleEnsure P a e.2.name) [] [s.blist.purpleGroupGetName e.1]], ?_, by simp⟩⟩
    simp [unlinkBuddy, call, oneContactGroupsChanged]

/-- The loops that remove buddies go over a list that was made beforehand. -/
def removeBuddies (s : HazeContactList P a) (l : List (Nat × PurpleBuddy)) :
    HazeContactList P a := l.foldl removeBuddy s

@[simp] theorem removeBuddies_nil (s : HazeContactList P a) : s.removeBuddies [] = s := rfl

@[simp] theorem removeBuddies_cons (s : HazeContactList P a) (e : Nat × PurpleBuddy)
    (l : List (Nat × PurpleBuddy)) :
    s.removeBuddies (e :: l) = (s.removeBuddy e).removeBuddies l := rfl

@[simp] theorem root_removeBuddies (s : HazeContactList P a)
    (l : List (Nat × PurpleBuddy)) : (s.removeBuddies l).blist.root = s.blist.root := by
  induction l generalizing s with
  | nil => rfl
  | cons e l ih => rw [removeBuddies_cons, ih, blist_removeBuddy, BuddyList.root_removeBuddy]

theorem mem_members_removeBuddies (s : HazeContactList P a) (l : List (Nat × PurpleBuddy))
    (x : Nat × PurpleBuddy) :
    x ∈ (s.removeBuddies l).blist.members ↔ x ∈ s.blist.members ∧ x ∉ l := by
  induction l generalizing s with
  | nil => simp
  | cons e l ih =>
      rw [removeBuddies_cons, ih, blist_removeBuddy, BuddyList.mem_members_removeBuddy,
        List.mem_cons, not_or, and_assoc]

theorem sameRequests_removeBuddies (s : HazeContactList P a)
    (l : List (Nat × PurpleBuddy)) : SameRequests s (s.removeBuddies l) := by
  induction l generalizing s with
  | nil => exact SameRequests.refl s
  | cons e l ih => exact (sameRequests_removeBuddy s e).trans (ih _)

/-! ## Moves -/

/-- One move of an operation that may announce the groups `names`. -/
inductive Move (names : List String) : HazeContactList P a → HazeContactList P a → Prop where
  | announce (s : HazeContactList P a) (bl : BuddyList P) (name : String) :
      name ∈ names → bl.root = s.blist.root → bl.members = s.blist.members →
      Move names s ({ s with blist := bl }.groupsCreated [name])
  | add (s : HazeContactList P a) (h : TpHandle P a) (group : PurpleGroup) :
      s.blist.Usable group → (group ∈ s.blist.root ∨ group.name ∈ names) →
      ¬ s.blist.Has group.ptr a h.id → Move names s (s.addNewBuddy h group)
  | remove (s : HazeContactList P a) (e e' : Nat × PurpleBuddy) :
      e ∈ s.blist.purpleFindBuddies a (some e.2.name) → OtherInstance s.blist a e e' →
      Move names s (s.removeBuddy e)

/-- A sequence of moves. -/
abbrev Moves (names : List String) : HazeContactList P a → HazeContactList P a → Prop :=
  Relation.ReflTransGen (Move names)

variable {names names' : List String}

theorem Move.mono (hnames : names ⊆ names') (hm : Move names s s') : Move names' s s' := by
  cases hm with
  | announce bl name hmem hroot hmembers =>
      exact Move.announce s bl name (hnames hmem) hroot hmembers
  | add h group hu hnamed hhas =>
      exact Move.add s h group hu (hnamed.imp_right (fun hn => hnames hn)) hhas
  | remove e e' he he' => exact Move.remove s e e' he he'

theorem Moves.mono (hnames : names ⊆ names') (hm : Moves names s s') : Moves names' s s' :=
  Relation.ReflTransGen.mono (fun _ _ hmove => Move.mono hnames hmove) _ _ hm

theorem memberships_eq_of_same {bl bl' : BuddyList P} (hroot : bl'.root = bl.root)
    (hmembers : bl'.members = bl.members) : bl'.memberships = bl.memberships := by
  simp only [BuddyList.memberships, BuddyList.Has, BuddyList.ptrs, hroot, hmembers]

theorem Move.contacts_subset (hm : Move names s s') :
    s.blist.memberships.contacts ⊆ s'.blist.memberships.contacts := by
  cases hm with
  | announce bl name _ hroot hmembers =>
      show _ ⊆ bl.memberships.contacts
      rw [memberships_eq_of_same hroot hmembers]
  | add h group hu _ _ =>
      rw [memberships_addNewBuddy hu]
      exact Roster.contacts_subset_join
  | remove e e' he he' =>
      rw [blist_removeBuddy]
      exact contacts_subset_removeBuddy (BuddyList.mem_findBuddies.mp he).2.2.1 he'

theorem Move.keeps (hm : Move names s s') (hC : C ⊆ s.blist.memberships.contacts) :
    Keeps C s s' := by
  cases hm with
  | announce bl name _ _ _ => exact Keeps.of_call rfl rfl (by simp)
  | add h group hu _ _ => exact keeps_addNewBuddy hu hC
  | remove e e' he he' =>
      exact keeps_removeBuddy (BuddyList.mem_findBuddies.mp he).2.2.1 he' hC

/-- **Moves lose no contact**, at no step. -/
theorem Moves.keeps (hm : Moves names s s') :
    Keeps s.blist.memberships.contacts s s' ∧
      s.blist.memberships.contacts ⊆ s'.blist.memberships.contacts := by
  induction hm with
  | refl => exact ⟨Keeps.refl _ s, subset_rfl⟩
  | tail _ hmove ih =>
      exact ⟨ih.1.trans (hmove.keeps ih.2), ih.2.trans hmove.contacts_subset⟩

theorem sameRequests_announce (s : HazeContactList P a) (bl : BuddyList P) (name : String) :
    SameRequests s ({ s with blist := bl }.groupsCreated [name]) :=
  (sameRequests_blist s bl s.lists).trans (sameRequests_tell _ _ rfl rfl)

theorem Moves.sameRequests (hm : Moves names s s') : SameRequests s s' := by
  induction hm with
  | refl => exact SameRequests.refl s
  | tail _ hmove ih =>
      apply ih.trans
      cases hmove with
      | announce bl name _ _ _ => exact sameRequests_announce _ bl name
      | add h group _ _ _ => exact sameRequests_addNewBuddy _ h group
      | remove e e' _ _ => exact sameRequests_removeBuddy _ e

/-! ## Loops that consist of moves -/

/-- The loop of `prep_remove_from_group`. -/
theorem moves_addNewBuddies {hs : TpHandleSet P a} (hn : hs.Nodup)
    (hu : s.blist.Usable group) (hnamed : group ∈ s.blist.root ∨ group.name ∈ names)
    (hnew : ∀ h ∈ hs, ¬ s.blist.Has group.ptr a h.id) :
    Moves names s (hs.foldl (fun s h => s.addNewBuddy h group) s) := by
  induction hs generalizing s with
  | nil => exact Relation.ReflTransGen.refl
  | cons h hs ih =>
      obtain ⟨hnot, hn'⟩ := List.nodup_cons.mp hn
      refine Relation.ReflTransGen.head
        (Move.add s h group hu hnamed (hnew h List.mem_cons_self))
        (ih hn' (usable_addNewBuddy hu) (Or.inl (mem_root_addNewBuddy hu)) ?_)
      -- the contacts still to come are not the one that was added
      intro h' hmem hhas
      rcases (has_addNewBuddy hu).mp hhas with hold | ⟨-, -, hid⟩
      · exact hnew h' (List.mem_cons_of_mem h hmem) hold
      · have heq : h' = h := contact_inj.mp (by rw [TpHandle.contact, TpHandle.contact, hid])
        exact hnot (heq ▸ hmem)

/-- A loop that removes buddies each of which has another instance that the loop does not
remove. -/
theorem moves_removeBuddies {l : List (Nat × PurpleBuddy)} (hn : l.Nodup)
    (hfound : ∀ e ∈ l, e ∈ s.blist.purpleFindBuddies a (some e.2.name))
    (hother : ∀ e ∈ l, ∃ e' ∈ s.blist.purpleFindBuddies a (some e.2.name), e' ∉ l) :
    Moves names s (s.removeBuddies l) := by
  induction l generalizing s with
  | nil => exact Relation.ReflTransGen.refl
  | cons e l ih =>
      obtain ⟨hnot, hn'⟩ := List.nodup_cons.mp hn
      obtain ⟨e', hfound', hout⟩ := hother e List.mem_cons_self
      refine Relation.ReflTransGen.head (Move.remove s e e' (hfound e List.mem_cons_self)
        ⟨hfound', fun heq => hout (heq ▸ List.mem_cons_self)⟩) (ih hn' ?_ ?_)
      · intro x hx
        rw [blist_removeBuddy, mem_findBuddies_removeBuddy]
        exact ⟨hfound x (List.mem_cons_of_mem e hx), fun heq => hnot (heq ▸ hx)⟩
      · intro x hx
        obtain ⟨x', hx', hxnot⟩ := hother x (List.mem_cons_of_mem e hx)
        -- it is none of those that are still to go, and not `e`
        rw [List.mem_cons, not_or] at hxnot
        rw [blist_removeBuddy]
        exact ⟨x', mem_findBuddies_removeBuddy.mpr ⟨hx', hxnot.1⟩, hxnot.2⟩

end HazeContactList

end Haze
