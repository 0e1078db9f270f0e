import Haze.ContactList.Publish

set_option autoImplicit false

/-! # Removing contacts

`remove_contacts_async` (which is also `unsubscribe_async` and `unpublish_async`) takes all
buddies of the contacts off the list and rejects their pending requests. It leaves
`publishing_to` alone, so a contact whose request was accepted stays in `dup_contacts` with
publish state YES: the removal takes effect exactly when no contact of the set is in
`publishing_to` (`removeContacts_takesEffect_iff`).
-/

namespace Haze

/-- The contact a buddy belongs to. -/
def PurpleBuddy.contact (P : Libpurple) (b : PurpleBuddy) : PurpleAccount × String :=
  (b.account, P.purpleNormalize b.account b.name)

namespace HazeContactList

variable {P : Libpurple} {a : PurpleAccount} {s s' s'' : HazeContactList P a}
variable {h : TpHandle P a} {contacts : TpHandleSet P a}

theorem contact_eq_iff {b : PurpleBuddy} :
    b.contact P = h.contact ↔ b.account = a ∧ P.purpleNormalize a b.name = h.id := by
  rw [PurpleBuddy.contact, TpHandle.contact, Prod.mk.injEq]
  constructor
  · rintro ⟨hacc, hn⟩
    exact ⟨hacc, hacc ▸ hn⟩
  · rintro ⟨rfl, hn⟩
    exact ⟨rfl, hn⟩

theorem mem_findBuddies_contact {bl : BuddyList P} {e : Nat × PurpleBuddy} :
    e ∈ bl.purpleFindBuddies a (some h.inspect) ↔
      e ∈ bl.members ∧ e.1 ∈ bl.ptrs ∧ e.2.contact P = h.contact := by
  rw [BuddyList.mem_findBuddies, normalize_inspect, contact_eq_iff]

/-- The contacts of the set are off the list and no longer pending; the rest is left alone,
and so is `publishing_to`. -/
structure Removed (contacts : TpHandleSet P a) (s s' : HazeContactList P a) : Prop where
  root : s'.blist.root = s.blist.root
  members : ∀ e, e ∈ s'.blist.members ↔
    e ∈ s.blist.members ∧ ¬ (e.1 ∈ s.blist.ptrs ∧ e.2.contact P ∈ contactSet contacts)
  lookup : ∀ h, s'.pendingPublishRequests.lookup h =
    if h ∈ contacts then none else s.pendingPublishRequests.lookup h
  publishingTo : s'.publishingTo = s.publishingTo
  notPublishingTo : ∀ h, h ∉ contacts → (h ∈ s'.notPublishingTo ↔ h ∈ s.notPublishingTo)

theorem Removed.nil (s : HazeContactList P a) : Removed [] s s where
  root := rfl
  members := by simp
  lookup := by simp
  publishingTo := rfl
  notPublishingTo := by simp

theorem Removed.cons (hfirst : Removed [h] s s') (hrest : Removed contacts s' s'') :
    Removed (h :: contacts) s s'' where
  root := hrest.root.trans hfirst.root
  members := by
    intro e
    have hptrs : s'.blist.ptrs = s.blist.ptrs := congrArg (List.map PurpleGroup.ptr) hfirst.root
    rw [hrest.members, hfirst.members, hptrs, contactSet_cons, contactSet_cons, contactSet_nil]
    simp only [Set.mem_insert_iff, Set.mem_empty_iff_false, or_false]
    tauto
  lookup := by
    intro h'
    rw [hrest.lookup, hfirst.lookup]
    by_cases h1 : h' = h <;> by_cases h2 : h' ∈ contacts <;> simp [h1, h2]
  publishingTo := hrest.publishingTo.trans hfirst.publishingTo
  notPublishingTo := by
    intro h' hnot
    rw [List.mem_cons, not_or] at hnot
    rw [hrest.notPublishingTo h' hnot.2, hfirst.notPublishingTo h' (by simpa using hnot.1)]

theorem mem_members_removeBuddies_contact (s : HazeContactList P a) (h : TpHandle P a)
    (e : Nat × PurpleBuddy) :
    e ∈ (s.removeBuddies (s.blist.purpleFindBuddies a (some h.inspect))).blist.members ↔
      e ∈ s.blist.members ∧
        ¬ (e.1 ∈ s.blist.ptrs ∧ e.2.contact P ∈ contactSet ([h] : TpHandleSet P a)) := by
  rw [mem_members_removeBuddies, mem_findBuddies_contact, contactSet_cons, contactSet_nil]
  simp only [Set.mem_insert_iff, Set.mem_empty_iff_false, or_false]
  tauto

/-- `remove_contact` never fails. -/
theorem removeContact_ok (s : HazeContactList P a) (h : TpHandle P a) :
    ∃ s', s.removeContact h = .ok s' ∧ Removed [h] s s' := by
  let s₁ := s.removeBuddies (s.blist.purpleFindBuddies a (some h.inspect))
  have hsame : SameRequests s s₁ := sameRequests_removeBuddies s _
  have hroot : s₁.blist.root = s.blist.root := root_removeBuddies s _
  have hmem := mem_members_removeBuddies_contact s h
  cases hd : s₁.pendingPublishRequests.lookup h with
  | none =>
      refine ⟨s₁, rejectPublishRequest_of_none hd, hroot, hmem, fun h' => ?_,
        hsame.publishingTo, fun h' _ => by rw [hsame.notPublishingTo]⟩
      rw [hsame.pending] at hd ⊢
      by_cases heq : h' = h
      · subst heq
        simpa using hd
      · simp [heq]
  | some d =>
      refine ⟨_, rejectPublishRequest_of_some hd, hroot, hmem, fun h' => ?_,
        hsame.publishingTo, fun h' hnot => ?_⟩
      · show (s₁.pendingPublishRequests.erase h).lookup h' = _
        by_cases heq : h' = h
        · subst heq
          simp
        · rw [AList.lookup_erase_ne heq, hsame.pending]
          simp [heq]
      · show h' ∈ tpHandleSetAdd s₁.notPublishingTo h ↔ _
        rw [mem_tpHandleSetAdd, hsame.notPublishingTo]
        simp only [List.mem_singleton] at hnot
        simp [hnot]

/-- `remove_contacts_async` never fails. -/
theorem removeContactsAsync_ok (s : HazeContactList P a) (contacts : TpHandleSet P a) :
    ∃ s', s.removeContactsAsync contacts = .ok s' ∧ Removed contacts s s' := by
  induction contacts generalizing s with
  | nil => exact ⟨s, rfl, Removed.nil s⟩
  | cons h contacts ih =>
      obtain ⟨s₁, hs₁, hfirst⟩ := removeContact_ok s h
      obtain ⟨s', hs', hrest⟩ := ih s₁
      refine ⟨s', ?_, hfirst.cons hrest⟩
      simp only [removeContactsAsync, List.foldlM_cons, hs₁]
      exact hs'

/-! ## What a removal does to the queries -/

theorem onList_iff_members {bl : BuddyList P} : OnList bl h ↔
    ∃ e ∈ bl.members, e.1 ∈ bl.ptrs ∧ e.2.contact P = h.contact := by
  simp only [onList_iff_findBuddies, mem_findBuddies_contact]

theorem Removed.onList_iff (hr : Removed contacts s s') :
    OnList s'.blist h ↔ OnList s.blist h ∧ h ∉ contacts := by
  have hptrs : s'.blist.ptrs = s.blist.ptrs := congrArg (List.map PurpleGroup.ptr) hr.root
  simp only [onList_iff_members, hr.members, hptrs]
  constructor
  · rintro ⟨e, ⟨he, hnot⟩, hp, hc⟩
    refine ⟨⟨e, he, hp, hc⟩, fun hin => hnot ⟨hp, ?_⟩⟩
    rw [hc]
    exact contact_mem_contactSet.mpr hin
  · rintro ⟨⟨e, he, hp, hc⟩, hnot⟩
    refine ⟨e, ⟨he, fun hin => hnot ?_⟩, hp, hc⟩
    rw [hc] at hin
    exact contact_mem_contactSet.mp hin.2

/-- The states of a contact depend on whether it has a buddy, on its request, and on the two
publish sets. -/
theorem dupStates_congr (hon : OnList s'.blist h ↔ OnList s.blist h)
    (hlookup : s'.pendingPublishRequests.lookup h = s.pendingPublishRequests.lookup h)
    (hpub : h ∈ s'.publishingTo ↔ h ∈ s.publishingTo)
    (hnot : h ∈ s'.notPublishingTo ↔ h ∈ s.notPublishingTo) :
    s'.dupStates h = s.dupStates h := by
  rw [← findBuddy_isSome, ← findBuddy_isSome] at hon
  simp only [dupStates, hlookup, hpub, hnot, Bool.eq_iff_iff.mpr hon]

/-- What a removal of the contacts promises. -/
structure TakesEffect (contacts : TpHandleSet P a) (s s' : HazeContactList P a) : Prop where
  buddies : ∀ h ∈ contacts, ¬ OnList s'.blist h
  pending : ∀ h ∈ contacts, h ∉ s'.pendingPublishRequests
  listed : ∀ h ∈ contacts, h ∉ s'.dupContacts
  subscribe : ∀ h ∈ contacts, (s'.dupStates h).subscribe = .no
  publish : ∀ h ∈ contacts, (s'.dupStates h).publish ≠ .yes ∧ (s'.dupStates h).publish ≠ .ask
  /-- the buddies of all other contacts stay, and their states -/
  others : ∀ e, e.2.contact P ∉ contactSet contacts →
    (e ∈ s'.blist.members ↔ e ∈ s.blist.members)
  states : ∀ h, h ∉ contacts → s'.dupStates h = s.dupStates h

/-- **A removal takes effect** exactly when no contact of the set is one whose request was
accepted. -/
theorem removeContacts_takesEffect_iff (s : HazeContactList P a)
    (contacts : TpHandleSet P a) :
    ∃ s', s.removeContactsAsync contacts = .ok s' ∧
      (TakesEffect contacts s s' ↔ ∀ h ∈ contacts, h ∉ s.publishingTo) := by
  obtain ⟨s', hs', hr⟩ := removeContactsAsync_ok s contacts
  have hoff : ∀ h ∈ contacts, ¬ OnList s'.blist h := fun h hmem hon =>
    (hr.onList_iff.mp hon).2 hmem
  have hpending : ∀ h ∈ contacts, h ∉ s'.pendingPublishRequests := by
    intro h hmem
    rw [← AList.lookup_eq_none, hr.lookup, if_pos hmem]
  refine ⟨s', hs', fun heffect h hmem hpub => ?_, fun hnone => ?_⟩
  · -- an accepted contact is still enumerated
    apply heffect.listed h hmem
    rw [mem_dupContacts, hr.publishingTo]
    exact Or.inl hpub
  · refine ⟨hoff, hpending, fun h hmem hlisted => ?_, fun h hmem => ?_, fun h hmem => ⟨?_, ?_⟩,
      fun e hnot => ?_, fun h hnot => ?_⟩
    · -- nothing is left that could list the contact
      rw [mem_dupContacts, hr.publishingTo] at hlisted
      rcases hlisted with hpub | hon | hask
      · exact hnone h hmem hpub
      · exact hoff h hmem hon
      · exact hpending h hmem hask
    · exact dupStates_subscribe_eq_no.mpr (hoff h hmem)
    · intro hyes
      have hpub := (dupStates_publish_eq_yes.mp hyes).2
      rw [hr.publishingTo] at hpub
      exact hnone h hmem hpub
    · exact fun hask => hpending h hmem (dupStates_publish_eq_ask.mp hask)
    · rw [hr.members]
      exact ⟨And.left, fun he => ⟨he, fun hin => hnot hin.2⟩⟩
    · refine dupStates_congr ?_ ?_ (by rw [hr.publishingTo]) (hr.notPublishingTo h hnot)
      · rw [hr.onList_iff]
        exact ⟨And.left, fun hon => ⟨hon, hnot⟩⟩
      · rw [hr.lookup, if_neg hnot]

/-- A contact whose request was accepted is removed, and stays. -/
theorem removeContacts_keeps_accepted :
    ∃ s s', (requests Libpurple.plain 0).run (init BuddyList.empty)
        [.requestAuthorize "bob" none, .acceptPublishRequest ⟨"bob", rfl⟩] = .ok s ∧
      s.removeContactsAsync [⟨"bob", rfl⟩] = .ok s' ∧
      ¬ TakesEffect [⟨"bob", rfl⟩] s s' := by
  refine ⟨_, _, rfl, rfl, fun heffect => ?_⟩
  exact heffect.listed ⟨"bob", rfl⟩ (by decide) (by decide)

end HazeContactList

end Haze
