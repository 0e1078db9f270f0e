import Haze.ContactList.Buddies

set_option autoImplicit false

/-! # Asking to subscribe

`haze_contact_list_request_subscription` asserts that the contact has no buddy, and the callers
do not see to it: the base class passes on whatever contacts it was asked about. A request goes
well when none of its contacts is on the list.
-/

namespace Haze

namespace HazeContactList

variable {P : Libpurple} {a : PurpleAccount} {s s' : HazeContactList P a}
  {contacts : TpHandleSet P a} {h : TpHandle P a}

/-- The request completes, every contact of the set has a buddy then, and every contact that
had one before is in the groups that it was in. -/
def SubscribesSafely (s : HazeContactList P a) (contacts : TpHandleSet P a) : Prop :=
  ∃ s', s.requestSubscriptionAsync contacts = .ok s' ∧ (∀ h ∈ contacts, OnList s'.blist h) ∧
    ∀ c ∈ s.blist.memberships.contacts, ∀ k,
      (k, c) ∈ s'.blist.memberships ↔ (k, c) ∈ s.blist.memberships

/-- The assertion fails for a contact that has a buddy. -/
theorem requestSubscription_onList (hon : OnList s.blist h) :
    s.requestSubscription h = .error .assertion := by
  unfold requestSubscription
  exact if_pos (findBuddy_isSome.mpr hon)

/-- A new contact joins libpurple's default group. -/
theorem requestSubscription_new (hnew : ¬ OnList s.blist h) :
    ∃ s', s.requestSubscription h = .ok s' ∧
      s'.blist.memberships =
        s.blist.memberships.join (P.gUtf8CollateKey P.buddies) {h.contact} := by
  have hname : P.IsGroupName P.buddies := P.isGroupName_buddies
  have hu := BuddyList.usable_groupNew s.blist hname
  let s₁ : HazeContactList P a := { s with blist := (s.blist.purpleGroupNew P.buddies).1 }
  refine ⟨s₁.addNewBuddy h (s.blist.purpleGroupNew P.buddies).2,
    if_neg (fun hc => hnew (findBuddy_isSome.mp hc)), ?_⟩
  have hjoin : (s₁.addNewBuddy h (s.blist.purpleGroupNew P.buddies).2).blist.memberships =
      s₁.blist.memberships.join _ {h.contact} := memberships_addNewBuddy hu
  have hsame : s₁.blist.memberships = s.blist.memberships :=
    BuddyList.memberships_groupNew s.blist P.buddies
  rw [hjoin, hsame, BuddyList.groupNew_key s.blist hname]

theorem requestSubscriptionAsync_cons {s₁ : HazeContactList P a}
    (hs₁ : s.requestSubscription h = .ok s₁) (contacts : TpHandleSet P a) :
    s.requestSubscriptionAsync (h :: contacts) = s₁.requestSubscriptionAsync contacts := by
  unfold requestSubscriptionAsync
  rw [List.foldlM_cons, hs₁]
  rfl

/-- New contacts, one after the other. -/
theorem requestSubscriptionAsync_new (hset : contacts.Nodup)
    (hnew : ∀ h ∈ contacts, ¬ OnList s.blist h) :
    ∃ s', s.requestSubscriptionAsync contacts = .ok s' ∧
      s'.blist.memberships =
        s.blist.memberships.join (P.gUtf8CollateKey P.buddies) (contactSet contacts) := by
  induction contacts generalizing s with
  | nil => exact ⟨s, rfl, by simp⟩
  | cons h contacts ih =>
      obtain ⟨hnotin, hset⟩ := List.nodup_cons.mp hset
      obtain ⟨s₁, hs₁, hjoin⟩ := requestSubscription_new (hnew h List.mem_cons_self)
      -- the contacts that are left are still new
      have hrest : ∀ h' ∈ contacts, ¬ OnList s₁.blist h' := by
        intro h' hmem hon
        rw [onList_iff_mem_contacts, hjoin] at hon
        obtain ⟨k, hold | ⟨-, hh⟩⟩ := hon
        · exact hnew h' (List.mem_cons_of_mem h hmem) (onList_iff_mem_contacts.mpr ⟨k, hold⟩)
        · exact hnotin (contact_inj.mp hh ▸ hmem)
      obtain ⟨s', hs', hjoin'⟩ := ih hset hrest
      refine ⟨s', by rw [requestSubscriptionAsync_cons hs₁, hs'], ?_⟩
      rw [hjoin', hjoin, Roster.join_insert, contactSet_cons]

/-- No contact is lost on the way to one that has a buddy. -/
theorem requestSubscriptionAsync_onList (hmem : h ∈ contacts) (hon : OnList s.blist h) :
    s.requestSubscriptionAsync contacts = .error .assertion := by
  induction contacts generalizing s with
  | nil => cases hmem
  | cons h' contacts ih =>
      by_cases hon' : OnList s.blist h'
      · unfold requestSubscriptionAsync
        rw [List.foldlM_cons, requestSubscription_onList hon']
        rfl
      · obtain ⟨s₁, hs₁, hjoin⟩ := requestSubscription_new hon'
        have hne : h ≠ h' := fun heq => hon' (heq ▸ hon)
        have hrest : h ∈ contacts := (List.mem_cons.mp hmem).resolve_left hne
        have hon₁ : OnList s₁.blist h := by
          rw [onList_iff_mem_contacts] at hon ⊢
          rw [hjoin]
          exact Roster.contacts_subset_join hon
        rw [requestSubscriptionAsync_cons hs₁, ih hrest hon₁]

/-- **When asking to subscribe is safe**: when no contact of the set is on the list. -/
theorem subscribesSafely_iff (s : HazeContactList P a) {contacts : TpHandleSet P a}
    (hset : contacts.Nodup) :
    SubscribesSafely s contacts ↔ ∀ h ∈ contacts, ¬ OnList s.blist h := by
  constructor
  · rintro ⟨s', hs', -⟩ h hmem hon
    rw [requestSubscriptionAsync_onList hmem hon] at hs'
    cases hs'
  · intro hnew
    obtain ⟨s', hs', hjoin⟩ := requestSubscriptionAsync_new hset hnew
    refine ⟨s', hs', fun h hmem => ?_, fun c hc k => ?_⟩
    · rw [onList_iff_mem_contacts, hjoin]
      exact ⟨_, Or.inr ⟨rfl, contact_mem_contactSet.mpr hmem⟩⟩
    · rw [hjoin, Roster.mem_join]
      -- who has been on the list is not one of the contacts that join
      refine or_iff_left ?_
      rintro ⟨-, h, hmem, rfl⟩
      exact hnew h hmem (onList_iff_mem_contacts.mpr hc)

/-- Two new contacts. -/
theorem subscribesSafely_new :
    SubscribesSafely (init sharedList : HazeContactList Libpurple.plain 0)
      [⟨"carol", rfl⟩, ⟨"dave", rfl⟩] :=
  (subscribesSafely_iff _ (by decide)).mpr (by decide)

/-- Alice has a buddy already, and the whole process goes down. -/
theorem subscribe_onList_aborts :
    (init sharedList : HazeContactList Libpurple.plain 0).requestSubscriptionAsync
        [⟨"carol", rfl⟩, ⟨"alice", rfl⟩] = .error .assertion ∧
      ¬ SubscribesSafely (init sharedList : HazeContactList Libpurple.plain 0)
        [⟨"carol", rfl⟩, ⟨"alice", rfl⟩] := by
  have haborts : (init sharedList : HazeContactList Libpurple.plain 0).requestSubscriptionAsync
      [⟨"carol", rfl⟩, ⟨"alice", rfl⟩] = .error .assertion := rfl
  refine ⟨haborts, ?_⟩
  rintro ⟨s', hs', -⟩
  rw [haborts] at hs'
  cases hs'

end HazeContactList

end Haze
