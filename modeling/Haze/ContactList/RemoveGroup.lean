import Haze.ContactList.ContactGroups

set_option autoImplicit false

/-! # Removing a group

`remove_group` gives the contacts that are in no other group a buddy in the fallback group, and
then asks libpurple to remove the group. libpurple removes empty groups only, and nobody has
been taken out of the group: the group that is reported as removed stays, with everybody in it,
unless it was empty to begin with.
-/

namespace Haze

namespace HazeContactList

variable {P : Libpurple} {a : PurpleAccount} {s s' : HazeContactList P a}
variable {group : PurpleGroup} {groupName : String}

/-- The contact is in the group of the name and in no other. -/
def OnlyIn (s : HazeContactList P a) (groupName : String) (h : TpHandle P a) : Prop :=
  h.contact ∈ s.blist.memberships.orphans (P.gUtf8CollateKey groupName) Set.univ

/-- What the removal of a group is to do: the group is gone with the buddies in it, its members
are on the list, in the fallback group if they were in no other, and everybody else is where
they were. -/
structure GroupRemoved (s : HazeContactList P a) (groupName : String)
    (s' : HazeContactList P a) : Prop where
  gone : s'.blist.purpleFindGroup groupName = none
  nobody : ∀ h : TpHandle P a,
    (P.gUtf8CollateKey groupName, h.contact) ∉ s'.blist.memberships
  kept : ∀ h : TpHandle P a, OnList s.blist h → OnList s'.blist h
  orphans : ∀ h : TpHandle P a, OnlyIn s groupName h →
    ∀ k, (k, h.contact) ∈ s'.blist.memberships ↔ k = P.gUtf8CollateKey P.buddies
  others : ∀ c, (∀ h : TpHandle P a, h.contact = c → ¬ OnlyIn s groupName h) →
    ∀ k, k ≠ P.gUtf8CollateKey groupName →
      ((k, c) ∈ s'.blist.memberships ↔ (k, c) ∈ s.blist.memberships)

/-- A removal that reports success removes the group, and one that reports an error changes
nothing. -/
def RemovesGroup (s : HazeContactList P a) (groupName : String)
    (r : HazeContactList P a × Option GError) : Prop :=
  (r.2 = none → GroupRemoved s groupName r.1) ∧
    (r.2 ≠ none → r.1.blist = s.blist ∧ r.1.lists = s.lists)

/-- There is nothing below the group, or the group is the fallback group and some contact is in
no other. -/
def GroupRemovable (s : HazeContactList P a) (groupName : String) : Prop :=
  ∀ group, s.blist.purpleFindGroup groupName = some group →
    (∀ n ∈ s.blist.nodes, n.group ≠ group.ptr) ∨
      (s.blist.purpleFindGroup P.buddies = some group ∧
        ∃ h : TpHandle P a, OnlyIn s groupName h)

/-! ## What is prepared -/

/-- The members that `prep_remove_from_group` cares for are those that are in no other
group. -/
theorem strays_ne_nil_iff : s.strays groupName (s.dupGroupMembers groupName) ≠ [] ↔
    ∃ h : TpHandle P a, OnlyIn s groupName h := by
  have hstrays := contactSet_strays s groupName (s.dupGroupMembers groupName)
  constructor
  · intro hne
    obtain ⟨h, hmem⟩ := List.exists_mem_of_ne_nil _ hne
    have hin : h.contact ∈ contactSet (s.strays groupName (s.dupGroupMembers groupName)) :=
      contact_mem_contactSet.mpr hmem
    rw [hstrays, Roster.mem_orphans] at hin
    exact ⟨h, Roster.mem_orphans.mpr ⟨Set.mem_univ _, hin.2⟩⟩
  · rintro ⟨h, hin⟩ hnil
    obtain ⟨-, hmem, hlast⟩ := Roster.mem_orphans.mp hin
    -- it is among the members
    have hmember : h ∈ s.dupGroupMembers groupName := by
      cases hfind : s.blist.purpleFindGroup groupName with
      | none => exact absurd hmem (BuddyList.not_mem_memberships_of_find_eq_none hfind _)
      | some group =>
          exact mem_dupGroupMembers_of_has hfind
            ((BuddyList.mem_memberships_of_find hfind).mp hmem)
    rw [hnil, contactSet_nil] at hstrays
    have hcontra : h.contact ∈ (∅ : Set (PurpleAccount × String)) := by
      rw [hstrays, Roster.mem_orphans]
      exact ⟨contact_mem_contactSet.mpr hmember, hmem, hlast⟩
    exact hcontra

theorem nodes_subset_addNewBuddies (hs : TpHandleSet P a) (s : HazeContactList P a)
    (group : PurpleGroup) :
    s.blist.nodes ⊆ (hs.foldl (fun s h => s.addNewBuddy h group) s).blist.nodes := by
  induction hs generalizing s with
  | nil => exact List.Subset.refl _
  | cons h hs ih =>
      have hfirst : s.blist.nodes ⊆ (s.addNewBuddy h group).blist.nodes := by
        rw [blist_addNewBuddy, BuddyList.nodes_addBuddy]
        exact List.subset_append_left _ _
      exact List.Subset.trans hfirst (ih (s.addNewBuddy h group))

/-- Preparing takes nothing out of the list. -/
theorem nodes_subset_prep {contacts : TpHandleSet P a}
    (hprep : s.prepRemoveFromGroup groupName contacts = (s', none)) :
    s.blist.nodes ⊆ s'.blist.nodes := by
  rcases prepRemoveFromGroup_cases s groupName contacts with
    ⟨hs, -⟩ | ⟨group, -, -, ⟨-, hs⟩ | ⟨-, hs⟩⟩
  · rw [hs] at hprep
    cases hprep
    exact List.Subset.refl _
  · rw [hs] at hprep
    cases hprep
  · rw [hs] at hprep
    cases hprep
    have hnodes : s.withFallback.blist.nodes = s.blist.nodes :=
      BuddyList.nodes_groupNew s.blist P.buddies
    rw [← hnodes]
    exact nodes_subset_addNewBuddies _ _ _

/-- There is nothing to prepare for an empty group. -/
theorem prep_of_empty (hempty : ∀ group, s.blist.purpleFindGroup groupName = some group →
      ∀ n ∈ s.blist.nodes, n.group ≠ group.ptr)
    (hprep : s.prepRemoveFromGroup groupName (s.dupGroupMembers groupName) = (s', none)) :
    s' = s := by
  rcases prepRemoveFromGroup_cases s groupName (s.dupGroupMembers groupName) with
    ⟨hs, -⟩ | ⟨group, hfind, hne, -⟩
  · rw [hs] at hprep
    cases hprep
    rfl
  · exact absurd (strays_of_empty hfind (hempty group hfind)) hne

theorem lists_prep_of_error {contacts : TpHandleSet P a} {e : GError}
    (hprep : s.prepRemoveFromGroup groupName contacts = (s', some e)) :
    s'.lists = s.lists := by
  rcases prepRemoveFromGroup_cases s groupName contacts with
    ⟨hs, -⟩ | ⟨group, -, -, ⟨-, hs⟩ | ⟨-, hs⟩⟩
  · rw [hs] at hprep
    cases hprep
  · rw [hs] at hprep
    cases hprep
    rfl
  · rw [hs] at hprep
    cases hprep

/-- When `prep_remove_from_group` fails, before anything has been done. -/
theorem prepRemoveFromGroup_ne_none_iff : (s.prepRemoveFromGroup groupName
      (s.dupGroupMembers groupName)).2 ≠ none ↔
    ∃ group, s.blist.purpleFindGroup groupName = some group ∧
      s.blist.purpleFindGroup P.buddies = some group ∧
        ∃ h : TpHandle P a, OnlyIn s groupName h := by
  cases hprep : s.prepRemoveFromGroup groupName (s.dupGroupMembers groupName) with
  | mk s' e =>
      cases e with
      | some e =>
          have hrefused := prepRemoveFromGroup_error hprep
          obtain ⟨group, hfind, hfb⟩ := hrefused.group
          refine ⟨fun _ => ⟨group, hfind, hfb, ?_⟩, fun _ => by simp⟩
          exact strays_ne_nil_iff.mp hrefused.strays
      | none =>
          refine ⟨fun hne => absurd rfl hne, ?_⟩
          rintro ⟨group, hfind, hfb, h, hin⟩
          -- a success means that the fallback group is another group
          have hprepared := prepRemoveFromGroup_ok hprep
          have hstrays := strays_ne_nil_iff.mpr ⟨h, hin⟩
          exfalso
          rcases hprepared.evictable with hnil | hkey
          · rw [← contactSet_strays] at hnil
            obtain ⟨h', hmem⟩ := List.exists_mem_of_ne_nil _ hstrays
            have hin' := contact_mem_contactSet.mpr hmem
            rw [hnil] at hin'
            exact hin'
          · apply hkey
            rw [← BuddyList.key_of_find hfind, ← BuddyList.key_of_find hfb]

/-! ## What is removed -/

/-- What `remove_group` does once it is prepared. -/
def groupGone (s : HazeContactList P a) (groupName : String) : HazeContactList P a :=
  (match s.blist.purpleFindGroup groupName with
    | some group => { s with blist := s.blist.purpleBlistRemoveGroup group }
    | none => s).groupsRemoved [groupName]

theorem removeGroupAsync_of_ok
    (hprep : s.prepRemoveFromGroup groupName (s.dupGroupMembers groupName) = (s', none)) :
    s.removeGroupAsync groupName = (s'.groupGone groupName, none) := by
  simp only [removeGroupAsync, hprep]
  rfl

theorem removeGroupAsync_of_error {e : GError}
    (hprep : s.prepRemoveFromGroup groupName (s.dupGroupMembers groupName) = (s', some e)) :
    s.removeGroupAsync groupName = (s', some e) := by
  simp only [removeGroupAsync, hprep]

theorem groupGone_blist_of_find (hfind : s.blist.purpleFindGroup groupName = some group) :
    (s.groupGone groupName).blist = s.blist.purpleBlistRemoveGroup group := by
  simp only [groupGone, hfind]
  rfl

theorem groupGone_blist_of_none (hfind : s.blist.purpleFindGroup groupName = none) :
    (s.groupGone groupName).blist = s.blist := by
  simp only [groupGone, hfind]
  rfl

/-- Nobody moves when a group goes. -/
theorem memberships_groupGone (s : HazeContactList P a) (groupName : String) :
    (s.groupGone groupName).blist.memberships = s.blist.memberships := by
  cases hfind : s.blist.purpleFindGroup groupName with
  | some group => rw [groupGone_blist_of_find hfind, BuddyList.memberships_removeGroup]
  | none => rw [groupGone_blist_of_none hfind]

/-- A group with nothing below it goes. -/
theorem find_groupGone (hempty : ∀ group, s.blist.purpleFindGroup groupName = some group →
    ∀ n ∈ s.blist.nodes, n.group ≠ group.ptr) :
    (s.groupGone groupName).blist.purpleFindGroup groupName = none := by
  cases hfind : s.blist.purpleFindGroup groupName with
  | none => rw [groupGone_blist_of_none hfind, hfind]
  | some group =>
      rw [groupGone_blist_of_find hfind, BuddyList.find_eq_none]
      intro g hg hkey
      obtain ⟨hg, hptr⟩ := (BuddyList.mem_root_removeGroup (hempty group hfind)).mp hg
      apply hptr
      rw [BuddyList.eq_of_key hg (BuddyList.mem_root_of_find hfind)
        (hkey.trans (BuddyList.key_of_find hfind).symm)]

/-- A group with something below it stays, although its removal is reported. -/
theorem find_groupGone_of_child {n : PurpleBlistNode}
    (hfind : s.blist.purpleFindGroup groupName = some group) (hn : n ∈ s.blist.nodes)
    (hgroup : n.group = group.ptr)
    (hprep : s.prepRemoveFromGroup groupName (s.dupGroupMembers groupName) = (s', none)) :
    (s'.groupGone groupName).blist.purpleFindGroup groupName ≠ none := by
  have hmoves := (prepRemoveFromGroup_ok hprep).moves
  have hsome := hmoves.isSome_find (Option.isSome_iff_exists.mpr ⟨group, hfind⟩)
  obtain ⟨group', hfind'⟩ := Option.isSome_iff_exists.mp hsome
  -- it is the same group
  have hroot := hmoves.mem_root.1 (BuddyList.mem_root_of_find hfind)
  have heq : group' = group := BuddyList.eq_of_key (BuddyList.mem_root_of_find hfind') hroot
    ((BuddyList.key_of_find hfind').trans (BuddyList.key_of_find hfind).symm)
  rw [heq] at hfind'
  rw [groupGone_blist_of_find hfind',
    BuddyList.removeGroup_of_child (nodes_subset_prep hprep hn) hgroup, hfind']
  simp

/-! ## When the group is removed -/

/-- A group with nothing below it is removed as it is to be. -/
theorem groupRemoved_of_empty (hempty : ∀ group,
    s.blist.purpleFindGroup groupName = some group →
      ∀ n ∈ s.blist.nodes, n.group ≠ group.ptr) :
    GroupRemoved s groupName (s.groupGone groupName) := by
  have hM := memberships_groupGone s groupName
  have hnobody : ∀ c, (P.gUtf8CollateKey groupName, c) ∉ s.blist.memberships := by
    intro c
    cases hfind : s.blist.purpleFindGroup groupName with
    | none => exact BuddyList.not_mem_memberships_of_find_eq_none hfind c
    | some group =>
        rw [BuddyList.mem_memberships_of_find hfind]
        rintro ⟨-, b, hb, -⟩
        obtain ⟨n, hn, he⟩ := List.mem_flatMap.mp hb
        exact hempty group hfind n hn (PurpleBlistNode.fst_of_mem_members he).symm
  refine ⟨find_groupGone hempty, fun h => ?_, fun h hon => ?_, fun h hin => ?_,
    fun c _ k _ => ?_⟩
  · rw [hM]
    exact hnobody h.contact
  · rw [onList_iff_mem_contacts] at hon ⊢
    rwa [hM]
  · exact absurd (Roster.mem_orphans.mp hin).2.1 (hnobody h.contact)
  · rw [hM]

/-- **`remove_group` does what it reports** if and only if nothing is below the group, or the
group is the fallback group and some contact is in no other group. -/
theorem removesGroup_iff (s : HazeContactList P a) (groupName : String) :
    RemovesGroup s groupName (s.removeGroupAsync groupName) ↔
      GroupRemovable s groupName := by
  have herror := @prepRemoveFromGroup_ne_none_iff P a s groupName
  cases hprep : s.prepRemoveFromGroup groupName (s.dupGroupMembers groupName) with
  | mk s' e =>
      rw [hprep] at herror
      cases e with
      | some e =>
          obtain ⟨group, hfind, hfb, hin⟩ := herror.mp (by simp)
          have hrefused := prepRemoveFromGroup_error hprep
          rw [removeGroupAsync_of_error hprep]
          constructor
          · intro _ g hg
            rw [hfind] at hg
            cases hg
            exact Or.inr ⟨hfb, hin⟩
          · intro _
            exact ⟨fun hnone => by simp at hnone,
              fun _ => ⟨hrefused.blist, lists_prep_of_error hprep⟩⟩
      | none =>
          rw [removeGroupAsync_of_ok hprep]
          constructor
          · rintro ⟨hremoved, -⟩ group hfind
            by_contra hnot
            rw [not_or] at hnot
            obtain ⟨hchild, -⟩ := hnot
            push Not at hchild
            obtain ⟨n, hn, hgroup⟩ := hchild
            exact find_groupGone_of_child hfind hn hgroup hprep (hremoved rfl).gone
          · intro hremovable
            refine ⟨fun _ => ?_, fun hne => absurd rfl hne⟩
            -- there is no error, so the group is empty, and nothing is prepared
            have hempty : ∀ group, s.blist.purpleFindGroup groupName = some group →
                ∀ n ∈ s.blist.nodes, n.group ≠ group.ptr := by
              intro group hfind
              refine (hremovable group hfind).resolve_right (fun hfb => ?_)
              exact herror.mpr ⟨group, hfind, hfb⟩ rfl
            rw [prep_of_empty hempty hprep]
            exact groupRemoved_of_empty hempty

/-- Alice's only group is removed: this is announced and reported, but the group is still on
the list, and Alice is in it. -/
theorem removeGroup_stays :
    let s := aliceIn Libpurple.plain "Work"
    (s.removeGroupAsync "Work").2 = none ∧
      "Work" ∉ (s.removeGroupAsync "Work").1.announced.groups ∧
      (s.removeGroupAsync "Work").1.blist.purpleFindGroup "Work" = some ⟨0, "Work"⟩ ∧
      ¬ RemovesGroup s "Work" (s.removeGroupAsync "Work") := by
  refine ⟨by decide, by decide, by decide, fun hremoves => ?_⟩
  have hgone := (hremoves.1 (by decide)).gone
  revert hgone
  decide

end HazeContactList

end Haze
