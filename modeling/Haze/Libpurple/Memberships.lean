import Haze.Basic.Roster
import Haze.Libpurple.BuddyList

set_option autoImplicit false

/-! # The memberships of a buddy list

libpurple identifies a group by the collation key of its name and a contact by its account
and normalised name. `BuddyList.memberships` is the roster the buddy list stands for: it
forgets addresses, the order of the tree, and how often a contact is in a group. Putting a
buddy in a group is `Roster.join`, taking all buddies of a contact out of a group is
`Roster.leave`.
-/

namespace Haze

namespace BuddyList

variable {P : Libpurple} {bl bl' : BuddyList P}

/-- Which contact is in which group: the groups are given by their collation keys, the
contacts by account and normalised name. -/
def memberships (bl : BuddyList P) : Roster String (PurpleAccount × String) :=
  {x | ∃ g ∈ bl.root, P.gUtf8CollateKey g.name = x.1 ∧ bl.Has g.ptr x.2.1 x.2.2}

theorem mem_memberships_of_mem {g : PurpleGroup} (hg : g ∈ bl.root)
    {c : PurpleAccount × String} :
    (P.gUtf8CollateKey g.name, c) ∈ bl.memberships ↔ bl.Has g.ptr c.1 c.2 := by
  constructor
  · rintro ⟨g', hg', hkey, hhas⟩
    rwa [eq_of_key hg' hg hkey] at hhas
  · exact fun hhas => ⟨g, hg, rfl, hhas⟩

theorem mem_memberships_of_find {name : String} {g : PurpleGroup}
    (h : bl.purpleFindGroup name = some g) {c : PurpleAccount × String} :
    (P.gUtf8CollateKey name, c) ∈ bl.memberships ↔ bl.Has g.ptr c.1 c.2 := by
  rw [← key_of_find h]
  exact mem_memberships_of_mem (mem_root_of_find h)

theorem not_mem_memberships_of_find_eq_none {name : String}
    (h : bl.purpleFindGroup name = none) (c : PurpleAccount × String) :
    (P.gUtf8CollateKey name, c) ∉ bl.memberships := by
  rintro ⟨g, hg, hkey, -⟩
  exact find_eq_none.mp h g hg hkey

/-- A contact is on the roster when it has a buddy. -/
theorem mem_contacts_memberships {c : PurpleAccount × String} :
    c ∈ bl.memberships.contacts ↔ ∃ p, bl.Has p c.1 c.2 := by
  constructor
  · rintro ⟨k, g, -, -, hhas⟩
    exact ⟨g.ptr, hhas⟩
  · rintro ⟨p, hhas⟩
    obtain ⟨g, hg, rfl⟩ := List.mem_map.mp hhas.1
    exact ⟨_, (mem_memberships_of_mem hg).mpr hhas⟩

@[simp] theorem memberships_groupNew (bl : BuddyList P) (name : String) :
    (bl.purpleGroupNew name).1.memberships = bl.memberships := by
  simp only [memberships, root_groupNew, has_groupNew]

@[simp] theorem memberships_buddyNew (bl : BuddyList P) (a : PurpleAccount) (name : String) :
    (bl.purpleBuddyNew a name).1.memberships = bl.memberships := rfl

/-- Only a group with nobody in it is removed. -/
@[simp] theorem memberships_removeGroup (bl : BuddyList P) (g : PurpleGroup) :
    (bl.purpleBlistRemoveGroup g).memberships = bl.memberships := by
  have hsub : ∀ g' ∈ (bl.purpleBlistRemoveGroup g).root, g' ∈ bl.root := by
    intro g' hg'
    unfold purpleBlistRemoveGroup at hg'
    split at hg'
    · exact hg'
    · exact List.mem_of_mem_filter hg'
  ext ⟨k, c⟩
  simp only [memberships, Set.mem_ofPred_eq, has_removeGroup]
  constructor
  · rintro ⟨g', hg', hkey, hhas⟩
    exact ⟨g', hsub g' hg', hkey, hhas⟩
  · rintro ⟨g', hg', hkey, hhas⟩
    -- a group that somebody is in is still there
    obtain ⟨hptr, -⟩ := (has_removeGroup bl g g'.ptr c.1 c.2).mpr hhas
    obtain ⟨g'', hg'', heq⟩ := List.mem_map.mp hptr
    rw [eq_of_ptr (hsub g'' hg'') hg' heq] at hg''
    exact ⟨g', hg'', hkey, hhas⟩

/-- Putting a buddy in a group. -/
theorem memberships_addBuddy {g : PurpleGroup} (h : bl.Usable g) (b : PurpleBuddy) :
    (bl.purpleBlistAddBuddy b g).memberships = bl.memberships.join
      (P.gUtf8CollateKey g.name) {(b.account, P.purpleNormalize b.account b.name)} := by
  have hg : g ∈ (bl.purpleBlistAddBuddy b g).root := (mem_root_addBuddy h b g).mpr (Or.inr rfl)
  ext ⟨k, acc, n⟩
  rw [Roster.mem_join, Set.mem_singleton_iff, Prod.mk.injEq]
  constructor
  · rintro ⟨g', hg', rfl, hhas⟩
    rcases (has_addBuddy h b _ _ _).mp hhas with hold | ⟨hptr, rfl, rfl⟩
    · obtain ⟨g'', hg'', hptr⟩ := List.mem_map.mp hold.1
      have heq : g'' = g' := eq_of_ptr ((mem_root_addBuddy h b g'').mpr (Or.inl hg'')) hg' hptr
      exact Or.inl ⟨g', heq ▸ hg'', rfl, hold⟩
    · rw [eq_of_ptr hg' hg hptr]
      exact Or.inr ⟨rfl, rfl, rfl⟩
  · rintro (⟨g', hg', rfl, hhas⟩ | ⟨rfl, rfl, rfl⟩)
    · exact ⟨g', (mem_root_addBuddy h b g').mpr (Or.inl hg'), rfl,
        (has_addBuddy h b _ _ _).mpr (Or.inl hhas)⟩
    · exact ⟨g, hg, rfl, (has_addBuddy h b _ _ _).mpr (Or.inr ⟨rfl, rfl, rfl⟩)⟩

/-- Taking every buddy of the contact `c` out of the group `g`. -/
theorem memberships_leave {g : PurpleGroup} (hg : g ∈ bl.root)
    (c : PurpleAccount × String) (hroot : bl'.root = bl.root)
    (hmem : ∀ x, x ∈ bl'.members ↔ x ∈ bl.members ∧
      ¬ (x.1 = g.ptr ∧ x.2.account = c.1 ∧ P.purpleNormalize c.1 x.2.name = c.2)) :
    bl'.memberships = bl.memberships.leave (P.gUtf8CollateKey g.name) {c} := by
  ext ⟨k, acc, n⟩
  rw [Roster.mem_leave, Set.mem_singleton_iff]
  simp only [memberships, Set.mem_ofPred_eq, hroot, Has, ptrs, hmem]
  constructor
  · rintro ⟨g', hg', rfl, hp, b, ⟨hb, hnot⟩, rfl, rfl⟩
    refine ⟨⟨g', hg', rfl, hp, b, hb, rfl, rfl⟩, ?_⟩
    rintro ⟨hkey, hc⟩
    have hne : g' = g := eq_of_key hg' hg hkey
    exact hnot ⟨by rw [hne], by rw [← hc], by rw [← hc]⟩
  · rintro ⟨⟨g', hg', rfl, hp, b, hb, rfl, rfl⟩, hnot⟩
    refine ⟨g', hg', rfl, hp, b, ⟨hb, ?_⟩, rfl, rfl⟩
    rintro ⟨hptr, hacc, hn⟩
    refine hnot ⟨by rw [eq_of_ptr hg' hg hptr], ?_⟩
    obtain ⟨acc, n⟩ := c
    simp only at hacc hn
    subst hacc
    rw [hn]

end BuddyList

end Haze
