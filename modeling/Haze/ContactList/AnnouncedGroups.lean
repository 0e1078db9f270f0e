import Haze.Basic.Runs
import Haze.ContactList.Events

set_option autoImplicit false

/-! # The announced groups

libpurple has no signal for a new group, so the operations announce groups by hand, before it
is known whether a group comes into being. `Covers names` is the invariant while an operation
is under way: the announced groups of every contact are the enumerated ones, and the announced
groups are the enumerated ones with at most `names` on top. Moves keep it, and when the
groups `names` are there at the end, the two views are equal (`Covers.groupsAgree`).

`GroupsSafe` says when they are there: no group is announced that nobody is put in, the
fallback group goes by the name under which it is announced, and a group whose removal is
announced is empty. Then the views are equal after every operation (`groups_agree`).
-/

namespace Haze

namespace HazeContactList

variable {P : Libpurple} {a : PurpleAccount} {s s' : HazeContactList P a}
variable {group : PurpleGroup} {h : TpHandle P a} {name groupName : String}
variable {names : List String} {contacts : TpHandleSet P a}

/-- The announced groups are the enumerated groups. -/
structure GroupsAgree (s : HazeContactList P a) : Prop where
  groups : s.announced.groups = s.dupGroups.toFinset
  contactGroups : ∀ h, s.announced.contactGroups h = (s.dupContactGroups h).toFinset

theorem groupsAgree_setListReceived (s : HazeContactList P a) :
    GroupsAgree s.setListReceived := ⟨rfl, fun _ => rfl⟩

/-- No contact of the account has two buddies in one group. -/
def Tidy (bl : BuddyList P) (a : PurpleAccount) : Prop :=
  ∀ x ∈ bl.members, ∀ y ∈ bl.members, x.1 ∈ bl.ptrs → x.1 = y.1 → x.2.account = a →
    y.2.account = a → P.purpleNormalize a x.2.name = P.purpleNormalize a y.2.name → x = y

theorem Tidy.congr {bl bl' : BuddyList P} (hs : Tidy bl a) (hptrs : bl'.ptrs ⊆ bl.ptrs)
    (hmembers : ∀ x, x ∈ bl'.members → x ∈ bl.members) : Tidy bl' a :=
  fun x hx y hy hp => hs x (hmembers x hx) y (hmembers y hy) (hptrs hp)

/-- A contact that is not in the group gets one buddy there. -/
theorem Tidy.addBuddy {bl : BuddyList P} (hs : Tidy bl a) (hu : bl.Usable group)
    {b : PurpleBuddy} (hnew : ¬ bl.Has group.ptr a (P.purpleNormalize a b.name)) :
    Tidy (bl.purpleBlistAddBuddy b group) a := by
  -- nobody in the group has the name of the new buddy
  have halone : ∀ x ∈ bl.members, x.1 = group.ptr → x.2.account = a →
      P.purpleNormalize a x.2.name ≠ P.purpleNormalize a b.name := by
    rintro ⟨p, c⟩ hx rfl hacc hname
    rcases hu with hg | ⟨-, -, hfresh⟩
    · exact hnew ⟨BuddyList.mem_ptrs_of_mem hg, c, hx, hacc, hname⟩
    · exact hfresh _ hx rfl
  intro x hx y hy hp hptr haccx haccy hname
  rw [BuddyList.mem_ptrs_addBuddy hu] at hp
  rcases (BuddyList.mem_members_addBuddy bl b group x).mp hx with hx | rfl <;>
    rcases (BuddyList.mem_members_addBuddy bl b group y).mp hy with hy | rfl
  · rcases hp with hp | hp
    · exact hs x hx y hy hp hptr haccx haccy hname
    · rcases hu with hg | ⟨-, -, hfresh⟩
      · exact hs x hx y hy (hp ▸ BuddyList.mem_ptrs_of_mem hg) hptr haccx haccy hname
      · exact absurd hp (hfresh x hx)
  · exact absurd hname (halone x hx hptr haccx)
  · exact absurd hname.symm (halone y hy hptr.symm haccy)
  · rfl

/-- In a tidy list the contact leaves the group with its buddy. -/
theorem has_removeBuddy_of_tidy {bl : BuddyList P} (hs : Tidy bl a)
    {e : Nat × PurpleBuddy} (he : e ∈ bl.purpleFindBuddies a (some e.2.name)) (p : Nat)
    (h : TpHandle P a) : (bl.purpleBlistRemoveBuddy e).Has p a h.id ↔
      bl.Has p a h.id ∧ ¬ (p = e.1 ∧ h = tpHandleEnsure P a e.2.name) := by
  obtain ⟨hmem, hptr, hacc, -⟩ := BuddyList.mem_findBuddies.mp he
  rw [BuddyList.has_removeBuddy]
  constructor
  · rintro ⟨hp, b, ⟨hb, hne⟩, hbacc, hbname⟩
    refine ⟨⟨hp, b, hb, hbacc, hbname⟩, ?_⟩
    rintro ⟨hpe, rfl⟩
    exact hne (hs (p, b) hb e hmem hp hpe hbacc hacc hbname)
  · rintro ⟨⟨hp, b, hb, hbacc, hbname⟩, hnot⟩
    refine ⟨hp, b, ⟨hb, ?_⟩, hbacc, hbname⟩
    rintro rfl
    exact hnot ⟨rfl, (tpHandleEnsure_eq_iff.mpr hbname).symm⟩

/-! ## Announcing before the group is there -/

/-- The two views agree, but for groups `names` that are announced and not there yet. -/
structure Covers (names : List String) (s : HazeContactList P a) : Prop where
  tidy : Tidy s.blist a
  groups : ∀ name ∈ s.dupGroups, name ∈ s.announced.groups
  announced : ∀ name ∈ s.announced.groups, name ∈ s.dupGroups ∨ name ∈ names
  contactGroups : ∀ h name, name ∈ s.announced.contactGroups h ↔ name ∈ s.dupContactGroups h

theorem GroupsAgree.covers (hs : GroupsAgree s) (htidy : Tidy s.blist a)
    (names : List String) : Covers names s where
  tidy := htidy
  groups := fun name hname => by rw [hs.groups]; exact List.mem_toFinset.mpr hname
  announced := fun name hname => by
    rw [hs.groups, List.mem_toFinset] at hname
    exact Or.inl hname
  contactGroups := fun h name => by rw [hs.contactGroups, List.mem_toFinset]

/-- When the announced groups are all there, the views are equal. -/
theorem Covers.groupsAgree (hs : Covers names s) (hthere : ∀ n ∈ names, n ∈ s.dupGroups) :
    GroupsAgree s where
  groups := by
    apply Finset.ext
    intro name
    rw [List.mem_toFinset]
    exact ⟨fun hname => (hs.announced name hname).elim id (hthere name), hs.groups name⟩
  contactGroups := fun h => by
    apply Finset.ext
    intro name
    rw [List.mem_toFinset]
    exact hs.contactGroups h name

/-! ## Moving buddies -/

theorem mem_dupGroups_congr (hroot : s'.blist.root = s.blist.root) :
    name ∈ s'.dupGroups ↔ name ∈ s.dupGroups := by
  rw [mem_dupGroups, mem_dupGroups, hroot]

theorem mem_dupContactGroups_congr (hroot : s'.blist.root = s.blist.root)
    (hhas : ∀ p, s'.blist.Has p a h.id ↔ s.blist.Has p a h.id) :
    name ∈ s'.dupContactGroups h ↔ name ∈ s.dupContactGroups h := by
  simp only [mem_dupContactGroups, hroot, hhas]

theorem mem_dupGroups_addBuddy (hu : s.blist.Usable group) {b : PurpleBuddy}
    (hblist : s'.blist = s.blist.purpleBlistAddBuddy b group) :
    name ∈ s'.dupGroups ↔ name ∈ s.dupGroups ∨ name = group.name := by
  simp only [mem_dupGroups, hblist, BuddyList.mem_root_addBuddy hu]
  constructor
  · rintro ⟨g, hg | rfl, rfl⟩
    · exact Or.inl ⟨g, hg, rfl⟩
    · exact Or.inr rfl
  · rintro (⟨g, hg, rfl⟩ | rfl)
    · exact ⟨g, Or.inl hg, rfl⟩
    · exact ⟨group, Or.inr rfl, rfl⟩

/-- The contact gets the group of its new buddy. -/
theorem mem_dupContactGroups_addBuddy (hu : s.blist.Usable group) {b : PurpleBuddy}
    (hacc : b.account = a) (hblist : s'.blist = s.blist.purpleBlistAddBuddy b group) :
    name ∈ s'.dupContactGroups h ↔ name ∈ s.dupContactGroups h ∨
      (h = tpHandleEnsure P a b.name ∧ name = group.name) := by
  have hid : ∀ p, (s.blist.purpleBlistAddBuddy b group).Has p a h.id ↔ s.blist.Has p a h.id ∨
      (p = group.ptr ∧ h = tpHandleEnsure P a b.name) := by
    intro p
    rw [BuddyList.has_addBuddy hu, hacc, eq_comm (a := h), tpHandleEnsure_eq_iff]
    simp only [true_and, eq_comm (a := h.id)]
  simp only [mem_dupContactGroups, hblist, BuddyList.mem_root_addBuddy hu, hid]
  constructor
  · rintro ⟨g, hg, rfl, hhas | ⟨hptr, rfl⟩⟩
    · obtain ⟨g', hg', hptr⟩ := List.mem_map.mp hhas.1
      have hgg : g' = g := BuddyList.eq_of_ptr ((BuddyList.mem_root_addBuddy hu b g').mpr
        (Or.inl hg')) ((BuddyList.mem_root_addBuddy hu b g).mpr hg) hptr
      exact Or.inl ⟨g, hgg ▸ hg', rfl, hhas⟩
    · have hgg : g = group := BuddyList.eq_of_ptr ((BuddyList.mem_root_addBuddy hu b g).mpr hg)
        ((BuddyList.mem_root_addBuddy hu b group).mpr (Or.inr rfl)) hptr
      exact Or.inr ⟨rfl, congrArg PurpleGroup.name hgg⟩
  · rintro (⟨g, hg, rfl, hhas⟩ | ⟨rfl, rfl⟩)
    · exact ⟨g, Or.inl hg, rfl, Or.inl hhas⟩
    · exact ⟨group, Or.inr rfl, rfl, Or.inr ⟨rfl, rfl⟩⟩

/-- The contact loses the group of the buddy that goes. -/
theorem mem_dupContactGroups_removeBuddy (htidy : Tidy s.blist a) {e : Nat × PurpleBuddy}
    (he : e ∈ s.blist.purpleFindBuddies a (some e.2.name))
    (hblist : s'.blist = s.blist.purpleBlistRemoveBuddy e) :
    name ∈ s'.dupContactGroups h ↔ name ∈ s.dupContactGroups h ∧
      ¬ (h = tpHandleEnsure P a e.2.name ∧ name = s.blist.purpleGroupGetName e.1) := by
  obtain ⟨g₀, hg₀, hptr₀⟩ := List.mem_map.mp (BuddyList.mem_findBuddies.mp he).2.1
  have hname : ∀ g ∈ s.blist.root, g.ptr = e.1 ↔ g.name = s.blist.purpleGroupGetName e.1 := by
    intro g hg
    rw [← hptr₀, BuddyList.groupGetName_ptr hg₀]
    constructor
    · exact fun hptr => congrArg PurpleGroup.name (BuddyList.eq_of_ptr hg hg₀ hptr)
    · exact fun hn => congrArg PurpleGroup.ptr
        (BuddyList.eq_of_key hg hg₀ (congrArg P.gUtf8CollateKey hn))
  simp only [mem_dupContactGroups, hblist, BuddyList.root_removeBuddy,
    has_removeBuddy_of_tidy htidy he]
  constructor
  · rintro ⟨g, hg, rfl, hhas, hnot⟩
    refine ⟨⟨g, hg, rfl, hhas⟩, ?_⟩
    rintro ⟨rfl, hn⟩
    exact hnot ⟨(hname g hg).mpr hn, rfl⟩
  · rintro ⟨⟨g, hg, rfl, hhas⟩, hnot⟩
    refine ⟨g, hg, rfl, hhas, ?_⟩
    rintro ⟨hptr, rfl⟩
    exact hnot ⟨rfl, (hname g hg).mp hptr⟩

/-- An announcement of groups to come, while the list stays as it is. -/
theorem Covers.announce (hs : Covers names s) (hn : name ∈ names) {bl : BuddyList P}
    (hroot : bl.root = s.blist.root) (hmembers : bl.members = s.blist.members) :
    Covers names ({ s with blist := bl }.groupsCreated [name]) where
  tidy := by
    have hptrs : bl.ptrs = s.blist.ptrs := congrArg (List.map PurpleGroup.ptr) hroot
    exact hs.tidy.congr (fun p hp => hptrs ▸ hp) (fun x hx => hmembers ▸ hx)
  groups := fun n hmem => by
    have hold := hs.groups n ((mem_dupGroups_congr (s := s) hroot).mp hmem)
    exact Finset.mem_union_left _ hold
  announced := fun n hmem => by
    rcases Finset.mem_union.mp hmem with hold | hnew
    · exact (hs.announced n hold).imp_left (mem_dupGroups_congr (s := s) hroot).mpr
    · rw [List.mem_toFinset, List.mem_singleton] at hnew
      exact Or.inr (hnew ▸ hn)
  contactGroups := fun h n => by
    refine (hs.contactGroups h n).trans (mem_dupContactGroups_congr (s := s) hroot ?_).symm
    intro p
    show bl.Has p a h.id ↔ _
    simp only [BuddyList.Has, BuddyList.ptrs, hroot, hmembers]

/-- `buddy_added_cb` announces the group of the new buddy. -/
theorem Covers.purpleBlistAddBuddy (hs : Covers names s) (hu : s.blist.Usable group)
    {b : PurpleBuddy} (hacc : b.account = a)
    (hnew : ¬ s.blist.Has group.ptr a (P.purpleNormalize a b.name)) :
    Covers names (s.purpleBlistAddBuddy b group) := by
  have hblist : (s.purpleBlistAddBuddy b group).blist
      = s.blist.purpleBlistAddBuddy b group := by
    simp only [HazeContactList.purpleBlistAddBuddy, buddyAddedCb, if_pos hacc]
    rfl
  have hgroups : (s.purpleBlistAddBuddy b group).announced.groups
      = s.announced.groups ∪ [group.name].toFinset := by
    simp only [HazeContactList.purpleBlistAddBuddy, buddyAddedCb, if_pos hacc]
    rfl
  have hcontact : (s.purpleBlistAddBuddy b group).announced.contactGroups
      = Function.update s.announced.contactGroups (tpHandleEnsure P a b.name)
        ((s.announced.contactGroups (tpHandleEnsure P a b.name) ∪ [group.name].toFinset) \
          [].toFinset) := by
    simp only [HazeContactList.purpleBlistAddBuddy, buddyAddedCb, if_pos hacc]
    rfl
  refine ⟨?_, fun n hn => ?_, fun n hn => ?_, fun h n => ?_⟩
  · rw [hblist]
    exact hs.tidy.addBuddy hu hnew
  · rw [hgroups, Finset.mem_union]
    rcases (mem_dupGroups_addBuddy hu hblist).mp hn with hold | rfl
    · exact Or.inl (hs.groups n hold)
    · exact Or.inr (by simp)
  · rw [mem_dupGroups_addBuddy hu hblist]
    rw [hgroups, Finset.mem_union, List.mem_toFinset, List.mem_singleton] at hn
    rcases hn with hold | hnew
    · exact (hs.announced n hold).imp_left Or.inl
    · exact Or.inl (Or.inr hnew)
  · rw [mem_dupContactGroups_addBuddy hu hacc hblist, hcontact, ← hs.contactGroups]
    by_cases heq : h = tpHandleEnsure P a b.name
    · subst heq
      simp [Function.update_self, or_comm]
    · rw [Function.update_of_ne heq]
      simp [heq]

/-- `buddy_removed_cb` announces that the contact leaves the group. -/
theorem Covers.purpleBlistRemoveBuddy (hs : Covers names s)
    (hstatus : s.status ≠ .disconnected) {e : Nat × PurpleBuddy}
    (he : e ∈ s.blist.purpleFindBuddies a (some e.2.name)) :
    Covers names (s.purpleBlistRemoveBuddy e) := by
  have hacc : e.2.account = a := (BuddyList.mem_findBuddies.mp he).2.2.1
  have hblist : (s.purpleBlistRemoveBuddy e).blist = s.blist.purpleBlistRemoveBuddy e := by
    simp only [HazeContactList.purpleBlistRemoveBuddy, buddyRemovedCb]
    split_ifs <;> rfl
  have hgroups : (s.purpleBlistRemoveBuddy e).announced.groups = s.announced.groups := by
    simp only [HazeContactList.purpleBlistRemoveBuddy, buddyRemovedCb, if_pos hacc,
      if_neg hstatus]
    split_ifs <;> exact Finset.union_empty s.announced.groups
  have hcontact : (s.purpleBlistRemoveBuddy e).announced.contactGroups
      = Function.update s.announced.contactGroups (tpHandleEnsure P a e.2.name)
        ((s.announced.contactGroups (tpHandleEnsure P a e.2.name) ∪ ([] : List String).toFinset) \
          [s.blist.purpleGroupGetName e.1].toFinset) := by
    simp only [HazeContactList.purpleBlistRemoveBuddy, buddyRemovedCb, if_pos hacc,
      if_neg hstatus]
    split_ifs <;> rfl
  have hroot : (s.purpleBlistRemoveBuddy e).blist.root = s.blist.root := by
    rw [hblist, BuddyList.root_removeBuddy]
  refine ⟨?_, fun n hn => ?_, fun n hn => ?_, fun h n => ?_⟩
  · refine hs.tidy.congr ?_ (fun x hx => ?_)
    · rw [BuddyList.ptrs, hroot]
      exact List.Subset.refl _
    · rw [hblist] at hx
      exact ((BuddyList.mem_members_removeBuddy _ e x).mp hx).1
  · rw [hgroups]
    exact hs.groups n ((mem_dupGroups_congr hroot).mp hn)
  · rw [hgroups] at hn
    exact (hs.announced n hn).imp_left (mem_dupGroups_congr hroot).mpr
  · rw [mem_dupContactGroups_removeBuddy hs.tidy he hblist, hcontact, ← hs.contactGroups]
    by_cases heq : h = tpHandleEnsure P a e.2.name
    · subst heq
      simp [Function.update_self]
    · rw [Function.update_of_ne heq]
      simp [heq]

theorem Covers.addNewBuddy (hs : Covers names s) (hu : s.blist.Usable group)
    (hnew : ¬ s.blist.Has group.ptr a h.id) : Covers names (s.addNewBuddy h group) := by
  have hbuddy : Covers names { s with blist := (s.blist.purpleBuddyNew a h.inspect).1 } :=
    ⟨hs.tidy, hs.groups, hs.announced, hs.contactGroups⟩
  obtain ⟨htidy, hgroups, hann, hcontact⟩ := hbuddy.purpleBlistAddBuddy
    (b := (s.blist.purpleBuddyNew a h.inspect).2) hu rfl
    (by rw [BuddyList.purpleBuddyNew, normalize_inspect]; exact hnew)
  exact ⟨htidy, hgroups, hann, hcontact⟩

theorem Covers.removeBuddy (hs : Covers names s) (hstatus : s.status ≠ .disconnected)
    {e : Nat × PurpleBuddy} (he : e ∈ s.blist.purpleFindBuddies a (some e.2.name)) :
    Covers names (s.removeBuddy e) :=
  Covers.purpleBlistRemoveBuddy
    (s := s.call (.purpleAccountRemoveBuddy e.2.name (s.blist.purpleGroupGetName e.1)))
    ⟨hs.tidy, hs.groups, hs.announced, hs.contactGroups⟩ hstatus he

theorem Moves.covers (hm : Moves names s s') (hs : Covers names s)
    (hstatus : s.status ≠ .disconnected) : Covers names s' := by
  induction hm with
  | refl => exact hs
  | tail hmoves hmove ih =>
      have hstatus' := (Moves.sameRequests hmoves).status ▸ hstatus
      cases hmove with
      | announce bl name hname hroot hmembers => exact ih.announce hname hroot hmembers
      | add h group hu _ hnew => exact ih.addNewBuddy hu hnew
      | remove e e' he _ => exact ih.removeBuddy hstatus' he

/-! ## The groups after a sequence of moves -/

theorem Move.mem_root (hm : Move names s s') {g : PurpleGroup} :
    (g ∈ s.blist.root → g ∈ s'.blist.root) ∧
      (g ∈ s'.blist.root → g ∈ s.blist.root ∨ g.name ∈ names) := by
  cases hm with
  | announce bl name _ hroot _ =>
      show (_ → g ∈ bl.root) ∧ (g ∈ bl.root → _)
      rw [hroot]
      exact ⟨id, Or.inl⟩
  | add h group hu hnamed _ =>
      rw [root_addNewBuddy hu]
      split
      · exact ⟨id, Or.inl⟩
      · rename_i hnot
        refine ⟨List.mem_append_left _, fun hg => ?_⟩
        rcases List.mem_append.mp hg with hg | hg
        · exact Or.inl hg
        · rw [List.mem_singleton.mp hg]
          exact Or.inr (hnamed.resolve_left hnot)
  | remove e e' _ _ =>
      rw [blist_removeBuddy, BuddyList.root_removeBuddy]
      exact ⟨id, Or.inl⟩

/-- Moves remove no group, and add only groups of the given names. -/
theorem Moves.mem_root (hm : Moves names s s') {g : PurpleGroup} :
    (g ∈ s.blist.root → g ∈ s'.blist.root) ∧
      (g ∈ s'.blist.root → g ∈ s.blist.root ∨ g.name ∈ names) := by
  induction hm with
  | refl => exact ⟨id, Or.inl⟩
  | tail _ hmove ih =>
      exact ⟨fun hg => hmove.mem_root.1 (ih.1 hg),
        fun hg => (hmove.mem_root.2 hg).elim ih.2 Or.inr⟩

/-- The names are normal, and stand for different groups. -/
structure Spelled (s : HazeContactList P a) (names : List String) : Prop where
  normal : ∀ n ∈ names, NormalName s n
  keys : ∀ n ∈ names, ∀ n' ∈ names, P.gUtf8CollateKey n = P.gUtf8CollateKey n' → n = n'

theorem Spelled.nil (s : HazeContactList P a) : Spelled s [] := ⟨by simp, by simp⟩

theorem Spelled.singleton (hn : NormalName s name) : Spelled s [name] := by
  constructor
  · simpa using hn
  · simp

/-- A group that is there at the end has the name under which it was announced. -/
theorem Moves.name_mem_dupGroups (hm : Moves names s s') (hsp : Spelled s names)
    (hn : name ∈ names) (hfound : (s'.blist.purpleFindGroup name).isSome) :
    name ∈ s'.dupGroups := by
  obtain ⟨g, hfind⟩ := Option.isSome_iff_exists.mp hfound
  have hg := BuddyList.mem_root_of_find hfind
  have hkey := BuddyList.key_of_find hfind
  refine mem_dupGroups.mpr ⟨g, hg, ?_⟩
  rcases hm.mem_root.2 hg with hold | hnew
  · apply (hsp.normal name hn).eq_of_find
    rw [← BuddyList.find_name hold, BuddyList.purpleFindGroup, BuddyList.purpleFindGroup, hkey]
  · exact hsp.keys g.name hnew name hn hkey

theorem isSome_find_of_mem {bl : BuddyList P} {c : PurpleAccount × String}
    (hc : (P.gUtf8CollateKey name, c) ∈ bl.memberships) :
    (bl.purpleFindGroup name).isSome := by
  rw [Option.isSome_iff_ne_none]
  exact fun hnone => BuddyList.not_mem_memberships_of_find_eq_none hnone c hc

theorem Moves.isSome_find (hm : Moves names s s')
    (hfind : (s.blist.purpleFindGroup name).isSome) :
    (s'.blist.purpleFindGroup name).isSome := by
  obtain ⟨g, hg⟩ := Option.isSome_iff_exists.mp hfind
  rw [Option.isSome_iff_ne_none]
  exact fun hnone => BuddyList.find_eq_none.mp hnone g
    (hm.mem_root.1 (BuddyList.mem_root_of_find hg)) (BuddyList.key_of_find hg)

/-! ## The operations -/

/-- The views are equal between two operations. -/
structure InStep (s : HazeContactList P a) : Prop where
  agree : GroupsAgree s
  tidy : Tidy s.blist a
  status : s.status ≠ .disconnected

theorem InStep.covers (hs : InStep s) (names : List String) : Covers names s :=
  hs.agree.covers hs.tidy names

theorem Covers.inStep (hs : Covers names s) (hthere : ∀ n ∈ names, n ∈ s.dupGroups)
    (hstatus : s.status ≠ .disconnected) : InStep s :=
  ⟨hs.groupsAgree hthere, hs.tidy, hstatus⟩

/-- **Moves keep the views equal** when every group they announce is there at the end. -/
theorem Moves.inStep (hm : Moves names s s') (hsp : Spelled s names)
    (hfound : ∀ n ∈ names, (s'.blist.purpleFindGroup n).isSome) (hs : InStep s) :
    InStep s' :=
  (hm.covers (hs.covers names) hs.status).inStep
    (fun n hn => hm.name_mem_dupGroups hsp hn (hfound n hn))
    (hm.sameRequests.status ▸ hs.status)

theorem inStep_prplAddBuddy (hs : InStep s) (hname : P.IsGroupName groupName)
    (hnew : ¬ s.blist.Has (s.blist.purpleGroupNew groupName).2.ptr a
      (P.purpleNormalize a name)) : InStep (s.prplAddBuddy a name groupName) := by
  have hbuddy : Covers [] { s with
      blist := ((s.blist.purpleGroupNew groupName).1.purpleBuddyNew a name).1 } := by
    have hroot := BuddyList.root_groupNew s.blist groupName
    have hcovers := (hs.covers [groupName]).announce List.mem_cons_self hroot
      (BuddyList.members_groupNew s.blist groupName)
    refine ⟨hcovers.tidy, fun n hn => ?_, fun n hn => ?_, hcovers.contactGroups⟩
    · exact (hs.covers []).groups n ((mem_dupGroups_congr (s := s) hroot).mp hn)
    · exact ((hs.covers []).announced n hn).imp_left (mem_dupGroups_congr (s := s) hroot).mpr
  refine (hbuddy.purpleBlistAddBuddy (BuddyList.usable_groupNew s.blist hname) rfl ?_).inStep
    (by simp) ?_
  · intro hhas
    exact hnew ((BuddyList.has_groupNew s.blist groupName _ _ _).mp hhas)
  · rw [(sameRequests_purpleBlistAddBuddy _ _ _).status]
    exact hs.status

theorem inStep_purpleBlistRemoveBuddy (hs : InStep s) {e : Nat × PurpleBuddy}
    (hmem : e ∈ s.blist.members) (hptr : e.1 ∈ s.blist.ptrs) :
    InStep (s.purpleBlistRemoveBuddy e) := by
  have hstatus := (sameRequests_purpleBlistRemoveBuddy s e).status ▸ hs.status
  by_cases hacc : e.2.account = a
  · have hfound := BuddyList.mem_findBuddies.mpr ⟨hmem, hptr, hacc, rfl⟩
    exact ((hs.covers []).purpleBlistRemoveBuddy hs.status hfound).inStep (by simp) hstatus
  · -- another account's buddy
    have hunchanged : s.purpleBlistRemoveBuddy e = { s with
        blist := s.blist.purpleBlistRemoveBuddy e
        lists := s.lists ++ [s.blist.purpleBlistRemoveBuddy e] } := if_neg hacc
    have hhas : ∀ (h : TpHandle P a) p, (s.blist.purpleBlistRemoveBuddy e).Has p a h.id ↔
        s.blist.Has p a h.id := by
      intro h p
      rw [BuddyList.has_removeBuddy]
      refine and_congr_right (fun _ => exists_congr (fun b => ?_))
      refine and_congr_left (fun hb => and_iff_left ?_)
      rintro rfl
      exact hacc hb.1
    rw [hunchanged]
    refine ⟨⟨?_, fun h => ?_⟩, ?_, hs.status⟩
    · exact hs.agree.groups
    · refine (hs.agree.contactGroups h).trans (Finset.ext (fun n => ?_))
      rw [List.mem_toFinset, List.mem_toFinset]
      exact Iff.symm (mem_dupContactGroups_congr (s := s) rfl (hhas h))
    · exact hs.tidy.congr (fun _ hp => hp)
        (fun x hx => ((BuddyList.mem_members_removeBuddy _ e x).mp hx).1)

theorem inStep_addToGroupAsync (hs : InStep s) (hn : NormalName s groupName)
    (hsafe : contacts = [] → (s.blist.purpleFindGroup groupName).isSome) :
    ∃ s', s.addToGroupAsync groupName contacts = .ok s' ∧ InStep s' := by
  obtain ⟨s', hs', hM, hmoves⟩ := addToGroupAsync_ok hn.1 s contacts
  refine ⟨s', hs', hmoves.inStep (Spelled.singleton hn) ?_ hs⟩
  intro n hmem
  rw [List.mem_singleton.mp hmem]
  cases contacts with
  | nil => exact hmoves.isSome_find (hsafe rfl)
  | cons h contacts =>
      apply isSome_find_of_mem (c := h.contact)
      rw [hM]
      exact Or.inr ⟨rfl, contact_mem_contactSet.mpr List.mem_cons_self⟩

/-- The fallback group is there after the contacts that need it have joined it. -/
theorem isSome_find_fallback {outcasts : TpHandleSet P a}
    (hjoin : ∀ c ∈ s.blist.memberships.orphans (P.gUtf8CollateKey groupName)
      (contactSet outcasts), (P.gUtf8CollateKey P.buddies, c) ∈ s'.blist.memberships) :
    ∀ n ∈ s.fallbackNames groupName outcasts, (s'.blist.purpleFindGroup n).isSome := by
  intro n hn
  unfold fallbackNames at hn
  split at hn
  · cases hn
  · rename_i hne
    rw [List.mem_singleton.mp hn]
    obtain ⟨h, hh⟩ := List.exists_mem_of_ne_nil _ hne
    have horphan := contact_mem_contactSet.mpr hh
    rw [contactSet_strays] at horphan
    exact isSome_find_of_mem (hjoin _ horphan)

theorem spelled_fallbackNames {outcasts : TpHandleSet P a}
    (hsafe : s.strays groupName outcasts ≠ [] → FallbackSpelled s) :
    Spelled s (s.fallbackNames groupName outcasts) := by
  unfold fallbackNames
  split
  · exact Spelled.nil s
  · rename_i hne
    exact Spelled.singleton (hsafe hne)

theorem inStep_removeFromGroupAsync (hs : InStep s)
    (hsafe : s.strays groupName contacts ≠ [] → FallbackSpelled s) :
    InStep (s.removeFromGroupAsync groupName contacts).1 := by
  have hsp := spelled_fallbackNames hsafe
  rcases hr : s.removeFromGroupAsync groupName contacts with ⟨s', _ | e⟩
  · obtain ⟨hevict, hM, hmoves⟩ := removeFromGroupAsync_ok hr
    refine hmoves.inStep hsp (isSome_find_fallback (fun c hc => ?_)) hs
    rw [hM]
    exact hevict.orphan_mem_evict hc
  · have hrefused := removeFromGroupAsync_error hr
    obtain ⟨group, -, hfb⟩ := hrefused.group
    refine hrefused.moves.inStep hsp (fun n hn => ?_) hs
    rw [hrefused.blist, List.mem_singleton.mp (fallbackNames_subset _ _ _ hn), hfb]
    rfl

/-- A group that is found has the same name as the fallback group when they are the same. -/
theorem NormalName.eq_of_key {name' : String} (hn : NormalName s name)
    (hn' : NormalName s name') (hfind : (s.blist.purpleFindGroup name).isSome)
    (hkey : P.gUtf8CollateKey name = P.gUtf8CollateKey name') : name = name' := by
  obtain ⟨g, hg⟩ := Option.isSome_iff_exists.mp hfind
  have hg' : s.blist.purpleFindGroup name' = some g := by
    rw [← hg, BuddyList.purpleFindGroup, BuddyList.purpleFindGroup, hkey]
  rw [← hn.eq_of_find hg, ← hn'.eq_of_find hg']

theorem isSome_find_of_strays {outcasts : TpHandleSet P a}
    (hne : s.strays groupName outcasts ≠ []) : (s.blist.purpleFindGroup groupName).isSome := by
  cases hfind : s.blist.purpleFindGroup groupName with
  | none => exact absurd (by simp only [strays, hfind]) hne
  | some g => rfl

theorem spelled_setGroupMembers {outcasts : TpHandleSet P a} (hn : NormalName s groupName)
    (hsafe : s.strays groupName outcasts ≠ [] → FallbackSpelled s) :
    Spelled s (groupName :: s.fallbackNames groupName outcasts) := by
  unfold fallbackNames
  split
  · exact Spelled.singleton hn
  · rename_i hne
    have hfb := hsafe hne
    have heq := hn.eq_of_key hfb (isSome_find_of_strays hne)
    constructor
    · intro n hmem
      rcases List.mem_pair.mp hmem with rfl | rfl
      · exact hn
      · exact hfb
    · intro n hmem n' hmem' hkey
      rcases List.mem_pair.mp hmem with rfl | rfl <;>
        rcases List.mem_pair.mp hmem' with rfl | rfl
      · rfl
      · exact heq hkey
      · exact (heq hkey.symm).symm
      · rfl

theorem inStep_setGroupMembersAsync (hs : InStep s) (hn : NormalName s groupName)
    (hcreated : contacts = [] → (s.blist.purpleFindGroup groupName).isSome)
    (hsafe : s.strays groupName (s.outcasts groupName contacts) ≠ [] → FallbackSpelled s) :
    ∃ r, s.setGroupMembersAsync groupName contacts = .ok r ∧ InStep r.1 := by
  have hsp := spelled_setGroupMembers hn hsafe
  rcases setGroupMembersAsync_cases hn.1 s contacts with
    ⟨s', e, hs', -, hblist, ⟨group, hfind, hfb⟩, hmoves⟩ | ⟨s', hs', hevict, hM, hmoves⟩
  · refine ⟨_, hs', hmoves.inStep hsp (fun n hmem => ?_) hs⟩
    rw [hblist]
    rcases List.mem_cons.mp hmem with rfl | hmem
    · rw [hfind]
      rfl
    · rw [List.mem_singleton.mp (fallbackNames_subset _ _ _ hmem), hfb]
      rfl
  · refine ⟨_, hs', hmoves.inStep hsp (fun n hmem => ?_) hs⟩
    rcases List.mem_cons.mp hmem with rfl | hmem
    · cases contacts with
      | nil => exact hmoves.isSome_find (hcreated rfl)
      | cons h contacts =>
          apply isSome_find_of_mem (c := h.contact)
          rw [hM, hevict.mem_assign_self (not_mem_outcasts s n (h :: contacts))]
          exact Or.inl (contact_mem_contactSet.mpr List.mem_cons_self)
    · refine isSome_find_fallback (fun c hc => ?_) n hmem
      rw [hM]
      exact hevict.orphan_mem_assign hc

theorem inStep_setContactGroupsAsync (hs : InStep s) (hsp : Spelled s (wantedNames P names)) :
    InStep (s.setContactGroupsAsync h names) := by
  refine (moves_setContactGroups hsp.normal).inStep hsp (fun n hn => ?_) hs
  have hgroup : ∀ n ∈ wantedNames P names, P.IsGroupName n := fun n hn => (hsp.normal n hn).1
  have hspelled : SpelledIn s (wantedNames P names) := by
    intro n hn g hg
    rw [(hsp.normal n hn).eq_of_find hg]
    exact hn
  obtain ⟨g, hfind, -⟩ := has_addToGroups (h := h) hgroup hspelled n hn
  rw [setContactGroupsAsync_eq, BuddyList.purpleFindGroup, root_removeBuddies,
    ← BuddyList.purpleFindGroup, hfind]
  rfl

/-- A group with nobody in it goes from both views. -/
theorem inStep_removeEmptyGroup (hs : InStep s)
    (hfind : s.blist.purpleFindGroup group.name = some group)
    (hempty : ∀ n ∈ s.blist.nodes, n.group ≠ group.ptr) :
    InStep ({ s with blist := s.blist.purpleBlistRemoveGroup group }.groupsRemoved
      [group.name]) := by
  have hany : ¬ s.blist.nodes.any (fun n => n.group = group.ptr) := by
    simpa using hempty
  have hgroup := BuddyList.mem_root_of_find hfind
  have hmembers : (s.blist.purpleBlistRemoveGroup group).members = s.blist.members := by
    simp only [BuddyList.purpleBlistRemoveGroup, if_neg hany]
    rfl
  have hname : ∀ g ∈ s.blist.root, g.ptr ≠ group.ptr ↔ g.name ≠ group.name := by
    refine fun g hg => not_congr ⟨fun hptr => ?_, fun hn => ?_⟩
    · rw [BuddyList.eq_of_ptr hg hgroup hptr]
    · rw [BuddyList.eq_of_key hg hgroup (congrArg P.gUtf8CollateKey hn)]
  -- the groups that are left, by their names
  have hleft : ∀ g, g ∈ (s.blist.purpleBlistRemoveGroup group).root ↔
      g ∈ s.blist.root ∧ g.name ≠ group.name := by
    intro g
    rw [BuddyList.mem_root_removeGroup hempty]
    exact and_congr_right (hname g)
  refine ⟨⟨?_, fun h => ?_⟩, ?_, hs.status⟩
  · apply Finset.ext
    intro n
    show n ∈ s.announced.groups \ [group.name].toFinset ↔ _
    rw [hs.agree.groups, Finset.mem_sdiff, List.mem_toFinset, List.mem_toFinset,
      List.mem_toFinset, List.mem_singleton, mem_dupGroups, mem_dupGroups]
    constructor
    · rintro ⟨⟨g, hg, rfl⟩, hne⟩
      exact ⟨g, (hleft g).mpr ⟨hg, hne⟩, rfl⟩
    · rintro ⟨g, hg, rfl⟩
      obtain ⟨hold, hne⟩ := (hleft g).mp hg
      exact ⟨⟨g, hold, rfl⟩, hne⟩
  · apply Finset.ext
    intro n
    show n ∈ s.announced.contactGroups h \ [group.name].toFinset ↔ _
    rw [hs.agree.contactGroups, Finset.mem_sdiff, List.mem_toFinset, List.mem_toFinset,
      List.mem_toFinset, List.mem_singleton, mem_dupContactGroups, mem_dupContactGroups]
    constructor
    · rintro ⟨⟨g, hg, rfl, hhas⟩, hne⟩
      exact ⟨g, (hleft g).mpr ⟨hg, hne⟩, rfl,
        (BuddyList.has_removeGroup s.blist group _ _ _).mpr hhas⟩
    · rintro ⟨g, hg, rfl, hhas⟩
      obtain ⟨hold, hne⟩ := (hleft g).mp hg
      exact ⟨⟨g, hold, rfl, (BuddyList.has_removeGroup s.blist group _ _ _).mp hhas⟩, hne⟩
  · refine hs.tidy.congr (fun p hp => ?_) (fun x hx => hmembers ▸ hx)
    obtain ⟨g, hg, rfl⟩ := List.mem_map.mp hp
    exact BuddyList.mem_ptrs_of_mem ((hleft g).mp hg).1

/-- Nobody is left alone by what leaves an empty group. -/
theorem strays_of_empty {outcasts : TpHandleSet P a}
    (hfind : s.blist.purpleFindGroup groupName = some group)
    (hempty : ∀ n ∈ s.blist.nodes, n.group ≠ group.ptr) : s.strays groupName outcasts = [] := by
  simp only [strays, hfind]
  apply List.eq_nil_iff_forall_not_mem.mpr
  intro h hh
  obtain ⟨-, ⟨-, b, hb, -⟩, -⟩ := mem_orphans.mp hh
  obtain ⟨n, hn, he⟩ := List.mem_flatMap.mp hb
  exact hempty n hn (PurpleBlistNode.fst_of_mem_members he).symm

/-- The group may go when it is empty. Otherwise the operation must fail, as it does for the
fallback group, and the fallback group must be spelled as it is announced. -/
def GroupCanGo (s : HazeContactList P a) (groupName : String) : Prop :=
  ∀ group ∈ s.blist.purpleFindGroup groupName,
    (∀ n ∈ s.blist.nodes, n.group ≠ group.ptr) ∨
    (s.strays groupName (s.dupGroupMembers groupName) ≠ [] ∧ group.name = P.buddies)

/-- A group that is not there is not in either view. -/
theorem inStep_groupsRemoved_none (hs : InStep s)
    (hfind : s.blist.purpleFindGroup groupName = none) :
    InStep (s.groupsRemoved [groupName]) := by
  have hnot : ∀ g ∈ s.blist.root, g.name ≠ groupName := fun g hg hname =>
    BuddyList.find_eq_none.mp hfind g hg (congrArg P.gUtf8CollateKey hname)
  refine ⟨⟨?_, fun h => ?_⟩, hs.tidy, hs.status⟩
  · show s.announced.groups \ [groupName].toFinset = _
    rw [hs.agree.groups]
    refine Finset.sdiff_eq_self_of_disjoint (Finset.disjoint_left.mpr (fun n hn => ?_))
    obtain ⟨g, hg, rfl⟩ := mem_dupGroups.mp (List.mem_toFinset.mp hn)
    simpa using hnot g hg
  · show s.announced.contactGroups h \ [groupName].toFinset = _
    rw [hs.agree.contactGroups]
    refine Finset.sdiff_eq_self_of_disjoint (Finset.disjoint_left.mpr (fun n hn => ?_))
    obtain ⟨g, hg, rfl, -⟩ := mem_dupContactGroups.mp (List.mem_toFinset.mp hn)
    simpa using hnot g hg

/-- `prep_remove_from_group` succeeds for a group that can go only when it has nothing to
do. -/
theorem GroupCanGo.prep (hsafe : GroupCanGo s groupName) (hn : NormalName s groupName)
    (hprep : s.prepRemoveFromGroup groupName (s.dupGroupMembers groupName) = (s', none)) :
    s' = s ∧ s.strays groupName (s.dupGroupMembers groupName) = [] := by
  rcases prepRemoveFromGroup_cases s groupName (s.dupGroupMembers groupName) with
    ⟨hp, hnil⟩ | ⟨group, hfind, hne, ⟨-, hp⟩ | ⟨hptr, hp⟩⟩
  · rw [hp] at hprep
    cases hprep
    exact ⟨rfl, hnil⟩
  · rw [hp] at hprep
    cases hprep
  · exfalso
    rcases hsafe group hfind with hempty | ⟨-, hname⟩
    · exact hne (strays_of_empty hfind hempty)
    · -- the group is the fallback group itself
      rw [hn.eq_of_find hfind] at hname
      rw [hname] at hfind
      exact hptr (by rw [BuddyList.groupNew_of_find hfind])

theorem inStep_removeGroupAsync (hs : InStep s) (hn : NormalName s groupName)
    (hsafe : GroupCanGo s groupName) : InStep (s.removeGroupAsync groupName).1 := by
  simp only [removeGroupAsync]
  rcases hprep : s.prepRemoveFromGroup groupName (s.dupGroupMembers groupName)
    with ⟨s₁, _ | e⟩
  · obtain ⟨rfl, hnil⟩ := hsafe.prep hn hprep
    dsimp only
    split
    · rename_i group hfind
      have hname : group.name = groupName := hn.eq_of_find hfind
      subst hname
      apply inStep_removeEmptyGroup hs hfind
      exact (hsafe group hfind).resolve_right (fun hc => hc.1 hnil)
    · rename_i hfind
      exact inStep_groupsRemoved_none hs hfind
  · have hrefused := prepRemoveFromGroup_error hprep
    obtain ⟨group, hfind, hfb⟩ := hrefused.group
    have hspelled : FallbackSpelled s := by
      rcases hsafe group hfind with hempty | ⟨-, hname⟩
      · exact absurd (strays_of_empty hfind hempty) hrefused.strays
      · rw [FallbackSpelled, ← hname, hn.eq_of_find hfind]
        exact hn
    refine hrefused.moves.inStep (spelled_fallbackNames (fun _ => hspelled)) (fun n hmem => ?_) hs
    rw [hrefused.blist, List.mem_singleton.mp (fallbackNames_subset _ _ _ hmem), hfb]
    rfl

/-- The list renames the groups as their announcement does. -/
theorem root_renamed {oldName newName : String} (hold : NormalName s oldName)
    (hnew : P.IsGroupName newName) (hfind : s.blist.purpleFindGroup oldName = some group)
    (hfree : s.blist.purpleFindGroup newName = none) :
    (s.blist.purpleBlistRenameGroup group newName).root = s.blist.root.map
      (fun g => ⟨g.ptr, TpBaseContactList.renamed oldName newName g.name⟩) := by
  have hgroup := BuddyList.mem_root_of_find hfind
  have hname : group.name = oldName := hold.eq_of_find hfind
  rw [BuddyList.root_renameGroup s.blist group hnew hfree]
  apply List.map_congr_left
  intro g hg
  unfold TpBaseContactList.renamed
  by_cases hptr : g.ptr = group.ptr
  · rw [BuddyList.eq_of_ptr hg hgroup hptr, if_pos rfl, if_pos hname]
  · have hne : g.name ≠ oldName := fun hn => hptr (congrArg PurpleGroup.ptr
      (BuddyList.eq_of_key hg hgroup (congrArg P.gUtf8CollateKey (hn.trans hname.symm))))
    rw [if_neg hptr, if_neg hne]

theorem inStep_renameGroupAsync {oldName newName : String} (hs : InStep s)
    (hold : NormalName s oldName) (hnew : NormalName s newName) :
    InStep (s.renameGroupAsync oldName newName).1 := by
  unfold renameGroupAsync
  split
  · exact hs
  · exact hs
  · rename_i group hfind hfree
    have hroot := root_renamed hold hnew.1 hfind hfree
    refine ⟨⟨?_, fun h => ?_⟩, ?_, hs.status⟩
    · apply Finset.ext
      intro n
      show n ∈ s.announced.groups.image _ ↔ _
      rw [hs.agree.groups, List.mem_toFinset, mem_dupGroups]
      show _ ↔ ∃ g ∈ (s.blist.purpleBlistRenameGroup group newName).root, g.name = n
      simp only [hroot, Finset.mem_image, List.mem_toFinset, mem_dupGroups, List.mem_map]
      constructor
      · rintro ⟨_, ⟨g, hg, rfl⟩, rfl⟩
        exact ⟨_, ⟨g, hg, rfl⟩, rfl⟩
      · rintro ⟨_, ⟨g, hg, rfl⟩, rfl⟩
        exact ⟨g.name, ⟨g, hg, rfl⟩, rfl⟩
    · apply Finset.ext
      intro n
      show n ∈ (s.announced.contactGroups h).image _ ↔ _
      rw [hs.agree.contactGroups, List.mem_toFinset, mem_dupContactGroups]
      show _ ↔ ∃ g ∈ (s.blist.purpleBlistRenameGroup group newName).root, g.name = n ∧
        (s.blist.purpleBlistRenameGroup group newName).Has g.ptr a h.id
      simp only [hroot, BuddyList.has_renameGroup, Finset.mem_image, List.mem_toFinset,
        mem_dupContactGroups, List.mem_map]
      constructor
      · rintro ⟨_, ⟨g, hg, rfl, hhas⟩, rfl⟩
        exact ⟨_, ⟨g, hg, rfl⟩, rfl, hhas⟩
      · rintro ⟨_, ⟨g, hg, rfl⟩, rfl, hhas⟩
        exact ⟨g.name, ⟨g, hg, rfl, hhas⟩, rfl⟩
    · refine hs.tidy.congr (fun p hp => ?_) (fun x hx => ?_)
      · exact BuddyList.ptrs_renameGroup s.blist group newName ▸ hp
      · exact BuddyList.members_renameGroup s.blist group newName ▸ hx

/-! ## Runs -/

/-- The operations on groups, and what a protocol plugin does to the list, as a machine. -/
def groupLists (P : Libpurple) (a : PurpleAccount) :
    Machine (HazeContactList P a) (ListEvent P a) Fault where
  step := listStep

/-- What libpurple and telepathy-glib promise, with one account: its protocol plugin gives a
contact one buddy in a group. -/
def GroupsLegal (s : HazeContactList P a) (e : ListEvent P a) : Prop :=
  ListLegal s e ∧ match e with
    | .prplAddBuddy account name groupName => account = a ∧
        ¬ s.blist.Has (s.blist.purpleGroupNew groupName).2.ptr a (P.purpleNormalize a name)
    | _ => True

/-- The events that keep the views equal: a group that is announced is there afterwards, under
that name, and a group whose removal is announced is gone. -/
def GroupsSafe (s : HazeContactList P a) : ListEvent P a → Prop
  | .addToGroup groupName contacts =>
      contacts = [] → (s.blist.purpleFindGroup groupName).isSome
  | .removeFromGroup groupName contacts =>
      s.strays groupName contacts ≠ [] → FallbackSpelled s
  | .setGroupMembers groupName contacts =>
      (contacts = [] → (s.blist.purpleFindGroup groupName).isSome) ∧
      (s.strays groupName (s.outcasts groupName contacts) ≠ [] → FallbackSpelled s)
  | .setContactGroups _ names => (names = [] → FallbackSpelled s) ∧
      ∀ n ∈ names, ∀ n' ∈ names, P.gUtf8CollateKey n = P.gUtf8CollateKey n' → n = n'
  | .removeGroup groupName => GroupCanGo s groupName
  | .prplAddBuddy _ _ _ => True
  | .prplRemoveBuddy _ => True
  | .renameGroup _ _ => True

instance (bl : BuddyList P) (p : Nat) (name : String) : Decidable (bl.Has p a name) :=
  decidable_of_iff (p ∈ bl.ptrs ∧ ∃ e ∈ bl.members, e.1 = p ∧ e.2.account = a ∧
      P.purpleNormalize a e.2.name = name) (by
    constructor
    · rintro ⟨hp, ⟨q, b⟩, hb, rfl, hacc, hn⟩
      exact ⟨hp, b, hb, hacc, hn⟩
    · rintro ⟨hp, b, hb, hacc, hn⟩
      exact ⟨hp, (p, b), hb, rfl, hacc, hn⟩)

instance (s : HazeContactList P a) : DecidablePred (GroupsLegal s)
  | .prplAddBuddy account name groupName => inferInstanceAs (Decidable
      (ListLegal s (.prplAddBuddy account name groupName) ∧ account = a ∧
        ¬ s.blist.Has (s.blist.purpleGroupNew groupName).2.ptr a (P.purpleNormalize a name)))
  | .prplRemoveBuddy e => inferInstanceAs (Decidable (ListLegal s (.prplRemoveBuddy e) ∧ True))
  | .addToGroup g hs => inferInstanceAs (Decidable (ListLegal s (.addToGroup g hs) ∧ True))
  | .removeFromGroup g hs =>
      inferInstanceAs (Decidable (ListLegal s (.removeFromGroup g hs) ∧ True))
  | .setGroupMembers g hs =>
      inferInstanceAs (Decidable (ListLegal s (.setGroupMembers g hs) ∧ True))
  | .setContactGroups h ns =>
      inferInstanceAs (Decidable (ListLegal s (.setContactGroups h ns) ∧ True))
  | .removeGroup g => inferInstanceAs (Decidable (ListLegal s (.removeGroup g) ∧ True))
  | .renameGroup old new =>
      inferInstanceAs (Decidable (ListLegal s (.renameGroup old new) ∧ True))

instance (s : HazeContactList P a) : DecidablePred (GroupsSafe s)
  | .addToGroup groupName contacts => inferInstanceAs (Decidable
      (contacts = [] → (s.blist.purpleFindGroup groupName).isSome))
  | .removeFromGroup groupName contacts => inferInstanceAs (Decidable
      (s.strays groupName contacts ≠ [] → FallbackSpelled s))
  | .setGroupMembers groupName contacts => inferInstanceAs (Decidable
      ((contacts = [] → (s.blist.purpleFindGroup groupName).isSome) ∧
      (s.strays groupName (s.outcasts groupName contacts) ≠ [] → FallbackSpelled s)))
  | .setContactGroups _ names => inferInstanceAs (Decidable
      ((names = [] → FallbackSpelled s) ∧
      ∀ n ∈ names, ∀ n' ∈ names, P.gUtf8CollateKey n = P.gUtf8CollateKey n' → n = n'))
  | .removeGroup groupName => inferInstanceAs (Decidable
      (∀ group ∈ s.blist.purpleFindGroup groupName,
        (∀ n ∈ s.blist.nodes, n.group ≠ group.ptr) ∨
        (s.strays groupName (s.dupGroupMembers groupName) ≠ [] ∧ group.name = P.buddies)))
  | .prplAddBuddy _ _ _ => inferInstanceAs (Decidable True)
  | .prplRemoveBuddy _ => inferInstanceAs (Decidable True)
  | .renameGroup _ _ => inferInstanceAs (Decidable True)

theorem spelled_wantedNames (hnames : ∀ n ∈ names, NormalName s n)
    (hsafe : names = [] → FallbackSpelled s)
    (hkeys : ∀ n ∈ names, ∀ n' ∈ names,
      P.gUtf8CollateKey n = P.gUtf8CollateKey n' → n = n') :
    Spelled s (wantedNames P names) := by
  unfold wantedNames
  split
  · rename_i hnil
    exact Spelled.singleton (hsafe hnil)
  · exact ⟨hnames, hkeys⟩

/-- A legal and safe event goes through and keeps the views equal. -/
theorem groupsStep_ok {e : ListEvent P a} (hs : InStep s) (hlegal : GroupsLegal s e)
    (hsafe : GroupsSafe s e) : ∃ s', (groupLists P a).step s e = .ok s' ∧ InStep s' := by
  cases e with
  | prplAddBuddy account name groupName =>
      obtain ⟨hname, rfl, hnew⟩ := hlegal
      exact ⟨_, rfl, inStep_prplAddBuddy hs hname hnew⟩
  | prplRemoveBuddy e =>
      exact ⟨_, rfl, inStep_purpleBlistRemoveBuddy hs hlegal.1.1 hlegal.1.2⟩
  | addToGroup groupName contacts => exact inStep_addToGroupAsync hs hlegal.1 hsafe
  | removeFromGroup groupName contacts =>
      exact ⟨_, rfl, inStep_removeFromGroupAsync hs hsafe⟩
  | setGroupMembers groupName contacts =>
      obtain ⟨r, hr, hinstep⟩ := inStep_setGroupMembersAsync hs hlegal.1 hsafe.1 hsafe.2
      refine ⟨r.1, ?_, hinstep⟩
      show (s.setGroupMembersAsync groupName contacts).map Prod.fst = _
      rw [hr]
      rfl
  | setContactGroups contact names =>
      exact ⟨_, rfl, inStep_setContactGroupsAsync hs
        (spelled_wantedNames hlegal.1 hsafe.1 hsafe.2)⟩
  | removeGroup groupName => exact ⟨_, rfl, inStep_removeGroupAsync hs hlegal.1 hsafe⟩
  | renameGroup oldName newName =>
      exact ⟨_, rfl, inStep_renameGroupAsync hs hlegal.1.1 hlegal.1.2⟩

/-- **The announced groups are the enumerated groups** after every event of every run in
which no group is announced, or announced as removed, before it is known to be so. -/
theorem groups_agree (s : HazeContactList P a) (hstatus : s.status ≠ .disconnected)
    (htidy : Tidy s.blist a) (es : List (ListEvent P a))
    (hes : (groupLists P a).Meets (fun s e => GroupsLegal s e ∧ GroupsSafe s e)
      s.setListReceived es) :
    ∃ s', (groupLists P a).run s.setListReceived es = .ok s' ∧ GroupsAgree s' := by
  have hreceived : InStep s.setListReceived :=
    ⟨groupsAgree_setListReceived s, htidy, hstatus⟩
  obtain ⟨s', hs', hinstep⟩ := Machine.run_ok_of_invariant (I := InStep)
    (fun s e hs hok => groupsStep_ok hs hok.1 hok.2) hreceived hes
  exact ⟨s', hs', hinstep.agree⟩

/-- Alice is put in a group and taken out of it again, which puts her in the fallback group;
then the group goes. -/
theorem groups_agree_alice :
    ∃ s', (groupLists Libpurple.plain 0).run (init BuddyList.empty).setListReceived
        [.addToGroup "Friends" [⟨"alice", rfl⟩], .removeFromGroup "Friends" [⟨"alice", rfl⟩],
          .renameGroup "Friends" "Pals", .removeGroup "Pals"] = .ok s' ∧ GroupsAgree s' :=
  groups_agree (init BuddyList.empty) (by decide) (by intro x hx; cases hx) _ (by decide)

/-- Setting the members of a new group to nobody announces the group, but the list never gets
it. -/
theorem groups_disagree_empty :
    ¬ ∀ es : List (ListEvent Libpurple.plain 0),
      (groupLists Libpurple.plain 0).Meets GroupsLegal
        (init BuddyList.empty).setListReceived es →
      ∃ s', (groupLists Libpurple.plain 0).run (init BuddyList.empty).setListReceived es
        = .ok s' ∧ GroupsAgree s' := by
  intro hall
  obtain ⟨s', hrun, hagree⟩ := hall [.setGroupMembers "Friends" []] (by decide)
  cases hrun
  have hgroups := hagree.groups
  revert hgroups
  decide

end HazeContactList

end Haze
