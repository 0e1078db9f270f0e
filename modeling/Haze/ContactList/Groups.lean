import Haze.ContactList.Buddies

set_option autoImplicit false

/-! # Editing one group

`remove_from_group` and `set_group_members` in terms of the roster: the code refines
`Roster.evict` and `Roster.assign`. When `prep_remove_from_group` fails the buddy list is as
it was; otherwise the fallback group has taken in everybody who is about to leave their last
group before the first buddy is removed, so nobody is lost on the way
(`groupEdits_keep_contacts`).
-/

namespace Haze

namespace HazeContactList

variable {P : Libpurple} {a : PurpleAccount} {s s' : HazeContactList P a}
variable {C : Set (PurpleAccount × String)} {group : PurpleGroup} {h : TpHandle P a}
variable {groupName : String} {contacts : TpHandleSet P a} {names : List String}

/-! ## `remove_many_from_group` -/

theorem removeOneFromGroup_eq (group : PurpleGroup) (s : HazeContactList P a)
    (h : TpHandle P a) : removeOneFromGroup group s h = s.removeBuddies
      ((s.blist.purpleFindBuddies a (some h.inspect)).filter (fun e => e.1 = group.ptr)) := by
  simp only [removeOneFromGroup, removeBuddies, List.foldl_filter, decide_eq_true_eq]

theorem root_removeOneFromGroup (group : PurpleGroup) (s : HazeContactList P a)
    (h : TpHandle P a) : (removeOneFromGroup group s h).blist.root = s.blist.root := by
  rw [removeOneFromGroup_eq, root_removeBuddies]

/-- The contact leaves the group, however many buddies it has there. -/
theorem memberships_removeOneFromGroup (hg : group ∈ s.blist.root) :
    (removeOneFromGroup group s h).blist.memberships =
      s.blist.memberships.leave (P.gUtf8CollateKey group.name) {h.contact} := by
  rw [removeOneFromGroup_eq]
  apply BuddyList.memberships_leave hg _ (root_removeBuddies _ _)
  intro x
  rw [mem_members_removeBuddies, List.mem_filter, BuddyList.mem_findBuddies,
    normalize_inspect, decide_eq_true_eq]
  have hptr : x.1 = group.ptr → x.1 ∈ s.blist.ptrs :=
    fun hx => hx ▸ BuddyList.mem_ptrs_of_mem hg
  simp only [TpHandle.contact]
  tauto

/-- A contact that is also in another group has a buddy there. -/
theorem exists_findBuddies_of_other (hg : group ∈ s.blist.root)
    (hother : ∃ k, k ≠ P.gUtf8CollateKey group.name ∧ (k, h.contact) ∈ s.blist.memberships) :
    ∃ e ∈ s.blist.purpleFindBuddies a (some h.inspect), e.1 ≠ group.ptr := by
  obtain ⟨k, hne, g, hgroup, hkey, hhas⟩ := hother
  obtain ⟨e, he, hptr⟩ := has_iff_exists_findBuddies.mp hhas
  refine ⟨e, he, fun heq => hne ?_⟩
  have hgg : g = group := BuddyList.eq_of_ptr hgroup hg (hptr.symm.trans heq)
  rw [← hgg]
  exact hkey.symm

theorem moves_removeOneFromGroup (hg : group ∈ s.blist.root)
    (hother : (P.gUtf8CollateKey group.name, h.contact) ∈ s.blist.memberships →
      ∃ k, k ≠ P.gUtf8CollateKey group.name ∧ (k, h.contact) ∈ s.blist.memberships) :
    Moves names s (removeOneFromGroup group s h) := by
  rw [removeOneFromGroup_eq]
  refine moves_removeBuddies ((BuddyList.nodup_findBuddies _ _ _).filter _)
    (fun e he => ?_) (fun e he => ?_)
  · exact BuddyList.mem_findBuddies_of_mem (List.mem_of_mem_filter he)
      (List.mem_of_mem_filter he)
  · obtain ⟨hfound, hptr⟩ := List.mem_filter.mp he
    rw [decide_eq_true_eq] at hptr
    have hhas : s.blist.Has group.ptr a h.id :=
      has_iff_exists_findBuddies.mpr ⟨e, hfound, hptr⟩
    obtain ⟨e', he', hne⟩ := exists_findBuddies_of_other hg
      (hother ((BuddyList.mem_memberships_of_mem hg).mpr hhas))
    -- the loop only removes what is in this group
    refine ⟨e', BuddyList.mem_findBuddies_of_mem hfound he', fun hin => hne ?_⟩
    exact of_decide_eq_true (List.mem_filter.mp hin).2

theorem memberships_foldl_removeOne (contacts : TpHandleSet P a)
    (hg : group ∈ s.blist.root) :
    (contacts.foldl (removeOneFromGroup group) s).blist.memberships =
      s.blist.memberships.leave (P.gUtf8CollateKey group.name) (contactSet contacts) := by
  induction contacts generalizing s with
  | nil => simp
  | cons h contacts ih =>
      have hroot := root_removeOneFromGroup group s h
      rw [List.foldl_cons, ih (hroot ▸ hg), memberships_removeOneFromGroup hg,
        Roster.leave_insert, contactSet_cons]

/-- The contacts leave the group. -/
theorem memberships_removeManyFromGroup (s : HazeContactList P a) (groupName : String)
    (contacts : TpHandleSet P a) :
    (s.removeManyFromGroup groupName contacts).blist.memberships =
      s.blist.memberships.leave (P.gUtf8CollateKey groupName) (contactSet contacts) := by
  unfold removeManyFromGroup
  cases hfind : s.blist.purpleFindGroup groupName with
  | none =>
      exact (Roster.leave_of_not_mem
        (fun c _ => BuddyList.not_mem_memberships_of_find_eq_none hfind c)).symm
  | some group =>
      show (contacts.foldl (removeOneFromGroup group) s).blist.memberships = _
      rw [memberships_foldl_removeOne contacts (BuddyList.mem_root_of_find hfind),
        BuddyList.key_of_find hfind]

/-- Every contact of the set that is in the group is also in another one. -/
def HaveOther (bl : BuddyList P) (key : String) (contacts : TpHandleSet P a) : Prop :=
  ∀ h ∈ contacts, (key, h.contact) ∈ bl.memberships →
    ∃ k, k ≠ key ∧ (k, h.contact) ∈ bl.memberships

/-- The loop invariant: the other groups are not touched, so those who have not left yet
still have their other groups. -/
theorem moves_foldl_removeOne (hg : group ∈ s.blist.root)
    (hother : HaveOther s.blist (P.gUtf8CollateKey group.name) contacts) :
    Moves names s (contacts.foldl (removeOneFromGroup group) s) := by
  induction contacts generalizing s with
  | nil => exact Relation.ReflTransGen.refl
  | cons h contacts ih =>
      have hroot := root_removeOneFromGroup group s h
      have hfirst : Moves names s (removeOneFromGroup group s h) :=
        moves_removeOneFromGroup hg (hother h List.mem_cons_self)
      refine hfirst.trans (ih (hroot ▸ hg) ?_)
      intro h' hmem hin
      rw [memberships_removeOneFromGroup hg] at hin ⊢
      -- `h` has left this group only, so `h'` keeps its other one
      obtain ⟨k, hne, hk⟩ := hother h' (List.mem_cons_of_mem h hmem) hin.1
      exact ⟨k, hne, hk, fun hout => hne hout.1⟩

theorem moves_removeManyFromGroup
    (hother : HaveOther s.blist (P.gUtf8CollateKey groupName) contacts) :
    Moves names s (s.removeManyFromGroup groupName contacts) := by
  unfold removeManyFromGroup
  cases hfind : s.blist.purpleFindGroup groupName with
  | none => exact Relation.ReflTransGen.refl
  | some group =>
      rw [← BuddyList.key_of_find hfind] at hother
      exact moves_foldl_removeOne (BuddyList.mem_root_of_find hfind) hother

/-! ## `prep_remove_from_group` -/

/-- The first loop of `prep_remove_from_group`, over the contacts its condition picks. -/
theorem orphans_eq (bl : BuddyList P) (group : PurpleGroup) (contacts : TpHandleSet P a) :
    orphans bl group contacts = (contacts.filter (fun h =>
      (bl.purpleFindBuddies a (some h.inspect)).any (fun l => l.1 = group.ptr) &&
      (bl.purpleFindBuddies a (some h.inspect)).all (fun l => l.1 = group.ptr))).foldl
        (fun hs h => tpHandleSetAdd hs h) [] := by
  simp only [orphans, List.foldl_filter]

theorem nodup_orphans (bl : BuddyList P) (group : PurpleGroup)
    (contacts : TpHandleSet P a) : (orphans bl group contacts).Nodup := by
  rw [orphans_eq]
  exact nodup_foldl_tpHandleSetAdd (fun h => h) _ List.nodup_nil

/-- The orphans are in the group and in no other. -/
theorem mem_orphans {bl : BuddyList P} : h ∈ orphans bl group contacts ↔ h ∈ contacts ∧
    bl.Has group.ptr a h.id ∧ ∀ p, bl.Has p a h.id → p = group.ptr := by
  rw [orphans_eq, mem_foldl_tpHandleSetAdd (fun h => h)]
  simp only [List.not_mem_nil, false_or, exists_eq_right, List.mem_filter, Bool.and_eq_true,
    List.any_eq_true, List.all_eq_true, decide_eq_true_eq, has_iff_exists_findBuddies]
  refine and_congr_right (fun _ => and_congr_right (fun _ => ?_))
  constructor
  · rintro hall p ⟨e, he, rfl⟩
    exact hall e he
  · exact fun hall e he => hall e.1 ⟨e, he, rfl⟩

theorem contactSet_orphans (hg : group ∈ s.blist.root) (contacts : TpHandleSet P a) :
    contactSet (orphans s.blist group contacts) =
      s.blist.memberships.orphans (P.gUtf8CollateKey group.name) (contactSet contacts) := by
  ext c
  rw [Roster.mem_orphans]
  constructor
  · rintro ⟨h, hh, rfl⟩
    obtain ⟨hmem, hhas, hlast⟩ := mem_orphans.mp hh
    refine ⟨⟨h, hmem, rfl⟩, (BuddyList.mem_memberships_of_mem hg).mpr hhas, ?_⟩
    rintro k ⟨g', hg', rfl, hhas'⟩
    rw [BuddyList.eq_of_ptr hg' hg (hlast _ hhas')]
  · rintro ⟨⟨h, hmem, rfl⟩, hin, hlast⟩
    refine ⟨h, mem_orphans.mpr ⟨hmem, (BuddyList.mem_memberships_of_mem hg).mp hin, ?_⟩, rfl⟩
    intro p hhas
    obtain ⟨g', hg', rfl⟩ := List.mem_map.mp hhas.1
    rw [BuddyList.eq_of_key hg' hg (hlast _ ((BuddyList.mem_memberships_of_mem hg').mpr hhas))]

/-- The contacts that may leave the group only for the fallback group. -/
def strays (s : HazeContactList P a) (groupName : String) (contacts : TpHandleSet P a) :
    TpHandleSet P a :=
  match s.blist.purpleFindGroup groupName with
  | none => []
  | some group => orphans s.blist group contacts

theorem contactSet_strays (s : HazeContactList P a) (groupName : String)
    (contacts : TpHandleSet P a) : contactSet (s.strays groupName contacts) =
      s.blist.memberships.orphans (P.gUtf8CollateKey groupName) (contactSet contacts) := by
  unfold strays
  cases hfind : s.blist.purpleFindGroup groupName with
  | none =>
      refine contactSet_nil.trans (Set.eq_empty_of_forall_notMem ?_).symm
      rintro c ⟨-, hin, -⟩
      exact BuddyList.not_mem_memberships_of_find_eq_none hfind c hin
  | some group =>
      rw [← BuddyList.key_of_find hfind]
      exact contactSet_orphans (BuddyList.mem_root_of_find hfind) contacts

/-- What `prep_remove_from_group` announces: the fallback group, if it is needed. -/
def fallbackNames (s : HazeContactList P a) (groupName : String)
    (contacts : TpHandleSet P a) : List String :=
  if s.strays groupName contacts = [] then [] else [P.buddies]

theorem fallbackNames_subset (s : HazeContactList P a) (groupName : String)
    (contacts : TpHandleSet P a) : s.fallbackNames groupName contacts ⊆ [P.buddies] := by
  unfold fallbackNames
  split
  · exact List.nil_subset _
  · exact List.Subset.refl _

/-- What a successful `prep_remove_from_group` establishes. -/
structure Prepared (s : HazeContactList P a) (groupName : String)
    (contacts : TpHandleSet P a) (s' : HazeContactList P a) : Prop where
  memberships : s'.blist.memberships = s.blist.memberships.join
    (P.gUtf8CollateKey P.buddies)
    (s.blist.memberships.orphans (P.gUtf8CollateKey groupName) (contactSet contacts))
  evictable : s.blist.memberships.Evictable (P.gUtf8CollateKey groupName)
    (P.gUtf8CollateKey P.buddies) (contactSet contacts)
  moves : Moves (s.fallbackNames groupName contacts) s s'

theorem Prepared.of_no_strays (hnil : s.strays groupName contacts = []) :
    Prepared s groupName contacts s := by
  have horphans := contactSet_strays s groupName contacts
  rw [hnil, contactSet_nil] at horphans
  refine ⟨?_, Or.inl horphans.symm, Relation.ReflTransGen.refl⟩
  rw [← horphans, Roster.join_empty]

/-- What a failing `prep_remove_from_group` leaves behind: the group is the fallback group,
and this has only been announced. -/
structure Refused (s : HazeContactList P a) (groupName : String)
    (contacts : TpHandleSet P a) (s' : HazeContactList P a) : Prop where
  blist : s'.blist = s.blist
  strays : s.strays groupName contacts ≠ []
  group : ∃ group, s.blist.purpleFindGroup groupName = some group ∧
    s.blist.purpleFindGroup P.buddies = some group
  moves : Moves (s.fallbackNames groupName contacts) s s'

/-- The state after the fallback group is made. -/
def withFallback (s : HazeContactList P a) : HazeContactList P a :=
  { s with blist := (s.blist.purpleGroupNew P.buddies).1 }.groupsCreated [P.buddies]

theorem move_withFallback (s : HazeContactList P a) : Move [P.buddies] s s.withFallback :=
  Move.announce s _ _ List.mem_cons_self (BuddyList.root_groupNew _ _)
    (BuddyList.members_groupNew _ _)

/-- A group that `purple_group_new` returns is in the list, or has a name that was announced. -/
theorem groupNew_named {s : HazeContactList P a} (hname : P.IsGroupName groupName) :
    (s.blist.purpleGroupNew groupName).2 ∈ (s.blist.purpleGroupNew groupName).1.root ∨
      (s.blist.purpleGroupNew groupName).2.name ∈ [groupName] := by
  rw [BuddyList.root_groupNew, List.mem_singleton]
  exact BuddyList.groupNew_mem_or_name s.blist hname

theorem memberships_withFallback (s : HazeContactList P a) :
    s.withFallback.blist.memberships = s.blist.memberships :=
  BuddyList.memberships_groupNew s.blist P.buddies

/-- The ways through `prep_remove_from_group`. -/
theorem prepRemoveFromGroup_cases (s : HazeContactList P a) (groupName : String)
    (contacts : TpHandleSet P a) :
    (s.prepRemoveFromGroup groupName contacts = (s, none) ∧
      s.strays groupName contacts = []) ∨
    ∃ group, s.blist.purpleFindGroup groupName = some group ∧
      s.strays groupName contacts ≠ [] ∧
      (((s.blist.purpleGroupNew P.buddies).2.ptr = group.ptr ∧
        s.prepRemoveFromGroup groupName contacts
          = (s.withFallback, some (lastGroupError group))) ∨
      ((s.blist.purpleGroupNew P.buddies).2.ptr ≠ group.ptr ∧
        s.prepRemoveFromGroup groupName contacts
          = ((s.strays groupName contacts).foldl
              (fun s' h => s'.addNewBuddy h (s.blist.purpleGroupNew P.buddies).2)
              s.withFallback, none))) := by
  cases hfind : s.blist.purpleFindGroup groupName with
  | none =>
      exact Or.inl ⟨by simp only [prepRemoveFromGroup, hfind], by simp only [strays, hfind]⟩
  | some group =>
      have hstrays : s.strays groupName contacts = orphans s.blist group contacts := by
        simp only [strays, hfind]
      rw [hstrays]
      by_cases hnil : orphans s.blist group contacts = []
      · exact Or.inl ⟨by simp only [prepRemoveFromGroup, hfind, if_pos hnil], hnil⟩
      · refine Or.inr ⟨group, rfl, hnil, ?_⟩
        by_cases hptr : (s.blist.purpleGroupNew P.buddies).2.ptr = group.ptr
        · refine Or.inl ⟨hptr, ?_⟩
          simp only [prepRemoveFromGroup, hfind, if_neg hnil, hazeGetFallbackGroup]
          exact if_pos hptr
        · refine Or.inr ⟨hptr, ?_⟩
          simp only [prepRemoveFromGroup, hfind, if_neg hnil, hazeGetFallbackGroup]
          exact if_neg hptr

theorem prepRemoveFromGroup_ok
    (hprep : s.prepRemoveFromGroup groupName contacts = (s', none)) :
    Prepared s groupName contacts s' := by
  rcases prepRemoveFromGroup_cases s groupName contacts with
    ⟨hs, hnil⟩ | ⟨group, hfind, hne, ⟨-, hs⟩ | ⟨hptr, hs⟩⟩
  · rw [hs] at hprep
    cases hprep
    exact Prepared.of_no_strays hnil
  · rw [hs] at hprep
    cases hprep
  · rw [hs] at hprep
    cases hprep
    have hu : s.withFallback.blist.Usable (s.blist.purpleGroupNew P.buddies).2 :=
      BuddyList.usable_groupNew s.blist P.isGroupName_buddies
    have hM := memberships_withFallback s
    refine ⟨?_, Or.inr (fun hkey => hptr ?_), ?_⟩
    · rw [memberships_addNewBuddies _ hu, hM, contactSet_strays,
        BuddyList.groupNew_key _ P.isGroupName_buddies]
    · -- the same key: the fallback group would be the group itself
      have hfb : s.blist.purpleFindGroup P.buddies = some group := by
        rw [← hfind, BuddyList.purpleFindGroup, BuddyList.purpleFindGroup, hkey]
      rw [BuddyList.groupNew_of_find hfb]
    · rw [fallbackNames, if_neg hne]
      refine Relation.ReflTransGen.head (move_withFallback s) (moves_addNewBuddies ?_ hu
        (groupNew_named P.isGroupName_buddies) (fun h hh hhas => hptr ?_))
      · simp only [strays, hfind, nodup_orphans]
      · simp only [strays, hfind] at hh
        rw [withFallback, groupsCreated, call, BuddyList.has_groupNew] at hhas
        exact (mem_orphans.mp hh).2.2 _ hhas

theorem prepRemoveFromGroup_error {e : GError}
    (hprep : s.prepRemoveFromGroup groupName contacts = (s', some e)) :
    Refused s groupName contacts s' := by
  rcases prepRemoveFromGroup_cases s groupName contacts with
    ⟨hs, -⟩ | ⟨group, hfind, hne, ⟨hptr, hs⟩ | ⟨-, hs⟩⟩
  · rw [hs] at hprep
    cases hprep
  · rw [hs] at hprep
    cases hprep
    -- the fallback group has the address of the group, so it is the group
    have hmem := BuddyList.mem_root_of_find hfind
    have hfb : s.blist.purpleFindGroup P.buddies = some (s.blist.purpleGroupNew P.buddies).2 :=
      BuddyList.find_of_groupNew_ptr (by rw [hptr]; exact List.mem_map_of_mem hmem)
    have hgg := BuddyList.eq_of_ptr (BuddyList.mem_root_of_find hfb) hmem hptr
    refine ⟨?_, hne, ⟨group, hfind, hfb.trans (congrArg some hgg)⟩, ?_⟩
    · show (s.blist.purpleGroupNew P.buddies).1 = s.blist
      rw [BuddyList.groupNew_of_find hfb]
    · rw [fallbackNames, if_neg hne]
      exact Relation.ReflTransGen.single (move_withFallback s)
  · rw [hs] at hprep
    cases hprep

/-! ## `add_to_group` -/

/-- The contact is in the group when its buddy is found in it. -/
theorem findBuddyInGroup_isSome_iff (hu : s.blist.Usable group) :
    (s.blist.purpleFindBuddyInGroup a h.inspect group).isSome ↔
      s.blist.Has group.ptr a h.id := by
  rw [BuddyList.findBuddyInGroup_isSome, normalize_inspect]
  constructor
  · rintro ⟨b, hb, hacc, hname⟩
    refine ⟨?_, b, hb, hacc, hname⟩
    rcases hu with hg | ⟨-, -, hfresh⟩
    · exact BuddyList.mem_ptrs_of_mem hg
    · exact absurd rfl (hfresh _ hb)
  · exact fun hhas => hhas.2

/-- The state in which `add_to_group` looks for the contact. -/
def withGroup (s : HazeContactList P a) (groupName : String) : HazeContactList P a :=
  { s with blist := (s.blist.purpleGroupNew groupName).1 }.groupsCreated [groupName]

theorem move_withGroup (s : HazeContactList P a) (groupName : String) :
    Move [groupName] s (s.withGroup groupName) :=
  Move.announce s _ _ List.mem_cons_self (BuddyList.root_groupNew _ _)
    (BuddyList.members_groupNew _ _)

theorem strays_withGroup (s : HazeContactList P a) (name groupName : String)
    (contacts : TpHandleSet P a) :
    (s.withGroup name).strays groupName contacts = s.strays groupName contacts := by
  simp only [strays, withGroup, groupsCreated, call, BuddyList.find_groupNew, orphans,
    BuddyList.findBuddies_groupNew]

theorem memberships_withGroup (s : HazeContactList P a) (groupName : String) :
    (s.withGroup groupName).blist.memberships = s.blist.memberships :=
  BuddyList.memberships_groupNew s.blist groupName

/-- The ways through `add_to_group`: the contact is in the group, or a buddy is added. -/
theorem addToGroup_cases (hname : P.IsGroupName groupName) (s : HazeContactList P a)
    (h : TpHandle P a) :
    let group := (s.blist.purpleGroupNew groupName).2
    (s.blist.Has group.ptr a h.id ∧ s.addToGroup groupName h = s.withGroup groupName) ∨
      (¬ s.blist.Has group.ptr a h.id ∧
        s.addToGroup groupName h = (s.withGroup groupName).addNewBuddy h group) := by
  intro group
  have hu : (s.withGroup groupName).blist.Usable group :=
    BuddyList.usable_groupNew s.blist hname
  have hfound : ((s.withGroup groupName).blist.purpleFindBuddyInGroup a h.inspect
      group).isSome ↔ s.blist.Has group.ptr a h.id :=
    (findBuddyInGroup_isSome_iff hu).trans (BuddyList.has_groupNew _ _ _ _ _)
  by_cases hhas : s.blist.Has group.ptr a h.id
  · refine Or.inl ⟨hhas, ?_⟩
    simp only [addToGroup, if_neg hname.1]
    exact if_pos (hfound.mpr hhas)
  · refine Or.inr ⟨hhas, ?_⟩
    simp only [addToGroup, if_neg hname.1]
    exact if_neg (fun hc => hhas (hfound.mp hc))

/-- The contact joins the group, unless it is in it. -/
theorem memberships_addToGroup (hname : P.IsGroupName groupName)
    (s : HazeContactList P a) (h : TpHandle P a) :
    (s.addToGroup groupName h).blist.memberships =
      s.blist.memberships.join (P.gUtf8CollateKey groupName) {h.contact} := by
  have hM := memberships_withGroup s groupName
  rcases addToGroup_cases hname s h with ⟨hhas, hs⟩ | ⟨-, hs⟩
  · rw [hs, hM, Roster.join_of_mem]
    rintro c hc
    rw [Set.mem_singleton_iff.mp hc]
    have hfind := BuddyList.find_of_groupNew_ptr hhas.1
    exact (BuddyList.mem_memberships_of_find hfind).mpr hhas
  · rw [hs, memberships_addNewBuddy (BuddyList.usable_groupNew s.blist hname), hM,
      BuddyList.groupNew_key _ hname]

theorem moves_addToGroup (hname : P.IsGroupName groupName) (s : HazeContactList P a)
    (h : TpHandle P a) : Moves [groupName] s (s.addToGroup groupName h) := by
  have hfirst := move_withGroup s groupName
  rcases addToGroup_cases hname s h with ⟨-, hs⟩ | ⟨hhas, hs⟩
  · rw [hs]
    exact Relation.ReflTransGen.single hfirst
  · rw [hs]
    refine (Relation.ReflTransGen.single hfirst).tail
      (Move.add _ h _ (BuddyList.usable_groupNew s.blist hname) (groupNew_named hname) ?_)
    rwa [withGroup, groupsCreated, call, BuddyList.has_groupNew]

theorem foldl_addToGroup (hname : P.IsGroupName groupName) (s : HazeContactList P a)
    (contacts : TpHandleSet P a) :
    (contacts.foldl (fun s h => s.addToGroup groupName h) s).blist.memberships =
        s.blist.memberships.join (P.gUtf8CollateKey groupName) (contactSet contacts) ∧
      Moves [groupName] s (contacts.foldl (fun s h => s.addToGroup groupName h) s) := by
  induction contacts generalizing s with
  | nil => exact ⟨by simp, Relation.ReflTransGen.refl⟩
  | cons h contacts ih =>
      obtain ⟨hM, hmoves⟩ := ih (s.addToGroup groupName h)
      rw [List.foldl_cons, hM, memberships_addToGroup hname, Roster.join_insert,
        contactSet_cons]
      exact ⟨rfl, (moves_addToGroup hname s h).trans hmoves⟩

theorem addToGroupAsync_ok (hname : P.IsGroupName groupName) (s : HazeContactList P a)
    (contacts : TpHandleSet P a) :
    ∃ s', s.addToGroupAsync groupName contacts = .ok s' ∧
      s'.blist.memberships =
        s.blist.memberships.join (P.gUtf8CollateKey groupName) (contactSet contacts) ∧
      Moves [groupName] s s' := by
  obtain ⟨hM, hmoves⟩ := foldl_addToGroup hname (s.withGroup groupName) contacts
  rw [memberships_withGroup] at hM
  refine ⟨_, ?_, hM, Relation.ReflTransGen.head (move_withGroup s groupName) hmoves⟩
  simp only [addToGroupAsync, if_neg hname.1]
  rfl

/-! ## The edits -/

/-- How an edit of the group `groupName` in which `leavers` leave it may end, with the error
it reports. -/
structure EditsGroup (s : HazeContactList P a) (groupName : String)
    (leavers : Set (PurpleAccount × String))
    (r : HazeContactList P a × Option GError) : Prop where
  /-- it fails just when the group is the fallback group and a leaver is in no other -/
  refused : r.2.isSome ↔ P.gUtf8CollateKey groupName = P.gUtf8CollateKey P.buddies ∧
    (s.blist.memberships.orphans (P.gUtf8CollateKey groupName) leavers).Nonempty
  /-- on failure the buddy list is as before -/
  failed : r.2.isSome → r.1.blist = s.blist
  /-- at no step is a contact without a buddy, or reported as removed -/
  keeps : Keeps s.blist.memberships.contacts s r.1
  kept : s.blist.memberships.contacts ⊆ r.1.blist.memberships.contacts
  /-- on success the other groups are as before, but for the fallback group, which takes in
  the leavers that were in no other group -/
  others : r.2 = none → ∀ k, k ≠ P.gUtf8CollateKey groupName → ∀ c,
    (k, c) ∈ r.1.blist.memberships ↔ (k, c) ∈ s.blist.memberships ∨
      (k = P.gUtf8CollateKey P.buddies ∧
        c ∈ s.blist.memberships.orphans (P.gUtf8CollateKey groupName) leavers)

/-- An edit fails without an effect on the list. -/
theorem EditsGroup.of_error {e : GError} {leavers : Set (PurpleAccount × String)}
    (hrefused : ¬ s.blist.memberships.Evictable (P.gUtf8CollateKey groupName)
      (P.gUtf8CollateKey P.buddies) leavers)
    (hblist : s'.blist = s.blist) (hmoves : Moves names s s') :
    EditsGroup s groupName leavers (s', some e) where
  refused := iff_of_true rfl
    ((Roster.not_evictable_iff.mp hrefused).imp_left Eq.symm)
  failed := fun _ => hblist
  keeps := hmoves.keeps.1
  kept := hmoves.keeps.2
  others := by simp

/-- An edit goes through when nobody would be left without a group. -/
theorem refused_iff_of_evictable {leavers : Set (PurpleAccount × String)}
    (hevict : s.blist.memberships.Evictable (P.gUtf8CollateKey groupName)
      (P.gUtf8CollateKey P.buddies) leavers) :
    (none : Option GError).isSome ↔
      P.gUtf8CollateKey groupName = P.gUtf8CollateKey P.buddies ∧
        (s.blist.memberships.orphans (P.gUtf8CollateKey groupName) leavers).Nonempty := by
  refine iff_of_false (by simp) (fun ⟨hkey, hstray⟩ => ?_)
  exact Roster.not_evictable_iff.mpr ⟨hkey.symm, hstray⟩ hevict

/-- `prep_remove_from_group` is refused when somebody would be left without a group. -/
theorem Refused.not_evictable (h : Refused s groupName contacts s') :
    ¬ s.blist.memberships.Evictable (P.gUtf8CollateKey groupName)
      (P.gUtf8CollateKey P.buddies) (contactSet contacts) := by
  obtain ⟨group, hfind, hfb⟩ := h.group
  refine Roster.not_evictable_iff.mpr
    ⟨(BuddyList.key_of_find hfb).symm.trans (BuddyList.key_of_find hfind), ?_⟩
  rw [← contactSet_strays]
  obtain ⟨h', hh'⟩ := List.exists_mem_of_ne_nil _ h.strays
  exact ⟨h'.contact, contact_mem_contactSet.mpr hh'⟩

/-- `remove_from_group` refines `Roster.evict`. -/
theorem removeFromGroupAsync_ok
    (hok : s.removeFromGroupAsync groupName contacts = (s', none)) :
    s.blist.memberships.Evictable (P.gUtf8CollateKey groupName)
        (P.gUtf8CollateKey P.buddies) (contactSet contacts) ∧
      s'.blist.memberships = s.blist.memberships.evict (P.gUtf8CollateKey groupName)
        (P.gUtf8CollateKey P.buddies) (contactSet contacts) ∧
      Moves (s.fallbackNames groupName contacts) s s' := by
  simp only [removeFromGroupAsync] at hok
  rcases hprep : s.prepRemoveFromGroup groupName contacts with ⟨s₁, _ | e⟩
  · rw [hprep] at hok
    cases hok
    have hp := prepRemoveFromGroup_ok hprep
    refine ⟨hp.evictable, ?_, ?_⟩
    · rw [memberships_removeManyFromGroup, hp.memberships]
      rfl
    · refine hp.moves.trans (moves_removeManyFromGroup ?_)
      intro h hmem hin
      rw [hp.memberships] at hin ⊢
      exact hp.evictable.exists_other (contact_mem_contactSet.mpr hmem) hin
  · rw [hprep] at hok
    cases hok

theorem removeFromGroupAsync_error {e : GError}
    (herr : s.removeFromGroupAsync groupName contacts = (s', some e)) :
    Refused s groupName contacts s' := by
  simp only [removeFromGroupAsync] at herr
  rcases hprep : s.prepRemoveFromGroup groupName contacts with ⟨s₁, _ | e⟩
  · rw [hprep] at herr
    cases herr
  · rw [hprep] at herr
    cases herr
    exact prepRemoveFromGroup_error hprep

/-- A name under which a buddy of the account is found is a handle's. -/
theorem exists_handle_of_has {bl : BuddyList P} {p : Nat} {n : String}
    (hhas : bl.Has p a n) : ∃ h : TpHandle P a, h.contact = (a, n) := by
  obtain ⟨-, b, -, -, rfl⟩ := hhas
  exact ⟨tpHandleEnsure P a b.name, rfl⟩

/-- The contacts that `set_group_members` takes out of the group. -/
def outcasts (s : HazeContactList P a) (groupName : String) (contacts : TpHandleSet P a) :
    TpHandleSet P a :=
  tpHandleSetDifferenceUpdate (s.dupGroupMembers groupName) contacts

/-- Among the members of the group, the outcasts are this account's contacts that are not in
the new set. -/
theorem mem_contactSet_outcasts {c : PurpleAccount × String}
    (hc : (P.gUtf8CollateKey groupName, c) ∈ s.blist.memberships) :
    c ∈ contactSet (s.outcasts groupName contacts) ↔
      c.1 = a ∧ c ∉ contactSet contacts := by
  constructor
  · rintro ⟨h, hh, rfl⟩
    rw [outcasts, mem_tpHandleSetDifferenceUpdate] at hh
    exact ⟨rfl, fun hin => hh.2 (contact_mem_contactSet.mp hin)⟩
  · rintro ⟨hacc, hnot⟩
    cases hfind : s.blist.purpleFindGroup groupName with
    | none => exact absurd hc (BuddyList.not_mem_memberships_of_find_eq_none hfind c)
    | some group =>
        -- the contact has a buddy in the group, which `dup_group_members` lists
        have hhas := (BuddyList.mem_memberships_of_find hfind).mp hc
        rw [hacc] at hhas
        obtain ⟨h, hh⟩ := exists_handle_of_has hhas
        have hcontact : h.contact = c := hh.trans (by rw [← hacc])
        have hid : h.id = c.2 := congrArg Prod.snd hcontact
        refine ⟨h, mem_tpHandleSetDifferenceUpdate.mpr
          ⟨mem_dupGroupMembers_of_has hfind (hid ▸ hhas), fun hin => hnot ?_⟩, hcontact⟩
        rw [← hcontact]
        exact contact_mem_contactSet.mpr hin

theorem not_mem_outcasts (s : HazeContactList P a) (groupName : String)
    (contacts : TpHandleSet P a) :
    ∀ c ∈ contactSet contacts, c ∉ contactSet (s.outcasts groupName contacts) := by
  rintro c ⟨h, hh, rfl⟩ hout
  exact (mem_tpHandleSetDifferenceUpdate.mp (contact_mem_contactSet.mp hout)).2 hh

/-- `set_group_members` fails as `prep_remove_from_group` does, or refines
`Roster.assign`. -/
theorem setGroupMembersAsync_cases (hname : P.IsGroupName groupName)
    (s : HazeContactList P a) (contacts : TpHandleSet P a) :
    let outcasts := s.outcasts groupName contacts
    let names := groupName :: s.fallbackNames groupName outcasts
    (∃ s' e, s.setGroupMembersAsync groupName contacts = .ok (s', some e) ∧
      ¬ s.blist.memberships.Evictable (P.gUtf8CollateKey groupName)
        (P.gUtf8CollateKey P.buddies) (contactSet outcasts) ∧
      s'.blist = s.blist ∧ (∃ group, s.blist.purpleFindGroup groupName = some group ∧
        s.blist.purpleFindGroup P.buddies = some group) ∧ Moves names s s') ∨
    (∃ s', s.setGroupMembersAsync groupName contacts = .ok (s', none) ∧
      s.blist.memberships.Evictable (P.gUtf8CollateKey groupName)
        (P.gUtf8CollateKey P.buddies) (contactSet outcasts) ∧
      s'.blist.memberships = s.blist.memberships.assign (P.gUtf8CollateKey groupName)
        (P.gUtf8CollateKey P.buddies) (contactSet contacts) (contactSet outcasts) ∧
      Moves names s s') := by
  intro outcasts names
  have hM := memberships_withGroup s groupName
  have hgroup : Moves names s (s.withGroup groupName) :=
    Relation.ReflTransGen.single ((move_withGroup s groupName).mono (by simp [names]))
  have hfallback : (s.withGroup groupName).fallbackNames groupName outcasts ⊆ names := by
    rw [fallbackNames, strays_withGroup]
    exact List.subset_cons_self _ _
  have hdisj := not_mem_outcasts s groupName contacts
  rcases hprep : (s.withGroup groupName).prepRemoveFromGroup groupName outcasts
    with ⟨s₂, _ | e⟩
  · obtain ⟨s₃, hadd, hM₃, hmoves₃⟩ := addToGroupAsync_ok hname s₂ contacts
    have hp := prepRemoveFromGroup_ok hprep
    have hevict := hp.evictable
    have hM₂ := hp.memberships
    rw [hM] at hevict hM₂
    rw [hM₂] at hM₃
    refine Or.inr ⟨s₃.removeManyFromGroup groupName outcasts, ?_, hevict, ?_, ?_⟩
    · simp only [setGroupMembersAsync, if_neg hname.1]
      simp only [withGroup, outcasts, HazeContactList.outcasts] at hprep
      simp only [hprep, hadd]
      rfl
    · rw [memberships_removeManyFromGroup, hM₃]
      rfl
    · refine ((hgroup.trans (hp.moves.mono hfallback)).trans
        (hmoves₃.mono (by simp [names]))).trans (moves_removeManyFromGroup ?_)
      -- who goes is not among those added, and has another group by now
      intro h hmem hin
      rw [hM₃] at hin ⊢
      exact hevict.exists_other_assign hdisj (contact_mem_contactSet.mpr hmem) hin
  · have hrefused := (prepRemoveFromGroup_error hprep).not_evictable
    rw [hM] at hrefused
    obtain ⟨hblist, -, ⟨group, hfind, hfb⟩, hmoves⟩ := prepRemoveFromGroup_error hprep
    simp only [withGroup, groupsCreated, call, BuddyList.find_groupNew] at hfind hfb
    refine Or.inl ⟨s₂, e, ?_, hrefused, ?_, ⟨group, hfind, hfb⟩,
      hgroup.trans (hmoves.mono hfallback)⟩
    · simp only [setGroupMembersAsync, if_neg hname.1]
      simp only [withGroup, outcasts, HazeContactList.outcasts] at hprep
      simp only [hprep]
    · -- the group was found, so `purple_group_new` changed nothing
      rw [hblist]
      show (s.blist.purpleGroupNew groupName).1 = s.blist
      rw [BuddyList.groupNew_of_find hfind]

/-- This account's contacts in the group that are not to stay in it. -/
def outcastsOf (s : HazeContactList P a) (groupName : String) (contacts : TpHandleSet P a) :
    Set (PurpleAccount × String) :=
  {c | c ∈ s.blist.memberships.members (P.gUtf8CollateKey groupName) ∧ c.1 = a ∧
    c ∉ contactSet contacts}

/-- The outcasts are cast out of the group that they are in. -/
theorem orphans_outcasts (s : HazeContactList P a) (groupName : String)
    (contacts : TpHandleSet P a) :
    s.blist.memberships.orphans (P.gUtf8CollateKey groupName)
        (contactSet (s.outcasts groupName contacts)) =
      s.blist.memberships.orphans (P.gUtf8CollateKey groupName)
        (s.outcastsOf groupName contacts) := by
  apply Roster.orphans_congr
  intro c hc
  rw [mem_contactSet_outcasts hc]
  exact ⟨fun h => ⟨hc, h⟩, And.right⟩

/-- `remove_from_group` leaves the contacts that were to go nowhere in the group. -/
theorem removeFromGroupAsync_edits (s : HazeContactList P a) (groupName : String)
    (contacts : TpHandleSet P a) :
    EditsGroup s groupName (contactSet contacts) (s.removeFromGroupAsync groupName contacts) ∧
      ((s.removeFromGroupAsync groupName contacts).2 = none →
        (s.removeFromGroupAsync groupName contacts).1.blist.memberships.members
            (P.gUtf8CollateKey groupName) =
          s.blist.memberships.members (P.gUtf8CollateKey groupName) \ contactSet contacts) := by
  rcases hr : s.removeFromGroupAsync groupName contacts with ⟨s', _ | e⟩
  · obtain ⟨hevict, hM, hmoves⟩ := removeFromGroupAsync_ok hr
    refine ⟨⟨refused_iff_of_evictable hevict, by simp, hmoves.keeps.1, ?_, ?_⟩, fun _ => ?_⟩
    · show s.blist.memberships.contacts ⊆ s'.blist.memberships.contacts
      rw [hM]
      exact hevict.contacts_subset_evict
    · intro _ k hk c
      show (k, c) ∈ s'.blist.memberships ↔ _
      rw [hM, Roster.mem_evict_of_ne hk]
    · ext c
      show (_, c) ∈ s'.blist.memberships ↔ _
      rw [hM, hevict.mem_evict_self]
      rfl
  · have hrefused := removeFromGroupAsync_error hr
    exact ⟨EditsGroup.of_error hrefused.not_evictable hrefused.blist hrefused.moves, by simp⟩

/-- The members after `set_group_members`: this account's are those that were asked for. -/
theorem mem_assign_outcasts {s : HazeContactList P a} {groupName : String}
    {contacts : TpHandleSet P a}
    (hevict : s.blist.memberships.Evictable (P.gUtf8CollateKey groupName)
      (P.gUtf8CollateKey P.buddies) (contactSet (s.outcasts groupName contacts)))
    (c : PurpleAccount × String) :
    (P.gUtf8CollateKey groupName, c) ∈ s.blist.memberships.assign (P.gUtf8CollateKey groupName)
        (P.gUtf8CollateKey P.buddies) (contactSet contacts)
        (contactSet (s.outcasts groupName contacts)) ↔
      if c.1 = a then c ∈ contactSet contacts
      else c ∈ s.blist.memberships.members (P.gUtf8CollateKey groupName) := by
  rw [hevict.mem_assign_self (not_mem_outcasts s groupName contacts)]
  split
  · rename_i hacc
    refine ⟨fun h => h.elim id (fun h => ?_), Or.inl⟩
    rw [mem_contactSet_outcasts h.1] at h
    exact not_not.mp (fun hnot => h.2 ⟨hacc, hnot⟩)
  · -- a contact of another account is neither taken in nor cast out
    rename_i hacc
    constructor
    · rintro (hin | ⟨hc, -⟩)
      · exact absurd (fst_of_mem_contactSet hin) hacc
      · exact hc
    · intro hc
      refine Or.inr ⟨hc, ?_⟩
      rw [mem_contactSet_outcasts hc]
      exact fun h => hacc h.1

/-- `set_group_members` gives the group the members that were asked for. -/
theorem setGroupMembersAsync_edits (hname : P.IsGroupName groupName)
    (s : HazeContactList P a) (contacts : TpHandleSet P a) :
    ∃ r, s.setGroupMembersAsync groupName contacts = .ok r ∧
      EditsGroup s groupName (s.outcastsOf groupName contacts) r ∧
      (r.2 = none → ∀ c,
        c ∈ r.1.blist.memberships.members (P.gUtf8CollateKey groupName) ↔
          if c.1 = a then c ∈ contactSet contacts
          else c ∈ s.blist.memberships.members (P.gUtf8CollateKey groupName)) := by
  rcases setGroupMembersAsync_cases hname s contacts with
    ⟨s', e, hs, hrefused, hblist, -, hmoves⟩ | ⟨s', hs, hevict, hM, hmoves⟩
  · rw [Roster.Evictable, orphans_outcasts] at hrefused
    exact ⟨_, hs, EditsGroup.of_error hrefused hblist hmoves, by simp⟩
  · have hgoes := hevict
    rw [Roster.Evictable, orphans_outcasts] at hgoes
    refine ⟨_, hs, ⟨refused_iff_of_evictable hgoes, by simp, hmoves.keeps.1, ?_, ?_⟩,
      fun _ c => ?_⟩
    · show s.blist.memberships.contacts ⊆ s'.blist.memberships.contacts
      rw [hM]
      exact hevict.contacts_subset_assign (not_mem_outcasts s groupName contacts)
    · intro _ k hk c
      show (k, c) ∈ s'.blist.memberships ↔ _
      rw [hM, Roster.mem_assign_of_ne hk, orphans_outcasts]
    · show (_, c) ∈ s'.blist.memberships ↔ _
      rw [hM, mem_assign_outcasts hevict]

/-- **Editing one group loses no contact.** `remove_from_group` and `set_group_members`
fail just when somebody would leave the fallback group for no other, and change nothing then.
Otherwise the group has the members that were asked for, and the other groups theirs, but for
the contacts whose only group it was. -/
theorem groupEdits_keep_contacts (s : HazeContactList P a) (groupName : String)
    (contacts : TpHandleSet P a) :
    (EditsGroup s groupName (contactSet contacts) (s.removeFromGroupAsync groupName contacts) ∧
      ((s.removeFromGroupAsync groupName contacts).2 = none →
        (s.removeFromGroupAsync groupName contacts).1.blist.memberships.members
            (P.gUtf8CollateKey groupName) =
          s.blist.memberships.members (P.gUtf8CollateKey groupName) \ contactSet contacts)) ∧
    (P.IsGroupName groupName → ∃ r, s.setGroupMembersAsync groupName contacts = .ok r ∧
      EditsGroup s groupName (s.outcastsOf groupName contacts) r ∧
      (r.2 = none → ∀ c,
        c ∈ r.1.blist.memberships.members (P.gUtf8CollateKey groupName) ↔
          if c.1 = a then c ∈ contactSet contacts
          else c ∈ s.blist.memberships.members (P.gUtf8CollateKey groupName))) :=
  ⟨s.removeFromGroupAsync_edits groupName contacts,
    fun hname => setGroupMembersAsync_edits hname s contacts⟩

/-- In the list of the two accounts alice is in "Friends" and in no other group. -/
theorem orphans_alice :
    ((0, "alice") : PurpleAccount × String) ∈ sharedList.memberships.orphans "Friends"
      ((init sharedList : HazeContactList Libpurple.plain 0).outcastsOf "Friends" []) := by
  have hin : ("Friends", ((0, "alice") : PurpleAccount × String)) ∈ sharedList.memberships :=
    ⟨⟨0, "Friends"⟩, by decide, rfl, by decide, ⟨1, 0, "alice"⟩, by decide, rfl, rfl⟩
  refine ⟨⟨hin, rfl, by simp⟩, hin, ?_⟩
  rintro k ⟨g, hg, rfl, -⟩
  rw [show g = ⟨0, "Friends"⟩ from List.mem_singleton.mp hg]
  rfl

/-- Emptying "Friends", whose only member of the account is alice, puts her in "Buddies". The
other account's bob stays. -/
theorem groupEdits_keep_contacts_alice :
    ∃ r, (init sharedList : HazeContactList Libpurple.plain 0).setGroupMembersAsync
        "Friends" [] = .ok r ∧
      EditsGroup (init sharedList) "Friends"
        ((init sharedList : HazeContactList Libpurple.plain 0).outcastsOf "Friends" []) r ∧
      r.2 = none ∧ (0, "alice") ∉ r.1.blist.memberships.members "Friends" ∧
      (0, "alice") ∈ r.1.blist.memberships.members "Buddies" ∧
      (1, "bob") ∈ r.1.blist.memberships.members "Friends" := by
  obtain ⟨r, hr, hedits, hmembers⟩ :=
    (groupEdits_keep_contacts (init sharedList : HazeContactList Libpurple.plain 0)
      "Friends" []).2 ⟨by decide, rfl⟩
  have hok : r.2 = none := by
    refine Option.not_isSome_iff_eq_none.mp (fun h => ?_)
    exact absurd (hedits.refused.mp h).1 (by decide)
  refine ⟨r, hr, hedits, hok, ?_, ?_, ?_⟩
  · intro hin
    have hset := (hmembers hok (0, "alice")).mp hin
    rw [if_pos rfl, contactSet_nil] at hset
    exact hset
  · exact (hedits.others hok "Buddies" (by decide) (0, "alice")).mpr
      (Or.inr ⟨rfl, orphans_alice⟩)
  · refine (hmembers hok (1, "bob")).mpr ?_
    rw [if_neg (by decide)]
    exact ⟨⟨0, "Friends"⟩, by decide, rfl, by decide, ⟨2, 1, "bob"⟩, by decide, rfl, rfl⟩

end HazeContactList

end Haze
