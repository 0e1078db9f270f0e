import Haze.ContactList.Groups

set_option autoImplicit false

/-! # What happens to the buddy list

The operations that telepathy-glib asks for on groups, and the changes a protocol plugin
makes on its own, as the events of a machine. telepathy-glib passes group names through
`normalize_group` first, so a name that arrives is `Normal` in the state in which it
arrives: it has no unprintable characters, and if the list has a group of that collation
key, it is that group's name.
-/

namespace Haze

namespace HazeContactList

variable {P : Libpurple} {a : PurpleAccount} {s s' : HazeContactList P a}
variable {group : PurpleGroup} {h : TpHandle P a} {name : String} {names : List String}

/-! ## Names -/

/-- A group name as telepathy-glib passes it. -/
def NormalName (s : HazeContactList P a) (name : String) : Prop :=
  P.IsGroupName name ∧ s.normalizeGroup name = some name

instance (s : HazeContactList P a) : DecidablePred (NormalName s) := fun name =>
  inferInstanceAs (Decidable ((name ≠ "" ∧ P.purpleUtf8StripUnprintables name = name) ∧
    s.normalizeGroup name = some name))

/-- The name of the fallback group is normal: no group of the list has its collation key
under another spelling. -/
def FallbackSpelled (s : HazeContactList P a) : Prop := NormalName s P.buddies

instance (s : HazeContactList P a) : Decidable (FallbackSpelled s) :=
  inferInstanceAs (Decidable (NormalName s P.buddies))

theorem NormalName.eq_of_find (hn : NormalName s name)
    (hfind : s.blist.purpleFindGroup name = some group) : group.name = name := by
  obtain ⟨⟨hne, hstrip⟩, hnorm⟩ := hn
  simp only [normalizeGroup, hstrip, hfind, if_neg hne] at hnorm
  by_cases heq : group.name = name
  · exact heq
  · simp only [ne_eq, heq, not_false_eq_true, if_true, Option.some.injEq] at hnorm

/-! ## `set_contact_groups` -/

/-- What `add_to_group` does to the groups that are found. -/
theorem find_addToGroup {name' : String} (hname : P.IsGroupName name)
    (hfind : (s.addToGroup name h).blist.purpleFindGroup name' = some group) :
    s.blist.purpleFindGroup name' = some group ∨ group.name = name := by
  have hroot : group ∈ (s.addToGroup name h).blist.root := BuddyList.mem_root_of_find hfind
  have hold : group ∈ s.blist.root → s.blist.purpleFindGroup name' = some group := by
    intro hg
    rw [← BuddyList.find_name hg, BuddyList.purpleFindGroup, BuddyList.purpleFindGroup,
      BuddyList.key_of_find hfind]
  rcases addToGroup_cases hname s h with ⟨-, hs⟩ | ⟨-, hs⟩
  · rw [hs, withGroup, groupsCreated, call, BuddyList.root_groupNew] at hroot
    exact Or.inl (hold hroot)
  · have hu : (s.withGroup name).blist.Usable (s.blist.purpleGroupNew name).2 :=
      BuddyList.usable_groupNew s.blist hname
    rw [hs, root_addNewBuddy hu, withGroup, groupsCreated, call,
      BuddyList.root_groupNew] at hroot
    split at hroot
    · exact Or.inl (hold hroot)
    · rename_i hnew
      rcases List.mem_append.mp hroot with hg | hg
      · exact Or.inl (hold hg)
      · rw [List.mem_singleton.mp hg]
        cases hf : s.blist.purpleFindGroup name with
        | some g =>
            rw [BuddyList.groupNew_of_find hf] at hnew
            exact absurd (BuddyList.mem_root_of_find hf) hnew
        | none => exact Or.inr (by simp only [BuddyList.purpleGroupNew, hf, hname.2])

/-- The names in which `set_contact_groups` puts the contact. -/
def wantedNames (P : Libpurple) (names : List String) : List String :=
  if names = [] then [hazeGetFallbackGroup P] else names

theorem wantedNames_ne_nil (P : Libpurple) (names : List String) :
    wantedNames P names ≠ [] := by
  unfold wantedNames
  split
  · simp
  · assumption

theorem isGroupName_of_mem_wantedNames (hnames : ∀ n ∈ names, P.IsGroupName n) :
    ∀ n ∈ wantedNames P names, P.IsGroupName n := by
  intro n hn
  unfold wantedNames at hn
  split at hn
  · rw [List.mem_singleton.mp hn]
    exact P.isGroupName_buddies
  · exact hnames n hn

/-- The first loop of `set_contact_groups`. -/
def addToGroups (s : HazeContactList P a) (names : List String) (h : TpHandle P a) :
    HazeContactList P a := names.foldl (fun s n => s.addToGroup n h) s

theorem moves_addToGroups (hnames : ∀ n ∈ names, P.IsGroupName n) :
    Moves names s (s.addToGroups names h) := by
  suffices hgen : ∀ l s, l ⊆ names → Moves names s (s.addToGroups l h) from
    hgen names s (List.Subset.refl names)
  intro l
  induction l with
  | nil => exact fun s _ => Relation.ReflTransGen.refl
  | cons n l ih =>
      intro s hl
      obtain ⟨hn, hl'⟩ := List.cons_subset.mp hl
      have hfirst : Moves [n] s (s.addToGroup n h) := moves_addToGroup (hnames n hn) s h
      exact (hfirst.mono (by simpa using hn)).trans (ih _ hl')

/-- Each of these groups that is on the list is spelled as one of the names. -/
def SpelledIn (s : HazeContactList P a) (names : List String) : Prop :=
  ∀ n ∈ names, ∀ g, s.blist.purpleFindGroup n = some g → g.name ∈ names

/-- After the first loop the contact is in every group of the list of names, and each of
these groups is spelled as in the list of names. -/
theorem has_addToGroups (hnames : ∀ n ∈ names, P.IsGroupName n)
    (hspelled : SpelledIn s names) :
    ∀ n ∈ names, ∃ g, (s.addToGroups names h).blist.purpleFindGroup n = some g ∧
      g.name ∈ names ∧ (s.addToGroups names h).blist.Has g.ptr a h.id := by
  suffices hgen : ∀ (l : List String) (s : HazeContactList P a), l ⊆ names →
      SpelledIn s names → SpelledIn (s.addToGroups l h) names ∧
      (∀ n ∈ l, (P.gUtf8CollateKey n, h.contact) ∈
        (s.addToGroups l h).blist.memberships) ∧
      s.blist.memberships ⊆ (s.addToGroups l h).blist.memberships by
    obtain ⟨hsp, hin, -⟩ := hgen names s (List.Subset.refl names) hspelled
    intro n hn
    cases hf : (s.addToGroups names h).blist.purpleFindGroup n with
    | none => exact absurd (hin n hn) (BuddyList.not_mem_memberships_of_find_eq_none hf _)
    | some g =>
        exact ⟨g, rfl, hsp n hn g hf, (BuddyList.mem_memberships_of_find hf).mp (hin n hn)⟩
  intro l
  induction l with
  | nil => exact fun s _ hsp => ⟨hsp, by simp, subset_rfl⟩
  | cons n l ih =>
      intro s hl hsp
      obtain ⟨hn, hl'⟩ := List.cons_subset.mp hl
      have hM := memberships_addToGroup (hnames n hn) s h
      obtain ⟨hsp', hin, hmono⟩ := ih (s.addToGroup n h) hl' (by
        intro n' hn' g hg
        rcases find_addToGroup (hnames n hn) hg with hold | hnew
        · exact hsp n' hn' g hold
        · rw [hnew]
          exact hn)
      refine ⟨hsp', fun n' hn' => ?_, fun x hx => hmono (by rw [hM]; exact Or.inl hx)⟩
      rcases List.mem_cons.mp hn' with rfl | hn'
      · exact hmono (by rw [hM]; exact Or.inr ⟨rfl, rfl⟩)
      · exact hin n' hn'

/-- The second loop of `set_contact_groups`: removing a buddy renames no group. -/
theorem foldl_unwanted (l : List (Nat × PurpleBuddy)) (s : HazeContactList P a)
    (names : List String) :
    l.foldl (fun s e => if s.blist.purpleGroupGetName e.1 ∈ names then s
      else s.removeBuddy e) s =
    s.removeBuddies (l.filter (fun e => s.blist.purpleGroupGetName e.1 ∉ names)) := by
  induction l generalizing s with
  | nil => rfl
  | cons e l ih =>
      rw [List.foldl_cons, List.filter_cons]
      by_cases he : s.blist.purpleGroupGetName e.1 ∈ names
      · simp only [he, if_true, ih]
        simp
      · simp only [he, if_false, ih, blist_removeBuddy]
        simp only [not_false_eq_true, decide_true, if_true, removeBuddies_cons]
        rfl

/-- The buddies that `set_contact_groups` takes off the list. -/
def unwanted (s : HazeContactList P a) (names : List String) (h : TpHandle P a) :
    List (Nat × PurpleBuddy) :=
  (s.blist.purpleFindBuddies a (some h.inspect)).filter
    (fun e => s.blist.purpleGroupGetName e.1 ∉ names)

theorem setContactGroupsAsync_eq (s : HazeContactList P a) (h : TpHandle P a)
    (names : List String) : s.setContactGroupsAsync h names =
      (s.addToGroups (wantedNames P names) h).removeBuddies
        ((s.addToGroups (wantedNames P names) h).unwanted (wantedNames P names) h) := by
  simp only [setContactGroupsAsync]
  exact foldl_unwanted _ _ _

/-- When the groups are spelled as in the list of names, the contact stays in one. -/
theorem moves_unwanted (hne : names ≠ [])
    (hin : ∀ n ∈ names, ∃ g, s.blist.purpleFindGroup n = some g ∧ g.name ∈ names ∧
      s.blist.Has g.ptr a h.id) :
    Moves names s (s.removeBuddies (s.unwanted names h)) := by
  obtain ⟨n, hn⟩ := List.exists_mem_of_ne_nil names hne
  obtain ⟨g, hfind, hg, hhas⟩ := hin n hn
  obtain ⟨e', he', hptr⟩ := has_iff_exists_findBuddies.mp hhas
  refine moves_removeBuddies ((BuddyList.nodup_findBuddies _ _ _).filter _)
    (fun e he => ?_) (fun e he => ⟨e', ?_, fun hc => ?_⟩)
  · exact BuddyList.mem_findBuddies_of_mem (List.mem_of_mem_filter he)
      (List.mem_of_mem_filter he)
  · exact BuddyList.mem_findBuddies_of_mem (List.mem_of_mem_filter he) he'
  · have hnot := of_decide_eq_true (List.mem_filter.mp hc).2
    rw [hptr, BuddyList.groupGetName_ptr (BuddyList.mem_root_of_find hfind)] at hnot
    exact hnot hg

/-- `set_contact_groups` consists of moves when every name it is given is normal, and the
fallback group's name too if it is given none. -/
theorem moves_setContactGroups (hnames : ∀ n ∈ wantedNames P names, NormalName s n) :
    Moves (wantedNames P names) s (s.setContactGroupsAsync h names) := by
  rw [setContactGroupsAsync_eq]
  have hgroup : ∀ n ∈ wantedNames P names, P.IsGroupName n := fun n hn => (hnames n hn).1
  refine (moves_addToGroups hgroup).trans (moves_unwanted (wantedNames_ne_nil P names)
    (has_addToGroups hgroup (fun n hn g hg => ?_)))
  rw [(hnames n hn).eq_of_find hg]
  exact hn

/-! ## Events -/

/-- The operations on groups, and what a protocol plugin does to the list. -/
inductive ListEvent (P : Libpurple) (a : PurpleAccount) where
  | prplAddBuddy (account : PurpleAccount) (name groupName : String)
  | prplRemoveBuddy (e : Nat × PurpleBuddy)
  | addToGroup (groupName : String) (contacts : TpHandleSet P a)
  | removeFromGroup (groupName : String) (contacts : TpHandleSet P a)
  | setGroupMembers (groupName : String) (contacts : TpHandleSet P a)
  | setContactGroups (contact : TpHandle P a) (names : List String)
  | removeGroup (groupName : String)
  | renameGroup (oldName newName : String)

/-- The step of each event. The error that an operation reports goes to its caller. -/
def listStep (s : HazeContactList P a) : ListEvent P a → Except Fault (HazeContactList P a)
  | .prplAddBuddy account name groupName => .ok (s.prplAddBuddy account name groupName)
  | .prplRemoveBuddy e => .ok (s.purpleBlistRemoveBuddy e)
  | .addToGroup groupName contacts => s.addToGroupAsync groupName contacts
  | .removeFromGroup groupName contacts => .ok (s.removeFromGroupAsync groupName contacts).1
  | .setGroupMembers groupName contacts =>
      (s.setGroupMembersAsync groupName contacts).map Prod.fst
  | .setContactGroups contact names => .ok (s.setContactGroupsAsync contact names)
  | .removeGroup groupName => .ok (s.removeGroupAsync groupName).1
  | .renameGroup oldName newName => .ok (s.renameGroupAsync oldName newName).1

/-- What libpurple and telepathy-glib promise: group names are normal, and a buddy that is
removed is on the list. -/
def ListLegal (s : HazeContactList P a) : ListEvent P a → Prop
  | .prplAddBuddy _ _ groupName => P.IsGroupName groupName
  | .prplRemoveBuddy e => e ∈ s.blist.members ∧ e.1 ∈ s.blist.ptrs
  | .addToGroup groupName _ => NormalName s groupName
  | .removeFromGroup groupName _ => NormalName s groupName
  | .setGroupMembers groupName _ => NormalName s groupName
  | .setContactGroups _ names => ∀ n ∈ names, NormalName s n
  | .removeGroup groupName => NormalName s groupName
  | .renameGroup oldName newName => NormalName s oldName ∧ NormalName s newName

instance (s : HazeContactList P a) : DecidablePred (ListLegal s)
  | .prplAddBuddy _ _ groupName => inferInstanceAs (Decidable
      (groupName ≠ "" ∧ P.purpleUtf8StripUnprintables groupName = groupName))
  | .prplRemoveBuddy e =>
      inferInstanceAs (Decidable (e ∈ s.blist.members ∧ e.1 ∈ s.blist.ptrs))
  | .addToGroup groupName _ => inferInstanceAs (Decidable (NormalName s groupName))
  | .removeFromGroup groupName _ => inferInstanceAs (Decidable (NormalName s groupName))
  | .setGroupMembers groupName _ => inferInstanceAs (Decidable (NormalName s groupName))
  | .setContactGroups _ names => inferInstanceAs (Decidable (∀ n ∈ names, NormalName s n))
  | .removeGroup groupName => inferInstanceAs (Decidable (NormalName s groupName))
  | .renameGroup oldName newName =>
      inferInstanceAs (Decidable (NormalName s oldName ∧ NormalName s newName))

end HazeContactList

end Haze
