import Haze.ContactList.Model

set_option autoImplicit false

/-! # What the queries of the contact list enumerate

`BuddyList.Has p a name` says that the group at `p` holds a buddy of account `a` with the
normalised name `name`. Each `dup_` function is characterised by it. All but one restrict
themselves to the buddies of the connection's account; `dup_group_members` walks the tree of
groups, contacts and buddies and takes the buddies of every account
(`mem_dupGroupMembers`), so it agrees with `dup_contact_groups` exactly where no other
account's buddy stands alone (`groupMembers_agree_iff`).
-/

namespace Haze

namespace HazeContactList

variable {P : Libpurple} {a : PurpleAccount} {s : HazeContactList P a}

/-! ## Handles and buddies -/

theorem normalize_inspect (h : TpHandle P a) : P.purpleNormalize a h.inspect = h.id :=
  h.normal

/-- The buddies found for a handle are those whose name the repository maps to it. -/
theorem mem_findBuddies_handle {bl : BuddyList P} {h : TpHandle P a}
    {e : Nat × PurpleBuddy} : e ∈ bl.purpleFindBuddies a (some h.inspect) ↔
      e ∈ bl.members ∧ e.1 ∈ bl.ptrs ∧ e.2.account = a ∧
        tpHandleEnsure P a e.2.name = h := by
  rw [BuddyList.mem_findBuddies, normalize_inspect, tpHandleEnsure_eq_iff]

theorem has_iff_exists_findBuddies {bl : BuddyList P} {p : Nat} {h : TpHandle P a} :
    bl.Has p a h.id ↔ ∃ e ∈ bl.purpleFindBuddies a (some h.inspect), e.1 = p := by
  rw [← BuddyList.has_iff_findBuddies, normalize_inspect]

/-- The contact has a buddy. -/
def OnList (bl : BuddyList P) (h : TpHandle P a) : Prop := ∃ p, bl.Has p a h.id

theorem onList_iff_findBuddies {bl : BuddyList P} {h : TpHandle P a} :
    OnList bl h ↔ ∃ e, e ∈ bl.purpleFindBuddies a (some h.inspect) := by
  simp only [OnList, has_iff_exists_findBuddies]
  constructor
  · rintro ⟨p, e, he, rfl⟩
    exact ⟨e, he⟩
  · rintro ⟨e, he⟩
    exact ⟨e.1, e, he, rfl⟩

theorem findBuddy_isSome {bl : BuddyList P} {h : TpHandle P a} :
    (bl.purpleFindBuddy a h.inspect).isSome ↔ OnList bl h := by
  rw [onList_iff_findBuddies, BuddyList.purpleFindBuddy]
  cases bl.purpleFindBuddies a (some h.inspect) with
  | nil => simp
  | cons e l => simp

instance (bl : BuddyList P) : DecidablePred (OnList bl : TpHandle P a → Prop) :=
  fun _ => decidable_of_iff _ findBuddy_isSome

/-! ## `dup_contacts` and `dup_states` -/

theorem mem_dupContacts {h : TpHandle P a} :
    h ∈ s.dupContacts ↔
      h ∈ s.publishingTo ∨ OnList s.blist h ∨ h ∈ s.pendingPublishRequests := by
  have hbuddies : (∃ e ∈ s.blist.purpleFindBuddies a none,
      tpHandleEnsure P a e.2.name = h) ↔ OnList s.blist h := by
    rw [onList_iff_findBuddies]
    simp only [BuddyList.mem_findBuddies_null, mem_findBuddies_handle, and_assoc]
  have hkeys := mem_foldl_tpHandleSetAdd (fun k : TpHandle P a => k)
    s.pendingPublishRequests.keys
  simp only [dupContacts, hkeys, mem_foldl_tpHandleSetAdd, hbuddies, exists_eq_right,
    ← AList.mem_keys, or_assoc]

theorem dupStates_subscribe_eq_no {h : TpHandle P a} :
    (s.dupStates h).subscribe = .no ↔ ¬ OnList s.blist h := by
  rw [← findBuddy_isSome]
  by_cases hb : (s.blist.purpleFindBuddy a h.inspect).isSome <;> simp [dupStates, hb]

theorem dupStates_publish_eq_ask {h : TpHandle P a} :
    (s.dupStates h).publish = .ask ↔ h ∈ s.pendingPublishRequests := by
  rw [← AList.lookup_isSome]
  unfold dupStates
  by_cases hp : (s.pendingPublishRequests.lookup h).isSome
  · simp [hp]
  · by_cases h1 : h ∈ s.publishingTo <;> by_cases h2 : h ∈ s.notPublishingTo <;>
      simp [hp, h1, h2]

theorem dupStates_publish_eq_yes {h : TpHandle P a} :
    (s.dupStates h).publish = .yes ↔
      h ∉ s.pendingPublishRequests ∧ h ∈ s.publishingTo := by
  rw [← AList.lookup_isSome]
  unfold dupStates
  by_cases hp : (s.pendingPublishRequests.lookup h).isSome
  · simp [hp]
  · by_cases h1 : h ∈ s.publishingTo <;> by_cases h2 : h ∈ s.notPublishingTo <;>
      simp [hp, h1, h2]

/-! ## Groups -/

theorem mem_dupGroups {name : String} :
    name ∈ s.dupGroups ↔ ∃ g ∈ s.blist.root, g.name = name := by
  simp [dupGroups]

theorem mem_dupContactGroups {h : TpHandle P a} {name : String} :
    name ∈ s.dupContactGroups h ↔
      ∃ g ∈ s.blist.root, g.name = name ∧ s.blist.Has g.ptr a h.id := by
  simp only [dupContactGroups, List.mem_map]
  constructor
  · rintro ⟨e, he, rfl⟩
    have hp : e.1 ∈ s.blist.ptrs := (mem_findBuddies_handle.mp he).2.1
    obtain ⟨g, hg, hptr⟩ := List.mem_map.mp hp
    refine ⟨g, hg, ?_, ?_⟩
    · rw [← hptr, BuddyList.groupGetName_ptr hg]
    · rw [has_iff_exists_findBuddies]
      exact ⟨e, he, hptr.symm⟩
  · rintro ⟨g, hg, rfl, hhas⟩
    obtain ⟨e, he, hptr⟩ := has_iff_exists_findBuddies.mp hhas
    exact ⟨e, he, by rw [hptr, BuddyList.groupGetName_ptr hg]⟩

/-- A group of the list is one of the contact's groups when the contact is in it. -/
theorem name_mem_dupContactGroups {h : TpHandle P a} {g : PurpleGroup}
    (hg : g ∈ s.blist.root) : g.name ∈ s.dupContactGroups h ↔ s.blist.Has g.ptr a h.id := by
  rw [mem_dupContactGroups]
  constructor
  · rintro ⟨g', hg', hname, hhas⟩
    -- no two groups of the list have the same name
    rwa [BuddyList.eq_of_key hg' hg (by rw [hname])] at hhas
  · exact fun hhas => ⟨g, hg, rfl, hhas⟩

theorem mem_addNodeMembers {members : TpHandleSet P a} {n : PurpleBlistNode}
    {h : TpHandle P a} : h ∈ addNodeMembers members n ↔
      h ∈ members ∨ ∃ e ∈ n.members, tpHandleEnsure P a e.2.name = h := by
  cases n with
  | contact g buddies =>
      simp only [addNodeMembers, mem_foldl_tpHandleSetAdd, PurpleBlistNode.members,
        List.mem_map]
      constructor
      · rintro (hm | ⟨b, hb, hn⟩)
        · exact Or.inl hm
        · exact Or.inr ⟨(g, b), ⟨b, hb, rfl⟩, hn⟩
      · rintro (hm | ⟨e, ⟨b, hb, rfl⟩, hn⟩)
        · exact Or.inl hm
        · exact Or.inr ⟨b, hb, hn⟩
  | chat g => simp [addNodeMembers, PurpleBlistNode.members]

theorem mem_foldl_addNodeMembers (nodes : List PurpleBlistNode)
    (members : TpHandleSet P a) (h : TpHandle P a) :
    h ∈ nodes.foldl addNodeMembers members ↔
      h ∈ members ∨ ∃ n ∈ nodes, ∃ e ∈ n.members, tpHandleEnsure P a e.2.name = h := by
  induction nodes generalizing members with
  | nil => simp
  | cons n nodes ih =>
      rw [List.foldl_cons, ih, mem_addNodeMembers, or_assoc]
      simp

/-- `dup_group_members` walks the whole tree below the group, whatever the account. -/
theorem mem_dupGroupMembers {h : TpHandle P a} {name : String} :
    h ∈ s.dupGroupMembers name ↔
      ∃ g, s.blist.purpleFindGroup name = some g ∧
        ∃ b, (g.ptr, b) ∈ s.blist.members ∧ tpHandleEnsure P a b.name = h := by
  unfold dupGroupMembers
  cases hg : s.blist.purpleFindGroup name with
  | none => simp
  | some g =>
      simp only [mem_foldl_addNodeMembers, List.not_mem_nil, false_or, List.mem_filter,
        decide_eq_true_eq, Option.some.injEq, exists_eq_left', BuddyList.members,
        List.mem_flatMap]
      constructor
      · rintro ⟨n, ⟨hn, hng⟩, e, he, hname⟩
        have hfst := PurpleBlistNode.fst_of_mem_members he
        refine ⟨e.2, ⟨n, hn, ?_⟩, hname⟩
        rw [← hng, ← hfst]
        exact he
      · rintro ⟨b, ⟨n, hn, he⟩, hname⟩
        have hfst := PurpleBlistNode.fst_of_mem_members he
        exact ⟨n, ⟨hn, hfst.symm⟩, (g.ptr, b), he, hname⟩

/-- The members of a group of the list include this account's contacts in it. -/
theorem mem_dupGroupMembers_of_has {h : TpHandle P a} {name : String} {g : PurpleGroup}
    (hg : s.blist.purpleFindGroup name = some g) (hhas : s.blist.Has g.ptr a h.id) :
    h ∈ s.dupGroupMembers name := by
  obtain ⟨-, b, hb, -, hn⟩ := hhas
  exact mem_dupGroupMembers.mpr ⟨g, hg, b, hb, tpHandleEnsure_eq_iff.mpr hn⟩

/-! ## Group members and contact groups -/

/-- The two enumerations agree on the contact and the group, and what they list is on the
lists of groups and of contacts. -/
def MembersAgree (s : HazeContactList P a) (h : TpHandle P a) (g : PurpleGroup) : Prop :=
  (h ∈ s.dupGroupMembers g.name ↔ g.name ∈ s.dupContactGroups h) ∧
    (h ∈ s.dupGroupMembers g.name → g.name ∈ s.dupGroups ∧ h ∈ s.dupContacts)

/-- A buddy of another account in the group that this connection would name `h`. -/
def ForeignIn (s : HazeContactList P a) (h : TpHandle P a) (g : PurpleGroup) : Prop :=
  ∃ b, (g.ptr, b) ∈ s.blist.members ∧ b.account ≠ a ∧ tpHandleEnsure P a b.name = h

/-- **Group members and contact groups** agree on `h` and `g` exactly when every buddy of
another account in `g` that this connection would name `h` has a buddy of this account beside
it. -/
theorem groupMembers_agree_iff (s : HazeContactList P a) (h : TpHandle P a)
    (g : PurpleGroup) (hg : g ∈ s.blist.root) :
    s.MembersAgree h g ↔ (s.ForeignIn h g → s.blist.Has g.ptr a h.id) := by
  have hfind : s.blist.purpleFindGroup g.name = some g := BuddyList.find_name hg
  have hmembers : h ∈ s.dupGroupMembers g.name ↔
      ∃ b, (g.ptr, b) ∈ s.blist.members ∧ tpHandleEnsure P a b.name = h := by
    rw [mem_dupGroupMembers, hfind]
    simp
  constructor
  · rintro ⟨hiff, -⟩ ⟨b, hb, -, hname⟩
    exact (name_mem_dupContactGroups hg).mp (hiff.mp (hmembers.mpr ⟨b, hb, hname⟩))
  · intro hforeign
    have hhas : h ∈ s.dupGroupMembers g.name → s.blist.Has g.ptr a h.id := by
      intro hm
      obtain ⟨b, hb, hname⟩ := hmembers.mp hm
      -- a buddy of the account is the contact's own
      by_cases hacc : b.account = a
      · exact ⟨BuddyList.mem_ptrs_of_mem hg, b, hb, hacc, tpHandleEnsure_eq_iff.mp hname⟩
      · exact hforeign ⟨b, hb, hacc, hname⟩
    refine ⟨⟨fun hm => (name_mem_dupContactGroups hg).mpr (hhas hm), fun hn => ?_⟩,
      fun hm => ⟨mem_dupGroups.mpr ⟨g, hg, rfl⟩,
        mem_dupContacts.mpr (Or.inr (Or.inl ⟨g.ptr, hhas hm⟩))⟩⟩
    exact mem_dupGroupMembers_of_has hfind ((name_mem_dupContactGroups hg).mp hn)

/-- Two accounts with a buddy each in the group "Friends". -/
def sharedList : BuddyList Libpurple.plain :=
  (BuddyList.empty.prplAddBuddy 0 "alice" "Friends").prplAddBuddy 1 "bob" "Friends"

theorem groupMembers_agree_alice :
    (init sharedList : HazeContactList Libpurple.plain 0).MembersAgree ⟨"alice", rfl⟩
      ⟨0, "Friends"⟩ :=
  (groupMembers_agree_iff _ _ _ (by decide)).mpr
    (fun _ => ⟨by decide, ⟨1, 0, "alice"⟩, by decide, rfl, rfl⟩)

/-- Account 0's connection lists account 1's buddy in "Friends". -/
theorem groupMembers_disagree_bob :
    ¬ (init sharedList : HazeContactList Libpurple.plain 0).MembersAgree ⟨"bob", rfl⟩
      ⟨0, "Friends"⟩ := by
  rintro ⟨hiff, -⟩
  have hmem : (⟨"bob", rfl⟩ : TpHandle Libpurple.plain 0)
      ∈ (init sharedList : HazeContactList Libpurple.plain 0).dupGroupMembers "Friends" := by
    decide
  have hnot : "Friends"
      ∉ (init sharedList : HazeContactList Libpurple.plain 0).dupContactGroups ⟨"bob", rfl⟩ := by
    decide
  exact hnot (hiff.mp hmem)

end HazeContactList

end Haze
