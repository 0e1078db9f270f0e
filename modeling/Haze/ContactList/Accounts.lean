import Haze.ContactList.Announced

set_option autoImplicit false

/-! # Connections and each other's buddies

The buddy list and its groups belong to the process. Every operation of a connection but one
looks only at the buddies of its own account, and adding groups or removing empty ones changes no
group that somebody is in. `rename_group` has libpurple rename the group for everybody in it. So
the operations of a connection leave the buddies of the other accounts in place exactly as long as
no group that one of them is in is renamed (`accounts_apart_iff`).
-/

namespace Haze

namespace BuddyList

variable {P : Libpurple} {bl bl' bl'' : BuddyList P} {a b : PurpleAccount} {g : PurpleGroup}

/-- The buddies of an account, each with the name of the group it is in. -/
def buddiesOf (bl : BuddyList P) (b : PurpleAccount) : Set (PurpleBuddy × String) :=
  {x | ∃ p, (p, x.1) ∈ bl.members ∧ x.1.account = b ∧ bl.purpleGroupGetName p = x.2}

/-- The buddies of every account but `a` are where they were, in groups of the same names. -/
structure SamePlaces (a : PurpleAccount) (bl bl' : BuddyList P) : Prop where
  members : ∀ e : Nat × PurpleBuddy, e.2.account ≠ a → (e ∈ bl'.members ↔ e ∈ bl.members)
  names : ∀ e ∈ bl.members, e.2.account ≠ a →
    bl'.purpleGroupGetName e.1 = bl.purpleGroupGetName e.1

theorem SamePlaces.refl (a : PurpleAccount) (bl : BuddyList P) : SamePlaces a bl bl :=
  ⟨fun _ _ => Iff.rfl, fun _ _ _ => rfl⟩

theorem SamePlaces.trans (h : SamePlaces a bl bl') (h' : SamePlaces a bl' bl'') :
    SamePlaces a bl bl'' := by
  refine ⟨fun e he => (h'.members e he).trans (h.members e he), fun e hmem he => ?_⟩
  have hmem' : e ∈ bl'.members := (h.members e he).mpr hmem
  rw [h'.names e hmem' he, h.names e hmem he]

theorem SamePlaces.buddiesOf_eq (h : SamePlaces a bl bl') (hb : b ≠ a) :
    bl'.buddiesOf b = bl.buddiesOf b := by
  ext ⟨buddy, name⟩
  constructor
  · rintro ⟨p, hmem, rfl, hname⟩
    have hold := (h.members (p, buddy) hb).mp hmem
    exact ⟨p, hold, rfl, (h.names (p, buddy) hold hb).symm.trans hname⟩
  · rintro ⟨p, hmem, rfl, hname⟩
    exact ⟨p, (h.members (p, buddy) hb).mpr hmem, rfl,
      (h.names (p, buddy) hmem hb).trans hname⟩

/-- Nobody of another account is touched and the groups stay. -/
theorem SamePlaces.of_root (hroot : bl'.root = bl.root)
    (hmembers : ∀ e : Nat × PurpleBuddy, e.2.account ≠ a → (e ∈ bl'.members ↔ e ∈ bl.members)) :
    SamePlaces a bl bl' := by
  refine ⟨hmembers, fun e _ _ => ?_⟩
  unfold purpleGroupGetName
  rw [hroot]

/-- A group that is put on the list has nobody in it yet. -/
theorem samePlaces_addBuddy (hu : bl.Usable g) {buddy : PurpleBuddy}
    (hbuddy : buddy.account = a) : SamePlaces a bl (bl.purpleBlistAddBuddy buddy g) := by
  have hmembers : ∀ e : Nat × PurpleBuddy, e.2.account ≠ a →
      (e ∈ (bl.purpleBlistAddBuddy buddy g).members ↔ e ∈ bl.members) := by
    intro e he
    rw [mem_members_addBuddy]
    refine or_iff_left (fun heq => he ?_)
    rw [heq]
    exact hbuddy
  refine ⟨hmembers, fun e hmem _ => ?_⟩
  unfold purpleGroupGetName
  rw [root_addBuddy hu]
  split
  · rfl
  · rename_i hout
    obtain ⟨-, -, hempty⟩ := hu.resolve_left hout
    have hne : ¬ g.ptr = e.1 := fun hc => hempty e hmem hc.symm
    rw [List.find?_append]
    simp [hne]

/-- Only a group with nobody in it is removed. -/
theorem samePlaces_removeGroup (bl : BuddyList P) (g : PurpleGroup) :
    SamePlaces a bl (bl.purpleBlistRemoveGroup g) := by
  unfold purpleBlistRemoveGroup
  split
  · exact SamePlaces.refl a bl
  · rename_i hempty
    refine ⟨fun _ _ => Iff.rfl, fun e hmem _ => ?_⟩
    have hne : ¬ g.ptr = e.1 := by
      intro hptr
      obtain ⟨n, hn, he⟩ := List.mem_flatMap.mp hmem
      have hfst := PurpleBlistNode.fst_of_mem_members he
      refine hempty (List.any_eq_true.mpr ⟨n, hn, decide_eq_true ?_⟩)
      rw [← hfst, hptr]
    have hsame : bl.root.find? (fun g' => decide (g'.ptr ≠ g.ptr) ∧ decide (g'.ptr = e.1)) =
        bl.root.find? (fun g' => g'.ptr = e.1) := by
      congr 1
      funext g'
      by_cases hptr : g'.ptr = e.1
      · have hne' : ¬ g'.ptr = g.ptr := fun hc => hne (hc.symm.trans hptr)
        simp [hptr, hptr ▸ hne']
      · simp [hptr]
    unfold purpleGroupGetName
    rw [List.find?_filter, hsame]

/-- What is renamed is the group of everybody in it. -/
theorem samePlaces_renameGroup (hempty : ∀ e ∈ bl.members, e.1 = g.ptr → e.2.account = a)
    (newName : String) : SamePlaces a bl (bl.purpleBlistRenameGroup g newName) := by
  refine ⟨fun e _ => by rw [members_renameGroup], fun e hmem he => ?_⟩
  have hne : e.1 ≠ g.ptr := fun hc => he (hempty e hmem hc)
  unfold purpleBlistRenameGroup
  dsimp only
  split
  · unfold purpleGroupGetName
    dsimp only
    have hptr : (fun g' : PurpleGroup => decide (g'.ptr = e.1)) ∘ (fun g' : PurpleGroup =>
        if g'.ptr = g.ptr then (⟨g'.ptr, P.purpleUtf8StripUnprintables newName⟩ : PurpleGroup)
        else g') = fun g' : PurpleGroup => decide (g'.ptr = e.1) := by
      funext g'
      by_cases hg' : g'.ptr = g.ptr <;> simp [hg']
    rw [List.find?_map, hptr]
    cases hfind : bl.root.find? (fun g' => decide (g'.ptr = e.1)) with
    | none => rfl
    | some g' =>
        have heq : g'.ptr = e.1 := by simpa using List.find?_some hfind
        have hother : ¬ g'.ptr = g.ptr := fun hc => hne (heq.symm.trans hc)
        simp [hother]
  · rfl

/-- When a group is renamed, nobody is left in a group of its old name. -/
theorem buddiesOf_renameGroup_ne (hg : g ∈ bl.root) (hne : g.name ≠ "") {newName : String}
    (hname : P.IsGroupName newName) (hfree : bl.purpleFindGroup newName = none)
    {e : Nat × PurpleBuddy} (hmem : e ∈ bl.members) (he : e.1 = g.ptr) :
    (bl.purpleBlistRenameGroup g newName).buddiesOf e.2.account ≠ bl.buddiesOf e.2.account := by
  have hbefore : (e.2, g.name) ∈ bl.buddiesOf e.2.account :=
    ⟨e.1, hmem, rfl, by rw [he, groupGetName_ptr hg]⟩
  intro hsame
  rw [← hsame] at hbefore
  obtain ⟨p, -, -, hp⟩ := hbefore
  unfold purpleGroupGetName at hp
  rw [root_renameGroup bl g hname hfree] at hp
  cases hfind : (bl.root.map (fun g' : PurpleGroup =>
      if g'.ptr = g.ptr then ⟨g'.ptr, newName⟩ else g')).find? (fun g' => g'.ptr = p) with
  | none =>
      rw [hfind] at hp
      exact hne hp.symm
  | some g' =>
      rw [hfind] at hp
      have hname' : g'.name = g.name := hp
      obtain ⟨g₁, hg₁, rfl⟩ := List.mem_map.mp (List.mem_of_find?_eq_some hfind)
      by_cases hptr : g₁.ptr = g.ptr
      · rw [if_pos hptr] at hname'
        exact find_eq_none.mp hfree g hg (by rw [← hname'])
      · rw [if_neg hptr] at hname'
        exact hptr (by rw [eq_of_key hg₁ hg (by rw [hname'])])

end BuddyList

namespace HazeContactList

variable {P : Libpurple} {a : PurpleAccount} {s s' : HazeContactList P a}
variable {h : TpHandle P a} {names : List String}

/-- The other accounts' buddies are the same, in groups of the same names. -/
def OthersUntouched (s s' : HazeContactList P a) : Prop :=
  ∀ b, b ≠ a → s'.blist.buddiesOf b = s.blist.buddiesOf b

theorem samePlaces_removeBuddies {l : List (Nat × PurpleBuddy)}
    (hl : ∀ e ∈ l, e.2.account = a) :
    BuddyList.SamePlaces a s.blist (s.removeBuddies l).blist := by
  refine BuddyList.SamePlaces.of_root (root_removeBuddies s l) (fun e he => ?_)
  rw [mem_members_removeBuddies]
  exact and_iff_left (fun hc => he (hl e hc))

theorem samePlaces_addNewBuddy {group : PurpleGroup} (hu : s.blist.Usable group) :
    BuddyList.SamePlaces a s.blist (s.addNewBuddy h group).blist := by
  rw [blist_addNewBuddy]
  have hnew : BuddyList.SamePlaces a s.blist (s.blist.purpleBuddyNew a h.inspect).1 :=
    BuddyList.SamePlaces.of_root rfl (fun _ _ => Iff.rfl)
  exact hnew.trans (BuddyList.samePlaces_addBuddy (hu.buddyNew a h.inspect) rfl)

theorem Move.samePlaces (hm : Move names s s') : BuddyList.SamePlaces a s.blist s'.blist := by
  cases hm with
  | announce bl name _ hroot hmembers =>
      exact BuddyList.SamePlaces.of_root hroot (fun e _ => by
        have hblist : ({ s with blist := bl }.groupsCreated [name]).blist = bl := rfl
        rw [hblist, hmembers])
  | add h group hu _ _ => exact samePlaces_addNewBuddy hu
  | remove e e' he _ =>
      have hacc : e.2.account = a := (BuddyList.mem_findBuddies.mp he).2.2.1
      exact samePlaces_removeBuddies (l := [e]) (fun x hx => by
        rw [List.mem_singleton.mp hx]
        exact hacc)

/-- Moves leave the buddies of the other accounts in their places. -/
theorem Moves.samePlaces (hm : Moves names s s') :
    BuddyList.SamePlaces a s.blist s'.blist := by
  induction hm with
  | refl => exact BuddyList.SamePlaces.refl a _
  | tail _ hmove ih => exact ih.trans hmove.samePlaces

/-! ## The operations -/

/-- The operations that a connection is asked for. -/
def FromConnection : RosterEvent P a → Prop
  | .list (.prplAddBuddy _ _ _) => False
  | .list (.prplRemoveBuddy _) => False
  | .list _ => True
  | .requestSubscription _ => True
  | .request (.removeContact _) => True
  | .request _ => False

instance : DecidablePred (FromConnection : RosterEvent P a → Prop)
  | .list (.prplAddBuddy _ _ _) => isFalse id
  | .list (.prplRemoveBuddy _) => isFalse id
  | .list (.addToGroup _ _) => isTrue trivial
  | .list (.removeFromGroup _ _) => isTrue trivial
  | .list (.setGroupMembers _ _) => isTrue trivial
  | .list (.setContactGroups _ _) => isTrue trivial
  | .list (.removeGroup _) => isTrue trivial
  | .list (.renameGroup _ _) => isTrue trivial
  | .requestSubscription _ => isTrue trivial
  | .request (.removeContact _) => isTrue trivial
  | .request (.requestAuthorize _ _) => isFalse id
  | .request (.acceptPublishRequest _) => isFalse id
  | .request (.rejectPublishRequest _) => isFalse id
  | .request (.closeAccountRequest _) => isFalse id

/-- A group that is renamed has no other account's buddy in it. -/
def RenamesOwnGroup (s : HazeContactList P a) : RosterEvent P a → Prop
  | .list (.renameGroup oldName newName) =>
      ∀ g, s.blist.purpleFindGroup oldName = some g → s.blist.purpleFindGroup newName = none →
        ∀ e ∈ s.blist.members, e.1 = g.ptr → e.2.account = a
  | _ => True

instance (s : HazeContactList P a) : DecidablePred (RenamesOwnGroup s)
  | .list (.renameGroup oldName newName) => inferInstanceAs (Decidable
      (∀ g ∈ s.blist.purpleFindGroup oldName, s.blist.purpleFindGroup newName = none →
        ∀ e ∈ s.blist.members, e.1 = g.ptr → e.2.account = a))
  | .list (.prplAddBuddy _ _ _) => isTrue trivial
  | .list (.prplRemoveBuddy _) => isTrue trivial
  | .list (.addToGroup _ _) => isTrue trivial
  | .list (.removeFromGroup _ _) => isTrue trivial
  | .list (.setGroupMembers _ _) => isTrue trivial
  | .list (.setContactGroups _ _) => isTrue trivial
  | .list (.removeGroup _) => isTrue trivial
  | .requestSubscription _ => isTrue trivial
  | .request _ => isTrue trivial

theorem samePlaces_setContactGroups (hnames : ∀ n ∈ wantedNames P names, P.IsGroupName n) :
    BuddyList.SamePlaces a s.blist (s.setContactGroupsAsync h names).blist := by
  have hadd : Moves (wantedNames P names) s (s.addToGroups (wantedNames P names) h) :=
    moves_addToGroups hnames
  rw [setContactGroupsAsync_eq]
  refine hadd.samePlaces.trans (samePlaces_removeBuddies (fun e he => ?_))
  exact (mem_findBuddies_handle.mp (List.mem_of_mem_filter he)).2.2.1

theorem samePlaces_removeGroup (s : HazeContactList P a) (groupName : String) :
    BuddyList.SamePlaces a s.blist (s.removeGroupAsync groupName).1.blist := by
  simp only [removeGroupAsync]
  rcases hprep : s.prepRemoveFromGroup groupName (s.dupGroupMembers groupName)
    with ⟨s₁, _ | e⟩
  · have hmoves := (prepRemoveFromGroup_ok hprep).moves
    refine hmoves.samePlaces.trans ?_
    dsimp only
    split
    · exact BuddyList.samePlaces_removeGroup _ _
    · exact BuddyList.SamePlaces.refl a _
  · exact (prepRemoveFromGroup_error hprep).moves.samePlaces

theorem samePlaces_removeContact (hstep : s.removeContact h = .ok s') :
    BuddyList.SamePlaces a s.blist s'.blist := by
  have hbuddies : BuddyList.SamePlaces a s.blist
      (s.removeBuddies (s.blist.purpleFindBuddies a (some h.inspect))).blist :=
    samePlaces_removeBuddies (fun e he => (mem_findBuddies_handle.mp he).2.2.1)
  have hreject : (s.removeBuddies
      (s.blist.purpleFindBuddies a (some h.inspect))).rejectPublishRequest h = .ok s' := hstep
  cases hd : (s.removeBuddies
      (s.blist.purpleFindBuddies a (some h.inspect))).pendingPublishRequests.lookup h with
  | none =>
      rw [rejectPublishRequest_of_none hd] at hreject
      cases hreject
      exact hbuddies
  | some d =>
      rw [rejectPublishRequest_of_some hd] at hreject
      cases hreject
      exact hbuddies

theorem samePlaces_requestSubscription (hstep : s.requestSubscription h = .ok s') :
    BuddyList.SamePlaces a s.blist s'.blist := by
  unfold requestSubscription at hstep
  split at hstep
  · cases hstep
  · cases hstep
    have hgroup : BuddyList.SamePlaces a s.blist (s.blist.purpleGroupNew P.buddies).1 :=
      BuddyList.SamePlaces.of_root (BuddyList.root_groupNew _ _)
        (fun e _ => by rw [BuddyList.members_groupNew])
    exact hgroup.trans (samePlaces_addNewBuddy
      (s := { s with blist := (s.blist.purpleGroupNew P.buddies).1 })
      (BuddyList.usable_groupNew s.blist P.isGroupName_buddies))

/-- A step that leaves the buddies of the other accounts in place renames no group of theirs. -/
theorem othersUntouched_iff_of_samePlaces {e : RosterEvent P a}
    (hsame : BuddyList.SamePlaces a s.blist s'.blist) (hown : RenamesOwnGroup s e) :
    OthersUntouched s s' ↔ RenamesOwnGroup s e :=
  ⟨fun _ => hown, fun _ _ hb => hsame.buddiesOf_eq hb⟩

/-- Renaming a group moves exactly the buddies that are in it. -/
theorem othersUntouched_renameGroup_iff {oldName newName : String}
    (hold : NormalName s oldName) (hnew : P.IsGroupName newName) :
    OthersUntouched s (s.renameGroupAsync oldName newName).1 ↔
      RenamesOwnGroup s (.list (.renameGroup oldName newName)) := by
  unfold renameGroupAsync
  cases hfind : s.blist.purpleFindGroup oldName with
  | none =>
      refine ⟨fun _ g hg => ?_, fun _ _ _ => rfl⟩
      rw [hfind] at hg
      cases hg
  | some group =>
      cases hfree : s.blist.purpleFindGroup newName with
      | some g' =>
          refine ⟨fun _ _ _ hnone => ?_, fun _ _ _ => rfl⟩
          rw [hfree] at hnone
          cases hnone
      | none =>
          have hroot : group ∈ s.blist.root := BuddyList.mem_root_of_find hfind
          have hname : group.name ≠ "" := by
            rw [hold.eq_of_find hfind]
            exact hold.1.1
          constructor
          · intro huntouched g hg _ e hmem he
            rw [hfind, Option.some.injEq] at hg
            subst hg
            by_contra hother
            exact BuddyList.buddiesOf_renameGroup_ne hroot hname hnew hfree hmem he
              (huntouched e.2.account hother)
          · intro hown b hb
            have hsame : BuddyList.SamePlaces a s.blist
                (s.blist.purpleBlistRenameGroup group newName) :=
              BuddyList.samePlaces_renameGroup (hown group hfind hfree) newName
            exact hsame.buddiesOf_eq hb

/-- An operation on groups leaves the other accounts' buddies alone exactly when it renames no
group that one of them is in. -/
theorem othersUntouched_listStep_iff {e : ListEvent P a} (hfrom : FromConnection (.list e))
    (hlegal : ListLegal s e) (hstep : s.listStep e = .ok s') :
    OthersUntouched s s' ↔ RenamesOwnGroup s (.list e) := by
  cases e with
  | prplAddBuddy account name groupName => exact hfrom.elim
  | prplRemoveBuddy e => exact hfrom.elim
  | addToGroup groupName contacts =>
      obtain ⟨s₁, hs₁, -, hmoves⟩ := addToGroupAsync_ok hlegal.1 s contacts
      have heq : s.addToGroupAsync groupName contacts = .ok s' := hstep
      rw [hs₁] at heq
      cases heq
      exact othersUntouched_iff_of_samePlaces hmoves.samePlaces trivial
  | removeFromGroup groupName contacts =>
      cases hstep
      refine othersUntouched_iff_of_samePlaces ?_ trivial
      rcases hr : s.removeFromGroupAsync groupName contacts with ⟨s', _ | e⟩
      · exact (removeFromGroupAsync_ok hr).2.2.samePlaces
      · exact (removeFromGroupAsync_error hr).moves.samePlaces
  | setGroupMembers groupName contacts =>
      refine othersUntouched_iff_of_samePlaces ?_ trivial
      rcases setGroupMembersAsync_cases hlegal.1 s contacts with
        ⟨s₁, e, hs₁, -, -, -, hmoves⟩ | ⟨s₁, hs₁, -, -, hmoves⟩
      · rw [listStep, hs₁] at hstep
        cases hstep
        exact hmoves.samePlaces
      · rw [listStep, hs₁] at hstep
        cases hstep
        exact hmoves.samePlaces
  | setContactGroups h names =>
      cases hstep
      refine othersUntouched_iff_of_samePlaces (samePlaces_setContactGroups ?_) trivial
      exact isGroupName_of_mem_wantedNames (fun n hn => (hlegal n hn).1)
  | removeGroup groupName =>
      cases hstep
      exact othersUntouched_iff_of_samePlaces (samePlaces_removeGroup s groupName) trivial
  | renameGroup oldName newName =>
      cases hstep
      exact othersUntouched_renameGroup_iff hlegal.1 hlegal.2.1

/-- So does every operation of the connection. -/
theorem othersUntouched_step_iff {e : RosterEvent P a} (hfrom : FromConnection e)
    (hlegal : RosterLegal s e) (hstep : (roster P a).step s e = .ok s') :
    OthersUntouched s s' ↔ RenamesOwnGroup s e := by
  cases e with
  | list e => exact othersUntouched_listStep_iff hfrom hlegal hstep
  | requestSubscription h =>
      exact othersUntouched_iff_of_samePlaces (samePlaces_requestSubscription hstep) trivial
  | request e =>
      cases e with
      | removeContact h =>
          exact othersUntouched_iff_of_samePlaces (samePlaces_removeContact hstep) trivial
      | requestAuthorize remoteUser message => exact hfrom.elim
      | acceptPublishRequest h => exact hfrom.elim
      | rejectPublishRequest h => exact hfrom.elim
      | closeAccountRequest request => exact hfrom.elim

/-! ## Runs -/

/-- **The operations of a connection leave the other accounts' buddies where they are** in every
run in which no group that one of them is in is renamed; and a step that renames one does not. -/
theorem accounts_apart_iff (s₀ : HazeContactList P a) (es : List (RosterEvent P a))
    (hfrom : ∀ e ∈ es, FromConnection e) (hlegal : (roster P a).Meets RosterLegal s₀ es)
    (hrun : (roster P a).run s₀ es = .ok s) :
    ((roster P a).Meets
        (fun s e => ∀ s', (roster P a).step s e = .ok s' → OthersUntouched s s') s₀ es ↔
      (roster P a).Meets RenamesOwnGroup s₀ es) ∧
    ((roster P a).Meets RenamesOwnGroup s₀ es → OthersUntouched s₀ s) := by
  have hmeets := (Machine.meets_of_forall hfrom s₀).and hlegal
  constructor
  · refine Machine.meets_iff_of_invariant (I := fun _ => True)
      (fun s e s' _ hok hstep => ⟨?_, fun _ => trivial⟩) trivial hmeets hrun
    rw [Machine.forall_step_iff hstep]
    exact othersUntouched_step_iff hok.1 hok.2 hstep
  · intro hown
    refine Machine.run_invariant (I := fun s => OthersUntouched s₀ s) ?_
      (fun _ _ => rfl) (hmeets.and hown) hrun
    intro s e s' hs hok hstep b hb
    have huntouched := (othersUntouched_step_iff hok.1.1 hok.1.2 hstep).mpr hok.2
    rw [huntouched b hb, hs b hb]

/-- Account 0 moves Alice to a group of her own and renames that, next to account 1's Bob. -/
theorem accounts_apart_alice :
    ∃ s, (roster Libpurple.plain 0).run (init sharedList)
        [.list (.setContactGroups ⟨"alice", rfl⟩ ["Work"]),
          .list (.renameGroup "Work" "Office"), .list (.removeGroup "Friends")] = .ok s ∧
      OthersUntouched (init sharedList) s :=
  ⟨_, rfl, (accounts_apart_iff (init sharedList)
    [.list (.setContactGroups ⟨"alice", rfl⟩ ["Work"]),
      .list (.renameGroup "Work" "Office"), .list (.removeGroup "Friends")]
    (by decide) (by decide) rfl).2 (by decide)⟩

/-- Account 0 renames the group that account 1's Bob is in too. -/
theorem accounts_mixed_bob :
    ¬ ∀ (es : List (RosterEvent Libpurple.plain 0)) (s : HazeContactList Libpurple.plain 0),
      (∀ e ∈ es, FromConnection e) →
      (roster Libpurple.plain 0).Meets RosterLegal (init sharedList) es →
      (roster Libpurple.plain 0).run (init sharedList) es = .ok s →
      OthersUntouched (init sharedList) s := by
  intro hall
  have huntouched := hall [.list (.renameGroup "Friends" "Mates")] _ (by decide) (by decide) rfl
  have hsame := huntouched 1 (by decide)
  have hafter : ((⟨2, 1, "bob"⟩ : PurpleBuddy), "Mates") ∈ sharedList.buddiesOf 1 := by
    rw [BuddyList.buddiesOf, init] at hsame
    rw [← hsame]
    exact ⟨0, by decide, rfl, by decide⟩
  obtain ⟨p, hmem, -, hname⟩ := hafter
  have hbefore : ∀ e ∈ sharedList.members, sharedList.purpleGroupGetName e.1 ≠ "Mates" := by
    decide
  exact hbefore _ hmem hname

end HazeContactList

end Haze
