import Haze.ContactList.AnnouncedGroups

set_option autoImplicit false

/-! # Setting the groups of one contact

`set_contact_groups` joins groups through libpurple, which compares collation keys, and leaves
groups by comparing names. The two agree for names that went through `normalize_group`. The name
of the fallback group has not, so a contact that is to be in no group is put in a group of that
key and taken out of it again when the group is spelled differently.
-/

namespace Haze

namespace HazeContactList

variable {P : Libpurple} {a : PurpleAccount} {s s' : HazeContactList P a}
variable {h : TpHandle P a} {name : String} {names : List String}

/-- What libpurple promises about the names of groups: the groups of the list have been given
stripped names, and nothing is left to strip from a stripped name. -/
structure NamesStripped (s : HazeContactList P a) : Prop where
  idem : ∀ t, P.purpleUtf8StripUnprintables (P.purpleUtf8StripUnprintables t) =
    P.purpleUtf8StripUnprintables t
  groups : ∀ g ∈ s.blist.root, P.IsGroupName g.name

/-- What `normalize_group` returns. -/
theorem normalizeGroup_eq_some {raw : String} (h : s.normalizeGroup raw = some name) :
    P.purpleUtf8StripUnprintables raw ≠ "" ∧
      ((∃ g, s.blist.purpleFindGroup (P.purpleUtf8StripUnprintables raw) = some g ∧
          name = g.name) ∨
        (s.blist.purpleFindGroup (P.purpleUtf8StripUnprintables raw) = none ∧
          name = P.purpleUtf8StripUnprintables raw)) := by
  unfold normalizeGroup at h
  by_cases hempty : P.purpleUtf8StripUnprintables raw = ""
  · simp only [hempty, if_true] at h
    cases h
  · simp only [hempty, if_false] at h
    refine ⟨hempty, ?_⟩
    cases hfind : s.blist.purpleFindGroup (P.purpleUtf8StripUnprintables raw) with
    | some g =>
        rw [hfind] at h
        refine Or.inl ⟨g, rfl, ?_⟩
        by_cases heq : g.name = P.purpleUtf8StripUnprintables raw
        · simpa [heq] using h.symm
        · simpa [heq] using h.symm
    | none =>
        rw [hfind] at h
        exact Or.inr ⟨rfl, (Option.some.inj h).symm⟩

/-- A name that `normalize_group` returns is normal. -/
theorem normalName_of_normalizeGroup (hstripped : NamesStripped s) {raw : String}
    (h : s.normalizeGroup raw = some name) : NormalName s name := by
  obtain ⟨hempty, ⟨g, hfind, rfl⟩ | ⟨hfind, rfl⟩⟩ := normalizeGroup_eq_some h
  · -- the name of the group that is found
    have hg := BuddyList.mem_root_of_find hfind
    have hgroup := hstripped.groups g hg
    refine ⟨hgroup, ?_⟩
    unfold normalizeGroup
    simp only [hgroup.2, hgroup.1, if_false, BuddyList.find_name hg]
    simp
  · refine ⟨⟨hempty, hstripped.idem raw⟩, ?_⟩
    unfold normalizeGroup
    simp only [hstripped.idem, hempty, if_false, hfind]

/-! ## The contact's groups -/

/-- The contact joins the groups of the names. -/
theorem mem_memberships_addToGroups (hnames : ∀ n ∈ names, P.IsGroupName n) {k : String}
    {c : PurpleAccount × String} :
    (k, c) ∈ (s.addToGroups names h).blist.memberships ↔
      (k, c) ∈ s.blist.memberships ∨
        (c = h.contact ∧ ∃ n ∈ names, P.gUtf8CollateKey n = k) := by
  induction names generalizing s with
  | nil => simp [addToGroups]
  | cons n names ih =>
      have hrest := ih (s := s.addToGroup n h)
        (fun n' hn' => hnames n' (List.mem_cons_of_mem n hn'))
      have hfirst := memberships_addToGroup (hnames n List.mem_cons_self) s h
      show (k, c) ∈ ((s.addToGroup n h).addToGroups names h).blist.memberships ↔ _
      rw [hrest, hfirst, Roster.mem_join, Set.mem_singleton_iff]
      constructor
      · rintro ((hold | ⟨rfl, hc⟩) | ⟨hc, n', hn', hkey⟩)
        · exact Or.inl hold
        · exact Or.inr ⟨hc, n, List.mem_cons_self, rfl⟩
        · exact Or.inr ⟨hc, n', List.mem_cons_of_mem n hn', hkey⟩
      · rintro (hold | ⟨hc, n', hn', hkey⟩)
        · exact Or.inl (Or.inl hold)
        · rcases List.mem_cons.mp hn' with rfl | hn'
          · exact Or.inl (Or.inr ⟨hkey.symm, hc⟩)
          · exact Or.inr ⟨hc, n', hn', hkey⟩

/-- Only the contact leaves groups, and it leaves those that are not called by one of the
names. -/
theorem mem_memberships_unwanted {k : String} {c : PurpleAccount × String} :
    (k, c) ∈ (s.removeBuddies (s.unwanted names h)).blist.memberships ↔
      ∃ g ∈ s.blist.root, P.gUtf8CollateKey g.name = k ∧ s.blist.Has g.ptr c.1 c.2 ∧
        (c = h.contact → g.name ∈ names) := by
  -- the buddies of one group that are taken off the list
  have hout : ∀ g ∈ s.blist.root, ∀ b, (g.ptr, b) ∈ s.blist.members →
      b.account = c.1 → P.purpleNormalize c.1 b.name = c.2 →
      ((g.ptr, b) ∈ s.unwanted names h ↔ c = h.contact ∧ g.name ∉ names) := by
    intro g hg b hb hacc hname
    unfold unwanted
    rw [List.mem_filter, BuddyList.mem_findBuddies, normalize_inspect, decide_eq_true_eq,
      BuddyList.groupGetName_ptr hg]
    refine and_congr_left (fun _ => ?_)
    constructor
    · rintro ⟨-, -, hacc', hname'⟩
      refine Prod.ext (hacc.symm.trans hacc') ?_
      rw [← hname, ← hacc, hacc', hname']
      rfl
    · rintro rfl
      exact ⟨hb, BuddyList.mem_ptrs_of_mem hg, hacc, hname⟩
  simp only [BuddyList.memberships, Set.mem_ofPred_eq, root_removeBuddies]
  constructor
  · rintro ⟨g, hg, hkey, hptr, b, hb, hacc, hname⟩
    obtain ⟨hb, hnot⟩ := (mem_members_removeBuddies s _ _).mp hb
    refine ⟨g, hg, hkey, ⟨BuddyList.mem_ptrs_of_mem hg, b, hb, hacc, hname⟩, fun hc => ?_⟩
    by_contra hnames
    exact hnot ((hout g hg b hb hacc hname).mpr ⟨hc, hnames⟩)
  · rintro ⟨g, hg, hkey, ⟨-, b, hb, hacc, hname⟩, hnames⟩
    refine ⟨g, hg, hkey, ?_, b, (mem_members_removeBuddies s _ _).mpr ⟨hb, fun hin => ?_⟩,
      hacc, hname⟩
    · unfold BuddyList.ptrs
      rw [root_removeBuddies]
      exact List.mem_map_of_mem hg
    · obtain ⟨hc, hnot⟩ := (hout g hg b hb hacc hname).mp hin
      exact hnot (hnames hc)

/-! ## The contact on the way -/

/-- The contact is on the list as soon as it has been put in a group. -/
theorem keeps_addToGroup (hname : P.IsGroupName name) (s : HazeContactList P a)
    (h : TpHandle P a) : Keeps {h.contact} s (s.addToGroup name h) := by
  have hon : ({h.contact} : Set _) ⊆ (s.addToGroup name h).blist.memberships.contacts := by
    rw [Set.singleton_subset_iff, memberships_addToGroup hname]
    exact ⟨_, Or.inr ⟨rfl, rfl⟩⟩
  have hgroup : Keeps {h.contact} s (s.withGroup name) :=
    Keeps.of_call rfl rfl (by simp)
  rcases addToGroup_cases hname s h with ⟨-, hs⟩ | ⟨-, hs⟩
  · rw [hs]
    exact hgroup
  · rw [hs] at hon ⊢
    exact hgroup.trans (Keeps.addNewBuddy hon)

/-- At every step the contact has a buddy. -/
theorem keeps_setContactGroups (hnames : ∀ n ∈ wantedNames P names, NormalName s n) :
    Keeps {h.contact} s (s.setContactGroupsAsync h names) := by
  have hgroup : ∀ n ∈ wantedNames P names, P.IsGroupName n := fun n hn => (hnames n hn).1
  have hin := has_addToGroups (h := h) hgroup (fun n hn g hg => by
    rw [(hnames n hn).eq_of_find hg]
    exact hn)
  have hmoves := moves_unwanted (wantedNames_ne_nil P names) hin
  rw [setContactGroupsAsync_eq]
  -- the first name, then the others
  obtain ⟨n, rest, hwanted⟩ := List.exists_cons_of_ne_nil (wantedNames_ne_nil P names)
  rw [hwanted] at hgroup hmoves ⊢
  have hn := hgroup n List.mem_cons_self
  have hrest : Moves rest (s.addToGroup n h) ((s.addToGroup n h).addToGroups rest h) :=
    moves_addToGroups (fun n' hn' => hgroup n' (List.mem_cons_of_mem n hn'))
  have hlater := (hrest.mono (List.subset_cons_self n rest)).trans hmoves
  have hon : ({h.contact} : Set _) ⊆ (s.addToGroup n h).blist.memberships.contacts := by
    rw [Set.singleton_subset_iff, memberships_addToGroup hn]
    exact ⟨_, Or.inr ⟨rfl, rfl⟩⟩
  exact (keeps_addToGroup hn s h).trans ((Moves.keeps hlater).1.mono hon)

/-! ## The groups that were asked for -/

/-- The contact is in the groups that the names denote and in no other, or in the fallback group
when there are no names; nobody else has moved; and on the way the contact has always had a
buddy. -/
structure SetsGroups (s : HazeContactList P a) (h : TpHandle P a) (names : List String)
    (s' : HazeContactList P a) : Prop where
  groups : ∀ k, (k, h.contact) ∈ s'.blist.memberships ↔
    ∃ n ∈ wantedNames P names, P.gUtf8CollateKey n = k
  others : ∀ c, c ≠ h.contact → ∀ k,
    (k, c) ∈ s'.blist.memberships ↔ (k, c) ∈ s.blist.memberships
  keeps : ∃ l, s'.lists = s.lists ++ l ∧ ∀ bl ∈ l, OnList bl h

theorem setsGroups_of_normal (hnames : ∀ n ∈ wantedNames P names, NormalName s n) :
    SetsGroups s h names (s.setContactGroupsAsync h names) := by
  have hgroup : ∀ n ∈ wantedNames P names, P.IsGroupName n := fun n hn => (hnames n hn).1
  have hin := has_addToGroups (h := h) hgroup (fun n hn g hg => by
    rw [(hnames n hn).eq_of_find hg]
    exact hn)
  have hkeeps := keeps_setContactGroups (h := h) hnames
  rw [setContactGroupsAsync_eq] at hkeeps ⊢
  refine ⟨fun k => ?_, fun c hc k => ?_, ?_⟩
  · rw [mem_memberships_unwanted]
    constructor
    · rintro ⟨g, -, hkey, -, hname⟩
      exact ⟨g.name, hname rfl, hkey⟩
    · rintro ⟨n, hn, rfl⟩
      obtain ⟨g, hfind, hname, hhas⟩ := hin n hn
      exact ⟨g, BuddyList.mem_root_of_find hfind, BuddyList.key_of_find hfind, hhas,
        fun _ => hname⟩
  · have hadd := mem_memberships_addToGroups (s := s) (h := h) hgroup (k := k) (c := c)
    rw [or_iff_left (fun hnew => hc hnew.1)] at hadd
    rw [mem_memberships_unwanted, ← hadd]
    constructor
    · rintro ⟨g, hg, hkey, hhas, -⟩
      exact ⟨g, hg, hkey, hhas⟩
    · rintro ⟨g, hg, hkey, hhas⟩
      exact ⟨g, hg, hkey, hhas, fun heq => absurd heq hc⟩
  · obtain ⟨l, hl, hon⟩ := hkeeps.lists
    refine ⟨l, hl, fun bl hbl => onList_iff_mem_contacts.mpr ?_⟩
    exact hon bl hbl rfl

/-- A fallback group that is spelled differently: the contact is taken out of it again. -/
theorem not_setsGroups_of_spelling {g : PurpleGroup}
    (hfind : s.blist.purpleFindGroup P.buddies = some g) (hname : g.name ≠ P.buddies) :
    ¬ SetsGroups s h [] (s.setContactGroupsAsync h []) := by
  intro hsets
  have hgroup : ∀ n ∈ wantedNames P [], P.IsGroupName n :=
    isGroupName_of_mem_wantedNames (by simp)
  have hwanted : wantedNames P [] = [P.buddies] := rfl
  have hin := (hsets.groups (P.gUtf8CollateKey P.buddies)).mpr
    ⟨P.buddies, by rw [hwanted]; exact List.mem_cons_self, rfl⟩
  rw [setContactGroupsAsync_eq, mem_memberships_unwanted] at hin
  obtain ⟨g', hg', hkey, -, hname'⟩ := hin
  -- the group is still in the list, and no other has its key
  have hmoves : Moves (wantedNames P []) s (s.addToGroups (wantedNames P []) h) :=
    moves_addToGroups hgroup
  have hg := hmoves.mem_root.1 (BuddyList.mem_root_of_find hfind)
  have heq : g' = g :=
    BuddyList.eq_of_key hg' hg (hkey.trans (BuddyList.key_of_find hfind).symm)
  apply hname
  have hmem := hname' rfl
  rw [hwanted, heq] at hmem
  exact List.mem_singleton.mp hmem

theorem fallbackSpelled_of_find (hspelled : ∀ g, s.blist.purpleFindGroup P.buddies = some g →
    g.name = P.buddies) : FallbackSpelled s := by
  refine ⟨P.isGroupName_buddies, ?_⟩
  unfold normalizeGroup
  simp only [P.strip_buddies, if_neg P.buddies_ne]
  cases hfind : s.blist.purpleFindGroup P.buddies with
  | some g => simp [hspelled g hfind]
  | none => rfl

/-- **`set_contact_groups` does what it is asked for** when there are names, which the base
class has normalised. Without names it does so when the fallback group has no other spelling
on the list. -/
theorem setContactGroups_iff (hstripped : NamesStripped s)
    (hnames : ∀ n ∈ names, ∃ raw, s.normalizeGroup raw = some n) :
    SetsGroups s h names (s.setContactGroupsAsync h names) ↔
      (names = [] → FallbackSpelled s) := by
  constructor
  · rintro hsets rfl
    apply fallbackSpelled_of_find
    intro g hfind
    by_contra hne
    exact not_setsGroups_of_spelling hfind hne hsets
  · intro hfallback
    apply setsGroups_of_normal
    intro n hn
    unfold wantedNames at hn
    by_cases hnil : names = []
    · rw [if_pos hnil] at hn
      rw [List.mem_singleton.mp hn]
      exact hfallback hnil
    · rw [if_neg hnil] at hn
      obtain ⟨raw, hraw⟩ := hnames n hn
      exact normalName_of_normalizeGroup hstripped hraw

/-! ## Two spellings of one name -/

/-- A locale in which the fallback group is called "Kamarádi": the letter á and the letter a
with a combining accent have one collation key. -/
def kamaradi : Libpurple where
  purpleNormalize := fun _ s => s
  normalize_idem := fun _ _ => rfl
  gUtf8CollateKey := fun s => if s = "Kamara\u0301di" then "Kamar\u00e1di" else s
  purpleUtf8StripUnprintables := fun s => s
  buddies := "Kamar\u00e1di"
  buddies_ne := by decide
  strip_buddies := rfl

/-- Alice, in a group of the given name. -/
def aliceIn (P : Libpurple) (groupName : String) : HazeContactList P 0 :=
  (init (BuddyList.empty.prplAddBuddy 0 "alice" groupName)).setListReceived

theorem namesStripped_aliceIn : NamesStripped (aliceIn Libpurple.plain "Work") := by
  refine ⟨fun _ => rfl, fun g hg => ?_⟩
  obtain rfl : g = ⟨0, "Work"⟩ := List.mem_singleton.mp hg
  exact ⟨by decide, rfl⟩

theorem setContactGroups_iff_alice :
    SetsGroups (aliceIn Libpurple.plain "Work") ⟨"alice", rfl⟩ ["Friends", "Work"]
        ((aliceIn Libpurple.plain "Work").setContactGroupsAsync ⟨"alice", rfl⟩
          ["Friends", "Work"]) ↔
      (["Friends", "Work"] = [] → FallbackSpelled (aliceIn Libpurple.plain "Work")) :=
  setContactGroups_iff namesStripped_aliceIn (by
    intro n hn
    refine ⟨n, ?_⟩
    rcases List.mem_cons.mp hn with rfl | hn
    · decide
    · rw [List.mem_singleton.mp hn]
      decide)

/-- Alice, whose only group is the fallback group spelled in another way, is to be in no
group: she is put in the group she is in, and taken out of it. -/
theorem setContactGroups_drops_contact :
    NamesStripped (aliceIn kamaradi "Kamara\u0301di") ∧
      OnList (aliceIn kamaradi "Kamara\u0301di").blist
        (⟨"alice", rfl⟩ : TpHandle kamaradi 0) ∧
      ((aliceIn kamaradi "Kamara\u0301di").setContactGroupsAsync
        ⟨"alice", rfl⟩ []).blist.purpleFindBuddies 0 (some "alice") = [] ∧
      ¬ SetsGroups (aliceIn kamaradi "Kamara\u0301di") ⟨"alice", rfl⟩ []
        ((aliceIn kamaradi "Kamara\u0301di").setContactGroupsAsync ⟨"alice", rfl⟩ []) := by
  refine ⟨⟨fun _ => rfl, fun g hg => ?_⟩, ⟨0, by decide, ⟨1, 0, "alice"⟩, ?_⟩, ?_, ?_⟩
  · obtain rfl : g = ⟨0, "Kamara\u0301di"⟩ := List.mem_singleton.mp hg
    exact ⟨by decide, rfl⟩
  · decide
  · decide
  · exact @not_setsGroups_of_spelling kamaradi 0 _ _ ⟨0, "Kamara\u0301di"⟩ (by decide)
      (by decide)

end HazeContactList

end Haze
