import Haze.ContactList.ContactGroups

set_option autoImplicit false

/-! # Group names and libpurple's groups

Two names are the same group for libpurple when they collate equal. `normalize_group` knows of
this only through the groups that exist: it returns the name of the group that a name collates
with, and the name itself as long as there is none. So two spellings of a group that is still to
be made stay two names, and the first contact that joins makes one group of them
(`groupNamesMatch_iff`).
-/

namespace Haze

namespace HazeContactList

variable {P : Libpurple} {a : PurpleAccount} {σ : HazeContactList P a}
variable {h : TpHandle P a} {s t n m : String}

/-! ## The group of a name -/

/-- The group that libpurple has for a name, which is the one `add_to_group` uses. -/
def groupFor (σ : HazeContactList P a) (name : String) : PurpleGroup :=
  (σ.blist.purpleGroupNew name).2

/-- When the contact has been added, the group is on the list. -/
theorem groupFor_mem_root (hname : P.IsGroupName n) (σ : HazeContactList P a)
    (h : TpHandle P a) : σ.groupFor n ∈ (σ.addToGroup n h).blist.root := by
  have hu : (σ.withGroup n).blist.Usable (σ.groupFor n) :=
    BuddyList.usable_groupNew σ.blist hname
  rcases addToGroup_cases hname σ h with ⟨hhas, hs⟩ | ⟨-, hs⟩
  · rw [hs, withGroup, groupsCreated, call, BuddyList.root_groupNew]
    exact BuddyList.mem_root_of_find (BuddyList.find_of_groupNew_ptr hhas.1)
  · rw [hs]
    exact mem_root_addNewBuddy hu

theorem groupFor_eq_iff {g : PurpleGroup} (hg : g ∈ σ.blist.root) :
    σ.groupFor m = g ↔ P.gUtf8CollateKey g.name = P.gUtf8CollateKey m := by
  constructor
  · intro heq
    have hptr : (σ.groupFor m).ptr ∈ σ.blist.ptrs := by
      rw [heq]
      exact List.mem_map_of_mem hg
    have hfind : σ.blist.purpleFindGroup m = some (σ.groupFor m) :=
      BuddyList.find_of_groupNew_ptr hptr
    rw [← heq]
    exact BuddyList.key_of_find hfind
  · intro hkey
    have hfind : σ.blist.purpleFindGroup m = some g := by
      have hsame : σ.blist.purpleFindGroup m = σ.blist.purpleFindGroup g.name := by
        unfold BuddyList.purpleFindGroup
        rw [hkey]
      rw [hsame, BuddyList.find_name hg]
    rw [groupFor, BuddyList.groupNew_of_find hfind]

/-- The contact is added to the group of one name and then to that of another, and this is the same
group. -/
def SharesGroup (σ : HazeContactList P a) (n m : String) (h : TpHandle P a) : Prop :=
  (σ.addToGroup n h).groupFor m = σ.groupFor n

/-- Names lead to the same group exactly when they collate equal. -/
theorem sharesGroup_iff (hn : P.IsGroupName n) :
    SharesGroup σ n m h ↔ P.gUtf8CollateKey n = P.gUtf8CollateKey m := by
  unfold SharesGroup
  rw [groupFor_eq_iff (groupFor_mem_root hn σ h), groupFor, BuddyList.groupNew_key _ hn]

/-! ## Equal results -/

theorem key_of_normalizeGroup (h : σ.normalizeGroup s = some n) :
    P.gUtf8CollateKey n = P.gUtf8CollateKey (P.purpleUtf8StripUnprintables s) := by
  rcases (normalizeGroup_eq_some h).2 with ⟨g, hfind, rfl⟩ | ⟨-, rfl⟩
  · exact BuddyList.key_of_find hfind
  · rfl

/-- Two names are normalised alike when they are alike, or collate equal with a group of the
list. -/
theorem normalizeGroup_eq_iff (hs : σ.normalizeGroup s = some n)
    (ht : σ.normalizeGroup t = some m) : n = m ↔
      P.gUtf8CollateKey (P.purpleUtf8StripUnprintables s) =
          P.gUtf8CollateKey (P.purpleUtf8StripUnprintables t) ∧
        (P.purpleUtf8StripUnprintables s = P.purpleUtf8StripUnprintables t ∨
          (σ.blist.purpleFindGroup (P.purpleUtf8StripUnprintables s)).isSome) := by
  have hfound : P.gUtf8CollateKey (P.purpleUtf8StripUnprintables s) =
      P.gUtf8CollateKey (P.purpleUtf8StripUnprintables t) →
      σ.blist.purpleFindGroup (P.purpleUtf8StripUnprintables s) =
        σ.blist.purpleFindGroup (P.purpleUtf8StripUnprintables t) := by
    intro hkey
    unfold BuddyList.purpleFindGroup
    rw [hkey]
  constructor
  · rintro rfl
    have hkey := (key_of_normalizeGroup hs).symm.trans (key_of_normalizeGroup ht)
    refine ⟨hkey, ?_⟩
    rcases (normalizeGroup_eq_some hs).2 with ⟨g, hfind, -⟩ | ⟨hnone, hn⟩
    · exact Or.inr (by rw [hfind]; rfl)
    · rcases (normalizeGroup_eq_some ht).2 with ⟨g, hfind, -⟩ | ⟨-, hm⟩
      · rw [hfound hkey, hfind] at hnone
        cases hnone
      · exact Or.inl (hn.symm.trans hm)
  · rintro ⟨hkey, hsame | hsome⟩
    · have heq : σ.normalizeGroup s = σ.normalizeGroup t := by
        unfold normalizeGroup
        rw [hsame]
      rw [hs, ht] at heq
      exact Option.some.inj heq
    · obtain ⟨g, hg⟩ := Option.isSome_iff_exists.mp hsome
      have hname : ∀ {s' n' : String}, σ.normalizeGroup s' = some n' →
          σ.blist.purpleFindGroup (P.purpleUtf8StripUnprintables s') = some g → n' = g.name := by
        intro s' n' hn' hfind
        rcases (normalizeGroup_eq_some hn').2 with ⟨g', hg', rfl⟩ | ⟨hnone, -⟩
        · rw [hfind] at hg'
          rw [Option.some.inj hg']
        · rw [hfind] at hnone
          cases hnone
      rw [hname hs hg, hname ht (by rw [← hfound hkey, hg])]

/-! ## The law -/

/-- Normalised names are libpurple's groups: for the names that telepathy-glib passes when it is
asked for the groups `s` and `t`, and for `s` and `t` themselves when nothing is to be stripped
from them. -/
structure GroupNamesMatch (σ : HazeContactList P a) (s t : String) : Prop where
  idem : ∀ n, σ.normalizeGroup s = some n → σ.normalizeGroup n = some n
  passed : ∀ n m h, σ.normalizeGroup s = some n → σ.normalizeGroup t = some m →
    (SharesGroup σ n m h ↔ n = m)
  asGiven : ∀ h, P.IsGroupName s → P.IsGroupName t →
    (SharesGroup σ s t h ↔ σ.normalizeGroup s = σ.normalizeGroup t)

/-- If the names collate equal, they are the same name or the list has their group. -/
def SpelledAlike (σ : HazeContactList P a) (s t : String) : Prop :=
  let s := P.purpleUtf8StripUnprintables s
  let t := P.purpleUtf8StripUnprintables t
  s ≠ "" → t ≠ "" → P.gUtf8CollateKey s = P.gUtf8CollateKey t →
    s = t ∨ (σ.blist.purpleFindGroup s).isSome

instance (σ : HazeContactList P a) (s t : String) : Decidable (SpelledAlike σ s t) := by
  unfold SpelledAlike
  infer_instance

/-- Every name is normalised, except those that are empty without their unprintable characters. -/
theorem exists_normalizeGroup (hne : P.purpleUtf8StripUnprintables s ≠ "") :
    ∃ n, σ.normalizeGroup s = some n := by
  unfold normalizeGroup
  simp only [hne, if_false]
  split
  · exact ⟨_, rfl⟩
  · exact ⟨_, rfl⟩

/-- **When normalised names are libpurple's groups**: on a list whose group names have no
unprintable characters, exactly if `s` and `t`, where they collate equal, are one spelling or the
list has their group. -/
theorem groupNamesMatch_iff (hstripped : NamesStripped σ) (s t : String) :
    GroupNamesMatch σ s t ↔ SpelledAlike σ s t := by
  have hshares : ∀ {n m : String} (h : TpHandle P a), σ.normalizeGroup s = some n →
      σ.normalizeGroup t = some m → (SharesGroup σ n m h ↔
        P.gUtf8CollateKey (P.purpleUtf8StripUnprintables s) =
          P.gUtf8CollateKey (P.purpleUtf8StripUnprintables t)) := by
    intro n m h hn hm
    rw [sharesGroup_iff (normalName_of_normalizeGroup hstripped hn).1, key_of_normalizeGroup hn,
      key_of_normalizeGroup hm]
  constructor
  · intro hmatch hs ht hkey
    obtain ⟨n, hn⟩ := @exists_normalizeGroup P a σ s hs
    obtain ⟨m, hm⟩ := @exists_normalizeGroup P a σ t ht
    -- any contact will do
    have hboth := (hshares (tpHandleEnsure P a "") hn hm).mpr hkey
    have heq := (hmatch.passed n m _ hn hm).mp hboth
    exact ((normalizeGroup_eq_iff hn hm).mp heq).2
  · intro hspelled
    have hpassed : ∀ n m h, σ.normalizeGroup s = some n → σ.normalizeGroup t = some m →
        (SharesGroup σ n m h ↔ n = m) := by
      intro n m h hn hm
      rw [hshares h hn hm, normalizeGroup_eq_iff hn hm]
      refine ⟨fun hkey => ⟨hkey, ?_⟩, And.left⟩
      exact hspelled (normalizeGroup_eq_some hn).1 (normalizeGroup_eq_some hm).1 hkey
    refine ⟨fun n hn => (normalName_of_normalizeGroup hstripped hn).2, hpassed, ?_⟩
    intro h hs ht
    obtain ⟨n, hn⟩ := @exists_normalizeGroup P a σ s (by rw [hs.2]; exact hs.1)
    obtain ⟨m, hm⟩ := @exists_normalizeGroup P a σ t (by rw [ht.2]; exact ht.1)
    have hkeys := hshares h hn hm
    rw [hs.2, ht.2] at hkeys
    rw [sharesGroup_iff hs, ← hkeys, hpassed n m h hn hm, hn, hm, Option.some_inj]

end HazeContactList

/-- A locale in which the composed and the decomposed "café" collate equal. -/
def Libpurple.composing : Libpurple where
  purpleNormalize := fun _ s => s
  normalize_idem := fun _ _ => rfl
  gUtf8CollateKey := fun s => if s = "cafe\u0301" then "caf\u00e9" else s
  purpleUtf8StripUnprintables := fun s => s
  buddies := "Buddies"
  buddies_ne := Libpurple.plain.buddies_ne
  strip_buddies := rfl

namespace HazeContactList

/-- The list has the group, under the composed name. -/
theorem groupNamesMatch_iff_cafe :
    GroupNamesMatch (init (BuddyList.empty.prplAddBuddy 0 "bob" "caf\u00e9") :
      HazeContactList Libpurple.composing 0) "cafe\u0301" "caf\u00e9" := by
  refine (groupNamesMatch_iff ⟨fun _ => rfl, fun g hg => ?_⟩ _ _).mpr (by decide)
  have hname : g = ⟨0, "caf\u00e9"⟩ := List.mem_singleton.mp hg
  rw [hname]
  exact ⟨by decide, rfl⟩

/-- Nobody is in the group yet: the two names stay apart, and lead to one group. -/
theorem groupNames_differ : ¬ ∀ (σ : HazeContactList Libpurple.composing 0) (s t : String),
    NamesStripped σ → GroupNamesMatch σ s t := by
  intro hall
  have hmatch := hall (init BuddyList.empty) "cafe\u0301" "caf\u00e9"
    ⟨fun _ => rfl, fun g hg => by cases hg⟩
  have hnames : Libpurple.composing.IsGroupName "cafe\u0301" := ⟨by decide, rfl⟩
  have heq := (hmatch.passed "cafe\u0301" "caf\u00e9" (tpHandleEnsure _ 0 "bob") rfl rfl).mp
    ((sharesGroup_iff hnames).mpr (by decide))
  exact absurd heq (by decide)

end HazeContactList

end Haze
