import Mathlib.Data.List.Dedup
import Mathlib.Data.List.Nodup
import Mathlib.Tactic.Common

set_option autoImplicit false

/-! # libpurple's buddy list

The buddy list is global to the process: one tree of groups, contacts and buddies for all
accounts. Every node knows its parent, so the tree is kept here as the groups under the root
and the nodes below the groups, each with a pointer to its group. `members` lists the
buddies with the group their parent pointers lead to.

The functions carry the names libpurple gives them. Their bodies state what `contact-list.c`
relies on:

* a group is found by its collation key, and `purple_group_new` returns the group that is
  found or a fresh one, which is not in the list;
* `purple_blist_add_buddy` puts the group in the list when no group of that name is there;
* `purple_blist_remove_group` does nothing to a group with children;
* `purple_find_buddies` compares normalised names.
-/

namespace Haze

/-- A `PurpleAccount *`. -/
abbrev PurpleAccount := Nat

/-- What Haze takes from libpurple's string functions and from the locale. -/
structure Libpurple where
  /-- `purple_normalize (account, name)` -/
  purpleNormalize : PurpleAccount → String → String
  normalize_idem : ∀ a s, purpleNormalize a (purpleNormalize a s) = purpleNormalize a s
  /-- `g_utf8_collate_key (name, -1)` -/
  gUtf8CollateKey : String → String
  /-- `purple_utf8_strip_unprintables (name)` -/
  purpleUtf8StripUnprintables : String → String
  /-- `dgettext ("pidgin", "Buddies")` -/
  buddies : String
  buddies_ne : buddies ≠ ""
  strip_buddies : purpleUtf8StripUnprintables buddies = buddies

/-- A string that `haze_contact_list_normalize_group` can return: telepathy-glib passes no
other group names to the contact list. -/
def Libpurple.IsGroupName (P : Libpurple) (name : String) : Prop :=
  name ≠ "" ∧ P.purpleUtf8StripUnprintables name = name

theorem Libpurple.isGroupName_buddies (P : Libpurple) : P.IsGroupName P.buddies :=
  ⟨P.buddies_ne, P.strip_buddies⟩

/-- The C locale, where names collate when they are equal, with a protocol that does not
normalise names. -/
def Libpurple.plain : Libpurple where
  purpleNormalize := fun _ s => s
  normalize_idem := fun _ _ => rfl
  gUtf8CollateKey := fun s => s
  purpleUtf8StripUnprintables := fun s => s
  buddies := "Buddies"
  buddies_ne := by decide
  strip_buddies := rfl

/-- A `PurpleBuddy`, with its address. -/
structure PurpleBuddy where
  ptr : Nat
  account : PurpleAccount
  name : String
  deriving DecidableEq

/-- A `PurpleGroup`, with its address. -/
structure PurpleGroup where
  ptr : Nat
  name : String
  deriving DecidableEq

/-- A child of a group: a contact with its buddies, or a chat. The first argument is the
address of the parent. -/
inductive PurpleBlistNode where
  | contact (group : Nat) (buddies : List PurpleBuddy)
  | chat (group : Nat)
  deriving DecidableEq

namespace PurpleBlistNode

/-- The parent pointer. -/
def group : PurpleBlistNode → Nat
  | .contact g _ => g
  | .chat g => g

/-- The buddies of the node, each with the group above it. -/
def members : PurpleBlistNode → List (Nat × PurpleBuddy)
  | .contact g bs => bs.map (fun b => (g, b))
  | .chat _ => []

/-- The node after the buddy `e` is taken out; a contact goes with its last buddy. -/
def unlink (e : Nat × PurpleBuddy) : PurpleBlistNode → Option PurpleBlistNode
  | .contact g bs =>
      if g = e.1 ∧ e.2 ∈ bs then
        if bs.all (fun b => b = e.2) then none
        else some (.contact g (bs.filter (fun b => b ≠ e.2)))
      else some (.contact g bs)
  | .chat g => some (.chat g)

theorem group_unlink {e : Nat × PurpleBuddy} {n n' : PurpleBlistNode}
    (h : n.unlink e = some n') : n'.group = n.group := by
  cases n with
  | contact g bs =>
      simp only [unlink] at h
      split at h
      · split at h
        · cases h
        · cases h; rfl
      · cases h; rfl
  | chat g => cases h; rfl

theorem fst_of_mem_members {n : PurpleBlistNode} {x : Nat × PurpleBuddy}
    (h : x ∈ n.members) : x.1 = n.group := by
  cases n with
  | contact g bs =>
      obtain ⟨b, _, rfl⟩ := List.mem_map.mp h
      rfl
  | chat g => cases h

/-- Unlinking `e` keeps every other buddy. -/
theorem mem_members_unlink (e x : Nat × PurpleBuddy) (n : PurpleBlistNode) :
    (∃ n', n.unlink e = some n' ∧ x ∈ n'.members) ↔ x ∈ n.members ∧ x ≠ e := by
  cases n with
  | chat g => simp [unlink, members]
  | contact g bs =>
      obtain ⟨p, b⟩ := x
      obtain ⟨q, c⟩ := e
      simp only [unlink]
      split
      · rename_i hin
        obtain ⟨rfl, hc⟩ := hin
        split
        · rename_i hall
          simp only [List.all_eq_true, decide_eq_true_eq] at hall
          simp only [reduceCtorEq, false_and, exists_false, members, List.mem_map,
            Prod.mk.injEq, false_iff, not_and, not_not]
          rintro ⟨b', hb', rfl, rfl⟩
          exact ⟨rfl, hall b' hb'⟩
        · simp only [Option.some.injEq, exists_eq_left', members, List.mem_map,
            List.mem_filter, decide_eq_true_eq, Prod.mk.injEq, ne_eq]
          constructor
          · rintro ⟨b', ⟨hb', hne⟩, rfl, rfl⟩
            exact ⟨⟨b', hb', rfl, rfl⟩, fun h => hne h.2⟩
          · rintro ⟨⟨b', hb', rfl, rfl⟩, hne⟩
            exact ⟨b', ⟨hb', fun h => hne ⟨rfl, h⟩⟩, rfl, rfl⟩
      · rename_i hnot
        simp only [Option.some.injEq, exists_eq_left', members, List.mem_map, Prod.mk.injEq,
          ne_eq]
        constructor
        · rintro ⟨b', hb', rfl, rfl⟩
          refine ⟨⟨b', hb', rfl, rfl⟩, ?_⟩
          rintro ⟨rfl, rfl⟩
          exact hnot ⟨rfl, hb'⟩
        · exact And.left

end PurpleBlistNode

/-- The buddy list. No two groups in it have the same collation key or the same address, and
`next` is above every address in use. -/
structure BuddyList (P : Libpurple) where
  root : List PurpleGroup
  nodes : List PurpleBlistNode
  next : Nat
  keys_nodup : (root.map (fun g => P.gUtf8CollateKey g.name)).Nodup
  ptrs_nodup : (root.map PurpleGroup.ptr).Nodup
  root_lt : ∀ g ∈ root, g.ptr < next
  nodes_lt : ∀ n ∈ nodes, n.group < next
  deriving DecidableEq

namespace BuddyList

variable {P : Libpurple}

/-- The addresses of the groups that are in the list. -/
def ptrs (bl : BuddyList P) : List Nat := bl.root.map PurpleGroup.ptr

/-- Every buddy below a group, with that group. -/
def members (bl : BuddyList P) : List (Nat × PurpleBuddy) :=
  bl.nodes.flatMap PurpleBlistNode.members

theorem mem_ptrs_of_mem {bl : BuddyList P} {g : PurpleGroup} (h : g ∈ bl.root) :
    g.ptr ∈ bl.ptrs := List.mem_map_of_mem h

/-! ## Finding groups -/

/-- `purple_find_group` -/
def purpleFindGroup (bl : BuddyList P) (name : String) : Option PurpleGroup :=
  bl.root.find? (fun g => P.gUtf8CollateKey g.name = P.gUtf8CollateKey name)

theorem mem_root_of_find {bl : BuddyList P} {name : String} {g : PurpleGroup}
    (h : bl.purpleFindGroup name = some g) : g ∈ bl.root :=
  List.mem_of_find?_eq_some h

theorem key_of_find {bl : BuddyList P} {name : String} {g : PurpleGroup}
    (h : bl.purpleFindGroup name = some g) :
    P.gUtf8CollateKey g.name = P.gUtf8CollateKey name := by
  simpa using List.find?_some h

theorem find_eq_none {bl : BuddyList P} {name : String} :
    bl.purpleFindGroup name = none ↔
      ∀ g ∈ bl.root, P.gUtf8CollateKey g.name ≠ P.gUtf8CollateKey name := by
  simp [purpleFindGroup]

/-- The collation key identifies the group. -/
theorem eq_of_key {bl : BuddyList P} {g g' : PurpleGroup} (hg : g ∈ bl.root)
    (hg' : g' ∈ bl.root) (h : P.gUtf8CollateKey g.name = P.gUtf8CollateKey g'.name) :
    g = g' :=
  List.inj_on_of_nodup_map bl.keys_nodup hg hg' h

/-- The address identifies the group. -/
theorem eq_of_ptr {bl : BuddyList P} {g g' : PurpleGroup} (hg : g ∈ bl.root)
    (hg' : g' ∈ bl.root) (h : g.ptr = g'.ptr) : g = g' :=
  List.inj_on_of_nodup_map bl.ptrs_nodup hg hg' h

theorem find_name {bl : BuddyList P} {g : PurpleGroup} (hg : g ∈ bl.root) :
    bl.purpleFindGroup g.name = some g := by
  cases h : bl.purpleFindGroup g.name with
  | none => exact absurd rfl (find_eq_none.mp h g hg)
  | some g' => rw [eq_of_key (mem_root_of_find h) hg (key_of_find h)]

/-- `purple_group_get_name` of the group at address `p`. -/
def purpleGroupGetName (bl : BuddyList P) (p : Nat) : String :=
  ((bl.root.find? (fun g => g.ptr = p)).map PurpleGroup.name).getD ""

theorem groupGetName_ptr {bl : BuddyList P} {g : PurpleGroup} (hg : g ∈ bl.root) :
    bl.purpleGroupGetName g.ptr = g.name := by
  unfold purpleGroupGetName
  cases h : bl.root.find? (fun g' => g'.ptr = g.ptr) with
  | none =>
      have := List.find?_eq_none.mp h g hg
      simp at this
  | some g' =>
      have hptr : g'.ptr = g.ptr := by simpa using List.find?_some h
      rw [eq_of_ptr (List.mem_of_find?_eq_some h) hg hptr]
      rfl

/-! ## Finding buddies -/

/-- `purple_find_buddies`: the buddies of the account, of the given name unless it is `NULL`,
in the groups of the list. libpurple keeps them in a hash table, so each is there once. -/
def purpleFindBuddies (bl : BuddyList P) (account : PurpleAccount) (name : Option String) :
    List (Nat × PurpleBuddy) :=
  (bl.members.filter (fun e => e.1 ∈ bl.ptrs ∧ e.2.account = account ∧
    ∀ n ∈ name, P.purpleNormalize account e.2.name = P.purpleNormalize account n)).dedup

theorem nodup_findBuddies (bl : BuddyList P) (account : PurpleAccount)
    (name : Option String) : (bl.purpleFindBuddies account name).Nodup :=
  List.nodup_dedup _

theorem mem_findBuddies {bl : BuddyList P} {account : PurpleAccount} {name : String}
    {e : Nat × PurpleBuddy} : e ∈ bl.purpleFindBuddies account (some name) ↔
      e ∈ bl.members ∧ e.1 ∈ bl.ptrs ∧ e.2.account = account ∧
        P.purpleNormalize account e.2.name = P.purpleNormalize account name := by
  simp [purpleFindBuddies]

theorem mem_findBuddies_null {bl : BuddyList P} {account : PurpleAccount}
    {e : Nat × PurpleBuddy} : e ∈ bl.purpleFindBuddies account none ↔
      e ∈ bl.members ∧ e.1 ∈ bl.ptrs ∧ e.2.account = account := by
  simp [purpleFindBuddies]

/-- The buddies found for a name are the ones found for the name of any of them. -/
theorem mem_findBuddies_of_mem {bl : BuddyList P} {account : PurpleAccount} {name : String}
    {e e' : Nat × PurpleBuddy} (he : e ∈ bl.purpleFindBuddies account (some name))
    (he' : e' ∈ bl.purpleFindBuddies account (some name)) :
    e' ∈ bl.purpleFindBuddies account (some e.2.name) := by
  obtain ⟨-, -, -, hname⟩ := mem_findBuddies.mp he
  obtain ⟨hmem, hptr, hacc, hname'⟩ := mem_findBuddies.mp he'
  exact mem_findBuddies.mpr ⟨hmem, hptr, hacc, hname'.trans hname.symm⟩

/-- `purple_find_buddy` -/
def purpleFindBuddy (bl : BuddyList P) (account : PurpleAccount) (name : String) :
    Option (Nat × PurpleBuddy) :=
  (bl.purpleFindBuddies account (some name)).head?

/-- `purple_find_buddy_in_group` -/
def purpleFindBuddyInGroup (bl : BuddyList P) (account : PurpleAccount) (name : String)
    (group : PurpleGroup) : Option (Nat × PurpleBuddy) :=
  bl.members.find? (fun e => e.1 = group.ptr ∧ e.2.account = account ∧
    P.purpleNormalize account e.2.name = P.purpleNormalize account name)

/-! ## Changing the list -/

/-- `purple_group_new` for a non-empty name; for the empty name libpurple returns `NULL`. A
group that is not found is allocated, but not put in the list. -/
def purpleGroupNew (bl : BuddyList P) (name : String) : BuddyList P × PurpleGroup :=
  match bl.purpleFindGroup name with
  | some g => (bl, g)
  | none =>
      ({ bl with
          next := bl.next + 1
          root_lt := fun g hg => Nat.lt_succ_of_lt (bl.root_lt g hg)
          nodes_lt := fun n hn => Nat.lt_succ_of_lt (bl.nodes_lt n hn) },
        ⟨bl.next, P.purpleUtf8StripUnprintables name⟩)

/-- `purple_buddy_new` -/
def purpleBuddyNew (bl : BuddyList P) (account : PurpleAccount) (name : String) :
    BuddyList P × PurpleBuddy :=
  ({ bl with
      next := bl.next + 1
      root_lt := fun g hg => Nat.lt_succ_of_lt (bl.root_lt g hg)
      nodes_lt := fun n hn => Nat.lt_succ_of_lt (bl.nodes_lt n hn) },
    ⟨bl.next, account, name⟩)

/-- `purple_blist_add_group`, for a group that is not in the list yet. -/
def purpleBlistAddGroup (bl : BuddyList P) (group : PurpleGroup)
    (hname : bl.purpleFindGroup group.name = none) (hptr : group.ptr ∉ bl.ptrs) :
    BuddyList P where
  root := bl.root ++ [group]
  nodes := bl.nodes
  next := max bl.next (group.ptr + 1)
  keys_nodup := by
    rw [List.map_append, List.nodup_append]
    refine ⟨bl.keys_nodup, List.nodup_singleton _, ?_⟩
    intro k hk k' hk'
    obtain ⟨g, hg, rfl⟩ := List.mem_map.mp hk
    rw [List.map_singleton, List.mem_singleton] at hk'
    rw [hk']
    exact find_eq_none.mp hname g hg
  ptrs_nodup := by
    rw [List.map_append, List.nodup_append]
    refine ⟨bl.ptrs_nodup, List.nodup_singleton _, ?_⟩
    intro p hp p' hp'
    rw [List.map_singleton, List.mem_singleton] at hp'
    rintro rfl
    exact hptr (hp' ▸ hp)
  root_lt := by
    intro g hg
    rcases List.mem_append.mp hg with hg | hg
    · exact Nat.lt_of_lt_of_le (bl.root_lt g hg) (Nat.le_max_left _ _)
    · rw [List.mem_singleton.mp hg]
      exact Nat.lt_of_lt_of_le (Nat.lt_succ_self _) (Nat.le_max_right _ _)
  nodes_lt := fun n hn => Nat.lt_of_lt_of_le (bl.nodes_lt n hn) (Nat.le_max_left _ _)

/-- `purple_blist_add_buddy (buddy, NULL, group, NULL)`: "add group to blist if isn't already
on it", then put the buddy under it in a new contact. -/
def purpleBlistAddBuddy (bl : BuddyList P) (buddy : PurpleBuddy) (group : PurpleGroup) :
    BuddyList P :=
  let bl :=
    if h : bl.purpleFindGroup group.name = none ∧ group.ptr ∉ bl.ptrs then
      bl.purpleBlistAddGroup group h.1 h.2
    else bl
  { bl with
    nodes := bl.nodes ++ [.contact group.ptr [buddy]]
    next := max bl.next (group.ptr + 1)
    root_lt := fun g hg => Nat.lt_of_lt_of_le (bl.root_lt g hg) (Nat.le_max_left _ _)
    nodes_lt := by
      intro n hn
      rcases List.mem_append.mp hn with hn | hn
      · exact Nat.lt_of_lt_of_le (bl.nodes_lt n hn) (Nat.le_max_left _ _)
      · rw [List.mem_singleton.mp hn]
        exact Nat.lt_of_lt_of_le (Nat.lt_succ_self _) (Nat.le_max_right _ _) }

/-- `purple_blist_remove_buddy` -/
def purpleBlistRemoveBuddy (bl : BuddyList P) (e : Nat × PurpleBuddy) : BuddyList P :=
  { bl with
    nodes := bl.nodes.filterMap (PurpleBlistNode.unlink e)
    nodes_lt := by
      intro n hn
      obtain ⟨n', hn', hun⟩ := List.mem_filterMap.mp hn
      rw [PurpleBlistNode.group_unlink hun]
      exact bl.nodes_lt n' hn' }

/-- `purple_blist_remove_group`: "make sure the group is empty". -/
def purpleBlistRemoveGroup (bl : BuddyList P) (group : PurpleGroup) : BuddyList P :=
  if bl.nodes.any (fun n => n.group = group.ptr) then bl
  else
    { bl with
      root := bl.root.filter (fun g => g.ptr ≠ group.ptr)
      keys_nodup := bl.keys_nodup.sublist (List.filter_sublist.map _)
      ptrs_nodup := bl.ptrs_nodup.sublist (List.filter_sublist.map _)
      root_lt := fun g hg => bl.root_lt g (List.mem_of_mem_filter hg) }

/-- `purple_blist_rename_group`, when no group has the new name: the group is renamed for
every buddy in it. -/
def purpleBlistRenameGroup (bl : BuddyList P) (group : PurpleGroup) (name : String) :
    BuddyList P :=
  let newName := P.purpleUtf8StripUnprintables name
  if h : newName ≠ "" ∧ bl.purpleFindGroup newName = none then
    { bl with
      root := bl.root.map (fun g => if g.ptr = group.ptr then ⟨g.ptr, newName⟩ else g)
      keys_nodup := by
        rw [List.map_map]
        refine List.Nodup.map_on ?_ (List.Nodup.of_map _ bl.keys_nodup)
        intro g hg g' hg' hkey
        by_cases h1 : g.ptr = group.ptr <;> by_cases h2 : g'.ptr = group.ptr
        · exact eq_of_ptr hg hg' (h1.trans h2.symm)
        · simp only [Function.comp_apply, h1, h2, if_true, if_false] at hkey
          exact absurd hkey.symm (find_eq_none.mp h.2 g' hg')
        · simp only [Function.comp_apply, h1, h2, if_true, if_false] at hkey
          exact absurd hkey (find_eq_none.mp h.2 g hg)
        · simp only [Function.comp_apply, h1, h2, if_false] at hkey
          exact eq_of_key hg hg' hkey
      ptrs_nodup := by
        have hcomp : (PurpleGroup.ptr ∘ fun g : PurpleGroup =>
            if g.ptr = group.ptr then (⟨g.ptr, newName⟩ : PurpleGroup) else g)
            = PurpleGroup.ptr := by
          funext g
          by_cases hg : g.ptr = group.ptr <;> simp [hg]
        rw [List.map_map, hcomp]
        exact bl.ptrs_nodup
      root_lt := by
        intro g hg
        obtain ⟨g', hg', rfl⟩ := List.mem_map.mp hg
        have hlt := bl.root_lt g' hg'
        by_cases h' : g'.ptr = group.ptr <;> simp [h'] at hlt ⊢ <;> exact hlt }
  else bl

/-- The buddy list at start-up. -/
def empty : BuddyList P where
  root := []
  nodes := []
  next := 0
  keys_nodup := List.nodup_nil
  ptrs_nodup := List.nodup_nil
  root_lt := by simp
  nodes_lt := by simp

/-- A protocol plugin puts a buddy in a group: `purple_group_new`, `purple_buddy_new` and
`purple_blist_add_buddy`. -/
def prplAddBuddy (bl : BuddyList P) (account : PurpleAccount) (name groupName : String) :
    BuddyList P :=
  let (bl, group) := bl.purpleGroupNew groupName
  let (bl, buddy) := bl.purpleBuddyNew account name
  bl.purpleBlistAddBuddy buddy group

/-! ## What the changes do to the groups and the members -/

@[simp] theorem members_groupNew (bl : BuddyList P) (name : String) :
    (bl.purpleGroupNew name).1.members = bl.members := by
  unfold purpleGroupNew; split <;> rfl

@[simp] theorem root_groupNew (bl : BuddyList P) (name : String) :
    (bl.purpleGroupNew name).1.root = bl.root := by
  unfold purpleGroupNew; split <;> rfl

theorem groupNew_of_find {bl : BuddyList P} {name : String} {g : PurpleGroup}
    (h : bl.purpleFindGroup name = some g) : bl.purpleGroupNew name = (bl, g) := by
  simp only [purpleGroupNew, h]

@[simp] theorem nodes_groupNew (bl : BuddyList P) (name : String) :
    (bl.purpleGroupNew name).1.nodes = bl.nodes := by
  unfold purpleGroupNew; split <;> rfl

theorem nodes_addBuddy (bl : BuddyList P) (b : PurpleBuddy) (g : PurpleGroup) :
    (bl.purpleBlistAddBuddy b g).nodes = bl.nodes ++ [.contact g.ptr [b]] := by
  unfold purpleBlistAddBuddy
  simp only
  split <;> rfl

@[simp] theorem mem_members_addBuddy (bl : BuddyList P) (b : PurpleBuddy) (g : PurpleGroup)
    (e : Nat × PurpleBuddy) :
    e ∈ (bl.purpleBlistAddBuddy b g).members ↔ e ∈ bl.members ∨ e = (g.ptr, b) := by
  simp only [members, nodes_addBuddy, List.flatMap_append, List.mem_append, List.flatMap_singleton]
  simp [PurpleBlistNode.members]

@[simp] theorem mem_members_removeBuddy (bl : BuddyList P) (e x : Nat × PurpleBuddy) :
    x ∈ (bl.purpleBlistRemoveBuddy e).members ↔ x ∈ bl.members ∧ x ≠ e := by
  simp only [members, purpleBlistRemoveBuddy, List.mem_flatMap, List.mem_filterMap]
  constructor
  · rintro ⟨n', ⟨n, hn, hun⟩, hx⟩
    obtain ⟨hm, hne⟩ := (PurpleBlistNode.mem_members_unlink e x n).mp ⟨n', hun, hx⟩
    exact ⟨⟨n, hn, hm⟩, hne⟩
  · rintro ⟨⟨n, hn, hm⟩, hne⟩
    obtain ⟨n', hun, hx⟩ := (PurpleBlistNode.mem_members_unlink e x n).mpr ⟨hm, hne⟩
    exact ⟨n', ⟨n, hn, hun⟩, hx⟩

@[simp] theorem root_removeBuddy (bl : BuddyList P) (e : Nat × PurpleBuddy) :
    (bl.purpleBlistRemoveBuddy e).root = bl.root := rfl

/-! ## The groups `purple_group_new` hands out

Such a group is in the list, or it is fresh and no group of the list has its name. -/

/-- What `purple_blist_add_buddy` may be given as the group. -/
def Usable (bl : BuddyList P) (g : PurpleGroup) : Prop :=
  g ∈ bl.root ∨
    (bl.purpleFindGroup g.name = none ∧ g.ptr ∉ bl.ptrs ∧ ∀ e ∈ bl.members, e.1 ≠ g.ptr)

theorem fst_lt_of_mem {bl : BuddyList P} {e : Nat × PurpleBuddy} (h : e ∈ bl.members) :
    e.1 < bl.next := by
  obtain ⟨n, hn, he⟩ := List.mem_flatMap.mp h
  rw [PurpleBlistNode.fst_of_mem_members he]
  exact bl.nodes_lt n hn

theorem usable_groupNew (bl : BuddyList P) {name : String} (hname : P.IsGroupName name) :
    (bl.purpleGroupNew name).1.Usable (bl.purpleGroupNew name).2 := by
  cases h : bl.purpleFindGroup name with
  | some g =>
      rw [groupNew_of_find h]
      exact Or.inl (mem_root_of_find h)
  | none =>
      simp only [purpleGroupNew, h]
      refine Or.inr ⟨?_, ?_, ?_⟩
      · simp only [hname.2]
        exact h
      · intro hp
        obtain ⟨g, hg, hptr⟩ := List.mem_map.mp hp
        exact absurd (bl.root_lt g hg) (by simp [hptr])
      · intro e he
        exact Nat.ne_of_lt (@fst_lt_of_mem P bl e he)

/-- A group with the address of a group of the list is not fresh. -/
theorem find_of_groupNew_ptr {bl : BuddyList P} {name : String}
    (hptr : (bl.purpleGroupNew name).2.ptr ∈ bl.ptrs) :
    bl.purpleFindGroup name = some (bl.purpleGroupNew name).2 := by
  cases hfind : bl.purpleFindGroup name with
  | some g => rw [groupNew_of_find hfind]
  | none =>
      obtain ⟨g, hg, heq⟩ := List.mem_map.mp hptr
      have hlt := bl.root_lt g hg
      simp only [purpleGroupNew, hfind] at heq
      omega

/-- The group handed out for a name is the one of the list, when there is one. -/
theorem groupNew_key (bl : BuddyList P) {name : String} (hname : P.IsGroupName name) :
    P.gUtf8CollateKey (bl.purpleGroupNew name).2.name = P.gUtf8CollateKey name := by
  cases h : bl.purpleFindGroup name with
  | some g => rw [groupNew_of_find h]; exact key_of_find h
  | none => simp only [purpleGroupNew, h, hname.2]

/-- The group handed out for a name is in the list, or is spelled like the name. -/
theorem groupNew_mem_or_name (bl : BuddyList P) {name : String} (hname : P.IsGroupName name) :
    (bl.purpleGroupNew name).2 ∈ bl.root ∨ (bl.purpleGroupNew name).2.name = name := by
  cases h : bl.purpleFindGroup name with
  | some g => rw [groupNew_of_find h]; exact Or.inl (mem_root_of_find h)
  | none => simp only [purpleGroupNew, h, hname.2, or_true]

theorem Usable.buddyNew {bl : BuddyList P} {g : PurpleGroup} (h : bl.Usable g)
    (a : PurpleAccount) (name : String) : (bl.purpleBuddyNew a name).1.Usable g := h

/-- The groups of the list after a buddy is put in `g`. -/
theorem root_addBuddy {bl : BuddyList P} {g : PurpleGroup} (h : bl.Usable g)
    (b : PurpleBuddy) : (bl.purpleBlistAddBuddy b g).root
      = if g ∈ bl.root then bl.root else bl.root ++ [g] := by
  rcases h with hg | ⟨hname, hptr, -⟩
  · have hfind : ¬ (bl.purpleFindGroup g.name = none ∧ g.ptr ∉ bl.ptrs) :=
      fun hc => hc.2 (mem_ptrs_of_mem hg)
    simp only [purpleBlistAddBuddy, dif_neg hfind, if_pos hg]
  · have hg : g ∉ bl.root := fun hg => hptr (mem_ptrs_of_mem hg)
    simp only [purpleBlistAddBuddy, dif_pos (And.intro hname hptr), if_neg hg]
    rfl

theorem mem_root_addBuddy {bl : BuddyList P} {g : PurpleGroup} (h : bl.Usable g)
    (b : PurpleBuddy) (g' : PurpleGroup) :
    g' ∈ (bl.purpleBlistAddBuddy b g).root ↔ g' ∈ bl.root ∨ g' = g := by
  rw [root_addBuddy h b]
  split
  · rename_i hg
    exact ⟨Or.inl, fun h => h.elim id (fun h => h ▸ hg)⟩
  · simp

theorem mem_ptrs_addBuddy {bl : BuddyList P} {g : PurpleGroup} (h : bl.Usable g)
    (b : PurpleBuddy) (p : Nat) :
    p ∈ (bl.purpleBlistAddBuddy b g).ptrs ↔ p ∈ bl.ptrs ∨ p = g.ptr := by
  simp only [ptrs, List.mem_map, mem_root_addBuddy h b]
  constructor
  · rintro ⟨g', hg' | rfl, rfl⟩
    · exact Or.inl ⟨g', hg', rfl⟩
    · exact Or.inr rfl
  · rintro (⟨g', hg', rfl⟩ | rfl)
    · exact ⟨g', Or.inl hg', rfl⟩
    · exact ⟨g, Or.inr rfl, rfl⟩

/-! ## Membership -/

/-- A buddy of `account` whose normalised name is `name` hangs under the group at `p`, and
that group is in the list. -/
def Has (bl : BuddyList P) (p : Nat) (account : PurpleAccount) (name : String) : Prop :=
  p ∈ bl.ptrs ∧ ∃ b, (p, b) ∈ bl.members ∧ b.account = account ∧
    P.purpleNormalize account b.name = name

theorem has_iff_findBuddies {bl : BuddyList P} {p : Nat} {a : PurpleAccount} {name : String} :
    bl.Has p a (P.purpleNormalize a name) ↔
      ∃ e ∈ bl.purpleFindBuddies a (some name), e.1 = p := by
  constructor
  · rintro ⟨hp, b, hb, ha, hn⟩
    exact ⟨(p, b), mem_findBuddies.mpr ⟨hb, hp, ha, hn⟩, rfl⟩
  · rintro ⟨⟨q, b⟩, he, rfl⟩
    obtain ⟨hb, hp, ha, hn⟩ := mem_findBuddies.mp he
    exact ⟨hp, b, hb, ha, hn⟩

/-- Putting a buddy in a group adds that one membership. -/
theorem has_addBuddy {bl : BuddyList P} {g : PurpleGroup} (h : bl.Usable g)
    (b : PurpleBuddy) (p : Nat) (a : PurpleAccount) (name : String) :
    (bl.purpleBlistAddBuddy b g).Has p a name ↔
      bl.Has p a name ∨
        (p = g.ptr ∧ a = b.account ∧ name = P.purpleNormalize b.account b.name) := by
  simp only [Has, mem_ptrs_addBuddy h b, mem_members_addBuddy]
  constructor
  · rintro ⟨hp, c, hc | hc, rfl, rfl⟩
    · rcases hp with hp | rfl
      · exact Or.inl ⟨hp, c, hc, rfl, rfl⟩
      · rcases h with hg | ⟨-, -, hfresh⟩
        · exact Or.inl ⟨mem_ptrs_of_mem hg, c, hc, rfl, rfl⟩
        · exact absurd rfl (hfresh _ hc)
    · cases hc
      exact Or.inr ⟨rfl, rfl, rfl⟩
  · rintro (⟨hp, c, hc, rfl, rfl⟩ | ⟨rfl, rfl, rfl⟩)
    · exact ⟨Or.inl hp, c, Or.inl hc, rfl, rfl⟩
    · exact ⟨Or.inr rfl, b, Or.inr rfl, rfl, rfl⟩

theorem has_removeBuddy (bl : BuddyList P) (e : Nat × PurpleBuddy) (p : Nat)
    (a : PurpleAccount) (name : String) :
    (bl.purpleBlistRemoveBuddy e).Has p a name ↔
      p ∈ bl.ptrs ∧ ∃ b, ((p, b) ∈ bl.members ∧ (p, b) ≠ e) ∧ b.account = a ∧
        P.purpleNormalize a b.name = name := by
  simp only [Has, mem_members_removeBuddy]
  rfl

@[simp] theorem has_groupNew (bl : BuddyList P) (gname : String) (p : Nat)
    (a : PurpleAccount) (name : String) :
    (bl.purpleGroupNew gname).1.Has p a name ↔ bl.Has p a name := by
  simp only [Has, members_groupNew, ptrs, root_groupNew]

@[simp] theorem findBuddies_groupNew (bl : BuddyList P) (gname : String)
    (a : PurpleAccount) (name : Option String) :
    (bl.purpleGroupNew gname).1.purpleFindBuddies a name = bl.purpleFindBuddies a name := by
  unfold purpleGroupNew; split <;> rfl

@[simp] theorem find_groupNew (bl : BuddyList P) (gname name : String) :
    (bl.purpleGroupNew gname).1.purpleFindGroup name = bl.purpleFindGroup name := by
  simp only [purpleFindGroup, root_groupNew]

/-- Only a group with nobody in it is removed. -/
theorem has_removeGroup (bl : BuddyList P) (g : PurpleGroup) (p : Nat) (a : PurpleAccount)
    (name : String) : (bl.purpleBlistRemoveGroup g).Has p a name ↔ bl.Has p a name := by
  unfold purpleBlistRemoveGroup
  split
  · rfl
  · rename_i hempty
    simp only [Has, ptrs, members, List.mem_map, List.mem_filter, decide_eq_true_eq]
    constructor
    · rintro ⟨⟨g', ⟨hg', -⟩, rfl⟩, hb⟩
      exact ⟨⟨g', hg', rfl⟩, hb⟩
    · rintro ⟨⟨g', hg', rfl⟩, b, hb, hacc, hn⟩
      refine ⟨⟨g', ⟨hg', fun hptr => hempty ?_⟩, rfl⟩, b, hb, hacc, hn⟩
      obtain ⟨n, hn, he⟩ := List.mem_flatMap.mp hb
      have hfst := PurpleBlistNode.fst_of_mem_members he
      rw [List.any_eq_true]
      exact ⟨n, hn, decide_eq_true (hfst.symm.trans hptr)⟩

/-- `purple_blist_remove_group` does nothing to a group with a child. -/
theorem removeGroup_of_child {bl : BuddyList P} {g : PurpleGroup} {n : PurpleBlistNode}
    (hn : n ∈ bl.nodes) (hgroup : n.group = g.ptr) : bl.purpleBlistRemoveGroup g = bl := by
  have hany : bl.nodes.any (fun n => n.group = g.ptr) :=
    List.any_eq_true.mpr ⟨n, hn, decide_eq_true hgroup⟩
  simp only [purpleBlistRemoveGroup, if_pos hany]

theorem mem_root_removeGroup {bl : BuddyList P} {g g' : PurpleGroup}
    (hempty : ∀ n ∈ bl.nodes, n.group ≠ g.ptr) :
    g' ∈ (bl.purpleBlistRemoveGroup g).root ↔ g' ∈ bl.root ∧ g'.ptr ≠ g.ptr := by
  have hany : ¬ bl.nodes.any (fun n => n.group = g.ptr) := by simpa using hempty
  simp only [purpleBlistRemoveGroup, if_neg hany, List.mem_filter, decide_eq_true_eq]

theorem ptrs_renameGroup (bl : BuddyList P) (g : PurpleGroup) (newName : String) :
    (bl.purpleBlistRenameGroup g newName).ptrs = bl.ptrs := by
  unfold purpleBlistRenameGroup
  simp only
  split
  · simp only [ptrs, List.map_map]
    apply List.map_congr_left
    intro g' _
    simp only [Function.comp_apply]
    split <;> rfl
  · rfl

theorem root_renameGroup (bl : BuddyList P) (g : PurpleGroup) {newName : String}
    (hname : P.IsGroupName newName) (hfree : bl.purpleFindGroup newName = none) :
    (bl.purpleBlistRenameGroup g newName).root =
      bl.root.map (fun g' => if g'.ptr = g.ptr then ⟨g'.ptr, newName⟩ else g') := by
  unfold purpleBlistRenameGroup
  simp only [hname.2]
  rw [dif_pos ⟨hname.1, hfree⟩]

@[simp] theorem members_renameGroup (bl : BuddyList P) (g : PurpleGroup)
    (newName : String) : (bl.purpleBlistRenameGroup g newName).members = bl.members := by
  unfold purpleBlistRenameGroup
  simp only
  split <;> rfl

/-- Renaming a group moves nobody. -/
theorem has_renameGroup (bl : BuddyList P) (g : PurpleGroup) (newName : String) (p : Nat)
    (a : PurpleAccount) (name : String) :
    (bl.purpleBlistRenameGroup g newName).Has p a name ↔ bl.Has p a name := by
  simp only [Has, ptrs_renameGroup, members_renameGroup]

theorem findBuddyInGroup_isSome {bl : BuddyList P} {a : PurpleAccount} {name : String}
    {g : PurpleGroup} : (bl.purpleFindBuddyInGroup a name g).isSome ↔
      ∃ b, (g.ptr, b) ∈ bl.members ∧ b.account = a ∧
        P.purpleNormalize a b.name = P.purpleNormalize a name := by
  simp only [purpleFindBuddyInGroup, List.find?_isSome, decide_eq_true_eq]
  constructor
  · rintro ⟨⟨p, b⟩, hb, rfl, ha, hn⟩
    exact ⟨b, hb, ha, hn⟩
  · rintro ⟨b, hb, ha, hn⟩
    exact ⟨(g.ptr, b), hb, rfl, ha, hn⟩

end BuddyList

end Haze
