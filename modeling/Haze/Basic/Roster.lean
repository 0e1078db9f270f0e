import Mathlib.Data.Set.Basic
import Mathlib.Data.Set.Insert
import Mathlib.Tactic.Tauto

set_option autoImplicit false

/-! # Rosters

A roster says which contacts are in which groups: a set of pairs. A contact is on the roster
when it is in some group, so taking it out of its last group loses it.

`evict` takes a set of contacts out of a group, after those with no other group have joined
the fallback group; `assign` does the same as other contacts join. Neither loses a contact
when the fallback group is not the group that is edited, or is not needed (`Evictable`).
-/

/-- Which contact is in which group. -/
abbrev Roster (κ γ : Type*) := Set (κ × γ)

namespace Roster

variable {κ γ : Type*} {M : Roster κ γ} {k k' d : κ} {S T : Set γ} {c : γ}

/-- The contacts that are in some group. -/
def contacts (M : Roster κ γ) : Set γ := {c | ∃ k, (k, c) ∈ M}

/-- The contacts that are in the group `k`. -/
def members (M : Roster κ γ) (k : κ) : Set γ := {c | (k, c) ∈ M}

/-- The contacts of `S` join the group `k`. -/
def join (M : Roster κ γ) (k : κ) (S : Set γ) : Roster κ γ := M ∪ {x | x.1 = k ∧ x.2 ∈ S}

/-- The contacts of `S` leave the group `k`. -/
def leave (M : Roster κ γ) (k : κ) (S : Set γ) : Roster κ γ := M \ {x | x.1 = k ∧ x.2 ∈ S}

/-- The contacts of `S` that are in `k` and in no other group. -/
def orphans (M : Roster κ γ) (k : κ) (S : Set γ) : Set γ :=
  {c | c ∈ S ∧ (k, c) ∈ M ∧ ∀ k', (k', c) ∈ M → k' = k}

/-- The contacts of `S` leave `k`; those that would be left without a group join `d`. -/
def evict (M : Roster κ γ) (k d : κ) (S : Set γ) : Roster κ γ :=
  (M.join d (M.orphans k S)).leave k S

/-- `S` joins `k` and the contacts of `T` leave it; those that would be left without a group
join `d`. -/
def assign (M : Roster κ γ) (k d : κ) (S T : Set γ) : Roster κ γ :=
  ((M.join d (M.orphans k T)).join k S).leave k T

@[simp] theorem mem_contacts : c ∈ M.contacts ↔ ∃ k, (k, c) ∈ M := Iff.rfl

@[simp] theorem mem_members : c ∈ M.members k ↔ (k, c) ∈ M := Iff.rfl

@[simp] theorem mem_join : (k', c) ∈ M.join k S ↔ (k', c) ∈ M ∨ (k' = k ∧ c ∈ S) := Iff.rfl

@[simp] theorem mem_leave : (k', c) ∈ M.leave k S ↔ (k', c) ∈ M ∧ ¬ (k' = k ∧ c ∈ S) :=
  Iff.rfl

theorem mem_orphans :
    c ∈ M.orphans k S ↔ c ∈ S ∧ (k, c) ∈ M ∧ ∀ k', (k', c) ∈ M → k' = k := Iff.rfl

@[simp] theorem join_empty : M.join k ∅ = M := by
  ext ⟨k', c⟩; simp

@[simp] theorem leave_empty : M.leave k ∅ = M := by
  ext ⟨k', c⟩; simp

/-- Joining one by one is joining together. -/
theorem join_insert : (M.join k {c}).join k S = M.join k (insert c S) := by
  ext ⟨k', c'⟩
  simp only [mem_join, Set.mem_singleton_iff, Set.mem_insert_iff, or_assoc, ← and_or_left]

/-- Leaving one by one is leaving together. -/
theorem leave_insert : (M.leave k {c}).leave k S = M.leave k (insert c S) := by
  ext ⟨k', c'⟩
  simp only [mem_leave, Set.mem_singleton_iff, Set.mem_insert_iff]
  tauto

theorem contacts_subset_join : M.contacts ⊆ (M.join k S).contacts := by
  rintro c ⟨k', h⟩
  exact ⟨k', Or.inl h⟩

/-- Nobody is lost when everyone who leaves the group is in another one. -/
theorem contacts_subset_leave
    (h : ∀ c ∈ S, (k, c) ∈ M → ∃ k', k' ≠ k ∧ (k', c) ∈ M) :
    M.contacts ⊆ (M.leave k S).contacts := by
  rintro c ⟨k', hc⟩
  by_cases hout : k' = k ∧ c ∈ S
  · obtain ⟨rfl, hS⟩ := hout
    obtain ⟨k'', hne, hc''⟩ := h c hS hc
    exact ⟨k'', hc'', fun hk => hne hk.1⟩
  · exact ⟨k', hc, hout⟩

/-- The contacts of `S` can leave `k`: none of them would be left without a group, or there
is another group to put them in. -/
def Evictable (M : Roster κ γ) (k d : κ) (S : Set γ) : Prop := M.orphans k S = ∅ ∨ d ≠ k

theorem not_evictable_iff : ¬ M.Evictable k d S ↔ d = k ∧ (M.orphans k S).Nonempty := by
  rw [Evictable, not_or, not_ne_iff, and_comm, Set.nonempty_iff_ne_empty]

theorem Evictable.mem_join_iff (h : M.Evictable k d S) :
    (k, c) ∈ M.join d (M.orphans k S) ↔ (k, c) ∈ M := by
  rcases h with h | h
  · rw [h, join_empty]
  · simp [h.symm]

/-- After the orphans have joined the fallback group, everyone who leaves `k` is in another
group. -/
theorem Evictable.exists_other (h : M.Evictable k d S) (hS : c ∈ S)
    (hc : (k, c) ∈ M.join d (M.orphans k S)) :
    ∃ k', k' ≠ k ∧ (k', c) ∈ M.join d (M.orphans k S) := by
  have hM : (k, c) ∈ M := h.mem_join_iff.mp hc
  by_cases horph : c ∈ M.orphans k S
  · rcases h with h | h
    · rw [h] at horph
      exact absurd horph (Set.notMem_empty c)
    · exact ⟨d, h, Or.inr ⟨rfl, horph⟩⟩
  · rw [mem_orphans] at horph
    push Not at horph
    obtain ⟨k', hk', hne⟩ := horph hS hM
    exact ⟨k', hne, Or.inl hk'⟩

/-- **Evicting loses nobody.** -/
theorem Evictable.contacts_subset_evict (h : M.Evictable k d S) :
    M.contacts ⊆ (M.evict k d S).contacts :=
  contacts_subset_join.trans
    (contacts_subset_leave (fun _ hS hc => h.exists_other hS hc))

/-- Whoever leaves in an assignment is in another group, as those who join do not leave. -/
theorem Evictable.exists_other_assign (h : M.Evictable k d T) (hST : ∀ c ∈ S, c ∉ T)
    (hT : c ∈ T) (hc : (k, c) ∈ (M.join d (M.orphans k T)).join k S) :
    ∃ k', k' ≠ k ∧ (k', c) ∈ (M.join d (M.orphans k T)).join k S := by
  have hS : c ∉ S := fun hS => hST c hS hT
  obtain ⟨k', hne, hk'⟩ := h.exists_other hT (hc.resolve_right (fun hc => hS hc.2))
  exact ⟨k', hne, Or.inl hk'⟩

/-- **Assigning loses nobody.** -/
theorem Evictable.contacts_subset_assign (h : M.Evictable k d T) (hST : ∀ c ∈ S, c ∉ T) :
    M.contacts ⊆ (M.assign k d S T).contacts :=
  (contacts_subset_join.trans contacts_subset_join).trans
    (contacts_subset_leave (fun _ hT hc => h.exists_other_assign hST hT hc))

/-! ## What the edits do to the groups -/

theorem Evictable.mem_evict_self (h : M.Evictable k d S) :
    (k, c) ∈ M.evict k d S ↔ (k, c) ∈ M ∧ c ∉ S := by
  rw [evict, mem_leave, h.mem_join_iff, eq_self_iff_true, true_and]

theorem mem_evict_of_ne (hk : k' ≠ k) :
    (k', c) ∈ M.evict k d S ↔ (k', c) ∈ M ∨ (k' = d ∧ c ∈ M.orphans k S) := by
  simp [evict, hk]

theorem Evictable.mem_assign_self (h : M.Evictable k d T) (hST : ∀ c ∈ S, c ∉ T) :
    (k, c) ∈ M.assign k d S T ↔ c ∈ S ∨ ((k, c) ∈ M ∧ c ∉ T) := by
  have hS := hST c
  rw [assign, mem_leave, Roster.mem_join, h.mem_join_iff]
  simp only [true_and]
  tauto

theorem mem_assign_of_ne (hk : k' ≠ k) :
    (k', c) ∈ M.assign k d S T ↔ (k', c) ∈ M ∨ (k' = d ∧ c ∈ M.orphans k T) := by
  simp [assign, hk]

/-- Whoever would be left without a group ends up in the fallback group. -/
theorem Evictable.orphan_mem_evict (h : M.Evictable k d S) (hc : c ∈ M.orphans k S) :
    (d, c) ∈ M.evict k d S := by
  have hne : d ≠ k := h.resolve_left (fun hnil => Set.notMem_empty c (hnil ▸ hc))
  exact (mem_evict_of_ne hne).mpr (Or.inr ⟨rfl, hc⟩)

theorem Evictable.orphan_mem_assign (h : M.Evictable k d T) (hc : c ∈ M.orphans k T) :
    (d, c) ∈ M.assign k d S T := by
  have hne : d ≠ k := h.resolve_left (fun hnil => Set.notMem_empty c (hnil ▸ hc))
  exact (mem_assign_of_ne hne).mpr (Or.inr ⟨rfl, hc⟩)

theorem leave_of_not_mem (h : ∀ c ∈ S, (k, c) ∉ M) : M.leave k S = M := by
  ext ⟨k', c⟩
  rw [mem_leave]
  refine ⟨And.left, fun hc => ⟨hc, ?_⟩⟩
  rintro ⟨rfl, hS⟩
  exact h c hS hc

theorem join_of_mem (h : ∀ c ∈ S, (k, c) ∈ M) : M.join k S = M := by
  ext ⟨k', c⟩
  rw [mem_join]
  refine ⟨?_, Or.inl⟩
  rintro (hc | ⟨rfl, hS⟩)
  · exact hc
  · exact h c hS

/-- Only the members of the group matter among those that are to leave. -/
theorem orphans_congr (h : ∀ c, (k, c) ∈ M → (c ∈ S ↔ c ∈ T)) :
    M.orphans k S = M.orphans k T := by
  ext c
  rw [mem_orphans, mem_orphans]
  constructor
  · rintro ⟨hS, hc, hlast⟩
    exact ⟨(h c hc).mp hS, hc, hlast⟩
  · rintro ⟨hT, hc, hlast⟩
    exact ⟨(h c hc).mpr hT, hc, hlast⟩

end Roster
