import Haze.Telepathy.Types
import Mathlib.Data.Finset.SDiff
import Mathlib.Data.Finset.Disjoint
import Mathlib.Tactic.Tauto

set_option autoImplicit false

/-! # `TpGroupMixin`

The members of a channel, those who are to be let in by the local side and those who have been
asked to join. The sets change by `tp_group_mixin_change_members` alone, which emits
`MembersChanged` with what has changed. A client that has read the sets once and follows the signals
knows them (`hear_changeMembers`).
-/

namespace Haze

/-- The sets of a group. A handle that is added to one of them leaves the others. -/
@[ext] structure TpGroupMixin where
  members : Finset Nat
  localPending : Finset Nat
  remotePending : Finset Nat
  deriving DecidableEq

/-- The arguments of `tp_group_mixin_change_members`: "If any two of add, del, add_local_pending and
add_remote_pending have a non-empty intersection, the result is undefined." -/
structure MembersChange where
  message : Option String
  add : Finset Nat
  del : Finset Nat
  addLocalPending : Finset Nat
  addRemotePending : Finset Nat
  actor : Nat
  reason : TpChannelGroupChangeReason
  disjoint : [add, del, addLocalPending, addRemotePending].Pairwise Disjoint

/-- The signal `MembersChanged`. -/
structure MembersChanged where
  message : Option String
  added : Finset Nat
  removed : Finset Nat
  localPending : Finset Nat
  remotePending : Finset Nat
  actor : Nat
  reason : TpChannelGroupChangeReason
  deriving DecidableEq

namespace MembersChange

variable (message : Option String) (handles : Finset Nat) (actor : Nat)
  (reason : TpChannelGroupChangeReason)

/-- Handles become members. -/
def adds : MembersChange := ⟨message, handles, ∅, ∅, ∅, actor, reason, by simp⟩

/-- Handles leave the group. -/
def removes : MembersChange := ⟨message, ∅, handles, ∅, ∅, actor, reason, by simp⟩

/-- Handles become local pending. -/
def addsLocalPending : MembersChange := ⟨message, ∅, ∅, handles, ∅, actor, reason, by simp⟩

/-- Handles become remote pending. -/
def addsRemotePending : MembersChange := ⟨message, ∅, ∅, ∅, handles, actor, reason, by simp⟩

end MembersChange

namespace TpGroupMixin

/-- `tp_group_mixin_init` -/
def init : TpGroupMixin := ⟨∅, ∅, ∅⟩

/-- All who are in one of the sets. -/
def all (g : TpGroupMixin) : Finset Nat := g.members ∪ g.localPending ∪ g.remotePending

/-- What `tp_group_mixin_change_members` makes of the sets. -/
def changeMembers (g : TpGroupMixin) (c : MembersChange) : TpGroupMixin where
  members := (g.members ∪ c.add) \ (c.del ∪ c.addLocalPending ∪ c.addRemotePending)
  localPending := (g.localPending ∪ c.addLocalPending) \ (c.add ∪ c.del ∪ c.addRemotePending)
  remotePending := (g.remotePending ∪ c.addRemotePending) \ (c.add ∪ c.del ∪ c.addLocalPending)

/-- What a change adds and removes, as the signal says it. -/
def signalOf (g : TpGroupMixin) (c : MembersChange) : MembersChanged where
  message := c.message
  added := c.add \ g.members
  removed := c.del ∩ g.all
  localPending := c.addLocalPending \ g.localPending
  remotePending := c.addRemotePending \ g.remotePending
  actor := c.actor
  reason := c.reason

/-- The signal that `tp_group_mixin_change_members` emits, unless it has nothing to say. -/
def membersChanged (g : TpGroupMixin) (c : MembersChange) : Option MembersChanged :=
  let signal := g.signalOf c
  if signal.added = ∅ ∧ signal.removed = ∅ ∧ signal.localPending = ∅ ∧ signal.remotePending = ∅ then
    none
  else some signal

/-- What a client makes of the sets that it knows when it hears the signal. -/
def hear (g : TpGroupMixin) (signal : MembersChanged) : TpGroupMixin where
  members := (g.members ∪ signal.added) \
    (signal.removed ∪ signal.localPending ∪ signal.remotePending)
  localPending := (g.localPending ∪ signal.localPending) \
    (signal.added ∪ signal.removed ∪ signal.remotePending)
  remotePending := (g.remotePending ∪ signal.remotePending) \
    (signal.added ∪ signal.removed ∪ signal.localPending)

/-- Nobody is in two of the sets. -/
def Separate (g : TpGroupMixin) : Prop :=
  [g.members, g.localPending, g.remotePending].Pairwise Disjoint

instance (g : TpGroupMixin) : Decidable g.Separate :=
  inferInstanceAs (Decidable (List.Pairwise _ _))

variable {g : TpGroupMixin} {c : MembersChange} {h : Nat}

theorem separate_iff : g.Separate ↔ ∀ h,
    (h ∈ g.members → h ∉ g.localPending) ∧ (h ∈ g.members → h ∉ g.remotePending) ∧
      (h ∈ g.localPending → h ∉ g.remotePending) := by
  unfold Separate
  simp only [List.pairwise_cons, List.mem_cons, List.not_mem_nil, or_false, forall_eq_or_imp,
    forall_eq, Finset.disjoint_left, List.Pairwise.nil, and_true, false_implies, implies_true]
  constructor
  · rintro ⟨⟨hml, hmr⟩, hlr⟩ h
    exact ⟨fun hm => hml hm, fun hm => hmr hm, fun hl => hlr hl⟩
  · intro hall
    exact ⟨⟨fun h hm => (hall h).1 hm, fun h hm => (hall h).2.1 hm⟩, fun h hl => (hall h).2.2 hl⟩

/-- A change concerns a handle in one way at most. -/
theorem mem_change_cases (c : MembersChange) (h : Nat) :
    (h ∈ c.add ∧ h ∉ c.del ∧ h ∉ c.addLocalPending ∧ h ∉ c.addRemotePending) ∨
      (h ∉ c.add ∧ h ∈ c.del ∧ h ∉ c.addLocalPending ∧ h ∉ c.addRemotePending) ∨
      (h ∉ c.add ∧ h ∉ c.del ∧ h ∈ c.addLocalPending ∧ h ∉ c.addRemotePending) ∨
      (h ∉ c.add ∧ h ∉ c.del ∧ h ∉ c.addLocalPending) := by
  have hdis := c.disjoint
  simp only [List.pairwise_cons, List.mem_cons, List.not_mem_nil, or_false, forall_eq_or_imp,
    forall_eq, Finset.disjoint_left, List.Pairwise.nil, and_true, false_implies,
    implies_true] at hdis
  obtain ⟨⟨had, hal, har⟩, ⟨hdl, hdr⟩, hlr⟩ := hdis
  by_cases ha : h ∈ c.add
  · exact Or.inl ⟨ha, had ha, hal ha, har ha⟩
  by_cases hd : h ∈ c.del
  · exact Or.inr (Or.inl ⟨ha, hd, hdl hd, hdr hd⟩)
  by_cases hl : h ∈ c.addLocalPending
  · exact Or.inr (Or.inr (Or.inl ⟨ha, hd, hl, hlr hl⟩))
  · exact Or.inr (Or.inr (Or.inr ⟨ha, hd, hl⟩))

/-- A change leaves nobody in two sets. -/
theorem separate_changeMembers (hg : g.Separate) (c : MembersChange) :
    (g.changeMembers c).Separate := by
  rw [separate_iff] at hg ⊢
  intro h
  obtain ⟨hml, hmr, hlr⟩ := hg h
  simp only [changeMembers, Finset.mem_sdiff, Finset.mem_union]
  tauto

/-- The signal says what has become of the sets. -/
theorem hear_signalOf (hg : g.Separate) (c : MembersChange) :
    g.hear (g.signalOf c) = g.changeMembers c := by
  rw [separate_iff] at hg
  simp only [changeMembers, hear, signalOf, all, TpGroupMixin.mk.injEq, Finset.ext_iff,
    Finset.mem_sdiff, Finset.mem_union, Finset.mem_inter]
  refine ⟨fun h => ?_, fun h => ?_, fun h => ?_⟩ <;>
  · obtain ⟨hml, hmr, hlr⟩ := hg h
    rcases mem_change_cases c h with
      ⟨ha, hd, hl, hr⟩ | ⟨ha, hd, hl, hr⟩ | ⟨ha, hd, hl, hr⟩ | ⟨ha, hd, hl⟩ <;>
    by_cases hm : h ∈ g.members <;> by_cases hloc : h ∈ g.localPending <;>
      by_cases hrem : h ∈ g.remotePending <;> simp_all

/-- A signal with nothing to say changes nothing. -/
theorem hear_of_empty {signal : MembersChanged} (hadded : signal.added = ∅)
    (hremoved : signal.removed = ∅) (hlocal : signal.localPending = ∅)
    (hremote : signal.remotePending = ∅) : g.hear signal = g := by
  simp [hear, hadded, hremoved, hlocal, hremote]

/-- **A client that hears the signal knows the sets**: when it is not emitted, they have not
changed. -/
theorem hear_changeMembers (hg : g.Separate) (c : MembersChange) :
    (g.membersChanged c).toList.foldl hear g = g.changeMembers c := by
  rw [← hear_signalOf hg c]
  unfold membersChanged
  dsimp only
  split_ifs with hnone
  · obtain ⟨hadded, hremoved, hlocal, hremote⟩ := hnone
    exact (hear_of_empty hadded hremoved hlocal hremote).symm
  · rfl

end TpGroupMixin

end Haze
