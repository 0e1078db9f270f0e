import Mathlib.Data.List.Perm.Basic
import Mathlib.Data.List.Nodup
import Mathlib.Tactic.Common

set_option autoImplicit false

/-! # Obligations that are settled exactly once

Obligations (requests, tokens, callbacks) are opened, stay outstanding for a while and are
settled. `Balanced opened outstanding settled` says that nothing is lost and nothing is
settled twice: as multisets, what was opened is what is outstanding together with what was
settled. When the opened obligations are pairwise distinct, no obligation is settled twice
(`Balanced.count_settled_le_one`).
-/

namespace Ledger

variable {α : Type*}

/-- What was opened is what is still outstanding together with what was settled. -/
def Balanced (opened outstanding settled : List α) : Prop :=
  opened.Perm (outstanding ++ settled)

namespace Balanced

variable {opened outstanding settled : List α}

theorem nil : Balanced ([] : List α) [] [] := List.Perm.refl _

/-- A new obligation becomes outstanding. -/
theorem push (h : Balanced opened outstanding settled) (a : α) :
    Balanced (opened ++ [a]) (outstanding ++ [a]) settled := by
  apply (List.Perm.append_right [a] h).trans
  rw [List.append_assoc, List.append_assoc]
  exact List.Perm.append_left outstanding List.perm_append_comm

/-- A new obligation is settled on the spot. -/
theorem push_settled (h : Balanced opened outstanding settled) (a : α) :
    Balanced (opened ++ [a]) outstanding (settled ++ [a]) := by
  unfold Balanced
  rw [← List.append_assoc]
  exact List.Perm.append_right [a] h

/-- Some of what is outstanding is settled at once. -/
theorem settle_some (h : Balanced opened outstanding settled) {rest now : List α}
    (hperm : outstanding.Perm (rest ++ now)) : Balanced opened rest (settled ++ now) := by
  refine h.trans ((List.Perm.append_right settled hperm).trans ?_)
  rw [List.append_assoc]
  exact List.Perm.append_left rest List.perm_append_comm

/-- An outstanding obligation is settled. -/
theorem settle [DecidableEq α] (h : Balanced opened outstanding settled) {a : α}
    (ha : a ∈ outstanding) : Balanced opened (outstanding.erase a) (settled ++ [a]) := by
  have hperm : outstanding.Perm (outstanding.erase a ++ [a]) :=
    (List.perm_cons_erase ha).trans (List.perm_append_singleton a _).symm
  exact h.settle_some hperm

/-- Everything outstanding is settled at once. -/
theorem settle_all (h : Balanced opened outstanding settled) :
    Balanced opened [] (settled ++ outstanding) :=
  h.settle_some (List.Perm.refl outstanding)

theorem mem_opened (h : Balanced opened outstanding settled) (a : α) :
    a ∈ opened ↔ a ∈ outstanding ∨ a ∈ settled := by
  rw [List.Perm.mem_iff h, List.mem_append]

variable (hn : opened.Nodup)
include hn

theorem nodup_outstanding (h : Balanced opened outstanding settled) : outstanding.Nodup :=
  (List.nodup_append.mp (h.nodup_iff.mp hn)).1

theorem nodup_settled (h : Balanced opened outstanding settled) : settled.Nodup :=
  (List.nodup_append.mp (h.nodup_iff.mp hn)).2.1

/-- No obligation is settled twice. -/
theorem count_settled_le_one [DecidableEq α] (h : Balanced opened outstanding settled)
    (a : α) : settled.count a ≤ 1 :=
  List.nodup_iff_count_le_one.mp (h.nodup_settled hn) a

end Balanced

end Ledger
