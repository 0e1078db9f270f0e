import Mathlib.Data.List.AList
import Mathlib.Tactic.Common

set_option autoImplicit false

/-! # Registries

Values are registered in a table under their keys, one after the other. A value whose key is taken
takes the place of the one that was there, so the table keeps them all exactly when no two have the
same key.
-/

namespace Registry

variable {α κ : Type*} [DecidableEq κ] {key : α → κ} {l : List α}
  {t : AList (fun _ : κ => α)} {k : κ}

/-- Register the values of a list. -/
def registerAll (key : α → κ) (l : List α) (t : AList (fun _ : κ => α)) :
    AList (fun _ : κ => α) :=
  l.foldl (fun t x => t.insert (key x) x) t

theorem lookup_registerAll_of_notMem (hk : k ∉ l.map key) :
    (registerAll key l t).lookup k = t.lookup k := by
  induction l generalizing t with
  | nil => rfl
  | cons x l ih =>
      rw [List.map_cons, List.mem_cons, not_or] at hk
      have hrest : (registerAll key (x :: l) t).lookup k = (t.insert (key x) x).lookup k := ih hk.2
      rw [hrest, AList.lookup_insert_ne hk.1]

/-- Every value of the list is found under its key. -/
def KeepsAll (key : α → κ) (l : List α) (t : AList (fun _ : κ => α)) : Prop :=
  ∀ x ∈ l, (registerAll key l t).lookup (key x) = some x

theorem keepsAll_of_inj (hinj : ∀ x ∈ l, ∀ y ∈ l, key x = key y → x = y) : KeepsAll key l t := by
  induction l generalizing t with
  | nil => exact fun x hx => by cases hx
  | cons y l ih =>
      have htail : ∀ x ∈ l, (registerAll key l (t.insert (key y) y)).lookup (key x) = some x :=
        ih (fun x hx z hz => hinj x (List.mem_cons_of_mem y hx) z (List.mem_cons_of_mem y hz))
      intro x hx
      show (registerAll key l (t.insert (key y) y)).lookup (key x) = some x
      by_cases hlater : key x ∈ l.map key
      · -- what has the key later on is the same value
        obtain ⟨z, hz, hkey⟩ := List.mem_map.mp hlater
        have heq : z = x := hinj z (List.mem_cons_of_mem y hz) x hx hkey
        rw [← heq]
        exact htail z hz
      · have hhead : x = y := by
          rcases List.mem_cons.mp hx with heq | hx
          · exact heq
          · exact absurd (List.mem_map_of_mem hx) hlater
        rw [lookup_registerAll_of_notMem hlater, hhead, AList.lookup_insert]

/-- The table keeps all values exactly when their keys tell them apart. -/
theorem keepsAll_iff :
    KeepsAll key l t ↔ ∀ x ∈ l, ∀ y ∈ l, key x = key y → x = y := by
  constructor
  · intro hkeeps x hx y hy hkey
    have hfound := hkeeps x hx
    rw [hkey, hkeeps y hy] at hfound
    exact (Option.some.inj hfound).symm
  · exact keepsAll_of_inj

end Registry
