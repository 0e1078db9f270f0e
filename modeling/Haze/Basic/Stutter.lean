import Mathlib.Data.List.Destutter

set_option autoImplicit false

/-! # Lists up to repetition

Two observers agree up to repetition when their lists are the same after each run of equal
elements has been made one (`List.destutter`). Here is what one more element does to such a list
(`destutter_concat`), and that it keeps its last element (`getLast?_destutter`).
-/

namespace Stutter

variable {α : Type*} [DecidableEq α] {l l' : List α} {x : α}

theorem destutter'_concat (l : List α) (a x : α) :
    (l ++ [x]).destutter' (· ≠ ·) a =
      if (a :: l).getLast? = some x then l.destutter' (· ≠ ·) a
      else l.destutter' (· ≠ ·) a ++ [x] := by
  induction l generalizing a with
  | nil =>
      rw [List.nil_append, List.destutter'_singleton]
      by_cases h : a = x <;> simp [h]
  | cons b l ih =>
      rw [List.cons_append, List.destutter'_cons, List.destutter'_cons, List.getLast?_cons_cons]
      by_cases h : a ≠ b
      · rw [if_pos h, if_pos h, ih b]
        split
        · rfl
        · rfl
      · have hab : a = b := not_not.mp h
        rw [if_neg h, if_neg h, ih a, hab]

/-- One more element is kept unless it repeats the last. -/
theorem destutter_concat (l : List α) (x : α) :
    (l ++ [x]).destutter (· ≠ ·) =
      if l.getLast? = some x then l.destutter (· ≠ ·) else l.destutter (· ≠ ·) ++ [x] := by
  cases l with
  | nil => simp
  | cons a l => exact destutter'_concat l a x

/-- A repetition goes unnoticed. -/
theorem destutter_concat_same (h : l.getLast? = some x) :
    (l ++ [x]).destutter (· ≠ ·) = l.destutter (· ≠ ·) := by
  rw [destutter_concat, if_pos h]

@[simp] theorem getLast?_destutter (l : List α) :
    (l.destutter (· ≠ ·)).getLast? = l.getLast? := by
  induction l using List.reverseRecOn with
  | nil => rfl
  | append_singleton l x ih =>
      rw [destutter_concat, List.getLast?_concat]
      split
      · rename_i hlast
        rw [ih, hlast]
      · exact List.getLast?_concat

/-- Lists that agree up to repetition end alike. -/
theorem getLast?_congr (h : l.destutter (· ≠ ·) = l'.destutter (· ≠ ·)) :
    l.getLast? = l'.getLast? := by
  rw [← getLast?_destutter l, h, getLast?_destutter]

/-- Agreement is kept when both go on with the same element. -/
theorem concat_congr (h : l.destutter (· ≠ ·) = l'.destutter (· ≠ ·)) (x : α) :
    (l ++ [x]).destutter (· ≠ ·) = (l' ++ [x]).destutter (· ≠ ·) := by
  rw [destutter_concat, destutter_concat, getLast?_congr h, h]

/-- Agreement is kept under any map. -/
theorem map_congr {β : Type*} [DecidableEq β] (f : α → β)
    (h : l.destutter (· ≠ ·) = l'.destutter (· ≠ ·)) :
    (l.map f).destutter (· ≠ ·) = (l'.map f).destutter (· ≠ ·) := by
  suffices ∀ l : List α, (l.map f).destutter (· ≠ ·) =
      ((l.destutter (· ≠ ·)).map f).destutter (· ≠ ·) by
    rw [this l, this l', h]
  intro l
  induction l using List.reverseRecOn with
  | nil => rfl
  | append_singleton l x ih =>
      rw [List.map_append, destutter_concat l x]
      split
      · rename_i hlast
        rw [← ih]
        exact destutter_concat_same (by rw [List.getLast?_map, hlast]; rfl)
      · rw [List.map_append]
        exact concat_congr ih (f x)

end Stutter
