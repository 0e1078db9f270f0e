import Mathlib.Logic.Function.Defs
import Mathlib.Tactic.Common

set_option autoImplicit false

/-! # Numbered names

Names that have a stem in common and end in a number in decimal, as `%u` prints it. The number can
be read back from the name, so different numbers make different names.
-/

namespace Numbered

variable {stem : String} {c : Char}

theorem toList_append_toString (stem : String) (n : Nat) :
    (stem ++ toString n).toList = stem.toList ++ Nat.toDigits 10 n := by
  rw [String.toList_append, Nat.toString_eq_repr, Nat.toList_repr]

theorem append_toString_injective (stem : String) :
    Function.Injective (fun n : Nat => stem ++ toString n) := by
  intro n m h
  have hlist : (stem ++ toString n).toList = (stem ++ toString m).toList := congrArg _ h
  rw [toList_append_toString, toList_append_toString] at hlist
  have hdigits := List.append_cancel_left hlist
  calc n = Nat.ofDigitChars 10 (Nat.toDigits 10 n) 0 := Nat.ofDigitChars_ten_toDigits.symm
    _ = m := by rw [hdigits, Nat.ofDigitChars_ten_toDigits]

/-- A character that is neither in the stem nor a digit is not in the name. -/
theorem notMem_append_toString (hstem : c ∉ stem.toList) (hc : c.isDigit = false) (n : Nat) :
    c ∉ (stem ++ toString n).toList := by
  rw [toList_append_toString, List.mem_append, not_or]
  refine ⟨hstem, fun hmem => ?_⟩
  have hdigit := Nat.isDigit_of_mem_toDigits (by decide) (by decide) hmem
  rw [hc] at hdigit
  cases hdigit

end Numbered
