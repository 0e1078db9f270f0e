import Mathlib.Tactic.Common

set_option autoImplicit false

/-! # Flag words

A flag word is a bit vector. `Has f m` says that some flag of `m` is set in `f`. Words are put
together by loops whose turns add flags; what such a loop ends with is the union over its turns
(`has_foldl`). A mask of one bit is a `Flag`; a word `Within` two flags is known when one knows
which of them it has (`Within.ext`).
-/

namespace Flags

variable {w : Nat} {f g m a b : BitVec w}

/-- Some flag of `m` is set in `f`. -/
def Has (f m : BitVec w) : Prop := f &&& m ≠ 0#w

instance : Decidable (Has f m) := inferInstanceAs (Decidable (f &&& m ≠ 0#w))

@[simp] theorem not_has_zero : ¬ Has 0#w m := by
  simp [Has]

@[simp] theorem has_or : Has (f ||| g) m ↔ Has f m ∨ Has g m := by
  unfold Has
  rw [BitVec.and_or_distrib_right, ne_eq, BitVec.or_eq_zero_iff, not_and_or]

/-- Flags that are added on a condition. -/
theorem has_ite_or {p : Prop} [Decidable p] :
    Has (if p then f ||| g else f) m ↔ Has f m ∨ (p ∧ Has g m) := by
  split <;> rename_i hp <;> simp [hp]

/-- A loop whose turns add flags. -/
theorem has_foldl {α : Type*} {turn : BitVec w → α → BitVec w} {p : α → Prop}
    (hturn : ∀ f x, Has (turn f x) m ↔ Has f m ∨ p x) (l : List α) (f : BitVec w) :
    Has (l.foldl turn f) m ↔ Has f m ∨ ∃ x ∈ l, p x := by
  induction l generalizing f with
  | nil => simp
  | cons x l ih =>
      rw [List.foldl_cons, ih, hturn, or_assoc]
      simp

/-! ## Single flags -/

/-- A mask that is set as a whole or not at all. -/
def Flag (m : BitVec w) : Prop := ∀ f, f &&& m = 0#w ∨ f &&& m = m

theorem flag_twoPow (i : Nat) : Flag (BitVec.twoPow w i) := by
  intro f
  rw [BitVec.and_twoPow]
  split
  · exact Or.inr rfl
  · exact Or.inl rfl

theorem Flag.and_eq (hm : Flag m) (h : Has f m ↔ Has g m) : f &&& m = g &&& m := by
  unfold Has at h
  rcases hm f with hf | hf <;> rcases hm g with hg | hg <;> rw [hf, hg] at h ⊢
  · have hm0 : m = 0#w := by simpa using h
    exact hm0.symm
  · simpa using h

/-! ## Words within a mask -/

/-- No flag outside of `m` is set in `f`. -/
def Within (f m : BitVec w) : Prop := f &&& m = f

instance : Decidable (Within f m) := inferInstanceAs (Decidable (f &&& m = f))

theorem within_zero : Within 0#w m := by
  simp [Within]

theorem Within.or (hf : Within f m) (hg : Within g m) : Within (f ||| g) m := by
  unfold Within at *
  rw [BitVec.and_or_distrib_right, hf, hg]

theorem Within.ite_or {p : Prop} [Decidable p] (hf : Within f m) (hg : Within g m) :
    Within (if p then f ||| g else f) m := by
  split
  · exact hf.or hg
  · exact hf

theorem Within.foldl {α : Type*} {turn : BitVec w → α → BitVec w}
    (hturn : ∀ f x, Within f m → Within (turn f x) m) (hf : Within f m) (l : List α) :
    Within (l.foldl turn f) m := by
  induction l generalizing f with
  | nil => exact hf
  | cons x l ih => exact ih (hturn f x hf)

/-- The words made of two flags. -/
theorem Within.cases (ha : Flag a) (hb : Flag b) (hf : Within f (a ||| b)) :
    f = 0#w ∨ f = a ∨ f = b ∨ f = a ||| b := by
  have hsplit : f = f &&& a ||| f &&& b := by rw [← BitVec.and_or_distrib_left, hf]
  rcases ha f with hfa | hfa <;> rcases hb f with hfb | hfb <;> rw [hfa, hfb] at hsplit
  · exact Or.inl (by simpa using hsplit)
  · exact Or.inr (Or.inr (Or.inl (by simpa using hsplit)))
  · exact Or.inr (Or.inl (by simpa using hsplit))
  · exact Or.inr (Or.inr (Or.inr hsplit))

/-- Words made of two flags that have the same ones. -/
theorem Within.ext (ha : Flag a) (hb : Flag b) (hf : Within f (a ||| b))
    (hg : Within g (a ||| b)) (hA : Has f a ↔ Has g a) (hB : Has f b ↔ Has g b) : f = g := by
  calc f = f &&& a ||| f &&& b := by rw [← BitVec.and_or_distrib_left, hf]
    _ = g &&& a ||| g &&& b := by rw [ha.and_eq hA, hb.and_eq hB]
    _ = g := by rw [← BitVec.and_or_distrib_left, hg]

end Flags
