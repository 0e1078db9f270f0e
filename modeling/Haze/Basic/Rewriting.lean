import Mathlib.Data.List.Infix
import Mathlib.Tactic.Common

set_option autoImplicit false

/-! # Replacing a word in a text

`replace p r s` puts the word `r` in the place of every occurrence of the word `p` in `s`, from
left to right and without overlap. When `s` is made of pieces each of which is `p` or is
`Inert` for it, so that `p` begins nowhere inside the piece whatever follows, the replacement
goes piece by piece (`replace_flatMap`).
-/

namespace Rewriting

variable {α β : Type*} [DecidableEq α]

/-- The rest of a text, the first `k` letters of which belong to an occurrence. -/
def replaceFrom (p r : List α) : Nat → List α → List α
  | _, [] => []
  | k + 1, _ :: s => replaceFrom p r k s
  | 0, c :: s =>
      if p.isPrefixOf (c :: s) then r ++ replaceFrom p r (p.length - 1) s
      else c :: replaceFrom p r 0 s

/-- `r` in the place of every occurrence of `p`. -/
def replace (p r s : List α) : List α := replaceFrom p r 0 s

/-- No occurrence of `p` begins inside `w`. -/
def Inert (p w : List α) : Prop := ∀ v, v ≠ [] → v <:+ w → ∀ s, ¬ p <+: v ++ s

omit [DecidableEq α] in
theorem Inert.tail {p w : List α} {c : α} (h : Inert p (c :: w)) : Inert p w := by
  intro v hv hsuffix
  exact h v hv (hsuffix.trans (List.suffix_cons c w))

omit [DecidableEq α] in
/-- A word that does not have the first letter of `p`. -/
theorem inert_of_notMem {c : α} {p w : List α} (h : c ∉ w) : Inert (c :: p) w := by
  intro v hv hsuffix s hprefix
  cases v with
  | nil => exact hv rfl
  | cons d v =>
      rw [List.cons_append, List.cons_prefix_cons] at hprefix
      obtain ⟨rfl, -⟩ := hprefix
      exact h (hsuffix.subset (List.mem_cons_self))

omit [DecidableEq α] in
/-- A word that has the first letter of `p` at most in front, and parts from `p` before either
ends. -/
theorem inert_of_head {c d : α} {p w : List α} (hw : c ∉ w) (hp : ¬ c :: p <+: d :: w)
    (hpw : ¬ d :: w <+: c :: p) : Inert (c :: p) (d :: w) := by
  intro v hv hsuffix s hprefix
  rcases List.suffix_cons_iff.mp hsuffix with rfl | htail
  · rcases List.prefix_or_prefix_of_prefix hprefix (List.prefix_append (d :: w) s) with h | h
    · exact hp h
    · exact hpw h
  · exact inert_of_notMem hw v hv htail s hprefix

theorem replaceFrom_append (p r : List α) (v s : List α) :
    replaceFrom p r v.length (v ++ s) = replace p r s := by
  induction v with
  | nil => rfl
  | cons c v ih => exact ih

/-- An occurrence at the front. -/
theorem replace_append_self {p : List α} (hp : p ≠ []) (r s : List α) :
    replace p r (p ++ s) = r ++ replace p r s := by
  cases p with
  | nil => exact absurd rfl hp
  | cons c p =>
      have hprefix : (c :: p).isPrefixOf (c :: (p ++ s)) = true := by
        rw [List.isPrefixOf_iff_prefix]
        exact List.prefix_append (c :: p) s
      show (if (c :: p).isPrefixOf (c :: (p ++ s)) then
        r ++ replaceFrom (c :: p) r p.length (p ++ s) else _) = _
      rw [if_pos hprefix, replaceFrom_append]

/-- An inert piece at the front. -/
theorem replace_append_inert {p w : List α} (hw : Inert p w) (r s : List α) :
    replace p r (w ++ s) = w ++ replace p r s := by
  induction w with
  | nil => rfl
  | cons c w ih =>
      have hnot : ¬ p.isPrefixOf (c :: (w ++ s)) = true := by
        rw [List.isPrefixOf_iff_prefix]
        exact hw (c :: w) (List.cons_ne_nil c w) (List.suffix_refl _) s
      have hrest : replaceFrom p r 0 (w ++ s) = w ++ replace p r s := ih hw.tail
      show (if p.isPrefixOf (c :: (w ++ s)) then _ else c :: replaceFrom p r 0 (w ++ s)) = _
      rw [if_neg hnot, hrest]
      rfl

/-- **A replacement goes piece by piece** when every piece is the word or is inert for it. -/
theorem replace_flatMap {p : List α} (hp : p ≠ []) (r : List α) {f g : β → List α} {l : List β}
    (h : ∀ x ∈ l, (f x = p ∧ g x = r) ∨ (Inert p (f x) ∧ g x = f x)) :
    replace p r (l.flatMap f) = l.flatMap g := by
  induction l with
  | nil => rfl
  | cons x l ih =>
      have hrest := ih (fun y hy => h y (List.mem_cons_of_mem x hy))
      rw [List.flatMap_cons, List.flatMap_cons]
      rcases h x List.mem_cons_self with ⟨hf, hg⟩ | ⟨hinert, hg⟩
      · rw [hf, hg, replace_append_self hp, hrest]
      · rw [hg, replace_append_inert hinert, hrest]

omit [DecidableEq α] in
/-- Where a letter stands that the pieces have at most in front. -/
theorem flatMap_eq_append_cons {f : β → List α} {x : α} (hf : ∀ b, x ∉ (f b).tail)
    {l : List β} {u v : List α} (h : l.flatMap f = u ++ x :: v) :
    ∃ l₁ b l₂, l = l₁ ++ b :: l₂ ∧ u = l₁.flatMap f ∧ x :: v = f b ++ l₂.flatMap f ∧
      ∃ w, f b = x :: w := by
  induction l generalizing u with
  | nil => exact absurd h.symm (List.append_ne_nil_of_right_ne_nil u (List.cons_ne_nil x v))
  | cons b l ih =>
      rw [List.flatMap_cons] at h
      rcases List.append_eq_append_iff.mp h with ⟨u', rfl, hrest⟩ | ⟨w, hb, hrest⟩
      · -- the letter stands in a later piece
        obtain ⟨l₁, b', l₂, rfl, rfl, hv, hw⟩ := ih hrest
        exact ⟨b :: l₁, b', l₂, rfl, (List.flatMap_cons ..).symm, hv, hw⟩
      · cases w with
        | nil =>
            have hu : u = f b := by rw [hb, List.append_nil]
            obtain ⟨l₁, b', l₂, rfl, hnil, hv, hw⟩ := ih (u := []) hrest.symm
            refine ⟨b :: l₁, b', l₂, rfl, ?_, hv, hw⟩
            rw [List.flatMap_cons, ← hnil, List.append_nil, hu]
        | cons y w =>
            obtain ⟨rfl, rfl⟩ := List.cons.inj hrest
            cases u with
            | nil => exact ⟨[], b, l, rfl, rfl, by rw [hb]; rfl, w, hb⟩
            | cons z u =>
                have htail : x ∈ (f b).tail := by
                  rw [hb, List.cons_append, List.tail_cons]
                  exact List.mem_append_right u List.mem_cons_self
                exact absurd htail (hf b)

end Rewriting
