import Mathlib.Data.List.Pairwise
import Mathlib.Logic.Function.Basic
import Mathlib.Tactic.Common

set_option autoImplicit false

/-! # Entries that write to cells of their own

A loop goes through a list of entries, each of which may write to one cell of a store; what it
writes may depend on what the cell holds. When no two entries write to the same cell
(`TargetsDisjoint`), every cell ends with what its entry writes, or with what it held, and the
order of the entries makes no difference (`writeAll_perm`).
-/

namespace Writes

variable {ε β γ : Type*} [DecidableEq β] (target : ε → Option β) (value : ε → γ → γ)

/-- The write of one entry. -/
def write (m : β → γ) (e : ε) : β → γ :=
  match target e with
  | none => m
  | some b => Function.update m b (value e (m b))

/-- The writes of all entries, in their order. -/
def writeAll (m : β → γ) (es : List ε) : β → γ := es.foldl (write target value) m

/-- No two entries write to the same cell. -/
def TargetsDisjoint (es : List ε) : Prop :=
  es.Pairwise (fun e e' => ∀ b, target e = some b → target e' ≠ some b)

variable {target value}

@[simp] theorem writeAll_cons (m : β → γ) (e : ε) (es : List ε) :
    writeAll target value m (e :: es) = writeAll target value (write target value m e) es := rfl

theorem write_of_target {m : β → γ} {e : ε} {b : β} (h : target e = some b) :
    write target value m e b = value e (m b) := by
  unfold write
  rw [h]
  exact Function.update_self b _ m

theorem write_of_ne {m : β → γ} {e : ε} {b : β} (h : target e ≠ some b) :
    write target value m e b = m b := by
  unfold write
  cases hb' : target e with
  | none => rfl
  | some b' =>
      have hne : b ≠ b' := by
        rintro rfl
        exact h hb'
      exact Function.update_of_ne hne _ m

omit [DecidableEq β] in
theorem TargetsDisjoint.perm {es es' : List ε} (h : TargetsDisjoint target es)
    (hperm : es.Perm es') : TargetsDisjoint target es' :=
  List.Pairwise.perm h hperm (fun hne b hb' hb => hne b hb hb')

/-- A cell that no entry writes to keeps what it holds. -/
theorem writeAll_of_ne {m : β → γ} {es : List ε} {b : β} (h : ∀ e ∈ es, target e ≠ some b) :
    writeAll target value m es b = m b := by
  induction es generalizing m with
  | nil => rfl
  | cons e es ih =>
      rw [writeAll_cons, ih (fun e' he' => h e' (List.mem_cons_of_mem e he'))]
      exact write_of_ne (h e List.mem_cons_self)

/-- A cell that an entry writes to ends with what that entry writes. -/
theorem writeAll_of_mem {m : β → γ} {es : List ε} (hdis : TargetsDisjoint target es) {e : ε}
    (he : e ∈ es) {b : β} (hb : target e = some b) :
    writeAll target value m es b = value e (m b) := by
  induction es generalizing m with
  | nil => cases he
  | cons e' es ih =>
      obtain ⟨hhead, htail⟩ := List.pairwise_cons.mp hdis
      rw [writeAll_cons]
      rcases List.mem_cons.mp he with rfl | hmem
      · rw [writeAll_of_ne (fun e' he' => hhead e' he' b hb), write_of_target hb]
      · have hne : target e' ≠ some b := fun hb' => hhead e hmem b hb' hb
        rw [ih htail hmem, write_of_ne hne]

/-- **The order makes no difference.** -/
theorem writeAll_perm {m : β → γ} {es es' : List ε} (hdis : TargetsDisjoint target es)
    (hperm : es.Perm es') : writeAll target value m es = writeAll target value m es' := by
  funext b
  by_cases h : ∃ e ∈ es, target e = some b
  · obtain ⟨e, he, hb⟩ := h
    rw [writeAll_of_mem hdis he hb, writeAll_of_mem (hdis.perm hperm) (hperm.mem_iff.mp he) hb]
  · have hne : ∀ e ∈ es, target e ≠ some b := fun e he hb => h ⟨e, he, hb⟩
    rw [writeAll_of_ne hne, writeAll_of_ne (fun e he => hne e (hperm.mem_iff.mpr he))]

end Writes
