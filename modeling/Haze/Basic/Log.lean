import Mathlib.Data.List.Induction
import Mathlib.Data.List.Nodup
import Mathlib.Tactic.Common

set_option autoImplicit false

/-! # Logs

A log grows at its end. `Each p l` says that every entry of `l` is right after the entries
before it: `p l₁ c` for every entry `c` with the entries `l₁` before it. What must never
happen after something else has happened, or twice, is stated so; a new entry is checked
against the log as it is (`each_concat`), and entries that are always right are added without
looking (`Each.append`).

`Turn` is for entries that open something and entries that close it again: they come in turn,
and the last of them says whether it is open.
-/

namespace Log

variable {α β : Type*} {p q : List α → α → Prop} {l l' : List α} {c : α}

/-- Every entry is right after the entries before it. -/
def Each (p : List α → α → Prop) (l : List α) : Prop :=
  ∀ l₁ c l₂, l = l₁ ++ c :: l₂ → p l₁ c

theorem each_nil : Each p [] := by
  intro l₁ c l₂ h
  simp at h

/-- A log is extended by an entry that is right. -/
theorem each_concat : Each p (l ++ [c]) ↔ Each p l ∧ p l c := by
  constructor
  · intro h
    refine ⟨fun l₁ d l₂ heq => h l₁ d (l₂ ++ [c]) ?_, h l c [] rfl⟩
    rw [heq, List.append_assoc, List.cons_append]
  · rintro ⟨h, hc⟩ l₁ d l₂ heq
    rcases List.eq_nil_or_concat l₂ with rfl | ⟨l₃, e, rfl⟩
    · obtain ⟨rfl, hd⟩ := List.append_inj' heq rfl
      cases hd
      exact hc
    · -- the last entry is another one
      have heq' : l ++ [c] = (l₁ ++ d :: l₃) ++ [e] := by
        rw [heq, List.concat_eq_append, List.append_assoc, List.cons_append]
      obtain ⟨rfl, -⟩ := List.append_inj' heq' rfl
      exact h l₁ d l₃ rfl

/-- Entries that are right in any place. -/
theorem Each.append (h : Each p l) (hl' : ∀ c ∈ l', ∀ l₁, p l₁ c) : Each p (l ++ l') := by
  induction l' using List.reverseRecOn with
  | nil => simpa using h
  | append_singleton l' c ih =>
      rw [← List.append_assoc]
      refine each_concat.mpr ⟨ih (fun d hd => hl' d (List.mem_append_left _ hd)), ?_⟩
      exact hl' c (by simp) _

theorem filterMap_concat (f : α → Option β) (l : List α) (c : α) :
    (l ++ [c]).filterMap f = l.filterMap f ++ (f c).toList := by
  cases h : f c <;> simp [h]

/-- An entry that `f` does not read. -/
theorem filterMap_concat_none {f : α → Option β} (hf : f c = none) :
    (l ++ [c]).filterMap f = l.filterMap f := by
  rw [filterMap_concat, hf, Option.toList_none, List.append_nil]

/-- An entry that `f` reads as `x`. -/
theorem filterMap_concat_some {f : α → Option β} {x : β} (hf : f c = some x) :
    (l ++ [c]).filterMap f = l.filterMap f ++ [x] := by
  rw [filterMap_concat, hf, Option.toList_some]

theorem Each.mono (h : Each p l) (hpq : ∀ l₁ c, p l₁ c → q l₁ c) : Each q l :=
  fun l₁ c l₂ heq => hpq l₁ c (h l₁ c l₂ heq)

/-- An entry of the log was right when it was made. -/
theorem Each.of_mem (h : Each p l) (hc : c ∈ l) : ∃ l₁, p l₁ c := by
  obtain ⟨l₁, l₂, rfl⟩ := List.append_of_mem hc
  exact ⟨l₁, h l₁ c l₂ rfl⟩

/-- What a right entry never repeats occurs once. -/
theorem Each.nodup_filterMap {f : α → Option β} (h : Each p l)
    (hnew : ∀ l₁ c x, p l₁ c → f c = some x → x ∉ l₁.filterMap f) :
    (l.filterMap f).Nodup := by
  induction l using List.reverseRecOn with
  | nil => exact List.nodup_nil
  | append_singleton l c ih =>
      obtain ⟨hl, hc⟩ := each_concat.mp h
      cases hf : f c with
      | none =>
          rw [filterMap_concat_none hf]
          exact ih hl
      | some x =>
          rw [filterMap_concat_some hf]
          refine List.nodup_append_comm.mp (List.nodup_cons.mpr ⟨hnew l c x hc hf, ih hl⟩)

/-- What a right entry is the first of occurs at most once. -/
theorem Each.length_filterMap_le_one {f : α → Option β} (h : Each p l)
    (hfirst : ∀ l₁ c x, p l₁ c → f c = some x → l₁.filterMap f = []) :
    (l.filterMap f).length ≤ 1 := by
  induction l using List.reverseRecOn with
  | nil => simp
  | append_singleton l c ih =>
      obtain ⟨hl, hc⟩ := each_concat.mp h
      cases hf : f c with
      | none =>
          rw [filterMap_concat_none hf]
          exact ih hl
      | some x =>
          rw [filterMap_concat_some hf, hfirst l c x hc hf]
          simp

/-! ## Opening and closing in turn -/

/-- The entries that open and those that close come in turn, an opening one first. -/
def Alternates (opens closes : α → Bool) : List α → Prop :=
  Each (fun l c => (opens c → l.countP opens = l.countP closes) ∧
    (closes c → l.countP opens = l.countP closes + 1))

/-- The entries come in turn, and it is `up` whether an opening one was the last. -/
structure Turn (opens closes : α → Bool) (up : Prop) (l : List α) : Prop where
  alternates : Alternates opens closes l
  opened : up → l.countP opens = l.countP closes + 1
  closed : ¬ up → l.countP opens = l.countP closes

namespace Turn

variable {opens closes : α → Bool} {up : Prop}

theorem nil (hup : ¬ up) : Turn opens closes up [] where
  alternates := each_nil
  opened := fun h => absurd h hup
  closed := fun _ => rfl

theorem congr {up' : Prop} (h : Turn opens closes up l) (hup : up ↔ up') :
    Turn opens closes up' l where
  alternates := h.alternates
  opened := fun h' => h.opened (hup.mpr h')
  closed := fun h' => h.closed (fun hc => h' (hup.mp hc))

/-- An entry that neither opens nor closes. -/
theorem other (h : Turn opens closes up l) (ho : opens c = false) (hc : closes c = false) :
    Turn opens closes up (l ++ [c]) := by
  have hopens : (l ++ [c]).countP opens = l.countP opens := by simp [ho]
  have hcloses : (l ++ [c]).countP closes = l.countP closes := by simp [hc]
  refine ⟨each_concat.mpr ⟨h.alternates, by simp [ho], by simp [hc]⟩, fun hup => ?_,
    fun hup => ?_⟩
  · rw [hopens, hcloses]
    exact h.opened hup
  · rw [hopens, hcloses]
    exact h.closed hup

/-- An entry that opens while it is closed. -/
theorem push {up' : Prop} (h : Turn opens closes up l) (hup : ¬ up) (hup' : up')
    (ho : opens c = true) (hc : closes c = false) : Turn opens closes up' (l ++ [c]) := by
  have hopens : (l ++ [c]).countP opens = l.countP opens + 1 := by simp [ho]
  have hcloses : (l ++ [c]).countP closes = l.countP closes := by simp [hc]
  have heven := h.closed hup
  refine ⟨each_concat.mpr ⟨h.alternates, fun _ => heven, by simp [hc]⟩, fun _ => ?_,
    fun hnot => absurd hup' hnot⟩
  omega

/-- An entry that closes while it is open. -/
theorem pop {up' : Prop} (h : Turn opens closes up l) (hup : up) (hup' : ¬ up')
    (ho : opens c = false) (hc : closes c = true) : Turn opens closes up' (l ++ [c]) := by
  have hopens : (l ++ [c]).countP opens = l.countP opens := by simp [ho]
  have hcloses : (l ++ [c]).countP closes = l.countP closes + 1 := by
    simp [hc]
  have hodd := h.opened hup
  refine ⟨each_concat.mpr ⟨h.alternates, by simp [ho], fun _ => hodd⟩,
    fun h' => absurd h' hup', fun _ => ?_⟩
  omega

end Turn

end Log
