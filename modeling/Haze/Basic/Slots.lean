import Mathlib.Data.List.ReduceOption
import Mathlib.Data.List.Zip
import Mathlib.Tactic.Common

set_option autoImplicit false

/-! # Slots with keys

A list of keys and a list of slots of the same length, each of which is empty or holds a value.
A value is put in every slot of its key (`fill`). When these are empty (`Free`), the values held
afterwards are the old ones and one copy of the new one for each occurrence of the key.
-/

namespace Slots

variable {κ α : Type*} {k : κ} {x : α} {keys : List κ} {slots : List (Option α)}

/-- Every slot of the key `k` is empty. -/
def Free (k : κ) (keys : List κ) (slots : List (Option α)) : Prop :=
  ∀ slot ∈ keys.zip slots, slot.1 = k → slot.2 = none

theorem Free.getElem? (h : Free k keys slots) (hlength : slots.length = keys.length) {i : Nat}
    (hi : keys[i]? = some k) : slots[i]? = some none := by
  obtain ⟨hlt, hkey⟩ := List.getElem?_eq_some_iff.mp hi
  have hlt' : i < slots.length := by omega
  have hmem : (keys[i], slots[i]) ∈ keys.zip slots := by
    rw [← List.getElem_zip (h := by rw [List.length_zip]; omega)]
    exact List.getElem_mem _
  have hnone : slots[i] = none := h _ hmem hkey
  rw [List.getElem?_eq_getElem hlt', hnone]

theorem Free.tail {key : κ} {slot : Option α} (h : Free k (key :: keys) (slot :: slots)) :
    Free k keys slots :=
  fun s hs => h s (List.mem_cons_of_mem _ hs)

/-- Every value is in a slot of its key. -/
def Keyed (key : α → κ) (keys : List κ) (slots : List (Option α)) : Prop :=
  ∀ slot ∈ keys.zip slots, ∀ y ∈ slot.2, key y = slot.1

theorem Keyed.tail {key : α → κ} {k' : κ} {slot : Option α}
    (h : Keyed key (k' :: keys) (slot :: slots)) : Keyed key keys slots :=
  fun s hs => h s (List.mem_cons_of_mem _ hs)

/-- When every slot is filled, the values have the keys of the slots, in order. -/
theorem Keyed.map_eq {key : α → κ} {l : List α} (h : Keyed key keys (l.map some))
    (hlength : l.length = keys.length) : l.map key = keys := by
  induction keys generalizing l with
  | nil =>
      rw [List.length_nil, List.length_eq_zero_iff] at hlength
      rw [hlength, List.map_nil]
  | cons k' keys ih =>
      cases l with
      | nil => cases hlength
      | cons y l =>
          have hhead : key y = k' := h (k', some y) List.mem_cons_self y rfl
          have htail : l.map key = keys := ih h.tail (Nat.succ.inj hlength)
          rw [List.map_cons, hhead, htail]

/-- Where one value held shows that its key occurs once, no slot of its key is empty. -/
theorem getElem?_ne_none_of_count [DecidableEq κ] (hlength : slots.length = keys.length)
    (hcount : keys.count k = 1) {y : α} (hy : (k, some y) ∈ keys.zip slots) {i : Nat}
    (hi : keys[i]? = some k) : slots[i]? ≠ some none := by
  induction keys generalizing slots i with
  | nil => cases hi
  | cons k' keys ih =>
      cases slots with
      | nil => cases hlength
      | cons slot slots =>
          have hlength' : slots.length = keys.length := Nat.succ.inj hlength
          by_cases hk : k' = k
          · subst hk
            have hnone : k' ∉ keys := by
              rw [← List.count_eq_zero]
              rw [List.count_cons_self] at hcount
              omega
            have hfirst : slot = some y := by
              rcases List.mem_cons.mp hy with heq | hmem
              · exact (congrArg Prod.snd heq).symm
              · exact absurd (List.of_mem_zip hmem).1 hnone
            cases i with
            | zero => simp [hfirst]
            | succ i =>
                rw [List.getElem?_cons_succ] at hi
                exact absurd (List.mem_of_getElem? hi) hnone
          · rw [List.count_cons_of_ne hk] at hcount
            have hmem : (k, some y) ∈ keys.zip slots := by
              rcases List.mem_cons.mp hy with heq | hmem
              · exact absurd (congrArg Prod.fst heq).symm hk
              · exact hmem
            cases i with
            | zero =>
                rw [List.getElem?_cons_zero, Option.some.injEq] at hi
                exact absurd hi hk
            | succ i =>
                rw [List.getElem?_cons_succ] at hi ⊢
                exact ih hlength' hcount hmem hi

variable [DecidableEq κ]

/-- Put `x` in every slot of the key `k`. -/
def fill (k : κ) (x : α) (keys : List κ) (slots : List (Option α)) : List (Option α) :=
  List.zipWith (fun key slot => if key = k then some x else slot) keys slots

theorem fill_cons (k : κ) (x : α) (key : κ) (keys : List κ) (slot : Option α)
    (slots : List (Option α)) : fill k x (key :: keys) (slot :: slots) =
      (if key = k then some x else slot) :: fill k x keys slots := rfl

theorem length_fill (hlength : slots.length = keys.length) :
    (fill k x keys slots).length = keys.length := by
  rw [fill, List.length_zipWith, hlength, Nat.min_self]

theorem getElem?_fill (hlength : slots.length = keys.length) (i : Nat) :
    (fill k x keys slots)[i]? = if keys[i]? = some k then some (some x) else slots[i]? := by
  rw [fill, List.getElem?_zipWith]
  by_cases hi : i < keys.length
  · have hi' : i < slots.length := by omega
    simp only [List.getElem?_eq_getElem hi, List.getElem?_eq_getElem hi', Option.some.injEq]
    split <;> rfl
  · have hkeys : keys[i]? = none := List.getElem?_eq_none (by omega)
    have hslots : slots[i]? = none := List.getElem?_eq_none (by omega)
    simp [hkeys, hslots]

/-- The values that are held after `fill`. -/
theorem reduceOption_fill_perm (hlength : slots.length = keys.length)
    (hfree : Free k keys slots) :
    (fill k x keys slots).reduceOption.Perm
      (List.replicate (keys.count k) x ++ slots.reduceOption) := by
  induction keys generalizing slots with
  | nil =>
      have hnil : slots = [] := List.length_eq_zero_iff.mp hlength
      rw [hnil]
      exact List.Perm.refl _
  | cons key keys ih =>
      cases slots with
      | nil => cases hlength
      | cons slot slots =>
          have hrest := ih (Nat.succ.inj hlength) hfree.tail
          rw [fill_cons]
          by_cases hkey : key = k
          · have hnone : slot = none := hfree (key, slot) List.mem_cons_self hkey
            rw [if_pos hkey, hkey, hnone, List.count_cons_self, List.replicate_succ,
              List.reduceOption_cons_of_some, List.reduceOption_cons_of_none]
            exact hrest.cons x
          · rw [if_neg hkey, List.count_cons_of_ne hkey]
            cases slot with
            | none =>
                rw [List.reduceOption_cons_of_none, List.reduceOption_cons_of_none]
                exact hrest
            | some y =>
                rw [List.reduceOption_cons_of_some, List.reduceOption_cons_of_some]
                exact (hrest.cons y).trans List.perm_middle.symm

/-- What is in a slot after `fill` is the new value, or was there before. -/
theorem mem_zip_fill {key : κ} {y : α} (hy : (key, some y) ∈ keys.zip (fill k x keys slots)) :
    key = k ∧ y = x ∧ k ∈ keys ∨ (key, some y) ∈ keys.zip slots := by
  induction keys generalizing slots with
  | nil => cases hy
  | cons k' keys ih =>
      cases slots with
      | nil => cases hy
      | cons slot slots =>
          rw [fill_cons, List.zip_cons_cons] at hy
          rcases List.mem_cons.mp hy with heq | hmem
          · by_cases hk : k' = k
            · rw [if_pos hk, Prod.mk.injEq, Option.some.injEq] at heq
              exact Or.inl ⟨heq.1.trans hk, heq.2, hk ▸ List.mem_cons_self⟩
            · rw [if_neg hk] at heq
              rw [heq]
              exact Or.inr List.mem_cons_self
          · rcases ih hmem with ⟨hkey, hyx, hin⟩ | hold
            · exact Or.inl ⟨hkey, hyx, List.mem_cons_of_mem _ hin⟩
            · exact Or.inr (List.mem_cons_of_mem _ hold)

theorem Keyed.fill {key : α → κ} (h : Keyed key keys slots) (hx : key x = k) :
    Keyed key keys (fill k x keys slots) := by
  rintro ⟨key', slot⟩ hslot y hy
  rw [Option.mem_def] at hy
  dsimp only at hy ⊢
  subst hy
  rcases mem_zip_fill hslot with ⟨rfl, rfl, -⟩ | hold
  · exact hx
  · exact h _ hold y rfl

end Slots
