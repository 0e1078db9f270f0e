import Haze.Basic.Runs
import Mathlib.Logic.Function.Basic

set_option autoImplicit false

/-! # Followers of a server

A server answers queries, one answer for each key, and emits signals, each of which carries a key
and a value. A follower asks once and applies the signals that it hears (`follow`). It knows what
the server would answer as long as the signals tell every change (`Tells`), no more and no less
(`follow_eq_iff`). For a server that is a machine this is a condition on its steps, and followers
know the answers all along a run exactly when every step of the run meets it
(`forall_prefix_follows_iff`).
-/

namespace Mirror

variable {κ ν : Type*} [DecidableEq κ]

/-- What a follower makes of the answers that it knows when it hears the signals. -/
def follow (view : κ → ν) (signals : List (κ × ν)) : κ → ν :=
  signals.foldl (fun view e => Function.update view e.1 e.2) view

/-- The last value that the signals give to the key. -/
def last (k : κ) : List (κ × ν) → Option ν
  | [] => none
  | e :: signals => (last k signals).or (if e.1 = k then some e.2 else none)

/-- The signals tell how the answers `q` have become `q'`: the last value of a key is its new
answer, and the other keys keep theirs. -/
def Tells (q q' : κ → ν) (signals : List (κ × ν)) : Prop :=
  ∀ k, (last k signals).getD (q k) = q' k

variable {q q' q'' view : κ → ν} {signals signals' : List (κ × ν)} {k : κ} {v : ν}

@[simp] theorem follow_nil : follow view [] = view := rfl

theorem follow_append : follow view (signals ++ signals') = follow (follow view signals) signals' :=
  List.foldl_append

theorem follow_apply : follow view signals k = (last k signals).getD (view k) := by
  induction signals generalizing view with
  | nil => rfl
  | cons e signals ih =>
      have hcons : follow view (e :: signals) k =
          follow (Function.update view e.1 e.2) signals k := rfl
      rw [hcons, ih, last]
      by_cases hk : e.1 = k
      · subst hk
        cases last e.1 signals <;> simp
      · rw [if_neg hk, Option.or_none, Function.update_of_ne (Ne.symm hk)]

theorem last_append :
    last k (signals ++ signals') = (last k signals').or (last k signals) := by
  induction signals with
  | nil => simp [last]
  | cons e signals ih => rw [List.cons_append, last, ih, last, Option.or_assoc]

/-- Nothing was said of the key. -/
theorem last_eq_none (h : ∀ e ∈ signals, e.1 ≠ k) : last k signals = none := by
  induction signals with
  | nil => rfl
  | cons e signals ih =>
      rw [last, ih (fun e he => h e (List.mem_cons_of_mem _ he)),
        if_neg (h e List.mem_cons_self), Option.none_or]

/-- **A follower knows the answers exactly when it has been told.** -/
theorem follow_eq_iff : follow q signals = q' ↔ Tells q q' signals := by
  constructor
  · rintro rfl k
    exact follow_apply.symm
  · intro h
    funext k
    rw [follow_apply, h k]

/-- Without signals nothing may change. -/
theorem tells_nil : Tells q q' [] ↔ ∀ k, q' k = q k := by
  constructor
  · intro h k
    exact (h k).symm
  · intro h k
    exact (h k).symm

theorem Tells.append (h : Tells q q' signals) (h' : Tells q' q'' signals') :
    Tells q q'' (signals ++ signals') := by
  rw [← follow_eq_iff] at h h' ⊢
  rw [follow_append, h, h']

/-- One signal. -/
theorem tells_singleton : Tells q q' [(k, v)] ↔ q' k = v ∧ ∀ k', k' ≠ k → q' k' = q k' := by
  constructor
  · intro h
    refine ⟨?_, fun k' hne => ?_⟩
    · have hk := h k
      simpa [last] using hk.symm
    · have hk := h k'
      simpa [last, hne.symm] using hk.symm
  · rintro ⟨hk, hother⟩ k'
    by_cases hne : k' = k
    · subst hne
      simp [last, hk]
    · simp [last, Ne.symm hne, hother k' hne]

/-- Signals that are made by asking for the new answers are right about the keys they name. -/
theorem tells_map_iff (keys : List κ) :
    Tells q q' (keys.map (fun k => (k, q' k))) ↔ ∀ k, k ∉ keys → q' k = q k := by
  have hlast : ∀ k, last k (keys.map (fun k => (k, q' k))) =
      if k ∈ keys then some (q' k) else none := by
    intro k
    induction keys with
    | nil => rfl
    | cons key keys ih =>
        rw [List.map_cons, last, ih]
        by_cases hkeys : k ∈ keys
        · simp [hkeys]
        · by_cases hkey : key = k
          · subst hkey
            simp [hkeys]
          · simp [hkeys, hkey, Ne.symm hkey]
  constructor
  · intro h k hk
    have hk' := h k
    rw [hlast, if_neg hk] at hk'
    exact hk'.symm
  · intro h k
    rw [hlast]
    split_ifs with hk
    · rfl
    · exact (h k hk).symm

/-! ## News -/

/-- No signal tells a follower what it knows already. -/
def News (view : κ → ν) : List (κ × ν) → Prop
  | [] => True
  | e :: signals => view e.1 ≠ e.2 ∧ News (Function.update view e.1 e.2) signals

theorem news_append : News view (signals ++ signals') ↔
    News view signals ∧ News (follow view signals) signals' := by
  induction signals generalizing view with
  | nil => simp [News]
  | cons e signals ih =>
      rw [List.cons_append, News, News, ih, and_assoc]
      rfl

/-! ## Along a run -/

variable {σ ε φ : Type*} {M : Machine σ ε φ} {query : σ → κ → ν} {emitted : σ → List (κ × ν)}

/-- A follower that has asked in the state `s₀`, before anything was emitted. -/
def Follows (query : σ → κ → ν) (emitted : σ → List (κ × ν)) (s₀ s : σ) : Prop :=
  follow (query s₀) (emitted s) = query s

/-- **Followers along a run.** They know the answers in every state of a legal run exactly when all
its steps tell what they change. -/
theorem forall_prefix_follows_iff {legal ok : σ → ε → Prop}
    (herror : ∀ s e f, legal s e → M.step s e = .error f → ok s e)
    (hstep : ∀ s e s', legal s e → M.step s e = .ok s' → ∃ new, emitted s' = emitted s ++ new ∧
      (Tells (query s) (query s') new ↔ ok s e))
    {s₀ : σ} {es : List ε} (hs₀ : emitted s₀ = []) (hlegal : M.Meets legal s₀ es) :
    (∀ es₁ es₂ s, es = es₁ ++ es₂ → M.run s₀ es₁ = .ok s → Follows query emitted s₀ s) ↔
      M.Meets ok s₀ es := by
  refine Machine.forall_prefix_iff_meets_of_legal (I := fun _ s => Follows query emitted s₀ s)
    (fun _ s e f _ hleg hst => herror s e f hleg hst) (fun _ s e s' hs hleg hst => ?_) ?_ hlegal
  · obtain ⟨new, hnew, hiff⟩ := hstep s e s' hleg hst
    have hknown : follow (query s₀) (emitted s) = query s := hs
    unfold Follows
    rw [hnew, follow_append, hknown, follow_eq_iff]
    exact hiff
  · unfold Follows
    rw [hs₀, follow_nil]

end Mirror
