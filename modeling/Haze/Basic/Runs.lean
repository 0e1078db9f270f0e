import Mathlib.Tactic.Common

set_option autoImplicit false

/-! # Runs of a machine whose steps may fail

A `Machine` has states, events and a step function that may stop with a fault. A run feeds
it a list of events. Two rules carry a property along every run:

* `run_invariant`: what every successful step preserves holds after every successful run;
* `run_ok_of_invariant`: when the invariant and the condition on the coming event also rule
  faults out, the run does not fail and the invariant holds at its end.

In both the steps may be subject to a condition on the state and the event (`Meets`), and in
both the invariant may speak of the events so far (`run_history`, `run_ok_of_history`).

The prefixes of a run are runs themselves, so a statement about the end of every run is a
statement about every state that is reached.
-/

/-- A computation goes through when its parts do. -/
theorem Except.bind_eq_ok {φ : Type*} {α β : Type _} {x : Except φ α} {f : α → Except φ β} {b : β} :
    x >>= f = .ok b ↔ ∃ a, x = .ok a ∧ f a = .ok b := by
  cases x with
  | ok a =>
      constructor
      · intro h
        exact ⟨a, rfl, h⟩
      · rintro ⟨a', ha', h⟩
        cases ha'
        exact h
  | error fault =>
      constructor
      · intro h
        cases h
      · rintro ⟨a', ha', -⟩
        cases ha'

theorem Except.map_eq_ok {φ : Type*} {α β : Type _} {x : Except φ α} {f : α → β} {b : β} :
    x.map f = .ok b ↔ ∃ a, x = .ok a ∧ f a = b := by
  cases x with
  | ok a => simp [Except.map]
  | error fault => simp [Except.map]

/-- A state machine with events `ε` whose steps may stop with a fault in `φ`. -/
structure Machine (σ ε φ : Type*) where
  step : σ → ε → Except φ σ

namespace Machine

variable {σ ε φ : Type*} (M : Machine σ ε φ)

/-- Feed the events to the machine, stopping at the first fault. -/
def run (s : σ) (es : List ε) : Except φ σ := es.foldlM M.step s

@[simp] theorem run_nil (s : σ) : M.run s [] = .ok s := rfl

theorem run_cons_ok {s s' : σ} {e : ε} (es : List ε) (h : M.step s e = .ok s') :
    M.run s (e :: es) = M.run s' es := by
  simp only [run, List.foldlM_cons, h]; rfl

theorem run_cons_error {s : σ} {e : ε} {f : φ} (es : List ε) (h : M.step s e = .error f) :
    M.run s (e :: es) = .error f := by
  simp only [run, List.foldlM_cons, h]; rfl

/-- Every event of the run satisfies `ok` in the state in which it is taken. -/
def Meets (ok : σ → ε → Prop) : σ → List ε → Prop
  | _, [] => True
  | s, e :: es => ok s e ∧
      match M.step s e with
      | .ok s' => Meets ok s' es
      | .error _ => True

variable {M}

@[simp] theorem meets_nil (ok : σ → ε → Prop) (s : σ) : M.Meets ok s [] := trivial

theorem Meets.head {ok : σ → ε → Prop} {s : σ} {e : ε} {es : List ε}
    (h : M.Meets ok s (e :: es)) : ok s e := h.1

theorem Meets.tail {ok : σ → ε → Prop} {s s' : σ} {e : ε} {es : List ε}
    (h : M.Meets ok s (e :: es)) (hs : M.step s e = .ok s') : M.Meets ok s' es := by
  have h2 := h.2
  rw [hs] at h2
  exact h2

/-- A condition on the events alone. -/
theorem meets_of_forall {p : ε → Prop} {es : List ε} (h : ∀ e ∈ es, p e) (s : σ) :
    M.Meets (fun _ e => p e) s es := by
  induction es generalizing s with
  | nil => trivial
  | cons e es ih =>
      refine ⟨h e (by simp), ?_⟩
      split
      · exact ih (fun e' he' => h e' (by simp [he'])) _
      · trivial

/-- A condition may be replaced by one that says the same. -/
theorem meets_congr {p q : σ → ε → Prop} (h : ∀ s e, p s e ↔ q s e) (s : σ) (es : List ε) :
    M.Meets p s es ↔ M.Meets q s es := by
  have heq : p = q := by
    funext s e
    exact propext (h s e)
  rw [heq]

/-- Two conditions at once. -/
theorem Meets.and {p q : σ → ε → Prop} {s : σ} {es : List ε} (hp : M.Meets p s es)
    (hq : M.Meets q s es) : M.Meets (fun s e => p s e ∧ q s e) s es := by
  induction es generalizing s with
  | nil => trivial
  | cons e es ih =>
      refine ⟨⟨hp.head, hq.head⟩, ?_⟩
      split
      · rename_i s' hs
        exact ih (hp.tail hs) (hq.tail hs)
      · trivial

instance decidableMeets (ok : σ → ε → Prop) [∀ s e, Decidable (ok s e)] :
    ∀ (s : σ) (es : List ε), Decidable (M.Meets ok s es)
  | _, [] => inferInstanceAs (Decidable True)
  | s, e :: es =>
      match hs : M.step s e with
      | .ok s' =>
          match decidableMeets ok s' es with
          | .isTrue ht => decidable_of_iff (ok s e) ⟨fun h => ⟨h, by rw [hs]; exact ht⟩, And.left⟩
          | .isFalse hf => .isFalse fun h => hf (h.tail hs)
      | .error _ => decidable_of_iff (ok s e) ⟨fun h => ⟨h, by rw [hs]; trivial⟩, And.left⟩

/-- **The invariant rule, with the events so far.** -/
theorem run_history {I : List ε → σ → Prop} {ok : σ → ε → Prop}
    (hstep : ∀ es s e s', I es s → ok s e → M.step s e = .ok s' → I (es ++ [e]) s')
    {s s' : σ} {es : List ε} (hs : I [] s) (hmeets : M.Meets ok s es)
    (hrun : M.run s es = .ok s') : I es s' := by
  -- the events before the rest of the run
  suffices ∀ (es past : List ε) (s : σ), I past s → M.Meets ok s es → M.run s es = .ok s' →
      I (past ++ es) s' from this es [] s hs hmeets hrun
  intro es
  induction es with
  | nil =>
      intro past s hs _ hrun
      rw [run_nil] at hrun
      cases hrun
      rwa [List.append_nil]
  | cons e es ih =>
      intro past s hs hmeets hrun
      cases h : M.step s e with
      | ok t =>
          rw [M.run_cons_ok es h] at hrun
          have hrest := ih (past ++ [e]) t (hstep past s e t hs hmeets.head h) (hmeets.tail h) hrun
          rwa [List.append_assoc] at hrest
      | error f =>
          rw [M.run_cons_error es h] at hrun
          cases hrun

/-- **The guarded invariant rule, with the events so far.** -/
theorem run_ok_of_history {I : List ε → σ → Prop} {ok : σ → ε → Prop}
    (hstep : ∀ es s e, I es s → ok s e → ∃ s', M.step s e = .ok s' ∧ I (es ++ [e]) s')
    {s : σ} {es : List ε} (hs : I [] s) (hmeets : M.Meets ok s es) :
    ∃ s', M.run s es = .ok s' ∧ I es s' := by
  suffices ∀ (es past : List ε) (s : σ), I past s → M.Meets ok s es →
      ∃ s', M.run s es = .ok s' ∧ I (past ++ es) s' from this es [] s hs hmeets
  intro es
  induction es with
  | nil => intro past s hs _; exact ⟨s, rfl, by rwa [List.append_nil]⟩
  | cons e es ih =>
      intro past s hs hmeets
      obtain ⟨t, ht, hinv⟩ := hstep past s e hs hmeets.head
      obtain ⟨s', hrun, hs'⟩ := ih (past ++ [e]) t hinv (hmeets.tail ht)
      rw [List.append_assoc] at hs'
      exact ⟨s', by rw [M.run_cons_ok es ht, hrun], hs'⟩

/-- **The invariant rule.** What every successful step that meets the condition preserves
holds at the end of every successful run that meets it. -/
theorem run_invariant {I : σ → Prop} {ok : σ → ε → Prop}
    (hstep : ∀ s e s', I s → ok s e → M.step s e = .ok s' → I s') :
    ∀ {s s' : σ} {es : List ε}, I s → M.Meets ok s es → M.run s es = .ok s' → I s' := by
  intro s s' es hs hmeets hrun
  exact run_history (fun _ s e s' hI hok hst => hstep s e s' hI hok hst) hs hmeets hrun

/-- **The invariant rule for a loop.** What every round of a loop keeps, the loop keeps. -/
theorem foldlM_invariant {I : σ → Prop} {f : σ → ε → Except φ σ} {es : List ε}
    (hround : ∀ s e s', I s → f s e = .ok s' → I s') {s s' : σ} (hs : I s)
    (hloop : es.foldlM f s = .ok s') : I s' :=
  run_invariant (M := ⟨f⟩) (fun s e s' h (_ : True) => hround s e s' h) hs
    (meets_of_forall (fun _ _ => trivial) s) hloop

/-- **The guarded invariant rule.** When the invariant and the condition on the coming event
exclude a fault and re-establish the invariant, every run that meets the condition goes
through and ends in the invariant. -/
theorem run_ok_of_invariant {I : σ → Prop} {ok : σ → ε → Prop}
    (hstep : ∀ s e, I s → ok s e → ∃ s', M.step s e = .ok s' ∧ I s') :
    ∀ {s : σ} {es : List ε}, I s → M.Meets ok s es →
      ∃ s', M.run s es = .ok s' ∧ I s' := by
  intro s es hs hmeets
  exact run_ok_of_history (fun _ s e hI hok => hstep s e hI hok) hs hmeets

/-- **The rule for outcomes.** What every step keeps, whether it goes through or stops with a fault,
holds of the outcome of every run. -/
theorem run_outcome {P : Except φ σ → Prop} (hstep : ∀ s e, P (.ok s) → P (M.step s e)) :
    ∀ {s : σ} (es : List ε), P (.ok s) → P (M.run s es) := by
  intro s es
  induction es generalizing s with
  | nil => exact id
  | cons e es ih =>
      intro hs
      have hfirst := hstep s e hs
      cases h : M.step s e with
      | ok t =>
          rw [h] at hfirst
          rw [M.run_cons_ok es h]
          exact ih hfirst
      | error f =>
          rw [h] at hfirst
          rw [M.run_cons_error es h]
          exact hfirst

/-- What is asked of every outcome of a step is asked of its outcome. -/
theorem forall_step_iff {s s' : σ} {e : ε} {p : σ → Prop} (h : M.step s e = .ok s') :
    (∀ t, M.step s e = .ok t → p t) ↔ p s' := by
  constructor
  · intro hall
    exact hall s' h
  · intro hp t ht
    rw [h] at ht
    cases ht
    exact hp

/-- Two conditions that agree on every step of a run hold of the same runs. The invariant may
break where they fail. -/
theorem meets_iff_of_invariant {I : σ → Prop} {ok p q : σ → ε → Prop}
    (hstep : ∀ s e s', I s → ok s e → M.step s e = .ok s' → (p s e ↔ q s e) ∧ (q s e → I s')) :
    ∀ {s s' : σ} {es : List ε}, I s → M.Meets ok s es → M.run s es = .ok s' →
      (M.Meets p s es ↔ M.Meets q s es) := by
  intro s s' es
  induction es generalizing s with
  | nil => intro _ _ _; exact Iff.rfl
  | cons e es ih =>
      intro hs hmeets hrun
      cases h : M.step s e with
      | ok t =>
          obtain ⟨hpq, ht⟩ := hstep s e t hs hmeets.head h
          rw [M.run_cons_ok es h] at hrun
          simp only [Meets, h, hpq]
          exact and_congr_right (fun hq => ih (ht hq) (hmeets.tail h) hrun)
      | error f =>
          rw [M.run_cons_error es h] at hrun
          cases hrun

/-- Two conditions that agree in every state that is reached hold of the same runs. -/
theorem meets_iff_of_reachable {I : σ → Prop} {ok p q : σ → ε → Prop}
    (hpq : ∀ s e, I s → ok s e → (p s e ↔ q s e))
    (hstep : ∀ s e s', I s → ok s e → M.step s e = .ok s' → I s') :
    ∀ {s : σ} {es : List ε}, I s → M.Meets ok s es → (M.Meets p s es ↔ M.Meets q s es) := by
  intro s es
  induction es generalizing s with
  | nil => intro _ _; exact Iff.rfl
  | cons e es ih =>
      intro hs hmeets
      have hhead := hpq s e hs hmeets.head
      cases h : M.step s e with
      | ok t =>
          simp only [Meets, h, hhead]
          exact and_congr_right (fun _ => ih (hstep s e t hs hmeets.head h) (hmeets.tail h))
      | error f => simp only [Meets, h, hhead]

/-- **The exact invariant rule, along legal runs.** Where a legal step keeps the invariant exactly
when it meets the condition, the invariant holds all along a legal run, as far as the run goes,
exactly when every step of the run meets it. -/
theorem forall_prefix_iff_meets_of_legal {I : List ε → σ → Prop} {legal ok : σ → ε → Prop}
    (herror : ∀ es s e f, I es s → legal s e → M.step s e = .error f → ok s e)
    (hstep : ∀ es s e s', I es s → legal s e → M.step s e = .ok s' → (I (es ++ [e]) s' ↔ ok s e))
    {s : σ} {es : List ε} (hs : I [] s) (hlegal : M.Meets legal s es) :
    (∀ es₁ es₂ s', es = es₁ ++ es₂ → M.run s es₁ = .ok s' → I es₁ s') ↔ M.Meets ok s es := by
  suffices ∀ (es past : List ε) (s : σ), I past s → M.Meets legal s es →
      ((∀ es₁ es₂ s', es = es₁ ++ es₂ → M.run s es₁ = .ok s' → I (past ++ es₁) s') ↔
        M.Meets ok s es) from this es [] s hs hlegal
  intro es
  induction es with
  | nil =>
      intro past s hs _
      constructor
      · intro _
        trivial
      · intro _ es₁ es₂ s' heq hrun
        obtain ⟨rfl, -⟩ := List.append_eq_nil_iff.mp heq.symm
        rw [run_nil] at hrun
        cases hrun
        rwa [List.append_nil]
  | cons e es ih =>
      intro past s hs hlegal
      cases ht : M.step s e with
      | error f =>
          constructor
          · intro _
            refine ⟨herror past s e f hs hlegal.head ht, ?_⟩
            rw [ht]
            trivial
          · intro _ es₁ es₂ s' heq hrun
            cases es₁ with
            | nil =>
                rw [run_nil] at hrun
                cases hrun
                rwa [List.append_nil]
            | cons e' es₁ =>
                -- the run has stopped at its first step
                obtain ⟨rfl, -⟩ := List.cons.inj heq
                rw [M.run_cons_error es₁ ht] at hrun
                cases hrun
      | ok t =>
          constructor
          · intro hall
            have hone : M.run s [e] = .ok t := M.run_cons_ok [] ht
            have ht' : I (past ++ [e]) t := hall [e] es t rfl hone
            refine ⟨(hstep past s e t hs hlegal.head ht).mp ht', ?_⟩
            rw [ht]
            refine (ih (past ++ [e]) t ht' (hlegal.tail ht)).mp (fun es₁ es₂ s' heq hrun => ?_)
            have hrest := hall (e :: es₁) es₂ s' (by rw [heq, List.cons_append])
              (by rw [M.run_cons_ok es₁ ht, hrun])
            rwa [List.append_assoc]
          · intro hmeets es₁ es₂ s' heq hrun
            have ht' : I (past ++ [e]) t := (hstep past s e t hs hlegal.head ht).mpr hmeets.head
            cases es₁ with
            | nil =>
                rw [run_nil] at hrun
                cases hrun
                rwa [List.append_nil]
            | cons e' es₁ =>
                obtain ⟨rfl, heq'⟩ := List.cons.inj heq
                rw [M.run_cons_ok es₁ ht] at hrun
                have hrest := (ih (past ++ [e]) t ht' (hlegal.tail ht)).mpr (hmeets.tail ht)
                  es₁ es₂ s' heq' hrun
                rwa [List.append_assoc] at hrest

/-- **The exact invariant rule**. Where a step keeps the invariant exactly when it meets the
condition, the invariant holds all along a run, as far as the run goes, exactly when every step of
the run meets it. -/
theorem forall_prefix_iff_meets_of_error {I : List ε → σ → Prop} {ok : σ → ε → Prop}
    (herror : ∀ es s e f, I es s → M.step s e = .error f → ok s e)
    (hstep : ∀ es s e s', I es s → M.step s e = .ok s' → (I (es ++ [e]) s' ↔ ok s e))
    {s : σ} {es : List ε} (hs : I [] s) :
    (∀ es₁ es₂ s', es = es₁ ++ es₂ → M.run s es₁ = .ok s' → I es₁ s') ↔ M.Meets ok s es :=
  forall_prefix_iff_meets_of_legal
    (fun es s e f hs (_ : True) => herror es s e f hs) (fun es s e s' hs _ => hstep es s e s' hs) hs
    (meets_of_forall (fun _ _ => trivial) s)

/-- The exact invariant rule for a machine that does not fail. -/
theorem forall_prefix_iff_meets {I : List ε → σ → Prop} {ok : σ → ε → Prop}
    (htotal : ∀ s e, ∃ s', M.step s e = .ok s')
    (hstep : ∀ es s e s', I es s → M.step s e = .ok s' → (I (es ++ [e]) s' ↔ ok s e))
    {s : σ} {es : List ε} (hs : I [] s) :
    (∀ es₁ es₂ s', es = es₁ ++ es₂ → M.run s es₁ = .ok s' → I es₁ s') ↔ M.Meets ok s es := by
  refine forall_prefix_iff_meets_of_error (fun _ s e f _ herror => ?_) hstep hs
  obtain ⟨s', hok⟩ := htotal s e
  rw [herror] at hok
  cases hok

/-- A run may be stopped and gone on with. -/
theorem run_append_ok {s t : σ} {es : List ε} (es' : List ε) (h : M.run s es = .ok t) :
    M.run s (es ++ es') = M.run t es' := by
  unfold run at *
  rw [List.foldlM_append, h]
  rfl

/-- The last step of a run. -/
theorem run_concat_ok {s s' : σ} {e : ε} {es : List ε} :
    M.run s (es ++ [e]) = .ok s' ↔ ∃ t, M.run s es = .ok t ∧ M.step t e = .ok s' := by
  have hone : ∀ t, M.run t [e] = M.step t e := by
    intro t
    cases h : M.step t e with
    | ok s' => exact M.run_cons_ok [] h
    | error f => exact M.run_cons_error [] h
  have happend : M.run s (es ++ [e]) = M.run s es >>= (M.run · [e]) := List.foldlM_append
  rw [happend, Except.bind_eq_ok]
  simp only [hone]

/-- One more event. -/
theorem meets_concat {ok : σ → ε → Prop} {s t : σ} {e : ε} {es : List ε} (h : M.run s es = .ok t) :
    M.Meets ok s (es ++ [e]) ↔ M.Meets ok s es ∧ ok t e := by
  induction es generalizing s with
  | nil =>
      rw [run_nil] at h
      cases h
      constructor
      · intro hmeets
        exact ⟨trivial, hmeets.head⟩
      · rintro ⟨-, hok⟩
        refine ⟨hok, ?_⟩
        split <;> trivial
  | cons e' es ih =>
      cases hst : M.step s e' with
      | ok s' =>
          rw [M.run_cons_ok es hst] at h
          simp only [List.cons_append, Meets, hst, ih h, and_assoc]
      | error f =>
          rw [M.run_cons_error es hst] at h
          cases h

end Machine
