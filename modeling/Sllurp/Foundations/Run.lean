/-
# Runs of a labelled step function

A system takes one step for each label it is given. A run is a list of labels,
and a guard says which labels may be taken in which states. An invariant that
every guarded step keeps holds in every state that a guarded run reaches.
-/

import Mathlib.Tactic.TypeStar

namespace Sllurp.Foundations

variable {σ ℓ : Type}

/-- The state a list of labels leads to. -/
def run (step : σ → ℓ → σ) (state : σ) : List ℓ → σ
  | [] => state
  | label :: labels => run step (step state label) labels

/-- What a step function that also answers gives for each label of a run. -/
def outputs {ο : Type} (step : σ → ℓ → ο × σ) (state : σ) : List ℓ → List ο
  | [] => []
  | label :: labels => (step state label).1 :: outputs step (step state label).2 labels

/-- Every label of the run meets the guard in the state it is taken from. -/
def Guarded (step : σ → ℓ → σ) (guard : σ → ℓ → Prop) (state : σ) : List ℓ → Prop
  | [] => True
  | label :: labels => guard state label ∧ Guarded step guard (step state label) labels

instance Guarded.decidable (step : σ → ℓ → σ) (guard : σ → ℓ → Prop)
    [∀ state label, Decidable (guard state label)] (state : σ) (labels : List ℓ) :
    Decidable (Guarded step guard state labels) :=
  match labels with
  | [] => .isTrue trivial
  | label :: labels =>
    have := Guarded.decidable step guard (step state label) labels
    inferInstanceAs (Decidable (_ ∧ _))

/-- A state that some run from the starting states reaches. -/
def Reachable (step : σ → ℓ → σ) (start : σ → Prop) (state : σ) : Prop :=
  ∃ first labels, start first ∧ run step first labels = state

variable {step : σ → ℓ → σ} {guard : σ → ℓ → Prop}

theorem run_append (state : σ) (early late : List ℓ) :
    run step state (early ++ late) = run step (run step state early) late := by
  induction early generalizing state with
  | nil => rfl
  | cons label labels ih => exact ih (step state label)

theorem guarded_append {state : σ} {early late : List ℓ} :
    Guarded step guard state (early ++ late) ↔
      Guarded step guard state early ∧ Guarded step guard (run step state early) late := by
  induction early generalizing state with
  | nil => simp [Guarded, run]
  | cons label labels ih => simp only [List.cons_append, Guarded, run, ih, and_assoc]

/-- A guarded run is guarded up to each state it passes. -/
theorem Guarded.take {state : σ} {early late : List ℓ}
    (hrun : Guarded step guard state (early ++ late)) : Guarded step guard state early :=
  (guarded_append.mp hrun).1

/-- What every guarded step keeps holds where a guarded run ends. With
`Guarded.take` this covers every state on the way. -/
theorem Guarded.invariant (holds : σ → Prop)
    (hstep : ∀ state label, holds state → guard state label → holds (step state label))
    {state : σ} {labels : List ℓ} (hstart : holds state)
    (hrun : Guarded step guard state labels) : holds (run step state labels) := by
  induction labels generalizing state with
  | nil => exact hstart
  | cons label labels ih => exact ih (hstep state label hstart hrun.1) hrun.2

/-- A guard that says when a step keeps an invariant is met along a run if and only if the
invariant holds in every state that the run passes. -/
theorem guarded_iff_invariant (holds : σ → Prop)
    (hstep : ∀ state label, holds state → (guard state label ↔ holds (step state label)))
    {state : σ} {labels : List ℓ} (hstart : holds state) :
    Guarded step guard state labels ↔
      ∀ early, early <+: labels → holds (run step state early) := by
  constructor
  · rintro hrun early ⟨late, rfl⟩
    exact hrun.take.invariant holds (fun state label hstate => (hstep state label hstate).mp) hstart
  · intro hall
    induction labels generalizing state with
    | nil => trivial
    | cons label labels ih =>
      have hnext : holds (step state label) := hall [label] ⟨labels, rfl⟩
      refine ⟨(hstep state label hstart).mpr hnext, ih hnext ?_⟩
      rintro early ⟨late, rfl⟩
      exact hall (label :: early) ⟨late, rfl⟩

theorem Reachable.next {start : σ → Prop} {state : σ} (hreach : Reachable step start state)
    (label : ℓ) : Reachable step start (step state label) := by
  obtain ⟨first, labels, hfirst, rfl⟩ := hreach
  exact ⟨first, labels ++ [label], hfirst, run_append first labels [label]⟩

/-- What every step keeps holds in every reachable state. -/
theorem Reachable.invariant {start : σ → Prop} (holds : σ → Prop)
    (hstart : ∀ state, start state → holds state)
    (hstep : ∀ state label, holds state → holds (step state label))
    {state : σ} (hreach : Reachable step start state) : holds state := by
  obtain ⟨first, labels, hfirst, rfl⟩ := hreach
  have hguarded : Guarded step (fun _ _ => True) first labels := by
    clear hfirst
    induction labels generalizing first with
    | nil => trivial
    | cons label labels ih => exact ⟨trivial, ih (step first label)⟩
  exact hguarded.invariant holds (fun state label hstate _ => hstep state label hstate)
    (hstart first hfirst)

end Sllurp.Foundations
