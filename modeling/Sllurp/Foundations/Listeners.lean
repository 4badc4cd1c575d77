/-
# Listeners

A list of listeners without duplicates, and what a run has done to it: a listener is
there if and only if a label of the run added it and no later label dropped it. The rule
is stated for any property of states that labels switch on and off.
-/

import Sllurp.Foundations.Run
import Mathlib.Data.List.Induction
import Mathlib.Data.List.Nodup

namespace Sllurp.Foundations

/-! ## Lists of listeners -/

/-- Listeners in the order in which they were added. -/
structure Listeners (α : Type) where
  items : List α
  nodup : items.Nodup

namespace Listeners

variable {α : Type}

def empty : Listeners α := ⟨[], List.nodup_nil⟩

instance : Membership α (Listeners α) := ⟨fun listeners listener => listener ∈ listeners.items⟩

@[simp]
theorem not_mem_empty (listener : α) : listener ∉ (empty : Listeners α) :=
  List.not_mem_nil

variable [DecidableEq α]

instance (listeners : Listeners α) (listener : α) : Decidable (listener ∈ listeners) :=
  inferInstanceAs (Decidable (listener ∈ listeners.items))

/-- Add a listener at the end, unless it listens already. -/
def add (listeners : Listeners α) (listener : α) : Listeners α :=
  if hmem : listener ∈ listeners then listeners
  else
    { items := listeners.items ++ [listener]
      nodup := by
        rw [← List.concat_eq_append]
        exact List.Nodup.concat hmem listeners.nodup }

/-- Remove a listener, if it listens. -/
def remove (listeners : Listeners α) (listener : α) : Listeners α where
  items := listeners.items.erase listener
  nodup := listeners.nodup.erase listener

@[simp]
theorem mem_add {listeners : Listeners α} {listener other : α} :
    other ∈ listeners.add listener ↔ other ∈ listeners ∨ other = listener := by
  unfold add
  split
  · next hmem =>
    constructor
    · exact .inl
    · rintro (hother | rfl)
      · exact hother
      · exact hmem
  · exact List.mem_append.trans (or_congr_right List.mem_singleton)

@[simp]
theorem mem_remove {listeners : Listeners α} {listener other : α} :
    other ∈ listeners.remove listener ↔ other ∈ listeners ∧ other ≠ listener := by
  rw [and_comm]
  exact listeners.nodup.mem_erase_iff

/-- Of the listeners, one is the one it is. -/
theorem filter_eq {listeners : Listeners α} {listener : α} (hmem : listener ∈ listeners) :
    listeners.items.filter (· = listener) = [listener] := by
  rw [List.filter_eq, List.count_eq_one_of_mem listeners.nodup hmem, List.replicate_one]

end Listeners

/-! ## What labels switch on and off -/

section Since

variable {σ ℓ : Type} {step : σ → ℓ → σ} {adds drops : ℓ → Prop}

/-- Some label adds, and no later one drops. -/
def Since (adds drops : ℓ → Prop) (labels : List ℓ) : Prop :=
  ∃ early label late, labels = early ++ label :: late ∧ adds label ∧ ∀ other ∈ late, ¬ drops other

theorem since_concat_of_adds {labels : List ℓ} {label : ℓ} (hadds : adds label) :
    Since adds drops (labels ++ [label]) :=
  ⟨labels, label, [], rfl, hadds, fun _ hmem => nomatch hmem⟩

/-- A label that does not add leaves what was there, unless it drops. -/
theorem since_concat_iff {labels : List ℓ} {label : ℓ} (hadds : ¬ adds label) :
    Since adds drops (labels ++ [label]) ↔ Since adds drops labels ∧ ¬ drops label := by
  constructor
  · rintro ⟨early, adding, late, hsplit, hadding, hlate⟩
    rcases List.eq_nil_or_concat late with rfl | ⟨rest, last, rfl⟩
    · obtain ⟨-, hlast⟩ := List.append_inj' hsplit rfl
      cases hlast
      exact absurd hadding hadds
    · rw [List.concat_eq_append, ← List.cons_append, ← List.append_assoc] at hsplit
      obtain ⟨hearlier, hlast⟩ := List.append_inj' hsplit rfl
      cases hlast
      rw [List.concat_eq_append] at hlate
      refine ⟨⟨early, adding, rest, hearlier, hadding, ?_⟩, ?_⟩
      · exact fun other hmem => hlate other (List.mem_append_left _ hmem)
      · exact hlate label (List.mem_append_right _ (List.mem_singleton_self _))
  · rintro ⟨⟨early, adding, late, rfl, hadding, hlate⟩, hdrops⟩
    refine ⟨early, adding, late ++ [label], by simp, hadding, ?_⟩
    intro other hmem
    rcases List.mem_append.mp hmem with hold | hnew
    · exact hlate other hold
    · rw [List.mem_singleton.mp hnew]
      exact hdrops

/-- What labels switch on and off is on after a run if and only if it was switched on since. -/
theorem run_iff_since {holds : σ → Prop} {start : σ} (hstart : ¬ holds start)
    (hadds : ∀ state label, adds label → holds (step state label))
    (hkeeps : ∀ state label, ¬ adds label →
      (holds (step state label) ↔ holds state ∧ ¬ drops label)) (labels : List ℓ) :
    holds (run step start labels) ↔ Since adds drops labels := by
  induction labels using List.reverseRecOn with
  | nil =>
    refine iff_of_false hstart ?_
    rintro ⟨early, label, late, hsplit, -⟩
    cases early <;> cases hsplit
  | append_singleton labels label ih =>
    rw [run_append]
    change holds (step (run step start labels) label) ↔ _
    by_cases hlabel : adds label
    · exact iff_of_true (hadds _ label hlabel) (since_concat_of_adds hlabel)
    · rw [hkeeps _ label hlabel, ih, since_concat_iff hlabel]

end Since

end Sllurp.Foundations
