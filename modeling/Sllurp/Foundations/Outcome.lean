/-
# Outcomes of fallible computations

What a computation that returns or raises does, as rules that follow its text. A
sequence returns when both its parts do. A postcondition says what holds of the
value if the computation returns and of the exception if it raises; each form of
program text has one equivalence, so simplification takes a text apart.
-/

import Mathlib.Tactic.TypeStar

namespace Sllurp.Foundations.Outcome

variable {ε α β : Type}

-- In parentheses the proofs do not make the steps definitional, so that a checker follows
-- them instead of computing what comes after.
@[simp]
theorem ok_bind (value : α) (next : α → Except ε β) :
    ((Except.ok value : Except ε α) >>= next) = next value := (rfl)

@[simp]
theorem error_bind (raised : ε) (next : α → Except ε β) :
    ((Except.error raised : Except ε α) >>= next) = .error raised := (rfl)

@[simp]
theorem pure_eq_ok (value : α) : (pure value : Except ε α) = .ok value := rfl

@[simp]
theorem mapError_ok {ζ : Type} (value : α) (f : ε → ζ) :
    (Except.ok value : Except ε α).mapError f = .ok value := rfl

@[simp]
theorem mapError_error {ζ : Type} (raised : ε) (f : ε → ζ) :
    (Except.error raised : Except ε α).mapError f = .error (f raised) := rfl

/-- A sequence returns when both of its parts do. -/
theorem bind_eq_ok_iff {outcome : Except ε α} {next : α → Except ε β} {result : β} :
    (outcome >>= next) = .ok result ↔ ∃ value, outcome = .ok value ∧ next value = .ok result := by
  cases outcome with
  | error raised => simp
  | ok value => simp

theorem map_eq_ok_iff {outcome : Except ε α} {f : α → β} {result : β} :
    outcome.map f = .ok result ↔ ∃ value, outcome = .ok value ∧ f value = result := by
  cases outcome with
  | error raised => simp [Except.map]
  | ok value => simp [Except.map]

theorem mapError_eq_ok_iff {ζ : Type} {outcome : Except ε α} {f : ε → ζ} {result : α} :
    outcome.mapError f = .ok result ↔ outcome = .ok result := by
  cases outcome with
  | error raised => simp
  | ok value => simp

/-- What every step of a successful traversal shows, its result shows. -/
theorem map_mapM {γ : Type} {select : α → Except ε β} {items : List α} {selected : List β}
    {view : β → γ} {choose : α → γ}
    (hselect : ∀ item result, select item = .ok result → view result = choose item)
    (hok : items.mapM select = .ok selected) : selected.map view = items.map choose := by
  induction items generalizing selected with
  | nil =>
    cases hok
    rfl
  | cons item items ih =>
    rw [List.mapM_cons] at hok
    cases hitem : select item with
    | error raised =>
      rw [hitem] at hok
      cases hok
    | ok result =>
      rw [hitem] at hok
      cases hrest : items.mapM select with
      | error raised =>
        rw [hrest] at hok
        cases hok
      | ok rest =>
        rw [hrest] at hok
        cases hok
        rw [List.map_cons, List.map_cons, ih hrest, hselect item result hitem]

/-! ## Postconditions -/

/-- The value satisfies `post` if there is one, and the exception `bad` otherwise. -/
def Yields (post : α → Prop) (bad : ε → Prop) : Except ε α → Prop
  | .ok value => post value
  | .error raised => bad raised

variable {post : α → Prop} {bad : ε → Prop}

@[simp]
theorem yields_ok {value : α} : Yields post bad (.ok value) ↔ post value := Iff.rfl

@[simp]
theorem yields_error {raised : ε} : Yields post bad (.error raised) ↔ bad raised := Iff.rfl

@[simp]
theorem yields_bind {outcome : Except ε β} {next : β → Except ε α} :
    Yields post bad (outcome >>= next) ↔
      Yields (fun value => Yields post bad (next value)) bad outcome := by
  cases outcome with
  | error raised => exact Iff.rfl
  | ok value => exact Iff.rfl

theorem Yields.mono {weaker : α → Prop} {worse : ε → Prop} {outcome : Except ε α}
    (hyields : Yields post bad outcome) (hpost : ∀ value, post value → weaker value)
    (hbad : ∀ raised, bad raised → worse raised) : Yields weaker worse outcome := by
  cases outcome with
  | error raised => exact hbad raised hyields
  | ok value => exact hpost value hyields

theorem Yields.of_ok {outcome : Except ε α} {value : α} (hyields : Yields post bad outcome)
    (hok : outcome = .ok value) : post value := by
  rw [hok] at hyields
  exact hyields

theorem Yields.of_error {outcome : Except ε α} {raised : ε} (hyields : Yields post bad outcome)
    (herror : outcome = .error raised) : bad raised := by
  rw [herror] at hyields
  exact hyields

/-- What is known of a value may be used in what follows. -/
theorem Yields.bind {outcome : Except ε β} {next : β → Except ε α} {middle : β → Prop}
    (hyields : Yields middle bad outcome)
    (hnext : ∀ value, middle value → Yields post bad (next value)) :
    Yields post bad (outcome >>= next) :=
  yields_bind.mpr (hyields.mono hnext fun _ hbad => hbad)

end Sllurp.Foundations.Outcome
