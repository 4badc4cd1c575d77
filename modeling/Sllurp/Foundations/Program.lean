/-
# Programs with mutable state and exceptions

A `Program` reads and writes a state and either returns a value or raises an
exception. Whatever it wrote before raising stays written, as in a language
whose objects are mutable and whose exceptions unwind the stack only.

The rules below bound what a program can do to the state whichever way it ends.
The bound is a `Frame`, a reflexive and transitive relation between the state
before and the state after. Invariants, fields that do not change and logs that
only grow are all frames, so one induction over the program text serves them.
-/

import Mathlib.Tactic.TypeStar

namespace Sllurp.Foundations

/-- A computation over a state `σ` that returns an `α` or raises an `ε`. -/
def Program (σ ε α : Type) : Type := σ → Except ε α × σ

namespace Program

variable {σ ε α β : Type}

instance : Monad (Program σ ε) where
  pure value := fun state => (.ok value, state)
  bind program next := fun state =>
    match program state with
    | (.ok value, later) => next value later
    | (.error raised, later) => (.error raised, later)

/-- Stop with an exception, keeping the state as it is. -/
def raise (exception : ε) : Program σ ε α := fun state => (.error exception, state)

/-- Return or raise what a computation without state returned or raised. -/
def ofExcept (result : Except ε α) : Program σ ε α := fun state => (result, state)

/-- Read the whole state. -/
def get : Program σ ε σ := fun state => (.ok state, state)

/-- Update the whole state. -/
def modify (update : σ → σ) : Program σ ε Unit := fun state => (.ok (), update state)

/-- Run `handler` on the exception of `program`, in the state the exception
left behind. -/
def handle (program : Program σ ε α) (handler : ε → Program σ ε α) : Program σ ε α :=
  fun state =>
    match program state with
    | (.ok value, later) => (.ok value, later)
    | (.error raised, later) => handler raised later

/-- Run a program and update the state afterwards, whichever way it ended. -/
def ensure (program : Program σ ε α) (last : σ → σ) : Program σ ε α :=
  fun state => ((program state).1, last (program state).2)

/-- Run a program and return its exception as a value. -/
def attempt (program : Program σ ε α) : Program σ ε (Except ε α) :=
  fun state => (.ok (program state).1, (program state).2)

/-- The state a run of the program ends in, returned or raised. -/
def final (program : Program σ ε α) (state : σ) : σ := (program state).2

/-- Whether a run of the program ends with an exception. -/
def raises (program : Program σ ε α) (state : σ) : Bool :=
  match (program state).1 with
  | .ok _ => false
  | .error _ => true

@[simp]
theorem run_pure (value : α) (state : σ) :
    (pure value : Program σ ε α) state = (.ok value, state) := rfl

theorem run_bind (program : Program σ ε α) (next : α → Program σ ε β) (state : σ) :
    (program >>= next) state =
      match program state with
      | (.ok value, later) => next value later
      | (.error raised, later) => (.error raised, later) := rfl

@[simp]
theorem run_raise (exception : ε) (state : σ) :
    (raise exception : Program σ ε α) state = (.error exception, state) := rfl

@[simp]
theorem run_ofExcept (result : Except ε α) (state : σ) :
    (ofExcept result : Program σ ε α) state = (result, state) := rfl

@[simp]
theorem run_get (state : σ) : (get : Program σ ε σ) state = (.ok state, state) := rfl

@[simp]
theorem run_modify (update : σ → σ) (state : σ) :
    (modify update : Program σ ε Unit) state = (.ok (), update state) := rfl

@[simp]
theorem run_get_bind (next : σ → Program σ ε β) (state : σ) :
    (get >>= next) state = next state state := rfl

@[simp]
theorem run_modify_bind (update : σ → σ) (next : Unit → Program σ ε β) (state : σ) :
    (modify update >>= next) state = next () (update state) := rfl

@[simp]
theorem run_raise_bind (exception : ε) (next : α → Program σ ε β) (state : σ) :
    (raise exception >>= next) state = (.error exception, state) := rfl

@[simp]
theorem run_pure_bind (value : α) (next : α → Program σ ε β) (state : σ) :
    ((pure value : Program σ ε α) >>= next) state = next value state := rfl

/-- A program that returned hands its value and its state to the next one. -/
theorem run_bind_ok {program : Program σ ε α} {next : α → Program σ ε β}
    {state later : σ} {value : α} (hrun : program state = (.ok value, later)) :
    (program >>= next) state = next value later := by
  rw [run_bind, hrun]

/-- A sequence returns when both of its parts do. -/
theorem bind_eq_ok_iff {program : Program σ ε α} {next : α → Program σ ε β} {state later : σ}
    {value : β} :
    (program >>= next) state = (.ok value, later) ↔
      ∃ result middle, program state = (.ok result, middle) ∧
        next result middle = (.ok value, later) := by
  rw [run_bind]
  rcases hrun : program state with ⟨_ | result, middle⟩
  · simp
  · constructor
    · exact fun hnext => ⟨result, middle, rfl, hnext⟩
    · rintro ⟨_, _, heq, hnext⟩
      cases heq
      exact hnext

/-- A program that does not raise returns, in its final state. -/
theorem run_of_not_raises {program : Program σ ε α} {state : σ}
    (hraises : program.raises state = false) :
    ∃ value, program state = (.ok value, program.final state) := by
  unfold raises at hraises
  unfold final
  rcases hrun : program state with ⟨raised | value, later⟩
  · simp [hrun] at hraises
  · exact ⟨value, rfl⟩

/-- A program that raised keeps the next one from running. -/
theorem run_bind_error {program : Program σ ε α} {next : α → Program σ ε β}
    {state later : σ} {raised : ε} (hrun : program state = (.error raised, later)) :
    (program >>= next) state = (.error raised, later) := by
  rw [run_bind, hrun]

theorem run_ite (condition : Prop) [Decidable condition]
    (first second : Program σ ε α) (state : σ) :
    (if condition then first else second) state =
      if condition then first state else second state := by
  split <;> rfl

/-- A value that is thrown away leaves the state of the program. -/
@[simp]
theorem snd_bind_pure (program : Program σ ε α) (value : β) (state : σ) :
    ((program >>= fun _ => pure value) state).2 = (program state).2 := by
  rw [run_bind]
  rcases program state with ⟨_ | _, later⟩ <;> rfl

theorem run_attempt (program : Program σ ε α) (state : σ) :
    program.attempt state = (.ok (program state).1, (program state).2) := rfl

theorem run_handle (program : Program σ ε α) (handler : ε → Program σ ε α) (state : σ) :
    program.handle handler state =
      match program state with
      | (.ok value, later) => (.ok value, later)
      | (.error raised, later) => handler raised later := rfl

theorem run_ensure (program : Program σ ε α) (last : σ → σ) (state : σ) :
    program.ensure last state = ((program state).1, last (program state).2) := rfl

@[simp]
theorem raises_pure (value : α) (state : σ) :
    (pure value : Program σ ε α).raises state = false := rfl

@[simp]
theorem raises_raise (exception : ε) (state : σ) :
    (raise exception : Program σ ε α).raises state = true := rfl

@[simp]
theorem raises_modify (update : σ → σ) (state : σ) :
    (modify update : Program σ ε Unit).raises state = false := rfl

@[simp]
theorem raises_get_bind (next : σ → Program σ ε β) (state : σ) :
    (get >>= next).raises state = (next state).raises state := rfl

@[simp]
theorem raises_modify_bind (update : σ → σ) (next : Unit → Program σ ε β) (state : σ) :
    (modify update >>= next).raises state = (next ()).raises (update state) := rfl

theorem raises_ofExcept_bind (result : Except ε α) (next : α → Program σ ε β) (state : σ) :
    (ofExcept result >>= next).raises state =
      match result with
      | .ok value => (next value).raises state
      | .error _ => true := by
  cases result <;> rfl

/-- A sequence raises where its first part does or its second part does. -/
theorem raises_bind (program : Program σ ε α) (next : α → Program σ ε β) (state : σ) :
    (program >>= next).raises state =
      match program state with
      | (.ok value, later) => (next value).raises later
      | (.error _, _) => true := by
  unfold raises
  rw [run_bind]
  rcases program state with ⟨_ | value, later⟩ <;> rfl

end Program

/-- A result that is not an exception is a value. -/
theorem exists_ok_of_isOk {ε α : Type} {result : Except ε α} (hok : result.isOk = true) :
    ∃ value, result = .ok value := by
  cases result with
  | error raised => cases hok
  | ok value => exact ⟨value, rfl⟩

/-! ## Frames -/

/-- What a program may do to the state: a reflexive and transitive relation
from the state before to the state after. -/
structure Frame (σ : Type) where
  Rel : σ → σ → Prop
  refl : ∀ state, Rel state state
  trans : ∀ {first second third}, Rel first second → Rel second third → Rel first third

namespace Frame

variable {σ τ : Type}

/-- The frame of an invariant: if it held before, it holds after. -/
def invariant (holds : σ → Prop) : Frame σ where
  Rel before after := holds before → holds after
  refl _ := id
  trans first second := second ∘ first

/-- The frame that leaves one reading of the state as it is. -/
def fixing (reading : σ → τ) : Frame σ where
  Rel before after := reading after = reading before
  refl _ := rfl
  trans first second := second.trans first

end Frame

namespace Program

variable {σ ε α β : Type} {frame : Frame σ}

/-- Every run of the program, returned or raised, stays in the frame. -/
def Within (frame : Frame σ) (program : Program σ ε α) : Prop :=
  ∀ state, frame.Rel state (program state).2

theorem Within.pure (value : α) : Within frame (pure value : Program σ ε α) :=
  fun state => frame.refl state

theorem Within.raise (exception : ε) : Within frame (raise exception : Program σ ε α) :=
  fun state => frame.refl state

theorem Within.ofExcept (result : Except ε α) :
    Within frame (ofExcept result : Program σ ε α) :=
  fun state => frame.refl state

theorem Within.get : Within frame (get : Program σ ε σ) :=
  fun state => frame.refl state

theorem Within.modify {update : σ → σ} (hupdate : ∀ state, frame.Rel state (update state)) :
    Within frame (modify update : Program σ ε Unit) :=
  hupdate

theorem Within.bind {program : Program σ ε α} {next : α → Program σ ε β}
    (hprogram : Within frame program) (hnext : ∀ value, Within frame (next value)) :
    Within frame (program >>= next) := by
  intro state
  have hfirst := hprogram state
  rw [run_bind]
  rcases hrun : program state with ⟨outcome, later⟩
  rw [hrun] at hfirst
  cases outcome with
  | ok value => exact frame.trans hfirst (hnext value later)
  | error raised => exact hfirst

/-- Reading the state first: the rest of the program may use what it read. -/
theorem Within.get_bind {next : σ → Program σ ε β}
    (hnext : ∀ state, frame.Rel state (next state state).2) :
    Within frame (Program.get >>= next) :=
  hnext

theorem Within.ite {condition : Prop} [Decidable condition] {first second : Program σ ε α}
    (hfirst : condition → Within frame first) (hsecond : ¬ condition → Within frame second) :
    Within frame (if condition then first else second) := by
  split
  · exact hfirst ‹_›
  · exact hsecond ‹_›

theorem Within.handle {program : Program σ ε α} {handler : ε → Program σ ε α}
    (hprogram : Within frame program) (hhandler : ∀ raised, Within frame (handler raised)) :
    Within frame (program.handle handler) := by
  intro state
  have hfirst := hprogram state
  rw [run_handle]
  rcases hrun : program state with ⟨outcome, later⟩
  rw [hrun] at hfirst
  cases outcome with
  | ok value => exact hfirst
  | error raised => exact frame.trans hfirst (hhandler raised later)

theorem Within.ensure {program : Program σ ε α} {last : σ → σ} (hprogram : Within frame program)
    (hlast : ∀ state, frame.Rel state (last state)) : Within frame (program.ensure last) :=
  fun state => frame.trans (hprogram state) (hlast _)

theorem Within.attempt {program : Program σ ε α} (hprogram : Within frame program) :
    Within frame program.attempt :=
  hprogram

/-! ## Preconditions and postconditions -/

/-- From every state that meets the precondition the program ends, returned or
raised, in one that meets the postcondition. -/
def Triple (pre : σ → Prop) (program : Program σ ε α) (post : σ → Prop) : Prop :=
  ∀ state, pre state → post (program state).2

variable {pre mid post : σ → Prop}

/-- A program that may raise half way has to meet the postcondition there. -/
theorem Triple.bind {program : Program σ ε α} {next : α → Program σ ε β}
    (hprogram : Triple pre program mid) (hmid : ∀ state, mid state → post state)
    (hnext : ∀ value, Triple mid (next value) post) : Triple pre (program >>= next) post := by
  intro state hstate
  have hfirst := hprogram state hstate
  rw [run_bind]
  rcases hrun : program state with ⟨outcome, later⟩
  rw [hrun] at hfirst
  cases outcome with
  | ok value => exact hnext value later hfirst
  | error raised => exact hmid later hfirst

/-- A program that always returns need not meet the postcondition itself. -/
theorem Triple.bind_of_returns {program : Program σ ε α} {next : α → Program σ ε β}
    (hreturns : ∀ state, program.raises state = false)
    (hnext : ∀ value, Triple (fun _ => True) (next value) post) :
    Triple (fun _ => True) (program >>= next) post := by
  intro state _
  have hreturned := hreturns state
  rw [run_bind]
  rw [raises] at hreturned
  rcases hrun : program state with ⟨_ | value, later⟩
  · simp [hrun] at hreturned
  · exact hnext value later trivial

theorem Triple.ite {condition : Prop} [Decidable condition] {first second : Program σ ε α}
    (hfirst : condition → Triple pre first post)
    (hsecond : ¬ condition → Triple pre second post) :
    Triple pre (if condition then first else second) post := by
  split
  · exact hfirst ‹_›
  · exact hsecond ‹_›

/-! ## Two postconditions -/

/-- The state of an outcome meets one condition if it returned and another if it
raised. -/
def Meets (returned raised : σ → Prop) : Except ε α × σ → Prop
  | (.ok _, later) => returned later
  | (.error _, later) => raised later

/-- From every state that meets the precondition the program returns in a state that
meets the first postcondition, or raises in one that meets the second. -/
def Ends (pre : σ → Prop) (program : Program σ ε α) (returned raised : σ → Prop) : Prop :=
  ∀ state, pre state → Meets returned raised (program state)

variable {returned raised : σ → Prop}

theorem Meets.mono {outcome : Except ε α × σ} (hmeets : Meets returned raised outcome)
    (hreturned : ∀ state, returned state → post state)
    (hraised : ∀ state, raised state → mid state) : Meets post mid outcome := by
  obtain ⟨_ | _, later⟩ := outcome
  · exact hraised later hmeets
  · exact hreturned later hmeets

/-- An outcome meets both conditions if its state does. -/
theorem Meets.of_state {outcome : Except ε α × σ} (hreturned : returned outcome.2)
    (hraised : raised outcome.2) : Meets returned raised outcome := by
  obtain ⟨_ | _, later⟩ := outcome
  · exact hraised
  · exact hreturned

/-- A program that keeps an invariant ends in it either way. -/
theorem Ends.of_within {holds : σ → Prop} {program : Program σ ε α}
    (hprogram : Within (.invariant holds) program)
    (hraised : ∀ state, holds state → raised state) : Ends holds program holds raised :=
  fun state hstate => .of_state (hprogram state hstate) (hraised _ (hprogram state hstate))

theorem Ends.bind {program : Program σ ε α} {next : α → Program σ ε β}
    (hprogram : Ends pre program mid raised) (hnext : ∀ value, Ends mid (next value) post raised) :
    Ends pre (program >>= next) post raised := by
  intro state hstate
  have hfirst := hprogram state hstate
  rw [run_bind]
  rcases hrun : program state with ⟨exception | value, later⟩
  · rw [hrun] at hfirst
    exact hfirst
  · rw [hrun] at hfirst
    exact hnext value later hfirst

/-- A handler may restore what the exception broke. -/
theorem Ends.handle {program : Program σ ε α} {handler : ε → Program σ ε α}
    (hprogram : Ends pre program post raised)
    (hhandler : ∀ exception, Triple raised (handler exception) post) :
    Triple pre (program.handle handler) post := by
  intro state hstate
  have hfirst := hprogram state hstate
  rw [run_handle]
  rcases hrun : program state with ⟨exception | value, later⟩
  · rw [hrun] at hfirst
    exact hhandler exception later hfirst
  · rw [hrun] at hfirst
    exact hfirst

end Program

end Sllurp.Foundations
