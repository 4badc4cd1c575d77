/-
# Timers

A timer waits until it fires and then runs its task. Cancelling takes a timer
away as long as it has not fired; a timer that has fired runs its task all the
same, and may be kept waiting for a lock before it does.
-/

import Mathlib.Data.List.Nodup

namespace Sllurp.Foundations

/-- A timer that was armed for a task. -/
structure Timer (α : Type) where
  id : ℕ
  task : α
  fired : Bool
  deriving DecidableEq

/-- The timers whose tasks may still run. The counter gives every timer an
identity of its own. -/
structure Timers (α : Type) where
  waiting : List (Timer α)
  next : ℕ
  fresh : ∀ timer ∈ waiting, timer.id < next
  nodup : (waiting.map Timer.id).Nodup

namespace Timers

variable {α : Type}

def empty : Timers α where
  waiting := []
  next := 0
  fresh _ hmem := nomatch hmem
  nodup := List.nodup_nil

/-- Use up an identity. -/
def skip (timers : Timers α) : Timers α where
  waiting := timers.waiting
  next := timers.next + 1
  fresh timer hmem := Nat.lt_succ_of_lt (timers.fresh timer hmem)
  nodup := timers.nodup

/-- Arm a timer under the next identity. -/
def arm (timers : Timers α) (task : α) : Timers α where
  waiting := timers.waiting ++ [⟨timers.next, task, false⟩]
  next := timers.next + 1
  fresh timer hmem := by
    rcases List.mem_append.mp hmem with hold | hnew
    · exact Nat.lt_succ_of_lt (timers.fresh timer hold)
    · rw [List.mem_singleton.mp hnew]
      exact Nat.lt_succ_self _
  nodup := by
    rw [List.map_append]
    refine List.nodup_append.mpr ⟨timers.nodup, List.nodup_singleton _, ?_⟩
    rintro id hid other hother rfl
    obtain ⟨timer, hmem, rfl⟩ := List.mem_map.mp hid
    exact Nat.ne_of_lt (timers.fresh timer hmem) (List.mem_singleton.mp hother)

/-- Keep the timers that meet a test. -/
def keep (timers : Timers α) (test : Timer α → Bool) : Timers α where
  waiting := timers.waiting.filter test
  next := timers.next
  fresh timer hmem := timers.fresh timer (List.mem_of_mem_filter hmem)
  nodup := timers.nodup.sublist (List.filter_sublist.map _)

/-- Cancel a timer; one that has fired stays. -/
def cancel (timers : Timers α) (id : ℕ) : Timers α :=
  timers.keep fun timer => timer.id ≠ id || timer.fired

/-- The task of a timer is done. -/
def finish (timers : Timers α) (id : ℕ) : Timers α := timers.keep fun timer => timer.id ≠ id

/-- A timer fires, if it waits. -/
def fire (timers : Timers α) (id : ℕ) : Timers α where
  waiting := timers.waiting.map fun timer =>
    { timer with fired := timer.fired || timer.id = id }
  next := timers.next
  fresh timer hmem := by
    obtain ⟨earlier, hearlier, rfl⟩ := List.mem_map.mp hmem
    exact timers.fresh earlier hearlier
  nodup := by
    rw [List.map_map]
    exact timers.nodup

/-- The timer of an identity, if it has fired and its task has not run. -/
def fired? (timers : Timers α) (id : ℕ) : Option (Timer α) :=
  timers.waiting.find? fun timer => timer.id = id && timer.fired

/-! ## What waits -/

theorem mem_arm (timers : Timers α) (task : α) (timer : Timer α) :
    timer ∈ (timers.arm task).waiting ↔
      timer ∈ timers.waiting ∨ timer = ⟨timers.next, task, false⟩ := by
  rw [arm, List.mem_append, List.mem_singleton]

theorem mem_keep (timers : Timers α) (test : Timer α → Bool) (timer : Timer α) :
    timer ∈ (timers.keep test).waiting ↔ timer ∈ timers.waiting ∧ test timer = true :=
  List.mem_filter

theorem mem_cancel (timers : Timers α) (id : ℕ) (timer : Timer α) :
    timer ∈ (timers.cancel id).waiting ↔
      timer ∈ timers.waiting ∧ (timer.id = id → timer.fired = true) := by
  rw [cancel, mem_keep, Bool.or_eq_true, decide_eq_true_eq, ← imp_iff_not_or]

theorem mem_finish (timers : Timers α) (id : ℕ) (timer : Timer α) :
    timer ∈ (timers.finish id).waiting ↔ timer ∈ timers.waiting ∧ timer.id ≠ id := by
  rw [finish, mem_keep, decide_eq_true_eq]

theorem mem_fire (timers : Timers α) (id : ℕ) (timer : Timer α) :
    timer ∈ (timers.fire id).waiting ↔
      ∃ earlier ∈ timers.waiting,
        { earlier with fired := earlier.fired || earlier.id = id } = timer :=
  List.mem_map

/-- A timer is known by its identity. -/
theorem eq_of_id {timers : Timers α} {first second : Timer α}
    (hfirst : first ∈ timers.waiting) (hsecond : second ∈ timers.waiting)
    (hid : first.id = second.id) : first = second :=
  List.inj_on_of_nodup_map timers.nodup hfirst hsecond hid

theorem fired?_eq_some_iff {timers : Timers α} {id : ℕ} {timer : Timer α} :
    timers.fired? id = some timer ↔
      timer ∈ timers.waiting ∧ timer.id = id ∧ timer.fired = true := by
  constructor
  · intro hfound
    have htest := List.find?_some hfound
    rw [Bool.and_eq_true, decide_eq_true_eq] at htest
    exact ⟨List.mem_of_find?_eq_some hfound, htest⟩
  · rintro ⟨hmem, rfl, hfired⟩
    cases hfound : timers.fired? timer.id with
    | none =>
      have hno := List.find?_eq_none.mp hfound timer hmem
      simp [hfired] at hno
    | some other =>
      have htest := List.find?_some hfound
      rw [Bool.and_eq_true, decide_eq_true_eq] at htest
      rw [eq_of_id (List.mem_of_find?_eq_some hfound) hmem htest.1]

end Timers

end Sllurp.Foundations
