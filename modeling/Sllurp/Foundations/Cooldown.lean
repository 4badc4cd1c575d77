/-
# Cooldowns

A cooldown lets the first of several equal items through and suppresses the
others for a fixed time after it. The ledger of a cooldown keeps every emission
for ever and marks those that a bound on their number evicted, so that its
behaviour can be read off without knowing how an implementation forgets.
-/

import Mathlib.Algebra.Order.Monoid.Unbundled.Basic
import Mathlib.Data.List.DropRight
import Mathlib.Data.List.Dedup
import Mathlib.Data.List.Nodup

namespace Sllurp.Foundations

/-! ## The ledger -/

/-- An item that was let through: its key, when, and whether it was evicted since. -/
structure Emission (κ τ : Type) where
  key : κ
  time : τ
  evicted : Bool

/-- How long an emission suppresses others of its key, and how many emissions may
do so at a time. -/
structure Cooldown (τ : Type) where
  window : τ
  bound : ℕ

variable {κ τ α : Type} [LinearOrder τ] [Add τ]

namespace Emission

/-- Whether the cooldown of the emission is not over. -/
def runs (rule : Cooldown τ) (now : τ) (emission : Emission κ τ) : Bool :=
  now < emission.time + rule.window

/-- Whether the emission suppresses others of its key. -/
def holds (rule : Cooldown τ) (now : τ) (emission : Emission κ τ) : Bool :=
  !emission.evicted && emission.runs rule now

def evict (emission : Emission κ τ) : Emission κ τ := { emission with evicted := true }

theorem runs_of_holds {rule : Cooldown τ} {now : τ} {emission : Emission κ τ}
    (hholds : emission.holds rule now = true) : emission.runs rule now = true :=
  (Bool.and_eq_true_iff.mp hholds).2

/-- A cooldown that is over stays over. -/
theorem runs_of_le [AddRightMono τ] {rule : Cooldown τ} {now later : τ} (hnow : now ≤ later)
    {emission : Emission κ τ} (hruns : emission.runs rule later = true) :
    emission.runs rule now = true :=
  decide_eq_true (hnow.trans_lt (of_decide_eq_true hruns))

theorem holds_of_le [AddRightMono τ] {rule : Cooldown τ} {now later : τ} (hnow : now ≤ later)
    {emission : Emission κ τ} (hgone : emission.holds rule now = false) :
    emission.holds rule later = false := by
  rcases Bool.and_eq_false_iff.mp hgone with hevicted | hover
  · exact Bool.and_eq_false_iff.mpr (.inl hevicted)
  · refine Bool.and_eq_false_iff.mpr (.inr (Bool.eq_false_iff.mpr fun hruns => ?_))
    rw [runs_of_le hnow hruns] at hover
    cases hover

end Emission

namespace Cooldown

/-- Evict the oldest of the emissions that hold, as many as told. -/
def evictOldest (rule : Cooldown τ) (now : τ) :
    ℕ → List (Emission κ τ) → List (Emission κ τ)
  | 0, ledger => ledger
  | _ + 1, [] => []
  | excess + 1, emission :: ledger =>
    if emission.holds rule now then emission.evict :: rule.evictOldest now excess ledger
    else emission :: rule.evictOldest now (excess + 1) ledger

/-- Evict what exceeds the bound. -/
def enforce (rule : Cooldown τ) (now : τ) (ledger : List (Emission κ τ)) :
    List (Emission κ τ) :=
  rule.evictOldest now (ledger.countP (Emission.holds rule now) - rule.bound) ledger

variable [DecidableEq κ]

/-- Whether an item of the key is suppressed. -/
def suppresses (rule : Cooldown τ) (now : τ) (ledger : List (Emission κ τ)) (key : κ) : Bool :=
  ledger.any fun emission => emission.key = key && emission.holds rule now

/-- Let the items through that nothing suppresses, in turn. -/
def passing (rule : Cooldown τ) (keyOf : α → κ) (now : τ) :
    List α → List (Emission κ τ) → List α × List (Emission κ τ)
  | [], ledger => ([], ledger)
  | item :: items, ledger =>
    if rule.suppresses now ledger (keyOf item) then rule.passing keyOf now items ledger
    else
      let rest := rule.passing keyOf now items (ledger ++ [⟨keyOf item, now, false⟩])
      (item :: rest.1, rest.2)

/-- Take a batch of items at a time: let through what is not suppressed, then
enforce the bound. -/
def step (rule : Cooldown τ) (keyOf : α → κ) (ledger : List (Emission κ τ))
    (call : τ × List α) : List α × List (Emission κ τ) :=
  let admitted := rule.passing keyOf call.1 call.2 ledger
  (admitted.1, rule.enforce call.1 admitted.2)

/-- The keys whose cooldown is not over, in the order of their latest emissions. -/
def recent (rule : Cooldown τ) (now : τ) (ledger : List (Emission κ τ)) : List κ :=
  ((ledger.filter (Emission.runs rule now)).map Emission.key).dedup

theorem passing_sublist (rule : Cooldown τ) (keyOf : α → κ) (now : τ) (items : List α)
    (ledger : List (Emission κ τ)) : (rule.passing keyOf now items ledger).1.Sublist items := by
  induction items generalizing ledger with
  | nil => exact List.Sublist.refl _
  | cons item items ih =>
    unfold passing
    split
    · exact (ih ledger).cons _
    · exact (ih _).cons_cons _

end Cooldown

/-! ## What a ledger recalls -/

/-- The emissions that hold are the last ones of the ledger. Of the others, some
cooldown is not over only if the bound is reached. -/
structure Recalls (rule : Cooldown τ) (now : τ) (ledger live : List (Emission κ τ)) : Prop where
  split : ∃ gone, ledger = gone ++ live ∧ (∀ emission ∈ gone, emission.holds rule now = false) ∧
    ((∃ emission ∈ gone, emission.runs rule now = true) → rule.bound ≤ live.length)
  holds : ∀ emission ∈ live, emission.holds rule now = true
  nodup : (live.map Emission.key).Nodup
  sorted : ledger.Pairwise fun first second => first.time ≤ second.time
  past : ∀ emission ∈ ledger, emission.time ≤ now

namespace Recalls

variable {rule : Cooldown τ} {now : τ} {ledger live : List (Emission κ τ)}

theorem nil (rule : Cooldown τ) (now : τ) : Recalls rule now ([] : List (Emission κ τ)) [] where
  split := ⟨[], rfl, fun _ hmem => (nomatch hmem), fun ⟨_, hmem, _⟩ => (nomatch hmem)⟩
  holds _ hmem := nomatch hmem
  nodup := List.nodup_nil
  sorted := .nil
  past _ hmem := nomatch hmem

/-- Letting an item through adds it to what is recalled. -/
theorem emit (hrecalls : Recalls rule now ledger live) (hwindow : now < now + rule.window)
    {key : κ} (hkey : key ∉ live.map Emission.key) :
    Recalls rule now (ledger ++ [⟨key, now, false⟩]) (live ++ [⟨key, now, false⟩]) where
  split := by
    obtain ⟨gone, rfl, hgone, hfull⟩ := hrecalls.split
    refine ⟨gone, List.append_assoc .., hgone, fun hruns => (hfull hruns).trans ?_⟩
    rw [List.length_append]
    exact Nat.le_add_right _ _
  holds emission hmem := by
    rcases List.mem_append.mp hmem with hlive | hnew
    · exact hrecalls.holds emission hlive
    · rw [List.mem_singleton.mp hnew]
      exact decide_eq_true hwindow
  nodup := by
    rw [List.map_append]
    refine List.nodup_append.mpr ⟨hrecalls.nodup, List.nodup_singleton _, ?_⟩
    rintro other hother new hnew rfl
    rw [List.mem_singleton.mp hnew] at hother
    exact hkey hother
  sorted := by
    refine List.pairwise_append.mpr ⟨hrecalls.sorted, List.pairwise_singleton _ _, ?_⟩
    intro first hfirst second hsecond
    rw [List.mem_singleton.mp hsecond]
    exact hrecalls.past first hfirst
  past emission hmem := by
    rcases List.mem_append.mp hmem with hold | hnew
    · exact hrecalls.past emission hold
    · rw [List.mem_singleton.mp hnew]

/-- In the order of time, the cooldowns that are over come first. -/
theorem runs_of_mem_dropWhile [AddRightMono τ] (rule : Cooldown τ) (now : τ)
    {emissions : List (Emission κ τ)}
    (hsorted : emissions.Pairwise fun first second => first.time ≤ second.time) :
    ∀ emission ∈ emissions.dropWhile fun emission => !emission.runs rule now,
      emission.runs rule now = true := by
  induction emissions with
  | nil => exact fun _ hmem => nomatch hmem
  | cons first emissions ih =>
    rw [List.pairwise_cons] at hsorted
    intro emission hmem
    cases hruns : first.runs rule now with
    | false =>
      rw [List.dropWhile_cons_of_pos (by rw [hruns]; rfl)] at hmem
      exact ih hsorted.2 emission hmem
    | true =>
      rw [List.dropWhile_cons_of_neg (by rw [hruns]; exact Bool.false_ne_true)] at hmem
      rcases List.mem_cons.mp hmem with rfl | hlater
      · exact hruns
      · exact decide_eq_true ((of_decide_eq_true hruns).trans_le
          (add_le_add_left (hsorted.1 emission hlater) rule.window))

/-- As time passes, the oldest of what is recalled is forgotten. -/
theorem advance [AddRightMono τ] (hrecalls : Recalls rule now ledger live) {later : τ}
    (hnow : now ≤ later) :
    Recalls rule later ledger (live.dropWhile fun emission => !emission.runs rule later) := by
  obtain ⟨gone, rfl, hgone, hfull⟩ := hrecalls.split
  have hlive : live.Pairwise fun first second => first.time ≤ second.time :=
    (List.pairwise_append.mp hrecalls.sorted).2.1
  have hruns := runs_of_mem_dropWhile rule later hlive
  have happend : live.takeWhile (fun emission => !emission.runs rule later) ++
      live.dropWhile (fun emission => !emission.runs rule later) = live :=
    List.takeWhile_append_dropWhile
  have hsublist : (live.dropWhile fun emission => !emission.runs rule later).Sublist live :=
    List.dropWhile_sublist _
  have hover : ∀ emission ∈ live.takeWhile fun emission => !emission.runs rule later,
      emission.runs rule later = false := by
    intro emission hmem
    simpa using List.mem_takeWhile_imp hmem
  refine ⟨?_, ?_, hrecalls.nodup.sublist (hsublist.map _), hrecalls.sorted, ?_⟩
  · refine ⟨gone ++ live.takeWhile fun emission => !emission.runs rule later, ?_, ?_, ?_⟩
    · rw [List.append_assoc, happend]
    · intro emission hmem
      rcases List.mem_append.mp hmem with hold | hdropped
      · exact Emission.holds_of_le hnow (hgone emission hold)
      · exact Bool.and_eq_false_iff.mpr (.inr (hover emission hdropped))
    · rintro ⟨emission, hmem, hrunning⟩
      rcases List.mem_append.mp hmem with hold | hdropped
      · -- What is older still runs, so nothing that is recalled is over.
        have hkept : live.dropWhile (fun emission => !emission.runs rule later) = live := by
          cases live with
          | nil => rfl
          | cons first rest =>
            refine List.dropWhile_cons_of_neg ?_
            have hle : emission.time ≤ first.time :=
              (List.pairwise_append.mp hrecalls.sorted).2.2 emission hold first
                (List.mem_cons_self ..)
            have hfirst : first.runs rule later = true :=
              decide_eq_true ((of_decide_eq_true hrunning).trans_le
                (add_le_add_left hle rule.window))
            rw [hfirst]
            exact Bool.false_ne_true
        rw [hkept]
        exact hfull ⟨emission, hold, Emission.runs_of_le hnow hrunning⟩
      · rw [hover emission hdropped] at hrunning
        cases hrunning
  · intro emission hmem
    have hheld := hrecalls.holds emission (hsublist.mem hmem)
    exact Bool.and_eq_true_iff.mpr ⟨(Bool.and_eq_true_iff.mp hheld).1, hruns emission hmem⟩
  · intro emission hmem
    exact (hrecalls.past emission hmem).trans hnow

/-- Evicting from what is recalled marks its oldest emissions. -/
theorem evictOldest_append {gone live : List (Emission κ τ)}
    (hgone : ∀ emission ∈ gone, emission.holds rule now = false)
    (hlive : ∀ emission ∈ live, emission.holds rule now = true) (excess : ℕ) :
    rule.evictOldest now excess (gone ++ live) =
      gone ++ ((live.take excess).map Emission.evict ++ live.drop excess) := by
  induction gone with
  | nil =>
    induction live generalizing excess with
    | nil => cases excess <;> rfl
    | cons emission live ih =>
      cases excess with
      | zero => rfl
      | succ excess =>
        have hholds := hlive emission (List.mem_cons_self ..)
        have hrest := ih (fun other hmem => hlive other (List.mem_cons_of_mem _ hmem)) excess
        simp only [List.nil_append] at hrest ⊢
        rw [Cooldown.evictOldest, if_pos hholds, hrest]
        rfl
  | cons emission gone ih =>
    have hnot : ¬ emission.holds rule now = true := by
      rw [hgone emission (List.mem_cons_self ..)]
      exact Bool.false_ne_true
    have hrest := ih fun other hmem => hgone other (List.mem_cons_of_mem _ hmem)
    cases excess with
    | zero => simp [Cooldown.evictOldest]
    | succ excess =>
      rw [List.cons_append, Cooldown.evictOldest, if_neg hnot, hrest]
      rfl

theorem countP_holds (hrecalls : Recalls rule now ledger live) :
    ledger.countP (Emission.holds rule now) = live.length := by
  obtain ⟨gone, rfl, hgone, -⟩ := hrecalls.split
  rw [List.countP_append, List.countP_eq_length.mpr hrecalls.holds, Nat.add_eq_right,
    List.countP_eq_zero]
  intro emission hmem
  rw [hgone emission hmem]
  exact Bool.false_ne_true

/-- Enforcing the bound keeps the latest of what is recalled. -/
theorem enforce (hrecalls : Recalls rule now ledger live) :
    Recalls rule now (rule.enforce now ledger) (live.drop (live.length - rule.bound)) := by
  unfold Cooldown.enforce
  rw [hrecalls.countP_holds]
  have hsublist : (live.drop (live.length - rule.bound)).Sublist live := List.drop_sublist _ _
  have htimes : (rule.evictOldest now (live.length - rule.bound) ledger).map Emission.time =
      ledger.map Emission.time := by
    obtain ⟨gone, rfl, hgone, -⟩ := hrecalls.split
    have hsame : ((live.take (live.length - rule.bound)).map Emission.evict).map Emission.time =
        (live.take (live.length - rule.bound)).map Emission.time := by
      rw [List.map_map]
      rfl
    rw [evictOldest_append hgone hrecalls.holds, List.map_append, List.map_append, hsame,
      ← List.map_append, List.take_append_drop, List.map_append]
  refine ⟨?_, ?_, hrecalls.nodup.sublist (hsublist.map _), ?_, ?_⟩
  · obtain ⟨gone, rfl, hgone, hfull⟩ := hrecalls.split
    rw [evictOldest_append hgone hrecalls.holds]
    refine ⟨_, (List.append_assoc ..).symm, ?_, ?_⟩
    · intro emission hmem
      rcases List.mem_append.mp hmem with hold | hevicted
      · exact hgone emission hold
      · obtain ⟨kept, -, rfl⟩ := List.mem_map.mp hevicted
        rfl
    · rintro ⟨emission, hmem, hruns⟩
      have hlength : rule.bound ≤ live.length := by
        rcases List.mem_append.mp hmem with hold | hevicted
        · exact hfull ⟨emission, hold, hruns⟩
        · obtain ⟨kept, hkept, -⟩ := List.mem_map.mp hevicted
          by_contra hshort
          rw [Nat.sub_eq_zero_of_le (Nat.le_of_not_le hshort)] at hkept
          cases hkept
      rw [List.length_drop]
      omega
  · exact fun emission hmem => hrecalls.holds emission (hsublist.mem hmem)
  · rw [← List.pairwise_map (f := Emission.time) (R := (· ≤ ·)), htimes, List.pairwise_map]
    exact hrecalls.sorted
  · intro emission hmem
    have htime := List.mem_map_of_mem (f := Emission.time) hmem
    rw [htimes] at htime
    obtain ⟨kept, hkept, htime⟩ := List.mem_map.mp htime
    exact htime ▸ hrecalls.past kept hkept

theorem countP_evicted_enforce (hrecalls : Recalls rule now ledger live) :
    (rule.enforce now ledger).countP Emission.evicted =
      ledger.countP Emission.evicted + (live.length - rule.bound) := by
  unfold Cooldown.enforce
  rw [hrecalls.countP_holds]
  obtain ⟨gone, rfl, hgone, -⟩ := hrecalls.split
  have hlive : ∀ emission ∈ live, ¬ emission.evicted = true := by
    intro emission hmem
    have hholds := (Bool.and_eq_true_iff.mp (hrecalls.holds emission hmem)).1
    simpa using hholds
  have hnone : live.countP Emission.evicted = 0 := List.countP_eq_zero.mpr hlive
  have hkept : (live.drop (live.length - rule.bound)).countP Emission.evicted = 0 :=
    List.countP_eq_zero.mpr fun emission hmem => hlive emission (List.mem_of_mem_drop hmem)
  have hmarked : ((live.take (live.length - rule.bound)).map Emission.evict).countP
      Emission.evicted = live.length - rule.bound := by
    rw [List.countP_eq_length.mpr, List.length_map, List.length_take]
    · exact Nat.min_eq_left (Nat.sub_le _ _)
    · intro emission hmem
      obtain ⟨kept, -, rfl⟩ := List.mem_map.mp hmem
      rfl
  rw [evictOldest_append hgone hrecalls.holds, List.countP_append, List.countP_append,
    List.countP_append, hnone, hkept, hmarked]
  omega

variable [DecidableEq κ]

/-- An item is suppressed exactly when its key is recalled. -/
theorem suppresses_iff (hrecalls : Recalls rule now ledger live) (key : κ) :
    rule.suppresses now ledger key = true ↔ key ∈ live.map Emission.key := by
  obtain ⟨gone, rfl, hgone, -⟩ := hrecalls.split
  simp only [Cooldown.suppresses, List.any_append, Bool.or_eq_true, List.any_eq_true,
    Bool.and_eq_true, decide_eq_true_eq, List.mem_map]
  constructor
  · rintro (⟨emission, hmem, -, hholds⟩ | ⟨emission, hmem, hkey, -⟩)
    · rw [hgone emission hmem] at hholds
      cases hholds
    · exact ⟨emission, hmem, hkey⟩
  · rintro ⟨emission, hmem, hkey⟩
    exact .inr ⟨emission, hmem, hkey, hrecalls.holds emission hmem⟩

/-- What is recalled is the latest of the keys whose cooldown is not over, as many
as the bound admits. -/
theorem keys (hrecalls : Recalls rule now ledger live) (hbound : live.length ≤ rule.bound) :
    live.map Emission.key = (rule.recent now ledger).rtake rule.bound := by
  obtain ⟨gone, rfl, -, hfull⟩ := hrecalls.split
  have hlive : live.filter (Emission.runs rule now) = live :=
    List.filter_eq_self.mpr fun emission hmem =>
      Emission.runs_of_holds (hrecalls.holds emission hmem)
  unfold Cooldown.recent
  rw [List.filter_append, hlive, List.map_append, List.dedup_append, hrecalls.nodup.dedup]
  cases hold : gone.filter (Emission.runs rule now) with
  | nil =>
    rw [List.map_nil, List.nil_union, List.rtake, List.length_map,
      Nat.sub_eq_zero_of_le hbound, List.drop_zero]
  | cons emission rest =>
    have hmem : emission ∈ gone.filter (Emission.runs rule now) := by
      rw [hold]
      exact List.mem_cons_self ..
    obtain ⟨hgone, hruns⟩ := List.mem_filter.mp hmem
    have hlength : live.length = rule.bound :=
      Nat.le_antisymm hbound (hfull ⟨emission, hgone, hruns⟩)
    obtain ⟨older, holder⟩ := List.suffix_union_right
      ((emission :: rest).map Emission.key) (live.map Emission.key)
    rw [← holder, List.rtake, List.length_append, List.length_map, hlength, Nat.add_sub_cancel,
      List.drop_left]

end Recalls

end Sllurp.Foundations
