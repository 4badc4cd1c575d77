/-
# Deduplication of tag reports

A report is emitted at once, and further reports of the same identity are
suppressed for a fixed time after it. Identities are remembered in a dictionary
with their expiry and in a queue in the order of expiry. The deduplicator
behaves as a cooldown does, whose ledger forgets nothing.
-/

import Sllurp.Foundations.Cooldown
import Sllurp.Foundations.Dict
import Sllurp.Foundations.Run
import Mathlib.Algebra.Order.Field.Rat

namespace Sllurp.Runtime

open Sllurp.Foundations

/-! ## The deduplicator -/

/-- A deduplicator of reports with an identity for each. Times are in seconds. -/
structure TagReportDeduplicator (ρ κ : Type) where
  windowSeconds : ℚ
  maxEntries : ℕ
  key : ρ → κ
  seen : Dict κ ℚ
  expiryQueue : List (ℚ × κ)
  evictions : ℕ
  windowNonneg : 0 ≤ windowSeconds
  maxEntriesPos : 0 < maxEntries

namespace TagReportDeduplicator

variable {ρ κ : Type}

/-- A deduplicator that has seen nothing. -/
def make (windowSeconds : ℚ) (maxEntries : ℕ) (key : ρ → κ) (hwindow : 0 ≤ windowSeconds)
    (hmax : 0 < maxEntries) : TagReportDeduplicator ρ κ where
  windowSeconds := windowSeconds
  maxEntries := maxEntries
  key := key
  seen := .empty
  expiryQueue := []
  evictions := 0
  windowNonneg := hwindow
  maxEntriesPos := hmax

variable [DecidableEq κ]

/-- Take the entries off the queue that have expired. An identity is forgotten if
its expiry is still the one in the queue. -/
def purgeExpired (now : ℚ) : List (ℚ × κ) → Dict κ ℚ → List (ℚ × κ) × Dict κ ℚ
  | [], seen => ([], seen)
  | (expiry, key) :: queue, seen =>
    if expiry ≤ now then
      purgeExpired now queue (if seen.get? key = some expiry then seen.erase key else seen)
    else ((expiry, key) :: queue, seen)

/-- Forget the oldest identities while there are too many, and count them. -/
def trim (maxEntries : ℕ) :
    List (ℚ × κ) → Dict κ ℚ → ℕ → List (ℚ × κ) × Dict κ ℚ × ℕ
  | [], seen, evictions => ([], seen, evictions)
  | (expiry, key) :: queue, seen, evictions =>
    if maxEntries < seen.entries.length then
      if seen.get? key = some expiry then
        trim maxEntries queue (seen.erase key) (evictions + 1)
      else trim maxEntries queue seen evictions
    else ((expiry, key) :: queue, seen, evictions)

/-- Emit the reports whose identity is not cooling down, in turn. -/
def emit (now : ℚ) :
    List ρ → TagReportDeduplicator ρ κ → List ρ × TagReportDeduplicator ρ κ
  | [], dedup => ([], dedup)
  | tag :: tags, dedup =>
    if (dedup.seen.get? (dedup.key tag)).any (now < ·) then emit now tags dedup
    else
      let expiry := now + dedup.windowSeconds
      let rest := emit now tags
        { dedup with
          seen := dedup.seen.set (dedup.key tag) expiry
          expiryQueue := dedup.expiryQueue ++ [(expiry, dedup.key tag)] }
      (tag :: rest.1, rest.2)

/-- Return only the reports whose cooldown has expired, given the time that the
clock reads. -/
def filter (dedup : TagReportDeduplicator ρ κ) (call : ℚ × List ρ) :
    List ρ × TagReportDeduplicator ρ κ :=
  if dedup.windowSeconds = 0 then (call.2, dedup)
  else
    let purged := purgeExpired call.1 dedup.expiryQueue dedup.seen
    let emitted := emit call.1 call.2 { dedup with expiryQueue := purged.1, seen := purged.2 }
    let trimmed :=
      trim emitted.2.maxEntries emitted.2.expiryQueue emitted.2.seen emitted.2.evictions
    (emitted.1,
      { emitted.2 with
        expiryQueue := trimmed.1, seen := trimmed.2.1, evictions := trimmed.2.2 })

/-- Forget all that was seen, and the count of evictions. -/
def reset (dedup : TagReportDeduplicator ρ κ) : TagReportDeduplicator ρ κ :=
  { dedup with seen := .empty, expiryQueue := [], evictions := 0 }

/-! ## The cooldown it implements -/

/-- The rule that the deduplicator follows. -/
def rule (dedup : TagReportDeduplicator ρ κ) : Cooldown ℚ :=
  ⟨dedup.windowSeconds, dedup.maxEntries⟩

/-- A queue and a dictionary that hold the same emissions, oldest first. -/
structure Tracks (window : ℚ) (queue : List (ℚ × κ)) (seen : Dict κ ℚ)
    (live : List (Emission κ ℚ)) : Prop where
  queue : queue = live.map fun emission => (emission.time + window, emission.key)
  seen : seen.entries = live.map fun emission => (emission.key, emission.time + window)

namespace Tracks

variable {window : ℚ} {queue : List (ℚ × κ)} {seen : Dict κ ℚ} {live : List (Emission κ ℚ)}

omit [DecidableEq κ] in
theorem keys (htracks : Tracks window queue seen live) :
    seen.keys = live.map Emission.key := by
  rw [Dict.keys, htracks.seen, List.map_map]
  rfl

omit [DecidableEq κ] in
theorem length (htracks : Tracks window queue seen live) :
    seen.entries.length = live.length := by
  rw [htracks.seen, List.length_map]

theorem get? (htracks : Tracks window queue seen live) {emission : Emission κ ℚ}
    (hmem : emission ∈ live) : seen.get? emission.key = some (emission.time + window) := by
  rw [Dict.get?_eq_some_iff, htracks.seen]
  exact List.mem_map.mpr ⟨emission, hmem, rfl⟩

/-- Without its first entry, the queue tracks the other emissions. -/
theorem tail {emission : Emission κ ℚ}
    (htracks : Tracks window queue seen (emission :: live)) :
    Tracks window queue.tail (seen.erase emission.key) live where
  queue := by
    rw [htracks.queue]
    rfl
  seen := Dict.entries_erase_head (by rw [htracks.seen]; rfl)

/-- Purging forgets the emissions whose cooldown is over. -/
theorem purgeExpired (rule : Cooldown ℚ) (now : ℚ)
    (htracks : Tracks rule.window queue seen live) :
    Tracks rule.window (purgeExpired now queue seen).1 (purgeExpired now queue seen).2
      (live.dropWhile fun emission => !emission.runs rule now) := by
  induction live generalizing queue seen with
  | nil =>
    have hqueue : queue = [] := htracks.queue
    subst hqueue
    exact htracks
  | cons emission live ih =>
    have hqueue : queue = (emission.time + rule.window, emission.key) :: queue.tail := by
      rw [htracks.queue]
      rfl
    have hget := htracks.get? (List.mem_cons_self ..)
    rw [hqueue]
    unfold TagReportDeduplicator.purgeExpired
    by_cases hexpired : emission.time + rule.window ≤ now
    · have hover : emission.runs rule now = false := decide_eq_false hexpired.not_gt
      rw [if_pos hexpired, if_pos hget, List.dropWhile_cons_of_pos (by rw [hover]; rfl)]
      exact ih htracks.tail
    · have hruns : emission.runs rule now = true := decide_eq_true (lt_of_not_ge hexpired)
      rw [if_neg hexpired,
        List.dropWhile_cons_of_neg (by rw [hruns]; exact Bool.false_ne_true), ← hqueue]
      exact htracks

/-- Trimming forgets the oldest emissions over the limit, and counts them. -/
theorem trim (maxEntries evictions : ℕ) (htracks : Tracks window queue seen live) :
    Tracks window (trim maxEntries queue seen evictions).1
        (trim maxEntries queue seen evictions).2.1 (live.drop (live.length - maxEntries)) ∧
      (trim maxEntries queue seen evictions).2.2 = evictions + (live.length - maxEntries) := by
  induction live generalizing queue seen evictions with
  | nil =>
    have hqueue : queue = [] := htracks.queue
    subst hqueue
    rw [List.length_nil, Nat.zero_sub, List.drop_zero]
    exact ⟨htracks, rfl⟩
  | cons emission live ih =>
    have hqueue : queue = (emission.time + window, emission.key) :: queue.tail := by
      rw [htracks.queue]
      rfl
    have hget := htracks.get? (List.mem_cons_self ..)
    have hlength := htracks.length
    rw [hqueue]
    unfold TagReportDeduplicator.trim
    rw [hlength]
    by_cases hmany : maxEntries < (emission :: live).length
    · have hexcess : (emission :: live).length - maxEntries =
          live.length - maxEntries + 1 := by
        rw [List.length_cons] at hmany ⊢
        omega
      rw [if_pos hmany, if_pos hget, hexcess, List.drop_succ_cons]
      obtain ⟨htrimmed, hcount⟩ := ih (evictions + 1) htracks.tail
      refine ⟨htrimmed, hcount.trans ?_⟩
      omega
    · rw [if_neg hmany, Nat.sub_eq_zero_of_le (Nat.le_of_not_lt hmany), List.drop_zero, ← hqueue]
      exact ⟨htracks, rfl⟩

end Tracks

/-- The deduplicator remembers what the ledger recalls, and has counted what the
ledger evicted. -/
structure Follows (now : ℚ) (dedup : TagReportDeduplicator ρ κ)
    (ledger live : List (Emission κ ℚ)) : Prop where
  recalls : Recalls dedup.rule now ledger live
  tracks : Tracks dedup.windowSeconds dedup.expiryQueue dedup.seen live
  evictions : dedup.evictions = ledger.countP Emission.evicted

namespace Follows

variable {now : ℚ} {dedup : TagReportDeduplicator ρ κ} {ledger live : List (Emission κ ℚ)}

omit [DecidableEq κ] in
theorem make (windowSeconds : ℚ) (maxEntries : ℕ) (key : ρ → κ) (hwindow : 0 ≤ windowSeconds)
    (hmax : 0 < maxEntries) (now : ℚ) :
    Follows now (make windowSeconds maxEntries key hwindow hmax) [] [] where
  recalls := .nil _ _
  tracks := ⟨rfl, rfl⟩
  evictions := rfl

/-- The ledger lets through what the deduplicator emits. -/
theorem emit (hwindow : 0 < dedup.windowSeconds) (hfollows : Follows now dedup ledger live)
    (tags : List ρ) :
    (emit now tags dedup).1 = (dedup.rule.passing dedup.key now tags ledger).1 ∧
      (emit now tags dedup).2.rule = dedup.rule ∧ (emit now tags dedup).2.key = dedup.key ∧
      ∃ later, Follows now (emit now tags dedup).2
        (dedup.rule.passing dedup.key now tags ledger).2 later := by
  induction tags generalizing dedup ledger live with
  | nil => exact ⟨rfl, rfl, rfl, live, hfollows⟩
  | cons tag tags ih =>
    have hsuppresses := hfollows.recalls.suppresses_iff (dedup.key tag)
    have hseen : (dedup.seen.get? (dedup.key tag)).any (now < ·) = true ↔
        dedup.key tag ∈ live.map Emission.key := by
      constructor
      · intro hcooling
        rw [← hfollows.tracks.keys, Dict.mem_keys_iff]
        cases hget : dedup.seen.get? (dedup.key tag) with
        | none =>
          rw [hget] at hcooling
          cases hcooling
        | some expiry => exact ⟨expiry, rfl⟩
      · intro hmem
        obtain ⟨emission, hlive, hkey⟩ := List.mem_map.mp hmem
        rw [← hkey, hfollows.tracks.get? hlive]
        exact Emission.runs_of_holds (hfollows.recalls.holds emission hlive)
    unfold TagReportDeduplicator.emit Cooldown.passing
    by_cases hcooling : dedup.key tag ∈ live.map Emission.key
    · rw [if_pos (hseen.mpr hcooling), if_pos (hsuppresses.mpr hcooling)]
      exact ih hwindow hfollows
    · rw [if_neg (hcooling ∘ hseen.mp), if_neg (hcooling ∘ hsuppresses.mp)]
      let emitted : TagReportDeduplicator ρ κ :=
        { dedup with
          seen := dedup.seen.set (dedup.key tag) (now + dedup.windowSeconds)
          expiryQueue := dedup.expiryQueue ++ [(now + dedup.windowSeconds, dedup.key tag)] }
      have hemitted : Follows now emitted
          (ledger ++ [⟨dedup.key tag, now, false⟩]) (live ++ [⟨dedup.key tag, now, false⟩]) := by
        refine ⟨hfollows.recalls.emit (lt_add_of_pos_right now hwindow) hcooling, ⟨?_, ?_⟩, ?_⟩
        · rw [List.map_append, ← hfollows.tracks.queue]
          rfl
        · have hkey : dedup.key tag ∉ dedup.seen.keys := hfollows.tracks.keys ▸ hcooling
          rw [List.map_append, ← hfollows.tracks.seen]
          exact Dict.entries_set_of_not_mem hkey _
        · rw [List.countP_append]
          exact hfollows.evictions
      have hpositive : 0 < emitted.windowSeconds := hwindow
      obtain ⟨hsame, hrule, hkeyOf, hlater⟩ := ih hpositive hemitted
      exact ⟨congrArg (tag :: ·) hsame, hrule, hkeyOf, hlater⟩

/-- One call follows one step of the cooldown. -/
theorem filter {later : ℚ} (hwindow : 0 < dedup.windowSeconds)
    (hfollows : Follows now dedup ledger live) (hnow : now ≤ later) (tags : List ρ) :
    (dedup.filter (later, tags)).1 = (dedup.rule.step dedup.key ledger (later, tags)).1 ∧
      (dedup.filter (later, tags)).2.rule = dedup.rule ∧
      (dedup.filter (later, tags)).2.key = dedup.key ∧
      ∃ remembered, remembered.length ≤ dedup.maxEntries ∧
        Follows later (dedup.filter (later, tags)).2
          (dedup.rule.step dedup.key ledger (later, tags)).2 remembered := by
  let purged := purgeExpired later dedup.expiryQueue dedup.seen
  let ready : TagReportDeduplicator ρ κ :=
    { dedup with expiryQueue := purged.1, seen := purged.2 }
  have hready : Follows later ready ledger
      (live.dropWhile fun emission => !emission.runs dedup.rule later) :=
    ⟨hfollows.recalls.advance hnow, hfollows.tracks.purgeExpired dedup.rule later,
      hfollows.evictions⟩
  have hpositive : 0 < ready.windowSeconds := hwindow
  obtain ⟨hsame, hrule, hkey, live', hemitted⟩ := hready.emit hpositive tags
  let emitted := (TagReportDeduplicator.emit later tags ready).2
  obtain ⟨htrimmed, hcount⟩ := hemitted.tracks.trim emitted.maxEntries emitted.evictions
  have hmax : emitted.maxEntries = dedup.maxEntries := congrArg Cooldown.bound hrule
  have hledger : dedup.rule.enforce later (dedup.rule.passing dedup.key later tags ledger).2 =
      emitted.rule.enforce later (dedup.rule.passing dedup.key later tags ledger).2 := by
    rw [show emitted.rule = dedup.rule from hrule]
  unfold TagReportDeduplicator.filter
  rw [if_neg hwindow.ne']
  refine ⟨hsame, hrule, hkey, _, ?_, ?_, htrimmed, ?_⟩
  · rw [List.length_drop, hmax]
    omega
  · change Recalls emitted.rule later
      (dedup.rule.enforce later (dedup.rule.passing dedup.key later tags ledger).2) _
    rw [hledger]
    exact hemitted.recalls.enforce
  · have hevicted := hemitted.recalls.countP_evicted_enforce
    have hcounted : emitted.evictions + (live'.length - emitted.maxEntries) =
        (dedup.rule.enforce later
          (dedup.rule.passing dedup.key later tags ledger).2).countP Emission.evicted := by
      rw [hledger]
      exact (congrArg (· + _) hemitted.evictions).trans hevicted.symm
    exact hcount.trans hcounted

/-- A run of calls at times in order follows the ledger. -/
theorem run (hwindow : 0 < dedup.windowSeconds) (hfollows : Follows now dedup ledger live)
    {calls : List (ℚ × List ρ)} (hlater : ∀ call ∈ calls, now ≤ call.1)
    (hclock : calls.Pairwise fun early late => early.1 ≤ late.1) :
    outputs TagReportDeduplicator.filter dedup calls =
        outputs (dedup.rule.step dedup.key) ledger calls ∧
      (run (fun dedup call => (dedup.filter call).2) dedup calls).evictions =
        (run (fun ledger call => (dedup.rule.step dedup.key ledger call).2) ledger calls).countP
          Emission.evicted ∧
      ∀ last ∈ calls.getLast?,
        (run (fun dedup call => (dedup.filter call).2) dedup calls).seen.keys =
          (dedup.rule.recent last.1 (run (fun ledger call =>
            (dedup.rule.step dedup.key ledger call).2) ledger calls)).rtake dedup.maxEntries := by
  induction calls generalizing now dedup ledger live with
  | nil => exact ⟨rfl, hfollows.evictions, fun _ hlast => nomatch hlast⟩
  | cons call calls ih =>
    rw [List.pairwise_cons] at hclock
    obtain ⟨hsame, hrule, hkey, remembered, hbound, hnext⟩ :=
      hfollows.filter hwindow (hlater call (List.mem_cons_self ..)) call.2
    change (dedup.filter call).1 = _ at hsame
    change (dedup.filter call).2.rule = _ at hrule
    change (dedup.filter call).2.key = _ at hkey
    change Follows call.1 (dedup.filter call).2 (dedup.rule.step dedup.key ledger call).2 _ at hnext
    have hpositive : 0 < (dedup.filter call).2.windowSeconds := by
      rw [show (dedup.filter call).2.windowSeconds = _ from congrArg Cooldown.window hrule]
      exact hwindow
    have hmax : (dedup.filter call).2.maxEntries = dedup.maxEntries :=
      congrArg Cooldown.bound hrule
    obtain ⟨houtputs, hevictions, hlast⟩ := ih hpositive hnext hclock.1 hclock.2
    rw [hrule, hkey] at houtputs hevictions hlast
    rw [hmax] at hlast
    refine ⟨congrArg₂ List.cons hsame houtputs, hevictions, ?_⟩
    intro last hmem
    cases calls with
    | nil =>
      rw [List.getLast?_singleton, Option.mem_some_iff] at hmem
      subst hmem
      have hkeys := hnext.recalls.keys (hbound.trans (Nat.le_of_eq hmax.symm))
      rw [hrule] at hkeys
      exact hnext.tracks.keys.trans hkeys
    | cons next calls =>
      rw [List.getLast?_cons_cons] at hmem
      exact hlast last hmem

end Follows

/-- The deduplicator is a cooldown over whole runs: it emits what the ledger lets
through, in the order of the input, counts what the ledger evicts, and remembers
the latest identities that are cooling down, as many as the limit admits. -/
theorem filter_implements_cooldown {windowSeconds : ℚ} (hwindow : 0 < windowSeconds)
    {maxEntries : ℕ} (hmax : 0 < maxEntries) (key : ρ → κ) {calls : List (ℚ × List ρ)}
    (hclock : calls.Pairwise fun early late => early.1 ≤ late.1) :
    let dedup := make windowSeconds maxEntries key hwindow.le hmax
    let cooldown : Cooldown ℚ := ⟨windowSeconds, maxEntries⟩
    let ledger := run (fun ledger call => (cooldown.step key ledger call).2) [] calls
    let later := run (fun dedup call => (dedup.filter call).2) dedup calls
    outputs filter dedup calls = outputs (cooldown.step key) [] calls ∧
      List.Forall₂ (fun call emitted => emitted.Sublist call.2) calls
        (outputs filter dedup calls) ∧
      later.evictions = ledger.countP Emission.evicted ∧
      ∀ last ∈ calls.getLast?,
        later.seen.keys = (cooldown.recent last.1 ledger).rtake maxEntries := by
  have hsublist : ∀ (cooldown : Cooldown ℚ) (ledger : List (Emission κ ℚ)),
      List.Forall₂ (fun call emitted => emitted.Sublist call.2) calls
        (outputs (cooldown.step key) ledger calls) := by
    intro cooldown ledger
    clear hclock
    induction calls generalizing ledger with
    | nil => exact .nil
    | cons call calls ih => exact .cons (cooldown.passing_sublist key call.1 call.2 ledger) (ih _)
  dsimp only
  obtain ⟨now, hnow⟩ : ∃ now, ∀ call ∈ calls, now ≤ call.1 := by
    cases calls with
    | nil => exact ⟨0, fun _ hmem => nomatch hmem⟩
    | cons first calls =>
      refine ⟨first.1, fun call hmem => ?_⟩
      rcases List.mem_cons.mp hmem with rfl | hrest
      · exact le_rfl
      · exact (List.pairwise_cons.mp hclock).1 call hrest
  obtain ⟨houtputs, hevictions, hlast⟩ :=
    (Follows.make windowSeconds maxEntries key hwindow.le hmax now).run hwindow hnow hclock
  exact ⟨houtputs, houtputs.symm ▸ hsublist _ _, hevictions, hlast⟩

/-- Two tags, a window of two seconds and room for one identity: the second tag
evicts the first, which is emitted again. -/
theorem filter_implements_cooldown_evicting :
    let dedup := make 2 1 id (by decide) Nat.one_pos
    let calls : List (ℚ × List ℕ) := [(0, [7, 8, 7]), (1, [8, 7])]
    outputs filter dedup calls = [[7, 8], [7]] ∧
      (run (fun dedup call => (dedup.filter call).2) dedup calls).evictions = 2 := by
  have hcooldown := @filter_implements_cooldown ℕ ℕ _ 2 (by decide) 1 Nat.one_pos id
    [(0, [7, 8, 7]), (1, [8, 7])] (by decide)
  exact ⟨hcooldown.1.trans (by decide +kernel), hcooldown.2.2.1.trans (by decide +kernel)⟩

end TagReportDeduplicator

end Sllurp.Runtime
