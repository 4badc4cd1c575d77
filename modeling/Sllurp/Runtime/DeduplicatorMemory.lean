/-
# The memory of the deduplicator

Whatever the clock reads, also when it goes back, the dictionary and the queue of a
deduplicator stay in step. The emissions are numbered here, so that the entry that
forgets an identity can be compared with the emission it was remembered for.
-/

import Sllurp.Foundations.ExpiryQueue
import Sllurp.Runtime.Deduplicator

namespace Sllurp.Runtime

open Sllurp.Foundations

namespace TagReportDeduplicator

variable {ρ κ : Type} [DecidableEq κ]

/-- A call on a deduplicator, with what the clock reads. -/
inductive Call (ρ : Type)
  | filter (now : ℚ) (tags : List ρ)
  | reset

/-- What a call leaves of the deduplicator. -/
def call (dedup : TagReportDeduplicator ρ κ) : Call ρ → TagReportDeduplicator ρ κ
  | .filter now tags => (dedup.filter (now, tags)).2
  | .reset => dedup.reset

/-! ## The same memory with numbered emissions -/

/-- Number the emissions of the identities that are not cooling down, in turn. -/
def remember (window now : ℚ) : List κ → ExpiryQueue κ ℚ → ExpiryQueue κ ℚ
  | [], memory => memory
  | key :: keys, memory =>
    if ((memory.current.get? key).map Prod.fst).any (now < ·) then remember window now keys memory
    else remember window now keys (memory.set key (now + window))

def purge (now : ℚ) (memory : ExpiryQueue κ ℚ) : ExpiryQueue κ ℚ :=
  memory.popWhile (fun _ entry => entry.expiry ≤ now) memory.queue

def shrink (maxEntries : ℕ) (memory : ExpiryQueue κ ℚ) : ExpiryQueue κ ℚ :=
  memory.popWhile (fun current _ => maxEntries < current.entries.length) memory.queue

/-- What a call does to the numbered memory of a deduplicator. -/
def follow (dedup : TagReportDeduplicator ρ κ) (memory : ExpiryQueue κ ℚ) :
    Call ρ → ExpiryQueue κ ℚ
  | .filter now tags =>
    if dedup.windowSeconds = 0 then memory
    else
      shrink dedup.maxEntries
        (remember dedup.windowSeconds now (tags.map dedup.key) (purge now memory))
  | .reset => memory.clear

/-- The queue and the dictionary are those of the memory, without the numbers. -/
structure Shows (memory : ExpiryQueue κ ℚ) (queue : List (ℚ × κ)) (seen : Dict κ ℚ) :
    Prop where
  queue : queue = memory.queue.map fun entry => (entry.expiry, entry.key)
  seen : seen = memory.current.mapValues Prod.fst

namespace Shows

variable {memory : ExpiryQueue κ ℚ} {queue : List (ℚ × κ)} {seen : Dict κ ℚ}

theorem get? (hshows : Shows memory queue seen) (key : κ) :
    seen.get? key = (memory.current.get? key).map Prod.fst := by
  rw [hshows.seen, Dict.get?_mapValues]

omit [DecidableEq κ] in
theorem length (hshows : Shows memory queue seen) :
    seen.entries.length = memory.current.entries.length := by
  rw [hshows.seen]
  exact List.length_map _

/-- What an entry forgets when it leaves the queue. -/
theorem forget (entry : QueueEntry κ ℚ) (hseen : seen = memory.current.mapValues Prod.fst) :
    (if seen.get? entry.key = some entry.expiry then seen.erase entry.key else seen) =
      (memory.forget entry).current.mapValues Prod.fst := by
  have hget : seen.get? entry.key = (memory.current.get? entry.key).map Prod.fst := by
    rw [hseen, Dict.get?_mapValues]
  rcases memory.forget_cases entry with ⟨setting, hcurrent, hforget⟩ | ⟨hstale, hforget⟩
  · have hsame : seen.get? entry.key = some entry.expiry := by
      rw [hget, hcurrent]
      rfl
    rw [hforget, if_pos hsame, hseen, Dict.mapValues_erase]
  · rw [hforget, hget, if_neg, hseen]
    intro hcurrent
    obtain ⟨⟨expiry, setting⟩, hvalue, rfl⟩ := Option.map_eq_some_iff.mp hcurrent
    exact hstale setting hvalue

theorem purgeExpired (now : ℚ) (hshows : Shows memory queue seen) :
    Shows (purge now memory) (purgeExpired now queue seen).1 (purgeExpired now queue seen).2 := by
  obtain ⟨rfl, hseen⟩ := hshows
  unfold purge
  generalize memory.queue = entries
  induction entries generalizing memory seen with
  | nil => exact ⟨rfl, hseen⟩
  | cons entry entries ih =>
    simp only [List.map_cons, TagReportDeduplicator.purgeExpired, ExpiryQueue.popWhile,
      decide_eq_true_eq]
    by_cases hexpired : entry.expiry ≤ now
    · rw [if_pos hexpired, if_pos hexpired]
      exact ih (forget entry hseen)
    · rw [if_neg hexpired, if_neg hexpired]
      exact ⟨rfl, hseen⟩

theorem trim (maxEntries evictions : ℕ) (hshows : Shows memory queue seen) :
    Shows (shrink maxEntries memory) (trim maxEntries queue seen evictions).1
      (trim maxEntries queue seen evictions).2.1 := by
  obtain ⟨rfl, hseen⟩ := hshows
  unfold shrink
  generalize memory.queue = entries
  induction entries generalizing memory seen evictions with
  | nil => exact ⟨rfl, hseen⟩
  | cons entry entries ih =>
    have hlength : seen.entries.length = memory.current.entries.length := by
      rw [hseen]
      exact List.length_map _
    simp only [List.map_cons, TagReportDeduplicator.trim, ExpiryQueue.popWhile,
      decide_eq_true_eq, hlength]
    have hforget := forget entry hseen
    by_cases hmany : maxEntries < memory.current.entries.length
    · rw [if_pos hmany, if_pos hmany]
      by_cases hcurrent : seen.get? entry.key = some entry.expiry
      · rw [if_pos hcurrent] at hforget ⊢
        exact ih (evictions + 1) hforget
      · rw [if_neg hcurrent] at hforget ⊢
        exact ih evictions hforget
    · rw [if_neg hmany, if_neg hmany]
      exact ⟨rfl, hseen⟩

theorem emit (now : ℚ) (tags : List ρ) {dedup : TagReportDeduplicator ρ κ}
    (hshows : Shows memory dedup.expiryQueue dedup.seen) :
    Shows (remember dedup.windowSeconds now (tags.map dedup.key) memory)
        (emit now tags dedup).2.expiryQueue (emit now tags dedup).2.seen ∧
      (emit now tags dedup).2.windowSeconds = dedup.windowSeconds ∧
      (emit now tags dedup).2.maxEntries = dedup.maxEntries ∧
      (emit now tags dedup).2.key = dedup.key := by
  induction tags generalizing memory dedup with
  | nil => exact ⟨hshows, rfl, rfl, rfl⟩
  | cons tag tags ih =>
    rw [TagReportDeduplicator.emit, List.map_cons, remember, hshows.get?]
    split
    · exact ih hshows
    · have hset : Shows (memory.set (dedup.key tag) (now + dedup.windowSeconds))
          (dedup.expiryQueue ++ [(now + dedup.windowSeconds, dedup.key tag)])
          (dedup.seen.set (dedup.key tag) (now + dedup.windowSeconds)) := by
        constructor
        · change _ = (memory.queue ++ [_]).map _
          rw [hshows.queue, List.map_append]
          rfl
        · rw [hshows.seen]
          exact (Dict.mapValues_set memory.current Prod.fst (dedup.key tag)
            (now + dedup.windowSeconds, memory.next)).symm
      exact @ih _ { dedup with
        seen := dedup.seen.set (dedup.key tag) (now + dedup.windowSeconds)
        expiryQueue :=
          dedup.expiryQueue ++ [(now + dedup.windowSeconds, dedup.key tag)] } hset

end Shows

/-! ## The memory stays matched and bounded -/

/-- Emitting sets later expiries. -/
theorem matched_remember {window : ℚ} (hwindow : 0 < window) (now : ℚ) (keys : List κ)
    {memory : ExpiryQueue κ ℚ} (hmatched : memory.Matched) :
    (remember window now keys memory).Matched := by
  induction keys generalizing memory with
  | nil => exact hmatched
  | cons key keys ih =>
    unfold remember
    split
    · exact ih hmatched
    · rename_i hover
      apply ih
      apply hmatched.set
      intro earlier setting hget
      rw [hget] at hover
      have hpast : ¬ now < earlier := by simpa using hover
      exact (not_lt.mp hpast).trans_lt (lt_add_of_pos_right now hwindow)

/-- A dictionary and a queue that a memory shows, with room for so many identities. -/
structure Kept (memory : ExpiryQueue κ ℚ) (dedup : TagReportDeduplicator ρ κ) : Prop where
  shows : Shows memory dedup.expiryQueue dedup.seen
  matched : memory.Matched
  bounded : dedup.seen.entries.length ≤ dedup.maxEntries

/-- The settings of a deduplicator stay. -/
def SameSettings (first second : TagReportDeduplicator ρ κ) : Prop :=
  second.windowSeconds = first.windowSeconds ∧ second.maxEntries = first.maxEntries ∧
    second.key = first.key

/-- A deduplicator after it has trimmed its queue. -/
def trimmed (dedup : TagReportDeduplicator ρ κ) : TagReportDeduplicator ρ κ :=
  let rest := trim dedup.maxEntries dedup.expiryQueue dedup.seen dedup.evictions
  { dedup with expiryQueue := rest.1, seen := rest.2.1, evictions := rest.2.2 }

/-- Trimming makes room. -/
theorem Kept.trim {memory : ExpiryQueue κ ℚ} {emitted : TagReportDeduplicator ρ κ}
    {maxEntries : ℕ} (hmax : emitted.maxEntries = maxEntries)
    (hshows : Shows memory emitted.expiryQueue emitted.seen) (hmatched : memory.Matched) :
    Kept (shrink maxEntries memory) emitted.trimmed := by
  subst hmax
  have htrimmed := hshows.trim emitted.maxEntries emitted.evictions
  have hshrunk : (shrink emitted.maxEntries memory).Matched := hmatched.popWhile _
  refine ⟨htrimmed, hshrunk, ?_⟩
  apply htrimmed.length.trans_le
  rcases memory.popWhile_stops
    (fun current _ => emitted.maxEntries < current.entries.length) memory.queue with
    hqueue | ⟨_, hfits⟩
  · rw [hshrunk.current_of_queue_nil hqueue]
    exact Nat.zero_le _
  · exact Nat.le_of_not_lt (of_decide_eq_false hfits)

/-- What one call preserves. -/
theorem Kept.call {memory : ExpiryQueue κ ℚ} {dedup : TagReportDeduplicator ρ κ}
    (hkept : Kept memory dedup) (call : Call ρ) :
    Kept (dedup.follow memory call) (dedup.call call) ∧
      SameSettings dedup (dedup.call call) := by
  cases call with
  | reset => exact ⟨⟨⟨rfl, rfl⟩, hkept.matched.clear, Nat.zero_le _⟩, rfl, rfl, rfl⟩
  | filter now tags =>
    unfold TagReportDeduplicator.call follow filter
    dsimp only
    by_cases hzero : dedup.windowSeconds = 0
    · rw [if_pos hzero, if_pos hzero]
      exact ⟨hkept, rfl, rfl, rfl⟩
    · rw [if_neg hzero, if_neg hzero]
      have hwindow : 0 < dedup.windowSeconds :=
        lt_of_le_of_ne dedup.windowNonneg (Ne.symm hzero)
      have hpurged := hkept.shows.purgeExpired now
      let ready : TagReportDeduplicator ρ κ :=
        { dedup with
          expiryQueue := (purgeExpired now dedup.expiryQueue dedup.seen).1
          seen := (purgeExpired now dedup.expiryQueue dedup.seen).2 }
      obtain ⟨hemitted, hsame, hmax, hkey⟩ := @Shows.emit _ _ _ _ now tags ready hpurged
      have hmatched := matched_remember hwindow now (tags.map dedup.key)
        (hkept.matched.popWhile _ : (purge now memory).Matched)
      exact ⟨Kept.trim hmax hemitted hmatched, hsame, hmax, hkey⟩

/-! ## Runs -/

/-- Over a run, the numbered memory of the first deduplicator is that of the last. -/
theorem Kept.run {memory : ExpiryQueue κ ℚ} {dedup : TagReportDeduplicator ρ κ}
    (hkept : Kept memory dedup) (calls : List (Call ρ)) :
    Kept (Foundations.run dedup.follow memory calls)
        (Foundations.run TagReportDeduplicator.call dedup calls) ∧
      SameSettings dedup (Foundations.run TagReportDeduplicator.call dedup calls) := by
  induction calls generalizing memory dedup with
  | nil => exact ⟨hkept, rfl, rfl, rfl⟩
  | cons first calls ih =>
    obtain ⟨hnext, hwindow, hmax, hkey⟩ := hkept.call first
    have hfollow : (dedup.call first).follow = dedup.follow := by
      funext memory call
      cases call with
      | reset => rfl
      | filter now tags =>
        unfold follow
        rw [hwindow, hmax, hkey]
    obtain ⟨hrest, hsame⟩ := ih hnext
    rw [hfollow] at hrest
    rw [SameSettings, hwindow, hmax, hkey] at hsame
    exact ⟨hrest, hsame⟩

/-- An identity of the memory is forgotten by a purge at which its entry, and all that
is before it in the queue, has expired. -/
theorem Kept.purged {memory : ExpiryQueue κ ℚ} {dedup : TagReportDeduplicator ρ κ}
    (hkept : Kept memory dedup) {key : κ} {expiry : ℚ}
    (hget : dedup.seen.get? key = some expiry) {before after : List (ℚ × κ)}
    (hqueue : dedup.expiryQueue = before ++ (expiry, key) :: after) {now : ℚ}
    (hexpired : expiry ≤ now) (hbefore : ∀ entry ∈ before, entry.1 ≤ now) :
    (purgeExpired now dedup.expiryQueue dedup.seen).2.get? key = none := by
  rw [(hkept.shows.purgeExpired now).get? key, Option.map_eq_none_iff]
  rw [hkept.shows.get?] at hget
  obtain ⟨⟨_, setting⟩, hcurrent, rfl⟩ := Option.map_eq_some_iff.mp hget
  rw [hkept.shows.queue] at hqueue
  obtain ⟨early, late, hsplit, rfl, hlate⟩ := List.map_eq_append_iff.mp hqueue
  obtain ⟨⟨_, _, number⟩, later, rfl, hentry, -⟩ := List.map_eq_cons_iff.mp hlate
  obtain ⟨rfl, rfl⟩ := Prod.mk.inj hentry
  have hmatched := hkept.matched
  unfold purge
  rw [hsplit]
  apply ExpiryQueue.get?_popWhile_of_popped _ hcurrent
  · intro entry hmem
    exact decide_eq_true (hbefore _ (List.mem_map.mpr ⟨entry, hmem, rfl⟩))
  · exact decide_eq_true hexpired
  · rw [← hsplit]
    exact hmatched

/-- Whatever the clock reads: after every run of calls the identities are bounded, each
has one entry in the queue with its current expiry and goes when that entry and those
before it have expired, and every identity that went was removed by the entry of the
emission that it was remembered for. -/
theorem memory_of_any_clock {windowSeconds : ℚ} (hwindow : 0 ≤ windowSeconds) {maxEntries : ℕ}
    (hmax : 0 < maxEntries) (key : ρ → κ) (calls : List (Call ρ)) :
    let first := make windowSeconds maxEntries key hwindow hmax
    let dedup := run call first calls
    let memory := run first.follow .empty calls
    dedup.seen.entries.length ≤ maxEntries ∧
      (∀ identity expiry, dedup.seen.get? identity = some expiry →
        dedup.expiryQueue.count (expiry, identity) = 1 ∧
        ∀ before after, dedup.expiryQueue = before ++ (expiry, identity) :: after →
          ∀ now, expiry ≤ now → (∀ entry ∈ before, entry.1 ≤ now) →
            (purgeExpired now dedup.expiryQueue dedup.seen).2.get? identity = none) ∧
      Shows memory dedup.expiryQueue dedup.seen ∧
      ∀ forgotten ∈ memory.forgotten, forgotten.entry = forgotten.setting := by
  intro first dedup memory
  have hfirst : Kept (.empty : ExpiryQueue κ ℚ) first :=
    ⟨⟨rfl, rfl⟩, .empty, Nat.zero_le _⟩
  obtain ⟨hkept, -, hsame, -⟩ := hfirst.run calls
  refine ⟨hkept.bounded.trans_eq hsame, ?_, hkept.shows, hkept.matched.own⟩
  intro identity expiry hget
  constructor
  · have hcurrent := hget
    rw [hkept.shows.get?] at hcurrent
    obtain ⟨⟨_, setting⟩, hvalue, rfl⟩ := Option.map_eq_some_iff.mp hcurrent
    rw [hkept.shows.queue]
    exact hkept.matched.count_eq_one hvalue
  · intro before after hqueue now hexpired hbefore
    exact hkept.purged hget hqueue hexpired hbefore

/-- The clock goes back: the second tag waits behind a later expiry, is emitted again
when its own has passed, and leaves its old entry in the queue. -/
theorem memory_of_any_clock_backwards :
    let calls : List (Call ℕ) := [.filter 100 [7], .filter 10 [8], .filter 20 [8]]
    let dedup := run call (make 5 2 id (by decide) Nat.two_pos) calls
    dedup.expiryQueue = [(105, 7), (15, 8), (25, 8)] ∧
      dedup.seen.entries.length ≤ 2 ∧ dedup.expiryQueue.count (25, 8) = 1 := by
  have hmemory := @memory_of_any_clock ℕ ℕ _ 5 (by decide) 2 Nat.two_pos id
    [.filter 100 [7], .filter 10 [8], .filter 20 [8]]
  exact ⟨by decide +kernel, hmemory.1, (hmemory.2.1 8 25 (by decide +kernel)).1⟩

end TagReportDeduplicator

end Sllurp.Runtime
