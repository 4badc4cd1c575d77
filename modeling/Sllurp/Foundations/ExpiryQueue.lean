/-
# Expiry queues

A memory of keys that are to be forgotten at a time: a dictionary with the current
expiry of each key, and a queue of all expiries in the order in which they were set.
Entries leave the queue at its front only, and one that is no longer current does
nothing. Nothing is assumed of the order of the expiries. Every setting of an expiry
has a number, and a log says which entry forgot which setting.
-/

import Sllurp.Foundations.Dict
import Mathlib.Order.Defs.LinearOrder

namespace Sllurp.Foundations

/-- An entry of the queue, with the number of the setting it belongs to. -/
structure QueueEntry (κ τ : Type) where
  expiry : τ
  key : κ
  setting : ℕ

/-- A key that was forgotten: the number of the entry that did it, and that of the
setting of the key at the time. -/
structure Forgotten where
  entry : ℕ
  setting : ℕ
  deriving DecidableEq

/-- The current settings, the queue, the number of the next setting and the log. -/
structure ExpiryQueue (κ τ : Type) where
  current : Dict κ (τ × ℕ)
  queue : List (QueueEntry κ τ)
  next : ℕ
  forgotten : List Forgotten

namespace ExpiryQueue

variable {κ τ : Type}

def empty : ExpiryQueue κ τ := ⟨.empty, [], 0, []⟩

/-- Forget everything at once. -/
def clear (memory : ExpiryQueue κ τ) : ExpiryQueue κ τ :=
  { memory with current := .empty, queue := [] }

variable [DecidableEq κ]

/-- Set the expiry of a key. -/
def set (memory : ExpiryQueue κ τ) (key : κ) (expiry : τ) : ExpiryQueue κ τ :=
  { memory with
    current := memory.current.set key (expiry, memory.next)
    queue := memory.queue ++ [⟨expiry, key, memory.next⟩]
    next := memory.next + 1 }

/-! ## One current entry for each key -/

/-- The entry of the current setting of a key is in the queue. The entries of the key
before it expire earlier, and there are none behind it. Every key in the queue is
remembered, and entries forgot their own settings only. -/
structure Matched [LT τ] (memory : ExpiryQueue κ τ) : Prop where
  current : ∀ {key expiry setting}, memory.current.get? key = some (expiry, setting) →
    ∃ before after, memory.queue = before ++ ⟨expiry, key, setting⟩ :: after ∧
      (∀ entry ∈ before, entry.key = key → entry.expiry < expiry) ∧
      ∀ entry ∈ after, entry.key ≠ key
  remembered : ∀ entry ∈ memory.queue, ∃ value, memory.current.get? entry.key = some value
  own : ∀ forgotten ∈ memory.forgotten, forgotten.entry = forgotten.setting

variable {memory : ExpiryQueue κ τ}

namespace Matched

variable [Preorder τ]

theorem empty : Matched (empty : ExpiryQueue κ τ) where
  current hget := nomatch hget
  remembered _ hmem := nomatch hmem
  own _ hmem := nomatch hmem

theorem clear (hmatched : Matched memory) : Matched memory.clear where
  current hget := nomatch hget
  remembered _ hmem := nomatch hmem
  own := hmatched.own

/-- The first entry, if it is current, is of the current setting and the last of its
key. -/
theorem head {entry : QueueEntry κ τ} {queue : List (QueueEntry κ τ)}
    (hmatched : Matched { memory with queue := entry :: queue }) {setting : ℕ}
    (hget : memory.current.get? entry.key = some (entry.expiry, setting)) :
    entry.setting = setting ∧ ∀ other ∈ queue, other.key ≠ entry.key := by
  obtain ⟨before, after, hqueue, hbefore, hafter⟩ := hmatched.current hget
  cases before with
  | nil =>
    obtain ⟨hentry, rfl⟩ := List.cons.inj hqueue
    exact ⟨congrArg QueueEntry.setting hentry, hafter⟩
  | cons first before =>
    obtain ⟨rfl, -⟩ := List.cons.inj hqueue
    exact absurd (hbefore entry (List.mem_cons_self ..) rfl) (lt_irrefl _)

/-- A key may be set to expire later than it did. -/
theorem set (hmatched : Matched memory) {key : κ} {expiry : τ}
    (hlater : ∀ {earlier setting}, memory.current.get? key = some (earlier, setting) →
      earlier < expiry) : Matched (memory.set key expiry) where
  current {other time setting} hget := by
    change (memory.current.set _ _).get? _ = _ at hget
    rw [Dict.get?_set] at hget
    split at hget
    · rename_i hkey
      cases hget
      subst hkey
      refine ⟨memory.queue, [], rfl, fun entry hmem hkey => ?_, List.forall_mem_nil _⟩
      obtain ⟨⟨earlier, number⟩, hvalue⟩ := hmatched.remembered entry hmem
      rw [hkey] at hvalue
      obtain ⟨before, after, hqueue, hbefore, hafter⟩ := hmatched.current hvalue
      rw [hqueue] at hmem
      rcases List.mem_append.mp hmem with hearlier | hrest
      · exact lt_trans (hbefore entry hearlier hkey) (hlater hvalue)
      · rcases List.mem_cons.mp hrest with rfl | hlate
        · exact hlater hvalue
        · exact absurd hkey (hafter entry hlate)
    · rename_i hkey
      obtain ⟨before, after, hqueue, hbefore, hafter⟩ := hmatched.current hget
      refine ⟨before, after ++ [⟨expiry, key, memory.next⟩], ?_, hbefore, fun entry hmem => ?_⟩
      · change memory.queue ++ _ = _
        rw [hqueue, List.append_assoc]
        rfl
      · rcases List.mem_append.mp hmem with hlate | hnew
        · exact hafter entry hlate
        · rw [List.mem_singleton.mp hnew]
          exact Ne.symm hkey
  remembered entry hmem := by
    change ∃ value, (memory.current.set _ _).get? _ = _
    rw [Dict.get?_set]
    rcases List.mem_append.mp hmem with hold | hnew
    · split
      · exact ⟨_, rfl⟩
      · exact hmatched.remembered entry hold
    · rw [List.mem_singleton.mp hnew, if_pos rfl]
      exact ⟨_, rfl⟩
  own := hmatched.own

/-- With an empty queue, nothing is remembered. -/
theorem current_of_queue_nil (hmatched : Matched memory) (hqueue : memory.queue = []) :
    memory.current.entries = [] := by
  apply List.eq_nil_iff_forall_not_mem.mpr
  rintro ⟨key, expiry, setting⟩ hmem
  obtain ⟨before, after, hsplit, -, -⟩ :=
    hmatched.current ((Dict.get?_eq_some_iff ..).mpr hmem)
  rw [hqueue] at hsplit
  exact List.cons_ne_nil _ _ (List.append_eq_nil_iff.mp hsplit.symm).2

end Matched

/-! ## Entries that leave the queue -/

variable [DecidableEq τ]

/-- Forget the key of an entry that leaves the queue, if its expiry is the current one. -/
def forget (memory : ExpiryQueue κ τ) (entry : QueueEntry κ τ) : ExpiryQueue κ τ :=
  match memory.current.get? entry.key with
  | none => memory
  | some (expiry, setting) =>
    if expiry = entry.expiry then
      { memory with
        current := memory.current.erase entry.key
        forgotten := memory.forgotten ++ [⟨entry.setting, setting⟩] }
    else memory

/-- Take entries off the front of the queue while a condition on the current settings
and the first entry holds. -/
def popWhile (condition : Dict κ (τ × ℕ) → QueueEntry κ τ → Bool) :
    List (QueueEntry κ τ) → ExpiryQueue κ τ → ExpiryQueue κ τ
  | [], memory => { memory with queue := [] }
  | entry :: queue, memory =>
    if condition memory.current entry then popWhile condition queue (memory.forget entry)
    else { memory with queue := entry :: queue }

/-- An entry forgets its key or does nothing. -/
theorem forget_cases (memory : ExpiryQueue κ τ) (entry : QueueEntry κ τ) :
    (∃ setting, memory.current.get? entry.key = some (entry.expiry, setting) ∧
      memory.forget entry =
        { memory with
          current := memory.current.erase entry.key
          forgotten := memory.forgotten ++ [⟨entry.setting, setting⟩] }) ∨
    (∀ setting, memory.current.get? entry.key ≠ some (entry.expiry, setting)) ∧
      memory.forget entry = memory := by
  unfold forget
  cases hget : memory.current.get? entry.key with
  | none =>
    refine .inr ⟨fun setting hsome => ?_, rfl⟩
    cases hsome
  | some value =>
    obtain ⟨expiry, setting⟩ := value
    by_cases hexpiry : expiry = entry.expiry
    · subst hexpiry
      exact .inl ⟨setting, rfl, if_pos rfl⟩
    · refine .inr ⟨fun other hsome => ?_, if_neg hexpiry⟩
      cases hsome
      exact hexpiry rfl

namespace Matched

variable [Preorder τ]

/-- A remembered key has one entry with its current expiry. -/
theorem count_eq_one (hmatched : Matched memory) {key : κ} {expiry : τ} {setting : ℕ}
    (hget : memory.current.get? key = some (expiry, setting)) :
    (memory.queue.map fun entry => (entry.expiry, entry.key)).count (expiry, key) = 1 := by
  obtain ⟨before, after, hqueue, hbefore, hafter⟩ := hmatched.current hget
  have hearly : (expiry, key) ∉ before.map fun entry => (entry.expiry, entry.key) := by
    intro hmem
    obtain ⟨entry, hentry, hsame⟩ := List.mem_map.mp hmem
    obtain ⟨hexpiry, hkey⟩ := Prod.mk.inj hsame
    have hlt := hbefore entry hentry hkey
    rw [hexpiry] at hlt
    exact lt_irrefl _ hlt
  have hlate : (expiry, key) ∉ after.map fun entry => (entry.expiry, entry.key) := by
    intro hmem
    obtain ⟨entry, hentry, hsame⟩ := List.mem_map.mp hmem
    exact hafter entry hentry (Prod.mk.inj hsame).2
  rw [hqueue, List.map_append, List.map_cons, List.count_append, List.count_cons_self,
    List.count_eq_zero.mpr hearly, List.count_eq_zero.mpr hlate]

/-- The first entry may leave the queue. -/
theorem forget {entry : QueueEntry κ τ} {queue : List (QueueEntry κ τ)}
    (hmatched : Matched { memory with queue := entry :: queue }) :
    Matched { memory.forget entry with queue } := by
  have hrest : ∀ {key expiry setting}, memory.current.get? key = some (expiry, setting) →
      (entry.key = key → entry.expiry ≠ expiry) →
      ∃ before after, queue = before ++ ⟨expiry, key, setting⟩ :: after ∧
        (∀ other ∈ before, other.key = key → other.expiry < expiry) ∧
        ∀ other ∈ after, other.key ≠ key := by
    intro key expiry setting hget hother
    obtain ⟨before, after, hqueue, hbefore, hafter⟩ := hmatched.current hget
    cases before with
    | nil =>
      obtain ⟨rfl, -⟩ := List.cons.inj hqueue
      exact absurd rfl (hother rfl)
    | cons first before =>
      obtain ⟨-, rfl⟩ := List.cons.inj hqueue
      exact ⟨before, after, rfl, fun other hmem => hbefore other (List.mem_cons_of_mem _ hmem),
        hafter⟩
  rcases forget_cases memory entry with ⟨setting, hget, hforget⟩ | ⟨hstale, hforget⟩
  · obtain ⟨hsetting, hlast⟩ := hmatched.head hget
    rw [hforget]
    refine ⟨fun hcurrent => ?_, fun other hmem => ?_, fun forgotten hmem => ?_⟩
    · dsimp only at hcurrent
      rw [Dict.get?_erase] at hcurrent
      split at hcurrent
      · cases hcurrent
      · rename_i hkey
        exact hrest hcurrent fun hsame => absurd hsame.symm hkey
    · obtain ⟨value, hvalue⟩ := hmatched.remembered other (List.mem_cons_of_mem _ hmem)
      exact ⟨value, (Dict.get?_erase ..).trans ((if_neg (hlast other hmem)).trans hvalue)⟩
    · rcases List.mem_append.mp hmem with hold | hnew
      · exact hmatched.own forgotten hold
      · rw [List.mem_singleton.mp hnew]
        exact hsetting
  · rw [hforget]
    refine ⟨fun hcurrent => ?_, fun other hmem => ?_, hmatched.own⟩
    · apply hrest hcurrent
      rintro rfl rfl
      exact hstale _ hcurrent
    · exact hmatched.remembered other (List.mem_cons_of_mem _ hmem)

theorem popWhile (condition : Dict κ (τ × ℕ) → QueueEntry κ τ → Bool)
    {queue : List (QueueEntry κ τ)} (hmatched : Matched { memory with queue }) :
    Matched (popWhile condition queue memory) := by
  induction queue generalizing memory with
  | nil => exact hmatched
  | cons entry queue ih =>
    unfold ExpiryQueue.popWhile
    split
    · exact ih hmatched.forget
    · exact hmatched

end Matched

/-- The queue is empty or its first entry does not meet the condition. -/
theorem popWhile_stops (condition : Dict κ (τ × ℕ) → QueueEntry κ τ → Bool)
    (queue : List (QueueEntry κ τ)) (memory : ExpiryQueue κ τ) :
    (popWhile condition queue memory).queue = [] ∨
      ∃ entry, condition (popWhile condition queue memory).current entry = false := by
  induction queue generalizing memory with
  | nil => exact .inl rfl
  | cons entry queue ih =>
    unfold popWhile
    split
    · exact ih _
    · rename_i hcondition
      exact .inr ⟨entry, Bool.eq_false_iff.mpr hcondition⟩

/-- A key that is forgotten stays so. -/
theorem get?_popWhile_of_none (condition : Dict κ (τ × ℕ) → QueueEntry κ τ → Bool)
    {queue : List (QueueEntry κ τ)} {key : κ} (hgone : memory.current.get? key = none) :
    (popWhile condition queue memory).current.get? key = none := by
  induction queue generalizing memory with
  | nil => exact hgone
  | cons entry queue ih =>
    unfold popWhile
    split
    · apply ih
      rcases forget_cases memory entry with ⟨setting, -, hforget⟩ | ⟨-, hforget⟩
      · rw [hforget]
        change (memory.current.erase _).get? _ = _
        rw [Dict.get?_erase, hgone]
        exact ite_self _
      · rw [hforget]
        exact hgone
    · exact hgone

/-- A key is forgotten as soon as what is before its current entry, and that entry, are
to be popped. -/
theorem get?_popWhile_of_popped [Preorder τ] {condition : QueueEntry κ τ → Bool} {key : κ}
    {expiry : τ} {setting number : ℕ} {before after : List (QueueEntry κ τ)}
    (hmatched : Matched { memory with queue := before ++ ⟨expiry, key, number⟩ :: after })
    (hget : memory.current.get? key = some (expiry, setting))
    (hbefore : ∀ entry ∈ before, condition entry = true)
    (hentry : condition ⟨expiry, key, number⟩ = true) :
    (popWhile (fun _ => condition) (before ++ ⟨expiry, key, number⟩ :: after)
      memory).current.get? key = none := by
  induction before generalizing memory with
  | nil =>
    rw [List.nil_append, popWhile, if_pos hentry]
    apply get?_popWhile_of_none
    rcases forget_cases memory ⟨expiry, key, number⟩ with ⟨_, -, hforget⟩ | ⟨hstale, -⟩
    · rw [hforget]
      exact Dict.get?_erase_self _ _
    · exact absurd hget (hstale setting)
  | cons entry before ih =>
    rw [List.cons_append, popWhile, if_pos (hbefore entry (List.mem_cons_self ..))]
    apply ih hmatched.forget
    · rcases forget_cases memory entry with ⟨other, hcurrent, hforget⟩ | ⟨-, hforget⟩
      · have hlast := (hmatched.head hcurrent).2 ⟨expiry, key, number⟩
          (List.mem_append_right _ (List.mem_cons_self ..))
        rw [hforget]
        exact (Dict.get?_erase ..).trans ((if_neg hlast).trans hget)
      · rw [hforget]
        exact hget
    · exact fun other hmem => hbefore other (List.mem_cons_of_mem _ hmem)

end ExpiryQueue

end Sllurp.Foundations
