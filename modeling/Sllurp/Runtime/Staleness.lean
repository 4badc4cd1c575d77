/-
# What the registry remembers as stale

An unbounded record of what was removed, in the order of removal, says what the
bounded memory of stale keys stands for. The memory is an end of the record. A
key leaves it for good as soon as the bound leaves no room: a registration that
takes another key out of the record makes room, but brings nothing back.
-/

import Sllurp.Foundations.Recency
import Sllurp.Foundations.Run
import Sllurp.Runtime.Registry

namespace Sllurp.Runtime

open Sllurp.Foundations Sllurp.Protocol

variable {κ ν ι : Type} [DecidableEq ν] [DecidableEq ι]

/-! ## Operations on the registry -/

/-- What can be asked of the registry, or of the timers of its requests. -/
inductive RegistryOperation (κ ν ι : Type)
  | register (request : PendingRequest κ ν ι)
  | pop (name : ν) (id : ι)
  | popResponseType (name : ν)
  | cancel (name : ν) (id : ι) (rememberStale : Bool)
  | cancelAll (rememberStale : Bool)
  | expire (key : Key ν ι)

/-- One operation; a registration that is refused changes nothing. -/
def PendingRequestRegistry.step [ToString ν] [ToString ι]
    (registry : PendingRequestRegistry κ ν ι) :
    RegistryOperation κ ν ι → PendingRequestRegistry κ ν ι
  | .register request =>
    match registry.register request with
    | .ok later => later
    | .error _ => registry
  | .pop name id => (registry.pop name id).2
  | .popResponseType name => (registry.popResponseType name).2
  | .cancel name id rememberStale => (registry.cancel name id rememberStale).2
  | .cancelAll rememberStale => registry.cancelAll rememberStale
  | .expire key => (registry.expire key).2

/-! ## The record of removals -/

/-- The keys that wait, and those that were removed to be remembered and have
neither been registered again nor cleared since, in the order of removal. -/
structure Removals (ν ι : Type) where
  pending : List (Key ν ι)
  removed : List (Key ν ι)

namespace Removals

def empty : Removals ν ι := ⟨[], []⟩

def register (removals : Removals ν ι) (key : Key ν ι) : Removals ν ι :=
  if key ∈ removals.pending then removals
  else ⟨removals.pending ++ [key], removals.removed.erase key⟩

def remove (removals : Removals ν ι) (key : Key ν ι) (remembered : Bool) : Removals ν ι :=
  if key ∈ removals.pending then
    ⟨removals.pending.erase key,
      if remembered then removals.removed ++ [key] else removals.removed⟩
  else removals

/-- Remove every key that waits. What is not to be remembered clears the record. -/
def removeAll (removals : Removals ν ι) (remembered : Bool) : Removals ν ι :=
  ⟨[], if remembered then removals.removed ++ removals.pending else []⟩

/-- What an operation on the registry means for the record. -/
def step (removals : Removals ν ι) : RegistryOperation κ ν ι → Removals ν ι
  | .register request => removals.register (request.responseName, request.messageId)
  | .pop name id => removals.remove (name, id) true
  | .popResponseType name =>
    match removals.pending.filter fun key => key.1 = name with
    | [key] => removals.remove key true
    | _ => removals
  | .cancel name id rememberStale => removals.remove (name, id) rememberStale
  | .cancelAll rememberStale => removals.removeAll rememberStale
  | .expire key => removals.remove key true

/-- A key has been one of the latest of the record, as many as told, ever since it
was removed. -/
def Lately (limit : ℕ) (operations : List (RegistryOperation κ ν ι)) (key : Key ν ι) : Prop :=
  key ∈ (run step empty operations).removed ∧
    ∀ early late, operations = early ++ late →
      (∀ since rest, late = since ++ rest → key ∈ (run step empty (early ++ since)).removed) →
      key ∈ (run step empty early).removed.rtake limit

end Removals

/-! ## Remembering keys -/

namespace PendingRequestRegistry

variable {registry : PendingRequestRegistry κ ν ι}

/-- Remembering a key that is not stale yet adds it at the end, and what there is no
room for goes. -/
theorem rememberStale_of_fresh {key : Key ν ι}
    (hset : registry.staleSet = registry.stale.toFinset)
    (hnodup : (registry.stale ++ [key]).Nodup) :
    registry.rememberStale key =
      { registry with
        stale := (registry.stale ++ [key]).rtake registry.staleLimit
        staleSet := ((registry.stale ++ [key]).rtake registry.staleLimit).toFinset } := by
  have hfresh : key ∉ registry.staleSet := by
    rw [hset, List.mem_toFinset]
    intro hmem
    exact (List.nodup_append.mp hnodup).2.2 key hmem key (List.mem_singleton_self _) rfl
  unfold rememberStale
  rw [if_neg hfresh]
  have hkept : ∀ excess : ℕ,
      insert key registry.staleSet \ ((registry.stale ++ [key]).take excess).toFinset =
        ((registry.stale ++ [key]).drop excess).toFinset := by
    intro excess
    have hdisjoint : ((registry.stale ++ [key]).take excess).Disjoint
        ((registry.stale ++ [key]).drop excess) :=
      List.disjoint_take_drop hnodup le_rfl
    ext other
    have hmem : other ∈ registry.stale ++ [key] ↔
        other ∈ (registry.stale ++ [key]).take excess ∨
          other ∈ (registry.stale ++ [key]).drop excess := by
      rw [← List.mem_append, List.take_append_drop]
    rw [Finset.mem_sdiff, Finset.mem_insert, hset, List.mem_toFinset, List.mem_toFinset,
      List.mem_toFinset]
    rw [List.mem_append, List.mem_singleton] at hmem
    constructor
    · rintro ⟨hold, hnot⟩
      exact (hmem.mp hold.symm).resolve_left hnot
    · intro hlate
      exact ⟨(hmem.mpr (.inr hlate)).symm, fun hearly => hdisjoint hearly hlate⟩
  simp only [hkept]
  rfl

/-- Remembering several keys, one after the other. -/
theorem rememberStale_all {keys : List (Key ν ι)}
    (hset : registry.staleSet = registry.stale.toFinset)
    (hnodup : (registry.stale ++ keys).Nodup)
    (hbounded : registry.stale.length ≤ registry.staleLimit) :
    keys.foldl rememberStale registry =
      { registry with
        stale := (registry.stale ++ keys).rtake registry.staleLimit
        staleSet := ((registry.stale ++ keys).rtake registry.staleLimit).toFinset } := by
  induction keys generalizing registry with
  | nil =>
    rw [List.append_nil, rtake_of_length_le hbounded, ← hset]
    rfl
  | cons key keys ih =>
    rw [List.append_cons] at hnodup
    have hfirst : (registry.stale ++ [key]).Nodup := (List.nodup_append.mp hnodup).1
    rw [List.foldl_cons, rememberStale_of_fresh hset hfirst, ih]
    · simp only [rtake_append_rtake, ← List.append_cons]
    · rfl
    · exact hnodup.sublist ((rtake_suffix _ _).sublist.append_right keys)
    · exact length_rtake_le _ _

end PendingRequestRegistry

/-! ## The registry follows the record -/

/-- The registry has the keys that wait, and the stale keys are an end of the record. -/
structure Follows (registry : PendingRequestRegistry κ ν ι) (removals : Removals ν ι) :
    Prop where
  pending : registry.pending.keys = removals.pending
  staleSet : registry.staleSet = registry.stale.toFinset
  stale : registry.stale <:+ removals.removed
  nodup : removals.removed.Nodup
  disjoint : ∀ key ∈ removals.pending, key ∉ removals.removed
  bounded : registry.stale.length ≤ registry.staleLimit

/-- What an operation leaves follows the record. A key is stale afterwards if the
bound has room for it and it was stale before, or was not in the record. -/
structure Continues (registry : PendingRequestRegistry κ ν ι) (removals : Removals ν ι)
    (later : PendingRequestRegistry κ ν ι) (record : Removals ν ι) : Prop where
  follows : Follows later record
  staleLimit : later.staleLimit = registry.staleLimit
  mem : ∀ key, key ∈ later.stale ↔ key ∈ record.removed.rtake registry.staleLimit ∧
    (key ∈ registry.stale ∨ key ∉ removals.removed)

namespace Follows

variable {registry : PendingRequestRegistry κ ν ι} {removals : Removals ν ι}

theorem make (staleLimit : ℕ) :
    Follows (.make staleLimit : PendingRequestRegistry κ ν ι) Removals.empty where
  pending := rfl
  staleSet := rfl
  stale := List.suffix_rfl
  nodup := List.nodup_nil
  disjoint _ hmem := nomatch hmem
  bounded := Nat.zero_le _

/-- A stale key is in the record, and among its latest. -/
theorem mem_rtake (hfollows : Follows registry removals) {key : Key ν ι}
    (hstale : key ∈ registry.stale) : key ∈ removals.removed.rtake registry.staleLimit := by
  rw [eq_rtake_of_suffix hfollows.stale] at hstale
  exact rtake_subset_of_le hfollows.bounded _ hstale

/-- An operation that finds nothing to do. -/
theorem unchanged (hfollows : Follows registry removals) :
    Continues registry removals registry removals where
  follows := hfollows
  staleLimit := rfl
  mem key := by
    constructor
    · intro hstale
      exact ⟨hfollows.mem_rtake hstale, .inl hstale⟩
    · rintro ⟨hmem, hstale | hnew⟩
      · exact hstale
      · exact absurd ((rtake_suffix _ _).subset hmem) hnew

theorem contains_iff (hfollows : Follows registry removals) (key : Key ν ι) :
    registry.pending.contains key = true ↔ key ∈ removals.pending := by
  rw [← hfollows.pending]
  exact Dict.get?_isSome _ _

theorem register [ToString ν] [ToString ι] (hfollows : Follows registry removals)
    (request : PendingRequest κ ν ι) :
    Continues registry removals (registry.step (.register request))
      (removals.register (request.responseName, request.messageId)) := by
  have hcontains := hfollows.contains_iff (request.responseName, request.messageId)
  unfold Removals.register
  by_cases hpending : (request.responseName, request.messageId) ∈ removals.pending
  · obtain ⟨pending, hget⟩ := Option.isSome_iff_exists.mp (hcontains.mpr hpending)
    rw [if_pos hpending, PendingRequestRegistry.step,
      PendingRequestRegistry.register_of_pending _ hget]
    exact hfollows.unchanged
  · have hget : registry.pending.get? (request.responseName, request.messageId) = none := by
      rw [← Option.not_isSome_iff_eq_none]
      exact fun hsome => hpending (hcontains.mp hsome)
    rw [if_neg hpending, PendingRequestRegistry.step,
      PendingRequestRegistry.register_of_free _ hget]
    have hnodup : registry.stale.Nodup := hfollows.nodup.sublist hfollows.stale.sublist
    have hsuffix := erase_suffix hfollows.nodup hfollows.stale
      (request.responseName, request.messageId)
    have hkey : (request.responseName, request.messageId) ∉ registry.pending.keys := by
      rw [hfollows.pending]
      exact hpending
    have hbounded : (registry.stale.erase (request.responseName, request.messageId)).length ≤
        registry.staleLimit :=
      List.length_erase_le.trans hfollows.bounded
    change Continues _ _ { registry.forgetStale _ with pending := _ } _
    refine ⟨⟨?_, ?_, hsuffix, hfollows.nodup.erase _, ?_, hbounded⟩, rfl, ?_⟩
    · change (registry.pending.set _ _).keys = _
      rw [Dict.keys_set_of_not_mem hkey, hfollows.pending]
    · change registry.staleSet.erase _ = (registry.stale.erase _).toFinset
      ext key
      rw [Finset.mem_erase, hfollows.staleSet, List.mem_toFinset, List.mem_toFinset,
        hnodup.mem_erase_iff]
    · intro key hmem hremoved
      rcases List.mem_append.mp hmem with hold | hnew
      · exact hfollows.disjoint key hold (List.mem_of_mem_erase hremoved)
      · rw [List.mem_singleton.mp hnew, hfollows.nodup.mem_erase_iff] at hremoved
        exact hremoved.1 rfl
    · intro key
      constructor
      · intro hstale
        refine ⟨?_, .inl (List.mem_of_mem_erase hstale)⟩
        apply rtake_subset_of_le hbounded
        rw [← eq_rtake_of_suffix hsuffix]
        exact hstale
      · rintro ⟨hmem, hstale⟩
        have hremoved := (rtake_suffix _ _).subset hmem
        rw [hfollows.nodup.mem_erase_iff] at hremoved
        apply hnodup.mem_erase_iff.mpr
        exact ⟨hremoved.1, hstale.resolve_right (not_not_intro hremoved.2)⟩

/-- Keys that were waiting, and are remembered. -/
theorem remember (hfollows : Follows registry removals) {keys : List (Key ν ι)}
    (hkeys : keys.Nodup) (hwaiting : keys ⊆ removals.pending)
    {pending : Dict (Key ν ι) (PendingRequest κ ν ι)} {rest : List (Key ν ι)}
    (hpending : pending.keys = rest) (hrest : rest ⊆ removals.pending)
    (hgone : keys.Disjoint rest) :
    Continues registry removals
      (keys.foldl PendingRequestRegistry.rememberStale { registry with pending })
      ⟨rest, removals.removed ++ keys⟩ := by
  have hfresh : ∀ key ∈ keys, key ∉ removals.removed := fun key hmem =>
    hfollows.disjoint key (hwaiting hmem)
  have hnodup : (removals.removed ++ keys).Nodup := by
    rw [List.nodup_append]
    refine ⟨hfollows.nodup, hkeys, ?_⟩
    rintro old hold new hnew rfl
    exact hfresh old hnew hold
  have hsuffix : registry.stale ++ keys <:+ removals.removed ++ keys := by
    obtain ⟨older, hsplit⟩ := hfollows.stale
    exact ⟨older, by rw [← List.append_assoc, hsplit]⟩
  have hall := @PendingRequestRegistry.rememberStale_all _ _ _ _ _
    { registry with pending } keys hfollows.staleSet (hnodup.sublist hsuffix.sublist)
    hfollows.bounded
  rw [hall]
  refine ⟨⟨hpending, rfl, ?_, hnodup, ?_, length_rtake_le _ _⟩, rfl, ?_⟩
  · exact (rtake_suffix _ _).trans hsuffix
  · intro key hmem hremoved
    rcases List.mem_append.mp hremoved with hold | hnew
    · exact hfollows.disjoint key (hrest hmem) hold
    · exact hgone hnew hmem
  · intro key
    apply (mem_rtake_of_suffix hsuffix _ key).trans
    rw [and_comm]
    apply and_congr_right
    intro hmem
    have hrecord := List.mem_append.mp ((rtake_suffix _ _).subset hmem)
    rw [List.mem_append]
    constructor
    · exact Or.imp_right (hfresh key)
    · exact Or.imp_right fun hnew => hrecord.resolve_left hnew

/-- Forgetting what was remembered, and what waits. -/
theorem clear (registry : PendingRequestRegistry κ ν ι) (removals : Removals ν ι) :
    Continues registry removals (registry.cancelAll false) (removals.removeAll false) where
  follows := ⟨rfl, rfl, List.suffix_rfl, List.nodup_nil, (fun _ hmem => nomatch hmem),
    Nat.zero_le _⟩
  staleLimit := rfl
  mem key := by
    constructor
    · intro hmem
      cases hmem
    · rintro ⟨hmem, -⟩
      cases (rtake_suffix _ _).subset hmem

theorem cancelAll (hfollows : Follows registry removals) (rememberStale : Bool) :
    Continues registry removals (registry.cancelAll rememberStale)
      (removals.removeAll rememberStale) := by
  cases rememberStale with
  | false => exact clear registry removals
  | true =>
    have hkeys := hfollows.pending
    have hnodup : removals.pending.Nodup := hkeys ▸ registry.pending.nodup
    unfold PendingRequestRegistry.cancelAll
    rw [if_pos rfl, hkeys]
    exact hfollows.remember hnodup (List.Subset.refl _) rfl (List.nil_subset _)
      (List.disjoint_nil_right _)

theorem cancel (hfollows : Follows registry removals) (key : Key ν ι) (rememberStale : Bool) :
    Continues registry removals (registry.cancel key.1 key.2 rememberStale).2
      (removals.remove key rememberStale) := by
  have hcontains := hfollows.contains_iff key
  unfold PendingRequestRegistry.cancel Removals.remove
  cases hget : registry.pending.get? (key.1, key.2) with
  | none =>
    have hfree : key ∉ removals.pending := by
      rw [← hcontains, Dict.contains, show registry.pending.get? key = none from hget]
      exact Bool.false_ne_true
    rw [if_neg hfree]
    exact hfollows.unchanged
  | some request =>
    have hwaits : key ∈ removals.pending := by
      rw [← hcontains, Dict.contains, show registry.pending.get? key = some request from hget]
      rfl
    have hnodup : removals.pending.Nodup := hfollows.pending ▸ registry.pending.nodup
    have herase : (registry.pending.erase key).keys = removals.pending.erase key := by
      rw [Dict.keys_erase, hfollows.pending]
    rw [if_pos hwaits]
    cases rememberStale with
    | true =>
      refine hfollows.remember (List.nodup_singleton key) ?_ herase (List.erase_subset) ?_
      · exact List.cons_subset.mpr ⟨hwaits, List.nil_subset _⟩
      · rw [List.singleton_disjoint, hnodup.mem_erase_iff]
        exact fun hmem => hmem.1 rfl
    | false =>
      have hsame := hfollows.unchanged
      refine ⟨⟨herase, hfollows.staleSet, hfollows.stale, hfollows.nodup, ?_,
        hfollows.bounded⟩, rfl, hsame.mem⟩
      exact fun other hmem => hfollows.disjoint other (List.mem_of_mem_erase hmem)

/-- What one operation preserves. -/
theorem step [ToString ν] [ToString ι] (hfollows : Follows registry removals)
    (operation : RegistryOperation κ ν ι) :
    Continues registry removals (registry.step operation) (removals.step operation) := by
  cases operation with
  | register request => exact hfollows.register request
  | pop name id => exact hfollows.cancel (name, id) true
  | cancel name id rememberStale => exact hfollows.cancel (name, id) rememberStale
  | cancelAll rememberStale => exact hfollows.cancelAll rememberStale
  | expire key => exact hfollows.cancel key true
  | popResponseType name =>
    simp only [PendingRequestRegistry.step, Removals.step,
      PendingRequestRegistry.popResponseType, hfollows.pending]
    generalize removals.pending.filter (fun key => key.1 = name) = sole
    cases sole with
    | nil => exact hfollows.unchanged
    | cons key others =>
      cases others with
      | nil => exact hfollows.cancel key true
      | cons second others => exact hfollows.unchanged

end Follows

/-! ## Runs -/

namespace Removals

/-- After one more operation, a key has been one of the latest ever since its removal
if it is one of them now, and was one before unless it was removed just now. -/
theorem lately_append_singleton {limit : ℕ} {operations : List (RegistryOperation κ ν ι)}
    {operation : RegistryOperation κ ν ι} {key : Key ν ι} :
    Lately limit (operations ++ [operation]) key ↔
      key ∈ (run step empty (operations ++ [operation])).removed.rtake limit ∧
        (Lately limit operations key ∨ key ∉ (run step empty operations).removed) := by
  constructor
  · rintro ⟨hmem, hsince⟩
    constructor
    · apply hsince _ [] (List.append_nil _).symm
      intro since rest hsplit
      obtain ⟨rfl, -⟩ := List.append_eq_nil_iff.mp hsplit.symm
      rw [List.append_nil]
      exact hmem
    · by_cases hearlier : key ∈ (run step empty operations).removed
      · refine .inl ⟨hearlier, ?_⟩
        intro early late hsplit hkept
        apply hsince early (late ++ [operation]) (by rw [hsplit, List.append_assoc])
        intro since rest hlater
        rcases List.eq_nil_or_concat rest with rfl | ⟨rest, last, rfl⟩
        · rw [List.append_nil] at hlater
          rw [← hlater, ← List.append_assoc, ← hsplit]
          exact hmem
        · rw [List.concat_eq_append, ← List.append_assoc] at hlater
          exact hkept since rest (List.append_inj_left' hlater rfl)
      · exact .inr hearlier
  · rintro ⟨hmem, hearlier⟩
    refine ⟨(rtake_suffix _ _).subset hmem, ?_⟩
    intro early late hsplit hkept
    rcases List.eq_nil_or_concat late with rfl | ⟨late, last, rfl⟩
    · rw [List.append_nil] at hsplit
      rw [← hsplit]
      exact hmem
    · rw [List.concat_eq_append, ← List.append_assoc] at hsplit
      obtain ⟨rfl, hlast⟩ := List.append_inj' hsplit rfl
      have hbefore : key ∈ (run step empty (early ++ late)).removed :=
        hkept late [last] (List.concat_eq_append ..)
      have hlately := hearlier.resolve_right (not_not_intro hbefore)
      apply hlately.2 early late rfl
      intro since rest hlate
      exact hkept since (rest ++ [last])
        (by rw [List.concat_eq_append, hlate, List.append_assoc])

end Removals

namespace PendingRequestRegistry

/-- The registry follows the record over a whole run, and its stale keys are those that
have been among the latest ever since their removal. -/
theorem run_follows [ToString ν] [ToString ι] (staleLimit : ℕ)
    (operations : List (RegistryOperation κ ν ι)) :
    Follows (run step (make staleLimit) operations)
        (run Removals.step Removals.empty operations) ∧
      (run step (make staleLimit) operations).staleLimit = max 1 staleLimit ∧
      ∀ key, key ∈ (run step (make staleLimit) operations).stale ↔
        Removals.Lately (max 1 staleLimit) operations key := by
  induction operations using List.reverseRecOn with
  | nil =>
    refine ⟨.make staleLimit, rfl, fun key => ?_⟩
    constructor
    · intro hmem
      cases hmem
    · rintro ⟨hmem, -⟩
      cases hmem
  | append_singleton operations operation ih =>
    obtain ⟨hfollows, hlimit, hstale⟩ := ih
    have hnext := hfollows.step operation
    have hrecord : run Removals.step Removals.empty (operations ++ [operation]) =
        (run Removals.step Removals.empty operations).step operation :=
      run_append _ _ _
    have hregistry : run step (make staleLimit) (operations ++ [operation]) =
        (run step (make staleLimit) operations).step operation :=
      run_append _ _ _
    rw [hregistry, hrecord]
    refine ⟨hnext.follows, hnext.staleLimit.trans hlimit, fun key => ?_⟩
    rw [Removals.lately_append_singleton, hnext.mem key, hlimit, hstale key, hrecord]

/-- The stale keys are bounded, without repetition and not pending, in the order of
removal. A key is stale exactly as long as it has been, ever since it was removed, one of
the latest keys of the record that the limit admits. -/
theorem stale_refines_removals [ToString ν] [ToString ι] (staleLimit : ℤ)
    (operations : List (RegistryOperation κ ν ι)) :
    let registry : PendingRequestRegistry κ ν ι := run step (make staleLimit.toNat) operations
    (∀ key ∈ registry.pending.keys, key ∉ registry.stale) ∧
      registry.stale.Nodup ∧
      registry.staleSet = registry.stale.toFinset ∧
      (registry.stale.length : ℤ) ≤ max 1 staleLimit ∧
      registry.stale <:+ (run Removals.step Removals.empty operations).removed ∧
      ∀ name id, registry.isStale name id = true ↔
        Removals.Lately (max 1 staleLimit).toNat operations (name, id) := by
  obtain ⟨hfollows, hlimit, hstale⟩ := run_follows staleLimit.toNat operations
  have hmax : (max 1 staleLimit).toNat = max 1 staleLimit.toNat := by omega
  refine ⟨?_, ?_, hfollows.staleSet, ?_, hfollows.stale, fun name id => ?_⟩
  · intro key hpending hmem
    rw [hfollows.pending] at hpending
    exact hfollows.disjoint key hpending (hfollows.stale.subset hmem)
  · exact hfollows.nodup.sublist hfollows.stale.sublist
  · have hbounded := hfollows.bounded
    omega
  · rw [isStale, decide_eq_true_iff, hfollows.staleSet, List.mem_toFinset, hmax]
    exact hstale (name, id)

/-- With room for one key, the second removal evicts the first key. Registering the
second one again leaves the first as the latest key of the record, and not stale. -/
theorem stale_evicted :
    let operations : List (RegistryOperation Unit String ℤ) :=
      [.register ⟨"GET_READER_CONFIG_RESPONSE", 1, (), false, 0⟩,
        .register ⟨"GET_READER_CONFIG_RESPONSE", 2, (), false, 1⟩,
        .pop "GET_READER_CONFIG_RESPONSE" 1, .pop "GET_READER_CONFIG_RESPONSE" 2,
        .register ⟨"GET_READER_CONFIG_RESPONSE", 2, (), false, 2⟩]
    ¬ ∀ name id, (run step (make 1) operations).isStale name id = true ↔
      (name, id) ∈ (run Removals.step Removals.empty operations).removed.rtake (max 1 1) := by
  intro operations hstale
  have hevicted := hstale "GET_READER_CONFIG_RESPONSE" 1
  revert hevicted
  decide

end PendingRequestRegistry

end Sllurp.Runtime
