/-
# The pending-request registry

Requests wait under their exact response name and message ID. Keys that were
completed or expired are remembered in a bounded list, so that a late response
is recognized as such. The registry is generic in what it stores as the
completion callback, and in the names and the message IDs, which are those of
decoded messages unless said otherwise.
-/

import Sllurp.Foundations.Dict
import Sllurp.Protocol.Messages
import Mathlib.Data.Finset.Basic

namespace Sllurp.Runtime

open Sllurp.Foundations Sllurp.Protocol

/-- The identity of a pending request on the wire. -/
abbrev Key (ν : Type := MessageName) (ι : Type := ℕ) : Type := ν × ι

/-- A registered request awaiting one exact response key. The serial number
tells the registrations of one run apart, also where a key is used again. -/
structure PendingRequest (κ : Type) (ν : Type := MessageName) (ι : Type := ℕ) where
  responseName : ν
  messageId : ι
  callback : κ
  timer : Bool
  serial : ℕ

/-- The pending requests and the bounded memory of keys that are stale. -/
structure PendingRequestRegistry (κ : Type) (ν : Type := MessageName) (ι : Type := ℕ) where
  pending : Dict (Key ν ι) (PendingRequest κ ν ι)
  stale : List (Key ν ι)
  staleSet : Finset (Key ν ι)
  staleLimit : ℕ

namespace PendingRequestRegistry

variable {κ ν ι : Type}

/-- A registry without requests. At least one stale key can be remembered. -/
def make (staleLimit : ℕ) : PendingRequestRegistry κ ν ι where
  pending := .empty
  stale := []
  staleSet := ∅
  staleLimit := max 1 staleLimit

variable [DecidableEq ν] [DecidableEq ι]

/-- Remember a key as stale and drop the oldest keys over the limit. -/
def rememberStale (registry : PendingRequestRegistry κ ν ι) (key : Key ν ι) :
    PendingRequestRegistry κ ν ι :=
  if key ∈ registry.staleSet then registry
  else
    let stale := registry.stale ++ [key]
    let excess := stale.length - registry.staleLimit
    { registry with
      stale := stale.drop excess
      staleSet := insert key registry.staleSet \ (stale.take excess).toFinset }

/-- The same registry with a key no longer stale. -/
def forgetStale (registry : PendingRequestRegistry κ ν ι) (key : Key ν ι) :
    PendingRequestRegistry κ ν ι :=
  { registry with
    staleSet := registry.staleSet.erase key
    stale := registry.stale.erase key }

def contains (registry : PendingRequestRegistry κ ν ι) (name : ν) (id : ι) : Bool :=
  registry.pending.contains (name, id)

/-- Whether any request expects the name. -/
def hasResponseType (registry : PendingRequestRegistry κ ν ι) (name : ν) : Bool :=
  registry.pending.keys.any fun key => key.1 = name

def isStale (registry : PendingRequestRegistry κ ν ι) (name : ν) (id : ι) : Bool :=
  (name, id) ∈ registry.staleSet

/-- Add a request; its key stops being stale. -/
def register [ToString ν] [ToString ι] (registry : PendingRequestRegistry κ ν ι)
    (request : PendingRequest κ ν ι) : Except Exn (PendingRequestRegistry κ ν ι) :=
  let key := (request.responseName, request.messageId)
  if registry.pending.contains key then
    let name := toString request.responseName
    .error (.valueError s!"pending request already registered: ('{name}', {request.messageId})")
  else
    .ok { registry.forgetStale key with pending := registry.pending.set key request }

/-- Remove the request under a key and stop its timer. The key becomes stale if
the caller asks for it. -/
def cancel (registry : PendingRequestRegistry κ ν ι) (name : ν) (id : ι)
    (rememberStale : Bool) : Option (PendingRequest κ ν ι) × PendingRequestRegistry κ ν ι :=
  match registry.pending.get? (name, id) with
  | none => (none, registry)
  | some request =>
    let remaining := { registry with pending := registry.pending.erase (name, id) }
    (some { request with timer := false },
      if rememberStale then remaining.rememberStale (name, id) else remaining)

/-- Remove and return an exact match. -/
def pop (registry : PendingRequestRegistry κ ν ι) (name : ν) (id : ι) :
    Option (PendingRequest κ ν ι) × PendingRequestRegistry κ ν ι :=
  registry.cancel name id true

/-- Remove the sole request that expects a name, or leave the registry alone. -/
def popResponseType (registry : PendingRequestRegistry κ ν ι) (name : ν) :
    Option (PendingRequest κ ν ι) × PendingRequestRegistry κ ν ι :=
  match registry.pending.keys.filter fun key => key.1 = name with
  | [key] => registry.cancel key.1 key.2 true
  | _ => (none, registry)

/-- What the timer of a key does first: remove the request, if it is still
there, and remember the key as stale. -/
def expire (registry : PendingRequestRegistry κ ν ι) (key : Key ν ι) :
    Option (PendingRequest κ ν ι) × PendingRequestRegistry κ ν ι :=
  registry.cancel key.1 key.2 true

/-- Remove all requests. Unless the keys are to be remembered, the stale memory
is emptied too. -/
def cancelAll (registry : PendingRequestRegistry κ ν ι) (rememberStale : Bool) :
    PendingRequestRegistry κ ν ι :=
  let emptied := { registry with pending := .empty }
  if rememberStale then registry.pending.keys.foldl PendingRequestRegistry.rememberStale emptied
  else { emptied with stale := [], staleSet := ∅ }

/-! ## What each operation leaves pending -/

@[simp]
theorem pending_rememberStale (registry : PendingRequestRegistry κ ν ι) (key : Key ν ι) :
    (registry.rememberStale key).pending = registry.pending := by
  unfold rememberStale
  split <;> rfl

/-- Remembering a key makes no other key stale. -/
theorem staleSet_rememberStale_subset (registry : PendingRequestRegistry κ ν ι) (key : Key ν ι) :
    (registry.rememberStale key).staleSet ⊆ insert key registry.staleSet := by
  unfold rememberStale
  split
  · exact Finset.subset_insert _ _
  · exact Finset.sdiff_subset

theorem contains_iff (registry : PendingRequestRegistry κ ν ι) (name : ν) (id : ι) :
    registry.contains name id = true ↔
      ∃ request, registry.pending.get? (name, id) = some request := by
  rw [contains, Dict.contains, Option.isSome_iff_exists]

theorem register_of_pending [ToString ν] [ToString ι]
    {registry : PendingRequestRegistry κ ν ι} (request : PendingRequest κ ν ι)
    {pending : PendingRequest κ ν ι}
    (hget : registry.pending.get? (request.responseName, request.messageId) = some pending) :
    registry.register request =
      let name := toString request.responseName
      .error (.valueError
        s!"pending request already registered: ('{name}', {request.messageId})") := by
  unfold register
  exact if_pos (by rw [Dict.contains, hget]; rfl)

theorem register_of_free [ToString ν] [ToString ι]
    {registry : PendingRequestRegistry κ ν ι} (request : PendingRequest κ ν ι)
    (hget : registry.pending.get? (request.responseName, request.messageId) = none) :
    registry.register request =
      .ok
        { registry.forgetStale (request.responseName, request.messageId) with
          pending :=
            registry.pending.set (request.responseName, request.messageId) request } := by
  unfold register
  exact if_neg (by rw [Dict.contains, hget]; exact Bool.false_ne_true)

theorem hasResponseType_iff (registry : PendingRequestRegistry κ ν ι) (name : ν) :
    registry.hasResponseType name = true ↔
      ∃ id request, registry.pending.get? (name, id) = some request := by
  simp only [hasResponseType, List.any_eq_true, decide_eq_true_eq, Prod.exists,
    Dict.mem_keys_iff]
  constructor
  · rintro ⟨_, id, ⟨request, hrequest⟩, rfl⟩
    exact ⟨id, request, hrequest⟩
  · rintro ⟨id, request, hrequest⟩
    exact ⟨name, id, ⟨request, hrequest⟩, rfl⟩

/-- A registry with one more request has that response type, and those it had. -/
theorem hasResponseType_set {registry later : PendingRequestRegistry κ ν ι} {key : Key ν ι}
    {request : PendingRequest κ ν ι} (hpending : later.pending = registry.pending.set key request)
    (name : ν) :
    later.hasResponseType name = (decide (name = key.1) || registry.hasResponseType name) := by
  rw [Bool.eq_iff_iff, Bool.or_eq_true, decide_eq_true_eq]
  simp only [hasResponseType_iff, hpending, Dict.get?_set]
  constructor
  · rintro ⟨id, found, hget⟩
    split at hget
    · rename_i hkey
      exact Or.inl (congrArg Prod.fst hkey)
    · exact Or.inr ⟨id, found, hget⟩
  · rintro (rfl | ⟨id, found, hget⟩)
    · exact ⟨key.2, _, if_pos rfl⟩
    · by_cases hkey : (name, id) = key
      · exact ⟨id, _, if_pos hkey⟩
      · exact ⟨id, found, (if_neg hkey).trans hget⟩

/-- Forgetting a key changes nothing exactly when the key was not remembered. -/
theorem forgetStale_eq_iff {registry : PendingRequestRegistry κ ν ι} {key : Key ν ι} :
    registry.forgetStale key = registry ↔ key ∉ registry.stale ∧ key ∉ registry.staleSet := by
  constructor
  · intro hsame
    have hstale : registry.stale.erase key = registry.stale :=
      congrArg PendingRequestRegistry.stale hsame
    have hstaleSet : registry.staleSet.erase key = registry.staleSet :=
      congrArg PendingRequestRegistry.staleSet hsame
    exact ⟨List.erase_eq_self_iff.mp hstale, Finset.erase_eq_self.mp hstaleSet⟩
  · rintro ⟨hstale, hstaleSet⟩
    rw [forgetStale, List.erase_of_not_mem hstale, Finset.erase_eq_of_notMem hstaleSet]

/-- A cancelled key is not pending, and no other key changes. -/
theorem get?_cancel (registry : PendingRequestRegistry κ ν ι) (name : ν) (id : ι)
    (rememberStale : Bool) (key : Key ν ι) :
    (registry.cancel name id rememberStale).2.pending.get? key =
      if key = (name, id) then none else registry.pending.get? key := by
  unfold cancel
  cases hget : registry.pending.get? (name, id) with
  | none =>
    by_cases hkey : key = (name, id)
    · rw [if_pos hkey, hkey, hget]
    · rw [if_neg hkey]
  | some request =>
    cases rememberStale <;> simp [Dict.get?_erase]

theorem expire_of_free {registry : PendingRequestRegistry κ ν ι} {key : Key ν ι}
    (hget : registry.pending.get? key = none) : registry.expire key = (none, registry) := by
  unfold expire cancel
  rw [show registry.pending.get? (key.1, key.2) = none from hget]

theorem expire_of_pending {registry : PendingRequestRegistry κ ν ι} {key : Key ν ι}
    {request : PendingRequest κ ν ι} (hget : registry.pending.get? key = some request) :
    registry.expire key =
      (some { request with timer := false }, (registry.cancel key.1 key.2 true).2) := by
  unfold expire cancel
  rw [show registry.pending.get? (key.1, key.2) = some request from hget]

@[simp]
theorem pending_cancelAll (registry : PendingRequestRegistry κ ν ι) (rememberStale : Bool) :
    (registry.cancelAll rememberStale).pending = .empty := by
  unfold cancelAll
  split
  · generalize registry.pending.keys = keys
    have hfold : ∀ emptied : PendingRequestRegistry κ ν ι,
        (keys.foldl PendingRequestRegistry.rememberStale emptied).pending = emptied.pending := by
      induction keys with
      | nil => exact fun _ => rfl
      | cons key keys ih => exact fun emptied => (ih _).trans (pending_rememberStale emptied key)
    exact hfold _
  · rfl

/-- Popping an exact match erases its key. -/
theorem pending_pop {registry : PendingRequestRegistry κ ν ι} {name : ν} {id : ι}
    {request : PendingRequest κ ν ι} (hget : registry.pending.get? (name, id) = some request) :
    (registry.pop name id).2.pending = registry.pending.erase (name, id) := by
  unfold pop cancel
  rw [hget]
  exact pending_rememberStale _ _

/-- Popping makes at most the popped key stale. -/
theorem staleSet_pop_subset (registry : PendingRequestRegistry κ ν ι) (name : ν) (id : ι) :
    (registry.pop name id).2.staleSet ⊆ insert (name, id) registry.staleSet := by
  unfold pop cancel
  cases registry.pending.get? (name, id) with
  | none => exact Finset.subset_insert _ _
  | some request => exact staleSet_rememberStale_subset _ _

end PendingRequestRegistry

end Sllurp.Runtime
