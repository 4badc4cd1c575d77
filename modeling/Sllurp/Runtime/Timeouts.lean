/-
# Timeouts of pending requests

The registry arms a timer for a request and cancels it when the request is
removed. The timer finds its request again by the key alone, so a timer that
fired before it was cancelled can meet a later registration of the same key.
-/

import Sllurp.Foundations.Run
import Sllurp.Foundations.Timers
import Sllurp.Runtime.Registry

namespace Sllurp.Runtime

open Sllurp.Foundations Sllurp.Protocol

/-! ## The registry and its timers -/

/-- A timer that removed a request: the serial numbers of the registration that
armed it and of the one that it removed and told. -/
structure Expiration where
  armedBy : ℕ
  removed : ℕ
  deriving DecidableEq

/-- The registry with the timers it armed. A registration and its timer have the
same number. -/
structure Timeouts (κ : Type) where
  registry : PendingRequestRegistry κ
  timers : Timers Key
  expirations : List Expiration

/-- What can happen to the registry and its timers. -/
inductive Operation (κ : Type)
  | register (name : MessageName) (id : ℕ) (callback : κ) (timeout : Bool)
  | pop (name : MessageName) (id : ℕ)
  | cancel (name : MessageName) (id : ℕ) (rememberStale : Bool)
  | cancelAll (rememberStale : Bool)
  | fire (timer : ℕ)
  | expire (timer : ℕ)

namespace Timeouts

variable {κ : Type}

/-- An empty registry. -/
def make (staleLimit : ℕ) : Timeouts κ := ⟨.make staleLimit, .empty, []⟩

/-- Cancel the timer of a request that was removed. -/
def disarm (timers : Timers Key) (request : PendingRequest κ) : Timers Key :=
  if request.timer then timers.cancel request.serial else timers

/-- Add a request, and arm its timer if it has a timeout. -/
def register (timeouts : Timeouts κ) (name : MessageName) (id : ℕ) (callback : κ)
    (timeout : Bool) : Timeouts κ :=
  match timeouts.registry.register ⟨name, id, callback, timeout, timeouts.timers.next⟩ with
  | .error _ => timeouts
  | .ok registry =>
    { timeouts with
      registry
      timers := if timeout then timeouts.timers.arm (name, id) else timeouts.timers.skip }

/-- Remove the request under a key and cancel its timer. -/
def cancel (timeouts : Timeouts κ) (name : MessageName) (id : ℕ) (rememberStale : Bool) :
    Timeouts κ :=
  match timeouts.registry.pending.get? (name, id) with
  | none => timeouts
  | some pending =>
    { timeouts with
      registry := (timeouts.registry.cancel name id rememberStale).2
      timers := disarm timeouts.timers pending }

/-- Remove all requests and cancel their timers. -/
def cancelAll (timeouts : Timeouts κ) (rememberStale : Bool) : Timeouts κ :=
  { timeouts with
    registry := timeouts.registry.cancelAll rememberStale
    timers := (timeouts.registry.pending.entries.map Prod.snd).foldl disarm timeouts.timers }

/-- A timer that has fired removes the request under its key, if there is one,
and tells it. -/
def expire (timeouts : Timeouts κ) (timer : ℕ) : Timeouts κ :=
  match timeouts.timers.fired? timer with
  | none => timeouts
  | some fired =>
    match timeouts.registry.expire fired.task with
    | (none, _) => { timeouts with timers := timeouts.timers.finish timer }
    | (some pending, registry) =>
      { registry
        timers := timeouts.timers.finish timer
        expirations := timeouts.expirations ++ [⟨timer, pending.serial⟩] }

/-- One operation. -/
def step (timeouts : Timeouts κ) : Operation κ → Timeouts κ
  | .register name id callback timeout => timeouts.register name id callback timeout
  | .pop name id => timeouts.cancel name id true
  | .cancel name id rememberStale => timeouts.cancel name id rememberStale
  | .cancelAll rememberStale => timeouts.cancelAll rememberStale
  | .fire timer => { timeouts with timers := timeouts.timers.fire timer }
  | .expire timer => timeouts.expire timer

/-! ## Timers belong to their registrations -/

/-- The pending request under a timer's key is the one that armed it. A timer
that has not fired has its request pending. -/
structure Sound (timeouts : Timeouts κ) : Prop where
  serial_lt : ∀ {key pending}, timeouts.registry.pending.get? key = some pending →
    pending.serial < timeouts.timers.next
  own : ∀ {timer pending}, timer ∈ timeouts.timers.waiting →
    timeouts.registry.pending.get? timer.task = some pending → pending.serial = timer.id
  pending : ∀ {timer}, timer ∈ timeouts.timers.waiting → timer.fired = false →
    ∃ pending, timeouts.registry.pending.get? timer.task = some pending ∧
      pending.timer = true
  matched : ∀ expiration ∈ timeouts.expirations, expiration.armedBy = expiration.removed

namespace Sound

variable {timeouts : Timeouts κ}

theorem make (staleLimit : ℕ) : Sound (Timeouts.make staleLimit : Timeouts κ) where
  serial_lt hpending := nomatch hpending
  own hmem := nomatch hmem
  pending hmem := nomatch hmem
  matched _ hmem := nomatch hmem

/-- Requests may go as long as the timers of those that go do not wait unfired. -/
theorem of_removed {later : Timeouts κ} (hsound : Sound timeouts)
    (hnext : later.timers.next = timeouts.timers.next)
    (hpending : ∀ {key pending}, later.registry.pending.get? key = some pending →
      timeouts.registry.pending.get? key = some pending)
    (htimers : ∀ {timer}, timer ∈ later.timers.waiting → timer ∈ timeouts.timers.waiting)
    (hkept : ∀ {timer pending}, timer ∈ later.timers.waiting → timer.fired = false →
      timeouts.registry.pending.get? timer.task = some pending → pending.timer = true →
      later.registry.pending.get? timer.task = some pending)
    (hmatched : ∀ expiration ∈ later.expirations, expiration.armedBy = expiration.removed) :
    Sound later where
  serial_lt hget := hnext ▸ hsound.serial_lt (hpending hget)
  own hmem hget := hsound.own (htimers hmem) (hpending hget)
  pending hmem hfired := by
    obtain ⟨pending, hget, htimer⟩ := hsound.pending (htimers hmem) hfired
    exact ⟨pending, hkept hmem hfired hget htimer, htimer⟩
  matched := hmatched

theorem register (hsound : Sound timeouts) {name : MessageName} {id : ℕ}
    (hquiet : timeouts.registry.pending.get? (name, id) = none →
      ∀ timer ∈ timeouts.timers.waiting, timer.fired = true → timer.task ≠ (name, id))
    (callback : κ) (timeout : Bool) : Sound (timeouts.register name id callback timeout) := by
  unfold Timeouts.register
  cases hget : timeouts.registry.pending.get? (name, id) with
  | some pending =>
    rw [PendingRequestRegistry.register_of_pending _ hget]
    exact hsound
  | none =>
    rw [PendingRequestRegistry.register_of_free _ hget]
    let request : PendingRequest κ := ⟨name, id, callback, timeout, timeouts.timers.next⟩
    have hold : ∀ {key : Key} {pending : PendingRequest κ},
        (timeouts.registry.pending.set (name, id) request).get? key = some pending →
        key = (name, id) ∧ pending = request ∨
          timeouts.registry.pending.get? key = some pending := by
      intro key pending hpending
      rw [Dict.get?_set] at hpending
      split at hpending
      · rename_i hkey
        exact .inl ⟨hkey, (Option.some.inj hpending).symm⟩
      · exact .inr hpending
    -- No timer of an earlier registration of the key waits.
    have hnone : ∀ timer ∈ timeouts.timers.waiting, timer.task ≠ (name, id) := by
      intro timer hmem htask
      cases hfired : timer.fired with
      | true => exact hquiet hget timer hmem hfired htask
      | false =>
        obtain ⟨pending, hpending, -⟩ := hsound.pending hmem hfired
        rw [htask, hget] at hpending
        cases hpending
    have htimers : ∀ timer ∈ (if timeout then timeouts.timers.arm (name, id)
          else timeouts.timers.skip).waiting,
        timer ∈ timeouts.timers.waiting ∨
          timeout = true ∧ timer = ⟨timeouts.timers.next, (name, id), false⟩ := by
      intro timer hmem
      cases timeout with
      | false => exact .inl hmem
      | true => exact ((Timers.mem_arm _ _ _).mp hmem).imp_right fun hnew => ⟨rfl, hnew⟩
    have hnext : (if timeout then timeouts.timers.arm (name, id)
        else timeouts.timers.skip).next = timeouts.timers.next + 1 := by
      cases timeout <;> rfl
    refine ⟨?_, ?_, ?_, hsound.matched⟩
    · intro key pending hpending
      change _ < (if timeout then _ else _ : Timers Key).next
      rw [hnext]
      rcases hold hpending with ⟨-, rfl⟩ | hearlier
      · exact Nat.lt_succ_self _
      · exact Nat.lt_succ_of_lt (hsound.serial_lt hearlier)
    · intro timer pending hmem hpending
      rcases htimers timer hmem with hwaiting | ⟨-, rfl⟩
      · rcases hold hpending with ⟨htask, -⟩ | hearlier
        · exact absurd htask (hnone timer hwaiting)
        · exact hsound.own hwaiting hearlier
      · rcases hold hpending with ⟨-, rfl⟩ | hearlier
        · rfl
        · rw [hget] at hearlier
          cases hearlier
    · intro timer hmem hfired
      rcases htimers timer hmem with hwaiting | ⟨htimeout, rfl⟩
      · obtain ⟨pending, hpending, htimer⟩ := hsound.pending hwaiting hfired
        exact ⟨pending, (Dict.get?_set ..).trans ((if_neg (hnone timer hwaiting)).trans hpending),
          htimer⟩
      · exact ⟨request, (Dict.get?_set ..).trans (if_pos rfl), htimeout⟩

/-- A removed request takes its timer along, unless that has fired. -/
theorem disarmed {timers : Timers Key} {request : PendingRequest κ} {timer : Timer Key}
    (hmem : timer ∈ (disarm timers request).waiting) :
    timer ∈ timers.waiting ∧
      (request.timer = true → timer.id = request.serial → timer.fired = true) := by
  unfold disarm at hmem
  split at hmem
  · rw [Timers.mem_cancel] at hmem
    exact ⟨hmem.1, fun _ => hmem.2⟩
  · rename_i hnone
    exact ⟨hmem, fun htimer => absurd htimer hnone⟩

theorem cancel (hsound : Sound timeouts) (name : MessageName) (id : ℕ) (rememberStale : Bool) :
    Sound (timeouts.cancel name id rememberStale) := by
  unfold Timeouts.cancel
  cases hget : timeouts.registry.pending.get? (name, id) with
  | none => exact hsound
  | some removed =>
    have hother := timeouts.registry.get?_cancel name id rememberStale
    refine hsound.of_removed ?_ ?_ ?_ ?_ hsound.matched
    · change (disarm _ _).next = _
      unfold disarm
      split <;> rfl
    · intro key pending hpending
      rw [hother] at hpending
      split at hpending
      · cases hpending
      · exact hpending
    · exact fun hmem => (disarmed hmem).1
    · intro timer pending hmem hfired hpending htimer
      obtain ⟨hwaiting, hcancelled⟩ := disarmed hmem
      rw [hother, if_neg]
      · exact hpending
      · intro htask
        rw [htask, hget] at hpending
        cases hpending
        have hown : removed.serial = timer.id := hsound.own hwaiting (htask ▸ hget)
        rw [hcancelled htimer hown.symm] at hfired
        cases hfired

theorem disarmed_all {requests : List (PendingRequest κ)} {timers : Timers Key}
    {timer : Timer Key} (hmem : timer ∈ (requests.foldl disarm timers).waiting) :
    timer ∈ timers.waiting ∧ ∀ request ∈ requests,
      request.timer = true → timer.id = request.serial → timer.fired = true := by
  induction requests generalizing timers with
  | nil => exact ⟨hmem, fun _ hrequest => nomatch hrequest⟩
  | cons request requests ih =>
    obtain ⟨hearlier, hrest⟩ := ih hmem
    obtain ⟨hwaiting, hfirst⟩ := disarmed hearlier
    refine ⟨hwaiting, fun other hother => ?_⟩
    rcases List.mem_cons.mp hother with rfl | hlater
    · exact hfirst
    · exact hrest other hlater

theorem next_disarm_all (requests : List (PendingRequest κ)) (timers : Timers Key) :
    (requests.foldl disarm timers).next = timers.next := by
  induction requests generalizing timers with
  | nil => rfl
  | cons request requests ih =>
    refine (ih _).trans ?_
    unfold disarm
    split <;> rfl

theorem cancelAll (hsound : Sound timeouts) (rememberStale : Bool) :
    Sound (timeouts.cancelAll rememberStale) := by
  have hempty : ∀ {key : Key} {pending : PendingRequest κ},
      (timeouts.registry.cancelAll rememberStale).pending.get? key ≠ some pending := by
    intro key pending hpending
    rw [PendingRequestRegistry.pending_cancelAll] at hpending
    cases hpending
  refine hsound.of_removed (next_disarm_all _ _) (fun hget => absurd hget hempty)
    (fun hmem => (disarmed_all hmem).1) ?_ hsound.matched
  intro timer pending hmem hfired hpending htimer
  obtain ⟨hwaiting, hcancelled⟩ := disarmed_all hmem
  have hvalue : pending ∈ timeouts.registry.pending.entries.map Prod.snd :=
    List.mem_map.mpr ⟨_, (Dict.get?_eq_some_iff _ _ _).mp hpending, rfl⟩
  rw [hcancelled pending hvalue htimer (hsound.own hwaiting hpending).symm] at hfired
  cases hfired

theorem fire (hsound : Sound timeouts) (fired : ℕ) :
    Sound { timeouts with timers := timeouts.timers.fire fired } where
  serial_lt := hsound.serial_lt
  own hmem hpending := by
    obtain ⟨earlier, hearlier, rfl⟩ := (Timers.mem_fire _ _ _).mp hmem
    exact @own _ _ hsound earlier _ hearlier hpending
  pending hmem hfired := by
    obtain ⟨earlier, hearlier, rfl⟩ := (Timers.mem_fire _ _ _).mp hmem
    exact @pending _ _ hsound earlier hearlier (Bool.or_eq_false_iff.mp hfired).1
  matched := hsound.matched

/-- A timer that has fired finds its own request or none. -/
theorem expire (hsound : Sound timeouts) (timer : ℕ) : Sound (timeouts.expire timer) := by
  unfold Timeouts.expire
  cases hfired : timeouts.timers.fired? timer with
  | none => exact hsound
  | some fired =>
    obtain ⟨hwaiting, rfl, -⟩ := Timers.fired?_eq_some_iff.mp hfired
    have hfinish : ∀ {other : Timer Key}, other ∈ (timeouts.timers.finish fired.id).waiting →
        other ∈ timeouts.timers.waiting := fun hmem => ((Timers.mem_finish _ _ _).mp hmem).1
    have hother := timeouts.registry.get?_cancel fired.task.1 fired.task.2 true
    dsimp only
    cases hget : timeouts.registry.pending.get? fired.task with
    | none =>
      rw [PendingRequestRegistry.expire_of_free hget]
      dsimp only
      exact hsound.of_removed rfl (fun hpending => hpending) hfinish
        (fun _ _ hpending _ => hpending) hsound.matched
    | some pending =>
      rw [PendingRequestRegistry.expire_of_pending hget]
      have hown : pending.serial = fired.id := hsound.own hwaiting hget
      refine hsound.of_removed rfl ?_ hfinish ?_ ?_
      · intro key other hpending
        rw [hother] at hpending
        split at hpending
        · cases hpending
        · exact hpending
      · intro other request hmem _ hpending _
        rw [hother, if_neg]
        · exact hpending
        · intro htask
          have hid := ((Timers.mem_finish _ _ _).mp hmem).2
          have hsame : pending.serial = other.id :=
            hsound.own (hfinish hmem) ((congrArg _ htask).trans hget)
          exact hid (hsame.symm.trans hown)
      · intro expiration hmem
        rcases List.mem_append.mp hmem with hold | hnew
        · exact hsound.matched expiration hold
        · rw [List.mem_singleton.mp hnew]
          exact hown.symm

end Sound

/-- A key is not registered while a timer of it that has fired has yet to run. -/
def registersQuietly (timeouts : Timeouts κ) : Operation κ → Prop
  | .register name id _ _ =>
    timeouts.registry.pending.get? (name, id) = none →
      ∀ timer ∈ timeouts.timers.waiting, timer.fired = true → timer.task ≠ (name, id)
  | _ => True

/-- What one operation preserves. -/
theorem Sound.step {timeouts : Timeouts κ} (hsound : Sound timeouts) {operation : Operation κ}
    (hquiet : registersQuietly timeouts operation) : Sound (timeouts.step operation) := by
  cases operation with
  | register name id callback timeout => exact hsound.register hquiet callback timeout
  | pop name id => exact hsound.cancel name id true
  | cancel name id rememberStale => exact hsound.cancel name id rememberStale
  | cancelAll rememberStale => exact hsound.cancelAll rememberStale
  | fire timer => exact hsound.fire timer
  | expire timer => exact hsound.expire timer

instance (timeouts : Timeouts κ) (operation : Operation κ) :
    Decidable (registersQuietly timeouts operation) := by
  unfold registersQuietly
  cases operation <;> infer_instance

/-- A key that is registered under such a timer is removed by it. -/
theorem expires_other_of_not_quiet {timeouts : Timeouts κ} {operation : Operation κ}
    (hnoisy : ¬ registersQuietly timeouts operation) :
    ∃ timer, ∃ expiration ∈ (run step timeouts [operation, .expire timer]).expirations,
      expiration.armedBy ≠ expiration.removed := by
  cases operation with
  | register name id callback timeout =>
    obtain ⟨hget, hwaits⟩ := Classical.not_imp.mp hnoisy
    push Not at hwaits
    obtain ⟨timer, hwaiting, hfired, htask⟩ := hwaits
    let request : PendingRequest κ := ⟨name, id, callback, timeout, timeouts.timers.next⟩
    let registered := timeouts.register name id callback timeout
    have hregistered : registered.registry.pending.get? timer.task = some request := by
      change (timeouts.register name id callback timeout).registry.pending.get? _ = _
      unfold register
      rw [PendingRequestRegistry.register_of_free _ hget, htask]
      exact (Dict.get?_set ..).trans (if_pos rfl)
    have htimers : timer ∈ registered.timers.waiting := by
      change timer ∈ (timeouts.register name id callback timeout).timers.waiting
      unfold register
      rw [PendingRequestRegistry.register_of_free _ hget]
      cases timeout with
      | false => exact hwaiting
      | true => exact (Timers.mem_arm _ _ _).mpr (.inl hwaiting)
    have hfind := Timers.fired?_eq_some_iff.mpr ⟨htimers, rfl, hfired⟩
    refine ⟨timer.id, ⟨timer.id, timeouts.timers.next⟩, ?_, ?_⟩
    · change _ ∈ (registered.expire timer.id).expirations
      unfold expire
      rw [hfind]
      dsimp only
      rw [PendingRequestRegistry.expire_of_pending hregistered]
      exact List.mem_append_right _ (List.mem_singleton.mpr rfl)
    · exact Nat.ne_of_lt (timeouts.timers.fresh timer hwaiting)
  | _ => exact absurd trivial hnoisy

/-- In a run that registers no key while a timer of it that has fired has yet to
run, every timer removes and tells the request that armed it. As soon as a key is
registered otherwise, such a timer can remove the new request. -/
theorem timeout_expires_own_registration {staleLimit : ℕ} {operations : List (Operation κ)}
    (hrun : Guarded step registersQuietly (make staleLimit) operations) :
    (∀ expiration ∈ (run step (make staleLimit) operations).expirations,
      expiration.armedBy = expiration.removed) ∧
    ∀ operation, ¬ registersQuietly (run step (make staleLimit) operations) operation →
      ∃ timer, ∃ expiration ∈
          (run step (make staleLimit) (operations ++ [operation, .expire timer])).expirations,
        expiration.armedBy ≠ expiration.removed := by
  constructor
  · exact (hrun.invariant Sound (fun _ _ hsound hquiet => hsound.step hquiet) (.make _)).matched
  · intro operation hnoisy
    obtain ⟨timer, hexpired⟩ := expires_other_of_not_quiet hnoisy
    exact ⟨timer, by rwa [run_append]⟩

/-- A request that times out, and the next one under its key that is answered. -/
theorem timeout_expires_own_registration_twice :
    let operations : List (Operation Unit) :=
      [.register .getReaderConfigResponse 1 () true, .fire 0, .expire 0,
        .register .getReaderConfigResponse 1 () true, .pop .getReaderConfigResponse 1]
    (run step (make 512) operations).expirations.length = 1 ∧
      ∀ expiration ∈ (run step (make 512) operations).expirations,
        expiration.armedBy = expiration.removed := by
  have hrun := @timeout_expires_own_registration Unit 512
    [.register .getReaderConfigResponse 1 () true, .fire 0, .expire 0,
      .register .getReaderConfigResponse 1 () true, .pop .getReaderConfigResponse 1] (by decide)
  exact ⟨by decide, hrun.1⟩

/-- A timer that fires while its request is answered waits for the lock. The key
is used again in a new session, and the timer removes the new request. -/
theorem timeout_expires_other_registration :
    ¬ ∀ expiration ∈ (run step (make 512 : Timeouts Unit)
        [.register .getReaderConfigResponse 1 () true, .fire 0, .cancelAll false,
          .register .getReaderConfigResponse 1 () true, .expire 0]).expirations,
      expiration.armedBy = expiration.removed := by
  decide

end Timeouts

end Sllurp.Runtime
