/-
# Requests and their callbacks

The callback of a request is held by the registry entry and by the deferred list
of its response name, and after the first half of a timeout by the request that
is about to be told. `Correlated` says that these agree. Its strict form counts
invocations too: a callback that was invoked is held nowhere any more.
-/

import Sllurp.Session.Frames

namespace Sllurp.Session

open Sllurp.Foundations Sllurp.Protocol Sllurp.Config Sllurp.Runtime
open Sllurp.Foundations.Program

/-- Whether the event invokes the callback of a request. -/
def Event.invokes (serial : ℕ) : Event → Bool
  | .invoked other _ => other = serial
  | _ => false

namespace Core

def pendingAt (core : Core) (name : MessageName) (id : ℕ) : Option (PendingRequest Callback) :=
  core.pendingRequests.pending.get? (name, id)

/-- How often the callback of a request was invoked. -/
def invocations (core : Core) (serial : ℕ) : ℕ := core.history.countP (Event.invokes serial)

/-- The places that may still invoke the callback of a request. -/
def held (core : Core) (serial : ℕ) : ℕ :=
  core.pendingRequests.pending.entries.countP (fun entry => entry.2.serial = serial) +
    core.expiring.countP fun expired => expired.serial = serial

/-- The same, with the invocations so far if the count is strict. -/
def load (core : Core) (strict : Bool) (serial : ℕ) : ℕ :=
  (if strict then core.invocations serial else 0) + core.held serial

end Core

/-- Registry, deferred lists and expiring requests agree. -/
structure Correlated (strict : Bool) (core : Core) : Prop where
  keyed : ∀ {name id pending}, core.pendingAt name id = some pending →
    pending.responseName = name ∧ name.isResponse = true
  expiring : ∀ {expired}, expired ∈ core.expiring → expired.responseName.isResponse = true
  deferred : ∀ {name id pending}, core.pendingAt name id = some pending →
    core.deferreds name = [deferredOf pending]
  owned : ∀ {name deferred}, deferred ∈ core.deferreds name →
    (∃ id pending, core.pendingAt name id = some pending ∧ deferredOf pending = deferred) ∨
      ∃ expired ∈ core.expiring, expired.responseName = name ∧ deferredOf expired = deferred
  current : ∀ {name id pending}, core.pendingAt name id = some pending →
    (name, id) ∉ core.pendingRequests.staleSet
  unheard : ∀ {name id pending}, core.pendingAt name id = some pending →
    core.invocations pending.serial = 0
  load_le : ∀ serial, core.load strict serial ≤ 1
  fresh : ∀ serial, core.nextSerial ≤ serial → core.load true serial = 0

namespace Correlated

variable {strict : Bool} {core : Core}

theorem held_le (hcore : Correlated strict core) (serial : ℕ) : core.held serial ≤ 1 :=
  (Nat.le_add_left _ _).trans (hcore.load_le serial)

/-- A pending request counts among the pending ones. -/
theorem count_pending_pos {name : MessageName} {id : ℕ} {pending : PendingRequest Callback}
    (hpending : core.pendingAt name id = some pending) :
    0 < core.pendingRequests.pending.entries.countP
      (fun entry => entry.2.serial = pending.serial) := by
  rw [List.countP_pos_iff]
  exact ⟨_, (Dict.get?_eq_some_iff _ _ _).mp hpending, decide_eq_true rfl⟩

theorem serial_lt (hcore : Correlated strict core) {name : MessageName} {id : ℕ}
    {pending : PendingRequest Callback} (hpending : core.pendingAt name id = some pending) :
    pending.serial < core.nextSerial := by
  by_contra hle
  have hzero := hcore.fresh pending.serial (Nat.le_of_not_lt hle)
  have hcount := count_pending_pos hpending
  unfold Core.load Core.held at hzero
  omega

theorem count_expiring_pos {expired : PendingRequest Callback}
    (hexpired : expired ∈ core.expiring) :
    0 < core.expiring.countP fun other => other.serial = expired.serial :=
  List.countP_pos_iff.mpr ⟨expired, hexpired, decide_eq_true rfl⟩

theorem expiring_serial_lt (hcore : Correlated strict core) {expired : PendingRequest Callback}
    (hexpired : expired ∈ core.expiring) : expired.serial < core.nextSerial := by
  by_contra hle
  have hzero := hcore.fresh expired.serial (Nat.le_of_not_lt hle)
  have hcount := count_expiring_pos hexpired
  unfold Core.load Core.held at hzero
  omega

/-- No request is both pending and expiring. -/
theorem serial_ne_of_expiring (hcore : Correlated strict core) {name : MessageName} {id : ℕ}
    {pending expired : PendingRequest Callback} (hpending : core.pendingAt name id = some pending)
    (hexpired : expired ∈ core.expiring) : pending.serial ≠ expired.serial := by
  intro hserial
  have hcount := count_pending_pos hpending
  have hother := count_expiring_pos hexpired
  have hheld := hcore.held_le pending.serial
  rw [← hserial] at hother
  unfold Core.held at hheld
  omega

/-- Requests pending under different keys have different serial numbers. -/
theorem serial_ne_of_pending (hcore : Correlated strict core) {name other : MessageName}
    {id second : ℕ} {early late : PendingRequest Callback}
    (hearly : core.pendingAt name id = some early)
    (hlate : core.pendingAt other second = some late) (hne : (other, second) ≠ (name, id)) :
    late.serial ≠ early.serial := by
  intro hserial
  have hheld := hcore.held_le early.serial
  have herase := Dict.countP_erase _ hearly fun entry => decide (entry.2.serial = early.serial)
  have hrest : (core.pendingRequests.pending.erase (name, id)).get? (other, second) =
      some late := by
    rw [Dict.get?_erase, if_neg hne]
    exact hlate
  have hpos : 0 < (core.pendingRequests.pending.erase (name, id)).entries.countP
      (fun entry => entry.2.serial = early.serial) := by
    rw [List.countP_pos_iff]
    exact ⟨_, (Dict.get?_eq_some_iff _ _ _).mp hrest, decide_eq_true hserial⟩
  simp only [decide_true, if_true] at herase
  unfold Core.held at hheld
  omega

/-- At most one request of a response type is pending. -/
theorem id_unique (hcore : Correlated strict core) {name : MessageName} {first second : ℕ}
    {early late : PendingRequest Callback} (hearly : core.pendingAt name first = some early)
    (hlate : core.pendingAt name second = some late) : first = second := by
  have hsame : deferredOf early = deferredOf late := by
    have heq := (hcore.deferred hearly).symm.trans (hcore.deferred hlate)
    simpa using heq
  by_contra hne
  have hserial := hcore.serial_ne_of_pending hearly hlate (by simpa using Ne.symm hne)
  exact hserial (congrArg Deferred.serial hsame).symm

/-! ## Primitive steps -/

theorem setState (hcore : Correlated strict core) (state : ReaderState) :
    Correlated strict { core with state } :=
  ⟨hcore.keyed, hcore.expiring, hcore.deferred, hcore.owned, hcore.current, hcore.unheard,
    hcore.load_le, hcore.fresh⟩

theorem countMessage (hcore : Correlated strict core) (lastMsgId : ℕ) :
    Correlated strict { core with lastMsgId } :=
  ⟨hcore.keyed, hcore.expiring, hcore.deferred, hcore.owned, hcore.current, hcore.unheard,
    hcore.load_le, hcore.fresh⟩

theorem invocations_append (core : Core) (event : Event) (serial : ℕ) :
    { core with history := core.history ++ [event] }.invocations serial =
      core.invocations serial + if event.invokes serial then 1 else 0 := by
  simp only [Core.invocations, List.countP_append, List.countP_singleton]

/-- Events that invoke nothing do not count. -/
theorem record (hcore : Correlated strict core) {event : Event}
    (hevent : ∀ serial, event.invokes serial = false) :
    Correlated strict { core with history := core.history ++ [event] } := by
  have hinvocations : ∀ serial, { core with history := core.history ++ [event] }.invocations
      serial = core.invocations serial := by
    intro serial
    rw [invocations_append, hevent serial]
    rfl
  have hload : ∀ counted serial, { core with history := core.history ++ [event] }.load counted
      serial = core.load counted serial := by
    intro counted serial
    simp only [Core.load, hinvocations]
    rfl
  refine ⟨hcore.keyed, hcore.expiring, hcore.deferred, hcore.owned, hcore.current, ?_, ?_, ?_⟩
  · intro name id pending hpending
    rw [hinvocations]
    exact hcore.unheard hpending
  · intro serial
    rw [hload]
    exact hcore.load_le serial
  · intro serial hserial
    rw [hload]
    exact hcore.fresh serial hserial

/-- The session reset forgets every request but the expiring ones. -/
theorem reset (hcore : Correlated strict core) :
    Correlated strict
      { core with
        state := .disconnected
        deferreds := fun _ => []
        pendingRequests := core.pendingRequests.cancelAll false } := by
  have hload : ∀ counted serial, Core.load
      { core with
        state := .disconnected
        deferreds := fun _ => []
        pendingRequests := core.pendingRequests.cancelAll false } counted serial ≤
      core.load counted serial := by
    intro counted serial
    simp only [Core.load, Core.held, Core.invocations, PendingRequestRegistry.cancelAll,
      Bool.false_eq_true, if_false, Dict.empty, List.countP_nil]
    omega
  refine ⟨?_, hcore.expiring, ?_, ?_, ?_, ?_, ?_, ?_⟩
  · intro name id pending hpending
    cases hpending
  · intro name id pending hpending
    cases hpending
  · intro name deferred hdeferred
    cases hdeferred
  · intro name id pending hpending
    cases hpending
  · intro name id pending hpending
    cases hpending
  · exact fun serial => (hload strict serial).trans (hcore.load_le serial)
  · exact fun serial hserial => Nat.le_zero.mp (hcore.fresh serial hserial ▸ hload true serial)

/-- A new request of a free response type is held by the registry and the
deferred list, and by nothing else. -/
theorem send {client : Client} (hcore : Correlated strict client.core) {name : MessageName}
    (hname : name.isResponse = true) (hfree : client.isWaiting name = false) (request : Request)
    (onCompletion : Callback) (newState : Option ReaderState) :
    Correlated strict (client.afterSend request name onCompletion newState).core := by
  have hkey := not_mem_keys_of_not_isWaiting hfree (nextMessageId client.lastMsgId)
  have hget : ∀ key, (client.nextRegistry name onCompletion).pending.get? key =
      if key = (name, nextMessageId client.lastMsgId) then
        some (client.nextPending name onCompletion)
      else client.pendingRequests.pending.get? key :=
    fun key => Dict.get?_set _ _ _ _
  have hother : ∀ {other id pending},
      client.pendingRequests.pending.get? (other, id) = some pending → other ≠ name := by
    rintro other id pending hpending rfl
    have htype := (PendingRequestRegistry.hasResponseType_iff _ _).mpr ⟨id, pending, hpending⟩
    simp [Client.isWaiting, htype] at hfree
  have hinvocations : ∀ serial,
      (client.afterSend request name onCompletion newState).core.invocations serial =
        client.core.invocations serial := by
    intro serial
    rw [core_afterSend]
    exact invocations_append client.core _ serial
  have hload : ∀ counted serial,
      (client.afterSend request name onCompletion newState).core.load counted serial =
        client.core.load counted serial + if client.nextSerial = serial then 1 else 0 := by
    intro counted serial
    rw [Core.load, Core.load, hinvocations, core_afterSend]
    simp only [Core.held, Client.nextRegistry]
    rw [Dict.countP_set_of_not_mem _ _ _ hkey]
    by_cases hserial : client.nextSerial = serial
    · simp only [Client.nextPending, Client.core, hserial, decide_true, if_true]
      omega
    · simp only [Client.nextPending, Client.core, hserial, decide_false, Bool.false_eq_true,
        if_false, Nat.add_zero]
  rw [core_afterSend] at hload hinvocations ⊢
  refine ⟨?_, hcore.expiring, ?_, ?_, ?_, ?_, ?_, ?_⟩
  · intro other id pending hpending
    rw [Core.pendingAt, hget] at hpending
    split at hpending
    · cases hpending
      rename_i heq
      cases heq
      exact ⟨rfl, hname⟩
    · exact hcore.keyed hpending
  · intro other id pending hpending
    rw [Core.pendingAt, hget] at hpending
    dsimp only
    split at hpending
    · cases hpending
      rename_i heq
      cases heq
      rw [if_pos rfl, deferreds_of_not_isWaiting hfree]
      rfl
    · rw [if_neg (hother hpending)]
      exact hcore.deferred hpending
  · intro other deferred hdeferred
    simp only [Core.pendingAt]
    dsimp only at hdeferred
    by_cases hsame : other = name
    · rw [if_pos hsame, deferreds_of_not_isWaiting hfree, List.nil_append,
        List.mem_singleton] at hdeferred
      refine Or.inl ⟨nextMessageId client.lastMsgId, client.nextPending name onCompletion, ?_, ?_⟩
      · rw [hget, if_pos (by rw [hsame])]
      · rw [hdeferred]
        rfl
    · rw [if_neg hsame] at hdeferred
      rcases hcore.owned hdeferred with ⟨id, pending, hpending, hof⟩ | howned
      · refine Or.inl ⟨id, pending, ?_, hof⟩
        rw [hget, if_neg (by simp [hsame])]
        exact hpending
      · exact Or.inr howned
  · intro other id pending hpending
    rw [Core.pendingAt, hget] at hpending
    change (other, id) ∉ client.pendingRequests.staleSet.erase _
    split at hpending
    · rename_i heq
      rw [heq]
      exact Finset.notMem_erase _ _
    · exact fun hstale => hcore.current hpending (Finset.mem_of_mem_erase hstale)
  · intro other id pending hpending
    rw [Core.pendingAt, hget] at hpending
    rw [hinvocations]
    split at hpending
    · cases hpending
      exact Nat.eq_zero_of_add_eq_zero_right (hcore.fresh client.nextSerial (Nat.le_refl _))
    · exact hcore.unheard hpending
  · intro serial
    rw [hload]
    split
    · rename_i heq
      have hzero := hcore.fresh serial (Nat.le_of_eq heq)
      have hle : client.core.load strict serial ≤ client.core.load true serial := by
        unfold Core.load
        cases strict <;> simp
      omega
    · exact hcore.load_le serial
  · intro serial hserial
    dsimp only at hserial
    rw [hload, hcore.fresh serial (Nat.le_of_succ_le hserial), if_neg (by omega)]

/-- A withdrawn request is held by nothing. -/
theorem withdraw {client : Client} (hcore : Correlated strict client.core) {name : MessageName}
    (hfree : client.isWaiting name = false) (onCompletion : Callback)
    (newState : Option ReaderState) :
    Correlated strict (client.afterFailedSend name onCompletion newState).core := by
  rw [core_afterFailedSend hfree]
  refine ⟨hcore.keyed, hcore.expiring, hcore.deferred, hcore.owned, ?_, hcore.unheard,
    hcore.load_le, ?_⟩
  · exact fun hpending hstale => hcore.current hpending (Finset.mem_of_mem_erase hstale)
  · exact fun serial hserial => hcore.fresh serial (Nat.le_of_succ_le hserial)

/-! ## Every call -/

/-- The frame of the invariant. -/
abbrev frame (strict : Bool) : Frame Client :=
  Frame.invariant fun client => Correlated strict client.core

theorem write (serial : Option ℕ) (messageId : ℕ) (request : Request) :
    Within (frame strict) (Session.write serial messageId request) := by
  intro client hcore
  rw [run_write]
  cases client.nextWrite with
  | none => exact Correlated.record hcore fun _ => rfl
  | some raised => exact hcore

/-- A request keeps the invariant, whatever state it sets. -/
theorem sendRequest (request : Request) {name : MessageName} (hname : name.isResponse = true)
    (onCompletion : Callback) (newState : Option ReaderState) :
    Within (frame strict) (Session.sendRequest request name onCompletion newState) := by
  intro client hcore
  cases hwaiting : client.isWaiting name with
  | true =>
    rw [run_sendRequest_of_isWaiting hwaiting]
    exact hcore
  | false =>
    rw [run_sendRequest hwaiting]
    cases client.nextWrite with
    | none => exact Correlated.send hcore hname hwaiting request onCompletion newState
    | some raised => exact Correlated.withdraw hcore hwaiting onCompletion newState

/-- Everything that only sends, sets states and resets keeps the invariant. -/
theorem respects : Respects (frame strict) where
  neutral htraffic hbefore := by
    change Correlated _ _
    rw [core_of_traffic htraffic]
    exact hbefore
  setState client newState _ hcore := Correlated.setState hcore newState
  sendRequest request name onCompletion newState hname _ _ :=
    Correlated.sendRequest request hname onCompletion newState
  countMessage client lastMsgId hcore := Correlated.countMessage hcore lastMsgId
  write messageId request := Correlated.write none messageId request
  resetProtocolSession client hcore := Correlated.reset hcore

/-- A callback keeps the invariant once its invocation was recorded. -/
theorem runCallback (callback : Callback) (isSuccess : Bool) :
    Within (frame strict) (Session.runCallback callback isSuccess) :=
  respects.winding.runCallback callback isSuccess (fun _ => trivial) fun _ state _ _ hcore =>
    Correlated.setState hcore state

end Correlated

end Sllurp.Session
