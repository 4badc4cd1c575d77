/-
# Completing requests

A response takes its exact request out of the registry and out of the deferred
list before it invokes the callback. A timeout does the same in two halves. With
nothing left over in a deferred list, each keeps registry and lists correlated.
-/

import Sllurp.Session.Correlation
import Sllurp.Session.Handling

namespace Sllurp.Session

open Sllurp.Foundations Sllurp.Protocol Sllurp.Config Sllurp.Runtime
open Sllurp.Foundations.Program

/-- The callbacks that a message runs because nothing pending matches it. -/
def Core.leftover (core : Core) (message : LLRPMessage) : List Deferred :=
  if core.pendingRequests.contains message.name message.id ||
      core.pendingRequests.isStale message.name message.id then []
  else core.deferreds message.name

namespace Client

/-- The client with an exact request completed and its callback about to run. -/
def completed (client : Client) (name : MessageName) (id : ℕ) (pending : PendingRequest Callback)
    (isSuccess : Bool) : Client :=
  (((client.setRegistry (client.pendingRequests.pop name id).2).dropDeferred name
    pending.serial).record (.answered pending.serial isSuccess)).record
    (.invoked pending.serial isSuccess)

/-- The client with an expired request about to hear of it. -/
def told (client : Client) (pending : PendingRequest Callback) : Client :=
  ({ client with
    expiring := client.expiring.filter fun other =>
      other.serial ≠ pending.serial }.dropDeferred pending.responseName pending.serial).record
    (.invoked pending.serial false)

/-- Whether handling the message runs callbacks that nothing pending holds. -/
def runsLeftover (client : Client) (message : LLRPMessage) : Bool :=
  client.completes message && !(client.core.leftover message).isEmpty

end Client

/-! ## Equations -/

theorem pop_of_pending {registry : PendingRequestRegistry Callback} {name : MessageName} {id : ℕ}
    {pending : PendingRequest Callback}
    (hpending : registry.pending.get? (name, id) = some pending) :
    registry.pop name id =
      (some { pending with timer := false }, (registry.pop name id).2) := by
  unfold PendingRequestRegistry.pop PendingRequestRegistry.cancel
  rw [hpending]

/-- A response with an exact match completes that request only. -/
theorem run_processDeferreds_of_pending {client : Client} {name : MessageName} {id : ℕ}
    {pending : PendingRequest Callback} (hpending : client.core.pendingAt name id = some pending)
    (isSuccess : Bool) :
    processDeferreds name isSuccess id client =
      runCallback pending.callback isSuccess (client.completed name id pending isSuccess) := by
  have hget : client.pendingRequests.pending.get? (name, id) = some pending := hpending
  have hpop := pop_of_pending hget
  unfold processDeferreds
  rw [Program.run_get_bind, hpop]
  rfl

/-- Completing an exact request is running its callback. -/
theorem run_complete_of_pending {client : Client} {message : LLRPMessage}
    {pending : PendingRequest Callback}
    (hpending : client.core.pendingAt message.name message.id = some pending)
    (next : Unit → ClientM Unit) :
    (complete message message.isSuccess >>= next) (client.prepared message) =
      (runCallback pending.callback message.isSuccess >>= next)
        ((client.prepared message).completed message.name message.id pending
          message.isSuccess) := by
  have hstill : (client.prepared message).core.pendingAt message.name message.id =
      some pending := by
    rw [core_prepared]
    exact hpending
  rw [Program.run_bind, Program.run_bind, complete, run_processDeferreds_of_pending hstill]

/-- A response without one runs what is left over under its name. -/
theorem run_complete_of_not_pending {client : Client} {message : LLRPMessage}
    (hpending : client.core.pendingAt message.name message.id = none) (isSuccess : Bool) :
    complete message isSuccess client =
      invokeAll (client.core.leftover message) isSuccess
        (if client.pendingRequests.isStale message.name message.id then client
          else client.setDeferreds message.name []) := by
  have hcontains : client.core.pendingRequests.contains message.name message.id = false := by
    rw [PendingRequestRegistry.contains, Dict.contains]
    change (client.core.pendingAt _ _).isSome = false
    rw [hpending]
    rfl
  have hpop : client.pendingRequests.pop message.name message.id =
      (none, client.pendingRequests) := by
    unfold PendingRequestRegistry.pop PendingRequestRegistry.cancel
    rw [show client.pendingRequests.pending.get? (message.name, message.id) = none from hpending]
  unfold complete processDeferreds Core.leftover
  rw [Program.run_get_bind, hpop, hcontains, Bool.false_or]
  cases hstale : client.pendingRequests.isStale message.name message.id with
  | true =>
    have hcore : client.core.pendingRequests.isStale message.name message.id = true := hstale
    rw [hcore]
    rfl
  | false =>
    have hcore : client.core.pendingRequests.isStale message.name message.id = false := hstale
    rw [hcore]
    rfl

/-- Emptying an empty deferred list changes nothing. -/
theorem setDeferreds_nil {client : Client} {name : MessageName}
    (hempty : client.deferreds name = []) : client.setDeferreds name [] = client := by
  have hsame : (fun other => if other = name then [] else client.deferreds other) =
      client.deferreds := by
    funext other
    split
    · rename_i heq
      rw [heq, hempty]
    · rfl
  cases client
  simp only [Client.setDeferreds] at hsame ⊢
  rw [hsame]

/-- With nothing left over it does nothing. -/
theorem run_complete_of_no_leftover {client : Client} {message : LLRPMessage}
    (hpending : client.core.pendingAt message.name message.id = none)
    (hleftover : client.core.leftover message = []) (isSuccess : Bool) :
    complete message isSuccess client = (.ok (), client) := by
  rw [run_complete_of_not_pending hpending, hleftover]
  unfold invokeAll
  rw [Program.run_pure]
  cases hstale : client.pendingRequests.isStale message.name message.id with
  | true => rfl
  | false =>
    have hempty : client.deferreds message.name = [] := by
      unfold Core.leftover at hleftover
      rw [PendingRequestRegistry.contains, Dict.contains,
        show client.core.pendingRequests.pending.get? _ = none from hpending,
        show client.core.pendingRequests.isStale _ _ = false from hstale] at hleftover
      exact hleftover
    rw [if_neg Bool.false_ne_true, setDeferreds_nil hempty]

theorem run_onRequestTimeout (pending : PendingRequest Callback) (client : Client) :
    onRequestTimeout pending client = runCallback pending.callback false (client.told pending) :=
  rfl

/-! ## The invariant -/

theorem core_completed (client : Client) (name : MessageName) (id : ℕ)
    (pending : PendingRequest Callback) (isSuccess : Bool) :
    (client.completed name id pending isSuccess).core =
      { client.core with
        deferreds := fun other =>
          if other = name then
            (client.core.deferreds name).filter fun deferred => deferred.serial ≠ pending.serial
          else client.core.deferreds other
        pendingRequests := (client.core.pendingRequests.pop name id).2
        history :=
          client.core.history ++ [.answered pending.serial isSuccess] ++
            [.invoked pending.serial isSuccess] } := by
  dsimp only [Client.completed, Client.record, Client.dropDeferred, Client.setDeferreds,
    Client.setRegistry, Client.core]

theorem profile_completed (client : Client) (name : MessageName) (id : ℕ)
    (pending : PendingRequest Callback) (isSuccess : Bool) :
    (client.completed name id pending isSuccess).profile = client.profile := by
  dsimp only [Client.completed, Client.record, Client.dropDeferred, Client.setDeferreds,
    Client.setRegistry, Client.profile]

theorem requests_record_invoked (client : Client) (serial : ℕ) (isSuccess : Bool) :
    (client.record (.invoked serial isSuccess)).requests = client.requests := by
  change (client.history ++ [Event.invoked serial isSuccess]).filterMap _ = _
  rw [List.filterMap_append]
  exact List.append_nil _

theorem requests_record_expired (client : Client) (serial : ℕ) :
    (client.record (.expired serial)).requests = client.requests := by
  change (client.history ++ [Event.expired serial]).filterMap _ = _
  rw [List.filterMap_append]
  exact List.append_nil _

theorem requests_completed (client : Client) (name : MessageName) (id : ℕ)
    (pending : PendingRequest Callback) (isSuccess : Bool) :
    (client.completed name id pending isSuccess).requests = client.requests := by
  have hhistory := congrArg Core.history (core_completed client name id pending isSuccess)
  change (client.completed name id pending isSuccess).history = client.history ++ _ ++ _ at hhistory
  rw [Client.requests, hhistory, List.filterMap_append, List.filterMap_append]
  simp [Client.requests]

theorem core_told (client : Client) (pending : PendingRequest Callback) :
    (client.told pending).core =
      { client.core with
        deferreds := fun other =>
          if other = pending.responseName then
            (client.core.deferreds pending.responseName).filter fun deferred =>
              deferred.serial ≠ pending.serial
          else client.core.deferreds other
        expiring := client.core.expiring.filter fun other => other.serial ≠ pending.serial
        history := client.core.history ++ [.invoked pending.serial false] } := by
  dsimp only [Client.told, Client.record, Client.dropDeferred, Client.setDeferreds, Client.core]

theorem final_expire_of_not_pending {client : Client} {key : Key}
    (hget : client.pendingRequests.pending.get? key = none) :
    (expire key).final client = client := by
  have hexpire : client.pendingRequests.expire key = (none, client.pendingRequests) := by
    unfold PendingRequestRegistry.expire PendingRequestRegistry.cancel
    rw [hget]
  unfold expire
  rw [Program.final, Program.run_modify, hexpire]

theorem run_expire_of_pending {client : Client} {name : MessageName} {id : ℕ}
    {pending : PendingRequest Callback}
    (hget : client.pendingRequests.pending.get? (name, id) = some pending) :
    expire (name, id) client =
      (.ok (), { client.setRegistry (client.pendingRequests.pop name id).2 with
        expiring := client.expiring ++ [{ pending with timer := false }] }.record
          (.expired pending.serial)) := by
  have hexpire : client.pendingRequests.expire (name, id) =
      (some { pending with timer := false }, (client.pendingRequests.pop name id).2) :=
    pop_of_pending hget
  unfold expire
  rw [Program.run_modify, hexpire]

theorem core_expire_of_pending {client : Client} {name : MessageName} {id : ℕ}
    {pending : PendingRequest Callback}
    (hget : client.pendingRequests.pending.get? (name, id) = some pending) :
    ((expire (name, id)).final client).core =
      { client.core with
        pendingRequests := (client.core.pendingRequests.pop name id).2
        expiring := client.core.expiring ++ [{ pending with timer := false }]
        history := client.core.history ++ [.expired pending.serial] } := by
  rw [Program.final, run_expire_of_pending hget]
  rfl

namespace Correlated

variable {strict : Bool} {core later : Core} {name : MessageName} {id : ℕ}
variable {pending : PendingRequest Callback}

theorem pendingAt_pop (hpopped : later.pendingRequests = (core.pendingRequests.pop name id).2)
    {other : MessageName} {second : ℕ} {late : PendingRequest Callback} :
    later.pendingAt other second = some late ↔
      (other, second) ≠ (name, id) ∧ core.pendingAt other second = some late := by
  unfold Core.pendingAt
  rw [hpopped, PendingRequestRegistry.pop, PendingRequestRegistry.get?_cancel]
  split <;> simp_all

/-- A request taken out of the registry is held by something else, or it was
invoked. -/
theorem of_pop (hcore : Correlated strict core) (hpending : core.pendingAt name id = some pending)
    (hpopped : later.pendingRequests = (core.pendingRequests.pop name id).2)
    (hdeferreds : ∀ other, other ≠ name → later.deferreds other = core.deferreds other)
    (howned : ∀ deferred ∈ later.deferreds name,
      ∃ expired ∈ later.expiring, expired.responseName = name ∧ deferredOf expired = deferred)
    (hexpiring : ∀ expired ∈ core.expiring, expired ∈ later.expiring)
    (hresponse : ∀ expired ∈ later.expiring, expired.responseName.isResponse = true)
    (hserials : later.nextSerial = core.nextSerial)
    (hheard : ∀ serial, serial ≠ pending.serial → later.invocations serial =
      core.invocations serial)
    (hload : ∀ counted serial, later.load counted serial ≤ core.load counted serial) :
    Correlated strict later := by
  refine ⟨?_, fun {expired} => hresponse expired, ?_, ?_, ?_, ?_, ?_, ?_⟩
  · intro other second late hlate
    exact hcore.keyed ((pendingAt_pop hpopped).mp hlate).2
  · intro other second late hlate
    obtain ⟨hne, hbefore⟩ := (pendingAt_pop hpopped).mp hlate
    have hname : other ≠ name := by
      intro heq
      subst heq
      exact hne (by rw [hcore.id_unique hbefore hpending])
    rw [hdeferreds other hname]
    exact hcore.deferred hbefore
  · intro other deferred hdeferred
    by_cases hname : other = name
    · subst hname
      exact Or.inr (howned deferred hdeferred)
    · rw [hdeferreds other hname] at hdeferred
      rcases hcore.owned hdeferred with ⟨second, late, hlate, hsame⟩ | ⟨expired, hmem, hsame⟩
      · exact Or.inl ⟨second, late, (pendingAt_pop hpopped).mpr ⟨by simp [hname], hlate⟩, hsame⟩
      · exact Or.inr ⟨expired, hexpiring expired hmem, hsame⟩
  · intro other second late hlate hstale
    obtain ⟨hne, hbefore⟩ := (pendingAt_pop hpopped).mp hlate
    rw [hpopped] at hstale
    have hsubset := PendingRequestRegistry.staleSet_pop_subset core.pendingRequests name id hstale
    rcases Finset.mem_insert.mp hsubset with heq | hmem
    · exact hne heq
    · exact hcore.current hbefore hmem
  · intro other second late hlate
    obtain ⟨hne, hbefore⟩ := (pendingAt_pop hpopped).mp hlate
    rw [hheard _ (hcore.serial_ne_of_pending hpending hbefore hne)]
    exact hcore.unheard hbefore
  · intro serial
    exact (hload strict serial).trans (hcore.load_le serial)
  · intro serial hserial
    rw [hserials] at hserial
    exact Nat.le_zero.mp (hcore.fresh serial hserial ▸ hload true serial)

theorem count_pop (hpending : core.pendingAt name id = some pending) (serial : ℕ) :
    (core.pendingRequests.pop name id).2.pending.entries.countP
        (fun entry => entry.2.serial = serial) + (if pending.serial = serial then 1 else 0) =
      core.pendingRequests.pending.entries.countP fun entry => entry.2.serial = serial := by
  rw [PendingRequestRegistry.pending_pop hpending]
  simpa using Dict.countP_erase _ hpending fun entry => decide (entry.2.serial = serial)

/-- Completing an exact request keeps the invariant. -/
theorem completed {client : Client} (hcore : Correlated strict client.core)
    (hpending : client.core.pendingAt name id = some pending) (isSuccess : Bool) :
    Correlated strict (client.completed name id pending isSuccess).core := by
  rw [core_completed]
  refine hcore.of_pop hpending rfl (fun other hother => if_neg hother) ?_
    (fun _ hexpired => hexpired) (fun _ hexpired => hcore.expiring hexpired) rfl ?_ ?_
  · intro deferred hdeferred
    dsimp only at hdeferred
    rw [if_pos rfl, hcore.deferred hpending] at hdeferred
    simp [deferredOf] at hdeferred
  · intro serial hserial
    simp [Core.invocations, List.countP_append, Event.invokes, Ne.symm hserial]
  · intro counted serial
    have hcount := count_pop hpending serial
    simp only [Core.load, Core.held, Core.invocations, List.countP_append,
      List.countP_singleton, Event.invokes, Bool.false_eq_true, if_false, decide_eq_true_eq]
    cases counted <;> simp only [if_true, Bool.false_eq_true, if_false] <;> omega

/-- The first half of a timeout keeps the invariant. -/
theorem expire (key : Key) : Within (frame strict) (Session.expire key) := by
  intro client hcore
  obtain ⟨name, id⟩ := key
  cases hget : client.pendingRequests.pending.get? (name, id) with
  | none =>
    change Correlated strict ((Session.expire (name, id)).final client).core
    rw [final_expire_of_not_pending hget]
    exact hcore
  | some pending =>
    obtain ⟨hname, hresponse⟩ := hcore.keyed hget
    change Correlated strict ((Session.expire (name, id)).final client).core
    rw [core_expire_of_pending hget]
    refine hcore.of_pop hget rfl (fun other _ => rfl) ?_ ?_ ?_ rfl ?_ ?_
    · intro deferred hdeferred
      rw [hcore.deferred hget, List.mem_singleton] at hdeferred
      exact ⟨{ pending with timer := false }, List.mem_append_right _ (List.mem_singleton_self _),
        hname, hdeferred.symm⟩
    · exact fun expired hexpired => List.mem_append_left _ hexpired
    · intro expired hexpired
      rcases List.mem_append.mp hexpired with hbefore | hnew
      · exact hcore.expiring hbefore
      · rw [List.mem_singleton.mp hnew]
        change pending.responseName.isResponse = true
        rw [hname]
        exact hresponse
    · intro serial _
      exact invocations_append client.core _ serial
    · intro counted serial
      have hpending : client.core.pendingAt name id = some pending := hget
      have hcount := count_pop hpending serial
      simp only [Core.load, Core.held, Core.invocations, List.countP_append,
        List.countP_singleton, Event.invokes, Bool.false_eq_true, if_false, decide_eq_true_eq,
        Nat.add_zero]
      omega

/-- Expiring requests with one serial number are the same. -/
theorem expiring_unique (hcore : Correlated strict core) {first second : PendingRequest Callback}
    (hfirst : first ∈ core.expiring) (hsecond : second ∈ core.expiring)
    (hserial : first.serial = second.serial) : first = second := by
  have hheld := hcore.held_le second.serial
  have hlength : (core.expiring.filter fun expired => expired.serial = second.serial).length ≤
      1 := by
    rw [← List.countP_eq_length_filter]
    unfold Core.held at hheld
    omega
  have hmem : ∀ {expired}, expired ∈ core.expiring → expired.serial = second.serial →
      expired ∈ core.expiring.filter fun expired => expired.serial = second.serial :=
    fun hexpired heq => List.mem_filter.mpr ⟨hexpired, decide_eq_true heq⟩
  have hearly := hmem hfirst hserial
  have hlate := hmem hsecond rfl
  cases hheld : core.expiring.filter fun expired => expired.serial = second.serial with
  | nil => simp [hheld] at hearly
  | cons only rest =>
    have hrest : rest = [] := by
      rw [hheld, List.length_cons] at hlength
      exact List.length_eq_zero_iff.mp (by omega)
    rw [hheld, hrest, List.mem_singleton] at hearly hlate
    rw [hearly, hlate]

/-- The second half of a timeout keeps the invariant. -/
theorem told {client : Client} (hcore : Correlated strict client.core)
    {expired : PendingRequest Callback} (hexpired : expired ∈ client.core.expiring) :
    Correlated strict (client.told expired).core := by
  have hcount := count_expiring_pos hexpired
  have hfilter : ∀ serial, (client.core.expiring.filter fun other =>
      other.serial ≠ expired.serial).countP (fun other => other.serial = serial) =
      if serial = expired.serial then 0
      else client.core.expiring.countP fun other => other.serial = serial := by
    intro serial
    rw [List.countP_filter]
    split
    · rename_i heq
      rw [List.countP_eq_zero]
      simp [heq]
    · rename_i hne
      congr 1
      funext other
      by_cases hother : other.serial = serial <;> simp [hother, hne]
  have hload : ∀ counted serial,
      (client.told expired).core.load counted serial ≤ client.core.load counted serial := by
    intro counted serial
    rw [core_told]
    simp only [Core.load, Core.held, Core.invocations, List.countP_append,
      List.countP_singleton, Event.invokes, decide_eq_true_eq, hfilter]
    by_cases hserial : serial = expired.serial
    · subst hserial
      cases counted <;> simp only [if_true, Bool.false_eq_true, if_false] <;> omega
    · rw [if_neg (Ne.symm hserial), if_neg hserial, Nat.add_zero]
  have hheard : ∀ serial, serial ≠ expired.serial →
      (client.told expired).core.invocations serial = client.core.invocations serial := by
    intro serial hserial
    rw [core_told]
    simp [Core.invocations, List.countP_append, Event.invokes, Ne.symm hserial]
  rw [core_told] at hload hheard ⊢
  refine ⟨hcore.keyed, ?_, ?_, ?_, hcore.current, ?_, ?_, ?_⟩
  · exact fun hother => hcore.expiring (List.mem_of_mem_filter hother)
  · intro name id pending hpending
    have hne := hcore.serial_ne_of_expiring hpending hexpired
    dsimp only
    split
    · rename_i hname
      rw [← hname, hcore.deferred hpending]
      simp [deferredOf, hne]
    · exact hcore.deferred hpending
  · intro name deferred hdeferred
    dsimp only at hdeferred
    have hbefore : deferred ∈ client.core.deferreds name ∧
        (name = expired.responseName → deferred.serial ≠ expired.serial) := by
      split at hdeferred
      · rename_i hname
        rw [List.mem_filter, decide_eq_true_eq, ← hname] at hdeferred
        exact ⟨hdeferred.1, fun _ => hdeferred.2⟩
      · rename_i hname
        exact ⟨hdeferred, fun hsame => absurd hsame hname⟩
    rcases hcore.owned hbefore.1 with hpending | ⟨other, hother, hname, hsame⟩
    · exact Or.inl hpending
    · refine Or.inr ⟨other, ?_, hname, hsame⟩
      rw [List.mem_filter, decide_eq_true_eq]
      refine ⟨hother, fun hserial => ?_⟩
      have heq := hcore.expiring_unique hother hexpired hserial
      have hdeferred := congrArg Deferred.serial hsame
      rw [heq] at hname hdeferred
      exact hbefore.2 hname.symm hdeferred.symm
  · intro name id pending hpending
    rw [hheard _ (hcore.serial_ne_of_expiring hpending hexpired)]
    exact hcore.unheard hpending
  · exact fun serial => (hload strict serial).trans (hcore.load_le serial)
  · exact fun serial hserial => Nat.le_zero.mp (hcore.fresh serial hserial ▸ hload true serial)

end Correlated

/-! ## Callbacks that are left over -/

/-- The request with the serial number is not pending, and no later one will
have its number. -/
def Gone (serial : ℕ) (core : Core) : Prop :=
  serial < core.nextSerial ∧
    ∀ {name id pending}, core.pendingAt name id = some pending → pending.serial ≠ serial

/-- A request that is gone stays gone. -/
theorem Gone.respects (serial : ℕ) :
    Respects (Frame.invariant fun client => Gone serial client.core) where
  neutral htraffic hbefore := by
    change Gone _ _
    rw [core_of_traffic htraffic]
    exact hbefore
  setState client newState _ hgone := hgone
  sendRequest request name onCompletion newState _ _ _ client hgone := by
    cases hwaiting : client.isWaiting name with
    | true =>
      rw [run_sendRequest_of_isWaiting hwaiting]
      exact hgone
    | false =>
      rw [run_sendRequest hwaiting]
      cases client.nextWrite with
      | none =>
        change Gone serial (client.afterSend request name onCompletion newState).core
        rw [core_afterSend]
        refine ⟨Nat.lt_succ_of_lt hgone.1, ?_⟩
        intro other id pending hpending
        simp only [Core.pendingAt, Client.nextRegistry, Dict.get?_set] at hpending
        split at hpending
        · cases hpending
          exact Nat.ne_of_gt hgone.1
        · exact hgone.2 hpending
      | some raised =>
        change Gone serial (client.afterFailedSend name onCompletion newState).core
        rw [core_afterFailedSend hwaiting]
        exact ⟨Nat.lt_succ_of_lt hgone.1, hgone.2⟩
  countMessage _ _ hgone := hgone
  write messageId request client hgone := by
    rw [run_write]
    cases client.nextWrite <;> exact hgone
  resetProtocolSession client hgone := by
    refine ⟨hgone.1, ?_⟩
    intro name id pending hpending
    cases hpending

theorem Gone.runCallback {serial : ℕ} (callback : Callback) (isSuccess : Bool) :
    Within (Frame.invariant fun client => Gone serial client.core)
      (Session.runCallback callback isSuccess) :=
  (Gone.respects serial).winding.runCallback callback isSuccess (fun _ => trivial)
    fun _ _ _ _ hgone => hgone

namespace Correlated

variable {core : Core} {name : MessageName}

/-- The callback of a request that is not pending may be invoked again. -/
theorem invoked (hcore : Correlated false core) {serial : ℕ} (hgone : Gone serial core)
    (isSuccess : Bool) :
    Correlated false { core with history := core.history ++ [.invoked serial isSuccess] } := by
  refine ⟨hcore.keyed, hcore.expiring, hcore.deferred, hcore.owned, hcore.current, ?_,
    hcore.load_le, ?_⟩
  · intro name id pending hpending
    have hne : ¬ serial = pending.serial := fun heq => hgone.2 hpending heq.symm
    rw [invocations_append, hcore.unheard hpending]
    simp [Event.invokes, hne]
  · intro other hother
    have hzero := hcore.fresh other hother
    change core.nextSerial ≤ other at hother
    have hne : ¬ serial = other := by
      intro heq
      have := hgone.1
      omega
    change Core.invocations { core with history := core.history ++ [.invoked serial isSuccess] }
      other + core.held other = 0
    rw [invocations_append]
    simpa [Core.load, Event.invokes, hne] using hzero

/-- Callbacks of requests that are not pending may be invoked one by one. -/
theorem invokeAll {waiting : List Deferred} {client : Client}
    (hcore : Correlated false client.core)
    (hgone : ∀ deferred ∈ waiting, Gone deferred.serial client.core) (isSuccess : Bool) :
    Correlated false ((Session.invokeAll waiting isSuccess).final client).core := by
  induction waiting generalizing client with
  | nil => exact hcore
  | cons deferred waiting ih =>
    have hrecorded : Correlated false (client.record (.invoked deferred.serial isSuccess)).core :=
      hcore.invoked (hgone deferred (List.mem_cons_self ..)) isSuccess
    have hrest : ∀ other ∈ waiting,
        Gone other.serial (client.record (.invoked deferred.serial isSuccess)).core :=
      fun other hother => hgone other (List.mem_cons_of_mem _ hother)
    have hcallback := runCallback deferred.callback isSuccess _ hrecorded
    have hstill : ∀ other ∈ waiting, Gone other.serial
        (Session.runCallback deferred.callback isSuccess
          (client.record (.invoked deferred.serial isSuccess))).2.core :=
      fun other hother => Gone.runCallback deferred.callback isSuccess _ (hrest other hother)
    unfold Session.invokeAll Session.invoke Program.final
    rw [Program.run_bind, Program.run_modify_bind]
    rcases hrun : Session.runCallback deferred.callback isSuccess
      (client.record (.invoked deferred.serial isSuccess)) with ⟨_ | _, later⟩
    · rw [hrun] at hcallback
      exact hcallback
    · rw [hrun] at hcallback hstill
      exact ih hcallback hstill

/-- What is left over under a name belongs to expiring requests. -/
theorem gone_of_leftover {strict : Bool} (hcore : Correlated strict core)
    (hnone : ∀ id, core.pendingAt name id = none) {deferred : Deferred}
    (hdeferred : deferred ∈ core.deferreds name) : Gone deferred.serial core := by
  rcases hcore.owned hdeferred with ⟨id, pending, hpending, _⟩ | ⟨expired, hexpired, _, hsame⟩
  · rw [hnone id] at hpending
    cases hpending
  · rw [← hsame]
    refine ⟨hcore.expiring_serial_lt hexpired, ?_⟩
    intro other second pending hpending
    exact hcore.serial_ne_of_expiring hpending hexpired

/-- The deferred list of a name that nothing is pending under can be emptied. -/
theorem clear {strict : Bool} (hcore : Correlated strict core)
    (hnone : ∀ id, core.pendingAt name id = none) :
    Correlated strict
      { core with
        deferreds := fun other => if other = name then [] else core.deferreds other } := by
  refine ⟨hcore.keyed, hcore.expiring, ?_, ?_, hcore.current, hcore.unheard, hcore.load_le,
    hcore.fresh⟩
  · intro other id pending hpending
    have hother : other ≠ name := by
      intro heq
      rw [heq] at hpending
      exact nomatch (hnone id).symm.trans hpending
    dsimp only
    rw [if_neg hother]
    exact hcore.deferred hpending
  · intro other deferred hdeferred
    dsimp only at hdeferred
    split at hdeferred
    · cases hdeferred
    · exact hcore.owned hdeferred

end Correlated

/-! ## Handling a message -/

/-- Whether the end of the setup follows the completion. -/
def Client.endsSetup (client : Client) (message : LLRPMessage) : Bool :=
  client.state = .sentSetConfig && !client.suppressSetConfigPostActions && message.isSuccess

/-- What a branch does after the completion stays within every frame, if the
frame allows the end of the setup to start an inventory. -/
theorem Winding.afterwards {starting : Prop} {frame : Frame Client}
    (hframe : Winding starting frame) (client : Client) (message : LLRPMessage)
    (hstart : client.endsSetup message = true → starting) :
    Within frame (Session.afterwards client message) := by
  have hsetup : starting → Within frame Session.finishSetup := by
    intro hstart
    unfold Session.finishSetup
    refine .bind .get fun client => .ite (fun _ => .pure ()) fun _ => ?_
    refine .ite (fun _ => hframe.stopPolitely rfl _) fun _ => ?_
    exact .ite (fun _ => hframe.startInventory hstart _ _ (.pure ())) fun _ => .pure ()
  have hconnecting : Within frame (do
      let client ← Program.get
      if usesImpinjExtensions client.settings then
        sendEnableImpinjExtensions .enableImpinjExtCb
      else sendGetReaderCapabilities .getReaderCapabilitiesCb : ClientM Unit) := by
    refine .bind .get fun client => .ite (fun _ => ?_) fun _ => ?_
    · exact hframe.sendRequest _ _ _ _ (absurd · Bool.false_ne_true) rfl rfl
        (by simp [ReaderState.awaited])
    · exact hframe.sendRequest _ _ _ _ (absurd · Bool.false_ne_true) rfl rfl
        (by simp [ReaderState.awaited])
  unfold Session.afterwards
  cases hstate : client.state with
  | disconnected => exact hconnecting
  | connecting => exact hconnecting
  | connected => exact hconnecting
  | sentEnableImpinjExtensions => exact .ite (fun _ => .pure ()) fun _ => .raise _
  | sentGetCapabilities =>
    refine .ite (fun _ => .bind .get fun client => ?_) fun _ => .raise _
    refine .ite (fun _ => .pure ()) fun _ => .bind .get fun client => ?_
    exact hframe.sendRequest _ _ _ _ (absurd · Bool.false_ne_true) rfl rfl
      (by simp [ReaderState.awaited])
  | sentGetConfig =>
    refine .ite (fun _ => .bind .get fun client => ?_) fun _ => .raise _
    refine .ite (fun _ => .pure ()) fun _ => ?_
    refine .bind (hframe.sendMessage _ (absurd · Bool.false_ne_true)) fun _ => ?_
    exact hframe.sendSetReaderConfig rfl
  | sentSetConfig =>
    refine .ite (fun _ => .pure ()) fun hsuppress => .ite (fun hok => hsetup (hstart ?_)) fun _ =>
      .raise _
    simp [Client.endsSetup, hstate, hok, hsuppress]
  | sentAddRospec =>
    refine .ite (fun _ => .pure ()) fun _ => .bind .get fun later => ?_
    exact .ite (fun _ => .raise _) fun _ => .pure ()
  | sentEnableRospec => exact .pure ()
  | sentStartRospec => exact .pure ()
  | inventorying => exact .pure ()
  | sentDeleteRospec => exact .pure ()
  | sentDeleteAccessspec => exact .pure ()
  | pausing => exact .pure ()
  | paused => exact .pure ()

namespace Correlated

variable {strict : Bool}

/-- A message that gets past the filters matches exactly, or nothing of its name
is pending. -/
theorem none_pending_of_not_ignored {client : Client} (hcore : Correlated strict client.core)
    {message : LLRPMessage} (hignored : ignored client message = false)
    (hpending : client.core.pendingAt message.name message.id = none) (id : ℕ) :
    client.core.pendingAt message.name id = none := by
  by_contra hsome
  obtain ⟨pending, hother⟩ := Option.ne_none_iff_exists'.mp hsome
  have htype : client.pendingRequests.hasResponseType message.name = true :=
    (PendingRequestRegistry.hasResponseType_iff _ _).mpr ⟨id, pending, hother⟩
  have hcontains : client.pendingRequests.contains message.name message.id = false := by
    rw [PendingRequestRegistry.contains, Dict.contains]
    change (client.core.pendingAt _ _).isSome = false
    rw [hpending]
    rfl
  simp [ignored, (hcore.keyed hother).2, htype, hcontains] at hignored

/-- A response keeps the invariant, and the strict one unless it runs what is
left over. -/
theorem complete {client : Client} (hcore : Correlated strict client.core) {message : LLRPMessage}
    (hnone : client.core.pendingAt message.name message.id = none →
      ∀ id, client.core.pendingAt message.name id = none)
    (hleftover : strict = true → client.core.leftover message = []) (isSuccess : Bool) :
    Correlated strict ((Session.complete message isSuccess).final client).core := by
  cases hpending : client.core.pendingAt message.name message.id with
  | some pending =>
    unfold Session.complete
    rw [Program.final, run_processDeferreds_of_pending hpending]
    exact runCallback pending.callback isSuccess _ (hcore.completed hpending isSuccess)
  | none =>
    cases strict with
    | true =>
      rw [Program.final, run_complete_of_no_leftover hpending (hleftover rfl)]
      exact hcore
    | false =>
      rw [Program.final, run_complete_of_not_pending hpending]
      refine invokeAll ?_ ?_ isSuccess
      · split
        · exact hcore
        · exact hcore.clear (hnone hpending)
      · intro deferred hdeferred
        have hmem : deferred ∈ client.core.deferreds message.name := by
          unfold Core.leftover at hdeferred
          split at hdeferred
          · cases hdeferred
          · exact hdeferred
        have hgone := hcore.gone_of_leftover (hnone hpending) hmem
        split <;> exact hgone

theorem handleMessage {client : Client} (hcore : Correlated strict client.core)
    {message : LLRPMessage} (hsafe : strict = true → client.runsLeftover message = false) :
    Correlated strict ((Session.handleMessage message).final client).core := by
  by_cases hkeepalive : message.name = .keepalive
  · unfold Session.handleMessage
    rw [Program.final, Program.run_get_bind, if_pos hkeepalive]
    unfold sendKeepaliveAck
    split
    · exact write _ _ _ client hcore
    · exact hcore
  cases hcompletes : client.completes message with
  | false =>
    rw [core_handleMessage_of_not_completes hkeepalive hcompletes]
    exact hcore
  | true =>
    have hignored : ignored client message = false := by
      simp only [Client.completes, Bool.and_eq_true, Bool.not_eq_true'] at hcompletes
      exact hcompletes.1.2
    have hprepared := core_prepared client message
    have hbefore : Correlated strict (client.prepared message).core := by
      rw [hprepared]
      exact hcore.setState _
    have hnone : (client.prepared message).core.pendingAt message.name message.id = none →
        ∀ id, (client.prepared message).core.pendingAt message.name id = none := by
      rw [hprepared]
      exact fun hpending => hcore.none_pending_of_not_ignored hignored hpending
    have hleftover : strict = true → (client.prepared message).core.leftover message = [] := by
      intro hstrict
      have hempty : client.core.leftover message = [] := by
        simpa [Client.runsLeftover, hcompletes] using hsafe hstrict
      rw [hprepared]
      exact hempty
    have hcompleted : Triple (· = client.prepared message)
        (Session.complete message message.isSuccess)
        (fun later => Correlated strict later.core) := by
      rintro _ rfl
      exact hbefore.complete hnone hleftover _
    have hboth : Triple (· = client.prepared message)
        (Session.complete message message.isSuccess >>= fun _ => afterwards client message)
        (fun later => Correlated strict later.core) :=
      hcompleted.bind (fun _ => id) fun _ =>
        respects.winding.afterwards client message fun _ => trivial
    rw [Program.final, run_handleMessage_of_completes hcompletes]
    exact hboth _ rfl

theorem onRequestTimeout {client : Client} (hcore : Correlated strict client.core)
    {expired : PendingRequest Callback} (hexpired : expired ∈ client.core.expiring) :
    Correlated strict ((Session.onRequestTimeout expired).final client).core := by
  rw [Program.final, run_onRequestTimeout]
  exact runCallback expired.callback false _ (hcore.told hexpired)

theorem timeout (key : Key) : Within (frame strict) (Session.timeout key) := by
  refine .get_bind fun client hcore => ?_
  obtain ⟨name, id⟩ := key
  cases hget : client.pendingRequests.pending.get? (name, id) with
  | none =>
    have hexpire : (client.pendingRequests.expire (name, id)).1 = none := by
      unfold PendingRequestRegistry.expire PendingRequestRegistry.cancel
      rw [hget]
    rw [hexpire]
    exact hcore
  | some pending =>
    have hexpire : (client.pendingRequests.expire (name, id)).1 =
        some { pending with timer := false } :=
      congrArg Prod.fst (pop_of_pending hget)
    have hexpired := expire (name, id) client hcore
    have hmem : { pending with timer := false } ∈
        ((Session.expire (name, id)).final client).core.expiring := by
      rw [core_expire_of_pending hget]
      exact List.mem_append_right _ (List.mem_singleton_self _)
    rw [hexpire]
    exact onRequestTimeout hexpired hmem

theorem onTimer {key : Key} {program : ClientM Unit} (hprogram : Within (frame strict) program) :
    Within (frame strict) (Session.onTimer key program) :=
  .get_bind fun client => Within.ite (fun _ => hprogram) (fun _ => .pure ()) client

theorem tellTimeout (serial : ℕ) : Within (frame strict) (Session.tellTimeout serial) := by
  refine .get_bind fun client hcore => ?_
  cases hfind : client.expiring.find? fun pending => pending.serial = serial with
  | none => exact hcore
  | some expired => exact onRequestTimeout hcore (List.mem_of_find?_eq_some hfind)

end Correlated

/-! ## Runs -/

/-- Whether the call handles a message that runs a callback which no pending
request holds. -/
def Call.runsLeftover (client : Client) : Call → Bool
  | .handleMessage message | .receive message _ => client.runsLeftover message
  | _ => false

/-- A new client has no requests. -/
theorem correlated_initial (strict : Bool) (configs : ConfigRef → LLRPReaderConfig)
    (config : ConfigRef) (owned : Bool) :
    Correlated strict (Client.initial configs config owned).core := by
  refine ⟨?_, ?_, ?_, ?_, ?_, ?_, ?_, ?_⟩
  · intro name id pending hpending
    cases hpending
  · intro expired hexpired
    cases hexpired
  · intro name id pending hpending
    cases hpending
  · intro name deferred hdeferred
    cases hdeferred
  · intro name id pending hpending
    cases hpending
  · intro name id pending hpending
    cases hpending
  · exact fun serial => by cases strict <;> exact Nat.zero_le 1
  · exact fun serial _ => rfl

/-- What one step preserves. -/
theorem correlated_act {strict : Bool} {client : Client} (hcore : Correlated strict client.core)
    {action : Action}
    (hsafe : strict = true → action.call.runsLeftover (client.facing action.writes) = false) :
    Correlated strict (act client action).core := by
  have hfacing : Correlated strict (client.facing action.writes).core := hcore
  obtain ⟨call, writes⟩ := action
  unfold act
  cases hhandles : call.handles with
  | false =>
    cases call with
    | sendRequest request name hname newState =>
      exact Correlated.sendRequest request hname .application newState _ hfacing
    | _ =>
      exact Correlated.respects.winding.call hhandles (fun _ => trivial) (by rintro _ _ _ _ ⟨⟩)
        _ hfacing
  | true =>
    cases call with
    | handleMessage message => exact hfacing.handleMessage hsafe
    | receive message retried =>
      exact Correlated.respects.winding.receive message retried _ (hfacing.handleMessage hsafe)
    | expire key => exact Correlated.onTimer (Correlated.expire key) _ hfacing
    | timeout key => exact Correlated.onTimer (Correlated.timeout key) _ hfacing
    | onRequestTimeout serial => exact Correlated.tellTimeout serial _ hfacing
    | _ => cases hhandles

/-- The clients that some run of a new client reaches. -/
def Client.Started (client : Client) : Prop :=
  ∃ configs config owned, client = Client.initial configs config owned

/-- Registry and deferred lists agree in every reachable client. -/
theorem correlated_of_reachable {client : Client} (hreach : Reachable act Client.Started client) :
    Correlated false client.core := by
  refine hreach.invariant (fun client => Correlated false client.core) ?_ ?_
  · rintro _ ⟨configs, config, owned, rfl⟩
    exact correlated_initial false configs config owned
  · intro client action hcore
    exact correlated_act hcore (by simp)

end Sllurp.Session
