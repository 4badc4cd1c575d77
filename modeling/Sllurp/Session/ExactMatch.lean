/-
# Responses that match exactly

A response whose name and ID are pending completes that request exactly when the
branch of the runtime state lets it through. The branches compare the name with
the one they wait for, so a response to a request of another type is dropped.
-/

import Sllurp.Session.Completion

namespace Sllurp.Session

open Sllurp.Foundations Sllurp.Protocol Sllurp.Config Sllurp.Runtime
open Sllurp.Foundations.Program

/-- What was heard of one request does not change when others are sent. -/
theorem heard_respects (serial : ℕ) :
    Respects (Frame.fixing fun client => client.core.history.filter (Event.invokes serial)) where
  neutral htraffic := by
    change List.filter _ _ = List.filter _ _
    rw [core_of_traffic htraffic]
  setState client newState _ := rfl
  sendRequest request name onCompletion newState _ _ _ client := by
    cases hwaiting : client.isWaiting name with
    | true =>
      rw [run_sendRequest_of_isWaiting hwaiting]
      rfl
    | false =>
      rw [run_sendRequest hwaiting]
      cases client.nextWrite with
      | none =>
        change List.filter _ (client.afterSend request name onCompletion newState).core.history = _
        rw [core_afterSend, List.filter_append]
        exact List.append_nil _
      | some raised =>
        change List.filter _ (client.afterFailedSend name onCompletion newState).core.history = _
        rw [core_afterFailedSend hwaiting]
  countMessage _ _ := rfl
  write messageId request client := by
    rw [run_write]
    cases client.nextWrite with
    | none =>
      change List.filter _ (client.history ++ [_]) = _
      rw [List.filter_append]
      exact List.append_nil _
    | some raised => rfl
  resetProtocolSession client := rfl

/-- The request with the serial number is not pending any more, and its callback
was invoked once, with the outcome. -/
def Client.completedOnce (client : Client) (serial : ℕ) (isSuccess : Bool) : Prop :=
  (∀ key pending, client.pendingRequests.pending.get? key = some pending →
    pending.serial ≠ serial) ∧
    client.history.filter (Event.invokes serial) = [.invoked serial isSuccess]

/-- A pending request is gone once its exact response completed it. -/
theorem gone_completed {strict : Bool} {client : Client} (hcore : Correlated strict client.core)
    {name : MessageName} {id : ℕ} {pending : PendingRequest Callback}
    (hpending : client.core.pendingAt name id = some pending) (isSuccess : Bool) :
    Gone pending.serial (client.completed name id pending isSuccess).core := by
  rw [core_completed]
  refine ⟨hcore.serial_lt hpending, ?_⟩
  intro other second late hlate
  obtain ⟨hne, hbefore⟩ := (Correlated.pendingAt_pop rfl).mp hlate
  exact hcore.serial_ne_of_pending hpending hbefore hne

/-- Its callback was never invoked before. -/
theorem heard_completed {strict : Bool} {client : Client} (hcore : Correlated strict client.core)
    {name : MessageName} {id : ℕ} {pending : PendingRequest Callback}
    (hpending : client.core.pendingAt name id = some pending) (isSuccess : Bool) :
    (client.completed name id pending isSuccess).core.history.filter
        (Event.invokes pending.serial) = [.invoked pending.serial isSuccess] := by
  have hbefore : client.core.history.filter (Event.invokes pending.serial) = [] := by
    rw [← List.length_eq_zero_iff, ← List.countP_eq_length_filter]
    exact hcore.unheard hpending
  rw [core_completed]
  simp only [List.filter_append, hbefore, List.nil_append]
  simp [Event.invokes]

/-- A response that matches exactly gets past the filters. -/
theorem not_ignored_of_pending {strict : Bool} {client : Client}
    (hcore : Correlated strict client.core) {message : LLRPMessage}
    (hname : message.name.isResponse = true) {pending : PendingRequest Callback}
    (hpending : client.core.pendingAt message.name message.id = some pending) :
    ignored client message = false := by
  have hstale : client.pendingRequests.isStale message.name message.id = false := by
    have hcurrent : (message.name, message.id) ∉ client.pendingRequests.staleSet :=
      hcore.current hpending
    simp [PendingRequestRegistry.isStale, hcurrent]
  have hcontains : client.pendingRequests.contains message.name message.id = true :=
    (PendingRequestRegistry.contains_iff _ _ _).mpr ⟨pending, hpending⟩
  have hreport : message.name ≠ .roAccessReport := by
    rintro heq
    simp [heq, MessageName.isResponse] at hname
  have hevent : message.name ≠ .readerEventNotification := by
    rintro heq
    simp [heq, MessageName.isResponse] at hname
  simp [ignored, hstale, hcontains, hreport, hevent]

/-- After the exact request was completed, only its callback and the rest of the
branch run. -/
theorem Respects.handleMessage_of_pending {frame : Frame Client} (hframe : Respects frame)
    (hsetState : ∀ (client : Client) (state : ReaderState),
      frame.Rel client (client.setState state))
    {client : Client} {message : LLRPMessage} {pending : PendingRequest Callback}
    (hpending : (client.prepared message).core.pendingAt message.name message.id = some pending)
    (hcompletes : client.completes message = true) :
    frame.Rel
      ((client.prepared message).completed message.name message.id pending message.isSuccess)
      ((Session.handleMessage message).final client) := by
  have hcallback := hframe.winding.runCallback pending.callback message.isSuccess (fun _ => trivial)
    fun _ state _ client => hsetState client state
  rw [Program.final, run_handleMessage_of_completes hcompletes, Program.run_bind, complete,
    run_processDeferreds_of_pending hpending]
  exact Within.bind hcallback
    (fun _ => hframe.winding.afterwards client message fun _ => trivial) _

/-- A message that gets as far as completing requests completes its exact one,
and only once. -/
theorem completedOnce_of_completes {strict : Bool} {client : Client}
    (hcore : Correlated strict client.core) {message : LLRPMessage}
    {pending : PendingRequest Callback}
    (hpending : client.core.pendingAt message.name message.id = some pending)
    (hcompletes : client.completes message = true) :
    ((handleMessage message).final client).completedOnce pending.serial message.isSuccess := by
  have hbefore : Correlated strict (client.prepared message).core := by
    rw [core_prepared]
    exact hcore.setState _
  have hstill : (client.prepared message).core.pendingAt message.name message.id =
      some pending := by
    rw [core_prepared]
    exact hpending
  have hgone := (Gone.respects pending.serial).handleMessage_of_pending (fun _ _ hgone => hgone)
    hstill hcompletes (gone_completed hbefore hstill _)
  have hheard := (heard_respects pending.serial).handleMessage_of_pending (fun _ _ => rfl)
    hstill hcompletes
  exact ⟨fun key held hheld => hgone.2 hheld, hheard.trans (heard_completed hbefore hstill _)⟩

/-- A response to a pending request completes it, and only once, exactly when
the branch of the runtime state lets the response through. -/
theorem exact_match_completed_iff {client : Client}
    (hreach : Reachable act Client.Started client) (message : LLRPMessage)
    (hname : message.name.isResponse = true) {serial : ℕ}
    (hpending : (client.core.pendingAt message.name message.id).map PendingRequest.serial =
      some serial) :
    ((handleMessage message).final client).completedOnce serial message.isSuccess ↔
      client.reaches message = true := by
  have hcore := correlated_of_reachable hreach
  obtain ⟨pending, hget, rfl⟩ := Option.map_eq_some_iff.mp hpending
  have hkeepalive : message.name ≠ .keepalive := by
    rintro heq
    simp [heq, MessageName.isResponse] at hname
  have hcompletes : client.completes message = client.reaches message := by
    simp [Client.completes, hkeepalive, not_ignored_of_pending hcore hname hget]
  constructor
  · rintro ⟨hgone, -⟩
    by_contra hreaches
    have hsame := core_handleMessage_of_not_completes hkeepalive
      (hcompletes.trans (Bool.eq_false_iff.mpr hreaches))
    refine hgone (message.name, message.id) pending ?_ rfl
    change ((handleMessage message).final client).core.pendingAt _ _ = _
    rw [hsame]
    exact hget
  · exact fun hreaches => completedOnce_of_completes hcore hget (hcompletes.trans hreaches)

/-- A paused client with a pending ADD_ACCESSSPEC. -/
def pausedAccess : Client :=
  run act (Client.initial (fun _ => timedConfig) 0 true)
    (openInventory ++ [⟨.pause 0 false false, []⟩, respond .disableRospecResponse 9 .success,
      ⟨.startAccess { opSpec := .read 0 0 1 0 1 }, []⟩])

theorem exact_match_completed_openSession :
    ((handleMessage (.response .setReaderConfigResponse 4 .success)).final
      (run act (Client.initial (fun _ => timedConfig) 0 true) (openSession.take 4))).completedOnce
      2 true :=
  (exact_match_completed_iff
    ⟨_, openSession.take 4, ⟨fun _ => timedConfig, 0, true, rfl⟩, rfl⟩
    (.response .setReaderConfigResponse 4 .success) rfl (by decide +kernel)).mpr
    (by decide +kernel)

/-- The response to an access operation is dropped while the client is paused,
though its request is pending. -/
theorem exact_match_dropped :
    (pausedAccess.core.pendingAt .addAccessspecResponse 10).map PendingRequest.serial = some 8 ∧
      ¬ ((handleMessage (.response .addAccessspecResponse 10 .success)).final
        pausedAccess).completedOnce 8 true := by
  refine ⟨by decide +kernel, ?_⟩
  rintro ⟨-, hheard⟩
  have hlength := congrArg List.length hheard
  revert hlength
  decide +kernel

end Sllurp.Session
