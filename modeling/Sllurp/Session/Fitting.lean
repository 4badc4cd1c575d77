/-
# One fitting callback for each response

A frame that also allows what completing requests takes away holds across every
call of the client, not only across calls that handle no message. The first
frame of this kind says that at most one callback is deferred under each
response name, and that it is one which requests of that type are given. So the
registry and the deferred lists mirror each other.
-/

import Sllurp.Session.Completion

namespace Sllurp.Session

open Sllurp.Foundations Sllurp.Protocol Sllurp.Config Sllurp.Runtime
open Sllurp.Foundations.Program

/-! ## Frames of every call -/

/-- A frame that allows any runtime state, and what handling a message does to the
requests. -/
structure Handling (frame : Frame Client) : Prop extends Winding True frame where
  anyState : ∀ (client : Client) (newState : ReaderState),
    frame.Rel client (client.setState newState)
  notDisconnecting : ∀ client : Client, frame.Rel client client.notDisconnecting
  completed : ∀ (client : Client) (name : MessageName) (id : ℕ)
    (pending : PendingRequest Callback) (isSuccess : Bool),
    frame.Rel client (client.completed name id pending isSuccess)
  cleared : ∀ (client : Client) (name : MessageName),
    frame.Rel client (client.setDeferreds name [])
  invoked : ∀ (client : Client) (serial : ℕ) (isSuccess : Bool),
    frame.Rel client (client.record (.invoked serial isSuccess))

/-- A frame that allows any runtime state, and the bookkeeping of requests that
are completed or expire. -/
structure Completing (frame : Frame Client) : Prop extends Respects frame where
  anyState : ∀ (client : Client) (newState : ReaderState),
    frame.Rel client (client.setState newState)
  requested : ∀ (request : Request) (name : MessageName) (newState : Option ReaderState),
    name.isResponse = true →
    Within frame (Session.sendRequest request name .application newState)
  completed : ∀ (client : Client) (name : MessageName) (id : ℕ)
    (pending : PendingRequest Callback) (isSuccess : Bool),
    frame.Rel client (client.completed name id pending isSuccess)
  cleared : ∀ (client : Client) (name : MessageName),
    frame.Rel client (client.setDeferreds name [])
  invoked : ∀ (client : Client) (serial : ℕ) (isSuccess : Bool),
    frame.Rel client (client.record (.invoked serial isSuccess))
  expired : ∀ key : Key, Within frame (expire key)
  told : ∀ (client : Client) (pending : PendingRequest Callback),
    frame.Rel client (client.told pending)

namespace Handling

variable {frame : Frame Client}

theorem runCallback (hframe : Handling frame) (callback : Callback) (isSuccess : Bool) :
    Within frame (Session.runCallback callback isSuccess) :=
  hframe.toWinding.runCallback callback isSuccess (fun _ => trivial) fun _ state _ client =>
    hframe.anyState client state

theorem invokeAll (hframe : Handling frame) (waiting : List Deferred) (isSuccess : Bool) :
    Within frame (Session.invokeAll waiting isSuccess) := by
  induction waiting with
  | nil => exact .pure ()
  | cons deferred waiting ih =>
    have hinvoke : Within frame (Session.invoke deferred isSuccess) :=
      .bind (.modify fun client => hframe.invoked client _ _) fun _ => hframe.runCallback _ _
    exact .bind hinvoke fun _ => ih

theorem complete (hframe : Handling frame) (message : LLRPMessage) (isSuccess : Bool) :
    Within frame (Session.complete message isSuccess) := by
  intro client
  cases hpending : client.core.pendingAt message.name message.id with
  | some pending =>
    unfold Session.complete
    rw [run_processDeferreds_of_pending hpending]
    exact frame.trans (hframe.completed client _ _ _ _) (hframe.runCallback _ _ _)
  | none =>
    rw [run_complete_of_not_pending hpending]
    refine frame.trans ?_ (hframe.invokeAll _ _ _)
    split
    · exact frame.refl client
    · exact hframe.cleared client _

/-- A KEEPALIVE is acknowledged by a message that nobody waits for. -/
theorem sendKeepaliveAck (hframe : Handling frame) (id : ℕ) :
    Within frame (Session.sendKeepaliveAck id) := by
  unfold Session.sendKeepaliveAck
  exact .ite (fun _ => hframe.write _ _ fun _ => trivial) fun _ => .raise _

/-- What a branch stores before it completes requests. -/
theorem prepared (hframe : Handling frame) (client : Client) (message : LLRPMessage) :
    frame.Rel client (client.prepared message) := by
  have hneutral : ∀ later : Client, later.traffic = client.traffic →
      later.link = client.link → frame.Rel client later :=
    fun later => hframe.neutral
  unfold Client.prepared
  cases client.state with
  | disconnected => exact hframe.notDisconnecting client
  | connecting => exact hframe.notDisconnecting client
  | connected => exact hframe.notDisconnecting client
  | sentGetCapabilities =>
    dsimp only
    split
    · exact frame.trans (hneutral (client.withCapabilities message.capabilities) rfl rfl)
        (hframe.toWinding.parseCapabilities _ _)
    · exact frame.refl client
  | sentGetConfig =>
    dsimp only
    split
    · exact hneutral _ rfl rfl
    · exact frame.refl client
  | sentSetConfig =>
    dsimp only
    split
    · split
      · exact frame.trans (hneutral client.allowPostActions rfl rfl) (hframe.anyState _ _)
      · exact frame.refl client
    · exact hneutral _ rfl rfl
  | _ => exact frame.refl client

theorem handleMessage (hframe : Handling frame) (message : LLRPMessage) :
    Within frame (Session.handleMessage message) := by
  intro client
  by_cases hkeepalive : message.name = .keepalive
  · unfold Session.handleMessage
    rw [Program.run_get_bind, if_pos hkeepalive]
    exact hframe.sendKeepaliveAck _ _
  cases hcompletes : client.completes message with
  | true =>
    rw [run_handleMessage_of_completes hcompletes]
    exact frame.trans (hframe.prepared client message)
      (Within.bind (hframe.complete _ _)
          (fun _ => hframe.toWinding.afterwards client message fun _ => trivial) _)
  | false =>
    change frame.Rel client ((Session.handleMessage message).final client)
    rw [final_handleMessage_of_not_completes hkeepalive hcompletes]
    split
    · have hstored : frame.Rel client (client.withCapabilities message.capabilities) :=
        hframe.neutral rfl rfl
      exact frame.trans hstored (hframe.toWinding.parseCapabilities _ _)
    · exact frame.refl client

end Handling

namespace Completing

variable {frame : Frame Client}

theorem handling (hframe : Completing frame) : Handling frame where
  toWinding := hframe.winding
  anyState := hframe.anyState
  notDisconnecting _ := hframe.neutral rfl
  completed := hframe.completed
  cleared := hframe.cleared
  invoked := hframe.invoked

theorem onRequestTimeout (hframe : Completing frame) (pending : PendingRequest Callback) :
    Within frame (Session.onRequestTimeout pending) := by
  intro client
  rw [run_onRequestTimeout]
  exact frame.trans (hframe.told client pending) (hframe.handling.runCallback _ _ _)

theorem onTimer (key : Key) {program : ClientM Unit} (hprogram : Within frame program) :
    Within frame (Session.onTimer key program) := by
  unfold Session.onTimer
  exact .bind .get fun client => .ite (fun _ => hprogram) fun _ => .pure ()

/-- Every call stays within the frame. -/
theorem program (hframe : Completing frame) (call : Call) : Within frame call.program := by
  cases hhandles : call.handles with
  | true =>
    cases call with
    | handleMessage message => exact hframe.handling.handleMessage message
    | receive message retried =>
      exact fun client => frame.trans (hframe.handling.handleMessage message client)
        (hframe.winding.receive message retried client)
    | expire key => exact onTimer key (hframe.expired key)
    | onRequestTimeout serial =>
      refine .bind .get fun client => ?_
      cases client.expiring.find? fun pending => pending.serial = serial with
      | none => exact .pure ()
      | some pending => exact hframe.onRequestTimeout pending
    | timeout key =>
      refine onTimer key (.bind .get fun client => ?_)
      cases (client.pendingRequests.expire key).1 with
      | none => exact .pure ()
      | some pending =>
        exact .bind (hframe.expired key) fun _ => hframe.onRequestTimeout pending
    | _ => cases hhandles
  | false =>
    cases call with
    | sendRequest request name hname newState => exact hframe.requested request name newState hname
    | _ => exact hframe.winding.call hhandles (fun _ => trivial) (by rintro _ _ _ _ ⟨⟩)

end Completing

/-! ## Fitting callbacks -/

/-- At most one callback is deferred under each name, and it answers that name. -/
structure Fitting (core : Core) : Prop where
  single : ∀ name, (core.deferreds name).length ≤ 1
  answers : ∀ {name deferred}, deferred ∈ core.deferreds name →
    deferred.callback.answers name = true

/-- Taking callbacks out of deferred lists leaves the rest fitting. -/
theorem Fitting.of_sublist {core later : Core} (hcore : Fitting core)
    (hsublist : ∀ name, (later.deferreds name).Sublist (core.deferreds name)) : Fitting later where
  single name := (hsublist name).length_le.trans (hcore.single name)
  answers hdeferred := hcore.answers ((hsublist _).mem hdeferred)

theorem fitting_sendRequest (request : Request) {name : MessageName} {onCompletion : Callback}
    (hanswers : onCompletion.answers name = true) (newState : Option ReaderState) :
    Within (Frame.invariant fun client => Fitting client.core)
      (sendRequest request name onCompletion newState) := by
  intro client hcore
  cases hwaiting : client.isWaiting name with
  | true =>
    rw [run_sendRequest_of_isWaiting hwaiting]
    exact hcore
  | false =>
    rw [run_sendRequest hwaiting]
    cases client.nextWrite with
    | some raised =>
      change Fitting (client.afterFailedSend name onCompletion newState).core
      rw [core_afterFailedSend hwaiting]
      exact ⟨hcore.single, hcore.answers⟩
    | none =>
      change Fitting (client.afterSend request name onCompletion newState).core
      rw [core_afterSend, deferreds_of_not_isWaiting hwaiting]
      refine ⟨fun other => ?_, fun {other deferred} hdeferred => ?_⟩
      · dsimp only
        split
        · exact Nat.le_refl 1
        · exact hcore.single other
      · dsimp only at hdeferred
        split at hdeferred
        · rename_i hother
          cases List.mem_singleton.mp hdeferred
          rw [hother]
          exact hanswers
        · exact hcore.answers hdeferred

/-- A write, whatever becomes of it, defers nothing. -/
theorem fitting_write (serial : Option ℕ) (messageId : ℕ) (request : Request) :
    Within (Frame.invariant fun client => Fitting client.core)
      (write serial messageId request) := by
  intro client hcore
  rw [run_write]
  cases client.nextWrite <;> exact ⟨hcore.single, hcore.answers⟩

theorem fitting_completing : Completing (Frame.invariant fun client => Fitting client.core) where
  neutral htraffic hcore := by
    change Fitting _
    rw [core_of_traffic htraffic]
    exact hcore
  setState _ _ _ hcore := ⟨hcore.single, hcore.answers⟩
  sendRequest request name onCompletion newState _ hanswers _ :=
    fitting_sendRequest request hanswers newState
  countMessage _ _ hcore := ⟨hcore.single, hcore.answers⟩
  write messageId request := fitting_write none messageId request
  resetProtocolSession _ _ := ⟨fun _ => Nat.zero_le 1, fun hdeferred => nomatch hdeferred⟩
  anyState _ _ hcore := ⟨hcore.single, hcore.answers⟩
  requested request name newState hname := by
    have hanswers : Callback.application.answers name = true := hname
    exact fitting_sendRequest request hanswers newState
  completed client name id pending isSuccess hcore := by
    change Fitting (client.completed name id pending isSuccess).core
    rw [core_completed]
    refine hcore.of_sublist fun other => ?_
    dsimp only
    split
    · rename_i hother
      rw [hother]
      exact List.filter_sublist
    · exact List.Sublist.refl _
  cleared client name hcore := by
    refine hcore.of_sublist fun other => ?_
    change (if other = name then [] else client.deferreds other).Sublist _
    split
    · exact List.nil_sublist _
    · exact List.Sublist.refl _
  invoked _ _ _ hcore := ⟨hcore.single, hcore.answers⟩
  expired key client hcore := by
    change Fitting ((expire key).final client).core
    cases hget : client.pendingRequests.pending.get? key with
    | none =>
      rw [final_expire_of_not_pending hget]
      exact hcore
    | some pending =>
      rw [core_expire_of_pending hget]
      exact ⟨hcore.single, hcore.answers⟩
  told client pending hcore := by
    change Fitting (client.told pending).core
    rw [core_told]
    refine hcore.of_sublist fun other => ?_
    dsimp only
    split
    · rename_i hother
      rw [hother]
      exact List.filter_sublist
    · exact List.Sublist.refl _

/-- In every reachable client the deferred callbacks fit. -/
theorem fitting_of_reachable {client : Client} (hreach : Reachable act Client.Started client) :
    Fitting client.core := by
  refine hreach.invariant (fun client => Fitting client.core) ?_ ?_
  · rintro _ ⟨configs, config, owned, rfl⟩
    exact ⟨fun _ => Nat.zero_le 1, fun hdeferred => nomatch hdeferred⟩
  · intro client action hcore
    exact fitting_completing.program action.call (client.facing action.writes) hcore

/-! ## Registry and deferred lists mirror each other -/

/-- At most one request of each response name is pending, and what is deferred
under a name is the callback of that request, or of one that expires. -/
structure Mirrored (client : Client) : Prop where
  unique : ∀ {name first second early late},
    client.pendingRequests.pending.get? (name, first) = some early →
    client.pendingRequests.pending.get? (name, second) = some late → first = second
  deferred : ∀ {name id pending},
    client.pendingRequests.pending.get? (name, id) = some pending →
    client.deferreds name = [⟨pending.serial, pending.callback⟩]
  owned : ∀ {name}, client.deferreds name ≠ [] →
    ∃ request : PendingRequest Callback,
      client.deferreds name = [⟨request.serial, request.callback⟩] ∧
      ((∃ id, client.pendingRequests.pending.get? (name, id) = some request) ∨
        request ∈ client.expiring ∧ request.responseName = name)

theorem Mirrored.of_fitting {client : Client} (hcore : Correlated false client.core)
    (hsingle : ∀ name, (client.core.deferreds name).length ≤ 1) : Mirrored client where
  unique hearly hlate := hcore.id_unique hearly hlate
  deferred hpending := hcore.deferred hpending
  owned {name} hwaiting := by
    obtain ⟨deferred, hdeferred⟩ : ∃ deferred, client.deferreds name = [deferred] := by
      cases hlist : client.deferreds name with
      | nil => exact absurd hlist hwaiting
      | cons deferred rest =>
        have hlength := hsingle name
        rw [show client.core.deferreds name = deferred :: rest from hlist] at hlength
        cases rest with
        | nil => exact ⟨deferred, rfl⟩
        | cons other rest => simp at hlength
    have hmem : deferred ∈ client.core.deferreds name := by
      rw [show client.core.deferreds name = [deferred] from hdeferred]
      exact List.mem_cons_self ..
    rw [hdeferred]
    rcases hcore.owned hmem with ⟨id, pending, hpending, rfl⟩ | ⟨expired, hexpired, hname, rfl⟩
    · exact ⟨pending, rfl, .inl ⟨id, hpending⟩⟩
    · exact ⟨expired, rfl, .inr ⟨hexpired, hname⟩⟩

/-- In every reachable client, and in those that start the callback of an
answered or an expired request, registry and deferred lists mirror each other.
No request is ever registered under a key that is pending, whatever ID the
client counted up to. -/
theorem one_request_outstanding {client : Client}
    (hreach : Reachable act Client.Started client) :
    Mirrored client ∧
      (∀ name id pending isSuccess,
        client.pendingRequests.pending.get? (name, id) = some pending →
        Mirrored (client.completed name id pending isSuccess)) ∧
      (∀ expired ∈ client.expiring, Mirrored (client.told expired)) ∧
      ∀ (other : Client) (name : MessageName) (onCompletion : Callback),
        other.isWaiting name = false →
        ∃ registry,
          other.pendingRequests.register (other.nextPending name onCompletion) = .ok registry := by
  have hcore := correlated_of_reachable hreach
  have hfitting := fitting_of_reachable hreach
  refine ⟨.of_fitting hcore hfitting.single, ?_, ?_, ?_⟩
  · intro name id pending isSuccess hpending
    have hcompleted : Fitting (client.completed name id pending isSuccess).core :=
      fitting_completing.completed client name id pending isSuccess hfitting
    exact .of_fitting (hcore.completed hpending isSuccess) hcompleted.single
  · intro expired hexpired
    have htold : Fitting (client.told expired).core :=
      fitting_completing.told client expired hfitting
    exact .of_fitting (hcore.told hexpired) htold.single
  · intro other name onCompletion hfree
    exact ⟨other.nextRegistry name onCompletion, register_nextPending hfree onCompletion⟩

/-- A session whose first request expired and was not told so yet. -/
theorem one_request_outstanding_openSession :
    let client := run act (Client.initial (fun _ => timedConfig) 0 false)
      (openSession.take 2 ++ [⟨.expire (.getReaderCapabilitiesResponse, 1), []⟩])
    Mirrored client ∧ (∀ expired ∈ client.expiring, Mirrored (client.told expired)) ∧
      client.expiring.map (·.responseName) = [.getReaderCapabilitiesResponse] ∧
      client.isWaiting .getReaderCapabilitiesResponse = true := by
  intro client
  have hreach : Reachable act Client.Started client := ⟨_, _, ⟨_, _, _, rfl⟩, rfl⟩
  obtain ⟨hmirrored, -, htold, -⟩ := one_request_outstanding hreach
  exact ⟨hmirrored, htold, by decide +kernel, by decide +kernel⟩

end Sllurp.Session
