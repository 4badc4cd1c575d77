/-
# A disconnect comes to its end

Disconnecting deletes the AccessSpecs, then the ROSpecs, and closes the transport at
the end of the chain, however it ends. Whatever else happens meanwhile, a request of
that chain stays pending, or expired without being told, until the transport is
closed: its timeout closes the transport in any state.
-/

import Sllurp.Session.FrameBuffer
import Sllurp.Session.SetupRequests

namespace Sllurp.Session

open Sllurp.Foundations Sllurp.Protocol Sllurp.Config Sllurp.Runtime
open Sllurp.Foundations.Program

/-! ## Frames of an open session -/

/-- A frame that allows everything but opening a session, whatever the requests are. -/
structure Lasting (frame : Frame Client) : Prop extends Winding False frame where
  anyRequest : ∀ (request : Request) (name : MessageName) (onCompletion : Callback)
    (newState : Option ReaderState),
    Within frame (Session.sendRequest request name onCompletion newState)
  anyWrite : ∀ (messageId : ℕ) (request : Request),
    Within frame (Session.write none messageId request)
  anyState : ∀ (client : Client) (newState : ReaderState),
    frame.Rel client (client.setState newState)
  notDisconnecting : ∀ client : Client, frame.Rel client client.notDisconnecting

namespace Lasting

variable {frame : Frame Client}

theorem enter (hframe : Lasting frame) (newState : ReaderState) :
    Within frame (Session.setState newState) :=
  .modify fun client => hframe.anyState client newState

theorem startInventory (hframe : Lasting frame) (forceRegenRospec : Bool)
    (onCompletion : Completion) {completed : ClientM Unit} (hcompleted : Within frame completed) :
    Within frame (Session.startInventory forceRegenRospec onCompletion completed) := by
  unfold Session.startInventory
  refine .bind .get fun client => .ite (fun _ => hcompleted) fun _ => ?_
  refine .bind (hframe.getROSpec forceRegenRospec) fun rospec => ?_
  exact .bind (hframe.modify fun _ => rfl) fun _ => hframe.anyRequest _ _ _ _

theorem stopPolitely (hframe : Lasting frame) (onCompletion : Completion) (disconnect : Bool) :
    Within frame (Session.stopPolitely onCompletion disconnect) :=
  .bind (.modify fun client => hframe.stopping client disconnect) fun _ =>
    hframe.anyRequest _ _ _ _

theorem resumeInventory (hframe : Lasting frame) (forceRegenRospec : Bool) :
    Within frame (Session.resumeInventory forceRegenRospec) := by
  unfold Session.resumeInventory
  refine .bind .get fun client =>
    .ite (fun _ => hframe.startInventory _ _ (.pure ())) fun _ => ?_
  refine .ite (fun _ => .pure ()) fun _ => ?_
  cases client.rospec with
  | none => exact .bind (hframe.enter _) fun _ => hframe.startInventory _ _ (.pure ())
  | some rospec =>
    exact .ite (fun _ => hframe.stopAllROSpecs _) fun _ => hframe.anyRequest _ _ _ _

theorem resume (hframe : Lasting frame) (forceRegenRospec : Bool) :
    Within frame (Session.resume forceRegenRospec) :=
  .bind (hframe.modify fun _ => rfl) fun _ => hframe.resumeInventory forceRegenRospec

theorem timedResume (hframe : Lasting frame) (generation : ℕ) (forceRegenRospec : Bool) :
    Within frame (Session.timedResume generation forceRegenRospec) := by
  unfold Session.timedResume
  refine .bind .get fun client => .ite (fun _ => .pure ()) fun _ => ?_
  refine .bind (hframe.modify fun _ => rfl) fun _ => .ite (fun _ => .pure ()) fun _ => ?_
  exact hframe.resumeInventory forceRegenRospec

theorem sendMessages (hframe : Lasting frame) (messages : List (Request × Option ℕ)) :
    Within frame (Session.sendMessages messages) := by
  unfold Session.sendMessages
  refine .bind .get fun client => ?_
  cases messages.findSome? fun message =>
      (message.1.name.response.filter client.isWaiting).map (message.1.name, ·) with
  | some waiting => exact .raise _
  | none =>
    refine .bind (.modify fun client => hframe.countMessage client _) fun _ => ?_
    cases messages with
    | nil => exact .raise _
    | cons message rest => exact .ite (fun _ => hframe.anyWrite _ _) fun _ => .raise _

/-! ### Configuration transitions -/

theorem finishRestore (hframe : Lasting frame) (apply : ApplyFrame) (error : String) :
    Within frame (apply.finishRestore error) := by
  unfold ApplyFrame.finishRestore
  refine .ite (fun _ => ?_) fun _ => .ite (fun _ => ?_) fun _ => ?_
  · exact .bind (hframe.enter _) fun _ =>
      hframe.startInventory _ _ (hframe.restored _ _ _)
  · exact .bind (hframe.enter _) fun _ => hframe.fail _ _ _
  · exact .bind (hframe.enter _) fun _ => hframe.fail _ _ _

theorem afterRospecCleanup (hframe : Lasting frame) (apply : ApplyFrame) (error : String)
    (isSuccess : Bool) : Within frame (apply.afterRospecCleanup error isSuccess) :=
  .ite (fun _ => hframe.finishRestore _ _) fun _ =>
    .bind (hframe.enter _) fun _ => hframe.fail _ _ _

theorem cleanupReplacementRospec (hframe : Lasting frame) (apply : ApplyFrame) (error : String) :
    Within frame (apply.cleanupReplacementRospec error) := by
  unfold ApplyFrame.cleanupReplacementRospec
  refine .bind .get fun client => .ite (fun _ => hframe.finishRestore _ _) fun _ => ?_
  exact .bind (hframe.enter _) fun _ => hframe.stopAllROSpecs _

theorem oldReaderConfigRestored (hframe : Lasting frame) (apply : ApplyFrame) (error : String)
    (isSuccess : Bool) : Within frame (apply.oldReaderConfigRestored error isSuccess) :=
  .ite (fun _ => hframe.cleanupReplacementRospec _ _) fun _ =>
    .bind (hframe.enter _) fun _ => hframe.fail _ _ _

theorem restoreOld (hframe : Lasting frame) (apply : ApplyFrame) (error : String) :
    Within frame (apply.restoreOld error) := by
  unfold ApplyFrame.restoreOld
  refine .bind (hframe.installRuntimeConfig apply.oldConfig).attempt fun outcome => ?_
  cases outcome with
  | error rollbackError => exact .bind (hframe.enter _) fun _ => hframe.fail _ _ _
  | ok _ =>
    refine .ite (fun _ => ?_) fun _ => hframe.cleanupReplacementRospec _ _
    refine .bind (hframe.enter _) fun _ => .bind (hframe.modify fun _ => rfl) fun _ => ?_
    exact hframe.sendSetReaderConfig rfl

theorem restarted (hframe : Lasting frame) (apply : ApplyFrame) (isSuccess : Bool) :
    Within frame (apply.restarted isSuccess) :=
  .ite (fun _ => hframe.succeed _ _) fun _ => hframe.restoreOld _ _

theorem finishNewState (hframe : Lasting frame) (apply : ApplyFrame) :
    Within frame apply.finishNewState := by
  unfold ApplyFrame.finishNewState
  refine .ite (fun _ => ?_) fun _ => .ite (fun _ => ?_) fun _ => ?_
  · exact .bind (hframe.enter _) fun _ =>
      hframe.startInventory _ _ (hframe.restarted _ _)
  · exact .bind (hframe.enter _) fun _ => hframe.succeed _ _
  · exact .bind (hframe.enter _) fun _ => hframe.succeed _ _

theorem readerConfigApplied (hframe : Lasting frame) (apply : ApplyFrame) (isSuccess : Bool) :
    Within frame (apply.readerConfigApplied isSuccess) :=
  .ite (fun _ => hframe.finishNewState _) fun _ => hframe.restoreOld _ _

theorem afterStopped (hframe : Lasting frame) (apply : ApplyFrame) (isSuccess : Bool) :
    Within frame (apply.afterStopped isSuccess) := by
  unfold ApplyFrame.afterStopped
  refine .ite (fun _ => .bind (hframe.enter _) fun _ => hframe.fail _ _ _) fun _ =>
    .bind (hframe.enter _) fun _ => ?_
  refine .bind (hframe.installRuntimeConfig apply.newConfig).attempt fun outcome => ?_
  cases outcome with
  | error raised => exact hframe.restoreOld _ _
  | ok _ =>
    refine .ite (fun _ => ?_) fun _ => hframe.finishNewState _
    exact .bind (hframe.modify fun _ => rfl) fun _ => hframe.sendSetReaderConfig rfl

/-! ### Callbacks, messages and calls -/

theorem runCompletion (hframe : Lasting frame) (onCompletion : Completion) (isSuccess : Bool) :
    Within frame (Session.runCompletion onCompletion isSuccess) := by
  have hstart : Within frame (Session.setState .connected >>= fun _ =>
      Session.startInventory true .absent (pure ())) :=
    .bind (hframe.enter _) fun _ => hframe.startInventory _ _ (.pure ())
  cases onCompletion with
  | resetStopped =>
    refine .ite (fun _ => .bind (hframe.enter _) fun _ => .bind .get fun _ => ?_)
      fun _ => .pure ()
    exact .ite (fun _ => hframe.startInventory _ _ (.pure ())) fun _ => .pure ()
  | txPowerStopped => exact .ite (fun _ => hstart) fun _ => .pure ()
  | deleted => exact .ite (fun _ => hstart) fun _ => .pure ()
  | afterStopped apply => exact hframe.afterStopped apply isSuccess
  | restarted apply => exact hframe.restarted apply isSuccess
  | afterRospecCleanup apply error => exact hframe.afterRospecCleanup apply error isSuccess
  | absent => exact hframe.toWinding.runCompletion .absent _ fun hstart => by cases hstart
  | application => exact hframe.toWinding.runCompletion .application _ fun hstart => by cases hstart
  | disconnectStopped =>
    exact hframe.toWinding.runCompletion .disconnectStopped _ fun hstart => by cases hstart
  | restored apply error =>
    exact hframe.toWinding.runCompletion (.restored apply error) _ fun hstart => by cases hstart

theorem runCallback (hframe : Lasting frame) (callback : Callback) (isSuccess : Bool) :
    Within frame (Session.runCallback callback isSuccess) := by
  cases callback with
  | enabledRospecCb onCompletion =>
    have hcompletion := hframe.runCompletion onCompletion isSuccess
    exact .ite (fun _ => .bind (hframe.enter _) fun _ => hcompletion) fun _ => hcompletion
  | sendAddedRospecCb rospec onCompletion =>
    refine .ite (fun _ => ?_) fun _ => hframe.runCompletion onCompletion false
    exact .bind (hframe.modify fun _ => rfl) fun _ => hframe.anyRequest _ _ _ _
  | sendDeleteAccessspecCb onCompletion =>
    exact .ite (fun _ => hframe.stopAllROSpecs _) fun _ => hframe.runCompletion _ _
  | stopAllRospecsCb onCompletion =>
    exact .bind (hframe.modify fun _ => rfl) fun _ => hframe.runCompletion _ _
  | readerConfigApplied apply => exact hframe.readerConfigApplied apply isSuccess
  | oldReaderConfigRestored apply error =>
    exact hframe.oldReaderConfigRestored apply error isSuccess
  | _ =>
    exact hframe.toWinding.runCallback _ isSuccess (fun hstart => by cases hstart)
      fun _ state _ client => hframe.anyState client state

theorem afterwards (hframe : Lasting frame) (client : Client) (message : LLRPMessage) :
    Within frame (Session.afterwards client message) := by
  cases hends : client.endsSetup message with
  | false =>
    exact hframe.toWinding.afterwards client message fun hstart => by
      rw [hends] at hstart
      cases hstart
  | true =>
    have hsetup : Within frame Session.finishSetup := by
      unfold Session.finishSetup
      refine .bind .get fun client => .ite (fun _ => .pure ()) fun _ => ?_
      refine .ite (fun _ => hframe.stopPolitely _ _) fun _ => ?_
      exact .ite (fun _ => hframe.startInventory _ _ (.pure ())) fun _ => .pure ()
    simp only [Client.endsSetup, Bool.and_eq_true, decide_eq_true_eq, Bool.not_eq_true'] at hends
    unfold Session.afterwards
    rw [hends.1.1]
    exact .ite (fun _ => .pure ()) fun _ => .ite (fun _ => hsetup) fun _ => .raise _

theorem prepared (hframe : Lasting frame) (client : Client) (message : LLRPMessage) :
    frame.Rel client (client.prepared message) := by
  have hneutral : ∀ later : Client, later.traffic = client.traffic →
      later.link = client.link → frame.Rel client later :=
    fun later => hframe.neutral
  unfold Client.prepared
  cases client.state with
  | disconnected => exact hframe.notDisconnecting client
  | connecting => exact hframe.notDisconnecting client
  | connected => exact hframe.notDisconnecting client
  | sentGetCapabilities =>
    dsimp only
    split
    · exact frame.trans (hneutral (client.withCapabilities message.capabilities) rfl rfl)
        (hframe.parseCapabilities _ _)
    · exact frame.refl client
  | sentGetConfig =>
    dsimp only
    split
    · exact hneutral _ rfl rfl
    · exact frame.refl client
  | sentSetConfig =>
    dsimp only
    split
    · split
      · exact frame.trans (hneutral client.allowPostActions rfl rfl) (hframe.anyState _ _)
      · exact frame.refl client
    · exact hneutral _ rfl rfl
  | _ => exact frame.refl client

/-- Every call that handles neither a message nor a timeout, but connecting. -/
theorem call (hframe : Lasting frame) {call : Call} (hcall : call.handles = false)
    (hconnect : call ≠ .connect) : Within frame call.program := by
  cases call with
  | startInventory force => exact hframe.startInventory _ _ (.pure ())
  | resume force => exact hframe.resume force
  | timedResume generation force => exact hframe.timedResume _ _
  | sendRequest request name hname newState => exact hframe.anyRequest _ _ _ _
  | sendMessages messages => exact hframe.sendMessages messages
  | connect => exact absurd rfl hconnect
  | _ =>
    exact hframe.toWinding.call hcall (fun hstart => by cases hstart) (by rintro _ _ _ _ ⟨⟩)

end Lasting

/-! ## A disconnect in progress -/

/-- Whether the callback goes on to close the transport for a disconnect. -/
def Callback.disconnects : Callback → Bool
  | sendDeleteAccessspecCb .disconnectStopped | stopAllRospecsCb .disconnectStopped => true
  | _ => false

/-- A request whose callback closes the transport is pending, or it has expired and is
about to be told. -/
def Core.Carries (core : Core) : Prop :=
  (∃ name id pending, core.pendingAt name id = some pending ∧
    pending.callback.disconnects = true) ∨
  ∃ expired ∈ core.expiring, expired.callback.disconnects = true

/-- A disconnect was requested, and the transport is closed or about to be. -/
structure Client.Stopping (client : Client) : Prop where
  requested : client.reader.disconnectRequested = true
  ends : client.reader.socket = true → client.core.Carries

/-- The transport is closed and the application knows it. -/
structure Client.Ended (client : Client) : Prop where
  closed : client.reader.socket = false
  notified : client.reader.disconnectedNotified = true

theorem Client.Stopping.of_closed {client : Client}
    (hrequested : client.reader.disconnectRequested = true)
    (hclosed : client.reader.socket = false) : client.Stopping where
  requested := hrequested
  ends hopen := absurd (hclosed.symm.trans hopen) Bool.false_ne_true

/-- Steps off the link keep a disconnect in progress as long as they keep a request of
its chain. -/
theorem Client.Stopping.of_link {before after : Client} (hstopping : before.Stopping)
    (hlink : after.link = before.link) (hcarries : before.core.Carries → after.core.Carries) :
    after.Stopping where
  requested := by
    have hrequested : after.reader.disconnectRequested = before.reader.disconnectRequested :=
      congrArg (·.1.2.1) hlink
    exact hrequested.trans hstopping.requested
  ends hopen := by
    have hsocket : after.reader.socket = before.reader.socket := congrArg (·.1.1) hlink
    exact hcarries (hstopping.ends (hsocket.symm.trans hopen))

/-- What is pending or expiring stays so as long as the registry and the list grow. -/
theorem Core.Carries.mono {core later : Core} (hcarries : core.Carries)
    (hpending : ∀ {name id pending}, core.pendingAt name id = some pending →
      later.pendingAt name id = some pending)
    (hexpiring : later.expiring = core.expiring) : later.Carries := by
  rcases hcarries with ⟨name, id, pending, hget, hdisconnects⟩ | ⟨expired, hmem, hdisconnects⟩
  · exact .inl ⟨name, id, pending, hpending hget, hdisconnects⟩
  · exact .inr ⟨expired, hexpiring ▸ hmem, hdisconnects⟩

/-! ### Sending -/

theorem linked_write (serial : Option ℕ) (messageId : ℕ) (request : Request) :
    Within (.fixing Client.link) (Session.write serial messageId request) := by
  intro client
  rw [run_write]
  cases client.nextWrite <;> rfl

theorem linked_sendRequest (request : Request) (name : MessageName) (onCompletion : Callback)
    (newState : Option ReaderState) :
    Within (.fixing Client.link) (Session.sendRequest request name onCompletion newState) := by
  unfold Session.sendRequest
  refine .bind .get fun client => .ite (fun _ => .raise _) fun _ =>
    .bind (.modify fun client => rfl) fun _ => ?_
  cases client.pendingRequests.register (client.nextPending name onCompletion) with
  | error raised => exact .raise _
  | ok registry =>
    refine .bind (.modify fun client => ?_) fun _ => .handle (linked_write _ _ _) fun _ =>
      .bind (.modify fun client => withdraw_link client _ _ _) fun _ => .raise _
    cases newState with
    | none => rfl
    | some state => exact setState_link (client.setRegistry registry) state

/-- A request takes a key of its own. -/
theorem stillPending_afterSend {client : Client} {name : MessageName}
    (hfree : client.isWaiting name = false) (request : Request) (onCompletion : Callback)
    (newState : Option ReaderState) {other : MessageName} {id : ℕ}
    {pending : PendingRequest Callback} (hpending : client.core.pendingAt other id = some pending) :
    (client.afterSend request name onCompletion newState).core.pendingAt other id =
      some pending := by
  have hnew := contains_of_not_isWaiting hfree (nextMessageId client.lastMsgId)
  rw [core_afterSend]
  change (client.pendingRequests.pending.set _ _).get? (other, id) = some pending
  rw [Dict.get?_set, if_neg]
  · exact hpending
  · intro hkey
    rw [← hkey, Dict.contains, show client.pendingRequests.pending.get? _ = _ from hpending] at hnew
    cases hnew

theorem stopping_sendRequest (request : Request) (name : MessageName) (onCompletion : Callback)
    (newState : Option ReaderState) :
    Within (.invariant Client.Stopping)
      (Session.sendRequest request name onCompletion newState) := by
  intro client hstopping
  have hlink := linked_sendRequest request name onCompletion newState client
  refine hstopping.of_link hlink fun hcarries => ?_
  cases hwaiting : client.isWaiting name with
  | true =>
    rw [run_sendRequest_of_isWaiting hwaiting]
    exact hcarries
  | false =>
    rw [run_sendRequest hwaiting]
    cases client.nextWrite with
    | none =>
      refine hcarries.mono (stillPending_afterSend hwaiting request onCompletion newState) ?_
      dsimp only
      rw [core_afterSend]
    | some raised =>
      dsimp only
      rw [core_afterFailedSend hwaiting]
      exact hcarries.mono id rfl

theorem stopping_write (messageId : ℕ) (request : Request) :
    Within (.invariant Client.Stopping) (Session.write none messageId request) := by
  intro client hstopping
  refine hstopping.of_link (linked_write none messageId request client) fun hcarries => ?_
  rw [run_write]
  cases client.nextWrite <;> exact hcarries.mono id rfl

/-! ### Closing -/

theorem requested_hardDisconnect (client : Client) :
    client.hardDisconnect.reader.disconnectRequested = client.reader.disconnectRequested := rfl

theorem socket_hardDisconnect (client : Client) : client.hardDisconnect.reader.socket = false :=
  rfl

theorem ended_onDisconnected {client : Client} (hclosed : client.reader.socket = false) :
    client.onDisconnected.Ended := ⟨hclosed, rfl⟩

theorem requested_setState (client : Client) (newState : ReaderState) :
    (client.setState newState).reader.disconnectRequested = client.reader.disconnectRequested :=
  congrArg (·.1.2.1) (setState_link client newState)

/-- A connection that is lost during a disconnect is not opened again. -/
theorem stopping_onLostConnection {client : Client}
    (hrequested : client.reader.disconnectRequested = true) (retried : Bool) :
    (client.onLostConnection retried).Stopping := by
  unfold Client.onLostConnection
  dsimp only
  rw [if_pos hrequested]
  have hkept := (requested_hardDisconnect _).trans (requested_setState client .disconnected)
  exact .of_closed (hkept.trans hrequested) (socket_hardDisconnect _)

/-- A disconnect in progress stays so whatever the client does, short of opening a
session and of completing the requests of its chain. -/
theorem stopping_lasting : Lasting (.invariant Client.Stopping) where
  neutral htraffic hlink hstopping :=
    hstopping.of_link hlink fun hcarries => core_of_traffic htraffic ▸ hcarries
  setState client newState _ hstopping :=
    hstopping.of_link (setState_link client newState) (·.mono id rfl)
  anyState client newState hstopping :=
    hstopping.of_link (setState_link client newState) (·.mono id rfl)
  sendRequest request name onCompletion newState _ _ _ _ :=
    stopping_sendRequest request name onCompletion newState
  anyRequest := stopping_sendRequest
  countMessage _ _ hstopping := hstopping.of_link rfl (·.mono id rfl)
  write messageId request _ := stopping_write messageId request
  anyWrite := stopping_write
  stopping _ _ hstopping := ⟨hstopping.requested, hstopping.ends⟩
  ending _ hstopping := ⟨rfl, hstopping.ends⟩
  notDisconnecting _ hstopping := ⟨hstopping.requested, hstopping.ends⟩
  hardDisconnect client hstopping :=
    .of_closed ((requested_hardDisconnect client).trans hstopping.requested)
      (socket_hardDisconnect client)
  onLostConnection _ retried hstopping :=
    stopping_onLostConnection hstopping.requested retried
  connect hstart := hstart.elim

/-! ### The callbacks of the chain -/

/-- A disconnect was requested. -/
def Client.Disconnecting (client : Client) : Prop := client.reader.disconnectRequested = true

/-- The last step of the chain, or a step that hears of a failure, closes the
transport. -/
theorem run_runCallback_of_disconnects {callback : Callback} {isSuccess : Bool}
    (hdisconnects : callback.disconnects = true)
    (hcloses : isSuccess = false ∨ callback = .stopAllRospecsCb .disconnectStopped)
    (client : Client) :
    ∃ stopped : Client,
      stopped.reader.disconnectRequested = client.reader.disconnectRequested ∧
        runCallback callback isSuccess client =
          (.ok (), stopped.hardDisconnect.onDisconnected) := by
  have hlast : ∀ before : Client, ∃ stopped : Client,
      stopped.reader.disconnectRequested = before.reader.disconnectRequested ∧
        runCompletion .disconnectStopped isSuccess before =
          (.ok (), stopped.hardDisconnect.onDisconnected) := by
    intro before
    cases isSuccess with
    | true => exact ⟨before.setState .disconnected, requested_setState before _, rfl⟩
    | false => exact ⟨before, rfl, rfl⟩
  unfold Callback.disconnects at hdisconnects
  split at hdisconnects
  · rcases hcloses with rfl | hcallback
    · exact hlast client
    · cases hcallback
  · exact hlast { client with
      inventoryRospecAdded := client.inventoryRospecAdded && !isSuccess
      rospec := none
      generatedConfigSnapshot := none }
  · cases hdisconnects

theorem stopping_of_ended {client : Client} (hrequested : client.Disconnecting)
    (hended : client.Ended) : client.Stopping :=
  .of_closed hrequested hended.closed

/-- A request of the chain that goes out carries the disconnect. -/
theorem stopping_of_sends {client : Client} (hrequested : client.Disconnecting)
    (request : Request) (name : MessageName) {onCompletion : Callback}
    (hdisconnects : onCompletion.disconnects = true) (newState : Option ReaderState) :
    Meets Client.Stopping Client.Disconnecting
      (Session.sendRequest request name onCompletion newState client) := by
  have hlink := linked_sendRequest request name onCompletion newState client
  have hkept : Client.Disconnecting
      (Session.sendRequest request name onCompletion newState client).2 := by
    have hsame : (Session.sendRequest request name onCompletion newState
        client).2.reader.disconnectRequested = client.reader.disconnectRequested :=
      congrArg (·.1.2.1) hlink
    exact hsame.trans hrequested
  cases hwaiting : client.isWaiting name with
  | true =>
    rw [run_sendRequest_of_isWaiting hwaiting]
    exact hrequested
  | false =>
    rw [run_sendRequest hwaiting] at hkept ⊢
    cases hwrite : client.nextWrite with
    | some raised =>
      rw [hwrite] at hkept
      exact hkept
    | none =>
      rw [hwrite] at hkept
      exact ⟨hkept, fun _ => .inl ⟨name, _, _,
        pendingAt_afterSend client request name onCompletion newState, hdisconnects⟩⟩

/-- A callback of the chain sends the next request of it, closes the transport, or
raises. -/
theorem ends_runCallback {callback : Callback} (hdisconnects : callback.disconnects = true)
    (isSuccess : Bool) :
    Ends Client.Disconnecting (runCallback callback isSuccess) Client.Stopping
      Client.Disconnecting := by
  intro client hrequested
  by_cases hcloses : isSuccess = false ∨ callback = .stopAllRospecsCb .disconnectStopped
  · obtain ⟨stopped, hsame, hrun⟩ := run_runCallback_of_disconnects hdisconnects hcloses client
    rw [hrun]
    exact stopping_of_ended (hsame.trans hrequested)
      (ended_onDisconnected (socket_hardDisconnect stopped))
  · rw [not_or, Bool.not_eq_false] at hcloses
    obtain ⟨rfl, hcallback⟩ := hcloses
    unfold Callback.disconnects at hdisconnects
    split at hdisconnects
    · exact stopping_of_sends hrequested ⟨.deleteRospec, .rospecId 0⟩ _ rfl _
    · exact absurd rfl hcallback
    · cases hdisconnects

/-! ### Messages -/

/-- Taking one request out of the registry keeps the others. -/
theorem carries_completed {client : Client} {name : MessageName} {id : ℕ}
    {pending : PendingRequest Callback} (hpending : client.core.pendingAt name id = some pending)
    (hother : pending.callback.disconnects = false) (isSuccess : Bool)
    (hcarries : client.core.Carries) :
    (client.completed name id pending isSuccess).core.Carries := by
  have hcore := core_completed client name id pending isSuccess
  have hexpiring := congrArg Core.expiring hcore
  have hpopped := congrArg Core.pendingRequests hcore
  rcases hcarries with ⟨other, second, late, hget, hdisconnects⟩ | ⟨expired, hmem, hdisconnects⟩
  · refine .inl ⟨other, second, late, (Correlated.pendingAt_pop hpopped).mpr ⟨?_, hget⟩,
      hdisconnects⟩
    rintro heq
    cases heq
    cases hget.symm.trans hpending
    cases hdisconnects.symm.trans hother
  · exact .inr ⟨expired, hexpiring ▸ hmem, hdisconnects⟩

theorem ends_complete (message : LLRPMessage) (isSuccess : Bool) :
    Ends Client.Stopping (complete message isSuccess) Client.Stopping Client.Disconnecting := by
  intro client hstopping
  cases hpending : client.core.pendingAt message.name message.id with
  | some pending =>
    unfold complete
    rw [run_processDeferreds_of_pending hpending]
    cases hdisconnects : pending.callback.disconnects with
    | true => exact ends_runCallback hdisconnects isSuccess _ hstopping.requested
    | false =>
      have hcompleted : (client.completed message.name message.id pending isSuccess).Stopping :=
        hstopping.of_link rfl (carries_completed hpending hdisconnects isSuccess)
      have hrun := stopping_lasting.runCallback pending.callback isSuccess
      exact Ends.of_within hrun (fun _ hlater => hlater.requested) _ hcompleted
  | none =>
    rw [run_complete_of_not_pending hpending]
    have hinvokes : Within (.invariant Client.Stopping)
        (invokeAll (client.core.leftover message) isSuccess) := by
      generalize client.core.leftover message = waiting
      induction waiting with
      | nil => exact .pure ()
      | cons deferred waiting ih =>
        have hinvoke : Within (.invariant Client.Stopping) (invoke deferred isSuccess) :=
          .bind (.modify fun client hstopping => hstopping.of_link rfl (·.mono id rfl))
            fun _ => stopping_lasting.runCallback _ _
        exact .bind hinvoke fun _ => ih
    refine Ends.of_within hinvokes (fun _ hlater => hlater.requested) _ ?_
    split
    · exact hstopping
    · exact hstopping.of_link rfl (·.mono id rfl)

/-- Handling a message keeps a disconnect in progress, unless it raises. -/
theorem ends_handleMessage (message : LLRPMessage) :
    Ends Client.Stopping (handleMessage message) Client.Stopping Client.Disconnecting := by
  intro client hstopping
  by_cases hkeepalive : message.name = .keepalive
  · have hack : Within (.invariant Client.Stopping) (sendKeepaliveAck message.id) :=
      .ite (fun _ => stopping_write _ _) fun _ => .raise _
    unfold handleMessage
    rw [Program.run_get_bind, if_pos hkeepalive]
    exact Ends.of_within hack (fun _ hlater => hlater.requested) _ hstopping
  cases hcompletes : client.completes message with
  | true =>
    rw [run_handleMessage_of_completes hcompletes]
    have hafterwards := stopping_lasting.afterwards client message
    exact (ends_complete message message.isSuccess).bind
      (fun _ => .of_within hafterwards fun _ hlater => hlater.requested) _
      (stopping_lasting.prepared client message hstopping)
  | false =>
    have hlater : ((handleMessage message).final client).Stopping := by
      rw [final_handleMessage_of_not_completes hkeepalive hcompletes]
      split
      · have hstored : (client.withCapabilities message.capabilities).Stopping :=
          hstopping.of_link rfl id
        exact stopping_lasting.parseCapabilities _ _ hstored
      · exact hstopping
    exact .of_state hlater hlater.requested

/-- An exception in the receive loop closes the transport. -/
theorem stopping_afterException {client : Client} (hrequested : client.Disconnecting)
    (raised : Exn) (retried : Bool) : (client.afterException raised retried).Stopping := by
  have hended : ∀ later : Client, later.Stopping → later.endThread.Stopping :=
    fun later hlater => hlater.of_link rfl id
  have hclosed : client.hardDisconnect.onDisconnected.Stopping :=
    stopping_of_ended ((requested_hardDisconnect client).trans hrequested)
      (ended_onDisconnected (socket_hardDisconnect client))
  have hlost := stopping_onLostConnection hrequested retried
  cases raised with
  | osError text =>
    unfold Client.afterException
    dsimp only
    split
    · exact hlost
    · exact hended _ hlost
  | _ => exact hended _ hclosed

theorem stopping_receive (message : LLRPMessage) (retried : Bool) :
    Within (.invariant Client.Stopping) (receive message retried) :=
  (ends_handleMessage message).handle fun raised _ hrequested =>
    stopping_afterException hrequested raised retried

/-! ### Timeouts -/

/-- Telling one expired request keeps the others. -/
theorem carries_told {strict : Bool} {client : Client} (hcore : Correlated strict client.core)
    {expired : PendingRequest Callback} (hexpired : expired ∈ client.core.expiring)
    (hother : expired.callback.disconnects = false) (hcarries : client.core.Carries) :
    (client.told expired).core.Carries := by
  rw [core_told]
  rcases hcarries with hpending | ⟨late, hmem, hdisconnects⟩
  · exact .inl hpending
  · refine .inr ⟨late, List.mem_filter.mpr ⟨hmem, decide_eq_true fun hserial => ?_⟩, hdisconnects⟩
    cases hcore.expiring_unique hmem hexpired hserial
    cases hdisconnects.symm.trans hother

theorem stopping_onRequestTimeout {strict : Bool} {client : Client}
    (hcore : Correlated strict client.core) (hstopping : client.Stopping)
    {expired : PendingRequest Callback} (hexpired : expired ∈ client.core.expiring) :
    ((onRequestTimeout expired).final client).Stopping := by
  rw [Program.final, run_onRequestTimeout]
  cases hdisconnects : expired.callback.disconnects with
  | true =>
    obtain ⟨stopped, hsame, hrun⟩ :=
      @run_runCallback_of_disconnects _ false hdisconnects (.inl rfl) (client.told expired)
    rw [hrun]
    exact stopping_of_ended (hsame.trans hstopping.requested)
      (ended_onDisconnected (socket_hardDisconnect stopped))
  | false =>
    exact stopping_lasting.runCallback expired.callback false _
      (hstopping.of_link rfl (carries_told hcore hexpired hdisconnects))

/-- An expired request of the chain closes the transport when it is told. -/
theorem ended_onRequestTimeout {expired : PendingRequest Callback}
    (hdisconnects : expired.callback.disconnects = true) (client : Client) :
    ((onRequestTimeout expired).final client).Ended := by
  obtain ⟨stopped, -, hrun⟩ :=
    @run_runCallback_of_disconnects _ false hdisconnects (.inl rfl) (client.told expired)
  rw [Program.final, run_onRequestTimeout, hrun]
  exact ended_onDisconnected (socket_hardDisconnect stopped)

theorem stopping_expire (key : Key) : Within (.invariant Client.Stopping) (expire key) := by
  intro client hstopping
  obtain ⟨name, id⟩ := key
  cases hget : client.pendingRequests.pending.get? (name, id) with
  | none =>
    have hsame := final_expire_of_not_pending hget
    rw [Program.final] at hsame
    rw [hsame]
    exact hstopping
  | some pending =>
    have hcore := core_expire_of_pending hget
    rw [Program.final] at hcore
    have hexpiring := congrArg Core.expiring hcore
    have hpopped := congrArg Core.pendingRequests hcore
    have hlink : (expire (name, id) client).2.link = client.link := by
      rw [run_expire_of_pending hget]
      rfl
    refine hstopping.of_link hlink fun hcarries => ?_
    rcases hcarries with ⟨other, second, late, hlate, hdisconnects⟩ | ⟨late, hmem, hdisconnects⟩
    · by_cases hkey : (other, second) = (name, id)
      · cases hkey
        cases hlate.symm.trans hget
        refine .inr ⟨{ pending with timer := false }, ?_, hdisconnects⟩
        rw [hexpiring]
        exact List.mem_append_right _ (List.mem_singleton_self _)
      · exact .inl ⟨other, second, late, (Correlated.pendingAt_pop hpopped).mpr ⟨hkey, hlate⟩,
          hdisconnects⟩
    · refine .inr ⟨late, ?_, hdisconnects⟩
      rw [hexpiring]
      exact List.mem_append_left _ hmem

/-- A timeout under a key tells the request that was pending there. -/
theorem final_timeout_of_pending {client : Client} {name : MessageName} {id : ℕ}
    {pending : PendingRequest Callback}
    (hget : client.pendingRequests.pending.get? (name, id) = some pending) :
    (timeout (name, id)).final client =
      (onRequestTimeout { pending with timer := false }).final
        ((expire (name, id)).final client) := by
  have hexpire : (client.pendingRequests.expire (name, id)).1 =
      some { pending with timer := false } :=
    congrArg Prod.fst (pop_of_pending hget)
  unfold timeout
  rw [Program.final, Program.run_get_bind, hexpire]
  rfl

theorem stopping_timeout {strict : Bool} {client : Client}
    (hcore : Correlated strict client.core) (hstopping : client.Stopping) (key : Key) :
    ((timeout key).final client).Stopping := by
  obtain ⟨name, id⟩ := key
  cases hget : client.pendingRequests.pending.get? (name, id) with
  | none =>
    have hexpire : (client.pendingRequests.expire (name, id)).1 = none := by
      unfold PendingRequestRegistry.expire PendingRequestRegistry.cancel
      rw [hget]
    unfold timeout
    rw [Program.final, Program.run_get_bind, hexpire]
    exact hstopping
  | some pending =>
    rw [final_timeout_of_pending hget]
    refine stopping_onRequestTimeout (Correlated.expire (name, id) client hcore)
      (stopping_expire (name, id) client hstopping) ?_
    have hexpired := core_expire_of_pending hget
    rw [Program.final] at hexpired
    rw [hexpired]
    exact List.mem_append_right _ (List.mem_singleton_self _)

/-! ## Runs -/

/-- Whether the call leaves opening sessions and receiving messages to the receive
loop. -/
def Call.goesOn : Call → Bool
  | .connect | .handleMessage _ => false
  | _ => true

/-- What one step preserves. -/
theorem stopping_act {client : Client} {action : Action}
    (hcore : Correlated false client.core) (hstopping : client.Stopping)
    (hgoes : action.call.goesOn = true) : (act client action).Stopping := by
  have hfacing : (client.facing action.writes).Stopping := hstopping.of_link rfl (·.mono id rfl)
  have hcorrelated : Correlated false (client.facing action.writes).core := hcore
  obtain ⟨call, writes⟩ := action
  unfold act
  cases hhandles : call.handles with
  | false =>
    have hconnect : call ≠ .connect := by
      rintro rfl
      cases hgoes
    exact stopping_lasting.call hhandles hconnect _ hfacing
  | true =>
    cases call with
    | receive message retried => exact stopping_receive message retried _ hfacing
    | expire key =>
      have htimer : Within (.invariant Client.Stopping) (onTimer key (expire key)) :=
        .bind .get fun _ => .ite (fun _ => stopping_expire key) fun _ => .pure ()
      exact htimer _ hfacing
    | onRequestTimeout serial =>
      change Client.Stopping (Program.final (tellTimeout serial) _)
      unfold tellTimeout Program.final
      rw [Program.run_get_bind]
      cases hfind : (client.facing writes).expiring.find? fun pending =>
          pending.serial = serial with
      | none => exact hfacing
      | some expired =>
        exact stopping_onRequestTimeout hcorrelated hfacing (List.mem_of_find?_eq_some hfind)
    | timeout key =>
      change Client.Stopping (Program.final (onTimer key (timeout key)) _)
      unfold onTimer Program.final
      rw [Program.run_get_bind]
      split
      · exact stopping_timeout hcorrelated hfacing key
      · exact hfacing
    | handleMessage message => cases hgoes
    | _ => cases hhandles

/-- A disconnect that returns is in progress, or done. -/
theorem stopping_disconnect {client : Client} (hreturns : disconnect.raises client = false) :
    (disconnect.final client).Stopping := by
  have hends : Meets Client.Stopping (fun _ => True) (disconnect client) := by
    unfold disconnect
    rw [Program.run_modify_bind, Program.run_get_bind]
    split
    · have hrequested : Client.Disconnecting { client with
          reader := { client.reader with disconnectRequested := true }
          disconnecting := client.disconnecting || true } := rfl
      have hchain : (Callback.sendDeleteAccessspecCb .disconnectStopped).disconnects = true := rfl
      exact (stopping_of_sends hrequested ⟨.deleteAccessspec, .accessSpecId 0⟩
        .deleteAccessspecResponse hchain (some .sentDeleteAccessspec)).mono
          (fun _ => id) fun _ _ => trivial
    · exact stopping_of_ended (by rfl) (ended_onDisconnected (socket_hardDisconnect _))
  obtain ⟨_, hrun⟩ := run_of_not_raises hreturns
  rw [hrun] at hends
  exact hends

/-- A disconnect in progress stays so in every run. -/
theorem stopping_run {client : Client} (hreach : Reachable act Client.Started client)
    (hstopping : client.Stopping) {actions : List Action}
    (hgoes : ∀ action ∈ actions, action.call.goesOn = true) :
    (run act client actions).Stopping := by
  induction actions generalizing client with
  | nil => exact hstopping
  | cons action actions ih =>
    have hstep := stopping_act (correlated_of_reachable hreach) hstopping
      (hgoes action (List.mem_cons_self ..))
    exact ih (hreach.next action) hstep fun other hother =>
      hgoes other (List.mem_cons_of_mem _ hother)

/-- The timer of a pending request of the chain ends the disconnect. -/
theorem ended_timeout {client : Client} {name : MessageName} {id : ℕ}
    {pending : PendingRequest Callback} (hpending : client.core.pendingAt name id = some pending)
    (hdisconnects : pending.callback.disconnects = true) (htimer : pending.timer = true)
    (outcomes : List (Option Exn)) : (act client ⟨.timeout (name, id), outcomes⟩).Ended := by
  have hget : (client.facing outcomes).pendingRequests.pending.get? (name, id) = some pending :=
    hpending
  have hruns : (client.facing outcomes).hasTimer (name, id) = true := by
    rw [Client.hasTimer, hget]
    exact htimer
  change Client.Ended (Program.final (onTimer (name, id) (timeout (name, id))) _)
  unfold onTimer
  rw [Program.final, Program.run_get_bind, if_pos hruns]
  change Client.Ended (Program.final (timeout (name, id)) _)
  rw [final_timeout_of_pending hget]
  exact ended_onRequestTimeout hdisconnects _

/-- So does telling an expired one. -/
theorem ended_tellTimeout {strict : Bool} {client : Client}
    (hcore : Correlated strict client.core) {expired : PendingRequest Callback}
    (hexpired : expired ∈ client.expiring) (hdisconnects : expired.callback.disconnects = true)
    (outcomes : List (Option Exn)) :
    (act client ⟨.onRequestTimeout expired.serial, outcomes⟩).Ended := by
  change Client.Ended (Program.final (tellTimeout expired.serial) (client.facing outcomes))
  unfold tellTimeout
  rw [Program.final, Program.run_get_bind]
  cases hfind : (client.facing outcomes).expiring.find? fun pending =>
      pending.serial = expired.serial with
  | none => exact absurd (List.find?_eq_none.mp hfind expired hexpired) (by simp)
  | some found =>
    have hserial : found.serial = expired.serial := by simpa using List.find?_some hfind
    cases hcore.expiring_unique (List.mem_of_find?_eq_some hfind) hexpired hserial
    exact ended_onRequestTimeout hdisconnects _

/-- Once a disconnect has returned, the transport is closed, or a request of its chain is
out whose timeout closes the transport and notifies the application, in whatever state the
client is by then. -/
theorem disconnect_ends {client : Client} (hreach : Reachable act Client.Started client)
    {writes : List (Option Exn)} (hreturns : disconnect.raises (client.facing writes) = false)
    {actions : List Action} (hgoes : ∀ action ∈ actions, action.call.goesOn = true) :
    let later := run act (act client ⟨.disconnect, writes⟩) actions
    later.reader.socket = false ∨
      (∃ name id pending, later.core.pendingAt name id = some pending ∧
        pending.callback.disconnects = true ∧
        (pending.timer = true →
          ∀ outcomes, (act later ⟨.timeout (name, id), outcomes⟩).Ended)) ∨
      ∃ expired ∈ later.expiring, expired.callback.disconnects = true ∧
        ∀ outcomes, (act later ⟨.onRequestTimeout expired.serial, outcomes⟩).Ended := by
  intro later
  have hbefore := hreach.next ⟨.disconnect, writes⟩
  have hlater : later.Stopping := stopping_run hbefore (stopping_disconnect hreturns) hgoes
  have hcore : Correlated false later.core := by
    obtain ⟨first, labels, hfirst, hrun⟩ := hbefore
    refine correlated_of_reachable ⟨first, labels ++ actions, hfirst, ?_⟩
    rw [run_append, hrun]
  cases hsocket : later.reader.socket with
  | false => exact .inl rfl
  | true =>
    rcases hlater.ends hsocket with
      ⟨name, id, pending, hpending, hdisconnects⟩ | ⟨expired, hexpired, hdisconnects⟩
    · exact .inr (.inl ⟨name, id, pending, hpending, hdisconnects, fun htimer outcomes =>
        ended_timeout hpending hdisconnects htimer outcomes⟩)
    · exact .inr (.inr ⟨expired, hexpired, hdisconnects, fun outcomes =>
        ended_tellTimeout hcore hexpired hdisconnects outcomes⟩)

/-- A disconnect while ADD_ROSPEC is out, whose response then moves the client on. -/
theorem disconnect_ends_openInventory :
    let later := run act (act (run act (Client.initial (fun _ => timedConfig) 0 true)
        (openInventory.take 7)) ⟨.disconnect, []⟩)
      [⟨.receive (.response .addRospecResponse 7 .success) false, []⟩]
    later.reader.socket = false ∨
      (∃ name id pending, later.core.pendingAt name id = some pending ∧
        pending.callback.disconnects = true ∧
        (pending.timer = true →
          ∀ outcomes, (act later ⟨.timeout (name, id), outcomes⟩).Ended)) ∨
      ∃ expired ∈ later.expiring, expired.callback.disconnects = true ∧
        ∀ outcomes, (act later ⟨.onRequestTimeout expired.serial, outcomes⟩).Ended :=
  disconnect_ends ⟨_, openInventory.take 7, ⟨fun _ => timedConfig, 0, true, rfl⟩, rfl⟩
    (by decide +kernel) (by simp [Call.goesOn])

end Sllurp.Session
