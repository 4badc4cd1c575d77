/-
# Waiting states

A state that stands for waiting should have its request outstanding. A response
or a timeout takes the request away; the state stays where it was unless the
callback of the request, or the branch that handles the response, moves on. The
tables below say which of them do.
-/

import Sllurp.Session.Completion

namespace Sllurp.Session

open Sllurp.Foundations Sllurp.Protocol Sllurp.Config Sllurp.Runtime
open Sllurp.Foundations.Program

/-- The response that the state waits for belongs to a pending request. -/
def Waits (core : Core) : Prop :=
  ∀ name ∈ core.state.awaited, core.pendingRequests.hasResponseType name = true

instance (core : Core) : Decidable (Waits core) :=
  inferInstanceAs (Decidable (∀ name ∈ core.state.awaited, _))

/-! ## What moves on -/

namespace Client

/-- Whether a request of the type would go out, or its failure be caught. -/
def sendsOr (client : Client) (caught : Bool) (name : MessageName) : Bool :=
  caught || client.sends name

end Client

/-- Whether a completion leaves the waiting state that it finds. -/
def Completion.movesOn : Completion → Bool → Bool
  | absent, _ | application, _ => false
  | resetStopped, isSuccess | txPowerStopped, isSuccess | deleted, isSuccess => isSuccess
  | disconnectStopped, _ | afterStopped _, _ | afterRospecCleanup _ _, _ => true
  | restarted _, isSuccess | restored _ _, isSuccess => !isSuccess

/-- Whether a callback leaves the waiting state that it finds. -/
def Callback.movesOn (client : Client) (caught isSuccess : Bool) : Callback → Bool
  | getReaderCapabilitiesCb | disableRospecPauseCb _ _ | enableRospecResumeCb => isSuccess
  | enableImpinjExtCb =>
    if isSuccess then client.sendsOr caught .getReaderCapabilitiesResponse else caught
  | enabledRospecCb onCompletion => isSuccess || onCompletion.movesOn false
  | sendAddedRospecCb _ onCompletion =>
    if isSuccess then client.sendsOr caught .enableRospecResponse
    else onCompletion.movesOn false
  | sendDeleteAccessspecCb onCompletion =>
    if isSuccess then client.sendsOr caught .deleteRospecResponse
    else onCompletion.movesOn false
  | stopAllRospecsCb onCompletion => onCompletion.movesOn isSuccess
  | readerConfigApplied _ | oldReaderConfigRestored _ _ => true
  | application | getReaderConfigCb | setReaderConfigCb | addAccessspecCb _
  | disableAccessspecCb _ | startNextAccessspecCb _ => false

namespace Client

/-- Whether the branch that handles a message moves on after a callback of the
setup, or after a failed request. A failure moves on by raising, if that closes
the session. -/
def branchMovesOn (client : Client) (caught : Bool) (message : LLRPMessage)
    (callback : Callback) : Bool :=
  if message.isSuccess then
    callback.setsWaiting.isSome && !client.disconnecting &&
      match client.state with
      | .sentGetConfig =>
        caught || client.nextWrite.isNone &&
          client.consumeWrite.sends .setReaderConfigResponse
      | .sentSetConfig =>
        !client.suppressSetConfigPostActions &&
          if client.settings.resetOnConnect then client.sendsOr caught .deleteAccessspecResponse
          else
            client.settings.startInventory &&
              (caught || client.buildsROSpec && client.sends .addRospecResponse)
      | _ => false
  else
    caught &&
      match client.state, callback with
      | .sentEnableImpinjExtensions, _ | .sentGetCapabilities, _ | .sentGetConfig, _ => true
      | .sentSetConfig, _ => !client.suppressSetConfigPostActions
      | .sentAddRospec, .sendAddedRospecCb _ _ => true
      | _, _ => false

/-- Whether the completion of a request by the message takes away what the state
waits for, or sets a state that waits for the request again. -/
def losesRequest (client : Client) (message : LLRPMessage) (callback : Callback) : Bool :=
  (client.prepared message).state.awaited = some message.name ||
    message.isSuccess && callback.setsWaiting.isSome

/-- Whether the client moves on from a request that the message completes. -/
def movesOn (client : Client) (caught : Bool) (message : LLRPMessage) : Bool :=
  !client.completes message ||
    match client.core.pendingAt message.name message.id with
    | none => true
    | some pending =>
      !client.losesRequest message pending.callback ||
        pending.callback.movesOn client caught message.isSuccess ||
        client.branchMovesOn caught message pending.callback

/-- Whether the client moves on from a request that expires. -/
def movesOnFromTimeout (client : Client) (key : Key) : Bool :=
  match client.pendingRequests.pending.get? key with
  | none => true
  | some pending =>
    !pending.timer || client.state.awaited ≠ some key.1 ||
      pending.callback.movesOn client false false

/-- The calls that leave no waiting state behind without its request. A timeout
is one step. -/
def keepsWaiting (client : Client) : Call → Bool
  | .handleMessage message => client.movesOn false message
  | .receive message _ => client.movesOn true message
  | .timeout key => client.movesOnFromTimeout key
  | .expire _ => false
  | .sendRequest _ _ _ newState => newState.isNone
  | _ => true

end Client

/-! ## The frame -/

theorem hasResponseType_nextRegistry (client : Client) (name other : MessageName)
    (onCompletion : Callback) :
    (client.nextRegistry name onCompletion).hasResponseType other = true ↔
      other = name ∨ client.pendingRequests.hasResponseType other = true := by
  have hset : (client.nextRegistry name onCompletion).pending = client.pendingRequests.pending.set
      (name, nextMessageId client.lastMsgId) (client.nextPending name onCompletion) := rfl
  rw [PendingRequestRegistry.hasResponseType_set hset, Bool.or_eq_true, decide_eq_true_eq]

theorem waits_of_settled {core : Core} (hsettled : core.state.awaited = none) : Waits core := by
  intro name hname
  rw [hsettled] at hname
  cases hname

/-- A request that goes out is outstanding in the state that waits for it. -/
theorem waits_afterSend (client : Client) (request : Request) {name : MessageName}
    (onCompletion : Callback) {state : ReaderState} (hstate : state.awaited = some name) :
    Waits (client.afterSend request name onCompletion (some state)).core := by
  rw [core_afterSend]
  intro other hother
  change state.awaited = some other at hother
  refine (hasResponseType_nextRegistry _ _ _ _).mpr (Or.inl ?_)
  exact Option.some_injective _ (hother.symm.trans hstate)

/-- Calls and callbacks keep waiting states apart from those that set one. -/
theorem waits_respects : Respects (Frame.invariant fun client => Waits client.core) where
  neutral htraffic hwaits := by
    change Waits _
    rw [core_of_traffic htraffic]
    exact hwaits
  setState client newState hsettled _ := waits_of_settled hsettled
  sendRequest request name onCompletion newState _ _ hawaited client hwaits := by
    cases hwaiting : client.isWaiting name with
    | true =>
      rw [run_sendRequest_of_isWaiting hwaiting]
      exact hwaits
    | false =>
      rw [run_sendRequest hwaiting]
      cases client.nextWrite with
      | none =>
        cases newState with
        | some state => exact waits_afterSend client request onCompletion (hawaited state rfl)
        | none =>
          change Waits (client.afterSend request name onCompletion none).core
          rw [core_afterSend]
          exact fun other hother =>
            (hasResponseType_nextRegistry _ _ _ _).mpr (Or.inr (hwaits other hother))
      | some raised =>
        change Waits (client.afterFailedSend name onCompletion newState).core
        rw [core_afterFailedSend hwaiting]
        exact hwaits
  countMessage _ _ hwaits := hwaits
  write messageId request client hwaits := by
    rw [run_write]
    cases client.nextWrite <;> exact hwaits
  resetProtocolSession client _ := waits_of_settled rfl

/-! ## Programs that settle -/

/-- Whatever state the program starts in, it ends without a lost request. -/
abbrev Settles {α : Type} (program : ClientM α) : Prop :=
  Triple (fun _ => True) program fun client => Waits client.core

/-- A program that sets a state which waits for nothing settles, whatever
follows. -/
theorem settles_setState {α : Type} {newState : ReaderState} {next : Unit → ClientM α}
    (hsettled : newState.awaited = none)
    (hnext : ∀ value, Within (Frame.invariant fun client => Waits client.core) (next value)) :
    Settles (setState newState >>= next) := by
  have hset : Settles (setState newState) := fun _ _ => waits_of_settled hsettled
  exact hset.bind (fun _ => id) fun value => hnext value

theorem settles_fail {newState : ReaderState} (hsettled : newState.awaited = none)
    (apply : ApplyFrame) (error : String) :
    Settles (setState newState >>= fun _ => apply.fail error) :=
  settles_setState hsettled fun _ => waits_respects.winding.fail _ _ _

theorem settles_finishRestore (apply : ApplyFrame) (error : String) :
    Settles (apply.finishRestore error) := by
  unfold ApplyFrame.finishRestore
  refine .ite (fun _ => ?_) fun _ => .ite (fun _ => ?_) fun _ => ?_
  · exact settles_setState rfl fun _ =>
      waits_respects.winding.startInventory trivial _ _ (waits_respects.winding.restored _ _ _)
  · exact settles_fail rfl apply error
  · exact settles_fail rfl apply error

theorem settles_afterRospecCleanup (apply : ApplyFrame) (error : String) (isSuccess : Bool) :
    Settles (apply.afterRospecCleanup error isSuccess) :=
  .ite (fun _ => settles_finishRestore apply error) fun _ => settles_fail rfl apply _

theorem settles_cleanupReplacementRospec (apply : ApplyFrame) (error : String) :
    Settles (apply.cleanupReplacementRospec error) := by
  unfold ApplyFrame.cleanupReplacementRospec
  refine .bind_of_returns (fun _ => rfl) fun client => ?_
  refine .ite (fun _ => settles_finishRestore apply error) fun _ => ?_
  exact settles_setState rfl fun _ => waits_respects.winding.stopAllROSpecs _

theorem settles_oldReaderConfigRestored (apply : ApplyFrame) (error : String)
    (isSuccess : Bool) : Settles (apply.oldReaderConfigRestored error isSuccess) :=
  .ite (fun _ => settles_cleanupReplacementRospec apply error) fun _ => settles_fail rfl apply _

theorem settles_restoreOld (apply : ApplyFrame) (error : String) :
    Settles (apply.restoreOld error) := by
  unfold ApplyFrame.restoreOld
  refine .bind_of_returns (fun _ => rfl) fun outcome => ?_
  cases outcome with
  | error rollbackError => exact settles_fail rfl apply _
  | ok _ =>
    refine .ite (fun _ => ?_) fun _ => settles_cleanupReplacementRospec apply error
    refine settles_setState rfl fun _ => .bind (waits_respects.modify fun _ => rfl) fun _ => ?_
    exact waits_respects.winding.sendSetReaderConfig rfl

theorem settles_finishNewState (apply : ApplyFrame) : Settles apply.finishNewState := by
  unfold ApplyFrame.finishNewState
  refine .ite (fun _ => ?_) fun _ => .ite (fun _ => ?_) fun _ => ?_
  · exact settles_setState rfl fun _ =>
      waits_respects.winding.startInventory trivial _ _
        (waits_respects.winding.restarted _ _ fun _ _ => trivial)
  · exact settles_setState rfl fun _ => waits_respects.winding.succeed _ _
  · exact settles_setState rfl fun _ => waits_respects.winding.succeed _ _

theorem settles_readerConfigApplied (apply : ApplyFrame) (isSuccess : Bool) :
    Settles (apply.readerConfigApplied isSuccess) :=
  .ite (fun _ => settles_finishNewState _) fun _ => settles_restoreOld apply _

theorem settles_afterStopped (apply : ApplyFrame) (isSuccess : Bool) :
    Settles (apply.afterStopped isSuccess) := by
  unfold ApplyFrame.afterStopped
  refine .ite (fun _ => ?_) fun _ => ?_
  · have hsettled : apply.originalState.state.awaited = none := by
      cases apply.originalState <;> rfl
    exact settles_fail hsettled apply _
  · refine settles_setState rfl fun _ => ?_
    have hinstalls := waits_respects.winding.installRuntimeConfig apply.newConfig
    refine .bind hinstalls.attempt fun outcome => ?_
    cases outcome with
    | error raised => exact waits_respects.winding.restoreOld _ (fun _ => trivial) _
    | ok _ =>
      refine .ite (fun _ => ?_) fun _ => waits_respects.winding.finishNewState _ fun _ => trivial
      exact .bind (waits_respects.modify fun _ => rfl) fun _ =>
        waits_respects.winding.sendSetReaderConfig rfl

/-- A disconnected client waits for nothing. -/
theorem waits_hardDisconnect (client : Client) : Waits client.hardDisconnect.onDisconnected.core :=
  waits_of_settled rfl

/-- A completion that moves on settles. -/
theorem settles_runCompletion {onCompletion : Completion} {isSuccess : Bool}
    (hmoves : onCompletion.movesOn isSuccess = true) :
    Settles (runCompletion onCompletion isSuccess) := by
  cases onCompletion with
  | absent => cases hmoves
  | application => cases hmoves
  | resetStopped =>
    change isSuccess = true at hmoves
    subst hmoves
    refine settles_setState rfl fun _ => .bind .get fun _ => .ite (fun _ => ?_) fun _ => .pure ()
    exact waits_respects.winding.startInventory trivial _ _ (.pure ())
  | txPowerStopped =>
    change isSuccess = true at hmoves
    subst hmoves
    exact settles_setState rfl fun _ => waits_respects.winding.startInventory trivial _ _ (.pure ())
  | deleted =>
    change isSuccess = true at hmoves
    subst hmoves
    exact settles_setState rfl fun _ => waits_respects.winding.startInventory trivial _ _ (.pure ())
  | disconnectStopped => exact fun client _ => waits_hardDisconnect _
  | afterStopped apply => exact settles_afterStopped apply isSuccess
  | restarted apply =>
    have hfailed : isSuccess = false := by simpa [Completion.movesOn] using hmoves
    subst hfailed
    exact settles_restoreOld apply _
  | restored apply error =>
    have hfailed : isSuccess = false := by simpa [Completion.movesOn] using hmoves
    subst hfailed
    exact settles_fail rfl apply _
  | afterRospecCleanup apply error => exact settles_afterRospecCleanup apply error isSuccess

/-- A failed completion that does not move on does nothing. -/
theorem run_runCompletion_of_not_movesOn {onCompletion : Completion}
    (hmoves : onCompletion.movesOn false = false) (client : Client) :
    runCompletion onCompletion false client = (.ok (), client) := by
  cases onCompletion with
  | absent => rfl
  | application => rfl
  | resetStopped => rfl
  | txPowerStopped => rfl
  | deleted => rfl
  | disconnectStopped => cases hmoves
  | afterStopped apply => cases hmoves
  | restarted apply => cases hmoves
  | restored apply error => cases hmoves
  | afterRospecCleanup apply error => cases hmoves

/-! ## Programs that recover -/

/-- The program ends without a lost request, or with an exception that is
caught. -/
def Recovers {α : Type} (caught : Bool) (program : ClientM α) (client : Client) : Prop :=
  Waits (program.final client).core ∨ caught = true ∧ program.raises client = true

theorem Settles.recovers {α : Type} {program : ClientM α} (hsettles : Settles program)
    (caught : Bool) (client : Client) : Recovers caught program client :=
  Or.inl (hsettles client trivial)

/-- What follows a program that recovers keeps the request outstanding. -/
theorem Recovers.bind {α β : Type} {caught : Bool} {program : ClientM α} {next : α → ClientM β}
    {client : Client} (hprogram : Recovers caught program client)
    (hnext : ∀ value, Within (Frame.invariant fun client => Waits client.core) (next value)) :
    Recovers caught (program >>= next) client := by
  unfold Recovers Program.final at *
  rw [Program.raises_bind, Program.run_bind]
  rw [Program.raises] at hprogram
  rcases hrun : program client with ⟨_ | value, later⟩
  · rw [hrun] at hprogram
    exact hprogram
  · rw [hrun] at hprogram
    exact Or.inl (hnext value later (hprogram.resolve_right (by simp)))

/-- A request that goes out is waited for. -/
theorem recovers_sendRequest {caught : Bool} {client : Client} {name : MessageName}
    (hsends : client.sendsOr caught name = true) (request : Request) (onCompletion : Callback)
    {state : ReaderState} (hstate : state.awaited = some name) :
    Recovers caught (sendRequest request name onCompletion (some state)) client := by
  unfold Recovers Program.final Program.raises
  rw [Client.sendsOr, Bool.or_eq_true, Client.sends, Bool.and_eq_true] at hsends
  cases hwaiting : client.isWaiting name with
  | true =>
    rw [run_sendRequest_of_isWaiting hwaiting]
    exact Or.inr ⟨hsends.resolve_right (by simp [hwaiting]), rfl⟩
  | false =>
    rw [run_sendRequest hwaiting]
    cases hwrite : client.nextWrite with
    | none => exact Or.inl (waits_afterSend client request onCompletion hstate)
    | some raised => exact Or.inr ⟨hsends.resolve_right (by simp [hwrite]), rfl⟩

/-- A callback that moves on recovers. -/
theorem recovers_runCallback {caught isSuccess : Bool} {client : Client} {callback : Callback}
    (hmoves : callback.movesOn client caught isSuccess = true) :
    Recovers caught (runCallback callback isSuccess) client := by
  cases callback with
  | application => cases hmoves
  | getReaderConfigCb => cases hmoves
  | setReaderConfigCb => cases hmoves
  | addAccessspecCb accessSpecId => cases hmoves
  | disableAccessspecCb operation => cases hmoves
  | startNextAccessspecCb operation => cases hmoves
  | getReaderCapabilitiesCb =>
    change isSuccess = true at hmoves
    subst hmoves
    exact Or.inl (waits_of_settled rfl)
  | enableRospecResumeCb =>
    change isSuccess = true at hmoves
    subst hmoves
    exact Or.inl (waits_of_settled rfl)
  | disableRospecPauseCb durationSeconds forceRegenRospec =>
    change isSuccess = true at hmoves
    subst hmoves
    have hsettles : Settles (runCallback (.disableRospecPauseCb durationSeconds forceRegenRospec)
        true) :=
      settles_setState rfl fun _ =>
        .ite (fun _ => waits_respects.modify fun _ => rfl) fun _ => .pure ()
    exact hsettles.recovers caught client
  | enableImpinjExtCb =>
    cases isSuccess with
    | true => exact recovers_sendRequest hmoves _ _ rfl
    | false => exact Or.inr ⟨hmoves, rfl⟩
  | enabledRospecCb onCompletion =>
    have hcompletion := waits_respects.winding.runCompletion onCompletion true fun _ => trivial
    cases isSuccess with
    | true =>
      have hsettles : Settles (runCallback (.enabledRospecCb onCompletion) true) :=
        settles_setState rfl fun _ => hcompletion
      exact hsettles.recovers caught client
    | false => exact (settles_runCompletion hmoves).recovers caught client
  | sendAddedRospecCb rospec onCompletion =>
    cases isSuccess with
    | true =>
      have hsends : { client with inventoryRospecAdded := true }.sendsOr caught
          .enableRospecResponse = true := hmoves
      exact recovers_sendRequest hsends ⟨.enableRospec, .rospecId rospec.rospec.roSpecId⟩
        (.enabledRospecCb onCompletion) rfl
    | false => exact (settles_runCompletion hmoves).recovers caught client
  | sendDeleteAccessspecCb onCompletion =>
    cases isSuccess with
    | true => exact recovers_sendRequest hmoves _ _ rfl
    | false => exact (settles_runCompletion hmoves).recovers caught client
  | stopAllRospecsCb onCompletion =>
    exact Or.inl (settles_runCompletion hmoves _ trivial)
  | readerConfigApplied apply =>
    exact (settles_readerConfigApplied apply isSuccess).recovers caught client
  | oldReaderConfigRestored apply error =>
    exact (settles_oldReaderConfigRestored apply error isSuccess).recovers caught client

/-! ## Handling a message -/

/-- Taking out one request keeps the others pending. -/
theorem hasResponseType_pop {registry : PendingRequestRegistry Callback} {name other : MessageName}
    {id : ℕ} (hother : other ≠ name) :
    (registry.pop name id).2.hasResponseType other = registry.hasResponseType other := by
  rw [Bool.eq_iff_iff, PendingRequestRegistry.hasResponseType_iff,
    PendingRequestRegistry.hasResponseType_iff]
  refine exists_congr fun second => exists_congr fun request => ?_
  rw [PendingRequestRegistry.pop, PendingRequestRegistry.get?_cancel,
    if_neg fun hkey => hother (congrArg Prod.fst hkey)]

theorem nextWrite_completed (client : Client) (name : MessageName) (id : ℕ)
    (pending : PendingRequest Callback) (isSuccess : Bool) :
    (client.completed name id pending isSuccess).nextWrite = client.nextWrite := by
  dsimp only [Client.completed, Client.record, Client.dropDeferred, Client.setDeferreds,
    Client.setRegistry, Client.nextWrite]

/-- What would go out while a request is pending goes out after it is completed. -/
theorem sends_completed {client : Client} {other : MessageName} (hsends : client.sends other = true)
    (name : MessageName) (id : ℕ) (pending : PendingRequest Callback) (isSuccess : Bool) :
    (client.completed name id pending isSuccess).sends other = true := by
  simp only [Client.sends, Client.isWaiting, Bool.and_eq_true, Bool.not_eq_true',
    Bool.or_eq_false_iff, Bool.not_eq_false', List.isEmpty_iff] at hsends ⊢
  obtain ⟨⟨htype, hdeferreds⟩, hwrite⟩ := hsends
  refine ⟨⟨?_, ?_⟩, (congrArg Option.isNone (nextWrite_completed _ _ _ _ _)).trans hwrite⟩
  · change (client.pendingRequests.pop name id).2.hasResponseType other = false
    rw [← htype, Bool.eq_iff_iff, PendingRequestRegistry.hasResponseType_iff, htype]
    refine iff_of_false ?_ Bool.false_ne_true
    rintro ⟨second, request, hget⟩
    rw [PendingRequestRegistry.pop, PendingRequestRegistry.get?_cancel] at hget
    split at hget
    · cases hget
    · have hbefore := (PendingRequestRegistry.hasResponseType_iff _ _).mpr ⟨second, request, hget⟩
      simp [htype] at hbefore
  · change (if other = name then _ else client.deferreds other) = []
    split
    · rename_i heq
      have hempty : (client.setRegistry (client.pendingRequests.pop name id).2).deferreds name =
          [] := heq ▸ hdeferreds
      rw [hempty]
      rfl
    · exact hdeferreds

/-- A callback moves on wherever the same requests would go out. -/
theorem movesOn_of_sends {client later : Client}
    (hsends : ∀ name, client.sends name = true → later.sends name = true)
    {callback : Callback} {caught isSuccess : Bool}
    (hmoves : callback.movesOn client caught isSuccess = true) :
    callback.movesOn later caught isSuccess = true := by
  have hsendsOr : ∀ name, client.sendsOr caught name = true → later.sendsOr caught name = true := by
    intro name hname
    unfold Client.sendsOr at hname ⊢
    rw [Bool.or_eq_true] at hname ⊢
    exact hname.imp_right (hsends name)
  cases callback with
  | enableImpinjExtCb => cases isSuccess <;> [exact hmoves; exact hsendsOr _ hmoves]
  | sendAddedRospecCb rospec onCompletion =>
    cases isSuccess <;> [exact hmoves; exact hsendsOr _ hmoves]
  | sendDeleteAccessspecCb onCompletion =>
    cases isSuccess <;> [exact hmoves; exact hsendsOr _ hmoves]
  | _ => exact hmoves

/-- The end of the branch that waits for the reader configuration. -/
theorem recovers_afterConfig {caught : Bool} {client : Client}
    (hsends : (caught || client.nextWrite.isNone &&
      client.consumeWrite.sends .setReaderConfigResponse) = true) :
    Recovers caught (do
      sendEnableEventsAndReports
      sendSetReaderConfig .setReaderConfigCb) client := by
  let numbered := { client with lastMsgId := nextMessageId client.lastMsgId }
  have hrun : sendEnableEventsAndReports client =
      write none (nextMessageId client.lastMsgId) ⟨.enableEventsAndReports, .bare⟩ numbered :=
    run_sendMessage _ _
  have hnext : numbered.nextWrite = client.nextWrite := rfl
  rw [run_write, hnext] at hrun
  rw [Bool.or_eq_true, Bool.and_eq_true] at hsends
  unfold Recovers Program.final
  rw [Program.raises_bind]
  cases hwrite : client.nextWrite with
  | none =>
    rw [hwrite] at hrun
    rw [Program.run_bind_ok hrun, hrun]
    refine recovers_sendRequest ?_ _ _ rfl
    rw [Client.sendsOr, Bool.or_eq_true]
    exact hsends.imp_right And.right
  | some raised =>
    rw [hwrite] at hrun
    rw [hrun]
    exact Or.inr ⟨hsends.resolve_right (by simp [hwrite]), rfl⟩

/-- What follows the setup waits for a request if one has to go out and does. -/
theorem recovers_finishSetup {caught : Bool} {client : Client}
    (hstate : client.state ≠ .inventorying) (hdisconnecting : client.disconnecting = false)
    (hsends : (if client.settings.resetOnConnect then
        client.sendsOr caught .deleteAccessspecResponse
      else client.settings.startInventory &&
        (caught || client.buildsROSpec && client.sends .addRospecResponse)) = true) :
    Recovers caught finishSetup client := by
  unfold Recovers finishSetup Program.final
  rw [Program.raises_get_bind, Program.run_get_bind, hdisconnecting, if_neg Bool.false_ne_true]
  cases hreset : client.settings.resetOnConnect with
  | true =>
    rw [hreset, if_pos rfl] at hsends
    have hstill : { client with disconnecting := client.disconnecting || false }.sendsOr caught
        .deleteAccessspecResponse = true := hsends
    rw [if_pos rfl]
    exact recovers_sendRequest hstill ⟨.deleteAccessspec, .accessSpecId 0⟩
      (.sendDeleteAccessspecCb .resetStopped) rfl
  | false =>
    rw [hreset, if_neg Bool.false_ne_true, Bool.and_eq_true, Bool.or_eq_true,
      Bool.and_eq_true] at hsends
    obtain ⟨hstart, hsends⟩ := hsends
    rw [if_neg Bool.false_ne_true, hstart, if_pos rfl]
    unfold startInventory
    rw [Program.raises_get_bind, Program.run_get_bind, if_neg hstate, Program.raises_bind,
      Program.run_bind]
    obtain ⟨outcome, later, hrun, hbuilds, hlater⟩ := run_getROSpec_false client
    have hsame : { later with inventoryRospecAdded := false }.sends .addRospecResponse =
        client.sends .addRospecResponse := by
      rcases hlater with rfl | ⟨rospec, rfl⟩ <;> rfl
    rw [hrun]
    cases outcome with
    | error raised =>
      refine Or.inr ⟨hsends.resolve_right fun hboth => ?_, rfl⟩
      rw [← hbuilds] at hboth
      exact Bool.false_ne_true hboth.1
    | ok rospec =>
      dsimp only
      rw [Program.raises_modify_bind, Program.run_modify_bind]
      refine recovers_sendRequest ?_ _ _ rfl
      rw [Client.sendsOr, Bool.or_eq_true, hsame]
      exact hsends.imp_right And.right

/-- A branch that always raises recovers if that is caught. -/
theorem recovers_of_raises {first next : ClientM Unit} {client : Client}
    (hraises : ∀ later, next.raises later = true) :
    Recovers true (first >>= fun _ => next) client := by
  refine Or.inr ⟨rfl, ?_⟩
  rw [Program.raises_bind]
  rcases first client with ⟨_ | _, later⟩
  · rfl
  · exact hraises later

/-- A branch that moves on recovers, after a failure. -/
theorem recovers_branch_of_failure {client later : Client} {message : LLRPMessage}
    {callback : Callback} (hfailed : message.isSuccess = false)
    (hstate : later.state = client.state)
    (hlastMsgId : later.lastMsgId = client.lastMsgId) {caught : Bool}
    (hbranch : client.branchMovesOn caught message callback = true) :
    Recovers caught (do
      runCallback callback message.isSuccess
      afterwards client message) later := by
  unfold Client.branchMovesOn at hbranch
  rw [hfailed, if_neg Bool.false_ne_true, Bool.and_eq_true] at hbranch
  obtain ⟨rfl, hbranch⟩ := hbranch
  unfold afterwards
  rw [hfailed]
  cases hbefore : client.state with
  | sentEnableImpinjExtensions => exact recovers_of_raises fun _ => rfl
  | sentGetCapabilities => exact recovers_of_raises fun _ => rfl
  | sentGetConfig => exact recovers_of_raises fun _ => rfl
  | sentSetConfig =>
    rw [hbefore] at hbranch
    have hsuppress : client.suppressSetConfigPostActions = false := by simpa using hbranch
    rw [hsuppress]
    exact recovers_of_raises fun _ => rfl
  | sentAddRospec =>
    rw [hbefore] at hbranch
    cases callback with
    | sendAddedRospecCb rospec onCompletion =>
      cases hmoves : onCompletion.movesOn false with
      | true =>
        refine ((settles_runCompletion hmoves).recovers true later).bind fun _ => ?_
        refine .bind .get fun last => ?_
        exact .ite (fun _ => .raise _) fun _ => .pure ()
      | false =>
        refine Or.inr ⟨rfl, ?_⟩
        have hidle : runCallback (.sendAddedRospecCb rospec onCompletion) false later =
            (.ok (), later) := run_runCompletion_of_not_movesOn hmoves later
        rw [Program.raises_bind, hidle]
        dsimp only
        rw [if_neg Bool.false_ne_true, Program.raises_get_bind,
          if_pos ⟨hstate.trans hbefore, hlastMsgId⟩]
        rfl
    | _ => cases hbranch
  | _ =>
    rw [hbefore] at hbranch
    cases hbranch

/-- What the branch that waits for SET_READER_CONFIG or for the configuration
stores first does not touch what the next request needs. -/
theorem sends_prepared {client : Client} {message : LLRPMessage} (name : MessageName) :
    (client.prepared message).sends name = client.sends name ∧
      (client.prepared message).consumeWrite.sends name = client.consumeWrite.sends name := by
  have hcore := core_prepared client message
  have hwrites : (client.prepared message).writes = client.writes := by
    unfold Client.prepared
    cases hstate : client.state with
    | sentGetCapabilities =>
      dsimp only
      split
      · have hquiet : (client.withCapabilities message.capabilities).state ≠ .inventorying := by
          change client.state ≠ _
          rw [hstate]
          decide
        obtain ⟨values, hparsed⟩ := parseCapabilities_parsing message.capabilities _ hquiet
        rw [Program.final, hparsed]
        rfl
      · rfl
    | sentGetConfig => dsimp only; split <;> rfl
    | sentSetConfig => dsimp only; split <;> [split <;> rfl; rfl]
    | _ => rfl
  have hregistry : (client.prepared message).pendingRequests = client.pendingRequests :=
    congrArg Core.pendingRequests hcore
  have hdeferreds : (client.prepared message).deferreds = client.deferreds :=
    congrArg Core.deferreds hcore
  constructor
  · unfold Client.sends Client.isWaiting Client.nextWrite
    rw [hwrites, hregistry, hdeferreds]
  · change (!((client.prepared message).pendingRequests.hasResponseType name ||
        !((client.prepared message).deferreds name).isEmpty) &&
      (client.prepared message).writes.tail.head?.join.isNone) = _
    rw [hwrites, hregistry, hdeferreds]
    rfl

theorem sends_setState (client : Client) (state : ReaderState) (name : MessageName) :
    (client.setState state).sends name = client.sends name ∧
      (client.setState state).consumeWrite.sends name = client.consumeWrite.sends name ∧
      (client.setState state).nextWrite = client.nextWrite := by
  dsimp only [Client.sends, Client.isWaiting, Client.nextWrite, Client.consumeWrite,
    Client.setState]
  exact ⟨rfl, rfl, rfl⟩

theorem consumeWrite_completed (client : Client) (name : MessageName) (id : ℕ)
    (pending : PendingRequest Callback) (isSuccess : Bool) :
    (client.completed name id pending isSuccess).consumeWrite =
      client.consumeWrite.completed name id pending isSuccess := by
  dsimp only [Client.completed, Client.record, Client.dropDeferred, Client.setDeferreds,
    Client.setRegistry, Client.consumeWrite]

/-- What the two branches of the setup need of the client they go on with. -/
structure Ready (client later : Client) : Prop where
  state : later.state ≠ .inventorying
  disconnecting : later.disconnecting = client.disconnecting
  nextWrite : later.nextWrite = client.nextWrite
  sends : ∀ name, client.sends name = true → later.sends name = true
  sendsAfter : ∀ name, client.consumeWrite.sends name = true → later.consumeWrite.sends name = true
  settings : client.state = .sentSetConfig → later.settings = client.settings
  buildsROSpec : client.state = .sentSetConfig → later.buildsROSpec = client.buildsROSpec

/-- A branch of the setup goes on after a success. -/
theorem recovers_afterwards_of_success {client later : Client} {message : LLRPMessage}
    {callback : Callback} {caught : Bool} (hready : Ready client later)
    (hsuccess : message.isSuccess = true)
    (hbranch : client.branchMovesOn caught message callback = true) :
    Recovers caught (afterwards client message) later := by
  unfold Client.branchMovesOn at hbranch
  rw [hsuccess, if_pos rfl, Bool.and_eq_true, Bool.and_eq_true, Bool.not_eq_true'] at hbranch
  obtain ⟨⟨-, hdisconnecting⟩, hbranch⟩ := hbranch
  have hquiet : later.disconnecting = false := hready.disconnecting.trans hdisconnecting
  unfold afterwards
  rw [hsuccess]
  cases hbefore : client.state with
  | sentGetConfig =>
    rw [hbefore] at hbranch
    dsimp only at hbranch ⊢
    unfold Recovers Program.final
    rw [if_pos rfl, Program.raises_get_bind, Program.run_get_bind, hquiet,
      if_neg Bool.false_ne_true]
    refine recovers_afterConfig ?_
    rw [Bool.or_eq_true, Bool.and_eq_true] at hbranch ⊢
    rw [hready.nextWrite]
    exact hbranch.imp_right fun hboth => ⟨hboth.1, hready.sendsAfter _ hboth.2⟩
  | sentSetConfig =>
    rw [hbefore] at hbranch
    dsimp only at hbranch ⊢
    rw [Bool.and_eq_true, Bool.not_eq_true'] at hbranch
    obtain ⟨hsuppress, hbranch⟩ := hbranch
    rw [hsuppress, if_neg Bool.false_ne_true, if_pos rfl]
    refine recovers_finishSetup hready.state hquiet ?_
    rw [hready.settings hbefore, hready.buildsROSpec hbefore]
    split at hbranch
    · rw [if_pos ‹_›]
      unfold Client.sendsOr at hbranch ⊢
      rw [Bool.or_eq_true] at hbranch ⊢
      exact hbranch.imp_right (hready.sends _)
    · rw [if_neg ‹_›]
      simp only [Bool.and_eq_true, Bool.or_eq_true] at hbranch ⊢
      exact ⟨hbranch.1, hbranch.2.imp_right fun hboth => ⟨hboth.1, hready.sends _ hboth.2⟩⟩
  | _ =>
    rw [hbefore] at hbranch
    cases hbranch

/-- The client that a completed request leaves to the branch is ready for it. -/
theorem ready_completed {client : Client} {message : LLRPMessage}
    (hstate : client.state = .sentGetConfig ∨
      client.state = .sentSetConfig ∧ client.suppressSetConfigPostActions = false)
    (hsuccess : message.isSuccess = true) (pending : PendingRequest Callback)
    {state : ReaderState} (hquiet : state ≠ .inventorying) :
    Ready client (((client.prepared message).completed message.name message.id pending
      true).setState state) := by
  have hprofile : (((client.prepared message).completed message.name message.id pending
      true).setState state).profile = (client.prepared message).profile :=
    (profile_setState _ _).trans (profile_completed _ _ _ _ _)
  have hprepared : (client.prepared message).disconnecting = client.disconnecting ∧
      (client.prepared message).nextWrite = client.nextWrite ∧
      (client.state = .sentSetConfig → client.prepared message = client) := by
    unfold Client.prepared
    rcases hstate with hstate | ⟨hstate, hsuppress⟩
    · rw [hstate]
      dsimp only
      refine ⟨?_, ?_, fun hother => nomatch hother⟩ <;> split <;> rfl
    · rw [hstate, hsuccess, hsuppress]
      exact ⟨rfl, rfl, fun _ => rfl⟩
  refine ⟨hquiet, (congrArg Profile.disconnecting hprofile).trans hprepared.1,
    (sends_setState _ _ message.name).2.2.trans
      ((nextWrite_completed _ _ _ _ _).trans hprepared.2.1), ?_, ?_, ?_, ?_⟩
  · intro name hname
    rw [(sends_setState _ _ _).1]
    exact sends_completed ((sends_prepared name).1.trans hname) _ _ _ _
  · intro name hname
    rw [(sends_setState _ _ _).2.1, consumeWrite_completed]
    exact sends_completed ((sends_prepared name).2.trans hname) _ _ _ _
  · intro hsent
    rw [settings_of_profile hprofile, hprepared.2.2 hsent]
  · intro hsent
    rw [buildsROSpec_of_profile hprofile, hprepared.2.2 hsent]

/-- A branch that moves on recovers, after a success. -/
theorem recovers_branch_of_success {client : Client} {message : LLRPMessage} {caught : Bool}
    {pending : PendingRequest Callback} (hsuccess : message.isSuccess = true)
    (hbranch : client.branchMovesOn caught message pending.callback = true) :
    Recovers caught (do
      runCallback pending.callback true
      afterwards client message)
      ((client.prepared message).completed message.name message.id pending true) := by
  have hboth := hbranch
  unfold Client.branchMovesOn at hboth
  rw [hsuccess, if_pos rfl, Bool.and_eq_true, Bool.and_eq_true] at hboth
  obtain ⟨state, hsets⟩ := Option.isSome_iff_exists.mp hboth.1.1
  have hstate : client.state = .sentGetConfig ∨
      client.state = .sentSetConfig ∧ client.suppressSetConfigPostActions = false := by
    have hlast := hboth.2
    cases hbefore : client.state <;> rw [hbefore] at hlast <;> simp_all
  have hquiet : state ≠ .inventorying := by
    rintro rfl
    cases hcallback : pending.callback <;> rw [hcallback] at hsets <;> cases hsets
  have hrun : ∀ later, runCallback pending.callback true later =
      (.ok (), later.setState state) := by
    intro later
    cases hcallback : pending.callback <;> rw [hcallback] at hsets <;> cases hsets <;> rfl
  unfold Recovers Program.final
  rw [Program.raises_bind, Program.run_bind_ok (hrun _), hrun]
  exact recovers_afterwards_of_success (ready_completed hstate hsuccess pending hquiet) hsuccess
    hbranch

/-- A request taken out leaves the state waiting, unless it was the one. -/
theorem waits_completed {client : Client} {name : MessageName} (hwaits : Waits client.core)
    (hother : client.state.awaited ≠ some name) (id : ℕ) (pending : PendingRequest Callback)
    (isSuccess : Bool) : Waits (client.completed name id pending isSuccess).core := by
  rw [core_completed]
  intro other hawaited
  change client.state.awaited = some other at hawaited
  refine (hasResponseType_pop ?_).trans (hwaits other hawaited)
  rintro rfl
  exact hother hawaited

/-- A response that matches nothing completes nothing while no request is
between the halves of its timeout. -/
theorem run_complete_of_none_expiring {strict : Bool} {client : Client} {message : LLRPMessage}
    (hcore : Correlated strict client.core) (hexpiring : client.core.expiring = [])
    (hignored : ignored client message = false)
    (hpending : client.core.pendingAt message.name message.id = none) (isSuccess : Bool) :
    complete message isSuccess (client.prepared message) = (.ok (), client.prepared message) := by
  have hprepared := core_prepared client message
  have hnone := hcore.none_pending_of_not_ignored hignored hpending
  refine run_complete_of_no_leftover ?_ ?_ isSuccess
  · rw [hprepared]
    exact hpending
  · unfold Core.leftover
    split
    · rfl
    · rw [hprepared]
      refine List.eq_nil_iff_forall_not_mem.mpr fun deferred hdeferred => ?_
      rcases hcore.owned hdeferred with ⟨id, pending, hget, _⟩ | ⟨expired, hexpired, _⟩
      · cases (hnone id).symm.trans hget
      · rw [hexpiring] at hexpired
        cases hexpired

/-- A KEEPALIVE leaves everything that correlates requests alone. -/
theorem core_handleMessage_of_keepalive (client : Client) {message : LLRPMessage}
    (hkeepalive : message.name = .keepalive) :
    ∃ history, ((handleMessage message).final client).core = { client.core with history } := by
  unfold handleMessage
  rw [Program.final, Program.run_get_bind, if_pos hkeepalive]
  unfold sendKeepaliveAck
  split
  · rw [run_write]
    cases client.nextWrite <;> exact ⟨_, rfl⟩
  · exact ⟨_, rfl⟩

/-- Handling a message from which the client moves on recovers. -/
theorem recovers_handleMessage {strict caught : Bool} {client : Client} {message : LLRPMessage}
    (hcore : Correlated strict client.core) (hexpiring : client.core.expiring = [])
    (hwaits : Waits client.core) (hmoves : client.movesOn caught message = true) :
    Recovers caught (handleMessage message) client := by
  by_cases hkeepalive : message.name = .keepalive
  · obtain ⟨history, hsame⟩ := core_handleMessage_of_keepalive client hkeepalive
    left
    rw [hsame]
    exact hwaits
  cases hcompletes : client.completes message with
  | false =>
    left
    rw [core_handleMessage_of_not_completes hkeepalive hcompletes]
    exact hwaits
  | true =>
    have hignored : ignored client message = false := by
      simp only [Client.completes, Bool.and_eq_true, Bool.not_eq_true'] at hcompletes
      exact hcompletes.1.2
    have hprepared := core_prepared client message
    have hbefore : Waits (client.prepared message).core := by
      rw [hprepared]
      split
      · exact waits_of_settled rfl
      · exact hwaits
    have hafterwards := waits_respects.winding.afterwards client message fun _ => trivial
    unfold Client.movesOn at hmoves
    rw [hcompletes] at hmoves
    unfold Recovers Program.final Program.raises
    rw [run_handleMessage_of_completes hcompletes]
    cases hpending : client.core.pendingAt message.name message.id with
    | none =>
      rw [Program.run_bind_ok (run_complete_of_none_expiring hcore hexpiring hignored hpending _)]
      exact Or.inl (hafterwards _ hbefore)
    | some pending =>
      rw [hpending] at hmoves
      rw [run_complete_of_pending hpending]
      simp only [Bool.not_true, Bool.false_or, Bool.or_eq_true, Bool.not_eq_true'] at hmoves
      rcases hmoves with (hkept | hcallback) | hbranch
      · left
        simp only [Client.losesRequest, Bool.or_eq_false_iff, decide_eq_false_iff_not,
          Bool.and_eq_false_iff] at hkept
        have hcompleted := waits_completed hbefore hkept.1 message.id pending message.isSuccess
        have hcallback := waits_respects.winding.runCallback pending.callback message.isSuccess
          (fun _ => trivial) fun hsuccess state hstate => by
            rcases hkept.2 with hfailed | hnone
            · rw [hfailed] at hsuccess
              cases hsuccess
            · rw [Option.mem_def] at hstate
              simp [hstate] at hnone
        exact hcallback.bind (fun _ => hafterwards) _ hcompleted
      · refine (recovers_runCallback (movesOn_of_sends ?_ hcallback)).bind fun _ => hafterwards
        exact fun name hsends => sends_completed ((sends_prepared name).1.trans hsends) _ _ _ _
      · cases hsuccess : message.isSuccess with
        | true => exact recovers_branch_of_success hsuccess hbranch
        | false =>
          have hstate : ((client.prepared message).completed message.name message.id pending
              false).state = client.state := by
            have hcompleted := congrArg Core.state (core_completed (client.prepared message)
              message.name message.id pending false)
            have hsame := congrArg Core.state hprepared
            rw [hsuccess] at hsame
            exact hcompleted.trans (hsame.trans (if_neg (by simp)))
          have hrecovers := recovers_branch_of_failure hsuccess hstate
            (congrArg Core.lastMsgId hprepared) hbranch
          rw [hsuccess] at hrecovers
          exact hrecovers

/-! ## Requests between the halves of a timeout -/

/-- No request is between the halves of its timeout. -/
theorem expiring_respects : Respects (Frame.fixing fun client => client.core.expiring) where
  neutral htraffic := congrArg Core.expiring (core_of_traffic htraffic)
  setState _ _ _ := rfl
  sendRequest request name onCompletion newState _ _ _ client := by
    cases hwaiting : client.isWaiting name with
    | true =>
      rw [run_sendRequest_of_isWaiting hwaiting]
      rfl
    | false =>
      rw [run_sendRequest hwaiting]
      cases client.nextWrite with
      | none =>
        change (client.afterSend request name onCompletion newState).core.expiring = _
        rw [core_afterSend]
      | some raised =>
        change (client.afterFailedSend name onCompletion newState).core.expiring = _
        rw [core_afterFailedSend hwaiting]
  countMessage _ _ := rfl
  write messageId request client := by
    rw [run_write]
    cases client.nextWrite <;> rfl
  resetProtocolSession _ := rfl

theorem expiring_runCallback (callback : Callback) (isSuccess : Bool) :
    Within (Frame.fixing fun client => client.core.expiring) (runCallback callback isSuccess) :=
  expiring_respects.winding.runCallback callback isSuccess (fun _ => trivial) fun _ _ _ _ => rfl

/-- Messages start no timeout. -/
theorem expiring_handleMessage {strict : Bool} {client : Client} (message : LLRPMessage)
    (hcore : Correlated strict client.core) (hexpiring : client.core.expiring = []) :
    ((handleMessage message).final client).core.expiring = [] := by
  by_cases hkeepalive : message.name = .keepalive
  · obtain ⟨history, hsame⟩ := core_handleMessage_of_keepalive client hkeepalive
    rw [hsame]
    exact hexpiring
  cases hcompletes : client.completes message with
  | false =>
    rw [core_handleMessage_of_not_completes hkeepalive hcompletes]
    exact hexpiring
  | true =>
    have hignored : ignored client message = false := by
      simp only [Client.completes, Bool.and_eq_true, Bool.not_eq_true'] at hcompletes
      exact hcompletes.1.2
    have hbefore : (client.prepared message).core.expiring = [] := by
      rw [core_prepared]
      exact hexpiring
    have hafterwards := expiring_respects.winding.afterwards client message fun _ => trivial
    rw [Program.final, run_handleMessage_of_completes hcompletes]
    cases hpending : client.core.pendingAt message.name message.id with
    | none =>
      rw [Program.run_bind_ok (run_complete_of_none_expiring hcore hexpiring hignored hpending _)]
      exact (hafterwards _).trans hbefore
    | some pending =>
      rw [run_complete_of_pending hpending]
      have hcompleted : ((client.prepared message).completed message.name message.id pending
          message.isSuccess).core.expiring = [] := by
        rw [core_completed]
        exact hbefore
      have hcallback := expiring_runCallback pending.callback message.isSuccess
      exact (hcallback.bind (fun _ => hafterwards) _).trans hcompleted

/-! ## Runs -/

/-- What holds in every state of a run. -/
structure Outstanding (core : Core) : Prop where
  correlated : Correlated false core
  expiring : core.expiring = []
  waits : Waits core

theorem outstanding_receive {client : Client} {message : LLRPMessage} {caught : Bool}
    (hclient : Outstanding client.core) (hmoves : client.movesOn caught message = true) :
    Correlated false ((handleMessage message).final client).core ∧
      ((handleMessage message).final client).core.expiring = [] ∧
      Recovers caught (handleMessage message) client :=
  ⟨hclient.correlated.handleMessage (by simp),
    expiring_handleMessage message hclient.correlated hclient.expiring,
    recovers_handleMessage hclient.correlated hclient.expiring hclient.waits hmoves⟩

/-- After an exception the session is closed. -/
theorem waits_afterException (client : Client) (raised : Exn) (retried : Bool) :
    Waits (client.afterException raised retried).core := by
  refine waits_of_settled ?_
  have hlost : (client.onLostConnection retried).state = .disconnected := by
    unfold Client.onLostConnection
    dsimp only
    split
    · rfl
    · split <;> rfl
  unfold Client.afterException
  cases raised with
  | osError text =>
    dsimp only
    split <;> exact congrArg ReaderState.awaited hlost
  | _ => rfl

/-- A whole timeout from which the client moves on. -/
theorem outstanding_timeout {client : Client} (hclient : Outstanding client.core) (key : Key)
    (hmoves : client.movesOnFromTimeout key = true) :
    Outstanding ((onTimer key (timeout key)).final client).core := by
  have hcorrelated : Correlated false ((onTimer key (timeout key)).final client).core :=
    Correlated.onTimer (Correlated.timeout key) client hclient.correlated
  obtain ⟨name, id⟩ := key
  unfold onTimer Program.final at hcorrelated ⊢
  rw [Program.run_get_bind] at hcorrelated ⊢
  unfold Client.movesOnFromTimeout at hmoves
  cases hget : client.pendingRequests.pending.get? (name, id) with
  | none =>
    have htimer : client.hasTimer (name, id) = false := by rw [Client.hasTimer, hget]; rfl
    rw [htimer, if_neg Bool.false_ne_true]
    exact hclient
  | some pending =>
    rw [hget] at hmoves
    have htimer : client.hasTimer (name, id) = pending.timer := by rw [Client.hasTimer, hget]; rfl
    rw [htimer] at hcorrelated ⊢
    cases htimed : pending.timer with
    | false =>
      rw [if_neg Bool.false_ne_true]
      exact hclient
    | true =>
      rw [htimed, if_pos rfl] at hcorrelated
      rw [if_pos rfl]
      have hexpire : (client.pendingRequests.expire (name, id)).1 =
          some { pending with timer := false } :=
        congrArg Prod.fst (pop_of_pending hget)
      let expired := (expire (name, id)).final client
      have hrun : timeout (name, id) client =
          runCallback pending.callback false (expired.told { pending with timer := false }) := by
        unfold timeout
        rw [Program.run_get_bind, hexpire]
        rfl
      have hcore := core_expire_of_pending hget
      have hname : pending.responseName = name := (hclient.correlated.keyed hget).1
      rw [hrun] at hcorrelated ⊢
      refine ⟨hcorrelated, ?_, ?_⟩
      · refine (expiring_runCallback pending.callback false _).trans ?_
        change (expired.told { pending with timer := false }).core.expiring = []
        rw [core_told, hcore, hclient.expiring]
        simp
      · simp only [htimed, Bool.not_true, Bool.false_or, Bool.or_eq_true, decide_eq_true_eq]
          at hmoves
        rcases hmoves with hother | hcallback
        · have htold : Waits (expired.told { pending with timer := false }).core := by
            rw [core_told, hcore]
            intro other hawaited
            change client.state.awaited = some other at hawaited
            refine (hasResponseType_pop ?_).trans (hclient.waits other hawaited)
            rintro rfl
            exact hother hawaited
          exact waits_respects.winding.runCallback pending.callback false (fun _ => trivial)
            (by simp) _ htold
        · have hlater : pending.callback.movesOn
              (expired.told { pending with timer := false }) false false = true := by
            rw [← hcallback]
            cases pending.callback <;> rfl
          exact (recovers_runCallback hlater).resolve_right (by simp)

/-- What one step preserves. -/
theorem outstanding_act {client : Client} {action : Action} (hclient : Outstanding client.core)
    (hkeeps : (client.facing action.writes).keepsWaiting action.call = true) :
    Outstanding (act client action).core := by
  have hfacing : Outstanding (client.facing action.writes).core := hclient
  have hcorrelated : Correlated false (act client action).core :=
    correlated_act hclient.correlated (by simp)
  obtain ⟨call, writes⟩ := action
  unfold act at hcorrelated ⊢
  cases hhandles : call.handles with
  | false =>
    have hrequest : ∀ request name hname newState,
        call = .sendRequest request name hname newState →
        ∀ state ∈ newState, state.awaited = some name := by
      rintro request name hname newState rfl state hstate
      have hnone : newState = none := Option.isNone_iff_eq_none.mp hkeeps
      rw [hnone] at hstate
      cases hstate
    have hexpiring := expiring_respects.winding.call hhandles (fun _ => trivial) hrequest
      (client.facing writes)
    exact ⟨hcorrelated, hexpiring.trans hfacing.expiring,
      waits_respects.winding.call hhandles (fun _ => trivial) hrequest _ hfacing.waits⟩
  | true =>
    cases call with
    | handleMessage message =>
      obtain ⟨-, hexpiring, hrecovers⟩ := outstanding_receive hfacing hkeeps
      exact ⟨hcorrelated, hexpiring, hrecovers.resolve_right (by simp)⟩
    | receive message retried =>
      obtain ⟨-, hexpiring, hrecovers⟩ := outstanding_receive hfacing hkeeps
      change Recovers true (handleMessage message) (client.facing writes) at hrecovers
      have hsame := expiring_respects.winding.receive message retried (client.facing writes)
      refine ⟨hcorrelated, hsame.trans hexpiring, ?_⟩
      rcases hrecovers with hwaits | ⟨-, hraises⟩
      · exact waits_respects.winding.receive message retried _ hwaits
      · change Waits ((receive message retried).final (client.facing writes)).core
        unfold receive Program.final
        rw [Program.run_handle]
        rcases hrun : handleMessage message (client.facing writes) with ⟨raised | _, later⟩
        · exact waits_afterException later raised retried
        · simp [Program.raises, hrun] at hraises
    | timeout key => exact outstanding_timeout hfacing key hkeeps
    | expire key => cases hkeeps
    | onRequestTimeout serial =>
      have hidle : tellTimeout serial (client.facing writes) = (.ok (), client.facing writes) := by
        unfold tellTimeout
        rw [Program.run_get_bind, show (client.facing writes).expiring = [] from hfacing.expiring]
        rfl
      change Outstanding ((tellTimeout serial).final (client.facing writes)).core
      rw [Program.final, hidle]
      exact hfacing
    | _ => cases hhandles

/-- The steps that lose no request that a state waits for. -/
def keepsWaiting (client : Client) (action : Action) : Prop :=
  (client.facing action.writes).keepsWaiting action.call = true

instance (client : Client) (action : Action) : Decidable (keepsWaiting client action) :=
  inferInstanceAs (Decidable (_ = _))

/-- In a run in which the client moves on from every request it waits for, a
waiting state always has its request outstanding. -/
theorem waiting_request_outstanding {configs : ConfigRef → LLRPReaderConfig} {config : ConfigRef}
    {owned : Bool} {actions : List Action}
    (hrun : Guarded act keepsWaiting (Client.initial configs config owned) actions) :
    Waits (run act (Client.initial configs config owned) actions).core := by
  have hstart : Outstanding (Client.initial configs config owned).core :=
    ⟨correlated_initial false configs config owned, rfl, waits_of_settled rfl⟩
  exact (hrun.invariant (fun client => Outstanding client.core)
    (fun _ _ hclient hkeeps => outstanding_act hclient hkeeps) hstart).waits

/-- The validated configuration with another number of tags in the field. -/
def denseConfig : LLRPReaderConfig := { timedConfig with tagPopulation := 8 }

/-- A session up to the inventory, a pause that cannot be written, and a live
transition whose first request expires. -/
theorem waiting_request_outstanding_openInventory :
    Waits (run act (Client.initial (fun ref => if ref = 0 then timedConfig else denseConfig) 0 true)
      (openInventory ++ [⟨.pause 0 false false, [some (.osError "Broken pipe")]⟩,
        ⟨.applyConfig 1, []⟩, ⟨.timeout (.deleteAccessspecResponse, 10), []⟩,
        ⟨.pause 0 false false, []⟩])).core :=
  waiting_request_outstanding (by decide +kernel)

/-- A setup request that expires leaves the client in a state that waits for it. -/
theorem waiting_request_lost :
    ¬ Waits (run act (Client.initial (fun _ => timedConfig) 0 true)
      [⟨.connect, []⟩, ⟨.handleMessage .connectionEvent, []⟩,
        ⟨.timeout (.getReaderCapabilitiesResponse, 1), []⟩]).core := by
  decide +kernel

end Sllurp.Session
