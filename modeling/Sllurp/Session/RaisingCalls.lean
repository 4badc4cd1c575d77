/-
# Calls in which code outside raises

The calls behind a change of the configuration, once more, for what is raised into them.
The state-change callback, the transport and `onCompletion` are code outside the client,
and they may raise what `except Exception` does not catch, such as a KeyboardInterrupt;
they do not call the client in turn. A request that such an exception leaves is not taken
back. When only the transport raises, and exceptions, the calls are those of the session.
-/

import Sllurp.Client.Rollback
import Sllurp.Session.Escapes

namespace Sllurp.Session

open Sllurp.Foundations Sllurp.Foundations.Outcome Sllurp.Protocol Sllurp.Config Sllurp.Runtime
open Sllurp.Foundations.Program
open Sllurp.Client (Raised Outside)

/-- What code outside raises during a call of `applyConfig`: the state-change callback, one
outcome for each change of the state, the transport on the bytes, and `onCompletion`. -/
structure ApplyOutside where
  stateChanges : List (Option Raised) := []
  write : Option Raised := none
  onCompletion : Option Raised := none

namespace ApplyOutside

/-- What the state-change callback raises on one of the changes of the state. -/
def stateChange (outside : ApplyOutside) (index : ℕ) : Option Raised :=
  (outside.stateChanges[index]?).join

/-- What code outside raises during a request, which changes the state from this change on. -/
def request (outside : ApplyOutside) (index : ℕ) : Outside where
  entering := outside.stateChange index
  write := outside.write
  leaving := outside.stateChange (index + 1)

end ApplyOutside

/-- A computation into which code outside raises. -/
abbrev CallM : Type → Type := Program Client Raised

namespace Raising

variable {α : Type}

/-- What the client does by itself raises exceptions only. -/
def inside (program : ClientM α) : CallM α :=
  fun client => ((program client).1.mapError .exception, (program client).2)

/-- Code outside is called and raises, or does not. -/
def callOutside (outcome : Option Raised) : CallM Unit :=
  match outcome with
  | none => pure ()
  | some raised => .raise raised

/-! ## Requests -/

/-- Set the state, then call the callback. -/
def setState (callback : Option Raised) (newState : ReaderState) : CallM Unit := do
  .modify (·.setState newState)
  callOutside callback

/-- Set the state that goes with a request, if there is one. -/
def setStateIf (callback : Option Raised) (newState : Option ReaderState) : CallM Unit :=
  match newState with
  | none => pure ()
  | some newState => setState callback newState

/-- Only a write that went through is recorded. -/
def write (outcome : Option Raised) (serial : Option ℕ) (messageId : ℕ) (request : Request) :
    CallM Unit := do
  .modify Client.consumeWrite
  callOutside outcome
  .modify (·.record (.sent serial messageId request))

/-- What a request does about an exception: take everything back and raise it again. -/
def rollback (leaving : Option Raised) (pending : PendingRequest Callback)
    (newState : Option ReaderState) (previous : ReaderState) (raised : Raised) : CallM Unit :=
  match raised with
  | .baseException _ => .raise raised
  | .exception _ => do
    .modify (·.withdraw pending none previous)
    let client ← Program.get
    if newState = some client.state then setState leaving previous else pure ()
    .raise raised

/-- Register a request, set the state that stands for waiting, and write. -/
def sendRequest (outside : Outside) (request : Request) (responseName : MessageName)
    (onCompletion : Callback) (newState : Option ReaderState) : CallM Unit := do
  let client ← Program.get
  if client.isWaiting responseName then
    .raise (.exception (.readerConfigurationError
      s!"cannot send request: {responseName.text} is already pending"))
  else
    let pending := client.nextPending responseName onCompletion
    .modify (·.reserve responseName onCompletion)
    let registry ← inside (.ofExcept (client.pendingRequests.register pending))
    .modify (·.setRegistry registry)
    setStateIf outside.entering newState
    (write outside.write (some pending.serial) pending.messageId request).handle
      (rollback outside.leaving pending newState client.state)

def sendSetReaderConfig (outside : Outside) (onCompletion : Callback) : CallM Unit := do
  let client ← Program.get
  sendRequest outside
    ⟨.setReaderConfig, .settings (readerSettings client.settings) client.config⟩
    .setReaderConfigResponse onCompletion (some .sentSetConfig)

def stopAllROSpecs (outside : Outside) (onCompletion : Completion) : CallM Unit :=
  sendRequest outside ⟨.deleteRospec, .rospecId 0⟩ .deleteRospecResponse
    (.stopAllRospecsCb onCompletion) (some .sentDeleteRospec)

def stopPolitely (outside : Outside) (onCompletion : Completion) (disconnect : Bool) :
    CallM Unit := do
  .modify fun client => { client with disconnecting := client.disconnecting || disconnect }
  sendRequest outside ⟨.deleteAccessspec, .accessSpecId 0⟩ .deleteAccessspecResponse
    (.sendDeleteAccessspecCb onCompletion) (some .sentDeleteAccessspec)

/-! ## The chain from CONNECTED

Nothing was stopped for it and the reader took nothing yet, so a call goes all the way back
or on by itself. -/

section Connected

variable (outside : ApplyOutside)

def succeed (frame : ApplyFrame) : CallM Unit := do
  inside frame.succeed
  callOutside outside.onCompletion

def fail (frame : ApplyFrame) (error : String) : CallM Unit := do
  inside (frame.fail error)
  callOutside outside.onCompletion

def restoreOld (frame : ApplyFrame) (error : String) : CallM Unit := do
  match ← inside (installRuntimeConfig frame.oldConfig).attempt with
  | .error rollbackError =>
    setState (outside.stateChange 1) .disconnected
    fail outside frame s!"{error}; rollback configuration failed: {rollbackError.str}"
  | .ok () =>
    setState (outside.stateChange 1) .connected
    fail outside frame error

def finishNewState (frame : ApplyFrame) : CallM Unit := do
  setState (outside.stateChange 1) .connected
  succeed outside frame

def afterStopped (frame : ApplyFrame) : CallM Unit := do
  setState (outside.stateChange 0) .connected
  match ← inside (installRuntimeConfig frame.newConfig).attempt with
  | .error raised =>
    restoreOld outside frame
      s!"new configuration validation against capabilities failed: {raised.str}"
  | .ok () =>
    if frame.plan.requiresReaderConfigWrite then
      .modify fun client => { client with suppressSetConfigPostActions := true }
      sendSetReaderConfig (outside.request 1) (.readerConfigApplied frame)
    else finishNewState outside frame

end Connected

/-! ## The call -/

/-- Carry out a plan in a live state. -/
def liveApply (outside : ApplyOutside) (frame : ApplyFrame) : CallM Unit :=
  match frame.originalState with
  | .inventorying => stopPolitely (outside.request 0) (.afterStopped frame) false
  | .paused => do
    .modify Client.cancelPauseResumeTimer
    stopAllROSpecs (outside.request 0) (.afterStopped frame)
  | .connected => afterStopped outside frame

/-- Apply a configuration. -/
def applyConfig (outside : ApplyOutside) (newConfig : ConfigRef) (hook : Hook) :
    CallM TransitionId := do
  inside (validateObject newConfig)
  let client ← Program.get
  let plan := buildConfigTransitionPlan client.settings (client.configs newConfig)
  let id := client.transitions.length
  .modify (·.addTransition plan newConfig)
  if plan.isNoop then
    inside (Session.succeed id hook)
    callOutside outside.onCompletion
    pure id
  else if plan.requiresReconnect && client.state ≠ .disconnected then
    .raise (.exception (.readerConfigurationError
      s!"apply_config requires reconnect for: {plan.reconnectFields}"))
  else if client.state = .disconnected then
    inside (updateConfig newConfig)
    inside (Session.succeed id hook)
    callOutside outside.onCompletion
    pure id
  else if plan.clientOnly then
    .modify fun client => { client with config := newConfig, desiredConfig := newConfig }
    inside (Session.succeed id hook)
    callOutside outside.onCompletion
    pure id
  else
    match LiveState.of? client.state with
    | none =>
      .raise (.exception (.readerConfigurationError
        "apply_config requires CONNECTED, INVENTORYING, PAUSED, or DISCONNECTED state"))
    | some originalState =>
      liveApply outside
        { transition := id, plan, oldConfig := client.config, newConfig, originalState
          newReaderConfigApplied := false, hook }
      pure id

/-! ## Runs -/

section Runs

variable {client : Client} {name : MessageName}

theorem run_inside (program : ClientM α) (client : Client) :
    inside program client = ((program client).1.mapError .exception, (program client).2) := rfl

theorem inside_bind {β : Type} (program : ClientM α) (next : α → ClientM β) :
    inside (program >>= next) = inside program >>= fun value => inside (next value) := by
  funext client
  rw [run_inside, run_bind, run_bind, run_inside]
  rcases program client with ⟨raised | value, later⟩ <;> rfl

/-- A request is refused while its response type waits. -/
theorem run_sendRequest_of_isWaiting (hwaiting : client.isWaiting name = true)
    (outside : Outside) (request : Request) (onCompletion : Callback)
    (newState : Option ReaderState) :
    sendRequest outside request name onCompletion newState client =
      (.error (.exception (.readerConfigurationError
        s!"cannot send request: {name.text} is already pending")), client) := by
  unfold sendRequest
  rw [run_get_bind, if_pos hwaiting, run_raise]

/-- A request whose exception is caught is taken back, with the state that it set. -/
theorem run_rollback {newState : Option ReaderState}
    (hstate : ∀ state, newState = some state → client.state = state) (leaving : Option Raised)
    (pending : PendingRequest Callback) (previous : ReaderState) (raised : Exn) :
    rollback leaving pending newState previous (.exception raised) client =
      (.error ((newState.bind fun _ => leaving).getD (.exception raised)),
        client.withdraw pending newState previous) := by
  cases newState with
  | none => rfl
  | some state =>
    have hset : some state = some (client.withdraw pending none previous).state :=
      congrArg some (hstate state rfl).symm
    have hwithdraw : client.withdraw pending (some state) previous =
        (client.withdraw pending none previous).setState previous := if_pos hset
    unfold rollback
    dsimp only
    rw [run_modify_bind, run_get_bind, if_pos hset, hwithdraw]
    cases leaving <;> rfl

/-- What a request does that is not refused. The callback hears of a new state only, and
what is no exception leaves the request registered. -/
theorem run_sendRequest (hfree : client.isWaiting name = false) (outside : Outside)
    (request : Request) (onCompletion : Callback) (newState : Option ReaderState) :
    sendRequest outside request name onCompletion newState client =
      match newState.bind fun _ => outside.entering with
      | some raised => (.error raised, client.requested name onCompletion newState)
      | none =>
        match outside.write with
        | none => (.ok (), client.afterSend request name onCompletion newState)
        | some (.baseException text) =>
          (.error (.baseException text),
            (client.requested name onCompletion newState).consumeWrite)
        | some (.exception raised) =>
          (.error ((newState.bind fun _ => outside.leaving).getD (.exception raised)),
            client.afterFailedSend name onCompletion newState) := by
  have hregister := register_nextPending hfree onCompletion
  obtain ⟨entering, outcome, leaving⟩ := outside
  unfold sendRequest
  rw [run_get_bind, if_neg (by rw [hfree]; exact Bool.false_ne_true), hregister]
  cases newState with
  | none => rcases outcome with _ | _ | _ <;> rfl
  | some state =>
    cases entering with
    | some raised => rfl
    | none =>
      rcases outcome with _ | raised | text
      · rfl
      · have hstate : ∀ other, some state = some other →
            (client.requested name onCompletion (some state)).consumeWrite.state = other := by
          rintro other ⟨⟩
          rfl
        exact run_rollback hstate leaving _ client.state raised
      · rfl

/-- However a request ends, it changes nothing but what correlates requests. -/
theorem profile_sendRequest (outside : Outside) (request : Request) (name : MessageName)
    (onCompletion : Callback) (newState : Option ReaderState) (client : Client) :
    ((sendRequest outside request name onCompletion newState).final client).profile =
      client.profile := by
  have hrequested : (client.requested name onCompletion newState).profile = client.profile := by
    cases newState <;>
      dsimp only [Client.requested, Client.setStateIf, Client.setRegistry, Client.reserve,
        Client.setDeferreds, Client.setState, Client.profile]
  unfold Program.final
  cases hwaiting : client.isWaiting name with
  | true => rw [run_sendRequest_of_isWaiting hwaiting]
  | false =>
    rw [run_sendRequest hwaiting]
    cases newState.bind fun _ => outside.entering with
    | some raised => exact hrequested
    | none =>
      rcases outside.write with _ | raised | text
      · exact profile_afterSend client request name onCompletion newState
      · exact profile_afterFailedSend client name onCompletion newState
      · exact hrequested

end Runs

/-! ## Agreement with the session -/

/-- A transport that raises what the outcomes of the writes say, and nothing else raises. -/
def transport (client : Client) : Outside where
  entering := none
  write := client.nextWrite.map .exception
  leaving := none

/-- Where only the transport raises, a request is that of the session. -/
theorem sendRequest_transport (client : Client) (request : Request) (name : MessageName)
    (onCompletion : Callback) (newState : Option ReaderState) :
    sendRequest (transport client) request name onCompletion newState client =
      inside (Session.sendRequest request name onCompletion newState) client := by
  rw [run_inside]
  cases hwaiting : client.isWaiting name with
  | true =>
    rw [run_sendRequest_of_isWaiting hwaiting, Session.run_sendRequest_of_isWaiting hwaiting]
    rfl
  | false =>
    have hentering : (newState.bind fun _ => (transport client).entering) = none := by
      cases newState <;> rfl
    have hleaving : (newState.bind fun _ => (transport client).leaving) = none := by
      cases newState <;> rfl
    rw [run_sendRequest hwaiting, Session.run_sendRequest hwaiting, hentering, hleaving]
    unfold transport
    cases client.nextWrite <;> rfl

/-! ### Applying a configuration -/

/-- Where only the transport raises, a call is that of the session. -/
def applyTransport (client : Client) : ApplyOutside where
  write := client.nextWrite.map .exception

theorem stopPolitely_transport (client : Client) (onCompletion : Completion) (disconnect : Bool) :
    stopPolitely (transport client) onCompletion disconnect client =
      inside (Session.stopPolitely onCompletion disconnect) client :=
  sendRequest_transport
    { client with disconnecting := client.disconnecting || disconnect } _ _ _ _

section Connected

variable {frame : ApplyFrame}

theorem wasInventorying_of_connected (hconnected : frame.originalState = .connected) :
    frame.wasInventorying = false := by
  rw [ApplyFrame.wasInventorying, hconnected]
  rfl

theorem wasPaused_of_connected (hconnected : frame.originalState = .connected) :
    frame.wasPaused = false := by
  rw [ApplyFrame.wasPaused, hconnected]
  rfl

/-- From CONNECTED, going back is what it is in the session. -/
theorem restoreOld_transport (hconnected : frame.originalState = .connected)
    (hkept : frame.newReaderConfigApplied = false) (write : Option Raised) (error : String)
    (client : Client) :
    restoreOld { write } frame error client = inside (frame.restoreOld error) client := by
  unfold restoreOld ApplyFrame.restoreOld
  rw [inside_bind, run_bind, run_bind, run_inside, run_attempt]
  rcases installRuntimeConfig frame.oldConfig client with ⟨raised | _, later⟩
  · rfl
  · change _ = inside (if frame.newReaderConfigApplied then _ else
      frame.cleanupReplacementRospec error) _
    rw [hkept, if_neg Bool.false_ne_true]
    unfold ApplyFrame.cleanupReplacementRospec
    rw [wasInventorying_of_connected hconnected]
    change _ = inside (frame.finishRestore error) _
    rw [ApplyFrame.finishRestore, wasInventorying_of_connected hconnected,
      wasPaused_of_connected hconnected]
    rfl

theorem finishNewState_transport (hconnected : frame.originalState = .connected)
    (write : Option Raised) (client : Client) :
    finishNewState { write } frame client = inside frame.finishNewState client := by
  rw [ApplyFrame.finishNewState, wasInventorying_of_connected hconnected,
    wasPaused_of_connected hconnected]
  rfl

/-- Installing a configuration uses up no outcome of a write. -/
theorem writes_installRuntimeConfig {client : Client} (hstate : client.state ≠ .inventorying)
    (ref : ConfigRef) : ((installRuntimeConfig ref).final client).writes = client.writes := by
  unfold Program.final
  cases hinstalls : client.installs ref with
  | true =>
    rw [run_installRuntimeConfig_of_installs hstate hinstalls]
    unfold Client.installed
    cases client.capabilities <;> rfl
  | false =>
    obtain ⟨raised, later, hrun, -, -, -, -, hwrites⟩ :=
      run_installRuntimeConfig_of_not_installs hstate hinstalls
    rw [hrun]
    exact hwrites

/-- So is the whole chain. -/
theorem afterStopped_transport (hconnected : frame.originalState = .connected)
    (hkept : frame.newReaderConfigApplied = false) (client : Client) :
    afterStopped (applyTransport client) frame client =
      inside (frame.afterStopped true) client := by
  have hwrites := writes_installRuntimeConfig
    (show (client.setState .connected).state ≠ .inventorying from ReaderState.noConfusion)
    frame.newConfig
  unfold Program.final at hwrites
  unfold afterStopped ApplyFrame.afterStopped
  have hleft : setState ((applyTransport client).stateChange 0) .connected client =
      (.ok (), client.setState .connected) := rfl
  have hright : inside (Session.setState .connected) client =
      (.ok (), client.setState .connected) := rfl
  rw [Bool.not_true, if_neg Bool.false_ne_true, inside_bind, run_bind_ok hleft,
    run_bind_ok hright, inside_bind, run_bind, run_bind, run_inside, run_attempt]
  rcases hinstall : installRuntimeConfig frame.newConfig (client.setState .connected) with
    ⟨raised | _, later⟩
  · exact restoreOld_transport hconnected hkept _ _ later
  · change (if frame.plan.requiresReaderConfigWrite then _ else _ : CallM Unit) later =
      inside (if frame.plan.requiresReaderConfigWrite then _ else _ : ClientM Unit) later
    by_cases hwrite : frame.plan.requiresReaderConfigWrite = true
    · rw [if_pos hwrite, if_pos hwrite]
      let sending := { later with suppressSetConfigPostActions := true }
      have hsame : transport sending = (applyTransport client).request 1 := by
        have hnext : sending.writes = client.writes := by
          rw [hinstall] at hwrites
          exact hwrites
        unfold transport applyTransport Client.nextWrite
        rw [hnext]
        rfl
      have hrequest := sendRequest_transport sending
        ⟨.setReaderConfig, .settings (readerSettings sending.settings) sending.config⟩
        .setReaderConfigResponse (.readerConfigApplied frame) (some .sentSetConfig)
      rw [hsame] at hrequest
      exact hrequest
    · rw [if_neg hwrite, if_neg hwrite]
      exact finishNewState_transport hconnected _ later

end Connected

/-- Where only the transport raises, a call is that of the session. -/
theorem applyConfig_transport (client : Client) (newConfig : ConfigRef) (hook : Hook) :
    applyConfig (applyTransport client) newConfig hook client =
      inside (Session.applyConfig newConfig hook) client := by
  unfold applyConfig Session.applyConfig
  rw [inside_bind, run_bind, run_bind, run_inside]
  rcases hvalidate : validateObject newConfig client with ⟨raised | _, validated⟩
  · rfl
  have hwrites : validated.writes = client.writes := by
    have hfinal : validated = (validateObject newConfig client).2 := by rw [hvalidate]
    rw [hfinal]
    rfl
  have hsame : applyTransport client = applyTransport validated := by
    unfold applyTransport Client.nextWrite
    rw [hwrites]
  rw [hsame, mapError_ok]
  dsimp only
  rw [run_inside, run_get_bind, run_get_bind, run_modify_bind, run_modify_bind]
  generalize buildConfigTransitionPlan validated.settings (validated.configs newConfig) = plan
  by_cases hnoop : plan.isNoop = true
  · rw [if_pos hnoop, if_pos hnoop]
    rfl
  rw [if_neg hnoop, if_neg hnoop]
  by_cases hreconnect : (plan.requiresReconnect && validated.state ≠ .disconnected) = true
  · rw [if_pos hreconnect, if_pos hreconnect]
    rfl
  rw [if_neg hreconnect, if_neg hreconnect]
  by_cases hstate : validated.state = .disconnected
  · rw [if_pos hstate, if_pos hstate]
    change _ = inside (updateConfig newConfig >>= _) (validated.addTransition plan newConfig)
    rw [inside_bind, run_bind, run_bind, run_inside]
    rcases updateConfig newConfig (validated.addTransition plan newConfig) with ⟨raised | _, later⟩
    · rfl
    · rfl
  rw [if_neg hstate, if_neg hstate]
  by_cases hclient : plan.clientOnly = true
  · rw [if_pos hclient, if_pos hclient]
    rfl
  rw [if_neg hclient, if_neg hclient]
  cases LiveState.of? validated.state with
  | none => rfl
  | some originalState =>
    dsimp only
    let start := validated.addTransition plan newConfig
    let frame : ApplyFrame :=
      { transition := validated.transitions.length, plan, oldConfig := validated.config, newConfig
        originalState, newReaderConfigApplied := false, hook }
    have hlive : ∀ {program : ClientM Unit}, liveApply (applyTransport start) frame start =
        inside program start →
        (liveApply (applyTransport start) frame >>= fun _ => pure frame.transition) start =
          inside (program >>= fun _ => pure frame.transition) start := by
      intro program hsame
      rw [inside_bind, run_bind, run_bind, hsame]
      rfl
    cases originalState with
    | inventorying => exact hlive (stopPolitely_transport start _ false)
    | paused =>
      exact @hlive (do
        .modify Client.cancelPauseResumeTimer
        Session.stopAllROSpecs (.afterStopped frame))
        (sendRequest_transport start.cancelPauseResumeTimer _ _ _ _)
    | connected => exact hlive (afterStopped_transport rfl rfl start)

end Raising

end Sllurp.Session
