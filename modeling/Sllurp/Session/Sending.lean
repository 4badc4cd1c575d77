/-
# What a send does

A request is refused, or it is registered and written, or its write fails and it
is withdrawn. Each case is one equation, so that no later proof unfolds
`sendRequest`.
-/

import Sllurp.Session.Handle

namespace Sllurp.Session

open Sllurp.Foundations Sllurp.Protocol Sllurp.Config Sllurp.Runtime

namespace Client

/-- The exception of the next write, if that write fails. -/
def nextWrite (client : Client) : Option Exn := client.writes.head?.join

/-- The client after an attempted write that left nothing else behind. -/
def consumeWrite (client : Client) : Client := { client with writes := client.writes.tail }

/-- Whether a request of the response type would go out. -/
def sends (client : Client) (name : MessageName) : Bool :=
  !client.isWaiting name && client.nextWrite.isNone

/-- The registry with the next request added. -/
def nextRegistry (client : Client) (name : MessageName) (onCompletion : Callback) :
    PendingRequestRegistry Callback :=
  let key := (name, nextMessageId client.lastMsgId)
  { client.pendingRequests.forgetStale key with
    pending := client.pendingRequests.pending.set key (client.nextPending name onCompletion) }

/-- The client when a registered request is about to be written. -/
def requested (client : Client) (name : MessageName) (onCompletion : Callback)
    (newState : Option ReaderState) : Client :=
  ((client.reserve name onCompletion).setRegistry
    (client.nextRegistry name onCompletion)).setStateIf newState

/-- The client after a request that was written. -/
def afterSend (client : Client) (request : Request) (name : MessageName)
    (onCompletion : Callback) (newState : Option ReaderState) : Client :=
  (client.requested name onCompletion newState).consumeWrite.record
    (.sent (some client.nextSerial) (nextMessageId client.lastMsgId) request)

/-- The client after a request whose write failed. -/
def afterFailedSend (client : Client) (name : MessageName) (onCompletion : Callback)
    (newState : Option ReaderState) : Client :=
  (client.requested name onCompletion newState).consumeWrite.withdraw
    (client.nextPending name onCompletion) newState client.state

end Client

/-- A write goes through or fails as the next outcome says. -/
theorem run_write (serial : Option ℕ) (messageId : ℕ) (request : Request) (client : Client) :
    write serial messageId request client =
      match client.nextWrite with
      | none => (.ok (), client.consumeWrite.record (.sent serial messageId request))
      | some raised => (.error raised, client.consumeWrite) := by
  unfold write Client.nextWrite Client.consumeWrite
  rw [Program.run_get_bind]
  rcases hwrites : client.writes with _ | ⟨_ | raised, writes⟩
  · simp only [Program.run_modify, List.head?_nil, Option.join_none, List.tail_nil]
    rw [← hwrites]
  · rfl
  · rfl

/-- A response type that nobody waits for has no pending key. -/
theorem contains_of_not_isWaiting {client : Client} {name : MessageName}
    (hfree : client.isWaiting name = false) (id : ℕ) :
    client.pendingRequests.pending.contains (name, id) = false := by
  have htype : client.pendingRequests.hasResponseType name = false := by
    simp only [Client.isWaiting, Bool.or_eq_false_iff] at hfree
    exact hfree.1
  rw [Dict.contains, Option.isSome_eq_false_iff, Option.isNone_iff_eq_none]
  by_contra hsome
  obtain ⟨request, hrequest⟩ := Option.ne_none_iff_exists'.mp hsome
  have := (PendingRequestRegistry.hasResponseType_iff _ _).mpr ⟨id, request, hrequest⟩
  simp [htype] at this

/-- A request is refused while its response type waits. -/
theorem run_sendRequest_of_isWaiting {client : Client} {name : MessageName}
    (hwaiting : client.isWaiting name = true) (request : Request) (onCompletion : Callback)
    (newState : Option ReaderState) :
    sendRequest request name onCompletion newState client =
      (.error (.readerConfigurationError
        s!"cannot send request: {name.text} is already pending"), client) := by
  unfold sendRequest
  rw [Program.run_get_bind, if_pos hwaiting, Program.run_raise]

/-- The registry takes the request of a response type that nobody waits for. -/
theorem register_nextPending {client : Client} {name : MessageName}
    (hfree : client.isWaiting name = false) (onCompletion : Callback) :
    client.pendingRequests.register (client.nextPending name onCompletion) =
      .ok (client.nextRegistry name onCompletion) := by
  unfold PendingRequestRegistry.register
  exact if_neg (by
    rw [Client.nextPending, contains_of_not_isWaiting hfree]
    exact Bool.false_ne_true)

/-- Otherwise it is registered, and written or withdrawn. -/
theorem run_sendRequest {client : Client} {name : MessageName}
    (hfree : client.isWaiting name = false) (request : Request) (onCompletion : Callback)
    (newState : Option ReaderState) :
    sendRequest request name onCompletion newState client =
      match client.nextWrite with
      | none => (.ok (), client.afterSend request name onCompletion newState)
      | some raised => (.error raised, client.afterFailedSend name onCompletion newState) := by
  have hregister := register_nextPending hfree onCompletion
  have hwrites : (client.requested name onCompletion newState).nextWrite = client.nextWrite := by
    cases newState <;> rfl
  unfold sendRequest
  simp only [Program.run_get_bind, hfree, Bool.false_eq_true, if_false, Program.run_modify_bind,
    hregister]
  rw [Program.run_handle, ← Client.requested, run_write, hwrites]
  cases client.nextWrite <;> rfl

/-- The part of the client that correlates requests with callbacks. -/
structure Core where
  state : ReaderState
  deferreds : MessageName → List Deferred
  pendingRequests : PendingRequestRegistry Callback
  lastMsgId : ℕ
  expiring : List (PendingRequest Callback)
  nextSerial : ℕ
  history : List Event

def Client.core (client : Client) : Core where
  state := client.state
  deferreds := client.deferreds
  pendingRequests := client.pendingRequests
  lastMsgId := client.lastMsgId
  expiring := client.expiring
  nextSerial := client.nextSerial
  history := client.history

section Outcomes

variable (client : Client)

@[simp]
theorem core_setState (newState : ReaderState) :
    (client.setState newState).core = { client.core with state := newState } := rfl

@[simp]
theorem core_resetProtocolSession :
    client.resetProtocolSession.core =
      { client.core with
        state := .disconnected
        deferreds := fun _ => []
        pendingRequests := client.pendingRequests.cancelAll false } := rfl

/-- A written request is pending and deferred under its name, in the state that
waits for it. -/
theorem core_afterSend (request : Request) (name : MessageName) (onCompletion : Callback)
    (newState : Option ReaderState) :
    (client.afterSend request name onCompletion newState).core =
      { client.core with
        state := newState.getD client.state
        deferreds := fun other =>
          if other = name then client.deferreds name ++ [⟨client.nextSerial, onCompletion⟩]
          else client.deferreds other
        pendingRequests := client.nextRegistry name onCompletion
        lastMsgId := nextMessageId client.lastMsgId
        nextSerial := client.nextSerial + 1
        history :=
          client.history ++
            [.sent (some client.nextSerial) (nextMessageId client.lastMsgId) request] } := by
  cases newState <;>
    dsimp only [Client.afterSend, Client.requested, Client.setStateIf, Client.setRegistry,
      Client.reserve, Client.setDeferreds, Client.consumeWrite, Client.record, Client.setState,
      Client.core, Option.getD]

/-- A request uses up one outcome, whether it goes out or not. -/
theorem writes_afterSend (client : Client) (request : Request) (name : MessageName)
    (onCompletion : Callback) (newState : Option ReaderState) :
    (client.afterSend request name onCompletion newState).writes = client.writes.tail := by
  cases newState <;> rfl

theorem writes_afterFailedSend (client : Client) (name : MessageName) (onCompletion : Callback)
    (newState : Option ReaderState) :
    (client.afterFailedSend name onCompletion newState).writes = client.writes.tail := by
  unfold Client.afterFailedSend Client.withdraw
  cases newState with
  | none => rfl
  | some state =>
    dsimp only
    split <;> rfl

/-- A response type that nobody waits for has nothing deferred. -/
theorem deferreds_of_not_isWaiting {client : Client} {name : MessageName}
    (hfree : client.isWaiting name = false) : client.deferreds name = [] := by
  simp only [Client.isWaiting, Bool.or_eq_false_iff, Bool.not_eq_false',
    List.isEmpty_iff] at hfree
  exact hfree.2

theorem not_mem_keys_of_not_isWaiting {client : Client} {name : MessageName}
    (hfree : client.isWaiting name = false) (id : ℕ) :
    (name, id) ∉ client.pendingRequests.pending.keys := by
  rw [← Dict.get?_isSome]
  exact Bool.eq_false_iff.mp (contains_of_not_isWaiting hfree id)

/-- Cancelling the request that was just added leaves the registry as it was,
except that the key is no longer stale. -/
theorem cancel_nextRegistry {client : Client} {name : MessageName}
    (hfree : client.isWaiting name = false) (onCompletion : Callback) :
    ((client.nextRegistry name onCompletion).cancel name
      (nextMessageId client.lastMsgId) false).2 =
      client.pendingRequests.forgetStale (name, nextMessageId client.lastMsgId) := by
  have herase : (client.pendingRequests.pending.set (name, nextMessageId client.lastMsgId)
      (client.nextPending name onCompletion)).erase (name, nextMessageId client.lastMsgId) =
      client.pendingRequests.pending :=
    Dict.erase_set_of_not_mem _ _ _ (not_mem_keys_of_not_isWaiting hfree _)
  unfold PendingRequestRegistry.cancel
  simp only [Client.nextRegistry, Dict.get?_set_self, Bool.false_eq_true, if_false, herase]
  rfl

/-- A withdrawn request leaves its message ID and its serial number used up. -/
theorem core_afterFailedSend {client : Client} {name : MessageName}
    (hfree : client.isWaiting name = false) (onCompletion : Callback)
    (newState : Option ReaderState) :
    (client.afterFailedSend name onCompletion newState).core =
      { client.core with
        pendingRequests :=
          client.pendingRequests.forgetStale (name, nextMessageId client.lastMsgId)
        lastMsgId := nextMessageId client.lastMsgId
        nextSerial := client.nextSerial + 1 } := by
  have hdeferreds : (fun other => if other = name then
        List.filter (fun deferred : Deferred => deferred.serial ≠ client.nextSerial)
          (client.deferreds name ++ [⟨client.nextSerial, onCompletion⟩])
      else if other = name then client.deferreds name ++ [⟨client.nextSerial, onCompletion⟩]
      else client.deferreds other) = client.deferreds := by
    funext other
    by_cases hother : other = name
    · rw [if_pos hother, hother, deferreds_of_not_isWaiting hfree]
      simp
    · rw [if_neg hother, if_neg hother]
  have hcancel := cancel_nextRegistry hfree onCompletion
  cases newState with
  | none =>
    simp only [Client.afterFailedSend, Client.withdraw, reduceCtorEq, if_false]
    dsimp only [Client.requested, Client.setStateIf, Client.setRegistry, Client.reserve,
      Client.setDeferreds, Client.consumeWrite, Client.core, Client.nextPending]
    simp only [if_true]
    rw [hcancel]
    congr 1
  | some state =>
    simp only [Client.afterFailedSend, Client.withdraw, Client.requested, Client.setStateIf,
      Client.setRegistry, Client.setDeferreds, Client.consumeWrite, Client.setState, if_true,
      Client.core, Client.reserve, Client.nextPending]
    rw [hcancel]
    congr 1

end Outcomes

theorem state_afterSend (client : Client) (request : Request) (name : MessageName)
    (onCompletion : Callback) (state : ReaderState) :
    (client.afterSend request name onCompletion (some state)).state = state :=
  congrArg Core.state (core_afterSend client request name onCompletion (some state))

/-! ## The requests written -/

/-- The requests that were written. -/
def Client.requests (client : Client) : List Request :=
  client.history.filterMap fun
    | .sent _ _ request => some request
    | _ => none

theorem history_resetProtocolSession (client : Client) :
    client.resetProtocolSession.history = client.history := rfl

theorem history_hardDisconnect (client : Client) :
    client.hardDisconnect.history = client.history :=
  history_resetProtocolSession client.close

theorem requests_of_history {client later : Client} (hhistory : later.history = client.history) :
    later.requests = client.requests :=
  congrArg (List.filterMap _) hhistory

theorem requests_setState (client : Client) (state : ReaderState) :
    (client.setState state).requests = client.requests := rfl

theorem requests_afterSend (client : Client) (request : Request) (name : MessageName)
    (onCompletion : Callback) (newState : Option ReaderState) :
    (client.afterSend request name onCompletion newState).requests =
      client.requests ++ [request] := by
  have hcore := core_afterSend client request name onCompletion newState
  have hhistory : (client.afterSend request name onCompletion newState).history =
      client.history ++ [.sent (some client.nextSerial) (nextMessageId client.lastMsgId) request] :=
    congrArg Core.history hcore
  rw [Client.requests, hhistory, List.filterMap_append]
  rfl

/-! ## What sending leaves alone -/

/-- The part of the client that sending requests and setting states does not
touch: the configurations, what was read from the reader, what was generated,
and the transitions. -/
structure Profile where
  configs : ConfigRef → LLRPReaderConfig
  config : ConfigRef
  desiredConfig : ConfigRef
  capabilities : Option Capabilities
  readerConfig : Option ReaderConfiguration
  readerMode : Option ReaderMode
  dedupBackendActive : DedupBackend
  rospec : Option GeneratedROSpec
  inventoryRospecAdded : Bool
  generatedConfigSnapshot : Option LLRPReaderConfig
  disconnecting : Bool
  suppressSetConfigPostActions : Bool
  transitions : List ConfigTransition

def Client.profile (client : Client) : Profile where
  configs := client.configs
  config := client.config
  desiredConfig := client.desiredConfig
  capabilities := client.capabilities
  readerConfig := client.readerConfig
  readerMode := client.readerMode
  dedupBackendActive := client.dedupBackendActive
  rospec := client.rospec
  inventoryRospecAdded := client.inventoryRospecAdded
  generatedConfigSnapshot := client.generatedConfigSnapshot
  disconnecting := client.disconnecting
  suppressSetConfigPostActions := client.suppressSetConfigPostActions
  transitions := client.transitions

@[simp]
theorem profile_setState (client : Client) (newState : ReaderState) :
    (client.setState newState).profile = client.profile := rfl

theorem profile_afterSend (client : Client) (request : Request) (name : MessageName)
    (onCompletion : Callback) (newState : Option ReaderState) :
    (client.afterSend request name onCompletion newState).profile = client.profile := by
  cases newState <;>
    dsimp only [Client.afterSend, Client.requested, Client.setStateIf, Client.setRegistry,
      Client.reserve, Client.setDeferreds, Client.consumeWrite, Client.record, Client.setState,
      Client.profile]

theorem profile_afterFailedSend (client : Client) (name : MessageName) (onCompletion : Callback)
    (newState : Option ReaderState) :
    (client.afterFailedSend name onCompletion newState).profile = client.profile := by
  have hwithdraw : ∀ (later : Client) (pending : PendingRequest Callback) (previous : ReaderState),
      (later.withdraw pending newState previous).profile = later.profile := by
    intro later pending previous
    unfold Client.withdraw
    dsimp only
    split <;> rfl
  rw [Client.afterFailedSend, hwithdraw]
  cases newState <;>
    dsimp only [Client.requested, Client.setStateIf, Client.setRegistry, Client.reserve,
      Client.setDeferreds, Client.consumeWrite, Client.setState, Client.profile]

/-- Sending a request never touches the profile. -/
theorem profile_sendRequest (request : Request) (name : MessageName) (onCompletion : Callback)
    (newState : Option ReaderState) (client : Client) :
    ((sendRequest request name onCompletion newState).final client).profile = client.profile := by
  unfold Program.final
  cases hwaiting : client.isWaiting name with
  | true => rw [run_sendRequest_of_isWaiting hwaiting]
  | false =>
    rw [run_sendRequest hwaiting]
    cases client.nextWrite with
    | none => exact profile_afterSend client request name onCompletion newState
    | some raised => exact profile_afterFailedSend client name onCompletion newState

/-- An unregistered message is refused, written or lost. -/
theorem run_sendMessage (request : Request) (client : Client) :
    sendMessage request client =
      match request.name.response.filter client.isWaiting with
      | some name =>
        (.error (.readerConfigurationError
          s!"cannot send {request.name.text}: {name.text} is already pending"), client)
      | none =>
        let numbered := { client with lastMsgId := nextMessageId client.lastMsgId }
        write none (nextMessageId client.lastMsgId) request numbered := by
  unfold sendMessage
  rw [Program.run_get_bind]
  cases request.name.response.filter client.isWaiting <;> rfl

/-! ## The ROSpec -/

namespace Client

/-- The ROSpec built from the current configuration, as it is cached. -/
def generateROSpec (client : Client) (built : LLRPROSpec) : GeneratedROSpec where
  rospec :=
    if client.dedupBackendActive = .hardware then
      match client.settings.dedupSeconds with
      | none => built
      | some seconds => built.withHardwareDedup seconds
    else built
  source := client.config
  settings := client.settings

/-- Whether hardware deduplication is selected without a window. -/
def lacksDedupWindow (client : Client) : Bool :=
  client.dedupBackendActive = .hardware && client.settings.dedupSeconds.isNone

/-- Whether a ROSpec is cached or can be built. -/
def buildsROSpec (client : Client) : Bool :=
  client.rospec.isSome ||
    ((makeROSpec client.readerMode 1 (rospecSettings client.settings)).isOk &&
      !client.lacksDedupWindow)

end Client

/-- A ROSpec is taken from the cache, or built and cached. -/
theorem run_getROSpec (forceNew : Bool) (client : Client) :
    getROSpec forceNew client =
      match client.rospec.filter fun _ => !forceNew with
      | some rospec => (.ok rospec, client)
      | none =>
        match makeROSpec client.readerMode 1 (rospecSettings client.settings) with
        | .error raised => (.error raised, client)
        | .ok built =>
          (if client.lacksDedupWindow then
            .error (.typeError
              ("int() argument must be a string, a bytes-like object or a real number, " ++
                "not 'NoneType'"))
          else .ok (client.generateROSpec built),
            client.cacheROSpec (client.generateROSpec built)) := by
  unfold getROSpec
  rw [Program.run_get_bind]
  cases client.rospec.filter fun _ => !forceNew with
  | some rospec => rfl
  | none =>
    dsimp only
    rw [Program.run_bind, Program.run_ofExcept]
    cases makeROSpec client.readerMode 1 (rospecSettings client.settings) with
    | error raised => rfl
    | ok built =>
      dsimp only
      rw [Program.run_modify_bind]
      by_cases hhardware : client.dedupBackendActive = .hardware
      · rw [if_pos hhardware]
        cases hseconds : client.settings.dedupSeconds with
        | none =>
          have hlacks : client.lacksDedupWindow = true := by
            simp [Client.lacksDedupWindow, hhardware, hseconds]
          have hgenerated : client.generateROSpec built =
              ⟨built, client.config, client.settings⟩ := by
            rw [Client.generateROSpec, if_pos hhardware, hseconds]
          rw [hlacks, hgenerated]
          rfl
        | some seconds =>
          have hlacks : client.lacksDedupWindow = false := by
            simp [Client.lacksDedupWindow, hseconds]
          have hgenerated : client.generateROSpec built =
              ⟨built.withHardwareDedup seconds, client.config, client.settings⟩ := by
            rw [Client.generateROSpec, if_pos hhardware, hseconds]
          rw [hlacks, hgenerated]
          rfl
      · have hlacks : client.lacksDedupWindow = false := by
          simp [Client.lacksDedupWindow, hhardware]
        have hgenerated : client.generateROSpec built =
            ⟨built, client.config, client.settings⟩ := by
          rw [Client.generateROSpec, if_neg hhardware]
        rw [if_neg hhardware, hlacks, hgenerated]
        rfl

theorem settings_of_profile {client later : Client} (hprofile : later.profile = client.profile) :
    later.settings = client.settings := by
  have hconfig : later.config = client.config := congrArg Profile.config hprofile
  have hconfigs : later.configs = client.configs := congrArg Profile.configs hprofile
  rw [Client.settings, Client.settings, hconfigs, hconfig]

theorem buildsROSpec_of_profile {client later : Client}
    (hprofile : later.profile = client.profile) : later.buildsROSpec = client.buildsROSpec := by
  have hrospec : later.rospec = client.rospec := congrArg Profile.rospec hprofile
  have hmode : later.readerMode = client.readerMode := congrArg Profile.readerMode hprofile
  have hbackend : later.dedupBackendActive = client.dedupBackendActive :=
    congrArg Profile.dedupBackendActive hprofile
  unfold Client.buildsROSpec Client.lacksDedupWindow
  rw [hrospec, hmode, hbackend, settings_of_profile hprofile]

/-- Getting a ROSpec has no effect but the cache. It returns what is cached or
can be built. -/
theorem run_getROSpec_false (client : Client) :
    ∃ outcome later, getROSpec false client = (outcome, later) ∧
      outcome.isOk = client.buildsROSpec ∧
      (later = client ∨ ∃ rospec, later = client.cacheROSpec rospec) := by
  rw [run_getROSpec]
  unfold Client.buildsROSpec
  cases client.rospec with
  | some rospec => exact ⟨.ok rospec, client, rfl, rfl, Or.inl rfl⟩
  | none =>
    dsimp only [Option.filter]
    cases makeROSpec client.readerMode 1 (rospecSettings client.settings) with
    | error raised => exact ⟨.error raised, client, rfl, rfl, Or.inl rfl⟩
    | ok built =>
      refine ⟨_, _, rfl, ?_, Or.inr ⟨_, rfl⟩⟩
      cases client.lacksDedupWindow <;> rfl

end Sllurp.Session
