/-
# State changes and requests

Every request goes through `sendRequest`: it is refused while another one
of its response type waits, registered before it is written, and taken back with
the state it set when the write fails. The functions named after the messages
build the bodies.
-/

import Sllurp.Session.State

namespace Sllurp.Session

open Sllurp.Foundations Sllurp.Protocol Sllurp.Config Sllurp.Runtime

/-! ## Timers and the runtime state -/

namespace Reader

/-- Arm the timer that ends a bounded inventory, from the reader client's own
configuration. -/
def scheduleDurationDisconnect (reader : Reader) (config : LLRPReaderConfig) : Reader :=
  { reader with
    durationTimer := if config.disconnectWhenDone then config.duration.filter (0 < ·) else none }

def cancelDurationTimer (reader : Reader) : Reader := { reader with durationTimer := none }

/-- What the reader client does when it hears of a new state. -/
def onLlrpStateChanged (reader : Reader) (config : LLRPReaderConfig) (newState : ReaderState) :
    Reader :=
  if reader.owned then
    match newState with
    | .inventorying => reader.scheduleDurationDisconnect config
    | .disconnected => reader.cancelDurationTimer
    | _ => reader
  else reader

end Reader

namespace Client

/-- Cancel the end of a timed pause and invalidate a callback under way. -/
def cancelPauseResumeTimer (client : Client) : Client :=
  { client with
    pauseResumeTimer := none
    pauseResumeGeneration := client.pauseResumeGeneration + 1 }

/-- Set the runtime state. Leaving the session drops the applied snapshot and
the pause timer, inventorying takes a new snapshot of the configuration. -/
def setState (client : Client) (newState : ReaderState) : Client :=
  { client with
    state := newState
    appliedConfigSnapshot :=
      match newState with
      | .disconnected => none
      | .inventorying => some client.settings
      | _ => client.appliedConfigSnapshot
    pauseResumeTimer := if newState = .disconnected then none else client.pauseResumeTimer
    pauseResumeGeneration :=
      if newState = .disconnected then client.pauseResumeGeneration + 1
      else client.pauseResumeGeneration
    reader := client.reader.onLlrpStateChanged (client.configs client.reader.config) newState }

def setDeferreds (client : Client) (name : MessageName) (waiting : List Deferred) : Client :=
  { client with
    deferreds := fun other => if other = name then waiting else client.deferreds other }

def setRegistry (client : Client) (registry : PendingRequestRegistry Callback) : Client :=
  { client with pendingRequests := registry }

/-- Whether a request of the response type is still waiting somewhere. -/
def isWaiting (client : Client) (name : MessageName) : Bool :=
  client.pendingRequests.hasResponseType name || !(client.deferreds name).isEmpty

end Client

def setState (newState : ReaderState) : ClientM Unit := .modify (·.setState newState)

/-! ## Writing -/

/-- The successor of a message ID, from the last one back to 1. -/
@[irreducible]
def nextMessageId (lastMsgId : ℕ) : ℕ := if lastMsgId < llrpMsgIdMax then lastMsgId + 1 else 1

/-- Serialize and write one message. The write may raise; only a write that
went through is recorded. -/
def write (serial : Option ℕ) (messageId : ℕ) (request : Request) : ClientM Unit := do
  let client ← Program.get
  match client.writes with
  | [] => .modify (·.record (.sent serial messageId request))
  | none :: writes =>
    .modify fun client => { client with writes }.record (.sent serial messageId request)
  | some raised :: writes => do
    .modify fun client => { client with writes }
    .raise raised

/-- Write a message that no completion waits for. -/
def sendMessage (request : Request) : ClientM Unit := do
  let client ← Program.get
  let response := request.name.response.filter client.isWaiting
  match response with
  | some name =>
    .raise (.readerConfigurationError
      s!"cannot send {request.name.text}: {name.text} is already pending")
  | none =>
    let messageId := nextMessageId client.lastMsgId
    .modify fun client => { client with lastMsgId := messageId }
    write none messageId request

/-- The IDs that the messages of one call are sent under, and the last ID after
them. An explicit ID becomes the last one. -/
def prepareIds : List (Option ℕ) → ℕ → List ℕ × ℕ
  | [], lastMsgId => ([], lastMsgId)
  | existingId :: rest, lastMsgId =>
    let messageId := existingId.getD (nextMessageId lastMsgId)
    let prepared := prepareIds rest messageId
    (messageId :: prepared.1, prepared.2)

/-- Write several messages in one call, with an explicit ID or without. The
serializer takes the first message of the mapping. -/
def sendMessages (messages : List (Request × Option ℕ)) : ClientM Unit := do
  let client ← Program.get
  match messages.findSome? fun message =>
      (message.1.name.response.filter client.isWaiting).map (message.1.name, ·) with
  | some (name, response) =>
    .raise (.readerConfigurationError
      s!"cannot send {name.text}: {response.text} is already pending")
  | none =>
    let prepared := prepareIds (messages.map Prod.snd) client.lastMsgId
    .modify fun client => { client with lastMsgId := prepared.2 }
    match messages, prepared.1 with
    | message :: _, messageId :: _ =>
      if messageId ≤ llrpMsgIdMax then write none messageId message.1
      else .raise (.structError "'I' format requires 0 <= number <= 4294967295")
    | _, _ => .raise (.llrpError "Provide either a message dict or a sequence of bytes.")

/-- Acknowledge a KEEPALIVE under the ID the reader gave it. -/
def sendKeepaliveAck (messageId : ℕ) : ClientM Unit :=
  if messageId ≤ llrpMsgIdMax then write none messageId ⟨.keepaliveAck, .bare⟩
  else .raise (.llrpError s!"invalid KEEPALIVE MessageID: {messageId}")

namespace Client

/-- The request object that the next registration creates. -/
def nextPending (client : Client) (name : MessageName) (onCompletion : Callback) :
    PendingRequest Callback where
  responseName := name
  messageId := nextMessageId client.lastMsgId
  callback := onCompletion
  timer := client.settings.requestTimeout.isSome
  serial := client.nextSerial

/-- The client with a callback deferred and a message ID taken. -/
def reserve (client : Client) (name : MessageName) (onCompletion : Callback) : Client :=
  { client.setDeferreds name
      (client.deferreds name ++ [⟨client.nextSerial, onCompletion⟩]) with
    lastMsgId := nextMessageId client.lastMsgId
    nextSerial := client.nextSerial + 1 }

/-- Set the state that goes with a request, if there is one. -/
def setStateIf (client : Client) (newState : Option ReaderState) : Client :=
  match newState with
  | none => client
  | some state => client.setState state

/-- Take back a request whose write failed, and the state it set. -/
def withdraw (client : Client) (request : PendingRequest Callback)
    (newState : Option ReaderState) (previous : ReaderState) : Client :=
  let name := request.responseName
  let remaining := (client.deferreds name).filter fun deferred => deferred.serial ≠ request.serial
  let withdrawn :=
    (client.setDeferreds name remaining).setRegistry
      (client.pendingRequests.cancel name request.messageId false).2
  if newState = some withdrawn.state then withdrawn.setState previous else withdrawn

end Client

/-- Register a request, set the state that stands for waiting, and write. A write
that raises an exception takes the request back. -/
def sendRequest (request : Request) (responseName : MessageName) (onCompletion : Callback)
    (newState : Option ReaderState) : ClientM Unit := do
  let client ← Program.get
  if client.isWaiting responseName then
    .raise (.readerConfigurationError
      s!"cannot send request: {responseName.text} is already pending")
  else
    let pending := client.nextPending responseName onCompletion
    .modify (·.reserve responseName onCompletion)
    match client.pendingRequests.register pending with
    | .error raised => .raise raised
    | .ok registry =>
      .modify fun client => (client.setRegistry registry).setStateIf newState
      (write (some pending.serial) pending.messageId request).handle fun raised => do
        .modify (·.withdraw pending newState client.state)
        .raise raised

/-! ## The messages -/

def sendEnableImpinjExtensions (onCompletion : Callback) : ClientM Unit :=
  sendRequest ⟨.impinjEnableExtensions, .bare⟩ .impinjEnableExtensionsResponse onCompletion
    (some .sentEnableImpinjExtensions)

def sendGetReaderCapabilities (onCompletion : Callback) : ClientM Unit :=
  sendRequest ⟨.getReaderCapabilities, .capabilities 0⟩ .getReaderCapabilitiesResponse
    onCompletion (some .sentGetCapabilities)

def sendGetReaderConfig (onCompletion : Callback) : ClientM Unit := do
  let client ← Program.get
  let impinj := if client.settings.impinjExtendedConfiguration then some 2000 else none
  sendRequest ⟨.getReaderConfig, .readerConfig 0 impinj⟩ .getReaderConfigResponse onCompletion
    (some .sentGetConfig)

def sendEnableEventsAndReports : ClientM Unit := sendMessage ⟨.enableEventsAndReports, .bare⟩

/-- The event, keepalive, GPI and vendor settings of a configuration. -/
def readerSettings (config : LLRPReaderConfig) : ReaderSettings where
  keepalive := if 0 < config.keepaliveInterval then some config.keepaliveInterval else none
  eventNotificationState := defaultEventSelector.update config.eventSelector.entries
  impinjAntennaEvent := config.impinjEventSelector.bind (·.get? "AntennaAttemptEvent")
  gpiPorts := config.gpiPortsConfig.entries

def sendSetReaderConfig (onCompletion : Callback) : ClientM Unit := do
  let client ← Program.get
  sendRequest ⟨.setReaderConfig, .settings (readerSettings client.settings) client.config⟩
    .setReaderConfigResponse onCompletion (some .sentSetConfig)

def sendAddRospec (rospec : GeneratedROSpec) (onCompletion : Callback) : ClientM Unit :=
  sendRequest ⟨.addRospec, .rospec rospec.rospec.roSpecId rospec⟩ .addRospecResponse onCompletion
    (some .sentAddRospec)

def sendEnableRospec (rospec : GeneratedROSpec) (onCompletion : Callback) : ClientM Unit :=
  sendRequest ⟨.enableRospec, .rospecId rospec.rospec.roSpecId⟩ .enableRospecResponse
    onCompletion (some .sentEnableRospec)

def sendDisableRospec (rospec : GeneratedROSpec) (onCompletion : Callback) : ClientM Unit :=
  sendRequest ⟨.disableRospec, .rospecId rospec.rospec.roSpecId⟩ .disableRospecResponse
    onCompletion (some .pausing)

/-- Delete every ROSpec. -/
def sendDeleteRospecs (onCompletion : Callback) : ClientM Unit :=
  sendRequest ⟨.deleteRospec, .rospecId 0⟩ .deleteRospecResponse onCompletion
    (some .sentDeleteRospec)

/-- Delete every AccessSpec and wait for it as a state of the client. -/
def sendDeleteAccessspecs (onCompletion : Callback) : ClientM Unit :=
  sendRequest ⟨.deleteAccessspec, .accessSpecId 0⟩ .deleteAccessspecResponse onCompletion
    (some .sentDeleteAccessspec)

def sendAddAccessspec (accessSpec : AccessSpec) (onCompletion : Callback) : ClientM Unit :=
  sendRequest ⟨.addAccessspec, .accessSpec accessSpec⟩ .addAccessspecResponse onCompletion none

/-- Disable an AccessSpec and track completion. -/
def sendDisableAccessspec (accessSpecId : ℕ) (onCompletion : Callback) : ClientM Unit :=
  sendRequest ⟨.disableAccessspec, .accessSpecId accessSpecId⟩ .disableAccessspecResponse
    onCompletion none

/-- Enable an AccessSpec; nobody tracks completion. -/
def sendEnableAccessspec (accessSpecId : ℕ) : ClientM Unit :=
  sendMessage ⟨.enableAccessspec, .accessSpecId accessSpecId⟩

/-- Delete one AccessSpec and track completion. -/
def sendDeleteAccessspec (accessSpecId : ℕ) (onCompletion : Callback) : ClientM Unit :=
  sendRequest ⟨.deleteAccessspec, .accessSpecId accessSpecId⟩ .deleteAccessspecResponse
    onCompletion none

end Sllurp.Session
