/-
# The state of the client

One record holds the protocol client and the reader client that owns it, the
configuration objects both refer to, and the transitions their callers hold.
Completion callbacks are closures in the source; here each is a constructor with
the variables it captures. The record also carries what only an observer sees:
the outcomes of the writes to come, and the history of the run.
-/

import Sllurp.Config.Policy
import Sllurp.Config.Validate
import Sllurp.Protocol.ROSpec
import Sllurp.Protocol.ReaderConfiguration
import Sllurp.Runtime.Registry

namespace Sllurp.Session

open Sllurp.Foundations Sllurp.Protocol Sllurp.Config Sllurp.Runtime

/-- The identity of a configuration object. -/
abbrev ConfigRef : Type := ℕ

/-- The identity of a `ConfigTransition` object. -/
abbrev TransitionId : Type := ℕ

def llrpMsgIdMax : ℕ := 4294967295

/-! ## Access operations -/

structure C1G2TargetTag where
  mb : ℕ := 0
  isMatch : ℕ := 1
  pointer : ℕ := 0
  tagMask : String := ""
  tagData : String := ""
  deriving DecidableEq

structure C1G2LockPayload where
  privilege : ℕ
  dataField : ℕ
  deriving DecidableEq

/-- The operations of an AccessSpec. The last one stands for the operation
classes that `startAccess` does not support. -/
inductive C1G2OpSpec
  | read (opSpecId accessPassword mb wordPtr wordCount : ℕ)
  | write (opSpecId accessPassword mb wordPtr writeDataWordCount : ℕ) (writeData : List UInt8)
  | blockWrite (opSpecId accessPassword mb wordPtr writeDataWordCount : ℕ)
      (writeData : List UInt8)
  | lock (opSpecId accessPassword : ℕ) (lockPayload : List C1G2LockPayload)
  | unsupported
  deriving DecidableEq

/-- The arguments of `startAccess`. -/
structure AccessOperation where
  opSpec : C1G2OpSpec
  targetSpec : List C1G2TargetTag := []
  stopAfterCount : ℕ := 0
  accessSpecId : ℕ := 1
  deriving DecidableEq

/-- An AccessSpec as it is sent. -/
structure AccessSpec where
  accessSpecId : ℕ
  antennaId : ℕ := 0
  protocolId : ℕ := 1
  currentState : Bool := false
  roSpecId : ℕ := 0
  accessSpecStopTriggerType : ℕ
  operationCountValue : ℕ
  c1G2TargetTag : List C1G2TargetTag
  opSpecParameter : C1G2OpSpec
  accessReportTrigger : ℕ := 1
  deriving DecidableEq

/-! ## Messages sent -/

/-- A generated ROSpec, with the object and the content of the configuration it
was generated from. -/
structure GeneratedROSpec where
  rospec : LLRPROSpec
  source : ConfigRef
  settings : LLRPReaderConfig

/-- The configurable part of SET_READER_CONFIG. -/
structure ReaderSettings where
  keepalive : Option ℤ
  eventNotificationState : Dict String Bool
  impinjAntennaEvent : Option Bool
  gpiPorts : List (ℤ × Bool)
  deriving DecidableEq

/-- The bodies of the messages the client sends. SET_READER_CONFIG comes with
the configuration object it was generated from. -/
inductive Body
  | bare
  | capabilities (requestedData : ℕ)
  | readerConfig (requestedData : ℕ) (impinjRequestedData : Option ℕ)
  | settings (settings : ReaderSettings) (source : ConfigRef)
  | rospec (roSpecId : ℕ) (rospec : GeneratedROSpec)
  | rospecId (roSpecId : ℕ)
  | accessSpec (accessSpec : AccessSpec)
  | accessSpecId (accessSpecId : ℕ)

/-- A message to send. -/
structure Request where
  name : RequestName
  body : Body

/-! ## Configuration transitions -/

/-- The three values of a transition's status. -/
inductive TransitionStatus
  | pending
  | success
  | failed
  deriving DecidableEq, Repr

/-- The observable result of applying a configuration. -/
structure ConfigTransition where
  plan : ConfigTransitionPlan
  oldConfig : ConfigRef
  newConfig : ConfigRef
  status : TransitionStatus := .pending
  error : Option String := none

/-- Whether the transition has reached a terminal status. -/
def ConfigTransition.done (transition : ConfigTransition) : Bool :=
  transition.status ≠ .pending

/-- What hears that a transition ended: the application, or the reader client's
`completed`, which captures the configurations of its own layer. -/
inductive Hook
  | application
  | completed (newConfig oldConfig : ConfigRef)
  deriving DecidableEq

/-- The states from which a transition can go through its chain. -/
inductive LiveState
  | connected
  | inventorying
  | paused
  deriving DecidableEq, Repr

def LiveState.state : LiveState → ReaderState
  | connected => .connected
  | inventorying => .inventorying
  | paused => .paused

/-- The live state that a runtime state is, if it is one. -/
def LiveState.of? : ReaderState → Option LiveState
  | .connected => some connected
  | .inventorying => some inventorying
  | .paused => some paused
  | _ => none

/-- The variables that the callbacks of one live transition capture. -/
structure ApplyFrame where
  transition : TransitionId
  plan : ConfigTransitionPlan
  oldConfig : ConfigRef
  newConfig : ConfigRef
  originalState : LiveState
  newReaderConfigApplied : Bool
  hook : Hook

/-! ## Callbacks -/

/-- What `startInventory`, `stopPolitely` and `stopAllROSpecs` can be asked to
call on completion, with the variables it captures. -/
inductive Completion
  | absent
  | application
  | resetStopped
  | txPowerStopped
  | disconnectStopped
  | deleted
  | afterStopped (frame : ApplyFrame)
  | restarted (frame : ApplyFrame)
  | restored (frame : ApplyFrame) (error : String)
  | afterRospecCleanup (frame : ApplyFrame) (error : String)

/-- The callbacks given to requests, by the function that defines them, with the
variables they capture. -/
inductive Callback
  | application
  | getReaderCapabilitiesCb
  | enableImpinjExtCb
  | getReaderConfigCb
  | setReaderConfigCb
  | enabledRospecCb (onCompletion : Completion)
  | sendAddedRospecCb (rospec : GeneratedROSpec) (onCompletion : Completion)
  | sendDeleteAccessspecCb (onCompletion : Completion)
  | stopAllRospecsCb (onCompletion : Completion)
  | disableRospecPauseCb (durationSeconds : ℚ) (forceRegenRospec : Bool)
  | enableRospecResumeCb
  | addAccessspecCb (accessSpecId : ℕ)
  | disableAccessspecCb (operation : AccessOperation)
  | startNextAccessspecCb (operation : AccessOperation)
  | readerConfigApplied (frame : ApplyFrame)
  | oldReaderConfigRestored (frame : ApplyFrame) (error : String)

/-- A callback waiting in the deferred list of a response name. The serial
number is that of the request it was given to. -/
structure Deferred where
  serial : ℕ
  callback : Callback

/-! ## Incoming messages -/

/-- A decoded message. Every response was refused by its decoder unless it
carried an LLRPStatus. The capabilities, the configuration and the event data are
read of the messages that carry them only. -/
structure LLRPMessage where
  name : MessageName
  id : ℕ
  ver : ℕ := 1
  status : Option LLRPStatus := none
  decodedCapabilities : Capabilities := {}
  decodedConfig : ReaderConfiguration := {}
  event : Option ReaderEventNotificationData := none
  others : Dict String Codec.Value := .empty
  statusOfResponse : name.isResponse = true → status.isSome = true

/-- The mapping of the message, less the parameters that the client reads from it. -/
def LLRPMessage.envelope (message : LLRPMessage) : Envelope where
  ver := message.ver
  type := message.name.type
  id := message.id
  status := message.status
  others := message.others

/-- The mapping of a capabilities response. -/
def LLRPMessage.capabilities (message : LLRPMessage) : Capabilities :=
  { message.decodedCapabilities with envelope := message.envelope }

/-- The mapping of a configuration response. -/
def LLRPMessage.readerConfig (message : LLRPMessage) : ReaderConfiguration :=
  { message.decodedConfig with envelope := message.envelope }

/-- Whether the message carries a status that reports success. -/
def LLRPMessage.isSuccess (message : LLRPMessage) : Bool :=
  if message.name = .readerEventNotification then
    match message.event with
    | none => false
    | some event =>
      match event.connectionAttemptEvent with
      | some status => status = .success
      | none => event.antennaConnected.getD false
  else
    match message.status with
    | some status => status.statusCode = some .success
    | none => false

/-- A response with a status code and nothing else. -/
def LLRPMessage.response (name : MessageName) (id : ℕ) (code : StatusCode) : LLRPMessage where
  name := name
  id := id
  status := some { statusCode := some code }
  statusOfResponse _ := rfl

/-- The event that opens a session. -/
def LLRPMessage.connectionEvent : LLRPMessage where
  name := .readerEventNotification
  id := 0
  event := some { connectionAttemptEvent := some .success }
  statusOfResponse h := by cases h

/-! ## Observations -/

/-- What happened in a run: writes that went through, responses that completed
their exact request, requests that expired, and callbacks that were invoked. -/
inductive Event
  | sent (serial : Option ℕ) (messageId : ℕ) (request : Request)
  | answered (serial : ℕ) (isSuccess : Bool)
  | expired (serial : ℕ)
  | invoked (serial : ℕ) (isSuccess : Bool)

/-! ## The reader client -/

/-- The settings of the tag report deduplicator. -/
structure DeduplicatorSettings where
  windowSeconds : ℤ
  includeAntenna : Bool
  maxEntries : ℤ
  deriving DecidableEq

/-- The attributes of the reader client. `owned` tells whether a reader client
owns the protocol client and hears its state changes. -/
structure Reader where
  owned : Bool
  config : ConfigRef
  deduplicator : Option DeduplicatorSettings
  port : ℕ
  portExplicit : Bool
  socket : Bool
  socketThread : Bool
  disconnectRequested : Bool
  stopMainLoop : Bool
  disconnectedNotified : Bool
  durationTimer : Option ℚ
  partialData : List UInt8
  expectedBytes : ℕ

/-! ## The protocol client -/

/-- A scheduled end of a timed pause. -/
structure PauseTimer where
  durationSeconds : ℚ
  generation : ℕ
  forceRegenRospec : Bool
  deriving DecidableEq

/-- Where timed deduplication happens. -/
inductive DedupBackend
  | disabled
  | memory
  | hardware
  deriving DecidableEq, Repr

/-- The protocol client, its owner and the objects they refer to. -/
structure Client where
  configs : ConfigRef → LLRPReaderConfig
  config : ConfigRef
  desiredConfig : ConfigRef
  state : ReaderState
  capabilities : Option Capabilities
  readerConfig : Option ReaderConfiguration
  readerConfigSummary : ReaderConfigSummary
  readerMode : Option ReaderMode
  maxAnt : ℕ
  txPowerTable : List ℚ
  txPowerIndices : List ℕ
  dedupBackendActive : DedupBackend
  deferreds : MessageName → List Deferred
  pendingRequests : PendingRequestRegistry Callback
  lastMsgId : ℕ
  rospec : Option GeneratedROSpec
  inventoryRospecAdded : Bool
  generatedConfigSnapshot : Option LLRPReaderConfig
  appliedConfigSnapshot : Option LLRPReaderConfig
  disconnecting : Bool
  suppressSetConfigPostActions : Bool
  pauseResumeTimer : Option PauseTimer
  pauseResumeGeneration : ℕ
  transitions : List ConfigTransition
  expiring : List (PendingRequest Callback)
  nextSerial : ℕ
  writes : List (Option Exn)
  history : List Event
  reader : Reader

/-- Programs over the client. -/
abbrev ClientM : Type → Type := Program Client Exn

namespace Client

variable (client : Client)

/-- The content of the current configuration. -/
def settings : LLRPReaderConfig := client.configs client.config

/-- Change the content of one configuration object. -/
def setConfig (ref : ConfigRef) (content : LLRPReaderConfig) : Client :=
  { client with configs := fun other => if other = ref then content else client.configs other }

/-- Append to the history. -/
def record (event : Event) : Client := { client with history := client.history ++ [event] }

end Client

end Sllurp.Session
