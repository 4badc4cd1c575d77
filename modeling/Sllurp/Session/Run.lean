/-
# Runs of the client

An action is one call into the client: an application call, a message, half of a
timeout, or an end of the transport. It comes with the outcomes of the writes
that the call attempts. Calls do not overlap; a call that raises leaves what it
had written to the state.
-/

import Sllurp.Session.Handle
import Sllurp.Foundations.Run

namespace Sllurp.Session

open Sllurp.Foundations Sllurp.Protocol Sllurp.Config Sllurp.Runtime

/-! ## The receive loop -/

namespace Client

/-- The receive loop has ended, and its thread with it. -/
def endThread (client : Client) : Client :=
  { client with reader := { client.reader with socketThread := false } }

/-- What the receive loop does after an exception: a failed socket counts as a
lost connection, anything else closes the session. -/
def afterException (client : Client) (raised : Exn) (retried : Bool) : Client :=
  match raised with
  | .osError _ =>
    let lost := client.onLostConnection retried
    if lost.reader.socket then lost else lost.endThread
  | _ => client.hardDisconnect.onDisconnected.endThread

end Client

/-- Handle one received message as the receive loop does. -/
def receive (message : LLRPMessage) (retried : Bool) : ClientM Unit :=
  (handleMessage message).handle fun raised => .modify (·.afterException raised retried)

/-! ## Actions -/

/-- One call into the client. -/
inductive Call
  | startInventory (forceRegenRospec : Bool)
  | stopPolitely (onCompletion : Bool)
  | pause (durationSeconds : ℚ) (force forceRegenRospec : Bool)
  | resume (forceRegenRospec : Bool)
  | timedResume (generation : ℕ) (forceRegenRospec : Bool)
  | setTxPower (txPower : Dict ℤ ℤ)
  | setTxPowerDbm (txPowDbm : Option (Dict ℤ ℚ))
  | startAccess (operation : AccessOperation)
  | nextAccess (operation : AccessOperation)
  | sendRequest (request : Request) (responseName : MessageName)
      (hresponse : responseName.isResponse = true) (newState : Option ReaderState)
  | sendMessages (messages : List (Request × Option ℕ))
  | applyConfig (newConfig : ConfigRef)
  | updateConfig (newConfig : ConfigRef)
  | handleMessage (message : LLRPMessage)
  | expire (key : Key)
  | onRequestTimeout (serial : ℕ)
  | timeout (key : Key)
  | readerApplyConfig (newConfig : ConfigRef)
  | readerUpdateConfig (newConfig : ConfigRef)
  | receive (message : LLRPMessage) (retried : Bool)
  | connect
  | disconnect
  | hardDisconnect
  | lost (retried : Bool)

/-- Whether the call handles a message or a timeout. -/
def Call.handles : Call → Bool
  | handleMessage _ | receive _ _ | expire _ | onRequestTimeout _ | timeout _ => true
  | _ => false

/-- A call with the outcomes of the writes it attempts. -/
structure Action where
  call : Call
  writes : List (Option Exn) := []

/-- Whether a timer runs for the request under a key. -/
def Client.hasTimer (client : Client) (key : Key) : Bool :=
  (client.pendingRequests.pending.get? key).any (·.timer)

/-- What a timer does, if one runs for the key. -/
def onTimer (key : Key) (program : ClientM Unit) : ClientM Unit := do
  let client ← Program.get
  if client.hasTimer key then program else pure ()

/-- The second half of the timeout of one request, if its first half is done. -/
def tellTimeout (serial : ℕ) : ClientM Unit := do
  let client ← Program.get
  match client.expiring.find? fun pending => pending.serial = serial with
  | none => pure ()
  | some pending => onRequestTimeout pending

/-- A timeout whose halves follow each other at once. -/
def timeout (key : Key) : ClientM Unit := do
  let client ← Program.get
  match (client.pendingRequests.expire key).1 with
  | none => pure ()
  | some pending =>
    expire key
    onRequestTimeout pending

/-- The program of a call. The value it returns is dropped. -/
def Call.program : Call → ClientM Unit
  | startInventory forceRegenRospec =>
    Session.startInventory forceRegenRospec .application (pure ())
  | stopPolitely onCompletion =>
    Session.stopPolitely (if onCompletion then .application else .absent) false
  | pause durationSeconds force forceRegenRospec =>
    Session.pause durationSeconds force forceRegenRospec
  | resume forceRegenRospec => Session.resume forceRegenRospec
  | timedResume generation forceRegenRospec => Session.timedResume generation forceRegenRospec
  | setTxPower txPower => Session.setTxPower txPower.entries true
  | setTxPowerDbm txPowDbm => Session.setTxPowerDbm txPowDbm
  | startAccess operation => Session.startAccess operation
  | nextAccess operation => Session.nextAccess operation
  | sendRequest request responseName _ newState =>
    Session.sendRequest request responseName .application newState
  | sendMessages messages => Session.sendMessages messages
  | applyConfig newConfig => do
    let _ ← Session.applyConfig newConfig .application
  | updateConfig newConfig => Session.updateConfig newConfig
  | handleMessage message => Session.handleMessage message
  | expire key => onTimer key (Session.expire key)
  | onRequestTimeout serial => tellTimeout serial
  | timeout key => onTimer key (Session.timeout key)
  | readerApplyConfig newConfig => do
    let _ ← Session.readerApplyConfig newConfig
  | readerUpdateConfig newConfig => Session.readerUpdateConfig newConfig
  | receive message retried => Session.receive message retried
  | connect => Session.connect
  | disconnect => Session.disconnect
  | hardDisconnect => .modify fun client => client.hardDisconnect
  | lost retried => .modify fun client => client.onLostConnection retried

/-- The client that an action finds: the outcomes of its writes are set. -/
def Client.facing (client : Client) (writes : List (Option Exn)) : Client := { client with writes }

/-- Take one action, returned or raised. -/
def act (client : Client) (action : Action) : Client :=
  action.call.program.final (client.facing action.writes)

/-! ## The initial state -/

/-- A new protocol client with its configuration objects, and with a reader
client that owns it or without. -/
def Client.initial (configs : ConfigRef → LLRPReaderConfig) (config : ConfigRef)
    (owned : Bool) : Client where
  configs := configs
  config := config
  desiredConfig := config
  state := .disconnected
  capabilities := none
  readerConfig := none
  readerConfigSummary := {}
  readerMode := none
  maxAnt := 0
  txPowerTable := []
  txPowerIndices := []
  dedupBackendActive := .disabled
  deferreds := fun _ => []
  pendingRequests := .make 512
  lastMsgId := 0
  rospec := none
  inventoryRospecAdded := false
  generatedConfigSnapshot := none
  appliedConfigSnapshot := none
  disconnecting := false
  suppressSetConfigPostActions := false
  pauseResumeTimer := none
  pauseResumeGeneration := 0
  transitions := []
  expiring := []
  nextSerial := 0
  writes := []
  history := []
  reader :=
    { owned
      config
      deduplicator := buildTagDeduplicator (configs config)
      port := if (configs config).tlsEnabled then 5085 else 5084
      portExplicit := false
      socket := false
      socketThread := false
      disconnectRequested := false
      stopMainLoop := false
      disconnectedNotified := false
      durationTimer := none
      partialData := []
      expectedBytes := 0 }

/-! ## A session -/

/-- A reader with one antenna and two power levels. -/
def oneAntenna : Capabilities :=
  { maxNumberOfAntennaSupported := some 1
    regulatoryCapabilities :=
      some (some
        { transmitPowerLevelTableEntry := [⟨1, 1000⟩, ⟨2, 2000⟩]
          uhfC1G2RFModeTable := some (some []) }) }

/-- A validated configuration whose requests time out. -/
def timedConfig : LLRPReaderConfig :=
  { txPower := .perAntenna (.ofList [(1, 2)]), requestTimeout := some 5 }

/-- Handle a response, with a status code and nothing else. -/
def respond (name : MessageName) (id : ℕ) (code : StatusCode) : Action :=
  ⟨.handleMessage (.response name id code), []⟩

/-- Open a session and answer the setup up to SET_READER_CONFIG. -/
def openSession : List Action :=
  [⟨.connect, []⟩, ⟨.handleMessage .connectionEvent, []⟩,
    ⟨.handleMessage
      { LLRPMessage.response .getReaderCapabilitiesResponse 1 .success with
        decodedCapabilities := oneAntenna }, []⟩,
    respond .getReaderConfigResponse 2 .success, respond .setReaderConfigResponse 4 .success]

/-- Open a session and answer what the reset and the start of the inventory
send, up to INVENTORYING. -/
def openInventory : List Action :=
  openSession ++
    [respond .deleteAccessspecResponse 5 .success, respond .deleteRospecResponse 6 .success,
      respond .addRospecResponse 7 .success, respond .enableRospecResponse 8 .success]

end Sllurp.Session
