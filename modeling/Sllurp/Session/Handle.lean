/-
# Completions and incoming messages

`runCallback` runs a completion callback; every use of it is recorded by
`invoke`. `processDeferreds` finds the callbacks that a response completes, and
`handleMessage` is the state machine over incoming messages, with one definition
for each branch on the runtime state.
-/

import Sllurp.Session.Apply

namespace Sllurp.Session

open Sllurp.Foundations Sllurp.Protocol Sllurp.Config Sllurp.Runtime

/-! ## Completion callbacks -/

/-- Call what a start or stop was asked to call on completion. -/
def runCompletion : Completion → Bool → ClientM Unit
  | .absent, _ => pure ()
  | .application, _ => pure ()
  | .resetStopped, isSuccess =>
    if isSuccess then do
      setState .connected
      let client ← Program.get
      if client.settings.startInventory then startInventory false .absent (pure ()) else pure ()
    else pure ()
  | .txPowerStopped, isSuccess =>
    if isSuccess then do
      setState .connected
      startInventory true .absent (pure ())
    else pure ()
  | .disconnectStopped, isSuccess =>
    .modify fun client =>
      (if isSuccess then client.setState .disconnected else client).hardDisconnect.onDisconnected
  | .deleted, isSuccess =>
    if isSuccess then do
      setState .connected
      startInventory true .absent (pure ())
    else pure ()
  | .afterStopped frame, isSuccess => frame.afterStopped isSuccess
  | .restarted frame, isSuccess => frame.restarted isSuccess
  | .restored frame error, isSuccess => frame.restored error isSuccess
  | .afterRospecCleanup frame error, isSuccess => frame.afterRospecCleanup error isSuccess

/-- Run the callback of a request. A failed setup request only logs. -/
def runCallback : Callback → Bool → ClientM Unit
  | .application, _ => pure ()
  | .getReaderCapabilitiesCb, isSuccess =>
    if isSuccess then setState .connected else pure ()
  | .enableImpinjExtCb, isSuccess =>
    if isSuccess then sendGetReaderCapabilities .getReaderCapabilitiesCb
    else .raise (.readerConfigurationError "ENABLE_IMPINJ_EXTENSIONS failed")
  | .getReaderConfigCb, isSuccess =>
    if isSuccess then setState .sentGetConfig else pure ()
  | .setReaderConfigCb, isSuccess =>
    if isSuccess then setState .sentSetConfig else pure ()
  | .enabledRospecCb onCompletion, isSuccess => do
    if isSuccess then setState .inventorying else pure ()
    runCompletion onCompletion isSuccess
  | .sendAddedRospecCb rospec onCompletion, isSuccess =>
    if isSuccess then do
      .modify fun client => { client with inventoryRospecAdded := true }
      sendEnableRospec rospec (.enabledRospecCb onCompletion)
    else runCompletion onCompletion false
  | .sendDeleteAccessspecCb onCompletion, isSuccess =>
    if isSuccess then stopAllROSpecs onCompletion else runCompletion onCompletion false
  | .stopAllRospecsCb onCompletion, isSuccess => do
    .modify fun client =>
      { client with
        inventoryRospecAdded := client.inventoryRospecAdded && !isSuccess
        rospec := none
        generatedConfigSnapshot := none }
    runCompletion onCompletion isSuccess
  | .disableRospecPauseCb durationSeconds forceRegenRospec, isSuccess =>
    if isSuccess then do
      setState .paused
      if 0 < durationSeconds then schedulePauseResume durationSeconds forceRegenRospec
      else pure ()
    else pure ()
  | .enableRospecResumeCb, isSuccess =>
    if isSuccess then setState .inventorying else pure ()
  | .addAccessspecCb accessSpecId, isSuccess =>
    if isSuccess then sendEnableAccessspec accessSpecId else pure ()
  | .disableAccessspecCb operation, _ =>
    sendDeleteAccessspec operation.accessSpecId (.startNextAccessspecCb operation)
  | .startNextAccessspecCb operation, _ => startAccess operation
  | .readerConfigApplied frame, isSuccess => frame.readerConfigApplied isSuccess
  | .oldReaderConfigRestored frame error, isSuccess =>
    frame.oldReaderConfigRestored error isSuccess

/-- Invoke the callback that was given to a request. -/
def invoke (deferred : Deferred) (isSuccess : Bool) : ClientM Unit := do
  .modify (·.record (.invoked deferred.serial isSuccess))
  runCallback deferred.callback isSuccess

/-- Invoke callbacks in turn; one that raises keeps the rest from running. -/
def invokeAll : List Deferred → Bool → ClientM Unit
  | [], _ => pure ()
  | deferred :: waiting, isSuccess => do
    invoke deferred isSuccess
    invokeAll waiting isSuccess

/-! ## Responses and timeouts -/

namespace Client

/-- Take a callback out of the deferred list of a name. -/
def dropDeferred (client : Client) (name : MessageName) (serial : ℕ) : Client :=
  client.setDeferreds name
    ((client.deferreds name).filter fun deferred => deferred.serial ≠ serial)

end Client

/-- The deferred list entry of a request. -/
def deferredOf (pending : PendingRequest Callback) : Deferred :=
  ⟨pending.serial, pending.callback⟩

/-- Complete the exact pending request. Without one, a stale response completes
nothing, and any other response completes every callback of its name. -/
def processDeferreds (name : MessageName) (isSuccess : Bool) (messageId : ℕ) :
    ClientM Unit := do
  let client ← Program.get
  match client.pendingRequests.pop name messageId with
  | (some pending, registry) =>
    .modify fun client =>
      ((client.setRegistry registry).dropDeferred name pending.serial).record
        (.answered pending.serial isSuccess)
    invoke (deferredOf pending) isSuccess
  | (none, _) =>
    if client.pendingRequests.isStale name messageId then pure ()
    else
      .modify (·.setDeferreds name [])
      invokeAll (client.deferreds name) isSuccess

/-- First half of a timeout: the registry drops the request. -/
def expire (key : Key) : ClientM Unit :=
  .modify fun client =>
    match client.pendingRequests.expire key with
    | (none, _) => client
    | (some pending, registry) =>
      { client.setRegistry registry with
        expiring := client.expiring ++ [pending] }.record (.expired pending.serial)

/-- Second half of a timeout: the callback hears that its request failed. -/
def onRequestTimeout (pending : PendingRequest Callback) : ClientM Unit := do
  .modify fun client =>
    { client with
      expiring := client.expiring.filter fun other =>
        other.serial ≠ pending.serial }.dropDeferred pending.responseName pending.serial
  invoke (deferredOf pending) false

/-! ## The state machine -/

/-- Whether the configuration explicitly needs the Impinj extensions. -/
def usesImpinjExtensions (config : LLRPReaderConfig) : Bool :=
  config.impinjSearchMode.any (· ≠ 0) || truthy config.impinjTagContentSelector ||
    config.impinjExtendedConfiguration || truthy config.impinjEventSelector ||
    config.impinjFixedFrequency

/-- Read the status code for an error log. -/
def readStatus (message : LLRPMessage) : ClientM Unit := do
  let status ← Program.ofExcept (key "LLRPStatus" message.status)
  let _ ← Program.ofExcept (key "StatusCode" status.statusCode)

/-- Read the event data of a notification for an error log. -/
def readEvent (message : LLRPMessage) : ClientM Unit := do
  let _ ← Program.ofExcept (key "ReaderEventNotificationData" message.event)

/-- Complete the request that the message answers. -/
def complete (message : LLRPMessage) (isSuccess : Bool) : ClientM Unit :=
  processDeferreds message.name isSuccess message.id

/-- Without a session only the connection event counts: it opens the setup. -/
def handleConnecting (message : LLRPMessage) : ClientM Unit :=
  if message.name ≠ .readerEventNotification then pure ()
  else if !message.isSuccess then readEvent message
  else do
    .modify fun client => { client with disconnecting := false }
    complete message true
    let client ← Program.get
    if usesImpinjExtensions client.settings then
      sendEnableImpinjExtensions .enableImpinjExtCb
    else sendGetReaderCapabilities .getReaderCapabilitiesCb

def handleSentEnableImpinjExtensions (message : LLRPMessage) : ClientM Unit :=
  if message.name ≠ .impinjEnableExtensionsResponse then
    .raise (.readerConfigurationError "Unexpected response while enabling Impinj extensions")
  else if message.isSuccess then complete message true
  else do
    readStatus message
    complete message false
    .raise (.readerConfigurationError "ENABLE_IMPINJ_EXTENSIONS failed")

/-- The capabilities are stored and checked before the request completes. -/
def handleSentGetCapabilities (message : LLRPMessage) : ClientM Unit :=
  if message.name ≠ .getReaderCapabilitiesResponse then
    .raise (.readerConfigurationError "Unexpected response while getting capabilities")
  else if message.isSuccess then do
    .modify fun client => { client with capabilities := some message.capabilities }
    parseCapabilities message.capabilities
    complete message true
    let client ← Program.get
    if client.disconnecting then pure () else sendGetReaderConfig .getReaderConfigCb
  else do
    readStatus message
    complete message false
    .raise (.readerConfigurationError "Error getting capabilities")

def handleSentGetConfig (message : LLRPMessage) : ClientM Unit :=
  if message.name ∉ [.getReaderConfigResponse, .deleteAccessspecResponse,
      .deleteRospecResponse] then
    .raise (.readerConfigurationError "Unexpected response while getting reader config")
  else if message.isSuccess then do
    if message.name = .getReaderConfigResponse then
      .modify fun client =>
        { client with
          readerConfig := some message.readerConfig
          readerConfigSummary := parseReaderConfig message.readerConfig }
    else pure ()
    complete message true
    let client ← Program.get
    if client.disconnecting then pure ()
    else
      sendEnableEventsAndReports
      sendSetReaderConfig .setReaderConfigCb
  else do
    readStatus message
    complete message false
    .raise (.readerConfigurationError "Error getting reader config")

/-- What follows the setup: stop what the reader still runs, or start the
inventory, or nothing. -/
def finishSetup : ClientM Unit := do
  let client ← Program.get
  if client.disconnecting then pure ()
  else if client.settings.resetOnConnect then stopPolitely .resetStopped false
  else if client.settings.startInventory then startInventory false .absent (pure ())
  else pure ()

/-- A live transition suppresses what follows the setup. -/
def handleSentSetConfig (message : LLRPMessage) : ClientM Unit :=
  if message.name ∉ [.setReaderConfigResponse, .getReaderConfigResponse,
      .deleteAccessspecResponse] then
    .raise (.readerConfigurationError "Unexpected response while setting reader config")
  else if message.isSuccess then do
    let client ← Program.get
    if client.suppressSetConfigPostActions then
      .modify fun client =>
        { client with suppressSetConfigPostActions := false }.setState .connected
      complete message true
    else
      complete message true
      finishSetup
  else do
    readStatus message
    let client ← Program.get
    .modify fun client => { client with suppressSetConfigPostActions := false }
    complete message false
    if client.suppressSetConfigPostActions then pure ()
    else .raise (.readerConfigurationError "Error setting reader config")

/-- A failed start is fatal unless its callback moved on. -/
def handleSentAddRospec (message : LLRPMessage) : ClientM Unit :=
  if message.name ≠ .addRospecResponse then
    .raise (.readerConfigurationError "Unexpected response while adding ROSpec")
  else if message.isSuccess then complete message true
  else do
    readStatus message
    let client ← Program.get
    complete message false
    let later ← Program.get
    if later.state = .sentAddRospec ∧ later.lastMsgId = client.lastMsgId then
      .raise (.readerConfigurationError "Error adding ROSpec")
    else pure ()

def handleSentEnableRospec (message : LLRPMessage) : ClientM Unit :=
  if message.name ≠ .enableRospecResponse then pure ()
  else if message.isSuccess then complete message true
  else do
    readStatus message
    complete message false

/-- States that complete whatever arrives, after they read the status of a
failure. -/
def handleAny (message : LLRPMessage) : ClientM Unit :=
  if message.isSuccess then complete message true
  else do
    readStatus message
    complete message false

def handlePausing (message : LLRPMessage) : ClientM Unit := handleAny message

def handleSentStartRospec (message : LLRPMessage) : ClientM Unit :=
  if message.name = .roAccessReport ∨ message.name = .readerEventNotification then pure ()
  else handleAny message

def handleInventorying (message : LLRPMessage) : ClientM Unit :=
  if message.name ∈ [.roAccessReport, .readerEventNotification, .addAccessspecResponse,
      .enableAccessspecResponse, .disableAccessspecResponse, .deleteAccessspecResponse] then
    complete message message.isSuccess
  else pure ()

def handleSentDeleteAccessspec (message : LLRPMessage) : ClientM Unit :=
  complete message message.isSuccess

def handleSentDeleteRospec (message : LLRPMessage) : ClientM Unit := handleAny message

/-- The branches on the runtime state. -/
def dispatch (state : ReaderState) (message : LLRPMessage) : ClientM Unit :=
  match state with
  | .disconnected | .connecting | .connected => handleConnecting message
  | .sentEnableImpinjExtensions => handleSentEnableImpinjExtensions message
  | .sentGetCapabilities => handleSentGetCapabilities message
  | .sentGetConfig => handleSentGetConfig message
  | .sentSetConfig => handleSentSetConfig message
  | .sentAddRospec => handleSentAddRospec message
  | .sentEnableRospec => handleSentEnableRospec message
  | .pausing => handlePausing message
  | .sentStartRospec => handleSentStartRospec message
  | .inventorying => handleInventorying message
  | .sentDeleteAccessspec => handleSentDeleteAccessspec message
  | .sentDeleteRospec => handleSentDeleteRospec message
  | .paused => pure ()

/-- Whether the filters before the state machine take a message out: a stale or
unmatched response, a report while not inventorying, an event in a session. -/
def ignored (client : Client) (message : LLRPMessage) : Bool :=
  let registry := client.pendingRequests
  (message.name.isResponse &&
    (registry.isStale message.name message.id ||
      (registry.hasResponseType message.name && !registry.contains message.name message.id))) ||
  (message.name = .roAccessReport && client.state ≠ .inventorying) ||
  (message.name = .readerEventNotification &&
    ReaderState.connected.value ≤ client.state.value)

/-- Handle one message. A KEEPALIVE is acknowledged in any state. -/
def handleMessage (message : LLRPMessage) : ClientM Unit := do
  let client ← Program.get
  if message.name = .keepalive then sendKeepaliveAck message.id
  else if ignored client message then pure ()
  else dispatch client.state message

end Sllurp.Session
