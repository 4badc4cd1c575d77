/-
# Configuration transitions

`applyConfig` commits a client-only change at once and takes every other change
through a chain of requests: stop, install, SET_READER_CONFIG, restart, each
link with its own way back to the old configuration. A callback of the chain
that calls a later one at once is that one's body here, so the definitions run
from the end of the chain to its start.
-/

import Sllurp.Session.Connection

namespace Sllurp.Session

open Sllurp.Foundations Sllurp.Protocol Sllurp.Config Sllurp.Runtime

/-! ## Configuration objects -/

/-- Validate a configuration object in place. -/
def validateObject (ref : ConfigRef) : ClientM Unit := fun client =>
  let validated := validateConfig (client.configs ref)
  (validated.1, client.setConfig ref validated.2)

namespace Client

/-- Make a configuration object the current one, with nothing generated from it
yet. -/
def pointTo (client : Client) (ref : ConfigRef) : Client :=
  { client with
    config := ref
    desiredConfig := ref
    rospec := none
    generatedConfigSnapshot := none }

/-- Forget everything derived from the configuration of an earlier session. -/
def replaceConfig (client : Client) (ref : ConfigRef) : Client :=
  { client.pointTo ref with
    readerConfig := none
    readerConfigSummary := {}
    appliedConfigSnapshot := none
    dedupBackendActive := .disabled }

end Client

/-- Replace the configuration while the protocol is disconnected. -/
def updateConfig (newConfig : ConfigRef) : ClientM Unit := do
  validateObject newConfig
  let client ← Program.get
  if client.state ≠ .disconnected then
    .raise (.readerConfigurationError
      ("update_config requires a disconnected protocol session; " ++
        "disconnect first or use apply_config()"))
  else .modify (·.replaceConfig newConfig)

/-- Make a configuration current and check it against the capabilities, if they
are known. -/
def installRuntimeConfig (newConfig : ConfigRef) : ClientM Unit := do
  .modify (·.pointTo newConfig)
  let client ← Program.get
  match client.capabilities with
  | none => pure ()
  | some capabilities => parseCapabilities capabilities

/-! ## The end of a transition -/

def buildTagDeduplicator (config : LLRPReaderConfig) : Option DeduplicatorSettings :=
  config.dedupSeconds.map fun seconds =>
    ⟨seconds, config.rfTelemetryMode ≠ "off", config.dedupMaxEntries⟩

namespace Client

/-- Give the reader client a configuration of its own layer. -/
def setReaderConfig (client : Client) (ref : ConfigRef) : Client :=
  { client with reader := { client.reader with config := ref } }

/-- The client after the hook of a transition that succeeded. -/
def hookSucceeded (client : Client) : Hook → Client
  | .application => client
  | .completed newConfig _ =>
    let reader :=
      { client.reader with
        config := newConfig
        deduplicator := buildTagDeduplicator (client.configs newConfig) }
    { client with
      reader :=
        if client.state = .inventorying then
          reader.scheduleDurationDisconnect (client.configs newConfig)
        else reader }

/-- The client after the hook of a transition that failed. -/
def hookFailed (client : Client) : Hook → Client
  | .application => client
  | .completed _ oldConfig =>
    let client := client.setReaderConfig oldConfig
    if client.state = .disconnected then client.hardDisconnect else client

/-- Give a transition its terminal status. -/
def conclude (client : Client) (id : TransitionId) (status : TransitionStatus)
    (error : Option String) : Client :=
  { client with
    transitions := client.transitions.modify id fun transition =>
      { transition with status, error } }

end Client

def succeed (id : TransitionId) (hook : Hook) : ClientM Unit :=
  .modify fun client => (client.conclude id .success none).hookSucceeded hook

def fail (id : TransitionId) (hook : Hook) (error : String) : ClientM Unit :=
  .modify fun client => (client.conclude id .failed (some error)).hookFailed hook

namespace ApplyFrame

def wasInventorying (frame : ApplyFrame) : Bool := frame.originalState = .inventorying

def wasPaused (frame : ApplyFrame) : Bool := frame.originalState = .paused

def succeed (frame : ApplyFrame) : ClientM Unit := Session.succeed frame.transition frame.hook

def fail (frame : ApplyFrame) (error : String) : ClientM Unit :=
  Session.fail frame.transition frame.hook error

/-! ## The way back -/

/-- The inventory was started again with the old configuration, or not. -/
def restored (frame : ApplyFrame) (error : String) (isSuccess : Bool) : ClientM Unit := do
  if isSuccess then frame.fail error
  else
    setState .disconnected
    frame.fail s!"{error}; rollback inventory restart failed"

/-- Return to the state the transition started from. -/
def finishRestore (frame : ApplyFrame) (error : String) : ClientM Unit := do
  if frame.wasInventorying then
    setState .connected
    startInventory true (.restored frame error) (frame.restored error true)
  else if frame.wasPaused then
    setState .paused
    frame.fail error
  else
    setState .connected
    frame.fail error

/-- The replacement ROSpec was deleted, or not. -/
def afterRospecCleanup (frame : ApplyFrame) (error : String) (isSuccess : Bool) :
    ClientM Unit := do
  if isSuccess then frame.finishRestore error
  else
    setState .disconnected
    frame.fail s!"{error}; rollback ROSpec cleanup failed"

/-- Delete the ROSpec of the new configuration if the reader took it. -/
def cleanupReplacementRospec (frame : ApplyFrame) (error : String) : ClientM Unit := do
  let client ← Program.get
  if !frame.wasInventorying || !client.inventoryRospecAdded then frame.finishRestore error
  else
    setState .connected
    stopAllROSpecs (.afterRospecCleanup frame error)

/-- The old reader settings were written again, or not. -/
def oldReaderConfigRestored (frame : ApplyFrame) (error : String) (isSuccess : Bool) :
    ClientM Unit := do
  if isSuccess then frame.cleanupReplacementRospec error
  else
    setState .disconnected
    frame.fail s!"{error}; rollback reader configuration failed"

/-- Install the old configuration and undo what the reader accepted of the new
one. -/
def restoreOld (frame : ApplyFrame) (error : String) : ClientM Unit := do
  match ← (installRuntimeConfig frame.oldConfig).attempt with
  | .error rollbackError =>
    setState .disconnected
    frame.fail s!"{error}; rollback configuration failed: {rollbackError.str}"
  | .ok () =>
    if frame.newReaderConfigApplied then
      setState .connected
      .modify fun client => { client with suppressSetConfigPostActions := true }
      sendSetReaderConfig (.oldReaderConfigRestored frame error)
    else frame.cleanupReplacementRospec error

/-! ## The way forward -/

/-- The inventory was started with the new configuration, or not. -/
def restarted (frame : ApplyFrame) (isSuccess : Bool) : ClientM Unit :=
  if isSuccess then frame.succeed
  else frame.restoreOld "new configuration inventory restart failed"

/-- Return to the original state under the new configuration. A paused reader
gets the new ROSpec when it resumes. -/
def finishNewState (frame : ApplyFrame) : ClientM Unit := do
  if frame.wasInventorying then
    setState .connected
    startInventory true (.restarted frame) (frame.restarted true)
  else if frame.wasPaused then
    setState .paused
    frame.succeed
  else
    setState .connected
    frame.succeed

/-- The new reader settings were written, or not. -/
def readerConfigApplied (frame : ApplyFrame) (isSuccess : Bool) : ClientM Unit :=
  if isSuccess then { frame with newReaderConfigApplied := true }.finishNewState
  else frame.restoreOld "SET_READER_CONFIG failed during apply_config"

/-- The inventory was stopped, or not: install the new configuration and write
what it changes. -/
def afterStopped (frame : ApplyFrame) (isSuccess : Bool) : ClientM Unit := do
  if !isSuccess then
    setState frame.originalState.state
    frame.fail "could not stop current reader state before apply_config"
  else
    setState .connected
    match ← (installRuntimeConfig frame.newConfig).attempt with
    | .error raised =>
      frame.restoreOld
        s!"new configuration validation against capabilities failed: {raised.str}"
    | .ok () =>
      if frame.plan.requiresReaderConfigWrite then
        .modify fun client => { client with suppressSetConfigPostActions := true }
        sendSetReaderConfig (.readerConfigApplied frame)
      else frame.finishNewState

end ApplyFrame

/-- Register a new transition object. -/
def Client.addTransition (client : Client) (plan : ConfigTransitionPlan)
    (newConfig : ConfigRef) : Client :=
  { client with
    transitions :=
      client.transitions ++ [{ plan, oldConfig := client.config, newConfig }] }

/-- Apply a configuration. The transition is returned while its chain may still
be under way; a refusal raises. -/
def applyConfig (newConfig : ConfigRef) (hook : Hook) : ClientM TransitionId := do
  validateObject newConfig
  let client ← Program.get
  let plan := buildConfigTransitionPlan client.settings (client.configs newConfig)
  let id := client.transitions.length
  .modify (·.addTransition plan newConfig)
  if plan.isNoop then
    succeed id hook
    pure id
  else if plan.requiresReconnect && client.state ≠ .disconnected then
    .raise (.readerConfigurationError
      s!"apply_config requires reconnect for: {plan.reconnectFields}")
  else if client.state = .disconnected then
    updateConfig newConfig
    succeed id hook
    pure id
  else if plan.clientOnly then
    .modify fun client => { client with config := newConfig, desiredConfig := newConfig }
    succeed id hook
    pure id
  else
    match LiveState.of? client.state with
    | none =>
      .raise (.readerConfigurationError
        "apply_config requires CONNECTED, INVENTORYING, PAUSED, or DISCONNECTED state")
    | some originalState =>
      let frame : ApplyFrame :=
        { transition := id, plan, oldConfig := client.config, newConfig, originalState
          newReaderConfigApplied := false, hook }
      match originalState with
      | .inventorying => stopPolitely (.afterStopped frame) false
      | .paused =>
        .modify Client.cancelPauseResumeTimer
        stopAllROSpecs (.afterStopped frame)
      | .connected => frame.afterStopped true
      pure id

/-! ## The reader client's methods -/

/-- Whether the reader client is fully disconnected. -/
def Client.fullyDisconnected (client : Client) : Bool :=
  !client.reader.socket && !client.reader.socketThread && client.state = .disconnected

/-- Replace the configuration of both layers while fully disconnected. -/
def readerUpdateConfig (newConfig : ConfigRef) : ClientM Unit := do
  validateObject newConfig
  let client ← Program.get
  if client.fullyDisconnected then
    updateConfig newConfig
    .modify fun client =>
      let content := client.configs newConfig
      { client with
        reader :=
          { client.reader with
            config := newConfig
            deduplicator := buildTagDeduplicator content
            port :=
              if client.reader.portExplicit then client.reader.port
              else if content.tlsEnabled then 5085 else 5084 } }
  else
    .raise (.readerConfigurationError
      ("update_config requires a fully disconnected reader; " ++
        "disconnect first or use a targeted live setter"))

/-- Apply a configuration through the reader client. -/
def readerApplyConfig (newConfig : ConfigRef) : ClientM TransitionId := do
  validateObject newConfig
  let client ← Program.get
  if client.fullyDisconnected then
    let old := client.reader.config
    let plan := buildConfigTransitionPlan (client.configs old) (client.configs newConfig)
    readerUpdateConfig newConfig
    .modify fun client =>
      { client with
        transitions :=
          client.transitions ++
            [{ plan, oldConfig := old, newConfig, status := .success }] }
    pure client.transitions.length
  else applyConfig newConfig (.completed newConfig client.reader.config)

end Sllurp.Session
