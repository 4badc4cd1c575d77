/-
# Inventory

Building the ROSpec and starting, stopping, pausing and resuming the inventory;
the transmit power setters; and what the client derives from the reader's
capabilities. A completion callback that the source calls at once is passed to
`startInventory` a second time, as the program it runs.
-/

import Sllurp.Session.Requests

namespace Sllurp.Session

open Sllurp.Foundations Sllurp.Protocol Sllurp.Config Sllurp.Runtime

/-! ## The ROSpec -/

/-- The settings of a configuration that go into its ROSpec. -/
def rospecSettings (config : LLRPReaderConfig) : ROSpecSettings where
  durationSec := config.duration
  reportEveryNTags := config.reportEveryNTags
  reportTimeoutMs := config.reportTimeoutMs
  roReportEveryNTags := config.roReportEveryNTags
  txPower := config.txPower
  antennas := config.antennas
  tagContentSelector := config.tagContentSelector
  session := config.session
  tari := config.tari
  tagPopulation := config.tagPopulation
  frequencies := config.frequencies
  impinjFixedFrequency := config.impinjFixedFrequency
  zebraTagContentSelector := config.zebraTagContentSelector
  tagFilterMask := config.tagFilterMask
  impinjSearchMode := config.impinjSearchMode
  impinjTagContentSelector := config.impinjTagContentSelector

namespace Client

def withROSpec (client : Client) (rospec : GeneratedROSpec) : Client :=
  { client with rospec := some rospec }

/-- The client with a ROSpec cached that was built from the current
configuration. -/
def cacheROSpec (client : Client) (rospec : GeneratedROSpec) : Client :=
  { client.withROSpec rospec with generatedConfigSnapshot := some client.settings }

end Client

/-- Return the cached ROSpec, or build and cache one from the current
configuration. Hardware deduplication changes the cached object afterwards. -/
def getROSpec (forceNew : Bool) : ClientM GeneratedROSpec := do
  let client ← Program.get
  match client.rospec.filter fun _ => !forceNew with
  | some rospec => pure rospec
  | none =>
    let built ← Program.ofExcept
      (makeROSpec client.readerMode 1 (rospecSettings client.settings))
    let rospec : GeneratedROSpec := ⟨built, client.config, client.settings⟩
    .modify (·.cacheROSpec rospec)
    if client.dedupBackendActive = .hardware then
      match client.settings.dedupSeconds with
      | none =>
        .raise (.typeError
          ("int() argument must be a string, a bytes-like object or a real number, " ++
            "not 'NoneType'"))
      | some seconds =>
        let rospec := { rospec with rospec := built.withHardwareDedup seconds }
        .modify (·.withROSpec rospec)
        pure rospec
    else pure rospec

/-! ## Start and stop -/

/-- Add and enable a ROSpec. While inventorying this only reports success, by
running `completed`. -/
def startInventory (forceRegenRospec : Bool) (onCompletion : Completion)
    (completed : ClientM Unit) : ClientM Unit := do
  let client ← Program.get
  if client.state = .inventorying then completed
  else
    let rospec ← getROSpec forceRegenRospec
    .modify fun client => { client with inventoryRospecAdded := false }
    sendAddRospec rospec (.sendAddedRospecCb rospec onCompletion)

/-- Delete all ROSpecs. -/
def stopAllROSpecs (onCompletion : Completion) : ClientM Unit :=
  sendDeleteRospecs (.stopAllRospecsCb onCompletion)

/-- Delete all AccessSpecs, then all ROSpecs. -/
def stopPolitely (onCompletion : Completion) (disconnect : Bool) : ClientM Unit := do
  .modify fun client => { client with disconnecting := client.disconnecting || disconnect }
  sendDeleteAccessspecs (.sendDeleteAccessspecCb onCompletion)

/-! ## Transmit power -/

/-- Put the selected indexes into the configuration, one antenna after the
other, and tell whether any of them changed. -/
def assignPowers : List (ℤ × ℕ × ℚ) → Bool → ClientM Bool
  | [], needsUpdate => pure needsUpdate
  | (antenna, index, _) :: selected, needsUpdate => do
    let client ← Program.get
    match client.settings.txPower with
    | .index _ => .raise (.typeError "'int' object is not subscriptable")
    | .perAntenna powers =>
      match powers.get? antenna with
      | none => .raise (.keyError s!"{antenna}")
      | some current =>
        if current = index then assignPowers selected needsUpdate
        else
          .modify fun client =>
            client.setConfig client.config
              { client.settings with txPower := .perAntenna (powers.set antenna index) }
          assignPowers selected true

/-- Select power table indexes. A change while inventorying restarts the
inventory with a new ROSpec. -/
def setTxPower (txPower : List (ℤ × ℤ)) (zeroIsMax : Bool) : ClientM Unit := do
  let client ← Program.get
  let selected ← Program.ofExcept
    (getTxPower client.txPowerIndices client.txPowerTable txPower zeroIsMax)
  let needsUpdate ← assignPowers selected false
  let client ← Program.get
  if needsUpdate && client.state = .inventorying then stopPolitely .txPowerStopped false
  else pure ()

/-- Select the table entries nearest to the requested dBm values, or the
maximum for every antenna. -/
def setTxPowerDbm (txPowDbm : Option (Dict ℤ ℚ)) : ClientM Unit := do
  let client ← Program.get
  let valid := validIndices client.txPowerIndices client.txPowerTable
  match valid.argmax (powerAt client.txPowerTable) with
  | none => .raise (.llrpError "reader did not report any transmit power levels")
  | some maxPowerIdx =>
    match txPowDbm with
    | none => setTxPower (client.settings.antennas.map fun antenna => (antenna, maxPowerIdx)) false
    | some levels =>
      let selected := levels.mapValues fun dbm =>
        ((nearestIndex client.txPowerIndices client.txPowerTable dbm).getD maxPowerIdx : ℤ)
      .modify fun client =>
        client.setConfig client.config
          { client.settings with txPowerDbm := some (.perAntenna levels) }
      setTxPower selected.entries false

/-! ## Capabilities -/

/-- Choose where timed deduplication happens. -/
def selectDedupBackend (config : LLRPReaderConfig) (capabilities : Capabilities) :
    Except Exn DedupBackend :=
  match config.dedupSeconds with
  | none => .ok .disabled
  | some seconds =>
    if config.rfTelemetryMode ≠ "off" then
      if config.dedupBackend = "hardware" then
        .error (.readerConfigurationError
          ("hardware timed dedup is incompatible with RF telemetry mode; " ++
            "use dedup_backend='memory' or disable timed dedup"))
      else .ok .memory
    else if config.dedupBackend = "memory" then .ok .memory
    else if seconds ≤ zebraTimedDedupMaxSeconds && capabilities.supportsZebraPeriodicTagReports &&
        config.reportEveryNTags.isNone && config.roReportEveryNTags.isNone then
      .ok .hardware
    else if config.dedupBackend = "hardware" then
      .error (.readerConfigurationError
        ("hardware timed dedup is unavailable for this reader/configuration " ++
          "or exceeds 600 seconds"))
    else .ok .memory

/-- Select the RF mode that the configuration names, if it names one. -/
def selectMode (config : LLRPReaderConfig) (modes : List ReaderMode) :
    Except Exn (Option ReaderMode) :=
  match config.modeIdentifier with
  | none => .ok none
  | some identifier =>
    match modes.find? fun mode => mode.modeIdentifier = identifier with
    | some mode => .ok (some mode)
    | none =>
      let valid := (modes.map (·.modeIdentifier)).insertionSort (· ≤ ·)
      .error (.readerConfigurationError
        s!"Invalid mode_identifier; valid mode_identifiers are {valid}")

/-- Refuse a Tari that the selected mode does not support. -/
def checkTari (config : LLRPReaderConfig) (mode : Option ReaderMode) : Except Exn Unit :=
  match mode, config.tari.filter (· ≠ 0) with
  | some mode, some tari =>
    if mode.minTari ≤ tari && tari ≤ mode.maxTari then .ok ()
    else
      .error (.readerConfigurationError
        s!"Requested Tari {tari} is incompatible with selected mode {mode.text}")
  | _, _ => .ok ()

/-- Refuse antennas the reader does not have. -/
def checkAntennas (config : LLRPReaderConfig) (maxAnt : ℕ) : Except Exn Unit :=
  match config.antennas with
  | [] => .error (.valueError "max() iterable argument is empty")
  | antenna :: antennas =>
    if antennas.foldl max antenna ≤ maxAnt then .ok ()
    else
      let requested := ",".intercalate (config.antennas.map toString)
      let available := ",".intercalate ((List.range maxAnt).map fun index => toString (index + 1))
      .error (.readerConfigurationError
        (s!"Invalid antenna set specified: requested={requested}, " ++
          s!"available={available}; ignoring invalid antennas"))

/-- Take the requested transmit power from the dBm values if there are any. -/
def setConfiguredPower : ClientM Unit := do
  let client ← Program.get
  match client.settings.txPowerDbm, client.settings.txPower with
  | some (.perAntenna levels), _ => setTxPowerDbm (some levels)
  | some (.level _), _ => .raise (.attributeError "'float' object has no attribute 'items'")
  | none, .perAntenna indexes => setTxPower indexes.entries true
  | none, .index _ => .raise (.attributeError "'int' object has no attribute 'items'")

namespace Client

def withMaxAnt (client : Client) (maxAnt : ℕ) : Client := { client with maxAnt }

/-- The client with the power table of a band. -/
def withPowerTable (client : Client) (band : UHFBandCapabilities) : Client :=
  { client with txPowerIndices := powerIndices band, txPowerTable := parsePowerTable band }

def withReaderMode (client : Client) (readerMode : Option ReaderMode) : Client :=
  { client with readerMode }

def withDedupBackend (client : Client) (backend : DedupBackend) : Client :=
  { client with dedupBackendActive := backend }

end Client

/-- Check the configuration against the reader's capabilities and derive the
power table, the mode and the deduplication backend from them. -/
def parseCapabilities (capabilities : Capabilities) : ClientM Unit := do
  let maxAnt ← Program.ofExcept
    (key "GeneralDeviceCapabilities" capabilities.maxNumberOfAntennaSupported)
  .modify (·.withMaxAnt maxAnt)
  let client ← Program.get
  Program.ofExcept (checkAntennas client.settings maxAnt)
  let band ← Program.ofExcept capabilities.uhfBand
  .modify (·.withPowerTable band)
  setConfiguredPower
  let modes ← Program.ofExcept band.modeList
  .modify (·.withReaderMode none)
  let client ← Program.get
  let mode ← Program.ofExcept (selectMode client.settings modes)
  .modify (·.withReaderMode mode)
  Program.ofExcept (checkTari client.settings mode)
  let backend ← Program.ofExcept (selectDedupBackend client.settings capabilities)
  .modify (·.withDedupBackend backend)

/-! ## Pause and resume -/

/-- Schedule the end of a timed pause. -/
def schedulePauseResume (durationSeconds : ℚ) (forceRegenRospec : Bool) : ClientM Unit :=
  .modify fun client =>
    let client := client.cancelPauseResumeTimer
    { client with
      pauseResumeTimer :=
        some ⟨durationSeconds, client.pauseResumeGeneration, forceRegenRospec⟩ }

/-- Pause the inventory, or disable the ROSpec in any other state if forced. -/
def pause (durationSeconds : ℚ) (force forceRegenRospec : Bool) : ClientM Unit := do
  let client ← Program.get
  if durationSeconds < 0 then
    .raise (.readerConfigurationError
      "pause duration_seconds must be a finite non-negative number")
  else if client.state ≠ .inventorying && !force then pure ()
  else
    .modify Client.cancelPauseResumeTimer
    let rospec ← getROSpec forceRegenRospec
    sendDisableRospec rospec (.disableRospecPauseCb durationSeconds forceRegenRospec)

def resumeInventory (forceRegenRospec : Bool) : ClientM Unit := do
  let client ← Program.get
  if client.state = .connected || client.state = .disconnected then
    startInventory forceRegenRospec .absent (pure ())
  else if client.state ≠ .paused then pure ()
  else
    match client.rospec with
    | none =>
      setState .connected
      startInventory true .absent (pure ())
    | some rospec =>
      if forceRegenRospec then stopAllROSpecs .deleted
      else sendEnableRospec rospec .enableRospecResumeCb

/-- Resume the inventory and cancel a scheduled end of the pause. -/
def resume (forceRegenRospec : Bool) : ClientM Unit := do
  .modify Client.cancelPauseResumeTimer
  resumeInventory forceRegenRospec

/-- What the timer of a timed pause runs: nothing if the pause it was set for
was cancelled or is over. -/
def timedResume (generation : ℕ) (forceRegenRospec : Bool) : ClientM Unit := do
  let client ← Program.get
  if generation ≠ client.pauseResumeGeneration then pure ()
  else
    .modify fun client => { client with pauseResumeTimer := none }
    if client.state ≠ .paused then pure ()
    else resumeInventory forceRegenRospec

/-! ## Access operations -/

/-- The AccessSpec of an operation. -/
def accessSpec (operation : AccessOperation) : Except Exn AccessSpec :=
  let targets := if operation.targetSpec.isEmpty then [{}] else operation.targetSpec
  if 2 < targets.length then
    .error (.valueError "A maximum of 2 C1G2TargetTag is allowed per accessSpec")
  else if operation.opSpec = .unsupported then
    .error (.llrpError "Selected opSpec type is not yet supported.")
  else
    .ok
      { accessSpecId := operation.accessSpecId
        accessSpecStopTriggerType := if 0 < operation.stopAfterCount then 1 else 0
        operationCountValue := operation.stopAfterCount
        c1G2TargetTag := targets
        opSpecParameter := operation.opSpec }

/-- Add an AccessSpec; its completion enables it. -/
def startAccess (operation : AccessOperation) : ClientM Unit := do
  let spec ← Program.ofExcept (accessSpec operation)
  sendAddAccessspec spec (.addAccessspecCb operation.accessSpecId)

/-- Disable and delete the current AccessSpec, then start the operation. -/
def nextAccess (operation : AccessOperation) : ClientM Unit :=
  sendDisableAccessspec operation.accessSpecId (.disableAccessspecCb operation)

end Sllurp.Session
