/-
# Exceptions that are no protocol errors

The receive loop treats an `LLRPError` as a failure of the protocol; any other
exception escapes. Here every program that completions run is given the
condition under which an exception escapes from it, as long as writes go
through: a ROSpec or an AccessSpec that cannot be built.
-/

import Sllurp.Session.Fitting
import Sllurp.Session.Settled

namespace Sllurp.Protocol

/-- Whether the exception is an `LLRPError`, of which `ReaderConfigurationError`
is one. -/
def Exn.isLLRPError : Exn → Bool
  | llrpError _ | readerConfigurationError _ => true
  | keyError _ | valueError _ | attributeError _ | typeError _ | structError _
  | recursionError _ | osError _ => false

/-- Whether a result is an exception other than an `LLRPError`. -/
def escaped {α : Type} : Except Exn α → Bool
  | .ok _ => false
  | .error raised => !raised.isLLRPError

end Sllurp.Protocol

namespace Sllurp.Session

open Sllurp.Foundations Sllurp.Protocol Sllurp.Config Sllurp.Runtime
open Sllurp.Foundations.Program

/-! ## Rules -/

/-- Whether a run of the program ends with an exception other than an
`LLRPError`. -/
def escapes {α : Type} (program : ClientM α) (client : Client) : Bool :=
  escaped (program client).1

section Rules

variable {α β : Type}

@[simp]
theorem escapes_pure (value : α) (client : Client) :
    escapes (pure value : ClientM α) client = false := rfl

@[simp]
theorem escapes_raise (raised : Exn) (client : Client) :
    escapes (.raise raised : ClientM α) client = !raised.isLLRPError := rfl

@[simp]
theorem escapes_modify (update : Client → Client) (client : Client) :
    escapes (.modify update) client = false := rfl

theorem escapes_get_bind (next : Client → ClientM β) (client : Client) :
    escapes (Program.get >>= next) client = escapes (next client) client := rfl

theorem escapes_modify_bind (update : Client → Client) (next : Unit → ClientM β)
    (client : Client) :
    escapes (Program.modify update >>= next) client = escapes (next ()) (update client) := rfl

theorem escapes_bind_ok {program : ClientM α} {next : α → ClientM β} {client later : Client}
    {value : α} (hrun : program client = (.ok value, later)) :
    escapes (program >>= next) client = escapes (next value) later := by
  unfold escapes
  rw [Program.run_bind_ok hrun]

theorem escapes_bind_error {program : ClientM α} {next : α → ClientM β} {client later : Client}
    {raised : Exn} (hrun : program client = (.error raised, later)) :
    escapes (program >>= next) client = !raised.isLLRPError := by
  unfold escapes
  rw [Program.run_bind_error hrun]
  rfl

theorem escapes_eq_of_run {program : ClientM α} {client later : Client} {raised : Exn}
    (hrun : program client = (.error raised, later)) :
    escapes program client = !raised.isLLRPError := by
  unfold escapes
  rw [hrun]
  rfl

end Rules

/-! ## Writes that go through -/

/-- No write raises. -/
def Client.Writable (client : Client) : Prop := ∀ raised, some raised ∉ client.writes

theorem nextWrite_of_writable {client : Client} (hwritable : client.Writable) :
    client.nextWrite = none := by
  unfold Client.nextWrite
  rcases hwrites : client.writes with _ | ⟨_ | raised, writes⟩
  · rfl
  · rfl
  · exact absurd (hwrites ▸ List.mem_cons_self ..) (hwritable raised)

theorem writable_of_sublist {client later : Client} (hwritable : client.Writable)
    (hsublist : later.writes.Sublist client.writes) : later.Writable :=
  fun raised hmem => hwritable raised (hsublist.mem hmem)

theorem writable_sendRequest (request : Request) (name : MessageName) (onCompletion : Callback)
    (newState : Option ReaderState) :
    Within (Frame.invariant Client.Writable) (sendRequest request name onCompletion newState) := by
  intro client hwritable
  cases hwaiting : client.isWaiting name with
  | true =>
    rw [run_sendRequest_of_isWaiting hwaiting]
    exact hwritable
  | false =>
    rw [run_sendRequest hwaiting]
    cases client.nextWrite with
    | none =>
      refine writable_of_sublist hwritable ?_
      dsimp only
      rw [writes_afterSend]
      exact List.tail_sublist _
    | some raised =>
      refine writable_of_sublist hwritable ?_
      dsimp only
      rw [writes_afterFailedSend]
      exact List.tail_sublist _

theorem writable_write (serial : Option ℕ) (messageId : ℕ) (request : Request) :
    Within (Frame.invariant Client.Writable) (write serial messageId request) := by
  intro client hwritable
  rw [run_write]
  cases client.nextWrite <;> exact writable_of_sublist hwritable (List.tail_sublist _)

/-- What is left of the outcomes raises no more than they did. -/
theorem writable_completing : Completing (Frame.invariant Client.Writable) where
  neutral htraffic hwritable := by
    refine writable_of_sublist hwritable ?_
    rw [writes_of_traffic htraffic]
  setState _ _ _ := id
  sendRequest request name onCompletion newState _ _ _ :=
    writable_sendRequest request name onCompletion newState
  countMessage _ _ := id
  write messageId request := writable_write none messageId request
  resetProtocolSession _ := id
  anyState _ _ := id
  requested request name newState _ := writable_sendRequest request name .application newState
  completed _ _ _ _ _ := id
  cleared _ _ := id
  invoked _ _ _ := id
  expired key := by
    refine .modify fun client hwritable => ?_
    split <;> exact hwritable
  told _ _ := id

/-- A request is refused, or it goes out. -/
theorem run_sendRequest_of_writable {client : Client} (hwritable : client.Writable)
    (request : Request) (name : MessageName) (onCompletion : Callback)
    (newState : Option ReaderState) :
    sendRequest request name onCompletion newState client =
      if client.isWaiting name then
        (.error (.readerConfigurationError
          s!"cannot send request: {name.text} is already pending"), client)
      else (.ok (), client.afterSend request name onCompletion newState) := by
  cases hwaiting : client.isWaiting name with
  | true => exact run_sendRequest_of_isWaiting hwaiting request onCompletion newState
  | false =>
    rw [run_sendRequest hwaiting, nextWrite_of_writable hwritable]
    rfl

theorem escapes_sendRequest {client : Client} (hwritable : client.Writable) (request : Request)
    (name : MessageName) (onCompletion : Callback) (newState : Option ReaderState) :
    escapes (sendRequest request name onCompletion newState) client = false := by
  unfold escapes
  rw [run_sendRequest_of_writable hwritable]
  cases client.isWaiting name <;> rfl

theorem escapes_sendMessage {client : Client} (hwritable : client.Writable) (request : Request) :
    escapes (sendMessage request) client = false := by
  unfold escapes
  rw [run_sendMessage]
  cases request.name.response.filter client.isWaiting with
  | some name => rfl
  | none =>
    let numbered := { client with lastMsgId := nextMessageId client.lastMsgId }
    have hnumbered : numbered.nextWrite = client.nextWrite := rfl
    dsimp only
    rw [run_write, hnumbered, nextWrite_of_writable hwritable]
    rfl

/-! ## Building a ROSpec -/

/-- Whether building the ROSpec of a configuration fails for a missing key: the
vendor's report selector is incomplete, and nothing was refused before. -/
def lacksSelectorKey (settings : ROSpecSettings) : Bool :=
  !(settings.roReportEveryNTags.any fun count => count < 1 || 65535 < count) &&
    (antennaPowers settings).isOk &&
    !(impinjReportSelector settings.impinjTagContentSelector).isOk

/-- Whether building a ROSpec from the current configuration fails with
something other than an `LLRPError`. -/
def Client.tripsBuilding (client : Client) : Bool :=
  lacksSelectorKey (rospecSettings client.settings) ||
    (makeROSpec client.readerMode 1 (rospecSettings client.settings)).isOk &&
      client.lacksDedupWindow

theorem isLLRPError_of_antennaPowers {settings : ROSpecSettings} {raised : Exn}
    (hpowers : antennaPowers settings = .error raised) : raised.isLLRPError = true := by
  unfold antennaPowers at hpowers
  split at hpowers
  · cases hpowers
  · split at hpowers
    · cases hpowers
    · cases hpowers
      rfl

theorem not_isLLRPError_of_impinjReportSelector {selector : Option (Dict String Bool)}
    {raised : Exn} (hselector : impinjReportSelector selector = .error raised) :
    raised.isLLRPError = false := by
  have hkey : ∀ {name : String} {value : Option Bool} {raised : Exn},
      key name value = .error raised → raised.isLLRPError = false := by
    intro name value raised hkey
    cases value with
    | some value => cases hkey
    | none =>
      cases hkey
      rfl
  unfold impinjReportSelector at hselector
  split at hselector
  · cases hselector
  · split at hselector
    · cases hselector
    · rename_i flags _
      cases hphase : key "EnableRFPhaseAngle" (flags.get? "EnableRFPhaseAngle") with
      | error raised =>
        rw [hphase] at hselector
        cases hselector
        exact hkey hphase
      | ok phase =>
        cases hrssi : key "EnablePeakRSSI" (flags.get? "EnablePeakRSSI") with
        | error raised =>
          rw [hphase, hrssi] at hselector
          cases hselector
          exact hkey hrssi
        | ok rssi =>
          cases hdoppler : key "EnableRFDopplerFrequency"
            (flags.get? "EnableRFDopplerFrequency") with
          | error raised =>
            rw [hphase, hrssi, hdoppler] at hselector
            cases hselector
            exact hkey hdoppler
          | ok doppler =>
            rw [hphase, hrssi, hdoppler] at hselector
            cases hselector

/-- Every antenna of the configuration has a power. -/
theorem contains_of_antennaPowers {settings : ROSpecSettings} {powers : Dict ℤ ℤ}
    (hpowers : antennaPowers settings = .ok powers) {antenna : ℤ}
    (hantenna : antenna ∈ settings.antennas) : powers.contains antenna = true := by
  unfold antennaPowers at hpowers
  split at hpowers
  · cases hpowers
    exact Dict.contains_ofList (List.mem_map.mpr ⟨_, List.mem_map_of_mem hantenna, rfl⟩)
  · split at hpowers
    · rename_i hkeys
      cases hpowers
      simp only [Dict.hasKeys, Bool.and_eq_true, List.all_eq_true] at hkeys
      exact hkeys.1 antenna hantenna
    · cases hpowers

/-- A list of results is a result when none of them is an exception. -/
theorem isOk_mapM {α β ε : Type} {select : α → Except ε β} {items : List α} :
    (items.mapM select).isOk = true ↔ ∀ item ∈ items, (select item).isOk = true := by
  induction items with
  | nil => exact iff_of_true rfl fun item hitem => nomatch hitem
  | cons item items ih =>
    rw [List.mapM_cons, List.forall_mem_cons, ← ih]
    cases select item with
    | error raised => exact iff_of_false Bool.false_ne_true fun hall => Bool.false_ne_true hall.1
    | ok value =>
      rw [and_iff_right (show (Except.ok value : Except ε β).isOk = true from rfl)]
      cases items.mapM select <;> exact Iff.rfl

/-- Building a ROSpec fails with an exception that is no `LLRPError` exactly when
a selector key is missing. -/
theorem lacksSelectorKey_eq (readerMode : Option ReaderMode) (settings : ROSpecSettings) :
    lacksSelectorKey settings = escaped (makeROSpec readerMode 1 settings) := by
  unfold makeROSpec lacksSelectorKey
  simp only [if_neg Nat.one_ne_zero]
  by_cases hcount : (settings.roReportEveryNTags.any fun count =>
      decide (count < 1) || decide (65535 < count)) = true
  · rw [hcount, if_pos rfl]
    rfl
  rw [Bool.not_eq_true] at hcount
  rw [hcount, if_neg Bool.false_ne_true]
  cases hpowers : antennaPowers settings with
  | error raised =>
    change false = !raised.isLLRPError
    rw [isLLRPError_of_antennaPowers hpowers]
    rfl
  | ok powers =>
    cases hselector : impinjReportSelector settings.impinjTagContentSelector with
    | error raised =>
      change true = !raised.isLLRPError
      rw [not_isLLRPError_of_impinjReportSelector hselector]
      rfl
    | ok impinj =>
      cases settings.frequencies.channelList.getD [defaultChannelIndex] with
      | nil => rfl
      | cons channel others =>
        let select (antenna : ℤ) : Except Exn AntennaConfiguration := do
          let power ← (powers.get? antenna).elim (.error (.keyError s!"{antenna}")) .ok
          .ok (antennaConfiguration readerMode settings channel (channel :: others) antenna power)
        have hselect : ∀ antenna ∈ settings.antennas, (select antenna).isOk = true := by
          intro antenna hantenna
          have hcontains := contains_of_antennaPowers hpowers hantenna
          obtain ⟨power, hpower⟩ := Option.isSome_iff_exists.mp hcontains
          simp only [select, hpower]
          rfl
        obtain ⟨antennas, hantennas⟩ := exists_ok_of_isOk (isOk_mapM.mpr hselect)
        change false = escaped (settings.antennas.mapM select >>= _)
        rw [hantennas]
        rfl

/-- Getting a ROSpec fails with an exception that is no `LLRPError` where it has
to be built and cannot. -/
theorem escapes_getROSpec (forceNew : Bool) (client : Client) :
    escapes (getROSpec forceNew) client =
      ((client.rospec.filter fun _ => !forceNew).isNone && client.tripsBuilding) := by
  unfold escapes Client.tripsBuilding
  rw [run_getROSpec, lacksSelectorKey_eq client.readerMode]
  cases client.rospec.filter fun _ => !forceNew with
  | some rospec => rfl
  | none =>
    cases makeROSpec client.readerMode 1 (rospecSettings client.settings) with
    | error raised => simp [escaped, Except.isOk, Except.toBool]
    | ok built => cases client.lacksDedupWindow <;> rfl

/-- Getting a ROSpec changes nothing but the cache. -/
theorem caches_getROSpec (forceNew : Bool) (client : Client) :
    (getROSpec forceNew).final client = client ∨
      ∃ rospec, (getROSpec forceNew).final client = client.cacheROSpec rospec := by
  unfold Program.final
  rw [run_getROSpec]
  cases client.rospec.filter fun _ => !forceNew with
  | some rospec => exact .inl rfl
  | none =>
    cases makeROSpec client.readerMode 1 (rospecSettings client.settings) with
    | error raised => exact .inl rfl
    | ok built => exact .inr ⟨_, rfl⟩

/-! ## Starting the inventory -/

/-- A start outside INVENTORYING builds a ROSpec unless it may use the cached
one. -/
theorem escapes_startInventory {client : Client} (hwritable : client.Writable)
    (hstate : client.state ≠ .inventorying) (forceRegenRospec : Bool) (onCompletion : Completion)
    (completed : ClientM Unit) :
    escapes (startInventory forceRegenRospec onCompletion completed) client =
      ((client.rospec.filter fun _ => !forceRegenRospec).isNone && client.tripsBuilding) := by
  rw [← escapes_getROSpec]
  unfold startInventory
  rw [escapes_get_bind, if_neg hstate]
  rcases hrun : getROSpec forceRegenRospec client with ⟨raised | rospec, later⟩
  · rw [escapes_bind_error hrun, escapes_eq_of_run hrun]
  · have hwrites : later.writes = client.writes := by
      rcases caches_getROSpec forceRegenRospec client with hsame | ⟨cached, hsame⟩
      all_goals rw [Program.final, hrun] at hsame
      · exact congrArg Client.writes hsame
      · exact (congrArg Client.writes hsame).trans rfl
    rw [escapes_bind_ok hrun, escapes_modify_bind]
    have hready : { later with inventoryRospecAdded := false }.Writable :=
      writable_of_sublist hwritable (hwrites ▸ List.Sublist.refl _)
    unfold sendAddRospec
    rw [escapes_sendRequest hready]
    unfold escapes
    rw [hrun]
    rfl

/-! ## Configuration transitions -/

namespace Client

/-- Whether making a configuration current raises nothing. -/
def installs (client : Client) (ref : ConfigRef) : Bool :=
  client.capabilities.all fun capabilities => passesCapabilities (client.configs ref) capabilities

/-- The client with a configuration current that raises nothing. -/
def installed (client : Client) (ref : ConfigRef) : Client :=
  match client.capabilities with
  | none => client.pointTo ref
  | some capabilities =>
    (client.pointTo ref).parsed (settledValues (client.configs ref) capabilities)

/-- The client with the powers of a configuration settled that raises. -/
def settledIn (client : Client) (ref : ConfigRef) : Client :=
  match client.capabilities with
  | none => client
  | some capabilities =>
    client.setConfig ref (settledConfig (client.configs ref) capabilities)

/-- Whether returning from a configuration fails with something other than an
`LLRPError`: the old one can be installed, the inventory starts again at once,
and its ROSpec cannot be built. -/
def tripsRestoring (client : Client) (frame : ApplyFrame) : Bool :=
  client.installs frame.oldConfig && !frame.newReaderConfigApplied && frame.wasInventorying &&
    !client.inventoryRospecAdded && (client.installed frame.oldConfig).tripsBuilding

end Client

/-- Without a session, the hook of a failed transition closes the transport. -/
theorem hookFailed_of_disconnected {client : Client} (hstate : client.state = .disconnected)
    (newConfig oldConfig : ConfigRef) :
    client.hookFailed (.completed newConfig oldConfig) =
      (client.setReaderConfig oldConfig).hardDisconnect :=
  if_pos hstate

theorem hookFailed_of_open {client : Client} (hstate : client.state ≠ .disconnected)
    (newConfig oldConfig : ConfigRef) :
    client.hookFailed (.completed newConfig oldConfig) = client.setReaderConfig oldConfig :=
  if_neg hstate

theorem run_installRuntimeConfig_of_installs {client : Client}
    (hstate : client.state ≠ .inventorying) {ref : ConfigRef}
    (hinstalls : client.installs ref = true) :
    installRuntimeConfig ref client = (.ok (), client.installed ref) := by
  unfold installRuntimeConfig Client.installed
  rw [Program.run_modify_bind, Program.run_get_bind]
  change (match client.capabilities with
    | none => (pure () : ClientM Unit)
    | some capabilities => parseCapabilities capabilities) (client.pointTo ref) = _
  cases hcapabilities : client.capabilities with
  | none => rfl
  | some capabilities =>
    have hpointed : (client.pointTo ref).state ≠ .inventorying := hstate
    have hpasses : passesCapabilities (client.pointTo ref).settings capabilities = true := by
      rwa [Client.installs, hcapabilities] at hinstalls
    exact run_parseCapabilities_of_passes hpointed hpasses

/-- Outside INVENTORYING, installing a configuration points to it and changes only what the
capabilities decide. -/
theorem installRuntimeConfig_parsed {client : Client} (hstate : client.state ≠ .inventorying)
    (ref : ConfigRef) :
    ∃ values, (installRuntimeConfig ref).final client = (client.pointTo ref).parsed values := by
  unfold installRuntimeConfig Program.final
  rw [Program.run_modify_bind, Program.run_get_bind]
  change ∃ values, ((match client.capabilities with
    | none => (pure () : ClientM Unit)
    | some capabilities => parseCapabilities capabilities) (client.pointTo ref)).2 = _
  cases client.capabilities with
  | none => exact ⟨(client.pointTo ref).derived, (Client.parsed_self _).symm⟩
  | some capabilities =>
    have hpointed : (client.pointTo ref).state ≠ .inventorying := hstate
    exact parseCapabilities_parsing capabilities _ hpointed

/-- A configuration that cannot be installed leaves its powers settled, and what
the next installation starts from. -/
theorem run_installRuntimeConfig_of_not_installs {client : Client}
    (hstate : client.state ≠ .inventorying) {ref : ConfigRef}
    (hinstalls : client.installs ref = false) :
    ∃ raised later, installRuntimeConfig ref client = (.error raised, later) ∧
      later.capabilities = client.capabilities ∧ later.configs = (client.settledIn ref).configs ∧
      later.inventoryRospecAdded = client.inventoryRospecAdded ∧ later.state = client.state ∧
      later.writes = client.writes := by
  unfold installRuntimeConfig Client.settledIn
  rw [Program.run_modify_bind, Program.run_get_bind]
  change ∃ raised later, (match client.capabilities with
    | none => (pure () : ClientM Unit)
    | some capabilities => parseCapabilities capabilities) (client.pointTo ref) = _ ∧ _
  cases hcapabilities : client.capabilities with
  | none =>
    rw [Client.installs, hcapabilities] at hinstalls
    cases hinstalls
  | some capabilities =>
    have hpointed : (client.pointTo ref).state ≠ .inventorying := hstate
    have hrefuses : passesCapabilities (client.pointTo ref).settings capabilities = false := by
      rwa [Client.installs, hcapabilities] at hinstalls
    have hraises := raises_parseCapabilities hpointed capabilities
    have hsettings := settings_parseCapabilities hpointed capabilities
    obtain ⟨values, hvalues⟩ := parseCapabilities_parsing capabilities _ hpointed
    rw [hrefuses] at hraises
    unfold Program.raises at hraises
    unfold Program.final at hsettings
    rcases hrun : parseCapabilities capabilities (client.pointTo ref) with ⟨raised | _, later⟩
    · have hlater : later = (client.pointTo ref).parsed values := by
        rw [hrun] at hvalues
        exact hvalues
      have hcontent : later.settings = settledConfig (client.configs ref) capabilities := by
        rw [hrun] at hsettings
        exact hsettings
      rw [hlater, Client.settings_parsed] at hcontent
      subst hlater
      refine ⟨raised, _, hrun, hcapabilities, ?_, rfl, rfl, rfl⟩
      funext other
      change (if other = ref then _ else client.configs other) = if other = ref then _ else _
      split
      · exact hcontent
      · rfl
    · rw [hrun] at hraises
      cases hraises

/-- When the reader is stopped and the new configuration does not fit it, the old one is
restored at once. -/
theorem run_afterStopped_of_refused {frame : ApplyFrame} {client later : Client} {raised : Exn}
    (hinstall : installRuntimeConfig frame.newConfig (client.setState .connected) =
      (.error raised, later)) :
    ∃ error, frame.afterStopped true client = frame.restoreOld error later := by
  have hattempt : (installRuntimeConfig frame.newConfig).attempt (client.setState .connected) =
      (.ok (.error raised), later) := by rw [Program.run_attempt, hinstall]
  unfold ApplyFrame.afterStopped setState
  rw [Bool.not_true, if_neg Bool.false_ne_true, Program.run_modify_bind,
    Program.run_bind_ok hattempt]
  exact ⟨_, rfl⟩

/-- When it fits, the chain goes on with the new configuration installed. -/
theorem run_afterStopped_of_installed {frame : ApplyFrame} {client later : Client}
    (hinstall : installRuntimeConfig frame.newConfig (client.setState .connected) =
      (.ok (), later)) :
    frame.afterStopped true client =
      if frame.plan.requiresReaderConfigWrite then
        sendSetReaderConfig (.readerConfigApplied frame)
          { later with suppressSetConfigPostActions := true }
      else frame.finishNewState later := by
  have hattempt : (installRuntimeConfig frame.newConfig).attempt (client.setState .connected) =
      (.ok (.ok ()), later) := by rw [Program.run_attempt, hinstall]
  unfold ApplyFrame.afterStopped setState
  rw [Bool.not_true, if_neg Bool.false_ne_true, Program.run_modify_bind,
    Program.run_bind_ok hattempt]
  dsimp only
  rw [Program.run_ite]
  rfl

/-! ## What building depends on -/

/-- The part of the client that decides whether ROSpecs can be built, now and
after a configuration is installed. -/
structure Blueprint where
  configs : ConfigRef → LLRPReaderConfig
  config : ConfigRef
  capabilities : Option Capabilities
  readerMode : Option ReaderMode
  dedupBackendActive : DedupBackend
  rospec : Option GeneratedROSpec
  inventoryRospecAdded : Bool

def Client.blueprint (client : Client) : Blueprint where
  configs := client.configs
  config := client.config
  capabilities := client.capabilities
  readerMode := client.readerMode
  dedupBackendActive := client.dedupBackendActive
  rospec := client.rospec
  inventoryRospecAdded := client.inventoryRospecAdded

theorem blueprint_setState (client : Client) (newState : ReaderState) :
    (client.setState newState).blueprint = client.blueprint := rfl

theorem settings_of_blueprint {client later : Client}
    (hbuild : later.blueprint = client.blueprint) : later.settings = client.settings := by
  have hconfig : later.config = client.config := congrArg Blueprint.config hbuild
  have hconfigs : later.configs = client.configs := congrArg Blueprint.configs hbuild
  rw [Client.settings, Client.settings, hconfigs, hconfig]

theorem tripsBuilding_of_blueprint {client later : Client}
    (hbuild : later.blueprint = client.blueprint) : later.tripsBuilding = client.tripsBuilding := by
  have hmode : later.readerMode = client.readerMode := congrArg Blueprint.readerMode hbuild
  have hbackend : later.dedupBackendActive = client.dedupBackendActive :=
    congrArg Blueprint.dedupBackendActive hbuild
  unfold Client.tripsBuilding Client.lacksDedupWindow
  rw [hmode, hbackend, settings_of_blueprint hbuild]

namespace Blueprint

/-- A blueprint with a configuration current. -/
def pointTo (blueprint : Blueprint) (ref : ConfigRef) : Blueprint :=
  { blueprint with
    config := ref
    rospec := none }

/-- A blueprint with the values that parsing derives. -/
def parsed (blueprint : Blueprint) (values : Derived) : Blueprint :=
  { blueprint with
    configs := fun other =>
      if other = blueprint.config then
        { blueprint.configs blueprint.config with
          txPower := values.txPower, txPowerDbm := values.txPowerDbm }
      else blueprint.configs other
    readerMode := values.readerMode
    dedupBackendActive := values.dedupBackendActive }

end Blueprint

theorem installs_of_blueprint {client later : Client} (hbuild : later.blueprint = client.blueprint)
    (ref : ConfigRef) : later.installs ref = client.installs ref := by
  have hcapabilities : later.capabilities = client.capabilities :=
    congrArg Blueprint.capabilities hbuild
  have hconfigs : later.configs = client.configs := congrArg Blueprint.configs hbuild
  unfold Client.installs
  rw [hcapabilities, hconfigs]

theorem blueprint_installed {client later : Client} (hbuild : later.blueprint = client.blueprint)
    (ref : ConfigRef) : (later.installed ref).blueprint = (client.installed ref).blueprint := by
  have hcapabilities : later.capabilities = client.capabilities :=
    congrArg Blueprint.capabilities hbuild
  have hconfigs : later.configs = client.configs := congrArg Blueprint.configs hbuild
  unfold Client.installed
  rw [hcapabilities, hconfigs]
  cases client.capabilities with
  | none => exact congrArg (Blueprint.pointTo · ref) hbuild
  | some capabilities =>
    exact congrArg (fun blueprint => (Blueprint.pointTo blueprint ref).parsed
      (settledValues (client.configs ref) capabilities)) hbuild

theorem blueprint_settledIn {client later : Client} (hbuild : later.blueprint = client.blueprint)
    (ref : ConfigRef) : (later.settledIn ref).blueprint = (client.settledIn ref).blueprint := by
  have hcapabilities : later.capabilities = client.capabilities :=
    congrArg Blueprint.capabilities hbuild
  have hconfigs : later.configs = client.configs := congrArg Blueprint.configs hbuild
  unfold Client.settledIn
  rw [hcapabilities, hconfigs]
  cases client.capabilities with
  | none => exact hbuild
  | some capabilities =>
    exact congrArg (fun blueprint : Blueprint => { blueprint with
      configs := fun other =>
        if other = ref then settledConfig (client.configs ref) capabilities
        else blueprint.configs other }) hbuild

theorem tripsRestoring_of_blueprint {client later : Client}
    (hbuild : later.blueprint = client.blueprint) (frame : ApplyFrame) :
    later.tripsRestoring frame = client.tripsRestoring frame := by
  have hadded : later.inventoryRospecAdded = client.inventoryRospecAdded :=
    congrArg Blueprint.inventoryRospecAdded hbuild
  unfold Client.tripsRestoring
  rw [installs_of_blueprint hbuild, hadded,
    tripsBuilding_of_blueprint (blueprint_installed hbuild frame.oldConfig)]

/-- A configuration that cannot be installed was checked against capabilities. -/
theorem settledIn_of_not_installs {client : Client} {ref : ConfigRef}
    (hinstalls : client.installs ref = false) :
    ∃ capabilities, client.capabilities = some capabilities ∧
      (client.settledIn ref).capabilities = some capabilities ∧
      ((client.setState .connected).settledIn ref).configs = (client.settledIn ref).configs ∧
      (client.settledIn ref).inventoryRospecAdded = client.inventoryRospecAdded := by
  have hstopped : (client.setState .connected).capabilities = client.capabilities := rfl
  unfold Client.installs at hinstalls
  unfold Client.settledIn
  rw [hstopped]
  cases hknown : client.capabilities with
  | none =>
    rw [hknown] at hinstalls
    cases hinstalls
  | some capabilities => exact ⟨capabilities, rfl, hknown, rfl, rfl⟩

/-- With capabilities, what is installed is read from the configurations. -/
theorem blueprint_installed_of_capabilities {client later : Client} {capabilities : Capabilities}
    (hcapabilities : client.capabilities = some capabilities)
    (hsame : later.capabilities = client.capabilities) (hconfigs : later.configs = client.configs)
    (hadded : later.inventoryRospecAdded = client.inventoryRospecAdded) (ref : ConfigRef) :
    (later.installed ref).blueprint = (client.installed ref).blueprint := by
  unfold Client.installed
  rw [hsame, hcapabilities, hconfigs]
  change Blueprint.parsed (Blueprint.pointTo later.blueprint ref) _ =
    Blueprint.parsed (Blueprint.pointTo client.blueprint ref) _
  unfold Blueprint.parsed Blueprint.pointTo Client.blueprint
  rw [hsame, hconfigs, hadded]

/-- With capabilities, everything that restoring depends on is read from the
configurations. -/
theorem tripsRestoring_congr {client later : Client} {capabilities : Capabilities}
    (hcapabilities : client.capabilities = some capabilities)
    (hsame : later.capabilities = client.capabilities) (hconfigs : later.configs = client.configs)
    (hadded : later.inventoryRospecAdded = client.inventoryRospecAdded) (frame : ApplyFrame) :
    later.tripsRestoring frame = client.tripsRestoring frame := by
  have hinstalled := blueprint_installed_of_capabilities hcapabilities hsame hconfigs hadded
    frame.oldConfig
  unfold Client.tripsRestoring
  rw [tripsBuilding_of_blueprint hinstalled, hadded]
  unfold Client.installs
  rw [hsame, hconfigs]

/-- A start with a new ROSpec from CONNECTED has to build it. -/
theorem escapes_restart {client : Client} (hwritable : client.Writable)
    (onCompletion : Completion) (completed : ClientM Unit) :
    escapes (setState .connected >>= fun _ => startInventory true onCompletion completed) client =
      client.tripsBuilding := by
  have hready : (client.setState .connected).Writable := hwritable
  have hstate : (client.setState .connected).state ≠ .inventorying := ReaderState.noConfusion
  have huncached : (client.setState .connected).rospec.filter (fun _ => !true) = none := by
    cases (client.setState .connected).rospec <;> rfl
  change escapes (startInventory true onCompletion completed) (client.setState .connected) = _
  rw [escapes_startInventory hready hstate, huncached,
    tripsBuilding_of_blueprint (blueprint_setState client _)]
  rfl

/-! ## The links of a transition -/

theorem escapes_finishRestore {client : Client} (hwritable : client.Writable)
    (frame : ApplyFrame) (error : String) :
    escapes (frame.finishRestore error) client =
      (frame.wasInventorying && client.tripsBuilding) := by
  unfold ApplyFrame.finishRestore
  cases frame.wasInventorying with
  | true =>
    exact escapes_restart hwritable _ _
  | false => cases frame.wasPaused <;> rfl

theorem escapes_cleanupReplacementRospec {client : Client} (hwritable : client.Writable)
    (frame : ApplyFrame) (error : String) :
    escapes (frame.cleanupReplacementRospec error) client =
      (frame.wasInventorying && !client.inventoryRospecAdded && client.tripsBuilding) := by
  unfold ApplyFrame.cleanupReplacementRospec
  rw [escapes_get_bind]
  cases hwas : frame.wasInventorying with
  | false =>
    change escapes (frame.finishRestore error) client = _
    rw [escapes_finishRestore hwritable, hwas]
    rfl
  | true =>
    cases client.inventoryRospecAdded with
    | false =>
      change escapes (frame.finishRestore error) client = _
      rw [escapes_finishRestore hwritable, hwas]
      rfl
    | true =>
      have hready : (client.setState .connected).Writable := hwritable
      exact escapes_sendRequest hready _ _ _ _

theorem escapes_restoreOld {client : Client} (hwritable : client.Writable)
    (hstate : client.state ≠ .inventorying) (frame : ApplyFrame) (error : String) :
    escapes (frame.restoreOld error) client = client.tripsRestoring frame := by
  unfold ApplyFrame.restoreOld Client.tripsRestoring
  cases hinstalls : client.installs frame.oldConfig with
  | false =>
    obtain ⟨raised, later, hrun, -⟩ := run_installRuntimeConfig_of_not_installs hstate hinstalls
    have hattempt : (installRuntimeConfig frame.oldConfig).attempt client =
        (.ok (.error raised), later) := by rw [Program.run_attempt, hrun]
    rw [escapes_bind_ok hattempt]
    rfl
  | true =>
    have hrun := run_installRuntimeConfig_of_installs hstate hinstalls
    have hattempt : (installRuntimeConfig frame.oldConfig).attempt client =
        (.ok (.ok ()), client.installed frame.oldConfig) := by rw [Program.run_attempt, hrun]
    have hinstalled : (client.installed frame.oldConfig).writes = client.writes ∧
        (client.installed frame.oldConfig).inventoryRospecAdded =
          client.inventoryRospecAdded := by
      unfold Client.installed
      cases client.capabilities <;> exact ⟨rfl, rfl⟩
    have hready : (client.installed frame.oldConfig).Writable :=
      writable_of_sublist hwritable (hinstalled.1 ▸ List.Sublist.refl _)
    rw [escapes_bind_ok hattempt]
    cases frame.newReaderConfigApplied with
    | true =>
      have hsuppressed : { (client.installed frame.oldConfig).setState .connected with
          suppressSetConfigPostActions := true }.Writable := hready
      exact escapes_sendRequest hsuppressed _ _ _ _
    | false =>
      change escapes (frame.cleanupReplacementRospec error) (client.installed frame.oldConfig) = _
      rw [escapes_cleanupReplacementRospec hready, hinstalled.2]
      rfl

theorem escapes_finishNewState {client : Client} (hwritable : client.Writable)
    (frame : ApplyFrame) :
    escapes frame.finishNewState client = (frame.wasInventorying && client.tripsBuilding) := by
  unfold ApplyFrame.finishNewState
  cases frame.wasInventorying with
  | true => exact escapes_restart hwritable _ _
  | false => cases frame.wasPaused <;> rfl

/-- Whether going over to a configuration fails with something other than an
`LLRPError`: it can be installed, needs no settings written, and its ROSpec
cannot be built for a new start; or it cannot be installed, and returning to the
old one fails so. -/
def Client.tripsReplacing (client : Client) (frame : ApplyFrame) : Bool :=
  if client.installs frame.newConfig then
    !frame.plan.requiresReaderConfigWrite && frame.wasInventorying &&
      (client.installed frame.newConfig).tripsBuilding
  else (client.settledIn frame.newConfig).tripsRestoring frame

theorem tripsReplacing_of_blueprint {client later : Client}
    (hbuild : later.blueprint = client.blueprint) (frame : ApplyFrame) :
    later.tripsReplacing frame = client.tripsReplacing frame := by
  unfold Client.tripsReplacing
  rw [installs_of_blueprint hbuild,
    tripsBuilding_of_blueprint (blueprint_installed hbuild frame.newConfig),
    tripsRestoring_of_blueprint (blueprint_settledIn hbuild frame.newConfig)]

theorem escapes_afterStopped {client : Client} (hwritable : client.Writable) (frame : ApplyFrame)
    (isSuccess : Bool) :
    escapes (frame.afterStopped isSuccess) client =
      (isSuccess && client.tripsReplacing frame) := by
  unfold ApplyFrame.afterStopped Client.tripsReplacing
  cases isSuccess with
  | false => rfl
  | true =>
    let stopped := client.setState .connected
    have hstate : stopped.state ≠ .inventorying := ReaderState.noConfusion
    simp only [Bool.not_true, Bool.false_eq_true, if_false, Bool.true_and]
    unfold setState
    rw [escapes_modify_bind]
    have hsame : stopped.installs frame.newConfig = client.installs frame.newConfig := rfl
    cases hinstalls : client.installs frame.newConfig with
    | false =>
      obtain ⟨raised, later, hrun, hcapabilities, hconfigs, hadded, hlater, hwrites⟩ :=
        run_installRuntimeConfig_of_not_installs hstate (hsame.trans hinstalls)
      have hattempt : (installRuntimeConfig frame.newConfig).attempt stopped =
          (.ok (.error raised), later) := by rw [Program.run_attempt, hrun]
      have hready : later.Writable :=
        writable_of_sublist hwritable (hwrites ▸ List.Sublist.refl _)
      rw [escapes_bind_ok hattempt]
      change escapes (frame.restoreOld _) later = _
      rw [escapes_restoreOld hready (hlater ▸ hstate)]
      obtain ⟨capabilities, hknown, hsettled, hconfigsSettled, haddedSettled⟩ :=
        settledIn_of_not_installs hinstalls
      exact tripsRestoring_congr hsettled (hcapabilities.trans (hknown.trans hsettled.symm))
        (hconfigs.trans hconfigsSettled) (hadded.trans haddedSettled.symm) frame
    | true =>
      have hrun := run_installRuntimeConfig_of_installs hstate (hsame.trans hinstalls)
      have hattempt : (installRuntimeConfig frame.newConfig).attempt stopped =
          (.ok (.ok ()), stopped.installed frame.newConfig) := by rw [Program.run_attempt, hrun]
      have hwrites : (stopped.installed frame.newConfig).writes = client.writes := by
        unfold Client.installed
        cases stopped.capabilities <;> rfl
      have hinstalled := blueprint_installed (blueprint_setState client .connected) frame.newConfig
      have hready : (stopped.installed frame.newConfig).Writable :=
        writable_of_sublist hwritable (hwrites ▸ List.Sublist.refl _)
      rw [escapes_bind_ok hattempt]
      cases frame.plan.requiresReaderConfigWrite with
      | true =>
        have hsuppressed : { stopped.installed frame.newConfig with
            suppressSetConfigPostActions := true }.Writable := hready
        simp only [if_true]
        exact escapes_sendRequest hsuppressed _ _ _ _
      | false =>
        simp only [Bool.false_eq_true, if_false, if_true, Bool.not_false, Bool.true_and]
        rw [escapes_finishNewState hready, tripsBuilding_of_blueprint hinstalled]

/-! ## Completions and callbacks -/

/-- Whether a completion fails with something other than an `LLRPError`. -/
def Completion.trips (client : Client) : Completion → Bool → Bool
  | absent, _ | application, _ | disconnectStopped, _ | restored _ _, _ => false
  | resetStopped, isSuccess =>
    isSuccess && client.settings.startInventory && client.rospec.isNone && client.tripsBuilding
  | txPowerStopped, isSuccess | deleted, isSuccess => isSuccess && client.tripsBuilding
  | afterStopped frame, isSuccess => isSuccess && client.tripsReplacing frame
  | restarted frame, isSuccess => !isSuccess && client.tripsRestoring frame
  | afterRospecCleanup frame _, isSuccess =>
    isSuccess && frame.wasInventorying && client.tripsBuilding

theorem Completion.trips_of_blueprint {client later : Client}
    (hbuild : later.blueprint = client.blueprint) (onCompletion : Completion) (isSuccess : Bool) :
    onCompletion.trips later isSuccess = onCompletion.trips client isSuccess := by
  have hrospec : later.rospec = client.rospec := congrArg Blueprint.rospec hbuild
  unfold Completion.trips
  cases onCompletion <;>
    simp only [settings_of_blueprint hbuild, hrospec, tripsBuilding_of_blueprint hbuild,
      tripsReplacing_of_blueprint hbuild, tripsRestoring_of_blueprint hbuild]

/-- The hypothesis on the state is that of `escapes_restoreOld`. -/
theorem escapes_runCompletion {client : Client} (hwritable : client.Writable)
    {onCompletion : Completion} {isSuccess : Bool}
    (hstate : client.state = .inventorying → onCompletion.ofStart = true → isSuccess = true) :
    escapes (runCompletion onCompletion isSuccess) client =
      onCompletion.trips client isSuccess := by
  unfold Completion.trips
  cases onCompletion with
  | absent => rfl
  | application => rfl
  | disconnectStopped => rfl
  | resetStopped =>
    cases isSuccess with
    | false => rfl
    | true =>
      let stopped := client.setState .connected
      have hconnected : stopped.state ≠ .inventorying := ReaderState.noConfusion
      change escapes (if client.settings.startInventory then startInventory false .absent (pure ())
        else pure ()) stopped = _
      cases client.settings.startInventory with
      | false => rfl
      | true =>
        have hready : stopped.Writable := hwritable
        have hcached : stopped.rospec.filter (fun _ => !false) = client.rospec := by
          change client.rospec.filter _ = _
          cases client.rospec <;> rfl
        rw [if_pos rfl, escapes_startInventory hready hconnected, hcached,
          tripsBuilding_of_blueprint (blueprint_setState client _)]
        rfl
  | txPowerStopped =>
    cases isSuccess with
    | false => rfl
    | true => exact escapes_restart hwritable _ _
  | deleted =>
    cases isSuccess with
    | false => rfl
    | true => exact escapes_restart hwritable _ _
  | afterStopped frame => exact escapes_afterStopped hwritable frame isSuccess
  | restarted frame =>
    cases isSuccess with
    | true => rfl
    | false =>
      have hleft : client.state ≠ .inventorying := fun heq => nomatch hstate heq rfl
      exact escapes_restoreOld hwritable hleft frame _
  | restored frame error => cases isSuccess <;> rfl
  | afterRospecCleanup frame error =>
    cases isSuccess with
    | false => rfl
    | true => exact escapes_finishRestore hwritable frame error

/-- Whether an operation has more target tags than an AccessSpec takes. -/
def AccessOperation.exceedsTargets (operation : AccessOperation) : Bool :=
  2 < operation.targetSpec.length

/-- The client with its ROSpecs deleted, or not. -/
def Client.rospecsDeleted (client : Client) (isSuccess : Bool) : Client :=
  { client with
    inventoryRospecAdded := client.inventoryRospecAdded && !isSuccess
    rospec := none
    generatedConfigSnapshot := none }

/-- Whether a callback fails with something other than an `LLRPError`. -/
def Callback.trips (client : Client) (isSuccess : Bool) : Callback → Bool
  | enabledRospecCb onCompletion => onCompletion.trips client isSuccess
  | sendAddedRospecCb _ onCompletion | sendDeleteAccessspecCb onCompletion =>
    !isSuccess && onCompletion.trips client false
  | stopAllRospecsCb onCompletion =>
    onCompletion.trips (client.rospecsDeleted isSuccess) isSuccess
  | startNextAccessspecCb operation => operation.exceedsTargets
  | readerConfigApplied frame =>
    if isSuccess then frame.wasInventorying && client.tripsBuilding
    else client.tripsRestoring frame
  | oldReaderConfigRestored frame _ =>
    isSuccess && frame.wasInventorying && !client.inventoryRospecAdded && client.tripsBuilding
  | application | getReaderCapabilitiesCb | enableImpinjExtCb | getReaderConfigCb
  | setReaderConfigCb | disableRospecPauseCb _ _ | enableRospecResumeCb | addAccessspecCb _
  | disableAccessspecCb _ => false

theorem blueprint_rospecsDeleted {client later : Client}
    (hbuild : later.blueprint = client.blueprint) (isSuccess : Bool) :
    (later.rospecsDeleted isSuccess).blueprint = (client.rospecsDeleted isSuccess).blueprint :=
  congrArg (fun blueprint : Blueprint => { blueprint with
    inventoryRospecAdded := blueprint.inventoryRospecAdded && !isSuccess
    rospec := none }) hbuild

theorem Callback.trips_of_blueprint {client later : Client}
    (hbuild : later.blueprint = client.blueprint) (isSuccess : Bool) (callback : Callback) :
    callback.trips later isSuccess = callback.trips client isSuccess := by
  have hadded : later.inventoryRospecAdded = client.inventoryRospecAdded :=
    congrArg Blueprint.inventoryRospecAdded hbuild
  have hdeleted := blueprint_rospecsDeleted hbuild isSuccess
  unfold Callback.trips
  cases callback <;>
    simp only [Completion.trips_of_blueprint hbuild, Completion.trips_of_blueprint hdeleted,
      hadded, tripsBuilding_of_blueprint hbuild, tripsRestoring_of_blueprint hbuild]

/-- The responses that complete requests while inventorying. -/
def accessResponses : List MessageName :=
  [.addAccessspecResponse, .enableAccessspecResponse, .disableAccessspecResponse,
    .deleteAccessspecResponse]

theorem escapes_startAccess {client : Client} (hwritable : client.Writable)
    (operation : AccessOperation) :
    escapes (startAccess operation) client = operation.exceedsTargets := by
  have htargets : (2 < (if operation.targetSpec.isEmpty then [{}]
      else operation.targetSpec : List C1G2TargetTag).length) ↔
      2 < operation.targetSpec.length := by
    cases operation.targetSpec with
    | nil => simp
    | cons target targets => exact Iff.rfl
  unfold startAccess accessSpec AccessOperation.exceedsTargets
  dsimp only
  by_cases hexceeds : 2 < operation.targetSpec.length
  · rw [if_pos (htargets.mpr hexceeds), decide_eq_true hexceeds]
    rfl
  · rw [if_neg (fun htoo => hexceeds (htargets.mp htoo)), decide_eq_false hexceeds]
    by_cases hunsupported : operation.opSpec = .unsupported
    · rw [if_pos hunsupported]
      rfl
    · rw [if_neg hunsupported]
      exact escapes_sendRequest hwritable _ _ _ _

/-- While inventorying, only callbacks of access operations are run. -/
theorem escapes_runCallback {client : Client} (hwritable : client.Writable) {callback : Callback}
    {name : MessageName} (hanswers : callback.answers name = true)
    (hstate : client.state = .inventorying → name ∈ accessResponses) (isSuccess : Bool) :
    escapes (runCallback callback isSuccess) client = callback.trips client isSuccess := by
  have hother : ∀ {other : MessageName}, name = other → other ∉ accessResponses →
      client.state ≠ .inventorying := by
    rintro other rfl hmem heq
    exact hmem (hstate heq)
  have hready : ∀ newState, (client.setState newState).Writable := fun _ => hwritable
  cases callback with
  | application => rfl
  | getReaderCapabilitiesCb => cases isSuccess <;> rfl
  | enableImpinjExtCb =>
    cases isSuccess with
    | true => exact escapes_sendRequest hwritable _ _ _ _
    | false => rfl
  | getReaderConfigCb => cases isSuccess <;> rfl
  | setReaderConfigCb => cases isSuccess <;> rfl
  | enabledRospecCb onCompletion =>
    have hleft := hother (of_decide_eq_true hanswers) (by decide)
    cases isSuccess with
    | true =>
      change escapes (runCompletion onCompletion true) (client.setState .inventorying) = _
      rw [escapes_runCompletion (hready .inventorying) fun _ _ => rfl]
      exact onCompletion.trips_of_blueprint (blueprint_setState client .inventorying) true
    | false => exact escapes_runCompletion hwritable fun heq => absurd heq hleft
  | sendAddedRospecCb rospec onCompletion =>
    have hleft := hother (of_decide_eq_true hanswers) (by decide)
    cases isSuccess with
    | true =>
      have hadded : { client with inventoryRospecAdded := true }.Writable := hwritable
      exact escapes_sendRequest hadded _ _ _ _
    | false => exact escapes_runCompletion hwritable fun heq => absurd heq hleft
  | sendDeleteAccessspecCb onCompletion =>
    simp only [Callback.answers, Bool.and_eq_true, Bool.not_eq_true'] at hanswers
    cases isSuccess with
    | true => exact escapes_sendRequest hwritable _ _ _ _
    | false =>
      exact escapes_runCompletion hwritable fun _ hstart =>
        absurd (hanswers.2.symm.trans hstart) Bool.false_ne_true
  | stopAllRospecsCb onCompletion =>
    have hleft := hother (of_decide_eq_true hanswers) (by decide)
    have hdeleted : (client.rospecsDeleted isSuccess).Writable := hwritable
    exact escapes_runCompletion hdeleted fun heq => absurd heq hleft
  | disableRospecPauseCb durationSeconds forceRegenRospec =>
    cases isSuccess with
    | true =>
      change escapes (if 0 < durationSeconds then
        schedulePauseResume durationSeconds forceRegenRospec else pure ())
        (client.setState .paused) = _
      split <;> rfl
    | false => rfl
  | enableRospecResumeCb => cases isSuccess <;> rfl
  | addAccessspecCb accessSpecId =>
    cases isSuccess with
    | true => exact escapes_sendMessage hwritable _
    | false => rfl
  | disableAccessspecCb operation => exact escapes_sendRequest hwritable _ _ _ _
  | startNextAccessspecCb operation => exact escapes_startAccess hwritable operation
  | readerConfigApplied frame =>
    have hleft := hother (of_decide_eq_true hanswers) (by decide)
    cases isSuccess with
    | true => exact escapes_finishNewState hwritable _
    | false => exact escapes_restoreOld hwritable hleft frame _
  | oldReaderConfigRestored frame error =>
    cases isSuccess with
    | true => exact escapes_cleanupReplacementRospec hwritable frame error
    | false => rfl

end Sllurp.Session
