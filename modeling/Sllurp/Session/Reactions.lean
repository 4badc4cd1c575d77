/-
# What callbacks set off

A callback sends at most one request. It may also return without one, raise before it,
or close the session. Which of these it does follows from the configurations, from what
was read from the reader and from which responses are waited for: its reaction. Every
callback that is run while writes go out does what its reaction says.
-/

import Sllurp.Session.Crashes

namespace Sllurp.Session

open Sllurp.Foundations Sllurp.Protocol Sllurp.Config Sllurp.Runtime
open Sllurp.Foundations.Program

/-! ## Reactions -/

/-- What a callback does if its writes go out. A request that it sends may be awaited under
the name of a response. -/
inductive Reaction
  | returns
  | raises
  | sends (awaited : Option MessageName)
  | closes

namespace Reaction

/-- A request is refused while its response is waited for. -/
def request (waiting : MessageName → Bool) (name : MessageName) : Reaction :=
  if waiting name then raises else sends (some name)

def count : Reaction → ℕ
  | sends _ => 1
  | returns | raises | closes => 0

/-- Whether what follows the callback is run. -/
def goesOn : Reaction → Bool
  | raises => false
  | returns | sends _ | closes => true

/-- Which responses are waited for afterwards. -/
def waiting (before : MessageName → Bool) : Reaction → MessageName → Bool
  | returns | raises => before
  | sends awaited => fun name => before name || awaited = some name
  | closes => fun _ => false

/-- Whether the client is disconnecting afterwards. -/
def disconnecting (before : Bool) : Reaction → Bool
  | returns | raises | sends _ => before
  | closes => false

end Reaction

/-- The end of a transition that leaves the client DISCONNECTED closes the reader client's
transport. -/
def Hook.failing : Hook → Reaction
  | application => .returns
  | completed _ _ => .closes

namespace Client

/-- Whether a ROSpec is cached that may be used, or can be built. -/
def readies (client : Client) (forceRegenRospec : Bool) : Bool :=
  (client.rospec.filter fun _ => !forceRegenRospec).isSome ||
    (makeROSpec client.readerMode 1 (rospecSettings client.settings)).isOk &&
      !client.lacksDedupWindow

/-- A start of the inventory outside INVENTORYING. -/
def starting (client : Client) (waiting : MessageName → Bool) (forceRegenRospec : Bool) :
    Reaction :=
  if client.readies forceRegenRospec then .request waiting .addRospecResponse else .raises

variable (client : Client) (waiting : MessageName → Bool) (frame : ApplyFrame)

/-- The return to the state that a transition started from. -/
def finishing : Reaction :=
  if frame.wasInventorying then client.starting waiting true else .returns

/-- The same after the replacement ROSpec is deleted. -/
def cleaning : Reaction :=
  if frame.wasInventorying && client.inventoryRospecAdded then
    .request waiting .deleteRospecResponse
  else client.finishing waiting frame

/-- The way back to the old configuration. -/
def restoring : Reaction :=
  if client.installs frame.oldConfig then
    if frame.newReaderConfigApplied then .request waiting .setReaderConfigResponse
    else (client.installed frame.oldConfig).cleaning waiting frame
  else frame.hook.failing

/-- The way to the new configuration. -/
def replacing : Reaction :=
  if client.installs frame.newConfig then
    if frame.plan.requiresReaderConfigWrite then .request waiting .setReaderConfigResponse
    else (client.installed frame.newConfig).finishing waiting frame
  else (client.settledIn frame.newConfig).restoring waiting frame

end Client

def Completion.reaction (client : Client) (waiting : MessageName → Bool) :
    Completion → Bool → Reaction
  | absent, _ | application, _ => .returns
  | resetStopped, isSuccess =>
    if isSuccess && client.settings.startInventory then client.starting waiting false else .returns
  | txPowerStopped, isSuccess | deleted, isSuccess =>
    if isSuccess then client.starting waiting true else .returns
  | disconnectStopped, _ => .closes
  | afterStopped frame, isSuccess => if isSuccess then client.replacing waiting frame else .returns
  | restarted frame, isSuccess => if isSuccess then .returns else client.restoring waiting frame
  | restored frame _, isSuccess => if isSuccess then .returns else frame.hook.failing
  | afterRospecCleanup frame _, isSuccess =>
    if isSuccess then client.finishing waiting frame else frame.hook.failing

def Callback.reaction (client : Client) (waiting : MessageName → Bool) (isSuccess : Bool) :
    Callback → Reaction
  | application | getReaderCapabilitiesCb | getReaderConfigCb | setReaderConfigCb
  | disableRospecPauseCb _ _ | enableRospecResumeCb => .returns
  | enableImpinjExtCb =>
    if isSuccess then .request waiting .getReaderCapabilitiesResponse else .raises
  | enabledRospecCb onCompletion => onCompletion.reaction client waiting isSuccess
  | sendAddedRospecCb _ onCompletion =>
    if isSuccess then .request waiting .enableRospecResponse
    else onCompletion.reaction client waiting false
  | sendDeleteAccessspecCb onCompletion =>
    if isSuccess then .request waiting .deleteRospecResponse
    else onCompletion.reaction client waiting false
  | stopAllRospecsCb onCompletion =>
    onCompletion.reaction (client.rospecsDeleted isSuccess) waiting isSuccess
  | addAccessspecCb _ =>
    if !isSuccess then .returns
    else if waiting .enableAccessspecResponse then .raises
    else .sends none
  | disableAccessspecCb _ => .request waiting .deleteAccessspecResponse
  | startNextAccessspecCb operation =>
    if operation.exceedsTargets || operation.opSpec = .unsupported then .raises
    else .request waiting .addAccessspecResponse
  | readerConfigApplied frame =>
    if isSuccess then client.finishing waiting frame else client.restoring waiting frame
  | oldReaderConfigRestored frame _ =>
    if isSuccess then client.cleaning waiting frame else frame.hook.failing

/-! ## What reactions depend on -/

section Dependence

variable {client later : Client} (waiting : MessageName → Bool) (frame : ApplyFrame)

theorem readies_of_blueprint (hbuild : later.blueprint = client.blueprint)
    (forceRegenRospec : Bool) :
    later.readies forceRegenRospec = client.readies forceRegenRospec := by
  have hrospec : later.rospec = client.rospec := congrArg Blueprint.rospec hbuild
  have hmode : later.readerMode = client.readerMode := congrArg Blueprint.readerMode hbuild
  have hbackend : later.dedupBackendActive = client.dedupBackendActive :=
    congrArg Blueprint.dedupBackendActive hbuild
  unfold Client.readies Client.lacksDedupWindow
  rw [hrospec, hmode, hbackend, settings_of_blueprint hbuild]

theorem starting_of_blueprint (hbuild : later.blueprint = client.blueprint)
    (forceRegenRospec : Bool) :
    later.starting waiting forceRegenRospec = client.starting waiting forceRegenRospec := by
  unfold Client.starting
  rw [readies_of_blueprint hbuild]

theorem finishing_of_blueprint (hbuild : later.blueprint = client.blueprint) :
    later.finishing waiting frame = client.finishing waiting frame := by
  unfold Client.finishing
  rw [starting_of_blueprint waiting hbuild]

theorem cleaning_of_blueprint (hbuild : later.blueprint = client.blueprint) :
    later.cleaning waiting frame = client.cleaning waiting frame := by
  have hadded : later.inventoryRospecAdded = client.inventoryRospecAdded :=
    congrArg Blueprint.inventoryRospecAdded hbuild
  unfold Client.cleaning
  rw [hadded, finishing_of_blueprint waiting frame hbuild]

theorem restoring_of_blueprint (hbuild : later.blueprint = client.blueprint) :
    later.restoring waiting frame = client.restoring waiting frame := by
  unfold Client.restoring
  rw [installs_of_blueprint hbuild,
    cleaning_of_blueprint waiting frame (blueprint_installed hbuild frame.oldConfig)]

theorem replacing_of_blueprint (hbuild : later.blueprint = client.blueprint) :
    later.replacing waiting frame = client.replacing waiting frame := by
  unfold Client.replacing
  rw [installs_of_blueprint hbuild,
    finishing_of_blueprint waiting frame (blueprint_installed hbuild frame.newConfig),
    restoring_of_blueprint waiting frame (blueprint_settledIn hbuild frame.newConfig)]

theorem Completion.reaction_of_blueprint (hbuild : later.blueprint = client.blueprint)
    (onCompletion : Completion) (isSuccess : Bool) :
    onCompletion.reaction later waiting isSuccess =
      onCompletion.reaction client waiting isSuccess := by
  unfold Completion.reaction
  cases onCompletion <;>
    simp only [settings_of_blueprint hbuild, starting_of_blueprint waiting hbuild,
      replacing_of_blueprint waiting _ hbuild, restoring_of_blueprint waiting _ hbuild,
      finishing_of_blueprint waiting _ hbuild]

theorem Callback.reaction_of_blueprint (hbuild : later.blueprint = client.blueprint)
    (isSuccess : Bool) (callback : Callback) :
    callback.reaction later waiting isSuccess = callback.reaction client waiting isSuccess := by
  have hdeleted := blueprint_rospecsDeleted hbuild isSuccess
  unfold Callback.reaction
  cases callback <;>
    simp only [Completion.reaction_of_blueprint waiting hbuild,
      Completion.reaction_of_blueprint waiting hdeleted, restoring_of_blueprint waiting _ hbuild,
      finishing_of_blueprint waiting _ hbuild, cleaning_of_blueprint waiting _ hbuild]

end Dependence

/-! ## Performing a reaction -/

namespace Client

/-- The requests written, the responses waited for, and whether the client disconnects. -/
def outlook (client : Client) : List Request × (MessageName → Bool) × Bool :=
  (client.requests, client.isWaiting, client.disconnecting)

end Client

/-- From this client, the program does what the reaction says. -/
structure Performs (program : ClientM Unit) (client : Client) (reaction : Reaction) : Prop where
  goesOn : (program client).1.isOk = reaction.goesOn
  requests : (program.final client).requests.length = client.requests.length + reaction.count
  waiting : reaction.goesOn = true →
    (program.final client).isWaiting = reaction.waiting client.isWaiting
  disconnecting : reaction.goesOn = true →
    (program.final client).disconnecting = reaction.disconnecting client.disconnecting

namespace Performs

variable {program other : ClientM Unit} {client start later : Client} {reaction : Reaction}

/-- A program that does what another one does from some client on. -/
theorem of_run (hrun : program client = other start) (hsame : start.outlook = client.outlook)
    (hother : Performs other start reaction) : Performs program client reaction := by
  have hfinal : other.final start = program.final client := congrArg Prod.snd hrun.symm
  have hrequests : start.requests = client.requests := congrArg Prod.fst hsame
  have hwaiting : start.isWaiting = client.isWaiting := congrArg (fun view => view.2.1) hsame
  have hdisconnecting : start.disconnecting = client.disconnecting :=
    congrArg (fun view => view.2.2) hsame
  obtain ⟨hgoesOn, hcount, hwaits, hdisconnects⟩ := hother
  rw [hfinal, hrequests] at hcount
  rw [hfinal, hwaiting] at hwaits
  rw [hfinal, hdisconnecting] at hdisconnects
  rw [← hrun] at hgoesOn
  exact ⟨hgoesOn, hcount, hwaits, hdisconnects⟩

theorem pure (client : Client) : Performs (pure ()) client .returns :=
  ⟨rfl, rfl, fun _ => rfl, fun _ => rfl⟩

theorem raise (raised : Exn) (client : Client) : Performs (.raise raised) client .raises :=
  ⟨rfl, rfl, fun _ => rfl, fun _ => rfl⟩

theorem modify {update : Client → Client} (hsame : (update client).outlook = client.outlook) :
    Performs (.modify update) client .returns := by
  have hrun : (.modify update : ClientM Unit) client =
      (Pure.pure () : ClientM Unit) (update client) := rfl
  exact of_run hrun hsame (pure (update client))

theorem get_bind {next : Client → ClientM Unit} (hnext : Performs (next client) client reaction) :
    Performs (Program.get >>= next) client reaction := by
  have hrun : (Program.get >>= next) client = next client client := rfl
  exact of_run hrun rfl hnext

theorem modify_bind {update : Client → Client} {next : Unit → ClientM Unit}
    (hsame : (update client).outlook = client.outlook)
    (hnext : Performs (next ()) (update client) reaction) :
    Performs (.modify update >>= next) client reaction := by
  have hrun : (.modify update >>= next) client = next () (update client) := rfl
  exact of_run hrun hsame hnext

theorem closes (hrun : program client = (.ok (), later))
    (hrequests : later.requests = client.requests)
    (hwaiting : ∀ name, later.isWaiting name = false)
    (hdisconnecting : later.disconnecting = false) : Performs program client .closes := by
  have hfinal : program.final client = later := congrArg Prod.snd hrun
  rw [← hfinal] at hrequests hwaiting hdisconnecting
  refine ⟨?_, congrArg List.length hrequests, fun _ => funext hwaiting, fun _ => hdisconnecting⟩
  rw [hrun]
  rfl

end Performs

/-! ## What programs perform -/

theorem isWaiting_afterSend (client : Client) (request : Request) (name : MessageName)
    (onCompletion : Callback) (newState : Option ReaderState) :
    (client.afterSend request name onCompletion newState).isWaiting =
      Reaction.waiting client.isWaiting (.sends (some name)) := by
  funext other
  have hcore := core_afterSend client request name onCompletion newState
  have hregistry : (client.afterSend request name onCompletion newState).pendingRequests =
      client.nextRegistry name onCompletion := congrArg Core.pendingRequests hcore
  have hdeferreds := congrArg (fun core => Core.deferreds core other) hcore
  change (client.afterSend request name onCompletion newState).deferreds other =
    (if other = name then _ else client.deferreds other) at hdeferreds
  change (_ || _) = ((_ || _) || decide (some name = some other))
  rw [hregistry, hdeferreds, Bool.eq_iff_iff]
  simp only [Bool.or_eq_true, hasResponseType_nextRegistry]
  by_cases hother : other = name
  · simp [hother]
  · simp [hother, Ne.symm hother]

section Programs

variable {client : Client}

theorem performs_sendRequest (hwritable : client.Writable) (request : Request)
    (name : MessageName) (onCompletion : Callback) (newState : Option ReaderState) :
    Performs (sendRequest request name onCompletion newState) client
      (.request client.isWaiting name) := by
  have hrun := run_sendRequest_of_writable hwritable request name onCompletion newState
  unfold Reaction.request
  cases hwaiting : client.isWaiting name with
  | true =>
    rw [hwaiting, if_pos rfl] at hrun
    rw [if_pos rfl]
    exact .of_run hrun rfl (.raise _ client)
  | false =>
    rw [hwaiting, if_neg Bool.false_ne_true] at hrun
    rw [if_neg Bool.false_ne_true]
    have hfinal : (sendRequest request name onCompletion newState).final client =
        client.afterSend request name onCompletion newState := congrArg Prod.snd hrun
    have hrequests : ((sendRequest request name onCompletion newState).final client).requests =
        client.requests ++ [request] := by rw [hfinal, requests_afterSend]
    have hprofile := profile_sendRequest request name onCompletion newState client
    refine ⟨?_, ?_, fun _ => ?_, fun _ => congrArg Profile.disconnecting hprofile⟩
    · rw [hrun]
      rfl
    · rw [hrequests, List.length_append]
      rfl
    · rw [hfinal, isWaiting_afterSend]

theorem performs_sendSetReaderConfig (hwritable : client.Writable) (onCompletion : Callback) :
    Performs (sendSetReaderConfig onCompletion) client
      (.request client.isWaiting .setReaderConfigResponse) :=
  .get_bind (performs_sendRequest hwritable _ _ _ _)

/-- A message that is not tracked is written unless its response is waited for. -/
theorem performs_sendMessage (hwritable : client.Writable) (request : Request) :
    Performs (sendMessage request) client
      (if (request.name.response.filter client.isWaiting).isSome then .raises
        else .sends none) := by
  have hrun := run_sendMessage request client
  cases hresponse : request.name.response.filter client.isWaiting with
  | some name =>
    rw [hresponse] at hrun
    exact .of_run hrun rfl (.raise _ client)
  | none =>
    rw [hresponse] at hrun
    dsimp only at hrun
    rw [run_write, show ({ client with lastMsgId := nextMessageId client.lastMsgId } :
      Client).nextWrite = none from nextWrite_of_writable hwritable] at hrun
    have hfinal := congrArg Prod.snd hrun
    change (sendMessage request).final client = _ at hfinal
    refine ⟨?_, ?_, fun _ => ?_, fun _ => ?_⟩
    · rw [hrun]
      rfl
    · rw [hfinal]
      change ((client.history ++ [Event.sent _ _ _]).filterMap _).length = _
      rw [List.filterMap_append, List.length_append]
      rfl
    · rw [hfinal]
      exact funext fun name => (Bool.or_false _).symm
    · rw [hfinal]
      rfl

theorem performs_stopPolitely (hwritable : client.Writable) (onCompletion : Completion) :
    Performs (stopPolitely onCompletion false) client
      (.request client.isWaiting .deleteAccessspecResponse) := by
  have hready : { client with disconnecting := client.disconnecting || false }.Writable :=
    hwritable
  refine .modify_bind ?_ (performs_sendRequest hready _ _ _ _)
  exact congrArg (fun disconnecting => (client.requests, client.isWaiting, disconnecting))
    (Bool.or_false client.disconnecting)

/-- A start outside INVENTORYING sends ADD_ROSPEC once its ROSpec is there. -/
theorem performs_startInventory (hwritable : client.Writable)
    (hstate : client.state ≠ .inventorying) (forceRegenRospec : Bool) (onCompletion : Completion)
    (completed : ClientM Unit) :
    Performs (startInventory forceRegenRospec onCompletion completed) client
      (client.starting client.isWaiting forceRegenRospec) := by
  have hget := run_getROSpec forceRegenRospec client
  unfold startInventory Client.starting Client.readies
  refine .get_bind ?_
  rw [if_neg hstate]
  cases hcached : client.rospec.filter fun _ => !forceRegenRospec with
  | some rospec =>
    rw [hcached] at hget
    have hready : { client with inventoryRospecAdded := false }.Writable := hwritable
    exact .of_run (run_bind_ok hget) rfl (.modify_bind rfl (performs_sendRequest hready _ _ _ _))
  | none =>
    rw [hcached] at hget
    cases hbuild : makeROSpec client.readerMode 1 (rospecSettings client.settings) with
    | error raised =>
      rw [hbuild] at hget
      exact .of_run (run_bind_error hget) rfl (.raise raised client)
    | ok built =>
      rw [hbuild] at hget
      let cached := client.cacheROSpec (client.generateROSpec built)
      cases hlacks : client.lacksDedupWindow with
      | true =>
        rw [hlacks] at hget
        exact .of_run (run_bind_error hget) rfl (.raise _ cached)
      | false =>
        rw [hlacks] at hget
        have hready : { cached with inventoryRospecAdded := false }.Writable := hwritable
        exact .of_run (run_bind_ok hget) rfl
          (.modify_bind rfl (performs_sendRequest hready _ _ _ _))

theorem performs_startConnected (hwritable : client.Writable) (forceRegenRospec : Bool)
    (onCompletion : Completion) (completed : ClientM Unit) :
    Performs (startInventory forceRegenRospec onCompletion completed) (client.setState .connected)
      (client.starting client.isWaiting forceRegenRospec) := by
  have hready : (client.setState .connected).Writable := hwritable
  have hstate : (client.setState .connected).state ≠ .inventorying := ReaderState.noConfusion
  have hstart := performs_startInventory hready hstate forceRegenRospec onCompletion completed
  rwa [starting_of_blueprint _ (blueprint_setState client .connected)] at hstart

/-- Starting again from CONNECTED. -/
theorem performs_restart (hwritable : client.Writable) (forceRegenRospec : Bool)
    (onCompletion : Completion) (completed : ClientM Unit) :
    Performs (setState .connected >>= fun _ =>
      startInventory forceRegenRospec onCompletion completed) client
      (client.starting client.isWaiting forceRegenRospec) :=
  .modify_bind rfl (performs_startConnected hwritable _ _ _)

end Programs

/-! ## The links of a transition -/

section Links

variable {client : Client} (frame : ApplyFrame) (error : String)

theorem performs_succeed (id : TransitionId) (hook : Hook) :
    Performs (succeed id hook) client .returns := by
  cases hook <;> exact .modify rfl

/-- A transition that fails in a session closes nothing. -/
theorem performs_fail (hstate : client.state ≠ .disconnected) (id : TransitionId) (hook : Hook) :
    Performs (fail id hook error) client .returns := by
  refine .modify ?_
  cases hook with
  | application => rfl
  | completed newConfig oldConfig =>
    have hconcluded : (client.conclude id .failed (some error)).state ≠ .disconnected := hstate
    rw [hookFailed_of_open hconcluded]
    rfl

theorem isWaiting_hardDisconnect (client : Client) (name : MessageName) :
    client.hardDisconnect.isWaiting name = false := by
  have hpending : client.hardDisconnect.pendingRequests.pending = .empty :=
    PendingRequestRegistry.pending_cancelAll _ _
  have htype : client.hardDisconnect.pendingRequests.hasResponseType name = false := by
    refine Bool.eq_false_iff.mpr fun hpends => ?_
    obtain ⟨id, pending, hget⟩ := (PendingRequestRegistry.hasResponseType_iff _ _).mp hpends
    rw [hpending] at hget
    cases hget
  change (_ || false) = false
  rw [htype]
  rfl

/-- One that ends without a session closes the transport of the reader client. -/
theorem performs_lost (id : TransitionId) (hook : Hook) :
    Performs (setState .disconnected >>= fun _ => fail id hook error) client hook.failing := by
  cases hook with
  | application => exact .modify_bind rfl (.modify rfl)
  | completed newConfig oldConfig =>
    let concluded := (client.setState .disconnected).conclude id .failed (some error)
    have hstate : concluded.state = .disconnected := rfl
    have hrun : (setState .disconnected >>= fun _ =>
        fail id (.completed newConfig oldConfig) error) client =
        (.ok (), (concluded.setReaderConfig oldConfig).hardDisconnect) :=
      congrArg (Prod.mk _) (hookFailed_of_disconnected hstate newConfig oldConfig)
    exact .closes hrun (requests_of_history (history_hardDisconnect _))
      (isWaiting_hardDisconnect _) rfl

theorem performs_finishRestore (hwritable : client.Writable) :
    Performs (frame.finishRestore error) client (client.finishing client.isWaiting frame) := by
  unfold ApplyFrame.finishRestore Client.finishing
  cases frame.wasInventorying with
  | true => exact performs_restart hwritable true _ _
  | false =>
    cases frame.wasPaused with
    | true => exact .modify_bind rfl (performs_fail error ReaderState.noConfusion _ _)
    | false => exact .modify_bind rfl (performs_fail error ReaderState.noConfusion _ _)

theorem performs_finishNewState (hwritable : client.Writable) :
    Performs frame.finishNewState client (client.finishing client.isWaiting frame) := by
  unfold ApplyFrame.finishNewState Client.finishing
  cases frame.wasInventorying with
  | true => exact performs_restart hwritable true _ _
  | false =>
    cases frame.wasPaused with
    | true => exact .modify_bind rfl (performs_succeed _ _)
    | false => exact .modify_bind rfl (performs_succeed _ _)

theorem performs_cleanupReplacementRospec (hwritable : client.Writable) :
    Performs (frame.cleanupReplacementRospec error) client
      (client.cleaning client.isWaiting frame) := by
  have hrestore := performs_finishRestore frame error hwritable
  unfold ApplyFrame.cleanupReplacementRospec Client.cleaning
  refine .get_bind ?_
  cases frame.wasInventorying with
  | false => exact hrestore
  | true =>
    cases client.inventoryRospecAdded with
    | false => exact hrestore
    | true =>
      have hready : (client.setState .connected).Writable := hwritable
      exact .modify_bind rfl (performs_sendRequest hready _ _ _ _)

/-- Installing a configuration writes nothing. -/
theorem outlook_installRuntimeConfig (hstate : client.state ≠ .inventorying) (ref : ConfigRef) :
    ((installRuntimeConfig ref).final client).outlook = client.outlook := by
  obtain ⟨values, hparsed⟩ := installRuntimeConfig_parsed hstate ref
  rw [hparsed]
  rfl

theorem writes_installed (client : Client) (ref : ConfigRef) :
    (client.installed ref).writes = client.writes := by
  unfold Client.installed
  cases client.capabilities <;> rfl

theorem performs_restoreOld (hwritable : client.Writable)
    (hstate : client.state ≠ .inventorying) :
    Performs (frame.restoreOld error) client (client.restoring client.isWaiting frame) := by
  have houtlook := outlook_installRuntimeConfig hstate frame.oldConfig
  unfold ApplyFrame.restoreOld Client.restoring
  cases hinstalls : client.installs frame.oldConfig with
  | false =>
    obtain ⟨raised, later, hrun, -⟩ := run_installRuntimeConfig_of_not_installs hstate hinstalls
    have hattempt : (installRuntimeConfig frame.oldConfig).attempt client =
        (.ok (.error raised), later) := by rw [Program.run_attempt, hrun]
    rw [Program.final, hrun] at houtlook
    exact .of_run (run_bind_ok hattempt) houtlook (performs_lost _ _ _)
  | true =>
    have hrun := run_installRuntimeConfig_of_installs hstate hinstalls
    have hattempt : (installRuntimeConfig frame.oldConfig).attempt client =
        (.ok (.ok ()), client.installed frame.oldConfig) := by rw [Program.run_attempt, hrun]
    rw [Program.final, hrun] at houtlook
    have hwaiting : (client.installed frame.oldConfig).isWaiting = client.isWaiting :=
      congrArg (fun view => view.2.1) houtlook
    have hready : (client.installed frame.oldConfig).Writable :=
      writable_of_sublist hwritable (writes_installed client _ ▸ List.Sublist.refl _)
    refine .of_run (run_bind_ok hattempt) houtlook ?_
    rw [← hwaiting]
    cases frame.newReaderConfigApplied with
    | true =>
      have hsuppressed : { (client.installed frame.oldConfig).setState .connected with
          suppressSetConfigPostActions := true }.Writable := hready
      exact .modify_bind rfl (.modify_bind rfl (performs_sendSetReaderConfig hsuppressed _))
    | false => exact performs_cleanupReplacementRospec frame error hready

/-- With capabilities, the way back is decided by what the configurations are. -/
theorem restoring_congr {later : Client} {capabilities : Capabilities}
    (hcapabilities : client.capabilities = some capabilities)
    (hsame : later.capabilities = client.capabilities) (hconfigs : later.configs = client.configs)
    (hadded : later.inventoryRospecAdded = client.inventoryRospecAdded)
    (waiting : MessageName → Bool) :
    later.restoring waiting frame = client.restoring waiting frame := by
  have hinstalled := blueprint_installed_of_capabilities hcapabilities hsame hconfigs hadded
    frame.oldConfig
  unfold Client.restoring
  rw [cleaning_of_blueprint waiting frame hinstalled]
  unfold Client.installs
  rw [hsame, hconfigs]

theorem performs_afterStopped (hwritable : client.Writable) (isSuccess : Bool) :
    Performs (frame.afterStopped isSuccess) client
      (if isSuccess then client.replacing client.isWaiting frame else .returns) := by
  cases isSuccess with
  | false =>
    have hopen : (client.setState frame.originalState.state).state ≠ .disconnected := by
      change frame.originalState.state ≠ _
      cases frame.originalState <;> exact ReaderState.noConfusion
    exact .modify_bind rfl (performs_fail _ hopen _ _)
  | true =>
    let stopped := client.setState .connected
    have hstate : stopped.state ≠ .inventorying := ReaderState.noConfusion
    have houtlook := outlook_installRuntimeConfig hstate frame.newConfig
    have hsame : stopped.installs frame.newConfig = client.installs frame.newConfig := rfl
    rw [if_pos rfl]
    unfold Client.replacing
    cases hinstalls : client.installs frame.newConfig with
    | false =>
      obtain ⟨raised, later, hrun, hcapabilities, hconfigs, hadded, hlater, hwrites⟩ :=
        run_installRuntimeConfig_of_not_installs hstate (hsame.trans hinstalls)
      obtain ⟨error, hrefused⟩ := run_afterStopped_of_refused hrun
      rw [Program.final, hrun] at houtlook
      have hwaiting : later.isWaiting = client.isWaiting :=
        congrArg (fun view => view.2.1) houtlook
      have hready : later.Writable :=
        writable_of_sublist hwritable (hwrites ▸ List.Sublist.refl _)
      have hrestore := performs_restoreOld frame error hready (hlater ▸ hstate)
      obtain ⟨capabilities, hknown, hsettled, hconfigsSettled, haddedSettled⟩ :=
        settledIn_of_not_installs hinstalls
      rw [hwaiting, restoring_congr frame hsettled
        (hcapabilities.trans (hknown.trans hsettled.symm)) (hconfigs.trans hconfigsSettled)
        (hadded.trans haddedSettled.symm)] at hrestore
      exact .of_run hrefused houtlook hrestore
    | true =>
      have hrun := run_installRuntimeConfig_of_installs hstate (hsame.trans hinstalls)
      have hafter := run_afterStopped_of_installed hrun
      rw [Program.final, hrun] at houtlook
      have hwaiting : (stopped.installed frame.newConfig).isWaiting = client.isWaiting :=
        congrArg (fun view => view.2.1) houtlook
      have hready : (stopped.installed frame.newConfig).Writable :=
        writable_of_sublist hwritable (writes_installed stopped _ ▸ List.Sublist.refl _)
      cases hwrites : frame.plan.requiresReaderConfigWrite with
      | true =>
        have hsuppressed : { stopped.installed frame.newConfig with
            suppressSetConfigPostActions := true }.Writable := hready
        have hset := performs_sendSetReaderConfig hsuppressed (.readerConfigApplied frame)
        rw [hwrites, if_pos rfl] at hafter
        exact .of_run hafter houtlook (hwaiting ▸ hset)
      | false =>
        have hinstalled := blueprint_installed (blueprint_setState client .connected)
          frame.newConfig
        have hfinish := performs_finishNewState frame hready
        rw [hwaiting, finishing_of_blueprint _ frame hinstalled] at hfinish
        rw [hwrites, if_neg Bool.false_ne_true] at hafter
        exact .of_run hafter houtlook hfinish

end Links

/-! ## Completions and callbacks -/

section Callbacks

variable {client : Client}

/-- The hypotheses on the state are those of `performs_fail` and `performs_restoreOld`. -/
theorem performs_runCompletion (hwritable : client.Writable)
    (hopen : client.state ≠ .disconnected) {onCompletion : Completion} {isSuccess : Bool}
    (hstate : client.state = .inventorying → onCompletion.ofStart = true → isSuccess = true) :
    Performs (runCompletion onCompletion isSuccess) client
      (onCompletion.reaction client client.isWaiting isSuccess) := by
  cases onCompletion with
  | absent => exact .pure client
  | application => exact .pure client
  | disconnectStopped =>
    cases isSuccess <;>
      exact .closes rfl (requests_of_history (history_hardDisconnect _))
        (isWaiting_hardDisconnect _) rfl
  | resetStopped =>
    cases isSuccess with
    | false => exact .pure client
    | true =>
      refine .modify_bind rfl (.get_bind ?_)
      change Performs (if client.settings.startInventory then _ else pure ())
        (client.setState .connected) (if client.settings.startInventory then _ else _)
      cases client.settings.startInventory with
      | false => exact .pure _
      | true => exact performs_startConnected hwritable _ _ _
  | txPowerStopped =>
    cases isSuccess with
    | false => exact .pure client
    | true => exact performs_restart hwritable _ _ _
  | deleted =>
    cases isSuccess with
    | false => exact .pure client
    | true => exact performs_restart hwritable _ _ _
  | afterStopped frame => exact performs_afterStopped frame hwritable isSuccess
  | restarted frame =>
    cases isSuccess with
    | true => exact performs_succeed _ _
    | false =>
      have hleft : client.state ≠ .inventorying := fun heq =>
        Bool.false_ne_true (hstate heq rfl)
      exact performs_restoreOld frame _ hwritable hleft
  | restored frame error =>
    cases isSuccess with
    | true => exact performs_fail _ hopen _ _
    | false => exact performs_lost _ _ _
  | afterRospecCleanup frame error =>
    cases isSuccess with
    | true => exact performs_finishRestore frame error hwritable
    | false => exact performs_lost _ _ _

theorem performs_startAccess (hwritable : client.Writable) (operation : AccessOperation) :
    Performs (startAccess operation) client
      (if operation.exceedsTargets || operation.opSpec = .unsupported then .raises
        else .request client.isWaiting .addAccessspecResponse) := by
  have htargets : (2 < (if operation.targetSpec.isEmpty then [{}]
      else operation.targetSpec : List C1G2TargetTag).length) ↔
      operation.exceedsTargets = true := by
    unfold AccessOperation.exceedsTargets
    cases operation.targetSpec with
    | nil => simp
    | cons target targets => exact decide_eq_true_iff.symm
  unfold startAccess accessSpec
  dsimp only
  cases hexceeds : operation.exceedsTargets with
  | true =>
    rw [if_pos (htargets.mpr hexceeds)]
    exact .of_run rfl rfl (.raise _ client)
  | false =>
    rw [if_neg fun htoo => Bool.false_ne_true (hexceeds.symm.trans (htargets.mp htoo)),
      Bool.false_or]
    by_cases hunsupported : operation.opSpec = .unsupported
    · rw [if_pos hunsupported, decide_eq_true hunsupported]
      exact .of_run rfl rfl (.raise _ client)
    · rw [if_neg hunsupported, decide_eq_false hunsupported]
      exact performs_sendRequest hwritable _ _ _ _

/-- While inventorying, only callbacks of access operations are run. -/
theorem performs_runCallback (hwritable : client.Writable) (hopen : client.state ≠ .disconnected)
    {callback : Callback} {name : MessageName} (hanswers : callback.answers name = true)
    (hstate : client.state = .inventorying → name ∈ accessResponses) (isSuccess : Bool) :
    Performs (runCallback callback isSuccess) client
      (callback.reaction client client.isWaiting isSuccess) := by
  have hother : ∀ {other : MessageName}, name = other → other ∉ accessResponses →
      client.state ≠ .inventorying := by
    rintro other rfl hmem heq
    exact hmem (hstate heq)
  cases callback with
  | application => exact .pure client
  | getReaderCapabilitiesCb =>
    cases isSuccess with
    | true => exact .modify rfl
    | false => exact .pure client
  | enableImpinjExtCb =>
    cases isSuccess with
    | true => exact performs_sendRequest hwritable _ _ _ _
    | false => exact .raise _ client
  | getReaderConfigCb =>
    cases isSuccess with
    | true => exact .modify rfl
    | false => exact .pure client
  | setReaderConfigCb =>
    cases isSuccess with
    | true => exact .modify rfl
    | false => exact .pure client
  | enabledRospecCb onCompletion =>
    cases isSuccess with
    | true =>
      have hready : (client.setState .inventorying).Writable := hwritable
      have hended : Performs (runCompletion onCompletion true) (client.setState .inventorying) _ :=
        performs_runCompletion hready ReaderState.noConfusion fun _ _ => rfl
      rw [onCompletion.reaction_of_blueprint _ (blueprint_setState client .inventorying)] at hended
      have hrun : runCallback (.enabledRospecCb onCompletion) true client =
          runCompletion onCompletion true (client.setState .inventorying) := rfl
      exact .of_run hrun rfl hended
    | false =>
      have hleft := hother (of_decide_eq_true hanswers) (by decide)
      exact .of_run rfl rfl (performs_runCompletion hwritable hopen fun heq => absurd heq hleft)
  | sendAddedRospecCb rospec onCompletion =>
    cases isSuccess with
    | true =>
      have hadded : { client with inventoryRospecAdded := true }.Writable := hwritable
      exact .modify_bind rfl (performs_sendRequest hadded _ _ _ _)
    | false =>
      have hleft := hother (of_decide_eq_true hanswers) (by decide)
      exact performs_runCompletion hwritable hopen fun heq => absurd heq hleft
  | sendDeleteAccessspecCb onCompletion =>
    simp only [Callback.answers, Bool.and_eq_true, Bool.not_eq_true'] at hanswers
    cases isSuccess with
    | true => exact performs_sendRequest hwritable _ _ _ _
    | false =>
      exact performs_runCompletion hwritable hopen fun _ hstart =>
        absurd (hanswers.2.symm.trans hstart) Bool.false_ne_true
  | stopAllRospecsCb onCompletion =>
    have hleft := hother (of_decide_eq_true hanswers) (by decide)
    have hdeleted : (client.rospecsDeleted isSuccess).Writable := hwritable
    have hopenDeleted : (client.rospecsDeleted isSuccess).state ≠ .disconnected := hopen
    exact .modify_bind rfl
      (performs_runCompletion hdeleted hopenDeleted fun heq => absurd heq hleft)
  | disableRospecPauseCb durationSeconds forceRegenRospec =>
    cases isSuccess with
    | true =>
      refine .modify_bind rfl ?_
      split
      · exact .modify rfl
      · exact .pure _
    | false => exact .pure client
  | enableRospecResumeCb =>
    cases isSuccess with
    | true => exact .modify rfl
    | false => exact .pure client
  | addAccessspecCb accessSpecId =>
    cases isSuccess with
    | true =>
      have hsent := performs_sendMessage hwritable ⟨.enableAccessspec, .accessSpecId accessSpecId⟩
      have hfilter : ((some MessageName.enableAccessspecResponse).filter client.isWaiting).isSome =
          client.isWaiting .enableAccessspecResponse := by
        cases hwaiting : client.isWaiting .enableAccessspecResponse <;> simp [hwaiting]
      change Performs _ client (if ((some MessageName.enableAccessspecResponse).filter
        client.isWaiting).isSome then _ else _) at hsent
      rw [hfilter] at hsent
      exact hsent
    | false => exact .pure client
  | disableAccessspecCb operation => exact performs_sendRequest hwritable _ _ _ _
  | startNextAccessspecCb operation => exact performs_startAccess hwritable operation
  | readerConfigApplied frame =>
    have hleft := hother (of_decide_eq_true hanswers) (by decide)
    cases isSuccess with
    | true => exact performs_finishNewState { frame with newReaderConfigApplied := true } hwritable
    | false => exact performs_restoreOld frame _ hwritable hleft
  | oldReaderConfigRestored frame error =>
    cases isSuccess with
    | true => exact performs_cleanupReplacementRospec frame error hwritable
    | false => exact performs_lost _ _ _

end Callbacks

end Sllurp.Session
