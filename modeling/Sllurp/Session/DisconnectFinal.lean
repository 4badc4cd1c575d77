/-
# What puts an inventory on the reader

An inventory is started by the application, by a callback that goes on with a start or
comes back to one, and by the end of the setup, unless a disconnect is under way. No other
step of any run puts one on the reader. Disconnecting asks the reader to delete its
ROSpecs, but the requests under way keep their callbacks, and a callback that goes on to
start the inventory does so behind the disconnect.
-/

import Sllurp.Session.Crashes

namespace Sllurp.Session

open Sllurp.Foundations Sllurp.Protocol Sllurp.Config Sllurp.Runtime
open Sllurp.Foundations.Program

/-! ## Requests that start an inventory -/

namespace Client

/-- The requests written so far that put an inventory on the reader. -/
def startRequests (client : Client) : List Request := client.requests.filter Request.starts

/-- Whether going back to the old configuration starts the inventory again at once. In
INVENTORYING the installation comes with requests of its own, so that it counts. -/
def restartsOld (client : Client) (frame : ApplyFrame) : Bool :=
  frame.wasInventorying && !frame.newReaderConfigApplied &&
    (client.state = .inventorying || !client.inventoryRospecAdded)

/-- Whether going over to the new configuration starts the inventory again at once: it
needs no settings written, or it does not fit the reader. -/
def restartsNew (client : Client) (frame : ApplyFrame) : Bool :=
  frame.wasInventorying &&
    if client.installs frame.newConfig then !frame.plan.requiresReaderConfigWrite
    else !frame.newReaderConfigApplied && !client.inventoryRospecAdded

/-- Whether the end of the setup starts the inventory. -/
def startsAfterSetup (client : Client) : Bool :=
  !client.disconnecting && !client.settings.resetOnConnect && client.settings.startInventory

end Client

/-- Whether a completion starts the inventory at once. -/
def Completion.restarts (client : Client) : Completion → Bool → Bool
  | absent, _ | application, _ | disconnectStopped, _ | restored _ _, _ => false
  | resetStopped, isSuccess => isSuccess && client.settings.startInventory
  | txPowerStopped, isSuccess | deleted, isSuccess => isSuccess
  | afterStopped frame, isSuccess => isSuccess && client.restartsNew frame
  | restarted frame, isSuccess => !isSuccess && client.restartsOld frame
  | afterRospecCleanup frame _, isSuccess => isSuccess && frame.wasInventorying

/-- Whether a callback starts the inventory at once, or goes on with its start. -/
def Callback.restarts (client : Client) (isSuccess : Bool) : Callback → Bool
  | enabledRospecCb onCompletion => onCompletion.restarts client isSuccess
  | sendAddedRospecCb _ onCompletion => isSuccess || onCompletion.restarts client false
  | sendDeleteAccessspecCb onCompletion => !isSuccess && onCompletion.restarts client false
  | stopAllRospecsCb onCompletion =>
    onCompletion.restarts (client.rospecsDeleted isSuccess) isSuccess
  | readerConfigApplied frame =>
    if isSuccess then frame.wasInventorying else client.restartsOld frame
  | oldReaderConfigRestored frame _ =>
    isSuccess && frame.wasInventorying && !client.inventoryRospecAdded
  | application | getReaderCapabilitiesCb | enableImpinjExtCb | getReaderConfigCb
  | setReaderConfigCb | disableRospecPauseCb _ _ | enableRospecResumeCb | addAccessspecCb _
  | disableAccessspecCb _ | startNextAccessspecCb _ => false

namespace Client

/-- Whether handling a message starts an inventory: the callback it completes does, or
the end of the setup. -/
def restartsOn (client : Client) (message : LLRPMessage) : Bool :=
  client.completes message &&
    ((client.heard message.name).any (·.restarts client message.isSuccess) ||
      (client.endsSetup message && client.startsAfterSetup))

/-- Whether resuming starts the inventory at once: it is not paused with a ROSpec that
has to be deleted first. -/
def resumes (client : Client) (forceRegenRospec : Bool) : Bool :=
  client.state = .connected || client.state = .disconnected ||
    (client.state = .paused && !(client.rospec.isSome && forceRegenRospec))

end Client

/-- Whether a call starts an inventory. -/
def Call.restarts (client : Client) : Call → Bool
  | .startInventory _ => client.state ≠ .inventorying
  | .resume forceRegenRospec => client.resumes forceRegenRospec
  | .timedResume generation forceRegenRospec =>
    generation = client.pauseResumeGeneration && client.state = .paused &&
      client.resumes forceRegenRospec
  | .sendRequest request _ _ _ => request.starts
  | .sendMessages messages => messages.head?.any (·.1.starts)
  | .handleMessage message | .receive message _ => client.restartsOn message
  | .onRequestTimeout serial =>
    (client.expiring.find? fun pending => pending.serial = serial).any
      (·.callback.restarts client false)
  | .timeout key =>
    (client.pendingRequests.pending.get? key).any fun pending =>
      pending.timer && pending.callback.restarts client false
  | .stopPolitely _ | .pause _ _ _ | .setTxPower _ | .setTxPowerDbm _ | .startAccess _
  | .nextAccess _ | .applyConfig _ | .updateConfig _ | .readerApplyConfig _
  | .readerUpdateConfig _ | .expire _ | .connect | .disconnect | .hardDisconnect
  | .lost _ => false

/-! ## The frame -/

/-- Nothing that puts an inventory on the reader is written. -/
def silent : Frame Client := .fixing Client.startRequests

theorem silent_of_history {before after : Client} (hhistory : after.history = before.history) :
    silent.Rel before after :=
  congrArg (List.filter Request.starts) (requests_of_history hhistory)

theorem silent_sendRequest {request : Request} (hquiet : request.starts = false)
    (name : MessageName) (onCompletion : Callback) (newState : Option ReaderState) :
    Within silent (sendRequest request name onCompletion newState) := by
  intro client
  cases hwaiting : client.isWaiting name with
  | true =>
    rw [run_sendRequest_of_isWaiting hwaiting]
    exact silent.refl client
  | false =>
    rw [run_sendRequest hwaiting]
    cases client.nextWrite with
    | none =>
      change (Client.requests _).filter _ = client.requests.filter _
      rw [requests_afterSend, List.filter_append, List.filter_singleton, hquiet]
      exact List.append_nil _
    | some raised =>
      exact silent_of_history (congrArg Core.history
        (core_afterFailedSend hwaiting onCompletion newState))

theorem silent_write {request : Request} (hquiet : request.starts = false) (messageId : ℕ) :
    Within silent (write none messageId request) := by
  intro client
  rw [run_write]
  cases client.nextWrite with
  | some raised => exact silent_of_history rfl
  | none =>
    change ((client.history ++ [Event.sent none messageId request]).filterMap _).filter _ = _
    rw [List.filterMap_append, List.filter_append]
    change client.startRequests ++ [request].filter _ = _
    rw [List.filter_singleton, hquiet]
    exact List.append_nil _

/-- Steps that start nothing keep the frame. -/
theorem silent_winding : Winding False silent where
  neutral htraffic _ := silent_of_history (congrArg Core.history (core_of_traffic htraffic))
  setState _ _ _ := silent_of_history rfl
  sendRequest request name onCompletion newState hstart _ _ _ :=
    silent_sendRequest (Bool.eq_false_iff.mpr hstart) name onCompletion newState
  countMessage _ _ := silent_of_history rfl
  write messageId request hstart := silent_write (Bool.eq_false_iff.mpr hstart) messageId
  stopping _ _ := silent_of_history rfl
  ending _ := silent_of_history rfl
  hardDisconnect client := silent_of_history (history_hardDisconnect client)
  onLostConnection client retried := by
    refine silent_of_history ?_
    have hlost := history_hardDisconnect (client.setState .disconnected)
    have hreopened : ∀ later : Client, later.reopened.history = later.history := fun _ => rfl
    have hnotified : ∀ later : Client, later.onDisconnected.history = later.history :=
      fun _ => rfl
    unfold Client.onLostConnection
    dsimp only
    split
    · exact (hnotified _).trans hlost
    · split
      · exact (hreopened _).trans ((history_resetProtocolSession _).trans hlost)
      · exact (hnotified _).trans ((history_resetProtocolSession _).trans hlost)
  connect hstart := hstart.elim

/-! ## Callbacks -/

/-- Starting the inventory depends on what building depends on, and on INVENTORYING. -/
theorem restartsOld_congr {client later : Client} (hbuild : later.blueprint = client.blueprint)
    (hstate : later.state = .inventorying ↔ client.state = .inventorying) (frame : ApplyFrame) :
    later.restartsOld frame = client.restartsOld frame := by
  have hadded : later.inventoryRospecAdded = client.inventoryRospecAdded :=
    congrArg Blueprint.inventoryRospecAdded hbuild
  unfold Client.restartsOld
  rw [hadded, decide_eq_decide.mpr hstate]

theorem restartsNew_congr {client later : Client} (hbuild : later.blueprint = client.blueprint)
    (frame : ApplyFrame) : later.restartsNew frame = client.restartsNew frame := by
  have hadded : later.inventoryRospecAdded = client.inventoryRospecAdded :=
    congrArg Blueprint.inventoryRospecAdded hbuild
  unfold Client.restartsNew
  rw [hadded, installs_of_blueprint hbuild]

theorem Completion.restarts_congr {client later : Client}
    (hbuild : later.blueprint = client.blueprint) {isSuccess : Bool}
    (hstate : isSuccess = false → (later.state = .inventorying ↔ client.state = .inventorying))
    (onCompletion : Completion) :
    onCompletion.restarts later isSuccess = onCompletion.restarts client isSuccess := by
  unfold Completion.restarts
  cases onCompletion with
  | restarted frame =>
    cases isSuccess with
    | true => rfl
    | false => simp only [restartsOld_congr hbuild (hstate rfl) frame]
  | _ => simp only [settings_of_blueprint hbuild, restartsNew_congr hbuild]

theorem Callback.restarts_congr {client later : Client}
    (hbuild : later.blueprint = client.blueprint)
    (hstate : later.state = .inventorying ↔ client.state = .inventorying) (isSuccess : Bool)
    (callback : Callback) :
    callback.restarts later isSuccess = callback.restarts client isSuccess := by
  have hadded : later.inventoryRospecAdded = client.inventoryRospecAdded :=
    congrArg Blueprint.inventoryRospecAdded hbuild
  have hdeleted : (later.rospecsDeleted isSuccess).blueprint =
      (client.rospecsDeleted isSuccess).blueprint :=
    congrArg (fun blueprint : Blueprint => { blueprint with
      inventoryRospecAdded := blueprint.inventoryRospecAdded && !isSuccess
      rospec := none }) hbuild
  unfold Callback.restarts
  cases callback <;>
    simp only [Completion.restarts_congr hbuild fun _ => hstate,
      Completion.restarts_congr hdeleted fun _ => hstate, hadded,
      restartsOld_congr hbuild hstate]

/-- Installing a configuration does not change what the reader holds. -/
theorem inventoryRospecAdded_install {client : Client} (hstate : client.state ≠ .inventorying)
    (ref : ConfigRef) :
    ((installRuntimeConfig ref).final client).inventoryRospecAdded =
      client.inventoryRospecAdded := by
  unfold Program.final
  cases hinstalls : client.installs ref with
  | true =>
    rw [run_installRuntimeConfig_of_installs hstate hinstalls]
    unfold Client.installed
    cases client.capabilities <;> rfl
  | false =>
    obtain ⟨raised, later, hrun, -, -, hadded, -⟩ :=
      run_installRuntimeConfig_of_not_installs hstate hinstalls
    rw [hrun]
    exact hadded

/-- With a replacement ROSpec on the reader, the way back deletes it first. -/
theorem silent_cleanupReplacementRospec {client : Client} {frame : ApplyFrame}
    (hquiet : (frame.wasInventorying && !client.inventoryRospecAdded) = false)
    (error : String) :
    silent.Rel client ((frame.cleanupReplacementRospec error).final client) := by
  cases hwas : frame.wasInventorying with
  | false =>
    exact silent_winding.cleanupReplacementRospec frame
      (fun hinventorying => Bool.false_ne_true (hwas.symm.trans hinventorying)) error client
  | true =>
    have hadded : client.inventoryRospecAdded = true := by simpa [hwas] using hquiet
    have hdeletes : Within silent (setState .connected >>= fun _ =>
        stopAllROSpecs (.afterRospecCleanup frame error)) :=
      .bind (silent_winding.settle _ rfl) fun _ => silent_winding.stopAllROSpecs _
    unfold ApplyFrame.cleanupReplacementRospec Program.final
    rw [Program.run_get_bind, hwas, hadded, if_neg (by decide)]
    exact hdeletes client

theorem silent_restoreOld {client : Client} {frame : ApplyFrame}
    (hquiet : client.restartsOld frame = false) (error : String) :
    silent.Rel client ((frame.restoreOld error).final client) := by
  have hinstall : silent.Rel client ((installRuntimeConfig frame.oldConfig).final client) :=
    silent_winding.installRuntimeConfig frame.oldConfig client
  cases hwas : frame.wasInventorying with
  | false =>
    exact silent_winding.restoreOld frame
      (fun hinventorying => Bool.false_ne_true (hwas.symm.trans hinventorying)) error client
  | true =>
    have hkept : frame.newReaderConfigApplied = false →
        client.state ≠ .inventorying ∧ client.inventoryRospecAdded = true := by
      intro happlied
      simpa [Client.restartsOld, hwas, happlied] using hquiet
    unfold ApplyFrame.restoreOld Program.final
    rw [Program.run_bind, Program.run_attempt]
    unfold Program.final at hinstall
    rcases hrun : installRuntimeConfig frame.oldConfig client with ⟨raised | _, later⟩
    · rw [hrun] at hinstall
      have hlost : Within silent (setState .disconnected >>= fun _ =>
          frame.fail s!"{error}; rollback configuration failed: {raised.str}") :=
        .bind (silent_winding.settle _ rfl) fun _ => silent_winding.fail _ _ _
      exact silent.trans hinstall (hlost later)
    · rw [hrun] at hinstall
      refine silent.trans hinstall ?_
      dsimp only
      cases happlied : frame.newReaderConfigApplied with
      | true =>
        have hwrites : Within silent (setState .connected >>= fun _ =>
            Program.modify (fun client : Client =>
              { client with suppressSetConfigPostActions := true }) >>= fun _ =>
            sendSetReaderConfig (.oldReaderConfigRestored frame error)) :=
          .bind (silent_winding.settle _ rfl) fun _ =>
            .bind (silent_winding.modify fun _ => rfl) fun _ =>
              silent_winding.sendSetReaderConfig rfl
        rw [if_pos rfl]
        exact hwrites later
      | false =>
        obtain ⟨hstate, hadded⟩ := hkept happlied
        have hlater := inventoryRospecAdded_install hstate frame.oldConfig
        rw [Program.final, hrun] at hlater
        rw [if_neg Bool.false_ne_true]
        exact silent_cleanupReplacementRospec (by rw [hlater, hadded]; exact Bool.and_false _)
          error

theorem silent_afterStopped {client : Client} {frame : ApplyFrame} {isSuccess : Bool}
    (hquiet : (isSuccess && client.restartsNew frame) = false) :
    silent.Rel client ((frame.afterStopped isSuccess).final client) := by
  cases isSuccess with
  | false =>
    exact silent_winding.afterStopped frame false (absurd · Bool.false_ne_true) client
  | true =>
    cases hwas : frame.wasInventorying with
    | false =>
      exact silent_winding.afterStopped frame true
        (fun _ hinventorying => Bool.false_ne_true (hwas.symm.trans hinventorying)) client
    | true =>
      let stopped := client.setState .connected
      have hstate : stopped.state ≠ .inventorying := ReaderState.noConfusion
      have hinstall : silent.Rel client
          ((installRuntimeConfig frame.newConfig).final stopped) :=
        silent_winding.installRuntimeConfig frame.newConfig stopped
      simp only [Bool.true_and, Client.restartsNew, hwas] at hquiet
      unfold Program.final at hinstall ⊢
      cases hinstalls : client.installs frame.newConfig with
      | true =>
        have hwrite : frame.plan.requiresReaderConfigWrite = true := by
          simpa [hinstalls] using hquiet
        have hrun := @run_installRuntimeConfig_of_installs stopped hstate frame.newConfig hinstalls
        have hset : Within silent (Program.modify (fun client : Client =>
              { client with suppressSetConfigPostActions := true }) >>= fun _ =>
            sendSetReaderConfig (.readerConfigApplied frame)) :=
          .bind (silent_winding.modify fun _ => rfl) fun _ =>
            silent_winding.sendSetReaderConfig rfl
        rw [hrun] at hinstall
        rw [run_afterStopped_of_installed hrun, if_pos hwrite]
        exact silent.trans hinstall (hset _)
      | false =>
        obtain ⟨raised, later, hrun, -, -, hadded, hlater, -⟩ :=
          @run_installRuntimeConfig_of_not_installs stopped hstate frame.newConfig hinstalls
        obtain ⟨error, hrestore⟩ := run_afterStopped_of_refused hrun
        rw [hrun] at hinstall
        rw [hrestore]
        refine silent.trans hinstall (silent_restoreOld ?_ error)
        have hsame : stopped.inventoryRospecAdded = client.inventoryRospecAdded := rfl
        have hconnected : stopped.state = .connected := rfl
        rw [if_neg (hinstalls ▸ Bool.false_ne_true)] at hquiet
        unfold Client.restartsOld
        rw [hwas, hlater, hadded, hsame, hconnected, decide_eq_false ReaderState.noConfusion]
        exact hquiet

theorem silent_runCompletion {client : Client} {onCompletion : Completion} {isSuccess : Bool}
    (hquiet : onCompletion.restarts client isSuccess = false) :
    silent.Rel client ((runCompletion onCompletion isSuccess).final client) := by
  cases onCompletion with
  | resetStopped =>
    cases isSuccess with
    | false => exact silent.refl client
    | true =>
      have hoff : client.settings.startInventory = false := hquiet
      change silent.Rel client (Program.final (if client.settings.startInventory then
        startInventory false .absent (pure ()) else pure ()) (client.setState .connected))
      rw [hoff]
      rfl
  | afterStopped frame => exact silent_afterStopped hquiet
  | restarted frame =>
    cases isSuccess with
    | true => exact silent_winding.succeed _ _ client
    | false => exact silent_restoreOld hquiet _
  | _ =>
    refine silent_winding.runCompletion _ isSuccess (fun hcontinues => ?_) client
    exact Bool.false_ne_true (hquiet.symm.trans hcontinues)

/-- A callback that does not restart the inventory writes no request that does. -/
theorem silent_runCallback {client : Client} {callback : Callback} {isSuccess : Bool}
    (hquiet : callback.restarts client isSuccess = false) :
    silent.Rel client ((runCallback callback isSuccess).final client) := by
  cases callback with
  | enabledRospecCb onCompletion =>
    cases isSuccess with
    | false => exact silent_runCompletion hquiet
    | true =>
      have hrestarts := @Completion.restarts_congr _ _ (blueprint_setState client .inventorying)
        true (fun hfailed => by cases hfailed) onCompletion
      exact @silent_runCompletion (client.setState .inventorying) onCompletion true
        (hrestarts.trans hquiet)
  | sendAddedRospecCb rospec onCompletion =>
    cases isSuccess with
    | true => cases hquiet
    | false => exact silent_runCompletion hquiet
  | sendDeleteAccessspecCb onCompletion =>
    cases isSuccess with
    | true => exact silent_winding.stopAllROSpecs _ client
    | false => exact silent_runCompletion hquiet
  | stopAllRospecsCb onCompletion => exact silent_runCompletion hquiet
  | readerConfigApplied frame =>
    cases isSuccess with
    | true =>
      refine silent_winding.readerConfigApplied frame true (fun hinventorying => ?_) client
      exact Bool.false_ne_true (hquiet.symm.trans hinventorying)
    | false => exact silent_restoreOld hquiet _
  | oldReaderConfigRestored frame error =>
    cases isSuccess with
    | true => exact silent_cleanupReplacementRospec hquiet error
    | false =>
      exact silent_winding.oldReaderConfigRestored frame error false
        (absurd · Bool.false_ne_true) client
  | _ =>
    refine silent_winding.runCallback _ isSuccess (fun hcontinues => ?_) (fun _ _ _ _ => rfl)
      client
    exact Bool.false_ne_true hcontinues

/-! ## Messages and timeouts -/

theorem startsAfterSetup_congr {client later : Client}
    (hbuild : later.blueprint = client.blueprint)
    (hdisconnecting : later.disconnecting = client.disconnecting) :
    later.startsAfterSetup = client.startsAfterSetup := by
  unfold Client.startsAfterSetup
  rw [settings_of_blueprint hbuild, hdisconnecting]

theorem startsAfterSetup_of_profile {client later : Client}
    (hprofile : later.profile = client.profile) :
    later.startsAfterSetup = client.startsAfterSetup :=
  startsAfterSetup_congr (blueprint_of_profile hprofile)
    (congrArg Profile.disconnecting hprofile)

theorem startsAfterSetup_fail {client : Client} (hstate : client.state ≠ .disconnected)
    (id : TransitionId) (hook : Hook) (error : String) :
    ((fail id hook error).final client).startsAfterSetup = client.startsAfterSetup := by
  cases hook with
  | application => rfl
  | completed newConfig oldConfig =>
    have hopen : ((client.conclude id .failed (some error)).setReaderConfig oldConfig).state ≠
        .disconnected := hstate
    change (if _ then _ else _ : Client).startsAfterSetup = _
    rw [if_neg hopen]
    rfl

/-- A callback of the setup that succeeds does not change what the end of the setup does,
as long as it does not restart the inventory itself. -/
theorem startsAfterSetup_runCallback {client : Client} {callback : Callback}
    {name : MessageName} (hanswers : callback.answers name = true)
    (hname : name ∈ settingResponses) (hquiet : callback.restarts client true = false) :
    ((runCallback callback true).final client).startsAfterSetup = client.startsAfterSetup := by
  have hother : ∀ {other : MessageName}, name = other → other ∉ settingResponses → False := by
    rintro other rfl hmem
    exact hmem hname
  cases callback with
  | application => rfl
  | setReaderConfigCb => rfl
  | getReaderConfigCb => rfl
  | sendDeleteAccessspecCb onCompletion =>
    exact startsAfterSetup_of_profile (profile_sendRequest _ _ _ _ client)
  | startNextAccessspecCb operation =>
    change ((startAccess operation).final client).startsAfterSetup = _
    unfold startAccess Program.final
    rw [Program.run_bind, Program.run_ofExcept]
    cases accessSpec operation with
    | error raised => rfl
    | ok spec => exact startsAfterSetup_of_profile (profile_sendRequest _ _ _ _ client)
  | readerConfigApplied frame =>
    have hwas : frame.wasInventorying = false := hquiet
    change ((ApplyFrame.finishNewState { frame with newReaderConfigApplied := true }).final
      client).startsAfterSetup = _
    have hframe : { frame with newReaderConfigApplied := true : ApplyFrame }.wasInventorying =
        false := hwas
    unfold ApplyFrame.finishNewState
    rw [hframe, if_neg Bool.false_ne_true]
    split
    · cases frame.hook <;> rfl
    · cases frame.hook <;> rfl
  | oldReaderConfigRestored frame error =>
    change ((frame.cleanupReplacementRospec error).final client).startsAfterSetup = _
    unfold ApplyFrame.cleanupReplacementRospec Program.final
    rw [Program.run_get_bind]
    cases hwas : frame.wasInventorying with
    | false =>
      rw [Bool.not_false, Bool.true_or, if_pos rfl]
      unfold ApplyFrame.finishRestore
      rw [hwas, if_neg Bool.false_ne_true]
      split
      · exact startsAfterSetup_fail ReaderState.noConfusion _ _ _
      · exact startsAfterSetup_fail ReaderState.noConfusion _ _ _
    | true =>
      have hadded : client.inventoryRospecAdded = true := by
        simpa [Callback.restarts, hwas] using hquiet
      rw [hadded, if_neg (by decide)]
      exact startsAfterSetup_of_profile
        ((profile_sendRequest _ _ _ _ _).trans (profile_setState client .connected))
  | getReaderCapabilitiesCb => exact (hother (of_decide_eq_true hanswers) (by decide)).elim
  | enableImpinjExtCb => exact (hother (of_decide_eq_true hanswers) (by decide)).elim
  | enabledRospecCb onCompletion =>
    exact (hother (of_decide_eq_true hanswers) (by decide)).elim
  | sendAddedRospecCb rospec onCompletion =>
    exact (hother (of_decide_eq_true hanswers) (by decide)).elim
  | stopAllRospecsCb onCompletion =>
    exact (hother (of_decide_eq_true hanswers) (by decide)).elim
  | disableRospecPauseCb durationSeconds forceRegenRospec =>
    exact (hother (of_decide_eq_true hanswers) (by decide)).elim
  | enableRospecResumeCb => exact (hother (of_decide_eq_true hanswers) (by decide)).elim
  | addAccessspecCb accessSpecId =>
    exact (hother (of_decide_eq_true hanswers) (by decide)).elim
  | disableAccessspecCb operation =>
    exact (hother (of_decide_eq_true hanswers) (by decide)).elim

theorem silent_finishSetup {client : Client} (hquiet : client.startsAfterSetup = false) :
    silent.Rel client (finishSetup.final client) := by
  unfold finishSetup Program.final
  rw [Program.run_get_bind]
  cases hdisconnecting : client.disconnecting with
  | true => exact silent.refl client
  | false =>
    cases hreset : client.settings.resetOnConnect with
    | true => exact silent_winding.stopPolitely rfl false client
    | false =>
      have hoff : client.settings.startInventory = false := by
        simpa [Client.startsAfterSetup, hdisconnecting, hreset] using hquiet
      rw [hoff]
      exact silent.refl client

/-- What a branch does after the completion starts nothing, unless it ends the setup. -/
theorem silent_afterwards {client later : Client} {message : LLRPMessage}
    (hquiet : (client.endsSetup message && later.startsAfterSetup) = false) :
    silent.Rel later ((afterwards client message).final later) := by
  cases hends : client.endsSetup message with
  | false =>
    exact silent_winding.afterwards client message
      (fun hsetup => Bool.false_ne_true (hends.symm.trans hsetup)) later
  | true =>
    rw [hends, Bool.true_and] at hquiet
    simp only [Client.endsSetup, Bool.and_eq_true, decide_eq_true_eq, Bool.not_eq_true'] at hends
    obtain ⟨⟨hstate, hsuppress⟩, hsuccess⟩ := hends
    unfold afterwards
    rw [hstate]
    dsimp only
    rw [hsuppress, hsuccess, if_neg Bool.false_ne_true, if_pos rfl]
    exact silent_finishSetup hquiet

/-- The callbacks of a capabilities response restart nothing. -/
theorem not_restarts_of_answers {callback : Callback}
    (hanswers : callback.answers .getReaderCapabilitiesResponse = true) (client : Client)
    (isSuccess : Bool) : callback.restarts client isSuccess = false := by
  cases callback with
  | application => rfl
  | getReaderCapabilitiesCb => rfl
  | _ => exact absurd hanswers (by simp [Callback.answers])

theorem silent_handleMessage {client : Client} (hcore : Correlated false client.core)
    (hfitting : Fitting client.core) {message : LLRPMessage}
    (hquiet : client.restartsOn message = false) :
    silent.Rel client ((handleMessage message).final client) := by
  by_cases hkeepalive : message.name = .keepalive
  · unfold handleMessage Program.final
    rw [Program.run_get_bind, if_pos hkeepalive]
    unfold sendKeepaliveAck
    split
    · exact silent_write rfl _ client
    · exact silent.refl client
  cases hcompletes : client.completes message with
  | false =>
    exact silent_of_history (congrArg Core.history
      (core_handleMessage_of_not_completes hkeepalive hcompletes))
  | true =>
    have hprepared := core_prepared client message
    have hstored : silent.Rel client (client.prepared message) :=
      silent_of_history (congrArg Core.history hprepared)
    have hrun := run_handleMessage_of_completes hcompletes
    rw [Client.restartsOn, hcompletes, Bool.true_and, Bool.or_eq_false_iff] at hquiet
    obtain ⟨hcallback, hsetup⟩ := hquiet
    simp only [Client.completes, Bool.and_eq_true, Bool.not_eq_true', decide_eq_true_eq]
      at hcompletes
    obtain ⟨⟨-, hignored⟩, hreaches⟩ := hcompletes
    obtain ⟨later, hlater, hrequests, hcompleted⟩ := run_complete_of_fitting hcore hfitting
      hignored fun _ => afterwards client message
    have hbefore : silent.Rel client later :=
      silent.trans hstored (congrArg (List.filter Request.starts) hrequests)
    -- The end of the setup finds what the message found.
    have hends : client.endsSetup message = true →
        later.startsAfterSetup = client.startsAfterSetup ∧ message.name ∈ settingResponses ∧
          message.isSuccess = true := by
      intro hends
      simp only [Client.endsSetup, Bool.and_eq_true, decide_eq_true_eq, Bool.not_eq_true']
        at hends
      obtain ⟨⟨hstate, hsuppress⟩, hsuccess⟩ := hends
      have hsame : client.prepared message = client := by
        simp [Client.prepared, hstate, hsuppress, hsuccess]
      simp only [Client.reaches, hstate, Bool.and_eq_true, decide_eq_true_eq] at hreaches
      exact ⟨startsAfterSetup_of_profile (hlater.profile.trans (by rw [hsame])), hreaches.1,
        hsuccess⟩
    unfold Program.final
    rw [hrun, hcompleted]
    cases hheard : client.heard message.name with
    | none =>
      refine silent.trans hbefore (silent_afterwards ?_)
      cases hends' : client.endsSetup message with
      | false => rfl
      | true => rw [(hends hends').1, ← hends', hsetup]
    | some callback =>
      obtain ⟨deferred, hmem, hdeferred⟩ := mem_deferreds_of_heard hheard
      have hanswers : callback.answers message.name = true := hdeferred ▸ hfitting.answers hmem
      have hquiet : callback.restarts later message.isSuccess = false := by
        rw [hheard] at hcallback
        by_cases hstate : client.state = .sentGetCapabilities
        · simp only [Client.reaches, hstate, Bool.and_eq_true, decide_eq_true_eq] at hreaches
          rw [hreaches.1] at hanswers
          exact not_restarts_of_answers hanswers later _
        · refine (callback.restarts_congr ((blueprint_of_profile hlater.profile).trans
            (blueprint_prepared hstate message)) ?_ _).trans hcallback
          rw [hlater.state, show (client.prepared message).state = _ from
            congrArg Core.state hprepared]
          split
          · rename_i hsuppressed
            rw [hsuppressed.1]
            exact iff_of_false ReaderState.noConfusion ReaderState.noConfusion
          · exact Iff.rfl
      have hran := silent_runCallback hquiet
      unfold Program.final at hran
      refine silent.trans hbefore ?_
      dsimp only
      rw [Program.run_bind]
      rcases hafter : runCallback callback message.isSuccess later with ⟨raised | _, final⟩
      · rw [hafter] at hran
        exact hran
      · rw [hafter] at hran
        refine silent.trans hran (silent_afterwards ?_)
        cases hends' : client.endsSetup message with
        | false => rfl
        | true =>
          obtain ⟨hsame, hname, hsuccess⟩ := hends hends'
          rw [hsuccess] at hquiet hafter
          have hkept := startsAfterSetup_runCallback hanswers hname hquiet
          rw [Program.final, hafter] at hkept
          rw [hkept, hsame, ← hends', hsetup]

theorem silent_onRequestTimeout {client : Client} {pending : PendingRequest Callback}
    (hquiet : pending.callback.restarts client false = false) :
    silent.Rel client ((onRequestTimeout pending).final client) := by
  have hsame : pending.callback.restarts (client.told pending) false =
      pending.callback.restarts client false :=
    pending.callback.restarts_congr rfl Iff.rfl false
  have htold : silent.Rel client (client.told pending) :=
    congrArg (List.filter Request.starts) (requests_record_invoked _ _ _)
  exact silent.trans htold (silent_runCallback (hsame.trans hquiet))

theorem silent_expire (key : Key) : Within silent (expire key) := by
  obtain ⟨name, id⟩ := key
  intro client
  cases hget : client.pendingRequests.pending.get? (name, id) with
  | none =>
    have hsame : (expire (name, id) client).2 = client := final_expire_of_not_pending hget
    rw [hsame]
    exact silent.refl client
  | some pending =>
    rw [run_expire_of_pending hget]
    exact congrArg (List.filter Request.starts) (requests_record_expired _ _)

theorem silent_timeout {client : Client} {key : Key}
    (hquiet : ∀ pending, client.pendingRequests.pending.get? key = some pending →
      pending.callback.restarts client false = false) :
    silent.Rel client ((timeout key).final client) := by
  have hexpired : silent.Rel client (expire key client).2 := silent_expire key client
  obtain ⟨name, id⟩ := key
  unfold timeout Program.final
  rw [Program.run_get_bind]
  cases hget : client.pendingRequests.pending.get? (name, id) with
  | none =>
    have hexpire : (client.pendingRequests.expire (name, id)).1 = none := by
      unfold PendingRequestRegistry.expire PendingRequestRegistry.cancel
      rw [hget]
    rw [hexpire]
    exact silent.refl client
  | some pending =>
    have hexpire : (client.pendingRequests.expire (name, id)).1 =
        some { pending with timer := false } :=
      congrArg Prod.fst (pop_of_pending hget)
    rw [run_expire_of_pending hget] at hexpired
    rw [hexpire]
    dsimp only
    rw [Program.run_bind_ok (run_expire_of_pending hget)]
    refine silent.trans hexpired (silent_onRequestTimeout ?_)
    exact (pending.callback.restarts_congr rfl Iff.rfl false).trans (hquiet pending hget)

/-! ## Calls -/

theorem silent_resumeInventory {client : Client} {forceRegenRospec : Bool}
    (hquiet : client.resumes forceRegenRospec = false) :
    silent.Rel client ((resumeInventory forceRegenRospec).final client) := by
  simp only [Client.resumes, Bool.or_eq_false_iff, Bool.and_eq_false_iff] at hquiet
  obtain ⟨⟨hconnected, hdisconnected⟩, hpaused⟩ := hquiet
  unfold resumeInventory Program.final
  rw [Program.run_get_bind, hconnected, hdisconnected, Bool.or_false, if_neg Bool.false_ne_true]
  by_cases hstate : client.state = .paused
  · rw [if_neg (not_not_intro hstate)]
    have hdeletes : (client.rospec.isSome && forceRegenRospec) = true := by
      simpa [hstate] using hpaused
    rw [Bool.and_eq_true_iff] at hdeletes
    obtain ⟨rospec, hrospec⟩ := Option.isSome_iff_exists.mp hdeletes.1
    rw [hrospec, hdeletes.2]
    exact silent_winding.stopAllROSpecs _ client
  · rw [if_pos hstate]
    exact silent.refl client

theorem silent_resume {client : Client} {forceRegenRospec : Bool}
    (hquiet : client.resumes forceRegenRospec = false) :
    silent.Rel client ((resume forceRegenRospec).final client) :=
  @silent_resumeInventory client.cancelPauseResumeTimer forceRegenRospec hquiet

theorem silent_timedResume {client : Client} {generation : ℕ} {forceRegenRospec : Bool}
    (hquiet : (generation = client.pauseResumeGeneration && client.state = .paused &&
      client.resumes forceRegenRospec) = false) :
    silent.Rel client ((timedResume generation forceRegenRospec).final client) := by
  unfold timedResume Program.final
  rw [Program.run_get_bind]
  by_cases hgeneration : generation = client.pauseResumeGeneration
  · rw [if_neg (not_not_intro hgeneration), Program.run_modify_bind]
    by_cases hstate : client.state = .paused
    · rw [if_neg (not_not_intro hstate)]
      have hresumes : client.resumes forceRegenRospec = false := by
        simpa [hgeneration, hstate] using hquiet
      exact @silent_resumeInventory { client with pauseResumeTimer := none } forceRegenRospec
        hresumes
    · rw [if_pos hstate]
      rfl
  · rw [if_pos hgeneration]
    exact silent.refl client

/-- Opening a session writes nothing. -/
theorem silent_connect : Within silent connect := by
  unfold connect
  refine .bind .get fun client => .ite (fun _ => .raise _) fun _ => ?_
  refine .bind (.modify fun client => silent_of_history (history_resetProtocolSession _))
    fun _ => .ite (fun _ => .raise _) fun _ => ?_
  exact .modify fun client => silent_of_history rfl

/-- What one step keeps: unless it restarts the inventory, nothing that puts an inventory
on the reader is written. -/
theorem startRequests_act {client : Client} (hcore : Correlated false client.core)
    (hfitting : Fitting client.core) {action : Action}
    (hquiet : action.call.restarts (client.facing action.writes) = false) :
    (act client action).startRequests = client.startRequests := by
  have hcore : Correlated false (client.facing action.writes).core := hcore
  have hfitting : Fitting (client.facing action.writes).core := hfitting
  have hmessage : ∀ message, (client.facing action.writes).restartsOn message = false →
      silent.Rel (client.facing action.writes)
        ((handleMessage message).final (client.facing action.writes)) :=
    fun message hquiet => silent_handleMessage hcore hfitting hquiet
  obtain ⟨call, writes⟩ := action
  change silent.Rel (client.facing writes) (call.program.final (client.facing writes))
  cases call with
  | startInventory forceRegenRospec =>
    have hstate : (client.facing writes).state = .inventorying := by
      simpa [Call.restarts] using hquiet
    change silent.Rel _ (Program.final (startInventory _ _ _) _)
    unfold startInventory Program.final
    rw [Program.run_get_bind, if_pos hstate]
    rfl
  | resume forceRegenRospec => exact silent_resume hquiet
  | timedResume generation forceRegenRospec => exact silent_timedResume hquiet
  | sendRequest request name hname newState => exact silent_sendRequest hquiet _ _ _ _
  | sendMessages messages =>
    exact silent_winding.sendMessages
      (fun hfirst => Bool.false_ne_true (hquiet.symm.trans hfirst)) _
  | handleMessage message => exact hmessage message hquiet
  | receive message retried =>
    exact silent.trans (hmessage message hquiet) (silent_winding.receive message retried _)
  | expire key =>
    refine Within.get_bind (fun client => ?_) (client.facing writes)
    exact Within.ite (fun _ => silent_expire key) (fun _ => .pure ()) client
  | onRequestTimeout serial =>
    change silent.Rel _ (Program.final (tellTimeout serial) _)
    unfold tellTimeout Program.final
    rw [Program.run_get_bind]
    cases hfind : (client.facing writes).expiring.find?
        (fun pending => decide (pending.serial = serial)) with
    | none => exact silent.refl _
    | some pending =>
      simp only [Call.restarts, hfind, Option.any_some] at hquiet
      exact silent_onRequestTimeout hquiet
  | timeout key =>
    change silent.Rel _ (Program.final (onTimer key (timeout key)) _)
    unfold onTimer Program.final
    rw [Program.run_get_bind]
    cases htimer : (client.facing writes).hasTimer key with
    | false => exact silent.refl _
    | true =>
      refine silent_timeout fun pending hget => ?_
      simp only [Client.hasTimer, hget, Option.any_some] at htimer
      simpa [Call.restarts, hget, htimer] using hquiet
  | connect => exact silent_connect _
  | _ =>
    refine silent_winding.call rfl (fun hstarts => ?_) (by rintro _ _ _ _ ⟨⟩) _
    exact Bool.false_ne_true hstarts

/-! ## Runs -/

/-- Whether an action restarts the inventory, whatever becomes of its writes. -/
def Action.restarts (client : Client) (action : Action) : Bool :=
  action.call.restarts (client.facing action.writes)

/-- In every run, as long as no step restarts the inventory, nothing that puts an inventory
on the reader is written. While a disconnect is under way, the end of the setup is no such
step. -/
theorem startRequests_run {client : Client} (hreach : Reachable act Client.Started client)
    {actions : List Action}
    (hquiet : Guarded act (fun client action => action.restarts client = false) client actions) :
    (run act client actions).startRequests = client.startRequests := by
  induction actions generalizing client with
  | nil => rfl
  | cons action actions ih =>
    have hstep := startRequests_act (correlated_of_reachable hreach)
      (fitting_of_reachable hreach) hquiet.1
    exact (ih (hreach.next action) hquiet.2).trans hstep

/-- A running inventory is disconnected, and the reader answers. -/
theorem startRequests_run_openInventory :
    (run act (run act (Client.initial (fun _ => timedConfig) 0 true) openInventory)
      [⟨.disconnect, []⟩, respond .deleteAccessspecResponse 9 .success,
        respond .deleteRospecResponse 10 .success]).startRequests =
      (run act (Client.initial (fun _ => timedConfig) 0 true) openInventory).startRequests :=
  startRequests_run ⟨_, openInventory, ⟨fun _ => timedConfig, 0, true, rfl⟩, rfl⟩
    (by decide +kernel)

/-- While ADD_ROSPEC is out, its response enables the ROSpec behind the disconnect. -/
theorem disconnect_not_final :
    ¬ ∀ client, Reachable act Client.Started client → client.reader.owned = true →
      client.reader.socketThread = true →
      ∀ writes, disconnect.raises (client.facing writes) = false →
      ∀ actions : List Action, (∀ action ∈ actions, action.call ≠ .connect) →
        (run act (act client ⟨.disconnect, writes⟩) actions).startRequests =
          client.startRequests := by
  intro hfinal
  have hcall := hfinal
    (run act (Client.initial (fun _ => timedConfig) 0 true) (openInventory.take 7))
    ⟨_, _, ⟨_, _, _, rfl⟩, rfl⟩ (by decide +kernel) (by decide +kernel) [] (by decide +kernel)
    [respond .addRospecResponse 7 .success] (by simp [respond])
  exact absurd (congrArg List.length hcall) (by decide +kernel)

end Sllurp.Session
