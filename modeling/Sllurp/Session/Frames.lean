/-
# What every call keeps

Most updates of the client leave its correlation core alone. A frame that the
primitive steps on the core stay within therefore holds of every call and of
every callback; the lemmas follow the definitions one by one.
-/

import Sllurp.Session.Sending
import Sllurp.Session.Run

namespace Sllurp.Session

open Sllurp.Foundations Sllurp.Protocol Sllurp.Config Sllurp.Runtime
open Sllurp.Foundations.Program

/-- The waiting state that a callback of the setup sets by itself. -/
def Callback.setsWaiting : Callback → Option ReaderState
  | getReaderConfigCb => some .sentGetConfig
  | setReaderConfigCb => some .sentSetConfig
  | _ => none

/-- Whether the completion belongs to the start of an inventory. -/
def Completion.ofStart : Completion → Bool
  | restarted _ | restored _ _ => true
  | _ => false

/-- Whether the callback is one that requests of the response type are given.
The application may give its own callbacks to any request. -/
def Callback.answers : Callback → MessageName → Bool
  | application, name => name.isResponse
  | getReaderCapabilitiesCb, name => name = .getReaderCapabilitiesResponse
  | enableImpinjExtCb, name => name = .impinjEnableExtensionsResponse
  | getReaderConfigCb, name => name = .getReaderConfigResponse
  | setReaderConfigCb, name | readerConfigApplied _, name
  | oldReaderConfigRestored _ _, name => name = .setReaderConfigResponse
  | enabledRospecCb _, name | enableRospecResumeCb, name => name = .enableRospecResponse
  | sendAddedRospecCb _ _, name => name = .addRospecResponse
  | sendDeleteAccessspecCb onCompletion, name =>
    name = .deleteAccessspecResponse && !onCompletion.ofStart
  | stopAllRospecsCb _, name => name = .deleteRospecResponse
  | disableRospecPauseCb _ _, name => name = .disableRospecResponse
  | addAccessspecCb _, name => name = .addAccessspecResponse
  | disableAccessspecCb _, name => name = .disableAccessspecResponse
  | startNextAccessspecCb _, name => name = .deleteAccessspecResponse

/-- What a primitive step may change: the core, and the outcomes of the writes
to come. -/
def Client.traffic (client : Client) : Core × List (Option Exn) := (client.core, client.writes)

theorem core_of_traffic {before after : Client} (htraffic : after.traffic = before.traffic) :
    after.core = before.core :=
  congrArg Prod.fst htraffic

theorem writes_of_traffic {before after : Client} (htraffic : after.traffic = before.traffic) :
    after.writes = before.writes :=
  congrArg Prod.snd htraffic

/-- Whether the completion goes on to start an inventory, at once or after more
requests. -/
def Completion.continues : Completion → Bool → Bool
  | resetStopped, isSuccess | txPowerStopped, isSuccess | deleted, isSuccess => isSuccess
  | afterStopped frame, isSuccess | afterRospecCleanup frame _, isSuccess =>
    isSuccess && frame.wasInventorying
  | restarted frame, isSuccess => !isSuccess && frame.wasInventorying
  | absent, _ | application, _ | disconnectStopped, _ | restored _ _, _ => false

/-- Whether the callback goes on to start an inventory. -/
def Callback.continues : Callback → Bool → Bool
  | enabledRospecCb onCompletion, isSuccess | stopAllRospecsCb onCompletion, isSuccess =>
    onCompletion.continues isSuccess
  | sendAddedRospecCb _ onCompletion, isSuccess => isSuccess || onCompletion.continues false
  | sendDeleteAccessspecCb onCompletion, isSuccess => !isSuccess && onCompletion.continues false
  | readerConfigApplied frame, _ => frame.wasInventorying
  | oldReaderConfigRestored frame _, isSuccess => isSuccess && frame.wasInventorying
  | _, _ => false

/-- What closing the session, and opening one, changes of the reader client, the bytes it
retains, and the frame size limits of the configurations. -/
def Client.link (client : Client) :
    (Bool × Bool × Bool × ℕ × List UInt8) × (ConfigRef → Option ℤ) :=
  ((client.reader.socket, client.reader.disconnectRequested, client.disconnecting,
      client.reader.expectedBytes, client.reader.partialData),
    fun ref => (client.configs ref).maxMessageSize)

/-- Another content with the same frame size limit changes no limits. -/
theorem link_setConfig {client : Client} {ref : ConfigRef} {content : LLRPReaderConfig}
    (hlimit : content.maxMessageSize = (client.configs ref).maxMessageSize) :
    (client.setConfig ref content).link = client.link := by
  have hlimits : (fun other => ((client.setConfig ref content).configs other).maxMessageSize) =
      fun other => (client.configs other).maxMessageSize := by
    funext other
    change (if other = ref then content else client.configs other).maxMessageSize = _
    split
    · rename_i heq
      rw [heq, hlimit]
    · rfl
  exact congrArg (Prod.mk _) hlimits

/-- Whether the request puts an inventory on the reader. -/
def Request.starts (request : Request) : Bool :=
  match request.name with
  | .addRospec | .enableRospec | .startRospec => true
  | _ => false

/-- Whether the call can start an inventory or a session at once, in some state. -/
def Call.starts : Call → Bool
  | .startInventory _ | .resume _ | .timedResume _ _ | .connect => true
  | .sendRequest request _ _ _ => request.starts
  | .sendMessages messages => messages.any (·.1.starts)
  | _ => false

/-- A frame that holds of the primitive steps: updates off the traffic and the
link, changes to a state that waits for nothing, requests with a callback of
their own and the state that waits for their response, unregistered messages
under any ID, and the end of a session. Starting an inventory, and opening a session, need
`starting`. -/
structure Winding (starting : Prop) (frame : Frame Client) : Prop where
  neutral : ∀ {before after : Client}, after.traffic = before.traffic →
    after.link = before.link → frame.Rel before after
  setState : ∀ (client : Client) (newState : ReaderState), newState.awaited = none →
    frame.Rel client (client.setState newState)
  sendRequest : ∀ (request : Request) (name : MessageName) (onCompletion : Callback)
    (newState : Option ReaderState), (request.starts = true → starting) →
    name.isResponse = true → onCompletion.answers name = true →
    (∀ state ∈ newState, state.awaited = some name) →
    Within frame (Session.sendRequest request name onCompletion newState)
  countMessage : ∀ (client : Client) (lastMsgId : ℕ),
    frame.Rel client { client with lastMsgId }
  write : ∀ (messageId : ℕ) (request : Request), (request.starts = true → starting) →
    Within frame (Session.write none messageId request)
  stopping : ∀ (client : Client) (disconnect : Bool),
    frame.Rel client { client with disconnecting := client.disconnecting || disconnect }
  ending : ∀ client : Client,
    frame.Rel client { client with reader := { client.reader with disconnectRequested := true } }
  hardDisconnect : ∀ client : Client, frame.Rel client client.hardDisconnect
  onLostConnection : ∀ (client : Client) (retried : Bool),
    frame.Rel client (client.onLostConnection retried)
  connect : starting → Within frame Session.connect

/-- A frame that does not tell the links apart. -/
structure Respects (frame : Frame Client) : Prop where
  neutral : ∀ {before after : Client}, after.traffic = before.traffic → frame.Rel before after
  setState : ∀ (client : Client) (newState : ReaderState), newState.awaited = none →
    frame.Rel client (client.setState newState)
  sendRequest : ∀ (request : Request) (name : MessageName) (onCompletion : Callback)
    (newState : Option ReaderState), name.isResponse = true → onCompletion.answers name = true →
    (∀ state ∈ newState, state.awaited = some name) →
    Within frame (Session.sendRequest request name onCompletion newState)
  countMessage : ∀ (client : Client) (lastMsgId : ℕ),
    frame.Rel client { client with lastMsgId }
  write : ∀ (messageId : ℕ) (request : Request),
    Within frame (Session.write none messageId request)
  resetProtocolSession : ∀ client : Client, frame.Rel client client.resetProtocolSession

namespace Respects

variable {frame : Frame Client}

theorem modify (hframe : Respects frame) {update : Client → Client}
    (htraffic : ∀ client, (update client).traffic = client.traffic) :
    Within frame (Program.modify update : ClientM Unit) :=
  Within.modify fun client => hframe.neutral (htraffic client)

theorem hardDisconnect (hframe : Respects frame) (client : Client) :
    frame.Rel client client.hardDisconnect := by
  have hclose : frame.Rel client client.close := hframe.neutral rfl
  exact frame.trans hclose (hframe.resetProtocolSession client.close)

theorem onLostConnection (hframe : Respects frame) (client : Client) (retried : Bool) :
    frame.Rel client (client.onLostConnection retried) := by
  have hlost : frame.Rel client (client.setState .disconnected).hardDisconnect :=
    frame.trans (hframe.setState client .disconnected rfl) (hframe.hardDisconnect _)
  have hreset := frame.trans hlost (hframe.resetProtocolSession _)
  have hreopened : ∀ client : Client, frame.Rel client client.reopened :=
    fun client => hframe.neutral rfl
  have hnotified : ∀ client : Client, frame.Rel client client.onDisconnected :=
    fun client => hframe.neutral rfl
  unfold Client.onLostConnection
  dsimp only
  split
  · exact frame.trans hlost (hnotified _)
  · split
    · exact frame.trans hreset (hreopened _)
    · exact frame.trans hreset (hnotified _)

theorem connect (hframe : Respects frame) : Within frame Session.connect := by
  unfold Session.connect
  refine .bind .get fun client => .ite (fun _ => .raise _) fun _ => ?_
  refine .bind (.modify fun client => ?_) fun _ => .ite (fun _ => .raise _) fun _ => ?_
  · have hrequested : frame.Rel client
        { client with reader := { client.reader with disconnectRequested := false } } :=
      hframe.neutral rfl
    exact frame.trans hrequested (hframe.resetProtocolSession _)
  · exact hframe.modify fun _ => rfl

/-- Such a frame allows everything. -/
theorem winding (hframe : Respects frame) : Winding True frame where
  neutral htraffic _ := hframe.neutral htraffic
  setState := hframe.setState
  sendRequest request name onCompletion newState _ :=
    hframe.sendRequest request name onCompletion newState
  countMessage := hframe.countMessage
  write messageId request _ := hframe.write messageId request
  stopping _ _ := hframe.neutral rfl
  ending _ := hframe.neutral rfl
  hardDisconnect := hframe.hardDisconnect
  onLostConnection := hframe.onLostConnection
  connect _ := hframe.connect

end Respects

namespace Winding

variable {starting : Prop} {frame : Frame Client}

/-! ## Primitive steps -/

theorem modify (hframe : Winding starting frame) {update : Client → Client}
    (hsame : ∀ client, ((update client).traffic, (update client).link) =
      (client.traffic, client.link)) :
    Within frame (Program.modify update : ClientM Unit) :=
  Within.modify fun client =>
    hframe.neutral (congrArg Prod.fst (hsame client)) (congrArg Prod.snd (hsame client))

/-- A message that nobody waits for. -/
theorem sendMessage (hframe : Winding starting frame) (request : Request)
    (hstart : request.starts = true → starting) : Within frame (Session.sendMessage request) := by
  intro client
  rw [run_sendMessage]
  cases request.name.response.filter client.isWaiting with
  | some name => exact frame.refl client
  | none =>
    exact frame.trans (hframe.countMessage client _) (hframe.write _ request hstart _)

/-- Of the messages of one call, the first one is written. -/
theorem sendMessages (hframe : Winding starting frame) {messages : List (Request × Option ℕ)}
    (hstart : messages.head?.any (·.1.starts) = true → starting) :
    Within frame (Session.sendMessages messages) := by
  unfold Session.sendMessages
  refine .bind .get fun client => ?_
  cases messages.findSome? fun message =>
      (message.1.name.response.filter client.isWaiting).map (message.1.name, ·) with
  | some waiting => exact .raise _
  | none =>
    refine .bind (.modify fun client => hframe.countMessage client _) fun _ => ?_
    cases messages with
    | nil => exact .raise _
    | cons message rest =>
      exact .ite (fun _ => hframe.write _ _ hstart) fun _ => .raise _

theorem settle (hframe : Winding starting frame) (newState : ReaderState)
    (hsettled : newState.awaited = none) : Within frame (Session.setState newState) :=
  Within.modify fun client => hframe.setState client newState hsettled

theorem onDisconnected (hframe : Winding starting frame) (client : Client) :
    frame.Rel client client.onDisconnected :=
  hframe.neutral rfl rfl

/-! ## Inventory -/

theorem getROSpec (hframe : Winding starting frame) (forceNew : Bool) :
    Within frame (Session.getROSpec forceNew) := by
  unfold Session.getROSpec
  refine .bind .get fun client => ?_
  cases client.rospec.filter fun _ => !forceNew with
  | some rospec => exact .pure rospec
  | none =>
    refine .bind (.ofExcept _) fun built => .bind (hframe.modify fun _ => rfl) fun _ => ?_
    refine .ite (fun _ => ?_) fun _ => .pure _
    cases client.settings.dedupSeconds with
    | none => exact .raise _
    | some seconds => exact .bind (hframe.modify fun _ => rfl) fun _ => .pure _

theorem startInventory (hframe : Winding starting frame) (hstart : starting)
    (forceRegenRospec : Bool) (onCompletion : Completion) {completed : ClientM Unit}
    (hcompleted : Within frame completed) :
    Within frame (Session.startInventory forceRegenRospec onCompletion completed) := by
  unfold Session.startInventory
  refine .bind .get fun client => .ite (fun _ => hcompleted) fun _ => ?_
  refine .bind (hframe.getROSpec forceRegenRospec) fun rospec => ?_
  exact .bind (hframe.modify fun _ => rfl) fun _ =>
    hframe.sendRequest _ _ _ _ (fun _ => hstart) rfl rfl (by simp [ReaderState.awaited])

theorem stopAllROSpecs (hframe : Winding starting frame) (onCompletion : Completion) :
    Within frame (Session.stopAllROSpecs onCompletion) :=
  hframe.sendRequest _ _ _ _ nofun rfl rfl (by simp [ReaderState.awaited])

theorem stopPolitely (hframe : Winding starting frame) {onCompletion : Completion}
    (hstop : onCompletion.ofStart = false) (disconnect : Bool) :
    Within frame (Session.stopPolitely onCompletion disconnect) :=
  .bind (.modify fun client => hframe.stopping client disconnect) fun _ =>
    hframe.sendRequest _ _ _ _ nofun rfl (by rw [Callback.answers, hstop]; rfl)
      (by simp [ReaderState.awaited])

/-! ## Transmit power and capabilities -/

theorem assignPowers (hframe : Winding starting frame) (selected : List (ℤ × ℕ × ℚ))
    (needsUpdate : Bool) : Within frame (Session.assignPowers selected needsUpdate) := by
  induction selected generalizing needsUpdate with
  | nil => exact .pure needsUpdate
  | cons power selected ih =>
    obtain ⟨antenna, index, dbm⟩ := power
    unfold Session.assignPowers
    refine .bind .get fun client => ?_
    cases client.settings.txPower with
    | index index => exact .raise _
    | perAntenna powers =>
      cases hpower : powers.get? antenna with
      | none => simpa only [hpower] using Within.raise _
      | some current =>
        simp only [hpower]
        refine .ite (fun _ => ih needsUpdate) fun _ => ?_
        exact .bind (hframe.modify fun client =>
          congrArg (Prod.mk client.traffic) (link_setConfig rfl)) fun _ => ih true

theorem setTxPower (hframe : Winding starting frame) (txPower : List (ℤ × ℤ)) (zeroIsMax : Bool) :
    Within frame (Session.setTxPower txPower zeroIsMax) := by
  unfold Session.setTxPower
  refine .bind .get fun client => .bind (.ofExcept _) fun selected => ?_
  refine .bind (hframe.assignPowers selected false) fun needsUpdate => .bind .get fun client => ?_
  exact .ite (fun _ => hframe.stopPolitely rfl _) fun _ => .pure ()

theorem setTxPowerDbm (hframe : Winding starting frame) (txPowDbm : Option (Dict ℤ ℚ)) :
    Within frame (Session.setTxPowerDbm txPowDbm) := by
  unfold Session.setTxPowerDbm
  refine .bind .get fun client => ?_
  dsimp only
  split
  · exact .raise _
  · cases txPowDbm with
    | none => exact hframe.setTxPower _ _
    | some levels =>
      exact .bind (hframe.modify fun client =>
        congrArg (Prod.mk client.traffic) (link_setConfig rfl)) fun _ => hframe.setTxPower _ _

theorem setConfiguredPower (hframe : Winding starting frame) :
    Within frame Session.setConfiguredPower := by
  unfold Session.setConfiguredPower
  refine .bind .get fun client => ?_
  split
  · exact hframe.setTxPowerDbm _
  · exact .raise _
  · exact hframe.setTxPower _ _
  · exact .raise _

theorem parseCapabilities (hframe : Winding starting frame) (capabilities : Capabilities) :
    Within frame (Session.parseCapabilities capabilities) := by
  unfold Session.parseCapabilities
  refine .bind (.ofExcept _) fun maxAnt => .bind (hframe.modify fun _ => rfl) fun _ => ?_
  refine .bind .get fun client => .bind (.ofExcept _) fun _ => .bind (.ofExcept _) fun band => ?_
  refine .bind (hframe.modify fun _ => rfl) fun _ => .bind hframe.setConfiguredPower fun _ => ?_
  refine .bind (.ofExcept _) fun modes => .bind (hframe.modify fun _ => rfl) fun _ => ?_
  refine .bind .get fun client => .bind (.ofExcept _) fun mode => ?_
  refine .bind (hframe.modify fun _ => rfl) fun _ => .bind (.ofExcept _) fun _ => ?_
  exact .bind (.ofExcept _) fun backend => hframe.modify fun _ => rfl

/-! ## Pause, resume and access operations -/

theorem pause (hframe : Winding starting frame) (durationSeconds : ℚ)
    (force forceRegenRospec : Bool) :
    Within frame (Session.pause durationSeconds force forceRegenRospec) := by
  unfold Session.pause
  refine .bind .get fun client => .ite (fun _ => .raise _) fun _ => ?_
  refine .ite (fun _ => .pure ()) fun _ => .bind (hframe.modify fun _ => rfl) fun _ => ?_
  exact .bind (hframe.getROSpec _) fun rospec =>
    hframe.sendRequest _ _ _ _ nofun rfl rfl (by simp [ReaderState.awaited])

theorem resumeInventory (hframe : Winding starting frame) (hstart : starting)
    (forceRegenRospec : Bool) : Within frame (Session.resumeInventory forceRegenRospec) := by
  unfold Session.resumeInventory
  refine .bind .get fun client =>
    .ite (fun _ => hframe.startInventory hstart _ _ (.pure ())) fun _ => ?_
  refine .ite (fun _ => .pure ()) fun _ => ?_
  cases client.rospec with
  | none =>
    exact .bind (hframe.settle _ rfl) fun _ => hframe.startInventory hstart _ _ (.pure ())
  | some rospec =>
    refine .ite (fun _ => hframe.stopAllROSpecs _) fun _ => ?_
    exact hframe.sendRequest _ _ _ _ (fun _ => hstart) rfl rfl (by simp [ReaderState.awaited])

theorem resume (hframe : Winding starting frame) (hstart : starting) (forceRegenRospec : Bool) :
    Within frame (Session.resume forceRegenRospec) :=
  .bind (hframe.modify fun _ => rfl) fun _ => hframe.resumeInventory hstart forceRegenRospec

theorem timedResume (hframe : Winding starting frame) (hstart : starting) (generation : ℕ)
    (forceRegenRospec : Bool) :
    Within frame (Session.timedResume generation forceRegenRospec) := by
  unfold Session.timedResume
  refine .bind .get fun client => .ite (fun _ => .pure ()) fun _ => ?_
  refine .bind (hframe.modify fun _ => rfl) fun _ => .ite (fun _ => .pure ()) fun _ => ?_
  exact hframe.resumeInventory hstart forceRegenRospec

theorem startAccess (hframe : Winding starting frame) (operation : AccessOperation) :
    Within frame (Session.startAccess operation) :=
  .bind (.ofExcept _) fun _ => hframe.sendRequest _ _ _ _ nofun rfl rfl (by simp)

theorem nextAccess (hframe : Winding starting frame) (operation : AccessOperation) :
    Within frame (Session.nextAccess operation) :=
  hframe.sendRequest _ _ _ _ nofun rfl rfl (by simp)

/-! ## Configuration transitions -/

theorem validateObject (hframe : Winding starting frame) (ref : ConfigRef) :
    Within frame (Session.validateObject ref) :=
  fun client => hframe.neutral rfl (link_setConfig (validateConfig_within (client.configs ref)))

theorem updateConfig (hframe : Winding starting frame) (newConfig : ConfigRef) :
    Within frame (Session.updateConfig newConfig) := by
  unfold Session.updateConfig
  refine .bind (hframe.validateObject newConfig) fun _ => .bind .get fun client => ?_
  exact .ite (fun _ => .raise _) fun _ => hframe.modify fun _ => rfl

theorem installRuntimeConfig (hframe : Winding starting frame) (newConfig : ConfigRef) :
    Within frame (Session.installRuntimeConfig newConfig) := by
  unfold Session.installRuntimeConfig
  refine .bind (hframe.modify fun _ => rfl) fun _ => .bind .get fun client => ?_
  cases client.capabilities with
  | none => exact .pure ()
  | some capabilities => exact hframe.parseCapabilities capabilities

theorem succeed (hframe : Winding starting frame) (id : TransitionId) (hook : Hook) :
    Within frame (Session.succeed id hook) := by
  refine Within.modify fun client => ?_
  cases hook with
  | application => exact hframe.neutral rfl rfl
  | completed newConfig oldConfig =>
    refine hframe.neutral rfl ?_
    unfold Client.hookSucceeded Client.link
    dsimp only
    split <;> rfl

theorem hookFailed (hframe : Winding starting frame) (client : Client) (hook : Hook) :
    frame.Rel client (client.hookFailed hook) := by
  cases hook with
  | application => exact frame.refl client
  | completed newConfig oldConfig =>
    have hreader : frame.Rel client (client.setReaderConfig oldConfig) := hframe.neutral rfl rfl
    unfold Client.hookFailed
    dsimp only
    split
    · exact frame.trans hreader (hframe.hardDisconnect _)
    · exact hreader

theorem fail (hframe : Winding starting frame) (id : TransitionId) (hook : Hook) (error : String) :
    Within frame (Session.fail id hook error) := by
  refine Within.modify fun client => ?_
  have hconclude : frame.Rel client (client.conclude id .failed (some error)) :=
    hframe.neutral rfl rfl
  exact frame.trans hconclude (hframe.hookFailed _ hook)

theorem restored (hframe : Winding starting frame) (apply : ApplyFrame) (error : String)
    (isSuccess : Bool) : Within frame (apply.restored error isSuccess) := by
  unfold ApplyFrame.restored
  refine .ite (fun _ => hframe.fail _ _ _) fun _ => ?_
  exact .bind (hframe.settle _ rfl) fun _ => hframe.fail _ _ _

theorem finishRestore (hframe : Winding starting frame) (apply : ApplyFrame)
    (hstart : apply.wasInventorying = true → starting) (error : String) :
    Within frame (apply.finishRestore error) := by
  unfold ApplyFrame.finishRestore
  refine .ite (fun hwas => ?_) fun _ => .ite (fun _ => ?_) fun _ => ?_
  · exact .bind (hframe.settle _ rfl) fun _ =>
      hframe.startInventory (hstart hwas) _ _ (hframe.restored _ _ _)
  · exact .bind (hframe.settle _ rfl) fun _ => hframe.fail _ _ _
  · exact .bind (hframe.settle _ rfl) fun _ => hframe.fail _ _ _

theorem afterRospecCleanup (hframe : Winding starting frame) (apply : ApplyFrame) (error : String)
    (isSuccess : Bool) (hstart : isSuccess = true → apply.wasInventorying = true → starting) :
    Within frame (apply.afterRospecCleanup error isSuccess) := by
  unfold ApplyFrame.afterRospecCleanup
  refine .ite (fun hok => hframe.finishRestore _ (hstart hok) _) fun _ => ?_
  exact .bind (hframe.settle _ rfl) fun _ => hframe.fail _ _ _

theorem cleanupReplacementRospec (hframe : Winding starting frame) (apply : ApplyFrame)
    (hstart : apply.wasInventorying = true → starting) (error : String) :
    Within frame (apply.cleanupReplacementRospec error) := by
  unfold ApplyFrame.cleanupReplacementRospec
  refine .bind .get fun client => .ite (fun _ => hframe.finishRestore _ hstart _) fun _ => ?_
  exact .bind (hframe.settle _ rfl) fun _ => hframe.stopAllROSpecs _

theorem oldReaderConfigRestored (hframe : Winding starting frame) (apply : ApplyFrame)
    (error : String) (isSuccess : Bool)
    (hstart : isSuccess = true → apply.wasInventorying = true → starting) :
    Within frame (apply.oldReaderConfigRestored error isSuccess) := by
  unfold ApplyFrame.oldReaderConfigRestored
  refine .ite (fun hok => hframe.cleanupReplacementRospec _ (hstart hok) _) fun _ => ?_
  exact .bind (hframe.settle _ rfl) fun _ => hframe.fail _ _ _

theorem sendSetReaderConfig (hframe : Winding starting frame) {onCompletion : Callback}
    (hanswers : onCompletion.answers .setReaderConfigResponse = true) :
    Within frame (Session.sendSetReaderConfig onCompletion) :=
  .bind .get fun _ => hframe.sendRequest _ _ _ _ nofun rfl hanswers (by simp [ReaderState.awaited])

theorem restoreOld (hframe : Winding starting frame) (apply : ApplyFrame)
    (hstart : apply.wasInventorying = true → starting) (error : String) :
    Within frame (apply.restoreOld error) := by
  unfold ApplyFrame.restoreOld
  refine .bind (hframe.installRuntimeConfig apply.oldConfig).attempt fun outcome => ?_
  cases outcome with
  | error rollbackError => exact .bind (hframe.settle _ rfl) fun _ => hframe.fail _ _ _
  | ok _ =>
    refine .ite (fun _ => ?_) fun _ => hframe.cleanupReplacementRospec _ hstart _
    refine .bind (hframe.settle _ rfl) fun _ => .bind (hframe.modify fun _ => rfl) fun _ => ?_
    exact hframe.sendSetReaderConfig rfl

theorem restarted (hframe : Winding starting frame) (apply : ApplyFrame) (isSuccess : Bool)
    (hstart : ¬ isSuccess = true → apply.wasInventorying = true → starting) :
    Within frame (apply.restarted isSuccess) :=
  .ite (fun _ => hframe.succeed _ _) fun hfailed => hframe.restoreOld _ (hstart hfailed) _

theorem finishNewState (hframe : Winding starting frame) (apply : ApplyFrame)
    (hstart : apply.wasInventorying = true → starting) : Within frame apply.finishNewState := by
  unfold ApplyFrame.finishNewState
  refine .ite (fun hwas => ?_) fun _ => .ite (fun _ => ?_) fun _ => ?_
  · exact .bind (hframe.settle _ rfl) fun _ =>
      hframe.startInventory (hstart hwas) _ _ (hframe.restarted _ _ (by simp))
  · exact .bind (hframe.settle _ rfl) fun _ => hframe.succeed _ _
  · exact .bind (hframe.settle _ rfl) fun _ => hframe.succeed _ _

theorem readerConfigApplied (hframe : Winding starting frame) (apply : ApplyFrame)
    (isSuccess : Bool) (hstart : apply.wasInventorying = true → starting) :
    Within frame (apply.readerConfigApplied isSuccess) :=
  .ite (fun _ => hframe.finishNewState _ hstart) fun _ => hframe.restoreOld _ hstart _

theorem afterStopped (hframe : Winding starting frame) (apply : ApplyFrame) (isSuccess : Bool)
    (hstart : isSuccess = true → apply.wasInventorying = true → starting) :
    Within frame (apply.afterStopped isSuccess) := by
  unfold ApplyFrame.afterStopped
  refine .ite (fun _ => ?_) fun hok => .bind (hframe.settle _ rfl) fun _ => ?_
  · have hsettled : apply.originalState.state.awaited = none := by
      cases apply.originalState <;> rfl
    exact .bind (hframe.settle _ hsettled) fun _ => hframe.fail _ _ _
  · refine .bind (hframe.installRuntimeConfig apply.newConfig).attempt fun outcome => ?_
    cases outcome with
    | error raised => exact hframe.restoreOld _ (hstart (by simpa using hok)) _
    | ok _ =>
      refine .ite (fun _ => ?_) fun _ => hframe.finishNewState _ (hstart (by simpa using hok))
      exact .bind (hframe.modify fun _ => rfl) fun _ => hframe.sendSetReaderConfig rfl

theorem applyConfig (hframe : Winding starting frame) (newConfig : ConfigRef) (hook : Hook) :
    Within frame (Session.applyConfig newConfig hook) := by
  unfold Session.applyConfig
  refine .bind (hframe.validateObject newConfig) fun _ => .bind .get fun client => ?_
  refine .bind (hframe.modify fun _ => rfl) fun _ => .ite (fun _ => ?_) fun _ => ?_
  · exact .bind (hframe.succeed _ _) fun _ => .pure _
  refine .ite (fun _ => .raise _) fun _ => ?_
  refine .ite (fun _ => ?_) fun _ => .ite (fun _ => ?_) fun _ => ?_
  · exact .bind (hframe.updateConfig _) fun _ => .bind (hframe.succeed _ _) fun _ => .pure _
  · exact .bind (hframe.modify fun _ => rfl) fun _ =>
      .bind (hframe.succeed _ _) fun _ => .pure _
  cases LiveState.of? client.state with
  | none => exact .raise _
  | some originalState =>
    cases originalState with
    | connected =>
      exact .bind (hframe.afterStopped _ _ fun _ hwas => absurd hwas Bool.false_ne_true)
        fun _ => .pure _
    | inventorying => exact .bind (hframe.stopPolitely rfl _) fun _ => .pure _
    | paused =>
      exact .bind (hframe.modify fun _ => rfl) fun _ =>
        .bind (hframe.stopAllROSpecs _) fun _ => .pure _

theorem readerUpdateConfig (hframe : Winding starting frame) (newConfig : ConfigRef) :
    Within frame (Session.readerUpdateConfig newConfig) := by
  unfold Session.readerUpdateConfig
  refine .bind (hframe.validateObject newConfig) fun _ => .bind .get fun client => ?_
  refine .ite (fun _ => ?_) fun _ => .raise _
  exact .bind (hframe.updateConfig _) fun _ => hframe.modify fun _ => rfl

theorem readerApplyConfig (hframe : Winding starting frame) (newConfig : ConfigRef) :
    Within frame (Session.readerApplyConfig newConfig) := by
  unfold Session.readerApplyConfig
  refine .bind (hframe.validateObject newConfig) fun _ => .bind .get fun client => ?_
  refine .ite (fun _ => ?_) fun _ => hframe.applyConfig _ _
  exact .bind (hframe.readerUpdateConfig _) fun _ =>
    .bind (hframe.modify fun _ => rfl) fun _ => .pure _

/-! ## Callbacks -/

/-- Every completion stays within the frame; one that continues a start needs the
frame to allow it. -/
theorem runCompletion (hframe : Winding starting frame) (onCompletion : Completion)
    (isSuccess : Bool) (hstart : onCompletion.continues isSuccess = true → starting) :
    Within frame (Session.runCompletion onCompletion isSuccess) := by
  cases onCompletion with
  | absent => exact .pure ()
  | application => exact .pure ()
  | resetStopped =>
    refine .ite (fun hok => .bind (hframe.settle _ rfl) fun _ => .bind .get fun _ => ?_)
      fun _ => .pure ()
    exact .ite (fun _ => hframe.startInventory (hstart hok) _ _ (.pure ())) fun _ => .pure ()
  | txPowerStopped =>
    exact .ite (fun hok => .bind (hframe.settle _ rfl) fun _ =>
      hframe.startInventory (hstart hok) _ _ (.pure ())) fun _ => .pure ()
  | disconnectStopped =>
    refine Within.modify fun client => frame.trans ?_ (hframe.onDisconnected _)
    cases isSuccess with
    | false => exact hframe.hardDisconnect client
    | true =>
      exact frame.trans (hframe.setState client .disconnected rfl) (hframe.hardDisconnect _)
  | deleted =>
    exact .ite (fun hok => .bind (hframe.settle _ rfl) fun _ =>
      hframe.startInventory (hstart hok) _ _ (.pure ())) fun _ => .pure ()
  | afterStopped apply =>
    exact hframe.afterStopped apply isSuccess fun hok hwas => hstart (Bool.and_eq_true_iff.mpr
      ⟨hok, hwas⟩)
  | restarted apply =>
    exact hframe.restarted apply isSuccess fun hfailed hwas => hstart (Bool.and_eq_true_iff.mpr
      ⟨by simpa using hfailed, hwas⟩)
  | restored apply error => exact hframe.restored apply error isSuccess
  | afterRospecCleanup apply error =>
    exact hframe.afterRospecCleanup apply error isSuccess fun hok hwas =>
      hstart (Bool.and_eq_true_iff.mpr ⟨hok, hwas⟩)

/-- Every callback stays within the frame; the two that set a waiting state, and
those that continue a start, need the frame to allow it. -/
theorem runCallback (hframe : Winding starting frame) (callback : Callback) (isSuccess : Bool)
    (hstart : callback.continues isSuccess = true → starting)
    (hsetup : isSuccess = true → ∀ state ∈ callback.setsWaiting,
      ∀ client : Client, frame.Rel client (client.setState state)) :
    Within frame (Session.runCallback callback isSuccess) := by
  cases callback with
  | application => exact .pure ()
  | getReaderCapabilitiesCb => exact .ite (fun _ => hframe.settle .connected rfl) fun _ => .pure ()
  | enableImpinjExtCb =>
    exact .ite (fun _ => hframe.sendRequest _ _ _ _ nofun rfl rfl (by simp [ReaderState.awaited]))
      fun _ => .raise _
  | getReaderConfigCb =>
    exact .ite (fun hok => Within.modify (hsetup hok _ rfl)) fun _ => .pure ()
  | setReaderConfigCb =>
    exact .ite (fun hok => Within.modify (hsetup hok _ rfl)) fun _ => .pure ()
  | enabledRospecCb onCompletion =>
    have hcompletion := hframe.runCompletion onCompletion isSuccess hstart
    exact .ite (fun _ => .bind (hframe.settle _ rfl) fun _ => hcompletion) fun _ => hcompletion
  | sendAddedRospecCb rospec onCompletion =>
    refine .ite (fun hok => ?_) fun _ => hframe.runCompletion onCompletion false fun hcontinues =>
      hstart (Bool.or_eq_true_iff.mpr (.inr hcontinues))
    exact .bind (hframe.modify fun _ => rfl) fun _ =>
      hframe.sendRequest _ _ _ _ (fun _ => hstart (Bool.or_eq_true_iff.mpr (.inl hok))) rfl rfl
        (by simp [ReaderState.awaited])
  | sendDeleteAccessspecCb onCompletion =>
    refine .ite (fun _ => hframe.stopAllROSpecs _) fun hfailed =>
      hframe.runCompletion _ _ fun hcontinues => hstart ?_
    exact Bool.and_eq_true_iff.mpr ⟨by simpa using hfailed, hcontinues⟩
  | stopAllRospecsCb onCompletion =>
    exact .bind (hframe.modify fun _ => rfl) fun _ => hframe.runCompletion _ _ hstart
  | disableRospecPauseCb durationSeconds forceRegenRospec =>
    refine .ite (fun _ => .bind (hframe.settle _ rfl) fun _ => ?_) fun _ => .pure ()
    exact .ite (fun _ => hframe.modify fun _ => rfl) fun _ => .pure ()
  | enableRospecResumeCb => exact .ite (fun _ => hframe.settle .inventorying rfl) fun _ => .pure ()
  | addAccessspecCb accessSpecId =>
    exact .ite (fun _ => hframe.sendMessage _ nofun) fun _ => .pure ()
  | disableAccessspecCb operation => exact hframe.sendRequest _ _ _ _ nofun rfl rfl (by simp)
  | startNextAccessspecCb operation => exact hframe.startAccess operation
  | readerConfigApplied apply => exact hframe.readerConfigApplied apply isSuccess hstart
  | oldReaderConfigRestored apply error =>
    exact hframe.oldReaderConfigRestored apply error isSuccess fun hok hwas =>
      hstart (Bool.and_eq_true_iff.mpr ⟨hok, hwas⟩)

/-! ## Calls -/

theorem disconnect (hframe : Winding starting frame) : Within frame Session.disconnect := by
  unfold Session.disconnect
  refine .bind (.modify hframe.ending) fun _ => .bind .get fun client => ?_
  refine .ite (fun _ => hframe.stopPolitely rfl _) fun _ => .modify fun client => ?_
  exact frame.trans (hframe.hardDisconnect client) (hframe.onDisconnected _)

theorem afterException (hframe : Winding starting frame) (client : Client) (raised : Exn)
    (retried : Bool) : frame.Rel client (client.afterException raised retried) := by
  have hthread : ∀ client : Client, frame.Rel client client.endThread :=
    fun client => hframe.neutral rfl rfl
  have hclosed : frame.Rel client client.hardDisconnect.onDisconnected.endThread :=
    frame.trans (frame.trans (hframe.hardDisconnect client) (hframe.onDisconnected _)) (hthread _)
  cases raised with
  | osError text =>
    have hlost := hframe.onLostConnection client retried
    unfold Client.afterException
    dsimp only
    split
    · exact hlost
    · exact frame.trans hlost (hthread _)
  | _ => exact hclosed

/-- The receive loop adds its reaction to an exception. -/
theorem receive (hframe : Winding starting frame) (message : LLRPMessage) (retried : Bool)
    (client : Client) :
    frame.Rel ((Session.handleMessage message).final client)
      ((Session.receive message retried).final client) := by
  unfold Session.receive Program.final
  rw [Program.run_handle]
  rcases Session.handleMessage message client with ⟨_ | _, later⟩
  · exact hframe.afterException later _ retried
  · exact frame.refl later

/-- Every call that handles neither a message nor a timeout stays within the
frame; those that start an inventory or a session need the frame to allow it. -/
theorem call (hframe : Winding starting frame) {call : Call} (hcall : call.handles = false)
    (hstart : call.starts = true → starting)
    (hrequest : ∀ request name hname newState, call = .sendRequest request name hname newState →
      ∀ state ∈ newState, state.awaited = some name) :
    Within frame call.program := by
  cases call with
  | startInventory force => exact hframe.startInventory (hstart rfl) _ _ (.pure ())
  | stopPolitely onCompletion => exact hframe.stopPolitely (by cases onCompletion <;> rfl) _
  | pause durationSeconds force forceRegenRospec => exact hframe.pause _ _ _
  | resume force => exact hframe.resume (hstart rfl) force
  | timedResume generation force => exact hframe.timedResume (hstart rfl) _ _
  | setTxPower txPower => exact hframe.setTxPower _ _
  | setTxPowerDbm txPowDbm => exact hframe.setTxPowerDbm _
  | startAccess operation => exact hframe.startAccess _
  | nextAccess operation => exact hframe.nextAccess _
  | sendRequest request name hname newState =>
    exact hframe.sendRequest _ _ _ _ hstart hname hname (hrequest request name hname newState rfl)
  | sendMessages messages =>
    refine hframe.sendMessages fun hfirst => hstart ?_
    cases messages with
    | nil => cases hfirst
    | cons message rest => exact Bool.or_eq_true_iff.mpr (.inl hfirst)
  | applyConfig newConfig => exact .bind (hframe.applyConfig _ _) fun _ => .pure ()
  | updateConfig newConfig => exact hframe.updateConfig _
  | readerApplyConfig newConfig => exact .bind (hframe.readerApplyConfig _) fun _ => .pure ()
  | readerUpdateConfig newConfig => exact hframe.readerUpdateConfig _
  | connect => exact hframe.connect (hstart rfl)
  | disconnect => exact hframe.disconnect
  | hardDisconnect => exact .modify fun client => hframe.hardDisconnect client
  | lost retried => exact .modify fun client => hframe.onLostConnection client retried
  | handleMessage message => cases hcall
  | receive message retried => cases hcall
  | expire key => cases hcall
  | onRequestTimeout serial => cases hcall
  | timeout key => cases hcall

end Winding

end Sllurp.Session
