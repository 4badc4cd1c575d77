/-
# What a raising configuration change leaves behind

A change of the configuration is refused before anything was replaced, with three
exceptions. In CONNECTED there is nothing to stop, so the new configuration is installed
at once, and its SET_READER_CONFIG may fail while the caller waits. Nobody restores the
old configuration then. What `except Exception` does not catch leaves a request
registered. And what is committed is not taken back when `onCompletion` raises.
-/

import Sllurp.Session.OpenTransport
import Sllurp.Session.RaisingCalls

namespace Sllurp.Session

open Sllurp.Foundations Sllurp.Protocol Sllurp.Config Sllurp.Runtime
open Sllurp.Foundations.Program
open Sllurp.Client (Raised Outside)

/-- What a call that raises has to leave as it was. -/
structure Untouched (before after : Client) : Prop where
  config : after.config = before.config
  desiredConfig : after.desiredConfig = before.desiredConfig
  rospec : after.rospec = before.rospec
  generatedConfigSnapshot : after.generatedConfigSnapshot = before.generatedConfigSnapshot
  suppressSetConfigPostActions :
    after.suppressSetConfigPostActions = before.suppressSetConfigPostActions
  state : after.state = before.state
  pendingRequests : after.pendingRequests = before.pendingRequests
  deferreds : after.deferreds = before.deferreds

namespace Client

/-- The key that the next request of a response type gets. -/
def nextKey (client : Client) (name : MessageName) : Key MessageName :=
  (name, nextMessageId client.lastMsgId)

/-- A request that raises leaves nothing behind: it is refused, or what it raises is an
exception of the transport, which takes it back, and its key was not remembered as stale,
which registering the request would end. -/
def WithdrawsFully (client : Client) (name : MessageName) (outside : Outside) : Prop :=
  client.isWaiting name = true ∨ outside.entering = none ∧
    match outside.write with
    | none => True
    | some (.baseException _) => False
    | some (.exception _) =>
      client.nextKey name ∉ client.pendingRequests.stale ∧
        client.nextKey name ∉ client.pendingRequests.staleSet

/-- The client with the new configuration validated, which may normalize it. -/
def validating (client : Client) (newConfig : ConfigRef) : Client :=
  (validateObject newConfig).final client

/-- What has to change between the current configuration and a new one. -/
def planFor (client : Client) (newConfig : ConfigRef) : ConfigTransitionPlan :=
  buildConfigTransitionPlan client.settings (client.configs newConfig)

/-- The plan is carried out without a request: nothing is connected, or the change is one
of the client only. -/
def CommitsAtOnce (client : Client) (newConfig : ConfigRef) : Prop :=
  (client.planFor newConfig).isNoop = false ∧
    (client.state = .disconnected ∨
      (client.planFor newConfig).requiresReconnect = false ∧
        (client.planFor newConfig).clientOnly = true)

/-- The plan has to be carried out by a chain of requests. -/
def NeedsTransition (client : Client) (newConfig : ConfigRef) : Prop :=
  (client.planFor newConfig).isNoop = false ∧ (client.planFor newConfig).requiresReconnect = false ∧
    (client.planFor newConfig).clientOnly = false

/-- Installing the current configuration again changes nothing that a call has to leave as
it was. -/
def Reinstalls (client : Client) : Prop :=
  client.installs client.config = true ∧ client.desiredConfig = client.config ∧
    client.rospec = none ∧ client.generatedConfigSnapshot = none

/-- When a call in CONNECTED that raises leaves the client untouched. With a configuration
that fits the reader it must not raise once that is installed. One that does not fit is
replaced by the old one again. -/
def ChangesCleanly (client : Client) (newConfig : ConfigRef) (outside : ApplyOutside) : Prop :=
  outside.stateChange 0 = none →
    if client.installs newConfig then
      outside.stateChange 1 = none ∧
        if (client.planFor newConfig).requiresReaderConfigWrite then
          client.isWaiting .setReaderConfigResponse = false ∧ outside.write = none
        else outside.onCompletion = none
    else outside.stateChange 1 = none ∧ outside.onCompletion = none ∨ client.Reinstalls

/-- When a call of `applyConfig` that raises leaves the client untouched. What is committed
at once needs an `onCompletion` that does not raise; in INVENTORYING and PAUSED the first
request of the chain has to be withdrawn without a trace. -/
def AppliesCleanly (client : Client) (newConfig : ConfigRef) (outside : ApplyOutside) : Prop :=
  (validateObject newConfig).raises client = false →
    ((client.validating newConfig).CommitsAtOnce newConfig → outside.onCompletion = none) ∧
      ((client.validating newConfig).NeedsTransition newConfig →
        match LiveState.of? client.state with
        | none => True
        | some .connected => (client.validating newConfig).ChangesCleanly newConfig outside
        | some .inventorying =>
          client.WithdrawsFully .deleteAccessspecResponse (outside.request 0)
        | some .paused => client.WithdrawsFully .deleteRospecResponse (outside.request 0))

end Client

section Untouched

variable {before middle after : Client}

theorem Untouched.refl (client : Client) : Untouched client client :=
  ⟨rfl, rfl, rfl, rfl, rfl, rfl, rfl, rfl⟩

theorem Untouched.symm (hsame : Untouched before after) : Untouched after before :=
  ⟨hsame.config.symm, hsame.desiredConfig.symm, hsame.rospec.symm,
    hsame.generatedConfigSnapshot.symm, hsame.suppressSetConfigPostActions.symm,
    hsame.state.symm, hsame.pendingRequests.symm, hsame.deferreds.symm⟩

theorem Untouched.trans (hfirst : Untouched before middle) (hsecond : Untouched middle after) :
    Untouched before after :=
  ⟨hsecond.config.trans hfirst.config, hsecond.desiredConfig.trans hfirst.desiredConfig,
    hsecond.rospec.trans hfirst.rospec,
    hsecond.generatedConfigSnapshot.trans hfirst.generatedConfigSnapshot,
    hsecond.suppressSetConfigPostActions.trans hfirst.suppressSetConfigPostActions,
    hsecond.state.trans hfirst.state, hsecond.pendingRequests.trans hfirst.pendingRequests,
    hsecond.deferreds.trans hfirst.deferreds⟩

/-- Off what is compared, the client before may differ. -/
theorem Untouched.of_same (hsame : Untouched before middle) :
    Untouched before after ↔ Untouched middle after :=
  ⟨hsame.symm.trans, hsame.trans⟩

/-- A call that does not leave the client untouched must not raise. -/
theorem untouched_iff_of_touched {raises : Bool} (htouched : ¬ Untouched before after) :
    (raises = true → Untouched before after) ↔ raises = false := by
  refine ⟨fun huntouched => ?_, fun hreturns hraises => ?_⟩
  · exact Bool.eq_false_iff.mpr fun hraises => htouched (huntouched hraises)
  · exact absurd (hreturns.symm.trans hraises) Bool.false_ne_true

end Untouched

/-! ## Requests -/

/-- When a request that raises leaves the client untouched. -/
theorem untouched_sendRequest_iff (client : Client) (outside : Outside) (request : Request)
    (name : MessageName) (onCompletion : Callback) {state : ReaderState}
    (hstate : client.state ≠ state) :
    ((Raising.sendRequest outside request name onCompletion (some state)).raises client = true →
      Untouched client
        ((Raising.sendRequest outside request name onCompletion (some state)).final client)) ↔
      client.WithdrawsFully name outside := by
  unfold Client.WithdrawsFully Program.raises Program.final
  cases hwaiting : client.isWaiting name with
  | true =>
    rw [Raising.run_sendRequest_of_isWaiting hwaiting]
    exact iff_of_true (fun _ => Untouched.refl client) (.inl rfl)
  | false =>
    have hset : ∀ {later : Client}, later.state = state → ¬ Untouched client later :=
      fun heq huntouched => hstate (huntouched.state.symm.trans heq)
    rw [Raising.run_sendRequest hwaiting, or_iff_right Bool.false_ne_true, Option.bind_some]
    cases outside.entering with
    | some raised =>
      exact iff_of_false (fun huntouched => hset rfl (huntouched rfl)) fun hclean => by
        cases hclean.1
    | none =>
      rw [and_iff_right (rfl : (none : Option Raised) = none)]
      rcases outside.write with _ | raised | text
      · exact iff_of_true (fun hraises => by cases hraises) trivial
      · have hcore := core_afterFailedSend hwaiting onCompletion (some state)
        have hprofile := profile_afterFailedSend client name onCompletion (some state)
        dsimp only
        rw [imp_iff_right (rfl : true = true)]
        refine Iff.trans ?_ PendingRequestRegistry.forgetStale_eq_iff
        constructor
        · intro huntouched
          exact (congrArg Core.pendingRequests hcore).symm.trans huntouched.pendingRequests
        · exact fun hforgotten => ⟨congrArg Profile.config hprofile,
            congrArg Profile.desiredConfig hprofile, congrArg Profile.rospec hprofile,
            congrArg Profile.generatedConfigSnapshot hprofile,
            congrArg Profile.suppressSetConfigPostActions hprofile, congrArg Core.state hcore,
            (congrArg Core.pendingRequests hcore).trans hforgotten,
            congrArg Core.deferreds hcore⟩
      · exact iff_of_false (fun huntouched => hset rfl (huntouched rfl)) fun hclean => hclean

/-! ## The chain from CONNECTED -/

section Connected

variable {frame : ApplyFrame}

/-- The chain installs the new configuration or fails, and the client is the one before but
for what installing changes. -/
theorem install_cases {client : Client} (hstate : client.state ≠ .inventorying)
    (ref : ConfigRef) :
    ∃ outcome values,
      Raising.inside (installRuntimeConfig ref).attempt client =
        (.ok outcome, (client.pointTo ref).parsed values) ∧
      outcome.isOk = client.installs ref := by
  obtain ⟨values, hfinal⟩ := installRuntimeConfig_parsed hstate ref
  refine ⟨(installRuntimeConfig ref client).1, values, ?_, ?_⟩
  · rw [Raising.run_inside, run_attempt, ← hfinal]
    rfl
  · cases hinstalls : client.installs ref with
    | true =>
      rw [run_installRuntimeConfig_of_installs hstate hinstalls]
      rfl
    | false =>
      obtain ⟨raised, later, hrun, -⟩ := run_installRuntimeConfig_of_not_installs hstate hinstalls
      rw [hrun]
      rfl

/-- Only the callback and `onCompletion` raise into the end of a chain. -/
theorem notify_cases {program : CallM Unit} {client later : Client} {update : Client → Client}
    {callback onCompletion : Option Raised} {newState : ReaderState}
    (hrun : program client = (do
      Raising.setState callback newState
      Raising.inside (.modify update)
      Raising.callOutside onCompletion : CallM Unit) later) :
    (program.raises client = false ↔ callback = none ∧ onCompletion = none) ∧
      (program.final client = later.setState newState ∨
        program.final client = update (later.setState newState)) := by
  unfold Program.raises Program.final
  rw [hrun]
  have hraises : ¬ true = false := Bool.false_ne_true.symm
  cases callback with
  | some raised =>
    exact ⟨iff_of_false hraises fun hnone => Option.some_ne_none _ hnone.1, .inl rfl⟩
  | none =>
    cases onCompletion with
    | some raised =>
      exact ⟨iff_of_false hraises fun hnone => Option.some_ne_none _ hnone.2, .inr rfl⟩
    | none => exact ⟨iff_of_true rfl ⟨rfl, rfl⟩, .inr rfl⟩

/-- Only the callback and `onCompletion` raise into the way back. It ends in the old
configuration, or in DISCONNECTED if that does not fit the reader. -/
theorem restoreOld_connected (outside : ApplyOutside) (error : String) {client : Client}
    (hstate : client.state ≠ .inventorying) :
    ((Raising.restoreOld outside frame error).raises client = false ↔
      outside.stateChange 1 = none ∧ outside.onCompletion = none) ∧
    if client.installs frame.oldConfig then
      Untouched ((client.pointTo frame.oldConfig).setState .connected)
        ((Raising.restoreOld outside frame error).final client)
    else ((Raising.restoreOld outside frame error).final client).state = .disconnected := by
  obtain ⟨outcome, values, hinstall, hok⟩ := install_cases hstate frame.oldConfig
  have hrun : Raising.restoreOld outside frame error client = _ := run_bind_ok hinstall
  rw [← hok]
  cases outcome with
  | error raised =>
    obtain ⟨hraises, hfinal⟩ := @notify_cases _ client _ (fun client =>
      (client.conclude frame.transition .failed
        (some s!"{error}; rollback configuration failed: {raised.str}")).hookFailed frame.hook)
      (outside.stateChange 1) outside.onCompletion .disconnected hrun
    refine ⟨hraises, ?_⟩
    rw [if_neg (show ¬ (Except.error raised : Except Exn Unit).isOk = true from
      Bool.false_ne_true)]
    rcases hfinal with hfinal | hfinal
    · rw [hfinal]
      rfl
    · rw [hfinal]
      cases frame.hook <;> rfl
  | ok _ =>
    obtain ⟨hraises, hfinal⟩ := @notify_cases _ client _ (fun client =>
      (client.conclude frame.transition .failed (some error)).hookFailed frame.hook)
      (outside.stateChange 1) outside.onCompletion .connected hrun
    refine ⟨hraises, ?_⟩
    rw [if_pos (show (Except.ok () : Except Exn Unit).isOk = true from rfl)]
    rcases hfinal with hfinal | hfinal
    · rw [hfinal]
      exact ⟨rfl, rfl, rfl, rfl, rfl, rfl, rfl, rfl⟩
    · rw [hfinal]
      cases frame.hook <;> exact ⟨rfl, rfl, rfl, rfl, rfl, rfl, rfl, rfl⟩

/-- Going on to CONNECTED keeps the configuration that is installed. -/
theorem finishNewState_connected (outside : ApplyOutside) (client : Client) :
    ((Raising.finishNewState outside frame).raises client = false ↔
      outside.stateChange 1 = none ∧ outside.onCompletion = none) ∧
    ((Raising.finishNewState outside frame).final client).config = client.config := by
  obtain ⟨hraises, hfinal⟩ := @notify_cases (Raising.finishNewState outside frame) client client
    (fun client => (client.conclude frame.transition .success none).hookSucceeded frame.hook)
    (outside.stateChange 1) outside.onCompletion .connected rfl
  refine ⟨hraises, ?_⟩
  rcases hfinal with hfinal | hfinal
  · rw [hfinal]
    rfl
  · rw [hfinal]
    cases frame.hook <;> rfl

/-- A SET_READER_CONFIG goes out if nothing raises and none is pending, and keeps the
configuration. -/
theorem sendSetReaderConfig_connected (outside : Outside) (onCompletion : Callback)
    (client : Client) :
    ((Raising.sendSetReaderConfig outside onCompletion).raises client = false ↔
      outside.entering = none ∧ client.isWaiting .setReaderConfigResponse = false ∧
        outside.write = none) ∧
    ((Raising.sendSetReaderConfig outside onCompletion).final client).config =
      client.config := by
  let request : Request :=
    ⟨.setReaderConfig, .settings (readerSettings client.settings) client.config⟩
  have hprofile := Raising.profile_sendRequest outside request .setReaderConfigResponse
    onCompletion (some .sentSetConfig) client
  refine ⟨?_, congrArg Profile.config hprofile⟩
  have hraises : ¬ true = false := Bool.false_ne_true.symm
  unfold Raising.sendSetReaderConfig Program.raises
  rw [run_get_bind]
  cases hwaiting : client.isWaiting .setReaderConfigResponse with
  | true =>
    rw [Raising.run_sendRequest_of_isWaiting hwaiting]
    exact iff_of_false hraises fun hnone => hraises hnone.2.1
  | false =>
    rw [Raising.run_sendRequest hwaiting, Option.bind_some]
    cases outside.entering with
    | some raised => exact iff_of_false hraises fun hnone => Option.some_ne_none _ hnone.1
    | none =>
      rcases outside.write with _ | raised | text
      · exact iff_of_true rfl ⟨rfl, rfl, rfl⟩
      · exact iff_of_false hraises fun hnone => Option.some_ne_none _ hnone.2.2
      · exact iff_of_false hraises fun hnone => Option.some_ne_none _ hnone.2.2

/-- A configuration that does not fit the reader is replaced by the old one. -/
theorem untouched_restoreOld_iff {client ready : Client} (hsame : Untouched client ready)
    (hold : frame.oldConfig = client.config) (hnew : frame.newConfig ≠ client.config)
    (hready : ready.state = .connected)
    (hinstalls : ready.installs client.config = client.installs client.config)
    (outside : ApplyOutside) (values : Derived) (error : String) :
    let later := (ready.pointTo frame.newConfig).parsed values
    ((Raising.restoreOld outside frame error).raises later = true →
      Untouched client ((Raising.restoreOld outside frame error).final later)) ↔
      outside.stateChange 1 = none ∧ outside.onCompletion = none ∨ client.Reinstalls := by
  intro later
  have hlater : later.state ≠ .inventorying := fun heq =>
    ReaderState.noConfusion (hready.symm.trans heq)
  obtain ⟨hreturns, hfinal⟩ := @restoreOld_connected frame outside error later hlater
  have hrefits : later.installs frame.oldConfig = client.installs client.config := by
    have hconfigs : later.configs frame.oldConfig = ready.configs frame.oldConfig :=
      if_neg fun heq => hnew (heq.symm.trans hold)
    rw [← hinstalls, ← hold]
    unfold Client.installs
    rw [hconfigs]
    rfl
  rw [← hreturns]
  unfold Client.Reinstalls
  rw [hrefits] at hfinal
  cases hfits : client.installs client.config with
  | false =>
    rw [hfits, if_neg Bool.false_ne_true] at hfinal
    have htouched : ¬ Untouched client ((Raising.restoreOld outside frame error).final later) := by
      intro huntouched
      have hstate := hfinal.symm.trans (huntouched.state.trans hsame.state.symm)
      rw [hready] at hstate
      exact ReaderState.noConfusion hstate
    rw [untouched_iff_of_touched htouched]
    exact ⟨.inl, fun hor => hor.resolve_right fun hfresh => Bool.false_ne_true hfresh.1⟩
  | true =>
    rw [hfits, if_pos rfl] at hfinal
    let restored := (later.pointTo frame.oldConfig).setState .connected
    have hrestored : Untouched client restored ↔ client.desiredConfig = client.config ∧
        client.rospec = none ∧ client.generatedConfigSnapshot = none := by
      constructor
      · intro huntouched
        exact ⟨huntouched.desiredConfig.symm.trans hold, huntouched.rospec.symm,
          huntouched.generatedConfigSnapshot.symm⟩
      · rintro ⟨hdesired, hrospec, hgenerated⟩
        exact ⟨hold, hold.trans hdesired.symm, hrospec.symm, hgenerated.symm,
          hsame.suppressSetConfigPostActions, hready.symm.trans hsame.state,
          hsame.pendingRequests, hsame.deferreds⟩
    have hends : Untouched client ((Raising.restoreOld outside frame error).final later) ↔
        Untouched client restored :=
      ⟨fun huntouched => huntouched.trans hfinal.symm, fun huntouched => huntouched.trans hfinal⟩
    rw [and_iff_right (rfl : true = true), ← hrestored, hends]
    cases (Raising.restoreOld outside frame error).raises later with
    | false => exact iff_of_true (fun hraised => absurd hraised Bool.false_ne_true) (.inl rfl)
    | true => rw [imp_iff_right (rfl : true = true), or_iff_right Bool.false_ne_true.symm]

/-- When the chain from CONNECTED leaves the client untouched if it raises. -/
theorem untouched_afterStopped_iff {client : Client} (hstate : client.state = .connected)
    (hold : frame.oldConfig = client.config) (hnew : frame.newConfig ≠ client.config)
    (hplan : frame.plan = client.planFor frame.newConfig) (outside : ApplyOutside) :
    ((Raising.afterStopped outside frame).raises client = true →
      Untouched client ((Raising.afterStopped outside frame).final client)) ↔
      client.ChangesCleanly frame.newConfig outside := by
  let ready := client.setState .connected
  have hready : ready.state ≠ .inventorying := ReaderState.noConfusion
  have hsame : Untouched client ready := ⟨rfl, rfl, rfl, rfl, rfl, hstate.symm, rfl, rfl⟩
  unfold Client.ChangesCleanly
  cases hfirst : outside.stateChange 0 with
  | some raised =>
    have hset : Raising.setState (outside.stateChange 0) .connected client =
        (.error raised, ready) := by
      rw [hfirst]
      rfl
    have hrun : Raising.afterStopped outside frame client = (.error raised, ready) :=
      run_bind_error hset
    unfold Program.raises Program.final
    rw [hrun]
    exact iff_of_true (fun _ => hsame) fun hnone => absurd hnone (Option.some_ne_none _)
  | none =>
    obtain ⟨outcome, values, hinstall, hok⟩ := install_cases hready frame.newConfig
    let later := (ready.pointTo frame.newConfig).parsed values
    have hset : Raising.setState (outside.stateChange 0) .connected client = (.ok (), ready) := by
      rw [hfirst]
      rfl
    have hrun : Raising.afterStopped outside frame client = _ :=
      (run_bind_ok hset).trans (run_bind_ok hinstall)
    have hinstalls : ready.installs frame.newConfig = client.installs frame.newConfig := rfl
    rw [imp_iff_right (rfl : (none : Option Raised) = none), ← hinstalls, ← hok]
    cases outcome with
    | error raised =>
      rw [if_neg (show ¬ (Except.error raised : Except Exn Unit).isOk = true from
        Bool.false_ne_true), Program.raises, Program.final, hrun]
      exact untouched_restoreOld_iff hsame hold hnew rfl rfl outside values _
    | ok _ =>
      rw [if_pos (show (Except.ok () : Except Exn Unit).isOk = true from rfl), ← hplan]
      have htouched : ∀ {after : Client}, after.config = frame.newConfig →
          ¬ Untouched client after :=
        fun hconfig huntouched => hnew (hconfig.symm.trans huntouched.config)
      by_cases hwrite : frame.plan.requiresReaderConfigWrite = true
      · let sending := { later with suppressSetConfigPostActions := true }
        obtain ⟨hreturns, hconfig⟩ := sendSetReaderConfig_connected (outside.request 1)
          (.readerConfigApplied frame) sending
        have hsends : Raising.afterStopped outside frame client =
            Raising.sendSetReaderConfig (outside.request 1) (.readerConfigApplied frame)
              sending := by
          rw [hrun]
          change (if frame.plan.requiresReaderConfigWrite then _ else _ : CallM Unit) later = _
          rw [if_pos hwrite]
          rfl
        rw [if_pos hwrite, Program.raises, Program.final, hsends]
        exact (untouched_iff_of_touched (htouched hconfig)).trans hreturns
      · obtain ⟨hreturns, hconfig⟩ := finishNewState_connected outside later
        have hfinishes : Raising.afterStopped outside frame client =
            Raising.finishNewState outside frame later := by
          rw [hrun]
          change (if frame.plan.requiresReaderConfigWrite then _ else _ : CallM Unit) later = _
          rw [if_neg hwrite]
        rw [if_neg hwrite, Program.raises, Program.final, hfinishes]
        exact (untouched_iff_of_touched (htouched hconfig)).trans hreturns

end Connected

/-! ## The call -/

/-- When carrying out a plan in a live state leaves the client untouched if it raises. -/
theorem untouched_liveApply_iff {frame : ApplyFrame} {client : Client}
    (hstate : LiveState.of? client.state = some frame.originalState)
    (hold : frame.oldConfig = client.config) (hnew : frame.newConfig ≠ client.config)
    (hplan : frame.plan = client.planFor frame.newConfig) (outside : ApplyOutside) :
    ((Raising.liveApply outside frame).raises client = true →
      Untouched client ((Raising.liveApply outside frame).final client)) ↔
      match frame.originalState with
      | .connected => client.ChangesCleanly frame.newConfig outside
      | .inventorying => client.WithdrawsFully .deleteAccessspecResponse (outside.request 0)
      | .paused => client.WithdrawsFully .deleteRospecResponse (outside.request 0) := by
  unfold Raising.liveApply
  cases horiginal : frame.originalState with
  | inventorying =>
    rw [horiginal] at hstate
    let stopping := { client with disconnecting := client.disconnecting || false }
    have hsame : Untouched client stopping := ⟨rfl, rfl, rfl, rfl, rfl, rfl, rfl, rfl⟩
    have hleft : stopping.state ≠ .sentDeleteAccessspec := by
      intro heq
      rw [show client.state = _ from heq] at hstate
      cases hstate
    have hrequest := untouched_sendRequest_iff stopping (outside.request 0)
      ⟨.deleteAccessspec, .accessSpecId 0⟩ .deleteAccessspecResponse
      (.sendDeleteAccessspecCb (.afterStopped frame)) hleft
    rw [← hsame.of_same] at hrequest
    exact hrequest
  | paused =>
    rw [horiginal] at hstate
    let stopping := client.cancelPauseResumeTimer
    have hsame : Untouched client stopping := ⟨rfl, rfl, rfl, rfl, rfl, rfl, rfl, rfl⟩
    have hleft : stopping.state ≠ .sentDeleteRospec := by
      intro heq
      rw [show client.state = _ from heq] at hstate
      cases hstate
    have hrequest := untouched_sendRequest_iff stopping (outside.request 0)
      ⟨.deleteRospec, .rospecId 0⟩ .deleteRospecResponse
      (.stopAllRospecsCb (.afterStopped frame)) hleft
    rw [← hsame.of_same] at hrequest
    exact hrequest
  | connected =>
    rw [horiginal] at hstate
    have hconnected : client.state = .connected := by
      cases hlive : client.state <;> rw [hlive] at hstate <;> cases hstate
    exact untouched_afterStopped_iff hconnected hold hnew hplan outside

/-- A transition that succeeds at once raises what `onCompletion` does. -/
theorem run_succeed (id : TransitionId) (hook : Hook) (onCompletion : Option Raised)
    (client : Client) :
    let program : CallM TransitionId := do
      Raising.inside (Session.succeed id hook)
      Raising.callOutside onCompletion
      pure id
    (program.raises client = false ↔ onCompletion = none) ∧
      Untouched client (program.final client) := by
  intro program
  have hends : program.final client = (client.conclude id .success none).hookSucceeded hook := by
    cases onCompletion <;> rfl
  constructor
  · cases onCompletion with
    | none => exact iff_of_true rfl rfl
    | some raised => exact iff_of_false Bool.false_ne_true.symm (Option.some_ne_none raised)
  · rw [hends]
    cases hook <;> exact ⟨rfl, rfl, rfl, rfl, rfl, rfl, rfl, rfl⟩

/-- A call with a validated configuration leaves the client untouched, commits at once, or
carries out a transition. -/
theorem applyConfig_cases {client : Client} {newConfig : ConfigRef} (outside : ApplyOutside)
    (hook : Hook) (hvalid : Validated (client.configs newConfig)) :
    let call := Raising.applyConfig outside newConfig hook
    let start := client.addTransition (client.planFor newConfig) newConfig
    let transition := client.NeedsTransition newConfig ∧ (LiveState.of? client.state).isSome = true
    ¬ client.CommitsAtOnce newConfig ∧ ¬ transition ∧ Untouched client (call.final client) ∨
      client.CommitsAtOnce newConfig ∧ ¬ transition ∧
        (call.raises client = false ↔ outside.onCompletion = none) ∧
        (call.final client).config = newConfig ∨
      ¬ client.CommitsAtOnce newConfig ∧ client.NeedsTransition newConfig ∧
        ∃ originalState, LiveState.of? client.state = some originalState ∧
          call client =
            (Raising.liveApply outside
              { transition := client.transitions.length, plan := client.planFor newConfig
                oldConfig := client.config, newConfig, originalState
                newReaderConfigApplied := false, hook } >>=
              fun _ => pure client.transitions.length) start := by
  intro call start transition
  have hstart : Untouched client start := ⟨rfl, rfl, rfl, rfl, rfl, rfl, rfl, rfl⟩
  have hvalidate : Raising.inside (validateObject newConfig) client = (.ok (), client) := by
    rw [Raising.run_inside, run_validateObject_of_validated hvalid]
    rfl
  have hupdate : client.state = .disconnected →
      Raising.inside (updateConfig newConfig) (client.addTransition (buildConfigTransitionPlan
        client.settings (client.configs newConfig)) newConfig) =
        (.ok (), start.replaceConfig newConfig) := by
    intro hstate
    have hreplaced := @run_updateConfig_of_validated start newConfig hvalid hstate
    exact congrArg (fun run : Except Exn Unit × Client =>
      (run.1.mapError Raised.exception, run.2)) hreplaced
  have hrun : call client = _ := run_bind_ok hvalidate
  rw [run_get_bind, run_modify_bind] at hrun
  unfold Client.CommitsAtOnce Program.raises Program.final
  rw [hrun]
  by_cases hnoop : (client.planFor newConfig).isNoop = true
  · have hsome : ¬ (client.planFor newConfig).isNoop = false := fun hnone =>
      Bool.false_ne_true (hnone.symm.trans hnoop)
    refine .inl ⟨fun hcommits => hsome hcommits.1, fun hneeds => hsome hneeds.1.1, ?_⟩
    unfold Client.planFor at hnoop
    rw [if_pos hnoop]
    exact hstart.trans (run_succeed _ hook outside.onCompletion start).2
  have hchanges : (client.planFor newConfig).isNoop = false := by simpa using hnoop
  unfold Client.planFor at hnoop
  rw [if_neg hnoop]
  by_cases hreconnect : ((buildConfigTransitionPlan client.settings
      (client.configs newConfig)).requiresReconnect && client.state ≠ .disconnected) = true
  · rw [if_pos hreconnect]
    simp only [Bool.and_eq_true, decide_eq_true_eq] at hreconnect
    obtain ⟨hrequires, hconnected⟩ := hreconnect
    have hsome : ¬ (client.planFor newConfig).requiresReconnect = false := fun hnone =>
      Bool.false_ne_true (hnone.symm.trans hrequires)
    refine .inl ⟨fun hcommits => ?_, fun hneeds => hsome hneeds.1.2.1, hstart⟩
    exact hcommits.2.elim hconnected fun hclient => hsome hclient.1
  rw [if_neg hreconnect]
  by_cases hstate : client.state = .disconnected
  · rw [if_pos hstate, run_bind_ok (hupdate hstate)]
    obtain ⟨hreturns, hends⟩ := run_succeed client.transitions.length hook outside.onCompletion
      (start.replaceConfig newConfig)
    refine .inr (.inl ⟨⟨hchanges, .inl hstate⟩, fun hneeds => ?_, hreturns, hends.config⟩)
    have hlive := hneeds.2
    rw [hstate] at hlive
    cases hlive
  rw [if_neg hstate]
  have hstays : (client.planFor newConfig).requiresReconnect = false := by
    unfold Client.planFor
    simpa [hstate] using hreconnect
  by_cases hclient : (client.planFor newConfig).clientOnly = true
  · let committed := { start with config := newConfig, desiredConfig := newConfig }
    obtain ⟨hreturns, hends⟩ := run_succeed client.transitions.length hook outside.onCompletion
      committed
    have hsome : ¬ (client.planFor newConfig).clientOnly = false := fun hnone =>
      Bool.false_ne_true (hnone.symm.trans hclient)
    refine .inr (.inl ⟨⟨hchanges, .inr ⟨hstays, hclient⟩⟩, fun hneeds => hsome hneeds.1.2.2, ?_⟩)
    unfold Client.planFor at hclient
    rw [if_pos hclient]
    exact ⟨hreturns, hends.config⟩
  have hneeds : client.NeedsTransition newConfig := ⟨hchanges, hstays, by simpa using hclient⟩
  have hlater : ¬ ((client.planFor newConfig).isNoop = false ∧ (client.state = .disconnected ∨
      (client.planFor newConfig).requiresReconnect = false ∧
        (client.planFor newConfig).clientOnly = true)) :=
    fun hcommits => hcommits.2.elim hstate fun honly => hclient honly.2
  unfold Client.planFor at hclient
  rw [if_neg hclient]
  cases hlive : LiveState.of? client.state with
  | none =>
    refine .inl ⟨hlater, fun hneeds => ?_, hstart⟩
    have hsome := hneeds.2
    rw [hlive] at hsome
    cases hsome
  | some originalState => exact .inr (.inr ⟨hlater, hneeds, originalState, rfl, rfl⟩)

/-- When a call with a validated configuration leaves the client untouched. -/
theorem untouched_iff_of_validated {client : Client} {newConfig : ConfigRef}
    (outside : ApplyOutside) (hook : Hook) (hvalid : Validated (client.configs newConfig)) :
    ((Raising.applyConfig outside newConfig hook).raises client = true →
      Untouched client ((Raising.applyConfig outside newConfig hook).final client)) ↔
      (client.CommitsAtOnce newConfig → outside.onCompletion = none) ∧
        (client.NeedsTransition newConfig →
          match LiveState.of? client.state with
          | none => True
          | some .connected => client.ChangesCleanly newConfig outside
          | some .inventorying =>
            client.WithdrawsFully .deleteAccessspecResponse (outside.request 0)
          | some .paused => client.WithdrawsFully .deleteRospecResponse (outside.request 0)) := by
  have hnew : (client.planFor newConfig).isNoop = false → newConfig ≠ client.config := by
    intro hchanges hsame
    rw [Client.planFor, hsame] at hchanges
    exact Bool.false_ne_true (hchanges.symm.trans (buildConfigTransitionPlan_self client.settings))
  have hidle : ¬ (client.NeedsTransition newConfig ∧
      (LiveState.of? client.state).isSome = true) → client.NeedsTransition newConfig →
      LiveState.of? client.state = none := by
    intro hnone hneeds
    rw [← Option.not_isSome_iff_eq_none]
    exact fun hsome => hnone ⟨hneeds, hsome⟩
  rcases applyConfig_cases outside hook hvalid with
    ⟨hlater, hnone, huntouched⟩ | ⟨hcommits, hnone, hreturns, hconfig⟩ |
      ⟨hlater, hneeds, originalState, hlive, hrun⟩
  · refine iff_of_true (fun _ => huntouched) ⟨fun hcommits => absurd hcommits hlater, ?_⟩
    intro hneeds
    rw [hidle hnone hneeds]
    trivial
  · have htouched : ¬ Untouched client
        ((Raising.applyConfig outside newConfig hook).final client) :=
      fun huntouched => hnew hcommits.1 (hconfig.symm.trans huntouched.config)
    rw [untouched_iff_of_touched htouched, hreturns, imp_iff_right hcommits]
    refine (and_iff_left fun hneeds => ?_).symm
    rw [hidle hnone hneeds]
    trivial
  · let start := client.addTransition (client.planFor newConfig) newConfig
    let frame : ApplyFrame :=
      { transition := client.transitions.length, plan := client.planFor newConfig
        oldConfig := client.config, newConfig, originalState
        newReaderConfigApplied := false, hook }
    have hstart : Untouched client start := ⟨rfl, rfl, rfl, rfl, rfl, rfl, rfl, rfl⟩
    have hraises : (Raising.applyConfig outside newConfig hook).raises client =
        (Raising.liveApply outside frame).raises start := by
      rw [Program.raises, hrun]
      change (Raising.liveApply outside frame >>= fun _ =>
        pure client.transitions.length).raises start = _
      rw [Program.raises_bind]
      unfold Program.raises
      rcases Raising.liveApply outside frame start with ⟨_ | _, later⟩ <;> rfl
    have hfinal : (Raising.applyConfig outside newConfig hook).final client =
        (Raising.liveApply outside frame).final start := by
      rw [Program.final, hrun]
      exact Program.snd_bind_pure _ _ _
    have hlives := @untouched_liveApply_iff frame start hlive rfl (hnew hneeds.1) rfl outside
    rw [hraises, hfinal, hstart.of_same, hlives, hlive, imp_iff_right hneeds,
      and_iff_right fun hcommits => absurd hcommits hlater]
    cases originalState <;> exact Iff.rfl

/-- A call of `applyConfig` that raises leaves the client untouched in exactly these
clients, whatever the code outside raises. -/
theorem applyConfig_untouched_iff (client : Client) (newConfig : ConfigRef) (hook : Hook)
    (outside : ApplyOutside) :
    ((Raising.applyConfig outside newConfig hook).raises client = true →
      Untouched client ((Raising.applyConfig outside newConfig hook).final client)) ↔
      client.AppliesCleanly newConfig outside := by
  unfold Client.AppliesCleanly
  rcases hcontent : validateConfig (client.configs newConfig) with ⟨raised | _, content⟩
  · have hvalidate : validateObject newConfig client =
        (.error raised, client.setConfig newConfig content) := by
      unfold validateObject
      rw [hcontent]
    have hinside : Raising.inside (validateObject newConfig) client =
        (.error (.exception raised), client.setConfig newConfig content) := by
      rw [Raising.run_inside, hvalidate]
      rfl
    have hrun : Raising.applyConfig outside newConfig hook client =
        (.error (.exception raised), client.setConfig newConfig content) :=
      run_bind_error hinside
    refine iff_of_true (fun _ => ?_) fun hvalid => ?_
    · rw [Program.final, hrun]
      exact ⟨rfl, rfl, rfl, rfl, rfl, rfl, rfl, rfl⟩
    · rw [Program.raises, hvalidate] at hvalid
      cases hvalid
  · let validated := client.setConfig newConfig content
    have hvalidate : validateObject newConfig client = (.ok (), validated) := by
      unfold validateObject
      rw [hcontent]
    have hvalid : Validated (validated.configs newConfig) := by
      have hcurrent : validated.configs newConfig = content := if_pos rfl
      rw [hcurrent]
      exact validated_of_validateConfig hcontent
    have hsame : Untouched client validated := ⟨rfl, rfl, rfl, rfl, rfl, rfl, rfl, rfl⟩
    have hinside : Raising.inside (validateObject newConfig) client = (.ok (), validated) := by
      rw [Raising.run_inside, hvalidate]
      rfl
    have hagain : Raising.inside (validateObject newConfig) validated = (.ok (), validated) := by
      rw [Raising.run_inside, run_validateObject_of_validated hvalid]
      rfl
    have hrun : Raising.applyConfig outside newConfig hook client =
        Raising.applyConfig outside newConfig hook validated := by
      unfold Raising.applyConfig
      rw [run_bind_ok hinside, run_bind_ok hagain]
    have hvalidating : client.validating newConfig = validated := by
      rw [Client.validating, Program.final, hvalidate]
    have hraises : (validateObject newConfig).raises client = false := by
      rw [Program.raises, hvalidate]
    have hcall := untouched_iff_of_validated outside hook hvalid
    rw [hvalidating, hraises, Program.raises, Program.final, hrun, hsame.of_same,
      imp_iff_right (rfl : false = false)]
    exact hcall

/-- A configuration that does not start the inventory by itself, and the same with
another interval of the keepalives. -/
def idleConfigs (ref : ConfigRef) : LLRPReaderConfig :=
  { timedConfig with
    startInventory := false, keepaliveInterval := if ref = 1 then 1000 else 60000 }

/-- In CONNECTED, with a transport that refuses the next write, the call raises and the
new configuration is the current one. -/
theorem applyConfig_not_untouched :
    ¬ ∀ client, Reachable act Client.Started client →
      ∀ (outside : ApplyOutside) (newConfig : ConfigRef),
        (Raising.applyConfig outside newConfig .application).raises client = true →
          Untouched client
            ((Raising.applyConfig outside newConfig .application).final client) := by
  intro huntouched
  have hreach : Reachable act Client.Started
      (run act (Client.initial idleConfigs 0 false) (openInventory.take 7)) :=
    ⟨_, _, ⟨_, _, _, rfl⟩, rfl⟩
  have hcall := huntouched _ hreach
    { write := some (.exception (.osError "broken pipe")) } 1 (by decide +kernel)
  exact absurd hcall.config (by decide +kernel)

end Sllurp.Session
