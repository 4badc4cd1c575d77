/-
# Responses that match nothing

A response whose name and ID are not pending should have no effect. It has none
unless its branch runs callbacks that are left over, or goes on with the setup
of the session before or after it looked for a match.
-/

import Sllurp.Session.Completion

namespace Sllurp.Session

open Sllurp.Foundations Sllurp.Protocol Sllurp.Config Sllurp.Runtime
open Sllurp.Foundations.Program

/-- Nothing was sent, no callback was invoked, and neither the state, the
pending keys, the deferred lists, the configuration nor what was read from the
reader changed. -/
structure Unaffected (before after : Client) : Prop where
  history : after.history = before.history
  state : after.state = before.state
  pendingKeys : after.pendingRequests.pending.keys = before.pendingRequests.pending.keys
  deferreds : after.deferreds = before.deferreds
  config : after.config = before.config
  settings : after.settings = before.settings
  capabilities : after.capabilities = before.capabilities
  readerConfig : after.readerConfig = before.readerConfig

namespace Client

/-- What a success makes a branch of the setup do, matched or not: store what
the response carries, change the state, or send the next request. -/
def proceeds (client : Client) (message : LLRPMessage) : Prop :=
  match client.state with
  | .sentGetCapabilities =>
    client.capabilities ≠ some message.capabilities ∨
      settledPowers client.settings message.capabilities ≠ client.settings.txPower ∨
      passesCapabilities client.settings message.capabilities = true ∧
        client.disconnecting = false ∧ client.sends .getReaderConfigResponse = true
  | .sentGetConfig =>
    message.name = .getReaderConfigResponse ∧ client.readerConfig ≠ some message.readerConfig ∨
      client.disconnecting = false ∧ client.nextWrite = none
  | .sentSetConfig =>
    client.suppressSetConfigPostActions = true ∨
      client.disconnecting = false ∧
        if client.settings.resetOnConnect then client.sends .deleteAccessspecResponse = true
        else client.settings.startInventory = true ∧ client.buildsROSpec = true ∧
          client.sends .addRospecResponse = true
  | _ => False

/-- The filters take the message out, or its branch neither runs a callback that
is left over nor goes on with the setup. -/
def indifferentTo (client : Client) (message : LLRPMessage) : Prop :=
  ignored client message = true ∨
    (client.reaches message = true → client.core.leftover message = []) ∧
      (message.isSuccess = true →
        client.reaches message = true ∨ client.refusesCapabilities message = true →
        ¬ client.proceeds message)

end Client

namespace Unaffected

theorem refl (client : Client) : Unaffected client client :=
  ⟨rfl, rfl, rfl, rfl, rfl, rfl, rfl, rfl⟩

theorem trans {first second third : Client} (hfirst : Unaffected first second)
    (hsecond : Unaffected second third) : Unaffected first third :=
  ⟨hsecond.history.trans hfirst.history, hsecond.state.trans hfirst.state,
    hsecond.pendingKeys.trans hfirst.pendingKeys, hsecond.deferreds.trans hfirst.deferreds,
    hsecond.config.trans hfirst.config, hsecond.settings.trans hfirst.settings,
    hsecond.capabilities.trans hfirst.capabilities, hsecond.readerConfig.trans hfirst.readerConfig⟩

theorem of_profile {before after : Client} (hhistory : after.history = before.history)
    (hstate : after.state = before.state)
    (hkeys : after.pendingRequests.pending.keys = before.pendingRequests.pending.keys)
    (hdeferreds : after.deferreds = before.deferreds)
    (hprofile : after.profile = before.profile) : Unaffected before after := by
  have hconfig : after.config = before.config := congrArg Profile.config hprofile
  have hconfigs : after.configs = before.configs := congrArg Profile.configs hprofile
  refine ⟨hhistory, hstate, hkeys, hdeferreds, hconfig, ?_,
    congrArg Profile.capabilities hprofile, congrArg Profile.readerConfig hprofile⟩
  rw [Client.settings, Client.settings, hconfigs, hconfig]

theorem of_cacheROSpec (client : Client) (rospec : GeneratedROSpec) :
    Unaffected client (client.cacheROSpec rospec) :=
  ⟨rfl, rfl, rfl, rfl, rfl, rfl, rfl, rfl⟩

end Unaffected

/-- The history only grows. -/
def growing : Frame Client where
  Rel before after := before.core.history.length ≤ after.core.history.length
  refl _ := Nat.le_refl _
  trans := Nat.le_trans

theorem growing_respects : Respects growing where
  neutral htraffic := by
    change List.length _ ≤ List.length _
    rw [core_of_traffic htraffic]
  setState client newState _ := Nat.le_refl _
  sendRequest request name onCompletion newState _ _ _ client := by
    cases hwaiting : client.isWaiting name with
    | true =>
      rw [run_sendRequest_of_isWaiting hwaiting]
      exact Nat.le_refl _
    | false =>
      rw [run_sendRequest hwaiting]
      cases client.nextWrite with
      | none =>
        change _ ≤ (client.afterSend request name onCompletion newState).core.history.length
        rw [core_afterSend, List.length_append]
        exact Nat.le_add_right _ _
      | some raised =>
        change _ ≤ (client.afterFailedSend name onCompletion newState).core.history.length
        rw [core_afterFailedSend hwaiting]
  countMessage _ _ := Nat.le_refl _
  write messageId request client := by
    rw [run_write]
    cases client.nextWrite with
    | none =>
      change _ ≤ (client.history ++ [_]).length
      rw [List.length_append]
      exact Nat.le_add_right _ _
    | some raised => exact Nat.le_refl _
  resetProtocolSession client := Nat.le_refl _

/-! ## Requests -/

/-- A request that does not go out has no effect. -/
theorem unaffected_sendRequest_of_not_sends {client : Client} {name : MessageName}
    (hsends : client.sends name = false) (request : Request) (onCompletion : Callback)
    (newState : Option ReaderState) :
    Unaffected client ((sendRequest request name onCompletion newState).final client) := by
  have hprofile := profile_sendRequest request name onCompletion newState client
  unfold Program.final at hprofile ⊢
  cases hwaiting : client.isWaiting name with
  | true =>
    rw [run_sendRequest_of_isWaiting hwaiting]
    exact Unaffected.refl client
  | false =>
    rw [run_sendRequest hwaiting] at hprofile ⊢
    cases hwrite : client.nextWrite with
    | none => simp [Client.sends, hwaiting, hwrite] at hsends
    | some raised =>
      rw [hwrite] at hprofile
      have hcore := core_afterFailedSend hwaiting onCompletion newState
      exact Unaffected.of_profile (congrArg Core.history hcore) (congrArg Core.state hcore)
        (congrArg (fun core : Core => core.pendingRequests.pending.keys) hcore)
        (congrArg Core.deferreds hcore) hprofile

/-- A request that goes out is recorded. -/
theorem history_sendRequest_of_sends {client : Client} {name : MessageName}
    (hsends : client.sends name = true) (request : Request) (onCompletion : Callback)
    (newState : Option ReaderState) :
    client.history.length <
      ((sendRequest request name onCompletion newState).final client).history.length := by
  simp only [Client.sends, Bool.and_eq_true, Bool.not_eq_true', Option.isNone_iff_eq_none] at hsends
  obtain ⟨hwaiting, hwrite⟩ := hsends
  unfold Program.final
  rw [run_sendRequest hwaiting, hwrite]
  change _ < (client.afterSend request name onCompletion newState).core.history.length
  rw [core_afterSend, List.length_append]
  exact Nat.lt_succ_self _

/-- What the profile does not show of a later client was not changed. -/
theorem Unaffected.of_later {client later final : Client} (hcore : later.core = client.core)
    (hprofile : final.profile = later.profile) (hfinal : Unaffected client final) :
    Unaffected client later := by
  have hconfig : final.config = later.config := congrArg Profile.config hprofile
  have hconfigs : final.configs = later.configs := congrArg Profile.configs hprofile
  have hcapabilities : final.capabilities = later.capabilities :=
    congrArg Profile.capabilities hprofile
  have hreaderConfig : final.readerConfig = later.readerConfig :=
    congrArg Profile.readerConfig hprofile
  refine ⟨congrArg Core.history hcore, congrArg Core.state hcore,
    congrArg (fun core : Core => core.pendingRequests.pending.keys) hcore,
    congrArg Core.deferreds hcore, hconfig.symm.trans hfinal.config, ?_,
    hcapabilities.symm.trans hfinal.capabilities, hreaderConfig.symm.trans hfinal.readerConfig⟩
  rw [← hfinal.settings, Client.settings, Client.settings, hconfigs, hconfig]

/-- After steps off the core, a request leaves no effect exactly when they had
none and it does not go out. -/
theorem unaffected_sendRequest_iff {client later : Client} (hcore : later.core = client.core)
    (request : Request) (name : MessageName) (onCompletion : Callback)
    (newState : Option ReaderState) :
    Unaffected client ((sendRequest request name onCompletion newState).final later) ↔
      Unaffected client later ∧ later.sends name = false := by
  constructor
  · intro hfinal
    refine ⟨.of_later hcore (profile_sendRequest request name onCompletion newState later) hfinal,
      ?_⟩
    by_contra hsends
    have hgrown := history_sendRequest_of_sends (Bool.not_eq_false _ ▸ hsends) request onCompletion
      newState
    have hhistory : later.history = client.history := congrArg Core.history hcore
    rw [hfinal.history, hhistory] at hgrown
    exact Nat.lt_irrefl _ hgrown
  · exact fun ⟨hlater, hsends⟩ => hlater.trans
      (unaffected_sendRequest_of_not_sends hsends request onCompletion newState)

/-- The end of the branch that waits for the reader configuration. -/
theorem unaffected_afterConfig_iff {client later : Client} (hcore : later.core = client.core) :
    Unaffected client (Program.final (do
      sendEnableEventsAndReports
      sendSetReaderConfig .setReaderConfigCb) later) ↔
      Unaffected client later ∧ ¬ later.nextWrite = none := by
  let numbered := { later with lastMsgId := nextMessageId later.lastMsgId }
  have hrun : sendEnableEventsAndReports later =
      write none (nextMessageId later.lastMsgId) ⟨.enableEventsAndReports, .bare⟩ numbered :=
    run_sendMessage _ _
  have hnext : numbered.nextWrite = later.nextWrite := rfl
  rw [run_write, hnext] at hrun
  unfold Program.final
  cases hwrite : later.nextWrite with
  | none =>
    rw [hwrite] at hrun
    rw [Program.run_bind_ok hrun]
    refine iff_of_false ?_ (fun hboth => hboth.2 rfl)
    intro hfinal
    let recorded := numbered.consumeWrite.record
      (.sent none (nextMessageId later.lastMsgId) ⟨.enableEventsAndReports, .bare⟩)
    have hanswers : Callback.setReaderConfigCb.answers .setReaderConfigResponse = true := rfl
    have hgrown := growing_respects.winding.sendSetReaderConfig hanswers recorded
    have hhistory : recorded.core.history.length = client.history.length + 1 := by
      have hsame : later.history = client.history := congrArg Core.history hcore
      rw [← hsame]
      exact List.length_append
    have hsame : (sendSetReaderConfig .setReaderConfigCb recorded).2.core.history.length =
        client.history.length := congrArg List.length hfinal.history
    have hle : recorded.core.history.length ≤
        (sendSetReaderConfig .setReaderConfigCb recorded).2.core.history.length := hgrown
    omega
  | some raised =>
    rw [hwrite] at hrun
    rw [Program.run_bind_error hrun]
    have hprofile : numbered.consumeWrite.profile = later.profile := rfl
    refine ⟨fun hfinal => ⟨.of_later hcore hprofile hfinal, by simp⟩, fun hboth => ?_⟩
    exact hboth.1.trans (Unaffected.of_profile rfl rfl rfl rfl rfl)

/-- What follows the setup. -/
theorem unaffected_finishSetup_iff {client : Client} (hstate : client.state ≠ .inventorying) :
    Unaffected client (finishSetup.final client) ↔
      ¬ (client.disconnecting = false ∧
        if client.settings.resetOnConnect then client.sends .deleteAccessspecResponse = true
        else client.settings.startInventory = true ∧ client.buildsROSpec = true ∧
          client.sends .addRospecResponse = true) := by
  unfold finishSetup
  rw [Program.final, Program.run_get_bind]
  cases hdisconnecting : client.disconnecting with
  | true => exact iff_of_true (Unaffected.refl client) (by simp)
  | false =>
    rw [if_neg Bool.false_ne_true]
    cases hreset : client.settings.resetOnConnect with
    | true =>
      have hsame : { client with disconnecting := client.disconnecting || false } = client := by
        rw [Bool.or_false]
      rw [if_pos rfl]
      unfold stopPolitely
      rw [Program.run_modify_bind, hsame]
      exact (unaffected_sendRequest_iff rfl _ _ _ _).trans (by simp [Unaffected.refl])
    | false =>
      rw [if_neg Bool.false_ne_true]
      cases hstart : client.settings.startInventory with
      | false => exact iff_of_true (Unaffected.refl client) (by simp)
      | true =>
        rw [if_pos rfl]
        unfold startInventory
        rw [Program.run_get_bind, if_neg hstate, Program.run_bind]
        obtain ⟨outcome, later, hrun, hbuilds, hlater⟩ := run_getROSpec_false client
        have hquiet : Unaffected client later := by
          rcases hlater with rfl | ⟨rospec, rfl⟩
          · exact Unaffected.refl _
          · exact Unaffected.of_cacheROSpec client rospec
        have hsends : { later with inventoryRospecAdded := false }.sends .addRospecResponse =
            client.sends .addRospecResponse := by
          rcases hlater with rfl | ⟨rospec, rfl⟩ <;> rfl
        rw [hrun, ← hbuilds]
        cases outcome with
        | error raised => exact iff_of_true hquiet (by simp [Except.isOk, Except.toBool])
        | ok rospec =>
          have hready : Unaffected client { later with inventoryRospecAdded := false } :=
            ⟨hquiet.1, hquiet.2, hquiet.3, hquiet.4, hquiet.5, hquiet.6, hquiet.7, hquiet.8⟩
          have hcore : { later with inventoryRospecAdded := false }.core = client.core := by
            rcases hlater with rfl | ⟨rospec, rfl⟩ <;> rfl
          dsimp only
          rw [Program.run_modify_bind]
          refine (unaffected_sendRequest_iff hcore _ _ _ _).trans ?_
          rw [hsends]
          simp [Except.isOk, Except.toBool, hready]

/-- Storing capabilities and checking the configuration against them has no
effect if the same ones are stored already and the powers are settled. -/
theorem unaffected_parse_iff {client : Client} (hstate : client.state = .sentGetCapabilities)
    (capabilities : Capabilities) :
    Unaffected client
        ((parseCapabilities capabilities).final (client.withCapabilities capabilities)) ↔
      client.capabilities = some capabilities ∧
        settledPowers client.settings capabilities = client.settings.txPower := by
  have hquiet : (client.withCapabilities capabilities).state ≠ .inventorying := by
    change client.state ≠ _
    rw [hstate]
    decide
  have hsettings := settings_parseCapabilities hquiet capabilities
  obtain ⟨values, hparsed⟩ := parseCapabilities_parsing capabilities _ hquiet
  rw [Program.final, hparsed] at hsettings ⊢
  constructor
  · intro hsame
    refine ⟨hsame.capabilities.symm, ?_⟩
    exact congrArg LLRPReaderConfig.txPower (hsettings.symm.trans hsame.settings)
  · rintro ⟨hcapabilities, hsettled⟩
    refine ⟨rfl, rfl, rfl, rfl, rfl, ?_, hcapabilities.symm, rfl⟩
    refine hsettings.trans ?_
    change { client.settings with txPower := settledPowers client.settings capabilities } = _
    rw [hsettled]

/-! ## Handling -/

/-- Callbacks that are left over make the history grow. -/
theorem growing_of_leftover {client : Client} {message : LLRPMessage}
    (hpending : client.core.pendingAt message.name message.id = none)
    (hleftover : client.core.leftover message ≠ []) (isSuccess : Bool) :
    client.core.history.length <
      ((complete message isSuccess).final client).core.history.length := by
  rw [Program.final, run_complete_of_not_pending hpending]
  obtain ⟨deferred, waiting, hwaiting⟩ := List.exists_cons_of_ne_nil hleftover
  let cleared := if client.pendingRequests.isStale message.name message.id then client
    else client.setDeferreds message.name []
  have hcleared : cleared.core.history = client.core.history := by
    unfold cleared
    split <;> rfl
  have hcallback : ∀ callback, Within growing (runCallback callback isSuccess) := fun callback =>
    growing_respects.winding.runCallback callback isSuccess (fun _ => trivial)
      fun _ _ _ _ => Nat.le_refl _
  have hinvokeAll : ∀ waiting, Within growing (invokeAll waiting isSuccess) := by
    intro waiting
    induction waiting with
    | nil => exact .pure ()
    | cons deferred waiting ih =>
      refine .bind (.bind (.modify fun later => ?_) fun _ => ?_) fun _ => ih
      · change _ ≤ (later.history ++ [_]).length
        rw [List.length_append]
        exact Nat.le_add_right _ _
      · exact hcallback deferred.callback
  have hrest : Within growing (do
      runCallback deferred.callback isSuccess
      invokeAll waiting isSuccess : ClientM Unit) :=
    .bind (hcallback deferred.callback) fun _ => hinvokeAll waiting
  have hgrown := hrest (cleared.record (.invoked deferred.serial isSuccess))
  have hrecorded : (cleared.record (.invoked deferred.serial isSuccess)).core.history.length =
      client.core.history.length + 1 := by
    rw [← hcleared]
    exact List.length_append
  rw [hwaiting]
  change _ ≤ _ at hgrown
  rw [hrecorded] at hgrown
  exact hgrown

/-- Of a message that completes nothing. -/
theorem unaffected_iff_of_not_completes {client : Client} {message : LLRPMessage}
    (hname : message.name ≠ .keepalive) (hcompletes : client.completes message = false) :
    Unaffected client ((handleMessage message).final client) ↔ client.indifferentTo message := by
  rw [final_handleMessage_of_not_completes hname hcompletes]
  unfold Client.indifferentTo
  cases hignored : ignored client message with
  | true => exact iff_of_true (Unaffected.refl client) (Or.inl rfl)
  | false =>
    have hreaches : client.reaches message = false := by
      simpa [Client.completes, hname, hignored] using hcompletes
    simp only [hreaches, Bool.not_false, Bool.true_and, Bool.false_eq_true, false_implies,
      true_and, false_or]
    cases hrefuses : client.refusesCapabilities message with
    | false => exact iff_of_true (Unaffected.refl client) (by simp)
    | true =>
      simp only [Client.refusesCapabilities, Bool.and_eq_true, decide_eq_true_eq,
        Bool.not_eq_true'] at hrefuses
      obtain ⟨⟨⟨hstate, -⟩, hsuccess⟩, hfails⟩ := hrefuses
      rw [if_pos rfl, unaffected_parse_iff hstate]
      unfold Client.proceeds
      simp only [hstate, hsuccess, hfails, forall_const]
      tauto

/-- With nothing left over, handling is what the branch does around the
completion. -/
theorem final_handleMessage_of_no_leftover {client : Client} {message : LLRPMessage}
    (hcompletes : client.completes message = true)
    (hpending : client.core.pendingAt message.name message.id = none)
    (hleftover : client.core.leftover message = []) :
    (handleMessage message).final client =
      (afterwards client message).final (client.prepared message) := by
  have hnone : (client.prepared message).core.pendingAt message.name message.id = none := by
    rw [core_prepared]
    exact hpending
  have hempty : (client.prepared message).core.leftover message = [] := by
    rw [core_prepared]
    exact hleftover
  unfold Program.final
  rw [run_handleMessage_of_completes hcompletes,
    Program.run_bind_ok (run_complete_of_no_leftover hnone hempty _)]

/-- A failure makes no branch go on. -/
theorem unaffected_of_failure {client : Client} {message : LLRPMessage}
    (hname : message.name.isResponse = true) (hreaches : client.reaches message = true)
    (hfailure : message.isSuccess = false) :
    Unaffected client ((afterwards client message).final (client.prepared message)) := by
  have hevent : message.name ≠ .readerEventNotification := by
    rintro heq
    simp [heq, MessageName.isResponse] at hname
  have hallowed : Unaffected client client.allowPostActions :=
    ⟨rfl, rfl, rfl, rfl, rfl, rfl, rfl, rfl⟩
  unfold Client.reaches at hreaches
  unfold afterwards Client.prepared
  cases hstate : client.state <;>
    simp only [hstate, hfailure, Bool.false_eq_true, if_false] at hreaches ⊢
  case disconnected => simp at hreaches
  case connecting => simp at hreaches
  case connected => simp at hreaches
  case sentSetConfig =>
    split
    · exact hallowed
    · exact hallowed
  case sentAddRospec =>
    rw [Program.final, Program.run_get_bind]
    split
    · exact Unaffected.refl client
    · exact Unaffected.refl client
  case sentGetConfig =>
    rw [if_neg (by simp)]
    exact Unaffected.refl client
  all_goals exact Unaffected.refl client

/-- The branch that waits for the capabilities goes on after a success that
passes. -/
theorem unaffected_capabilities_iff {client : Client} {message : LLRPMessage}
    (hstate : client.state = .sentGetCapabilities) (hsuccess : message.isSuccess = true)
    (hpasses : passesCapabilities client.settings message.capabilities = true) :
    Unaffected client ((afterwards client message).final (client.prepared message)) ↔
      ¬ client.proceeds message := by
  have hquiet : (client.withCapabilities message.capabilities).state ≠ .inventorying := by
    change client.state ≠ _
    rw [hstate]
    decide
  have hparse := unaffected_parse_iff hstate message.capabilities
  obtain ⟨values, hparsed⟩ := parseCapabilities_parsing message.capabilities _ hquiet
  have hprepared : client.prepared message =
      (client.withCapabilities message.capabilities).parsed values := by
    unfold Client.prepared
    simp only [hstate, hsuccess, if_true]
    exact hparsed
  rw [Program.final, hparsed, ← hprepared] at hparse
  have hcore : (client.prepared message).core = client.core := by
    rw [hprepared]
    rfl
  have hsends : (client.prepared message).sends .getReaderConfigResponse =
      client.sends .getReaderConfigResponse := by
    rw [hprepared]
    rfl
  have hdisconnecting : (client.prepared message).disconnecting = client.disconnecting := by
    rw [hprepared]
    rfl
  unfold afterwards Client.proceeds
  simp only [hstate, hsuccess, if_true, hpasses, true_and]
  rw [Program.final, Program.run_get_bind, hdisconnecting]
  cases client.disconnecting with
  | true =>
    refine hparse.trans ?_
    simp only [Bool.true_eq_false, false_and, or_false]
    tauto
  | false =>
    rw [if_neg Bool.false_ne_true]
    unfold sendGetReaderConfig
    rw [Program.run_get_bind]
    refine (unaffected_sendRequest_iff hcore _ _ _ _).trans ?_
    rw [hparse, hsends]
    simp only [true_and, ← Bool.not_eq_true]
    tauto

/-- The branch that waits for the reader configuration goes on after a
success. -/
theorem unaffected_config_iff {client : Client} {message : LLRPMessage}
    (hstate : client.state = .sentGetConfig) (hsuccess : message.isSuccess = true) :
    Unaffected client ((afterwards client message).final (client.prepared message)) ↔
      ¬ client.proceeds message := by
  have hprepared : client.prepared message =
      if message.name = .getReaderConfigResponse then client.withReaderConfig message.readerConfig
      else client := by
    unfold Client.prepared
    simp only [hstate, hsuccess, true_and]
  have hstored : Unaffected client (client.prepared message) ↔
      (message.name = .getReaderConfigResponse →
        client.readerConfig = some message.readerConfig) := by
    rw [hprepared]
    by_cases hname : message.name = .getReaderConfigResponse
    · rw [if_pos hname]
      constructor
      · exact fun hsame _ => hsame.readerConfig.symm
      · exact fun hsame => ⟨rfl, rfl, rfl, rfl, rfl, rfl, rfl, (hsame hname).symm⟩
    · rw [if_neg hname]
      exact iff_of_true (Unaffected.refl client) fun heq => absurd heq hname
  have hcore : (client.prepared message).core = client.core := by
    rw [hprepared]
    split <;> rfl
  have hwrite : (client.prepared message).nextWrite = client.nextWrite := by
    rw [hprepared]
    split <;> rfl
  have hdisconnecting : (client.prepared message).disconnecting = client.disconnecting := by
    rw [hprepared]
    split <;> rfl
  unfold afterwards Client.proceeds
  simp only [hstate, hsuccess, if_true]
  rw [Program.final, Program.run_get_bind, hdisconnecting]
  cases client.disconnecting with
  | true =>
    refine hstored.trans ?_
    simp only [Bool.true_eq_false, false_and, or_false]
    tauto
  | false =>
    rw [if_neg Bool.false_ne_true]
    refine (unaffected_afterConfig_iff hcore).trans ?_
    rw [hstored, hwrite]
    simp only [true_and]
    tauto

/-- The branch that waits for SET_READER_CONFIG goes on after a success. -/
theorem unaffected_setConfig_iff {client : Client} {message : LLRPMessage}
    (hstate : client.state = .sentSetConfig) (hsuccess : message.isSuccess = true) :
    Unaffected client ((afterwards client message).final (client.prepared message)) ↔
      ¬ client.proceeds message := by
  unfold afterwards Client.prepared Client.proceeds
  simp only [hstate, hsuccess, if_true]
  cases hsuppress : client.suppressSetConfigPostActions with
  | true =>
    rw [if_pos rfl, if_pos rfl]
    refine iff_of_false (fun hsame => ?_) (by simp)
    have hconnected : ReaderState.connected = client.state := hsame.state
    rw [hstate] at hconnected
    cases hconnected
  | false =>
    have hquiet : client.state ≠ .inventorying := by
      rw [hstate]
      decide
    simp only [Bool.false_eq_true, if_false, false_or]
    exact unaffected_finishSetup_iff hquiet

/-- A success goes on only in those branches. -/
theorem unaffected_of_success {client : Client} {message : LLRPMessage}
    (hname : message.name.isResponse = true) (hreaches : client.reaches message = true)
    (hsuccess : message.isSuccess = true) :
    Unaffected client ((afterwards client message).final (client.prepared message)) ↔
      ¬ client.proceeds message := by
  have hevent : message.name ≠ .readerEventNotification := by
    rintro heq
    simp [heq, MessageName.isResponse] at hname
  cases hstate : client.state
  case sentGetCapabilities =>
    refine unaffected_capabilities_iff hstate hsuccess ?_
    unfold Client.reaches at hreaches
    simp only [hstate, hsuccess, if_true, Bool.and_eq_true] at hreaches
    exact hreaches.2
  case sentGetConfig => exact unaffected_config_iff hstate hsuccess
  case sentSetConfig => exact unaffected_setConfig_iff hstate hsuccess
  case disconnected => simp [Client.reaches, hstate, hevent] at hreaches
  case connecting => simp [Client.reaches, hstate, hevent] at hreaches
  case connected => simp [Client.reaches, hstate, hevent] at hreaches
  all_goals
    have hproceeds : ¬ client.proceeds message := by simp [Client.proceeds, hstate]
    refine iff_of_true ?_ hproceeds
    unfold afterwards Client.prepared
    simp only [hstate, hsuccess, if_true]
    exact Unaffected.refl client

/-- A response that answers no pending request has no effect exactly when the
filters take it out, or when its branch neither runs callbacks that are left
over nor goes on with the setup. -/
theorem unmatched_response_unaffected_iff {client : Client} (message : LLRPMessage)
    (hname : message.name.isResponse = true)
    (hpending : client.core.pendingAt message.name message.id = none) :
    Unaffected client ((handleMessage message).final client) ↔ client.indifferentTo message := by
  have hkeepalive : message.name ≠ .keepalive := by
    rintro heq
    simp [heq, MessageName.isResponse] at hname
  cases hcompletes : client.completes message with
  | false => exact unaffected_iff_of_not_completes hkeepalive hcompletes
  | true =>
    have hboth := hcompletes
    simp only [Client.completes, Bool.and_eq_true, Bool.not_eq_true'] at hboth
    obtain ⟨⟨-, hignored⟩, hreaches⟩ := hboth
    have hrhs : client.indifferentTo message ↔
        client.core.leftover message = [] ∧
          (message.isSuccess = true → ¬ client.proceeds message) := by
      simp [Client.indifferentTo, hignored, hreaches]
    rw [hrhs]
    by_cases hleftover : client.core.leftover message = []
    · rw [final_handleMessage_of_no_leftover hcompletes hpending hleftover]
      cases hsuccess : message.isSuccess with
      | true => simp [unaffected_of_success hname hreaches hsuccess, hleftover]
      | false => simp [unaffected_of_failure hname hreaches hsuccess, hleftover]
    · refine iff_of_false (fun hsame => ?_) fun hquiet => hleftover hquiet.1
      have hprepared := core_prepared client message
      have hnone : (client.prepared message).core.pendingAt message.name message.id = none := by
        rw [hprepared]
        exact hpending
      have hgrown := growing_of_leftover hnone (by rw [hprepared]; exact hleftover)
        message.isSuccess
      have hrest : growing.Rel
          ((complete message message.isSuccess).final (client.prepared message))
          ((handleMessage message).final client) := by
        unfold Program.final
        rw [run_handleMessage_of_completes hcompletes, Program.run_bind]
        rcases complete message message.isSuccess (client.prepared message) with ⟨_ | _, later⟩
        · exact Nat.le_refl _
        · exact growing_respects.winding.afterwards client message (fun _ => trivial) later
      have hhistory : ((handleMessage message).final client).core.history.length =
          client.core.history.length := congrArg List.length hsame.history
      have hbefore : (client.prepared message).core.history.length =
          client.core.history.length := by rw [hprepared]
      have hle : ((complete message message.isSuccess).final
        (client.prepared message)).core.history.length ≤
          ((handleMessage message).final client).core.history.length := hrest
      omega

/-- A duplicate of the last response of the setup is taken out. -/
theorem unmatched_response_unaffected_openInventory :
    Unaffected (run act (Client.initial (fun _ => timedConfig) 0 true) openInventory)
      ((handleMessage (.response .enableRospecResponse 8 .success)).final
        (run act (Client.initial (fun _ => timedConfig) 0 true) openInventory)) :=
  (unmatched_response_unaffected_iff (.response .enableRospecResponse 8 .success) rfl
    (Option.isNone_iff_eq_none.mp (by decide +kernel))).mpr (Or.inl (by decide +kernel))

/-- A client whose GET_READER_CAPABILITIES timed out. -/
def capabilitiesTimedOut : Client :=
  run act (Client.initial (fun _ => timedConfig) 0 true)
    (openSession.take 2 ++ [⟨.timeout (.getReaderCapabilitiesResponse, 1), []⟩])

/-- A response that was never asked for makes it go on with the setup. -/
theorem unmatched_response_proceeds :
    (capabilitiesTimedOut.core.pendingAt .getReaderCapabilitiesResponse 9).isNone = true ∧
      ¬ Unaffected capabilitiesTimedOut
        ((handleMessage
          { LLRPMessage.response .getReaderCapabilitiesResponse 9 .success with
            decodedCapabilities := oneAntenna }).final capabilitiesTimedOut) := by
  refine ⟨by decide +kernel, fun hsame => ?_⟩
  have hlength := congrArg List.length hsame.history
  revert hlength
  decide +kernel

end Sllurp.Session
