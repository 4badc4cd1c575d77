/-
# What handling a message sends

The branch of the runtime state sends requests after the callback that the message
completes, if that callback goes on. `sentHandling` adds up what both send, from the client
before the message; a run in which all writes go out sends exactly as many.
-/

import Sllurp.Session.Reactions

namespace Sllurp.Session

open Sllurp.Foundations Sllurp.Protocol Sllurp.Config Sllurp.Runtime
open Sllurp.Foundations.Program

namespace Client

/-- Which responses are waited for when one of them is completed. -/
def waitsBeside (client : Client) (name other : MessageName) : Bool :=
  other ≠ name && client.isWaiting other

/-- What the callback that the message completes does. -/
def reacting (client : Client) (message : LLRPMessage) : Reaction :=
  match client.heard message.name with
  | none => .returns
  | some callback =>
    callback.reaction client (client.waitsBeside message.name) message.isSuccess

/-- What follows the setup. -/
def finishingSetup (client : Client) (waiting : MessageName → Bool) (disconnecting : Bool) :
    Reaction :=
  if disconnecting then .returns
  else if client.settings.resetOnConnect then .request waiting .deleteAccessspecResponse
  else if client.settings.startInventory then client.starting waiting false
  else .returns

/-- How many requests the branch of the runtime state sends after the callback. -/
def sentAfterwards (client : Client) (message : LLRPMessage) (waiting : MessageName → Bool)
    (disconnecting : Bool) : ℕ :=
  match client.state with
  | .disconnected | .connecting | .connected =>
    (Reaction.request waiting
      (if usesImpinjExtensions client.settings then .impinjEnableExtensionsResponse
        else .getReaderCapabilitiesResponse)).count
  | .sentGetCapabilities =>
    if message.isSuccess && !disconnecting then
      (Reaction.request waiting .getReaderConfigResponse).count
    else 0
  | .sentGetConfig =>
    -- ENABLE_EVENTS_AND_REPORTS has no response.
    if message.isSuccess && !disconnecting then
      1 + (Reaction.request waiting .setReaderConfigResponse).count
    else 0
  | .sentSetConfig =>
    if client.suppressSetConfigPostActions || !message.isSuccess then 0
    else (client.finishingSetup waiting disconnecting).count
  | _ => 0

/-- How many requests are sent by the callback that the message completes, and after it. -/
def sentCompleting (client : Client) (message : LLRPMessage) : ℕ :=
  let reaction := client.reacting message
  if reaction.goesOn then
    reaction.count + client.sentAfterwards message
      (reaction.waiting (client.waitsBeside message.name))
      (reaction.disconnecting client.disconnecting)
  else 0

/-- How many requests handling the message sends if they all go out. -/
def sentHandling (client : Client) (message : LLRPMessage) : ℕ :=
  if message.name = .keepalive then if message.id ≤ llrpMsgIdMax then 1 else 0
  else if client.completes message then client.sentCompleting message
  else 0

end Client

/-! ## What follows the callback -/

/-- What a callback leaves of the client for the end of the setup: if it has not sent
ADD_ROSPEC itself, a start finds what it would have found before. -/
structure SetupKept (client later : Client) : Prop where
  settings : later.settings = client.settings
  state : later.state ≠ .inventorying
  starts : later.isWaiting .addRospecResponse = true ∨ later.readies false = client.readies false

theorem SetupKept.of_blueprint {client later : Client}
    (hbuild : later.blueprint = client.blueprint) (hstate : later.state ≠ .inventorying) :
    SetupKept client later :=
  ⟨settings_of_blueprint hbuild, hstate, .inr (readies_of_blueprint hbuild false)⟩

theorem SetupKept.of_later {client later final : Client}
    (hbuild : later.blueprint = client.blueprint) (hkept : SetupKept later final) :
    SetupKept client final :=
  ⟨hkept.settings.trans (settings_of_blueprint hbuild), hkept.state,
    hkept.starts.imp_right fun hsame => hsame.trans (readies_of_blueprint hbuild false)⟩

section Kept

variable {client final : Client}

theorem setupKept_sendRequest (hwritable : client.Writable) (hstate : client.state ≠ .inventorying)
    {request : Request} {name : MessageName} {onCompletion : Callback}
    {newState : Option ReaderState} (hnew : newState ≠ some .inventorying)
    (hrun : sendRequest request name onCompletion newState client = (.ok (), final)) :
    SetupKept client final := by
  rw [run_sendRequest_of_writable hwritable] at hrun
  cases hwaiting : client.isWaiting name with
  | true =>
    rw [hwaiting, if_pos rfl] at hrun
    cases hrun
  | false =>
    rw [hwaiting, if_neg Bool.false_ne_true] at hrun
    cases hrun
    have hprofile := profile_afterSend client request name onCompletion newState
    refine .of_blueprint (blueprint_of_profile hprofile) ?_
    rw [show (client.afterSend request name onCompletion newState).state = _ from
      congrArg Core.state (core_afterSend client request name onCompletion newState)]
    cases newState with
    | none => exact hstate
    | some state => exact fun heq => hnew (congrArg some heq)

/-- A start that returns waits for ADD_ROSPEC. -/
theorem setupKept_restart (hwritable : client.Writable) {onCompletion : Completion}
    {completed : ClientM Unit}
    (hrun : (setState .connected >>= fun _ => startInventory true onCompletion completed) client =
      (.ok (), final)) : SetupKept client final := by
  have hconnected : (client.setState .connected).state ≠ .inventorying := ReaderState.noConfusion
  change startInventory true onCompletion completed (client.setState .connected) = _ at hrun
  unfold startInventory at hrun
  rw [Program.run_get_bind, if_neg hconnected] at hrun
  rcases hget : getROSpec true (client.setState .connected) with ⟨raised | rospec, later⟩
  · rw [run_bind_error hget] at hrun
    cases hrun
  · have hlater : later.settings = client.settings ∧ later.writes = client.writes := by
      rcases caches_getROSpec true (client.setState .connected) with hsame | ⟨cached, hsame⟩
      all_goals rw [Program.final, hget] at hsame
      · exact ⟨(congrArg Client.settings hsame).trans rfl, (congrArg Client.writes hsame).trans rfl⟩
      · exact ⟨(congrArg Client.settings hsame).trans rfl, (congrArg Client.writes hsame).trans rfl⟩
    have hready : { later with inventoryRospecAdded := false }.Writable :=
      writable_of_sublist hwritable (hlater.2 ▸ List.Sublist.refl _)
    rw [run_bind_ok hget, Program.run_modify_bind] at hrun
    unfold sendAddRospec at hrun
    rw [run_sendRequest_of_writable hready] at hrun
    split at hrun
    · cases hrun
    · cases hrun
      refine ⟨?_, ?_, .inl ?_⟩
      · rw [settings_of_profile (profile_afterSend _ _ _ _ _)]
        exact hlater.1
      · rw [state_afterSend]
        exact ReaderState.noConfusion
      · rw [isWaiting_afterSend]
        exact Bool.or_eq_true_iff.mpr (.inr (decide_eq_true rfl))

theorem setupKept_succeed (hstate : client.state ≠ .inventorying) {id : TransitionId} {hook : Hook}
    (hrun : succeed id hook client = (.ok (), final)) : SetupKept client final := by
  cases hrun
  cases hook <;> exact .of_blueprint rfl hstate

theorem setupKept_fail (hstate : client.state ≠ .inventorying)
    (hopen : client.state ≠ .disconnected) {id : TransitionId} {hook : Hook} {error : String}
    (hrun : fail id hook error client = (.ok (), final)) : SetupKept client final := by
  cases hrun
  cases hook with
  | application => exact .of_blueprint rfl hstate
  | completed newConfig oldConfig =>
    have hconcluded : (client.conclude id .failed (some error)).state ≠ .disconnected := hopen
    change SetupKept client ((client.conclude id .failed (some error)).hookFailed
      (.completed newConfig oldConfig))
    rw [hookFailed_of_open hconcluded]
    exact .of_blueprint rfl hstate

theorem setupKept_finishNewState (hwritable : client.Writable) {frame : ApplyFrame}
    (hrun : frame.finishNewState client = (.ok (), final)) : SetupKept client final := by
  unfold ApplyFrame.finishNewState at hrun
  cases hwas : frame.wasInventorying with
  | true =>
    rw [hwas, if_pos rfl] at hrun
    exact setupKept_restart hwritable hrun
  | false =>
    rw [hwas, if_neg Bool.false_ne_true] at hrun
    split at hrun
    · exact .of_later (blueprint_setState client .paused)
        (setupKept_succeed ReaderState.noConfusion hrun)
    · exact .of_later (blueprint_setState client .connected)
        (setupKept_succeed ReaderState.noConfusion hrun)

theorem setupKept_finishRestore (hwritable : client.Writable) {frame : ApplyFrame}
    {error : String} (hrun : frame.finishRestore error client = (.ok (), final)) :
    SetupKept client final := by
  unfold ApplyFrame.finishRestore at hrun
  cases hwas : frame.wasInventorying with
  | true =>
    rw [hwas, if_pos rfl] at hrun
    exact setupKept_restart hwritable hrun
  | false =>
    rw [hwas, if_neg Bool.false_ne_true] at hrun
    split at hrun
    · exact .of_later (blueprint_setState client .paused)
        (setupKept_fail ReaderState.noConfusion ReaderState.noConfusion hrun)
    · exact .of_later (blueprint_setState client .connected)
        (setupKept_fail ReaderState.noConfusion ReaderState.noConfusion hrun)

/-- The responses of the setup run callbacks that keep what the end of the setup reads. -/
theorem setupKept_runCallback (hwritable : client.Writable) (hstate : client.state ≠ .inventorying)
    {callback : Callback} {name : MessageName} (hanswers : callback.answers name = true)
    (hname : name ∈ settingResponses) (hrun : runCallback callback true client = (.ok (), final)) :
    SetupKept client final := by
  have hother : ∀ {other : MessageName}, name = other → other ∉ settingResponses → False := by
    rintro other rfl hmem
    exact hmem hname
  cases callback with
  | application =>
    cases hrun
    exact .of_blueprint rfl hstate
  | getReaderConfigCb =>
    cases hrun
    exact .of_blueprint rfl ReaderState.noConfusion
  | setReaderConfigCb =>
    cases hrun
    exact .of_blueprint rfl ReaderState.noConfusion
  | sendDeleteAccessspecCb onCompletion =>
    exact setupKept_sendRequest hwritable hstate (by decide) hrun
  | startNextAccessspecCb operation =>
    change startAccess operation client = _ at hrun
    unfold startAccess at hrun
    cases hspec : accessSpec operation with
    | error raised =>
      rw [hspec] at hrun
      cases hrun
    | ok spec =>
      rw [hspec] at hrun
      exact setupKept_sendRequest hwritable hstate (by decide) hrun
  | readerConfigApplied frame => exact setupKept_finishNewState hwritable hrun
  | oldReaderConfigRestored frame error =>
    change frame.cleanupReplacementRospec error client = _ at hrun
    unfold ApplyFrame.cleanupReplacementRospec at hrun
    rw [Program.run_get_bind] at hrun
    split at hrun
    · exact setupKept_finishRestore hwritable hrun
    · have hready : (client.setState .connected).Writable := hwritable
      have hsent := setupKept_sendRequest hready ReaderState.noConfusion (by decide) hrun
      exact ⟨hsent.settings, hsent.state, hsent.starts⟩
  | _ => exact (hother (of_decide_eq_true hanswers) (by decide)).elim

end Kept

/-- The end of the setup sends what it would send before. -/
theorem count_finishingSetup {client later : Client} (hkept : SetupKept client later)
    (disconnecting : Bool) :
    (later.finishingSetup later.isWaiting disconnecting).count =
      (client.finishingSetup later.isWaiting disconnecting).count := by
  unfold Client.finishingSetup
  rw [hkept.settings]
  split
  · rfl
  split
  · rfl
  split
  · unfold Client.starting Reaction.request
    rcases hkept.starts with hwaiting | hreadies
    · rw [hwaiting, if_pos rfl]
      split <;> split <;> rfl
    · rw [hreadies]
  · rfl

theorem performs_finishSetup {client : Client} (hwritable : client.Writable)
    (hstate : client.state ≠ .inventorying) :
    Performs finishSetup client
      (client.finishingSetup client.isWaiting client.disconnecting) := by
  unfold finishSetup Client.finishingSetup
  refine .get_bind ?_
  cases client.disconnecting with
  | true => exact .pure client
  | false =>
    cases client.settings.resetOnConnect with
    | true => exact performs_stopPolitely hwritable _
    | false =>
      cases client.settings.startInventory with
      | true => exact performs_startInventory hwritable hstate _ _ _
      | false => exact .pure client

/-- With the responses waited for after the callback, the branch sends what `sentAfterwards`
says. -/
theorem requests_afterwards {client later : Client} {message : LLRPMessage}
    (hwritable : later.Writable) (hreaches : client.reaches message = true)
    (hkept : client.state ∈ [.disconnected, .connecting, .connected, .sentSetConfig] →
      message.isSuccess = true → SetupKept client later) :
    ((afterwards client message).final later).requests.length =
      later.requests.length +
        client.sentAfterwards message later.isWaiting later.disconnecting := by
  have hconnecting : SetupKept client later → Performs (do
      let client ← Program.get
      if usesImpinjExtensions client.settings then
        sendEnableImpinjExtensions .enableImpinjExtCb
      else sendGetReaderCapabilities .getReaderCapabilitiesCb) later
      (.request later.isWaiting (if usesImpinjExtensions client.settings then
        .impinjEnableExtensionsResponse else .getReaderCapabilitiesResponse)) := by
    intro hkept
    refine .get_bind ?_
    rw [hkept.settings]
    split
    · exact performs_sendRequest hwritable _ _ _ _
    · exact performs_sendRequest hwritable _ _ _ _
  unfold Client.reaches at hreaches
  unfold afterwards Client.sentAfterwards
  cases hstate : client.state with
  | disconnected =>
    simp only [hstate, Bool.and_eq_true] at hreaches
    exact (hconnecting (hkept (by simp [hstate]) hreaches.2)).requests
  | connecting =>
    simp only [hstate, Bool.and_eq_true] at hreaches
    exact (hconnecting (hkept (by simp [hstate]) hreaches.2)).requests
  | connected =>
    simp only [hstate, Bool.and_eq_true] at hreaches
    exact (hconnecting (hkept (by simp [hstate]) hreaches.2)).requests
  | sentEnableImpinjExtensions => cases message.isSuccess <;> rfl
  | sentGetCapabilities =>
    cases message.isSuccess with
    | false => rfl
    | true =>
      have hsent : Performs (do
          let client ← Program.get
          if client.disconnecting then pure () else sendGetReaderConfig .getReaderConfigCb) later
          (if later.disconnecting then .returns
            else .request later.isWaiting .getReaderConfigResponse) := by
        refine .get_bind ?_
        cases later.disconnecting with
        | true => exact .pure later
        | false => exact .get_bind (performs_sendRequest hwritable _ _ _ _)
      refine hsent.requests.trans ?_
      cases later.disconnecting <;> rfl
  | sentGetConfig =>
    cases message.isSuccess with
    | false => rfl
    | true =>
      dsimp only
      rw [if_pos rfl, Program.final, Program.run_get_bind]
      cases later.disconnecting with
      | true => rfl
      | false =>
        have henable : Performs sendEnableEventsAndReports later (.sends none) :=
          performs_sendMessage hwritable ⟨.enableEventsAndReports, .bare⟩
        have hready := writable_completing.winding.sendMessage ⟨.enableEventsAndReports, .bare⟩
          (fun _ => trivial) later hwritable
        have hgoesOn := henable.goesOn
        have hrequests := henable.requests
        have hwaiting := henable.waiting rfl
        rcases hrun : sendEnableEventsAndReports later with ⟨raised | _, sent⟩
        · rw [hrun] at hgoesOn
          cases hgoesOn
        · rw [Program.final, hrun] at hrequests hwaiting
          rw [show sendMessage ⟨.enableEventsAndReports, .bare⟩ later = _ from hrun] at hready
          have hset := performs_sendSetReaderConfig hready .setReaderConfigCb
          have hsame : sent.isWaiting = later.isWaiting :=
            hwaiting.trans (funext fun name => Bool.or_false _)
          rw [if_neg Bool.false_ne_true, run_bind_ok hrun]
          refine hset.requests.trans ?_
          rw [hrequests, hsame, Nat.add_assoc]
          rfl
  | sentSetConfig =>
    cases hsuppress : client.suppressSetConfigPostActions with
    | true => rfl
    | false =>
      cases hsuccess : message.isSuccess with
      | false => rfl
      | true =>
        have hsetup := hkept (by simp [hstate]) hsuccess
        refine (performs_finishSetup hwritable hsetup.state).requests.trans ?_
        rw [count_finishingSetup hsetup]
        rfl
  | sentAddRospec =>
    cases message.isSuccess with
    | true => rfl
    | false =>
      dsimp only
      rw [if_neg Bool.false_ne_true, Program.final, Program.run_get_bind]
      split <;> rfl
  | _ => rfl

/-- A callback and what follows it, if it goes on. -/
theorem requests_callback_afterwards {client later : Client} {message : LLRPMessage}
    {program : ClientM Unit} {reaction : Reaction} (hperforms : Performs program later reaction)
    (hwritable : (program later).2.Writable) (hreaches : client.reaches message = true)
    (hkept : ∀ {final}, program later = (.ok (), final) →
      client.state ∈ [.disconnected, .connecting, .connected, .sentSetConfig] →
      message.isSuccess = true → SetupKept client final) :
    ((program >>= fun _ => afterwards client message).final later).requests.length =
      later.requests.length +
        if reaction.goesOn then
          reaction.count + client.sentAfterwards message (reaction.waiting later.isWaiting)
            (reaction.disconnecting later.disconnecting)
        else 0 := by
  have hcount := hperforms.requests
  have hgoesOn := hperforms.goesOn
  rcases hrun : program later with ⟨raised | _, final⟩
  · rw [hrun] at hgoesOn
    rw [Program.final, hrun] at hcount
    rw [Program.final, run_bind_error hrun]
    cases reaction with
    | raises => exact hcount
    | _ => cases hgoesOn
  · rw [hrun] at hgoesOn hwritable
    have hgoes : reaction.goesOn = true := hgoesOn.symm
    have hwaits := hperforms.waiting hgoes
    have hdisconnects := hperforms.disconnecting hgoes
    rw [Program.final, hrun] at hcount hwaits hdisconnects
    have hafter := requests_afterwards hwritable hreaches (hkept hrun)
    rw [hwaits, hdisconnects, hcount, Nat.add_assoc] at hafter
    rw [Program.final, run_bind_ok hrun, if_pos hgoes]
    exact hafter

/-! ## Handling a message -/

/-- What the callback leaves of the setup, for the branches that read it. -/
theorem setupKept_prepared {client later : Client} {message : LLRPMessage}
    (hlater : Undeferred message.name (client.prepared message) later)
    (hstate : client.state ∈ [.disconnected, .connecting, .connected, .sentSetConfig]) :
    SetupKept client later := by
  have hbuild := (blueprint_of_profile hlater.profile).trans (blueprint_prepared
    (by rintro heq; simp [heq] at hstate) message)
  refine .of_blueprint hbuild ?_
  rw [hlater.state, show (client.prepared message).state = _ from
    congrArg Core.state (core_prepared client message)]
  split
  · exact ReaderState.noConfusion
  · intro heq
    change client.state = .inventorying at heq
    simp [heq] at hstate

/-- Before the completion, only a connection event changes whether the client disconnects. -/
theorem sentAfterwards_prepared (client : Client) (message : LLRPMessage)
    (waiting : MessageName → Bool) (reaction : Reaction) :
    client.sentAfterwards message waiting
        (reaction.disconnecting (client.prepared message).disconnecting) =
      client.sentAfterwards message waiting (reaction.disconnecting client.disconnecting) := by
  have hsame : client.state ∉ [.disconnected, .connecting, .connected] →
      (client.prepared message).disconnecting = client.disconnecting := by
    intro hstate
    unfold Client.prepared
    cases hclient : client.state with
    | disconnected => simp [hclient] at hstate
    | connecting => simp [hclient] at hstate
    | connected => simp [hclient] at hstate
    | sentGetCapabilities =>
      dsimp only
      split
      · have hquiet : (client.withCapabilities message.capabilities).state ≠ .inventorying := by
          change client.state ≠ _
          rw [hclient]
          exact ReaderState.noConfusion
        obtain ⟨values, hparsed⟩ := parseCapabilities_parsing message.capabilities _ hquiet
        rw [Program.final, hparsed]
        rfl
      · rfl
    | sentGetConfig =>
      dsimp only
      split <;> rfl
    | sentSetConfig =>
      dsimp only
      split
      · split <;> rfl
      · rfl
    | _ => rfl
  by_cases hstate : client.state ∈ [.disconnected, .connecting, .connected]
  · simp only [List.mem_cons, List.not_mem_nil, or_false] at hstate
    unfold Client.sentAfterwards
    rcases hstate with hstate | hstate | hstate <;> rw [hstate]
  · rw [hsame hstate]

/-- A session is under way when a callback is waiting for the message. -/
theorem inSession_of_reaches {client : Client} (hcore : Correlated false client.core)
    {message : LLRPMessage} (hreaches : client.reaches message = true) {deferred : Deferred}
    (hmem : deferred ∈ client.core.deferreds message.name) :
    client.state ∉ [.disconnected, .connecting, .connected] := by
  have hresponse := isResponse_of_deferred hcore hmem
  intro hstate
  simp only [List.mem_cons, List.not_mem_nil, or_false] at hstate
  have hname : message.name = .readerEventNotification := by
    rcases hstate with hstate | hstate | hstate
    all_goals
      simp only [Client.reaches, hstate, Bool.and_eq_true, decide_eq_true_eq] at hreaches
      exact hreaches.1
  rw [hname] at hresponse
  cases hresponse

/-- The callbacks of a capabilities response send nothing. -/
theorem reaction_of_answers {callback : Callback}
    (hanswers : callback.answers .getReaderCapabilitiesResponse = true) (client : Client)
    (waiting : MessageName → Bool) (isSuccess : Bool) :
    callback.reaction client waiting isSuccess = .returns := by
  cases callback with
  | application => rfl
  | getReaderCapabilitiesCb => rfl
  | _ => exact absurd hanswers (by simp [Callback.answers])

/-- The completion leaves no request of its type waiting. -/
theorem isWaiting_of_undeferred {client later : Client} {message : LLRPMessage}
    (hlater : Undeferred message.name (client.prepared message) later) :
    later.isWaiting = client.waitsBeside message.name := by
  have hprepared := core_prepared client message
  have hbefore : (client.prepared message).isWaiting = client.isWaiting := by
    funext name
    unfold Client.isWaiting
    rw [show (client.prepared message).pendingRequests = _ from
        congrArg Core.pendingRequests hprepared,
      show (client.prepared message).deferreds = _ from congrArg Core.deferreds hprepared]
    rfl
  funext other
  unfold Client.waitsBeside
  by_cases hother : other = message.name
  · rw [hother, hlater.settled]
    simp
  · rw [hlater.isWaiting other hother, hbefore]
    simp [hother]

theorem requests_of_completes {client : Client} (hcore : Correlated false client.core)
    (hfitting : Fitting client.core) (hwritable : client.Writable) {message : LLRPMessage}
    (hcompletes : client.completes message = true) :
    ((handleMessage message).final client).requests.length =
      client.requests.length + client.sentCompleting message := by
  have hrun := run_handleMessage_of_completes hcompletes
  have hprepared := core_prepared client message
  simp only [Client.completes, Bool.and_eq_true, Bool.not_eq_true', decide_eq_true_eq] at hcompletes
  obtain ⟨⟨-, hignored⟩, hreaches⟩ := hcompletes
  obtain ⟨later, hlater, hrequests, hcompleted⟩ := run_complete_of_fitting hcore hfitting hignored
    fun _ => afterwards client message
  have hready := hlater.writable hwritable
  have hsent : later.requests = client.requests :=
    hrequests.trans (requests_of_history (congrArg Core.history hprepared))
  have hwaiting := isWaiting_of_undeferred hlater
  have hdisconnecting : later.disconnecting = (client.prepared message).disconnecting :=
    congrArg Profile.disconnecting hlater.profile
  rw [Program.final, hrun, hcompleted]
  unfold Client.sentCompleting Client.reacting
  cases hheard : client.heard message.name with
  | none =>
    have hafter := requests_afterwards hready hreaches fun hstate _ =>
      setupKept_prepared hlater hstate
    have hsame := sentAfterwards_prepared client message (client.waitsBeside message.name) .returns
    rw [hwaiting, hdisconnecting, hsent] at hafter
    refine hafter.trans (congrArg (client.requests.length + ·) (hsame.trans ?_))
    exact (Nat.zero_add _).symm
  | some callback =>
    obtain ⟨deferred, hmem, hcallback⟩ := mem_deferreds_of_heard hheard
    have hanswers : callback.answers message.name = true := hcallback ▸ hfitting.answers hmem
    have hsession := inSession_of_reaches hcore hreaches hmem
    have haccess : later.state = .inventorying → message.name ∈ accessResponses :=
      fun hstate => mem_accessResponses_of_reaches hcore hreaches hmem (hlater.state ▸ hstate)
    have hopen : later.state ≠ .disconnected := by
      rw [hlater.state, show (client.prepared message).state = _ from congrArg Core.state hprepared]
      split
      · exact ReaderState.noConfusion
      · exact fun hstate => hsession (by simp [show client.state = _ from hstate])
    have hperforms := performs_runCallback hready hopen hanswers haccess message.isSuccess
    have hreaction : callback.reaction later (client.waitsBeside message.name) message.isSuccess =
        callback.reaction client (client.waitsBeside message.name) message.isSuccess := by
      by_cases hstate : client.state = .sentGetCapabilities
      · simp only [Client.reaches, hstate, Bool.and_eq_true, decide_eq_true_eq] at hreaches
        rw [hreaches.1] at hanswers
        rw [reaction_of_answers hanswers, reaction_of_answers hanswers]
      · exact callback.reaction_of_blueprint _ ((blueprint_of_profile hlater.profile).trans
          (blueprint_prepared hstate message)) _
    have hkept : ∀ {final}, runCallback callback message.isSuccess later = (.ok (), final) →
        client.state ∈ [.disconnected, .connecting, .connected, .sentSetConfig] →
        message.isSuccess = true → SetupKept client final := by
      intro final hrun hstate hsuccess
      have hsetting : client.state = .sentSetConfig := by
        simp only [List.mem_cons, List.not_mem_nil, or_false] at hsession hstate
        tauto
      have hbefore := setupKept_prepared hlater hstate
      have hname : message.name ∈ settingResponses := by
        simp only [Client.reaches, hsetting, Bool.and_eq_true, decide_eq_true_eq] at hreaches
        exact hreaches.1
      rw [hsuccess] at hrun
      have hbuild := (blueprint_of_profile hlater.profile).trans (blueprint_prepared
        (hsetting ▸ ReaderState.noConfusion) message)
      exact .of_later hbuild (setupKept_runCallback hready hbefore.state hanswers hname hrun)
    have hkeeps := writable_completing.handling.runCallback callback message.isSuccess later hready
    have hboth := requests_callback_afterwards hperforms hkeeps hreaches hkept
    rw [hwaiting, hreaction, hsent, hdisconnecting, sentAfterwards_prepared] at hboth
    exact hboth

/-- In a reachable client whose writes go out, handling a message sends as many requests as
`sentHandling` says. -/
theorem requests_handleMessage {client : Client} (hcore : Correlated false client.core)
    (hfitting : Fitting client.core) (hwritable : client.Writable) (message : LLRPMessage) :
    ((handleMessage message).final client).requests.length =
      client.requests.length + client.sentHandling message := by
  unfold Client.sentHandling
  by_cases hkeepalive : message.name = .keepalive
  · rw [if_pos hkeepalive]
    unfold handleMessage sendKeepaliveAck
    rw [Program.final, Program.run_get_bind, if_pos hkeepalive]
    split
    · rw [run_write, nextWrite_of_writable hwritable]
      change ((client.history ++ [Event.sent _ _ _]).filterMap _).length = _
      rw [List.filterMap_append, List.length_append]
      rfl
    · rfl
  · rw [if_neg hkeepalive]
    cases hcompletes : client.completes message with
    | true => exact requests_of_completes hcore hfitting hwritable hcompletes
    | false =>
      have hsame := core_handleMessage_of_not_completes hkeepalive hcompletes
      exact congrArg List.length (requests_of_history (congrArg Core.history hsame))

/-- What becomes of the writes does not decide how many there are. -/
theorem sentHandling_facing (client : Client) (writes : List (Option Exn))
    (message : LLRPMessage) :
    (client.facing writes).sentHandling message = client.sentHandling message := by
  have hbuild : (client.facing writes).blueprint = client.blueprint := rfl
  have hreacting : (client.facing writes).reacting message = client.reacting message := by
    have hheard : (client.facing writes).heard message.name = client.heard message.name := rfl
    unfold Client.reacting
    rw [hheard]
    cases client.heard message.name with
    | none => rfl
    | some callback => exact callback.reaction_of_blueprint _ hbuild _
  unfold Client.sentHandling Client.sentCompleting
  rw [hreacting]
  rfl

end Sllurp.Session
