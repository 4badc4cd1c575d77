/-
# What the setup of a session sends

The setup negotiates the vendor extensions if a configuration uses any, and
asks for the vendor's settings if the configuration wants them. Configurations
that a live session may exchange should not differ in either. They agree on the
second; the first depends on fields that a live transition may change.
-/

import Sllurp.Config.Validated
import Sllurp.Session.Completion

namespace Sllurp.Session

open Sllurp.Foundations Sllurp.Protocol Sllurp.Config Sllurp.Runtime
open Sllurp.Foundations.Program

/-! ## Quiet clients -/

/-- No request is out, and every write goes through. -/
structure Quiet (client : Client) : Prop where
  pending : client.pendingRequests.pending = .empty
  deferreds : client.deferreds = fun _ => []
  writes : client.writes = []

namespace Quiet

variable {client : Client}

theorem isWaiting (hquiet : Quiet client) (name : MessageName) :
    client.isWaiting name = false := by
  unfold Client.isWaiting PendingRequestRegistry.hasResponseType
  rw [hquiet.pending, hquiet.deferreds]
  rfl

theorem nextWrite (hquiet : Quiet client) : client.nextWrite = none := by
  unfold Client.nextWrite
  rw [hquiet.writes]
  rfl

/-- A quiet client sends what it is asked to. -/
theorem run_sendRequest (hquiet : Quiet client) (request : Request) (name : MessageName)
    (onCompletion : Callback) (newState : Option ReaderState) :
    sendRequest request name onCompletion newState client =
      (.ok (), client.afterSend request name onCompletion newState) := by
  rw [Session.run_sendRequest (hquiet.isWaiting name), hquiet.nextWrite]

theorem pendingAt (hquiet : Quiet client) (name : MessageName) (id : ℕ) :
    client.core.pendingAt name id = none := by
  unfold Core.pendingAt Client.core
  rw [hquiet.pending]
  rfl

theorem of_core {later : Client} (hquiet : Quiet client)
    (hpending : later.pendingRequests = client.pendingRequests)
    (hdeferreds : later.deferreds = client.deferreds) (hwrites : later.writes = client.writes) :
    Quiet later :=
  ⟨by rw [hpending, hquiet.pending], by rw [hdeferreds, hquiet.deferreds],
    by rw [hwrites, hquiet.writes]⟩

end Quiet

/-- The one request of a client that was quiet before. -/
theorem pendingAt_afterSend (client : Client) (request : Request) (name : MessageName)
    (onCompletion : Callback) (newState : Option ReaderState) :
    (client.afterSend request name onCompletion newState).core.pendingAt name
        (client.afterSend request name onCompletion newState).lastMsgId =
      some (client.nextPending name onCompletion) := by
  have hcore := core_afterSend client request name onCompletion newState
  have hid : (client.afterSend request name onCompletion newState).lastMsgId =
      nextMessageId client.lastMsgId := congrArg Core.lastMsgId hcore
  rw [hid, hcore]
  exact Dict.get?_set_self _ _ _

/-- Completing that request makes the client quiet again. -/
theorem Quiet.completed {client later : Client} (hquiet : Quiet client) {request : Request}
    {name : MessageName} {onCompletion : Callback} {newState : Option ReaderState}
    (hpending : later.pendingRequests =
      (client.afterSend request name onCompletion newState).pendingRequests)
    (hdeferreds : later.deferreds =
      (client.afterSend request name onCompletion newState).deferreds)
    (hwrites : later.writes = (client.afterSend request name onCompletion newState).writes)
    (isSuccess : Bool) :
    Quiet (later.completed name (client.afterSend request name onCompletion newState).lastMsgId
      (client.nextPending name onCompletion) isSuccess) := by
  have hcore := core_afterSend client request name onCompletion newState
  have hid : (client.afterSend request name onCompletion newState).lastMsgId =
      nextMessageId client.lastMsgId := congrArg Core.lastMsgId hcore
  have hregistry : later.pendingRequests = client.nextRegistry name onCompletion :=
    hpending.trans (congrArg Core.pendingRequests hcore)
  have hlists : later.deferreds = fun other => if other = name then
      client.deferreds name ++ [⟨client.nextSerial, onCompletion⟩] else client.deferreds other :=
    hdeferreds.trans (congrArg Core.deferreds hcore)
  refine ⟨?_, ?_, ?_⟩
  · change (later.pendingRequests.pop name _).2.pending = _
    have hget : later.pendingRequests.pending.get? (name, nextMessageId client.lastMsgId) =
        some (client.nextPending name onCompletion) := by
      rw [hregistry]
      exact Dict.get?_set_self _ _ _
    rw [hid, PendingRequestRegistry.pending_pop hget, hregistry]
    refine (Dict.erase_set_of_not_mem _ _ _ ?_).trans hquiet.pending
    rw [hquiet.pending]
    exact List.not_mem_nil
  · funext other
    change (if other = name then (later.deferreds name).filter _ else later.deferreds other) = []
    rw [hlists, hquiet.deferreds]
    split
    · simp [Client.nextPending]
    · exact if_neg ‹_›
  · change later.writes = []
    rw [hwrites, writes_afterSend, hquiet.writes]
    rfl

/-- A response to the one request runs its callback on a quiet client. -/
theorem run_answer {client sent : Client} {request : Request} {name : MessageName}
    {onCompletion : Callback} {newState : Option ReaderState} {message : LLRPMessage}
    (hsent : sent = client.afterSend request name onCompletion newState)
    (hname : message.name = name) (hid : message.id = sent.lastMsgId)
    (hcompletes : sent.completes message = true) :
    handleMessage message sent =
      (runCallback onCompletion message.isSuccess >>= fun _ => afterwards sent message)
        ((sent.prepared message).completed name sent.lastMsgId
          (client.nextPending name onCompletion) message.isSuccess) := by
  subst hname
  have hpending : sent.core.pendingAt message.name sent.lastMsgId =
      some (client.nextPending message.name onCompletion) := by
    rw [hsent]
    exact pendingAt_afterSend client request message.name onCompletion newState
  rw [run_handleMessage_of_completes hcompletes]
  rw [← hid] at hpending ⊢
  exact run_complete_of_pending hpending _

/-- The filters let the response to the one request through. -/
theorem not_ignored_afterSend {client : Client} (request : Request) {name : MessageName}
    (hresponse : name.isResponse = true) (onCompletion : Callback)
    (newState : Option ReaderState) {message : LLRPMessage} (hname : message.name = name)
    (hid : message.id = (client.afterSend request name onCompletion newState).lastMsgId) :
    ignored (client.afterSend request name onCompletion newState) message = false := by
  have hcore := core_afterSend client request name onCompletion newState
  have hlast : (client.afterSend request name onCompletion newState).lastMsgId =
      nextMessageId client.lastMsgId := congrArg Core.lastMsgId hcore
  have hregistry : (client.afterSend request name onCompletion newState).pendingRequests =
      client.nextRegistry name onCompletion := congrArg Core.pendingRequests hcore
  have hstale : (client.nextRegistry name onCompletion).isStale name
      (nextMessageId client.lastMsgId) = false := by
    simp [PendingRequestRegistry.isStale, Client.nextRegistry, PendingRequestRegistry.forgetStale]
  have hcontains : (client.nextRegistry name onCompletion).contains name
      (nextMessageId client.lastMsgId) = true :=
    (PendingRequestRegistry.contains_iff _ _ _).mpr ⟨_, Dict.get?_set_self _ _ _⟩
  have hreport : name ≠ .roAccessReport := by
    rintro rfl
    cases hresponse
  have hevent : name ≠ .readerEventNotification := by
    rintro rfl
    cases hresponse
  simp [ignored, hname, hid, hlast, hregistry, hstale, hcontains, hreport, hevent]

/-! ## The requests of a setup -/

namespace Client

/-- The client with its session reset, under a configuration. -/
def under (client : Client) (content : LLRPReaderConfig) : Client :=
  { client.resetProtocolSession with configs := fun _ => content, writes := [], history := [] }

end Client

/-- The setup under the same answers: the event that opens the session, then
success to what is out, up to GET_READER_CONFIG. -/
def answerSetup (capabilities : Capabilities) (client : Client) : Client :=
  let opened := (handleMessage .connectionEvent).final client
  let extended :=
    if opened.state = .sentEnableImpinjExtensions then
      (handleMessage (.response .impinjEnableExtensionsResponse opened.lastMsgId .success)).final
        opened
    else opened
  (handleMessage
    { LLRPMessage.response .getReaderCapabilitiesResponse extended.lastMsgId .success with
      decodedCapabilities := capabilities }).final extended

theorem quiet_under (client : Client) (content : LLRPReaderConfig) :
    Quiet (client.under content) := ⟨rfl, rfl, rfl⟩

/-- A successful connection event, which opens a session. -/
def LLRPMessage.opens (message : LLRPMessage) : Prop :=
  message.name = .readerEventNotification ∧ message.isSuccess = true

/-- Where no request is out, the event goes straight to the first request. -/
theorem run_handleMessage_of_opens {client : Client} {message : LLRPMessage}
    (hopens : message.opens) (hstate : client.state = .disconnected)
    (hpending : client.pendingRequests.pending = .empty)
    (hdeferreds : client.deferreds = fun _ => []) :
    handleMessage message client =
      (if usesImpinjExtensions client.settings then
        sendEnableImpinjExtensions .enableImpinjExtCb
      else sendGetReaderCapabilities .getReaderCapabilitiesCb) client.notDisconnecting := by
  obtain ⟨hname, hsuccess⟩ := hopens
  have hcompletes : client.completes message = true := by
    simp [Client.completes, ignored, Client.reaches, hstate, hname, hsuccess,
      MessageName.isResponse, ReaderState.value]
  have hprepared : client.prepared message = client.notDisconnecting := by
    unfold Client.prepared
    rw [hstate]
  have hnone : (client.prepared message).core.pendingAt message.name message.id = none := by
    rw [hprepared]
    change client.pendingRequests.pending.get? _ = none
    rw [hpending]
    rfl
  have hleftover : (client.prepared message).core.leftover message = [] := by
    unfold Core.leftover
    rw [hprepared]
    split
    · rfl
    · exact congrFun hdeferreds _
  rw [run_handleMessage_of_completes hcompletes,
    Program.run_bind_ok (run_complete_of_no_leftover hnone hleftover _), hprepared]
  unfold afterwards
  rw [hstate]
  rfl

/-- The event opens the session with its first request. -/
theorem run_connectionEvent {client : Client} (hquiet : Quiet client)
    (hstate : client.state = .disconnected) :
    handleMessage .connectionEvent client =
      (if usesImpinjExtensions client.settings then
        sendEnableImpinjExtensions .enableImpinjExtCb
      else sendGetReaderCapabilities .getReaderCapabilitiesCb) client.notDisconnecting :=
  run_handleMessage_of_opens ⟨rfl, rfl⟩ hstate hquiet.pending hquiet.deferreds

section Setup

variable {client : Client}

/-- The client after the request for the extensions. -/
def Client.extending (client : Client) : Client :=
  client.afterSend ⟨.impinjEnableExtensions, .bare⟩ .impinjEnableExtensionsResponse
    .enableImpinjExtCb (some .sentEnableImpinjExtensions)

/-- The client after the request for the capabilities. -/
def Client.inquiring (client : Client) : Client :=
  client.afterSend ⟨.getReaderCapabilities, .capabilities 0⟩ .getReaderCapabilitiesResponse
    .getReaderCapabilitiesCb (some .sentGetCapabilities)

theorem extending_eq (client : Client) : client.extending =
    client.afterSend ⟨.impinjEnableExtensions, .bare⟩ .impinjEnableExtensionsResponse
      .enableImpinjExtCb (some .sentEnableImpinjExtensions) := rfl

theorem inquiring_eq (client : Client) : client.inquiring =
    client.afterSend ⟨.getReaderCapabilities, .capabilities 0⟩ .getReaderCapabilitiesResponse
      .getReaderCapabilitiesCb (some .sentGetCapabilities) := rfl

/-- The negotiation of the extensions is answered: the capabilities are next. -/
theorem final_extending (hquiet : Quiet client) :
    ∃ later, Quiet later ∧ later.requests = client.requests ++ [⟨.impinjEnableExtensions, .bare⟩] ∧
      later.profile = client.profile ∧
      (handleMessage (.response .impinjEnableExtensionsResponse client.extending.lastMsgId
        .success)).final client.extending = later.inquiring := by
  let message := LLRPMessage.response .impinjEnableExtensionsResponse client.extending.lastMsgId
    .success
  have hstate : client.extending.state = .sentEnableImpinjExtensions :=
    state_afterSend client _ _ _ _
  have hcompletes : client.extending.completes message = true := by
    have hignored : ignored client.extending message = false :=
      not_ignored_afterSend _ rfl _ _ rfl rfl
    simp only [Client.completes, hignored, Client.reaches, hstate]
    rfl
  have hprepared : client.extending.prepared message = client.extending := by
    unfold Client.prepared
    rw [hstate]
  let later := client.extending.completed .impinjEnableExtensionsResponse
    client.extending.lastMsgId
    (client.nextPending .impinjEnableExtensionsResponse .enableImpinjExtCb) true
  have hlater : Quiet later := hquiet.completed rfl rfl rfl true
  refine ⟨later, hlater, ?_, ?_, ?_⟩
  · exact (requests_completed _ _ _ _ _).trans (requests_afterSend _ _ _ _ _)
  · exact (profile_completed _ _ _ _ _).trans (profile_afterSend _ _ _ _ _)
  · have hrun := run_answer (extending_eq client) rfl rfl hcompletes
    rw [hprepared] at hrun
    have hsend : runCallback .enableImpinjExtCb true later = (.ok (), later.inquiring) :=
      hlater.run_sendRequest _ _ _ _
    have hidle : afterwards client.extending message = pure () := by
      unfold afterwards
      rw [hstate]
      rfl
    change (handleMessage message client.extending).2 = _
    rw [hrun, hidle]
    exact congrArg Prod.snd (Program.run_bind_ok hsend)

/-- The capabilities are answered and accepted: the configuration is next. -/
theorem final_inquiring (hquiet : Quiet client) {capabilities : Capabilities}
    (hpasses : passesCapabilities client.settings capabilities = true)
    (hdisconnecting : client.disconnecting = false) :
    ((handleMessage
      { LLRPMessage.response .getReaderCapabilitiesResponse client.inquiring.lastMsgId .success with
        decodedCapabilities := capabilities }).final client.inquiring).requests =
      client.requests ++
        [⟨.getReaderCapabilities, .capabilities 0⟩,
          ⟨.getReaderConfig, .readerConfig 0
            (if client.settings.impinjExtendedConfiguration then some 2000 else none)⟩] := by
  let message := { LLRPMessage.response .getReaderCapabilitiesResponse client.inquiring.lastMsgId
    .success with decodedCapabilities := capabilities }
  have hstate : client.inquiring.state = .sentGetCapabilities := state_afterSend client _ _ _ _
  have hprofile : client.inquiring.profile = client.profile := profile_afterSend _ _ _ _ _
  have hsettings : client.inquiring.settings = client.settings := settings_of_profile hprofile
  have hcompletes : client.inquiring.completes message = true := by
    have hignored : ignored client.inquiring message = false :=
      not_ignored_afterSend _ rfl _ _ rfl rfl
    have hreaches : client.inquiring.reaches message = true := by
      unfold Client.reaches
      rw [hstate, hsettings]
      exact hpasses
    rw [Client.completes, hignored, hreaches]
    rfl
  have hquietState :
      (client.inquiring.withCapabilities message.capabilities).state ≠ .inventorying := by
    change client.inquiring.state ≠ _
    rw [hstate]
    decide
  obtain ⟨values, hparsed⟩ := parseCapabilities_parsing message.capabilities _ hquietState
  let parsed := (client.inquiring.withCapabilities message.capabilities).parsed values
  have hcore : parsed.core = client.inquiring.core := Client.core_parsed _ values
  have hwrites : parsed.writes = client.inquiring.writes := rfl
  have hparsedSettings : parsed.settings.impinjExtendedConfiguration =
      client.settings.impinjExtendedConfiguration := by
    rw [Client.settings_parsed, ← hsettings]
    rfl
  have hparsedDisconnecting : parsed.disconnecting = client.inquiring.disconnecting := rfl
  have hprepared : client.inquiring.prepared message = parsed := by
    change _ = (client.inquiring.withCapabilities message.capabilities).parsed values
    rw [← hparsed]
    unfold Client.prepared
    rw [hstate]
    rfl
  clear_value parsed
  let later := parsed.completed .getReaderCapabilitiesResponse client.inquiring.lastMsgId
    (client.nextPending .getReaderCapabilitiesResponse .getReaderCapabilitiesCb) true
  have hlater : Quiet later :=
    hquiet.completed (congrArg Core.pendingRequests hcore) (congrArg Core.deferreds hcore) hwrites
      true
  have hrun := run_answer (inquiring_eq client) rfl rfl hcompletes
  rw [hprepared] at hrun
  have hlaterProfile : (later.setState .connected).profile = parsed.profile :=
    (profile_setState _ _).trans (profile_completed _ _ _ _ _)
  have hdisconnectingLater : (later.setState .connected).disconnecting = false := by
    have hsame : client.inquiring.disconnecting = client.disconnecting :=
      congrArg Profile.disconnecting hprofile
    have hlaterSame : (later.setState .connected).disconnecting = parsed.disconnecting :=
      congrArg Profile.disconnecting hlaterProfile
    rw [hlaterSame, hparsedDisconnecting, hsame, hdisconnecting]
  have himpinj : (later.setState .connected).settings.impinjExtendedConfiguration =
      client.settings.impinjExtendedConfiguration := by
    rw [settings_of_profile hlaterProfile, hparsedSettings]
  have hquietLater : Quiet (later.setState .connected) := hlater.of_core rfl rfl rfl
  have hsend : sendGetReaderConfig .getReaderConfigCb (later.setState .connected) =
      (.ok (), (later.setState .connected).afterSend
        ⟨.getReaderConfig, .readerConfig 0
          (if client.settings.impinjExtendedConfiguration then some 2000 else none)⟩
        .getReaderConfigResponse .getReaderConfigCb (some .sentGetConfig)) := by
    unfold sendGetReaderConfig
    rw [Program.run_get_bind, himpinj]
    exact hquietLater.run_sendRequest _ _ _ _
  have hafterwards : afterwards client.inquiring message (later.setState .connected) =
      sendGetReaderConfig .getReaderConfigCb (later.setState .connected) := by
    unfold afterwards
    rw [hstate]
    change (if (later.setState .connected).disconnecting then pure ()
      else sendGetReaderConfig .getReaderConfigCb) (later.setState .connected) = _
    rw [hdisconnectingLater, if_neg Bool.false_ne_true]
  have hfinal : handleMessage message client.inquiring =
      afterwards client.inquiring message (later.setState .connected) := hrun
  have hhistory : parsed.requests = client.inquiring.requests := by
    have hsame : parsed.history = client.inquiring.history := congrArg Core.history hcore
    rw [Client.requests, Client.requests, hsame]
  change Client.requests (handleMessage message client.inquiring).2 = _
  rw [hfinal, hafterwards, hsend, requests_afterSend, requests_setState, requests_completed,
    hhistory, inquiring_eq, requests_afterSend, List.append_assoc]
  rfl

end Setup

/-- The setup negotiates the extensions if the configuration uses them, and asks
for the capabilities and the reader's configuration. -/
theorem requests_answerSetup (client : Client) {content : LLRPReaderConfig}
    {capabilities : Capabilities} (hpasses : passesCapabilities content capabilities = true) :
    (answerSetup capabilities (client.under content)).requests =
      (if usesImpinjExtensions content then [⟨.impinjEnableExtensions, .bare⟩] else []) ++
        [⟨.getReaderCapabilities, .capabilities 0⟩,
          ⟨.getReaderConfig, .readerConfig 0
            (if content.impinjExtendedConfiguration then some 2000 else none)⟩] := by
  let started := (client.under content).notDisconnecting
  have hquiet : Quiet started := (quiet_under client content).of_core rfl rfl rfl
  have hevent := run_connectionEvent (quiet_under client content) rfl
  have hopened : (handleMessage .connectionEvent).final (client.under content) =
      if usesImpinjExtensions content then started.extending else started.inquiring := by
    change (handleMessage .connectionEvent (client.under content)).2 = _
    rw [hevent]
    change ((if usesImpinjExtensions content then
      sendEnableImpinjExtensions .enableImpinjExtCb
      else sendGetReaderCapabilities .getReaderCapabilitiesCb) started).2 = _
    split
    · exact congrArg Prod.snd (hquiet.run_sendRequest _ _ _ _)
    · exact congrArg Prod.snd (hquiet.run_sendRequest _ _ _ _)
  unfold answerSetup
  dsimp only
  rw [hopened]
  cases usesImpinjExtensions content with
  | true =>
    obtain ⟨later, hlater, hrequests, hprofile, hfinal⟩ := final_extending hquiet
    have hstate : started.extending.state = .sentEnableImpinjExtensions :=
      state_afterSend started _ _ _ _
    rw [if_pos rfl, hstate, if_pos rfl, if_pos rfl, hfinal]
    have hsettings : later.settings = content := settings_of_profile hprofile
    have hsetup := final_inquiring hlater (hsettings ▸ hpasses)
      (congrArg Profile.disconnecting hprofile)
    rw [hsetup, hrequests, hsettings]
    rfl
  | false =>
    have hstate : started.inquiring.state = .sentGetCapabilities := state_afterSend started _ _ _ _
    rw [if_neg Bool.false_ne_true, hstate, if_neg (by decide), if_neg Bool.false_ne_true]
    exact final_inquiring hquiet hpasses rfl

/-- Two configurations whose plan needs no new session are set up by the same
requests exactly when both use the vendor extensions or neither does. -/
theorem setup_requests_agree_iff (client : Client) {first second : LLRPReaderConfig}
    {capabilities : Capabilities}
    (hplan : (buildConfigTransitionPlan first second).requiresReconnect = false)
    (hfirst : passesCapabilities first capabilities = true)
    (hsecond : passesCapabilities second capabilities = true) :
    (answerSetup capabilities (client.under first)).requests =
        (answerSetup capabilities (client.under second)).requests ↔
      usesImpinjExtensions first = usesImpinjExtensions second := by
  have hextended : first.impinjExtendedConfiguration = second.impinjExtendedConfiguration := by
    have hagree : agreeOn first second .impinjExtendedConfiguration = true :=
      agreeOn_of_not_mem_actions (of_decide_eq_false hplan)
    exact of_decide_eq_true hagree
  rw [requests_answerSetup client hfirst, requests_answerSetup client hsecond, hextended,
    List.append_left_inj]
  constructor
  · intro hsame
    cases hone : usesImpinjExtensions first <;> cases htwo : usesImpinjExtensions second <;>
      simp [hone, htwo] at hsame ⊢
  · intro hsame
    rw [hsame]

/-- The default setup, and the same with more tags in the field. -/
theorem setup_requests_agree_timedConfig :
    (answerSetup oneAntenna
        ((Client.initial (fun _ => timedConfig) 0 true).under timedConfig)).requests =
      (answerSetup oneAntenna ((Client.initial (fun _ => timedConfig) 0 true).under
        { timedConfig with tagPopulation := 8 })).requests :=
  (setup_requests_agree_iff _ (by decide +kernel) (by decide +kernel) (by decide +kernel)).mpr
    (by decide +kernel)

/-- The default configuration with an Impinj search mode. -/
def searchConfig : LLRPReaderConfig := { timedConfig with impinjSearchMode := some 1 }

/-- An inventory search mode is set up with the extensions, though a live
transition may set it without them. -/
theorem setup_requests_differ :
    Validated timedConfig ∧ Validated searchConfig ∧
      (buildConfigTransitionPlan timedConfig searchConfig).requiresReconnect = false ∧
      passesCapabilities timedConfig oneAntenna = true ∧
      passesCapabilities searchConfig oneAntenna = true ∧
      ¬ (answerSetup oneAntenna
          ((Client.initial (fun _ => timedConfig) 0 true).under timedConfig)).requests =
        (answerSetup oneAntenna
          ((Client.initial (fun _ => timedConfig) 0 true).under searchConfig)).requests := by
  refine ⟨by decide +kernel, by decide +kernel, by decide +kernel, by decide +kernel,
    by decide +kernel, fun hsame => ?_⟩
  have hlength := congrArg List.length hsame
  revert hlength
  decide +kernel

end Sllurp.Session
