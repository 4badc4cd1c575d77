/-
# How a message reaches its callbacks

`completes` decides, before a message is handled, whether its branch gets as far
as completing requests; only then anything correlated changes. Such a message is
handled in three parts: what its branch stores first, the completion, and what
the branch does afterwards.
-/

import Sllurp.Session.Parsing

namespace Sllurp.Session

open Sllurp.Foundations Sllurp.Protocol Sllurp.Config Sllurp.Runtime

/-! ## Reading the status -/

/-- Whether a failure's status code can be read. -/
def LLRPMessage.statusReadable (message : LLRPMessage) : Bool :=
  message.isSuccess || (message.status.bind LLRPStatus.statusCode).isSome

theorem run_readStatus (message : LLRPMessage) (client : Client) :
    readStatus message client =
      match message.status with
      | none => (.error (.missingKey "LLRPStatus"), client)
      | some status =>
        match status.statusCode with
        | none => (.error (.missingKey "StatusCode"), client)
        | some _ => (.ok (), client) := by
  unfold readStatus
  cases message.status with
  | none => rfl
  | some status => cases hcode : status.statusCode <;> simp [key, hcode, Program.run_bind]

theorem run_readStatus_of_readable {message : LLRPMessage} (hfailed : message.isSuccess = false)
    (hreadable : message.statusReadable = true) (client : Client) :
    readStatus message client = (.ok (), client) := by
  simp only [LLRPMessage.statusReadable, hfailed, Bool.false_or] at hreadable
  rw [run_readStatus]
  cases hstatus : message.status with
  | none => simp [hstatus] at hreadable
  | some status => cases hcode : status.statusCode <;> simp [hstatus, hcode] at hreadable ⊢

theorem run_readStatus_of_not_readable {message : LLRPMessage}
    (hreadable : message.statusReadable = false) (client : Client) :
    ∃ raised, readStatus message client = (.error raised, client) := by
  simp only [LLRPMessage.statusReadable, Bool.or_eq_false_iff] at hreadable
  rw [run_readStatus]
  cases hstatus : message.status with
  | none => exact ⟨_, rfl⟩
  | some status =>
    cases hcode : status.statusCode with
    | none => exact ⟨.missingKey "StatusCode", by simp only [hcode]⟩
    | some code => simp [hstatus, hcode] at hreadable

theorem run_readEvent (message : LLRPMessage) (client : Client) :
    readEvent message client =
      match message.event with
      | none => (.error (.missingKey "ReaderEventNotificationData"), client)
      | some _ => (.ok (), client) := by
  unfold readEvent
  cases message.event <;> rfl

/-! ## The three parts -/

namespace Client

/-- The client with the disconnect of an earlier session over. -/
def notDisconnecting (client : Client) : Client := { client with disconnecting := false }

/-- The client with a capabilities response stored. -/
def withCapabilities (client : Client) (capabilities : Capabilities) : Client :=
  { client with capabilities := some capabilities }

/-- The client with a reader configuration response stored. -/
def withReaderConfig (client : Client) (readerConfig : ReaderConfiguration) : Client :=
  { client with
    readerConfig := some readerConfig
    readerConfigSummary := parseReaderConfig readerConfig }

/-- The client with the post actions of SET_READER_CONFIG allowed again. -/
def allowPostActions (client : Client) : Client :=
  { client with suppressSetConfigPostActions := false }

/-- Whether the branch of the runtime state gets as far as completing requests
with the message. -/
def reaches (client : Client) (message : LLRPMessage) : Bool :=
  match client.state with
  | .disconnected | .connecting | .connected =>
    message.name = .readerEventNotification && message.isSuccess
  | .sentEnableImpinjExtensions =>
    message.name = .impinjEnableExtensionsResponse && message.statusReadable
  | .sentGetCapabilities =>
    message.name = .getReaderCapabilitiesResponse &&
      if message.isSuccess then passesCapabilities client.settings message.capabilities
      else message.statusReadable
  | .sentGetConfig =>
    message.name ∈ [.getReaderConfigResponse, .deleteAccessspecResponse, .deleteRospecResponse] &&
      message.statusReadable
  | .sentSetConfig =>
    message.name ∈ [.setReaderConfigResponse, .getReaderConfigResponse,
      .deleteAccessspecResponse] && message.statusReadable
  | .sentAddRospec => message.name = .addRospecResponse && message.statusReadable
  | .sentEnableRospec => message.name = .enableRospecResponse && message.statusReadable
  | .pausing => message.statusReadable
  | .sentStartRospec =>
    !(message.name = .roAccessReport ∨ message.name = .readerEventNotification) &&
      message.statusReadable
  | .inventorying =>
    message.name ∈ [.roAccessReport, .readerEventNotification, .addAccessspecResponse,
      .enableAccessspecResponse, .disableAccessspecResponse, .deleteAccessspecResponse]
  | .sentDeleteAccessspec => true
  | .sentDeleteRospec => message.statusReadable
  | .paused => false

/-- Whether handling the message completes requests. -/
def completes (client : Client) (message : LLRPMessage) : Bool :=
  message.name ≠ .keepalive && !ignored client message && client.reaches message

/-- Whether the message is a capabilities response that the configuration does
not pass. It is stored all the same. -/
def refusesCapabilities (client : Client) (message : LLRPMessage) : Bool :=
  client.state = .sentGetCapabilities && message.name = .getReaderCapabilitiesResponse &&
    message.isSuccess && !passesCapabilities client.settings message.capabilities

/-- The client when the branch of its state is about to complete requests. -/
def prepared (client : Client) (message : LLRPMessage) : Client :=
  match client.state with
  | .disconnected | .connecting | .connected => client.notDisconnecting
  | .sentGetCapabilities =>
    if message.isSuccess then
      (parseCapabilities message.capabilities).final
        (client.withCapabilities message.capabilities)
    else client
  | .sentGetConfig =>
    if message.isSuccess ∧ message.name = .getReaderConfigResponse then
      client.withReaderConfig message.readerConfig
    else client
  | .sentSetConfig =>
    if message.isSuccess then
      if client.suppressSetConfigPostActions then client.allowPostActions.setState .connected
      else client
    else client.allowPostActions
  | _ => client

end Client

/-- What the branch of the runtime state does after the completion. -/
def afterwards (client : Client) (message : LLRPMessage) : ClientM Unit :=
  match client.state with
  | .disconnected | .connecting | .connected => do
    let client ← Program.get
    if usesImpinjExtensions client.settings then
      sendEnableImpinjExtensions .enableImpinjExtCb
    else sendGetReaderCapabilities .getReaderCapabilitiesCb
  | .sentEnableImpinjExtensions =>
    if message.isSuccess then pure ()
    else .raise (.readerConfigurationError "ENABLE_IMPINJ_EXTENSIONS failed")
  | .sentGetCapabilities =>
    if message.isSuccess then do
      let client ← Program.get
      if client.disconnecting then pure () else sendGetReaderConfig .getReaderConfigCb
    else .raise (.readerConfigurationError "Error getting capabilities")
  | .sentGetConfig =>
    if message.isSuccess then do
      let client ← Program.get
      if client.disconnecting then pure ()
      else
        sendEnableEventsAndReports
        sendSetReaderConfig .setReaderConfigCb
    else .raise (.readerConfigurationError "Error getting reader config")
  | .sentSetConfig =>
    if client.suppressSetConfigPostActions then pure ()
    else if message.isSuccess then finishSetup
    else .raise (.readerConfigurationError "Error setting reader config")
  | .sentAddRospec =>
    if message.isSuccess then pure ()
    else do
      let later ← Program.get
      if later.state = .sentAddRospec ∧ later.lastMsgId = client.lastMsgId then
        .raise (.readerConfigurationError "Error adding ROSpec")
      else pure ()
  | _ => pure ()

theorem bind_pure_unit (program : ClientM Unit) : (program >>= fun _ => pure ()) = program := by
  funext client
  rw [Program.run_bind]
  rcases program client with ⟨_ | _, later⟩ <;> rfl

/-- While the capabilities are waited for, the stored ones are refused exactly
when the configuration does not pass. -/
private theorem raises_withCapabilities {client : Client}
    (hstate : client.state = .sentGetCapabilities) (capabilities : Capabilities) :
    (parseCapabilities capabilities).raises (client.withCapabilities capabilities) =
      !passesCapabilities client.settings capabilities := by
  have hquiet : (client.withCapabilities capabilities).state ≠ .inventorying := by
    change client.state ≠ _
    rw [hstate]
    decide
  rw [raises_parseCapabilities hquiet]
  rfl

private theorem run_handleConnecting {client : Client} {message : LLRPMessage}
    (hname : message.name = .readerEventNotification) (hsuccess : message.isSuccess = true) :
    handleConnecting message client =
      (complete message message.isSuccess >>= fun _ => do
        let client ← Program.get
        if usesImpinjExtensions client.settings then
          sendEnableImpinjExtensions .enableImpinjExtCb
        else sendGetReaderCapabilities .getReaderCapabilitiesCb) client.notDisconnecting := by
  unfold handleConnecting
  rw [if_neg (not_not_intro hname), hsuccess]
  rfl

private theorem run_handleSentEnableImpinjExtensions {client : Client} {message : LLRPMessage}
    (hname : message.name = .impinjEnableExtensionsResponse)
    (hreadable : message.statusReadable = true) :
    handleSentEnableImpinjExtensions message client =
      (complete message message.isSuccess >>= fun _ =>
        if message.isSuccess then pure ()
        else .raise (.readerConfigurationError "ENABLE_IMPINJ_EXTENSIONS failed")) client := by
  unfold handleSentEnableImpinjExtensions
  rw [if_neg (not_not_intro hname)]
  cases hsuccess : message.isSuccess with
  | true => simp only [if_true, bind_pure_unit]
  | false =>
    simp only [Bool.false_eq_true, if_false]
    exact Program.run_bind_ok (run_readStatus_of_readable hsuccess hreadable client)

private theorem run_handleSentGetConfig {client : Client} {message : LLRPMessage}
    (hname : message.name ∈ [MessageName.getReaderConfigResponse, .deleteAccessspecResponse,
      .deleteRospecResponse])
    (hreadable : message.statusReadable = true) :
    handleSentGetConfig message client =
      (complete message message.isSuccess >>= fun _ =>
        if message.isSuccess then do
          let client ← Program.get
          if client.disconnecting then pure ()
          else
            sendEnableEventsAndReports
            sendSetReaderConfig .setReaderConfigCb
        else .raise (.readerConfigurationError "Error getting reader config"))
        (if message.isSuccess ∧ message.name = .getReaderConfigResponse then
          client.withReaderConfig message.readerConfig else client) := by
  unfold handleSentGetConfig
  rw [if_neg (not_not_intro hname)]
  cases hsuccess : message.isSuccess with
  | true =>
    simp only [if_true, true_and]
    split <;> rfl
  | false =>
    simp only [Bool.false_eq_true, if_false, false_and]
    exact Program.run_bind_ok (run_readStatus_of_readable hsuccess hreadable client)

private theorem run_handleAny {client : Client} {message : LLRPMessage}
    (hreadable : message.statusReadable = true) :
    handleAny message client = complete message message.isSuccess client := by
  unfold handleAny
  cases hsuccess : message.isSuccess with
  | true => rfl
  | false => exact Program.run_bind_ok (run_readStatus_of_readable hsuccess hreadable client)

/-- A message that completes is handled in three parts. -/
theorem run_handleMessage_of_completes {client : Client} {message : LLRPMessage}
    (hcompletes : client.completes message = true) :
    handleMessage message client =
      (complete message message.isSuccess >>= fun _ => afterwards client message)
        (client.prepared message) := by
  simp only [Client.completes, Bool.and_eq_true, Bool.not_eq_true', decide_eq_true_eq] at hcompletes
  obtain ⟨⟨hkeepalive, hignored⟩, hreaches⟩ := hcompletes
  unfold handleMessage
  rw [Program.run_get_bind, if_neg hkeepalive, hignored, if_neg Bool.false_ne_true]
  unfold Client.reaches at hreaches
  unfold dispatch Client.prepared afterwards
  cases hstate : client.state <;>
    simp only [hstate, Bool.and_eq_true, decide_eq_true_eq] at hreaches ⊢
  case disconnected => exact run_handleConnecting hreaches.1 hreaches.2
  case connecting => exact run_handleConnecting hreaches.1 hreaches.2
  case connected => exact run_handleConnecting hreaches.1 hreaches.2
  case sentGetConfig => exact run_handleSentGetConfig hreaches.1 hreaches.2
  case sentSetConfig =>
    obtain ⟨hname, hreadable⟩ := hreaches
    unfold handleSentSetConfig
    rw [if_neg (not_not_intro hname)]
    cases hsuccess : message.isSuccess with
    | true =>
      simp only [if_true, Program.run_get_bind]
      cases client.suppressSetConfigPostActions with
      | true => simp only [if_true, bind_pure_unit]; rfl
      | false => simp only [Bool.false_eq_true, if_false]
    | false =>
      simp only [Bool.false_eq_true, if_false]
      rw [Program.run_bind_ok (run_readStatus_of_readable hsuccess hreadable client)]
      rfl
  case sentAddRospec =>
    obtain ⟨hname, hreadable⟩ := hreaches
    unfold handleSentAddRospec
    rw [if_neg (not_not_intro hname)]
    cases hsuccess : message.isSuccess with
    | true => simp only [if_true, bind_pure_unit]
    | false =>
      simp only [Bool.false_eq_true, if_false]
      rw [Program.run_bind_ok (run_readStatus_of_readable hsuccess hreadable client)]
      rfl
  case sentEnableRospec =>
    obtain ⟨hname, hreadable⟩ := hreaches
    rw [bind_pure_unit, ← run_handleAny hreadable]
    unfold handleSentEnableRospec
    rw [if_neg (not_not_intro hname)]
    rfl
  case sentStartRospec =>
    rw [bind_pure_unit, ← run_handleAny hreaches.2]
    unfold handleSentStartRospec
    rw [if_neg (by simpa using hreaches.1)]
  case inventorying =>
    rw [bind_pure_unit]
    unfold handleInventorying
    rw [if_pos hreaches]
  case sentDeleteRospec => rw [bind_pure_unit]; exact run_handleAny hreaches
  case sentDeleteAccessspec => rw [bind_pure_unit]; rfl
  case sentGetCapabilities =>
    obtain ⟨hname, hreads⟩ := hreaches
    unfold handleSentGetCapabilities
    rw [if_neg (not_not_intro hname)]
    cases hsuccess : message.isSuccess with
    | true =>
      simp only [hsuccess, if_true] at hreads ⊢
      rw [Program.run_modify_bind, ← Client.withCapabilities]
      have hraises := raises_withCapabilities hstate message.capabilities
      rw [hreads, Program.raises] at hraises
      rcases hparse : parseCapabilities message.capabilities
        (client.withCapabilities message.capabilities) with ⟨_ | _, parsed⟩
      · simp [hparse] at hraises
      · rw [Program.run_bind_ok hparse, Program.final, hparse]
    | false =>
      simp only [hsuccess, Bool.false_eq_true, if_false] at hreads ⊢
      exact Program.run_bind_ok (run_readStatus_of_readable hsuccess hreads client)
  case pausing => rw [bind_pure_unit]; exact run_handleAny hreaches
  case paused => exact absurd hreaches Bool.false_ne_true
  case sentEnableImpinjExtensions =>
    exact run_handleSentEnableImpinjExtensions hreaches.1 hreaches.2

/-! ## Messages that complete nothing -/

/-- A branch that raises before it completes anything leaves the client alone,
unless it stored the capabilities it then refused. -/
theorem final_dispatch_of_not_reaches {client : Client} {message : LLRPMessage}
    (hreaches : client.reaches message = false) :
    (dispatch client.state message).final client =
      if client.refusesCapabilities message then
        (parseCapabilities message.capabilities).final
          (client.withCapabilities message.capabilities)
      else client := by
  have hfails : ∀ next : ClientM Unit, message.statusReadable = false →
      ((readStatus message >>= fun _ => next) client).2 = client := by
    intro next hunreadable
    obtain ⟨raised, hraised⟩ := run_readStatus_of_not_readable hunreadable client
    rw [Program.run_bind_error hraised]
  have hfailed : message.statusReadable = false → message.isSuccess = false := by
    intro hunreadable
    simp only [LLRPMessage.statusReadable, Bool.or_eq_false_iff] at hunreadable
    exact hunreadable.1
  have hany : message.statusReadable = false → ((handleAny message) client).2 = client := by
    intro hunreadable
    unfold handleAny
    rw [if_neg (by simp [hfailed hunreadable])]
    exact hfails _ hunreadable
  have hconnecting :
      message.name ≠ .readerEventNotification ∨ message.isSuccess = false →
      ((handleConnecting message) client).2 = client := by
    intro hrefused
    unfold handleConnecting
    rcases hrefused with hname | hsuccess
    · rw [if_pos hname, Program.run_pure]
    · have hread : ((readEvent message) client).2 = client := by
        rw [run_readEvent]
        cases message.event <;> rfl
      rw [hsuccess]
      split
      · rfl
      · exact hread
  unfold Client.reaches at hreaches
  unfold dispatch Client.refusesCapabilities Program.final
  cases hstate : client.state <;>
    simp only [hstate, Bool.and_eq_false_iff, decide_eq_false_iff_not, reduceCtorEq, decide_false,
      Bool.false_and, Bool.false_eq_true, if_false, decide_true, Bool.true_and] at hreaches ⊢
  case disconnected => exact hconnecting hreaches
  case connecting => exact hconnecting hreaches
  case connected => exact hconnecting hreaches
  case sentGetConfig =>
    unfold handleSentGetConfig
    by_cases hname : message.name ∈ [MessageName.getReaderConfigResponse,
      .deleteAccessspecResponse, .deleteRospecResponse]
    · have hunreadable := hreaches.resolve_left (not_not_intro hname)
      rw [if_neg (not_not_intro hname), if_neg (by simp [hfailed hunreadable])]
      exact hfails _ hunreadable
    · rw [if_pos hname, Program.run_raise]
  case sentSetConfig =>
    unfold handleSentSetConfig
    by_cases hname : message.name ∈ [MessageName.setReaderConfigResponse,
      .getReaderConfigResponse, .deleteAccessspecResponse]
    · have hunreadable := hreaches.resolve_left (not_not_intro hname)
      rw [if_neg (not_not_intro hname), if_neg (by simp [hfailed hunreadable])]
      exact hfails _ hunreadable
    · rw [if_pos hname, Program.run_raise]
  case sentAddRospec =>
    unfold handleSentAddRospec
    by_cases hname : message.name = .addRospecResponse
    · have hunreadable := hreaches.resolve_left (not_not_intro hname)
      rw [if_neg (not_not_intro hname), if_neg (by simp [hfailed hunreadable])]
      exact hfails _ hunreadable
    · rw [if_pos hname, Program.run_raise]
  case sentEnableRospec =>
    unfold handleSentEnableRospec
    by_cases hname : message.name = .enableRospecResponse
    · have hunreadable := hreaches.resolve_left (not_not_intro hname)
      rw [if_neg (not_not_intro hname)]
      exact hany hunreadable
    · rw [if_pos hname, Program.run_pure]
  case sentStartRospec =>
    unfold handleSentStartRospec
    split
    · rfl
    · rename_i hname
      exact hany (hreaches.resolve_left (by simpa using hname))
  case inventorying =>
    unfold handleInventorying
    rw [if_neg hreaches, Program.run_pure]
  case sentDeleteRospec => exact hany hreaches
  case sentGetCapabilities =>
    unfold handleSentGetCapabilities
    by_cases hname : message.name = .getReaderCapabilitiesResponse
    · have hreads := hreaches.resolve_left (not_not_intro hname)
      rw [if_neg (not_not_intro hname), hname]
      cases hsuccess : message.isSuccess with
      | true =>
        simp only [hsuccess, if_true] at hreads
        rw [if_pos rfl, if_pos (by simp [hreads]), Program.run_modify_bind,
          ← Client.withCapabilities]
        have hraises := raises_withCapabilities hstate message.capabilities
        rw [hreads, Program.raises] at hraises
        rcases hparse : parseCapabilities message.capabilities
          (client.withCapabilities message.capabilities) with ⟨_ | _, parsed⟩
        · rw [Program.run_bind_error hparse]
        · simp [hparse] at hraises
      | false =>
        simp only [hsuccess, Bool.false_eq_true, if_false] at hreads
        rw [if_neg Bool.false_ne_true, if_neg (by simp)]
        exact hfails _ hreads
    · rw [if_pos hname, if_neg (by simp [hname]), Program.run_raise]
  case pausing => exact hany hreaches
  case paused => rfl
  case sentEnableImpinjExtensions =>
    unfold handleSentEnableImpinjExtensions
    by_cases hname : message.name = .impinjEnableExtensionsResponse
    · have hunreadable := hreaches.resolve_left (not_not_intro hname)
      rw [if_neg (not_not_intro hname), if_neg (by simp [hfailed hunreadable])]
      exact hfails _ hunreadable
    · rw [if_pos hname, Program.run_raise]

/-- The same of a message that may be filtered out. -/
theorem final_handleMessage_of_not_completes {client : Client} {message : LLRPMessage}
    (hname : message.name ≠ .keepalive) (hcompletes : client.completes message = false) :
    (handleMessage message).final client =
      if !ignored client message && client.refusesCapabilities message then
        (parseCapabilities message.capabilities).final
          (client.withCapabilities message.capabilities)
      else client := by
  unfold handleMessage
  rw [Program.final, Program.run_get_bind, if_neg hname]
  cases hignored : ignored client message with
  | true => rfl
  | false =>
    simp only [Client.completes, hignored, hname, ne_eq, not_false_eq_true, decide_true,
      Bool.not_false, Bool.true_and] at hcompletes ⊢
    exact final_dispatch_of_not_reaches hcompletes

/-- A message that completes nothing leaves the correlation core alone. -/
theorem core_handleMessage_of_not_completes {client : Client} {message : LLRPMessage}
    (hname : message.name ≠ .keepalive) (hcompletes : client.completes message = false) :
    ((handleMessage message).final client).core = client.core := by
  rw [final_handleMessage_of_not_completes hname hcompletes]
  split
  · rename_i hrefuses
    simp only [Client.refusesCapabilities, Bool.and_eq_true, decide_eq_true_eq] at hrefuses
    have hstate : (client.withCapabilities message.capabilities).state ≠ .inventorying := by
      change client.state ≠ _
      rw [hrefuses.2.1.1.1]
      decide
    obtain ⟨values, hparsed⟩ := parseCapabilities_parsing message.capabilities _ hstate
    rw [Program.final, hparsed]
    rfl
  · rfl

/-- Before the completion, only a suppressed SET_READER_CONFIG changes the
correlation core: the client is CONNECTED again. -/
theorem core_prepared (client : Client) (message : LLRPMessage) :
    (client.prepared message).core =
      { client.core with
        state :=
          if client.state = .sentSetConfig ∧ message.isSuccess = true ∧
              client.suppressSetConfigPostActions = true then .connected
          else client.state } := by
  unfold Client.prepared
  cases hstate : client.state <;>
    simp only [reduceCtorEq, false_and, if_false, true_and] <;>
    try exact congrArg (fun state => { client.core with state }) hstate
  case sentGetConfig =>
    split <;> exact congrArg (fun state => { client.core with state }) hstate
  case sentSetConfig =>
    cases hsuccess : message.isSuccess with
    | true =>
      cases hsuppress : client.suppressSetConfigPostActions with
      | true => rfl
      | false => exact congrArg (fun state => { client.core with state }) hstate
    | false => exact congrArg (fun state => { client.core with state }) hstate
  case sentGetCapabilities =>
    cases hsuccess : message.isSuccess with
    | true =>
      have hquiet : (client.withCapabilities message.capabilities).state ≠ .inventorying := by
        change client.state ≠ _
        rw [hstate]
        decide
      obtain ⟨values, hparsed⟩ :=
        parseCapabilities_parsing message.capabilities _ hquiet
      rw [if_pos rfl, Program.final, hparsed]
      exact congrArg (fun state => { client.core with state }) hstate
    | false => exact congrArg (fun state => { client.core with state }) hstate

end Sllurp.Session
