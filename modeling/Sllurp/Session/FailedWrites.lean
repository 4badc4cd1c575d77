/-
# Writes that fail

A message is answered by requests, and a request that cannot be encoded or sent raises
where it is written. Up to the first such write a run does what it does when every write
goes out, and nothing on the way to the receive loop stops the exception. So the run in
which all writes go out, and the first failure among the writes that it attempts, decide
what handling a message raises.
-/

import Sllurp.Session.SentRequests

namespace Sllurp.Session

open Sllurp.Foundations Sllurp.Protocol Sllurp.Config Sllurp.Runtime
open Sllurp.Foundations.Program

/-- The exception of the first write that fails. -/
def firstFailure (writes : List (Option Exn)) : Option Exn := writes.findSome? id

theorem firstFailure_append (writes others : List (Option Exn)) :
    firstFailure (writes ++ others) = (firstFailure writes).or (firstFailure others) :=
  List.findSome?_append

/-! ## Programs that write nothing -/

section Rules

variable {α β : Type}

/-- Outside INVENTORYING the program writes nothing and leaves the correlation core alone,
whatever would become of its writes. -/
def Writeless (program : ClientM α) : Prop :=
  ∀ client : Client, client.state ≠ .inventorying →
    ∃ (outcome : Except Exn α) (later : Client), later.core = client.core ∧
      ∀ writes, program (client.facing writes) = (outcome, later.facing writes)

namespace Writeless

theorem pure (value : α) : Writeless (pure value : ClientM α) :=
  fun client _ => ⟨.ok value, client, rfl, fun _ => rfl⟩

theorem raise (raised : Exn) : Writeless (.raise raised : ClientM α) :=
  fun client _ => ⟨.error raised, client, rfl, fun _ => rfl⟩

theorem ofExcept (result : Except Exn α) : Writeless (.ofExcept result : ClientM α) :=
  fun client _ => ⟨result, client, rfl, fun _ => rfl⟩

theorem modify {update : Client → Client} (hcore : ∀ client, (update client).core = client.core)
    (hfacing : ∀ client writes, update (client.facing writes) = (update client).facing writes) :
    Writeless (.modify update) :=
  fun client _ => ⟨.ok (), update client, hcore client,
    fun writes => congrArg (Prod.mk _) (hfacing client writes)⟩

theorem bind {program : ClientM α} {next : α → ClientM β} (hprogram : Writeless program)
    (hnext : ∀ value, Writeless (next value)) : Writeless (program >>= next) := by
  intro client hclient
  obtain ⟨outcome, middle, hcore, hruns⟩ := hprogram client hclient
  cases outcome with
  | error raised =>
    exact ⟨.error raised, middle, hcore, fun writes => run_bind_error (hruns writes)⟩
  | ok value =>
    have hstate : middle.state = client.state := congrArg Core.state hcore
    have hmiddle : middle.state ≠ .inventorying := hstate ▸ hclient
    obtain ⟨outcome, later, hlater, hrest⟩ := hnext value middle hmiddle
    exact ⟨outcome, later, hlater.trans hcore,
      fun writes => (run_bind_ok (hruns writes)).trans (hrest writes)⟩

/-- The rest of the program may use all of the client but its writes. -/
theorem get_bind {next : Client → ClientM β}
    (hsame : ∀ client writes, next (client.facing writes) = next client)
    (hnext : ∀ client : Client, client.state ≠ .inventorying → Writeless (next client)) :
    Writeless (Program.get >>= next) := by
  intro client hclient
  obtain ⟨outcome, later, hcore, hruns⟩ := hnext client hclient client hclient
  refine ⟨outcome, later, hcore, fun writes => ?_⟩
  rw [run_get_bind, hsame]
  exact hruns writes

theorem ite {condition : Prop} [Decidable condition] {first second : ClientM α}
    (hfirst : condition → Writeless first) (hsecond : ¬ condition → Writeless second) :
    Writeless (if condition then first else second) := by
  split
  · exact hfirst ‹_›
  · exact hsecond ‹_›

theorem attempt {program : ClientM α} (hprogram : Writeless program) :
    Writeless program.attempt := by
  intro client hclient
  obtain ⟨outcome, later, hcore, hruns⟩ := hprogram client hclient
  refine ⟨.ok outcome, later, hcore, fun writes => ?_⟩
  rw [run_attempt, hruns]

end Writeless

/-! ## Runs up to the first failure -/

/-- With any outcomes of its writes, the program does what it does when all of them go out,
or it raises the first failure among those that it attempts. -/
def Follows (program : ClientM α) (client : Client) : Prop :=
  ∃ (outcome : Except Exn α) (later : Client) (count : ℕ),
    later.requests.length = client.requests.length + count ∧
      ∀ writes, match firstFailure (writes.take count) with
        | none => program (client.facing writes) = (outcome, later.facing (writes.drop count))
        | some raised => (program (client.facing writes)).1 = .error raised

namespace Follows

variable {client start : Client}

/-- A program that does what another one does from some client on. -/
theorem of_run {program other : ClientM α} (hrequests : start.requests = client.requests)
    (hrun : ∀ writes, program (client.facing writes) = other (start.facing writes))
    (hother : Follows other start) : Follows program client := by
  obtain ⟨outcome, later, count, hcount, hruns⟩ := hother
  rw [hrequests] at hcount
  refine ⟨outcome, later, count, hcount, fun writes => ?_⟩
  rw [hrun]
  exact hruns writes

theorem pure (value : α) (client : Client) : Follows (pure value : ClientM α) client :=
  ⟨.ok value, client, 0, rfl, fun _ => rfl⟩

theorem raise (raised : Exn) (client : Client) : Follows (.raise raised : ClientM α) client :=
  ⟨.error raised, client, 0, rfl, fun _ => rfl⟩

theorem modify {update : Client → Client} (hrequests : (update client).requests = client.requests)
    (hfacing : ∀ writes, update (client.facing writes) = (update client).facing writes) :
    Follows (.modify update) client :=
  ⟨.ok (), update client, 0, congrArg List.length hrequests,
    fun writes => congrArg (Prod.mk _) (hfacing writes)⟩

/-- The rest of the program may use all of the client but its writes. -/
theorem get_bind {next : Client → ClientM β}
    (hsame : ∀ writes, next (client.facing writes) = next client)
    (hnext : Follows (next client) client) : Follows (Program.get >>= next) client :=
  of_run rfl (fun writes => congrFun (hsame writes) (client.facing writes)) hnext

theorem modify_bind {update : Client → Client} {next : Unit → ClientM β}
    (hrequests : (update client).requests = client.requests)
    (hfacing : ∀ writes, update (client.facing writes) = (update client).facing writes)
    (hnext : Follows (next ()) (update client)) : Follows (.modify update >>= next) client :=
  of_run hrequests (fun writes => congrArg (next ()) (hfacing writes)) hnext

theorem ite {condition : Prop} [Decidable condition] {first second : ClientM α}
    (hfirst : condition → Follows first client) (hsecond : ¬ condition → Follows second client) :
    Follows (if condition then first else second) client := by
  split
  · exact hfirst ‹_›
  · exact hsecond ‹_›

/-- A sequence fails where its first part fails, or where the second does after it. -/
theorem bind {program : ClientM α} {next : α → ClientM β} (hprogram : Follows program client)
    (hnext : ∀ value later, Follows (next value) later) : Follows (program >>= next) client := by
  have hstops : ∀ {writes raised}, (program (client.facing writes)).1 = .error raised →
      ((program >>= next) (client.facing writes)).1 = .error raised := by
    intro writes raised hraised
    rcases hrun : program (client.facing writes) with ⟨other | _, later⟩
    · rw [hrun] at hraised
      cases hraised
      rw [run_bind_error hrun]
    · rw [hrun] at hraised
      cases hraised
  obtain ⟨outcome, middle, count, hcount, hruns⟩ := hprogram
  cases outcome with
  | error raised =>
    refine ⟨.error raised, middle, count, hcount, fun writes => ?_⟩
    have hrun := hruns writes
    cases hfailure : firstFailure (writes.take count) with
    | none =>
      rw [hfailure] at hrun
      exact run_bind_error hrun
    | some failed =>
      rw [hfailure] at hrun
      exact hstops hrun
  | ok value =>
    obtain ⟨outcome, later, more, hmore, hrest⟩ := hnext value middle
    refine ⟨outcome, later, count + more, by rw [hmore, hcount, Nat.add_assoc], fun writes => ?_⟩
    have hrun := hruns writes
    have hlater := hrest (writes.drop count)
    rw [List.take_add, firstFailure_append]
    cases hfailure : firstFailure (writes.take count) with
    | none =>
      rw [hfailure] at hrun
      rw [List.drop_drop] at hlater
      rw [Option.none_or, run_bind_ok hrun]
      exact hlater
    | some failed =>
      rw [hfailure] at hrun
      exact hstops hrun

end Follows

/-- What writes nothing hands the same client on, whatever the outcomes. -/
theorem Writeless.follows_bind {program : ClientM α} {next : α → ClientM β}
    (hprogram : Writeless program) {client : Client} (hclient : client.state ≠ .inventorying)
    (hnext : ∀ value later, later.core = client.core → Follows (next value) later) :
    Follows (program >>= next) client := by
  obtain ⟨outcome, middle, hcore, hruns⟩ := hprogram client hclient
  have hrequests := requests_of_history (congrArg Core.history hcore)
  cases outcome with
  | error raised =>
    exact ⟨.error raised, middle, 0, congrArg List.length hrequests,
      fun writes => run_bind_error (hruns writes)⟩
  | ok value =>
    exact .of_run hrequests (fun writes => run_bind_ok (hruns writes)) (hnext value middle hcore)

end Rules

/-! ## What is built and installed -/

theorem writeless_getROSpec (forceNew : Bool) : Writeless (getROSpec forceNew) := by
  unfold getROSpec
  refine .get_bind (fun _ _ => rfl) fun client _ => ?_
  cases client.rospec.filter fun _ => !forceNew with
  | some rospec => exact .pure _
  | none =>
    refine .bind (.ofExcept _) fun built => ?_
    refine .bind (.modify (fun _ => rfl) fun _ _ => rfl) fun _ => ?_
    refine .ite (fun _ => ?_) fun _ => .pure _
    cases client.settings.dedupSeconds with
    | none => exact .raise _
    | some seconds => exact .bind (.modify (fun _ => rfl) fun _ _ => rfl) fun _ => .pure _

theorem writeless_assignPowers (selected : List (ℤ × ℕ × ℚ)) (needsUpdate : Bool) :
    Writeless (assignPowers selected needsUpdate) := by
  induction selected generalizing needsUpdate with
  | nil => exact .pure _
  | cons entry selected ih =>
    obtain ⟨antenna, index, power⟩ := entry
    unfold assignPowers
    refine .get_bind (fun _ _ => rfl) fun client _ => ?_
    cases client.settings.txPower with
    | index _ => exact .raise _
    | perAntenna powers =>
      dsimp only
      cases powers.get? antenna with
      | none => exact .raise _
      | some current =>
        refine .ite (fun _ => ih _) fun _ => ?_
        exact .bind (.modify (fun _ => rfl) fun _ _ => rfl) fun _ => ih _

/-- A change of the powers stops the inventory in INVENTORYING only. -/
theorem writeless_setTxPower (txPower : List (ℤ × ℤ)) (zeroIsMax : Bool) :
    Writeless (setTxPower txPower zeroIsMax) := by
  unfold setTxPower
  refine .get_bind (fun _ _ => rfl) fun client _ => .bind (.ofExcept _) fun selected => ?_
  refine .bind (writeless_assignPowers _ _) fun needsUpdate => ?_
  refine .get_bind (fun _ _ => rfl) fun client hclient => ?_
  refine .ite (fun hrestarts => ?_) fun _ => .pure _
  exact absurd (of_decide_eq_true (Bool.and_eq_true_iff.mp hrestarts).2) hclient

theorem writeless_setTxPowerDbm (txPowDbm : Option (Dict ℤ ℚ)) :
    Writeless (setTxPowerDbm txPowDbm) := by
  unfold setTxPowerDbm
  refine .get_bind (fun _ _ => rfl) fun client _ => ?_
  dsimp only
  cases (validIndices client.txPowerIndices client.txPowerTable).argmax
    (powerAt client.txPowerTable) with
  | none => exact .raise _
  | some maxPowerIdx =>
    cases txPowDbm with
    | none => exact writeless_setTxPower _ _
    | some levels =>
      exact .bind (.modify (fun _ => rfl) fun _ _ => rfl) fun _ => writeless_setTxPower _ _

theorem writeless_setConfiguredPower : Writeless setConfiguredPower := by
  unfold setConfiguredPower
  refine .get_bind (fun _ _ => rfl) fun client _ => ?_
  split
  · exact writeless_setTxPowerDbm _
  · exact .raise _
  · exact writeless_setTxPower _ _
  · exact .raise _

theorem writeless_parseCapabilities (capabilities : Capabilities) :
    Writeless (parseCapabilities capabilities) := by
  have hderive : ∀ update : Client → Client, (∀ client, (update client).core = client.core) →
      (∀ client writes, update (client.facing writes) = (update client).facing writes) →
      Writeless (.modify update) := fun _ => .modify
  unfold parseCapabilities
  refine .bind (.ofExcept _) fun maxAnt => ?_
  refine .bind (hderive _ (fun _ => rfl) fun _ _ => rfl) fun _ => ?_
  refine .get_bind (fun _ _ => rfl) fun client _ => .bind (.ofExcept _) fun _ => ?_
  refine .bind (.ofExcept _) fun band => ?_
  refine .bind (hderive _ (fun _ => rfl) fun _ _ => rfl) fun _ => ?_
  refine .bind writeless_setConfiguredPower fun _ => .bind (.ofExcept _) fun modes => ?_
  refine .bind (hderive _ (fun _ => rfl) fun _ _ => rfl) fun _ => ?_
  refine .get_bind (fun _ _ => rfl) fun client _ => .bind (.ofExcept _) fun mode => ?_
  refine .bind (hderive _ (fun _ => rfl) fun _ _ => rfl) fun _ => .bind (.ofExcept _) fun _ => ?_
  exact .bind (.ofExcept _) fun backend => hderive _ (fun _ => rfl) fun _ _ => rfl

theorem writeless_installRuntimeConfig (ref : ConfigRef) :
    Writeless (installRuntimeConfig ref) := by
  unfold installRuntimeConfig
  refine .bind (.modify (fun _ => rfl) fun _ _ => rfl) fun _ => ?_
  refine .get_bind (fun _ _ => rfl) fun client _ => ?_
  cases client.capabilities with
  | none => exact .pure _
  | some capabilities => exact writeless_parseCapabilities capabilities

/-! ## Writing -/

theorem follows_write (serial : Option ℕ) (messageId : ℕ) (request : Request) (client : Client) :
    Follows (write serial messageId request) client := by
  refine ⟨.ok (), client.record (.sent serial messageId request), 1, ?_, fun writes => ?_⟩
  · unfold Client.requests Client.record
    rw [List.filterMap_append, List.length_append]
    rfl
  · cases writes with
    | nil => rfl
    | cons outcome writes => cases outcome <;> rfl

theorem follows_sendRequest (request : Request) (name : MessageName) (onCompletion : Callback)
    (newState : Option ReaderState) (client : Client) :
    Follows (sendRequest request name onCompletion newState) client := by
  cases hwaiting : client.isWaiting name with
  | true =>
    have hsame : ∀ writes, (client.facing writes).isWaiting name = true := fun _ => hwaiting
    exact ⟨.error _, client, 0, rfl, fun writes =>
      run_sendRequest_of_isWaiting (hsame writes) request onCompletion newState⟩
  | false =>
    refine ⟨.ok (), client.afterSend request name onCompletion newState, 1, ?_, fun writes => ?_⟩
    · rw [requests_afterSend, List.length_append]
      rfl
    · have hsame : (client.facing writes).isWaiting name = false := hwaiting
      have hrun := run_sendRequest hsame request onCompletion newState
      cases writes with
      | nil =>
        refine hrun.trans ?_
        cases newState <;> rfl
      | cons outcome writes =>
        cases outcome with
        | none =>
          refine hrun.trans ?_
          cases newState <;> rfl
        | some raised => exact congrArg Prod.fst hrun

theorem follows_sendMessage (request : Request) (client : Client) :
    Follows (sendMessage request) client := by
  unfold sendMessage
  refine .get_bind (fun _ => rfl) ?_
  dsimp only
  cases request.name.response.filter client.isWaiting with
  | some name => exact .raise _ _
  | none => exact .modify_bind rfl (fun _ => rfl) (follows_write _ _ _ _)

theorem follows_sendSetReaderConfig (onCompletion : Callback) (client : Client) :
    Follows (sendSetReaderConfig onCompletion) client :=
  .get_bind (fun _ => rfl) (follows_sendRequest _ _ _ _ _)

theorem follows_sendGetReaderConfig (onCompletion : Callback) (client : Client) :
    Follows (sendGetReaderConfig onCompletion) client :=
  .get_bind (fun _ => rfl) (follows_sendRequest _ _ _ _ _)

theorem follows_stopPolitely (onCompletion : Completion) (disconnect : Bool) (client : Client) :
    Follows (stopPolitely onCompletion disconnect) client :=
  .modify_bind rfl (fun _ => rfl) (follows_sendRequest _ _ _ _ _)

theorem follows_startInventory (forceRegenRospec : Bool) (onCompletion : Completion)
    {completed : ClientM Unit} {client : Client} (hcompleted : Follows completed client) :
    Follows (startInventory forceRegenRospec onCompletion completed) client := by
  unfold startInventory
  refine .get_bind (fun _ => rfl) (.ite (fun _ => hcompleted) fun hstate => ?_)
  refine (writeless_getROSpec _).follows_bind hstate fun rospec later _ => ?_
  exact .modify_bind rfl (fun _ => rfl) (follows_sendRequest _ _ _ _ _)

theorem follows_startAccess (operation : AccessOperation) (client : Client) :
    Follows (startAccess operation) client := by
  unfold startAccess
  cases accessSpec operation with
  | error raised => exact .raise raised client
  | ok spec => exact follows_sendRequest _ _ _ _ client

theorem follows_finishSetup (client : Client) : Follows finishSetup client := by
  unfold finishSetup
  refine .get_bind (fun _ => rfl) (.ite (fun _ => .pure _ _) fun _ => ?_)
  refine .ite (fun _ => follows_stopPolitely _ _ _) fun _ => ?_
  exact .ite (fun _ => follows_startInventory _ _ (.pure _ _)) fun _ => .pure _ _

/-! ## The links of a transition -/

section Links

variable (frame : ApplyFrame) (error : String) (client : Client)

theorem follows_setState_bind {newState : ReaderState} {next : Unit → ClientM Unit}
    (hnext : Follows (next ()) (client.setState newState)) :
    Follows (setState newState >>= next) client :=
  .modify_bind rfl (fun _ => rfl) hnext

theorem follows_succeed (id : TransitionId) (hook : Hook) : Follows (succeed id hook) client := by
  cases hook <;> exact .modify rfl fun _ => rfl

theorem facing_hookFailed (hook : Hook) (writes : List (Option Exn)) :
    (client.facing writes).hookFailed hook = (client.hookFailed hook).facing writes := by
  cases hook with
  | application => rfl
  | completed newConfig oldConfig =>
    have hsame : (client.facing writes).state = client.state := rfl
    by_cases hstate : client.state = .disconnected
    · rw [hookFailed_of_disconnected hstate, hookFailed_of_disconnected (hsame.trans hstate)]
      rfl
    · rw [hookFailed_of_open hstate, hookFailed_of_open (hsame ▸ hstate)]
      rfl

theorem requests_hookFailed (hook : Hook) :
    (client.hookFailed hook).requests = client.requests := by
  cases hook with
  | application => rfl
  | completed newConfig oldConfig =>
    refine requests_of_history ?_
    by_cases hstate : client.state = .disconnected
    · rw [hookFailed_of_disconnected hstate]
      exact history_hardDisconnect (client.setReaderConfig oldConfig)
    · rw [hookFailed_of_open hstate]
      rfl

theorem follows_fail (id : TransitionId) (hook : Hook) : Follows (fail id hook error) client :=
  .modify (requests_hookFailed (client.conclude id .failed (some error)) hook)
    fun writes => facing_hookFailed (client.conclude id .failed (some error)) hook writes

theorem follows_finishRestore : Follows (frame.finishRestore error) client := by
  unfold ApplyFrame.finishRestore
  refine .ite (fun _ => ?_) fun _ => .ite (fun _ => ?_) fun _ => ?_
  · exact follows_setState_bind client (follows_startInventory _ _ (follows_fail error _ _ _))
  · exact follows_setState_bind client (follows_fail error _ _ _)
  · exact follows_setState_bind client (follows_fail error _ _ _)

theorem follows_cleanupReplacementRospec :
    Follows (frame.cleanupReplacementRospec error) client := by
  unfold ApplyFrame.cleanupReplacementRospec
  refine .get_bind (fun _ => rfl) (.ite (fun _ => follows_finishRestore frame error client)
    fun _ => ?_)
  exact follows_setState_bind client (follows_sendRequest _ _ _ _ _)

theorem follows_restoreOld (hstate : client.state ≠ .inventorying) :
    Follows (frame.restoreOld error) client := by
  unfold ApplyFrame.restoreOld
  have hinstall := (writeless_installRuntimeConfig frame.oldConfig).attempt
  refine hinstall.follows_bind hstate fun outcome later _ => ?_
  cases outcome with
  | error raised => exact follows_setState_bind later (follows_fail _ _ _ _)
  | ok _ =>
    refine .ite (fun _ => ?_) fun _ => follows_cleanupReplacementRospec frame error later
    exact follows_setState_bind later
      (.modify_bind rfl (fun _ => rfl) (follows_sendSetReaderConfig _ _))

theorem follows_finishNewState : Follows frame.finishNewState client := by
  unfold ApplyFrame.finishNewState
  refine .ite (fun _ => ?_) fun _ => .ite (fun _ => ?_) fun _ => ?_
  · exact follows_setState_bind client (follows_startInventory _ _ (follows_succeed _ _ _))
  · exact follows_setState_bind client (follows_succeed _ _ _)
  · exact follows_setState_bind client (follows_succeed _ _ _)

theorem follows_afterStopped (isSuccess : Bool) :
    Follows (frame.afterStopped isSuccess) client := by
  unfold ApplyFrame.afterStopped
  refine .ite (fun _ => follows_setState_bind client (follows_fail _ _ _ _)) fun _ => ?_
  refine follows_setState_bind client ?_
  have hstate : (client.setState .connected).state ≠ .inventorying := ReaderState.noConfusion
  have hinstall := (writeless_installRuntimeConfig frame.newConfig).attempt
  refine hinstall.follows_bind hstate fun outcome later hcore => ?_
  cases outcome with
  | error raised =>
    have hsame : later.state = .connected := congrArg Core.state hcore
    have hlater : later.state ≠ .inventorying := hsame ▸ ReaderState.noConfusion
    exact follows_restoreOld frame _ later hlater
  | ok _ =>
    refine .ite (fun _ => ?_) fun _ => follows_finishNewState frame later
    exact .modify_bind rfl (fun _ => rfl) (follows_sendSetReaderConfig _ _)

/-- The hypothesis on the state is that of `follows_restoreOld`. -/
theorem follows_runCompletion {onCompletion : Completion} {isSuccess : Bool}
    (hstate : client.state = .inventorying → onCompletion.ofStart = true → isSuccess = true) :
    Follows (runCompletion onCompletion isSuccess) client := by
  cases onCompletion with
  | absent => exact .pure _ _
  | application => exact .pure _ _
  | resetStopped =>
    refine .ite (fun _ => follows_setState_bind client ?_) fun _ => .pure _ _
    refine .get_bind (fun _ => rfl) (.ite (fun _ => ?_) fun _ => .pure _ _)
    exact follows_startInventory _ _ (.pure _ _)
  | txPowerStopped =>
    refine .ite (fun _ => ?_) fun _ => .pure _ _
    exact follows_setState_bind client (follows_startInventory _ _ (.pure _ _))
  | disconnectStopped =>
    cases isSuccess with
    | true =>
      have hhistory := history_hardDisconnect (client.setState .disconnected)
      exact .modify (requests_of_history hhistory) fun _ => rfl
    | false => exact .modify (requests_of_history (history_hardDisconnect client)) fun _ => rfl
  | deleted =>
    refine .ite (fun _ => ?_) fun _ => .pure _ _
    exact follows_setState_bind client (follows_startInventory _ _ (.pure _ _))
  | afterStopped frame => exact follows_afterStopped frame client isSuccess
  | restarted frame =>
    refine .ite (fun _ => follows_succeed _ _ _) fun hfailed => ?_
    exact follows_restoreOld frame _ client fun hinventorying => hfailed (hstate hinventorying rfl)
  | restored frame error =>
    refine .ite (fun _ => follows_fail _ _ _ _) fun _ => ?_
    exact follows_setState_bind client (follows_fail _ _ _ _)
  | afterRospecCleanup frame error =>
    refine .ite (fun _ => follows_finishRestore frame error client) fun _ => ?_
    exact follows_setState_bind client (follows_fail _ _ _ _)

end Links

/-! ## Callbacks -/

/-- While inventorying, only callbacks of access operations are run. -/
theorem follows_runCallback {client : Client} {callback : Callback} {name : MessageName}
    (hanswers : callback.answers name = true)
    (hstate : client.state = .inventorying → name ∈ accessResponses) (isSuccess : Bool) :
    Follows (runCallback callback isSuccess) client := by
  have hother : ∀ {other : MessageName}, name = other → other ∉ accessResponses →
      client.state ≠ .inventorying := by
    rintro other rfl hmem heq
    exact hmem (hstate heq)
  cases callback with
  | application => exact .pure _ _
  | getReaderCapabilitiesCb => exact .ite (fun _ => .modify rfl fun _ => rfl) fun _ => .pure _ _
  | enableImpinjExtCb =>
    exact .ite (fun _ => follows_sendRequest _ _ _ _ _) fun _ => .raise _ _
  | getReaderConfigCb => exact .ite (fun _ => .modify rfl fun _ => rfl) fun _ => .pure _ _
  | setReaderConfigCb => exact .ite (fun _ => .modify rfl fun _ => rfl) fun _ => .pure _ _
  | enabledRospecCb onCompletion =>
    have hleft := hother (of_decide_eq_true hanswers) (by decide)
    cases isSuccess with
    | true =>
      exact follows_setState_bind client (follows_runCompletion _ fun _ _ => rfl)
    | false => exact follows_runCompletion client fun heq => absurd heq hleft
  | sendAddedRospecCb rospec onCompletion =>
    have hleft := hother (of_decide_eq_true hanswers) (by decide)
    refine .ite (fun _ => ?_) fun _ => follows_runCompletion client fun heq => absurd heq hleft
    exact .modify_bind rfl (fun _ => rfl) (follows_sendRequest _ _ _ _ _)
  | sendDeleteAccessspecCb onCompletion =>
    simp only [Callback.answers, Bool.and_eq_true, Bool.not_eq_true'] at hanswers
    refine .ite (fun _ => follows_sendRequest _ _ _ _ _) fun _ => ?_
    exact follows_runCompletion client fun _ hstart =>
      absurd (hanswers.2.symm.trans hstart) Bool.false_ne_true
  | stopAllRospecsCb onCompletion =>
    have hleft := hother (of_decide_eq_true hanswers) (by decide)
    refine .modify_bind rfl (fun _ => rfl) ?_
    exact follows_runCompletion _ fun heq => absurd heq hleft
  | disableRospecPauseCb durationSeconds forceRegenRospec =>
    refine .ite (fun _ => follows_setState_bind client ?_) fun _ => .pure _ _
    exact .ite (fun _ => .modify rfl fun _ => rfl) fun _ => .pure _ _
  | enableRospecResumeCb => exact .ite (fun _ => .modify rfl fun _ => rfl) fun _ => .pure _ _
  | addAccessspecCb accessSpecId =>
    exact .ite (fun _ => follows_sendMessage _ _) fun _ => .pure _ _
  | disableAccessspecCb operation => exact follows_sendRequest _ _ _ _ _
  | startNextAccessspecCb operation => exact follows_startAccess operation client
  | readerConfigApplied frame =>
    have hleft := hother (of_decide_eq_true hanswers) (by decide)
    refine .ite (fun _ => follows_finishNewState _ client) fun _ => ?_
    exact follows_restoreOld frame _ client hleft
  | oldReaderConfigRestored frame error =>
    refine .ite (fun _ => follows_cleanupReplacementRospec frame error client) fun _ => ?_
    exact follows_setState_bind client (follows_fail _ _ _ _)

/-- What is deferred under the name of a message is the one callback of a request, and one
that is run in the state of the client. -/
structure Answering (core : Core) (message : LLRPMessage) : Prop where
  single : (core.deferreds message.name).length ≤ 1
  answers : ∀ deferred ∈ core.deferreds message.name,
    deferred.callback.answers message.name = true
  pending : ∀ pending, core.pendingAt message.name message.id = some pending →
    deferredOf pending ∈ core.deferreds message.name
  access : core.state = .inventorying → core.deferreds message.name ≠ [] →
    message.name ∈ accessResponses

namespace Answering

variable {core : Core} {message : LLRPMessage}

theorem setState (hanswering : Answering core message) {newState : ReaderState}
    (hnew : newState ≠ .inventorying) : Answering { core with state := newState } message :=
  ⟨hanswering.single, hanswering.answers, hanswering.pending, fun heq => absurd heq hnew⟩

/-- The callback of a request that is completed. -/
theorem runCallback {client start : Client} (hanswering : Answering client.core message)
    {deferred : Deferred} (hmem : deferred ∈ client.core.deferreds message.name)
    (hstate : start.state = client.state) (isSuccess : Bool) :
    Follows (Session.runCallback deferred.callback isSuccess) start :=
  follows_runCallback (hanswering.answers deferred hmem) (fun heq =>
    hanswering.access (hstate.symm.trans heq) (List.ne_nil_of_mem hmem)) isSuccess

/-- What is completed is either the exact pending request or the one that is left over. -/
theorem complete {client : Client} (hanswering : Answering core message)
    (hcore : client.core = core) (isSuccess : Bool) :
    Follows (Session.complete message isSuccess) client := by
  subst hcore
  cases hpending : client.core.pendingAt message.name message.id with
  | some pending =>
    have hstate : (client.completed message.name message.id pending isSuccess).state =
        client.state :=
      congrArg Core.state (core_completed client message.name message.id pending isSuccess)
    have hcallback : Follows (Session.runCallback pending.callback isSuccess)
        (client.completed message.name message.id pending isSuccess) :=
      hanswering.runCallback (hanswering.pending pending hpending) hstate isSuccess
    refine .of_run (requests_completed client message.name message.id pending isSuccess)
      (fun writes => ?_) hcallback
    have hsame : (client.facing writes).core.pendingAt message.name message.id = some pending :=
      hpending
    exact run_processDeferreds_of_pending hsame isSuccess
  | none =>
    let start := if client.pendingRequests.isStale message.name message.id then client
      else client.setDeferreds message.name []
    have hstart : start.requests = client.requests ∧ start.state = client.state := by
      dsimp only [start]
      split <;> exact ⟨rfl, rfl⟩
    refine .of_run hstart.1 (fun writes => ?_)
      (?_ : Follows (invokeAll (client.core.leftover message) isSuccess) start)
    · have hsame : (client.facing writes).core.pendingAt message.name message.id = none := hpending
      refine (run_complete_of_not_pending hsame isSuccess).trans ?_
      change invokeAll (client.core.leftover message) isSuccess
        (if client.pendingRequests.isStale message.name message.id then _ else _) = _
      dsimp only [start]
      split <;> rfl
    · unfold Core.leftover
      split
      · exact .pure _ _
      · have hsingle := hanswering.single
        have hmem : ∀ deferred ∈ client.core.deferreds message.name,
            deferred ∈ client.core.deferreds message.name := fun _ => id
        revert hsingle hmem
        generalize hlist : client.core.deferreds message.name = waiting
        intro hsingle hmem
        cases waiting with
        | nil => exact .pure _ _
        | cons deferred rest =>
          have hrest : rest = [] :=
            List.eq_nil_of_length_eq_zero (Nat.le_zero.mp (Nat.le_of_succ_le_succ hsingle))
          subst hrest
          have hdeferred : deferred ∈ client.core.deferreds message.name := by
            rw [hlist]
            exact List.mem_singleton_self deferred
          have hstate : (start.record (.invoked deferred.serial isSuccess)).state =
              client.state := hstart.2
          have hcallback : Follows (Session.runCallback deferred.callback isSuccess)
              (start.record (.invoked deferred.serial isSuccess)) :=
            hanswering.runCallback hdeferred hstate isSuccess
          refine .bind ?_ fun _ later => .pure _ later
          exact .modify_bind (requests_record_invoked _ _ _) (fun _ => rfl) hcallback

end Answering

theorem answering_of_correlated {core : Core} (hcore : Correlated false core)
    (hfitting : Fitting core) {message : LLRPMessage}
    (haccess : core.state = .inventorying → core.deferreds message.name ≠ [] →
      message.name ∈ accessResponses) : Answering core message where
  single := hfitting.single message.name
  answers _ hmem := hfitting.answers hmem
  pending pending hpending := by
    rw [hcore.deferred hpending]
    exact List.mem_singleton_self _
  access := haccess

/-! ## The branches -/

theorem writeless_readStatus (message : LLRPMessage) : Writeless (readStatus message) :=
  .bind (.ofExcept _) fun _ => .bind (.ofExcept _) fun _ => .pure _

theorem follows_readEvent (message : LLRPMessage) (client : Client) :
    Follows (readEvent message) client := by
  unfold readEvent
  cases message.event <;> exact ⟨_, client, 0, rfl, fun _ => rfl⟩

theorem follows_sendEnableEventsAndReports (client : Client) :
    Follows sendEnableEventsAndReports client :=
  follows_sendMessage _ client

theorem follows_sendKeepaliveAck (messageId : ℕ) (client : Client) :
    Follows (sendKeepaliveAck messageId) client :=
  .get_bind (fun _ => rfl) (.ite (fun _ => follows_write _ _ _ client) fun _ => .raise _ client)

section Branches

variable {client : Client} {message : LLRPMessage}

/-- A failure is completed after its status is read. -/
theorem follows_refused (hleft : client.state ≠ .inventorying)
    (hanswering : Answering client.core message) {next : Unit → ClientM Unit}
    (hnext : ∀ later, Follows (next ()) later) :
    Follows (readStatus message >>= fun _ => complete message false >>= next) client :=
  (writeless_readStatus message).follows_bind hleft fun _ _ hcore =>
    .bind (hanswering.complete hcore false) fun _ => hnext

theorem follows_handleConnecting (hanswering : Answering client.core message) :
    Follows (handleConnecting message) client := by
  refine .ite (fun _ => .pure _ client) fun _ => .ite (fun _ => follows_readEvent message client)
    fun _ => ?_
  have hcore : client.notDisconnecting.core = client.core := rfl
  refine .modify_bind rfl (fun _ => rfl) (.bind (hanswering.complete hcore true) fun _ later => ?_)
  refine .get_bind (fun _ => rfl) (.ite (fun _ => ?_) fun _ => ?_)
  · exact follows_sendRequest _ _ _ _ later
  · exact follows_sendRequest _ _ _ _ later

theorem follows_handleSentEnableImpinjExtensions (hleft : client.state ≠ .inventorying)
    (hanswering : Answering client.core message) :
    Follows (handleSentEnableImpinjExtensions message) client :=
  .ite (fun _ => .raise _ client) fun _ => .ite (fun _ => hanswering.complete rfl true)
    fun _ => follows_refused hleft hanswering (.raise _)

theorem follows_handleSentGetCapabilities (hleft : client.state ≠ .inventorying)
    (hanswering : Answering client.core message) :
    Follows (handleSentGetCapabilities message) client := by
  refine .ite (fun _ => .raise _ client) fun _ => .ite (fun _ => ?_)
    fun _ => follows_refused hleft hanswering (.raise _)
  refine .modify_bind rfl (fun _ => rfl) ?_
  refine (writeless_parseCapabilities message.capabilities).follows_bind hleft
    fun _ later hcore => ?_
  refine .bind (hanswering.complete hcore true) fun _ later => .get_bind (fun _ => rfl) ?_
  exact .ite (fun _ => .pure _ later) fun _ => follows_sendGetReaderConfig _ later

theorem follows_handleSentGetConfig (hleft : client.state ≠ .inventorying)
    (hanswering : Answering client.core message) :
    Follows (handleSentGetConfig message) client := by
  refine .ite (fun _ => .raise _ client) fun _ => .ite (fun _ => ?_)
    fun _ => follows_refused hleft hanswering (.raise _)
  have hstored : ∀ start : Client, start.core = client.core →
      Follows (complete message true >>= fun _ => (do
        let client ← Program.get
        if client.disconnecting then pure ()
        else
          sendEnableEventsAndReports
          sendSetReaderConfig .setReaderConfigCb : ClientM Unit)) start := by
    intro start hcore
    refine .bind (hanswering.complete hcore true) fun _ later => .get_bind (fun _ => rfl) ?_
    refine .ite (fun _ => .pure _ later) fun _ => ?_
    exact .bind (follows_sendEnableEventsAndReports later)
      fun _ later => follows_sendSetReaderConfig _ later
  by_cases hname : message.name = .getReaderConfigResponse
  · rw [if_pos hname]
    exact .modify_bind rfl (fun _ => rfl) (hstored _ rfl)
  · rw [if_neg hname]
    exact hstored client rfl

theorem follows_handleSentSetConfig (hleft : client.state ≠ .inventorying)
    (hanswering : Answering client.core message) :
    Follows (handleSentSetConfig message) client := by
  refine .ite (fun _ => .raise _ client) fun _ => .ite (fun _ => ?_) fun _ => ?_
  · refine .get_bind (fun _ => rfl) (.ite (fun _ => ?_) fun _ => ?_)
    · have hcore : ({ client with suppressSetConfigPostActions := false }.setState
          .connected).core = (client.setState .connected).core := rfl
      have hconnected : Answering (client.setState .connected).core message :=
        hanswering.setState ReaderState.noConfusion
      exact .modify_bind rfl (fun _ => rfl) (hconnected.complete hcore true)
    · exact .bind (hanswering.complete rfl true) fun _ later => follows_finishSetup later
  · refine (writeless_readStatus message).follows_bind hleft fun _ later hcore => ?_
    have hkept : { later with suppressSetConfigPostActions := false }.core = client.core := hcore
    refine .get_bind (fun _ => rfl) (.modify_bind rfl (fun _ => rfl) ?_)
    refine .bind (hanswering.complete hkept false) fun _ later => ?_
    exact .ite (fun _ => .pure _ later) fun _ => .raise _ later

theorem follows_handleSentAddRospec (hleft : client.state ≠ .inventorying)
    (hanswering : Answering client.core message) :
    Follows (handleSentAddRospec message) client := by
  refine .ite (fun _ => .raise _ client) fun _ => .ite (fun _ => hanswering.complete rfl true)
    fun _ => ?_
  refine (writeless_readStatus message).follows_bind hleft fun _ later hcore => ?_
  refine .get_bind (fun _ => rfl) (.bind (hanswering.complete hcore false) fun _ later => ?_)
  exact .get_bind (fun _ => rfl) (.ite (fun _ => .raise _ later) fun _ => .pure _ later)

theorem follows_handleAny (hleft : client.state ≠ .inventorying)
    (hanswering : Answering client.core message) : Follows (handleAny message) client := by
  refine .ite (fun _ => hanswering.complete rfl true) fun _ => ?_
  refine (writeless_readStatus message).follows_bind hleft fun _ later hcore => ?_
  exact hanswering.complete hcore false

theorem follows_handleSentEnableRospec (hleft : client.state ≠ .inventorying)
    (hanswering : Answering client.core message) :
    Follows (handleSentEnableRospec message) client :=
  .ite (fun _ => .pure _ client) fun _ => follows_handleAny hleft hanswering

theorem follows_handleSentStartRospec (hleft : client.state ≠ .inventorying)
    (hanswering : Answering client.core message) :
    Follows (handleSentStartRospec message) client :=
  .ite (fun _ => .pure _ client) fun _ => follows_handleAny hleft hanswering

/-- Of the messages that INVENTORYING takes, those that a request waits for answer an access
operation. -/
theorem follows_handleInventorying (hcore : Correlated false client.core)
    (hfitting : Fitting client.core) : Follows (handleInventorying message) client := by
  refine .ite (fun hname => ?_) fun _ => .pure _ client
  refine (answering_of_correlated hcore hfitting fun _ hwaiting => ?_).complete rfl _
  obtain ⟨deferred, hmem⟩ := List.exists_mem_of_ne_nil _ hwaiting
  have hresponse := isResponse_of_deferred hcore hmem
  revert hresponse hname
  cases message.name <;> decide

end Branches

theorem follows_dispatch {client : Client} (hcore : Correlated false client.core)
    (hfitting : Fitting client.core) (message : LLRPMessage) :
    Follows (dispatch client.state message) client := by
  have hanswering : client.state ≠ .inventorying → Answering client.core message :=
    fun hleft => answering_of_correlated hcore hfitting fun heq => absurd heq hleft
  have hother : ∀ {state}, client.state = state → state ≠ .inventorying →
      client.state ≠ .inventorying := fun heq hstate => heq ▸ hstate
  cases hstate : client.state with
  | disconnected => exact follows_handleConnecting (hanswering (hother hstate (by decide)))
  | connecting => exact follows_handleConnecting (hanswering (hother hstate (by decide)))
  | connected => exact follows_handleConnecting (hanswering (hother hstate (by decide)))
  | sentEnableImpinjExtensions =>
    have hleft := hother hstate (by decide)
    exact follows_handleSentEnableImpinjExtensions hleft (hanswering hleft)
  | sentGetCapabilities =>
    have hleft := hother hstate (by decide)
    exact follows_handleSentGetCapabilities hleft (hanswering hleft)
  | sentGetConfig =>
    have hleft := hother hstate (by decide)
    exact follows_handleSentGetConfig hleft (hanswering hleft)
  | sentSetConfig =>
    have hleft := hother hstate (by decide)
    exact follows_handleSentSetConfig hleft (hanswering hleft)
  | sentAddRospec =>
    have hleft := hother hstate (by decide)
    exact follows_handleSentAddRospec hleft (hanswering hleft)
  | sentEnableRospec =>
    have hleft := hother hstate (by decide)
    exact follows_handleSentEnableRospec hleft (hanswering hleft)
  | pausing =>
    have hleft := hother hstate (by decide)
    exact follows_handleAny hleft (hanswering hleft)
  | sentStartRospec =>
    have hleft := hother hstate (by decide)
    exact follows_handleSentStartRospec hleft (hanswering hleft)
  | inventorying => exact follows_handleInventorying hcore hfitting
  | sentDeleteAccessspec =>
    exact (hanswering (hother hstate (by decide))).complete rfl message.isSuccess
  | sentDeleteRospec =>
    have hleft := hother hstate (by decide)
    exact follows_handleAny hleft (hanswering hleft)
  | paused => exact .pure _ client

/-- Handling a message does what it does with all writes out, up to its first failing write. -/
theorem follows_handleMessage {client : Client} (hcore : Correlated false client.core)
    (hfitting : Fitting client.core) (message : LLRPMessage) :
    Follows (handleMessage message) client :=
  .get_bind (fun _ => rfl) (.ite (fun _ => follows_sendKeepaliveAck message.id client)
    fun _ => .ite (fun _ => .pure _ client) fun _ => follows_dispatch hcore hfitting message)

/-! ## What leaves a message -/

/-- The message does not crash and the requests that handling it sends encode, or the first
that does not fails with an `LLRPError`. -/
def Client.handlesSafely (client : Client) (writes : List (Option Exn)) (message : LLRPMessage) :
    Bool :=
  match firstFailure (writes.take (client.sentHandling message)) with
  | none => !client.crashes message
  | some raised => raised.isLLRPError

/-- With writes that go out, handling a message raises nothing but an `LLRPError` exactly
when it does not crash. -/
theorem raisesOnlyLLRPErrors_iff_not_crashes {client : Client}
    (hreach : Reachable act Client.Started client) (message : LLRPMessage) :
    (client.facing []).raisesOnlyLLRPErrors message ↔ client.crashes message = false := by
  have hcorrelated := correlated_of_reachable hreach
  have hfits := fitting_of_reachable hreach
  have hcore : Correlated false (client.facing []).core := hcorrelated
  have hfitting : Fitting (client.facing []).core := hfits
  have hwritable : (client.facing []).Writable := fun _ hmem => absurd hmem List.not_mem_nil
  have hescapes : escapes (handleMessage message) (client.facing []) =
      (client.facing []).crashes message :=
    escapes_handleMessage hcore hfitting hwritable message
  rw [raisesOnlyLLRPErrors_iff_escapes, hescapes, crashes_facing]

/-- In every reachable client, whatever becomes of the requests, handling a message raises
nothing but an `LLRPError` exactly when it is handled safely. -/
theorem message_raises_llrpError_iff {client : Client}
    (hreach : Reachable act Client.Started client) (writes : List (Option Exn))
    (message : LLRPMessage) :
    (client.facing writes).raisesOnlyLLRPErrors message ↔
      client.handlesSafely writes message = true := by
  have hcorrelated := correlated_of_reachable hreach
  have hfits := fitting_of_reachable hreach
  obtain ⟨outcome, later, count, hcount, hruns⟩ := follows_handleMessage hcorrelated hfits message
  have hwritable : handleMessage message (client.facing []) = (outcome, later.facing []) := by
    have hrun := hruns []
    rw [List.take_nil, List.drop_nil] at hrun
    exact hrun
  have hsent : client.sentHandling message = count := by
    have hcore : Correlated false (client.facing []).core := hcorrelated
    have hfitting : Fitting (client.facing []).core := hfits
    have hready : (client.facing []).Writable := fun _ hmem => absurd hmem List.not_mem_nil
    have hlength := requests_handleMessage hcore hfitting hready message
    rw [Program.final, hwritable, sentHandling_facing] at hlength
    exact Nat.add_left_cancel (hlength.symm.trans hcount)
  have hrun := hruns writes
  unfold Client.handlesSafely
  rw [hsent]
  cases hfailure : firstFailure (writes.take count) with
  | none =>
    rw [hfailure] at hrun
    have hsame : (client.facing writes).raisesOnlyLLRPErrors message ↔
        (client.facing []).raisesOnlyLLRPErrors message := by
      unfold Client.raisesOnlyLLRPErrors
      rw [hrun, hwritable]
    rw [hsame, raisesOnlyLLRPErrors_iff_not_crashes hreach, Bool.not_eq_true']
  | some raised =>
    rw [hfailure] at hrun
    refine ⟨fun hraised => hraised raised hrun, fun hllrp other heq => ?_⟩
    cases hrun.symm.trans heq
    exact hllrp

/-- The end of the reset starts the inventory, and its ROSpec may not encode. -/
theorem message_raises_llrpError_openInventory :
    let client := run act (Client.initial (fun _ => timedConfig) 0 true) (openInventory.take 6)
    let response := LLRPMessage.response .deleteRospecResponse 6 .success
    (client.facing []).raisesOnlyLLRPErrors response ∧
      ¬ (client.facing [some (.valueError "non-hexadecimal number found in fromhex() arg")]
        ).raisesOnlyLLRPErrors response := by
  intro client response
  have hreach : Reachable act Client.Started client :=
    ⟨_, openInventory.take 6, ⟨fun _ => timedConfig, 0, true, rfl⟩, rfl⟩
  refine ⟨(message_raises_llrpError_iff hreach [] response).mpr (by decide +kernel),
    fun hraised => ?_⟩
  exact absurd ((message_raises_llrpError_iff hreach _ response).mp hraised) (by decide +kernel)

/-- The capabilities request fails with a status code that has no name. -/
theorem message_crashes_unnamedStatus :
    ¬ ((run act (Client.initial (fun _ => timedConfig) 0 true) (openSession.take 2)).facing
      []).raisesOnlyLLRPErrors
        { name := .getReaderCapabilitiesResponse
          id := 1
          status := some ⟨none, ""⟩
          statusOfResponse := fun _ => rfl } := by
  intro hraised
  exact absurd (hraised (.missingKey "StatusCode") (by decide +kernel)) (by decide)

end Sllurp.Session
