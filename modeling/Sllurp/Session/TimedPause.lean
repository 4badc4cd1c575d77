/-
# Timed pauses

The acknowledgement of a pause arms a timer that resumes the inventory. Timers
are not trusted to be cancelled in time: every timer that was armed may run. It
compares its generation with the client's, which whatever ends a pause moves on.
-/

import Sllurp.Foundations.Timers
import Sllurp.Session.Fitting

namespace Sllurp.Session

open Sllurp.Foundations Sllurp.Protocol Sllurp.Config Sllurp.Runtime
open Sllurp.Foundations.Program

/-! ## What leaves a pause alone -/

namespace Client

/-- The callbacks that wait for the acknowledgement of a pause. -/
def pauseRequests (client : Client) : List Deferred := client.deferreds .disableRospecResponse

/-- The request whose callback was invoked last. -/
def lastInvoked (client : Client) : Option ℕ :=
  client.history.reverse.findSome? fun
    | .invoked serial _ => some serial
    | _ => none

end Client

theorem pauseRequests_of_core {client : Client} {core : Core} (hcore : client.core = core) :
    client.pauseRequests = core.deferreds .disableRospecResponse :=
  congrArg (Core.deferreds · .disableRospecResponse) hcore

/-- The generation never goes back, and no pause is requested or acknowledged. -/
def steady : Frame Client where
  Rel before after :=
    before.pauseResumeGeneration ≤ after.pauseResumeGeneration ∧
      after.pauseRequests = before.pauseRequests
  refl _ := ⟨Nat.le_refl _, rfl⟩
  trans early late := ⟨early.1.trans late.1, late.2.trans early.2⟩

theorem generation_setState (client : Client) (newState : ReaderState) :
    client.pauseResumeGeneration ≤ (client.setState newState).pauseResumeGeneration := by
  change _ ≤ if newState = .disconnected then client.pauseResumeGeneration + 1
    else client.pauseResumeGeneration
  split
  · exact Nat.le_succ _
  · exact Nat.le_refl _

theorem steady_setState (newState : ReaderState) : Within steady (setState newState) :=
  fun client => ⟨generation_setState client newState, rfl⟩

theorem generation_requested (client : Client) (name : MessageName) (onCompletion : Callback)
    (newState : Option ReaderState) :
    client.pauseResumeGeneration ≤
      (client.requested name onCompletion newState).pauseResumeGeneration := by
  cases newState with
  | none => exact Nat.le_refl _
  | some state =>
    exact generation_setState ((client.reserve name onCompletion).setRegistry
      (client.nextRegistry name onCompletion)) state

theorem generation_withdraw (client : Client) (request : PendingRequest Callback)
    (newState : Option ReaderState) (previous : ReaderState) :
    client.pauseResumeGeneration ≤
      (client.withdraw request newState previous).pauseResumeGeneration := by
  unfold Client.withdraw
  dsimp only
  split
  · exact generation_setState _ previous
  · exact Nat.le_refl _

theorem generation_afterFailedSend (client : Client) (name : MessageName)
    (onCompletion : Callback) (newState : Option ReaderState) :
    client.pauseResumeGeneration ≤
      (client.afterFailedSend name onCompletion newState).pauseResumeGeneration := by
  have hrequested := generation_requested client name onCompletion newState
  have hconsumed : (client.requested name onCompletion newState).pauseResumeGeneration =
      (client.requested name onCompletion newState).consumeWrite.pauseResumeGeneration := rfl
  exact (hrequested.trans hconsumed.le).trans (generation_withdraw _ _ _ _)

/-- A request of another type has nothing to do with a pause. -/
theorem steady_sendRequest (request : Request) {name : MessageName}
    (hname : name ≠ .disableRospecResponse) (onCompletion : Callback)
    (newState : Option ReaderState) :
    Within steady (sendRequest request name onCompletion newState) := by
  intro client
  cases hwaiting : client.isWaiting name with
  | true =>
    rw [run_sendRequest_of_isWaiting hwaiting]
    exact steady.refl client
  | false =>
    rw [run_sendRequest hwaiting]
    cases client.nextWrite with
    | none =>
      refine ⟨generation_requested client name onCompletion newState, ?_⟩
      exact (pauseRequests_of_core (core_afterSend client _ _ _ _)).trans (if_neg hname.symm)
    | some raised =>
      refine ⟨generation_afterFailedSend client name onCompletion newState, ?_⟩
      exact pauseRequests_of_core (core_afterFailedSend hwaiting _ _)

/-- Building the ROSpec touches neither the requests nor the generation. -/
theorem parked_getROSpec (forceNew : Bool) :
    Within (Frame.fixing fun client => (client.core, client.pauseResumeGeneration))
      (getROSpec forceNew) := by
  unfold getROSpec
  refine .bind .get fun client => ?_
  cases client.rospec.filter fun _ => !forceNew with
  | some rospec => exact .pure rospec
  | none =>
    refine .bind (.ofExcept _) fun built => .bind (.modify fun _ => rfl) fun _ => ?_
    refine .ite (fun _ => ?_) fun _ => .pure _
    cases client.settings.dedupSeconds with
    | none => exact .raise _
    | some seconds => exact .bind (.modify fun _ => rfl) fun _ => .pure _

theorem steady_of_parked {α : Type} {program : ClientM α}
    (hparked : Within (Frame.fixing fun client : Client =>
      (client.core, client.pauseResumeGeneration)) program) : Within steady program := by
  intro client
  have hsame := hparked client
  have hcore : (program client).2.core = client.core := congrArg Prod.fst hsame
  exact ⟨Nat.le_of_eq (congrArg Prod.snd hsame).symm, pauseRequests_of_core hcore⟩

theorem steady_startInventory (forceRegenRospec : Bool) (onCompletion : Completion) :
    Within steady (startInventory forceRegenRospec onCompletion (pure ())) := by
  unfold startInventory
  refine .bind .get fun client => .ite (fun _ => .pure ()) fun _ => ?_
  refine .bind (steady_of_parked (parked_getROSpec forceRegenRospec)) fun rospec => ?_
  have hkept : Within steady
      (.modify fun client => { client with inventoryRospecAdded := false } : ClientM Unit) :=
    fun client => ⟨Nat.le_refl _, rfl⟩
  exact .bind hkept fun _ => steady_sendRequest _ (by decide) _ _

theorem steady_stopAllROSpecs (onCompletion : Completion) :
    Within steady (stopAllROSpecs onCompletion) :=
  steady_sendRequest _ (by decide) _ _

theorem steady_resumeInventory (forceRegenRospec : Bool) :
    Within steady (resumeInventory forceRegenRospec) := by
  unfold resumeInventory
  refine .bind .get fun client => .ite (fun _ => steady_startInventory _ _) fun _ => ?_
  refine .ite (fun _ => .pure ()) fun _ => ?_
  cases client.rospec with
  | none => exact .bind (steady_setState _) fun _ => steady_startInventory _ _
  | some rospec =>
    exact .ite (fun _ => steady_stopAllROSpecs _) fun _ => steady_sendRequest _ (by decide) _ _

/-- A timer of another generation does nothing. -/
theorem final_timedResume_of_ne {client : Client} {generation : ℕ}
    (hother : generation ≠ client.pauseResumeGeneration) (forceRegenRospec : Bool) :
    (timedResume generation forceRegenRospec).final client = client := by
  unfold timedResume Program.final
  rw [Program.run_get_bind, if_pos hother]
  rfl

theorem steady_timedResume (generation : ℕ) (forceRegenRospec : Bool) :
    Within steady (timedResume generation forceRegenRospec) := by
  have hforgotten : Within steady
      (.modify fun client => { client with pauseResumeTimer := none } : ClientM Unit) :=
    fun client => ⟨Nat.le_refl _, rfl⟩
  unfold timedResume
  refine .bind .get fun client => .ite (fun _ => .pure ()) fun _ => ?_
  refine .bind hforgotten fun _ => .ite (fun _ => .pure ()) fun _ => ?_
  exact steady_resumeInventory forceRegenRospec

/-! ## What ends a pause -/

theorem generation_resume (client : Client) (forceRegenRospec : Bool) :
    client.pauseResumeGeneration <
        ((resume forceRegenRospec).final client).pauseResumeGeneration ∧
      ((resume forceRegenRospec).final client).pauseRequests = client.pauseRequests := by
  obtain ⟨hle, hsame⟩ := steady_resumeInventory forceRegenRospec client.cancelPauseResumeTimer
  exact ⟨hle, hsame⟩

/-- Whether applying the configuration stops what the reader runs: it is valid,
and more than the client has to change. -/
def Client.stopsReader (client : Client) (newConfig : ConfigRef) : Bool :=
  match validateObject newConfig client with
  | (.error _, _) => false
  | (.ok _, validated) =>
    let plan :=
      buildConfigTransitionPlan validated.settings (validated.configs newConfig)
    !plan.isNoop && !plan.requiresReconnect && !plan.clientOnly

theorem stopsReader_facing (client : Client) (writes : List (Option Exn))
    (newConfig : ConfigRef) :
    (client.facing writes).stopsReader newConfig = client.stopsReader newConfig := by
  unfold Client.stopsReader validateObject Client.facing
  dsimp only
  rcases validateConfig (client.configs newConfig) with ⟨_ | _, content⟩ <;> rfl

/-- From a pause, a configuration is refused or taken by the client alone, or it
ends the pause. -/
theorem generation_applyConfig {client : Client} (hstate : client.state = .paused)
    (newConfig : ConfigRef) (hook : Hook) :
    steady.Rel client ((applyConfig newConfig hook).final client) ∧
      (client.stopsReader newConfig = true → client.pauseResumeGeneration <
        ((applyConfig newConfig hook).final client).pauseResumeGeneration) := by
  have hsucceed : ∀ id : TransitionId, Within steady (succeed id hook) := by
    intro id client
    cases hook with
    | application => exact ⟨Nat.le_refl _, rfl⟩
    | completed newConfig oldConfig => exact ⟨Nat.le_refl _, rfl⟩
  unfold Client.stopsReader applyConfig Program.final
  rcases hrun : validateObject newConfig client with ⟨raised | _, validated⟩
  · rw [Program.run_bind_error hrun]
    have hvalidated : validated = (validateObject newConfig client).2 := by rw [hrun]
    subst hvalidated
    exact ⟨⟨Nat.le_refl _, rfl⟩, nofun⟩
  · rw [Program.run_bind_ok hrun, Program.run_get_bind]
    have hvalidated : validated = (validateObject newConfig client).2 := by rw [hrun]
    have hkept : steady.Rel client validated := by
      subst hvalidated
      exact ⟨Nat.le_refl _, rfl⟩
    have hpaused : validated.state = .paused := by
      subst hvalidated
      exact hstate
    let plan := buildConfigTransitionPlan validated.settings (validated.configs newConfig)
    let started := validated.addTransition plan newConfig
    have hstarted : steady.Rel client started := steady.trans hkept ⟨Nat.le_refl _, rfl⟩
    rw [Program.run_modify_bind]
    dsimp only
    split
    · rename_i hnoop
      refine ⟨steady.trans hstarted ?_, fun hstops => ?_⟩
      · exact Within.bind (hsucceed _) (fun _ => .pure _) started
      · rw [hnoop] at hstops
        cases hstops
    · split
      · rename_i hreconnect
        refine ⟨hstarted, fun hstops => ?_⟩
        rw [(Bool.and_eq_true_iff.mp hreconnect).1] at hstops
        simp at hstops
      · rw [if_neg (by rw [hpaused]; decide)]
        split
        · rename_i hclient
          have hconfig : Within steady (.modify fun client =>
              { client with config := newConfig, desiredConfig := newConfig } : ClientM Unit) :=
            fun client => ⟨Nat.le_refl _, rfl⟩
          refine ⟨steady.trans hstarted ?_, fun hstops => ?_⟩
          · exact Within.bind hconfig (fun _ => .bind (hsucceed _) fun _ => .pure _) started
          · rw [hclient] at hstops
            simp at hstops
        · rw [hpaused]
          obtain ⟨hle, hsame⟩ := Within.bind (steady_stopAllROSpecs _) (fun _ => .pure _)
            started.cancelPauseResumeTimer
          exact ⟨steady.trans hstarted ⟨Nat.le_of_lt hle, hsame⟩,
            fun _ => hstarted.1.trans_lt hle⟩

/-! ## Requesting and acknowledging a pause -/

/-- Whether `pause` goes as far as cancelling an earlier pause: the duration is
valid, and the client is inventorying or forced. -/
def Client.pauses (client : Client) (durationSeconds : ℚ) (force : Bool) : Bool :=
  0 ≤ durationSeconds && (client.state = .inventorying || force)

theorem final_pause_of_not_pauses {client : Client} {durationSeconds : ℚ} {force : Bool}
    (hpauses : client.pauses durationSeconds force = false) (forceRegenRospec : Bool) :
    (pause durationSeconds force forceRegenRospec).final client = client := by
  unfold pause Program.final
  rw [Program.run_get_bind]
  split
  · rfl
  · rename_i hduration
    rw [not_lt] at hduration
    unfold Client.pauses at hpauses
    rw [decide_eq_true hduration, Bool.true_and, Bool.or_eq_false_iff,
      decide_eq_false_iff_not] at hpauses
    rw [hpauses.2, decide_eq_true hpauses.1]
    rfl

/-- A pause that is not ignored ends the pause before it. If it returns, its
callback is the only one that waits; if it raises, nothing more waits. -/
theorem outcome_pause {client : Client} {durationSeconds : ℚ} {force : Bool}
    (hpauses : client.pauses durationSeconds force = true) (forceRegenRospec : Bool) :
    let paused := (pause durationSeconds force forceRegenRospec).final client
    client.pauseResumeGeneration < paused.pauseResumeGeneration ∧
      paused.pauseRequests =
        if (pause durationSeconds force forceRegenRospec).raises client then client.pauseRequests
        else [⟨client.nextSerial, .disableRospecPauseCb durationSeconds forceRegenRospec⟩] := by
  unfold Client.pauses at hpauses
  rw [Bool.and_eq_true, decide_eq_true_eq] at hpauses
  obtain ⟨hduration, hstate⟩ := hpauses
  have hnot : ¬ (decide (client.state ≠ .inventorying) && !force) = true := by
    intro hignored
    rw [Bool.and_eq_true, decide_eq_true_eq, Bool.not_eq_true'] at hignored
    rw [hignored.2, Bool.or_false, decide_eq_true_eq] at hstate
    exact hignored.1 hstate
  unfold pause Program.final Program.raises
  rw [Program.run_get_bind, if_neg hduration.not_gt, if_neg hnot, Program.run_modify_bind]
  have hparked := parked_getROSpec forceRegenRospec client.cancelPauseResumeTimer
  rcases hrun : getROSpec forceRegenRospec client.cancelPauseResumeTimer with
    ⟨raised | rospec, built⟩
  · rw [hrun] at hparked
    have hcore : built.core = client.core := congrArg Prod.fst hparked
    have hgeneration : built.pauseResumeGeneration = client.pauseResumeGeneration + 1 :=
      congrArg Prod.snd hparked
    rw [Program.run_bind_error hrun]
    exact ⟨hgeneration ▸ Nat.lt_succ_self _, pauseRequests_of_core hcore⟩
  · rw [hrun] at hparked
    have hcore : built.core = client.core := congrArg Prod.fst hparked
    have hbuilt : built.pauseResumeGeneration = client.pauseResumeGeneration + 1 :=
      congrArg Prod.snd hparked
    have hgeneration : client.pauseResumeGeneration < built.pauseResumeGeneration :=
      hbuilt ▸ Nat.lt_succ_self _
    have hrequests : built.pauseRequests = client.pauseRequests := pauseRequests_of_core hcore
    rw [Program.run_bind_ok hrun]
    unfold sendDisableRospec
    cases hwaiting : built.isWaiting .disableRospecResponse with
    | true =>
      rw [run_sendRequest_of_isWaiting hwaiting]
      exact ⟨hgeneration, hrequests⟩
    | false =>
      rw [run_sendRequest hwaiting]
      cases built.nextWrite with
      | none =>
        refine ⟨hgeneration.trans_le (generation_requested built _ _ _), ?_⟩
        have hserial : built.nextSerial = client.nextSerial := congrArg Core.nextSerial hcore
        dsimp only
        rw [if_neg Bool.false_ne_true]
        refine (pauseRequests_of_core (core_afterSend built _ _ _ _)).trans ?_
        dsimp only
        rw [if_pos rfl, deferreds_of_not_isWaiting hwaiting, hserial]
        rfl
      | some raised =>
        refine ⟨hgeneration.trans_le (generation_afterFailedSend built _ _ _), ?_⟩
        dsimp only
        rw [if_pos rfl]
        exact (pauseRequests_of_core (core_afterFailedSend hwaiting _ _)).trans hrequests

/-- A callback of DISABLE_ROSPEC arms a timer, or leaves the generation alone. -/
theorem outcome_runCallback {callback : Callback}
    (hanswers : callback.answers .disableRospecResponse = true) (isSuccess : Bool)
    (client : Client) :
    let later := (runCallback callback isSuccess).final client
    later.pauseRequests = client.pauseRequests ∧
      (later.pauseResumeGeneration = client.pauseResumeGeneration ∨
        client.pauseResumeGeneration < later.pauseResumeGeneration ∧
          later.lastInvoked = client.lastInvoked ∧
          ∃ timer, later.pauseResumeTimer = some timer ∧
            timer.generation = later.pauseResumeGeneration) := by
  cases callback with
  | application => exact ⟨rfl, .inl rfl⟩
  | disableRospecPauseCb durationSeconds forceRegenRospec =>
    cases isSuccess with
    | false => exact ⟨rfl, .inl rfl⟩
    | true =>
      by_cases hduration : 0 < durationSeconds
      · have hrun : (runCallback (.disableRospecPauseCb durationSeconds forceRegenRospec)
            true).final client =
            ((schedulePauseResume durationSeconds forceRegenRospec).final
              (client.setState .paused)) := by
          simp only [runCallback, if_true, if_pos hduration]
          rfl
        rw [hrun]
        exact ⟨rfl, .inr ⟨Nat.lt_succ_self _, rfl, _, rfl, rfl⟩⟩
      · have hrun : (runCallback (.disableRospecPauseCb durationSeconds forceRegenRospec)
            true).final client = client.setState .paused := by
          simp only [runCallback, if_true, if_neg hduration]
          rfl
        rw [hrun]
        exact ⟨rfl, .inl rfl⟩
  | _ => simp [Callback.answers] at hanswers

theorem lastInvoked_record (client : Client) (serial : ℕ) (isSuccess : Bool) :
    (client.record (.invoked serial isSuccess)).lastInvoked = some serial := by
  change (client.history ++ [_]).reverse.findSome? _ = _
  rw [List.reverse_append]
  rfl

/-- What a response to DISABLE_ROSPEC does: it arms a timer for the pause that waits
for it, or leaves the generation alone. -/
structure Acknowledges (client later : Client) : Prop where
  kept : ∀ deferred ∈ later.pauseRequests, deferred ∈ client.pauseRequests
  arms : later.pauseResumeGeneration = client.pauseResumeGeneration ∨
    client.pauseResumeGeneration < later.pauseResumeGeneration ∧
      (∃ deferred ∈ client.pauseRequests, later.lastInvoked = some deferred.serial) ∧
      ∃ timer, later.pauseResumeTimer = some timer ∧
        timer.generation = later.pauseResumeGeneration

/-- Invoking the callback of a request that waits. -/
theorem Acknowledges.of_invoked {client base : Client} {deferred : Deferred}
    (hanswers : deferred.callback.answers .disableRospecResponse = true)
    (hmem : deferred ∈ client.pauseRequests)
    (hkept : ∀ other ∈ base.pauseRequests, other ∈ client.pauseRequests)
    (hgeneration : base.pauseResumeGeneration = client.pauseResumeGeneration)
    (hlast : base.lastInvoked = some deferred.serial) (isSuccess : Bool) :
    Acknowledges client ((runCallback deferred.callback isSuccess).final base) := by
  obtain ⟨hrequests, houtcome⟩ := outcome_runCallback hanswers isSuccess base
  rw [hgeneration, hlast] at houtcome
  constructor
  · intro other hother
    exact hkept other (hrequests ▸ hother)
  · exact houtcome.imp_right fun ⟨hlt, hsame, htimer⟩ => ⟨hlt, ⟨deferred, hmem, hsame⟩, htimer⟩

theorem outcome_complete {client : Client} (hcore : Correlated false client.core)
    (hfitting : Fitting client.core) {message : LLRPMessage}
    (hname : message.name = .disableRospecResponse) (isSuccess : Bool) :
    Acknowledges client ((complete message isSuccess).final client) := by
  cases hpending : client.core.pendingAt message.name message.id with
  | some pending =>
    have hwaits : deferredOf pending ∈ client.pauseRequests := by
      have hdeferred := hcore.deferred hpending
      rw [hname] at hdeferred
      exact (pauseRequests_of_core rfl).trans hdeferred ▸ List.mem_cons_self ..
    have hkept : ∀ other ∈
        (client.completed message.name message.id pending isSuccess).pauseRequests,
        other ∈ client.pauseRequests := by
      intro other hother
      rw [pauseRequests_of_core (core_completed client _ _ _ _), hname] at hother
      dsimp only at hother
      rw [if_pos rfl] at hother
      exact List.mem_of_mem_filter hother
    unfold complete
    rw [Program.final, run_processDeferreds_of_pending hpending]
    exact .of_invoked (hfitting.answers hwaits) hwaits hkept rfl (lastInvoked_record _ _ _) _
  | none =>
    rw [Program.final, run_complete_of_not_pending hpending]
    have hcleared : ∀ other ∈ (client.setDeferreds message.name []).pauseRequests,
        other ∈ client.pauseRequests := by
      intro other hother
      change other ∈ if _ then _ else _ at hother
      rw [if_pos hname.symm] at hother
      cases hother
    cases hleftover : client.core.leftover message with
    | nil =>
      split
      · exact ⟨fun _ hother => hother, .inl rfl⟩
      · exact ⟨hcleared, .inl rfl⟩
    | cons deferred rest =>
      have hsingle := hfitting.single .disableRospecResponse
      unfold Core.leftover at hleftover
      split at hleftover
      · cases hleftover
      · rename_i hunknown
        rw [hname] at hleftover
        rw [hleftover] at hsingle
        have hrest : rest = [] := by
          cases rest with
          | nil => rfl
          | cons other rest => simp at hsingle
        have hwaits : deferred ∈ client.pauseRequests := by
          rw [show client.pauseRequests = deferred :: rest from hleftover]
          exact List.mem_cons_self ..
        have hstale : ¬ client.pendingRequests.isStale message.name message.id = true :=
          fun hstale => hunknown (Bool.or_eq_true_iff.mpr (.inr hstale))
        rw [hrest, if_neg hstale]
        let base :=
          (client.setDeferreds message.name []).record (.invoked deferred.serial isSuccess)
        have hrun : (invokeAll [deferred] isSuccess).final
            (client.setDeferreds message.name []) =
            (runCallback deferred.callback isSuccess).final base :=
          congrArg Prod.snd (congrFun (bind_pure_unit (invoke deferred isSuccess)) _)
        change Acknowledges client ((invokeAll [deferred] isSuccess).final _)
        rw [hrun]
        exact @Acknowledges.of_invoked client base deferred (hfitting.answers hwaits) hwaits
          hcleared rfl (lastInvoked_record _ _ _) _

theorem outcome_handleMessage {client : Client} (hcore : Correlated false client.core)
    (hfitting : Fitting client.core) {message : LLRPMessage}
    (hname : message.name = .disableRospecResponse) :
    Acknowledges client ((handleMessage message).final client) := by
  cases hcompletes : client.completes message with
  | false =>
    have hkeepalive : message.name ≠ .keepalive := by
      rw [hname]
      decide
    have hrefuses : client.refusesCapabilities message = false := by
      unfold Client.refusesCapabilities
      rw [hname]
      simp
    rw [final_handleMessage_of_not_completes hkeepalive hcompletes, hrefuses, Bool.and_false,
      if_neg Bool.false_ne_true]
    exact ⟨fun _ hmem => hmem, .inl rfl⟩
  | true =>
    have hfinal : (handleMessage message).final client =
        (complete message message.isSuccess).final client := by
      have hreaches : client.reaches message = true := by
        simp only [Client.completes, Bool.and_eq_true] at hcompletes
        exact hcompletes.2
      unfold Program.final
      rw [run_handleMessage_of_completes hcompletes]
      unfold Client.reaches at hreaches
      unfold Client.prepared afterwards
      cases hstate : client.state <;> rw [hstate, hname] at hreaches <;>
        first
        | exact congrArg Prod.snd (congrFun (bind_pure_unit _) client)
        | simp at hreaches
    rw [hfinal]
    exact outcome_complete hcore hfitting hname _

/-! ## Steps of a client and its timers -/

/-- What a timer resumes with. An observer also knows the request of the pause whose
acknowledgement armed it, and how often a pause had been ended until then. -/
structure PauseTask where
  generation : ℕ
  forceRegenRospec : Bool
  pause : Option ℕ
  interruptions : ℕ

/-- A resume that a timer caused: the pause whose acknowledgement armed the timer
and the latest pause, and how often a pause had been ended when the timer was
armed and when it ran. -/
structure TimedResume where
  timer : ℕ
  pause : Option ℕ
  latestPause : Option ℕ
  armedAt : ℕ
  ranAt : ℕ
  deriving DecidableEq

/-- A client with the timers that may still run, and what an observer knows: the
request of the latest pause that went out, how often a pause was ended, and the
resumes that timers caused. -/
structure PausedReader where
  client : Client
  timers : Timers PauseTask
  latestPause : Option ℕ
  interruptions : ℕ
  resumes : List TimedResume

/-- What begins and ends a pause, and the timers. -/
inductive PauseStep
  | pause (durationSeconds : ℚ) (force forceRegenRospec : Bool)
  | acknowledge (message : LLRPMessage) (hname : message.name = .disableRospecResponse)
  | resume (forceRegenRospec : Bool)
  | applyConfig (newConfig : ConfigRef)
  | setState (newState : ReaderState)
  | resetProtocolSession
  | hardDisconnect
  | fire (timer : ℕ)
  | expire (timer : ℕ)

/-- A step with the outcomes of the writes it attempts. -/
structure PauseAction where
  step : PauseStep
  writes : List (Option Exn) := []

namespace PausedReader

/-- A client that has armed no timer. -/
def initial (client : Client) : PausedReader where
  client := client
  timers := .empty
  latestPause := none
  interruptions := 0
  resumes := []

/-- The client changed, and a pause was ended or not. -/
def become (reader : PausedReader) (client : Client) (interrupted : Bool) : PausedReader :=
  { reader with
    client
    interruptions := if interrupted then reader.interruptions + 1 else reader.interruptions }

/-- A pause that goes out is the latest; one that fails ends the pause before it. -/
def pause (reader : PausedReader) (durationSeconds : ℚ) (force forceRegenRospec : Bool)
    (writes : List (Option Exn)) : PausedReader :=
  let paused := act reader.client ⟨.pause durationSeconds force forceRegenRospec, writes⟩
  let pauses := reader.client.pauses durationSeconds force
  let raises :=
    (Session.pause durationSeconds force forceRegenRospec).raises (reader.client.facing writes)
  { reader.become paused pauses with
    latestPause := if pauses && !raises then some reader.client.nextSerial else reader.latestPause }

/-- A response to DISABLE_ROSPEC changes the generation when it arms a timer. -/
def acknowledge (reader : PausedReader) (message : LLRPMessage) (writes : List (Option Exn)) :
    PausedReader :=
  let later := act reader.client ⟨.handleMessage message, writes⟩
  { reader with
    client := later
    timers :=
      match later.pauseResumeTimer with
      | none => reader.timers
      | some timer =>
        if later.pauseResumeGeneration = reader.client.pauseResumeGeneration then reader.timers
        else
          reader.timers.arm
            ⟨timer.generation, timer.forceRegenRospec, later.lastInvoked, reader.interruptions⟩ }

/-- A timer runs `timed_resume`. If that sends something, it was a resume. -/
def expire (reader : PausedReader) (timer : ℕ) (writes : List (Option Exn)) : PausedReader :=
  match reader.timers.fired? timer with
  | none => reader
  | some fired =>
    let later := act reader.client
      ⟨.timedResume fired.task.generation fired.task.forceRegenRospec, writes⟩
    let resumed := decide (reader.client.history.length < later.history.length)
    let resume : TimedResume :=
      ⟨timer, fired.task.pause, reader.latestPause, fired.task.interruptions,
        reader.interruptions⟩
    { reader.become later resumed with
      timers := reader.timers.finish timer
      resumes := if resumed then reader.resumes ++ [resume] else reader.resumes }

/-- One step. A configuration is applied from the paused state. -/
def step (reader : PausedReader) (action : PauseAction) : PausedReader :=
  match action.step with
  | .pause durationSeconds force forceRegenRospec =>
    reader.pause durationSeconds force forceRegenRospec action.writes
  | .acknowledge message _ => reader.acknowledge message action.writes
  | .resume forceRegenRospec =>
    reader.become (act reader.client ⟨.resume forceRegenRospec, action.writes⟩) true
  | .applyConfig newConfig =>
    if reader.client.state = .paused then
      reader.become (act reader.client ⟨.applyConfig newConfig, action.writes⟩)
        (reader.client.stopsReader newConfig)
    else reader
  | .setState newState =>
    reader.become (reader.client.setState newState) (newState = .disconnected)
  | .resetProtocolSession => reader.become reader.client.resetProtocolSession true
  | .hardDisconnect => reader.become (act reader.client ⟨.hardDisconnect, action.writes⟩) true
  | .fire timer => { reader with timers := reader.timers.fire timer }
  | .expire timer => reader.expire timer action.writes

/-! ## The timer of the current generation -/

/-- A timer of the current generation was armed by the latest pause, and nothing has
ended that pause since. -/
structure Stamped (reader : PausedReader) : Prop where
  correlated : Correlated false reader.client.core
  fitting : Fitting reader.client.core
  latest : ∀ deferred ∈ reader.client.pauseRequests, reader.latestPause = some deferred.serial
  older : ∀ timer ∈ reader.timers.waiting,
    timer.task.generation ≤ reader.client.pauseResumeGeneration
  current : ∀ timer ∈ reader.timers.waiting,
    timer.task.generation = reader.client.pauseResumeGeneration →
    timer.task.pause.isSome = true ∧ timer.task.pause = reader.latestPause ∧
      timer.task.interruptions = reader.interruptions
  distinct : ∀ {first second}, first ∈ reader.timers.waiting → second ∈ reader.timers.waiting →
    first.task.generation = second.task.generation → first = second
  resumed : ∀ resume ∈ reader.resumes, resume.pause.isSome = true ∧
    resume.pause = resume.latestPause ∧ resume.armedAt = resume.ranAt
  spent : ∀ resume ∈ reader.resumes,
    resume.timer < reader.timers.next ∧ ∀ timer ∈ reader.timers.waiting, timer.id ≠ resume.timer
  once : (reader.resumes.map TimedResume.timer).Nodup

namespace Stamped

variable {reader : PausedReader}

theorem initial {client : Client} (hreach : Reachable act Client.Started client)
    (hquiet : client.pauseRequests = []) : Stamped (initial client) where
  correlated := correlated_of_reachable hreach
  fitting := fitting_of_reachable hreach
  latest deferred hmem := by
    rw [show (PausedReader.initial client).client.pauseRequests = [] from hquiet] at hmem
    cases hmem
  older _ hmem := nomatch hmem
  current _ hmem := nomatch hmem
  distinct hmem := nomatch hmem
  resumed _ hmem := nomatch hmem
  spent _ hmem := nomatch hmem
  once := List.nodup_nil

/-- The client may change as long as the generation grows with every pause that
begins or ends. -/
theorem move (hstamped : Stamped reader) {client : Client}
    (hcore : Correlated false client.core) (hfitting : Fitting client.core)
    {latestPause : Option ℕ} {interruptions : ℕ}
    (hlatest : ∀ deferred ∈ client.pauseRequests, latestPause = some deferred.serial)
    (hgeneration : reader.client.pauseResumeGeneration < client.pauseResumeGeneration ∨
      reader.client.pauseResumeGeneration ≤ client.pauseResumeGeneration ∧
        latestPause = reader.latestPause ∧ interruptions = reader.interruptions) :
    Stamped { reader with client, latestPause, interruptions } where
  correlated := hcore
  fitting := hfitting
  latest := hlatest
  older timer hmem := by
    have hold := hstamped.older timer hmem
    rcases hgeneration with hlt | ⟨hle, -⟩
    · exact hold.trans hlt.le
    · exact hold.trans hle
  current timer hmem hsame := by
    have hold := hstamped.older timer hmem
    rcases hgeneration with hlt | ⟨hle, rfl, rfl⟩
    · exact absurd hsame (hold.trans_lt hlt).ne
    · exact hstamped.current timer hmem (Nat.le_antisymm hold (hle.trans hsame.ge))
  distinct := hstamped.distinct
  resumed := hstamped.resumed
  spent := hstamped.spent
  once := hstamped.once

theorem act_correlated (hstamped : Stamped reader) (action : Action) :
    Correlated false (act reader.client action).core :=
  correlated_act hstamped.correlated (by simp)

theorem act_fitting (hstamped : Stamped reader) (action : Action) :
    Fitting (act reader.client action).core :=
  fitting_completing.program action.call (reader.client.facing action.writes) hstamped.fitting

/-- A change that waits for the pauses it waited for before. -/
theorem become (hstamped : Stamped reader) {client : Client}
    (hcore : Correlated false client.core) (hfitting : Fitting client.core) {interrupted : Bool}
    (hrequests : client.pauseRequests = reader.client.pauseRequests ∨ client.pauseRequests = [])
    (hle : reader.client.pauseResumeGeneration ≤ client.pauseResumeGeneration)
    (hlt : interrupted = true →
      reader.client.pauseResumeGeneration < client.pauseResumeGeneration) :
    Stamped (reader.become client interrupted) := by
  have hlatest : ∀ deferred ∈ client.pauseRequests,
      reader.latestPause = some deferred.serial := by
    intro deferred hmem
    rcases hrequests with hsame | hnone
    · exact hstamped.latest deferred (hsame ▸ hmem)
    · rw [hnone] at hmem
      cases hmem
  cases interrupted with
  | true => exact hstamped.move hcore hfitting hlatest (.inl (hlt rfl))
  | false => exact hstamped.move hcore hfitting hlatest (.inr ⟨hle, rfl, rfl⟩)

theorem pause (hstamped : Stamped reader) (durationSeconds : ℚ) (force forceRegenRospec : Bool)
    (writes : List (Option Exn)) :
    Stamped (reader.pause durationSeconds force forceRegenRospec writes) := by
  let call : Action := ⟨.pause durationSeconds force forceRegenRospec, writes⟩
  let facing := reader.client.facing writes
  have hcore := hstamped.act_correlated call
  have hfitting := hstamped.act_fitting call
  unfold PausedReader.pause
  dsimp only
  cases hpauses : reader.client.pauses durationSeconds force with
  | false =>
    have hsame : act reader.client call = facing :=
      final_pause_of_not_pauses (show facing.pauses _ _ = false from hpauses) forceRegenRospec
    have hmoved : Stamped (reader.become (act reader.client call) false) :=
      hstamped.become hcore hfitting (.inl (hsame ▸ rfl)) (hsame ▸ Nat.le_refl _) nofun
    exact hmoved
  | true =>
    obtain ⟨hlt, hrequests⟩ :=
      outcome_pause (show facing.pauses _ _ = true from hpauses) forceRegenRospec
    cases hraises : (Session.pause durationSeconds force forceRegenRospec).raises facing with
    | true =>
      rw [hraises, if_pos rfl] at hrequests
      have hmoved : Stamped (reader.become (act reader.client call) true) :=
        hstamped.become hcore hfitting (.inl hrequests) hlt.le fun _ => hlt
      exact hmoved
    | false =>
      rw [hraises, if_neg Bool.false_ne_true] at hrequests
      refine hstamped.move hcore hfitting (fun deferred hmem => ?_) (.inl hlt)
      have honly := hrequests ▸ hmem
      rw [List.mem_singleton.mp honly]
      rfl

/-- The timer that an acknowledgement arms is the only one of its generation. -/
theorem arm (hstamped : Stamped reader) {task : PauseTask}
    (hcurrent : task.pause.isSome = true ∧ task.pause = reader.latestPause ∧
      task.interruptions = reader.interruptions)
    (hgeneration : task.generation = reader.client.pauseResumeGeneration)
    (holder : ∀ timer ∈ reader.timers.waiting,
      timer.task.generation < reader.client.pauseResumeGeneration) :
    Stamped { reader with timers := reader.timers.arm task } where
  correlated := hstamped.correlated
  fitting := hstamped.fitting
  latest := hstamped.latest
  older timer hmem := by
    rcases (Timers.mem_arm _ _ _).mp hmem with hold | rfl
    · exact hstamped.older timer hold
    · exact hgeneration.le
  current timer hmem hsame := by
    rcases (Timers.mem_arm _ _ _).mp hmem with hold | rfl
    · exact hstamped.current timer hold hsame
    · exact hcurrent
  distinct hfirst hsecond hsame := by
    rcases (Timers.mem_arm _ _ _).mp hfirst with hold | rfl <;>
      rcases (Timers.mem_arm _ _ _).mp hsecond with hother | rfl
    · exact hstamped.distinct hold hother hsame
    · exact absurd (hsame.trans hgeneration) (holder _ hold).ne
    · exact absurd (hsame.symm.trans hgeneration) (holder _ hother).ne
    · rfl
  resumed := hstamped.resumed
  spent resume hmem := by
    obtain ⟨hlt, hspent⟩ := hstamped.spent resume hmem
    refine ⟨Nat.lt_succ_of_lt hlt, fun timer htimer => ?_⟩
    rcases (Timers.mem_arm _ _ _).mp htimer with hold | rfl
    · exact hspent timer hold
    · exact hlt.ne'
  once := hstamped.once

theorem acknowledge (hstamped : Stamped reader) {message : LLRPMessage}
    (hname : message.name = .disableRospecResponse) (writes : List (Option Exn)) :
    Stamped (reader.acknowledge message writes) := by
  let call : Action := ⟨.handleMessage message, writes⟩
  let facing := reader.client.facing writes
  let later := act reader.client call
  have hcore := hstamped.act_correlated call
  have hfitting := hstamped.act_fitting call
  have houtcome : Acknowledges reader.client later := by
    obtain ⟨hkept, harms⟩ := @outcome_handleMessage facing hstamped.correlated hstamped.fitting
      message hname
    exact ⟨hkept, harms⟩
  have hlatest : ∀ deferred ∈ later.pauseRequests, reader.latestPause = some deferred.serial :=
    fun deferred hmem => hstamped.latest deferred (houtcome.kept deferred hmem)
  unfold PausedReader.acknowledge
  dsimp only
  rcases houtcome.arms with hsame | ⟨hlt, ⟨deferred, hdeferred, hlast⟩, timer, htimer, hgeneration⟩
  · have hmoved : Stamped { reader with client := later } :=
      hstamped.move hcore hfitting hlatest (.inr ⟨hsame.ge, rfl, rfl⟩)
    split
    · exact hmoved
    · rw [if_pos hsame]
      exact hmoved
  · have hmoved : Stamped { reader with client := later } :=
      hstamped.move hcore hfitting hlatest (.inl hlt)
    have hpause := hstamped.latest deferred hdeferred
    split
    · rename_i hnone
      rw [htimer] at hnone
      cases hnone
    · rename_i armed harmed
      obtain rfl : timer = armed := Option.some.inj (htimer.symm.trans harmed)
      rw [if_neg hlt.ne']
      refine hmoved.arm ⟨?_, ?_, rfl⟩ hgeneration fun old hold =>
        (hstamped.older old hold).trans_lt hlt
      · rw [hlast]
        rfl
      · exact hlast.trans hpause.symm

theorem fire (hstamped : Stamped reader) (fired : ℕ) :
    Stamped { reader with timers := reader.timers.fire fired } := by
  have hearlier : ∀ {timer}, timer ∈ (reader.timers.fire fired).waiting →
      ∃ earlier ∈ reader.timers.waiting, earlier.id = timer.id ∧ earlier.task = timer.task := by
    intro timer hmem
    obtain ⟨earlier, hold, rfl⟩ := (Timers.mem_fire _ _ _).mp hmem
    exact ⟨earlier, hold, rfl, rfl⟩
  constructor
  · exact hstamped.correlated
  · exact hstamped.fitting
  · exact hstamped.latest
  · intro timer hmem
    obtain ⟨earlier, hold, -, htask⟩ := hearlier hmem
    exact htask ▸ hstamped.older earlier hold
  · intro timer hmem
    obtain ⟨earlier, hold, -, htask⟩ := hearlier hmem
    exact htask ▸ hstamped.current earlier hold
  · intro first second hfirst hsecond hsame
    obtain ⟨early, hearly, rfl⟩ := (Timers.mem_fire _ _ _).mp hfirst
    obtain ⟨late, hlate, rfl⟩ := (Timers.mem_fire _ _ _).mp hsecond
    rw [hstamped.distinct hearly hlate hsame]
  · exact hstamped.resumed
  · intro resume hmem
    obtain ⟨hlt, hspent⟩ := hstamped.spent resume hmem
    refine ⟨hlt, fun timer htimer => ?_⟩
    obtain ⟨earlier, hold, hid, -⟩ := hearlier htimer
    exact hid ▸ hspent earlier hold
  · exact hstamped.once

/-- A timer that is done is spent. -/
theorem finish (hstamped : Stamped reader) (done : ℕ) :
    Stamped { reader with timers := reader.timers.finish done } where
  correlated := hstamped.correlated
  fitting := hstamped.fitting
  latest := hstamped.latest
  older timer hmem := hstamped.older timer ((Timers.mem_finish _ _ _).mp hmem).1
  current timer hmem := hstamped.current timer ((Timers.mem_finish _ _ _).mp hmem).1
  distinct hfirst hsecond := hstamped.distinct ((Timers.mem_finish _ _ _).mp hfirst).1
    ((Timers.mem_finish _ _ _).mp hsecond).1
  resumed := hstamped.resumed
  spent resume hmem := by
    obtain ⟨hlt, hspent⟩ := hstamped.spent resume hmem
    exact ⟨hlt, fun timer htimer => hspent timer ((Timers.mem_finish _ _ _).mp htimer).1⟩
  once := hstamped.once

/-- A timer that is done and resumed the inventory is recorded. -/
theorem resume (hstamped : Stamped reader) {resume : TimedResume}
    (hresumed : resume.pause.isSome = true ∧ resume.pause = resume.latestPause ∧
      resume.armedAt = resume.ranAt)
    (hlt : resume.timer < reader.timers.next)
    (hspent : ∀ timer ∈ reader.timers.waiting, timer.id ≠ resume.timer)
    (hfirst : ∀ earlier ∈ reader.resumes, earlier.timer ≠ resume.timer)
    (hover : ∀ timer ∈ reader.timers.waiting,
      timer.task.generation ≠ reader.client.pauseResumeGeneration) :
    Stamped { reader with
      interruptions := reader.interruptions + 1, resumes := reader.resumes ++ [resume] } where
  correlated := hstamped.correlated
  fitting := hstamped.fitting
  latest := hstamped.latest
  older := hstamped.older
  current timer hmem hsame := absurd hsame (hover timer hmem)
  distinct := hstamped.distinct
  resumed other hmem := by
    rcases List.mem_append.mp hmem with hold | hnew
    · exact hstamped.resumed other hold
    · rw [List.mem_singleton.mp hnew]
      exact hresumed
  spent other hmem := by
    rcases List.mem_append.mp hmem with hold | hnew
    · exact hstamped.spent other hold
    · rw [List.mem_singleton.mp hnew]
      exact ⟨hlt, hspent⟩
  once := by
    rw [List.map_append]
    refine List.nodup_append.mpr ⟨hstamped.once, List.nodup_singleton _, ?_⟩
    intro timer hold other hnew hsame
    obtain ⟨earlier, hmem, rfl⟩ := List.mem_map.mp hold
    exact hfirst earlier hmem (hsame.trans (List.mem_singleton.mp hnew))

/-- A timer that resumes the inventory is of the current generation, and no other
is. -/
theorem expire (hstamped : Stamped reader) (timer : ℕ) (writes : List (Option Exn)) :
    Stamped (reader.expire timer writes) := by
  unfold PausedReader.expire
  cases hfind : reader.timers.fired? timer with
  | none => exact hstamped
  | some fired =>
    obtain ⟨hwaiting, rfl, -⟩ := Timers.fired?_eq_some_iff.mp hfind
    let call : Action :=
      ⟨.timedResume fired.task.generation fired.task.forceRegenRospec, writes⟩
    let facing := reader.client.facing writes
    let later := act reader.client call
    obtain ⟨hle, hrequests⟩ := steady_timedResume fired.task.generation
      fired.task.forceRegenRospec facing
    have hmoved : Stamped { reader with client := later } := by
      have hbecome : Stamped (reader.become later false) :=
        hstamped.become (hstamped.act_correlated call) (hstamped.act_fitting call)
          (.inl hrequests) hle nofun
      exact hbecome
    have hdone := hmoved.finish fired.id
    dsimp only
    by_cases hgrew : reader.client.history.length < later.history.length
    · rw [decide_eq_true hgrew]
      have hgeneration : fired.task.generation = reader.client.pauseResumeGeneration := by
        by_contra hother
        have hsame : later = facing :=
          final_timedResume_of_ne (show _ ≠ facing.pauseResumeGeneration from hother) _
        rw [hsame] at hgrew
        exact lt_irrefl _ hgrew
      have hover : ∀ other ∈ (reader.timers.finish fired.id).waiting,
          other.task.generation ≠ later.pauseResumeGeneration := by
        intro other hmem hsame
        obtain ⟨hold, hne⟩ := (Timers.mem_finish _ _ _).mp hmem
        have hlatest : reader.client.pauseResumeGeneration ≤ other.task.generation :=
          hle.trans hsame.ge
        have hequal := Nat.le_antisymm (hstamped.older other hold) hlatest
        exact hne (congrArg Timer.id
          (hstamped.distinct hold hwaiting (hequal.trans hgeneration.symm)))
      have hfirst : ∀ earlier ∈ reader.resumes, earlier.timer ≠ fired.id :=
        fun earlier hmem => ((hstamped.spent earlier hmem).2 fired hwaiting).symm
      exact hdone.resume (hstamped.current fired hwaiting hgeneration)
        (reader.timers.fresh fired hwaiting)
        (fun other hmem => ((Timers.mem_finish _ _ _).mp hmem).2) hfirst hover
    · rw [decide_eq_false hgrew]
      exact hdone

/-- What one step preserves. -/
theorem step (hstamped : Stamped reader) (action : PauseAction) :
    Stamped (reader.step action) := by
  obtain ⟨step, writes⟩ := action
  cases step with
  | pause durationSeconds force forceRegenRospec => exact hstamped.pause _ _ _ _
  | acknowledge message hname => exact hstamped.acknowledge hname writes
  | resume forceRegenRospec =>
    obtain ⟨hlt, hrequests⟩ := generation_resume (reader.client.facing writes) forceRegenRospec
    exact hstamped.become (hstamped.act_correlated _) (hstamped.act_fitting _) (.inl hrequests)
      hlt.le fun _ => hlt
  | applyConfig newConfig =>
    unfold PausedReader.step
    dsimp only
    split
    · rename_i hstate
      let facing := reader.client.facing writes
      have hfinal : act reader.client ⟨.applyConfig newConfig, writes⟩ =
          (Session.applyConfig newConfig .application).final facing := by
        change Program.final (Session.applyConfig newConfig .application >>= fun _ => pure ())
          facing = _
        unfold Program.final
        rw [Program.run_bind]
        rcases Session.applyConfig newConfig .application facing with ⟨_ | _, later⟩ <;> rfl
      obtain ⟨⟨hle, hrequests⟩, hstops⟩ :=
        generation_applyConfig (show facing.state = .paused from hstate) newConfig .application
      rw [← hfinal] at hle hrequests hstops
      rw [stopsReader_facing] at hstops
      exact hstamped.become (hstamped.act_correlated _) (hstamped.act_fitting _)
        (.inl hrequests) hle hstops
    · exact hstamped
  | setState newState =>
    have hcore : Correlated false (reader.client.setState newState).core :=
      Correlated.setState hstamped.correlated newState
    refine hstamped.become hcore (fitting_completing.anyState _ _ hstamped.fitting) (.inl rfl)
      (generation_setState _ _) fun hdisconnected => ?_
    rw [of_decide_eq_true hdisconnected]
    exact Nat.lt_succ_self _
  | resetProtocolSession =>
    have hcore : Correlated false reader.client.resetProtocolSession.core :=
      Correlated.reset hstamped.correlated
    have hlt : reader.client.pauseResumeGeneration <
        reader.client.resetProtocolSession.pauseResumeGeneration := Nat.lt_succ_self _
    exact hstamped.become hcore
      (fitting_completing.resetProtocolSession _ hstamped.fitting) (.inr rfl) hlt.le fun _ => hlt
  | hardDisconnect =>
    have hlt : reader.client.pauseResumeGeneration <
        (act reader.client ⟨.hardDisconnect, writes⟩).pauseResumeGeneration := by
      change _ < reader.client.pauseResumeGeneration + 1 + 1
      omega
    exact hstamped.become (hstamped.act_correlated _) (hstamped.act_fitting _) (.inr rfl)
      hlt.le fun _ => hlt
  | fire timer => exact hstamped.fire timer
  | expire timer => exact hstamped.expire timer writes

end Stamped

/-- From any client without a pause that waits, timers resume only the latest pause
that went out, as long as nothing has ended it since, and each resumes it once. -/
theorem timed_resume_of_latest_pause {client : Client}
    (hreach : Reachable act Client.Started client) (hquiet : client.pauseRequests = [])
    (actions : List PauseAction) :
    let reader := run step (initial client) actions
    (∀ resume ∈ reader.resumes,
      resume.pause.isSome = true ∧ resume.pause = resume.latestPause ∧
        resume.armedAt = resume.ranAt) ∧
      (reader.resumes.map TimedResume.timer).Nodup := by
  have hstamped : Stamped (run step (initial client) actions) := by
    have hstart := Stamped.initial hreach hquiet
    generalize initial client = reader at hstart ⊢
    induction actions generalizing reader with
    | nil => exact hstart
    | cons action actions ih => exact ih _ (hstart.step action)
  exact ⟨hstamped.resumed, hstamped.once⟩

/-! ## A pause of five seconds -/

/-- A client that inventories, with a second configuration in which only the client
differs. -/
def inventorying : Client :=
  let configs : ConfigRef → LLRPReaderConfig := fun ref =>
    if ref = 0 then timedConfig else { timedConfig with requestTimeout := some 6 }
  run act (Client.initial configs 0 false) openInventory

/-- Pause for five seconds, and acknowledge that. -/
def pauseAndAcknowledge : List PauseAction :=
  [⟨.pause 5 false false, []⟩,
    ⟨.acknowledge (.response .disableRospecResponse 9 .success) rfl, []⟩]

theorem timed_resume_five_seconds :
    let reader := run step (initial inventorying)
      (pauseAndAcknowledge ++ [⟨.fire 0, []⟩, ⟨.expire 0, []⟩])
    reader.resumes.map TimedResume.timer = [0] ∧
      ∀ resume ∈ reader.resumes, resume.pause.isSome = true ∧
        resume.pause = resume.latestPause ∧ resume.armedAt = resume.ranAt :=
  ⟨by decide +kernel,
    (timed_resume_of_latest_pause ⟨_, _, ⟨_, _, _, rfl⟩, rfl⟩ (by decide +kernel) _).1⟩

/-- A configuration that the client takes alone is applied from the paused state, and
the timer resumes the inventory after it all the same. -/
theorem timed_resume_after_applyConfig :
    let paused := run step (initial inventorying) pauseAndAcknowledge
    paused.client.state = .paused ∧ paused.timers.waiting.map Timer.id = [0] ∧
      paused.resumes = [] ∧ (paused.step ⟨.applyConfig 1, []⟩).client.config = 1 ∧
      (run step paused [⟨.applyConfig 1, []⟩, ⟨.fire 0, []⟩, ⟨.expire 0, []⟩]).resumes.map
        TimedResume.timer = [0] := by
  decide +kernel

end PausedReader

end Sllurp.Session
