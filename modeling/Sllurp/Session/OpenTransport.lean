/-
# Session changes on an open transport

Fields that need a new session should be refused while the socket is open. The
reader client asks whether it is fully disconnected, the protocol client only
whether its state is DISCONNECTED; between the opening of the socket and the
first event of the reader the second question lets such a change through.
-/

import Sllurp.Config.Validated
import Sllurp.Session.Run

namespace Sllurp.Session

open Sllurp.Foundations Sllurp.Protocol Sllurp.Config Sllurp.Runtime

/-- Validating a validated configuration changes nothing. -/
theorem run_validateObject_of_validated {client : Client} {ref : ConfigRef}
    (hvalid : Validated (client.configs ref)) : validateObject ref client = (.ok (), client) := by
  have hconfigs : (fun other => if other = ref then client.configs ref else client.configs other) =
      client.configs := by
    funext other
    split
    · rename_i heq
      rw [heq]
    · rfl
  unfold validateObject Client.setConfig
  rw [show validateConfig (client.configs ref) = _ from hvalid]
  dsimp only
  rw [hconfigs]

/-- A validated configuration replaces the current one while the protocol is
disconnected. -/
theorem run_updateConfig_of_validated {client : Client} {ref : ConfigRef}
    (hvalid : Validated (client.configs ref)) (hstate : client.state = .disconnected) :
    updateConfig ref client = (.ok (), client.replaceConfig ref) := by
  unfold updateConfig
  rw [Program.run_bind_ok (run_validateObject_of_validated hvalid), Program.run_get_bind,
    if_neg (not_not_intro hstate), Program.run_modify]

/-- A plan that needs a new session changes something. -/
theorem isNoop_of_requiresReconnect {plan : ConfigTransitionPlan}
    (hreconnect : plan.requiresReconnect = true) : plan.isNoop = false := by
  unfold ConfigTransitionPlan.isNoop
  cases hchanges : plan.changes with
  | nil => simp [ConfigTransitionPlan.requiresReconnect, ConfigTransitionPlan.actions, hchanges]
      at hreconnect
  | cons change changes => rfl

/-- Applying the configuration through the reader client raises a configuration
error and leaves both layers with their configuration. -/
def Client.refuses (client : Client) (newConfig : ConfigRef) : Prop :=
  (∃ text, (readerApplyConfig newConfig client).1 = .error (.readerConfigurationError text)) ∧
    ((readerApplyConfig newConfig).final client).reader.config = client.reader.config ∧
    ((readerApplyConfig newConfig).final client).config = client.config

/-- While the socket is open, a change that needs a new session is refused
exactly when the protocol session has begun. -/
theorem session_change_refused_iff {client : Client} (hsocket : client.reader.socket = true)
    {newConfig : ConfigRef} (hvalid : Validated (client.configs newConfig))
    (hreconnect : (buildConfigTransitionPlan client.settings
      (client.configs newConfig)).requiresReconnect = true) :
    client.refuses newConfig ↔ client.state ≠ .disconnected := by
  have hopen : client.fullyDisconnected = false := by simp [Client.fullyDisconnected, hsocket]
  have hnoop := isNoop_of_requiresReconnect hreconnect
  have hvalidate := run_validateObject_of_validated hvalid
  have hrun : readerApplyConfig newConfig client =
      applyConfig newConfig (.completed newConfig client.reader.config) client := by
    unfold readerApplyConfig
    rw [Program.run_bind_ok hvalidate, Program.run_get_bind, hopen, if_neg Bool.false_ne_true]
  unfold Client.refuses Program.final
  rw [hrun]
  unfold applyConfig
  rw [Program.run_bind_ok hvalidate, Program.run_get_bind]
  dsimp only
  rw [Program.run_modify_bind, hnoop, if_neg Bool.false_ne_true, hreconnect]
  by_cases hstate : client.state = .disconnected
  · -- The protocol client takes the change as one made offline.
    have hupdate := @run_updateConfig_of_validated (client.addTransition
      (buildConfigTransitionPlan client.settings (client.configs newConfig)) newConfig) newConfig
      hvalid hstate
    refine iff_of_false ?_ (not_not_intro hstate)
    rw [if_neg (by simp [hstate]), if_pos hstate, Program.run_bind_ok hupdate]
    rintro ⟨⟨text, hraised⟩, -⟩
    cases hraised
  · refine iff_of_true ?_ hstate
    rw [if_pos (by simp [hstate])]
    exact ⟨⟨_, rfl⟩, rfl, rfl⟩

/-- The default configuration, validated, and the same with TLS. -/
def offlineConfigs (ref : ConfigRef) : LLRPReaderConfig :=
  if ref = 0 then timedConfig else { timedConfig with tlsEnabled := true }

theorem session_change_refused_openSession :
    (run act (Client.initial offlineConfigs 0 true) openSession).refuses 1 :=
  (session_change_refused_iff (by decide +kernel) (by decide +kernel) (by decide +kernel)).mpr
    (by decide +kernel)

/-- Before the reader's first event the change is applied. -/
theorem session_change_applied :
    (run act (Client.initial offlineConfigs 0 true) [⟨.connect, []⟩]).reader.socket = true ∧
      ¬ (run act (Client.initial offlineConfigs 0 true) [⟨.connect, []⟩]).refuses 1 := by
  refine ⟨by decide +kernel, ?_⟩
  rintro ⟨-, -, hconfig⟩
  revert hconfig
  decide +kernel

end Sllurp.Session
