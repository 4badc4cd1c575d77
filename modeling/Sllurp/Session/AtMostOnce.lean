/-
# At most one completion for each request

A timeout takes its request out of the registry first and tells the callback
later. In between the callback is still in the deferred list, and a response of
the same name that matches nothing runs it from there. Without such a response
no callback runs twice.
-/

import Sllurp.Session.Completion

namespace Sllurp.Session

open Sllurp.Foundations Sllurp.Protocol Sllurp.Config Sllurp.Runtime
open Sllurp.Foundations.Program

/-- The steps that keep callbacks apart. -/
def keepsApart (client : Client) (action : Action) : Prop :=
  action.call.runsLeftover (client.facing action.writes) = false

instance (client : Client) (action : Action) : Decidable (keepsApart client action) :=
  inferInstanceAs (Decidable (_ = _))

/-- In a run in which no response runs a callback that nothing pending holds,
every callback is invoked at most once. -/
theorem callback_invoked_at_most_once {configs : ConfigRef → LLRPReaderConfig}
    {config : ConfigRef} {owned : Bool} {actions : List Action}
    (hrun : Guarded act keepsApart (Client.initial configs config owned) actions) (serial : ℕ) :
    (run act (Client.initial configs config owned) actions).core.invocations serial ≤ 1 := by
  have hcore := hrun.invariant (fun client => Correlated true client.core)
    (fun _ _ hcore hsafe => correlated_act hcore fun _ => hsafe)
    (correlated_initial true configs config owned)
  exact (Nat.le_add_right _ _).trans (hcore.load_le serial)

/-- A setup request expires, and its callback hears of it before or after a
response of the same type with another ID arrives. -/
def lateTimeout (between : List Action) : List Action :=
  [⟨.connect, []⟩, ⟨.handleMessage .connectionEvent, []⟩,
    ⟨.expire (.getReaderCapabilitiesResponse, 1), []⟩] ++ between ++
    [⟨.onRequestTimeout 0, []⟩]

theorem callback_invoked_at_most_once_lateTimeout :
    (run act (Client.initial (fun _ => timedConfig) 0 true) (lateTimeout [])).core.invocations 0 ≤
      1 :=
  callback_invoked_at_most_once (by decide +kernel) 0

/-- A response with a foreign ID between the two halves of the timeout runs the
callback, and the second half runs it again. -/
theorem callback_invoked_twice :
    ¬ (run act (Client.initial (fun _ => timedConfig) 0 true)
      (lateTimeout [respond .getReaderCapabilitiesResponse 2 .deviceError])).core.invocations 0 ≤
        1 := by
  decide +kernel

end Sllurp.Session
