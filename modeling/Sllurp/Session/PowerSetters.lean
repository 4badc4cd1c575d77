/-
# Setting the transmit power in parts

The two power setters check the requested indexes before they assign anything, but
they look up the antennas while they assign, and they keep the requested dBm values
before either. A setter that fails on an antenna leaves the antennas before it changed,
and one that cannot restart the inventory leaves all of them changed.
-/

import Sllurp.Session.Escapes
import Sllurp.Session.Run
import Mathlib.Data.List.TakeWhile

namespace Sllurp.Session

open Sllurp.Foundations Sllurp.Protocol Sllurp.Config Sllurp.Runtime
open Sllurp.Foundations.Program

/-! ## Power settings -/

/-- The index that a setting has for an antenna. -/
def indexOf : TxPower → ℤ → Option ℤ
  | .index _, _ => none
  | .perAntenna powers, antenna => powers.get? antenna

/-- The same requests in dBm, in whatever order. -/
def SameLevels : Option TxPowerDbm → Option TxPowerDbm → Prop
  | some (.perAntenna first), some (.perAntenna second) =>
    ∀ antenna, first.get? antenna = second.get? antenna
  | first, second => first = second

theorem SameLevels.refl (levels : Option TxPowerDbm) : SameLevels levels levels := by
  rcases levels with _ | (_ | _)
  · rfl
  · rfl
  · exact fun antenna => rfl

namespace Client

/-- The indexes that may be selected. -/
def selectable (client : Client) : List ℕ :=
  validIndices client.txPowerIndices client.txPowerTable

/-- The index of the highest power. -/
def highest (client : Client) : ℕ :=
  (client.selectable.argmax (powerAt client.txPowerTable)).getD 0

/-- The indexes that requested ones stand for. -/
def targets (client : Client) (zeroIsMax : Bool) (requests : Dict ℤ ℤ) : Dict ℤ ℤ :=
  requests.mapValues fun requested =>
    if requested = 0 && zeroIsMax then (client.highest : ℤ) else requested

/-- A change of the power does not have to stop the inventory, or the stop goes out. -/
def CanChange (client : Client) : Prop :=
  client.state = .inventorying → client.sends .deleteAccessspecResponse = true

/-- The antennas of the mapping have indexes that meet the requests already. -/
def Kept {α : Type} (client : Client) (requests : Dict ℤ α) (meets : α → ℕ → Prop) : Prop :=
  ∀ antenna request, requests.get? antenna = some request →
    ∃ index ∈ client.txPowerIndices,
      indexOf client.settings.txPower antenna = some (index : ℤ) ∧ meets request index

end Client

/-! ## Assigning -/

/-- The selected power of an antenna, as a target. -/
def targetOf (power : ℤ × ℕ × ℚ) : ℤ × ℤ := (power.1, power.2.1)

section Selecting

variable {client : Client} {requests : Dict ℤ ℤ} {zeroIsMax : Bool}

end Selecting

/-! ## The setters -/

section Atomicity

variable {α : Type} {client : Client} {setter : ClientM Unit} {requests : Dict ℤ α}
  {meets : α → ℕ → Prop}

/-- A setter that assigns the targets of the requests. -/
structure Assigns (setter : ClientM Unit) (client : Client) (targets : Dict ℤ ℤ)
    (levels : Option TxPowerDbm) (selected : List (ℤ × ℕ × ℚ)) : Prop where
  targets : selected.map targetOf = targets.entries
  txPower : (setter.final client).settings.txPower =
    assignedPowers client.settings.txPower selected
  txPowerDbm : (setter.final client).settings.txPowerDbm = levels
  raises : setter.raises client = true ↔
    (∃ power ∈ selected, indexOf client.settings.txPower power.1 = none) ∨
      assignedPowers client.settings.txPower selected ≠ client.settings.txPower ∧
        ¬ client.CanChange

variable {targets : Dict ℤ ℤ} {levels : Option TxPowerDbm} {selected : List (ℤ × ℕ × ℚ)}

theorem Assigns.nodup (hassigns : Assigns setter client targets levels selected) :
    (selected.map Prod.fst).Nodup := by
  have hkeys : selected.map Prod.fst = targets.entries.map Prod.fst := by
    rw [← hassigns.targets, List.map_map]
    rfl
  rw [hkeys]
  exact targets.nodup

end Atomicity

end Sllurp.Session
