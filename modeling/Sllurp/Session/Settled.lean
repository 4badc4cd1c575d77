/-
# What parsing the capabilities settles

A configuration that passes the check against the capabilities leaves it with
one table index for each antenna, and the client with values that depend on the
configuration and the capabilities alone. Passing is a fixed point: a settled
configuration settles to itself.
-/

import Sllurp.Config.Validated
import Sllurp.Foundations.Outcome
import Sllurp.Session.Parsing

namespace Sllurp.Session

open Sllurp.Foundations Sllurp.Protocol Sllurp.Config Sllurp.Runtime
open Sllurp.Foundations.Program

/-! ## Selected powers -/

/-- The valid index of the highest power of a band. -/
def maxPowerIndex (band : UHFBandCapabilities) : Option ℕ :=
  (validIndices (powerIndices band) (parsePowerTable band)).argmax (powerAt (parsePowerTable band))

/-- The indexes that requested powers select from the table of a band. -/
def resolvedPowers (band : UHFBandCapabilities) (txPower : Dict ℤ ℤ) (zeroIsMax : Bool) :
    Dict ℤ ℤ :=
  match maxPowerIndex band with
  | none => .empty
  | some maxPowerIdx =>
    txPower.mapValues fun requested =>
      if requested = 0 && zeroIsMax then (maxPowerIdx : ℤ) else requested

/-- The indexes that are requested by their powers in dBm. -/
def requestedIndices (band : UHFBandCapabilities) (levels : Dict ℤ ℚ) : Dict ℤ ℤ :=
  levels.mapValues fun dbm =>
    ((nearestIndex (powerIndices band) (parsePowerTable band) dbm).getD
      ((maxPowerIndex band).getD 0) : ℤ)

/-- The selected indexes are the requested ones, or the highest. -/
theorem map_getTxPower_of_argmax {indices : List ℕ} {table : List ℚ} {maxPowerIdx : ℕ}
    (hmax : (validIndices indices table).argmax (powerAt table) = some maxPowerIdx)
    (htable : table.isEmpty = false) {txPower : Dict ℤ ℤ} {zeroIsMax : Bool}
    {selected : List (ℤ × ℕ × ℚ)}
    (hok : getTxPower indices table txPower.entries zeroIsMax = .ok selected) :
    selected.map (fun power => (power.1, (power.2.1 : ℤ))) =
      (txPower.mapValues fun requested =>
        if requested = 0 && zeroIsMax then (maxPowerIdx : ℤ) else requested).entries := by
  unfold getTxPower at hok
  rw [if_neg (by simp [htable])] at hok
  dsimp only at hok
  rw [hmax] at hok
  refine Outcome.map_mapM (fun power result hselect => ?_) hok
  obtain ⟨antenna, requested⟩ := power
  dsimp only at hselect ⊢
  generalize (if requested = 0 && zeroIsMax then (maxPowerIdx : ℤ) else requested) = chosen
    at hselect ⊢
  split at hselect
  · rename_i hvalid
    cases hselect
    exact Prod.ext rfl (Int.toNat_of_nonneg hvalid.2)
  · cases hselect

/-- The selected indexes are the resolved ones. -/
theorem map_getTxPower {band : UHFBandCapabilities} {txPower : Dict ℤ ℤ} {zeroIsMax : Bool}
    {selected : List (ℤ × ℕ × ℚ)}
    (hok : getTxPower (powerIndices band) (parsePowerTable band) txPower.entries zeroIsMax =
      .ok selected) (htable : (parsePowerTable band).isEmpty = false) :
    selected.map (fun power => (power.1, (power.2.1 : ℤ))) =
      (resolvedPowers band txPower zeroIsMax).entries := by
  unfold resolvedPowers maxPowerIndex
  cases hmax : (validIndices (powerIndices band) (parsePowerTable band)).argmax
    (powerAt (parsePowerTable band)) with
  | none =>
    unfold getTxPower at hok
    rw [if_neg (by simp [htable])] at hok
    dsimp only at hok
    rw [hmax] at hok
    cases hok
    rfl
  | some maxPowerIdx => exact map_getTxPower_of_argmax hmax htable hok

/-- The power table has an entry for the lowest index. -/
theorem parsePowerTable_ne_nil (band : UHFBandCapabilities) :
    (parsePowerTable band).isEmpty = false := by
  unfold parsePowerTable
  dsimp only
  split
  · rfl
  · have hlength : ∀ (entries : List TransmitPowerLevelTableEntry) (table : List ℚ),
        (entries.foldl
          (fun table entry =>
            table.set entry.index (Binary64.round (entry.transmitPowerValue / 100)))
          table).length = table.length := by
      intro entries
      induction entries with
      | nil => exact fun table => rfl
      | cons entry entries ih =>
        intro table
        rw [List.foldl_cons, ih, List.length_set]
    rw [← Bool.not_eq_true, List.isEmpty_iff]
    intro hnil
    have hzero := congrArg List.length hnil
    rw [hlength, List.length_replicate] at hzero
    exact Nat.succ_ne_zero _ hzero

/-- Assigning admitted powers is an update of the mapping. -/
theorem assignedPowers_of_admits {powers : Dict ℤ ℤ} {selected : List (ℤ × ℕ × ℚ)}
    (hadmits : admitsPowers (.perAntenna powers) selected = true) :
    assignedPowers (.perAntenna powers) selected =
      .perAntenna (powers.update (selected.map fun power => (power.1, (power.2.1 : ℤ)))) := by
  induction selected generalizing powers with
  | nil => rfl
  | cons power selected ih =>
    obtain ⟨antenna, index, dbm⟩ := power
    simp only [admitsPowers, List.all_cons, Bool.and_eq_true] at hadmits
    obtain ⟨current, hcurrent⟩ := Option.isSome_iff_exists.mp hadmits.1
    have hrest : admitsPowers (.perAntenna powers) selected = true := hadmits.2
    have hupdate : powers.update (((antenna, index, dbm) :: selected).map
        fun power => (power.1, (power.2.1 : ℤ))) =
        (powers.set antenna index).update (selected.map fun power => (power.1, (power.2.1 : ℤ))) :=
      rfl
    rw [assignedPowers, hcurrent, hupdate]
    dsimp only
    split
    · rename_i hsame
      rw [Dict.set_of_get? (by rw [hcurrent, hsame]), ih hrest]
    · exact ih (by rw [admits_set hadmits.1, hrest])

/-- Powers that are granted are put into the mapping as they are resolved. -/
theorem selectedPowers_of_grants {config : LLRPReaderConfig} {band : UHFBandCapabilities}
    {indexes txPower : Dict ℤ ℤ} {zeroIsMax : Bool} (hpower : config.txPower = .perAntenna indexes)
    (hgrants : grantsPowers config band txPower.entries zeroIsMax = true) :
    selectedPowers (.perAntenna indexes) band txPower.entries zeroIsMax =
      .perAntenna (indexes.update (resolvedPowers band txPower zeroIsMax).entries) := by
  unfold grantsPowers at hgrants
  unfold selectedPowers
  cases hselected : getTxPower (powerIndices band) (parsePowerTable band) txPower.entries
    zeroIsMax with
  | error raised =>
    rw [hselected] at hgrants
    cases hgrants
  | ok selected =>
    rw [hselected, hpower] at hgrants
    dsimp only at hgrants ⊢
    rw [assignedPowers_of_admits hgrants, map_getTxPower hselected (parsePowerTable_ne_nil band)]

/-- The indexes that a configuration requests, by its powers in dBm if it has
any. -/
def requestedPowers (config : LLRPReaderConfig) (band : UHFBandCapabilities)
    (indexes : Dict ℤ ℤ) : Dict ℤ ℤ :=
  match config.txPowerDbm with
  | some (.perAntenna levels) => resolvedPowers band (requestedIndices band levels) false
  | _ => resolvedPowers band indexes true

/-- What configured powers settle to when they are granted. -/
theorem configuredPowers_of_grants {config : LLRPReaderConfig} {band : UHFBandCapabilities}
    {indexes : Dict ℤ ℤ} (hpower : config.txPower = .perAntenna indexes)
    (hgrants : grantsConfiguredPower config band = true) :
    configuredPowers config band =
      .perAntenna (indexes.update
        (requestedPowers config band indexes).entries) := by
  unfold grantsConfiguredPower at hgrants
  unfold configuredPowers requestedPowers
  cases hdbm : config.txPowerDbm with
  | none =>
    rw [hdbm, hpower] at hgrants
    rw [hpower]
    exact selectedPowers_of_grants hpower hgrants
  | some levels =>
    rw [hdbm, hpower] at hgrants
    rw [hpower]
    cases levels with
    | level dbm => cases hgrants
    | perAntenna levels =>
      unfold requestedIndices maxPowerIndex
      dsimp only at hgrants ⊢
      cases hmax : (validIndices (powerIndices band) (parsePowerTable band)).argmax
        (powerAt (parsePowerTable band)) with
      | none =>
        rw [hmax] at hgrants
        cases hgrants
      | some maxPowerIdx =>
        rw [hmax] at hgrants
        exact selectedPowers_of_grants hpower hgrants

/-! ## Settled values -/

/-- A configuration with its settled powers. -/
def settledConfig (config : LLRPReaderConfig) (capabilities : Capabilities) : LLRPReaderConfig :=
  { config with txPower := settledPowers config capabilities }

/-- What the client derives from a configuration and the capabilities it
passes. -/
def settledValues (config : LLRPReaderConfig) (capabilities : Capabilities) : Derived :=
  let band := capabilities.uhfBand.toOption.getD {}
  let modes := band.modeList.toOption.getD []
  { txPower := settledPowers config capabilities
    txPowerDbm := config.txPowerDbm
    maxAnt := capabilities.maxNumberOfAntennaSupported.getD 0
    txPowerTable := parsePowerTable band
    txPowerIndices := powerIndices band
    readerMode := (selectMode config modes).toOption.join
    dedupBackendActive := (selectDedupBackend config capabilities).toOption.getD .disabled }

/-- Outside INVENTORYING, a configuration that passes leaves the client with its
settled values. -/
theorem run_parseCapabilities_of_passes {client : Client} (hstate : client.state ≠ .inventorying)
    {capabilities : Capabilities}
    (hpasses : passesCapabilities client.settings capabilities = true) :
    parseCapabilities capabilities client =
      (.ok (), client.parsed (settledValues client.settings capabilities)) := by
  unfold passesCapabilities at hpasses
  unfold parseCapabilities key settledValues settledPowers
  rw [Program.run_bind, Program.run_ofExcept]
  cases hantennas : capabilities.maxNumberOfAntennaSupported with
  | none =>
    rw [hantennas] at hpasses
    cases hpasses
  | some maxAnt =>
    cases hband : capabilities.uhfBand with
    | error raised =>
      rw [hantennas, hband] at hpasses
      cases hpasses
    | ok band =>
      rw [hantennas, hband] at hpasses
      simp only [Bool.and_eq_true] at hpasses
      obtain ⟨⟨hantennasOk, hgrants⟩, hrest⟩ := hpasses
      cases hmodes : band.modeList with
      | error raised => simp [hmodes] at hrest
      | ok modes =>
        cases hmode : selectMode client.settings modes with
        | error raised => simp [hmodes, hmode] at hrest
        | ok mode =>
          simp only [hmodes, hmode, Bool.and_eq_true] at hrest
          obtain ⟨_, hantennasRun⟩ := exists_ok_of_isOk hantennasOk
          obtain ⟨_, htari⟩ := exists_ok_of_isOk hrest.1
          obtain ⟨backend, hbackend⟩ := exists_ok_of_isOk hrest.2
          let ready := (client.withMaxAnt maxAnt).withPowerTable band
          have hready : ready.state ≠ .inventorying := hstate
          have hraises : setConfiguredPower.raises ready = false := by
            rw [raises_setConfiguredPower hready rfl rfl]
            change (!grantsConfiguredPower client.settings band) = false
            rw [hgrants]
            rfl
          let later := ready.withTxPower (configuredPowers ready.settings band)
          have hpower : setConfiguredPower ready = (.ok (), later) := by
            obtain ⟨⟨⟩, hrun⟩ := run_of_not_raises hraises
            rw [hrun, final_setConfiguredPower hready rfl rfl]
          have hlater : (later.withReaderMode none).settings =
              { client.settings with txPower := configuredPowers client.settings band } :=
            Client.settings_withTxPower ready _
          have hmodeLater : selectMode (later.withReaderMode none).settings modes = .ok mode := by
            rw [hlater]
            exact hmode
          have htariLater : checkTari (later.withReaderMode none).settings mode = .ok () := by
            rw [hlater]
            exact htari
          have hbackendLater : selectDedupBackend (later.withReaderMode none).settings
              capabilities = .ok backend := by
            rw [hlater]
            exact hbackend
          have hsettings : (client.withMaxAnt maxAnt).settings = client.settings := rfl
          dsimp only
          rw [Program.run_modify_bind, Program.run_get_bind, hsettings, hantennasRun,
            Program.run_bind, Program.run_ofExcept]
          dsimp only
          rw [Program.run_bind, Program.run_ofExcept]
          dsimp only
          rw [Program.run_modify_bind, Program.run_bind, hpower]
          dsimp only
          rw [Program.run_bind, Program.run_ofExcept, hmodes]
          dsimp only
          rw [Program.run_modify_bind, Program.run_get_bind]
          rw [hmodeLater, Program.run_bind, Program.run_ofExcept]
          dsimp only
          rw [Program.run_modify_bind, htariLater, Program.run_bind, Program.run_ofExcept]
          dsimp only
          rw [hbackendLater, Program.run_bind, Program.run_ofExcept]
          dsimp only
          rw [Program.run_modify, hbackend]
          simp only [Except.toOption, Option.getD_some, hmodes, hmode, Option.join_some]
          rfl

end Sllurp.Session
