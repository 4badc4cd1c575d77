/-
# Validated configurations

A configuration is validated when validating it succeeds and changes nothing.
Whatever validation accepted once is validated from then on, so the normal form
is exactly what the constructor and `applyConfig` leave behind.
-/

import Sllurp.Config.Validate

namespace Sllurp.Config

open Sllurp.Foundations Sllurp.Protocol

deriving instance DecidableEq for LLRPReaderConfig

/-- Validation accepts the configuration as it is. -/
def Validated (config : LLRPReaderConfig) : Prop := validateConfig config = (.ok (), config)

instance (config : LLRPReaderConfig) : Decidable (Validated config) :=
  inferInstanceAs (Decidable (_ = _))

/-! ## Checks -/

@[simp]
theorem run_require (condition : Bool) (text : String) (config : LLRPReaderConfig) :
    require condition text config =
      (if condition then .ok () else .error (.llrpError text), config) := by
  cases condition <;> rfl

@[simp]
theorem run_require_bind {α : Type} (condition : Bool) (text : String)
    (next : Unit → Program LLRPReaderConfig Exn α) (config : LLRPReaderConfig) :
    (require condition text >>= next) config =
      if condition then next () config else (.error (.llrpError text), config) := by
  cases condition <;> rfl

/-- What the last phases normalize. -/
structure Normal where
  frequencies : Frequencies
  rfTelemetryMode : String
  tagContentSelector : Option (Dict String SelectorValue)
  zebraTagContentSelector : Option (Dict String Bool)
  txPower : TxPower
  txPowerDbm : Option TxPowerDbm

def LLRPReaderConfig.normal (config : LLRPReaderConfig) : Normal where
  frequencies := config.frequencies
  rfTelemetryMode := config.rfTelemetryMode
  tagContentSelector := config.tagContentSelector
  zebraTagContentSelector := config.zebraTagContentSelector
  txPower := config.txPower
  txPowerDbm := config.txPowerDbm

/-- The configuration with other normalized fields. -/
def LLRPReaderConfig.withNormal (config : LLRPReaderConfig) (normal : Normal) :
    LLRPReaderConfig :=
  { config with
    frequencies := normal.frequencies
    rfTelemetryMode := normal.rfTelemetryMode
    tagContentSelector := normal.tagContentSelector
    zebraTagContentSelector := normal.zebraTagContentSelector
    txPower := normal.txPower
    txPowerDbm := normal.txPowerDbm }

@[simp]
theorem withNormal_normal (config : LLRPReaderConfig) : config.withNormal config.normal = config :=
  rfl

/-- The scalars are checked, and no check reads what the other phases
normalize. -/
theorem run_validateScalars (config : LLRPReaderConfig) (normal : Normal) :
    validateScalars (config.withNormal normal) =
      ((validateScalars config).1, config.withNormal normal) := by
  unfold validateScalars
  simp only [Program.run_get_bind, run_require_bind, run_require, LLRPReaderConfig.withNormal]
  split_ifs <;> rfl

theorem run_validateSession (config : LLRPReaderConfig) (normal : Normal) :
    validateSession (config.withNormal normal) =
      ((validateSession config).1, config.withNormal normal) := by
  unfold validateSession
  simp only [Program.run_get_bind, run_require_bind, run_require, LLRPReaderConfig.withNormal]
  split_ifs <;> rfl

/-! ## Normal forms -/

theorem Frequencies.normalize_normalize (frequencies : Frequencies) :
    frequencies.normalize.normalize = frequencies.normalize := by
  unfold Frequencies.normalize
  cases hmisspelt : frequencies.channelist with
  | none => simp only [hmisspelt]
  | some channels => rfl

theorem run_validateFrequencies (config : LLRPReaderConfig) (normal : Normal)
    (hnormal : normal.frequencies = config.frequencies.normalize) :
    validateFrequencies (config.withNormal normal) =
      ((validateFrequencies config).1, config.withNormal normal) := by
  unfold validateFrequencies
  simp only [Program.run_get_bind, Program.run_modify_bind, run_require_bind, run_require,
    LLRPReaderConfig.withNormal, hnormal, Frequencies.normalize_normalize]
  split_ifs <;> rfl

/-- Every power request has one value for each antenna. -/
structure LLRPReaderConfig.Powered (config : LLRPReaderConfig) : Prop where
  txPower : ∃ indexes : Dict ℤ ℤ, config.txPower = .perAntenna indexes ∧
    indexes.hasKeys config.antennas = true
  txPowerDbm : ∀ request ∈ config.txPowerDbm, ∃ levels : Dict ℤ ℚ,
    request = .perAntenna levels ∧ levels.hasKeys config.antennas = true

theorem stripLower_mode {mode : String} (hmode : mode ∈ ["off", "standard", "zebra"]) :
    stripLower mode = mode := by
  simp only [List.mem_cons, List.not_mem_nil, or_false] at hmode
  rcases hmode with rfl | rfl | rfl <;> decide +kernel

/-- The check of the Zebra report selector. -/
def checkZebraFields (selector : Option (Dict String Bool)) : Except Exn Unit :=
  match selector with
  | none => .ok ()
  | some selector =>
    let unknown := selector.keys.filter (· ∉ allowedZebraReportFields)
    if unknown.isEmpty then .ok ()
    else
      .error (.llrpError ("unknown zebra_tag_content_selector field(s): " ++
        ", ".intercalate (unknown.insertionSort (· ≤ ·))))

/-- The telemetry phase by the three modes. -/
theorem run_validateTelemetry (config : LLRPReaderConfig) :
    validateTelemetry config =
      let mode := stripLower config.rfTelemetryMode
      let moded := { config with rfTelemetryMode := mode }
      if mode = "off" then (checkZebraFields config.zebraTagContentSelector, moded)
      else if mode ∈ ["off", "standard", "zebra"] then
        match config.tagContentSelector with
        | none =>
          (.error (.llrpError "tag_content_selector must be a dict in RF telemetry mode"), moded)
        | some selector =>
          let zebra :=
            if mode = "zebra" then some (zebraTelemetrySelector config.zebraTagContentSelector)
            else config.zebraTagContentSelector
          (checkZebraFields zebra,
            { moded with
              tagContentSelector := some (selector.update telemetryTagFields)
              zebraTagContentSelector := zebra })
      else
        (.error (.llrpError "rf_telemetry_mode must be one of: off, standard, zebra"), moded) := by
  unfold validateTelemetry
  rw [Program.run_modify_bind, Program.run_get_bind, run_require_bind]
  dsimp only
  by_cases hoff : stripLower config.rfTelemetryMode = "off"
  · cases config.zebraTagContentSelector <;> simp [hoff, checkZebraFields]
  by_cases hmode : stripLower config.rfTelemetryMode ∈ ["off", "standard", "zebra"]
  · rw [if_neg hoff, if_pos hmode, if_pos (decide_eq_true hmode), if_pos hoff]
    cases htag : config.tagContentSelector with
    | none => rfl
    | some selector =>
      by_cases hzebra : stripLower config.rfTelemetryMode = "zebra"
      · simp [hzebra, checkZebraFields]
      · cases config.zebraTagContentSelector <;> simp [hzebra, checkZebraFields]
  · rw [if_neg hoff, if_neg hmode, if_neg (by simpa using hmode)]

/-- The power phase gives every antenna a value, or checks that it has one. -/
theorem run_validatePower_of_powered {config : LLRPReaderConfig} (hpowered : config.Powered) :
    validatePower config = (.ok (), config) := by
  obtain ⟨⟨indexes, hindexes, hkeys⟩, hdbm⟩ := hpowered
  unfold validatePower
  rw [Program.run_get_bind, hindexes]
  dsimp only
  rw [run_require_bind, if_pos hkeys]
  cases hrequest : config.txPowerDbm with
  | none => rfl
  | some request =>
    obtain ⟨levels, rfl, hlevels⟩ := hdbm request hrequest
    dsimp only
    rw [run_require, if_pos hlevels]

theorem hasKeys_forAntennas {ν : Type} (antennas : List ℤ) (value : ν) :
    (forAntennas antennas value).hasKeys antennas = true := by
  have hget : ∀ antenna, (forAntennas antennas value).get? antenna =
      if antenna ∈ antennas then some value else none := by
    intro antenna
    unfold forAntennas Dict.ofList
    rw [Dict.get?_update]
    cases hfind : (antennas.map (·, value)).reverse.find? fun entry => entry.1 = antenna with
    | none =>
      rw [List.find?_eq_none] at hfind
      rw [if_neg fun hmem => hfind (antenna, value) (by simpa using hmem) (by simp)]
      rfl
    | some entry =>
      have hmem := List.mem_of_find?_eq_some hfind
      have hkey := List.find?_some hfind
      simp only [List.mem_reverse, List.mem_map] at hmem
      obtain ⟨other, hother, rfl⟩ := hmem
      have hsame : other = antenna := by simpa using hkey
      rw [← hsame, if_pos hother]
      rfl
  simp only [Dict.hasKeys, Bool.and_eq_true, List.all_eq_true, decide_eq_true_eq, Dict.contains]
  refine ⟨fun antenna hmem => by rw [hget, if_pos hmem]; rfl, fun antenna hmem => ?_⟩
  have hsome := (Dict.get?_isSome _ _).mpr hmem
  rw [hget] at hsome
  by_contra hnot
  rw [if_neg hnot] at hsome
  cases hsome

/-- One value for each antenna instead of one for all. -/
def TxPower.spread (antennas : List ℤ) : TxPower → TxPower
  | .index power => .perAntenna (forAntennas antennas power)
  | .perAntenna indexes => .perAntenna indexes

def TxPowerDbm.spread (antennas : List ℤ) : TxPowerDbm → TxPowerDbm
  | .level power => .perAntenna (forAntennas antennas power)
  | .perAntenna levels => .perAntenna levels

/-- The part of the check of the powers that is about requests in dBm. -/
def validateLevels (antennas : List ℤ) : Option TxPowerDbm → Program LLRPReaderConfig Exn Unit
  | none => pure ()
  | some (.level dbm) =>
    Program.modify fun config =>
      { config with txPowerDbm := some (.perAntenna (forAntennas config.antennas dbm)) }
  | some (.perAntenna levels) =>
    require (levels.hasKeys antennas) "Must specify tx_power for each antenna"

/-- Accepted requests in dBm are spread over the antennas. -/
theorem run_validateLevels_of_ok {start later : LLRPReaderConfig}
    (hok : validateLevels start.antennas start.txPowerDbm start = (.ok (), later)) :
    later = { start with
      txPowerDbm := start.txPowerDbm.map (TxPowerDbm.spread start.antennas) } ∧
      ∀ request ∈ later.txPowerDbm, ∃ levels : Dict ℤ ℚ,
        request = .perAntenna levels ∧ levels.hasKeys start.antennas = true := by
  cases hrequest : start.txPowerDbm with
  | none =>
    rw [hrequest] at hok
    cases hok
    refine ⟨by rw [Option.map_none, ← hrequest], fun request hmem => ?_⟩
    rw [hrequest] at hmem
    cases hmem
  | some request =>
    rw [hrequest] at hok
    cases request with
    | level dbm =>
      cases hok
      refine ⟨rfl, fun request hmem => ?_⟩
      cases hmem
      exact ⟨_, rfl, hasKeys_forAntennas _ _⟩
    | perAntenna levels =>
      rw [validateLevels, run_require] at hok
      split at hok
      · cases hok
        refine ⟨by rw [Option.map_some, TxPowerDbm.spread, ← hrequest], fun request hmem => ?_⟩
        rw [hrequest] at hmem
        cases hmem
        exact ⟨levels, rfl, ‹_›⟩
      · cases hok

/-- What the power phase leaves, if it succeeds. -/
theorem run_validatePower_of_ok {config later : LLRPReaderConfig}
    (hok : validatePower config = (.ok (), later)) :
    later = { config with
      txPower := config.txPower.spread config.antennas
      txPowerDbm := config.txPowerDbm.map (TxPowerDbm.spread config.antennas) } ∧
      later.Powered := by
  unfold validatePower at hok
  rw [Program.run_get_bind] at hok
  cases hpower : config.txPower with
  | index index =>
    rw [hpower] at hok
    obtain ⟨hlater, hlevels⟩ := @run_validateLevels_of_ok
      { config with txPower := .perAntenna (forAntennas config.antennas index) } later hok
    subst hlater
    exact ⟨rfl, ⟨_, rfl, hasKeys_forAntennas _ _⟩, hlevels⟩
  | perAntenna indexes =>
    rw [hpower] at hok
    dsimp only at hok
    rw [run_require_bind] at hok
    split at hok
    · rename_i hkeys
      obtain ⟨hlater, hlevels⟩ := run_validateLevels_of_ok hok
      subst hlater
      refine ⟨by rw [TxPower.spread, ← hpower], ⟨indexes, hpower, hkeys⟩, hlevels⟩
    · cases hok

/-- The Zebra selector of the telemetry mode is complete. -/
theorem zebraTelemetrySelector_fixed (selector : Option (Dict String Bool)) :
    zebraTelemetrySelector (some (zebraTelemetrySelector selector)) =
      zebraTelemetrySelector selector := by
  generalize hcomplete : zebraTelemetrySelector selector = complete
  have hget : ∀ field, complete.get? field = (zebraTelemetrySelector selector).get? field :=
    fun field => by rw [hcomplete]
  simp only [zebraTelemetrySelector, Dict.get?_setdefault, Dict.get?_set] at hget
  have hzoneId : (complete.get? "EnableZoneID").isSome = true := by simp [hget]
  have hzoneName : (complete.get? "EnableZoneName").isSome = true := by simp [hget]
  have hport : complete.get? "EnableAntennaPhysicalPortConfig" = some true := by simp [hget]
  have hphase : complete.get? "EnablePhase" = some true := by simp [hget]
  have hgps : (complete.get? "EnableGPS").isSome = true := by simp [hget]
  have hmlt : (complete.get? "EnableMLTReport").isSome = true := by simp [hget]
  unfold zebraTelemetrySelector
  dsimp only [Option.getD]
  rw [Dict.setdefault_of_isSome hzoneId, Dict.setdefault_of_isSome hzoneName,
    Dict.set_of_get? hport, Dict.set_of_get? hphase, Dict.setdefault_of_isSome hgps,
    Dict.setdefault_of_isSome hmlt]

theorem update_telemetryTagFields (selector : Dict String SelectorValue) :
    (selector.update telemetryTagFields).update telemetryTagFields =
      selector.update telemetryTagFields := by
  refine Dict.update_of_get? fun entry hentry => ?_
  rw [Dict.get?_update]
  simp only [telemetryTagFields, List.mem_cons, List.not_mem_nil, or_false] at hentry ⊢
  rcases hentry with rfl | rfl | rfl | rfl | rfl | rfl | rfl <;> rfl

/-- What the telemetry phase leaves, if it succeeds, it leaves again, whatever
the powers are. -/
theorem run_validateTelemetry_of_ok {config later : LLRPReaderConfig}
    (hok : validateTelemetry config = (.ok (), later)) :
    (∃ rfTelemetryMode tagContentSelector zebraTagContentSelector, later = { config with
      rfTelemetryMode, tagContentSelector, zebraTagContentSelector }) ∧
      ∀ txPower txPowerDbm, validateTelemetry { later with txPower, txPowerDbm } =
        (.ok (), { later with txPower, txPowerDbm }) := by
  rw [run_validateTelemetry] at hok
  dsimp only at hok
  by_cases hoff : stripLower config.rfTelemetryMode = "off"
  · rw [if_pos hoff] at hok
    obtain ⟨hcheck, hlater⟩ := Prod.ext_iff.mp hok
    subst hlater
    refine ⟨⟨_, _, _, rfl⟩, fun txPower txPowerDbm => ?_⟩
    rw [run_validateTelemetry]
    dsimp only at hcheck ⊢
    rw [hoff, stripLower_mode (by simp), if_pos rfl, hcheck]
  · rw [if_neg hoff] at hok
    by_cases hmode : stripLower config.rfTelemetryMode ∈ ["off", "standard", "zebra"]
    · rw [if_pos hmode] at hok
      cases htag : config.tagContentSelector with
      | none =>
        rw [htag] at hok
        cases hok
      | some selector =>
        rw [htag] at hok
        obtain ⟨hcheck, hlater⟩ := Prod.ext_iff.mp hok
        subst hlater
        refine ⟨⟨_, _, _, rfl⟩, fun txPower txPowerDbm => ?_⟩
        rw [run_validateTelemetry]
        dsimp only at hcheck ⊢
        rw [stripLower_mode hmode, if_neg hoff, if_pos hmode, update_telemetryTagFields]
        have hzebra : (if stripLower config.rfTelemetryMode = "zebra" then
            some (zebraTelemetrySelector (if stripLower config.rfTelemetryMode = "zebra" then
              some (zebraTelemetrySelector config.zebraTagContentSelector)
              else config.zebraTagContentSelector))
            else if stripLower config.rfTelemetryMode = "zebra" then
              some (zebraTelemetrySelector config.zebraTagContentSelector)
            else config.zebraTagContentSelector) =
            if stripLower config.rfTelemetryMode = "zebra" then
              some (zebraTelemetrySelector config.zebraTagContentSelector)
            else config.zebraTagContentSelector := by
          split
          · rw [zebraTelemetrySelector_fixed]
          · rfl
        rw [hzebra, hcheck]
    · rw [if_neg hmode] at hok
      cases hok

/-- What validation accepts once is validated. -/
theorem validated_of_validateConfig {config later : LLRPReaderConfig}
    (hok : validateConfig config = (.ok (), later)) : Validated later := by
  unfold validateConfig at hok
  simp only [Program.bind_eq_ok_iff] at hok
  obtain ⟨_, first, hscalars, _, second, hfrequencies, _, third, htelemetry, _, fourth, hsession,
    hpower⟩ := hok
  have hfirst := run_validateScalars config config.normal
  rw [withNormal_normal, hscalars] at hfirst
  cases (Prod.ext_iff.mp hfirst).2
  have hsecond : second = config.withNormal
      { config.normal with frequencies := config.frequencies.normalize } := by
    unfold validateFrequencies at hfrequencies
    rw [Program.run_modify_bind, Program.run_get_bind] at hfrequencies
    simp only [run_require_bind, run_require] at hfrequencies
    split_ifs at hfrequencies
    all_goals exact (Prod.ext_iff.mp hfrequencies).2.symm
  obtain ⟨⟨mode, tagContent, zebra, hthird⟩, htelemetric⟩ := run_validateTelemetry_of_ok htelemetry
  have hfourth := run_validateSession config
    ⟨config.frequencies.normalize, mode, tagContent, zebra, config.txPower, config.txPowerDbm⟩
  rw [show config.withNormal _ = third by rw [hthird, hsecond]; rfl, hsession] at hfourth
  have hsessionOk : _ = (validateSession config).1 := (Prod.ext_iff.mp hfourth).1
  have hsame : fourth = third := (Prod.ext_iff.mp hfourth).2
  obtain ⟨hlater, hpowered⟩ := run_validatePower_of_ok hpower
  have hnormal : later = config.withNormal
      ⟨config.frequencies.normalize, mode, tagContent, zebra,
        config.txPower.spread config.antennas,
        config.txPowerDbm.map (TxPowerDbm.spread config.antennas)⟩ := by
    rw [hlater, hsame, hthird, hsecond]
    rfl
  have hagain := htelemetric (config.txPower.spread config.antennas)
    (config.txPowerDbm.map (TxPowerDbm.spread config.antennas))
  rw [show { third with
      txPower := config.txPower.spread config.antennas
      txPowerDbm := config.txPowerDbm.map (TxPowerDbm.spread config.antennas) } = later by
    rw [hnormal, hthird, hsecond]; rfl] at hagain
  unfold Validated validateConfig
  simp only [Program.bind_eq_ok_iff]
  refine ⟨(), later, ?_, (), later, ?_, (), later, hagain, (), later, ?_,
    run_validatePower_of_powered hpowered⟩
  · rw [hnormal, run_validateScalars, hscalars]
  · rw [hnormal, run_validateFrequencies _ _ rfl, hfrequencies]
  · rw [hnormal, run_validateSession, ← hsessionOk]

/-- Every antenna of a validated configuration has its own power requests. -/
theorem Validated.powered {config : LLRPReaderConfig} (hvalid : Validated config) :
    config.Powered := by
  unfold Validated validateConfig at hvalid
  simp only [Program.bind_eq_ok_iff] at hvalid
  obtain ⟨_, _, _, _, _, _, _, _, _, _, _, _, hpower⟩ := hvalid
  exact (run_validatePower_of_ok hpower).2

end Sllurp.Config
