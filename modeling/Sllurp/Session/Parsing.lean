/-
# What parsing the capabilities changes

Outside INVENTORYING, checking the configuration against the capabilities sends
nothing. It rewrites the powers of the current configuration and the values
derived from the capabilities, and leaves everything else as it is.
-/

import Sllurp.Session.Sending

namespace Sllurp.Session

open Sllurp.Foundations Sllurp.Protocol Sllurp.Config Sllurp.Runtime
open Sllurp.Foundations.Program

/-- What parsing the capabilities may change: the powers of the current
configuration, and the values derived from the capabilities. -/
structure Derived where
  txPower : TxPower
  txPowerDbm : Option TxPowerDbm
  maxAnt : ℕ
  txPowerTable : List ℚ
  txPowerIndices : List ℕ
  readerMode : Option ReaderMode
  dedupBackendActive : DedupBackend

namespace Client

def derived (client : Client) : Derived where
  txPower := client.settings.txPower
  txPowerDbm := client.settings.txPowerDbm
  maxAnt := client.maxAnt
  txPowerTable := client.txPowerTable
  txPowerIndices := client.txPowerIndices
  readerMode := client.readerMode
  dedupBackendActive := client.dedupBackendActive

/-- The client with other derived values. -/
def parsed (client : Client) (values : Derived) : Client :=
  { client.setConfig client.config
      { client.settings with txPower := values.txPower, txPowerDbm := values.txPowerDbm } with
    maxAnt := values.maxAnt
    txPowerTable := values.txPowerTable
    txPowerIndices := values.txPowerIndices
    readerMode := values.readerMode
    dedupBackendActive := values.dedupBackendActive }

theorem parsed_self (client : Client) : client.parsed client.derived = client := by
  have hconfigs : (fun other => if other = client.config then client.configs client.config
      else client.configs other) = client.configs := by
    funext other
    split
    · rename_i heq
      rw [heq]
    · rfl
  cases client
  simp only [parsed, setConfig, settings, derived] at hconfigs ⊢
  rw [hconfigs]

@[simp]
theorem settings_parsed (client : Client) (values : Derived) :
    (client.parsed values).settings =
      { client.settings with txPower := values.txPower, txPowerDbm := values.txPowerDbm } :=
  if_pos rfl

theorem parsed_parsed (client : Client) (first second : Derived) :
    (client.parsed first).parsed second = client.parsed second := by
  have hconfigs : ∀ early late : LLRPReaderConfig,
      (fun other => if other = client.config then late
        else if other = client.config then early else client.configs other) =
      fun other => if other = client.config then late else client.configs other := by
    intro early late
    funext other
    split <;> rfl
  have hcontent : { (client.parsed first).settings with
      txPower := second.txPower, txPowerDbm := second.txPowerDbm } =
      { client.settings with txPower := second.txPower, txPowerDbm := second.txPowerDbm } := by
    rw [settings_parsed]
  rw [parsed, hcontent]
  simp only [parsed, setConfig]
  congr 1
  exact hconfigs _ _

@[simp]
theorem core_parsed (client : Client) (values : Derived) :
    (client.parsed values).core = client.core := rfl

@[simp]
theorem state_parsed (client : Client) (values : Derived) :
    (client.parsed values).state = client.state := rfl

end Client

/-- Outside INVENTORYING, only powers and derived values may change. -/
def parsing : Frame Client where
  Rel before after := before.state ≠ .inventorying → ∃ values, after = before.parsed values
  refl client _ := ⟨client.derived, client.parsed_self.symm⟩
  trans := by
    intro first second third hfirst hsecond hstate
    obtain ⟨early, rfl⟩ := hfirst hstate
    obtain ⟨late, rfl⟩ := hsecond hstate
    exact ⟨late, first.parsed_parsed _ _⟩

namespace Parsing

theorem derive {update : Client → Client}
    (hupdate : ∀ client, ∃ values, update client = client.parsed values) :
    Within parsing (Program.modify update : ClientM Unit) :=
  Within.modify fun client _ => hupdate client

theorem setTxPower_rel (client : Client) (txPower : TxPower) :
    parsing.Rel client (client.setConfig client.config { client.settings with txPower }) :=
  fun _ => ⟨{ client.derived with txPower }, rfl⟩

theorem setTxPowerDbm_rel (client : Client) (txPowerDbm : Option TxPowerDbm) :
    parsing.Rel client (client.setConfig client.config { client.settings with txPowerDbm }) :=
  fun _ => ⟨{ client.derived with txPowerDbm }, rfl⟩

theorem assignPowers (selected : List (ℤ × ℕ × ℚ)) (needsUpdate : Bool) :
    Within parsing (Session.assignPowers selected needsUpdate) := by
  induction selected generalizing needsUpdate with
  | nil => exact .pure needsUpdate
  | cons power selected ih =>
    obtain ⟨antenna, index, dbm⟩ := power
    unfold Session.assignPowers
    refine .bind .get fun client => ?_
    cases client.settings.txPower with
    | index index => exact .raise _
    | perAntenna powers =>
      cases hpower : powers.get? antenna with
      | none => simpa only [hpower] using Within.raise _
      | some current =>
        simp only [hpower]
        refine .ite (fun _ => ih needsUpdate) fun _ => ?_
        exact .bind (.modify fun client => setTxPower_rel client _) fun _ => ih true

theorem setTxPower (txPower : List (ℤ × ℤ)) (zeroIsMax : Bool) :
    Within parsing (Session.setTxPower txPower zeroIsMax) := by
  unfold Session.setTxPower
  refine .bind .get fun client => .bind (.ofExcept _) fun selected => ?_
  refine .bind (assignPowers selected false) fun needsUpdate => .get_bind fun later hstate => ?_
  have hquiet : ¬ (needsUpdate && decide (later.state = .inventorying)) = true := by
    simp [hstate]
  rw [if_neg hquiet]
  exact parsing.refl later hstate

theorem setTxPowerDbm (txPowDbm : Option (Dict ℤ ℚ)) :
    Within parsing (Session.setTxPowerDbm txPowDbm) := by
  unfold Session.setTxPowerDbm
  refine .bind .get fun client => ?_
  dsimp only
  split
  · exact .raise _
  · cases txPowDbm with
    | none => exact setTxPower _ _
    | some levels =>
      exact .bind (.modify fun client => setTxPowerDbm_rel client _) fun _ => setTxPower _ _

theorem setConfiguredPower : Within parsing Session.setConfiguredPower := by
  unfold Session.setConfiguredPower
  refine .bind .get fun client => ?_
  split
  · exact setTxPowerDbm _
  · exact .raise _
  · exact setTxPower _ _
  · exact .raise _

end Parsing

/-- Checking against the capabilities is quiet outside INVENTORYING. -/
theorem parseCapabilities_parsing (capabilities : Capabilities) :
    Within parsing (parseCapabilities capabilities) := by
  have hderive : ∀ (update : Client → Client) (derive : Derived → Derived),
      (∀ client : Client, update client = (update client).parsed (update client).derived →
        update client = client.parsed (derive client.derived)) →
      Within parsing (Program.modify update : ClientM Unit) :=
    fun update derive hupdate => Parsing.derive fun client =>
      ⟨derive client.derived, hupdate client (update client).parsed_self.symm⟩
  unfold parseCapabilities
  refine .bind (.ofExcept _) fun maxAnt => ?_
  refine .bind (hderive _ ({ · with maxAnt }) fun _ => id) fun _ => ?_
  refine .bind .get fun client => .bind (.ofExcept _) fun _ => .bind (.ofExcept _) fun band => ?_
  refine .bind (hderive _ ({ · with
    txPowerIndices := powerIndices band, txPowerTable := parsePowerTable band }) fun _ => id)
    fun _ => .bind Parsing.setConfiguredPower fun _ => ?_
  refine .bind (.ofExcept _) fun modes =>
    .bind (hderive _ ({ · with readerMode := none }) fun _ => id) fun _ => ?_
  refine .bind .get fun client => .bind (.ofExcept _) fun mode => ?_
  refine .bind (hderive _ ({ · with readerMode := mode }) fun _ => id) fun _ =>
    .bind (.ofExcept _) fun _ => ?_
  exact .bind (.ofExcept _) fun backend =>
    hderive _ ({ · with dedupBackendActive := backend }) fun _ => id

/-! ## When the check passes -/

/-- Whether selected powers can be put into a power setting. -/
def admitsPowers : TxPower → List (ℤ × ℕ × ℚ) → Bool
  | .index _, selected => selected.isEmpty
  | .perAntenna powers, selected => selected.all fun power => powers.contains power.1

/-- Whether the power table has the requested powers for the antennas of the
configuration. -/
def grantsPowers (config : LLRPReaderConfig) (band : UHFBandCapabilities)
    (txPower : List (ℤ × ℤ)) (zeroIsMax : Bool) : Bool :=
  match getTxPower (powerIndices band) (parsePowerTable band) txPower zeroIsMax with
  | .error _ => false
  | .ok selected => admitsPowers config.txPower selected

/-- Whether the configured powers can be selected from the power table. -/
def grantsConfiguredPower (config : LLRPReaderConfig) (band : UHFBandCapabilities) : Bool :=
  match config.txPowerDbm, config.txPower with
  | some (.perAntenna levels), _ =>
    match (validIndices (powerIndices band) (parsePowerTable band)).argmax
      (powerAt (parsePowerTable band)) with
    | none => false
    | some maxPowerIdx =>
      grantsPowers config band
        (levels.mapValues fun dbm =>
          ((nearestIndex (powerIndices band) (parsePowerTable band) dbm).getD maxPowerIdx :
            ℤ)).entries false
  | some (.level _), _ => false
  | none, .perAntenna indexes => grantsPowers config band indexes.entries true
  | none, .index _ => false

/-- Whether a configuration passes the check against the capabilities. -/
def passesCapabilities (config : LLRPReaderConfig) (capabilities : Capabilities) : Bool :=
  match capabilities.maxNumberOfAntennaSupported, capabilities.uhfBand with
  | some maxAnt, .ok band =>
    (checkAntennas config maxAnt).isOk && grantsConfiguredPower config band &&
      match band.modeList with
      | .error _ => false
      | .ok modes =>
        match selectMode config modes with
        | .error _ => false
        | .ok mode =>
          (checkTari config mode).isOk && (selectDedupBackend config capabilities).isOk
  | _, _ => false

theorem admits_set {powers : Dict ℤ ℤ} {antenna value : ℤ}
    (hantenna : powers.contains antenna = true) (selected : List (ℤ × ℕ × ℚ)) :
    admitsPowers (.perAntenna (powers.set antenna value)) selected =
      admitsPowers (.perAntenna powers) selected := by
  have hcontains : ∀ other, (powers.set antenna value).contains other = powers.contains other := by
    intro other
    unfold Dict.contains at hantenna ⊢
    rw [Dict.get?_set]
    split
    · rename_i heq
      rw [heq, hantenna]
      rfl
    · rfl
  simp only [admitsPowers, hcontains]

theorem raises_assignPowers (selected : List (ℤ × ℕ × ℚ)) (needsUpdate : Bool)
    (client : Client) :
    (assignPowers selected needsUpdate).raises client =
      !admitsPowers client.settings.txPower selected := by
  induction selected generalizing needsUpdate client with
  | nil =>
    cases htxPower : client.settings.txPower <;> rfl
  | cons power selected ih =>
    obtain ⟨antenna, index, dbm⟩ := power
    unfold assignPowers
    rw [Program.raises_get_bind]
    cases htxPower : client.settings.txPower with
    | index index => rfl
    | perAntenna powers =>
      dsimp only
      cases hpower : powers.get? antenna with
      | none =>
        simp [admitsPowers, Dict.contains, hpower, Program.raises]
      | some current =>
        have hantenna : powers.contains antenna = true := by
          rw [Dict.contains, hpower]
          rfl
        have hrest : admitsPowers (.perAntenna powers) ((antenna, index, dbm) :: selected) =
            admitsPowers (.perAntenna powers) selected := by
          simp [admitsPowers, hantenna]
        rw [hrest]
        dsimp only
        by_cases hsame : current = index
        · rw [if_pos hsame, ih, htxPower]
        · let later := client.setConfig client.config
            { client.settings with txPower := .perAntenna (powers.set antenna index) }
          have hlater : later.settings.txPower = .perAntenna (powers.set antenna index) := by
            simp [later, Client.setConfig, Client.settings]
          rw [if_neg hsame]
          change Program.raises (assignPowers selected true) later = _
          rw [ih, hlater, admits_set hantenna]

/-- Outside INVENTORYING, selecting powers fails on what is not granted only. -/
theorem raises_setTxPower {client : Client} (hstate : client.state ≠ .inventorying)
    (txPower : List (ℤ × ℤ)) (zeroIsMax : Bool) :
    (setTxPower txPower zeroIsMax).raises client =
      match getTxPower client.txPowerIndices client.txPowerTable txPower zeroIsMax with
      | .error _ => true
      | .ok selected => !admitsPowers client.settings.txPower selected := by
  unfold setTxPower
  rw [Program.raises_get_bind, Program.raises_ofExcept_bind]
  cases getTxPower client.txPowerIndices client.txPowerTable txPower zeroIsMax with
  | error raised => rfl
  | ok selected =>
    dsimp only
    rw [← raises_assignPowers selected false client, Program.raises_bind, Program.raises]
    have hparsing := Parsing.assignPowers selected false client hstate
    rcases hrun : assignPowers selected false client with ⟨_ | needsUpdate, later⟩
    · rfl
    · rw [hrun] at hparsing
      obtain ⟨values, rfl⟩ := hparsing
      have hquiet : ¬ (needsUpdate &&
          decide ((client.parsed values).state = .inventorying)) = true := by
        simp [hstate]
      dsimp only
      rw [Program.raises_get_bind, if_neg hquiet]
      rfl

/-- Outside INVENTORYING, the configured powers fail on what is not granted
only. -/
theorem raises_setConfiguredPower {client : Client} (hstate : client.state ≠ .inventorying)
    {band : UHFBandCapabilities} (hindices : client.txPowerIndices = powerIndices band)
    (htable : client.txPowerTable = parsePowerTable band) :
    setConfiguredPower.raises client = !grantsConfiguredPower client.settings band := by
  have hgrants : ∀ (later : Client) txPower zeroIsMax, later.state ≠ .inventorying →
      later.txPowerIndices = client.txPowerIndices → later.txPowerTable = client.txPowerTable →
      later.settings.txPower = client.settings.txPower →
      (setTxPower txPower zeroIsMax).raises later =
        !grantsPowers client.settings band txPower zeroIsMax := by
    intro later txPower zeroIsMax hlater hsame htables hpower
    rw [raises_setTxPower hlater, hsame, htables, hindices, htable, hpower, grantsPowers]
    cases getTxPower (powerIndices band) (parsePowerTable band) txPower zeroIsMax <;> rfl
  unfold setConfiguredPower grantsConfiguredPower
  rw [Program.raises_get_bind]
  cases hdbm : client.settings.txPowerDbm with
  | none =>
    cases hpower : client.settings.txPower with
    | index index => rfl
    | perAntenna powers => exact hgrants client _ _ hstate rfl rfl rfl
  | some levels =>
    cases levels with
    | level dbm => rfl
    | perAntenna levels =>
      dsimp only
      unfold setTxPowerDbm
      rw [Program.raises_get_bind, hindices, htable]
      dsimp only
      cases (validIndices (powerIndices band) (parsePowerTable band)).argmax
        (powerAt (parsePowerTable band)) with
      | none => rfl
      | some maxPowerIdx =>
        dsimp only
        rw [Program.raises_modify_bind]
        exact hgrants _ _ _ hstate rfl rfl (by simp [Client.setConfig, Client.settings])

/-- Powers do not matter to the checks that follow them. -/
private theorem raises_after_power (client : Client) (values : Derived)
    (capabilities : Capabilities) (band : UHFBandCapabilities) :
    Program.raises (do
      let modes ← Program.ofExcept band.modeList
      .modify (·.withReaderMode none)
      let client ← Program.get
      let mode ← Program.ofExcept (selectMode client.settings modes)
      .modify (·.withReaderMode mode)
      Program.ofExcept (checkTari client.settings mode)
      let backend ← Program.ofExcept (selectDedupBackend client.settings capabilities)
      .modify (·.withDedupBackend backend) : ClientM Unit) (client.parsed values) =
      !match band.modeList with
      | .error _ => false
      | .ok modes =>
        match selectMode client.settings modes with
        | .error _ => false
        | .ok mode =>
          (checkTari client.settings mode).isOk &&
            (selectDedupBackend client.settings capabilities).isOk := by
  have hmode : ∀ modes,
      selectMode ((client.parsed values).withReaderMode none).settings modes =
        selectMode client.settings modes := by
    intro modes
    change selectMode (client.parsed values).settings modes = _
    rw [Client.settings_parsed]
    rfl
  have htari : ∀ mode, checkTari ((client.parsed values).withReaderMode none).settings mode =
      checkTari client.settings mode := by
    intro mode
    change checkTari (client.parsed values).settings mode = _
    rw [Client.settings_parsed]
    rfl
  have hbackend :
      selectDedupBackend ((client.parsed values).withReaderMode none).settings capabilities =
        selectDedupBackend client.settings capabilities := by
    change selectDedupBackend (client.parsed values).settings capabilities = _
    rw [Client.settings_parsed]
    rfl
  rw [Program.raises_ofExcept_bind]
  cases band.modeList with
  | error raised => rfl
  | ok modes =>
    dsimp only
    rw [Program.raises_modify_bind, Program.raises_get_bind, Program.raises_ofExcept_bind, hmode]
    cases selectMode client.settings modes with
    | error raised => rfl
    | ok mode =>
      dsimp only
      rw [Program.raises_modify_bind, Program.raises_ofExcept_bind, htari]
      cases checkTari client.settings mode with
      | error raised => rfl
      | ok _ =>
        dsimp only
        rw [Program.raises_ofExcept_bind, hbackend]
        cases selectDedupBackend client.settings capabilities <;> rfl

/-- Outside INVENTORYING, a configuration that passes is what parsing does not
raise on. -/
theorem raises_parseCapabilities {client : Client} (hstate : client.state ≠ .inventorying)
    (capabilities : Capabilities) :
    (parseCapabilities capabilities).raises client =
      !passesCapabilities client.settings capabilities := by
  unfold parseCapabilities passesCapabilities key
  rw [Program.raises_ofExcept_bind]
  cases capabilities.maxNumberOfAntennaSupported with
  | none => rfl
  | some maxAnt =>
    have hsettings : (client.withMaxAnt maxAnt).settings = client.settings := rfl
    dsimp only
    rw [Program.raises_modify_bind, Program.raises_get_bind, Program.raises_ofExcept_bind,
      hsettings]
    cases hcheck : checkAntennas client.settings maxAnt with
    | error raised =>
      cases capabilities.uhfBand with
      | error raised => rfl
      | ok band =>
        dsimp only
        rw [hcheck]
        rfl
    | ok _ =>
      dsimp only
      rw [Program.raises_ofExcept_bind]
      cases capabilities.uhfBand with
      | error raised => rfl
      | ok band =>
        let ready := (client.withMaxAnt maxAnt).withPowerTable band
        have hready : ready.state ≠ .inventorying := hstate
        have hpower : setConfiguredPower.raises ready =
            !grantsConfiguredPower client.settings band :=
          raises_setConfiguredPower hready rfl rfl
        have hparsing := Parsing.setConfiguredPower ready hready
        dsimp only
        rw [Program.raises_modify_bind, Program.raises_bind, hcheck]
        unfold Program.raises at hpower
        rcases hrun : setConfiguredPower ready with ⟨_ | _, later⟩
        · rw [hrun] at hpower
          have hrefused : grantsConfiguredPower client.settings band = false := by
            simpa using hpower.symm
          rw [hrefused]
          rfl
        · rw [hrun] at hpower hparsing
          have hgranted : grantsConfiguredPower client.settings band = true := by
            simpa using hpower.symm
          obtain ⟨values, rfl⟩ := hparsing
          rw [hgranted]
          exact raises_after_power ready values capabilities band

/-! ## The settled powers -/

/-- A power setting after the selected powers were put into it, up to the first
antenna it does not have. -/
def assignedPowers : TxPower → List (ℤ × ℕ × ℚ) → TxPower
  | setting, [] => setting
  | .index index, _ :: _ => .index index
  | .perAntenna powers, (antenna, index, _) :: selected =>
    match powers.get? antenna with
    | none => .perAntenna powers
    | some current =>
      if current = index then assignedPowers (.perAntenna powers) selected
      else assignedPowers (.perAntenna (powers.set antenna index)) selected

/-- The power setting after selecting powers from the table of a band. -/
def selectedPowers (setting : TxPower) (band : UHFBandCapabilities) (txPower : List (ℤ × ℤ))
    (zeroIsMax : Bool) : TxPower :=
  match getTxPower (powerIndices band) (parsePowerTable band) txPower zeroIsMax with
  | .error _ => setting
  | .ok selected => assignedPowers setting selected

/-- The power setting after selecting the configured powers. -/
def configuredPowers (config : LLRPReaderConfig) (band : UHFBandCapabilities) : TxPower :=
  match config.txPowerDbm, config.txPower with
  | some (.perAntenna levels), setting =>
    match (validIndices (powerIndices band) (parsePowerTable band)).argmax
      (powerAt (parsePowerTable band)) with
    | none => setting
    | some maxPowerIdx =>
      selectedPowers setting band
        (levels.mapValues fun dbm =>
          ((nearestIndex (powerIndices band) (parsePowerTable band) dbm).getD maxPowerIdx :
            ℤ)).entries false
  | some (.level _), setting => setting
  | none, .perAntenna indexes => selectedPowers (.perAntenna indexes) band indexes.entries true
  | none, .index index => .index index

/-- The power setting of a configuration after it was checked against the
capabilities, whether it passed or not. -/
def settledPowers (config : LLRPReaderConfig) (capabilities : Capabilities) : TxPower :=
  match capabilities.maxNumberOfAntennaSupported, capabilities.uhfBand with
  | some maxAnt, .ok band =>
    if (checkAntennas config maxAnt).isOk then configuredPowers config band else config.txPower
  | _, _ => config.txPower

@[simp]
theorem settings_setConfig (client : Client) (content : LLRPReaderConfig) :
    (client.setConfig client.config content).settings = content := if_pos rfl

theorem setConfig_settings (client : Client) :
    client.setConfig client.config client.settings = client := by
  have hconfigs : (fun other => if other = client.config then client.configs client.config
      else client.configs other) = client.configs := by
    funext other
    split
    · rename_i heq
      rw [heq]
    · rfl
  unfold Client.setConfig Client.settings
  rw [hconfigs]

theorem setConfig_setConfig (client : Client) (ref : ConfigRef)
    (first second : LLRPReaderConfig) :
    (client.setConfig ref first).setConfig ref second = client.setConfig ref second := by
  have hconfigs : (fun other => if other = ref then second
      else if other = ref then first else client.configs other) =
      fun other => if other = ref then second else client.configs other := by
    funext other
    split <;> rfl
  unfold Client.setConfig
  dsimp only
  rw [hconfigs]

namespace Client

/-- The client with another power setting in its configuration. -/
def withTxPower (client : Client) (txPower : TxPower) : Client :=
  client.setConfig client.config { client.settings with txPower }

@[simp]
theorem settings_withTxPower (client : Client) (txPower : TxPower) :
    (client.withTxPower txPower).settings = { client.settings with txPower } := if_pos rfl

theorem withTxPower_self {client : Client} {txPower : TxPower}
    (hpower : client.settings.txPower = txPower) : client.withTxPower txPower = client := by
  have hcontent : { client.settings with txPower } = client.settings := by rw [← hpower]
  rw [withTxPower, hcontent, setConfig_settings]

theorem withTxPower_withTxPower (client : Client) (first second : TxPower) :
    (client.withTxPower first).withTxPower second = client.withTxPower second := by
  rw [withTxPower, settings_withTxPower]
  exact setConfig_setConfig client client.config _ _

end Client

theorem final_assignPowers (selected : List (ℤ × ℕ × ℚ)) (needsUpdate : Bool) (client : Client) :
    (assignPowers selected needsUpdate).final client =
      client.withTxPower (assignedPowers client.settings.txPower selected) := by
  induction selected generalizing needsUpdate client with
  | nil => cases hpower : client.settings.txPower <;> exact (client.withTxPower_self hpower).symm
  | cons power selected ih =>
    obtain ⟨antenna, index, dbm⟩ := power
    unfold assignPowers
    rw [Program.final, Program.run_get_bind]
    cases htxPower : client.settings.txPower with
    | index index => exact (client.withTxPower_self htxPower).symm
    | perAntenna powers =>
      unfold assignedPowers
      dsimp only
      cases hpower : powers.get? antenna with
      | none => exact (client.withTxPower_self htxPower).symm
      | some current =>
        dsimp only
        by_cases hsame : current = index
        · rw [if_pos hsame, if_pos hsame, ← htxPower]
          exact ih needsUpdate client
        · have hih := ih true (client.withTxPower (.perAntenna (powers.set antenna index)))
          rw [Client.settings_withTxPower, Client.withTxPower_withTxPower] at hih
          rw [if_neg hsame, if_neg hsame, Program.run_modify_bind]
          exact hih

/-- Outside INVENTORYING, selecting powers changes the powers only. -/
theorem final_setTxPower {client : Client} (hstate : client.state ≠ .inventorying)
    {band : UHFBandCapabilities} (hindices : client.txPowerIndices = powerIndices band)
    (htable : client.txPowerTable = parsePowerTable band) (txPower : List (ℤ × ℤ))
    (zeroIsMax : Bool) :
    (setTxPower txPower zeroIsMax).final client =
      client.withTxPower (selectedPowers client.settings.txPower band txPower zeroIsMax) := by
  unfold setTxPower selectedPowers
  rw [Program.final, Program.run_get_bind, hindices, htable, Program.run_bind,
    Program.run_ofExcept]
  cases getTxPower (powerIndices band) (parsePowerTable band) txPower zeroIsMax with
  | error raised => exact (client.withTxPower_self rfl).symm
  | ok selected =>
    dsimp only
    rw [← final_assignPowers selected false client, Program.run_bind, Program.final]
    have hparsing := Parsing.assignPowers selected false client hstate
    rcases hrun : assignPowers selected false client with ⟨_ | needsUpdate, later⟩
    · rfl
    · rw [hrun] at hparsing
      obtain ⟨values, rfl⟩ := hparsing
      have hquiet : ¬ (needsUpdate &&
          decide ((client.parsed values).state = .inventorying)) = true := by
        simp [hstate]
      dsimp only
      rw [Program.run_get_bind, if_neg hquiet]
      rfl

/-- Outside INVENTORYING, selecting the configured powers changes the powers
only. -/
theorem final_setConfiguredPower {client : Client} (hstate : client.state ≠ .inventorying)
    {band : UHFBandCapabilities} (hindices : client.txPowerIndices = powerIndices band)
    (htable : client.txPowerTable = parsePowerTable band) :
    setConfiguredPower.final client =
      client.withTxPower (configuredPowers client.settings band) := by
  unfold setConfiguredPower configuredPowers
  rw [Program.final, Program.run_get_bind]
  cases hdbm : client.settings.txPowerDbm with
  | none =>
    cases hpower : client.settings.txPower with
    | index index => exact (client.withTxPower_self hpower).symm
    | perAntenna powers =>
      have hset := final_setTxPower hstate hindices htable powers.entries true
      rw [hpower] at hset
      exact hset
  | some levels =>
    cases levels with
    | level dbm => exact (client.withTxPower_self rfl).symm
    | perAntenna levels =>
      dsimp only
      unfold setTxPowerDbm
      rw [Program.run_get_bind, hindices, htable]
      dsimp only
      cases (validIndices (powerIndices band) (parsePowerTable band)).argmax
        (powerAt (parsePowerTable band)) with
      | none => exact (client.withTxPower_self rfl).symm
      | some maxPowerIdx =>
        dsimp only
        have hsame : client.setConfig client.config
            { client.settings with txPowerDbm := some (.perAntenna levels) } = client := by
          have hcontent : { client.settings with txPowerDbm := some (.perAntenna levels) } =
              client.settings := by rw [← hdbm]
          rw [hcontent, setConfig_settings]
        rw [Program.run_modify_bind, hsame]
        exact final_setTxPower hstate hindices htable _ false

/-- What is left of a configuration after the check against the capabilities. -/
theorem settings_parseCapabilities {client : Client} (hstate : client.state ≠ .inventorying)
    (capabilities : Capabilities) :
    ((parseCapabilities capabilities).final client).settings =
      { client.settings with txPower := settledPowers client.settings capabilities } := by
  have hunsettled : settledPowers client.settings capabilities = client.settings.txPower →
      client.settings =
        { client.settings with txPower := settledPowers client.settings capabilities } :=
    fun hsame => by rw [hsame]
  unfold parseCapabilities key
  rw [Program.final, Program.run_bind, Program.run_ofExcept]
  cases hantennas : capabilities.maxNumberOfAntennaSupported with
  | none => exact hunsettled (by rw [settledPowers, hantennas])
  | some maxAnt =>
    have hsettings : (client.withMaxAnt maxAnt).settings = client.settings := rfl
    dsimp only
    rw [Program.run_modify_bind, Program.run_get_bind, Program.run_bind, Program.run_ofExcept,
      hsettings]
    cases hcheck : checkAntennas client.settings maxAnt with
    | error raised =>
      refine hunsettled ?_
      rw [settledPowers, hantennas]
      cases capabilities.uhfBand with
      | error raised => rfl
      | ok band =>
        dsimp only
        rw [hcheck]
        rfl
    | ok _ =>
      dsimp only
      rw [Program.run_bind, Program.run_ofExcept]
      cases hband : capabilities.uhfBand with
      | error raised => exact hunsettled (by rw [settledPowers, hantennas, hband])
      | ok band =>
        have hsettled : settledPowers client.settings capabilities =
            configuredPowers client.settings band := by
          rw [settledPowers, hantennas, hband]
          dsimp only
          rw [hcheck]
          rfl
        let ready := (client.withMaxAnt maxAnt).withPowerTable band
        have hready : ready.state ≠ .inventorying := hstate
        have hpower : (setConfiguredPower.final ready).settings =
            { client.settings with txPower := configuredPowers client.settings band } := by
          rw [final_setConfiguredPower hready rfl rfl, Client.settings_withTxPower]
          rfl
        have hrest : Within (Frame.fixing Client.settings) (do
            let modes ← Program.ofExcept band.modeList
            .modify (·.withReaderMode none)
            let client ← Program.get
            let mode ← Program.ofExcept (selectMode client.settings modes)
            .modify (·.withReaderMode mode)
            Program.ofExcept (checkTari client.settings mode)
            let backend ← Program.ofExcept (selectDedupBackend client.settings capabilities)
            .modify (·.withDedupBackend backend) : ClientM Unit) :=
          .bind (.ofExcept _) fun modes => .bind (.modify fun _ => rfl) fun _ =>
            .bind .get fun client => .bind (.ofExcept _) fun mode =>
              .bind (.modify fun _ => rfl) fun _ => .bind (.ofExcept _) fun _ =>
                .bind (.ofExcept _) fun backend => .modify fun _ => rfl
        dsimp only
        rw [hsettled, Program.run_modify_bind, ← hpower, Program.run_bind, Program.final]
        rcases hrun : setConfiguredPower ready with ⟨_ | _, later⟩
        · rfl
        · exact hrest later

end Sllurp.Session
