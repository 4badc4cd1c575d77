/-
# Plans and generated messages

The plan of a configuration change says which messages the change needs. The
fields that go into the ROSpec, directly or through the check against the
capabilities, are all filed under one action, and the fields of
SET_READER_CONFIG under another. Configurations whose plan lacks the action
generate the same message: the same mapping for the ROSpec, and for
SET_READER_CONFIG the same settings with the ports in some order.
-/

import Sllurp.Session.Settled
import Sllurp.Session.Run

namespace Sllurp.Session

open Sllurp.Foundations Sllurp.Protocol Sllurp.Config Sllurp.Runtime
open Sllurp.Foundations.Program

/-! ## Equal messages -/

/-- Report specifications are equal as the mappings they are. -/
instance instPyEqROReportSpec : PyEq ROReportSpec where
  same first second :=
    PyEq.same first.tagReportContentSelector second.tagReportContentSelector &&
      PyEq.same first.motoTagReportContentSelector second.motoTagReportContentSelector &&
      decide ({ first with
        tagReportContentSelector := second.tagReportContentSelector
        motoTagReportContentSelector := second.motoTagReportContentSelector } = second)
  same_self value := by simp [PyEq.same_self]

/-- ROSpecs are equal as the mappings they are. -/
instance instPyEqLLRPROSpec : PyEq LLRPROSpec where
  same first second :=
    PyEq.same first.roReportSpec second.roReportSpec &&
      decide ({ first with roReportSpec := second.roReportSpec } = second)
  same_self value := by simp [PyEq.same_self]

/-- Both computations raise the same exception, or return equal values. -/
def SameResult {α : Type} [PyEq α] : Except Exn α → Except Exn α → Prop
  | .ok first, .ok second => PyEq.same first second = true
  | .error first, .error second => first = second
  | _, _ => False

/-- Settings of the reader that differ in the order of the ports at most. -/
structure SameSettings (first second : ReaderSettings) : Prop where
  keepalive : first.keepalive = second.keepalive
  eventNotificationState :
    PyEq.same first.eventNotificationState second.eventNotificationState = true
  impinjAntennaEvent : first.impinjAntennaEvent = second.impinjAntennaEvent
  gpiPorts : first.gpiPorts.Perm second.gpiPorts

/-! ## The fields of an inventory -/

/-- The configurations agree on whatever a ROSpec is made from. -/
structure SameInventory (first second : LLRPReaderConfig) : Prop where
  duration : first.duration = second.duration
  tari : first.tari = second.tari
  session : first.session = second.session
  modeIdentifier : first.modeIdentifier = second.modeIdentifier
  tagPopulation : first.tagPopulation = second.tagPopulation
  roReportEveryNTags : first.roReportEveryNTags = second.roReportEveryNTags
  reportEveryNTags : first.reportEveryNTags = second.reportEveryNTags
  reportTimeoutMs : first.reportTimeoutMs = second.reportTimeoutMs
  dedupSeconds : first.dedupSeconds = second.dedupSeconds
  dedupBackend : first.dedupBackend = second.dedupBackend
  rfTelemetryMode : first.rfTelemetryMode = second.rfTelemetryMode
  antennas : first.antennas = second.antennas
  tagFilterMask : first.tagFilterMask = second.tagFilterMask
  frequencies : first.frequencies = second.frequencies
  impinjFixedFrequency : first.impinjFixedFrequency = second.impinjFixedFrequency
  impinjSearchMode : first.impinjSearchMode = second.impinjSearchMode
  txPower : PyEq.same first.txPower second.txPower = true
  txPowerDbm : PyEq.same first.txPowerDbm second.txPowerDbm = true
  tagContentSelector : PyEq.same first.tagContentSelector second.tagContentSelector = true
  impinjTagContentSelector :
    PyEq.same first.impinjTagContentSelector second.impinjTagContentSelector = true
  zebraTagContentSelector :
    PyEq.same first.zebraTagContentSelector second.zebraTagContentSelector = true

/-- A plan without a ROSpec change leaves every field of the inventory alone. -/
theorem sameInventory_of_plan {first second : LLRPReaderConfig}
    (hplan : .rospec ∉ (buildConfigTransitionPlan first second).actions) :
    SameInventory first second := by
  have hagree : ∀ field : ConfigField, configFieldPolicy field = .rospec →
      agreeOn first second field = true :=
    fun field hpolicy => agreeOn_of_not_mem_actions (by rw [hpolicy]; exact hplan)
  exact {
    duration := same_option_iff.mp (hagree .duration rfl)
    tari := same_option_iff.mp (hagree .tari rfl)
    session := of_decide_eq_true (hagree .session rfl)
    modeIdentifier := same_option_iff.mp (hagree .modeIdentifier rfl)
    tagPopulation := of_decide_eq_true (hagree .tagPopulation rfl)
    roReportEveryNTags := same_option_iff.mp (hagree .roReportEveryNTags rfl)
    reportEveryNTags := same_option_iff.mp (hagree .reportEveryNTags rfl)
    reportTimeoutMs := of_decide_eq_true (hagree .reportTimeoutMs rfl)
    dedupSeconds := same_option_iff.mp (hagree .dedupSeconds rfl)
    dedupBackend := of_decide_eq_true (hagree .dedupBackend rfl)
    rfTelemetryMode := of_decide_eq_true (hagree .rfTelemetryMode rfl)
    antennas := of_decide_eq_true (hagree .antennas rfl)
    tagFilterMask := same_option_iff.mp (hagree .tagFilterMask rfl)
    frequencies := of_decide_eq_true (hagree .frequencies rfl)
    impinjFixedFrequency := of_decide_eq_true (hagree .impinjFixedFrequency rfl)
    impinjSearchMode := same_option_iff.mp (hagree .impinjSearchMode rfl)
    txPower := hagree .txPower rfl
    txPowerDbm := hagree .txPowerDbm rfl
    tagContentSelector := hagree .tagContentSelector rfl
    impinjTagContentSelector := hagree .impinjTagContentSelector rfl
    zebraTagContentSelector := hagree .zebraTagContentSelector rfl }

/-! ## Powers -/

theorem get?_resolvedPowers_congr {band : UHFBandCapabilities} {first second : Dict ℤ ℤ}
    (hget : ∀ antenna, first.get? antenna = second.get? antenna) (zeroIsMax : Bool)
    (antenna : ℤ) :
    (resolvedPowers band first zeroIsMax).get? antenna =
      (resolvedPowers band second zeroIsMax).get? antenna := by
  unfold resolvedPowers
  cases maxPowerIndex band with
  | none => rfl
  | some maxPowerIdx => rw [Dict.get?_mapValues, Dict.get?_mapValues, hget]

/-- Equal requests select equal indexes. -/
theorem get?_requestedPowers_congr {first second : LLRPReaderConfig}
    {firstIndexes secondIndexes : Dict ℤ ℤ}
    (hget : ∀ antenna, firstIndexes.get? antenna = secondIndexes.get? antenna)
    (hdbm : PyEq.same first.txPowerDbm second.txPowerDbm = true) (band : UHFBandCapabilities)
    (antenna : ℤ) :
    (requestedPowers first band firstIndexes).get? antenna =
      (requestedPowers second band secondIndexes).get? antenna := by
  unfold requestedPowers
  cases hfirst : first.txPowerDbm with
  | none =>
    cases hsecond : second.txPowerDbm with
    | none => exact get?_resolvedPowers_congr hget true antenna
    | some request => simp [hfirst, hsecond, PyEq.same] at hdbm
  | some request =>
    cases hsecond : second.txPowerDbm with
    | none => simp [hfirst, hsecond, PyEq.same] at hdbm
    | some other =>
      rw [hfirst, hsecond] at hdbm
      cases request with
      | level dbm =>
        cases other with
        | level _ => exact get?_resolvedPowers_congr hget true antenna
        | perAntenna _ => cases hdbm
      | perAntenna levels =>
        cases other with
        | level _ => cases hdbm
        | perAntenna others =>
          refine get?_resolvedPowers_congr (fun antenna => ?_) false antenna
          have hlevels : PyEq.same levels others = true := hdbm
          rw [requestedIndices, requestedIndices, Dict.get?_mapValues, Dict.get?_mapValues,
            get?_of_same hlevels]

/-- Equal power requests settle to equal powers. -/
theorem settledPowers_same {first second : LLRPReaderConfig} (hsame : SameInventory first second)
    (hfirst : Validated first) (hsecond : Validated second) {capabilities : Capabilities}
    (hpassesFirst : passesCapabilities first capabilities = true)
    (hpassesSecond : passesCapabilities second capabilities = true) :
    PyEq.same (settledPowers first capabilities) (settledPowers second capabilities) = true := by
  obtain ⟨firstIndexes, hfirstPower, _⟩ := hfirst.powered.txPower
  obtain ⟨secondIndexes, hsecondPower, _⟩ := hsecond.powered.txPower
  have hindexes : PyEq.same firstIndexes secondIndexes = true := by
    have htxPower := hsame.txPower
    rw [hfirstPower, hsecondPower] at htxPower
    exact htxPower
  unfold passesCapabilities at hpassesFirst hpassesSecond
  unfold settledPowers
  cases hantennas : capabilities.maxNumberOfAntennaSupported with
  | none =>
    rw [hantennas] at hpassesFirst
    cases hpassesFirst
  | some maxAnt =>
    cases hband : capabilities.uhfBand with
    | error raised =>
      rw [hantennas, hband] at hpassesFirst
      cases hpassesFirst
    | ok band =>
      simp only [hantennas, hband, Bool.and_eq_true] at hpassesFirst hpassesSecond
      dsimp only
      rw [if_pos hpassesFirst.1.1, if_pos hpassesSecond.1.1,
        configuredPowers_of_grants hfirstPower hpassesFirst.1.2,
        configuredPowers_of_grants hsecondPower hpassesSecond.1.2]
      refine same_dict_iff.mpr fun antenna => same_option_iff.mpr ?_
      rw [Dict.get?_update_entries, Dict.get?_update_entries, get?_of_same hindexes,
        get?_requestedPowers_congr (get?_of_same hindexes) hsame.txPowerDbm band antenna]

/-! ## The ROSpec -/

theorem antennaPowers_same {settings : ROSpecSettings} {txPower : TxPower}
    (hsame : PyEq.same settings.txPower txPower = true) :
    SameResult (antennaPowers settings) (antennaPowers { settings with txPower }) := by
  unfold antennaPowers
  dsimp only
  cases hsettings : settings.txPower with
  | index power =>
    cases txPower with
    | index other =>
      rw [hsettings] at hsame
      cases of_decide_eq_true hsame
      exact PyEq.same_self _
    | perAntenna others =>
      rw [hsettings] at hsame
      cases hsame
  | perAntenna powers =>
    cases txPower with
    | index other =>
      rw [hsettings] at hsame
      cases hsame
    | perAntenna others =>
      have hpowers : PyEq.same powers others = true := by rw [hsettings] at hsame; exact hsame
      dsimp only
      rw [Dict.hasKeys_congr (get?_of_same hpowers)]
      split
      · exact hpowers
      · rfl

theorem impinjReportSelector_same {first second : Option (Dict String Bool)}
    (hsame : PyEq.same first second = true) :
    impinjReportSelector first = impinjReportSelector second := by
  cases first with
  | none =>
    cases second with
    | none => rfl
    | some flags => cases hsame
  | some flags =>
    cases second with
    | none => cases hsame
    | some others =>
      have hflags : PyEq.same flags others = true := hsame
      unfold impinjReportSelector
      dsimp only
      rw [Dict.isEmpty_congr (get?_of_same hflags), get?_of_same hflags, get?_of_same hflags,
        get?_of_same hflags]

/-- Updating by equal selectors gives equal selectors. -/
theorem update_same (base : Dict String SelectorValue)
    {first second : Option (Dict String SelectorValue)} (hsame : PyEq.same first second = true) :
    PyEq.same (base.update ((first.map Dict.entries).getD []))
      (base.update ((second.map Dict.entries).getD [])) = true := by
  cases first with
  | none =>
    cases second with
    | none => exact PyEq.same_self _
    | some selector => cases hsame
  | some selector =>
    cases second with
    | none => cases hsame
    | some other =>
      have hselector : PyEq.same selector other = true := hsame
      refine same_dict_iff.mpr fun field => ?_
      have hfield := same_dict_iff.mp hselector field
      dsimp only [Option.map, Option.getD]
      rw [Dict.get?_update_entries, Dict.get?_update_entries]
      cases hleft : selector.get? field with
      | none =>
        cases hright : other.get? field with
        | none => exact PyEq.same_self _
        | some value => rw [hleft, hright] at hfield; cases hfield
      | some value =>
        cases hright : other.get? field with
        | none => rw [hleft, hright] at hfield; cases hfield
        | some value => rw [hleft, hright] at hfield; exact hfield

theorem filter_nonempty_same {first second : Option (Dict String Bool)}
    (hsame : PyEq.same first second = true) :
    PyEq.same (first.filter fun selector => !selector.isEmpty)
      (second.filter fun selector => !selector.isEmpty) = true := by
  cases first with
  | none =>
    cases second with
    | none => rfl
    | some selector => cases hsame
  | some selector =>
    cases second with
    | none => cases hsame
    | some other =>
      have hselector : PyEq.same selector other = true := hsame
      rw [Option.filter, Option.filter, Dict.isEmpty_congr (get?_of_same hselector)]
      split
      · exact hselector
      · rfl

/-- Equal settings make equal ROSpecs. -/
theorem makeROSpec_same (readerMode : Option ReaderMode) (roSpecId : ℕ)
    {settings : ROSpecSettings} {txPower : TxPower}
    {tagContentSelector : Option (Dict String SelectorValue)}
    {zebraTagContentSelector impinjTagContentSelector : Option (Dict String Bool)}
    (htxPower : PyEq.same settings.txPower txPower = true)
    (htagContent : PyEq.same settings.tagContentSelector tagContentSelector = true)
    (hzebra : PyEq.same settings.zebraTagContentSelector zebraTagContentSelector = true)
    (himpinj : PyEq.same settings.impinjTagContentSelector impinjTagContentSelector = true) :
    SameResult (makeROSpec readerMode roSpecId settings)
      (makeROSpec readerMode roSpecId
        { settings with
          txPower, tagContentSelector, zebraTagContentSelector, impinjTagContentSelector }) := by
  have hpowers := antennaPowers_same htxPower
  have hpowersOther : antennaPowers { settings with
      txPower, tagContentSelector, zebraTagContentSelector, impinjTagContentSelector } =
      antennaPowers { settings with txPower } := rfl
  unfold makeROSpec
  rw [hpowersOther, ← impinjReportSelector_same himpinj]
  dsimp only
  by_cases hid : roSpecId = 0
  · simp only [if_pos hid]
    rfl
  by_cases hcount : (settings.roReportEveryNTags.any fun count =>
      decide (count < 1) || decide (65535 < count)) = true
  · simp only [if_neg hid, if_pos hcount]
    rfl
  simp only [if_neg hid, if_neg hcount]
  cases hfirst : antennaPowers settings with
  | error raised =>
    cases hsecond : antennaPowers { settings with txPower } with
    | error other =>
      rw [hfirst, hsecond] at hpowers
      exact hpowers
    | ok powers =>
      rw [hfirst, hsecond] at hpowers
      exact hpowers.elim
  | ok powers =>
    cases hsecond : antennaPowers { settings with txPower } with
    | error other =>
      rw [hfirst, hsecond] at hpowers
      exact hpowers.elim
    | ok others =>
      rw [hfirst, hsecond] at hpowers
      have hget := get?_of_same hpowers
      cases impinjReportSelector settings.impinjTagContentSelector with
      | error raised => rfl
      | ok impinj =>
        cases settings.frequencies.channelList.getD [defaultChannelIndex] with
        | nil => rfl
        | cons channel channels =>
          let select (powers : Dict ℤ ℤ) (antenna : ℤ) : Except Exn AntennaConfiguration := do
            let power ← (powers.get? antenna).elim (.error (.keyError s!"{antenna}")) .ok
            .ok (antennaConfiguration readerMode settings channel (channel :: channels) antenna
              power)
          have hselect : select others = select powers := by
            funext antenna
            simp only [select, hget]
          change SameResult (settings.antennas.mapM (select powers) >>= _)
            (settings.antennas.mapM (select others) >>= _)
          rw [hselect]
          cases settings.antennas.mapM (select powers) with
          | error raised => rfl
          | ok antennas =>
            refine (Bool.and_eq_true _ _).mpr ⟨?_, decide_eq_true rfl⟩
            refine (Bool.and_eq_true _ _).mpr ⟨(Bool.and_eq_true _ _).mpr ⟨?_, ?_⟩,
              decide_eq_true rfl⟩
            · exact update_same _ htagContent
            · exact filter_nonempty_same hzebra

/-- The settings of configurations that agree are those of one with the mappings
of the other. -/
theorem rospecSettings_of_sameInventory {first second : LLRPReaderConfig}
    (hsame : SameInventory first second) :
    rospecSettings second = { rospecSettings first with
      txPower := second.txPower
      tagContentSelector := second.tagContentSelector
      zebraTagContentSelector := second.zebraTagContentSelector
      impinjTagContentSelector := second.impinjTagContentSelector } := by
  unfold rospecSettings
  dsimp only
  rw [hsame.duration, hsame.reportEveryNTags, hsame.reportTimeoutMs, hsame.roReportEveryNTags,
    hsame.antennas, hsame.session, hsame.tari, hsame.tagPopulation, hsame.frequencies,
    hsame.impinjFixedFrequency, hsame.tagFilterMask, hsame.impinjSearchMode]

/-! ## The messages -/

/-- Check the configuration against the capabilities and build its ROSpec. -/
def rospecFor (capabilities : Capabilities) : ClientM LLRPROSpec := do
  parseCapabilities capabilities
  let generated ← getROSpec true
  pure generated.rospec

/-- The ROSpec that is built from a configuration under the selected mode and
deduplication backend. -/
def builtROSpec (readerMode : Option ReaderMode) (backend : DedupBackend)
    (config : LLRPReaderConfig) : Except Exn LLRPROSpec :=
  match makeROSpec readerMode 1 (rospecSettings config) with
  | .error raised => .error raised
  | .ok built =>
    if backend = .hardware then
      match config.dedupSeconds with
      | none =>
        .error (.typeError
          ("int() argument must be a string, a bytes-like object or a real number, " ++
            "not 'NoneType'"))
      | some seconds => .ok (built.withHardwareDedup seconds)
    else .ok built

theorem map_getROSpec (client : Client) :
    (getROSpec true client).1.map GeneratedROSpec.rospec =
      builtROSpec client.readerMode client.dedupBackendActive client.settings := by
  have hcached : (client.rospec.filter fun _ => !true) = none := by cases client.rospec <;> rfl
  rw [run_getROSpec, hcached]
  unfold builtROSpec
  cases makeROSpec client.readerMode 1 (rospecSettings client.settings) with
  | error raised => rfl
  | ok built =>
    dsimp only
    unfold Client.lacksDedupWindow Client.generateROSpec
    by_cases hhardware : client.dedupBackendActive = .hardware
    · rw [if_pos hhardware, if_pos hhardware, hhardware]
      cases client.settings.dedupSeconds <;> rfl
    · rw [if_neg hhardware, if_neg hhardware, decide_eq_false hhardware]
      rfl

/-- The ROSpec of a configuration that passes depends on it and the capabilities
alone. -/
theorem result_rospecFor {client : Client} (hstate : client.state ≠ .inventorying)
    {capabilities : Capabilities}
    (hpasses : passesCapabilities client.settings capabilities = true) :
    (rospecFor capabilities client).1 =
      builtROSpec (settledValues client.settings capabilities).readerMode
        (settledValues client.settings capabilities).dedupBackendActive
        (settledConfig client.settings capabilities) := by
  have hrun := run_parseCapabilities_of_passes hstate hpasses
  have hbuilt := map_getROSpec (client.parsed (settledValues client.settings capabilities))
  rw [Client.settings_parsed] at hbuilt
  refine Eq.trans ?_ hbuilt
  unfold rospecFor
  rw [Program.run_bind, hrun]
  dsimp only
  rw [Program.run_bind]
  rcases getROSpec true (client.parsed (settledValues client.settings capabilities)) with
    ⟨_ | generated, later⟩ <;> rfl

/-- Configurations that agree select the same mode and backend. -/
theorem settledValues_same {first second : LLRPReaderConfig} (hsame : SameInventory first second)
    (capabilities : Capabilities) :
    (settledValues second capabilities).readerMode =
        (settledValues first capabilities).readerMode ∧
      (settledValues second capabilities).dedupBackendActive =
        (settledValues first capabilities).dedupBackendActive := by
  have hmode : ∀ modes, selectMode second modes = selectMode first modes := by
    intro modes
    unfold selectMode
    rw [hsame.modeIdentifier]
  have hbackend : selectDedupBackend second capabilities =
      selectDedupBackend first capabilities := by
    unfold selectDedupBackend
    rw [hsame.dedupSeconds, hsame.rfTelemetryMode, hsame.dedupBackend, hsame.reportEveryNTags,
      hsame.roReportEveryNTags]
  unfold settledValues
  dsimp only
  rw [hmode, hbackend]
  exact ⟨rfl, rfl⟩

theorem withHardwareDedup_same {first second : LLRPROSpec}
    (hsame : PyEq.same first second = true) (seconds : ℤ) :
    PyEq.same (first.withHardwareDedup seconds) (second.withHardwareDedup seconds) = true := by
  obtain ⟨hreport, hrest⟩ := (Bool.and_eq_true _ _).mp hsame
  obtain ⟨hselectors, hplain⟩ := (Bool.and_eq_true _ _).mp hreport
  have hplain := of_decide_eq_true hplain
  have himpinj : first.roReportSpec.impinjTagReportContentSelector =
      second.roReportSpec.impinjTagReportContentSelector := by
    rw [← hplain]
  have hcustom : first.roReportSpec.customParameter = second.roReportSpec.customParameter := by
    rw [← hplain]
  refine (Bool.and_eq_true _ _).mpr ⟨(Bool.and_eq_true _ _).mpr ⟨hselectors, ?_⟩, ?_⟩
  · simp only [LLRPROSpec.withHardwareDedup, himpinj, hcustom, decide_true]
  · exact decide_eq_true (congrArg (fun rospec : LLRPROSpec =>
      { rospec with roReportSpec := (second.withHardwareDedup seconds).roReportSpec })
      (of_decide_eq_true hrest))

/-- Configurations that agree build equal ROSpecs. -/
theorem builtROSpec_same {first second : LLRPReaderConfig} (hsame : SameInventory first second)
    (readerMode : Option ReaderMode) (backend : DedupBackend) :
    SameResult (builtROSpec readerMode backend first) (builtROSpec readerMode backend second) := by
  have htxPower : PyEq.same (rospecSettings first).txPower second.txPower = true := hsame.txPower
  have hmake := makeROSpec_same readerMode 1 htxPower hsame.tagContentSelector
    hsame.zebraTagContentSelector hsame.impinjTagContentSelector
  unfold builtROSpec
  rw [rospecSettings_of_sameInventory hsame, ← hsame.dedupSeconds]
  revert hmake
  generalize makeROSpec readerMode 1 (rospecSettings first) = built
  generalize makeROSpec readerMode 1 { rospecSettings first with
    txPower := second.txPower
    tagContentSelector := second.tagContentSelector
    zebraTagContentSelector := second.zebraTagContentSelector
    impinjTagContentSelector := second.impinjTagContentSelector } = other
  intro hmake
  cases built with
  | error raised =>
    cases other with
    | error _ => exact hmake
    | ok _ => exact hmake.elim
  | ok built =>
    cases other with
    | error _ => exact hmake.elim
    | ok other =>
      dsimp only
      split
      · cases first.dedupSeconds with
        | none => rfl
        | some seconds => exact withHardwareDedup_same hmake seconds
      · exact hmake

/-- Configurations that agree generate equal ROSpecs. -/
theorem rospecFor_same {client : Client} (hstate : client.state ≠ .inventorying)
    {capabilities : Capabilities} {first second : LLRPReaderConfig} (hfirst : Validated first)
    (hsecond : Validated second) (hsame : SameInventory first second)
    (hpassesFirst : passesCapabilities first capabilities = true)
    (hpassesSecond : passesCapabilities second capabilities = true) :
    SameResult (rospecFor capabilities (client.setConfig client.config first)).1
      (rospecFor capabilities (client.setConfig client.config second)).1 := by
  have hresult : ∀ config, passesCapabilities config capabilities = true →
      (rospecFor capabilities (client.setConfig client.config config)).1 =
        builtROSpec (settledValues config capabilities).readerMode
          (settledValues config capabilities).dedupBackendActive
          (settledConfig config capabilities) := by
    intro config hpasses
    have hsettings := settings_setConfig client config
    have hquiet : (client.setConfig client.config config).state ≠ .inventorying := hstate
    rw [result_rospecFor hquiet (by rw [hsettings]; exact hpasses), hsettings]
  obtain ⟨hmode, hbackend⟩ := settledValues_same hsame capabilities
  have hsettled : SameInventory (settledConfig first capabilities)
      (settledConfig second capabilities) :=
    { hsame with
      txPower := settledPowers_same hsame hfirst hsecond hpassesFirst hpassesSecond }
  rw [hresult first hpassesFirst, hresult second hpassesSecond, hmode, hbackend]
  exact builtROSpec_same hsettled _ _

/-- A plan without a reader change leaves the settings of the reader as they
are, up to the order of the ports. -/
theorem readerSettings_same {first second : LLRPReaderConfig}
    (hplan : .readerConfig ∉ (buildConfigTransitionPlan first second).actions) :
    SameSettings (readerSettings first) (readerSettings second) := by
  have hagree : ∀ field : ConfigField, configFieldPolicy field = .readerConfig →
      agreeOn first second field = true :=
    fun field hpolicy => agreeOn_of_not_mem_actions (by rw [hpolicy]; exact hplan)
  have hkeepalive : first.keepaliveInterval = second.keepaliveInterval :=
    of_decide_eq_true (hagree .keepaliveInterval rfl)
  have hevents : PyEq.same first.eventSelector second.eventSelector = true :=
    hagree .eventSelector rfl
  have himpinj : PyEq.same first.impinjEventSelector second.impinjEventSelector = true :=
    hagree .impinjEventSelector rfl
  have hports : PyEq.same first.gpiPortsConfig second.gpiPortsConfig = true :=
    hagree .gpiPortsConfig rfl
  refine ⟨?_, ?_, ?_, Dict.entries_perm (get?_of_same hports)⟩
  · unfold readerSettings
    rw [hkeepalive]
  · refine same_dict_iff.mpr fun event => same_option_iff.mpr ?_
    unfold readerSettings
    rw [Dict.get?_update_entries, Dict.get?_update_entries, get?_of_same hevents]
  · unfold readerSettings
    revert himpinj
    cases first.impinjEventSelector with
    | none =>
      cases second.impinjEventSelector with
      | none => exact fun _ => rfl
      | some selector => exact fun hnever => nomatch hnever
    | some selector =>
      cases second.impinjEventSelector with
      | none => exact fun hnever => nomatch hnever
      | some other => exact fun hselector => get?_of_same hselector "AntennaAttemptEvent"

/-- The client accepts a configuration against the capabilities. The check runs
while the capabilities are awaited and when a configuration is installed, never
while inventorying. -/
def Client.accepts (client : Client) (capabilities : Capabilities) (config : LLRPReaderConfig) :
    Prop :=
  (parseCapabilities capabilities).raises (client.setConfig client.config config) = false

/-- Two accepted configurations generate equal messages of each kind unless
their plan has a change of that kind. -/
theorem plan_sound {client : Client} (hstate : client.state ≠ .inventorying)
    {capabilities : Capabilities} {first second : LLRPReaderConfig} (hfirst : Validated first)
    (hsecond : Validated second) (hacceptsFirst : client.accepts capabilities first)
    (hacceptsSecond : client.accepts capabilities second) :
    let actions := (buildConfigTransitionPlan first second).actions
    (.rospec ∉ actions → .reconnect ∉ actions →
      SameResult (rospecFor capabilities (client.setConfig client.config first)).1
        (rospecFor capabilities (client.setConfig client.config second)).1) ∧
      (.readerConfig ∉ actions → .reconnect ∉ actions →
        SameSettings (readerSettings first) (readerSettings second)) := by
  have hpasses : ∀ config, client.accepts capabilities config →
      passesCapabilities config capabilities = true := by
    intro config haccepts
    have hquiet : (client.setConfig client.config config).state ≠ .inventorying := hstate
    rw [Client.accepts, raises_parseCapabilities hquiet, settings_setConfig] at haccepts
    simpa using haccepts
  intro actions
  constructor
  · intro hrospec _
    exact rospecFor_same hstate hfirst hsecond (sameInventory_of_plan hrospec)
      (hpasses first hacceptsFirst) (hpasses second hacceptsSecond)
  · intro hreaderConfig _
    exact readerSettings_same hreaderConfig

/-- A change of the request timeout generates neither message again. -/
theorem plan_sound_timedConfig :
    let client := Client.initial (fun _ => timedConfig) 0 false
    let other := { timedConfig with requestTimeout := none }
    SameResult (rospecFor oneAntenna (client.setConfig client.config timedConfig)).1
        (rospecFor oneAntenna (client.setConfig client.config other)).1 ∧
      SameSettings (readerSettings timedConfig) (readerSettings other) := by
  intro client other
  have hsound := plan_sound (show client.state ≠ .inventorying by decide)
    (show Validated timedConfig by decide +kernel) (show Validated other by decide +kernel)
    (show client.accepts oneAntenna timedConfig by unfold Client.accepts; decide +kernel)
    (show client.accepts oneAntenna other by unfold Client.accepts; decide +kernel)
  exact ⟨hsound.1 (by decide +kernel) (by decide +kernel),
    hsound.2 (by decide +kernel) (by decide +kernel)⟩

/-- A configuration of two input ports, in either order. -/
def portsConfig (ports : List (ℤ × Bool)) : LLRPReaderConfig :=
  { timedConfig with gpiPortsConfig := .ofList ports }

/-- Equal mappings of ports are written in different orders. -/
theorem ports_in_other_order :
    let client := Client.initial (fun _ => timedConfig) 0 false
    let first := portsConfig [(1, true), (2, false)]
    let second := portsConfig [(2, false), (1, true)]
    Validated first ∧ Validated second ∧ client.accepts oneAntenna first ∧
      client.accepts oneAntenna second ∧
      (buildConfigTransitionPlan first second).isNoop = true ∧
      readerSettings first ≠ readerSettings second := by
  intro client first second
  unfold Client.accepts
  decide +kernel

end Sllurp.Session
