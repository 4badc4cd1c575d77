/-
# What an inventory is read as

Each part of a ROSpec that can be written is read as its mapping of readings, from the
air-protocol commands up to the whole specification. With the codes of its triggers
known, and its custom parameters of types that are not registered, so is all of it:
what `makeROSpec` builds is read back whatever the settings, the mode and the bytes
behind it.
-/

import Sllurp.Codec.Mirror
import Sllurp.Codec.ROSpecMapping

namespace Sllurp.Codec

open Sllurp.Foundations Sllurp.Foundations.Wire Sllurp.Foundations.Outcome Sllurp.Protocol
open Registry

/-! ## Entries -/

/-- A type whose body is a record. -/
theorem reads_record {name : String} {info : ParamInfo} {encode : Encoder}
    {readings : List FieldReading} {par : Value} {fields : Fields}
    (hname : name ≠ "CustomParameter")
    (hparam : registry.param name = some info) (hencoder : info.encode = some encode)
    (hform : forms name = .record readings) (hread : readFields readings par = .ok fields) :
    registry.Reads forms name par ⟨some name, fields.value⟩ := by
  refine reads_of_value hname hparam hencoder hform ?_
  rw [hread]
  rfl

/-- A type whose body goes on with parameters. -/
theorem reads_auto {name : String} {info : ParamInfo} {encode : Encoder}
    {readings : List FieldReading} {par : Value} {fields last : Fields}
    (hname : name ≠ "CustomParameter") (hparam : registry.param name = some info)
    (hencoder : info.encode = some encode) (hform : forms name = .auto readings)
    (hread : readFields readings par = .ok fields)
    (hadds : registry.Adds forms info.nFields fields (children info.toLayout par) last) :
    registry.Reads forms name par ⟨some name, last.value⟩ :=
  reads_of_fields registry_mirrors hname hparam hencoder hform hread hadds

/-! ## Fields -/

theorem toInt_int (number : ℤ) : (Value.int number).toInt = .ok number := rfl

/-! ## Air protocol -/

theorem reads_rfTransmitter (transmitter : RFTransmitter) :
    registry.Reads forms "RFTransmitter" transmitter.value
      ⟨some "RFTransmitter", transmitter.value⟩ := by
  have hfound := param_at configurationParams_subset 7 (by simp [composedNames]) rfl
  refine reads_record (by decide) hfound rfl (form_at 27 rfl) ?_
  simp [RFTransmitter.value, readFields, FieldReading.number, item_mapping_eq, Dict.ofList,
    Dict.get?_set, ok_bind]

theorem reads_c1G2RFControl (control : C1G2RFControl) :
    registry.Reads forms "C1G2RFControl" control.value ⟨some "C1G2RFControl", control.value⟩ := by
  have hfound := param_at configurationParams_subset 13 (by simp [composedNames]) rfl
  refine reads_record (by decide) hfound rfl (form_at 32 rfl) ?_
  simp [C1G2RFControl.value, readFields, FieldReading.number, item_mapping_eq, Dict.ofList,
    Dict.get?_set, ok_bind]

theorem reads_c1G2SingulationControl (control : C1G2SingulationControl) :
    registry.Reads forms "C1G2SingulationControl" control.value
      ⟨some "C1G2SingulationControl", control.reading⟩ := by
  have hfound := param_at configurationParams_subset 14 (by simp [composedNames]) rfl
  refine reads_of_fields registry_mirrors (by decide) hfound rfl (form_at 33 rfl) ?_ (.nil _)
  simp [C1G2SingulationControl.value, readFields, FieldReading.number, FieldReading.session,
    Value.shiftLeft, item_mapping_eq, Dict.ofList, Dict.get?_set, ok_bind]

theorem reads_impinjInventorySearchMode (mode : ℤ) :
    registry.Reads forms "ImpinjInventorySearchMode" (searchModeValue mode)
      ⟨some "ImpinjInventorySearchMode", searchModeValue mode⟩ := by
  have hread : readFields [.number "InventorySearchMode"] (searchModeValue mode) =
      .ok (.ofList [("InventorySearchMode", .int mode)]) := by
    simp [searchModeValue, readFields, FieldReading.number, item_mapping_eq, Dict.ofList, ok_bind]
  have hchildren : ∀ layout : Layout, layout.autoFields = [("CustomParameter", true)] →
      children layout (searchModeValue mode) = [] := by
    intro layout hlayout
    simp [children, hlayout, searchModeValue, childrenOf_mapping, Dict.ofList, Dict.update,
      Dict.get?_set]
  refine reads_auto (by decide) (param_at impinjParams_subset 2 (by simp [composedNames]) rfl) rfl
    (form_at 54 rfl) hread ?_
  rw [hchildren _ rfl]
  exact .nil _

theorem reads_impinjFixedFrequencyList (frequencies : ImpinjFixedFrequencyList) :
    registry.Reads forms "ImpinjFixedFrequencyList" frequencies.value
      ⟨some "ImpinjFixedFrequencyList", frequencies.value⟩ := by
  have hchannels : (frequencies.channelList.map Value.int).mapM (fun channel : Value => do
      Except.ok (Value.int (← channel.index))) =
        Except.ok (ε := Exn) (frequencies.channelList.map Value.int) := by
    induction frequencies.channelList with
    | nil => rfl
    | cons channel channels ih => simp [ih, ok_bind]
  refine reads_record (by decide) (param_at impinjParams_subset 3 (by simp [composedNames]) rfl) rfl
    (form_at 55 rfl) ?_
  simp [ImpinjFixedFrequencyList.value, numbersValue, readFields, FieldReading.number,
    FieldReading.channels, Value.getD, Value.items, item_mapping_eq, fields?_mapping,
    Dict.getD, Dict.ofList, Dict.get?_set, ok_bind, hchannels]

/-- The bytes of a filter do not depend on how deep it lies. -/
theorem eq_filterBytes {mask : C1G2TagInventoryMask} {fuel : ℕ} {layout : Layout}
    {body : List UInt8}
    (hlayout : layout.autoFields =
      [("C1G2TagInventoryMask", false), ("C1G2TagInventoryStateAwareFilterAction", false),
        ("C1G2TagInventoryStateUnawareFilterAction", false), ("CustomParameter", true)])
    (hbody : encodeC1G2Filter (registry.encodeParamWith fuel) layout mask.value = .ok body) :
    body = mask.filterBytes := by
  have hparam := param_at configurationParams_subset 12 (by simp [composedNames]) rfl
  have hchildren : children layout mask.value =
      [("C1G2TagInventoryMask", mask.maskValue)] := by
    simp [children, hlayout, C1G2TagInventoryMask.value, Dict.ofList, Dict.get?_set]
  have hall : encodeC1G2Filter (registry.encodeParamWith fuel) layout mask.value =
      encodeAllParameters (registry.encodeParamWith fuel) layout mask.value [0] := by
    simp [encodeC1G2Filter, C1G2TagInventoryMask.value, Value.getD, fields?_mapping,
      Dict.getD, Dict.ofList, Dict.get?_set, Value.toInt, packStruct,
      Format.holds, ok_bind]
    rfl
  obtain ⟨rest, hwritten, rfl⟩ := written_of_encodeAllParameters (hall.symm.trans hbody)
  rw [hchildren] at hwritten
  obtain ⟨part, others, hpart, hothers, rfl⟩ := written_cons_iff.mp hwritten
  rw [written_nil_iff.mp hothers, List.append_nil]
  unfold C1G2TagInventoryMask.filterBytes
  cases fuel with
  | zero => cases hpart
  | succ fuel =>
    have hsame : registry.encodeParamWith 1 "C1G2TagInventoryMask" mask.maskValue =
        registry.encodeParamWith (fuel + 1) "C1G2TagInventoryMask" mask.maskValue := by
      rw [encodeParamWith, encodeParamWith, hparam]
      rfl
    rw [hsame, hpart]
    rfl

/-- A filter has no decoder. -/
theorem reads_c1G2Filter (mask : C1G2TagInventoryMask) :
    registry.Reads forms "C1G2Filter" mask.value ⟨none, mask.reading⟩ := by
  have hfound := param_at configurationParams_subset 11 (by simp [composedNames]) rfl
  refine reads_of_body (by decide) hfound rfl fun fuel body hbody => ?_
  rw [form_at 30 rfl, eq_filterBytes rfl hbody]
  rfl

/-! ## Antennas -/

theorem reads_c1G2InventoryCommand (command : C1G2InventoryCommand) :
    registry.Reads forms "C1G2InventoryCommand" command.value
      ⟨some "C1G2InventoryCommand", command.reading⟩ := by
  have hread : readFields [.isSet "TagInventoryStateAware"] command.value =
      .ok (.ofList [("TagInventoryStateAware", .bool command.tagInventoryStateAware)]) := by
    simp [C1G2InventoryCommand.value, readFields, FieldReading.isSet, item_mapping_eq,
      Dict.ofList, Dict.get?_set, Value.truthy, ok_bind]
  have hchildren : ∀ layout : Layout, layout.autoFields =
      [("C1G2Filter", true), ("C1G2RFControl", false), ("C1G2SingulationControl", false),
        ("ImpinjInventoryConfiguration", false), ("ImpinjInventorySearchMode", false),
        ("ImpinjIntelligentAntennaManagement", false), ("ImpinjFixedFrequencyList", false),
        ("ImpinjReducedPowerFrequencyList", false), ("ImpinjLowDutyCycle", false),
        ("ImpinjRFPowerSweep", false), ("CustomParameter", true)] →
      children layout command.value =
        (command.c1G2Filter.map fun mask => ("C1G2Filter", mask.value)) ++
        optional "C1G2RFControl" C1G2RFControl.value command.c1G2RFControl ++
        [("C1G2SingulationControl", command.c1G2SingulationControl.value)] ++
        optional "ImpinjInventorySearchMode" searchModeValue
          command.impinjInventorySearchMode ++
        optional "ImpinjFixedFrequencyList" ImpinjFixedFrequencyList.value
          command.impinjFixedFrequencyList := by
    intro layout hlayout
    simp [children, hlayout, C1G2InventoryCommand.value, Dict.ofList, Dict.get?_set]
  have hinfo := param_at configurationParams_subset 10 (by simp [composedNames]) rfl
  refine reads_auto (by decide) hinfo rfl (form_at 29 rfl) hread ?_
  rw [hchildren _ rfl]
  have hfilters : Dict.get? (Dict.ofList [("TagInventoryStateAware",
      Value.bool command.tagInventoryStateAware)] : Fields) decodeErrorParname = none := by
    simp [Dict.ofList, Dict.get?_set, decodeErrorParname]
  rw [Fields.ofList_append, Fields.ofList_append, Fields.ofList_append, Fields.ofList_append,
    Fields.ofList_append]
  exact ((((Adds.pile hfilters (fun _ _ => rfl) fun mask _ => reads_c1G2Filter mask).append
    (.optional _ (by decide) fun control _ => reads_c1G2RFControl control)).append
    (.one _ (by decide) (reads_c1G2SingulationControl _))).append
    (.optional _ (by decide) fun mode _ => reads_impinjInventorySearchMode mode)).append
    (.optional _ (by decide) fun frequencies _ => reads_impinjFixedFrequencyList frequencies)

theorem reads_antennaConfiguration (configuration : AntennaConfiguration) :
    registry.Reads forms "AntennaConfiguration" configuration.value
      ⟨some "AntennaConfiguration", configuration.reading⟩ := by
  have hread : readFields [.number "AntennaID"] configuration.value =
      .ok (.ofList [("AntennaID", .int configuration.antennaId)]) := by
    simp [AntennaConfiguration.value, readFields, FieldReading.number, item_mapping_eq,
      Dict.ofList, Dict.get?_set, ok_bind]
  have hchildren : ∀ layout : Layout, layout.autoFields =
      [("RFReceiver", false), ("RFTransmitter", false), ("C1G2InventoryCommand", true),
        ("CustomParameter", true)] →
      children layout configuration.value =
        [("RFTransmitter", configuration.rfTransmitter.value),
          ("C1G2InventoryCommand", configuration.c1G2InventoryCommand.value)] := by
    intro layout hlayout
    simp [children, hlayout, AntennaConfiguration.value, Dict.ofList, Dict.get?_set]
  refine reads_auto (by decide)
    (param_at configurationParams_subset 5 (by simp [composedNames]) rfl) rfl (form_at 25 rfl)
    hread ?_
  rw [hchildren _ rfl]
  exact (Adds.one _ (by decide) (reads_rfTransmitter _)).append
    (.single (by simp [Dict.ofList, Dict.get?_set]) (by decide)
      (reads_c1G2InventoryCommand _))

/-! ## Antenna inventories -/

theorem reads_tagObservationTrigger (trigger : TagObservationTrigger) :
    registry.Reads forms "TagObservationTrigger" trigger.value
      ⟨some "TagObservationTrigger", trigger.value⟩ := by
  refine reads_record (by decide)
    (param_at operationParams_subset 19 (by simp [composedNames]) rfl) rfl (form_at 22 rfl) ?_
  simp [TagObservationTrigger.value, readFields, FieldReading.whole, FieldReading.same,
    item_mapping_eq, Dict.ofList, Dict.get?_set, toInt_int, ok_bind]

theorem code_text {names : Enumeration} {name : String}
    (hname : (names.lookup name).isSome = true) :
    names.code (.text name) = .ok (codeReading names name) := by
  obtain ⟨code, hcode⟩ := Option.isSome_iff_exists.mp hname
  have hfound : names.code? (.text name) = .ok (some code) := congrArg Except.ok hcode
  unfold Enumeration.code codeReading
  rw [hfound, hcode]
  rfl

theorem reads_aiSpecStopTrigger {trigger : StopTrigger}
    (htype : (Names.aiSpecStopTriggerType.lookup trigger.triggerType).isSome = true) :
    registry.Reads forms "AISpecStopTrigger" trigger.aiSpecValue
      ⟨some "AISpecStopTrigger", trigger.aiSpecReading⟩ := by
  have hread : readFields [.code Names.aiSpecStopTriggerType "AISpecStopTriggerType",
        .optionalDuration] trigger.aiSpecValue =
      .ok (.ofList [("AISpecStopTriggerType",
          codeReading Names.aiSpecStopTriggerType trigger.triggerType),
        ("DurationTriggerValue", .int trigger.durationTriggerValue)]) := by
    simp [StopTrigger.aiSpecValue, readFields, FieldReading.code, FieldReading.optionalDuration,
      item_mapping_eq, fields?_mapping, Value.getD, Dict.getD, Dict.ofList, Dict.get?_set,
      toInt_int, code_text htype, ok_bind]
  have hchildren : ∀ layout : Layout, layout.autoFields =
      [("GPITriggerValue", false), ("TagObservationTrigger", false),
        ("CustomParameter", true)] →
      children layout trigger.aiSpecValue =
        optional "TagObservationTrigger" TagObservationTrigger.value
          trigger.tagObservationTrigger := by
    intro layout hlayout
    simp [children, hlayout, StopTrigger.aiSpecValue, Dict.ofList, Dict.get?_set]
  refine reads_auto (by decide)
    (param_at operationParams_subset 18 (by simp [composedNames]) rfl) rfl (form_at 21 rfl)
    hread ?_
  rw [hchildren _ rfl, Fields.ofList_append]
  exact .optional _ (by decide) fun trigger _ => reads_tagObservationTrigger trigger

theorem reads_inventoryParameterSpec (spec : AISpec) :
    registry.Reads forms "InventoryParameterSpec" spec.inventoryParameterValue
      ⟨some "InventoryParameterSpec", spec.inventoryParameterReading⟩ := by
  have hread : readFields [.number "InventoryParameterSpecID", .number "ProtocolID"]
      spec.inventoryParameterValue =
      .ok (.ofList [("InventoryParameterSpecID", .int spec.inventoryParameterSpecId),
        ("ProtocolID", .int spec.protocolId)]) := by
    simp [AISpec.inventoryParameterValue, readFields, FieldReading.number, item_mapping_eq,
      Dict.ofList, Dict.get?_set, ok_bind]
  have hchildren : ∀ layout : Layout, layout.autoFields =
      [("AntennaConfiguration", true), ("CustomParameter", true)] →
      children layout spec.inventoryParameterValue =
        spec.antennaConfiguration.map fun configuration =>
          ("AntennaConfiguration", configuration.value) := by
    intro layout hlayout
    simp [children, hlayout, AISpec.inventoryParameterValue, Dict.ofList, Dict.get?_set]
  refine reads_auto (by decide)
    (param_at operationParams_subset 20 (by simp [composedNames]) rfl) rfl (form_at 23 rfl)
    hread ?_
  rw [hchildren _ rfl, Fields.ofList_append]
  exact .pile (by simp [Dict.ofList, Dict.get?_set]) (store_repeated (by decide))
    fun configuration _ => reads_antennaConfiguration configuration

theorem reads_aiSpec {spec : AISpec}
    (htype : (Names.aiSpecStopTriggerType.lookup
      spec.aiSpecStopTrigger.triggerType).isSome = true) :
    registry.Reads forms "AISpec" spec.value ⟨some "AISpec", spec.reading⟩ := by
  have hantennas : (spec.antennaId.map Value.int).mapM (fun antenna : Value => do
      Except.ok (Value.int (← antenna.toInt))) =
        Except.ok (ε := Exn) (spec.antennaId.map Value.int) := by
    induction spec.antennaId with
    | nil => rfl
    | cons antenna antennas ih => simp [ih, toInt_int, ok_bind]
  have hread : readFields [.antennaCount, .antennas] spec.value =
      .ok (.ofList [("AntennaCount", .int spec.antennaId.length),
        ("AntennaID", numbersValue spec.antennaId)]) := by
    simp [AISpec.value, numbersValue, readFields, FieldReading.antennaCount,
      FieldReading.antennas, Value.items, item_mapping_eq, Dict.ofList, Dict.get?_set, ok_bind,
      hantennas]
  have hchildren : ∀ layout : Layout, layout.autoFields =
      [("AISpecStopTrigger", false), ("InventoryParameterSpec", true),
        ("CustomParameter", true)] →
      children layout spec.value =
        [("AISpecStopTrigger", spec.aiSpecStopTrigger.aiSpecValue),
          ("InventoryParameterSpec", spec.inventoryParameterValue)] := by
    intro layout hlayout
    simp [children, hlayout, AISpec.value, Dict.ofList, Dict.get?_set]
  refine reads_auto (by decide)
    (param_at operationParams_subset 17 (by simp [composedNames]) rfl) rfl (form_at 20 rfl)
    hread ?_
  rw [hchildren _ rfl]
  exact (Adds.one _ (by decide) (reads_aiSpecStopTrigger htype)).append
    (.single (by simp [Dict.ofList, Dict.get?_set]) (by decide)
      (reads_inventoryParameterSpec _))

/-! ## Reports -/

/-- Flags that may be missing are read for all names. -/
theorem readFields_selected (names : List String) (fields : Fields) :
    readFields (names.map .selected) fields.value =
      .ok (.ofList (names.map fun name =>
        (name, .bool (fields.getD name (.bool false)).truthy))) := by
  have hentries : (names.map FieldReading.selected).mapM (fun reading : FieldReading => do
      Except.ok (reading.key, ← reading.read fields.value)) =
        Except.ok (ε := Exn) (names.map fun name =>
          (name, Value.bool (fields.getD name (.bool false)).truthy)) := by
    induction names with
    | nil => rfl
    | cons name names ih =>
      simp [ih, FieldReading.selected, Value.getD, ok_bind]
  unfold readFields
  rw [hentries]
  rfl

theorem truthy_getD_mapValues (flags : Dict String Bool) (name : String) :
    ((flags.mapValues Value.bool : Fields).getD name (.bool false)).truthy =
      flags.getD name false := by
  unfold Dict.getD
  rw [Dict.get?_mapValues]
  cases flags.get? name <;> rfl

theorem readFields_flags (names : List String) (flags : Dict String Bool) :
    readFields (names.map .selected) (flagsValue flags) =
      .ok (.ofList (names.map fun name => (name, .bool (flags.getD name false)))) := by
  rw [flagsValue, readFields_selected]
  simp only [truthy_getD_mapValues]

theorem reads_motoTagReportContentSelector (flags : Dict String Bool) :
    registry.Reads forms "MotoTagReportContentSelector" (flagsValue flags)
      ⟨some "MotoTagReportContentSelector",
        flagsReading motoTagReportContentSelectorNames flags⟩ := by
  exact reads_record (by decide)
    (param_at motorolaParams_subset 7 (by simp [composedNames]) rfl) rfl (form_at 70 rfl)
    (readFields_flags _ flags)

/-- A flag is looked up only if it is there, which makes no difference. -/
theorem read_present (flags : Dict String Bool) (name : String) :
    (FieldReading.present name).read (flagsValue flags) =
      .ok (.bool (flags.getD name false)) := by
  have htruthy := truthy_getD_mapValues flags name
  unfold Dict.getD at htruthy ⊢
  simp only [FieldReading.present, flagsValue, contains_value, ok_bind]
  cases hfound : (flags.mapValues Value.bool : Fields).get? name with
  | none =>
    rw [hfound] at htruthy
    rw [← htruthy]
    rfl
  | some found =>
    rw [hfound] at htruthy
    rw [← htruthy, Value.item, Value.fields?_value]
    dsimp only
    rw [hfound]
    rfl

theorem reads_c1G2EPCMemorySelector (selector : Config.SelectorValue) :
    registry.Reads forms "C1G2EPCMemorySelector" (selectorValue selector)
      ⟨some "C1G2EPCMemorySelector", memoryReading selector⟩ := by
  cases selector with
  | memory flags =>
    refine reads_record (by decide)
      (param_at configurationParams_subset 20 (by simp [composedNames]) rfl) rfl
      (form_at 38 rfl) ?_
    simp [readFields, selectorValue, read_present, memorySelectorNames, ok_bind]
    rfl
  | flag enabled =>
    refine reads_of_body (by decide)
      (param_at configurationParams_subset 20 (by simp [composedNames]) rfl) rfl
      fun fuel body hbody => ?_
    cases hbody

theorem reads_tagReportContentSelector (spec : ROReportSpec) :
    registry.Reads forms "TagReportContentSelector" spec.selectorValue
      ⟨some "TagReportContentSelector", spec.selectorReading⟩ := by
  have hselects : ∀ name, ((spec.tagReportContentSelector.mapValues Protocol.selectorValue :
      Fields).getD name (.bool false)).truthy = spec.selects name := by
    intro name
    unfold Dict.getD ROReportSpec.selects
    rw [Dict.get?_mapValues]
    cases spec.tagReportContentSelector.get? name <;> rfl
  have hread : readFields (tagReportContentSelectorNames.map .selected) spec.selectorValue =
      .ok (.ofList (tagReportContentSelectorNames.map fun name =>
        (name, .bool (spec.selects name)))) := by
    rw [ROReportSpec.selectorValue, readFields_selected]
    simp only [hselects]
  have hcustom : ∀ found : Option Config.SelectorValue,
      paramsOf "CustomParameter" true (found.map Protocol.selectorValue) = [] := by
    intro found
    rcases found with _ | ⟨enabled | flags⟩ <;> rfl
  have hchildren : ∀ layout : Layout, layout.autoFields =
      [("C1G2EPCMemorySelector", false), ("CustomParameter", true)] →
      children layout spec.selectorValue =
        optional "C1G2EPCMemorySelector" Protocol.selectorValue
          (spec.tagReportContentSelector.get? "C1G2EPCMemorySelector") := by
    intro layout hlayout
    simp [children, hlayout, ROReportSpec.selectorValue, Dict.get?_mapValues, hcustom]
  refine reads_auto (by decide)
    (param_at configurationParams_subset 19 (by simp [composedNames]) rfl) rfl (form_at 37 rfl)
    hread ?_
  rw [hchildren _ rfl, Fields.ofList_append]
  exact .optional _ (by decide) fun selector _ => reads_c1G2EPCMemorySelector selector

/-- A mode that is set by a flag is read as a number. -/
theorem readFields_mode (key : String) (isSet : Bool) :
    readFields [.number key] (mapping [(key, .bool isSet)]) =
      .ok (.ofList [(key, bitReading isSet)]) := by
  simp [readFields, FieldReading.number, bitReading, item_mapping_eq, Dict.ofList, ok_bind]

theorem reads_impinjTagReportContentSelector (selector : ImpinjTagReportContentSelector) :
    registry.Reads forms "ImpinjTagReportContentSelector" selector.value
      ⟨some "ImpinjTagReportContentSelector", selector.reading⟩ := by
  have hread : readFields [] selector.value = .ok (.ofList []) := rfl
  have hchildren : ∀ layout : Layout, layout.autoFields =
      [("ImpinjEnableSerializedTID", false), ("ImpinjEnableRFPhaseAngle", false),
        ("ImpinjEnablePeakRSSI", false), ("ImpinjEnableGPSCoordinates", false),
        ("ImpinjEnableOptimizedRead", false), ("ImpinjEnableRFDopplerFrequency", false),
        ("ImpinjEnableTxPower", false), ("CustomParameter", true)] →
      children layout selector.value =
        [("ImpinjEnableRFPhaseAngle",
            mapping [("RFPhaseAngleMode", .bool selector.rfPhaseAngleMode)]),
          ("ImpinjEnablePeakRSSI", mapping [("PeakRSSIMode", .bool selector.peakRssiMode)]),
          ("ImpinjEnableRFDopplerFrequency",
            mapping [("RFDopplerFrequencyMode", .bool selector.rfDopplerFrequencyMode)])] := by
    intro layout hlayout
    simp [children, hlayout, ImpinjTagReportContentSelector.value, Dict.ofList, Dict.get?_set]
  have hphase := reads_record (by decide)
    (param_at impinjParams_subset 16 (by simp [composedNames]) rfl) rfl (form_at 58 rfl)
    (readFields_mode "RFPhaseAngleMode" selector.rfPhaseAngleMode)
  have hpeak := reads_record (by decide)
    (param_at impinjParams_subset 17 (by simp [composedNames]) rfl) rfl (form_at 59 rfl)
    (readFields_mode "PeakRSSIMode" selector.peakRssiMode)
  have hdoppler := reads_record (by decide)
    (param_at impinjParams_subset 30 (by simp [composedNames]) rfl) rfl (form_at 62 rfl)
    (readFields_mode "RFDopplerFrequencyMode" selector.rfDopplerFrequencyMode)
  refine reads_auto (by decide)
    (param_at impinjParams_subset 14 (by simp [composedNames]) rfl) rfl (form_at 56 rfl)
    hread ?_
  rw [hchildren _ rfl]
  exact ((Adds.one _ (by decide) hphase).append (.one _ (by decide) hpeak)).append
    (.one _ (by decide) hdoppler)

/-- A custom parameter of a type that is not registered is a record of its payload. -/
theorem reads_customParameter {parameter : CustomParameter} (hvendor : parameter.vendorId ≠ 0)
    (hsubtype : parameter.subtype ≠ 0)
    (hunknown :
      registry.typeName (typeCustom, parameter.vendorId, parameter.subtype) = none) :
    registry.Reads forms "CustomParameter" parameter.value ⟨none, parameter.reading⟩ := by
  have hparam : registry.param "CustomParameter" = some
      { type := typeCustom
        ownFields := ["VendorID", "Subtype", "Payload"]
        encode := some encodeCustomParameter } := rfl
  intro fuel bytes hencode
  cases fuel with
  | zero => cases hencode
  | succ fuel =>
    have hbody : ∀ layout : Layout, encodeCustomParameter (registry.encodeParamWith fuel) layout
        parameter.value = .ok parameter.payload := by
      intro layout
      simp [encodeCustomParameter, CustomParameter.value, Value.getD, fields?_mapping,
        Dict.getD, Dict.ofList, ok_bind]
      rfl
    have hkey : ∀ layout : Layout, layout.type = typeCustom →
        writtenKey "CustomParameter" layout parameter.value = .ok
          { paramType := typeCustom
            vendorId := parameter.vendorId
            subtype := parameter.subtype
            headerLength := 0
            fullLength := 0 } := by
      intro layout hlayout
      simp [writtenKey, vendorOf, CustomParameter.value, item_mapping_eq, Dict.ofList,
        Dict.get?_set, hlayout, ok_bind]
    rw [readBackWith]
    simp only [hparam]
    rw [hbody, ok_bind, hkey _ rfl, ok_bind, if_pos trivial]
    unfold decodeFramed nameOf
    rw [hunknown]
    simp only [errorRecord, hvendor, hsubtype, ne_eq, not_false_eq_true, and_self, if_true,
      ok_bind]
    rfl

theorem reads_roReportSpec {spec : ROReportSpec}
    (hcustom : ∀ parameter ∈ spec.customParameter,
      registry.Reads forms "CustomParameter" parameter.value ⟨none, parameter.reading⟩) :
    registry.Reads forms "ROReportSpec" spec.value ⟨some "ROReportSpec", spec.reading⟩ := by
  have hread : readFields [.whole "N", .same "ROReportTrigger"] spec.value =
      .ok (.ofList [("N", .int spec.n), ("ROReportTrigger", .text spec.roReportTrigger)]) := by
    simp [ROReportSpec.value, readFields, FieldReading.whole, FieldReading.same,
      item_mapping_eq, Dict.ofList, Dict.get?_set, toInt_int, ok_bind]
  have hchildren : ∀ layout : Layout, layout.autoFields =
      [("TagReportContentSelector", false), ("ImpinjTagReportContentSelector", false),
        ("MotoTagReportContentSelector", false), ("CustomParameter", true)] →
      children layout spec.value =
        [("TagReportContentSelector", spec.selectorValue)] ++
        optional "ImpinjTagReportContentSelector" ImpinjTagReportContentSelector.value
          spec.impinjTagReportContentSelector ++
        optional "MotoTagReportContentSelector" flagsValue spec.motoTagReportContentSelector ++
        spec.customParameter.map fun parameter => ("CustomParameter", parameter.value) := by
    intro layout hlayout
    simp [children, hlayout, ROReportSpec.value, Dict.ofList, Dict.get?_set]
  refine reads_auto (by decide)
    (param_at configurationParams_subset 16 (by simp [composedNames]) rfl) rfl (form_at 34 rfl)
    hread ?_
  rw [hchildren _ rfl, Fields.ofList_append, Fields.ofList_append, Fields.ofList_append]
  refine (((Adds.one _ (by decide) (reads_tagReportContentSelector spec)).append
    (.optional _ (by decide) fun selector _ =>
      reads_impinjTagReportContentSelector selector)).append
    (.optional _ (by decide) fun flags _ => reads_motoTagReportContentSelector flags)).append
    (.pile ?_ (fun _ _ => rfl) hcustom)
  simp [Dict.ofList, Dict.get?_set, decodeErrorParname]

/-! ## The whole specification -/

theorem reads_roSpecStartTrigger {name : String}
    (hname : (Names.roSpecStartTriggerType.lookup name).isSome = true) :
    registry.Reads forms "ROSpecStartTrigger" (mapping [("ROSpecStartTriggerType", .text name)])
      ⟨some "ROSpecStartTrigger",
        mapping [("ROSpecStartTriggerType",
          codeReading Names.roSpecStartTriggerType name)]⟩ := by
  have hread : readFields [.code Names.roSpecStartTriggerType "ROSpecStartTriggerType"]
      (mapping [("ROSpecStartTriggerType", .text name)]) =
      .ok (.ofList [("ROSpecStartTriggerType",
        codeReading Names.roSpecStartTriggerType name)]) := by
    simp [readFields, FieldReading.code, item_mapping_eq, Dict.ofList, code_text hname, ok_bind]
  have hchildren : ∀ layout : Layout, layout.autoFields =
      [("PeriodicTriggerValue", false), ("GPITriggerValue", false),
        ("CustomParameter", true)] →
      children layout (mapping [("ROSpecStartTriggerType", .text name)]) = [] := by
    intro layout hlayout
    simp [children, hlayout, Dict.ofList, Dict.get?_set]
  refine reads_auto (by decide)
    (param_at operationParams_subset 13 (by simp [composedNames]) rfl) rfl (form_at 16 rfl)
    hread ?_
  rw [hchildren _ rfl]
  exact .nil _

theorem reads_roSpecStopTrigger (trigger : StopTrigger) :
    registry.Reads forms "ROSpecStopTrigger" trigger.roSpecValue
      ⟨some "ROSpecStopTrigger", trigger.roSpecValue⟩ := by
  have hread : readFields [.same "ROSpecStopTriggerType", .whole "DurationTriggerValue"]
      trigger.roSpecValue =
      .ok (.ofList [("ROSpecStopTriggerType", .text trigger.triggerType),
        ("DurationTriggerValue", .int trigger.durationTriggerValue)]) := by
    simp [StopTrigger.roSpecValue, readFields, FieldReading.same, FieldReading.whole,
      item_mapping_eq, Dict.ofList, Dict.get?_set, toInt_int, ok_bind]
  have hchildren : ∀ layout : Layout, layout.autoFields =
      [("GPITriggerValue", false), ("CustomParameter", true)] →
      children layout trigger.roSpecValue = [] := by
    intro layout hlayout
    simp [children, hlayout, StopTrigger.roSpecValue, Dict.ofList, Dict.get?_set]
  refine reads_auto (by decide)
    (param_at operationParams_subset 16 (by simp [composedNames]) rfl) rfl (form_at 19 rfl)
    hread ?_
  rw [hchildren _ rfl]
  exact .nil _

theorem reads_roBoundarySpec {rospec : LLRPROSpec}
    (hname : (Names.roSpecStartTriggerType.lookup
      rospec.roSpecStartTriggerType).isSome = true) :
    registry.Reads forms "ROBoundarySpec" rospec.boundaryValue
      ⟨some "ROBoundarySpec", rospec.boundaryReading⟩ := by
  have hread : readFields [] rospec.boundaryValue = .ok (.ofList []) := rfl
  have hchildren : ∀ layout : Layout, layout.autoFields =
      [("ROSpecStartTrigger", false), ("ROSpecStopTrigger", false),
        ("CustomParameter", true)] →
      children layout rospec.boundaryValue =
        [("ROSpecStartTrigger",
            mapping [("ROSpecStartTriggerType", .text rospec.roSpecStartTriggerType)]),
          ("ROSpecStopTrigger", rospec.roSpecStopTrigger.roSpecValue)] := by
    intro layout hlayout
    simp [children, hlayout, LLRPROSpec.boundaryValue, Dict.ofList, Dict.get?_set]
  refine reads_auto (by decide)
    (param_at operationParams_subset 12 (by simp [composedNames]) rfl) rfl (form_at 15 rfl)
    hread ?_
  rw [hchildren _ rfl]
  exact (Adds.one _ (by decide) (reads_roSpecStartTrigger hname)).append
    (.one _ (by decide) (reads_roSpecStopTrigger _))

/-- The names of codes are known, and custom parameters are of types that are not. -/
structure Coded (rospec : LLRPROSpec) : Prop where
  state : (Names.roSpecState.lookup rospec.currentState).isSome = true
  start : (Names.roSpecStartTriggerType.lookup rospec.roSpecStartTriggerType).isSome = true
  stop : (Names.aiSpecStopTriggerType.lookup
    rospec.aiSpec.aiSpecStopTrigger.triggerType).isSome = true
  custom : ∀ parameter ∈ rospec.roReportSpec.customParameter,
    parameter.vendorId ≠ 0 ∧ parameter.subtype ≠ 0 ∧
      registry.typeName (typeCustom, parameter.vendorId, parameter.subtype) = none

/-- A ROSpec is read as its reading wherever it can be written. -/
theorem reads_roSpec {rospec : LLRPROSpec} (hcoded : Coded rospec) :
    registry.Reads forms "ROSpec" rospec.value ⟨some "ROSpec", rospec.reading⟩ := by
  have hread : readFields [.number "ROSpecID", .number "Priority",
        .code Names.roSpecState "CurrentState"] rospec.value =
      .ok (.ofList [("ROSpecID", .int rospec.roSpecId), ("Priority", .int rospec.priority),
        ("CurrentState", codeReading Names.roSpecState rospec.currentState)]) := by
    simp [LLRPROSpec.value, readFields, FieldReading.number, FieldReading.code,
      item_mapping_eq, Dict.ofList, Dict.get?_set, code_text hcoded.state, ok_bind]
  have hchildren : ∀ layout : Layout, layout.autoFields =
      [("ROBoundarySpec", false), ("AISpec", true), ("RFSurveySpec", true),
        ("LoopSpec", true), ("ROReportSpec", false), ("CustomParameter", true)] →
      children layout rospec.value =
        [("ROBoundarySpec", rospec.boundaryValue), ("AISpec", rospec.aiSpec.value),
          ("ROReportSpec", rospec.roReportSpec.value)] := by
    intro layout hlayout
    simp [children, hlayout, LLRPROSpec.value, Dict.ofList, Dict.get?_set]
  have hreport := reads_roReportSpec fun parameter hparameter =>
    have hunknown := hcoded.custom parameter hparameter
    reads_customParameter hunknown.1 hunknown.2.1 hunknown.2.2
  have hlast : rospec.reading = Fields.value
      ((((Dict.ofList [("ROSpecID", .int rospec.roSpecId), ("Priority", .int rospec.priority),
          ("CurrentState", codeReading Names.roSpecState rospec.currentState)]).update
        [("ROBoundarySpec", rospec.boundaryReading)]).update
        [("AISpec", .list [rospec.aiSpec.reading])]).update
        [("ROReportSpec", rospec.roReportSpec.reading)]) := by
    simp only [LLRPROSpec.reading, mapping, Dict.ofList, Fields.update_cons, Fields.update_nil]
  rw [hlast]
  refine reads_auto (by decide)
    (param_at operationParams_subset 0 (by simp [composedNames]) rfl) rfl (form_at 3 rfl)
    hread ?_
  rw [hchildren _ rfl]
  exact ((Adds.one _ (by decide) (reads_roBoundarySpec hcoded.start)).append
    (.single (by simp [Dict.ofList, Dict.get?_set]) (by decide)
      (reads_aiSpec hcoded.stop))).append (.one _ (by decide) hreport)

/-- What a ROSpec that was built has of what does not depend on the settings. -/
theorem coded_of_makeROSpec {readerMode : Option ReaderMode} {roSpecId : ℕ}
    {settings : ROSpecSettings} {rospec : LLRPROSpec}
    (hmake : makeROSpec readerMode roSpecId settings = .ok rospec) :
    Coded rospec ∧ rospec.roReportSpec.customParameter = [] := by
  have hstop : (Names.aiSpecStopTriggerType.lookup
      (aiSpecTrigger settings).triggerType).isSome = true := by
    unfold aiSpecTrigger durationTrigger
    cases settings.reportEveryNTags with
    | some count => rfl
    | none => cases settings.durationSec <;> rfl
  unfold makeROSpec at hmake
  dsimp only at hmake
  split at hmake
  · cases hmake
  split at hmake
  · cases hmake
  obtain ⟨powers, -, hmake⟩ := bind_eq_ok_iff.mp hmake
  obtain ⟨impinj, -, hmake⟩ := bind_eq_ok_iff.mp hmake
  cases hchannels : settings.frequencies.channelList.getD [Config.defaultChannelIndex] with
  | nil =>
    rw [hchannels] at hmake
    cases hmake
  | cons channel others =>
    rw [hchannels] at hmake
    obtain ⟨antennas, -, hmake⟩ := bind_eq_ok_iff.mp hmake
    cases hmake
    exact ⟨⟨rfl, rfl, hstop, by simp⟩, rfl⟩

/-- The ROSpec of the client: as it was built, or with hardware deduplication. -/
def LLRPROSpec.deduplicated (rospec : LLRPROSpec) (seconds : Option ℤ) : LLRPROSpec :=
  seconds.elim rospec rospec.withHardwareDedup

/-- Hardware deduplication adds a parameter of a type that is not registered. -/
theorem Coded.deduplicated {rospec : LLRPROSpec} (hcoded : Coded rospec)
    (hnone : rospec.roReportSpec.customParameter = []) (seconds : Option ℤ) :
    Coded (LLRPROSpec.deduplicated rospec seconds) := by
  cases seconds with
  | none => exact hcoded
  | some seconds =>
    refine ⟨hcoded.state, hcoded.start, hcoded.stop, fun parameter hparameter => ?_⟩
    have hperiodic : parameter = ⟨vendorIdMotorola, 125, [1]⟩ := by
      change parameter ∈ rospec.roReportSpec.customParameter ++ _ at hparameter
      rw [hnone] at hparameter
      exact List.mem_singleton.mp hparameter
    rw [hperiodic]
    exact ⟨by decide, by decide, by decide +kernel⟩

/-! ## From settings -/

section Settings

variable {readerMode : Option ReaderMode} {settings : ROSpecSettings} {masks : List String}

/-- Lists with the same values have the same entry. -/
theorem listed_congr {α β : Type} (key : String) {value : α → Value} {other : β → Value}
    {items : List α} {others : List β} (hvalues : items.map value = others.map other) :
    listed key value items = listed key other others := by
  have hempty : items.isEmpty = others.isEmpty := by
    rw [← List.isEmpty_map (f := value), hvalues, List.isEmpty_map]
  unfold listed
  rw [hempty, hvalues]

theorem optional_map {α β : Type} (key : String) (value : β → Value) (f : α → β)
    (found : Option α) : optional key value (found.map f) = optional key (value ∘ f) found := by
  cases found <;> rfl

/-- The Tari of the mode's RF control is the configured one where the mode has it. -/
theorem rfControl_reading (readerMode : Option ReaderMode) (settings : ROSpecSettings) :
    optional "C1G2RFControl" C1G2RFControl.value (rfControl readerMode settings.tari) =
      optional "C1G2RFControl" settings.rfControlReading readerMode := by
  have htari : ∀ mode : ReaderMode,
      (settings.tari.filter fun tari => mode.minTari ≤ tari && tari ≤ mode.maxTari).getD 0 =
        settings.tariIn mode := by
    intro mode
    unfold ROSpecSettings.tariIn
    cases settings.tari with
    | none => rfl
    | some tari =>
      by_cases hrange : mode.minTari ≤ tari ∧ tari ≤ mode.maxTari
      · simp [Option.filter, hrange]
      · simp [Option.filter, hrange]
  unfold rfControl
  rw [optional_map]
  congr 1
  funext mode
  rw [Function.comp_apply, C1G2RFControl.value, htari]
  rfl

theorem frequencies_reading (settings : ROSpecSettings) :
    optional "ImpinjFixedFrequencyList" ImpinjFixedFrequencyList.value
        (fixedFrequencyList settings settings.channels) =
      optional "ImpinjFixedFrequencyList" ROSpecSettings.frequenciesReading
        settings.fixedFrequencies := by
  unfold fixedFrequencyList ROSpecSettings.fixedFrequencies
  cases settings.impinjFixedFrequency with
  | false => rfl
  | true =>
    cases settings.frequencies.automatic with
    | none => by_cases hseveral : 1 < settings.channels.length <;> simp [hseveral] <;> rfl
    | some automatic =>
      cases automatic with
      | true => rfl
      | false => by_cases hseveral : 1 < settings.channels.length <;> simp [hseveral] <;> rfl

/-- The command of an antenna has what is configured for all of them. -/
theorem command_reading (hmasks : masks.Nodup) (channel antenna power : ℤ) :
    (antennaConfiguration readerMode (settings.iterating masks) channel settings.channels antenna
      power).c1G2InventoryCommand.reading = settings.commandReading readerMode masks := by
  have hfilters : ((settings.iterating masks).tagFilterMask.getD []).dedup = masks :=
    List.dedup_eq_self.mpr hmasks
  unfold antennaConfiguration C1G2InventoryCommand.reading ROSpecSettings.commandReading
  dsimp only
  rw [hfilters, listed_congr _ List.map_map]
  change mapping (_ ++ _ ++ optional _ _ (rfControl readerMode settings.tari) ++ _ ++ _ ++
    optional _ _ (fixedFrequencyList settings settings.channels)) = _
  rw [rfControl_reading, frequencies_reading]
  rfl

/-- Every antenna comes back with its own power. -/
theorem antennas_reading (hmasks : masks.Nodup) {powers : Dict ℤ ℤ}
    (hpowers : antennaPowers settings = .ok powers) {channel : ℤ} {others : List ℤ}
    (hchannels : settings.channels = channel :: others)
    {antennas : List AntennaConfiguration}
    (hantennas : settings.antennas.mapM (fun antenna => do
      let power ← (powers.get? antenna).elim
        (.error (.keyError s!"{antenna}") : Except Exn ℤ) .ok
      .ok (antennaConfiguration readerMode (settings.iterating masks) channel
        (channel :: others) antenna power)) = .ok antennas) :
    antennas.map AntennaConfiguration.reading =
      settings.antennas.map (settings.antennaReading readerMode masks) := by
  have hpower : ∀ antenna power, powers.get? antenna = some power →
      power = settings.powerOf antenna := by
    intro antenna power hget
    unfold antennaPowers at hpowers
    unfold ROSpecSettings.powerOf
    cases hsetting : settings.txPower with
    | index index =>
      rw [hsetting] at hpowers
      cases hpowers
      rw [Dict.ofList, Dict.get?_update, Dict.get?_empty, Option.or_none] at hget
      obtain ⟨entry, hentry, heq⟩ := Option.map_eq_some_iff.mp hget
      have hmem := List.mem_reverse.mp (List.mem_of_find?_eq_some hentry)
      obtain ⟨_, -, rfl⟩ := List.mem_map.mp hmem
      exact heq.symm
    | perAntenna indexes =>
      rw [hsetting] at hpowers
      dsimp only at hpowers ⊢
      split at hpowers
      · cases hpowers
        rw [Dict.getD, hget]
        rfl
      · cases hpowers
  refine map_mapM (fun antenna configuration hselect => ?_) hantennas
  obtain ⟨power, hget, hmake⟩ := bind_eq_ok_iff.mp hselect
  cases hmake
  cases hsome : powers.get? antenna with
  | none =>
    rw [hsome] at hget
    cases hget
  | some found =>
    rw [hsome] at hget
    cases hget
    rw [AntennaConfiguration.reading, ← hchannels, command_reading hmasks,
      ROSpecSettings.antennaReading, ← hpower antenna power hsome, hchannels]
    rfl

/-- The triggers stop the inventory as configured. -/
theorem stop_reading (settings : ROSpecSettings) :
    (durationTrigger settings.durationSec).roSpecValue =
        mapping [("ROSpecStopTriggerType",
            .text (if settings.durationSec.isSome then "Duration" else "Null")),
          ("DurationTriggerValue", .int settings.durationMs)] ∧
      (aiSpecTrigger settings).aiSpecReading = settings.stopReading := by
  unfold aiSpecTrigger StopTrigger.aiSpecReading ROSpecSettings.stopReading
    ROSpecSettings.durationMs
  cases settings.durationSec with
  | none => cases settings.reportEveryNTags <;> exact ⟨rfl, rfl⟩
  | some seconds => cases settings.reportEveryNTags <;> exact ⟨rfl, rfl⟩

/-- A configured report field replaces the one that is asked for without it. -/
theorem get?_reportSelector (settings : ROSpecSettings) (name : String) :
    (baseTagReportContentSelector.update
      ((settings.tagContentSelector.map Dict.entries).getD [])).get? name =
        settings.selected name := by
  unfold ROSpecSettings.selected
  cases settings.tagContentSelector with
  | none => rfl
  | some selector => exact Dict.get?_update_entries _ _ _

theorem impinj_reading {settings : ROSpecSettings} {impinj : Option ImpinjTagReportContentSelector}
    (himpinj : impinjReportSelector settings.impinjTagContentSelector = .ok impinj) :
    optional "ImpinjTagReportContentSelector" ImpinjTagReportContentSelector.reading impinj =
      optional "ImpinjTagReportContentSelector" ROSpecSettings.impinjReading
        (settings.impinjTagContentSelector.filter fun flags => !flags.isEmpty) := by
  unfold impinjReportSelector at himpinj
  cases hflags : settings.impinjTagContentSelector with
  | none =>
    rw [hflags] at himpinj
    cases himpinj
    rfl
  | some flags =>
    rw [hflags] at himpinj
    dsimp only at himpinj
    split at himpinj
    · rename_i hempty
      cases himpinj
      simp [optional, hempty]
    · rename_i hnonempty
      obtain ⟨phase, hphase, himpinj⟩ := bind_eq_ok_iff.mp himpinj
      obtain ⟨rssi, hrssi, himpinj⟩ := bind_eq_ok_iff.mp himpinj
      obtain ⟨doppler, hdoppler, himpinj⟩ := bind_eq_ok_iff.mp himpinj
      cases himpinj
      have hkey : ∀ (name : String) (flag : Bool), key name (flags.get? name) = .ok flag →
          flags.getD name false = flag := by
        intro name flag hget
        unfold key at hget
        rw [Dict.getD]
        cases hfound : flags.get? name with
        | none =>
          rw [hfound] at hget
          cases hget
        | some found =>
          rw [hfound] at hget
          cases hget
          rfl
      rw [Option.filter_some_pos (by simpa using hnonempty)]
      simp only [optional, Option.toList_some, List.map_cons, List.map_nil,
        ImpinjTagReportContentSelector.reading, ROSpecSettings.impinjReading,
        hkey _ _ hphase, hkey _ _ hrssi, hkey _ _ hdoppler]

theorem selector_reading {spec : ROReportSpec}
    (hselector : ∀ name, spec.tagReportContentSelector.get? name = settings.selected name) :
    spec.selectorReading = settings.selectorReading := by
  unfold ROReportSpec.selectorReading ROReportSpec.selects ROSpecSettings.selectorReading
  simp only [hselector]

/-- The reports are those that the settings ask for, with or without hardware
deduplication. -/
theorem report_reading {spec : ROReportSpec} {seconds : Option ℤ}
    (hn : spec.n = seconds.getD (settings.roReportEveryNTags.getD 0))
    (htrigger : spec.roReportTrigger =
      if seconds.isSome then "None" else "Upon_N_Tags_Or_End_Of_AISpec")
    (hselector : spec.tagReportContentSelector =
      baseTagReportContentSelector.update
        ((settings.tagContentSelector.map Dict.entries).getD []))
    (himpinj : impinjReportSelector settings.impinjTagContentSelector =
      .ok spec.impinjTagReportContentSelector)
    (hmoto : spec.motoTagReportContentSelector =
      settings.zebraTagContentSelector.filter fun selector => !selector.isEmpty)
    (hcustom : spec.customParameter =
      if seconds.isSome then [⟨vendorIdMotorola, 125, [1]⟩] else []) :
    spec.reading = settings.reportReading seconds := by
  have hselected : spec.selectorReading = settings.selectorReading :=
    selector_reading fun name => by rw [hselector, get?_reportSelector]
  rw [ROReportSpec.reading, ROSpecSettings.reportReading, hn, htrigger, hselected,
    impinj_reading himpinj, hmoto, hcustom]

theorem whole_reading {rospec : LLRPROSpec} {roSpecId : ℕ} {seconds : Option ℤ}
    (hid : rospec.roSpecId = roSpecId) (hpriority : rospec.priority = 0)
    (hstate : rospec.currentState = "Disabled")
    (hstart : rospec.roSpecStartTriggerType = "Immediate")
    (hstop : rospec.roSpecStopTrigger.roSpecValue =
      mapping [("ROSpecStopTriggerType",
          .text (if settings.durationSec.isSome then "Duration" else "Null")),
        ("DurationTriggerValue", .int settings.durationMs)])
    (haiSpec : rospec.aiSpec.reading = settings.aiSpecReading readerMode masks)
    (hreport : rospec.roReportSpec.reading = settings.reportReading seconds) :
    rospec.reading = settings.inventoryReading readerMode roSpecId masks seconds := by
  unfold LLRPROSpec.reading LLRPROSpec.boundaryReading ROSpecSettings.inventoryReading
    ROSpecSettings.boundaryReading
  rw [hid, hpriority, hstate, hstart, hstop, haiSpec, hreport]
  rfl

/-- What is built from settings is read back as these say. -/
theorem reading_of_makeROSpec {roSpecId : ℕ} {rospec : LLRPROSpec} (hmasks : masks.Nodup)
    (hmake : makeROSpec readerMode roSpecId (settings.iterating masks) = .ok rospec)
    (seconds : Option ℤ) :
    (LLRPROSpec.deduplicated rospec seconds).reading =
      settings.inventoryReading readerMode roSpecId masks seconds := by
  unfold makeROSpec at hmake
  dsimp only at hmake
  split at hmake
  · cases hmake
  split at hmake
  · cases hmake
  obtain ⟨powers, hpowers, hmake⟩ := bind_eq_ok_iff.mp hmake
  obtain ⟨impinj, himpinj, hmake⟩ := bind_eq_ok_iff.mp hmake
  cases hchannels : settings.channels with
  | nil =>
    have hnone : (settings.iterating masks).frequencies.channelList.getD
        [Config.defaultChannelIndex] = [] := hchannels
    rw [hnone] at hmake
    cases hmake
  | cons channel others =>
    have hsome : (settings.iterating masks).frequencies.channelList.getD
        [Config.defaultChannelIndex] = channel :: others := hchannels
    rw [hsome] at hmake
    obtain ⟨antennas, hantennas, hmake⟩ := bind_eq_ok_iff.mp hmake
    obtain ⟨hduration, hstop⟩ := stop_reading settings
    have haiSpec : AISpec.reading
        { antennaId := settings.antennas
          aiSpecStopTrigger := aiSpecTrigger settings
          antennaConfiguration := antennas } = settings.aiSpecReading readerMode masks := by
      unfold AISpec.reading AISpec.inventoryParameterReading ROSpecSettings.aiSpecReading
      dsimp only
      rw [hstop, listed_congr _ (antennas_reading hmasks hpowers hchannels hantennas)]
      rfl
    cases hmake
    cases seconds with
    | none =>
      exact whole_reading rfl rfl rfl rfl hduration haiSpec
        (report_reading rfl rfl rfl himpinj rfl rfl)
    | some seconds =>
      exact whole_reading rfl rfl rfl rfl hduration haiSpec
        (report_reading rfl rfl rfl himpinj rfl rfl)

/-- The order in which the model iterates the masks is one of those in question. -/
theorem makeROSpec_iterating (readerMode : Option ReaderMode) (roSpecId : ℕ)
    (settings : ROSpecSettings) :
    makeROSpec readerMode roSpecId
        (settings.iterating (settings.tagFilterMask.getD []).dedup) =
      makeROSpec readerMode roSpecId settings := by
  have hconfiguration : antennaConfiguration readerMode
      (settings.iterating (settings.tagFilterMask.getD []).dedup) =
        antennaConfiguration readerMode settings := by
    funext channel channels antenna power
    unfold antennaConfiguration ROSpecSettings.iterating
    dsimp only [Option.getD_some]
    rw [List.dedup_idem]
    rfl
  unfold makeROSpec
  rw [hconfiguration]
  rfl

end Settings

/-- What the client sends as its inventory is read back as its settings say, whatever these
are, the mode and the bytes behind it, with and without hardware deduplication, and in
whatever order the set of the masks is iterated. -/
theorem decodeParam_of_makeROSpec {readerMode : Option ReaderMode} {roSpecId : ℕ}
    {settings : ROSpecSettings} {masks : List String}
    (hmasks : masks.Perm (settings.tagFilterMask.getD []).dedup) {rospec : LLRPROSpec}
    (hmake : makeROSpec readerMode roSpecId (settings.iterating masks) = .ok rospec)
    (seconds : Option ℤ) {bytes : List UInt8}
    (hencode : registry.encodeParam "ROSpec"
      (LLRPROSpec.deduplicated rospec seconds).value = .ok bytes) (tail : List UInt8) :
    registry.decodeParam registry.walk (bytes ++ tail) =
      .ok (some ⟨some "ROSpec", settings.inventoryReading readerMode roSpecId masks seconds,
        bytes.length⟩) := by
  have hnodup : masks.Nodup := hmasks.nodup_iff.mpr (List.nodup_dedup _)
  have hreading := reading_of_makeROSpec hnodup hmake seconds
  obtain ⟨hcoded, hnone⟩ := coded_of_makeROSpec hmake
  have hreads := reads_roSpec (hcoded.deduplicated hnone seconds) _ bytes hencode
  rw [hreading] at hreads
  rcases readsAs_of_encodeParamWith registry_mirrors hencode with
    ⟨-, hread⟩ | ⟨-, outcome, hread, hdecode⟩
  · cases hreads.symm.trans hread
  · rw [hdecode]
    cases outcome with
    | error raised => cases hreads.symm.trans hread
    | ok reading =>
      cases hreads.symm.trans hread
      rfl

/-- One antenna, one mask, and the defaults. -/
def maskedSettings : ROSpecSettings where
  durationSec := none
  reportEveryNTags := none
  reportTimeoutMs := 0
  roReportEveryNTags := none
  txPower := .index 81
  antennas := [1]
  tagContentSelector := none
  session := 2
  tari := none
  tagPopulation := 4
  frequencies := {}
  impinjFixedFrequency := false
  zebraTagContentSelector := none
  tagFilterMask := some ["E280"]
  impinjSearchMode := none
  impinjTagContentSelector := none

def maskedROSpec : LLRPROSpec where
  roSpecId := 1
  roSpecStopTrigger := {}
  aiSpec :=
    { antennaId := [1]
      aiSpecStopTrigger := {}
      antennaConfiguration :=
        [antennaConfiguration none maskedSettings Config.defaultChannelIndex
          [Config.defaultChannelIndex] 1 81] }
  roReportSpec :=
    { tagReportContentSelector := baseTagReportContentSelector
      impinjTagReportContentSelector := none
      motoTagReportContentSelector := none }

/-- Its bytes with hardware deduplication over five seconds. -/
def maskedBytes : List UInt8 :=
  [0, 177, 0, 131, 0, 0, 0, 1, 0, 0, 0, 178, 0, 18, 0, 179, 0, 5, 1, 0, 182, 0, 9, 0, 0, 0, 0,
    0, 0, 183, 0, 72, 0, 1, 0, 1, 0, 184, 0, 9, 0, 0, 0, 0, 0, 0, 186, 0, 55, 0, 1, 1, 0, 222,
    0, 48, 0, 1, 0, 224, 0, 10, 0, 1, 0, 1, 0, 81, 1, 74, 0, 32, 0, 1, 75, 0, 16, 0, 1, 76, 0,
    11, 64, 0, 32, 0, 16, 226, 128, 1, 80, 0, 11, 128, 0, 4, 0, 0, 0, 0, 0, 237, 0, 31, 0, 0, 5,
    0, 238, 0, 11, 149, 128, 1, 92, 0, 5, 0, 3, 255, 0, 13, 0, 0, 0, 161, 0, 0, 0, 125, 1]

theorem decodeParam_of_makeROSpec_masked :
    registry.decodeParam registry.walk (maskedBytes ++ []) =
      .ok (some ⟨some "ROSpec", maskedSettings.inventoryReading none 1 ["E280"] (some 5), 131⟩) :=
  have hmake : makeROSpec none 1 (maskedSettings.iterating ["E280"]) = .ok maskedROSpec := by rfl
  have hencode : registry.encodeParam "ROSpec"
      (LLRPROSpec.deduplicated maskedROSpec (some 5)).value = .ok maskedBytes := by
    decide +kernel
  decodeParam_of_makeROSpec (.refl _) hmake (some 5) hencode []

end Sllurp.Codec
