/-
# Decoders of bodies

What every decoder in the registry keeps to. It fails only with an exception that
the decoder of parameters expects; and when it leaves a rest to the walker, the
rest is part of the body, the walk goes on under the decoder's own name, and the
fields it starts with are none of those that the walk appends to.
-/

import Sllurp.Codec.Registry
import Sllurp.Codec.Walker

namespace Sllurp.Codec

open Sllurp.Foundations Sllurp.Foundations.Wire Sllurp.Foundations.Outcome Sllurp.Protocol

/-! ## Reading -/

theorem yields_unpackStruct (formats : List Format) (data : List UInt8) :
    Yields (fun _ => True) Expected (unpackStruct formats data) := by
  unfold unpackStruct
  cases unpack formats data with
  | none => exact trivial
  | some record => exact trivial

theorem yields_unpackHead (formats : List Format) (data : List UInt8) :
    Yields (fun _ => True) Expected (unpackHead formats data) :=
  yields_unpackStruct _ _

theorem yields_decodeArray (format : Format) (count : ℕ) (data : List UInt8) :
    Yields (fun _ => True) Expected (decodeArray format count data) := by
  induction count generalizing data with
  | zero => exact trivial
  | succ count ih =>
    rw [decodeArray]
    exact (yields_unpackStruct _ _).bind fun ⟨_, _⟩ _ => (ih _).bind fun _ _ => trivial

theorem yields_arrayFields (name : String) (format : Format) (count : ℤ) (data : List UInt8) :
    Yields (fun _ => True) Expected (arrayFields name format count data) := by
  unfold arrayFields
  split
  · exact trivial
  · exact (yields_decodeArray _ _ _).bind fun _ _ => trivial

theorem yields_name (names : Enumeration) (code : ℤ) :
    Yields (fun _ => True) Expected (names.name code) := by
  unfold Enumeration.name
  split
  · exact trivial
  · exact trivial

theorem yields_basicOpSpecResult (data : List UInt8) :
    Yields (fun _ => True) Expected (basicOpSpecResult data) :=
  (yields_unpackHead _ _).bind fun ⟨_, _, _⟩ _ => trivial

/-! ## Generated decoders -/

theorem keeps_value {decode : Decoder} {name : String}
    (hvalue : ∀ body, Yields (fun decoded => ∃ value, decoded = .value value) Expected
      (decode name body)) : Keeps decode name [] := by
  intro body
  apply (hvalue body).mono
  · rintro _ ⟨value, rfl⟩
    exact .value value
  · exact fun _ => id

theorem basicParamDecodeGenerator_keeps (formats : List Format) (args : List String)
    (name : String) : Keeps (basicParamDecodeGenerator formats args) name [] := by
  apply keeps_value
  intro body
  apply (yields_unpackStruct formats body).bind
  intro record _
  split
  · exact ⟨_, rfl⟩
  · exact ⟨_, rfl⟩

theorem basicAutoParamDecodeGenerator_keeps (formats : List Format) (args : List String)
    (name : String) : Keeps (basicAutoParamDecodeGenerator formats args) name args := by
  intro body
  apply (yields_unpackStruct formats _).bind
  intro record _
  apply Leaves.walk
  · intro key hkey
    obtain ⟨entry, hentry, rfl⟩ := List.mem_map.mp hkey
    exact (List.of_mem_zip hentry).1
  · exact List.drop_suffix _ _

theorem decodeAll_keeps (name : String) : Keeps decodeAll name [] := by
  intro body
  exact Leaves.walk [] body id (fun _ hkey => hkey) List.suffix_rfl

/-! ## Standard decoders -/

/-- The rest of a body, behind fields with these names. -/
theorem leaves_drop {name : String} {names : List String} {body : List UInt8}
    {entries : List (String × Value)} (count : ℕ) (hnames : entries.map Prod.fst = names) :
    Leaves name names body (.rest name (.ofList entries) (body.drop count)) := by
  apply Leaves.walk
  · rw [hnames]
    exact fun _ hkey => hkey
  · exact List.drop_suffix _ _

theorem leaves_drop_drop {name : String} {names : List String} {body : List UInt8}
    {entries : List (String × Value)} (count more : ℕ) (hnames : entries.map Prod.fst = names) :
    Leaves name names body (.rest name (.ofList entries) ((body.drop count).drop more)) := by
  rw [List.drop_drop]
  exact leaves_drop _ hnames

theorem decodeFrequencyInformation_keeps :
    Keeps decodeFrequencyInformation "FrequencyInformation" ["Hopping"] := by
  intro body
  apply (yields_unpackHead _ _).bind
  rintro ⟨_, _⟩ -
  exact leaves_drop _ rfl

theorem decodeFrequencyHopTable_keeps (name : String) : Keeps decodeFrequencyHopTable name [] := by
  apply keeps_value
  intro body
  apply (yields_unpackHead _ _).bind
  rintro ⟨_, _, _, _⟩ -
  apply (yields_arrayFields _ _ _ _).bind
  intro _ _
  exact ⟨_, rfl⟩

theorem decodeFixedFrequencyTable_keeps (name : String) :
    Keeps decodeFixedFrequencyTable name [] := by
  apply keeps_value
  intro body
  apply (yields_unpackHead _ _).bind
  rintro ⟨_, _⟩ -
  apply (yields_arrayFields _ _ _ _).bind
  intro _ _
  exact ⟨_, rfl⟩

theorem decodeC1G2LLRPCapabilities_keeps (name : String) :
    Keeps decodeC1G2LLRPCapabilities name [] := by
  apply keeps_value
  intro body
  apply (yields_unpackStruct _ _).bind
  rintro ⟨_, _, _⟩ -
  exact ⟨_, rfl⟩

theorem decodeUHFC1G2RFModeTableEntry_keeps (name : String) :
    Keeps decodeUHFC1G2RFModeTableEntry name [] := by
  apply keeps_value
  intro body
  apply (yields_unpackStruct _ _).bind
  rintro ⟨_, _, _, _, _, _, _, _, _, _, _⟩ -
  exact ⟨_, rfl⟩

theorem decodeLLRPCapabilities_keeps (name : String) : Keeps decodeLLRPCapabilities name [] := by
  apply keeps_value
  intro body
  apply (yields_unpackStruct _ _).bind
  rintro ⟨_, _, _, _, _, _, _, _, _⟩ -
  exact ⟨_, rfl⟩

theorem decodePerAntennaAirProtocol_keeps (name : String) :
    Keeps decodePerAntennaAirProtocol name [] := by
  apply keeps_value
  intro body
  apply (yields_unpackHead _ _).bind
  rintro ⟨_, _, _⟩ -
  apply (yields_arrayFields _ _ _ _).bind
  intro _ _
  exact ⟨_, rfl⟩

theorem decodeGeneralDeviceCapabilities_keeps :
    Keeps decodeGeneralDeviceCapabilities "GeneralDeviceCapabilities"
      ["MaxNumberOfAntennaSupported", "DeviceManufacturerName", "ModelName",
        "FirmwareVersionByteCount", "CanSetAntennaProperties", "HasUTCClockCapability",
        "ReaderFirmwareVersion"] := by
  intro body
  apply (yields_unpackHead _ _).bind
  rintro ⟨_, _, _, _, _, _⟩ -
  exact leaves_drop _ rfl

theorem decodeGPITriggerValue_keeps (name : String) : Keeps decodeGPITriggerValue name [] := by
  apply keeps_value
  intro body
  apply (yields_unpackHead _ _).bind
  rintro ⟨_, _, _, _⟩ -
  exact ⟨_, rfl⟩

theorem decodeROSpecStopTrigger_keeps :
    Keeps decodeROSpecStopTrigger "ROSpecStopTrigger"
      ["ROSpecStopTriggerType", "DurationTriggerValue"] := by
  intro body
  apply (yields_unpackHead _ _).bind
  rintro ⟨_, _, _⟩ -
  apply (yields_name _ _).bind
  intro _ _
  exact leaves_drop _ rfl

theorem decodeAISPec_keeps : Keeps decodeAISPec "AISpec" ["AntennaCount", "AntennaID"] := by
  intro body
  apply (yields_unpackHead _ _).bind
  rintro ⟨_, _⟩ -
  apply (yields_decodeArray _ _ _).bind
  intro _ _
  exact leaves_drop _ rfl

theorem decodeTagObservationTrigger_keeps (name : String) :
    Keeps decodeTagObservationTrigger name [] := by
  apply keeps_value
  intro body
  apply (yields_unpackStruct _ _).bind
  rintro ⟨_, _, _, _, _, _, _⟩ -
  apply (yields_name _ _).bind
  intro _ _
  exact ⟨_, rfl⟩

theorem decodeC1G2InventoryCommand_keeps :
    Keeps decodeC1G2InventoryCommand "C1G2InventoryCommand" ["TagInventoryStateAware"] := by
  intro body
  apply (yields_unpackHead _ _).bind
  rintro ⟨_, _⟩ -
  exact leaves_drop _ rfl

theorem decodeC1G2SingulationControl_keeps :
    Keeps decodeC1G2SingulationControl "C1G2SingulationControl"
      ["TagPopulation", "TagTransitTime", "Session"] := by
  intro body
  apply (yields_unpackHead _ _).bind
  rintro ⟨_, _, _, _⟩ -
  exact leaves_drop _ rfl

theorem decodeC1G2TagInventoryStateAwareSingulationAction_keeps (name : String) :
    Keeps decodeC1G2TagInventoryStateAwareSingulationAction name [] := by
  apply keeps_value
  intro body
  apply (yields_unpackStruct _ _).bind
  rintro ⟨_, _⟩ -
  exact ⟨_, rfl⟩

theorem decodeIdentification_keeps (name : String) : Keeps decodeIdentification name [] := by
  apply keeps_value
  intro body
  apply (yields_unpackHead _ _).bind
  rintro ⟨_, _, _⟩ -
  exact ⟨_, rfl⟩

theorem decodeGPOEvent_keeps (name : String) : Keeps decodeGPOEvent name [] := by
  apply keeps_value
  intro body
  apply (yields_unpackStruct _ _).bind
  rintro ⟨_, _, _⟩ -
  exact ⟨_, rfl⟩

theorem decodeKeepaliveSpec_keeps (name : String) : Keeps decodeKeepaliveSpec name [] := by
  apply keeps_value
  intro body
  apply (yields_unpackStruct _ _).bind
  rintro ⟨_, _, _⟩ -
  apply (yields_name _ _).bind
  intro _ _
  exact ⟨_, rfl⟩

theorem decodeAntennaProperties_keeps (name : String) : Keeps decodeAntennaProperties name [] := by
  apply keeps_value
  intro body
  apply (yields_unpackStruct _ _).bind
  rintro ⟨_, _, _, _⟩ -
  exact ⟨_, rfl⟩

theorem decodeGPIPortCurrentState_keeps (name : String) :
    Keeps decodeGPIPortCurrentState name [] := by
  apply keeps_value
  intro body
  apply (yields_unpackStruct _ _).bind
  rintro ⟨_, _, _, _⟩ -
  exact ⟨_, rfl⟩

theorem decodeEventsAndReports_keeps (name : String) : Keeps decodeEventsAndReports name [] := by
  apply keeps_value
  intro body
  apply (yields_unpackStruct _ _).bind
  rintro ⟨_, _⟩ -
  exact ⟨_, rfl⟩

theorem decodeROReportSpec_keeps :
    Keeps decodeROReportSpec "ROReportSpec" ["N", "ROReportTrigger"] := by
  intro body
  apply (yields_unpackHead _ _).bind
  rintro ⟨_, _, _⟩ -
  apply (yields_name _ _).bind
  intro _ _
  exact leaves_drop _ rfl

theorem decodeEventNotificationState_keeps (name : String) :
    Keeps decodeEventNotificationState name [] := by
  apply keeps_value
  intro body
  apply (yields_unpackStruct _ _).bind
  rintro ⟨_, _, _⟩ -
  apply (yields_name _ _).bind
  intro _ _
  exact ⟨_, rfl⟩

theorem decodeTagReportContentSelector_keeps :
    Keeps decodeTagReportContentSelector "TagReportContentSelector"
      tagReportContentSelectorNames := by
  intro body
  apply (yields_unpackHead _ _).bind
  rintro ⟨_, _⟩ -
  exact leaves_drop _ rfl

theorem decodeC1G2EPCMemorySelector_keeps (name : String) :
    Keeps decodeC1G2EPCMemorySelector name [] := by
  apply keeps_value
  intro body
  apply (yields_unpackStruct _ _).bind
  rintro ⟨_, _⟩ -
  exact ⟨_, rfl⟩

theorem decodeTagReportData_keeps : Keeps decodeTagReportData "TagReportData" [] := fun body =>
  .walk [] body _ (fun _ hkey => hkey) List.suffix_rfl

theorem decodeBasicOpSpecResult_keeps (name : String) : Keeps decodeBasicOpSpecResult name [] := by
  apply keeps_value
  intro body
  apply (yields_basicOpSpecResult _).bind
  rintro ⟨_, _⟩ -
  exact ⟨_, rfl⟩

theorem decodeWordsResult_keeps (countName wordsName name : String) :
    Keeps (decodeWordsResult countName wordsName) name [] := by
  apply keeps_value
  intro body
  apply (yields_basicOpSpecResult _).bind
  rintro ⟨_, _⟩ -
  apply (yields_unpackHead _ _).bind
  rintro ⟨_, _⟩ -
  exact ⟨_, rfl⟩

theorem decodeC1G2WriteOpSpecResult_keeps (name : String) :
    Keeps decodeC1G2WriteOpSpecResult name [] := by
  apply keeps_value
  intro body
  apply (yields_basicOpSpecResult _).bind
  rintro ⟨_, _⟩ -
  apply (yields_unpackHead _ _).bind
  rintro ⟨_, _⟩ -
  exact ⟨_, rfl⟩

theorem decodeEPCData_keeps (name : String) : Keeps decodeEPCData name [] := by
  apply keeps_value
  intro _
  exact ⟨_, rfl⟩

theorem decodeEPC96_keeps (name : String) : Keeps decodeEPC96 name [] := by
  apply keeps_value
  intro _
  exact ⟨_, rfl⟩

theorem decodeGPIEvent_keeps (name : String) : Keeps decodeGPIEvent name [] := by
  apply keeps_value
  intro body
  apply (yields_unpackStruct _ _).bind
  rintro ⟨_, _, _⟩ -
  exact ⟨_, rfl⟩

theorem decodeROSpecEvent_keeps (name : String) : Keeps decodeROSpecEvent name [] := by
  apply keeps_value
  intro body
  apply (yields_unpackStruct _ _).bind
  rintro ⟨_, _, _, _⟩ -
  exact ⟨_, rfl⟩

theorem decodeReaderExceptionEvent_keeps :
    Keeps decodeReaderExceptionEvent "ReaderExceptionEvent" ["Message"] := by
  intro body
  apply (yields_unpackHead _ _).bind
  rintro ⟨_, _⟩ -
  exact leaves_drop_drop _ _ rfl

theorem decodeRFSurveyEvent_keeps (name : String) : Keeps decodeRFSurveyEvent name [] := by
  apply keeps_value
  intro body
  apply (yields_unpackStruct _ _).bind
  rintro ⟨_, _, _, _⟩ -
  exact ⟨_, rfl⟩

theorem decodeAntennaEvent_keeps (name : String) : Keeps decodeAntennaEvent name [] := by
  apply keeps_value
  intro body
  apply (yields_unpackStruct _ _).bind
  rintro ⟨_, _, _⟩ -
  exact ⟨_, rfl⟩

theorem decodeConnectionAttemptEvent_keeps (name : String) :
    Keeps decodeConnectionAttemptEvent name [] := by
  apply keeps_value
  intro body
  apply (yields_unpackStruct _ _).bind
  rintro ⟨_, _⟩ -
  apply (yields_name _ _).bind
  intro _ _
  exact ⟨_, rfl⟩

theorem decodeFieldError_keeps (name : String) : Keeps decodeFieldError name [] := by
  apply keeps_value
  intro body
  apply (yields_unpackStruct _ _).bind
  rintro ⟨_, _, _⟩ -
  exact ⟨_, rfl⟩

theorem yields_legacySingulation (trailing : List UInt8) :
    Yields (fun _ => True) Expected (legacySingulation trailing) := by
  unfold legacySingulation
  split
  · exact (yields_unpackStruct _ _).bind fun ⟨_, _, _⟩ _ => trivial
  · split
    · exact (yields_unpackStruct _ _).bind fun ⟨_, _, _, _⟩ _ => trivial
    · exact trivial

theorem decodeAISpecEvent_keeps :
    Keeps decodeAISpecEvent "AISpecEvent" ["ROSpecID", "SpecIndex", "EventType"] := by
  intro body
  unfold decodeAISpecEvent
  split
  · exact trivial
  · apply (yields_unpackHead _ _).bind
    rintro ⟨event, roSpecId, specIndex, _⟩ -
    simp only
    split
    · exact trivial
    · apply (yields_legacySingulation _).bind
      intro details _
      cases details with
      | none => exact leaves_drop _ rfl
      | some details => exact .value _

/-- A status may lack its name. -/
theorem decodeLLRPStatus_keeps :
    Keeps decodeLLRPStatus "LLRPStatus" ["StatusCode", "ErrorDescription"] := by
  intro body
  apply (yields_unpackHead _ _).bind
  rintro ⟨code, count, _⟩ -
  apply Leaves.walk
  · intro key hkey
    cases hname : Names.error.name? code with
    | none =>
      rw [hname] at hkey
      exact List.mem_cons_of_mem _ hkey
    | some name =>
      rw [hname] at hkey
      exact hkey
  · rw [List.drop_drop]
    exact List.drop_suffix _ _

theorem decodeParameterError_keeps (typeName : ℤ → Option String) :
    Keeps (decodeParameterError typeName) "ParameterError" ["ParameterType", "ErrorCode"] := by
  intro body
  apply (yields_unpackHead _ _).bind
  rintro ⟨_, _, _⟩ -
  exact leaves_drop _ rfl

/-! ## Vendor decoders -/

theorem decodeChannelList_keeps (modeName listName name : String) :
    Keeps (decodeChannelList modeName listName) name [] := by
  apply keeps_value
  intro body
  apply (yields_unpackHead _ _).bind
  rintro ⟨_, _, _, _⟩ -
  apply (yields_decodeArray _ _ _).bind
  intro _ _
  exact ⟨_, rfl⟩

/-- Strings come under their names, and what comes after them is part of the body. -/
theorem yields_decodeStrings (names : List String) (fields : Fields) (data : List UInt8) :
    Yields (fun result => (∀ key ∈ result.1.keys, key ∈ names ∨ key ∈ fields.keys) ∧
      result.2 <:+ data) Expected (decodeStrings names fields data) := by
  induction names generalizing fields data with
  | nil => exact ⟨fun _ hkey => .inr hkey, List.suffix_rfl⟩
  | cons name names ih =>
    rw [decodeStrings]
    apply (yields_unpackStruct _ _).bind
    rintro ⟨count, _⟩ -
    apply (ih _ _).mono
    · rintro ⟨result, rest⟩ ⟨hkeys, hrest⟩
      refine ⟨?_, ?_⟩
      · intro key hkey
        rcases hkeys key hkey with hname | hset
        · exact .inl (List.mem_cons_of_mem _ hname)
        · rw [Dict.mem_keys_iff, Dict.get?_set] at hset
          by_cases hname : key = name
          · exact .inl (hname ▸ List.mem_cons_self)
          · rw [if_neg hname, ← Dict.mem_keys_iff] at hset
            exact .inr hset
      · rw [List.drop_drop] at hrest
        exact hrest.trans (List.drop_suffix _ _)
    · exact fun _ => id

theorem decodeVersions_keeps (names : List String) (parameter : String) :
    Keeps (decodeVersions names parameter) parameter names := by
  intro body
  apply (yields_decodeStrings names .empty body).bind
  rintro ⟨fields, rest⟩ ⟨hkeys, hrest⟩
  have hentries := @Leaves.walk parameter names body fields.entries rest id
    (fun key hkey => (hkeys key hkey).resolve_right List.not_mem_nil) hrest
  rw [fields.ofList_entries] at hentries
  exact hentries

theorem decodeImpinjFrequencyCapabilities_keeps (name : String) :
    Keeps decodeImpinjFrequencyCapabilities name [] := by
  apply keeps_value
  intro body
  apply (yields_unpackHead _ _).bind
  rintro ⟨_, _⟩ -
  apply (yields_decodeArray _ _ _).bind
  intro _ _
  exact ⟨_, rfl⟩

/-- An identifier of no words has no key for them. -/
theorem decodeImpinjSerializedTID_keeps :
    Keeps decodeImpinjSerializedTID "ImpinjSerializedTID" ["TIDWordCount", "TID"] := by
  intro body
  apply (yields_unpackHead _ _).bind
  rintro ⟨count, _⟩ -
  apply Leaves.walk
  · intro key hkey
    split at hkey
    · exact List.mem_of_mem_take (i := 1) hkey
    · exact hkey
  · exact List.drop_suffix _ _

theorem decodeNmeaSentence_keeps (fieldName name : String) :
    Keeps (decodeNmeaSentence fieldName) name [fieldName] := by
  intro body
  unfold decodeNmeaSentence
  split
  · exact trivial
  · apply (yields_unpackHead _ _).bind
    rintro ⟨count, _⟩ -
    simp only
    split
    · exact trivial
    · exact leaves_drop_drop _ _ rfl

theorem decodeImpinjInventoryConfiguration_keeps :
    Keeps decodeImpinjInventoryConfiguration "ImpinjInventoryConfiguration"
      ["EnableAntDwellTimeLimit", "EnableSelectGapClose"] := by
  intro body
  apply (yields_unpackHead _ _).bind
  rintro ⟨_, _⟩ -
  exact leaves_drop _ rfl

theorem decodeImpinjHubConfiguration_keeps (name : String) :
    Keeps decodeImpinjHubConfiguration name [] := by
  apply keeps_value
  intro body
  apply (yields_unpackHead _ _).bind
  rintro ⟨_, _, _, _⟩ -
  exact ⟨_, rfl⟩

theorem decodeImpinjIntelligentAntennaManagement_keeps (name : String) :
    Keeps decodeImpinjIntelligentAntennaManagement name [] := by
  apply keeps_value
  intro body
  apply (yields_unpackStruct _ _).bind
  rintro ⟨_, _⟩ -
  exact ⟨_, rfl⟩

theorem decodeImpinjTIDParity_keeps (name : String) : Keeps decodeImpinjTIDParity name [] := by
  apply keeps_value
  intro body
  apply (yields_unpackHead _ _).bind
  rintro ⟨_, _⟩ -
  exact ⟨_, rfl⟩

theorem decodeImpinjAntennaEventConfiguration_keeps :
    Keeps decodeImpinjAntennaEventConfiguration "ImpinjAntennaEventConfiguration"
      ["EnableAntennaAttemptNotification"] := by
  intro body
  apply (yields_unpackHead _ _).bind
  rintro ⟨_, _⟩ -
  exact leaves_drop _ rfl

theorem decodeImpinjRFPowerSweep_keeps (name : String) :
    Keeps decodeImpinjRFPowerSweep name [] := by
  apply keeps_value
  intro body
  apply (yields_unpackStruct _ _).bind
  rintro ⟨_, _, _, _⟩ -
  exact ⟨_, rfl⟩

theorem decodeVersionFlags_keeps (names : List (String × ℕ)) (name : String) :
    Keeps (decodeVersionFlags names) name [] := by
  apply keeps_value
  intro body
  apply (yields_unpackHead _ _).bind
  rintro ⟨_, _, _⟩ -
  exact ⟨_, rfl⟩

theorem decodeMotoAutonomousState_keeps (name : String) :
    Keeps decodeMotoAutonomousState name [] := by
  apply keeps_value
  intro body
  apply (yields_unpackHead _ _).bind
  rintro ⟨_, _⟩ -
  exact ⟨_, rfl⟩

theorem decodeMotoDefaultSpec_keeps :
    Keeps decodeMotoDefaultSpec "MotoDefaultSpec" ["UseDefaultSpecForAutoMode"] := by
  intro body
  apply (yields_unpackHead _ _).bind
  rintro ⟨_, _⟩ -
  exact leaves_drop _ rfl

theorem decodeMotoTagEventSelector_keeps (name : String) :
    Keeps decodeMotoTagEventSelector name [] := by
  apply keeps_value
  intro body
  apply (yields_unpackHead _ _).bind
  rintro ⟨_, _, _, _, _, _, _⟩ -
  apply (yields_name _ _).bind
  intro _ _
  apply (yields_name _ _).bind
  intro _ _
  apply (yields_name _ _).bind
  intro _ _
  exact ⟨_, rfl⟩

theorem decodeMotoTagReportMode_keeps (name : String) : Keeps decodeMotoTagReportMode name [] := by
  apply keeps_value
  intro body
  apply (yields_unpackHead _ _).bind
  rintro ⟨_, _⟩ -
  apply (yields_name _ _).bind
  intro _ _
  exact ⟨_, rfl⟩

theorem decodeMotoTagReportContentSelector_keeps (name : String) :
    Keeps decodeMotoTagReportContentSelector name [] := by
  apply keeps_value
  intro body
  apply (yields_unpackHead _ _).bind
  rintro ⟨_, _⟩ -
  exact ⟨_, rfl⟩

theorem decodeMotoTagPhase_keeps (name : String) : Keeps decodeMotoTagPhase name [] := by
  apply keeps_value
  intro body
  apply (yields_unpackHead _ _).bind
  rintro ⟨_, _⟩ -
  exact ⟨_, rfl⟩

theorem decodeMotoFilterTimeRange_keeps :
    Keeps decodeMotoFilterTimeRange "MotoFilterTimeRange" ["TimeFormat", "Match"] := by
  intro body
  apply (yields_unpackHead _ _).bind
  rintro ⟨_, _, _⟩ -
  apply (yields_name _ _).bind
  intro _ _
  exact leaves_drop _ rfl

theorem decodeMotoFilterRSSIRange_keeps :
    Keeps decodeMotoFilterRSSIRange "MotoFilterRSSIRange" ["Match"] := by
  intro body
  apply (yields_unpackHead _ _).bind
  rintro ⟨_, _⟩ -
  apply (yields_name _ _).bind
  intro _ _
  exact leaves_drop _ rfl

theorem decodeMotoFilterRule_keeps : Keeps decodeMotoFilterRule "MotoFilterRule" ["RuleType"] := by
  intro body
  apply (yields_unpackHead _ _).bind
  rintro ⟨_, _⟩ -
  apply (yields_name _ _).bind
  intro _ _
  exact leaves_drop _ rfl

theorem decodeMotoFilterList_keeps : Keeps decodeMotoFilterList "MotoFilterList" ["UseFilter"] := by
  intro body
  apply (yields_unpackHead _ _).bind
  rintro ⟨_, _⟩ -
  exact leaves_drop _ rfl

theorem decodeMotoFilterTagList_keeps :
    Keeps decodeMotoFilterTagList "MotoFilterTagList" ["Match"] := by
  intro body
  apply (yields_unpackHead _ _).bind
  rintro ⟨_, _⟩ -
  apply (yields_name _ _).bind
  intro _ _
  exact leaves_drop _ rfl

theorem decodeMotoPersistenceSaveParams_keeps (name : String) :
    Keeps decodeMotoPersistenceSaveParams name [] := by
  apply keeps_value
  intro body
  apply (yields_unpackHead _ _).bind
  rintro ⟨_, _⟩ -
  exact ⟨_, rfl⟩

theorem decodeMotoCustomCommandOptions_keeps (name : String) :
    Keeps decodeMotoCustomCommandOptions name [] := by
  apply keeps_value
  intro body
  apply (yields_unpackHead _ _).bind
  rintro ⟨_, _⟩ -
  exact ⟨_, rfl⟩

/-! ## The registry -/

theorem sound {name : String} {layout : Layout} {decode : Decoder} {encode : Option Encoder}
    {names : List String} (hkeeps : Keeps decode name names)
    (hnames : ∀ key ∈ decodeErrorParname :: layout.nFields, key ∉ names) :
    SoundEntry (name, { layout with decode := some decode, encode }) := by
  rintro _ ⟨rfl⟩
  exact ⟨names, hkeeps, hnames⟩

/-- A decoder that leaves nothing but parameters is sound everywhere. -/
theorem soundValue {name : String} {layout : Layout} {decode : Decoder}
    {encode : Option Encoder} (hkeeps : Keeps decode name []) :
    SoundEntry (name, { layout with decode := some decode, encode }) :=
  sound hkeeps fun _ _ => List.not_mem_nil

theorem soundNone {name : String} {layout : Layout} {encode : Option Encoder} :
    SoundEntry (name, { layout with decode := none, encode }) := by
  rintro _ ⟨⟩

theorem soundCons {first : String × ParamInfo} {rest : List (String × ParamInfo)}
    (hfirst : SoundEntry first) (hrest : ∀ entry ∈ rest, SoundEntry entry) :
    ∀ entry ∈ first :: rest, SoundEntry entry :=
  List.forall_mem_cons.mpr ⟨hfirst, hrest⟩

theorem soundNil : ∀ entry ∈ ([] : List (String × ParamInfo)), SoundEntry entry :=
  fun _ hentry => absurd hentry List.not_mem_nil

theorem tveParams_sound : ∀ entry ∈ tveParams, SoundEntry entry := by
  intro entry hentry
  obtain ⟨⟨type, name, formats⟩, -, rfl⟩ := List.mem_map.mp hentry
  exact soundValue (basicParamDecodeGenerator_keeps formats [] name)

theorem capabilityParams_sound : ∀ entry ∈ capabilityParams, SoundEntry entry :=
  soundCons (soundValue (basicParamDecodeGenerator_keeps _ _ _)) <|
  soundCons (soundValue (basicParamDecodeGenerator_keeps _ _ _)) <|
  soundCons (sound (basicAutoParamDecodeGenerator_keeps _ _ _) (by decide)) <|
  soundCons (soundValue (decodeAll_keeps _)) <|
  soundCons (soundValue (basicParamDecodeGenerator_keeps _ _ _)) <|
  soundCons (sound decodeFrequencyInformation_keeps (by decide)) <|
  soundCons (soundValue (decodeFrequencyHopTable_keeps _)) <|
  soundCons (soundValue (decodeFixedFrequencyTable_keeps _)) <|
  soundCons (soundValue (decodeC1G2LLRPCapabilities_keeps _)) <|
  soundCons (soundValue (decodeAll_keeps _)) <|
  soundCons (soundValue (decodeUHFC1G2RFModeTableEntry_keeps _)) <|
  soundCons (soundValue (basicParamDecodeGenerator_keeps _ _ _)) <|
  soundCons (soundValue (decodeLLRPCapabilities_keeps _)) <|
  soundCons (sound decodeGeneralDeviceCapabilities_keeps (by decide)) <|
  soundCons (soundValue (basicParamDecodeGenerator_keeps _ _ _)) <|
  soundCons (soundValue (basicParamDecodeGenerator_keeps _ _ _)) <|
  soundCons (soundValue (basicParamDecodeGenerator_keeps _ _ _)) <|
  soundCons (soundValue (decodePerAntennaAirProtocol_keeps _)) <|
  soundCons (soundValue (basicParamDecodeGenerator_keeps _ _ _)) <|
  soundNil

theorem operationParams_sound : ∀ entry ∈ operationParams, SoundEntry entry :=
  soundCons (sound (basicAutoParamDecodeGenerator_keeps _ _ _) (by decide)) <|
  soundCons soundNone <|
  soundCons soundNone <|
  soundCons soundNone <|
  soundCons soundNone <|
  soundCons soundNone <|
  soundCons soundNone <|
  soundCons soundNone <|
  soundCons soundNone <|
  soundCons soundNone <|
  soundCons soundNone <|
  soundCons (soundValue (basicParamDecodeGenerator_keeps _ _ _)) <|
  soundCons (soundValue (decodeAll_keeps _)) <|
  soundCons (sound (basicAutoParamDecodeGenerator_keeps _ _ _) (by decide)) <|
  soundCons (sound (basicAutoParamDecodeGenerator_keeps _ _ _) (by decide)) <|
  soundCons (soundValue (decodeGPITriggerValue_keeps _)) <|
  soundCons (sound decodeROSpecStopTrigger_keeps (by decide)) <|
  soundCons (sound decodeAISPec_keeps (by decide)) <|
  soundCons (sound (basicAutoParamDecodeGenerator_keeps _ _ _) (by decide)) <|
  soundCons (soundValue (decodeTagObservationTrigger_keeps _)) <|
  soundCons (sound (basicAutoParamDecodeGenerator_keeps _ _ _) (by decide)) <|
  soundNil

theorem configurationParams_sound : ∀ entry ∈ configurationParams, SoundEntry entry :=
  soundCons (soundValue (basicParamDecodeGenerator_keeps _ _ _)) <|
  soundCons (soundValue (decodeIdentification_keeps _)) <|
  soundCons (soundValue (decodeGPOEvent_keeps _)) <|
  soundCons (soundValue (decodeKeepaliveSpec_keeps _)) <|
  soundCons (soundValue (decodeAntennaProperties_keeps _)) <|
  soundCons (sound (basicAutoParamDecodeGenerator_keeps _ _ _) (by decide)) <|
  soundCons (soundValue (basicParamDecodeGenerator_keeps _ _ _)) <|
  soundCons (soundValue (basicParamDecodeGenerator_keeps _ _ _)) <|
  soundCons (soundValue (decodeGPIPortCurrentState_keeps _)) <|
  soundCons (soundValue (decodeEventsAndReports_keeps _)) <|
  soundCons (sound decodeC1G2InventoryCommand_keeps (by decide)) <|
  soundCons soundNone <|
  soundCons soundNone <|
  soundCons (soundValue (basicParamDecodeGenerator_keeps _ _ _)) <|
  soundCons (sound decodeC1G2SingulationControl_keeps (by decide)) <|
  soundCons (soundValue (decodeC1G2TagInventoryStateAwareSingulationAction_keeps _)) <|
  soundCons (sound decodeROReportSpec_keeps (by decide)) <|
  soundCons (soundValue (decodeAll_keeps _)) <|
  soundCons (soundValue (decodeEventNotificationState_keeps _)) <|
  soundCons (sound decodeTagReportContentSelector_keeps (by decide)) <|
  soundCons (soundValue (decodeC1G2EPCMemorySelector_keeps _)) <|
  soundNil

theorem reportParams_sound : ∀ entry ∈ reportParams, SoundEntry entry :=
  soundCons (sound decodeTagReportData_keeps (by decide)) <|
  soundCons (soundValue (decodeWordsResult_keeps _ _ _)) <|
  soundCons (soundValue (decodeC1G2WriteOpSpecResult_keeps _)) <|
  soundCons (soundValue (decodeBasicOpSpecResult_keeps _)) <|
  soundCons (soundValue (decodeBasicOpSpecResult_keeps _)) <|
  soundCons (soundValue (decodeBasicOpSpecResult_keeps _)) <|
  soundCons (soundValue (decodeBasicOpSpecResult_keeps _)) <|
  soundCons (soundValue (decodeC1G2WriteOpSpecResult_keeps _)) <|
  soundCons (soundValue (decodeBasicOpSpecResult_keeps _)) <|
  soundCons (soundValue (decodeWordsResult_keeps _ _ _)) <|
  soundCons (soundValue (decodeEPCData_keeps _)) <|
  soundCons (soundValue (decodeEPC96_keeps _)) <|
  soundCons (soundValue (basicParamDecodeGenerator_keeps _ _ _)) <|
  soundNil

theorem eventParams_sound : ∀ entry ∈ eventParams, SoundEntry entry :=
  soundCons (soundValue (basicParamDecodeGenerator_keeps _ _ _)) <|
  soundCons (soundValue (decodeGPIEvent_keeps _)) <|
  soundCons (soundValue (decodeROSpecEvent_keeps _)) <|
  soundCons (soundValue (basicParamDecodeGenerator_keeps _ _ _)) <|
  soundCons (soundValue (decodeAll_keeps _)) <|
  soundCons (sound decodeReaderExceptionEvent_keeps (by decide)) <|
  soundCons (soundValue (decodeRFSurveyEvent_keeps _)) <|
  soundCons (sound decodeAISpecEvent_keeps (by decide)) <|
  soundCons (soundValue (decodeAntennaEvent_keeps _)) <|
  soundCons (soundValue (decodeConnectionAttemptEvent_keeps _)) <|
  soundCons (soundValue (decodeAll_keeps _)) <|
  soundCons (soundValue (basicParamDecodeGenerator_keeps _ _ _)) <|
  soundCons (soundValue (decodeAll_keeps _)) <|
  soundNil

theorem errorParams_sound (typeName : ℤ → Option String) :
    ∀ entry ∈ errorParams typeName, SoundEntry entry :=
  soundCons (sound decodeLLRPStatus_keeps (by decide)) <|
  soundCons (soundValue (decodeFieldError_keeps _)) <|
  soundCons (sound (decodeParameterError_keeps _) (by decide)) <|
  soundCons soundNone <|
  soundNil

theorem impinjParams_sound : ∀ entry ∈ impinjParams, SoundEntry entry :=
  soundCons soundNone <|
  soundCons (soundValue (basicParamDecodeGenerator_keeps _ _ _)) <|
  soundCons (sound (basicAutoParamDecodeGenerator_keeps _ _ _) (by decide)) <|
  soundCons (soundValue (decodeChannelList_keeps _ _ _)) <|
  soundCons (soundValue (decodeChannelList_keeps _ _ _)) <|
  soundCons (sound (basicAutoParamDecodeGenerator_keeps _ _ _) (by decide)) <|
  soundCons (sound (decodeVersions_keeps _ _) (by decide)) <|
  soundCons (soundValue (decodeImpinjFrequencyCapabilities_keeps _)) <|
  soundCons (soundValue (basicParamDecodeGenerator_keeps _ _ _)) <|
  soundCons (sound (basicAutoParamDecodeGenerator_keeps _ _ _) (by decide)) <|
  soundCons (sound (basicAutoParamDecodeGenerator_keeps _ _ _) (by decide)) <|
  soundCons (sound (basicAutoParamDecodeGenerator_keeps _ _ _) (by decide)) <|
  soundCons (soundValue (decodeAll_keeps _)) <|
  soundCons (sound (basicAutoParamDecodeGenerator_keeps _ _ _) (by decide)) <|
  soundCons (soundValue (decodeAll_keeps _)) <|
  soundCons (soundValue (basicParamDecodeGenerator_keeps _ _ _)) <|
  soundCons (soundValue (basicParamDecodeGenerator_keeps _ _ _)) <|
  soundCons (soundValue (basicParamDecodeGenerator_keeps _ _ _)) <|
  soundCons (soundValue (basicParamDecodeGenerator_keeps _ _ _)) <|
  soundCons (sound decodeImpinjSerializedTID_keeps (by decide)) <|
  soundCons (soundValue (basicParamDecodeGenerator_keeps _ _ _)) <|
  soundCons (soundValue (basicParamDecodeGenerator_keeps _ _ _)) <|
  soundCons (sound (basicAutoParamDecodeGenerator_keeps _ _ _) (by decide)) <|
  soundCons (soundValue (decodeAll_keeps _)) <|
  soundCons (sound (decodeNmeaSentence_keeps _ _) (by decide)) <|
  soundCons (sound (decodeNmeaSentence_keeps _ _) (by decide)) <|
  soundCons (sound (basicAutoParamDecodeGenerator_keeps _ _ _) (by decide)) <|
  soundCons (sound (basicAutoParamDecodeGenerator_keeps _ _ _) (by decide)) <|
  soundCons (sound (basicAutoParamDecodeGenerator_keeps _ _ _) (by decide)) <|
  soundCons (soundValue (basicParamDecodeGenerator_keeps _ _ _)) <|
  soundCons (soundValue (basicParamDecodeGenerator_keeps _ _ _)) <|
  soundCons (soundValue (basicParamDecodeGenerator_keeps _ _ _)) <|
  soundCons (sound decodeImpinjInventoryConfiguration_keeps (by decide)) <|
  soundCons (soundValue (basicParamDecodeGenerator_keeps _ _ _)) <|
  soundCons (soundValue (basicParamDecodeGenerator_keeps _ _ _)) <|
  soundCons (sound (decodeVersions_keeps _ _) (by decide)) <|
  soundCons (soundValue (decodeAll_keeps _)) <|
  soundCons (sound (basicAutoParamDecodeGenerator_keeps _ _ _) (by decide)) <|
  soundCons (soundValue (decodeAll_keeps _)) <|
  soundCons (soundValue (decodeImpinjHubConfiguration_keeps _)) <|
  soundCons (soundValue (decodeImpinjIntelligentAntennaManagement_keeps _)) <|
  soundCons (soundValue (decodeImpinjTIDParity_keeps _)) <|
  soundCons (sound decodeImpinjAntennaEventConfiguration_keeps (by decide)) <|
  soundCons (soundValue (basicParamDecodeGenerator_keeps _ _ _)) <|
  soundCons (sound (decodeVersions_keeps _ _) (by decide)) <|
  soundCons (soundValue (decodeImpinjRFPowerSweep_keeps _)) <|
  soundNil

theorem motorolaParams_sound : ∀ entry ∈ motorolaParams, SoundEntry entry :=
  soundCons (soundValue (decodeVersionFlags_keeps _ _)) <|
  soundCons (soundValue (decodeVersionFlags_keeps _ _)) <|
  soundCons (soundValue (decodeMotoAutonomousState_keeps _)) <|
  soundCons (sound decodeMotoDefaultSpec_keeps (by decide)) <|
  soundCons (soundValue (decodeVersionFlags_keeps _ _)) <|
  soundCons (soundValue (decodeMotoTagEventSelector_keeps _)) <|
  soundCons (soundValue (decodeMotoTagReportMode_keeps _)) <|
  soundCons (soundValue (decodeMotoTagReportContentSelector_keeps _)) <|
  soundCons (soundValue (decodeMotoTagPhase_keeps _)) <|
  soundCons (soundValue (decodeVersionFlags_keeps _ _)) <|
  soundCons (sound (basicAutoParamDecodeGenerator_keeps _ _ _) (by decide)) <|
  soundCons (sound (basicAutoParamDecodeGenerator_keeps _ _ _) (by decide)) <|
  soundCons (sound decodeMotoFilterTimeRange_keeps (by decide)) <|
  soundCons (sound decodeMotoFilterRSSIRange_keeps (by decide)) <|
  soundCons (sound decodeMotoFilterRule_keeps (by decide)) <|
  soundCons (sound decodeMotoFilterList_keeps (by decide)) <|
  soundCons (sound decodeMotoFilterTagList_keeps (by decide)) <|
  soundCons (soundValue (decodeVersionFlags_keeps _ _)) <|
  soundCons (soundValue (decodeMotoPersistenceSaveParams_keeps _)) <|
  soundCons (soundValue (decodeVersionFlags_keeps _ _)) <|
  soundCons (soundValue (decodeMotoCustomCommandOptions_keeps _)) <|
  soundNil

/-- Every decoder in the registry is sound. -/
theorem allParams_sound (typeName : ℤ → Option String) :
    ∀ entry ∈ allParams typeName, SoundEntry entry := by
  simp only [allParams, List.forall_mem_append]
  exact ⟨⟨⟨⟨⟨⟨⟨⟨tveParams_sound, capabilityParams_sound⟩, operationParams_sound⟩,
    configurationParams_sound⟩, reportParams_sound⟩, eventParams_sound⟩,
    errorParams_sound typeName⟩, impinjParams_sound⟩, motorolaParams_sound⟩

/-! ## Names -/

/-- The names of the parameters. -/
def paramNames : List String := (allParams fun _ => none).map Prod.fst

/-- What the names of types are makes no difference to the names of parameters. -/
theorem map_fst_allParams (first second : ℤ → Option String) :
    (allParams first).map Prod.fst = (allParams second).map Prod.fst := by
  have herrors : (errorParams first).map Prod.fst = (errorParams second).map Prod.fst := rfl
  simp only [allParams, List.map_append, herrors]

theorem mem_names_of_typeName {type : ℕ × ℕ × ℕ} {name : String}
    (hname : registry.typeName type = some name) : name ∈ paramNames := by
  have hmem : (type, name) ∈ paramType2Name := mem_of_lookup hname
  obtain ⟨entry, hentry, heq⟩ := List.mem_map.mp hmem
  exact List.mem_map.mpr ⟨entry, hentry, congrArg Prod.snd heq⟩

/-- The key of records and the fields of custom messages are not names of parameters. -/
theorem reservedKeys_not_names :
    ∀ key ∈ [decodeErrorParname, "VendorID", "Subtype", "Payload"], key ∉ paramNames := by
  decide +kernel

theorem exists_param_of_typeName {type : ℕ × ℕ × ℕ} {name : String}
    (hname : registry.typeName type = some name) : ∃ info, registry.param name = some info := by
  have hmem := mem_names_of_typeName hname
  rw [paramNames, map_fst_allParams _ fun type => paramType2Name.lookup (type.toNat, 0, 0)] at hmem
  obtain ⟨found, hfound, rfl⟩ := List.mem_map.mp hmem
  apply Option.isSome_iff_exists.mp
  change (paramStruct.lookup found.1).isSome = true
  rw [List.lookup_isSome_iff]
  exact ⟨found, hfound, beq_self_eq_true _⟩

theorem registry_sound : registry.Sound where
  entries := fun _ _ hparam => allParams_sound _ _ (mem_of_lookup hparam)
  known := fun _ _ => exists_param_of_typeName
  record := fun _ hname =>
    reservedKeys_not_names _ List.mem_cons_self (mem_names_of_typeName hname)

end Sllurp.Codec
