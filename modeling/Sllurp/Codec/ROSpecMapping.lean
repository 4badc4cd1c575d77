/-
# The ROSpec as a mapping

An application hands the reader operation specification to the encoder as nested
mappings, with a key left out where an option is. What comes back differs in known
ways: states and trigger types are numbers, flags of the vendors' selectors too, a
mask is the record of its bytes, and selectors are complete.
-/

import Sllurp.Codec.Composed
import Sllurp.Codec.Standard
import Sllurp.Codec.Registry
import Sllurp.Protocol.ROSpec

namespace Sllurp.Protocol

open Sllurp.Foundations Sllurp.Config Sllurp.Codec

/-! ## What is written -/

/-- Flags by name. -/
def flagsValue (flags : Dict String Bool) : Value := Fields.value (flags.mapValues .bool)

def selectorValue : SelectorValue → Value
  | .flag enabled => .bool enabled
  | .memory flags => flagsValue flags

def numbersValue (numbers : List ℤ) : Value := .list (numbers.map .int)

namespace RFTransmitter

/-- The fields are read as they are written. -/
def value (transmitter : RFTransmitter) : Value :=
  mapping [("HopTableId", .int transmitter.hopTableId),
    ("ChannelIndex", .int transmitter.channelIndex),
    ("TransmitPower", .int transmitter.transmitPower)]

end RFTransmitter

def C1G2SingulationControl.value (control : C1G2SingulationControl) : Value :=
  mapping [("Session", .int control.session), ("TagPopulation", .int control.tagPopulation),
    ("TagTransitTime", .int control.tagTransitTime)]

def C1G2TagInventoryMask.maskValue (mask : C1G2TagInventoryMask) : Value :=
  mapping [("MB", .int mask.mb), ("Pointer", .int mask.pointer), ("TagMask", .text mask.tagMask)]

/-- The mask inside a filter. -/
def C1G2TagInventoryMask.value (mask : C1G2TagInventoryMask) : Value :=
  mapping [("C1G2TagInventoryMask", mask.maskValue)]

/-- The fields are read as they are written. -/
def C1G2RFControl.value (control : C1G2RFControl) : Value :=
  mapping [("ModeIndex", .int control.modeIndex), ("Tari", .int control.tari)]

/-- The fields are read as they are written. -/
def searchModeValue (mode : ℤ) : Value := mapping [("InventorySearchMode", .int mode)]

/-- The fields are read as they are written. -/
def ImpinjFixedFrequencyList.value (frequencies : ImpinjFixedFrequencyList) : Value :=
  mapping [("FixedFrequencyMode", .int frequencies.fixedFrequencyMode),
    ("ChannelList", numbersValue frequencies.channelList)]

def C1G2InventoryCommand.value (command : C1G2InventoryCommand) : Value :=
  mapping ([("TagInventoryStateAware", .bool command.tagInventoryStateAware),
      ("C1G2SingulationControl", command.c1G2SingulationControl.value)] ++
    listed "C1G2Filter" C1G2TagInventoryMask.value command.c1G2Filter ++
    optional "C1G2RFControl" C1G2RFControl.value command.c1G2RFControl ++
    optional "ImpinjInventorySearchMode" searchModeValue command.impinjInventorySearchMode ++
    optional "ImpinjFixedFrequencyList" ImpinjFixedFrequencyList.value
      command.impinjFixedFrequencyList)

def AntennaConfiguration.value (configuration : AntennaConfiguration) : Value :=
  mapping [("AntennaID", .int configuration.antennaId),
    ("RFTransmitter", configuration.rfTransmitter.value),
    ("C1G2InventoryCommand", .list [configuration.c1G2InventoryCommand.value])]

/-- The fields are read as they are written. -/
def TagObservationTrigger.value (trigger : TagObservationTrigger) : Value :=
  mapping [("TriggerType", .text trigger.triggerType),
    ("NumberOfTags", .int trigger.numberOfTags),
    ("NumberOfAttempts", .int trigger.numberOfAttempts), ("T", .int trigger.t),
    ("Timeout", .int trigger.timeout)]

/-- The stop trigger of the whole ROSpec, which is read as it is written. -/
def StopTrigger.roSpecValue (trigger : StopTrigger) : Value :=
  mapping [("ROSpecStopTriggerType", .text trigger.triggerType),
    ("DurationTriggerValue", .int trigger.durationTriggerValue)]

def StopTrigger.aiSpecValue (trigger : StopTrigger) : Value :=
  mapping ([("AISpecStopTriggerType", .text trigger.triggerType),
      ("DurationTriggerValue", .int trigger.durationTriggerValue)] ++
    optional "TagObservationTrigger" TagObservationTrigger.value trigger.tagObservationTrigger)

def AISpec.inventoryParameterValue (spec : AISpec) : Value :=
  mapping [("InventoryParameterSpecID", .int spec.inventoryParameterSpecId),
    ("ProtocolID", .int spec.protocolId),
    ("AntennaConfiguration", .list (spec.antennaConfiguration.map AntennaConfiguration.value))]

def AISpec.value (spec : AISpec) : Value :=
  mapping [("AntennaID", numbersValue spec.antennaId),
    ("AISpecStopTrigger", spec.aiSpecStopTrigger.aiSpecValue),
    ("InventoryParameterSpec", .list [spec.inventoryParameterValue])]

def ImpinjTagReportContentSelector.value (selector : ImpinjTagReportContentSelector) : Value :=
  mapping [("ImpinjEnableRFPhaseAngle",
      mapping [("RFPhaseAngleMode", .bool selector.rfPhaseAngleMode)]),
    ("ImpinjEnablePeakRSSI", mapping [("PeakRSSIMode", .bool selector.peakRssiMode)]),
    ("ImpinjEnableRFDopplerFrequency",
      mapping [("RFDopplerFrequencyMode", .bool selector.rfDopplerFrequencyMode)])]

def CustomParameter.value (parameter : CustomParameter) : Value :=
  mapping [("VendorID", .int parameter.vendorId), ("Subtype", .int parameter.subtype),
    ("Payload", .bytes parameter.payload)]

def ROReportSpec.selectorValue (spec : ROReportSpec) : Value :=
  Fields.value (spec.tagReportContentSelector.mapValues Protocol.selectorValue)

def ROReportSpec.value (spec : ROReportSpec) : Value :=
  mapping ([("ROReportTrigger", .text spec.roReportTrigger),
      ("TagReportContentSelector", spec.selectorValue), ("N", .int spec.n)] ++
    optional "ImpinjTagReportContentSelector" ImpinjTagReportContentSelector.value
      spec.impinjTagReportContentSelector ++
    optional "MotoTagReportContentSelector" flagsValue spec.motoTagReportContentSelector ++
    listed "CustomParameter" CustomParameter.value spec.customParameter)

def LLRPROSpec.boundaryValue (rospec : LLRPROSpec) : Value :=
  mapping [("ROSpecStartTrigger",
      mapping [("ROSpecStartTriggerType", .text rospec.roSpecStartTriggerType)]),
    ("ROSpecStopTrigger", rospec.roSpecStopTrigger.roSpecValue)]

/-- The mapping of the whole ROSpec. -/
def LLRPROSpec.value (rospec : LLRPROSpec) : Value :=
  mapping [("ROSpecID", .int rospec.roSpecId), ("Priority", .int rospec.priority),
    ("CurrentState", .text rospec.currentState), ("ROBoundarySpec", rospec.boundaryValue),
    ("AISpec", .list [rospec.aiSpec.value]), ("ROReportSpec", rospec.roReportSpec.value)]

/-! ## What is read -/

/-- The fields of the EPC memory that a report may contain. -/
def memorySelectorNames : List String := ["EnableCRC", "EnablePCBits", "EnableXPCBits"]

/-- The code of a name, which is read for it. -/
def codeReading (names : Enumeration) (name : String) : Value :=
  .int ((names.lookup name).getD 0)

/-- A flag that is written as a number. -/
def bitReading (isSet : Bool) : Value := .int isSet.toInt

/-- The flags of a selector, all of them. -/
def flagsReading (names : List String) (flags : Dict String Bool) : Value :=
  mapping (names.map fun name => (name, .bool (flags.getD name false)))

/-- The selector of the memory fields. A flag in its place cannot be written. -/
def memoryReading : SelectorValue → Value
  | .flag _ => flagsReading memorySelectorNames .empty
  | .memory flags => flagsReading memorySelectorNames flags

def C1G2SingulationControl.reading (control : C1G2SingulationControl) : Value :=
  mapping [("TagPopulation", .int control.tagPopulation),
    ("TagTransitTime", .int control.tagTransitTime), ("Session", .int control.session)]

/-- The bytes of a filter: no truncation, and the mask. -/
def C1G2TagInventoryMask.filterBytes (mask : C1G2TagInventoryMask) : List UInt8 :=
  0 :: ((registry.encodeParamWith 1 "C1G2TagInventoryMask" mask.maskValue).toOption.getD [])

/-- Filters have no decoder. -/
def C1G2TagInventoryMask.reading (mask : C1G2TagInventoryMask) : Value :=
  mapping [("Name", .text "C1G2Filter"), ("Type", .int 331),
    ("DecodeError", .text "DecodeFunctionMissing"), ("Data", .bytes mask.filterBytes)]

def C1G2InventoryCommand.reading (command : C1G2InventoryCommand) : Value :=
  mapping ([("TagInventoryStateAware", .bool command.tagInventoryStateAware)] ++
    listed decodeErrorParname C1G2TagInventoryMask.reading command.c1G2Filter ++
    optional "C1G2RFControl" C1G2RFControl.value command.c1G2RFControl ++
    [("C1G2SingulationControl", command.c1G2SingulationControl.reading)] ++
    optional "ImpinjInventorySearchMode" searchModeValue command.impinjInventorySearchMode ++
    optional "ImpinjFixedFrequencyList" ImpinjFixedFrequencyList.value
      command.impinjFixedFrequencyList)

def AntennaConfiguration.reading (configuration : AntennaConfiguration) : Value :=
  mapping [("AntennaID", .int configuration.antennaId),
    ("RFTransmitter", configuration.rfTransmitter.value),
    ("C1G2InventoryCommand", .list [configuration.c1G2InventoryCommand.reading])]

def StopTrigger.aiSpecReading (trigger : StopTrigger) : Value :=
  mapping ([("AISpecStopTriggerType",
        codeReading Names.aiSpecStopTriggerType trigger.triggerType),
      ("DurationTriggerValue", .int trigger.durationTriggerValue)] ++
    optional "TagObservationTrigger" TagObservationTrigger.value trigger.tagObservationTrigger)

def AISpec.inventoryParameterReading (spec : AISpec) : Value :=
  mapping ([("InventoryParameterSpecID", .int spec.inventoryParameterSpecId),
      ("ProtocolID", .int spec.protocolId)] ++
    listed "AntennaConfiguration" AntennaConfiguration.reading spec.antennaConfiguration)

def AISpec.reading (spec : AISpec) : Value :=
  mapping [("AntennaCount", .int spec.antennaId.length),
    ("AntennaID", numbersValue spec.antennaId),
    ("AISpecStopTrigger", spec.aiSpecStopTrigger.aiSpecReading),
    ("InventoryParameterSpec", .list [spec.inventoryParameterReading])]

def ImpinjTagReportContentSelector.reading (selector : ImpinjTagReportContentSelector) :
    Value :=
  mapping [("ImpinjEnableRFPhaseAngle",
      mapping [("RFPhaseAngleMode", bitReading selector.rfPhaseAngleMode)]),
    ("ImpinjEnablePeakRSSI", mapping [("PeakRSSIMode", bitReading selector.peakRssiMode)]),
    ("ImpinjEnableRFDopplerFrequency",
      mapping [("RFDopplerFrequencyMode", bitReading selector.rfDopplerFrequencyMode)])]

/-- Custom parameters of types that are not registered. -/
def CustomParameter.reading (parameter : CustomParameter) : Value :=
  mapping [("Name", .text ""), ("Type", .int typeCustom),
    ("DecodeError", .text "UnknownParameter"), ("Data", .bytes parameter.payload),
    ("VendorID", .int parameter.vendorId), ("Subtype", .int parameter.subtype)]

/-- Whether a report selector asks for a field. -/
def ROReportSpec.selects (spec : ROReportSpec) (name : String) : Bool :=
  ((spec.tagReportContentSelector.get? name).map fun selected =>
    (Protocol.selectorValue selected).truthy).getD false

def ROReportSpec.selectorReading (spec : ROReportSpec) : Value :=
  mapping ((tagReportContentSelectorNames.map fun name => (name, .bool (spec.selects name))) ++
    optional "C1G2EPCMemorySelector" memoryReading
      (spec.tagReportContentSelector.get? "C1G2EPCMemorySelector"))

def ROReportSpec.reading (spec : ROReportSpec) : Value :=
  mapping ([("N", .int spec.n), ("ROReportTrigger", .text spec.roReportTrigger),
      ("TagReportContentSelector", spec.selectorReading)] ++
    optional "ImpinjTagReportContentSelector" ImpinjTagReportContentSelector.reading
      spec.impinjTagReportContentSelector ++
    optional "MotoTagReportContentSelector" (flagsReading motoTagReportContentSelectorNames)
      spec.motoTagReportContentSelector ++
    listed decodeErrorParname CustomParameter.reading spec.customParameter)

def LLRPROSpec.boundaryReading (rospec : LLRPROSpec) : Value :=
  mapping [("ROSpecStartTrigger",
      mapping [("ROSpecStartTriggerType",
        codeReading Names.roSpecStartTriggerType rospec.roSpecStartTriggerType)]),
    ("ROSpecStopTrigger", rospec.roSpecStopTrigger.roSpecValue)]

/-- What the whole ROSpec is read as. -/
def LLRPROSpec.reading (rospec : LLRPROSpec) : Value :=
  mapping [("ROSpecID", .int rospec.roSpecId), ("Priority", .int rospec.priority),
    ("CurrentState", codeReading Names.roSpecState rospec.currentState),
    ("ROBoundarySpec", rospec.boundaryReading), ("AISpec", .list [rospec.aiSpec.reading]),
    ("ROReportSpec", rospec.roReportSpec.reading)]

/-! ## What settings are read back as -/

namespace ROSpecSettings

variable (settings : ROSpecSettings)

/-- The settings with their masks in the order in which the set of them is iterated. -/
def iterating (masks : List String) : ROSpecSettings :=
  { settings with tagFilterMask := some masks }

/-- Nothing stops the inventory after no duration at all. -/
def durationMs : ℤ :=
  (settings.durationSec.map fun seconds => truncate (Binary64.round (seconds * 1000))).getD 0

def channels : List ℤ := settings.frequencies.channelList.getD [defaultChannelIndex]

/-- The index of an antenna's power. -/
def powerOf (antenna : ℤ) : ℤ :=
  match settings.txPower with
  | .index index => index
  | .perAntenna indexes => indexes.getD antenna 0

/-- The configured Tari, if the mode has it in its range. -/
def tariIn (mode : ReaderMode) : ℤ :=
  match settings.tari with
  | some tari => if mode.minTari ≤ tari ∧ tari ≤ mode.maxTari then tari else 0
  | none => 0

def rfControlReading (mode : ReaderMode) : Value :=
  mapping [("ModeIndex", .int mode.modeIdentifier), ("Tari", .int (settings.tariIn mode))]

/-- A mode and the channels for readers that are to keep to some. -/
def fixedFrequencies : Option (ℤ × List ℤ) :=
  if settings.impinjFixedFrequency then
    if settings.frequencies.automatic = some true then some (1, [])
    else if 1 < settings.channels.length then some (2, settings.channels)
    else none
  else none

def frequenciesReading (frequencies : ℤ × List ℤ) : Value :=
  mapping [("FixedFrequencyMode", .int frequencies.1),
    ("ChannelList", numbersValue frequencies.2)]

def commandReading (readerMode : Option ReaderMode) (masks : List String) : Value :=
  mapping ([("TagInventoryStateAware", .bool false)] ++
    listed decodeErrorParname
      (fun mask => C1G2TagInventoryMask.reading { tagMask := mask }) masks ++
    optional "C1G2RFControl" settings.rfControlReading readerMode ++
    [("C1G2SingulationControl",
      mapping [("TagPopulation", .int settings.tagPopulation), ("TagTransitTime", .int 0),
        ("Session", .int settings.session)])] ++
    optional "ImpinjInventorySearchMode" searchModeValue settings.impinjSearchMode ++
    optional "ImpinjFixedFrequencyList" frequenciesReading settings.fixedFrequencies)

def antennaReading (readerMode : Option ReaderMode) (masks : List String) (antenna : ℤ) : Value :=
  mapping [("AntennaID", .int antenna),
    ("RFTransmitter",
      mapping [("HopTableId",
          .int (settings.frequencies.hopTableId.getD defaultHoptableIndex)),
        ("ChannelIndex", .int (settings.channels.headD defaultChannelIndex)),
        ("TransmitPower", .int (settings.powerOf antenna))]),
    ("C1G2InventoryCommand", .list [settings.commandReading readerMode masks])]

/-- The ROSpec itself starts at once, and stops after the duration. -/
def boundaryReading : Value :=
  mapping [("ROSpecStartTrigger", mapping [("ROSpecStartTriggerType", .int 1)]),
    ("ROSpecStopTrigger",
      mapping [("ROSpecStopTriggerType",
          .text (if settings.durationSec.isSome then "Duration" else "Null")),
        ("DurationTriggerValue", .int settings.durationMs)])]

/-- The AISpec stops at a number of tags if one is given, and else after the duration. -/
def stopReading : Value :=
  mapping ([("AISpecStopTriggerType",
        .int (if settings.reportEveryNTags.isSome then 3
          else if settings.durationSec.isSome then 1 else 0)),
      ("DurationTriggerValue", .int settings.durationMs)] ++
    optional "TagObservationTrigger"
      (fun count => mapping [("TriggerType", .text "UponNTags"), ("NumberOfTags", .int count),
        ("NumberOfAttempts", .int 0), ("T", .int 0), ("Timeout", .int settings.reportTimeoutMs)])
      settings.reportEveryNTags)

def aiSpecReading (readerMode : Option ReaderMode) (masks : List String) : Value :=
  mapping [("AntennaCount", .int settings.antennas.length),
    ("AntennaID", numbersValue settings.antennas), ("AISpecStopTrigger", settings.stopReading),
    ("InventoryParameterSpec",
      .list [mapping ([("InventoryParameterSpecID", .int 1), ("ProtocolID", .int 1)] ++
        listed "AntennaConfiguration" (settings.antennaReading readerMode masks)
          settings.antennas)])]

/-- What is configured for a field of the reports, or what it is without that. -/
def selected (name : String) : Option SelectorValue :=
  (settings.tagContentSelector.bind (·.get? name)).or (baseTagReportContentSelector.get? name)

def selectorReading : Value :=
  mapping ((tagReportContentSelectorNames.map fun name =>
      (name, .bool (((settings.selected name).map fun selected =>
        (Protocol.selectorValue selected).truthy).getD false))) ++
    optional "C1G2EPCMemorySelector" memoryReading (settings.selected "C1G2EPCMemorySelector"))

/-- A flag of the Impinj selector, in a mapping of its own. -/
def impinjReading (flags : Dict String Bool) : Value :=
  mapping [("ImpinjEnableRFPhaseAngle",
      mapping [("RFPhaseAngleMode", bitReading (flags.getD "EnableRFPhaseAngle" false))]),
    ("ImpinjEnablePeakRSSI",
      mapping [("PeakRSSIMode", bitReading (flags.getD "EnablePeakRSSI" false))]),
    ("ImpinjEnableRFDopplerFrequency",
      mapping [("RFDopplerFrequencyMode",
        bitReading (flags.getD "EnableRFDopplerFrequency" false))])]

/-- Hardware deduplication over some seconds takes the place of the report trigger. -/
def reportReading (seconds : Option ℤ) : Value :=
  mapping ([("N", .int (seconds.getD (settings.roReportEveryNTags.getD 0))),
      ("ROReportTrigger",
        .text (if seconds.isSome then "None" else "Upon_N_Tags_Or_End_Of_AISpec")),
      ("TagReportContentSelector", settings.selectorReading)] ++
    optional "ImpinjTagReportContentSelector" impinjReading
      (settings.impinjTagContentSelector.filter fun flags => !flags.isEmpty) ++
    optional "MotoTagReportContentSelector" (flagsReading motoTagReportContentSelectorNames)
      (settings.zebraTagContentSelector.filter fun flags => !flags.isEmpty) ++
    listed decodeErrorParname CustomParameter.reading
      (if seconds.isSome then [⟨vendorIdMotorola, 125, [1]⟩] else []))

/-- What the inventory of the settings is read back as, whichever way they are sent. -/
def inventoryReading (readerMode : Option ReaderMode) (roSpecId : ℕ) (masks : List String)
    (seconds : Option ℤ) : Value :=
  mapping [("ROSpecID", .int roSpecId), ("Priority", .int 0), ("CurrentState", .int 0),
    ("ROBoundarySpec", settings.boundaryReading),
    ("AISpec", .list [settings.aiSpecReading readerMode masks]),
    ("ROReportSpec", settings.reportReading seconds)]

end ROSpecSettings

end Sllurp.Protocol
