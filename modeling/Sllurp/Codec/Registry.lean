/-
# The parameter registry

Every parameter type with its fields in wire order and the functions for its body,
and what every parameter is called by its type on the wire.
-/

import Sllurp.Codec.Vendor

namespace Sllurp.Codec

open Sllurp.Foundations Sllurp.Foundations.Wire Sllurp.Protocol

/-- The TV types that have no entry of their own: a number each. -/
def tveParams : List (String × ParamInfo) :=
  (tveParamFormats.filter fun (_, name, _) =>
    name ∉ ["EPC-96", "C1G2SingulationDetails"]).map fun (type, name, formats) =>
      (name, { type, tvEncoded := true, decode := some (basicParamDecodeGenerator formats []) })

/-! ## Capabilities -/

def capabilityParams : List (String × ParamInfo) :=
  [("UTCTimestamp",
      { type := 128
        ownFields := ["Microseconds"]
        decode := some (basicParamDecodeGenerator [.ulonglong] ["Microseconds"])
        encode := some (basicParamEncodeGenerator [.ulonglong] ["Microseconds"]) }),
    ("Uptime",
      { type := 129
        ownFields := ["Microseconds"]
        decode := some (basicParamDecodeGenerator [.ulonglong] ["Microseconds"])
        encode := some (basicParamEncodeGenerator [.ulonglong] ["Microseconds"]) }),
    ("RegulatoryCapabilities",
      { type := 143
        ownFields := ["CountryCode", "CommunicationsStandard"]
        oFields := ["UHFBandCapabilities"]
        decode := some (basicAutoParamDecodeGenerator [.ushort, .ushort]
          ["CountryCode", "CommunicationsStandard"])
        encode := some (basicAutoParamEncodeGenerator [.ushort, .ushort]
          ["CountryCode", "CommunicationsStandard"]) }),
    ("UHFBandCapabilities",
      { type := 144
        oFields := ["TransmitPowerLevelTableEntry", "FrequencyInformation", "UHFC1G2RFModeTable",
          "RFSurveyFrequencyCapabilities"]
        ownNFields := ["TransmitPowerLevelTableEntry"]
        decode := some decodeAll }),
    ("TransmitPowerLevelTableEntry",
      { type := 145
        ownFields := ["Index", "TransmitPowerValue"]
        decode := some (basicParamDecodeGenerator [.ushort, .ushort]
          ["Index", "TransmitPowerValue"]) }),
    ("FrequencyInformation",
      { type := 146
        ownFields := ["Hopping", "FrequencyHopTable", "FixedFrequencyTable"]
        oFields := ["FixedFrequencyTable"]
        ownNFields := ["FrequencyHopTable"]
        decode := some decodeFrequencyInformation }),
    ("FrequencyHopTable",
      { type := 147
        ownFields := ["HopTableId", "NumHops", "Frequency"]
        decode := some decodeFrequencyHopTable }),
    ("FixedFrequencyTable",
      { type := 148
        ownFields := ["NumFrequencies", "Frequency"]
        decode := some decodeFixedFrequencyTable }),
    ("C1G2LLRPCapabilities",
      { type := 327
        ownFields := ["CanSupportBlockErase", "CanSupportBlockWrite", "CanSupportBlockPermalock",
          "CanSupportTagRecommissioning", "CanSupportUMIMethod2", "CanSupportXPC",
          "MaxNumSelectFiltersPerQuery"]
        decode := some decodeC1G2LLRPCapabilities }),
    ("UHFC1G2RFModeTable",
      { type := 328
        ownNFields := ["UHFC1G2RFModeTableEntry"]
        decode := some decodeAll }),
    ("UHFC1G2RFModeTableEntry",
      { type := 329
        ownFields := ["ModeIdentifier", "DR", "EPCHAGTCConformance", "Mod", "FLM", "M", "BDR",
          "PIE", "MinTari", "MaxTari", "StepTari"]
        decode := some decodeUHFC1G2RFModeTableEntry }),
    ("RFSurveyFrequencyCapabilities",
      { type := 365
        ownFields := ["MinimumFrequency", "MaximumFrequency"]
        decode := some (basicParamDecodeGenerator [.uint, .uint]
          ["MinimumFrequency", "MaximumFrequency"]) }),
    ("LLRPCapabilities",
      { type := 142
        ownFields := ["CanDoRFSurvey", "CanReportBufferFillWarning",
          "SupportsClientRequestOpSpec", "CanDoTagInventoryStateAwareSingulation",
          "SupportsEventAndReportHolding", "MaxPriorityLevelSupported",
          "ClientRequestOpSpecTimeout", "MaxNumROSpec", "MaxNumSpecsPerROSpec",
          "MaxNumInventoryParametersSpecsPerAISpec", "MaxNumAccessSpec",
          "MaxNumOpSpecsPerAccessSpec"]
        decode := some decodeLLRPCapabilities }),
    ("GeneralDeviceCapabilities",
      { type := 137
        ownFields := ["MaxNumberOfAntennaSupported", "CanSetAntennaProperties",
          "HasUTCClockCapability", "DeviceManufacturerName", "ModelName",
          "FirmwareVersionByteCount", "ReaderFirmwareVersion", "ReceiveSensitivityTableEntry",
          "PerAntennaReceiveSensitivityRange", "GPIOCapabilities", "PerAntennaAirProtocol",
          "MaximumReceiveSensitivity"]
        oFields := ["GPIOCapabilities", "MaximumReceiveSensitivity"]
        ownNFields := ["ReceiveSensitivityTableEntry", "PerAntennaReceiveSensitivityRange",
          "PerAntennaAirProtocol"]
        decode := some decodeGeneralDeviceCapabilities }),
    ("MaximumReceiveSensitivity",
      { type := 363
        ownFields := ["MaximumSensitivityValue"]
        decode := some (basicParamDecodeGenerator [.ushort] ["MaximumSensitivityValue"]) }),
    ("ReceiveSensitivityTableEntry",
      { type := 139
        ownFields := ["Index", "ReceiveSensitivityValue"]
        decode := some (basicParamDecodeGenerator [.ushort, .ushort]
          ["Index", "ReceiveSensitivityValue"]) }),
    ("PerAntennaReceiveSensitivityRange",
      { type := 149
        ownFields := ["AntennaID", "ReceiveSensitivityIndexMin", "ReceiveSensitivityIndexMax"]
        decode := some (basicParamDecodeGenerator [.ushort, .ushort, .ushort]
          ["AntennaID", "ReceiveSensitivityIndexMin", "ReceiveSensitivityIndexMax"]) }),
    ("PerAntennaAirProtocol",
      { type := 140
        ownFields := ["AntennaID", "NumProtocols", "ProtocolID"]
        decode := some decodePerAntennaAirProtocol }),
    ("GPIOCapabilities",
      { type := 141
        ownFields := ["NumGPIs", "NumGPOs"]
        decode := some (basicParamDecodeGenerator [.ushort, .ushort] ["NumGPIs", "NumGPOs"]) })]

/-! ## Reader and access operations -/

def operationParams : List (String × ParamInfo) :=
  [("ROSpec",
      { type := 177
        ownFields := ["ROSpecID", "Priority", "CurrentState", "ROBoundarySpec", "AISpec",
          "RFSurveySpec", "LoopSpec", "ROReportSpec"]
        oFields := ["ROBoundarySpec", "ROReportSpec"]
        ownNFields := ["AISpec", "RFSurveySpec", "LoopSpec"]
        decode := some (basicAutoParamDecodeGenerator [.uint, .ubyte, .ubyte]
          ["ROSpecID", "Priority", "CurrentState"])
        encode := some encodeROSpec }),
    ("AccessSpec",
      { type := 207
        ownFields := ["AccessSpecID", "AntennaID", "ProtocolID", "CurrentState", "ROSpecID"]
        oFields := ["AccessSpecStopTrigger", "AccessCommand", "AccessReportSpec",
          "ImpinjAccessSpecConfiguration"]
        encode := some encodeAccessSpec }),
    ("AccessSpecStopTrigger",
      { type := 208
        ownFields := ["AccessSpecStopTriggerType", "OperationCountValue"]
        encode := some encodeAccessSpecStopTrigger }),
    ("AccessCommand",
      { type := 209
        ownFields := ["TagSpecParameter", "OpSpecParameter"]
        encode := some encodeAccessCommand }),
    ("C1G2TagSpec", { type := 338, ownNFields := ["C1G2TargetTag"], encode := some encodeAll }),
    ("C1G2TargetTag",
      { type := 339
        ownFields := ["MB", "M", "Pointer", "MaskBitCount", "TagMask", "DataBitCount", "TagData"]
        encode := some encodeC1G2TargetTag }),
    ("C1G2Read",
      { type := 341
        ownFields := ["OpSpecID", "AccessPassword", "MB", "WordPtr", "WordCount"]
        encode := some encodeC1G2Read }),
    ("C1G2Write",
      { type := 342
        ownFields := ["OpSpecID", "AccessPassword", "MB", "WordPtr", "WriteDataWordCount",
          "WriteData"]
        encode := some encodeC1G2Write }),
    ("C1G2Lock",
      { type := 344
        ownFields := ["OpSpecID", "AccessPassword"]
        ownNFields := ["C1G2LockPayload"]
        encode := some encodeC1G2Lock }),
    ("C1G2LockPayload",
      { type := 345
        ownFields := ["Privilege", "DataField"]
        encode := some encodeC1G2LockPayload }),
    ("C1G2BlockWrite",
      { type := 347
        ownFields := ["OpSpecID", "AccessPassword", "MB", "WordPtr", "WriteDataWordCount",
          "WriteData"]
        encode := some encodeC1G2BlockWrite }),
    ("AccessReportSpec",
      { type := 239
        ownFields := ["AccessReportTrigger"]
        decode := some (basicParamDecodeGenerator [.ubyte] [])
        encode := some (basicParamEncodeGenerator [.ubyte] ["AccessReportTrigger"]) }),
    ("ROBoundarySpec",
      { type := 178
        oFields := ["ROSpecStartTrigger", "ROSpecStopTrigger"]
        decode := some decodeAll
        encode := some encodeAll }),
    ("ROSpecStartTrigger",
      { type := 179
        ownFields := ["ROSpecStartTriggerType"]
        oFields := ["PeriodicTriggerValue", "GPITriggerValue"]
        decode := some (basicAutoParamDecodeGenerator [.ubyte] ["ROSpecStartTriggerType"])
        encode := some encodeROSpecStartTrigger }),
    ("PeriodicTriggerValue",
      { type := 180
        ownFields := ["Offset", "Period"]
        oFields := ["UTCTimestamp"]
        decode := some (basicAutoParamDecodeGenerator [.uint, .uint] ["Offset", "Period"])
        encode := some (basicAutoParamEncodeGenerator [.uint, .uint] ["Offset", "Period"]) }),
    ("GPITriggerValue",
      { type := 181
        ownFields := ["GPIPortNum", "GPIEvent", "Timeout"]
        decode := some decodeGPITriggerValue
        encode := some encodeGPITriggerValue }),
    ("ROSpecStopTrigger",
      { type := 182
        ownFields := ["ROSpecStopTriggerType", "DurationTriggerValue"]
        oFields := ["GPITriggerValue"]
        decode := some decodeROSpecStopTrigger
        encode := some encodeROSpecStopTrigger }),
    ("AISpec",
      { type := 183
        ownFields := ["AntennaCount", "AntennaID"]
        oFields := ["AISpecStopTrigger"]
        ownNFields := ["InventoryParameterSpec"]
        decode := some decodeAISPec
        encode := some encodeAISpec }),
    ("AISpecStopTrigger",
      { type := 184
        ownFields := ["AISpecStopTriggerType", "DurationTriggerValue"]
        oFields := ["GPITriggerValue", "TagObservationTrigger"]
        decode := some (basicAutoParamDecodeGenerator [.ubyte, .uint]
          ["AISpecStopTriggerType", "DurationTriggerValue"])
        encode := some encodeAISpecStopTrigger }),
    ("TagObservationTrigger",
      { type := 185
        ownFields := ["TriggerType", "NumberOfTags", "NumberOfAttempts", "T", "Timeout"]
        decode := some decodeTagObservationTrigger
        encode := some encodeTagObservationTrigger }),
    ("InventoryParameterSpec",
      { type := 186
        ownFields := ["InventoryParameterSpecID", "ProtocolID"]
        ownNFields := ["AntennaConfiguration"]
        decode := some (basicAutoParamDecodeGenerator [.ushort, .ubyte]
          ["InventoryParameterSpecID", "ProtocolID"])
        encode := some (basicAutoParamEncodeGenerator [.ushort, .ubyte]
          ["InventoryParameterSpecID", "ProtocolID"]) })]

/-! ## Reader configuration -/

def configurationParams : List (String × ParamInfo) :=
  [("LLRPConfigurationStateValue",
      { type := 217
        ownFields := ["LLRPConfigurationStateValue"]
        decode := some (basicParamDecodeGenerator [.uint] ["LLRPConfigurationStateValue"]) }),
    ("Identification",
      { type := 218
        ownFields := ["IDType", "ReaderID"]
        decode := some decodeIdentification }),
    ("GPOWriteData",
      { type := 219
        ownFields := ["GPOPortNumber", "GPOData"]
        decode := some decodeGPOEvent }),
    ("KeepaliveSpec",
      { type := 220
        ownFields := ["KeepaliveTriggerType", "TimeInterval"]
        decode := some decodeKeepaliveSpec
        encode := some (basicAutoParamEncodeGenerator [.ubyte, .uint]
          ["KeepaliveTriggerType", "TimeInterval"]) }),
    ("AntennaProperties",
      { type := 221
        ownFields := ["Type", "AntennaConnected", "AntennaID", "AntennaGain"]
        decode := some decodeAntennaProperties }),
    ("AntennaConfiguration",
      { type := 222
        ownFields := ["AntennaID"]
        oFields := ["RFReceiver", "RFTransmitter"]
        ownNFields := ["C1G2InventoryCommand"]
        decode := some (basicAutoParamDecodeGenerator [.ushort] ["AntennaID"])
        encode := some (basicAutoParamEncodeGenerator [.ushort] ["AntennaID"]) }),
    ("RFReceiver",
      { type := 223
        ownFields := ["ReceiverSensitivity"]
        decode := some (basicParamDecodeGenerator [.ushort] ["ReceiverSensitivity"])
        encode := some (basicParamEncodeGenerator [.ushort] ["ReceiverSensitivity"]) }),
    ("RFTransmitter",
      { type := 224
        ownFields := ["HopTableId", "ChannelIndex", "TransmitPower"]
        decode := some (basicParamDecodeGenerator [.ushort, .ushort, .ushort]
          ["HopTableId", "ChannelIndex", "TransmitPower"])
        encode := some (basicParamEncodeGenerator [.ushort, .ushort, .ushort]
          ["HopTableId", "ChannelIndex", "TransmitPower"]) }),
    ("GPIPortCurrentState",
      { type := 225
        ownFields := ["GPIPortNum", "GPIConfig", "GPIState"]
        decode := some decodeGPIPortCurrentState
        encode := some encodeGPIPortCurrentState }),
    ("EventsAndReports",
      { type := 226
        ownFields := ["HoldEventsAndReportsUponReconnect"]
        decode := some decodeEventsAndReports }),
    ("C1G2InventoryCommand",
      { type := 330
        ownFields := ["TagInventoryStateAware", "C1G2Filter", "C1G2RFControl",
          "C1G2SingulationControl", "ImpinjInventoryConfiguration", "ImpinjInventorySearchMode",
          "ImpinjIntelligentAntennaManagement", "ImpinjFixedFrequencyList",
          "ImpinjReducedPowerFrequencyList", "ImpinjLowDutyCycle", "ImpinjRFPowerSweep"]
        oFields := ["C1G2RFControl", "C1G2SingulationControl", "ImpinjInventoryConfiguration",
          "ImpinjInventorySearchMode", "ImpinjIntelligentAntennaManagement",
          "ImpinjFixedFrequencyList", "ImpinjReducedPowerFrequencyList", "ImpinjLowDutyCycle",
          "ImpinjRFPowerSweep"]
        ownNFields := ["C1G2Filter"]
        decode := some decodeC1G2InventoryCommand
        encode := some encodeC1G2InventoryCommand }),
    ("C1G2Filter",
      { type := 331
        ownFields := ["T"]
        oFields := ["C1G2TagInventoryMask", "C1G2TagInventoryStateAwareFilterAction",
          "C1G2TagInventoryStateUnawareFilterAction"]
        encode := some encodeC1G2Filter }),
    ("C1G2TagInventoryMask",
      { type := 332
        ownFields := ["MB", "Pointer", "TagMask", "MaskBitCount"]
        encode := some encodeC1G2TagInventoryMask }),
    ("C1G2RFControl",
      { type := 335
        ownFields := ["ModeIndex", "Tari"]
        decode := some (basicParamDecodeGenerator [.ushort, .ushort] ["ModeIndex", "Tari"])
        encode := some (basicParamEncodeGenerator [.ushort, .ushort] ["ModeIndex", "Tari"]) }),
    ("C1G2SingulationControl",
      { type := 336
        ownFields := ["Session", "TagPopulation", "TagTransitTime"]
        oFields := ["C1G2TagInventoryStateAwareSingulationAction"]
        decode := some decodeC1G2SingulationControl
        encode := some encodeC1G2SingulationControl }),
    ("C1G2TagInventoryStateAwareSingulationAction",
      { type := 337
        ownFields := ["I", "S", "A"]
        decode := some decodeC1G2TagInventoryStateAwareSingulationAction }),
    ("ROReportSpec",
      { type := 237
        ownFields := ["ROReportTrigger", "N"]
        oFields := ["TagReportContentSelector", "ImpinjTagReportContentSelector",
          "MotoTagReportContentSelector"]
        decode := some decodeROReportSpec
        encode := some encodeROReportSpec }),
    ("ReaderEventNotificationSpec",
      { type := 244
        ownNFields := ["EventNotificationState"]
        decode := some decodeAll
        encode := some encodeReaderEventNotificationSpec }),
    ("EventNotificationState",
      { type := 245
        ownFields := ["EventType", "NotificationState"]
        decode := some decodeEventNotificationState
        encode := some encodeEventNotificationState }),
    ("TagReportContentSelector",
      { type := 238
        ownFields := ["EnableROSpecID", "EnableSpecIndex", "EnableInventoryParameterSpecID",
          "EnableAntennaID", "EnableChannelIndex", "EnablePeakRSSI", "EnableFirstSeenTimestamp",
          "EnableLastSeenTimestamp", "EnableTagSeenCount", "EnableAccessSpecID"]
        oFields := ["C1G2EPCMemorySelector"]
        decode := some decodeTagReportContentSelector
        encode := some encodeTagReportContentSelector }),
    ("C1G2EPCMemorySelector",
      { type := 348
        ownFields := ["EnableCRC", "EnablePCBits", "EnableXPCBits"]
        decode := some decodeC1G2EPCMemorySelector
        encode := some encodeC1G2EPCMemorySelector })]

/-! ## Reports -/

def reportParams : List (String × ParamInfo) :=
  [("TagReportData",
      { type := 240
        oFields := ["EPC", "EPC-96", "ROSpecID", "SpecIndex", "InventoryParameterSpecID",
          "AntennaID", "PeakRSSI", "ChannelIndex", "FirstSeenTimestampUTC",
          "FirstSeenTimestampUptime", "LastSeenTimestampUTC", "LastSeenTimestampUptime",
          "TagSeenCount", "C1G2CRC", "C1G2PC", "C1G2XPCW1", "C1G2XPCW2", "AccessSpecID",
          "C1G2ReadOpSpecResult", "C1G2WriteOpSpecResult", "C1G2KillOpSpecResult",
          "C1G2RecommissionOpSpecResult", "C1G2LockOpSpecResult", "C1G2BlockEraseOpSpecResult",
          "C1G2BlockWriteOpSpecResult", "C1G2BlockPermalockOpSpecResult",
          "C1G2GetBlockPermalockStatusOpSpecResult", "ImpinjRFPhaseAngle", "ImpinjPeakRSSI",
          "ImpinjRFDopplerFrequency", "ImpinjSerializedTID", "ImpinjGPSCoordinates",
          "ImpinjTxPower", "MotoTagPhase"]
        decode := some decodeTagReportData }),
    ("C1G2ReadOpSpecResult",
      { type := 349
        ownFields := ["Result", "OpSpecID", "ReadDataWordCount", "ReadData"]
        decode := some decodeC1G2ReadOpSpecResult }),
    ("C1G2WriteOpSpecResult",
      { type := 350
        ownFields := ["Result", "OpSpecID", "NumWordsWritten"]
        decode := some decodeC1G2WriteOpSpecResult }),
    ("C1G2KillOpSpecResult",
      { type := 351
        ownFields := ["Result", "OpSpecID"]
        decode := some decodeBasicOpSpecResult }),
    ("C1G2RecommissionOpSpecResult",
      { type := 360
        ownFields := ["Result", "OpSpecID"]
        decode := some decodeBasicOpSpecResult }),
    ("C1G2LockOpSpecResult",
      { type := 352
        ownFields := ["Result", "OpSpecID"]
        decode := some decodeBasicOpSpecResult }),
    ("C1G2BlockEraseOpSpecResult",
      { type := 353
        ownFields := ["Result", "OpSpecID"]
        decode := some decodeBasicOpSpecResult }),
    ("C1G2BlockWriteOpSpecResult",
      { type := 354
        ownFields := ["Result", "OpSpecID", "NumWordsWritten"]
        decode := some decodeC1G2WriteOpSpecResult }),
    ("C1G2BlockPermalockOpSpecResult",
      { type := 361
        ownFields := ["Result", "OpSpecID"]
        decode := some decodeBasicOpSpecResult }),
    ("C1G2GetBlockPermalockStatusOpSpecResult",
      { type := 362
        ownFields := ["Result", "OpSpecID", "StatusWordCount", "PermalockStatus"]
        decode := some decodeC1G2GetBlockPermalockStatusOpSpecResult }),
    ("EPC", { type := 241, decode := some decodeEPCData }),
    ("EPC-96", { type := 13, tvEncoded := true, decode := some decodeEPC96 }),
    ("C1G2SingulationDetails",
      { type := 18, tvEncoded := true
        ownFields := ["NumCollisionSlots", "NumEmptySlots"]
        decode := some (basicParamDecodeGenerator [.ushort, .ushort]
          ["NumCollisionSlots", "NumEmptySlots"])
        encode := some (basicParamEncodeGenerator [.ushort, .ushort]
          ["NumCollisionSlots", "NumEmptySlots"]) })]

/-! ## Events -/

def eventParams : List (String × ParamInfo) :=
  [("HoppingEvent",
      { type := 247
        ownFields := ["HopTableID", "NextChannelIndex"]
        decode := some (basicParamDecodeGenerator [.ushort, .ushort]
          ["HopTableID", "NextChannelIndex"])
        encode := some (basicParamEncodeGenerator [.ushort, .ushort]
          ["HopTableID", "NextChannelIndex"]) }),
    ("GPIEvent",
      { type := 248
        ownFields := ["GPIPortNumber", "GPIEvent"]
        decode := some decodeGPIEvent
        encode := some encodeGPIEvent }),
    ("ROSpecEvent",
      { type := 249
        ownFields := ["EventType", "ROSpecID", "PreemptingROSpecID"]
        decode := some decodeROSpecEvent
        encode := some encodeROSpecEvent }),
    ("ReportBufferLevelWarning",
      { type := 250
        ownFields := ["ReportBufferPercentageFull"]
        decode := some (basicParamDecodeGenerator [.ubyte] ["ReportBufferPercentageFull"])
        encode := some (basicParamEncodeGenerator [.ubyte] ["ReportBufferPercentageFull"]) }),
    ("ReportBufferOverflowErrorEvent",
      { type := 251
        decode := some decodeAll
        encode := some encodeNothing }),
    ("ReaderExceptionEvent",
      { type := 252
        ownFields := ["MessageByteCount", "Message"]
        oFields := ["ROSpecID", "SpecIndex", "InventoryParameterSpec", "AntennaID",
          "AccessSpecID", "OpSpecID", "ImpinjHubConfiguration"]
        decode := some decodeReaderExceptionEvent
        encode := some encodeReaderExceptionEvent }),
    ("RFSurveyEvent",
      { type := 253
        ownFields := ["EventType", "ROSpecID", "SpecIndex"]
        decode := some decodeRFSurveyEvent
        encode := some encodeRFSurveyEvent }),
    ("AISpecEvent",
      { type := 254
        ownFields := ["EventType", "ROSpecID", "SpecIndex"]
        oFields := ["C1G2SingulationDetails"]
        decode := some decodeAISpecEvent
        encode := some encodeAISpecEvent }),
    ("AntennaEvent",
      { type := 255
        ownFields := ["EventType", "AntennaID"]
        decode := some decodeAntennaEvent
        encode := some encodeAntennaEvent }),
    ("ConnectionAttemptEvent",
      { type := 256
        ownFields := ["Status"]
        decode := some decodeConnectionAttemptEvent
        encode := some encodeConnectionAttemptEvent }),
    ("ConnectionCloseEvent",
      { type := 257
        decode := some decodeAll
        encode := some encodeNothing }),
    ("SpecLoopEvent",
      { type := 356
        ownFields := ["ROSpecID", "LoopCount"]
        decode := some (basicParamDecodeGenerator [.uint, .uint] ["ROSpecID", "LoopCount"])
        encode := some (basicParamEncodeGenerator [.uint, .uint] ["ROSpecID", "LoopCount"]) }),
    ("ReaderEventNotificationData",
      { type := 246
        oFields := ["UTCTimestamp", "Uptime", "HoppingEvent", "GPIEvent", "ROSpecEvent",
          "ReportBufferLevelWarningEvent", "ReportBufferOverflowErrorEvent",
          "ReaderExceptionEvent", "RFSurveyEvent", "AISpecEvent", "AntennaEvent",
          "ConnectionAttemptEvent", "ConnectionCloseEvent", "SpecLoopEvent",
          "ImpinjAntennaAttemptEvent"]
        decode := some decodeAll
        encode := some encodeAll })]

/-! ## Errors -/

def errorParams (typeName : ℤ → Option String) : List (String × ParamInfo) :=
  [("LLRPStatus",
      { type := 287
        ownFields := ["StatusCode", "ErrorDescription"]
        oFields := ["FieldError", "ParameterError"]
        decode := some decodeLLRPStatus }),
    ("FieldError",
      { type := 288
        ownFields := ["FieldNum", "ErrorCode"]
        decode := some decodeFieldError }),
    ("ParameterError",
      { type := 289
        ownFields := ["ParameterType", "ErrorCode"]
        oFields := ["FieldError", "ParameterError"]
        decode := some (decodeParameterError typeName) }),
    ("CustomParameter",
      { type := typeCustom
        ownFields := ["VendorID", "Subtype", "Payload"]
        encode := some encodeCustomParameter })]

/-! ## Vendors -/

def impinjParams : List (String × ParamInfo) :=
  [("ImpinjRequestedData",
      { type := typeCustom, vendorId := vendorIdImpinj, subtype := 21
        ownFields := ["RequestedData"]
        encode := some (basicParamEncodeGenerator [.uint] ["RequestedData"]) }),
    ("ImpinjSubRegulatoryRegion",
      { type := typeCustom, vendorId := vendorIdImpinj, subtype := 22
        ownFields := ["RegulatoryRegion"]
        decode := some (basicParamDecodeGenerator [.ushort] ["RegulatoryRegion"]) }),
    ("ImpinjInventorySearchMode",
      { type := typeCustom, vendorId := vendorIdImpinj, subtype := 23
        ownFields := ["InventorySearchMode"]
        decode := some (basicAutoParamDecodeGenerator [.ushort] ["InventorySearchMode"])
        encode := some (basicAutoParamEncodeGenerator [.ushort] ["InventorySearchMode"]) }),
    ("ImpinjFixedFrequencyList",
      { type := typeCustom, vendorId := vendorIdImpinj, subtype := 26
        ownFields := ["FixedFrequencyMode", "Reserved", "ChannelList"]
        decode := some decodeImpinjFixedFrequencyList
        encode := some encodeImpinjFixedFrequencyList }),
    ("ImpinjReducedPowerFrequencyList",
      { type := typeCustom, vendorId := vendorIdImpinj, subtype := 27
        ownFields := ["ReducedPowerMode", "ReducedPowerChannelList"]
        decode := some decodeImpinjReducedPowerFrequencyList }),
    ("ImpinjLowDutyCycle",
      { type := typeCustom, vendorId := vendorIdImpinj, subtype := 28
        ownFields := ["LowDutyCycleMode", "EmptyFieldTimeout", "FieldPingInterval"]
        decode := some (basicAutoParamDecodeGenerator [.ushort, .ushort, .ushort]
          ["LowDutyCycleMode", "EmptyFieldTimeout", "FieldPingInterval"]) }),
    ("ImpinjDetailedVersion",
      { type := typeCustom, vendorId := vendorIdImpinj, subtype := 29
        ownFields := ["ModelName", "SerialNumber", "SoftwareVersion", "FirmwareVersion",
          "FPGAVersion", "PCBAVersion"]
        oFields := ["ImpinjHubVersions", "ImpinjArrayVersion", "ImpinjBLEVersion"]
        decode := some decodeImpinjDetailedVersion }),
    ("ImpinjFrequencyCapabilities",
      { type := typeCustom, vendorId := vendorIdImpinj, subtype := 30
        ownFields := ["NumFrequencies", "FrequencyList"]
        decode := some decodeImpinjFrequencyCapabilities }),
    ("ImpinjGPIDebounceConfiguration",
      { type := typeCustom, vendorId := vendorIdImpinj, subtype := 36
        ownFields := ["GPIPortNum", "GPIDebounceTimerMSec"]
        decode := some (basicParamDecodeGenerator [.ushort, .uint]
          ["GPIPortNum", "GPIDebounceTimerMSec"]) }),
    ("ImpinjReaderTemperature",
      { type := typeCustom, vendorId := vendorIdImpinj, subtype := 37
        ownFields := ["Temperature"]
        decode := some (basicAutoParamDecodeGenerator [.short] ["Temperature"]) }),
    ("ImpinjLinkMonitorConfiguration",
      { type := typeCustom, vendorId := vendorIdImpinj, subtype := 38
        ownFields := ["LinkMonitorMode", "LinkDownThreshold"]
        decode := some (basicAutoParamDecodeGenerator [.ushort, .ushort]
          ["LinkMonitorMode", "LinkDownThreshold"]) }),
    ("ImpinjReportBufferConfiguration",
      { type := typeCustom, vendorId := vendorIdImpinj, subtype := 39
        ownFields := ["ReportBufferMode"]
        decode := some (basicAutoParamDecodeGenerator [.ushort] ["ReportBufferMode"]) }),
    ("ImpinjAccessSpecConfiguration",
      { type := typeCustom, vendorId := vendorIdImpinj, subtype := 40
        oFields := ["ImpinjBlockWriteWordCount", "ImpinjOpSpecRetryCount",
          "ImpinjAccessSpecOrdering"]
        decode := some decodeAll }),
    ("ImpinjBlockWriteWordCount",
      { type := typeCustom, vendorId := vendorIdImpinj, subtype := 41
        ownFields := ["WordCount"]
        decode := some (basicAutoParamDecodeGenerator [.ushort] ["WordCount"]) }),
    ("ImpinjTagReportContentSelector",
      { type := typeCustom, vendorId := vendorIdImpinj, subtype := 50
        oFields := ["ImpinjEnableSerializedTID", "ImpinjEnableRFPhaseAngle",
          "ImpinjEnablePeakRSSI", "ImpinjEnableGPSCoordinates", "ImpinjEnableOptimizedRead",
          "ImpinjEnableRFDopplerFrequency", "ImpinjEnableTxPower"]
        decode := some decodeAll
        encode := some encodeAll }),
    ("ImpinjEnableSerializedTID",
      { type := typeCustom, vendorId := vendorIdImpinj, subtype := 51
        ownFields := ["SerializedTIDMode"]
        decode := some (basicParamDecodeGenerator [.ushort] ["SerializedTIDMode"])
        encode := some (basicParamEncodeGenerator [.ushort] ["SerializedTIDMode"]) }),
    ("ImpinjEnableRFPhaseAngle",
      { type := typeCustom, vendorId := vendorIdImpinj, subtype := 52
        ownFields := ["RFPhaseAngleMode"]
        decode := some (basicParamDecodeGenerator [.ushort] ["RFPhaseAngleMode"])
        encode := some (basicParamEncodeGenerator [.ushort] ["RFPhaseAngleMode"]) }),
    ("ImpinjEnablePeakRSSI",
      { type := typeCustom, vendorId := vendorIdImpinj, subtype := 53
        ownFields := ["PeakRSSIMode"]
        decode := some (basicParamDecodeGenerator [.ushort] ["PeakRSSIMode"])
        encode := some (basicParamEncodeGenerator [.ushort] ["PeakRSSIMode"]) }),
    ("ImpinjEnableGPSCoordinates",
      { type := typeCustom, vendorId := vendorIdImpinj, subtype := 54
        ownFields := ["GPSCoordinatesMode"]
        decode := some (basicParamDecodeGenerator [.ushort] ["GPSCoordinatesMode"])
        encode := some (basicParamEncodeGenerator [.ushort] ["GPSCoordinatesMode"]) }),
    ("ImpinjSerializedTID",
      { type := typeCustom, vendorId := vendorIdImpinj, subtype := 55
        ownFields := ["TIDWordCount", "TID"]
        decode := some decodeImpinjSerializedTID }),
    ("ImpinjRFPhaseAngle",
      { type := typeCustom, vendorId := vendorIdImpinj, subtype := 56
        decode := some (basicParamDecodeGenerator [.ushort] []) }),
    ("ImpinjPeakRSSI",
      { type := typeCustom, vendorId := vendorIdImpinj, subtype := 57
        decode := some (basicParamDecodeGenerator [.short] []) }),
    ("ImpinjGPSCoordinates",
      { type := typeCustom, vendorId := vendorIdImpinj, subtype := 58
        ownFields := ["Latitude", "Longitude"]
        decode := some (basicAutoParamDecodeGenerator [.uint, .uint] ["Latitude", "Longitude"]) }),
    ("ImpinjGPSNMEASentences",
      { type := typeCustom, vendorId := vendorIdImpinj, subtype := 60
        oFields := ["ImpinjGGASentence", "ImpinjRMCSentence"]
        decode := some decodeAll }),
    ("ImpinjGGASentence",
      { type := typeCustom, vendorId := vendorIdImpinj, subtype := 61
        ownFields := ["GGASentence"]
        decode := some decodeImpinjGGA }),
    ("ImpinjRMCSentence",
      { type := typeCustom, vendorId := vendorIdImpinj, subtype := 62
        ownFields := ["RMCSentence"]
        decode := some decodeImpinjRMC }),
    ("ImpinjOpSpecRetryCount",
      { type := typeCustom, vendorId := vendorIdImpinj, subtype := 63
        ownFields := ["RetryCount"]
        decode := some (basicAutoParamDecodeGenerator [.ushort] ["RetryCount"]) }),
    ("ImpinjAdvancedGPOConfiguration",
      { type := typeCustom, vendorId := vendorIdImpinj, subtype := 64
        ownFields := ["GPOPortNum", "GPOMode", "GPOPulseDurationMSec"]
        decode := some (basicAutoParamDecodeGenerator [.ushort, .ushort, .uint]
          ["GPOPortNum", "GPOMode", "GPOPulseDurationMSec"]) }),
    ("ImpinjEnableOptimizedRead",
      { type := typeCustom, vendorId := vendorIdImpinj, subtype := 65
        ownFields := ["OptimizedReadMode"]
        ownNFields := ["C1G2Read"]
        decode := some (basicAutoParamDecodeGenerator [.ushort] ["OptimizedReadMode"])
        encode := some (basicAutoParamEncodeGenerator [.ushort] ["OptimizedReadMode"]) }),
    ("ImpinjAccessSpecOrdering",
      { type := typeCustom, vendorId := vendorIdImpinj, subtype := 66
        ownFields := ["OrderingMode"]
        decode := some (basicParamDecodeGenerator [.ushort] ["OrderingMode"]) }),
    ("ImpinjEnableRFDopplerFrequency",
      { type := typeCustom, vendorId := vendorIdImpinj, subtype := 67
        ownFields := ["RFDopplerFrequencyMode"]
        decode := some (basicParamDecodeGenerator [.ushort] ["RFDopplerFrequencyMode"])
        encode := some (basicParamEncodeGenerator [.ushort] ["RFDopplerFrequencyMode"]) }),
    ("ImpinjRFDopplerFrequency",
      { type := typeCustom, vendorId := vendorIdImpinj, subtype := 68
        decode := some (basicParamDecodeGenerator [.short] []) }),
    ("ImpinjInventoryConfiguration",
      { type := typeCustom, vendorId := vendorIdImpinj, subtype := 69
        ownFields := ["EnableAntDwellTimeLimit", "EnableSelectGapClose"]
        decode := some decodeImpinjInventoryConfiguration }),
    ("ImpinjEnableTxPower",
      { type := typeCustom, vendorId := vendorIdImpinj, subtype := 72
        ownFields := ["TxPowerMode"]
        decode := some (basicParamDecodeGenerator [.ushort] ["TxPowerMode"])
        encode := some (basicParamEncodeGenerator [.ushort] ["TxPowerMode"]) }),
    ("ImpinjTxPower",
      { type := typeCustom, vendorId := vendorIdImpinj, subtype := 73
        decode := some (basicParamDecodeGenerator [.ushort] []) }),
    ("ImpinjArrayVersion",
      { type := typeCustom, vendorId := vendorIdImpinj, subtype := 1520
        ownFields := ["SerialNumber", "FirmwareVersion", "PCBAVersion"]
        decode := some decodeImpinjArrayVersion }),
    ("ImpinjAntennaConfiguration",
      { type := typeCustom, vendorId := vendorIdImpinj, subtype := 1524
        oFields := ["ImpinjAntennaEventConfiguration", "ImpinjAntennaEventHysteresis"]
        decode := some decodeAll
        encode := some encodeAll }),
    ("ImpinjAntennaEventHysteresis",
      { type := typeCustom, vendorId := vendorIdImpinj, subtype := 1526
        ownFields := ["AntennaEventConnected", "AntennaEventDisconnected"]
        decode := some (basicAutoParamDecodeGenerator [.ulonglong, .ulonglong]
          ["AntennaEventConnected", "AntennaEventDisconnected"])
        encode := some (basicAutoParamEncodeGenerator [.ulonglong, .ulonglong]
          ["AntennaEventConnected", "AntennaEventDisconnected"]) }),
    ("ImpinjHubVersions",
      { type := typeCustom, vendorId := vendorIdImpinj, subtype := 1537
        ownNFields := ["ImpinjArrayVersion"]
        decode := some decodeAll
        encode := some encodeAll }),
    ("ImpinjHubConfiguration",
      { type := typeCustom, vendorId := vendorIdImpinj, subtype := 1538
        ownFields := ["HubID", "Connected", "Fault"]
        decode := some decodeImpinjHubConfiguration }),
    ("ImpinjIntelligentAntennaManagement",
      { type := typeCustom, vendorId := vendorIdImpinj, subtype := 1554
        ownFields := ["ManagementEnabled"]
        decode := some decodeImpinjIntelligentAntennaManagement
        encode := some encodeImpinjIntelligentAntennaManagement }),
    ("ImpinjTIDParity",
      { type := typeCustom, vendorId := vendorIdImpinj, subtype := 1566
        ownFields := ["ParityError"]
        decode := some decodeImpinjTIDParity }),
    ("ImpinjAntennaEventConfiguration",
      { type := typeCustom, vendorId := vendorIdImpinj, subtype := 1576
        ownFields := ["EnableAntennaAttemptNotification"]
        decode := some decodeImpinjAntennaEventConfiguration
        encode := some encodeImpinjAntennaEventConfiguration }),
    ("ImpinjAntennaAttemptEvent",
      { type := typeCustom, vendorId := vendorIdImpinj, subtype := 1577
        ownFields := ["AntennaID"]
        decode := some (basicParamDecodeGenerator [.ushort] ["AntennaID"])
        encode := some (basicParamEncodeGenerator [.ushort] ["AntennaID"]) }),
    ("ImpinjBLEVersion",
      { type := typeCustom, vendorId := vendorIdImpinj, subtype := 1580
        ownFields := ["FirmwareVersion"]
        decode := some decodeImpinjBLEVersion }),
    ("ImpinjRFPowerSweep",
      { type := typeCustom, vendorId := vendorIdImpinj, subtype := 1582
        ownFields := ["EnableRFPowerSweep", "MinimumPowerLevel", "PowerLevelStepSize"]
        decode := some decodeImpinjRFPowerSweep })]

def motorolaParams : List (String × ParamInfo) :=
  [("MotoGeneralCapabilities",
      { type := typeCustom, vendorId := vendorIdMotorola, subtype := 1
        ownFields := ["Version", "CanGetGeneralParams", "CanReportPartNumber",
          "CanReportRadioVersion", "CanSupportRadioPowerState", "CanSupportRadioTransmitDelay",
          "CanSupportZebraTrigger"]
        decode := some decodeMotoGeneralCapabilities }),
    ("MotoAutonomousCapabilities",
      { type := typeCustom, vendorId := vendorIdMotorola, subtype := 100
        ownFields := ["Version", "CanSupportAutonomousMode"]
        decode := some decodeMotoAutonomousCapabilities }),
    ("MotoAutonomousState",
      { type := typeCustom, vendorId := vendorIdMotorola, subtype := 101
        ownFields := ["AutonomousModeState"]
        decode := some decodeMotoAutonomousState }),
    ("MotoDefaultSpec",
      { type := typeCustom, vendorId := vendorIdMotorola, subtype := 102
        ownFields := ["UseDefaultSpecForAutoMode"]
        oFields := ["ROSpec"]
        ownNFields := ["AccessSpec"]
        decode := some decodeMotoDefaultSpec }),
    ("MotoTagEventsGenerationCapabilities",
      { type := typeCustom, vendorId := vendorIdMotorola, subtype := 120
        ownFields := ["Version", "CanSelectTagEvents", "CanSelectTagReportingFormat",
          "CanSelectMovingEvent"]
        decode := some decodeMotoTagEventsGenerationCapabilities }),
    ("MotoTagEventSelector",
      { type := typeCustom, vendorId := vendorIdMotorola, subtype := 121
        ownFields := ["ReportNewTagEvent", "NewTagEventModeratedTimeout",
          "ReportTagInvisibleEvent", "TagInvisibleEventModeratedTimeout",
          "ReportTagVisibilityChangeEvent", "TagVisibilityChangeEventModeratedTimeout"]
        decode := some decodeMotoTagEventSelector }),
    ("MotoTagReportMode",
      { type := typeCustom, vendorId := vendorIdMotorola, subtype := 122
        ownFields := ["ReportFormat"]
        decode := some decodeMotoTagReportMode }),
    ("MotoTagReportContentSelector",
      { type := typeCustom, vendorId := vendorIdMotorola, subtype := 708
        ownFields := ["EnableZoneID", "EnableZoneName", "EnableAntennaPhysicalPortConfig",
          "EnablePhase", "EnableGPS", "EnableMLTReport"]
        decode := some decodeMotoTagReportContentSelector
        encode := some encodeMotoTagReportContentSelector }),
    ("MotoTagPhase",
      { type := typeCustom, vendorId := vendorIdMotorola, subtype := 709
        decode := some decodeMotoTagPhase }),
    ("MotoFilterCapabilities",
      { type := typeCustom, vendorId := vendorIdMotorola, subtype := 200
        ownFields := ["Version", "CanFilterTagsBasedOnRSSI", "CanFilterTagsBasedOnTimeOfDay",
          "CanFilterTagsBasedOnUTCTimeStamp"]
        decode := some decodeMotoFilterCapabilities }),
    ("MotoUTCTimestamp",
      { type := typeCustom, vendorId := vendorIdMotorola, subtype := 250
        ownFields := ["Microseconds"]
        decode := some (basicAutoParamDecodeGenerator [.ulonglong] ["Microseconds"]) }),
    ("MotoFilterTimeOfDay",
      { type := typeCustom, vendorId := vendorIdMotorola, subtype := 251
        ownFields := ["Microseconds"]
        decode := some (basicAutoParamDecodeGenerator [.ulonglong] ["Microseconds"]) }),
    ("MotoFilterTimeRange",
      { type := typeCustom, vendorId := vendorIdMotorola, subtype := 252
        ownFields := ["TimeFormat", "Match"]
        ownNFields := ["MotoFilterTimeFormatChoice"]
        decode := some decodeMotoFilterTimeRange }),
    ("MotoFilterRSSIRange",
      { type := typeCustom, vendorId := vendorIdMotorola, subtype := 253
        ownFields := ["Match"]
        ownNFields := ["PeakRSSI"]
        decode := some decodeMotoFilterRSSIRange }),
    ("MotoFilterRule",
      { type := typeCustom, vendorId := vendorIdMotorola, subtype := 254
        ownFields := ["RuleType"]
        oFields := ["MotoFilterRSSIRange", "MotoFilterTimeRange"]
        ownNFields := ["MotoFilterTagList"]
        decode := some decodeMotoFilterRule }),
    ("MotoFilterList",
      { type := typeCustom, vendorId := vendorIdMotorola, subtype := 255
        ownFields := ["UseFilter"]
        ownNFields := ["MotoFilterRule"]
        decode := some decodeMotoFilterList }),
    ("MotoFilterTagList",
      { type := typeCustom, vendorId := vendorIdMotorola, subtype := 258
        ownFields := ["Match"]
        ownNFields := ["EPC"]
        decode := some decodeMotoFilterTagList }),
    ("MotoPersistenceCapabilities",
      { type := typeCustom, vendorId := vendorIdMotorola, subtype := 300
        ownFields := ["Version", "CanSaveConfiguration", "CanSaveTags", "CanSaveEvents"]
        decode := some decodeMotoPersistenceCapabilities }),
    ("MotoPersistenceSaveParams",
      { type := typeCustom, vendorId := vendorIdMotorola, subtype := 350
        ownFields := ["SaveConfiguration", "SaveTagData", "SaveTagEventData"]
        decode := some decodeMotoPersistenceSaveParams }),
    ("MotoC1G2LLRPCapabilities",
      { type := typeCustom, vendorId := vendorIdMotorola, subtype := 400
        ownFields := ["Version", "CanSupportBlockPermalock", "CanSupportRecommissioning",
          "CanWriteUMI", "CanSupportNXPCuxtomCommands", "CanSupportFujitsuCuxtomCommands",
          "CanSupportG2V2Commands "]
        decode := some decodeMotoC1G2LLRPCapabilities }),
    ("MotoCustomCommandOptions",
      { type := typeCustom, vendorId := vendorIdMotorola, subtype := 466
        ownFields := ["EnableNXPSetAndResetQuietCommands "]
        decode := some decodeMotoCustomCommandOptions })]

/-! ## The registry -/

/-- All parameters, with the names that ParameterError gives to types. -/
def allParams (typeName : ℤ → Option String) : List (String × ParamInfo) :=
  tveParams ++ capabilityParams ++ operationParams ++ configurationParams ++ reportParams ++
    eventParams ++ errorParams typeName ++ impinjParams ++ motorolaParams

/-- What the parameter types are called. -/
def paramType2Name : List ((ℕ × ℕ × ℕ) × String) :=
  (allParams fun _ => none).map fun (name, info) => (info.key, name)

def paramStruct : List (String × ParamInfo) :=
  allParams fun type => paramType2Name.lookup (type.toNat, 0, 0)

/-- The registry with its corrections. -/
def registry : Registry where
  param := fun name => paramStruct.lookup name
  typeName := fun key => paramType2Name.lookup key

end Sllurp.Codec
