/-
# Vendor parameters

The bodies of the Impinj and Motorola parameters.
-/

import Sllurp.Codec.Standard

namespace Sllurp.Codec

open Sllurp.Foundations Sllurp.Foundations.Wire Sllurp.Protocol

/-! ## Impinj -/

def encodeImpinjFixedFrequencyList : Encoder := fun encodeParam layout par => do
  let channels ← (← par.getD "ChannelList" (.list [])).items
  let head ← packStruct [.ushort, .ushort, .ushort]
    [← par.item "FixedFrequencyMode", .int 0, .int channels.length]
  let indexes ← channels.mapM fun channel => packStruct [.ushort] [channel]
  encodeAllParameters encodeParam layout par (head ++ indexes.flatten)

/-- A mode and a list of channels. -/
def decodeChannelList (modeName listName : String) : Decoder := fun _ data => do
  let (mode, _, count, ()) ← unpackHead [.ushort, .ushort, .ushort] data
  let channels ← decodeArray .ushort count.toNat (data.drop 6)
  .ok (.value (Fields.value (.ofList [(modeName, .int mode), (listName, .list channels)])))

def decodeImpinjFixedFrequencyList : Decoder :=
  decodeChannelList "FixedFrequencyMode" "ChannelList"

def decodeImpinjReducedPowerFrequencyList : Decoder :=
  decodeChannelList "ReducedPowerMode" "ReducedPowerChannelList"

/-- Strings, each with its length in front. -/
def decodeVersions (names : List String) (parameter : String) : Decoder := fun _ data => do
  let (fields, rest) ← decodeStrings names .empty data
  .ok (.rest parameter fields rest)

def decodeImpinjDetailedVersion : Decoder :=
  decodeVersions
    ["ModelName", "SerialNumber", "SoftwareVersion", "FirmwareVersion", "FPGAVersion",
      "PCBAVersion"]
    "ImpinjDetailedVersion"

def decodeImpinjFrequencyCapabilities : Decoder := fun _ data => do
  let (count, ()) ← unpackHead [.ushort] data
  let frequencies ← decodeArray .uint count.toNat (data.drop 2)
  .ok (.value (Fields.value (.ofList
    [("NumFrequencies", .int count), ("FrequencyList", .list frequencies)])))

def decodeImpinjSerializedTID : Decoder := fun _ data => do
  let (count, ()) ← unpackHead [.ushort] data
  let tid :=
    if count = 0 then [] else [("TID", Value.bytes ((data.drop 2).take (count.toNat * 2)))]
  .ok (.rest "ImpinjSerializedTID" (.ofList (("TIDWordCount", .int count) :: tid))
    (data.drop (2 + count.toNat * 2)))

/-- A sentence that is not cut off, and parameters behind it. -/
def decodeNmeaSentence (fieldName : String) : Decoder := fun name data =>
  if data.length < 2 then .error (.llrpError s!"Truncated {name}")
  else do
    let (count, ()) ← unpackHead [.ushort] data
    let body := data.drop 2
    if body.length < count.toNat then
      .error (.llrpError s!"Truncated {name}: declared {count} bytes, got {body.length}")
    else
      .ok (.rest name (.ofList [(fieldName, .bytes (body.take count.toNat))])
        (body.drop count.toNat))

def decodeImpinjGGA : Decoder := decodeNmeaSentence "GGASentence"

def decodeImpinjRMC : Decoder := decodeNmeaSentence "RMCSentence"

def decodeImpinjInventoryConfiguration : Decoder := fun _ data => do
  let (flags, ()) ← unpackHead [.ubyte] data
  .ok (.rest "ImpinjInventoryConfiguration"
    (.ofList (flagFields flags [("EnableAntDwellTimeLimit", 7), ("EnableSelectGapClose", 6)]))
    (data.drop 1))

def decodeImpinjArrayVersion : Decoder :=
  decodeVersions ["SerialNumber", "FirmwareVersion", "PCBAVersion"] "ImpinjArrayVersion"

def decodeImpinjHubConfiguration : Decoder := fun _ data => do
  let (hub, connected, fault, ()) ← unpackHead [.ushort, .ushort, .ushort] data
  .ok (.value (Fields.value (.ofList
    [("HubID", .int hub),
      ("Connected", .text ((Names.impinjHubConnectedType.name? connected).getD "Unknown")),
      ("Fault", .text ((Names.impinjHubFaultType.name? fault).getD "No_Fault"))])))

/-- Whatever is in the mapping: it enables if it is not empty. -/
def encodeEnabled : Encoder := fun _ _ par => packStruct [.ubyte] [flagBit par.truthy 7]

def encodeImpinjIntelligentAntennaManagement : Encoder := encodeEnabled

def decodeImpinjIntelligentAntennaManagement : Decoder := fun _ data => do
  let (flags, ()) ← unpackStruct [.ubyte] data
  .ok (.value (Fields.value (.ofList [("ManagementEnabled", flag flags 7)])))

def decodeImpinjTIDParity : Decoder := fun _ data => do
  let (flags, ()) ← unpackHead [.ushort] data
  .ok (.value (Fields.value (.ofList [("ParityError", flag flags 15)])))

def encodeImpinjAntennaEventConfiguration : Encoder := encodeEnabled

def decodeImpinjAntennaEventConfiguration : Decoder := fun _ data => do
  let (flags, ()) ← unpackHead [.ubyte] data
  .ok (.rest "ImpinjAntennaEventConfiguration"
    (.ofList [("EnableAntennaAttemptNotification", flag flags 7)]) (data.drop 1))

def decodeImpinjBLEVersion : Decoder := decodeVersions ["FirmwareVersion"] "ImpinjBLEVersion"

def decodeImpinjRFPowerSweep : Decoder := fun _ data => do
  let (flags, minimum, stepSize, ()) ← unpackStruct [.ubyte, .ushort, .ushort] data
  .ok (.value (Fields.value (.ofList
    [("MinimumPowerLevel", .int minimum), ("PowerLevelStepSize", .int stepSize),
      ("EnableRFPowerSweep", flag flags 7)])))

/-! ## Motorola -/

/-- A version and flags. -/
def decodeVersionFlags (names : List (String × ℕ)) : Decoder := fun _ data => do
  let (version, flags, ()) ← unpackHead [.uint, .ubyte] data
  .ok (.value (Fields.value (.ofList (("Version", .int version) :: flagFields flags names))))

def decodeMotoGeneralCapabilities : Decoder :=
  decodeVersionFlags
    [("CanGetGeneralParams", 7), ("CanReportPartNumber", 6), ("CanReportRadioVersion", 5),
      ("CanSupportRadioPowerState", 4), ("CanSupportRadioTransmitDelay", 3),
      ("CanSupportZebraTrigger", 2)]

def decodeMotoAutonomousCapabilities : Decoder :=
  decodeVersionFlags [("CanSupportAutonomousMode", 7)]

def decodeMotoAutonomousState : Decoder := fun _ data => do
  let (flags, ()) ← unpackHead [.ubyte] data
  .ok (.value (Fields.value (.ofList [("AutonomousModeState", flag flags 7)])))

def decodeMotoDefaultSpec : Decoder := fun _ data => do
  let (flags, ()) ← unpackHead [.ubyte] data
  .ok (.rest "MotoDefaultSpec" (.ofList [("UseDefaultSpecForAutoMode", flag flags 7)])
    (data.drop 1))

def decodeMotoTagEventsGenerationCapabilities : Decoder :=
  decodeVersionFlags
    [("CanSelectTagEvents", 7), ("CanSelectTagReportingFormat", 6), ("CanSelectMovingEvent", 5)]

def decodeMotoTagEventSelector : Decoder := fun _ data => do
  let (newTag, newTimeout, invisible, invisibleTimeout, visibility, visibilityTimeout, ()) ←
    unpackHead [.ubyte, .ushort, .ubyte, .ushort, .ubyte, .ushort] data
  let newTag ← Names.motoTagEventSelector.name newTag
  let invisible ← Names.motoTagEventSelector.name invisible
  let visibility ← Names.motoTagEventSelector.name visibility
  .ok (.value (Fields.value (.ofList
    [("ReportNewTagEvent", newTag), ("NewTagEventModeratedTimeout", .int newTimeout),
      ("ReportTagInvisibleEvent", invisible),
      ("TagInvisibleEventModeratedTimeout", .int invisibleTimeout),
      ("ReportTagVisibilityChangeEvent", visibility),
      ("TagVisibilityChangeEventModeratedTimeout", .int visibilityTimeout)])))

def decodeMotoTagReportMode : Decoder := fun _ data => do
  let (format, ()) ← unpackHead [.ubyte] data
  .ok (.value (Fields.value (.ofList [("ReportFormat", ← Names.motoTagReportMode.name format)])))

def motoTagReportContentSelectorNames : List String :=
  ["EnableZoneID", "EnableZoneName", "EnableAntennaPhysicalPortConfig", "EnablePhase",
    "EnableGPS", "EnableMLTReport"]

def encodeMotoTagReportContentSelector : Encoder := fun _ layout par => do
  let areSet ← (selectorNames layout).mapM fun name => do
    .ok (← par.getD name (.bool false)).truthy
  packStruct [.uint] [.int (selectorFlags areSet 31)]

def decodeMotoTagReportContentSelector : Decoder := fun _ data => do
  let (flags, ()) ← unpackHead [.uint] data
  .ok (.value (Fields.value (.ofList
    (selectorFields flags motoTagReportContentSelectorNames 31))))

def decodeMotoTagPhase : Decoder := fun _ data => do
  let (phase, ()) ← unpackHead [.short] data
  .ok (.value (.fraction (phase * 180 / 32768)))

def decodeMotoFilterCapabilities : Decoder :=
  decodeVersionFlags
    [("CanFilterTagsBasedOnRSSI", 7), ("CanFilterTagsBasedOnTimeOfDay", 6),
      ("CanFilterTagsBasedOnUTCTimeStamp", 5)]

def decodeMotoFilterTimeRange : Decoder := fun _ data => do
  let (format, isMatch, ()) ← unpackHead [.ubyte, .ubyte] data
  let isMatch ← Names.matchType.name isMatch
  .ok (.rest "MotoFilterTimeRange" (.ofList [("TimeFormat", .int format), ("Match", isMatch)])
    (data.drop 2))

def decodeMotoFilterRSSIRange : Decoder := fun _ data => do
  let (isMatch, ()) ← unpackHead [.ushort] data
  .ok (.rest "MotoFilterRSSIRange" (.ofList [("Match", ← Names.matchType.name isMatch)])
    (data.drop 2))

def decodeMotoFilterRule : Decoder := fun _ data => do
  let (rule, ()) ← unpackHead [.ubyte] data
  .ok (.rest "MotoFilterRule" (.ofList [("RuleType", ← Names.ruleType.name rule)])
    (data.drop 1))

def decodeMotoFilterList : Decoder := fun _ data => do
  let (useFilter, ()) ← unpackHead [.uint] data
  .ok (.rest "MotoFilterList" (.ofList [("UseFilter", flag useFilter 31)]) (data.drop 4))

def decodeMotoFilterTagList : Decoder := fun _ data => do
  let (isMatch, ()) ← unpackHead [.ubyte] data
  .ok (.rest "MotoFilterTagList" (.ofList [("Match", ← Names.ruleType.name isMatch)])
    (data.drop 1))

def decodeMotoPersistenceCapabilities : Decoder :=
  decodeVersionFlags [("CanSaveConfiguration", 7), ("CanSaveTags", 6), ("CanSaveEvents", 5)]

def decodeMotoPersistenceSaveParams : Decoder := fun _ data => do
  let (flags, ()) ← unpackHead [.ubyte] data
  .ok (.value (Fields.value (.ofList
    (flagFields flags
      [("SaveConfiguration", 7), ("SaveTagData", 6), ("SaveTagEventData", 5)]))))

def decodeMotoC1G2LLRPCapabilities : Decoder :=
  decodeVersionFlags
    [("CanSupportBlockPermalock", 7), ("CanSupportRecommissioning", 6), ("CanWriteUMI", 5),
      ("CanSupportNXPCuxtomCommands", 4), ("CanSupportFujitsuCuxtomCommands", 3),
      ("CanSupportG2V2Commands", 2)]

def decodeMotoCustomCommandOptions : Decoder := fun _ data => do
  let (flags, ()) ← unpackHead [.uint] data
  .ok (.value (Fields.value (.ofList
    [("EnableNXPSetAndResetQuietCommands", flag flags 31)])))

end Sllurp.Codec
