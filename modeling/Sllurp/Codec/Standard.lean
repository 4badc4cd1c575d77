/-
# Standard parameters

The bodies of the LLRP parameters: capabilities, reader operations, access
operations, reader configuration, reports, events and errors. Those that no
generator covers have functions of their own.
-/

import Sllurp.Codec.Names

namespace Sllurp.Codec

open Sllurp.Foundations Sllurp.Foundations.Wire Sllurp.Protocol

/-- Flags under their names, by position. -/
def flagFields (flags : ℤ) (names : List (String × ℕ)) : List (String × Value) :=
  names.map fun (name, position) => (name, flag flags position)

/-- The least bytes of a body that a record takes. -/
def unpackHead (formats : List Format) (data : List UInt8) : Except Exn (Record formats) :=
  unpackStruct formats (data.take (recordSize formats))

/-! ## Capabilities -/

def decodeFrequencyInformation : Decoder := fun _ data => do
  let (flags, ()) ← unpackHead [.ubyte] data
  .ok (.rest "FrequencyInformation" (.ofList [("Hopping", flag flags 7)]) (data.drop 1))

/-- The array of a declared count: without elements there is no key for it. -/
def arrayFields (name : String) (format : Format) (count : ℤ) (data : List UInt8) :
    Except Exn (List (String × Value)) :=
  if count = 0 then .ok []
  else do .ok [(name, .list (← decodeArray format count.toNat data))]

def decodeFrequencyHopTable : Decoder := fun _ data => do
  let (tableId, _, hops, ()) ← unpackHead [.ubyte, .ubyte, .ushort] data
  let frequencies ← arrayFields "Frequency" .uint hops (data.drop 4)
  .ok (.value (Fields.value (.ofList
    ([("HopTableId", .int tableId), ("NumHops", .int hops)] ++ frequencies))))

def decodeFixedFrequencyTable : Decoder := fun _ data => do
  let (count, ()) ← unpackHead [.ushort] data
  let frequencies ← arrayFields "Frequency" .uint count (data.drop 2)
  .ok (.value (Fields.value (.ofList ([("NumFrequencies", .int count)] ++ frequencies))))

def decodeC1G2LLRPCapabilities : Decoder := fun _ data => do
  let (flags, filters, ()) ← unpackStruct [.ubyte, .ushort] data
  .ok (.value (Fields.value (.ofList
    (("MaxNumSelectFiltersPerQuery", .int filters) ::
      flagFields flags
        [("CanSupportBlockErase", 7), ("CanSupportBlockWrite", 6),
          ("CanSupportBlockPermalock", 5), ("CanSupportTagRecommissioning", 4),
          ("CanSupportUMIMethod2", 3), ("CanSupportXPC", 2)]))))

def decodeUHFC1G2RFModeTableEntry : Decoder := fun _ data => do
  let (mode, rc, modulation, flm, m, bdr, pie, minTari, maxTari, stepTari, ()) ←
    unpackStruct
      [.uint, .ubyte, .ubyte, .ubyte, .ubyte, .uint, .uint, .uint, .uint, .uint] data
  .ok (.value (Fields.value (.ofList
    [("ModeIdentifier", .int mode), ("Mod", .int modulation), ("FLM", .int flm), ("M", .int m),
      ("BDR", .int bdr), ("PIE", .int pie), ("MinTari", .int minTari),
      ("MaxTari", .int maxTari), ("StepTari", .int stepTari), ("DR", .int (rc / 128)),
      ("EPCHAGTCConformance", flag rc 6)])))

def decodeLLRPCapabilities : Decoder := fun _ data => do
  let (flags, priority, timeout, roSpecs, specs, inventories, accessSpecs, opSpecs, ()) ←
    unpackStruct [.ubyte, .ubyte, .ushort, .uint, .uint, .uint, .uint, .uint] data
  .ok (.value (Fields.value (.ofList
    ([("MaxPriorityLevelSupported", .int priority), ("ClientRequestOpSpecTimeout", .int timeout),
      ("MaxNumROSpec", .int roSpecs), ("MaxNumSpecsPerROSpec", .int specs),
      ("MaxNumInventoryParametersSpecsPerAISpec", .int inventories),
      ("MaxNumAccessSpec", .int accessSpecs), ("MaxNumOpSpecsPerAccessSpec", .int opSpecs)] ++
      flagFields flags
        [("CanDoRFSurvey", 7), ("CanReportBufferFillWarning", 6),
          ("SupportsClientRequestOpSpec", 5), ("CanDoTagInventoryStateAwareSingulation", 4),
          ("SupportsEventAndReportHolding", 3)]))))

def decodeGeneralDeviceCapabilities : Decoder := fun _ data => do
  let (antennas, flags, manufacturer, model, count, ()) ←
    unpackHead [.ushort, .ushort, .uint, .uint, .ushort] data
  let pastVersion := 14 + count.toNat
  .ok (.rest "GeneralDeviceCapabilities"
    (.ofList
      [("MaxNumberOfAntennaSupported", .int antennas),
        ("DeviceManufacturerName", .int manufacturer), ("ModelName", .int model),
        ("FirmwareVersionByteCount", .int count),
        ("CanSetAntennaProperties", flag flags 15), ("HasUTCClockCapability", flag flags 14),
        ("ReaderFirmwareVersion", .bytes ((data.take pastVersion).drop 14))])
    (data.drop pastVersion))

def decodePerAntennaAirProtocol : Decoder := fun _ data => do
  let (antenna, count, ()) ← unpackHead [.ushort, .ushort] data
  let protocols ← arrayFields "ProtocolID" .ubyte count (data.drop 4)
  .ok (.value (Fields.value (.ofList
    ([("AntennaID", .int antenna), ("NumProtocols", .int count)] ++ protocols))))

/-! ## Reader operations -/

def encodeROSpec : Encoder := fun encodeParam layout par => do
  let state ← Names.roSpecState.code (← par.item "CurrentState")
  let packed ← packStruct [.uint, .ubyte, .ubyte]
    [← par.item "ROSpecID", ← par.item "Priority", state]
  encodeAllParameters encodeParam layout par packed

def encodeROSpecStartTrigger : Encoder := fun encodeParam layout par => do
  let triggerType ← Names.roSpecStartTriggerType.code (← par.item "ROSpecStartTriggerType")
  encodeAllParameters encodeParam layout par (← packStruct [.ubyte] [triggerType])

def encodeGPITriggerValue : Encoder := fun _ _ par => do
  let event := flagBit (← par.item "GPIEvent").truthy 7
  let port ← par.item "GPIPortNum"
  let timeout ← (← par.item "Timeout").toInt
  packStruct [.ushort, .ubyte, .uint] [port, event, .int timeout]

def decodeGPITriggerValue : Decoder := fun _ data => do
  let (port, event, timeout, ()) ← unpackHead [.ushort, .ubyte, .uint] data
  .ok (.value (Fields.value (.ofList
    [("GPIPortNum", .int port), ("GPIEvent", flag event 7), ("Timeout", .int timeout)])))

def encodeROSpecStopTrigger : Encoder := fun encodeParam layout par => do
  let triggerType ← Names.roSpecStopTriggerType.code (← par.item "ROSpecStopTriggerType")
  let duration ← (← par.item "DurationTriggerValue").toInt
  let packed ← packStruct [.ubyte, .uint] [triggerType, .int duration]
  encodeAllParameters encodeParam layout par packed

def decodeROSpecStopTrigger : Decoder := fun _ data => do
  let (triggerType, duration, ()) ← unpackHead [.ubyte, .uint] data
  let triggerName ← Names.roSpecStopTriggerType.name triggerType
  .ok (.rest "ROSpecStopTrigger"
    (.ofList [("ROSpecStopTriggerType", triggerName), ("DurationTriggerValue", .int duration)])
    (data.drop 5))

/-- The items that iterating over a value gives. -/
def Value.items : Value → Except Exn (List Value)
  | .list items => .ok items
  | .dict entries => .ok (entries.map (.text ·.1))
  | .text name => .ok (name.toList.map fun letter => .text letter.toString)
  | .bytes data => .ok (data.map fun byte => .int byte.toNat)
  | value => .error (.typeError s!"'{value.typeName}' object is not iterable")

def encodeAISpec : Encoder := fun encodeParam layout par => do
  let antennas ← (← par.item "AntennaID").items
  let count ← packStruct [.ushort] [.int antennas.length]
  let ids ← antennas.mapM fun antenna => do packStruct [.ushort] [.int (← antenna.toInt)]
  encodeAllParameters encodeParam layout par (count ++ ids.flatten)

/-- The numbers in whole elements of an array, however many there are. -/
def wholeArray (format : Format) (data : List UInt8) : Except Exn (List Value) :=
  decodeArray format (data.length / format.size) data

def decodeAISPec : Decoder := fun _ data => do
  let (count, ()) ← unpackHead [.ushort] data
  let antennas ← wholeArray .ushort ((data.drop 2).take (2 * count.toNat))
  .ok (.rest "AISpec" (.ofList [("AntennaCount", .int count), ("AntennaID", .list antennas)])
    (data.drop (2 + 2 * count.toNat)))

def encodeAISpecStopTrigger : Encoder := fun encodeParam layout par => do
  let triggerType ← Names.aiSpecStopTriggerType.code (← par.item "AISpecStopTriggerType")
  let duration ← (← par.getD "DurationTriggerValue" (.int 0)).toInt
  let packed ← packStruct [.ubyte, .uint] [triggerType, .int duration]
  encodeAllParameters encodeParam layout par packed

abbrev tagObservationTrigger : List Format := [.ubyte, .ubyte, .ushort, .ushort, .ushort, .uint]

def encodeTagObservationTrigger : Encoder := fun _ _ par => do
  let triggerType ← Names.tagObservationTrigger.code (← par.item "TriggerType")
  let tags ← (← par.item "NumberOfTags").toInt
  let attempts ← (← par.item "NumberOfAttempts").toInt
  let t ← (← par.item "T").toInt
  let timeout ← (← par.item "Timeout").toInt
  packStruct tagObservationTrigger
    [triggerType, .int 0, .int tags, .int attempts, .int t, .int timeout]

def decodeTagObservationTrigger : Decoder := fun _ data => do
  let (triggerType, _, tags, attempts, t, timeout, ()) ← unpackStruct tagObservationTrigger data
  let triggerName ← Names.tagObservationTrigger.name triggerType
  .ok (.value (Fields.value (.ofList
    [("TriggerType", triggerName), ("NumberOfTags", .int tags),
      ("NumberOfAttempts", .int attempts), ("T", .int t), ("Timeout", .int timeout)])))

def encodeC1G2InventoryCommand : Encoder := fun encodeParam layout par => do
  let flags := flagBit (← par.item "TagInventoryStateAware").truthy 7
  encodeAllParameters encodeParam layout par (← packStruct [.ubyte] [flags])

def decodeC1G2InventoryCommand : Decoder := fun _ data => do
  let (flags, ()) ← unpackHead [.ubyte] data
  .ok (.rest "C1G2InventoryCommand" (.ofList [("TagInventoryStateAware", flag flags 7)])
    (data.drop 1))

def encodeC1G2Filter : Encoder := fun encodeParam layout par => do
  let t ← (← par.getD "T" (.int 0)).toInt
  encodeAllParameters encodeParam layout par (← packStruct [.ubyte] [.int (t % 4 * 64)])

/-- `value << bits`. -/
def Value.shiftLeft (value : Value) (bits : ℕ) : Except Exn Value :=
  match value with
  | .bool isSet => .ok (.int (isSet.toInt * 2 ^ bits))
  | .int number => .ok (.int (number * 2 ^ bits))
  | _ => .error (.typeError s!"unsupported operand type(s) for <<: '{value.typeName}' and 'int'")

/-- The hexadecimal digits of a mask. -/
def Value.hexToBitArray : Value → Except Exn (ℕ × List UInt8)
  | .text digits => Codec.hexToBitArray digits
  | value =>
    if value.truthy then .error (.typeError s!"a hexadecimal text is not a '{value.typeName}'")
    else .ok (0, [])

def encodeC1G2TagInventoryMask : Encoder := fun _ _ par => do
  let (count, mask) ← (← par.item "TagMask").hexToBitArray
  let bank ← (← par.item "MB").shiftLeft 6
  let data ← packStruct [.ubyte, .ushort, .ushort] [bank, ← par.item "Pointer", .int count]
  .ok (data ++ mask)

def encodeC1G2SingulationControl : Encoder := fun _ _ par => do
  let session ← (← par.item "Session").shiftLeft 6
  packStruct [.ubyte, .ushort, .uint]
    [session, ← par.item "TagPopulation", ← par.item "TagTransitTime"]

def decodeC1G2SingulationControl : Decoder := fun _ data => do
  let (bits, population, transitTime, ()) ← unpackHead [.ubyte, .ushort, .uint] data
  .ok (.rest "C1G2SingulationControl"
    (.ofList
      [("TagPopulation", .int population), ("TagTransitTime", .int transitTime),
        ("Session", .int (bits / 64))])
    (data.drop 7))

def decodeC1G2TagInventoryStateAwareSingulationAction : Decoder := fun _ data => do
  let (isa, ()) ← unpackStruct [.ubyte] data
  let choose := fun position set unset =>
    Value.text (if isa.toNat.testBit position then set else unset)
  .ok (.value (Fields.value (.ofList
    [("I", choose 7 "State_B" "State_A"), ("S", choose 6 "Not_SL" "SL"),
      ("A", choose 5 "All" "No")])))

/-! ## Access operations -/

def encodeAccessSpec : Encoder := fun encodeParam layout par => do
  let state := flagBit (← par.item "CurrentState").truthy 7
  let packed ← packStruct [.uint, .ushort, .ubyte, .ubyte, .uint]
    [.int (← (← par.item "AccessSpecID").toInt), .int (← (← par.item "AntennaID").toInt),
      ← par.item "ProtocolID", state, ← par.item "ROSpecID"]
  encodeAllParameters encodeParam layout par packed

def encodeAccessSpecStopTrigger : Encoder := fun _ _ par => do
  packStruct [.ubyte, .ushort]
    [.int (← (← par.item "AccessSpecStopTriggerType").toInt),
      .int (← (← par.item "OperationCountValue").toInt)]

/-- `value.items()`. -/
def Value.entries : Value → Except Exn (List (String × Value))
  | .dict entries => .ok entries
  | value => .error (.attributeError s!"'{value.typeName}' object has no attribute 'items'")

def encodeAccessCommand : Encoder := fun encodeParam layout par => do
  let tagSpec ← (← par.item "TagSpecParameter").entries
  let data ←
    match tagSpec with
    | (name, spec) :: _ => encodeParam name spec
    | [] => .error (.typeError "StopIteration")
  let operations ← (← par.item "OpSpecParameter").items
  let data ← operations.foldlM
    (fun data operation => do
      (← operation.entries).foldlM
        (fun data (name, spec) => do .ok (data ++ (← encodeParam name spec))) data)
    data
  encodeAllParameters encodeParam layout par data

def encodeC1G2TargetTag : Encoder := fun _ _ par => do
  let (maskCount, mask) ← (← par.item "TagMask").hexToBitArray
  let (dataCount, bits) ← (← par.item "TagData").hexToBitArray
  let bank ← (← par.item "MB").toInt
  let isMatch := if (← par.item "M").truthy then 32 else 0
  -- The match flag is put over a bank that is a multiple of 64.
  let head ← packStruct [.ubyte, .ushort, .ushort]
    [.int (bank * 64 + isMatch), .int (← (← par.item "Pointer").toInt), .int maskCount]
  let count ← packStruct [.ushort] [.int dataCount]
  .ok (head ++ mask ++ count ++ bits)

abbrev c1g2ReadWrite : List Format := [.ushort, .uint, .ubyte, .ushort, .ushort]

/-- The fields that reading and writing have in common. -/
def packReadWrite (par : Value) (countName : String) : Except Exn (List UInt8) := do
  let opSpec ← (← par.item "OpSpecID").toInt
  let password ← (← par.item "AccessPassword").toInt
  let bank ← (← par.item "MB").toInt
  let pointer ← (← par.item "WordPtr").toInt
  let count ← (← par.item countName).toInt
  packStruct c1g2ReadWrite
    [.int opSpec, .int password, .int (bank * 64), .int pointer, .int count]

def encodeC1G2Read : Encoder := fun _ _ par => packReadWrite par "WordCount"

/-- Data that is already encoded. -/
def Value.rawBytes : Value → Except Exn (List UInt8)
  | .bytes data => .ok data
  | value => .error (.typeError s!"can't concat {value.typeName} to bytes")

def encodeC1G2Write : Encoder := fun _ _ par => do
  let data ← packReadWrite par "WriteDataWordCount"
  .ok (data ++ (← (← par.item "WriteData").rawBytes))

def encodeC1G2Lock : Encoder := fun encodeParam layout par => do
  let packed ← packStruct [.ushort, .uint]
    [.int (← (← par.item "OpSpecID").toInt), .int (← (← par.item "AccessPassword").toInt)]
  encodeAllParameters encodeParam layout par packed

def encodeC1G2LockPayload : Encoder := fun _ _ par => do
  packStruct [.byte, .ubyte]
    [.int (← (← par.item "Privilege").toInt), .int (← (← par.item "DataField").toInt)]

def encodeC1G2BlockWrite : Encoder := encodeC1G2Write

/-! ## Reader configuration -/

def decodeIdentification : Decoder := fun _ data => do
  let (idType, count, ()) ← unpackHead [.ubyte, .ushort] data
  let typeText := (["MAC Address", "EPC"][idType.toNat]?).getD ""
  .ok (.value (Fields.value (.ofList
    [("IDType", .text typeText),
      ("ReaderID", .bytes (hexlify ((data.drop 3).take count.toNat)))])))

def decodeGPOEvent : Decoder := fun _ data => do
  let (port, flags, ()) ← unpackStruct [.ushort, .ubyte] data
  .ok (.value (Fields.value (.ofList
    [("GPOPortNumber", .int port), ("GPOData", flag flags 7)])))

def decodeKeepaliveSpec : Decoder := fun _ data => do
  let (triggerType, interval, ()) ← unpackStruct [.ubyte, .uint] data
  let triggerName ← Names.keepaliveTriggerType.name triggerType
  .ok (.value (Fields.value (.ofList
    [("KeepaliveTriggerType", triggerName), ("TimeInterval", .int interval)])))

def decodeAntennaProperties : Decoder := fun _ data => do
  let (flags, antenna, gain, ()) ← unpackStruct [.ubyte, .ushort, .short] data
  .ok (.value (Fields.value (.ofList
    [("AntennaID", .int antenna), ("AntennaGain", .int gain),
      ("AntennaConnected", flag flags 7)])))

/-- The state of a port is not part of its configuration. -/
def encodeGPIPortCurrentState : Encoder := fun _ _ par => do
  let config := flagBit (← par.item "GPIConfig").truthy 7
  packStruct [.ushort, .ubyte, .ubyte] [← par.item "GPIPortNum", config, .int 0]

def decodeGPIPortCurrentState : Decoder := fun _ data => do
  let (port, flags, state, ()) ← unpackStruct [.ushort, .ubyte, .ubyte] data
  .ok (.value (Fields.value (.ofList
    [("GPIPortNum", .int port), ("GPIState", .int state), ("GPIConfig", flag flags 7)])))

def decodeEventsAndReports : Decoder := fun _ data => do
  let (flags, ()) ← unpackStruct [.ubyte] data
  .ok (.value (Fields.value (.ofList [("HoldEventsAndReportsUponReconnect", flag flags 7)])))

def encodeROReportSpec : Encoder := fun encodeParam layout par => do
  let trigger ← Names.roReportTrigger.code (← par.item "ROReportTrigger")
  let n ← (← par.item "N").toInt
  encodeAllParameters encodeParam layout par (← packStruct [.ubyte, .ushort] [trigger, .int n])

def decodeROReportSpec : Decoder := fun _ data => do
  let (trigger, n, ()) ← unpackHead [.ubyte, .ushort] data
  let triggerName ← Names.roReportTrigger.name trigger
  .ok (.rest "ROReportSpec" (.ofList [("N", .int n), ("ROReportTrigger", triggerName)])
    (data.drop 3))

/-- One state for each event that is named; events of another name are left out. -/
def encodeReaderEventNotificationSpec : Encoder := fun encodeParam _ par => do
  let states ← (← par.item "EventNotificationState").entries
  states.foldlM
    (fun data (event, isSet) =>
      if (Names.eventState.lookup event).isSome then do
        let state : Value := .dict [("EventType", .text event), ("NotificationState", isSet)]
        .ok (data ++ (← encodeParam "EventNotificationState" state))
      else .ok data)
    []

def encodeEventNotificationState : Encoder := fun _ _ par => do
  let event ← Names.eventState.code (← par.item "EventType")
  let enabled := flagBit (← par.item "NotificationState").truthy 7
  packStruct [.ushort, .ubyte] [event, enabled]

def decodeEventNotificationState : Decoder := fun _ data => do
  let (event, flags, ()) ← unpackStruct [.ushort, .ubyte] data
  let eventName ← Names.eventState.name event
  .ok (.value (Fields.value (.ofList
    [("EventType", eventName), ("NotificationState", flag flags 7)])))

/-- Flags as a number, the first one at the top. -/
def selectorFlags (areSet : List Bool) (top : ℕ) : ℤ :=
  areSet.zipIdx.foldl
    (fun flags (isSet, index) => if isSet then flags + 2 ^ (top - index) else flags) 0

/-- All flags under their names, the first one at the top. -/
def selectorFields (flags : ℤ) (fields : List String) (top : ℕ) : List (String × Value) :=
  fields.zipIdx.map fun (name, index) => (name, flag flags (top - index))

/-- The fields of a selector that are flags. -/
def selectorNames (layout : Layout) : List String :=
  layout.fields.filter fun name => name ∉ ["C1G2EPCMemorySelector", "CustomParameter"]

def encodeTagReportContentSelector : Encoder := fun encodeParam layout par => do
  let areSet ← (selectorNames layout).mapM fun name => do
    .ok (← par.getD name (.bool false)).truthy
  let packed ← packStruct [.ushort] [.int (selectorFlags areSet 15)]
  encodeAllParameters encodeParam layout par packed

def tagReportContentSelectorNames : List String :=
  ["EnableROSpecID", "EnableSpecIndex", "EnableInventoryParameterSpecID", "EnableAntennaID",
    "EnableChannelIndex", "EnablePeakRSSI", "EnableFirstSeenTimestamp",
    "EnableLastSeenTimestamp", "EnableTagSeenCount", "EnableAccessSpecID"]

def decodeTagReportContentSelector : Decoder := fun _ data => do
  let (flags, ()) ← unpackHead [.ushort] data
  .ok (.rest "TagReportContentSelector"
    (.ofList (selectorFields flags tagReportContentSelectorNames 15)) (data.drop 2))

def encodeC1G2EPCMemorySelector : Encoder := fun _ layout par => do
  let areSet ← (selectorNames layout).mapM fun name => do
    if ← par.contains name then .ok (← par.item name).truthy else .ok false
  packStruct [.ubyte] [.int (selectorFlags areSet 7)]

def decodeC1G2EPCMemorySelector : Decoder := fun _ data => do
  let (flags, ()) ← unpackStruct [.ubyte] data
  .ok (.value (Fields.value (.ofList
    (flagFields flags [("EnableCRC", 7), ("EnablePCBits", 6), ("EnableXPCBits", 5)]))))

/-! ## Reports -/

/-- A report has its EPC under one name, whichever parameter it came in. -/
def decodeTagReportData : Decoder := fun _ data =>
  .ok (.walk "TagReportData" .empty data fun fields =>
    match fields.get? "EPC-96" with
    | some epc => fields.set "EPC" epc
    | none => fields)

/-- What the results of all operations start with. -/
def basicOpSpecResult (data : List UInt8) : Except Exn (List (String × Value) × List UInt8) := do
  let (result, opSpec, ()) ← unpackHead [.ubyte, .ushort] data
  .ok ([("Result", .int result), ("OpSpecID", .int opSpec)], data.drop 3)

def decodeBasicOpSpecResult : Decoder := fun _ data => do
  let (fields, _) ← basicOpSpecResult data
  .ok (.value (Fields.value (.ofList fields)))

/-- A result with words, as many as are declared. -/
def decodeWordsResult (countName wordsName : String) : Decoder := fun _ data => do
  let (fields, data) ← basicOpSpecResult data
  let (count, ()) ← unpackHead [.ushort] data
  .ok (.value (Fields.value (.ofList
    (fields ++
      [(countName, .int count), (wordsName, .bytes ((data.drop 2).take (count.toNat * 2)))]))))

def decodeC1G2ReadOpSpecResult : Decoder := decodeWordsResult "ReadDataWordCount" "ReadData"

def decodeC1G2WriteOpSpecResult : Decoder := fun _ data => do
  let (fields, data) ← basicOpSpecResult data
  let (count, ()) ← unpackHead [.ushort] data
  .ok (.value (Fields.value (.ofList (fields ++ [("NumWordsWritten", .int count)]))))

def decodeC1G2GetBlockPermalockStatusOpSpecResult : Decoder :=
  decodeWordsResult "StatusWordCount" "PermalockStatus"

def decodeEPCData : Decoder := fun _ data => .ok (.value (.bytes (hexlify (data.drop 2))))

def decodeEPC96 : Decoder := fun _ data => .ok (.value (.bytes (hexlify (data.take 12))))

/-! ## Events -/

def encodeGPIEvent : Encoder := fun _ _ par => do
  let event := flagBit (← par.item "GPIEvent").truthy 7
  packStruct [.ushort, .ubyte] [← par.item "GPIPortNumber", event]

def decodeGPIEvent : Decoder := fun _ data => do
  let (port, flags, ()) ← unpackStruct [.ushort, .ubyte] data
  .ok (.value (Fields.value (.ofList
    [("GPIPortNumber", .int port), ("GPIEvent", flag flags 7)])))

/-- The code of an event type; unknown ones are refused. -/
def eventCode (events : Enumeration) (encoder : String) (par : Value) : Except Exn Value := do
  match ← events.code? (← par.item "EventType") with
  | some code => .ok (.int code)
  | none => .error (.llrpError s!"Error {encoder} unknown value for EventType")

def roSpecEvents : Enumeration :=
  [("Start_of_ROSpec", 0), ("End_of_ROSpec", 1), ("Preemption_of_ROSpec", 2)]

def encodeROSpecEvent : Encoder := fun _ _ par => do
  let event ← eventCode roSpecEvents "encode_ROSpecEvent" par
  packStruct [.ubyte, .uint, .uint]
    [event, ← par.item "ROSpecID", ← par.item "PreemptingROSpecID"]

def decodeROSpecEvent : Decoder := fun _ data => do
  let (event, roSpecId, preempting, ()) ← unpackStruct [.ubyte, .uint, .uint] data
  let eventName :=
    if event = 0 then "Start_of_ROSpec"
    else if event = 1 then "End_of_ROSpec"
    else "Preemption_of_ROSpec"
  .ok (.value (Fields.value (.ofList
    [("ROSpecID", .int roSpecId), ("PreemptingROSpecID", .int preempting),
      ("EventType", .text eventName)])))

/-- `len(value)`. -/
def Value.len : Value → Except Exn ℕ
  | .text name => .ok name.length
  | .bytes data => .ok data.length
  | .list items => .ok items.length
  | .dict entries => .ok entries.length
  | value => .error (.typeError s!"object of type '{value.typeName}' has no len()")

def encodeReaderExceptionEvent : Encoder := fun encodeParam layout par => do
  let message ← par.item "Message"
  let count ← packStruct [.ushort] [.int (← message.len)]
  encodeAllParameters encodeParam layout par (count ++ (← message.rawBytes))

def decodeReaderExceptionEvent : Decoder := fun _ data => do
  let (count, ()) ← unpackHead [.ushort] data
  let body := data.drop 2
  .ok (.rest "ReaderExceptionEvent" (.ofList [("Message", .bytes (body.take count.toNat))])
    (body.drop count.toNat))

def rfSurveyEvents : Enumeration := [("Start_of_RFSurvey", 0), ("End_of_RFSurvey", 1)]

def encodeRFSurveyEvent : Encoder := fun _ _ par => do
  let event ← eventCode rfSurveyEvents "encode_RFSurveyEvent" par
  packStruct [.ubyte, .uint, .ushort] [event, ← par.item "ROSpecID", ← par.item "SpecIndex"]

def decodeRFSurveyEvent : Decoder := fun _ data => do
  let (event, roSpecId, specIndex, ()) ← unpackStruct [.ubyte, .uint, .ushort] data
  let eventName := if event = 0 then "Start_of_RFSurvey" else "End_of_RFSurvey"
  .ok (.value (Fields.value (.ofList
    [("ROSpecID", .int roSpecId), ("SpecIndex", .int specIndex),
      ("EventType", .text eventName)])))

def encodeAISpecEvent : Encoder := fun encodeParam layout par => do
  let packed ← packStruct [.ubyte, .uint, .ushort]
    [.int 0, ← par.item "ROSpecID", ← par.item "SpecIndex"]
  encodeAllParameters encodeParam layout par packed

/-- Singulation details without a header of their own: four bytes, or six that start
with the type. -/
def legacySingulation (trailing : List UInt8) : Except Exn (Option Value) := do
  let details := fun collisions empty : ℤ =>
    Fields.value (.ofList [("NumCollisionSlots", .int collisions), ("NumEmptySlots", .int empty)])
  if trailing.length = 4 then
    let (collisions, empty, ()) ← unpackStruct [.ushort, .ushort] trailing
    .ok (some (details collisions empty))
  else if trailing.length = 6 then
    let (legacyType, collisions, empty, ()) ← unpackStruct [.ushort, .ushort, .ushort] trailing
    .ok (if legacyType = 18 then some (details collisions empty) else none)
  else .ok none

def decodeAISpecEvent : Decoder := fun name data =>
  if data.length < 7 then .error (.llrpError "Truncated AISpecEvent")
  else do
    let (event, roSpecId, specIndex, ()) ← unpackHead [.ubyte, .uint, .ushort] data
    if event ≠ 0 then .error (.llrpError s!"Unsupported AISpecEvent EventType: {event}")
    else
      let fields : Fields :=
        .ofList [("ROSpecID", .int roSpecId), ("SpecIndex", .int specIndex),
          ("EventType", .text "End_of_AISpec")]
      match ← legacySingulation (data.drop 7) with
      | some details => .ok (.value (Fields.value (fields.set "C1G2SingulationDetails" details)))
      | none => .ok (.rest name fields (data.drop 7))

def antennaEvents : Enumeration := [("Disconnected", 0), ("Connected", 1)]

def encodeAntennaEvent : Encoder := fun _ _ par => do
  let event ← eventCode antennaEvents "encode_AntennaEvent" par
  packStruct [.ubyte, .ushort] [event, ← par.item "AntennaID"]

def decodeAntennaEvent : Decoder := fun _ data => do
  let (event, antenna, ()) ← unpackStruct [.ubyte, .ushort] data
  let eventName := if event ≠ 0 then "Connected" else "Disconnected"
  .ok (.value (Fields.value (.ofList
    [("AntennaID", .int antenna), ("EventType", .text eventName)])))

def encodeConnectionAttemptEvent : Encoder := fun _ _ par => do
  packStruct [.ushort] [← Names.connEvent.code (← par.item "Status")]

def decodeConnectionAttemptEvent : Decoder := fun _ data => do
  let (status, ()) ← unpackStruct [.ushort] data
  .ok (.value (Fields.value (.ofList [("Status", ← Names.connEvent.name status)])))

/-! ## Errors -/

def decodeLLRPStatus : Decoder := fun _ data => do
  let (code, count, ()) ← unpackHead [.ushort, .ushort] data
  let status := (Names.error.name? code).toList.map fun name => ("StatusCode", Value.text name)
  let body := data.drop 4
  .ok (.rest "LLRPStatus"
    (.ofList (status ++ [("ErrorDescription", .bytes (body.take count.toNat))]))
    (body.drop count.toNat))

/-- The name of an error code, or the code itself. -/
def errorCode (code : ℤ) : Value :=
  match Names.error.name? code with
  | some name => .text name
  | none => .int code

def decodeFieldError : Decoder := fun _ data => do
  let (field, code, ()) ← unpackStruct [.ushort, .ushort] data
  .ok (.value (Fields.value (.ofList
    [("FieldNum", .int field), ("ErrorCode", errorCode code)])))

/-- The name of the parameter comes from the registry that the decoder is in. -/
def decodeParameterError (typeName : ℤ → Option String) : Decoder := fun _ data => do
  let (paramType, code, ()) ← unpackHead [.ushort, .ushort] data
  let paramName :=
    if paramType = typeCustom then .text "CustomParameter"
    else
      match typeName paramType with
      | some name => .text name
      | none => .int paramType
  .ok (.rest "ParameterError"
    (.ofList [("ParameterType", paramName), ("ErrorCode", errorCode code)]) (data.drop 4))

/-- A vendor's parameter that is already encoded. -/
def encodeCustomParameter : Encoder := fun _ _ par => do
  (← par.getD "Payload" (.bytes [])).rawBytes

end Sllurp.Codec
