/-
# How the registered types are read back

The table of forms for the types that have an encoder: which fields of a written
mapping are read, and as what. Codes of enumerations that a decoder does not name come
back as numbers, flags as truth values, and what the type does not have does not come
back. Types that are only written have no form.
-/

import Sllurp.Codec.ReadBack

namespace Sllurp.Codec

open Sllurp.Foundations Sllurp.Foundations.Wire Sllurp.Foundations.Outcome Sllurp.Protocol

/-! ## Fields -/

/-- A field that is read, and what from. -/
structure FieldReading where
  key : String
  read : Value → Except Exn Value

namespace FieldReading

/-- A number that is packed as it is. -/
def number (key : String) : FieldReading where
  key := key
  read par := do .ok (.int (← (← par.item key).index))

/-- A number that is converted. -/
def whole (key : String) : FieldReading where
  key := key
  read par := do .ok (.int (← (← par.item key).toInt))

/-- A flag. -/
def isSet (key : String) : FieldReading where
  key := key
  read par := do .ok (.bool (← par.item key).truthy)

/-- What comes back as it was. -/
def same (key : String) : FieldReading where
  key := key
  read par := par.item key

/-- A name that comes back as its code. -/
def code (names : Enumeration) (key : String) : FieldReading where
  key := key
  read par := do names.code (← par.item key)

/-- What is read whatever was written. -/
def constant (key : String) (value : Value) : FieldReading where
  key := key
  read _ := .ok value

/-- A flag that may be missing. -/
def selected (key : String) : FieldReading where
  key := key
  read par := do .ok (.bool (← par.getD key (.bool false)).truthy)

/-- A flag that is looked up only if it is there. -/
def present (key : String) : FieldReading where
  key := key
  read par := do
    if ← par.contains key then .ok (.bool (← par.item key).truthy) else .ok (.bool false)

/-- Whatever the mapping has, it enables. -/
def enabled (key : String) : FieldReading where
  key := key
  read par := .ok (.bool par.truthy)

/-- The two bits above six others. -/
def session : FieldReading where
  key := "Session"
  read par := do .ok (.int ((← (← (← par.item "Session").shiftLeft 6).index) / 64))

/-- The antennas of an inventory. -/
def antennas : FieldReading where
  key := "AntennaID"
  read par := do
    let ids ← (← (← par.item "AntennaID").items).mapM fun antenna => do
      .ok (.int (← antenna.toInt))
    .ok (.list ids)

/-- How many antennas there are. -/
def antennaCount : FieldReading where
  key := "AntennaCount"
  read par := do .ok (.int (← (← par.item "AntennaID").items).length)

/-- A duration that may be missing. -/
def optionalDuration : FieldReading where
  key := "DurationTriggerValue"
  read par := do .ok (.int (← (← par.getD "DurationTriggerValue" (.int 0)).toInt))

/-- Channels, which may be missing. -/
def channels : FieldReading where
  key := "ChannelList"
  read par := do
    let indexes ← (← (← par.getD "ChannelList" (.list [])).items).mapM fun channel => do
      .ok (.int (← channel.index))
    .ok (.list indexes)

end FieldReading

/-- The mapping of the fields. -/
def readFields (readings : List FieldReading) (par : Value) : Except Exn Fields := do
  let entries ← readings.mapM fun reading => do .ok (reading.key, ← reading.read par)
  .ok (.ofList entries)

namespace Form

/-- A body that is a mapping of fields. -/
def record (readings : List FieldReading) : Form :=
  .value fun par => do .ok (← readFields readings par).value

/-- A body that starts with fields and goes on with parameters. -/
def auto (readings : List FieldReading) : Form := .nested (readFields readings)

/-- A body that starts with fields and goes on with nothing. -/
def alone (readings : List FieldReading) : Form := .fields (readFields readings) fun _ _ => []

end Form

/-! ## Particular types -/

/-- The trigger type has to be known, and the body to end there. -/
def readKeepaliveSpec (par : Value) : Except Exn Value := do
  let triggerType ← (← par.item "KeepaliveTriggerType").index
  let interval ← (← par.item "TimeInterval").index
  if (children { type := 220 } par).isEmpty then
    let triggerName ← Names.keepaliveTriggerType.name triggerType
    .ok (Fields.value (.ofList
      [("KeepaliveTriggerType", triggerName), ("TimeInterval", .int interval)]))
  else .error (.structError "unpack requires a buffer of 5 bytes")

/-- Whether the events of an entry have a code. -/
def isKnownEvent (entry : String × Value) : Bool := (Names.eventState.lookup entry.1).isSome

/-- The parameter for the events of an entry. -/
def eventState (entry : String × Value) : Value :=
  .dict [("EventType", .text entry.1), ("NotificationState", entry.2)]

/-- One parameter for each event that has a code. -/
def eventStates (par : Value) : List (String × Value) :=
  match par.item "EventNotificationState" with
  | .ok (.dict entries) =>
    (entries.filter isKnownEvent).map fun entry => ("EventNotificationState", eventState entry)
  | _ => []

/-! ## The table -/

def capabilityForms : List (String × Form) :=
  [("UTCTimestamp", .record [.number "Microseconds"]),
    ("Uptime", .record [.number "Microseconds"]),
    ("RegulatoryCapabilities", .auto [.number "CountryCode", .number "CommunicationsStandard"])]

def operationForms : List (String × Form) :=
  [("ROSpec",
      .auto [.number "ROSpecID", .number "Priority", .code Names.roSpecState "CurrentState"]),
    ("AccessSpec", .unread),
    ("AccessSpecStopTrigger", .unread),
    ("AccessCommand", .unread),
    ("C1G2TagSpec", .unread),
    ("C1G2TargetTag", .unread),
    ("C1G2Read", .unread),
    ("C1G2Write", .unread),
    ("C1G2Lock", .unread),
    ("C1G2LockPayload", .unread),
    ("C1G2BlockWrite", .unread),
    ("AccessReportSpec", .value fun par => do
      .ok (.int (← (← par.item "AccessReportTrigger").index))),
    ("ROBoundarySpec", .auto []),
    ("ROSpecStartTrigger", .auto [.code Names.roSpecStartTriggerType "ROSpecStartTriggerType"]),
    ("PeriodicTriggerValue", .auto [.number "Offset", .number "Period"]),
    ("GPITriggerValue", .record [.number "GPIPortNum", .isSet "GPIEvent", .whole "Timeout"]),
    ("ROSpecStopTrigger", .auto [.same "ROSpecStopTriggerType", .whole "DurationTriggerValue"]),
    ("AISpec", .auto [.antennaCount, .antennas]),
    ("AISpecStopTrigger",
      .auto [.code Names.aiSpecStopTriggerType "AISpecStopTriggerType", .optionalDuration]),
    ("TagObservationTrigger",
      .record [.same "TriggerType", .whole "NumberOfTags", .whole "NumberOfAttempts", .whole "T",
        .whole "Timeout"]),
    ("InventoryParameterSpec", .auto [.number "InventoryParameterSpecID", .number "ProtocolID"])]

def configurationForms : List (String × Form) :=
  [("KeepaliveSpec", .value readKeepaliveSpec),
    ("AntennaConfiguration", .auto [.number "AntennaID"]),
    ("RFReceiver", .record [.number "ReceiverSensitivity"]),
    ("RFTransmitter",
      .record [.number "HopTableId", .number "ChannelIndex", .number "TransmitPower"]),
    ("GPIPortCurrentState",
      .record [.number "GPIPortNum", .constant "GPIState" (.int 0), .isSet "GPIConfig"]),
    ("C1G2InventoryCommand", .auto [.isSet "TagInventoryStateAware"]),
    ("C1G2Filter", .unread),
    ("C1G2TagInventoryMask", .unread),
    ("C1G2RFControl", .record [.number "ModeIndex", .number "Tari"]),
    ("C1G2SingulationControl",
      .alone [.number "TagPopulation", .number "TagTransitTime", .session]),
    ("ROReportSpec", .auto [.whole "N", .same "ROReportTrigger"]),
    ("ReaderEventNotificationSpec", .fields (readFields []) fun _ par => eventStates par),
    ("EventNotificationState", .record [.same "EventType", .isSet "NotificationState"]),
    ("TagReportContentSelector", .auto (tagReportContentSelectorNames.map .selected)),
    ("C1G2EPCMemorySelector",
      .record [.present "EnableCRC", .present "EnablePCBits", .present "EnableXPCBits"])]

def reportForms : List (String × Form) :=
  [("C1G2SingulationDetails", .record [.number "NumCollisionSlots", .number "NumEmptySlots"])]

def eventForms : List (String × Form) :=
  [("HoppingEvent", .record [.number "HopTableID", .number "NextChannelIndex"]),
    ("GPIEvent", .record [.number "GPIPortNumber", .isSet "GPIEvent"]),
    ("ROSpecEvent",
      .record [.number "ROSpecID", .number "PreemptingROSpecID", .same "EventType"]),
    ("ReportBufferLevelWarning", .record [.number "ReportBufferPercentageFull"]),
    ("ReportBufferOverflowErrorEvent", .alone []),
    ("ReaderExceptionEvent", .auto [.same "Message"]),
    ("RFSurveyEvent", .record [.number "ROSpecID", .number "SpecIndex", .same "EventType"]),
    ("AISpecEvent",
      .auto [.number "ROSpecID", .number "SpecIndex",
        .constant "EventType" (.text "End_of_AISpec")]),
    ("AntennaEvent", .record [.number "AntennaID", .same "EventType"]),
    ("ConnectionAttemptEvent", .record [.same "Status"]),
    ("ConnectionCloseEvent", .alone []),
    ("SpecLoopEvent", .record [.number "ROSpecID", .number "LoopCount"]),
    ("ReaderEventNotificationData", .auto [])]

def impinjForms : List (String × Form) :=
  [("ImpinjRequestedData", .unread),
    ("ImpinjInventorySearchMode", .auto [.number "InventorySearchMode"]),
    ("ImpinjFixedFrequencyList", .record [.number "FixedFrequencyMode", .channels]),
    ("ImpinjTagReportContentSelector", .auto []),
    ("ImpinjEnableSerializedTID", .record [.number "SerializedTIDMode"]),
    ("ImpinjEnableRFPhaseAngle", .record [.number "RFPhaseAngleMode"]),
    ("ImpinjEnablePeakRSSI", .record [.number "PeakRSSIMode"]),
    ("ImpinjEnableGPSCoordinates", .record [.number "GPSCoordinatesMode"]),
    ("ImpinjEnableOptimizedRead", .auto [.number "OptimizedReadMode"]),
    ("ImpinjEnableRFDopplerFrequency", .record [.number "RFDopplerFrequencyMode"]),
    ("ImpinjEnableTxPower", .record [.number "TxPowerMode"]),
    ("ImpinjAntennaConfiguration", .auto []),
    ("ImpinjAntennaEventHysteresis",
      .auto [.number "AntennaEventConnected", .number "AntennaEventDisconnected"]),
    ("ImpinjHubVersions", .auto []),
    ("ImpinjIntelligentAntennaManagement", .record [.enabled "ManagementEnabled"]),
    ("ImpinjAntennaEventConfiguration", .alone [.enabled "EnableAntennaAttemptNotification"]),
    ("ImpinjAntennaAttemptEvent", .record [.number "AntennaID"])]

def motorolaForms : List (String × Form) :=
  [("MotoTagReportContentSelector",
      .record (motoTagReportContentSelectorNames.map .selected))]

/-- All types that can be written, in the order of the registry. -/
def allForms : List (String × Form) :=
  capabilityForms ++ operationForms ++ configurationForms ++ reportForms ++ eventForms ++
    impinjForms ++ motorolaForms

/-- How a type is read back. -/
def forms (name : String) : Form := (allForms.lookup name).getD .unread

end Sllurp.Codec
