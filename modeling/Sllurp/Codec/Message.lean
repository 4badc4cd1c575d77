/-
# Messages

The message types with the functions for their bodies, and the two directions in
which a message is built: from a mapping of its name to its body, and from the
bytes that arrived. A custom message whose vendor and subtype have no entry is
decoded like any other body of parameters.
-/

import Sllurp.Codec.Registry

namespace Sllurp.Codec

open Sllurp.Foundations Sllurp.Foundations.Wire Sllurp.Protocol

/-- A decoder gets the repeated parameters of a message and its body. -/
abbrev MessageDecoder : Type := List String → List UInt8 → Except Exn Fields

/-- An entry of the table of messages. -/
structure MessageInfo extends Layout where
  decode : Option MessageDecoder := none
  encode : Option Encoder := none

/-! ## Bodies -/

def decodeGenericMessage : MessageDecoder := fun nFields data =>
  registry.decodeAllParameters nFields .empty data

def decodeGenericMessageWithStatusCheck : MessageDecoder := fun nFields data => do
  let fields ← decodeGenericMessage nFields data
  if fields.contains "LLRPStatus" then .ok fields
  else .error (.llrpError "Missing or invalid LLRPStatus parameter")

/-- A report has a list of tags even when it has none. -/
def decodeROAccessReport : MessageDecoder := fun nFields data =>
  registry.decodeAllParameters nFields (.ofList [("TagReportData", .list [])]) data

/-- The fields in the order that the standard gives them. -/
def encodeGetReaderConfig : Encoder := fun encodeParam layout msg => do
  let antenna ← msg.getD "AntennaID" (.int 0)
  let requested ← msg.item "RequestedData"
  let gpiPort ← msg.getD "GPIPortNum" (.int 0)
  let gpoPort ← msg.getD "GPOPortNum" (.int 0)
  let packed ← packStruct [.ushort, .ubyte, .ushort, .ushort]
    [antenna, requested, gpiPort, gpoPort]
  encodeAllParameters encodeParam layout msg packed

def encodeSetReaderConfig : Encoder := fun encodeParam layout msg => do
  let reset ← (← msg.getD "ResetToFactoryDefaults" (.bool false)).toInt
  let packed ← packStruct [.ubyte] [.int (reset * 128 % 256)]
  encodeAllParameters encodeParam layout msg packed

/-- The body of a custom message is sent as it is. -/
def encodeCustomMessage : Encoder := fun _ _ msg => do
  (← msg.getD "Payload" (.bytes [])).rawBytes

/-- A reserved number. -/
def encodeImpinjEnableExtensions : Encoder := fun _ _ _ => packStruct [.uint] [.int 0]

/-! ## The messages -/

/-- A request that names one operation. -/
def specRequest (type : ℕ) (field : String) : MessageInfo :=
  { type
    ownFields := ["ID", field]
    encode := some (basicParamEncodeGenerator [.uint] [field]) }

/-- A response with nothing but its status. -/
def statusResponse (type : ℕ) : MessageInfo :=
  { type
    ownFields := ["ID"]
    oFields := ["LLRPStatus"]
    decode := some decodeGenericMessageWithStatusCheck }

/-- A request without a body. -/
def bareRequest (type : ℕ) : MessageInfo :=
  { type, ownFields := ["ID"], encode := some encodeNothing }

def messageStruct : List (String × MessageInfo) :=
  [("GET_READER_CAPABILITIES",
      { type := 1
        ownFields := ["ID", "RequestedData"]
        oFields := ["ImpinjRequestedData"]
        encode := some (basicAutoParamEncodeGenerator [.ubyte] ["RequestedData"]) }),
    ("GET_READER_CAPABILITIES_RESPONSE",
      { type := 11
        ownFields := ["ID"]
        oFields := ["LLRPStatus", "GeneralDeviceCapabilities", "LLRPCapabilities",
          "RegulatoryCapabilities", "C1G2LLRPCapabilities", "ImpinjDetailedVersion",
          "ImpinjFrequencyCapabilities", "ImpinjAntennaCapabilities", "MotoGeneralCapabilities",
          "MotoAutonomousCapabilities", "MotoTagEventsGenerationCapabilities",
          "MotoFilterCapabilities", "MotoPersistenceCapabilities", "MotoC1G2LLRPCapabilities",
          "ImpinjxArrayCapabilities"]
        decode := some decodeGenericMessageWithStatusCheck }),
    ("GET_READER_CONFIG",
      { type := 2
        ownFields := ["ID", "AntennaID", "RequestedData", "GPIPortNum", "GPOPortNum"]
        oFields := ["ImpinjRequestedData"]
        encode := some encodeGetReaderConfig }),
    ("GET_READER_CONFIG_RESPONSE",
      { type := 12
        ownFields := ["ID"]
        oFields := ["LLRPStatus", "Identification", "ReaderEventNotificationSpec",
          "ROReportSpec", "AccessReportSpec", "LLRPConfigurationStateValue", "KeepaliveSpec",
          "EventsAndReports", "ImpinjSubRegulatoryRegion", "ImpinjReaderTemperature",
          "ImpinjLinkMonitorConfiguration", "ImpinjAccessSpecConfiguration",
          "ImpinjReportBufferConfiguration", "ImpinjGPSNMEASentences",
          "ImpinjAntennaConfiguration", "MotoAutonomousState", "MotoDefaultSpec",
          "MotoFilterList", "MotoPersistenceSaveParams", "MotoCustomCommandOptions",
          "ImpinjBeaconConfiguration", "ImpinjTiltConfiguration", "ImpinjPlacementConfiguration",
          "ImpinjLocationConfig", "ImpinjC1G2LocationConfig", "ImpinjLocationReporting",
          "ImpinjDirectionConfig", "ImpinjC1G2DirectionConfig", "ImpinjDirectionReporting",
          "ImpinjPolarizationControl"]
        ownNFields := ["AntennaProperties", "AntennaConfiguration", "GPIPortCurrentState",
          "GPOWriteData", "ImpinjHubConfiguration", "ImpinjAdvancedGPOConfiguration",
          "ImpinjGPIDebounceConfiguration"]
        decode := some decodeGenericMessageWithStatusCheck }),
    ("SET_READER_CONFIG",
      { type := 3
        ownFields := ["ID", "ResetToFactoryDefaults", "ReaderEventNotificationSpec",
          "AntennaProperties", "AntennaConfiguration", "AccessReportSpec", "KeepaliveSpec",
          "GPOWriteData", "GPIPortCurrentState", "EventsAndReports",
          "ImpinjAntennaConfiguration"]
        oFields := ["ReaderEventNotificationSpec", "ROReportSpec", "AccessReportSpec",
          "KeepaliveSpec", "EventsAndReports", "ImpinjAntennaConfiguration"]
        ownNFields := ["AntennaProperties", "AntennaConfiguration", "GPOWriteData",
          "GPIPortCurrentState"]
        encode := some encodeSetReaderConfig }),
    ("SET_READER_CONFIG_RESPONSE", statusResponse 13),
    ("ENABLE_EVENTS_AND_REPORTS", bareRequest 64),
    ("ADD_ROSPEC",
      { type := 20, ownFields := ["ID"], oFields := ["ROSpec"], encode := some encodeAll }),
    ("ADD_ROSPEC_RESPONSE", statusResponse 30),
    ("DELETE_ROSPEC", specRequest 21 "ROSpecID"),
    ("DELETE_ROSPEC_RESPONSE", statusResponse 31),
    ("START_ROSPEC", specRequest 22 "ROSpecID"),
    ("START_ROSPEC_RESPONSE", statusResponse 32),
    ("STOP_ROSPEC", specRequest 23 "ROSpecID"),
    ("STOP_ROSPEC_RESPONSE", statusResponse 33),
    ("ENABLE_ROSPEC", specRequest 24 "ROSpecID"),
    ("ENABLE_ROSPEC_RESPONSE", statusResponse 34),
    ("DISABLE_ROSPEC", specRequest 25 "ROSpecID"),
    ("DISABLE_ROSPEC_RESPONSE", statusResponse 35),
    ("RO_ACCESS_REPORT",
      { type := 61
        ownFields := ["ID"]
        ownNFields := ["TagReportData"]
        decode := some decodeROAccessReport }),
    ("KEEPALIVE", { type := 62, ownFields := ["ID"], decode := some decodeGenericMessage }),
    ("KEEPALIVE_ACK", bareRequest 72),
    ("READER_EVENT_NOTIFICATION",
      { type := 63
        ownFields := ["ID"]
        oFields := ["ReaderEventNotificationData"]
        encode := some encodeAll
        decode := some decodeGenericMessage }),
    ("CLOSE_CONNECTION", bareRequest 14),
    ("CLOSE_CONNECTION_RESPONSE", statusResponse 4),
    ("ERROR_MESSAGE", statusResponse 100),
    ("ADD_ACCESSSPEC", { type := 40, oFields := ["AccessSpec"], encode := some encodeAll }),
    ("ADD_ACCESSSPEC_RESPONSE", statusResponse 50),
    ("DELETE_ACCESSSPEC", specRequest 41 "AccessSpecID"),
    ("DELETE_ACCESSSPEC_RESPONSE", statusResponse 51),
    ("ENABLE_ACCESSSPEC", specRequest 42 "AccessSpecID"),
    ("ENABLE_ACCESSSPEC_RESPONSE", statusResponse 52),
    ("DISABLE_ACCESSSPEC", specRequest 43 "AccessSpecID"),
    ("DISABLE_ACCESSSPEC_RESPONSE", statusResponse 53),
    ("CUSTOM_MESSAGE",
      { type := typeCustom
        ownFields := ["ID", "VendorID", "Subtype", "Payload"]
        encode := some encodeCustomMessage
        decode := some decodeGenericMessage }),
    ("IMPINJ_ENABLE_EXTENSIONS",
      { type := typeCustom, vendorId := vendorIdImpinj, subtype := 21
        ownFields := ["reserved"]
        encode := some encodeImpinjEnableExtensions }),
    ("IMPINJ_ENABLE_EXTENSIONS_RESPONSE",
      { type := typeCustom, vendorId := vendorIdImpinj, subtype := 22
        ownFields := ["ID"]
        oFields := ["LLRPStatus"]
        decode := some decodeGenericMessageWithStatusCheck })]

/-- What the message types are called. -/
def messageType2Name : List ((ℕ × ℕ × ℕ) × String) :=
  messageStruct.map fun (name, info) => (info.key, name)

/-! ## Serializing -/

/-- Encode a message; a mapping of several is encoded as its first one. -/
def serialize (msgdict : Fields) : Except Exn (List UInt8) :=
  match msgdict.entries with
  | [] => .error (.llrpError "Provide either a message dict or a sequence of bytes.")
  | (name, msgitem) :: _ =>
    match messageStruct.lookup name with
    | none => .error (.llrpError s!"Unknown message type: {name}. Cannot encode.")
    | some info =>
      match info.encode with
      | none => .error (.llrpError s!"Cannot find encoder for message type {name}")
      | some encode => do
        let version ← msgitem.getD "Ver" (.int 1)
        let (vendorId, subtype) ← vendorOf (name = "CUSTOM_MESSAGE") info.toLayout msgitem
        let messageId ← msgitem.getD "ID" (.int 0)
        let data ← encode registry.encodeParam info.toLayout msgitem
        let header ← msgHeaderEncode info.type version data.length messageId vendorId subtype
        .ok (header ++ data)

/-! ## Deserializing -/

/-- The name of a message; an unknown custom message has the general one. -/
def messageName (header : MsgHeader) : Option String :=
  match messageType2Name.lookup (header.msgType, header.vendorId, header.subtype) with
  | some name => some name
  | none => if header.msgType = typeCustom then some "CUSTOM_MESSAGE" else none

/-- What becomes of an exception in the decoder of a body. -/
def bodyFailure (name : String) : Exn → Exn
  | .valueError _ => .llrpError s!"Unable to decode body of {name}"
  | raised => raised

/-- The fields of the message that a header delimits, together with what it says. -/
def deserializeFramed (header : MsgHeader) (body : List UInt8) : Except Exn (String × Fields) :=
  let noDecoder : Exn := .llrpError s!"Cannot find decoder for message type {header.msgType}"
  match messageName header with
  | none => .error noDecoder
  | some name =>
    match messageStruct.lookup name with
    | none => .error noDecoder
    | some info =>
      match info.decode with
      | none => .error noDecoder
      | some decode => do
        let fields ← (decode info.nFields body).mapError (bodyFailure name)
        .ok (name,
          ((fields.set "Ver" (.int header.version)).set "Type" (.int header.msgType)).set "ID"
            (.int header.messageId))

/-- What becomes of an exception in the decoder of a header. -/
def headerFailure : Exn → Exn
  | .valueError text => .llrpError s!"Invalid LLRP message header: {text}"
  | raised => raised

/-- Decode a message: its name and its fields. -/
def deserialize (data : List UInt8) : Except Exn (String × Fields) :=
  if data.isEmpty then
    .error (.llrpError "Provide either a message dict or a sequence of bytes.")
  else do
    let header ← (msgHeaderDecode data).mapError headerFailure
    if header.totalLength < header.headerLength then
      .error (.llrpError
        s!"Invalid LLRP message length {header.totalLength}; header is {header.headerLength} bytes")
    else if data.length < header.totalLength then
      .error (.llrpError
        s!"Truncated LLRP message: declared {header.totalLength} bytes, got {data.length}")
    else
      deserializeFramed header ((data.take header.totalLength).drop header.headerLength)

end Sllurp.Codec
