/-
# Messages, statuses and exceptions

The names under which the reader client sends requests and receives messages,
the runtime states of the client, and the parts of a decoded message that the
state machine reads.
-/

import Mathlib.Data.Rat.Defs

namespace Sllurp.Protocol

/-! ## Names -/

/-- Messages that can arrive: the registered names that have a decoder. -/
inductive MessageName
  | getReaderCapabilitiesResponse
  | getReaderConfigResponse
  | setReaderConfigResponse
  | addRospecResponse
  | deleteRospecResponse
  | startRospecResponse
  | stopRospecResponse
  | enableRospecResponse
  | disableRospecResponse
  | addAccessspecResponse
  | deleteAccessspecResponse
  | enableAccessspecResponse
  | disableAccessspecResponse
  | closeConnectionResponse
  | impinjEnableExtensionsResponse
  | roAccessReport
  | keepalive
  | readerEventNotification
  | errorMessage
  | customMessage
  deriving DecidableEq, Repr

namespace MessageName

/-- The symbolic name used as a key and in error texts. -/
def text : MessageName → String
  | getReaderCapabilitiesResponse => "GET_READER_CAPABILITIES_RESPONSE"
  | getReaderConfigResponse => "GET_READER_CONFIG_RESPONSE"
  | setReaderConfigResponse => "SET_READER_CONFIG_RESPONSE"
  | addRospecResponse => "ADD_ROSPEC_RESPONSE"
  | deleteRospecResponse => "DELETE_ROSPEC_RESPONSE"
  | startRospecResponse => "START_ROSPEC_RESPONSE"
  | stopRospecResponse => "STOP_ROSPEC_RESPONSE"
  | enableRospecResponse => "ENABLE_ROSPEC_RESPONSE"
  | disableRospecResponse => "DISABLE_ROSPEC_RESPONSE"
  | addAccessspecResponse => "ADD_ACCESSSPEC_RESPONSE"
  | deleteAccessspecResponse => "DELETE_ACCESSSPEC_RESPONSE"
  | enableAccessspecResponse => "ENABLE_ACCESSSPEC_RESPONSE"
  | disableAccessspecResponse => "DISABLE_ACCESSSPEC_RESPONSE"
  | closeConnectionResponse => "CLOSE_CONNECTION_RESPONSE"
  | impinjEnableExtensionsResponse => "IMPINJ_ENABLE_EXTENSIONS_RESPONSE"
  | roAccessReport => "RO_ACCESS_REPORT"
  | keepalive => "KEEPALIVE"
  | readerEventNotification => "READER_EVENT_NOTIFICATION"
  | errorMessage => "ERROR_MESSAGE"
  | customMessage => "CUSTOM_MESSAGE"

instance : ToString MessageName := ⟨text⟩

/-- The message type in the header. -/
def type : MessageName → ℕ
  | getReaderCapabilitiesResponse => 11
  | getReaderConfigResponse => 12
  | setReaderConfigResponse => 13
  | addRospecResponse => 30
  | deleteRospecResponse => 31
  | startRospecResponse => 32
  | stopRospecResponse => 33
  | enableRospecResponse => 34
  | disableRospecResponse => 35
  | addAccessspecResponse => 50
  | deleteAccessspecResponse => 51
  | enableAccessspecResponse => 52
  | disableAccessspecResponse => 53
  | closeConnectionResponse => 4
  | impinjEnableExtensionsResponse => 1023
  | roAccessReport => 61
  | keepalive => 62
  | readerEventNotification => 63
  | errorMessage => 100
  | customMessage => 1023

/-- Whether the name ends in `_RESPONSE`. -/
def isResponse : MessageName → Bool
  | roAccessReport | keepalive | readerEventNotification | errorMessage | customMessage => false
  | _ => true

end MessageName

/-- Messages that can be sent: the registered names that have an encoder. -/
inductive RequestName
  | impinjEnableExtensions
  | getReaderCapabilities
  | getReaderConfig
  | setReaderConfig
  | enableEventsAndReports
  | addRospec
  | deleteRospec
  | startRospec
  | stopRospec
  | enableRospec
  | disableRospec
  | addAccessspec
  | deleteAccessspec
  | enableAccessspec
  | disableAccessspec
  | keepaliveAck
  | closeConnection
  | readerEventNotification
  | customMessage
  deriving DecidableEq, Repr

namespace RequestName

def text : RequestName → String
  | impinjEnableExtensions => "IMPINJ_ENABLE_EXTENSIONS"
  | getReaderCapabilities => "GET_READER_CAPABILITIES"
  | getReaderConfig => "GET_READER_CONFIG"
  | setReaderConfig => "SET_READER_CONFIG"
  | enableEventsAndReports => "ENABLE_EVENTS_AND_REPORTS"
  | addRospec => "ADD_ROSPEC"
  | deleteRospec => "DELETE_ROSPEC"
  | startRospec => "START_ROSPEC"
  | stopRospec => "STOP_ROSPEC"
  | enableRospec => "ENABLE_ROSPEC"
  | disableRospec => "DISABLE_ROSPEC"
  | addAccessspec => "ADD_ACCESSSPEC"
  | deleteAccessspec => "DELETE_ACCESSSPEC"
  | enableAccessspec => "ENABLE_ACCESSSPEC"
  | disableAccessspec => "DISABLE_ACCESSSPEC"
  | keepaliveAck => "KEEPALIVE_ACK"
  | closeConnection => "CLOSE_CONNECTION"
  | readerEventNotification => "READER_EVENT_NOTIFICATION"
  | customMessage => "CUSTOM_MESSAGE"

/-- The name with `_RESPONSE` appended, where a message of that name exists. -/
def response : RequestName → Option MessageName
  | impinjEnableExtensions => some .impinjEnableExtensionsResponse
  | getReaderCapabilities => some .getReaderCapabilitiesResponse
  | getReaderConfig => some .getReaderConfigResponse
  | setReaderConfig => some .setReaderConfigResponse
  | enableEventsAndReports => none
  | addRospec => some .addRospecResponse
  | deleteRospec => some .deleteRospecResponse
  | startRospec => some .startRospecResponse
  | stopRospec => some .stopRospecResponse
  | enableRospec => some .enableRospecResponse
  | disableRospec => some .disableRospecResponse
  | addAccessspec => some .addAccessspecResponse
  | deleteAccessspec => some .deleteAccessspecResponse
  | enableAccessspec => some .enableAccessspecResponse
  | disableAccessspec => some .disableAccessspecResponse
  | closeConnection => some .closeConnectionResponse
  | keepaliveAck | readerEventNotification | customMessage => none

end RequestName

/-! ## Runtime states -/

/-- The runtime states of the client. -/
inductive ReaderState
  | disconnected
  | connecting
  | connected
  | sentGetConfig
  | sentSetConfig
  | sentAddRospec
  | sentEnableRospec
  | sentStartRospec
  | inventorying
  | sentDeleteRospec
  | sentDeleteAccessspec
  | sentGetCapabilities
  | pausing
  | paused
  | sentEnableImpinjExtensions
  deriving DecidableEq, Repr

namespace ReaderState

/-- The integer constant of the state; the states are compared by it. -/
def value : ReaderState → ℕ
  | disconnected => 1
  | connecting => 2
  | connected => 3
  | sentGetConfig => 4
  | sentSetConfig => 5
  | sentAddRospec => 15
  | sentEnableRospec => 16
  | sentStartRospec => 17
  | inventorying => 18
  | sentDeleteRospec => 19
  | sentDeleteAccessspec => 20
  | sentGetCapabilities => 21
  | pausing => 22
  | paused => 23
  | sentEnableImpinjExtensions => 24

/-- The response that a waiting state stands for. -/
def awaited : ReaderState → Option MessageName
  | sentGetConfig => some .getReaderConfigResponse
  | sentSetConfig => some .setReaderConfigResponse
  | sentAddRospec => some .addRospecResponse
  | sentEnableRospec => some .enableRospecResponse
  | sentStartRospec => some .startRospecResponse
  | sentDeleteRospec => some .deleteRospecResponse
  | sentDeleteAccessspec => some .deleteAccessspecResponse
  | sentGetCapabilities => some .getReaderCapabilitiesResponse
  | pausing => some .disableRospecResponse
  | sentEnableImpinjExtensions => some .impinjEnableExtensionsResponse
  | disconnected | connecting | connected | inventorying | paused => none

end ReaderState

/-! ## Exceptions -/

/-- Exceptions, by class and with the text that `str` gives. The text of a
`KeyError` is the printed form of the key. -/
inductive Exn
  | llrpError (text : String)
  | readerConfigurationError (text : String)
  | keyError (key : String)
  | valueError (text : String)
  | attributeError (text : String)
  | typeError (text : String)
  | structError (text : String)
  | recursionError (text : String)
  | osError (text : String)
  deriving DecidableEq, Repr

/-- The text of an exception as it appears inside another message. -/
def Exn.str : Exn → String
  | llrpError text => text
  | readerConfigurationError text => text
  | keyError key => key
  | valueError text => text
  | attributeError text => text
  | typeError text => text
  | structError text => text
  | recursionError text => text
  | osError text => text

/-- The `KeyError` of a missing string key. -/
def Exn.missingKey (name : String) : Exn := .keyError ("'" ++ name ++ "'")

/-! ## Statuses -/

/-- The LLRP status codes that have a name. -/
inductive StatusCode
  | success
  | parameterError
  | fieldError
  | unexpectedParameter
  | missingParameter
  | duplicateParameter
  | overflowParameter
  | overflowField
  | unknownParameter
  | unknownField
  | unsupportedMessage
  | unsupportedVersion
  | unsupportedParameter
  | pParameterError
  | pFieldError
  | pUnexpectedParameter
  | pMissingParameter
  | pDuplicateParameter
  | pOverflowParameter
  | pOverflowField
  | pUnknownParameter
  | pUnknownField
  | pUnsupportedParameter
  | aInvalid
  | aOutOfRange
  | deviceError
  deriving DecidableEq, Repr

/-- A decoded LLRPStatus. A numeric code without a name leaves the
`StatusCode` key out. -/
structure LLRPStatus where
  statusCode : Option StatusCode
  errorDescription : String := ""
  deriving DecidableEq, Repr

/-- The outcomes of a connection attempt. -/
inductive ConnEvent
  | success
  | failedReaderInitiated
  | failedClientInitiated
  | failedReasonUnknown
  | anotherConnectionAttempted
  deriving DecidableEq, Repr

/-- The two events whose presence decides whether a notification reports
success. -/
structure ReaderEventNotificationData where
  connectionAttemptEvent : Option ConnEvent := none
  antennaConnected : Option Bool := none
  deriving DecidableEq, Repr

end Sllurp.Protocol
