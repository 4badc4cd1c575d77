/-
# Enumerations of the protocol

The names that fields have instead of their numeric codes.
-/

import Sllurp.Codec.Generators

namespace Sllurp.Codec.Names

open Sllurp.Codec

def roSpecState : Enumeration :=
  [("Disabled", 0), ("Inactive", 1), ("Active", 2)]

def roSpecStartTriggerType : Enumeration :=
  [("Null", 0), ("Immediate", 1), ("Periodic", 2), ("GPI", 3)]

def roSpecStopTriggerType : Enumeration :=
  [("Null", 0), ("Duration", 1), ("GPI with timeout", 2)]

def aiSpecStopTriggerType : Enumeration :=
  [("Null", 0), ("Duration", 1), ("GPI with timeout", 2), ("Tag observation", 3)]

def tagObservationTrigger : Enumeration :=
  [("UponNTags", 0), ("UponSilenceMs", 1), ("UponNAttempts", 2), ("UponNUniqueTags", 3),
    ("UponUniqueSilenceMs", 4)]

def keepaliveTriggerType : Enumeration :=
  [("Null", 0), ("Immediate", 1)]

def connEvent : Enumeration :=
  [("Success", 0), ("Failed (a Reader initiated connection already exists)", 1),
    ("Failed (a Client initiated connection already exists)", 2),
    ("Failed (any reason other than a connection already exists)", 3),
    ("Another connection attempted", 4)]

def error : Enumeration :=
  [("Success", 0), ("ParameterError", 100), ("FieldError", 101), ("UnexpectedParameter", 102),
    ("MissingParameter", 103), ("DuplicateParameter", 104), ("OverflowParameter", 105),
    ("OverflowField", 106), ("UnknownParameter", 107), ("UnknownField", 108),
    ("UnsupportedMessage", 109), ("UnsupportedVersion", 110), ("UnsupportedParameter", 111),
    ("P_ParameterError", 200), ("P_FieldError", 201), ("P_UnexpectedParameter", 202),
    ("P_MissingParameter", 203), ("P_DuplicateParameter", 204), ("P_OverflowParameter", 205),
    ("P_OverflowField", 206), ("P_UnknownParameter", 207), ("P_UnknownField", 208),
    ("P_UnsupportedParameter", 209), ("A_Invalid", 300), ("A_OutOfRange", 301),
    ("DeviceError", 401)]

def eventState : Enumeration :=
  [("HoppingEvent", 0), ("GPIEvent", 1), ("ROSpecEvent", 2), ("ReportBufferFillWarning", 3),
    ("ReaderExceptionEvent", 4), ("RFSurveyEvent", 5), ("AISpecEvent", 6),
    ("AISpecEventWithSingulation", 7), ("AntennaEvent", 8), ("SpecLoopEvent", 9)]

def roReportTrigger : Enumeration :=
  [("None", 0), ("Upon_N_Tags_Or_End_Of_AISpec", 1), ("Upon_N_Tags_Or_End_Of_ROSpec", 2),
    ("Upon_N_Seconds", 3), ("Upon_N_Seconds_Or_End_Of_ROSpec", 4), ("Upon_N_Milliseconds", 5),
    ("Upon_N_Milliseconds_Or_End_Of_ROSpec", 6)]

def motoTagEventSelector : Enumeration :=
  [("Never", 0), ("Immediate", 1), ("Moderate", 2)]

def motoTagReportMode : Enumeration :=
  [("No reporting", 0), ("Report Notification", 1), ("Report events", 2)]

def matchType : Enumeration :=
  [("Within range", 0), ("Outside range", 1), ("Greater than lower limit", 2),
    ("Lower than upper limit", 3)]

def ruleType : Enumeration :=
  [("Inclusive", 0), ("Exclusive", 1), ("Continue", 2)]

def impinjHubConnectedType : Enumeration :=
  [("Unknown", 0), ("Disconnected", 1), ("Connected", 2)]

def impinjHubFaultType : Enumeration :=
  [("No_Fault", 0), ("RF_Power", 1), ("RF_Power_On_Hub_1", 2), ("RF_Power_On_Hub_2", 3),
    ("RF_Power_On_Hub_3", 4), ("RF_Power_On_Hub_4", 5), ("No_Init", 6), ("Serial_Overflow", 7),
    ("Disconnected", 8)]

end Sllurp.Codec.Names
