/-
# The reader configuration

`LLRPReaderConfig` has one field for each public attribute of the configuration
object, with the default that its constructor assigns. A configuration is a
mutable object of the program; this is the content of one such object. Values of
a type that the attribute is not documented to hold are left out by the types.
Seconds are rational numbers, everything counted is an integer.
-/

import Sllurp.Foundations.Dict
import Mathlib.Algebra.Group.Int.Defs
import Mathlib.Data.Rat.Defs

namespace Sllurp.Config

open Sllurp.Foundations

/-- A transmit power request by table index: one for all antennas, or one for
each antenna. Validation turns the first form into the second. -/
inductive TxPower
  | index (index : ℤ)
  | perAntenna (indexes : Dict ℤ ℤ)
  deriving DecidableEq

/-- A transmit power request in dBm. -/
inductive TxPowerDbm
  | level (dbm : ℚ)
  | perAntenna (levels : Dict ℤ ℚ)
  deriving DecidableEq

/-- A value of the tag report content selector: a flag, or the nested selector
for the EPC memory fields. -/
inductive SelectorValue
  | flag (enabled : Bool)
  | memory (flags : Dict String Bool)
  deriving DecidableEq

/-- The frequency selection. A field is `none` when the mapping lacks its key;
`channelist` is the misspelt key of older releases. -/
structure Frequencies where
  hopTableId : Option ℤ := none
  channelList : Option (List ℤ) := none
  automatic : Option Bool := none
  channelist : Option (List ℤ) := none
  deriving DecidableEq

def defaultChannelIndex : ℤ := 1

def defaultHoptableIndex : ℤ := 1

def defaultMaxMessageSize : ℤ := 16 * 1024 * 1024

def zebraTimedDedupMaxSeconds : ℤ := 600

def msgHeaderLen : ℕ := 10

/-- The tag report content selector of a fresh configuration. -/
def defaultTagContentSelector : Dict String SelectorValue :=
  .ofList [("EnableROSpecID", .flag false), ("EnableSpecIndex", .flag false),
    ("EnableInventoryParameterSpecID", .flag false), ("EnableAntennaID", .flag false),
    ("EnableChannelIndex", .flag true), ("EnablePeakRSSI", .flag false),
    ("EnableFirstSeenTimestamp", .flag false), ("EnableLastSeenTimestamp", .flag true),
    ("EnableTagSeenCount", .flag true), ("EnableAccessSpecID", .flag false)]

/-- The event selector of a fresh configuration. -/
def defaultEventSelector : Dict String Bool :=
  .ofList [("HoppingEvent", false), ("GPIEvent", false), ("ROSpecEvent", false),
    ("ReportBufferFillWarning", false), ("ReaderExceptionEvent", false),
    ("RFSurveyEvent", false), ("AISpecEvent", false),
    ("AISpecEventWithSingulation", false), ("AntennaEvent", false)]

/-- The content of a configuration object. -/
structure LLRPReaderConfig where
  duration : Option ℚ := none
  tari : Option ℤ := some 0
  session : ℤ := 2
  modeIdentifier : Option ℤ := none
  tagPopulation : ℤ := 4
  roReportEveryNTags : Option ℤ := none
  reportEveryNTags : Option ℤ := none
  reportTimeoutMs : ℤ := 0
  dedupSeconds : Option ℤ := none
  dedupBackend : String := "auto"
  dedupMaxEntries : ℤ := 1000000
  rfTelemetryMode : String := "off"
  socketReceiveBufferBytes : Option ℤ := some (2 ^ 20)
  maxMessageSize : Option ℤ := some defaultMaxMessageSize
  requestTimeout : Option ℚ := none
  antennas : List ℤ := [1]
  txPower : TxPower := .index 0
  txPowerDbm : Option TxPowerDbm := none
  disconnectWhenDone : Bool := false
  tagFilterMask : Option (List String) := none
  tagContentSelector : Option (Dict String SelectorValue) := some defaultTagContentSelector
  eventSelector : Dict String Bool := defaultEventSelector
  frequencies : Frequencies :=
    { hopTableId := some defaultHoptableIndex, channelList := some [defaultChannelIndex],
      automatic := some false }
  gpiPortsConfig : Dict ℤ Bool := .empty
  reconnect : Bool := false
  startInventory : Bool := true
  resetOnConnect : Bool := true
  tlsEnabled : Bool := false
  tlsVerify : Bool := true
  tlsCaFile : Option String := none
  tlsClientCert : Option String := none
  tlsClientKey : Option String := none
  tlsServerHostname : Option String := none
  impinjExtendedConfiguration : Bool := false
  impinjFixedFrequency : Bool := false
  impinjSearchMode : Option ℤ := none
  impinjReports : Bool := false
  impinjTagContentSelector : Option (Dict String Bool) := none
  zebraTagContentSelector : Option (Dict String Bool) := none
  impinjEventSelector : Option (Dict String Bool) := none
  keepaliveInterval : ℤ := 60 * 1000
  reconnectRetries : ℤ := 5
  reconnectDelay : ℚ := 60

instance : Inhabited LLRPReaderConfig := ⟨{}⟩

/-- Whether an optional mapping is present and has entries. -/
def truthy {κ ν : Type} [DecidableEq κ] : Option (Dict κ ν) → Bool
  | none => false
  | some dict => !dict.isEmpty

end Sllurp.Config
