/-
# The reader operation specification

`makeROSpec` builds the one ROSpec that defines the inventory, from the
settings of a configuration and the selected RF mode. It refuses settings it
cannot express; the records below are the nested mappings of the result, with
an option where a key may be missing.
-/

import Sllurp.Config.Settings
import Sllurp.Protocol.Capabilities

namespace Sllurp.Protocol

open Sllurp.Foundations Sllurp.Config

/-! ## Parts -/

structure RFTransmitter where
  hopTableId : ℤ
  channelIndex : ℤ
  transmitPower : ℤ
  deriving DecidableEq

structure C1G2SingulationControl where
  session : ℤ
  tagPopulation : ℤ
  tagTransitTime : ℤ := 0
  deriving DecidableEq

/-- A filter on the EPC bank, from the third word on. -/
structure C1G2TagInventoryMask where
  mb : ℕ := 1
  pointer : ℕ := 0x20
  tagMask : String
  deriving DecidableEq

structure C1G2RFControl where
  modeIndex : ℤ
  tari : ℤ
  deriving DecidableEq

structure ImpinjFixedFrequencyList where
  fixedFrequencyMode : ℕ
  channelList : List ℤ
  deriving DecidableEq

structure C1G2InventoryCommand where
  tagInventoryStateAware : Bool := false
  c1G2SingulationControl : C1G2SingulationControl
  c1G2Filter : List C1G2TagInventoryMask
  c1G2RFControl : Option C1G2RFControl
  impinjInventorySearchMode : Option ℤ
  impinjFixedFrequencyList : Option ImpinjFixedFrequencyList
  deriving DecidableEq

structure AntennaConfiguration where
  antennaId : ℤ
  rfTransmitter : RFTransmitter
  c1G2InventoryCommand : C1G2InventoryCommand
  deriving DecidableEq

structure TagObservationTrigger where
  triggerType : String := "UponNTags"
  numberOfTags : ℤ
  numberOfAttempts : ℤ := 0
  t : ℤ := 0
  timeout : ℤ
  deriving DecidableEq

/-- When an AISpec or the whole ROSpec stops. -/
structure StopTrigger where
  triggerType : String := "Null"
  durationTriggerValue : ℤ := 0
  tagObservationTrigger : Option TagObservationTrigger := none
  deriving DecidableEq

structure AISpec where
  antennaId : List ℤ
  aiSpecStopTrigger : StopTrigger
  inventoryParameterSpecId : ℕ := 1
  protocolId : ℕ := 1
  antennaConfiguration : List AntennaConfiguration
  deriving DecidableEq

structure ImpinjTagReportContentSelector where
  rfPhaseAngleMode : Bool
  peakRssiMode : Bool
  rfDopplerFrequencyMode : Bool
  deriving DecidableEq

structure CustomParameter where
  vendorId : ℕ
  subtype : ℕ
  payload : List UInt8
  deriving DecidableEq

structure ROReportSpec where
  roReportTrigger : String := "Upon_N_Tags_Or_End_Of_AISpec"
  n : ℤ := 0
  tagReportContentSelector : Dict String SelectorValue
  impinjTagReportContentSelector : Option ImpinjTagReportContentSelector
  motoTagReportContentSelector : Option (Dict String Bool)
  customParameter : List CustomParameter := []
  deriving DecidableEq

/-- A reader operation specification. -/
structure LLRPROSpec where
  roSpecId : ℕ
  priority : ℕ := 0
  currentState : String := "Disabled"
  roSpecStartTriggerType : String := "Immediate"
  roSpecStopTrigger : StopTrigger
  aiSpec : AISpec
  roReportSpec : ROReportSpec
  deriving DecidableEq

/-! ## Construction -/

/-- The configuration fields that go into a ROSpec. -/
structure ROSpecSettings where
  durationSec : Option ℚ
  reportEveryNTags : Option ℤ
  reportTimeoutMs : ℤ
  roReportEveryNTags : Option ℤ
  txPower : TxPower
  antennas : List ℤ
  tagContentSelector : Option (Dict String SelectorValue)
  session : ℤ
  tari : Option ℤ
  tagPopulation : ℤ
  frequencies : Frequencies
  impinjFixedFrequency : Bool
  zebraTagContentSelector : Option (Dict String Bool)
  tagFilterMask : Option (List String)
  impinjSearchMode : Option ℤ
  impinjTagContentSelector : Option (Dict String Bool)
  deriving DecidableEq

/-- The report selector before the configured flags are put over it. -/
def baseTagReportContentSelector : Dict String SelectorValue :=
  .ofList [("EnableROSpecID", .flag true), ("EnableSpecIndex", .flag false),
    ("EnableInventoryParameterSpecID", .flag false), ("EnableAntennaID", .flag true),
    ("EnableChannelIndex", .flag false), ("EnablePeakRSSI", .flag true),
    ("EnableFirstSeenTimestamp", .flag false), ("EnableLastSeenTimestamp", .flag true),
    ("EnableTagSeenCount", .flag true), ("EnableAccessSpecID", .flag false),
    ("C1G2EPCMemorySelector",
      .memory (.ofList [("EnableCRC", false), ("EnablePCBits", false)]))]

/-- The transmit power of each antenna; a single index is for all of them. -/
def antennaPowers (settings : ROSpecSettings) : Except Exn (Dict ℤ ℤ) :=
  match settings.txPower with
  | .index index => .ok (.ofList (settings.antennas.map (·, index)))
  | .perAntenna indexes =>
    if indexes.hasKeys settings.antennas then .ok indexes
    else .error (.llrpError "Must set tx_power for all antennas")

/-- The Impinj report selector: absent if the setting is, and complete if not. -/
def impinjReportSelector (selector : Option (Dict String Bool)) :
    Except Exn (Option ImpinjTagReportContentSelector) :=
  match selector with
  | none => .ok none
  | some flags =>
    if flags.isEmpty then .ok none
    else do
      let phase ← key "EnableRFPhaseAngle" (flags.get? "EnableRFPhaseAngle")
      let rssi ← key "EnablePeakRSSI" (flags.get? "EnablePeakRSSI")
      let doppler ← key "EnableRFDopplerFrequency" (flags.get? "EnableRFDopplerFrequency")
      .ok (some ⟨phase, rssi, doppler⟩)

/-- The RF control of the selected mode. The configured Tari replaces the mode's
own when it lies in the mode's range. -/
def rfControl (readerMode : Option ReaderMode) (tari : Option ℤ) : Option C1G2RFControl :=
  readerMode.map fun mode =>
    { modeIndex := mode.modeIdentifier
      tari := (tari.filter fun tari => mode.minTari ≤ tari && tari ≤ mode.maxTari).getD 0 }

/-- The fixed frequency list: automatic selection, or several channels. -/
def fixedFrequencyList (settings : ROSpecSettings) (channels : List ℤ) :
    Option ImpinjFixedFrequencyList :=
  if settings.impinjFixedFrequency && settings.frequencies.automatic.getD false then
    some ⟨1, []⟩
  else if settings.impinjFixedFrequency && 1 < channels.length then
    some ⟨2, channels⟩
  else none

/-- The configuration of one antenna. The masks are made a set first; `dedup` stands for
one of the orders in which a set of texts may be iterated. -/
def antennaConfiguration (readerMode : Option ReaderMode) (settings : ROSpecSettings)
    (channel : ℤ) (channels : List ℤ) (antenna power : ℤ) : AntennaConfiguration where
  antennaId := antenna
  rfTransmitter :=
    { hopTableId := settings.frequencies.hopTableId.getD defaultHoptableIndex
      channelIndex := channel
      transmitPower := power }
  c1G2InventoryCommand :=
    { c1G2SingulationControl :=
        { session := settings.session, tagPopulation := settings.tagPopulation }
      c1G2Filter :=
        (settings.tagFilterMask.getD []).dedup.map fun mask => { tagMask := mask }
      c1G2RFControl := rfControl readerMode settings.tari
      impinjInventorySearchMode := settings.impinjSearchMode
      impinjFixedFrequencyList := fixedFrequencyList settings channels }

/-- `int` of a number: the integer part, towards zero. -/
def truncate (number : ℚ) : ℤ := number.num.tdiv number.den

/-- The stop trigger for a duration in seconds, in milliseconds that are computed in
double precision. -/
def durationTrigger (durationSec : Option ℚ) : StopTrigger :=
  match durationSec with
  | none => {}
  | some seconds =>
    { triggerType := "Duration"
      durationTriggerValue := truncate (Binary64.round (seconds * 1000)) }

/-- The stop trigger of the AISpec: tag observations take over from the
duration. -/
def aiSpecTrigger (settings : ROSpecSettings) : StopTrigger :=
  match settings.reportEveryNTags with
  | none => durationTrigger settings.durationSec
  | some count =>
    { durationTrigger settings.durationSec with
      triggerType := "Tag observation"
      tagObservationTrigger :=
        some { numberOfTags := count, timeout := settings.reportTimeoutMs } }

/-- Build the ROSpec with the given ID. -/
def makeROSpec (readerMode : Option ReaderMode) (roSpecId : ℕ) (settings : ROSpecSettings) :
    Except Exn LLRPROSpec := do
  if roSpecId = 0 then
    .error (.llrpError "invalid ROSpec message ID 0 (need >0)")
  if settings.roReportEveryNTags.any fun count => count < 1 || 65535 < count then
    .error (.llrpError
      "ro_report_every_n_tags must be an integer from 1 through 65535 or None")
  let powers ← antennaPowers settings
  let impinj ← impinjReportSelector settings.impinjTagContentSelector
  match settings.frequencies.channelList.getD [defaultChannelIndex] with
  | [] => .error (.llrpError "ChannelList must contain at least one channel")
  | channel :: others =>
    let antennas ← settings.antennas.mapM fun antenna => do
      let power ← (powers.get? antenna).elim (.error (.keyError s!"{antenna}")) .ok
      .ok (antennaConfiguration readerMode settings channel (channel :: others) antenna power)
    .ok
      { roSpecId
        roSpecStopTrigger := durationTrigger settings.durationSec
        aiSpec :=
          { antennaId := settings.antennas
            aiSpecStopTrigger := aiSpecTrigger settings
            antennaConfiguration := antennas }
        roReportSpec :=
          { n := settings.roReportEveryNTags.getD 0
            tagReportContentSelector :=
              baseTagReportContentSelector.update
                ((settings.tagContentSelector.map Dict.entries).getD [])
            impinjTagReportContentSelector := impinj
            motoTagReportContentSelector :=
              settings.zebraTagContentSelector.filter fun selector => !selector.isEmpty } }

/-- Replace the report trigger by the periodic one of hardware deduplication,
whose count field holds seconds. -/
def LLRPROSpec.withHardwareDedup (rospec : LLRPROSpec) (seconds : ℤ) : LLRPROSpec :=
  { rospec with
    roReportSpec :=
      { rospec.roReportSpec with
        roReportTrigger := "None"
        n := seconds
        customParameter :=
          rospec.roReportSpec.customParameter ++ [⟨vendorIdMotorola, 125, [1]⟩] } }

end Sllurp.Protocol
