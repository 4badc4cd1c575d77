/-
# Reader capabilities

The parts of a decoded capabilities response that the client reads, and the
choices it makes from them: the transmit power table, the table index for a
requested power, and the RF mode. A field is `none` where the mapping lacks
the key. What the client stores is the whole mapping, with what it never reads.
-/

import Sllurp.Codec.Value
import Sllurp.Foundations.Binary64
import Sllurp.Foundations.Dict
import Sllurp.Foundations.HashOrder
import Sllurp.Protocol.Messages
import Mathlib.Data.List.MinMax
import Mathlib.Algebra.Order.Ring.Unbundled.Rat

namespace Sllurp.Protocol

open Sllurp.Foundations

/-- What the mapping of a message has besides the parameters that the client reads from
it: the fields of the header, the status, and every other entry at any depth. -/
structure Envelope where
  ver : ℕ := 1
  type : ℕ := 0
  id : ℕ := 0
  status : Option LLRPStatus := none
  others : Dict String Codec.Value := .empty

structure TransmitPowerLevelTableEntry where
  index : ℕ
  transmitPowerValue : ℤ
  deriving DecidableEq

/-- One RF mode of the reader. -/
structure ReaderMode where
  modeIdentifier : ℤ
  mod : ℕ := 0
  flm : ℕ := 0
  m : ℕ := 0
  bdr : ℕ := 0
  pie : ℕ := 0
  minTari : ℤ
  maxTari : ℤ
  stepTari : ℕ := 0
  dr : ℕ := 0
  epcHagTcConformance : Bool := false
  deriving DecidableEq

/-- The printed form of a mode in an error text. -/
def ReaderMode.text (mode : ReaderMode) : String :=
  let conformance := if mode.epcHagTcConformance then "True" else "False"
  s!"\x7b'ModeIdentifier': {mode.modeIdentifier}, 'Mod': {mode.mod}, 'FLM': {mode.flm}, " ++
    s!"'M': {mode.m}, 'BDR': {mode.bdr}, 'PIE': {mode.pie}, 'MinTari': {mode.minTari}, " ++
    s!"'MaxTari': {mode.maxTari}, 'StepTari': {mode.stepTari}, 'DR': {mode.dr}, " ++
    s!"'EPCHAGTCConformance': {conformance}\x7d"

/-- The UHF band capabilities. A reader without a power table reports no
entries. -/
structure UHFBandCapabilities where
  transmitPowerLevelTableEntry : List TransmitPowerLevelTableEntry := []
  uhfC1G2RFModeTable : Option (Option (List ReaderMode)) := none
  deriving DecidableEq

/-- A custom parameter that the decoder kept as raw bytes. -/
structure RawParameter where
  vendorId : ℕ
  subtype : ℕ
  data : List UInt8
  deriving DecidableEq

/-- A decoded capabilities response. -/
structure Capabilities where
  maxNumberOfAntennaSupported : Option ℕ := none
  regulatoryCapabilities : Option (Option UHFBandCapabilities) := none
  motoAdvancedCapabilities : Option Bool := none
  sllurpDecodeError : List RawParameter := []
  envelope : Envelope := {}

def vendorIdMotorola : ℕ := 161

/-! ## Key lookups -/

/-- The value of a key, or the `KeyError` of its absence. -/
def key {α : Type} (name : String) : Option α → Except Exn α
  | some value => .ok value
  | none => .error (.missingKey name)

def Capabilities.uhfBand (capabilities : Capabilities) : Except Exn UHFBandCapabilities := do
  let regulatory ← key "RegulatoryCapabilities" capabilities.regulatoryCapabilities
  key "UHFBandCapabilities" regulatory

/-- The RF modes of a band. -/
def UHFBandCapabilities.modeList (band : UHFBandCapabilities) :
    Except Exn (List ReaderMode) := do
  let table ← key "UHFC1G2RFModeTable" band.uhfC1G2RFModeTable
  key "UHFC1G2RFModeTableEntry" table

/-- Whether periodic tag reporting is advertised: by the decoded parameter, or
else by bit 4 of the byte after the version in the first raw one. -/
def Capabilities.supportsZebraPeriodicTagReports (capabilities : Capabilities) : Bool :=
  match capabilities.motoAdvancedCapabilities with
  | some canSupportPeriodicTagReports => canSupportPeriodicTagReports
  | none =>
    let raw := capabilities.sllurpDecodeError.find? fun raw =>
      raw.vendorId = vendorIdMotorola && raw.subtype = 110
    match raw with
    | none => false
    | some raw => 5 ≤ raw.data.length && (raw.data.getD 4 0).toNat.testBit 4

/-! ## Transmit power -/

/-- The power table in dBm, indexed by the reader's own indexes. -/
def parsePowerTable (band : UHFBandCapabilities) : List ℚ :=
  let entries := band.transmitPowerLevelTableEntry
  if entries.isEmpty then [0]
  else
    let size := (entries.map (·.index)).foldl max 0 + 1
    entries.foldl
      (fun table entry =>
        table.set entry.index (Binary64.round (entry.transmitPowerValue / 100)))
      (List.replicate size 0)

/-- The indexes a band advertises, in the order in which a copy of their set is iterated.
Whenever a power is selected, the set is copied first. -/
def powerIndices (band : UHFBandCapabilities) : List ℕ :=
  HashOrder.entries (HashOrder.copy
    (HashOrder.build (band.transmitPowerLevelTableEntry.map (·.index))))

/-- Each advertised index is iterated once. -/
theorem nodup_powerIndices (band : UHFBandCapabilities) : (powerIndices band).Nodup :=
  (HashOrder.entries_copy _).nodup_iff.mpr (HashOrder.entries_build _).1

theorem mem_powerIndices {band : UHFBandCapabilities} {index : ℕ} :
    index ∈ powerIndices band ↔
      ∃ entry ∈ band.transmitPowerLevelTableEntry, entry.index = index := by
  unfold powerIndices
  rw [(HashOrder.entries_copy _).mem_iff, (HashOrder.entries_build _).2, List.mem_map]

/-- The indexes that may be selected: the advertised ones, or all positions of
the table. -/
def validIndices (indices : List ℕ) (table : List ℚ) : List ℕ :=
  if indices.isEmpty then List.range table.length else indices

/-- The dBm value at a table index. -/
def powerAt (table : List ℚ) (index : ℕ) : ℚ := table.getD index 0

/-- Replace requested table indexes by the selected ones and their dBm values.
Index 0 means the maximum when `zeroIsMax` is set. -/
def getTxPower (indices : List ℕ) (table : List ℚ) (txPower : List (ℤ × ℤ))
    (zeroIsMax : Bool) : Except Exn (List (ℤ × ℕ × ℚ)) :=
  if table.isEmpty then .ok []
  else
    let valid := validIndices indices table
    match valid.argmax (powerAt table) with
    | none => .ok []
    | some maxPowerIdx =>
      let minAvailable := valid.foldl min maxPowerIdx
      let maxAvailable := valid.foldl max maxPowerIdx
      txPower.mapM fun (antenna, requested) =>
        let selected := if requested = 0 && zeroIsMax then (maxPowerIdx : ℤ) else requested
        if selected.toNat ∈ valid ∧ 0 ≤ selected then
          .ok (antenna, selected.toNat, powerAt table selected.toNat)
        else
          .error (.llrpError
            (s!"Invalid tx_power for antenna {antenna}: requested={requested}, " ++
              s!"min_available={minAvailable}, max_available={maxAvailable}"))

/-- How far the power at a table index is from a request in dBm. -/
def powerDistance (table : List ℚ) (dbm : ℚ) (index : ℕ) : ℚ :=
  |Binary64.round (powerAt table index - dbm)|

/-- The valid index whose power is nearest to a request in dBm, the first one of several. -/
def nearestIndex (indices : List ℕ) (table : List ℚ) (dbm : ℚ) : Option ℕ :=
  (validIndices indices table).argmin (powerDistance table dbm)

end Sllurp.Protocol
