/-
# Validation

`validateConfig` checks the constrained fields of one configuration object and
normalizes some of them in place: the misspelt channel list key, the telemetry
mode, the selectors that telemetry needs, and scalar transmit powers. What was
normalized before a check fails stays normalized.
-/

import Sllurp.Config.Settings
import Sllurp.Foundations.Program
import Sllurp.Protocol.Messages
import Mathlib.Data.List.Sort

namespace Sllurp.Config

open Sllurp.Foundations Sllurp.Protocol
open Sllurp.Foundations.Program (Within)

/-! ## Text normalization -/

/-- The characters that `str.strip` removes. -/
def isSpace (char : Char) : Bool :=
  let code := char.toNat
  (9 ≤ code && code ≤ 13) || (28 ≤ code && code ≤ 32) || code = 0x85 || code = 0xA0 ||
    code = 0x1680 || (0x2000 ≤ code && code ≤ 0x200A) || code = 0x2028 || code = 0x2029 ||
    code = 0x202F || code = 0x205F || code = 0x3000

/-- `str.strip().lower()`, lowering the ASCII letters. No other character lowers
to a letter of a telemetry mode's name. -/
def stripLower (text : String) : String :=
  let chars := (text.toList.dropWhile isSpace).reverse.dropWhile isSpace
  String.ofList (chars.reverse.map Char.toLower)

/-! ## Normalizing steps -/

/-- Rename the misspelt channel list key. -/
def Frequencies.normalize (frequencies : Frequencies) : Frequencies :=
  match frequencies.channelist with
  | none => frequencies
  | some channels =>
    { frequencies with
      channelList := some (frequencies.channelList.getD channels)
      channelist := none }

/-- The report flags that every telemetry mode switches on. -/
def telemetryTagFields : List (String × SelectorValue) :=
  [("EnableROSpecID", .flag true), ("EnableAntennaID", .flag true),
    ("EnableChannelIndex", .flag true), ("EnablePeakRSSI", .flag true),
    ("EnableFirstSeenTimestamp", .flag true), ("EnableLastSeenTimestamp", .flag true),
    ("EnableTagSeenCount", .flag true)]

/-- The Zebra report selector in Zebra telemetry mode. -/
def zebraTelemetrySelector (selector : Option (Dict String Bool)) : Dict String Bool :=
  let selector := selector.getD .empty
  let selector := (selector.setdefault "EnableZoneID" false).setdefault "EnableZoneName" false
  let selector := (selector.set "EnableAntennaPhysicalPortConfig" true).set "EnablePhase" true
  (selector.setdefault "EnableGPS" false).setdefault "EnableMLTReport" false

/-- The fields a Zebra report selector may hold. -/
def allowedZebraReportFields : List String :=
  ["EnableZoneID", "EnableZoneName", "EnableAntennaPhysicalPortConfig", "EnablePhase",
    "EnableGPS", "EnableMLTReport"]

/-- The value under each antenna. -/
def forAntennas {ν : Type} (antennas : List ℤ) (value : ν) : Dict ℤ ν :=
  .ofList (antennas.map (·, value))

/-! ## The checks -/

/-- Refuse with an `LLRPError` unless the condition holds. -/
def require (condition : Bool) (text : String) : Program LLRPReaderConfig Exn Unit :=
  if condition then pure () else .raise (.llrpError text)

/-- Antennas, retries, timeouts and the frame size limit. -/
def validateScalars : Program LLRPReaderConfig Exn Unit := do
  let config ← Program.get
  require (config.roReportEveryNTags.all fun count => 1 ≤ count && count ≤ 65535)
    "ro_report_every_n_tags must be an integer from 1 through 65535 or None"
  require (!config.antennas.isEmpty) "antennas must be a non-empty list or tuple"
  require (config.antennas.all (0 ≤ ·)) "antennas must contain non-negative integers"
  require (!(0 ∈ config.antennas && config.antennas.length ≠ 1))
    "antenna 0 means all antennas and cannot be combined with others"
  require (-1 ≤ config.reconnectRetries)
    "reconnect_retries must be -1 or a non-negative integer"
  require (0 ≤ config.reconnectDelay) "reconnect_delay must be a non-negative number"
  require (config.requestTimeout.all (0 < ·))
    "request_timeout must be a finite positive number or None"
  require (config.maxMessageSize.all fun size => (msgHeaderLen : ℤ) ≤ size)
    "max_message_size must be at least 10 bytes or None"

/-- The channel list, after its key was normalized. -/
def validateFrequencies : Program LLRPReaderConfig Exn Unit := do
  Program.modify fun config => { config with frequencies := config.frequencies.normalize }
  let config ← Program.get
  let channels := config.frequencies.channelList.getD []
  require (!channels.isEmpty) "frequencies ChannelList must contain at least one channel"
  require (channels.all (0 < ·)) "frequency channel indexes must be positive integers"
  require
    (!((config.frequencies.automatic.getD false || 1 < channels.length) &&
      !config.impinjFixedFrequency))
    ("automatic or multiple frequency selection requires " ++
      "impinj_fixed_frequency=True because it uses an Impinj vendor extension")

/-- The telemetry mode and the report selectors it needs. -/
def validateTelemetry : Program LLRPReaderConfig Exn Unit := do
  Program.modify fun config =>
    { config with rfTelemetryMode := stripLower config.rfTelemetryMode }
  let config ← Program.get
  require (config.rfTelemetryMode ∈ ["off", "standard", "zebra"])
    "rf_telemetry_mode must be one of: off, standard, zebra"
  if config.rfTelemetryMode ≠ "off" then
    match config.tagContentSelector with
    | none => .raise (.llrpError "tag_content_selector must be a dict in RF telemetry mode")
    | some selector =>
      Program.modify fun config =>
        { config with tagContentSelector := some (selector.update telemetryTagFields) }
  if config.rfTelemetryMode = "zebra" then
    Program.modify fun config =>
      { config with
        zebraTagContentSelector := some (zebraTelemetrySelector config.zebraTagContentSelector) }
  let config ← Program.get
  match config.zebraTagContentSelector with
  | none => pure ()
  | some selector =>
    let unknown := selector.keys.filter (· ∉ allowedZebraReportFields)
    require unknown.isEmpty
      ("unknown zebra_tag_content_selector field(s): " ++
        ", ".intercalate (unknown.insertionSort (· ≤ ·)))

/-- Deduplication, the socket buffer and the TLS files. -/
def validateSession : Program LLRPReaderConfig Exn Unit := do
  let config ← Program.get
  require (config.dedupSeconds.all (0 < ·)) "dedup_seconds must be a positive integer or None"
  require (config.dedupBackend ∈ ["auto", "hardware", "memory"])
    "dedup_backend must be auto, hardware, or memory"
  require
    (!(config.dedupBackend = "hardware" &&
      config.dedupSeconds.any (zebraTimedDedupMaxSeconds < ·)))
    "hardware dedup supports at most 600 seconds"
  require (0 < config.dedupMaxEntries) "dedup_max_entries must be a positive integer"
  require (config.socketReceiveBufferBytes.all (0 < ·))
    "socket_receive_buffer_bytes must be a positive integer or None"
  require
    (!(config.tlsClientKey.any (· ≠ "") && !config.tlsClientCert.any (· ≠ "")))
    "tls_client_key requires tls_client_cert"

/-- The transmit power requests, one value for each antenna afterwards. -/
def validatePower : Program LLRPReaderConfig Exn Unit := do
  let config ← Program.get
  match config.txPower with
  | .index index =>
    Program.modify fun config =>
      { config with txPower := .perAntenna (forAntennas config.antennas index) }
  | .perAntenna indexes =>
    require (indexes.hasKeys config.antennas) "Must specify tx_power for each antenna"
  match config.txPowerDbm with
  | none => pure ()
  | some (.level dbm) =>
    Program.modify fun config =>
      { config with txPowerDbm := some (.perAntenna (forAntennas config.antennas dbm)) }
  | some (.perAntenna levels) =>
    require (levels.hasKeys config.antennas) "Must specify tx_power for each antenna"

/-- Normalize compatibility spellings and validate all constrained fields. -/
def validateConfig : Program LLRPReaderConfig Exn Unit := do
  validateScalars
  validateFrequencies
  validateTelemetry
  validateSession
  validatePower

/-! ## What validation keeps -/

/-- Validation keeps the frame size limit. -/
theorem validateConfig_within :
    Within (Frame.fixing LLRPReaderConfig.maxMessageSize) validateConfig := by
  have hrequire : ∀ (condition : Bool) (text : String),
      Within (Frame.fixing LLRPReaderConfig.maxMessageSize) (require condition text) :=
    fun condition text => .ite (fun _ => .pure ()) fun _ => .raise _
  have hmodify : ∀ update : LLRPReaderConfig → LLRPReaderConfig,
      (∀ config, (update config).maxMessageSize = config.maxMessageSize) →
      Within (Frame.fixing LLRPReaderConfig.maxMessageSize)
        (Program.modify update : Program LLRPReaderConfig Exn Unit) :=
    fun update hsame => .modify hsame
  refine .bind ?_ fun _ => .bind ?_ fun _ => .bind ?_ fun _ => .bind ?_ fun _ => ?_
  · unfold validateScalars
    refine .bind .get fun config => .bind (hrequire _ _) fun _ => .bind (hrequire _ _) fun _ => ?_
    refine .bind (hrequire _ _) fun _ => .bind (hrequire _ _) fun _ => ?_
    refine .bind (hrequire _ _) fun _ => .bind (hrequire _ _) fun _ => ?_
    exact .bind (hrequire _ _) fun _ => hrequire _ _
  · unfold validateFrequencies
    refine .bind (hmodify _ fun _ => rfl) fun _ => .bind .get fun config => ?_
    exact .bind (hrequire _ _) fun _ => .bind (hrequire _ _) fun _ => hrequire _ _
  · unfold validateTelemetry
    refine .bind (hmodify _ fun _ => rfl) fun _ => .bind .get fun config => ?_
    refine .bind (hrequire _ _) fun _ => ?_
    have hselector : Within (Frame.fixing LLRPReaderConfig.maxMessageSize) (do
        let config ← Program.get
        match config.zebraTagContentSelector with
        | none => pure ()
        | some selector =>
          let unknown := selector.keys.filter (· ∉ allowedZebraReportFields)
          require unknown.isEmpty
            ("unknown zebra_tag_content_selector field(s): " ++
              ", ".intercalate (unknown.insertionSort (· ≤ ·)))) := by
      refine .bind .get fun config => ?_
      cases config.zebraTagContentSelector with
      | none => exact .pure ()
      | some selector => exact hrequire _ _
    have hzebra := fun config : LLRPReaderConfig =>
      @Within.ite _ _ _ (Frame.fixing LLRPReaderConfig.maxMessageSize)
        (config.rfTelemetryMode = "zebra") _ _ _
        (fun _ => .bind (hmodify (fun config => { config with
          zebraTagContentSelector := some (zebraTelemetrySelector config.zebraTagContentSelector) })
          fun _ => rfl) fun _ => hselector) fun _ => hselector
    refine .ite (fun _ => ?_) fun _ => hzebra config
    cases config.tagContentSelector with
    | none => exact .raise _
    | some selector => exact .bind (hmodify _ fun _ => rfl) fun _ => hzebra config
  · unfold validateSession
    refine .bind .get fun config => .bind (hrequire _ _) fun _ => .bind (hrequire _ _) fun _ => ?_
    refine .bind (hrequire _ _) fun _ => .bind (hrequire _ _) fun _ => ?_
    exact .bind (hrequire _ _) fun _ => hrequire _ _
  · unfold validatePower
    refine .bind .get fun config => ?_
    cases config.txPower with
    | index index =>
      refine .bind (hmodify _ fun _ => rfl) fun _ => ?_
      rcases config.txPowerDbm with _ | _ | _
      · exact .pure ()
      · exact hmodify _ fun _ => rfl
      · exact hrequire _ _
    | perAntenna indexes =>
      refine .bind (hrequire _ _) fun _ => ?_
      rcases config.txPowerDbm with _ | _ | _
      · exact .pure ()
      · exact hmodify _ fun _ => rfl
      · exact hrequire _ _

end Sllurp.Config
