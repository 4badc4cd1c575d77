/-
# The transition plan

Every configuration field has the action that a change of it needs. A plan lists
the changed fields of two configurations, in the order of their names, each with
its action; what a live session must do is read off the set of actions.
-/

import Sllurp.Config.Settings

namespace Sllurp.Config

open Sllurp.Foundations

/-! ## Equality of field values -/

/-- The equality that the plan compares field values with. Mappings are equal
when they hold equal values under the same keys, in whatever order. -/
class PyEq (α : Type) where
  same : α → α → Bool
  same_self : ∀ value, same value value = true

instance (priority := low) instPyEqOfDecidableEq {α : Type} [DecidableEq α] : PyEq α where
  same first second := first = second
  same_self _ := decide_eq_true rfl

instance instPyEqDict {κ ν : Type} [DecidableEq κ] [PyEq ν] : PyEq (Dict κ ν) where
  same := Dict.agree PyEq.same
  same_self := Dict.agree_refl PyEq.same_self

instance instPyEqOption {α : Type} [PyEq α] : PyEq (Option α) where
  same
    | none, none => true
    | some first, some second => PyEq.same first second
    | _, _ => false
  same_self value := by
    cases value with
    | none => rfl
    | some value => exact PyEq.same_self value

instance instPyEqSelectorValue : PyEq SelectorValue where
  same
    | .flag first, .flag second => first = second
    | .memory first, .memory second => PyEq.same first second
    | _, _ => false
  same_self value := by
    cases value with
    | flag enabled => exact decide_eq_true rfl
    | memory flags => exact PyEq.same_self flags

instance instPyEqTxPower : PyEq TxPower where
  same
    | .index first, .index second => first = second
    | .perAntenna first, .perAntenna second => PyEq.same first second
    | _, _ => false
  same_self value := by
    cases value with
    | index index => exact decide_eq_true rfl
    | perAntenna indexes => exact PyEq.same_self indexes

instance instPyEqTxPowerDbm : PyEq TxPowerDbm where
  same
    | .level first, .level second => first = second
    | .perAntenna first, .perAntenna second => PyEq.same first second
    | _, _ => false
  same_self value := by
    cases value with
    | level dbm => exact decide_eq_true rfl
    | perAntenna levels => exact PyEq.same_self levels

/-- Mappings are equal when every key leads to equal values, or to none. -/
theorem same_dict_iff {κ ν : Type} [DecidableEq κ] [PyEq ν] {first second : Dict κ ν} :
    PyEq.same first second = true ↔
      ∀ key, PyEq.same (first.get? key) (second.get? key) = true := by
  change Dict.agree PyEq.same first second = true ↔ _
  simp only [Dict.agree, List.all_eq_true, List.mem_append, ← Dict.get?_isSome]
  constructor
  · intro hagree key
    have hkey := hagree key
    cases hfirst : first.get? key with
    | some left =>
      rw [hfirst] at hkey
      cases hsecond : second.get? key with
      | some right =>
        rw [hsecond] at hkey
        exact hkey (Or.inl rfl)
      | none => simp [hsecond] at hkey
    | none =>
      rw [hfirst] at hkey
      cases hsecond : second.get? key with
      | some right => simp [hsecond] at hkey
      | none => rfl
  · intro hsame key hkey
    have hvalues := hsame key
    cases hfirst : first.get? key with
    | some left =>
      rw [hfirst] at hvalues
      cases hsecond : second.get? key with
      | some right =>
        rw [hsecond] at hvalues
        exact hvalues
      | none => simp [hsecond, PyEq.same] at hvalues
    | none =>
      rw [hfirst] at hvalues
      cases hsecond : second.get? key with
      | some right => simp [hsecond, PyEq.same] at hvalues
      | none => simp [hfirst, hsecond] at hkey

theorem same_option_iff {α : Type} [DecidableEq α] {first second : Option α} :
    PyEq.same first second = true ↔ first = second := by
  cases first <;> cases second <;> simp [PyEq.same]

/-- Mappings to plain values are equal when every key leads to the same value. -/
theorem get?_of_same {κ ν : Type} [DecidableEq κ] [DecidableEq ν] {first second : Dict κ ν}
    (hsame : PyEq.same first second = true) (key : κ) : first.get? key = second.get? key :=
  same_option_iff.mp (same_dict_iff.mp hsame key)

/-! ## Fields and their actions -/

/-- The public fields, in the order of their names. -/
inductive ConfigField
  | antennas
  | dedupBackend
  | dedupMaxEntries
  | dedupSeconds
  | disconnectWhenDone
  | duration
  | eventSelector
  | frequencies
  | gpiPortsConfig
  | impinjEventSelector
  | impinjExtendedConfiguration
  | impinjFixedFrequency
  | impinjReports
  | impinjSearchMode
  | impinjTagContentSelector
  | keepaliveInterval
  | maxMessageSize
  | modeIdentifier
  | reconnect
  | reconnectDelay
  | reconnectRetries
  | reportEveryNTags
  | reportTimeoutMs
  | requestTimeout
  | resetOnConnect
  | rfTelemetryMode
  | roReportEveryNTags
  | session
  | socketReceiveBufferBytes
  | startInventory
  | tagContentSelector
  | tagFilterMask
  | tagPopulation
  | tari
  | tlsCaFile
  | tlsClientCert
  | tlsClientKey
  | tlsEnabled
  | tlsServerHostname
  | tlsVerify
  | txPower
  | txPowerDbm
  | zebraTagContentSelector
  deriving DecidableEq, Repr

namespace ConfigField

/-- Every field, in the order of the names. -/
def all : List ConfigField :=
  [.antennas, .dedupBackend, .dedupMaxEntries, .dedupSeconds, .disconnectWhenDone, .duration,
    .eventSelector, .frequencies, .gpiPortsConfig, .impinjEventSelector,
    .impinjExtendedConfiguration, .impinjFixedFrequency, .impinjReports, .impinjSearchMode,
    .impinjTagContentSelector, .keepaliveInterval, .maxMessageSize, .modeIdentifier, .reconnect,
    .reconnectDelay, .reconnectRetries, .reportEveryNTags, .reportTimeoutMs, .requestTimeout,
    .resetOnConnect, .rfTelemetryMode, .roReportEveryNTags, .session, .socketReceiveBufferBytes,
    .startInventory, .tagContentSelector, .tagFilterMask, .tagPopulation, .tari, .tlsCaFile,
    .tlsClientCert, .tlsClientKey, .tlsEnabled, .tlsServerHostname, .tlsVerify, .txPower,
    .txPowerDbm, .zebraTagContentSelector]

/-- The attribute name. -/
def text : ConfigField → String
  | antennas => "antennas"
  | dedupBackend => "dedup_backend"
  | dedupMaxEntries => "dedup_max_entries"
  | dedupSeconds => "dedup_seconds"
  | disconnectWhenDone => "disconnect_when_done"
  | duration => "duration"
  | eventSelector => "event_selector"
  | frequencies => "frequencies"
  | gpiPortsConfig => "gpi_ports_config"
  | impinjEventSelector => "impinj_event_selector"
  | impinjExtendedConfiguration => "impinj_extended_configuration"
  | impinjFixedFrequency => "impinj_fixed_frequency"
  | impinjReports => "impinj_reports"
  | impinjSearchMode => "impinj_search_mode"
  | impinjTagContentSelector => "impinj_tag_content_selector"
  | keepaliveInterval => "keepalive_interval"
  | maxMessageSize => "max_message_size"
  | modeIdentifier => "mode_identifier"
  | reconnect => "reconnect"
  | reconnectDelay => "reconnect_delay"
  | reconnectRetries => "reconnect_retries"
  | reportEveryNTags => "report_every_n_tags"
  | reportTimeoutMs => "report_timeout_ms"
  | requestTimeout => "request_timeout"
  | resetOnConnect => "reset_on_connect"
  | rfTelemetryMode => "rf_telemetry_mode"
  | roReportEveryNTags => "ro_report_every_n_tags"
  | session => "session"
  | socketReceiveBufferBytes => "socket_receive_buffer_bytes"
  | startInventory => "start_inventory"
  | tagContentSelector => "tag_content_selector"
  | tagFilterMask => "tag_filter_mask"
  | tagPopulation => "tag_population"
  | tari => "tari"
  | tlsCaFile => "tls_ca_file"
  | tlsClientCert => "tls_client_cert"
  | tlsClientKey => "tls_client_key"
  | tlsEnabled => "tls_enabled"
  | tlsServerHostname => "tls_server_hostname"
  | tlsVerify => "tls_verify"
  | txPower => "tx_power"
  | txPowerDbm => "tx_power_dbm"
  | zebraTagContentSelector => "zebra_tag_content_selector"

/-- The type of the values of a field. -/
def Value : ConfigField → Type
  | disconnectWhenDone | impinjExtendedConfiguration | impinjFixedFrequency | impinjReports |
    reconnect | resetOnConnect | startInventory | tlsEnabled | tlsVerify => Bool
  | dedupSeconds | impinjSearchMode | maxMessageSize | modeIdentifier | reportEveryNTags |
    roReportEveryNTags | socketReceiveBufferBytes | tari => Option ℤ
  | dedupMaxEntries | keepaliveInterval | reconnectRetries | reportTimeoutMs | session |
    tagPopulation => ℤ
  | tlsCaFile | tlsClientCert | tlsClientKey | tlsServerHostname => Option String
  | impinjEventSelector | impinjTagContentSelector | zebraTagContentSelector =>
    Option (Dict String Bool)
  | dedupBackend | rfTelemetryMode => String
  | duration | requestTimeout => Option ℚ
  | antennas => List ℤ
  | eventSelector => Dict String Bool
  | frequencies => Frequencies
  | gpiPortsConfig => Dict ℤ Bool
  | reconnectDelay => ℚ
  | tagContentSelector => Option (Dict String SelectorValue)
  | tagFilterMask => Option (List String)
  | txPower => TxPower
  | txPowerDbm => Option TxPowerDbm

/-- The value a configuration has in a field. -/
def get (config : LLRPReaderConfig) : (field : ConfigField) → field.Value
  | antennas => config.antennas
  | dedupBackend => config.dedupBackend
  | dedupMaxEntries => config.dedupMaxEntries
  | dedupSeconds => config.dedupSeconds
  | disconnectWhenDone => config.disconnectWhenDone
  | duration => config.duration
  | eventSelector => config.eventSelector
  | frequencies => config.frequencies
  | gpiPortsConfig => config.gpiPortsConfig
  | impinjEventSelector => config.impinjEventSelector
  | impinjExtendedConfiguration => config.impinjExtendedConfiguration
  | impinjFixedFrequency => config.impinjFixedFrequency
  | impinjReports => config.impinjReports
  | impinjSearchMode => config.impinjSearchMode
  | impinjTagContentSelector => config.impinjTagContentSelector
  | keepaliveInterval => config.keepaliveInterval
  | maxMessageSize => config.maxMessageSize
  | modeIdentifier => config.modeIdentifier
  | reconnect => config.reconnect
  | reconnectDelay => config.reconnectDelay
  | reconnectRetries => config.reconnectRetries
  | reportEveryNTags => config.reportEveryNTags
  | reportTimeoutMs => config.reportTimeoutMs
  | requestTimeout => config.requestTimeout
  | resetOnConnect => config.resetOnConnect
  | rfTelemetryMode => config.rfTelemetryMode
  | roReportEveryNTags => config.roReportEveryNTags
  | session => config.session
  | socketReceiveBufferBytes => config.socketReceiveBufferBytes
  | startInventory => config.startInventory
  | tagContentSelector => config.tagContentSelector
  | tagFilterMask => config.tagFilterMask
  | tagPopulation => config.tagPopulation
  | tari => config.tari
  | tlsCaFile => config.tlsCaFile
  | tlsClientCert => config.tlsClientCert
  | tlsClientKey => config.tlsClientKey
  | tlsEnabled => config.tlsEnabled
  | tlsServerHostname => config.tlsServerHostname
  | tlsVerify => config.tlsVerify
  | txPower => config.txPower
  | txPowerDbm => config.txPowerDbm
  | zebraTagContentSelector => config.zebraTagContentSelector

instance instPyEqValue : (field : ConfigField) → PyEq field.Value
  | disconnectWhenDone | impinjExtendedConfiguration | impinjFixedFrequency | impinjReports |
    reconnect | resetOnConnect | startInventory | tlsEnabled | tlsVerify =>
    inferInstanceAs (PyEq Bool)
  | dedupSeconds | impinjSearchMode | maxMessageSize | modeIdentifier | reportEveryNTags |
    roReportEveryNTags | socketReceiveBufferBytes | tari => inferInstanceAs (PyEq (Option ℤ))
  | dedupMaxEntries | keepaliveInterval | reconnectRetries | reportTimeoutMs | session |
    tagPopulation => inferInstanceAs (PyEq ℤ)
  | tlsCaFile | tlsClientCert | tlsClientKey | tlsServerHostname =>
    inferInstanceAs (PyEq (Option String))
  | impinjEventSelector | impinjTagContentSelector | zebraTagContentSelector =>
    inferInstanceAs (PyEq (Option (Dict String Bool)))
  | dedupBackend | rfTelemetryMode => inferInstanceAs (PyEq String)
  | duration | requestTimeout => inferInstanceAs (PyEq (Option ℚ))
  | antennas => inferInstanceAs (PyEq (List ℤ))
  | eventSelector => inferInstanceAs (PyEq (Dict String Bool))
  | frequencies => inferInstanceAs (PyEq Frequencies)
  | gpiPortsConfig => inferInstanceAs (PyEq (Dict ℤ Bool))
  | reconnectDelay => inferInstanceAs (PyEq ℚ)
  | tagContentSelector => inferInstanceAs (PyEq (Option (Dict String SelectorValue)))
  | tagFilterMask => inferInstanceAs (PyEq (Option (List String)))
  | txPower => inferInstanceAs (PyEq TxPower)
  | txPowerDbm => inferInstanceAs (PyEq (Option TxPowerDbm))

theorem mem_all (field : ConfigField) : field ∈ all := by
  cases field <;> decide

end ConfigField

/-- What applying a changed field needs. -/
inductive Action
  | client
  | rospec
  | readerConfig
  | reconnect
  deriving DecidableEq, Repr

/-- The action of each field. -/
def configFieldPolicy : ConfigField → Action
  | .maxMessageSize | .requestTimeout | .disconnectWhenDone | .reconnect | .startInventory |
    .resetOnConnect | .reconnectRetries | .reconnectDelay => .client
  | .duration | .tari | .session | .modeIdentifier | .tagPopulation | .roReportEveryNTags |
    .reportEveryNTags | .reportTimeoutMs | .dedupSeconds | .dedupBackend | .dedupMaxEntries |
    .rfTelemetryMode | .antennas | .txPower | .txPowerDbm | .tagFilterMask | .tagContentSelector |
    .frequencies | .impinjFixedFrequency | .impinjSearchMode | .impinjReports |
    .impinjTagContentSelector | .zebraTagContentSelector => .rospec
  | .eventSelector | .gpiPortsConfig | .impinjEventSelector | .keepaliveInterval => .readerConfig
  | .socketReceiveBufferBytes | .tlsEnabled | .tlsVerify | .tlsCaFile | .tlsClientCert |
    .tlsClientKey | .tlsServerHostname | .impinjExtendedConfiguration => .reconnect

/-! ## Plans -/

/-- One changed field and the action needed to apply it. -/
structure ConfigChange where
  field : ConfigField
  old : field.Value
  new : field.Value
  action : Action

/-- The changed fields of one configuration change. -/
structure ConfigTransitionPlan where
  changes : List ConfigChange

/-- Whether the two configurations hold equal values in a field. -/
def agreeOn (old new : LLRPReaderConfig) (field : ConfigField) : Bool :=
  PyEq.same (field.get old) (field.get new)

/-- Compare two configurations field by field. -/
def buildConfigTransitionPlan (old new : LLRPReaderConfig) : ConfigTransitionPlan :=
  ⟨ConfigField.all.filterMap fun field =>
    if agreeOn old new field then none
    else some ⟨field, field.get old, field.get new, configFieldPolicy field⟩⟩

namespace ConfigTransitionPlan

def isNoop (plan : ConfigTransitionPlan) : Bool := plan.changes.isEmpty

def actions (plan : ConfigTransitionPlan) : List Action := plan.changes.map ConfigChange.action

def requiresRospecRestart (plan : ConfigTransitionPlan) : Bool := .rospec ∈ plan.actions

def requiresReaderConfigWrite (plan : ConfigTransitionPlan) : Bool :=
  .readerConfig ∈ plan.actions

def requiresReconnect (plan : ConfigTransitionPlan) : Bool := .reconnect ∈ plan.actions

def clientOnly (plan : ConfigTransitionPlan) : Bool :=
  !plan.changes.isEmpty && plan.actions.all (· = .client)

/-- The names of the fields that need a new session, for the refusal text. -/
def reconnectFields (plan : ConfigTransitionPlan) : String :=
  ", ".intercalate
    ((plan.changes.filter (·.action = .reconnect)).map fun change => change.field.text)

end ConfigTransitionPlan

/-- A plan changes exactly the fields in which the configurations differ. -/
theorem changes_field_iff (old new : LLRPReaderConfig) (field : ConfigField) :
    (∃ change ∈ (buildConfigTransitionPlan old new).changes, change.field = field) ↔
      agreeOn old new field = false := by
  simp only [buildConfigTransitionPlan, List.mem_filterMap]
  constructor
  · rintro ⟨change, ⟨other, _, hchange⟩, rfl⟩
    split at hchange
    · cases hchange
    · rename_i hdiffer
      cases hchange
      exact Bool.eq_false_iff.mpr hdiffer
  · intro hdiffer
    exact ⟨⟨field, field.get old, field.get new, configFieldPolicy field⟩,
      ⟨field, field.mem_all, by simp [hdiffer]⟩, rfl⟩

/-- Without an action in the plan, the configurations agree on the fields that
need it. -/
theorem agreeOn_of_not_mem_actions {old new : LLRPReaderConfig} {field : ConfigField}
    (hplan : configFieldPolicy field ∉ (buildConfigTransitionPlan old new).actions) :
    agreeOn old new field = true := by
  by_contra hdiffer
  refine hplan (List.mem_map.mpr
    ⟨⟨field, field.get old, field.get new, configFieldPolicy field⟩, ?_, rfl⟩)
  rw [buildConfigTransitionPlan, List.mem_filterMap]
  exact ⟨field, field.mem_all, if_neg hdiffer⟩

/-- A configuration needs no transition to itself. -/
theorem buildConfigTransitionPlan_self (config : LLRPReaderConfig) :
    (buildConfigTransitionPlan config config).isNoop = true := by
  have hchanges : (buildConfigTransitionPlan config config).changes = [] := by
    simp only [buildConfigTransitionPlan, List.filterMap_eq_nil_iff]
    intro field _
    rw [if_pos (show agreeOn config config field = true from PyEq.same_self _)]
  rw [ConfigTransitionPlan.isNoop, hchanges]
  rfl

end Sllurp.Config
