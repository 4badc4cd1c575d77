/-
# The configuration a reader reports

The parameters of a decoded GET_READER_CONFIG response that the client
summarizes, and the vendor-neutral summary. What the reader did not report stays
absent.
-/

import Sllurp.Protocol.Capabilities
import Mathlib.Data.Int.Notation

namespace Sllurp.Protocol

open Sllurp.Foundations

/-- Named numeric fields of one parameter. -/
abbrev Fields : Type := Dict String ℤ

/-- An AntennaProperties parameter. -/
structure AntennaProperties where
  antennaId : ℤ
  antennaConnected : Option ℤ
  antennaGain : Option ℤ
  deriving DecidableEq

/-- A decoded configuration response. -/
structure ReaderConfiguration where
  antennaProperties : List AntennaProperties := []
  antennaConfiguration : List (ℤ × Fields) := []
  keepaliveSpec : Option Fields := none
  readerEventNotificationSpec : Option Fields := none
  accessReportSpec : Option Fields := none
  eventsAndReports : Option Fields := none
  gpiPortCurrentState : Option (List Fields) := none
  gpoWriteData : Option (List Fields) := none
  envelope : Envelope := {}

/-- The summary, by antenna where parameters repeat for each antenna. -/
structure ReaderConfigSummary where
  antennaProperties : Dict ℤ (Option ℤ × Option ℤ) := .empty
  antennaConfigurations : Dict ℤ Fields := .empty
  keepalive : Option Fields := none
  eventNotifications : Option Fields := none
  accessReport : Option Fields := none
  eventsAndReports : Option Fields := none
  gpiPorts : Option (List Fields) := none
  gpoPorts : Option (List Fields) := none
  deriving DecidableEq

/-- Normalize the reported configuration. Of several parameters for one antenna
the last one counts. -/
def parseReaderConfig (reported : ReaderConfiguration) : ReaderConfigSummary where
  antennaProperties :=
    .ofList (reported.antennaProperties.map fun item =>
      (item.antennaId, item.antennaConnected, item.antennaGain))
  antennaConfigurations := .ofList reported.antennaConfiguration
  keepalive := reported.keepaliveSpec
  eventNotifications := reported.readerEventNotificationSpec
  accessReport := reported.accessReportSpec
  eventsAndReports := reported.eventsAndReports
  gpiPorts := reported.gpiPortCurrentState
  gpoPorts := reported.gpoWriteData

end Sllurp.Protocol
