import Sllurp.Foundations.Program
import Sllurp.Foundations.Run
import Sllurp.Foundations.Dict
import Sllurp.Protocol.Messages
import Sllurp.Protocol.Capabilities
import Sllurp.Protocol.ROSpec
import Sllurp.Config.Settings
import Sllurp.Runtime.Registry
import Sllurp.Runtime.Timeouts
import Sllurp.Runtime.Deduplicator
import Sllurp.Runtime.Staleness
import Sllurp.Runtime.DeduplicatorMemory
import Sllurp.Config.Policy
import Sllurp.Config.Validate
import Sllurp.Session.State
import Sllurp.Session.Requests
import Sllurp.Session.Inventory
import Sllurp.Session.Connection
import Sllurp.Session.Apply
import Sllurp.Session.Handle
import Sllurp.Session.Sending
import Sllurp.Session.Run
import Sllurp.Session.Handling
import Sllurp.Session.Frames
import Sllurp.Session.Correlation
import Sllurp.Session.AtMostOnce
import Sllurp.Session.ExactMatch
import Sllurp.Session.Unmatched
import Sllurp.Session.Waiting
import Sllurp.Session.OpenTransport
import Sllurp.Session.SetupRequests
import Sllurp.Session.PlanSoundness
import Sllurp.Session.ClosedSession
import Sllurp.Session.FrameBuffer
import Sllurp.Session.Fitting
import Sllurp.Session.Crashes
import Sllurp.Session.Reactions
import Sllurp.Session.SentRequests
import Sllurp.Session.FailedWrites
import Sllurp.Session.DurationTimer
import Sllurp.Session.TimedPause
import Sllurp.Session.PowerSetters
import Sllurp.Session.RaisingCalls
import Sllurp.Session.Agreement
import Sllurp.Session.RaisingApply
import Sllurp.Session.DisconnectFinal
import Sllurp.Session.Stopping
import Sllurp.Codec.Message
import Sllurp.Codec.Failures
import Sllurp.Codec.CustomMessage
import Sllurp.Codec.Sender
import Sllurp.Codec.Tiling
import Sllurp.Codec.HeaderRoundTrip
import Sllurp.Codec.Marker
import Sllurp.Codec.Counts
import Sllurp.Codec.TagSpec
import Sllurp.Codec.TagKey
import Sllurp.Codec.ReadBack
import Sllurp.Codec.Forms
import Sllurp.Codec.Mirror
import Sllurp.Codec.ROSpecReading
import Sllurp.Client.Rollback
import Sllurp.Client.MessageIds
import Sllurp.Client.Callbacks
import Sllurp.Management.Origin
import Sllurp.Epc.Sgtin96
import Sllurp.Codec.AccessSpecs
