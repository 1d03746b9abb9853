import Anslp.Lib.Words
import Anslp.Lib.OrderedMap
import Anslp.Lib.Transition
import Anslp.Lib.Retries
import Anslp.Lib.Numerals
import Anslp.Lib.Grouping
import Anslp.Lib.Rounding
import Anslp.Lib.RawArray
import Anslp.Lib.Joining
import Anslp.Lib.Queue
import Anslp.Msg.NetMsg
import Anslp.Msg.Object
import Anslp.Msg.Store
import Anslp.Msg.Message
import Anslp.Msg.StoreCalls
import Anslp.Msg.RawIpap
import Anslp.Msg.Decoding
import Anslp.Msg.RoundTrip
import Anslp.Msg.InformationCode
import Anslp.Msg.PassingOn
import Anslp.Msg.SerializedSize
import Anslp.Msg.MissingObjects
import Anslp.Msg.Framing
import Anslp.Msg.Ipap
import Anslp.Msg.Xml
import Anslp.Msg.XmlWriting
import Anslp.Msg.XmlRoundTrip
import Anslp.Msg.KeyOrder
import Anslp.Msg.TemplateFields
import Anslp.Msg.Splitting
import Anslp.Msg.XmlOnce
import Anslp.Msg.XmlReuse
import Anslp.Session.Rule
import Anslp.Session.RuleCopy
import Anslp.Msg.Ntlp
import Anslp.Msg.SessionId
import Anslp.Msg.WireOrder
import Anslp.Session.Authorization
import Anslp.Session.Uninstalling
import Anslp.Session.Reporting
import Anslp.Node.Process
import Anslp.Node.Threads
import Anslp.Session.Removal
import Anslp.Session.Lifetime
import Anslp.Session.Direction
import Anslp.Session.Participation
import Anslp.Session.Checking
import Anslp.Session.RemovalRetries
import Anslp.Session.Refreshing
import Anslp.Session.MsgSequenceNumber
import Anslp.Session.Closing
import Anslp.Session.ResponseTimer
import Anslp.Session.Finality
import Anslp.Session.Stale
import Anslp.Session.HopCount
import Anslp.Session.Initiation
import Anslp.Session.Renewal
import Anslp.Session.RefreshInterval
import Anslp.Node.Chain
import Anslp.Session.Sending
import Anslp.Session.Building
import Anslp.Node.PathInvariant
import Anslp.Node.Establishment
import Anslp.Session.Provenance
import Anslp.Node.Provenance
import Anslp.Node.Sessions
import Anslp.Node.Network
import Anslp.Session.RuleRemoval
import Anslp.Node.Installer
import Anslp.Node.Mapper
import Anslp.Node.Wire
import Anslp.Msg.Writability
import Anslp.Node.Handover
