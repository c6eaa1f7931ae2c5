import NodeWireguard.Client.AddressRoundTrip
import NodeWireguard.Client.AsyncPromise
import NodeWireguard.Client.Backends
import NodeWireguard.Client.CallChain
import NodeWireguard.Client.CallOrder
import NodeWireguard.Client.CallQueue
import NodeWireguard.Client.CapturedConfig
import NodeWireguard.Client.ConfigCopy
import NodeWireguard.Client.ConfigFields
import NodeWireguard.Client.ConfigFromJs
import NodeWireguard.Client.ConfigSemantics
import NodeWireguard.Client.DeviceListing
import NodeWireguard.Client.DeviceReads
import NodeWireguard.Client.DeviceToJs
import NodeWireguard.Client.ExportedKeys
import NodeWireguard.Client.JsValues
import NodeWireguard.Client.ListingReads
import NodeWireguard.Client.NativeMethods
import NodeWireguard.Client.ReadPaths
import NodeWireguard.Client.RefusedRequest
import NodeWireguard.Client.RejectedInput
import NodeWireguard.Client.Sessions
import NodeWireguard.Client.SocketLifetime
import NodeWireguard.Client.SocketRequests
import NodeWireguard.Client.WorkerFailures
import NodeWireguard.Client.WorkerOutcomes
import NodeWireguard.Client.WritePaths
import NodeWireguard.Crypto.AccumulatorRange
import NodeWireguard.Crypto.Base64Reading
import NodeWireguard.Crypto.Key
import NodeWireguard.Crypto.KeyEncodings
import NodeWireguard.Crypto.PublicKey
import NodeWireguard.Crypto.StandardBase64
import NodeWireguard.Foundations.AttributeStream
import NodeWireguard.Foundations.ByteText
import NodeWireguard.Foundations.DecimalText
import NodeWireguard.Foundations.EarlyExit
import NodeWireguard.Foundations.Failures
import NodeWireguard.Foundations.Fallible
import NodeWireguard.Foundations.IntegerConversions
import NodeWireguard.Foundations.KeyedOrder
import NodeWireguard.Foundations.MergedRuns
import NodeWireguard.Foundations.Numerals
import NodeWireguard.Foundations.PromiseJobs
import NodeWireguard.Foundations.RelatedLists
import NodeWireguard.Foundations.SharedPointers
import NodeWireguard.Helpers.IfName
import NodeWireguard.Netlink.AddressForms
import NodeWireguard.Netlink.AddressGrammar
import NodeWireguard.Netlink.AddressText
import NodeWireguard.Netlink.AttributeOrder
import NodeWireguard.Netlink.CidrGrammar
import NodeWireguard.Netlink.DeviceDump
import NodeWireguard.Netlink.DeviceSettings
import NodeWireguard.Netlink.DumpFields
import NodeWireguard.Netlink.DumpReassembly
import NodeWireguard.Netlink.DumpRuns
import NodeWireguard.Netlink.EndpointGrammar
import NodeWireguard.Netlink.ExchangeOutcome
import NodeWireguard.Netlink.LinkExchange
import NodeWireguard.Netlink.LinkRequests
import NodeWireguard.Netlink.LinkRuns
import NodeWireguard.Netlink.MessageBuffer
import NodeWireguard.Netlink.RequestRuns
import NodeWireguard.Netlink.SetDeviceMessage
import NodeWireguard.Netlink.SetMessageContent
import NodeWireguard.Netlink.SetMessageReading
import NodeWireguard.Netlink.SetMessageSize
import NodeWireguard.Netlink.SocketAddress
import NodeWireguard.Netlink.SocketExchange
import NodeWireguard.Netlink.WireguardUapi
import NodeWireguard.Uapi.DaemonConfirmation
import NodeWireguard.Uapi.GetResponse
import NodeWireguard.Uapi.GetSections
import NodeWireguard.Uapi.LineAcceptance
import NodeWireguard.Uapi.RequestLines
import NodeWireguard.Uapi.SetReading
import NodeWireguard.Uapi.SetRequest
import NodeWireguard.Uapi.SocketDirectory
import NodeWireguard.Uapi.SocketNames
import NodeWireguard.Uapi.StrictNumbers
import NodeWireguard.Uapi.Transact
import NodeWireguard.Uapi.TransactRuns
import NodeWireguard.WireGuardTypes
