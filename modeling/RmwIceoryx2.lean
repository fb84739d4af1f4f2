import RmwIceoryx2.Library.Execution
import RmwIceoryx2.Library.FirstOccurrence
import RmwIceoryx2.Common.Error
import RmwIceoryx2.Common.ErrorText
import RmwIceoryx2.Common.Names
import RmwIceoryx2.Runtime.WaitSet
import RmwIceoryx2.Runtime.Mapping
import RmwIceoryx2.Runtime.Events
import RmwIceoryx2.Rmw.WaitSet
import RmwIceoryx2.Runtime.Waiting
import RmwIceoryx2.Rmw.WaitDelivery
import RmwIceoryx2.Rmw.WaitIsolation
import RmwIceoryx2.Runtime.Readiness
import RmwIceoryx2.System.Readiness
import RmwIceoryx2.Library.KeyedMap
import RmwIceoryx2.Message.Introspection
import RmwIceoryx2.Message.TypeSupport
import RmwIceoryx2.Rmw.Serialize
import RmwIceoryx2.Rmw.Publisher
import RmwIceoryx2.Rmw.Subscription
import RmwIceoryx2.Rmw.PublishAccounting
import RmwIceoryx2.Rmw.TakeAccounting
import RmwIceoryx2.System.RawTopic
import RmwIceoryx2.Rmw.PublisherCapacity
import RmwIceoryx2.Rmw.Endpoint
import RmwIceoryx2.Message.MessageType
import RmwIceoryx2.System.Encoding
import RmwIceoryx2.Library.OrderedSet
import RmwIceoryx2.Rmw.Graph
import RmwIceoryx2.Library.Custody
import RmwIceoryx2.Runtime.LoanCustody
import RmwIceoryx2.Runtime.Representation
import RmwIceoryx2.Library.Handshake
import RmwIceoryx2.System.DrainingClient
import RmwIceoryx2.Library.Separator
import RmwIceoryx2.System.Latching
import RmwIceoryx2.System.Forwarding
import RmwIceoryx2.System.PublishPaths
import RmwIceoryx2.Rmw.StringArray
import RmwIceoryx2.Rmw.NodeNames
import RmwIceoryx2.Rmw.TopicNames
import RmwIceoryx2.Runtime.Context
import RmwIceoryx2.Rmw.Context
import RmwIceoryx2.System.Signals
import RmwIceoryx2.Rmw.WaitContext
import RmwIceoryx2.System.ContextLifetime
import RmwIceoryx2.Library.Ledger
import RmwIceoryx2.Rmw.Memory
import RmwIceoryx2.Rmw.Creation
import RmwIceoryx2.Rmw.InitOptions
import RmwIceoryx2.System.Ownership
import RmwIceoryx2.Library.Interruption
import RmwIceoryx2.Runtime.CallbackOrder
import RmwIceoryx2.Rmw.FalseReadiness
import RmwIceoryx2.System.FailedPublish
import RmwIceoryx2.Library.PrefixReader
import RmwIceoryx2.System.Serialization
import RmwIceoryx2.Rmw.InitRetry
import RmwIceoryx2.Rmw.TimeoutReturn
import RmwIceoryx2.Library.Alignment
import RmwIceoryx2.Message.Alignment
import RmwIceoryx2.Rmw.LoanAlignment
import RmwIceoryx2.Library.Numeral
import RmwIceoryx2.Rmw.NodeNameGrammar
import RmwIceoryx2.Library.SharedResources
import RmwIceoryx2.Runtime.Services
import RmwIceoryx2.Rmw.TopicServices
import RmwIceoryx2.System.CountingQueries
import RmwIceoryx2.Library.Simulation
import RmwIceoryx2.System.Lifecycle
import RmwIceoryx2.Rmw.NameScheme
import RmwIceoryx2.Library.SignalBoard
import RmwIceoryx2.System.WaitSets
import RmwIceoryx2.Library.Inbox
import RmwIceoryx2.System.EndpointPaths
import RmwIceoryx2.System.Delivery
import RmwIceoryx2.Rmw.Explanations
import RmwIceoryx2.Library.Stock
import RmwIceoryx2.System.SampleStock
import RmwIceoryx2.System.LoanStock
import RmwIceoryx2.Library.Progress
import RmwIceoryx2.System.EventualDelivery
import RmwIceoryx2.System.NodeGraph
import RmwIceoryx2.Rmw.ListingFailures
import RmwIceoryx2.System.WakeUps
import RmwIceoryx2.Rmw.ServiceHandles
import RmwIceoryx2.System.ServiceLedger
import RmwIceoryx2.System.TopicGraph
