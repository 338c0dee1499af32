import RmwZenohPico.Lib.LabelledMachine
import RmwZenohPico.Lib.Recorded
import RmwZenohPico.Lib.LinkedSegment
import RmwZenohPico.Lib.RefHeap
import RmwZenohPico.Lib.CBuffer
import RmwZenohPico.Lib.CInteger
import RmwZenohPico.Lib.Registry
import RmwZenohPico.Lib.Separated
import RmwZenohPico.RmwTypes
import RmwZenohPico.Attachment
import RmwZenohPico.RosMessage
import RmwZenohPico.MessageList
import RmwZenohPico.MessageStore
import RmwZenohPico.MessageMemory
import RmwZenohPico.Reception
import RmwZenohPico.Event
import RmwZenohPico.TopicKey
import RmwZenohPico.EndpointMatching
import RmwZenohPico.Liveliness
import RmwZenohPico.KeyDecoding
import RmwZenohPico.QosKeyexpr
import RmwZenohPico.AdvertisedQos
import RmwZenohPico.LivelinessTokens
import RmwZenohPico.AdvertisedGraph
import RmwZenohPico.ServiceType
import RmwZenohPico.Session
import RmwZenohPico.ConnectRetry
import RmwZenohPico.InitOptions
import RmwZenohPico.ConditionObjects
import RmwZenohPico.GraphGuardCondition
import RmwZenohPico.Service
import RmwZenohPico.PendingRequests
import RmwZenohPico.LinkedService
import RmwZenohPico.Client
import RmwZenohPico.ServiceNetwork
import RmwZenohPico.Numbering
import RmwZenohPico.Routing
import RmwZenohPico.OwnResponses
import RmwZenohPico.RequestPlaces
import RmwZenohPico.Queryables
import RmwZenohPico.Subscription
import RmwZenohPico.Takes
import RmwZenohPico.GidCompare
import RmwZenohPico.ReceptionNumbers
import RmwZenohPico.RequestAnswers
import RmwZenohPico.PubSub
import RmwZenohPico.SendPayload
import RmwZenohPico.MessageIdentity
import RmwZenohPico.TopicNetwork
import RmwZenohPico.MessageRelease
import RmwZenohPico.TakeSequence
import RmwZenohPico.Teardown
import RmwZenohPico.MessageLife
import RmwZenohPico.ZenohPicoData
import RmwZenohPico.LastRelease
import RmwZenohPico.Creation
import RmwZenohPico.FailedCreation
import RmwZenohPico.NodeRefs
import RmwZenohPico.CallbackContexts
import RmwZenohPico.Wait
import RmwZenohPico.WaitDeadline
import RmwZenohPico.WaitSet
import RmwZenohPico.LostWakeup
import RmwZenohPico.WaitSets
import RmwZenohPico.SeparateWaits
import RmwZenohPico.BoundedWait
import RmwZenohPico.StaleTrigger
import RmwZenohPico.GuardCondition
import RmwZenohPico.WaitReport
import RmwZenohPico.TriggerReports
import RmwZenohPico.WaitProgress
import RmwZenohPico.WaitAndTake
