import ChatRelay.LabelledRun
import ChatRelay.JsonText
import ChatRelay.JsonReader
import ChatRelay.MessageInstance
import ChatRelay.MessageJson
import ChatRelay.MessageVisitor
import ChatRelay.NetworkSocket
import ChatRelay.ConnectionTable
import ChatRelay.ServerSystem
import ChatRelay.ServerSteps
import ChatRelay.ServerNameTable
import ChatRelay.ServerSurvival
import ChatRelay.ServerOpenEntries
import ChatRelay.BroadcastRelay
import ChatRelay.ServerBroadcast
import ChatRelay.ServerOriginator
import ChatRelay.RequestFraming
import ChatRelay.ResponseThread
import ChatRelay.ResponseFraming
import ChatRelay.ClientActivity
import ChatRelay.ClientSession
import ChatRelay.DeferredQueue
import ChatRelay.ClientDisplayOrder
import ChatRelay.ChatSystem
import ChatRelay.LoginAgreement
import ChatRelay.RoomSession
import ChatRelay.LiveConnection
import ChatRelay.RelayFidelity
import ChatRelay.MessageCodec
import ChatRelay.VisitorClassification
import ChatRelay.LockOrder
import ChatRelay.ServerDeadlock
import ChatRelay.ServerLogin
import ChatRelay.ServerEmptyName
import ChatRelay.DescriptorLifecycle
import ChatRelay.DistinctConnections
import ChatRelay.NumberedSystem
import ChatRelay.SingleDelivery
import ChatRelay.TextBuffers
import ChatRelay.FlexWaiter
import ChatRelay.StdinLines
import ChatRelay.KillSignal
import ChatRelay.SocketReads
import ChatRelay.JsonCleanUp
import ChatRelay.TypedDecoding
import ChatRelay.HostName
import ChatRelay.SocketManagerSend
import ChatRelay.SignInForm
import ChatRelay.BinaryRounding
import ChatRelay.CivilCalendar
import ChatRelay.DecimalFields
import ChatRelay.ChronoIo
import ChatRelay.ChronoRoundTrip
import ChatRelay.ChronoMessages
import ChatRelay.JodaTime
import ChatRelay.ResponseTimes
import ChatRelay.BoundedRun
import ChatRelay.ServerShutdown
import ChatRelay.WaitingServer
import ChatRelay.ServerRequests
import ChatRelay.ServerDrain
import ChatRelay.ClientSurvival
import ChatRelay.RoomTable
import ChatRelay.RoomDates
import ChatRelay.RoomSurvival
import ChatRelay.RowProvenance
import ChatRelay.RequestWire
import ChatRelay.RequestOrder
import ChatRelay.ClientTyping
import ChatRelay.TypedRows
import ChatRelay.AgreedOrder
import ChatRelay.RelatedSubsequence
import ChatRelay.SentOrder
import ChatRelay.ResponseWire
import ChatRelay.ActivityMap
import ChatRelay.StreamSystem
import ChatRelay.ResponseStream
import ChatRelay.StreamMatching
import ChatRelay.StreamRefinement
import ChatRelay.StreamRows
