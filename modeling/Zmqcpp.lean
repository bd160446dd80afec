import Zmqcpp.Client.FinishedSession
import Zmqcpp.Client.StopRequest
import Zmqcpp.Client.Stopped
import Zmqcpp.Client.FrontSockets
import Zmqcpp.Client.FrontCalls
import Zmqcpp.Client.StaleSockets
import Zmqcpp.Dealer.Forward
import Zmqcpp.Socket.StreamSocket
import Zmqcpp.Stream.Forward
import Zmqcpp.Client.SendData
import Zmqcpp.Dealer.SendDataAndCommand
import Zmqcpp.Dealer.Session
import Zmqcpp.Monitor.Monitor
import Zmqcpp.Monitor.Framing
import Zmqcpp.Client.Callbacks
import Zmqcpp.Client.InitWait
import Zmqcpp.Client.RefusedReset
import Zmqcpp.Client.UserReset
import Zmqcpp.Client.Heartbeat
import Zmqcpp.Client.SilentConnection
import Zmqcpp.Client.TickChain
import Zmqcpp.Client.ClientSocketRecv
import Zmqcpp.Client.InitResult
import Zmqcpp.Client.FrontEntries
import Zmqcpp.Monitor.Routing
import Zmqcpp.ThreadGroup.Restart
import Zmqcpp.ThreadGroup.PartialStart
import Zmqcpp.Socket.Endpoints
import Zmqcpp.Socket.Ownership
import Zmqcpp.Pipe.Mailbox
import Zmqcpp.Pipe.Delivery
import Zmqcpp.Pipe.Fq
import Zmqcpp.Pipe.Lb
import Zmqcpp.Engine.StreamEngine
import Zmqcpp.Engine.Meeting
