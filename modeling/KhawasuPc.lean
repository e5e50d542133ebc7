import KhawasuPc.Lib.Machine
import KhawasuPc.Lib.Slots
import KhawasuPc.Lib.Bytes
import KhawasuPc.Lib.Stores
import KhawasuPc.Lib.UMap
import KhawasuPc.Lib.Frames
import KhawasuPc.Lib.Decimal
import KhawasuPc.Lib.Toml
import KhawasuPc.Protocol.Packet
import KhawasuPc.Protocol.Pool
import KhawasuPc.Device.Info
import KhawasuPc.Device.Hello
import KhawasuPc.Device.Callback
import KhawasuPc.Device.Dispatch
import KhawasuPc.Device.ActionIds
import KhawasuPc.Socket.Address
import KhawasuPc.Interface.MeshSocket
import KhawasuPc.Interface.Reassembly
import KhawasuPc.Interface.Accounting
import KhawasuPc.Interface.Draining
import KhawasuPc.Interface.Sending
import KhawasuPc.Interface.Clients
import KhawasuPc.Interface.Connecting
import KhawasuPc.Interface.Closing
import KhawasuPc.Interface.Network
import KhawasuPc.Interface.Delivery
import KhawasuPc.Interface.Replying
import KhawasuPc.Interface.Broadcasting
import KhawasuPc.Manager.State
import KhawasuPc.Manager.Request
import KhawasuPc.Manager.Emitted
import KhawasuPc.Manager.HandlePacket
import KhawasuPc.Manager.Run
import KhawasuPc.Manager.Events
import KhawasuPc.Manager.Correlation
import KhawasuPc.Manager.Replies
import KhawasuPc.Manager.Forgetting
import KhawasuPc.Manager.LeftOut
import KhawasuPc.Manager.Cleanup
import KhawasuPc.Manager.Frame
import KhawasuPc.Manager.Discovery
import KhawasuPc.Manager.Announcements
import KhawasuPc.Manager.Refreshing
import KhawasuPc.Manager.DeviceMethods
import KhawasuPc.Manager.Sender
import KhawasuPc.Manager.WaitLoop
import KhawasuPc.Manager.Scope
import KhawasuPc.Manager.Reports
import KhawasuPc.Manager.RequestIds
import KhawasuPc.Manager.Results
import KhawasuPc.Manager.Numbering
import KhawasuPc.Manager.Pending
import KhawasuPc.Manager.Subscriptions
import KhawasuPc.Manager.Renewal
import KhawasuPc.Manager.Envelope
import KhawasuPc.Manager.Bounds
import KhawasuPc.Manager.HelloBounds
import KhawasuPc.Exchange.Protocol
import KhawasuPc.Exchange.Agreement
import KhawasuPc.Exchange.Progress
import KhawasuPc.CApi.Context
import KhawasuPc.CApi.Manager
import KhawasuPc.CApi.NewDevices
import KhawasuPc.CApi.LocalDevices
import KhawasuPc.Exchange.Client
import KhawasuPc.Exchange.Naming
import KhawasuPc.Exchange.Peers
import KhawasuPc.Exchange.NewDevices
import KhawasuPc.CommandLine.ArgParser
import KhawasuPc.CommandLine.Arrangement
import KhawasuPc.CommandLine.Reading
import KhawasuPc.CommandLine.EvaluationOrder
import KhawasuPc.CommandLine.InterfaceOptions
import KhawasuPc.CommandLine.ConfigFile
import KhawasuPc.CommandLine.Main
