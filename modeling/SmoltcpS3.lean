import SmoltcpS3.Foundations.BigEndian
import SmoltcpS3.Foundations.Bitmap
import SmoltcpS3.Foundations.ByteMemory
import SmoltcpS3.Foundations.Decimal
import SmoltcpS3.Foundations.Delimiter
import SmoltcpS3.Foundations.EventRuns
import SmoltcpS3.Foundations.Exclusion
import SmoltcpS3.Foundations.Fibers
import SmoltcpS3.Foundations.GapRuns
import SmoltcpS3.Foundations.Interleaving
import SmoltcpS3.Foundations.Lifetimes
import SmoltcpS3.Foundations.LinearProbing
import SmoltcpS3.Foundations.ListUpdates
import SmoltcpS3.Foundations.SerialNumbers
import SmoltcpS3.Foundations.Toeplitz
import SmoltcpS3.Config
import SmoltcpS3.Setup.Size
import SmoltcpS3.Setup.Upload
import SmoltcpS3.Setup.Address
import SmoltcpS3.Smoltcp.RingBuffer
import SmoltcpS3.Smoltcp.Socket
import SmoltcpS3.Smoltcp.Dial
import SmoltcpS3.Smoltcp.Assembler
import SmoltcpS3.Smoltcp.RandomAccess
import SmoltcpS3.Http.Request
import SmoltcpS3.Http.RangeRequest
import SmoltcpS3.Http.CountBody
import SmoltcpS3.Http.Response
import SmoltcpS3.Connection.Step
import SmoltcpS3.Connection.Stages
import SmoltcpS3.Connection.Output
import SmoltcpS3.Connection.Input
import SmoltcpS3.Connection.Flags
import SmoltcpS3.Connection.Close
import SmoltcpS3.Connection.CleanClose
import SmoltcpS3.Connection.Served
import SmoltcpS3.Connection.Settlement
import SmoltcpS3.Rss.Steering
import SmoltcpS3.Rss.Hash
import SmoltcpS3.Rss.Load
import SmoltcpS3.Rss.Prediction
import SmoltcpS3.Rss.Ports
import SmoltcpS3.Rss.Selection
import SmoltcpS3.Rss.Spread
import SmoltcpS3.Rss.RxFilter
import SmoltcpS3.Device.Receive
import SmoltcpS3.Device.Prefetch
import SmoltcpS3.Device.Ownership
import SmoltcpS3.Device.PortOwnership
import SmoltcpS3.Device.Misroutes
import SmoltcpS3.Device.Transmit
import SmoltcpS3.Device.TxFrame
import SmoltcpS3.Device.Checksums
import SmoltcpS3.Device.TxToken
import SmoltcpS3.Network.Cache
import SmoltcpS3.Network.Interface
import SmoltcpS3.Network.Arp
import SmoltcpS3.Network.Gateway
import SmoltcpS3.Worker.Thread
import SmoltcpS3.Worker.Verdict
import SmoltcpS3.Worker.Sessions
import SmoltcpS3.Worker.Accounting
import SmoltcpS3.Worker.Completeness
import SmoltcpS3.Worker.GoodRun
import SmoltcpS3.Worker.Assignment
import SmoltcpS3.Worker.Settlement
import SmoltcpS3.Worker.Dialing
import SmoltcpS3.Worker.Console
import SmoltcpS3.Common.HashTable
import SmoltcpS3.Allocator.Heap
import SmoltcpS3.Allocator.Shim
import SmoltcpS3.Allocator.Runs
import SmoltcpS3.Allocator.Contract
import SmoltcpS3.Tcp.Rtte
import SmoltcpS3.Tcp.Socket
import SmoltcpS3.Tcp.Process
import SmoltcpS3.Tcp.Dispatch
import SmoltcpS3.Tcp.Runs
import SmoltcpS3.Tcp.Send
import SmoltcpS3.Tcp.Reassembly
import SmoltcpS3.Tcp.Receive
import SmoltcpS3.Tcp.Delivery
import SmoltcpS3.Tcp.Refinement
import SmoltcpS3.Tcp.Connecting
import SmoltcpS3.Tcp.Response
import SmoltcpS3.Wire.Checksum
import SmoltcpS3.Wire.TcpOption
import SmoltcpS3.Wire.TcpPacket
import SmoltcpS3.Wire.TcpChecksum
import SmoltcpS3.Wire.TcpRoundTrip
import SmoltcpS3.Wire.TcpAccepted
import SmoltcpS3.Wire.Segments
import SmoltcpS3.Smoltcp.UsizeAssembler
