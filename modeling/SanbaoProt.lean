import SanbaoProt.Library.Bytes
import SanbaoProt.Library.Mealy
import SanbaoProt.Library.Memory
import SanbaoProt.Library.Stuffing
import SanbaoProt.Protocol
import SanbaoProt.Framing.Decoder
import SanbaoProt.Framing.Escape
import SanbaoProt.Framing.Receiver
import SanbaoProt.Framing.Segments
import SanbaoProt.Framing.Parse
import SanbaoProt.Library.Packed
import SanbaoProt.Para
import SanbaoProt.Device.World
import SanbaoProt.Device.Report
import SanbaoProt.Device.Send
import SanbaoProt.Device.Command
import SanbaoProt.Device.Footprint
import SanbaoProt.Device.Process
import SanbaoProt.Device.FactoryReset
import SanbaoProt.Device.DmsReport
import SanbaoProt.Device.MediaTransfer
import SanbaoProt.Device.Installer
import SanbaoProt.Device.Upgrade
import SanbaoProt.Library.Alternation
import SanbaoProt.Device.Can700
import SanbaoProt.Device.Headway
import SanbaoProt.Device.DmsInfo
import SanbaoProt.Device.CanReports
import SanbaoProt.Device.RateLimit
import SanbaoProt.Device.DmsAlert
import SanbaoProt.Device.Sender
import SanbaoProt.Device.Acknowledged
import SanbaoProt.Framing.Resync
import SanbaoProt.Device.ParaStep
import SanbaoProt.Device.ParaFile
import SanbaoProt.Device.ParaSetting
import SanbaoProt.Device.DmsRange
import SanbaoProt.Device.FrameOnly
import SanbaoProt.Device.Queued
import SanbaoProt.Device.TransferStep
import SanbaoProt.Device.Threads
import SanbaoProt.Device.SharedTransfer
import SanbaoProt.Device.Outstanding
import SanbaoProt.Device.ParaFailure
import SanbaoProt.Device.Replies
import SanbaoProt.Device.AdasRun
import SanbaoProt.Device.AdasFrames
import SanbaoProt.Device.HeadwayMedia
import SanbaoProt.Device.MediaRecords
import SanbaoProt.Device.StrayMemory
import SanbaoProt.Device.Announced
import SanbaoProt.Library.Retention
import SanbaoProt.Device.Retention
import SanbaoProt.Device.Connection
import SanbaoProt.Device.HeartBeat
import SanbaoProt.Device.Wakeup
import SanbaoProt.Device.DmsSpeed
import SanbaoProt.Device.Mileage
import SanbaoProt.Device.SerialNumbers
import SanbaoProt.Device.ReportPhases
import SanbaoProt.Device.MediaIds
import SanbaoProt.Device.PhotoCounts
import SanbaoProt.Device.SendHooks
import SanbaoProt.Library.Fifo
import SanbaoProt.Library.Heap
import SanbaoProt.QueueMemory
import SanbaoProt.ClearQueue
import SanbaoProt.Device.WsiMessage
import SanbaoProt.Device.WsiNull
import SanbaoProt.Device.LocalConfig
import SanbaoProt.Device.Capture
import SanbaoProt.Device.Resolution
import SanbaoProt.Device.Encoders
import SanbaoProt.Device.Captured
import SanbaoProt.Device.HostStream
import SanbaoProt.Device.ParaRegisters
import SanbaoProt.Device.WsiClient
import SanbaoProt.Device.HostReplies
import SanbaoProt.Device.ByteStream
import SanbaoProt.Device.SnapTimes
import SanbaoProt.Device.WarningIds
