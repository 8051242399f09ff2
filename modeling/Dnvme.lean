import Dnvme.Lib.ShiftRegister
import Dnvme.Lib.ChainedPages
import Dnvme.Lib.PhasedRing
import Dnvme.Lib.Ownership
import Dnvme.Lib.LaggedRing
import Dnvme.Lib.MarkedSegments
import Dnvme.Lib.ByteMemory
import Dnvme.Lib.Results
import Dnvme.Lib.Shuffle
import Dnvme.Lib.Holdings
import Dnvme.Crc.Calculate
import Dnvme.Crc.Correctness
import Dnvme.Crc.Detection
import Dnvme.Nvme.Types
import Dnvme.Nvme.IoqInfo
import Dnvme.Nvme.NsIdDesc
import Dnvme.Nvme.NsInstance
import Dnvme.Nvme.NsGroup
import Dnvme.Nvme.NetlinkRoundTrip
import Dnvme.Nvme.NetlinkBounds
import Dnvme.Json.Parsing
import Dnvme.Json.Escapes
import Dnvme.Json.RoundTrip
import Dnvme.App.CaseCollection
import Dnvme.App.ReapBatch
import Dnvme.App.CopyRandom
import Dnvme.App.RwConsistency
import Dnvme.App.RwOracle
import Dnvme.App.E2eProtect
import Dnvme.App.E2eTags
import Dnvme.App.E2eGuard
import Dnvme.App.E2eFormat
import Dnvme.Driver.Types
import Dnvme.Driver.ConfigAccess
import Dnvme.Driver.Hmb
import Dnvme.Driver.HmbLifeCycle
import Dnvme.Driver.Prp
import Dnvme.Driver.PrpReading
import Dnvme.Driver.PrpMerging
import Dnvme.Driver.Sgl
import Dnvme.Driver.SglChain
import Dnvme.Driver.BitBuckets
import Dnvme.Driver.Irq
import Dnvme.Driver.Queue
import Dnvme.Driver.Submit
import Dnvme.Driver.Tamper
import Dnvme.Driver.Reap
import Dnvme.Driver.Ioctl
import Dnvme.Driver.Frame
import Dnvme.Driver.CqScan
import Dnvme.Driver.CqDelivery
import Dnvme.Driver.Submission
import Dnvme.Driver.Effect
import Dnvme.Driver.IrqBookkeeping
import Dnvme.Driver.IrqSetup
import Dnvme.Driver.PagesHeld
import Dnvme.Driver.CqInvariant
import Dnvme.Driver.ReapInvariant
import Dnvme.Driver.ReapAgreement
import Dnvme.Driver.PrpsOwnership
import Dnvme.Driver.CommandId
import Dnvme.Driver.ReapAccounting
import Dnvme.Driver.IrqRearm
import Dnvme.Driver.TamperExact
import Dnvme.Driver.TamperLists
import Dnvme.Driver.SubmitFailure
import Dnvme.Driver.MapUserPage
import Dnvme.Driver.QueuePages
import Dnvme.Driver.QueueMemory
import Dnvme.Driver.QueueAccess
import Dnvme.Driver.SqRing
import Dnvme.Driver.QueueAgreement
import Dnvme.Driver.Probe
import Dnvme.Driver.CleanUp
import Dnvme.Driver.LifeCycle
import Dnvme.Lib.Procedures
import Dnvme.Nvme.IoQueueCommands
import Dnvme.Nvme.IoQueueRuns
import Dnvme.Nvme.DeviceHandleLife
