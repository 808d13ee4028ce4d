import ZynqmpDma.Base.Blocks
import ZynqmpDma.Base.Bytes
import ZynqmpDma.Base.Records
import ZynqmpDma.Base.Chain
import ZynqmpDma.Base.Engine
import ZynqmpDma.Base.Programs
import ZynqmpDma.Base.Built
import ZynqmpDma.Base.Copy
import ZynqmpDma.Base.Mover
import ZynqmpDma.Base.Pauses
import ZynqmpDma.Base.Alias
import ZynqmpDma.Base.Sessions
import ZynqmpDma.Base.Parties
import ZynqmpDma.Base.BitFields
import ZynqmpDma.Process.Kernel
import ZynqmpDma.Process.Scan
import ZynqmpDma.Process.Ledger
import ZynqmpDma.Process.Mapping
import ZynqmpDma.Process.Numerals
import ZynqmpDma.Process.MapRuns
import ZynqmpDma.XZDma.Registers
import ZynqmpDma.XZDma.Instance
import ZynqmpDma.XZDma.System
import ZynqmpDma.XZDma.Control
import ZynqmpDma.XZDma.ScatterGather
import ZynqmpDma.XZDma.Geometry
import ZynqmpDma.XZDma.Tables
import ZynqmpDma.XZDma.Accesses
import ZynqmpDma.XZDma.Hardware
import ZynqmpDma.XZDma.ControlRuns
import ZynqmpDma.XZDma.Operations
import ZynqmpDma.XZDma.Refinement
import ZynqmpDma.XZDma.ChannelStates
import ZynqmpDma.XZDma.LinearTable
import ZynqmpDma.XZDma.LinkedTable
import ZynqmpDma.XZDma.StartRuns
import ZynqmpDma.XZDma.ListWriting
import ZynqmpDma.XZDma.StartEffects
import ZynqmpDma.XZDma.StartGuard
import ZynqmpDma.XZDma.Footprint
import ZynqmpDma.XZDma.DeviceCalls
import ZynqmpDma.XZDma.Interrupts
import ZynqmpDma.XZDma.Modes
import ZynqmpDma.XZDma.ChannelConfig
import ZynqmpDma.XZDma.BusWalk
import ZynqmpDma.XZDma.LinkedWalk
import ZynqmpDma.XZDma.PauseWalk
import ZynqmpDma.XZDma.DeviceWalk
import ZynqmpDma.XZDma.BusMemory
import ZynqmpDma.XZDma.Movement
import ZynqmpDma.XZDma.Setup
import ZynqmpDma.XZDma.SimpleMode
import ZynqmpDma.Driver.DmaDriver
import ZynqmpDma.Driver.Lifetime
import ZynqmpDma.Driver.ConfigureRuns
import ZynqmpDma.Driver.Configured
import ZynqmpDma.Driver.Programming
import ZynqmpDma.Driver.Bounds
import ZynqmpDma.Driver.Running
import ZynqmpDma.Driver.Protection
import ZynqmpDma.Driver.History
import ZynqmpDma.Driver.HandOut
import ZynqmpDma.Driver.Published
import ZynqmpDma.Driver.Lives
import ZynqmpDma.Driver.Platform
import ZynqmpDma.Driver.Program
import ZynqmpDma.Driver.Job
import ZynqmpDma.Driver.Session
import ZynqmpDma.Driver.Copies
import ZynqmpDma.Driver.DriverTest
import ZynqmpDma.Driver.Service
import ZynqmpDma.Driver.Locality
import ZynqmpDma.Driver.Host
