import LiberaLaser.Foundations.Loop
import LiberaLaser.Foundations.Runs
import LiberaLaser.Foundations.JsonText
import LiberaLaser.Core.LaserPoint
import LiberaLaser.Core.BinarySchema.RoundTrip
import LiberaLaser.Core.Scheduler.PointContract
import LiberaLaser.Core.Scheduler.Traversals
import LiberaLaser.Core.Scheduler.DueTimes
import LiberaLaser.Core.Framer.Conservation
import LiberaLaser.Core.Framer.Progress
import LiberaLaser.Core.Controller.FrameLimit
import LiberaLaser.Core.Controller.ReserveLimit
import LiberaLaser.Core.Controller.PointIndex
import LiberaLaser.Core.Controller.CallbackSwitch
import LiberaLaser.Core.Controller.ContentSource
import LiberaLaser.Core.Controller.BackPressure
import LiberaLaser.Core.Manager.Ownership
import LiberaLaser.Core.Manager.SystemLife
import LiberaLaser.Backends.Avb.Attachment
import LiberaLaser.Backends.Avb.Banks
import LiberaLaser.Plugin.BackendLifetime
import LiberaLaser.Core.Streaming.DisarmSafety
import LiberaLaser.Core.Streaming.StartupBlank
import LiberaLaser.Core.Streaming.Batching
import LiberaLaser.Core.Streaming.Health
import LiberaLaser.Backends.LaserCubeNet.InFlight
import LiberaLaser.Foundations.BufferWrites
import LiberaLaser.Backends.LaserCubeIdle
import LiberaLaser.Backends.FillRequests
import LiberaLaser.Backends.PluginFrames
import LiberaLaser.Backends.Helios.FrameBounds
import LiberaLaser.Backends.EtherDream.Alignment
import LiberaLaser.Backends.EtherDream.CommandValidity
import LiberaLaser.Backends.EtherDream.Recovery
import LiberaLaser.Backends.EtherDream.Discovery
import LiberaLaser.Backends.LaserCubeUsb.Grammar
import LiberaLaser.Backends.LiberaProtocol.Grammar
import LiberaLaser.Backends.LightSpaceNet.PatternFit
import LiberaLaser.Backends.LightSpaceNet.RetainedPattern
import LiberaLaser.Backends.LightSpaceNet.ControlAck
import LiberaLaser.Backends.LightSpaceNet.Discovery
import LiberaLaser.Backends.Idn.StableIds
import LiberaLaser.Plugin.Settings.Schema
import LiberaLaser.Plugin.Settings.Validity
import LiberaLaser.Plugin.Package.PathSafety
import LiberaLaser.Plugin.Package.PreservedArchive
import LiberaLaser.Plugin.Package.Digest
import LiberaLaser.Plugin.Package.ManifestSoundness
import LiberaLaser.Plugin.Management.Atomicity
import LiberaLaser.Plugin.Management.Calls
import LiberaLaser.Backends.Helios.Frames
import LiberaLaser.Backends.Helios.Streaks
import LiberaLaser.Backends.Helios.Manager
import LiberaLaser.Backends.Idn.HealthMonitor
