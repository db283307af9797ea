import AugmentedInsanity.Augins.DataDirs
import AugmentedInsanity.Base.ChainCapacity
import AugmentedInsanity.Base.Features
import AugmentedInsanity.Base.Inverses
import AugmentedInsanity.Base.LocalFloor
import AugmentedInsanity.Base.NearDuplicates
import AugmentedInsanity.Base.NeutralSteps
import AugmentedInsanity.Base.System
import AugmentedInsanity.Comp.ImageUse
import AugmentedInsanity.Drivers.RiftS.Radio
import AugmentedInsanity.Drivers.SolarXr.IpcSocket
import AugmentedInsanity.Drivers.SolarXr.Protocol
import AugmentedInsanity.Ipc.Client.FrameSubmission
import AugmentedInsanity.Ipc.Client.RefSpaces
import AugmentedInsanity.Ipc.Conversations.DeviceInfo
import AugmentedInsanity.Ipc.Conversations.HapticOutput
import AugmentedInsanity.Ipc.Conversations.PlaneDetections
import AugmentedInsanity.Ipc.Conversations.ViewPoses
import AugmentedInsanity.Ipc.MessageChannel
import AugmentedInsanity.Ipc.Proto.Duality
import AugmentedInsanity.Ipc.Server.ActiveClient
import AugmentedInsanity.Ipc.Server.ClientCount
import AugmentedInsanity.Ipc.Server.ClientIds
import AugmentedInsanity.Ipc.Server.Counters
import AugmentedInsanity.Ipc.Server.Indices
import AugmentedInsanity.Ipc.Server.Join
import AugmentedInsanity.Ipc.Server.LocalSpace
import AugmentedInsanity.Ipc.Server.ObjectIds
import AugmentedInsanity.Ipc.Server.PlaneDetections
import AugmentedInsanity.Ipc.Server.UseCounts
import AugmentedInsanity.Math.FilterFifo
import AugmentedInsanity.Math.RelationHistory
import AugmentedInsanity.Math.SkewEstimates
import AugmentedInsanity.Multi.ActiveCount
import AugmentedInsanity.Multi.Composition
import AugmentedInsanity.Multi.Locking
import AugmentedInsanity.Multi.Sessions
import AugmentedInsanity.Oxr.ActionStates
import AugmentedInsanity.Oxr.BoundSources
import AugmentedInsanity.Oxr.CombinedTimes
import AugmentedInsanity.Oxr.Events
import AugmentedInsanity.Oxr.Frames
import AugmentedInsanity.Oxr.Handles
import AugmentedInsanity.Oxr.LocateSpaces
import AugmentedInsanity.Oxr.TransformChains
import AugmentedInsanity.Oxr.VerifyPath
import AugmentedInsanity.Pacing.AppFrames
import AugmentedInsanity.Pacing.CompTime
import AugmentedInsanity.Pacing.FakeCompositor
import AugmentedInsanity.Pacing.LatestFrame
import AugmentedInsanity.Util.ForceGenlock
import AugmentedInsanity.Util.Future
import AugmentedInsanity.Util.GenericCallbacks
import AugmentedInsanity.Util.IdRingbuffer
import AugmentedInsanity.Util.JsonBuilder
import AugmentedInsanity.Util.SinkQueue
import AugmentedInsanity.Util.WorkerLimit
import AugmentedInsanity.Util.WorkerWakeups
import AugmentedInsanity.Math.Permutation
import AugmentedInsanity.Util.SerialRoles
import AugmentedInsanity.Util.AutoExpFrames
import AugmentedInsanity.Util.ResamplerRates
import AugmentedInsanity.Math.LowPassInteger
import AugmentedInsanity.Comp.ComputeLayers
import AugmentedInsanity.Util.CobsChunks
import AugmentedInsanity.Augins.StagedTrees
import AugmentedInsanity.Augins.AdapterReplies
import AugmentedInsanity.Prober.SelectDevice
import AugmentedInsanity.Tracking.RiftBlobwatch
import AugmentedInsanity.Augins.Cycles
import AugmentedInsanity.Drivers.Vive.Ootx
import AugmentedInsanity.Drivers.Wmr.Camera
import AugmentedInsanity.Oxr.Suggestions
import AugmentedInsanity.Comp.SubAlloc
