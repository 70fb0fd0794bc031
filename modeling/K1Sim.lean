import K1Sim.Camera.Intrinsics
import K1Sim.Camera.RenderLoop
import K1Sim.Camera.SharedImage
import K1Sim.Camera.SharedPose
import K1Sim.Foundations.Accumulate
import K1Sim.Foundations.Clamp
import K1Sim.Foundations.CriticalSection
import K1Sim.Foundations.EulerAngles
import K1Sim.Foundations.Fallible
import K1Sim.Foundations.GaussMarkov
import K1Sim.Foundations.Heading
import K1Sim.Foundations.Indexed
import K1Sim.Foundations.LastWrite
import K1Sim.Foundations.Lloyd
import K1Sim.Foundations.Machine
import K1Sim.Foundations.Numerals
import K1Sim.Foundations.Packed
import K1Sim.Foundations.Resources
import K1Sim.Foundations.Seqlock
import K1Sim.Foundations.Sightlines
import K1Sim.Foundations.StaticCast
import K1Sim.Foundations.TangentTiles
import K1Sim.Foundations.WorkerPool
import K1Sim.Foundations.Writes
import K1Sim.Locomotion.ControlLaw
import K1Sim.Locomotion.Controller
import K1Sim.Locomotion.CustomSession
import K1Sim.Locomotion.LocoMath
import K1Sim.Locomotion.LowCmdDelivery
import K1Sim.Locomotion.Mailbox
import K1Sim.Locomotion.ModeMachine
import K1Sim.Locomotion.ParallelCmds
import K1Sim.Locomotion.Prepare
import K1Sim.Locomotion.Reactions
import K1Sim.Locomotion.TorqueBound
import K1Sim.Locomotion.Unwinding
import K1Sim.Locomotion.Whereabouts
import K1Sim.Locomotion.World
import K1Sim.Scene.GenerateField
import K1Sim.Scene.PitchArcs
import K1Sim.Scene.PitchSymmetry
import K1Sim.SdkBridge.FallDown
import K1Sim.SdkBridge.JsonLibrary
import K1Sim.SdkBridge.OdometryModel
import K1Sim.SdkBridge.OdometryNoise
import K1Sim.SdkBridge.OdometryReset
import K1Sim.SdkBridge.OdometryTopics
import K1Sim.SdkBridge.OdometryTwist
import K1Sim.SdkBridge.RpcDispatch
import K1Sim.SdkBridge.RpcServer
import K1Sim.SdkBridge.StatePublisher
import K1Sim.SdkBridge.UpdateOrder
import K1Sim.Shared.BoosterApi
import K1Sim.Shared.CliOptions
import K1Sim.Shared.GameConfig
import K1Sim.Shared.HeadFootprint
import K1Sim.Shared.HeadPose
import K1Sim.Shared.Libc
import K1Sim.Shared.LineUp
import K1Sim.Shared.ModelMap
import K1Sim.Shared.Mujoco
import K1Sim.Shared.MujocoLibrary
import K1Sim.Shared.RealLibc
import K1Sim.Shared.Rotation
import K1Sim.Shared.SimMessages
import K1Sim.Shared.Spread
import K1Sim.Shared.SpreadClusters
import K1Sim.Shared.SpreadDescent
import K1Sim.Shared.SpreadPlaces
import K1Sim.Simulation.FootLog
import K1Sim.Simulation.Lifecycle
import K1Sim.Simulation.LoadModel
import K1Sim.Simulation.MeasuredRtf
import K1Sim.Simulation.Pacing
import K1Sim.Simulation.PhysicsLoop
import K1Sim.Simulation.RobotPlacement
import K1Sim.Simulation.Rpy
import K1Sim.Simulation.SimConfig
import K1Sim.Simulation.Snapshot
import K1Sim.Supervisor.Frame
import K1Sim.Supervisor.GameControllerPacket
import K1Sim.Supervisor.Goals
import K1Sim.Supervisor.PenaltyTracking
import K1Sim.Supervisor.Reports
import K1Sim.Supervisor.SupervisorLogic
import K1Sim.Supervisor.SupervisorPlacement
import K1Sim.Supervisor.WireFormat
import K1Sim.System.Fleet
import K1Sim.System.GameControllerLink
import K1Sim.System.HeadKinematics
import K1Sim.System.MainRobot
import K1Sim.System.ModeLoop
import K1Sim.System.ModeRoundTrip
import K1Sim.System.ModesAccounted
import K1Sim.System.NamedNumbers
import K1Sim.System.ResetRestores
import K1Sim.System.Shutdown
import K1Sim.System.SimData
import K1Sim.System.SnapshotFrames
import K1Sim.System.Startup
import K1Sim.Viewer.Perturb
