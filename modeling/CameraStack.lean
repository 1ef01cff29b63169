import CameraStack.Lib.Action
import CameraStack.Lib.Attributes
import CameraStack.Lib.Dict
import CameraStack.Lib.EnvLines
import CameraStack.Lib.JsonBlanks
import CameraStack.Lib.JsonCutOff
import CameraStack.Lib.JsonLimit
import CameraStack.Lib.JsonRoundTrip
import CameraStack.Lib.JsonSame
import CameraStack.Lib.JsonScan
import CameraStack.Lib.JsonText
import CameraStack.Lib.Lines
import CameraStack.Lib.Machine
import CameraStack.Lib.Newest
import CameraStack.Lib.Occurrence
import CameraStack.Lib.PlainJson
import CameraStack.Lib.PyDict
import CameraStack.Lib.PyNumber
import CameraStack.Lib.Retain
import CameraStack.Lib.Setting
import CameraStack.Lib.Shlex
import CameraStack.Lib.SlotRing
import CameraStack.Lib.Stamp
import CameraStack.Lib.TaskQueue
import CameraStack.Lib.Template
import CameraStack.Lib.Text
import CameraStack.Lib.Until
import CameraStack.Lib.Utf8
import CameraStack.Fdir.Enforcer
import CameraStack.Fdir.Escalation
import CameraStack.Fdir.Executor
import CameraStack.Fdir.Ladder
import CameraStack.Fdir.LadderFile
import CameraStack.Fdir.Persistence
import CameraStack.Fdir.Policy
import CameraStack.Fdir.Quiesce
import CameraStack.Fdir.SystemMode
import CameraStack.Fdir.Thermal
import CameraStack.Fdir.ThermalRuns
import CameraStack.Fdir.Watchdog
import CameraStack.Topology.Allocator
import CameraStack.Topology.AllocatorFile
import CameraStack.Topology.AllocatorProbe
import CameraStack.Topology.AllocatorReads
import CameraStack.Topology.Binder
import CameraStack.Topology.BindingRows
import CameraStack.Topology.Commands
import CameraStack.Topology.Exposure
import CameraStack.Topology.Firewall
import CameraStack.Topology.FirewallChain
import CameraStack.Topology.FirewallText
import CameraStack.Topology.Fleet
import CameraStack.Topology.FreeList
import CameraStack.Topology.HostKeys
import CameraStack.Topology.Integrity
import CameraStack.Topology.Models
import CameraStack.Topology.NodeTable
import CameraStack.Topology.StateFile
import CameraStack.Topology.Store
import CameraStack.Topology.Tokens
import CameraStack.Runtime.AllOrNothing
import CameraStack.Runtime.Applied
import CameraStack.Runtime.Apply
import CameraStack.Runtime.ColorRule
import CameraStack.Runtime.Config
import CameraStack.Runtime.DiffHash
import CameraStack.Runtime.EnvFile
import CameraStack.Runtime.EnvWriter
import CameraStack.Runtime.Interleaving
import CameraStack.Runtime.PruneRuns
import CameraStack.Runtime.Pruning
import CameraStack.Runtime.Recovery
import CameraStack.Runtime.Redact
import CameraStack.Runtime.Retention
import CameraStack.Runtime.Revision
import CameraStack.Runtime.RevisionRecord
import CameraStack.Runtime.Stages
import CameraStack.Runtime.Validator
import CameraStack.Runtime.ValidatorTotal
import CameraStack.Operations.Guard
import CameraStack.Operations.Journal
import CameraStack.Operations.NodeOps
import CameraStack.Operations.Outcomes
import CameraStack.Operations.Unstuck
import CameraStack.Streams.DeleteNode
import CameraStack.Streams.Forgotten
import CameraStack.Streams.Monitor
import CameraStack.Streams.OperatorStop
import CameraStack.Streams.Provision
import CameraStack.Streams.RunOnce
import CameraStack.Streams.Throttle
import CameraStack.Sensors.BootOutcome
import CameraStack.Sensors.Lifecycle
import CameraStack.Sensors.Reboots
import CameraStack.Bringup.Fingerprint
import CameraStack.Bringup.Fixer
import CameraStack.Bringup.Json
import CameraStack.Bringup.Layer
import CameraStack.Bringup.PythonJson
import CameraStack.Bringup.RunFixer
import CameraStack.Bringup.SafeMode
import CameraStack.Bringup.StalePlan
import CameraStack.Bringup.Swap
import CameraStack.Bringup.Tamper
import CameraStack.Bringup.WriteVerifies
import CameraStack.Player.Controller
import CameraStack.Player.Coordinator
import CameraStack.Player.Expectations
import CameraStack.Player.FailedConnects
import CameraStack.Player.Generations
import CameraStack.Player.Moves
import CameraStack.Player.OneChain
import CameraStack.Player.OwnResets
import CameraStack.Player.Policy
import CameraStack.Player.Quiet
import CameraStack.Player.ResetCancels
import CameraStack.Player.SessionLoss
import CameraStack.Player.SessionManager
import CameraStack.Player.SessionResets
import CameraStack.Player.StateMachine
import CameraStack.Player.StreamingAdapter
import CameraStack.Player.StreamingIo
import CameraStack.Player.StreamingSteps
import CameraStack.Player.Traced
import CameraStack.Player.Transport
import CameraStack.Player.WatchdogService
import CameraStack.Jcfg.NatPatch
import CameraStack.Jcfg.NatUpdate
import CameraStack.Jcfg.Render
import CameraStack.Jcfg.RenderRuns
import CameraStack.Jcfg.Text
import CameraStack.Jcfg.TurnFresh
import CameraStack.Jcfg.TurnRotator
import CameraStack.Mux.Aligned
import CameraStack.Mux.Fifo
import CameraStack.Mux.Fps
import CameraStack.Depth.ClickQueries
import CameraStack.Depth.Events
import CameraStack.Depth.Sessions
import CameraStack.Relay.Acknowledged
import CameraStack.Relay.Rate
import CameraStack.Relay.Worker
import CameraStack.Admin.AuditLog
import CameraStack.Admin.RateLimit
import CameraStack.Admin.SecretLaw
import CameraStack.Admin.SecretLines
import CameraStack.Admin.SecretSave
import CameraStack.Admin.SecretStore
import CameraStack.Access.Gates
import CameraStack.Access.Sessions
import CameraStack.Proxy.Pump
import CameraStack.Joystick.Service
import CameraStack.NodeAgent.TuningFile
import CameraStack.NodeAgent.TuningRequests
import CameraStack.Encoder.ColorConfig
import CameraStack.Encoder.EncoderEnv
import CameraStack.Encoder.Updates
import CameraStack.Network.PublicIp
