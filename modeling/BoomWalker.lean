import BoomWalker.Archive.Basic
import BoomWalker.Archive.Row
import BoomWalker.Arguments
import BoomWalker.Clock
import BoomWalker.Decimal.Binary
import BoomWalker.Decimal.Plain
import BoomWalker.Decimal.Read
import BoomWalker.Decimal.Shortest
import BoomWalker.Fieldbus.Bytes
import BoomWalker.Fieldbus.ClockShift
import BoomWalker.Fieldbus.Connection
import BoomWalker.Fieldbus.Error
import BoomWalker.Fieldbus.Form
import BoomWalker.Fieldbus.Frame
import BoomWalker.Fieldbus.Master
import BoomWalker.Fieldbus.Medulla
import BoomWalker.Fieldbus.Params
import BoomWalker.Fieldbus.Scripted
import BoomWalker.Fieldbus.Sim.Master
import BoomWalker.Fieldbus.Sim.Plant
import BoomWalker.Fieldbus.Single
import BoomWalker.Gait.Basic
import BoomWalker.Gait.CanonWalk.Basic
import BoomWalker.Gait.CanonWalk.Cycle
import BoomWalker.Gait.CanonWalk.Form
import BoomWalker.Gait.Catalogue
import BoomWalker.Gait.ConstForce
import BoomWalker.Gait.ConstForce.Form
import BoomWalker.Gait.Control
import BoomWalker.Gait.Form
import BoomWalker.Gait.LegHop
import BoomWalker.Gait.LegHop.Form
import BoomWalker.Gait.Setup
import BoomWalker.Gait.SinWave
import BoomWalker.Gait.SinWave.Form
import BoomWalker.Gait.SlipWalk.Basic
import BoomWalker.Gait.SlipWalk.Cycle
import BoomWalker.Gait.SlipWalk.Form
import BoomWalker.Json.Basic
import BoomWalker.Json.Decode
import BoomWalker.Json.Numeral
import BoomWalker.Json.Quoted
import BoomWalker.Json.Reader
import BoomWalker.Json.Record
import BoomWalker.Json.Writer
import BoomWalker.Main
import BoomWalker.Motion.CubicSpline
import BoomWalker.Motion.Form
import BoomWalker.Motion.HipKinematics
import BoomWalker.Motion.LegForce
import BoomWalker.Motion.LegKinematics
import BoomWalker.Motion.Pd
import BoomWalker.Motion.RateLimiter
import BoomWalker.Motion.Slip
import BoomWalker.Net.Endpoint
import BoomWalker.Net.Params
import BoomWalker.Operator.Client
import BoomWalker.Operator.Input
import BoomWalker.Operator.Latch
import BoomWalker.Operator.Packet
import BoomWalker.Rig.Command
import BoomWalker.Rig.Form
import BoomWalker.Rig.Side
import BoomWalker.Rig.State
import BoomWalker.Scalar
import BoomWalker.Storage.Fault
import BoomWalker.Storage.Log
import BoomWalker.Storage.Params
import BoomWalker.Storage.Session
import BoomWalker.Supervisor.Cycle
import BoomWalker.Supervisor.Loop
import BoomWalker.Supervisor.Params
import BoomWalker.Supervisor.Run
import BoomWalker.Supervisor.Safety
import BoomWalker.Supervisor.Startup
import BoomWalker.Supervisor.Store
import BoomWalker.Supervisor.Timer
import BoomWalker.Telemetry.Packet
import BoomWalker.Text.Digits
import BoomWalker.Text.Hex
import BoomWalker.Toml.Number
import BoomWalker.Toml.Reader
import BoomWalker.Toml.Table
import BoomWalker.Toml.Token
import BoomWalker.Word
import BoomWalker.Proofs.Gait.Calls
import BoomWalker.Proofs.Scalar.Real
import BoomWalker.Proofs.Gait.StartupRamp
import BoomWalker.Proofs.Gait.CanonWalk.Memory
import BoomWalker.Proofs.Gait.Forgetting
import BoomWalker.Proofs.Gait.Restart
import BoomWalker.Proofs.Gait.Resuming
import BoomWalker.Proofs.Supervisor.Overruns
import BoomWalker.Proofs.Supervisor.Submission
import BoomWalker.Proofs.Supervisor.Faulting
import BoomWalker.Proofs.Supervisor.SafeMode
import BoomWalker.Proofs.Fieldbus.Phases
import BoomWalker.Proofs.Fieldbus.LinkUp
import BoomWalker.Proofs.Fieldbus.Frames
import BoomWalker.Proofs.Fieldbus.Interleaving
import BoomWalker.Proofs.Fieldbus.Layout
import BoomWalker.Proofs.Fieldbus.SimSetup
import BoomWalker.Proofs.Fieldbus.Delivery
import BoomWalker.Proofs.Fieldbus.SimLinkUp
import BoomWalker.Proofs.Fieldbus.SimConfiguring
import BoomWalker.Proofs.Fieldbus.Sensing
import BoomWalker.Proofs.Fieldbus.Watchdogs
import BoomWalker.Proofs.Fieldbus.Record
import BoomWalker.Proofs.Fieldbus.Configuring
import BoomWalker.Proofs.Fieldbus.Releasing
import BoomWalker.Proofs.Gait.SlipWalk.Events
import BoomWalker.Proofs.Gait.SlipWalk.Swing
import BoomWalker.Proofs.Gait.SlipWalk.Mirror
import BoomWalker.Proofs.Gait.SlipWalk.Continuity
import BoomWalker.Proofs.Operator.Reception
import BoomWalker.Proofs.Operator.Failures
import BoomWalker.Proofs.Scalar.Bits
import BoomWalker.Proofs.Scalar.Signs
import BoomWalker.Proofs.Fieldbus.Singles
import BoomWalker.Proofs.Fieldbus.Rounding
import BoomWalker.Proofs.Fieldbus.Codec
import BoomWalker.Proofs.Motion.RateLimiter
import BoomWalker.Proofs.Gait.CanonWalk.Tracking
import BoomWalker.Proofs.Gait.CanonWalk.Stance
import BoomWalker.Proofs.Gait.CanonWalk.Mirror
import BoomWalker.Proofs.Gait.CanonWalk.Torso
import BoomWalker.Proofs.Gait.LegHop.Confinement
import BoomWalker.Proofs.Gait.LegHop.Pendulum
import BoomWalker.Proofs.Gait.LegHop.Rebound
import BoomWalker.Proofs.Gait.LegHop.Deflection
import BoomWalker.Proofs.Supervisor.HeldCause
import BoomWalker.Proofs.Json.Numerals
import BoomWalker.Proofs.Json.Strings
import BoomWalker.Proofs.Json.Skipping
import BoomWalker.Proofs.Json.Writing
import BoomWalker.Proofs.Json.Exactness
import BoomWalker.Proofs.Json.Records
import BoomWalker.Proofs.Json.Members
import BoomWalker.Proofs.Json.Values
import BoomWalker.Proofs.Operator.Inputs
import BoomWalker.Proofs.Operator.Packets
import BoomWalker.Proofs.Telemetry.Packets
import BoomWalker.Proofs.Telemetry.Reports
import BoomWalker.Proofs.Telemetry.Runs
import BoomWalker.Proofs.Gait.SlipWalk.SwingCurve
import BoomWalker.Proofs.Motion.LegKinematics
import BoomWalker.Proofs.Gait.SlipWalk.SpringLaw
import BoomWalker.Proofs.Motion.Slip.Energy
import BoomWalker.Proofs.Motion.Slip.Upright
import BoomWalker.Proofs.Motion.Hermite
import BoomWalker.Proofs.Motion.LimiterRuns
import BoomWalker.Proofs.Motion.LegRates
import BoomWalker.Proofs.Gait.SinWave.Rates
import BoomWalker.Proofs.Gait.SlipWalk.Rates
import BoomWalker.Proofs.Gait.CanonWalk.Rates
import BoomWalker.Proofs.Motion.LegStiffness
import BoomWalker.Proofs.Supervisor.Publications
import BoomWalker.Proofs.Fieldbus.SimOperations
import BoomWalker.Proofs.Fieldbus.LegIndependence
import BoomWalker.Proofs.Fieldbus.PlantMotion
import BoomWalker.Proofs.Archive.Threads
import BoomWalker.Proofs.Archive.Records
import BoomWalker.Proofs.Fieldbus.SimPlaces
import BoomWalker.Proofs.Fieldbus.SimTransit
import BoomWalker.Proofs.Fieldbus.FirstPulse
import BoomWalker.Proofs.Toml.Integers
import BoomWalker.Proofs.Supervisor.Startup
import BoomWalker.Proofs.Supervisor.Releases
