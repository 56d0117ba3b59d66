import NexusC2.Misc.Dict
import NexusC2.Misc.Handler
import NexusC2.Misc.Raises
import NexusC2.Misc.Run
import NexusC2.Misc.Covered
import NexusC2.Misc.Text
import NexusC2.Misc.Float
import NexusC2.Misc.FloatMath
import NexusC2.Misc.RealMath
import NexusC2.Misc.ExtRat
import NexusC2.Misc.RingEdges
import NexusC2.Misc.Json
import NexusC2.Misc.JsonLoads
import NexusC2.Misc.JsonRoundTrip
import NexusC2.Misc.HashChain
import NexusC2.Misc.LastMaximal
import NexusC2.Core.Schema
import NexusC2.Core.Audit
import NexusC2.Core.AuditEds
import NexusC2.Core.Proofs.AuditChain
import NexusC2.Core.Proofs.AppendOnly
import NexusC2.Core.Proofs.EdsAlignment
import NexusC2.Core.Coa
import NexusC2.Core.Observation
import NexusC2.Core.Interlock
import NexusC2.Core.Gate
import NexusC2.Core.Kinematics
import NexusC2.Core.Ontology
import NexusC2.Core.Proofs.DuplicateKeys
import NexusC2.Core.Proofs.DebrisCone
import NexusC2.Core.Proofs.FailClosed
import NexusC2.Core.Proofs.Geofence
import NexusC2.Core.Proofs.GateVerdicts
import NexusC2.Core.Proofs.FlatEarth
import NexusC2.Core.Proofs.Reachability
import NexusC2.Core.Proofs.CollisionCourse
import NexusC2.Core.Proofs.GraphReplay
import NexusC2.Core.Proofs.TrackHistory
import NexusC2.Core.Proofs.ChainTip
import NexusC2.Core.Proofs.Startup
import NexusC2.Core.Proofs.TwoWriters
import NexusC2.App.Runtime
import NexusC2.App.AuditTamper
import NexusC2.App.C2Server
import NexusC2.App.VerifyUi
import NexusC2.App.Ingress
import NexusC2.App.OpenFeed
import NexusC2.App.IngressReplay
import NexusC2.App.Restart
import NexusC2.App.SarEvents
import NexusC2.App.Agent
import NexusC2.App.Scenarios
import NexusC2.App.SarAisDetector
import NexusC2.App.LlmInterpreter
import NexusC2.App.GateModel
import NexusC2.App.Proofs.TamperRestore
import NexusC2.App.Proofs.Refinement
import NexusC2.App.Proofs.GateRuns
import NexusC2.App.Proofs.IngressFrame
import NexusC2.App.Proofs.RequestFrame
import NexusC2.App.Proofs.RefusedRequests
import NexusC2.App.Proofs.WriteThrough
import NexusC2.App.Proofs.OperationRuns
import NexusC2.App.Proofs.SealedInbox
import NexusC2.App.Proofs.LiveTaskings
import NexusC2.App.Proofs.PendingFrame
import NexusC2.App.Proofs.Rehydration
import NexusC2.App.Proofs.PictureRestart
import NexusC2.App.Proofs.Admission
import NexusC2.App.Proofs.IngressPosts
import NexusC2.App.Proofs.PartialIngress
import NexusC2.App.Proofs.ReplayTwice
import NexusC2.App.Proofs.FrontEnds
import NexusC2.App.Proofs.DecisionLedger
import NexusC2.App.Proofs.DarkVessels
import NexusC2.App.Proofs.DeclaredVessels
import NexusC2.App.Proofs.InterlockBypass
import NexusC2.App.Proofs.DuplicateTaskings
import NexusC2.App.Proofs.Delivery
import NexusC2.App.Proofs.FinalAcks
import NexusC2.App.Proofs.AuditedEffects
import NexusC2.App.Proofs.ApprovalWindow
import NexusC2.Misc.Utf8
import NexusC2.Misc.JsString
import NexusC2.Deploy.Worker
import NexusC2.Deploy.Proofs.FrontDoor
import NexusC2.Deploy.Proofs.TokenComparison
import NexusC2.Deploy.AuditSnapshot
import NexusC2.Deploy.Proofs.SnapshotHistory
import NexusC2.App.Proofs.LlmSteering
import NexusC2.App.Proofs.OptionB
import NexusC2.App.Proofs.VetoTruth
import NexusC2.App.Proofs.RadarEnvelope
import NexusC2.Core.Proofs.ChainCheckers
import NexusC2.App.Proofs.TamperCaught
import NexusC2.App.Proofs.BrokenCount
import NexusC2.Core.EdsRecord
import NexusC2.Core.Proofs.EdsCodec
import NexusC2.Core.EdsChain
import NexusC2.Core.Proofs.EdsInStep
import NexusC2.Core.Proofs.PendingObservations
import NexusC2.App.DualSar
import NexusC2.App.Proofs.Corroboration
import NexusC2.App.Proofs.ConfidenceBoost
import NexusC2.App.Proofs.DetectionIds
import NexusC2.App.Proofs.PursuitIntent
import NexusC2.App.Southbound
import NexusC2.App.Proofs.TrackSources
import NexusC2.App.Proofs.FeedErrors
import NexusC2.Misc.Buckets
import NexusC2.App.Temporal
import NexusC2.App.Proofs.TemporalSpread
import NexusC2.Misc.SortedWords
import NexusC2.App.Proofs.FusedDigest
import NexusC2.Misc.Regex
import NexusC2.Misc.Numerals
import NexusC2.App.OsintText
import NexusC2.App.Proofs.OsintNumerals
import NexusC2.App.Proofs.DigestBinding
import NexusC2.App.Proofs.TrailBlind
import NexusC2.App.Calls
import NexusC2.App.Proofs.ResetComplete
import NexusC2.Misc.FloatAngles
import NexusC2.Misc.FloatCompare
import NexusC2.App.KinematicsSim
import NexusC2.App.Proofs.WaypointRoute
import NexusC2.App.AisSpoofDetector
import NexusC2.App.TrojanDetector
import NexusC2.App.SwarmDetector
import NexusC2.App.FusionDetector
import NexusC2.App.Proofs.IngestedPicture
import NexusC2.App.Proofs.SpoofedTrack
import NexusC2.App.Proofs.TrojanPair
import NexusC2.App.Proofs.SwarmCues
import NexusC2.App.Proofs.FusionCounts
import NexusC2.App.Proofs.FindingSources
import NexusC2.App.SwarmTimeline
import NexusC2.App.Proofs.AmberBand
import NexusC2.Core.Effector
import NexusC2.App.C2Cycle
import NexusC2.App.Proofs.CycleCommands
import NexusC2.App.UsvRest
import NexusC2.App.Proofs.VesselOrders
import NexusC2.App.PictureToTasking
import NexusC2.App.Proofs.ClosedLoop
