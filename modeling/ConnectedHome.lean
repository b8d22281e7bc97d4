import ConnectedHome.Console.VehicleReports
import ConnectedHome.Console.VehicleStatus
import ConnectedHome.Console.VehicleRequests
import ConnectedHome.Console.SpeakerReports
import ConnectedHome.Console.VehicleClient
import ConnectedHome.Console.VehicleSession
import ConnectedHome.Console.SpeakerClient
import ConnectedHome.Console.SpeakerEvents
import ConnectedHome.Console.SpeakerDevice
import ConnectedHome.Console.Hub
import ConnectedHome.Proofs.ServiceResponses
import ConnectedHome.Proofs.TokenRefresh
import ConnectedHome.Proofs.GuardedActions
import ConnectedHome.Proofs.CoordinatorUpdate
import ConnectedHome.Proofs.ChannelDiscovery
import ConnectedHome.Proofs.EventRouting
import ConnectedHome.Proofs.SpeakerReads
import ConnectedHome.Proofs.SpeakerEntries
import ConnectedHome.Proofs.SpeakerRequests
import ConnectedHome.Proofs.RemoteCommands
import ConnectedHome.Proofs.EntrySettings
import ConnectedHome.Proofs.FollowedSettings
import ConnectedHome.Proofs.Alike
import ConnectedHome.Proofs.DiagnosticsDisclosure
import ConnectedHome.Proofs.LocationUpdate
import ConnectedHome.Proofs.DecodedKinds
import ConnectedHome.Proofs.StatusAggregate
import ConnectedHome.Proofs.LinkServer
import ConnectedHome.Proofs.ChannelFilter
import ConnectedHome.Proofs.PresetSelection
import ConnectedHome.Proofs.PendingConfiguration
import ConnectedHome.Proofs.EventProcessing
import ConnectedHome.Proofs.VolumeScale
import ConnectedHome.Proofs.AddressRouting
import ConnectedHome.Proofs.KeepAlive
import ConnectedHome.Proofs.ResponseText
