import DataCenter.AddressText
import DataCenter.BCube
import DataCenter.BridgeNetDevice
import DataCenter.DropTailQueue
import DataCenter.FatTree
import DataCenter.FlowGenerators
import DataCenter.Flows.AggregatedStatistics
import DataCenter.Flows.LostPackets
import DataCenter.Flows.Probe
import DataCenter.Flows.RunningDifference
import DataCenter.Portland.Concealment
import DataCenter.Portland.Delivery
import DataCenter.Portland.Disposition
import DataCenter.Portland.EdgeBroadcast
import DataCenter.Portland.Flood
import DataCenter.Portland.FlowGenerator
import DataCenter.Portland.Helper
import DataCenter.Portland.IngressAddress
import DataCenter.Portland.LocalLookup
import DataCenter.Portland.LoopFreedom
import DataCenter.Portland.OrderIndependence
import DataCenter.Portland.PortCounters
import DataCenter.Portland.Resolution
import DataCenter.Portland.Shadowing
import DataCenter.Portland.TableRemoval
import DataCenter.Portland.TableShape
import DataCenter.Portland.Topology
import DataCenter.Portland.Turnaround
import DataCenter.Portland.Uniqueness
import DataCenter.Portland.Unsupported
import DataCenter.Foundation.BreadthFirst
import DataCenter.Foundation.BitStack
import DataCenter.Nix.NixVector
import DataCenter.Nix.Serialization
import DataCenter.Nix.Network
import DataCenter.Nix.Routing
import DataCenter.Nix.Forwarding
import DataCenter.Nix.Guidance
import DataCenter.Nix.RouteCaches
import DataCenter.Nix.Delivery
import DataCenter.Nix.Lans
import DataCenter.Nix.BCubeRouting
import DataCenter.Nix.BCubeAddresses
import DataCenter.Nix.FatTreeRouting
import DataCenter.Ipv4AddressGenerator
