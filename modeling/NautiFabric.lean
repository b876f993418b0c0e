import NautiFabric.Lib.Interleave
import NautiFabric.Lib.LeaseHistory
import NautiFabric.Fabric.Sections
import NautiFabric.Fabric.Calls
import NautiFabric.Fabric.Registry
import NautiFabric.Fabric.Leases
import NautiFabric.Fabric.Attachments
import NautiFabric.Fabric.Brackets
import NautiFabric.Fabric.ExactLease
import NautiFabric.Rpc.Dispatch
import NautiFabric.Rpc.Auth
import NautiFabric.Vmm.CloudHypervisor
import NautiFabric.Vmm.Managed
import NautiFabric.Vmm.Isolation
import NautiFabric.Lib.Select
import NautiFabric.Plan.Planner
import NautiFabric.Vmm.Liveness
import NautiFabric.Plan.Placement
import NautiFabric.Json
import NautiFabric.Plan.Probe
import NautiFabric.Lib.Source
import NautiFabric.Rpc.Frame
import NautiFabric.Rpc.Agent
import NautiFabric.Http.Response
import NautiFabric.Lib.JsonText
import NautiFabric.Http.Client
import NautiFabric.Http.Head
import NautiFabric.Http.Truncation
import NautiFabric.Http.Message
import NautiFabric.Fabric.Eviction
import NautiFabric.Fabric.Refresh
import NautiFabric.Fabric.Query
import NautiFabric.Fabric.Detaching
import NautiFabric.Rpc.Duplicate
import NautiFabric.Fabric.Locks
import NautiFabric.Gpu.Bdf
import NautiFabric.Gpu.WgpuRemote
import NautiFabric.Rpc.Limits
import NautiFabric.Lib.Entries
import NautiFabric.Vmm.Doomed
import NautiFabric.Vmm.Spec
import NautiFabric.Gpu.Vfio
import NautiFabric.Gpu.Local
import NautiFabric.Gpu.Reservations
import NautiFabric.Plan.Snapshot
import NautiFabric.Http.Grammar
import NautiFabric.Http.Answers
import NautiFabric.Http.Authority
import NautiFabric.Lib.Quota
import NautiFabric.Vhost.Rng
import NautiFabric.Vhost.Entropy
import NautiFabric.Lib.Buckets
import NautiFabric.Topology
import NautiFabric.Gpu.Rocm
import NautiFabric.Lib.Record
import NautiFabric.Config
import NautiFabric.Http.Bounds
import NautiFabric.Dataset.Record
import NautiFabric.Lib.Numbering
import NautiFabric.Dataset.Grounding
import NautiFabric.Dataset.Report
import NautiFabric.Identity
import NautiFabric.Lib.StableSort
import NautiFabric.Lib.Fill
import NautiFabric.Host.Sysfs
import NautiFabric.Gpu.Discover
import NautiFabric.Host.HwInfo
import NautiFabric.Lib.Carried
import NautiFabric.Store.Resolution
import NautiFabric.Fabric.Asks
import NautiFabric.Store.Adapter
import NautiFabric.Store.Ended
import NautiFabric.Lib.Outcome
import NautiFabric.Rpc.Session
import NautiFabric.Vhost.Pump
import NautiFabric.Gpu.WgpuClient
import NautiFabric.Fabric.Withheld
import NautiFabric.Host.Inventory
import NautiFabric.Host.Passthrough
import NautiFabric.Host.Rdma
import NautiFabric.Host.Advertised
import NautiFabric.Fleet.Agent
import NautiFabric.Fleet.Summary
