import Dmqtt.Lib.Base128
import Dmqtt.Codec.FixedHeader
import Dmqtt.Codec.Stream
import Dmqtt.Codec.ConnectLayout
import Dmqtt.Codec.VarInts
import Dmqtt.Transport
import Dmqtt.Auth
import Dmqtt.Matching
import Dmqtt.BreakerWindow
import Dmqtt.TenantAccounting
import Dmqtt.TenantTransparency
import Dmqtt.TenantQuota
import Dmqtt.RateLimit
import Dmqtt.Broker.Mediation
import Dmqtt.Broker.Retained
import Dmqtt.Broker.Handshake
import Dmqtt.Broker.Reaper
import Dmqtt.Broker.Sends
import Dmqtt.Broker.Takeover
import Dmqtt.Broker.Versions
import Dmqtt.Broker.PacketIDs
import Dmqtt.Broker.Dedup
import Dmqtt.Broker.SubscriptionMap
import Dmqtt.Broker.Fanout
import Dmqtt.Broker.OfflineCrash
import Dmqtt.Broker.OfflineTiers
import Dmqtt.Broker.WillReload
import Dmqtt.Broker.Refusal
import Dmqtt.Broker.Authorization
import Dmqtt.Broker.Expiry
import Dmqtt.Broker.ConnectionLimit
import Dmqtt.Broker.Stranded
import Dmqtt.Broker.Paths
import Dmqtt.Broker.TopicNames
import Dmqtt.Broker.MigrationExpiry
import Dmqtt.Broker.Export
import Dmqtt.Broker.SubscriptionRecords
import Dmqtt.Cluster.Framing
import Dmqtt.Cluster.Gossip
import Dmqtt.Cluster.Forwarding
import Dmqtt.Cluster.Duplicates
import Dmqtt.Cluster.Connections
import Dmqtt.Cluster.MigrateAcks
import Dmqtt.Cluster.Cancellation
import Dmqtt.Cluster.Parallelism
import Dmqtt.Cluster.TakeoverResponses
import Dmqtt.Cluster.Execution
import Dmqtt.Cluster.Membership
import Dmqtt.Cluster.ConnectionMap
import Dmqtt.Cluster.Ownership
import Dmqtt.Rule.Overlap
import Dmqtt.Rule.Republishing
import Dmqtt.HttpAPI.DeviceLookup
import Dmqtt.HttpAPI.Pages
