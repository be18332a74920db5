import Civ6LanBridge.Client.Delivery
import Civ6LanBridge.Client.Discovery
import Civ6LanBridge.Client.Percentiles
import Civ6LanBridge.Protocol.Packet
import Civ6LanBridge.Router.Census
import Civ6LanBridge.Router.Departure
import Civ6LanBridge.Router.Expiry
import Civ6LanBridge.Router.Isolation
import Civ6LanBridge.Server.Addresses
import Civ6LanBridge.Server.Agreement
import Civ6LanBridge.Server.Boundary
import Civ6LanBridge.Server.Concord
import Civ6LanBridge.Server.Deletion
import Civ6LanBridge.Server.Endurance
import Civ6LanBridge.Server.Epochs
import Civ6LanBridge.Server.Forwarding
import Civ6LanBridge.Server.Fragmentation
import Civ6LanBridge.Server.Keys
import Civ6LanBridge.Server.Lease
import Civ6LanBridge.Server.Limiter
import Civ6LanBridge.Server.Loop
import Civ6LanBridge.Server.Outside
import Civ6LanBridge.Server.Registration
import Civ6LanBridge.Server.Rejection
import Civ6LanBridge.Server.Restore
import Civ6LanBridge.Server.Retry
import Civ6LanBridge.Server.Rollback
import Civ6LanBridge.Server.SessionRooms
import Civ6LanBridge.Server.Silence
import Civ6LanBridge.Server.Tally
import Civ6LanBridge.Server.Transparency
import Civ6LanBridge.Server.Undo
import Civ6LanBridge.SingleHost.Routing
