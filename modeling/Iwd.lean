import Iwd.Netdev.Types
import Iwd.Netdev.State
import Iwd.Netdev.Teardown
import Iwd.Netdev.Keys
import Iwd.Netdev.Connect
import Iwd.Netdev.FastTransition
import Iwd.Netdev.Neighbor
import Iwd.Netdev.Step
import Iwd.Netdev.Consistency
import Iwd.Netdev.MobilityDomain
import Iwd.Netdev.Attempt
import Iwd.Netdev.FtFailure
import Iwd.Netdev.NeighborCompletion
import Iwd.Ap.Types
import Iwd.Ap.State
import Iwd.Ap.Pbc
import Iwd.Ap.Station
import Iwd.Ap.Frames
import Iwd.Ap.Step
import Iwd.Ap.ProbeRecords
import Iwd.Ap.PbcWindow
import Iwd.Ap.HandshakeWindow
import Iwd.Ap.Aid
import Iwd.Ap.Admission
import Iwd.Ap.StationKeys
import Iwd.Ap.IpPool
import Iwd.Ap.Lifecycle
import Iwd.Ap.Interface
import Iwd.Ap.InterfaceSafety
import Iwd.Ap.Rates
import Iwd.Wired.Network
import Iwd.Ell.Str
import Iwd.Ell.Hexstring
import Iwd.Settings.Format
import Iwd.Settings.Load
import Iwd.Settings.RoundTrip
import Iwd.Settings.Store
import Iwd.Settings.Numbers
import Iwd.Ap.Config
import Iwd.Ell.DhcpLease
import Iwd.Ell.PemKey
import Iwd.Ell.Pem
import Iwd.Ell.Hexdump
import Iwd.Client.KnownNetworks
import Iwd.Netdev.Link
import Iwd.Netdev.LinkSafety
import Iwd.Netdev.LinkWatches
