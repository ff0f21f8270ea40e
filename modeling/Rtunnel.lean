import Rtunnel.Acme.Account
import Rtunnel.Acme.AtomicWrite
import Rtunnel.Acme.CacheSeparation
import Rtunnel.Acme.Renewal
import Rtunnel.Acme.Slug
import Rtunnel.Acme.SlugSafety
import Rtunnel.Acme.Targets
import Rtunnel.Anytls.Codec
import Rtunnel.Anytls.Datagrams
import Rtunnel.Anytls.Downstream
import Rtunnel.Anytls.Inbound.Boundaries
import Rtunnel.Anytls.Inbound.ChunkQueue
import Rtunnel.Anytls.Inbound.ChunkReader
import Rtunnel.Anytls.Inbound.Fallback
import Rtunnel.Anytls.Inbound.Ordering
import Rtunnel.Anytls.Inbound.Serve
import Rtunnel.Anytls.Inbound.Siblings
import Rtunnel.Anytls.Inbound.Steps
import Rtunnel.Anytls.Inbound.TargetOnce
import Rtunnel.Anytls.Inbound.Uot
import Rtunnel.Anytls.Inbound.UotAnswers
import Rtunnel.Anytls.Inbound.UotRelay
import Rtunnel.Anytls.Negotiation
import Rtunnel.Anytls.Outbound.Accounting
import Rtunnel.Anytls.Outbound.Inlets
import Rtunnel.Anytls.Outbound.Integrity
import Rtunnel.Anytls.Outbound.Pool
import Rtunnel.Anytls.Outbound.PoolLimit
import Rtunnel.Anytls.Outbound.Reader
import Rtunnel.Anytls.Outbound.Schedule
import Rtunnel.Anytls.Outbound.SchemeLimits
import Rtunnel.Anytls.Outbound.StreamIds
import Rtunnel.Anytls.Outbound.Teardown
import Rtunnel.Anytls.Outbound.UdpOrder
import Rtunnel.Anytls.Outbound.UdpSession
import Rtunnel.Anytls.Outbound.Uot
import Rtunnel.Anytls.Outbound.Writer
import Rtunnel.Anytls.Padding
import Rtunnel.Anytls.PaddingScheme
import Rtunnel.Anytls.Shaping
import Rtunnel.Anytls.Socksaddr
import Rtunnel.Anytls.StartupCheck
import Rtunnel.Anytls.Uot
import Rtunnel.Anytls.Upstream
import Rtunnel.Config
import Rtunnel.Config.Validate
import Rtunnel.Data.Attempt
import Rtunnel.Data.Bytes
import Rtunnel.Data.Channel
import Rtunnel.Data.Checked
import Rtunnel.Data.Chunks
import Rtunnel.Data.Confluence
import Rtunnel.Data.Demand
import Rtunnel.Data.Duplex
import Rtunnel.Data.FileChanges
import Rtunnel.Data.Framing
import Rtunnel.Data.History
import Rtunnel.Data.KeyedMap
import Rtunnel.Data.Lines
import Rtunnel.Data.Machine
import Rtunnel.Data.Mailbox
import Rtunnel.Data.Passes
import Rtunnel.Data.Paths
import Rtunnel.Data.Selection
import Rtunnel.Data.Validation
import Rtunnel.Data.Words
import Rtunnel.Data.WriteQueue
import Rtunnel.Router
import Rtunnel.Session
import Rtunnel.Socks5.Agreement
import Rtunnel.Socks5.Associate
import Rtunnel.Socks5.Codec
import Rtunnel.Socks5.Exact
import Rtunnel.Socks5.Handshake
import Rtunnel.Socks5.Outbound
import Rtunnel.Socks5.Tolerance
import Rtunnel.Tuic.Assembler
import Rtunnel.Tuic.Codec
import Rtunnel.Tuic.Core
import Rtunnel.Tuic.Downstream
import Rtunnel.Tuic.Fragmentation
import Rtunnel.Tuic.GroupHistory
import Rtunnel.Tuic.Inbound.Alike
import Rtunnel.Tuic.Inbound.App
import Rtunnel.Tuic.Inbound.Authentication
import Rtunnel.Tuic.Inbound.Budget
import Rtunnel.Tuic.Inbound.Dissociate
import Rtunnel.Tuic.Inbound.Fates
import Rtunnel.Tuic.Inbound.Frames
import Rtunnel.Tuic.Inbound.Isolation
import Rtunnel.Tuic.Inbound.Later
import Rtunnel.Tuic.Inbound.OneConnect
import Rtunnel.Tuic.Inbound.Recovery
import Rtunnel.Tuic.Inbound.Relay
import Rtunnel.Tuic.Inbound.Segmentation
import Rtunnel.Tuic.Inbound.Streams
import Rtunnel.Tuic.Inbound.Timing
import Rtunnel.Tuic.Inbound.UdpTask
import Rtunnel.Tuic.Inbound.Updates
import Rtunnel.Tuic.Inbound.Writes
import Rtunnel.Tuic.Outbound.Client
import Rtunnel.Tuic.Outbound.Dial
import Rtunnel.Tuic.Outbound.UdpClient
import Rtunnel.Tuic.Outbound.Writes
import Rtunnel.Tuic.Passes
import Rtunnel.Tuic.Reassembly
import Rtunnel.Tuic.Upstream
import Rtunnel.Tuic.Wire
import Rtunnel.Tuic.Writes
import Rtunnel.Acme.Challenges
