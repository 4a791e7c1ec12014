import PlatformRte.Dual.Exclusion
import PlatformRte.SiteRole.TieBreak
import PlatformRte.SiteRole.ApplyState
import PlatformRte.SiteRole.Snapshot
import PlatformRte.SiteRole.Takeover
import PlatformRte.SiteRole.Silence
import PlatformRte.SiteRole.Token
import PlatformRte.SiteRole.AtMostOne
import PlatformRte.SiteRole.Yield
import PlatformRte.Dual.Session
import PlatformRte.Dual.Resync
import PlatformRte.Dual.Unread
import PlatformRte.Dual.AckWait
import PlatformRte.Voter.Plurality
import PlatformRte.Voter.Agreement
import PlatformRte.Voter.TwoPaths
import PlatformRte.Checkpoint.Agreement
import PlatformRte.Checkpoint.Delay
import PlatformRte.Watchdog.Fires
import PlatformRte.Watchdog.Missed
import PlatformRte.Watchdog.Supervised
import PlatformRte.Checksum.Burst
import PlatformRte.Checksum.SingleByte
import PlatformRte.Checksum.RoundTrip
import PlatformRte.Checksum.Oversize
import PlatformRte.Dual.Gaps
import PlatformRte.Dual.Newest
import PlatformRte.Dual.Views
import PlatformRte.SiteRole.HealthyLink
import PlatformRte.Config.Limits
import PlatformRte.Election
import PlatformRte.Lib.Memory
import PlatformRte.StateTransfer.Registry
import PlatformRte.StateTransfer.FailedDecode
import PlatformRte.Oal.TcpAdapter
import PlatformRte.App.LifeCycle
import PlatformRte.Config.Definition
import PlatformRte.Lib.Reading
import PlatformRte.Config.Scanner
import PlatformRte.Config.Reader
import PlatformRte.Config.Reads
import PlatformRte.Config.Load
import PlatformRte.Config.VoterQuorum
import PlatformRte.Config.Document
import PlatformRte.Config.KeySearch
import PlatformRte.Config.Values
import PlatformRte.Config.Members
import PlatformRte.Config.Clear
import PlatformRte.Config.DocumentRead
import PlatformRte.Config.KeyOrder
import PlatformRte.SiteRole.Answering
import PlatformRte.SiteRole.PairReady
import PlatformRte.SiteRole.FrameCycle
import PlatformRte.SiteRole.Received
import PlatformRte.SiteRole.FrameTrip
import PlatformRte.SiteRole.FrameLength
import PlatformRte.SiteRole.StartBound
import PlatformRte.Watchdog.StaleHandle
import PlatformRte.Config.Numbers
import PlatformRte.App.CallStack
import PlatformRte.App.Nesting
import PlatformRte.App.ExitStatus
import PlatformRte.Utils.Buffer
import PlatformRte.Utils.String
import PlatformRte.Utils.Words
import PlatformRte.Utils.Numeric
import PlatformRte.Lib.Capped
import PlatformRte.Utils.Kept
import PlatformRte.Utils.BufferCalls
import PlatformRte.Utils.Representation
import PlatformRte.Utils.Decimal
import PlatformRte.Lib.Split
import PlatformRte.Utils.Split
import PlatformRte.Oal.LogEvent
import PlatformRte.Oal.LogLine
import PlatformRte.Safechannel.Open
import PlatformRte.Lib.Streak
import PlatformRte.Safechannel.CleanUp
import PlatformRte.SiteRole.SiblingCheck
import PlatformRte.Lib.FirstPlace
import PlatformRte.Config.BufferSizes
import PlatformRte.SiteRole.Settling
import PlatformRte.Voter.OutOfStep
import PlatformRte.Voter.ComparatorRuns
import PlatformRte.Dual.Elder
import PlatformRte.App.Signature
import PlatformRte.Safechannel.LinkStatus
import PlatformRte.ChannelService.AsSetUp
import PlatformRte.Oal.SocketOwners
import PlatformRte.Oal.LogFields
import PlatformRte.SiteRole.Handover
import PlatformRte.App.SetupPhase
import PlatformRte.SiteRole.Together
