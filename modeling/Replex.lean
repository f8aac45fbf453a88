import Replex.Data.DecimalText
import Replex.Data.Text
import Replex.Data.Scanning
import Replex.Data.XmlText
import Replex.Data.FormUrlEncoded
import Replex.Data.BigEndian
import Replex.Data.Claims
import Replex.Data.Ledger
import Replex.Data.Fields
import Replex.Data.Json
import Replex.Data.Records
import Replex.Data.Rereading
import Replex.Data.Drafts
import Replex.Data.Decoders
import Replex.Data.MultiMap
import Replex.Data.Store
import Replex.Data.HexText
import Replex.Data.Sweep
import Replex.Data.SignedWord
import Replex.Data.FirstMin
import Replex.Data.FilterPosition
import Replex.Data.StableSort
import Replex.Data.Shuffle
import Replex.Data.Windows
import Replex.Data.Gather
import Replex.Data.Transition
import Replex.Data.Shedding
import Replex.Data.Reads
import Replex.Data.Checks
import Replex.Data.Script
import Replex.Models
import Replex.Payload
import Replex.Payload.Panics
import Replex.ResolutionPolicy
import Replex.ResolutionPolicy.Bounds
import Replex.ResolutionPolicy.Arithmetic
import Replex.PlaybackSelection
import Replex.PlaybackSelection.Fit
import Replex.PlaybackSelection.Permitted
import Replex.Config
import Replex.Config.TokenBindings
import Replex.Config.PolicyEntries
import Replex.DiskCache.Record
import Replex.DiskCache.Tasks
import Replex.DiskCache.Accounting
import Replex.DiskCache.Truncation
import Replex.DiskCache.Commit
import Replex.DiskCache.ConcurrentCommits
import Replex.DiskCache.Eviction
import Replex.DiskCache.Recovery
import Replex.Jobs
import Replex.AccountScope
import Replex.Request
import Replex.Auth.Context
import Replex.PlexClient
import Replex.Config.Validation
import Replex.Auth.Security
import Replex.PlexClient.Identity
import Replex.PlexClient.IdentityCache
import Replex.PlexClient.SharedServers
import Replex.HubCache
import Replex.HubCache.Provenance
import Replex.HubCache.Freshness
import Replex.HubCache.SingleFlight
import Replex.HubCache.CanonicalFetch
import Replex.Transform.ResolutionPolicy
import Replex.Transform.PolicyTrees
import Replex.Transform.Builder
import Replex.Transform.Presentation
import Replex.Transform.Restyled
import Replex.Transform.MergedHubs
import Replex.Transform.CollectionPages
import Replex.Routes.Streams
import Replex.Routes.StreamFacts
import Replex.HubCache.Servers
import Replex.Routes.Playback
import Replex.Routes.PlaybackVersions
import Replex.Routes.PlaybackBitrate
import Replex.Routes.PlaybackRewrites
import Replex.Routes.PlaybackHoops
import Replex.Routes.Upstream
import Replex.Routes.PlaybackFallback
import Replex.Routes.PlaybackAlterations
import Replex.Routes.Router
import Replex.Routes.Surfaces
import Replex.Routes.ContentDirectory
import Replex.Routes.Renderings
import Replex.Routes.ShownChildren
import Replex.Routes.Answers
import Replex.Routes.PolicyRoutes
import Replex.Routes.CollectionKeys
import Replex.Routes.CollectionPaging
import Replex.Routes.PolicyReads
import Replex.Routes.PolicyReloads
import Replex.Routes.Disclosure
import Replex.Routes.PolicyCoverage
import Replex.Routes.HiddenCollections
import Replex.Routes.LibraryCache
import Replex.Routes.LibraryReplay
import Replex.Routes.HubSizes
import Replex.Routes.PassThrough
import Replex.Routes.RenderedAgain
import Replex.Routes.LibraryProvenance
import Replex.Routes.LibraryKeys
import Replex.Routes.PageScript
import Replex.Routes.WarmedPages
import Replex.Routes.PhotoKeys
import Replex.Routes.PhotoCache
import Replex.WebAssets
import Replex.HubCache.RefreshRate
import Replex.Routes.Admin
import Replex.Routes.Explanations
import Replex.Routes.FailClosed
import Replex.Routes.Notifications
import Replex.Routes.WarmedPosters
import Replex.Transform.FilterLoop
import Replex.PlexClient.Outages
import Replex.Transform.HiddenTitles
