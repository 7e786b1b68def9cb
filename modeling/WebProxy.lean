import WebProxy.Digest
import WebProxy.ChunkRedirects
import WebProxy.Redirects
import WebProxy.Commit
import WebProxy.Provenance
import WebProxy.Accounting
import WebProxy.Counter
import WebProxy.FlightSafety
import WebProxy.Scopes
import WebProxy.Challenge
import WebProxy.Warm
import WebProxy.ManifestSafety
import WebProxy.ManifestLimits
import WebProxy.PullStatus
import WebProxy.PullLimits
import WebProxy.Progress
import WebProxy.ActiveDownloads
import WebProxy.CachedBlob
import WebProxy.SaveSettings
import WebProxy.CertJob
import WebProxy.SourceConfig
import WebProxy.Eviction
import WebProxy.RedirectChains
import WebProxy.BlobTokens
import WebProxy.SourceRestart
import WebProxy.ImageGrammar
import WebProxy.PullStream
import WebProxy.PullPercent
import WebProxy.PullTrim
import WebProxy.ChunkPlan
import WebProxy.ChunkTiles
import WebProxy.LogFrames
import WebProxy.PullQuery
import WebProxy.StartPull
import WebProxy.Ports
import WebProxy.CertNames
import WebProxy.WeightedPick
import WebProxy.Pem
import WebProxy.Replies
import WebProxy.Logs
import WebProxy.ProxyBlob
import WebProxy.PoolRuns
import WebProxy.ServeMulti
import WebProxy.TokenProxy
import WebProxy.TokenRuns
import WebProxy.ProxyHandler
import WebProxy.CertIssue
import WebProxy.DnsRecords
import WebProxy.TokenSecrecy
import WebProxy.Library.FairLocks
import WebProxy.Library.LockOrder
import WebProxy.Locks
import WebProxy.CachePaths
import WebProxy.Metrics
import WebProxy.SourcePools
