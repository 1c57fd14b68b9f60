import SocDashboard.Lib.Runs
import SocDashboard.Lib.Exec
import SocDashboard.Lib.Table
import SocDashboard.Lib.Trim
import SocDashboard.Text
import SocDashboard.Value
import SocDashboard.Schema
import SocDashboard.Sql
import SocDashboard.Crypto
import SocDashboard.World
import SocDashboard.Ingest
import SocDashboard.Triage
import SocDashboard.GoIngest
import SocDashboard.IngestPaths
import SocDashboard.Lib.ReadCommitted
import SocDashboard.Race
import SocDashboard.AtRest
import SocDashboard.AuditTrail
import SocDashboard.ErrorAnswers
import SocDashboard.KafkaConsumer
import SocDashboard.KafkaDelivery
import SocDashboard.Viewer
import SocDashboard.ApiKeys
import SocDashboard.Lib.Double
import SocDashboard.Lib.Paging
import SocDashboard.Listing
import SocDashboard.SlaTriage
import SocDashboard.StatsSnapshot
import SocDashboard.Transparency
import SocDashboard.Pages
import SocDashboard.Attached
import SocDashboard.Broadcast
import SocDashboard.CaseHistory
import SocDashboard.Documented
import SocDashboard.Breakdowns
import SocDashboard.FilterOptions
import SocDashboard.Filters
import SocDashboard.PagingLimits
import SocDashboard.Lib.Best
import SocDashboard.Navigator
import SocDashboard.Transports
import SocDashboard.Lib.HexText
import SocDashboard.Traceparent
import SocDashboard.Lib.JsCounts
import SocDashboard.DashboardViews
import SocDashboard.Lib.Means
import SocDashboard.Lib.Wildcard
import SocDashboard.MttrCard
import SocDashboard.MttrChart
import SocDashboard.AuditSearch
import SocDashboard.AuditPaging
import SocDashboard.Accounts
import SocDashboard.Lib.Replies
import SocDashboard.QueueRefresh
import SocDashboard.Lib.Interference
import SocDashboard.Statements
import SocDashboard.SystemRuns
import SocDashboard.Outsiders
import SocDashboard.Lib.JsonText
import SocDashboard.Lib.EventStream
import SocDashboard.EventWire
import SocDashboard.RedisStreams
import SocDashboard.Lifecycle
import SocDashboard.Attribution
import SocDashboard.Announcements
import SocDashboard.Lib.Ledger
import SocDashboard.Lib.LiveView
import SocDashboard.LiveQueue
import SocDashboard.Similar
import SocDashboard.Lib.FormUrl
import SocDashboard.Wire
import SocDashboard.Gate
import SocDashboard.Lib.Links
import SocDashboard.AuditLinks
import SocDashboard.SimilarPanel
import SocDashboard.SeedDashboard
