import AccessBroker.Access.Request
import AccessBroker.Access.Status
import AccessBroker.Access.Store
import AccessBroker.Access.Target
import AccessBroker.Authorization.Capability
import AccessBroker.Authorization.Decision
import AccessBroker.Authorization.EligibleCache
import AccessBroker.Authorization.Lists
import AccessBroker.Authorization.Report
import AccessBroker.Broker.Approval
import AccessBroker.Broker.Authorization
import AccessBroker.Broker.Calls
import AccessBroker.Broker.Configuration
import AccessBroker.Broker.Expiry
import AccessBroker.Broker.Journal
import AccessBroker.Broker.Poll
import AccessBroker.Broker.Queries
import AccessBroker.Broker.Review
import AccessBroker.Broker.Roles
import AccessBroker.Broker.Submission
import AccessBroker.Broker.World
import AccessBroker.Cache.Entries
import AccessBroker.Cache.Server
import AccessBroker.Clock
import AccessBroker.Config.Document
import AccessBroker.Config.Table
import AccessBroker.Deployment.CacheServer
import AccessBroker.Deployment.Configuration
import AccessBroker.Deployment.Environment
import AccessBroker.Deployment.Interface
import AccessBroker.Deployment.Maintenance
import AccessBroker.Deployment.Report
import AccessBroker.Deployment.Startup
import AccessBroker.Digest.Sha256
import AccessBroker.Error
import AccessBroker.Group.Directory
import AccessBroker.Http.Header
import AccessBroker.Http.MediaType
import AccessBroker.Http.Message
import AccessBroker.Http.Query
import AccessBroker.Http.Status
import AccessBroker.Http.Target
import AccessBroker.Iam.Api
import AccessBroker.Iam.Source
import AccessBroker.Identity
import AccessBroker.Interface.Answer
import AccessBroker.Interface.Caller
import AccessBroker.Interface.Health
import AccessBroker.Interface.Operation
import AccessBroker.Json.Double
import AccessBroker.Json.Number
import AccessBroker.Json.Outline
import AccessBroker.Json.Printer
import AccessBroker.Json.Record
import AccessBroker.Json.Tree
import AccessBroker.Json.Value
import AccessBroker.Main
import AccessBroker.NameSet
import AccessBroker.Net.Address
import AccessBroker.Net.Url
import AccessBroker.NonBlank
import AccessBroker.Notify.Webhook
import AccessBroker.Proofs.AccountRefreshes
import AccessBroker.Proofs.Announcements
import AccessBroker.Proofs.ArchiveListing
import AccessBroker.Proofs.Attempts
import AccessBroker.Proofs.Authority
import AccessBroker.Proofs.Bystanders
import AccessBroker.Proofs.CacheContents
import AccessBroker.Proofs.CallerHeaders
import AccessBroker.Proofs.Calls
import AccessBroker.Proofs.Capabilities
import AccessBroker.Proofs.ConfigHistory
import AccessBroker.Proofs.ConfigRaces
import AccessBroker.Proofs.ConfigRefresh
import AccessBroker.Proofs.ConfigText
import AccessBroker.Proofs.ConfigWrites
import AccessBroker.Proofs.DeletedRoles
import AccessBroker.Proofs.Deliveries
import AccessBroker.Proofs.DueOrder
import AccessBroker.Proofs.EligibleRoles
import AccessBroker.Proofs.Events
import AccessBroker.Proofs.Expiry
import AccessBroker.Proofs.FailedCalls
import AccessBroker.Proofs.Forgetting
import AccessBroker.Proofs.Grants
import AccessBroker.Proofs.GroupUpdates
import AccessBroker.Proofs.Histories
import AccessBroker.Proofs.InterfaceEffects
import AccessBroker.Proofs.Lifecycle
import AccessBroker.Proofs.MappingKeys
import AccessBroker.Proofs.Membership
import AccessBroker.Proofs.NameMatching
import AccessBroker.Proofs.NormalForms
import AccessBroker.Proofs.NotedPolicies
import AccessBroker.Proofs.Outcomes
import AccessBroker.Proofs.OwnRequests
import AccessBroker.Proofs.PendingOnce
import AccessBroker.Proofs.PeriodicRuns
import AccessBroker.Proofs.PolicyApproval
import AccessBroker.Proofs.PolicyDocuments
import AccessBroker.Proofs.PolicyRoutes
import AccessBroker.Proofs.PrintedNumbers
import AccessBroker.Proofs.PrintedText
import AccessBroker.Proofs.Programs
import AccessBroker.Proofs.Queries
import AccessBroker.Proofs.Readings
import AccessBroker.Proofs.RememberedRoles
import AccessBroker.Proofs.RequestText
import AccessBroker.Proofs.RestrictedGroups
import AccessBroker.Proofs.Review
import AccessBroker.Proofs.ReviewQueue
import AccessBroker.Proofs.RoleAge
import AccessBroker.Proofs.RoleCache
import AccessBroker.Proofs.RoleChanges
import AccessBroker.Proofs.RoleKeys
import AccessBroker.Proofs.RoleText
import AccessBroker.Proofs.Roles
import AccessBroker.Proofs.Runs
import AccessBroker.Proofs.ServerTiers
import AccessBroker.Proofs.Steps
import AccessBroker.Proofs.StoredEntries
import AccessBroker.Proofs.Submission
import AccessBroker.Proofs.Sweep
import AccessBroker.Proofs.TargetKeys
import AccessBroker.Proofs.TimeOrder
import AccessBroker.Proofs.Turns
import AccessBroker.Proofs.WellFormedRequests
import AccessBroker.Proofs.WholeRoles
import AccessBroker.Registry
import AccessBroker.Role.Cloud
import AccessBroker.Role.Document
import AccessBroker.Role.Key
import AccessBroker.Schedule.Periodic
import AccessBroker.Schedule.Retry
import AccessBroker.Schedule.Wait
import AccessBroker.Settings
import AccessBroker.Table
import AccessBroker.Text.Blank
import AccessBroker.Text.CaseTable
import AccessBroker.Text.Decimal
import AccessBroker.Text.Integer
import AccessBroker.Text.Lowercase
import AccessBroker.Text.Percent
import AccessBroker.Text.Quoted
import AccessBroker.Text.Split
import AccessBroker.Text.Unprintable
import AccessBroker.Text.Utf8
