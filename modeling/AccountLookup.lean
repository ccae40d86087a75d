import AccountLookup.Library.Transition
import AccountLookup.Library.Purge
import AccountLookup.Library.Tally
import AccountLookup.Library.Refinement
import AccountLookup.Library.Redelivery
import AccountLookup.Library.Handover
import AccountLookup.Library.Interleaving
import AccountLookup.Library.History
import AccountLookup.Library.OrderedMap
import AccountLookup.Library.TtlCache
import AccountLookup.Library.Pages
import AccountLookup.Library.Distinct
import AccountLookup.Library.UrlReference
import AccountLookup.Library.Regex
import AccountLookup.Library.RegexText
import AccountLookup.Basic
import AccountLookup.Domain.Interfaces
import AccountLookup.Domain.Aggregate
import AccountLookup.Domain.Administration
import AccountLookup.Domain.Gate
import AccountLookup.Domain.EventParties
import AccountLookup.Domain.LookupEntryPoints
import AccountLookup.Domain.Invocations
import AccountLookup.Domain.AdminReads
import AccountLookup.Domain.Reading
import AccountLookup.Domain.Directory
import AccountLookup.Domain.LookupService
import AccountLookup.Domain.Deliveries
import AccountLookup.Domain.Asking
import AccountLookup.Implementations.BuiltinRuns
import AccountLookup.Implementations.BuiltinCache
import AccountLookup.Implementations.BuiltinStaleness
import AccountLookup.Implementations.BuiltinCollection
import AccountLookup.Implementations.AssociationSearch
import AccountLookup.Implementations.TextSearch
import AccountLookup.Implementations.SearchKeywords
import AccountLookup.Implementations.StoreFailures
import AccountLookup.Implementations.BuiltinTasks
import AccountLookup.Implementations.ConcurrentAssociations
import AccountLookup.Implementations.ConcurrentRemovals
import AccountLookup.Implementations.GroundedAnswers
import AccountLookup.Implementations.RecentAnswers
import AccountLookup.Implementations.BuiltinDirectory
import AccountLookup.Implementations.CallsApart
import AccountLookup.Implementations.BuiltinLinearizability
import AccountLookup.Implementations.ParticipantAdapter
import AccountLookup.Implementations.HttpOracleProvider
import AccountLookup.Implementations.MongoOracleFinder
import AccountLookup.Implementations.OracleRouting
import AccountLookup.Implementations.OracleAdapterFactory
import AccountLookup.Implementations.AbsentProperties
import AccountLookup.HttpOracleSvc.RemoteOracle
import AccountLookup.HttpOracleSvc.RemoteOracleRuns
import AccountLookup.HttpOracleSvc.Persistence
import AccountLookup.HttpOracleSvc.OverlappingWrites
import AccountLookup.HttpOracleSvc.Ownership
import AccountLookup.HttpOracleSvc.RemoteOracleRoutes
import AccountLookup.HttpOracleSvc.WireFormat
import AccountLookup.HttpOracleSvc.RouteHandlers
import AccountLookup.HttpOracleSvc.Linearizability
import AccountLookup.HttpOracleSvc.CrashRecovery
import AccountLookup.HttpOracleSvc.RemoteOracleServer
import AccountLookup.HttpOracleSvc.RemoteDirectory
import AccountLookup.Service.Adapters
import AccountLookup.Service.RegistryRuns
import AccountLookup.Service.ConnectedAdapters
import AccountLookup.Service.ReleasedConnections
import AccountLookup.Service.RoutingStability
import AccountLookup.Service.AdminCoverage
import AccountLookup.Service.RequestValidation
import AccountLookup.Service.OracleAdminRoutes
import AccountLookup.Service.AccountLookupRoutes
import AccountLookup.Service.UnprivilegedCallers
import AccountLookup.Service.ValidatedRequests
import AccountLookup.Service.AbsentParties
import AccountLookup.Service.DeclaredRegistrations
import AccountLookup.Service.Replicas
import AccountLookup.Service.AssociationEvents
import AccountLookup.Service.Provenance
import AccountLookup.Service.Sessions
import AccountLookup.Service.AbsentFields
import AccountLookup.Service.AdminReadErrors
import AccountLookup.Service.EventHandler
import AccountLookup.Service.InterchangeableOracles
import AccountLookup.Service.WholeService
import AccountLookup.Service.Redeliveries
import AccountLookup.Service.ConcurrentAdministration
import AccountLookup.ClientLib.AccountLookupHttpClient
import AccountLookup.Service.LookupUrls
import AccountLookup.ClientLib.LookupPaths
import AccountLookup.ClientLib.LookupQueries
import AccountLookup.ClientLib.LookupAgreement
import AccountLookup.ClientLib.ServedLookups
import AccountLookup.Library.ComponentEncoding
import AccountLookup.Service.AdminUrls
import AccountLookup.Service.RegistryUrls
