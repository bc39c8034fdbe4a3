import Stratos.Frontend.AnsiSpans
import Stratos.Frontend.ApiRequest
import Stratos.Frontend.ApiRequestFrame
import Stratos.Frontend.ApplicationState
import Stratos.Frontend.ChildLists
import Stratos.Frontend.ClearPagination
import Stratos.Frontend.CompareStrings
import Stratos.Frontend.CompleteResource
import Stratos.Frontend.CurrentUserRoles
import Stratos.Frontend.DeepMerge
import Stratos.Frontend.EndpointAgreement
import Stratos.Frontend.EndpointRemovalExact
import Stratos.Frontend.EntityRelationsComplete
import Stratos.Frontend.EntityTreeCache
import Stratos.Frontend.FlatTreeExact
import Stratos.Frontend.FolderScan
import Stratos.Frontend.FolderTransfers
import Stratos.Frontend.GlobalRoles
import Stratos.Frontend.IgnoreFilter
import Stratos.Frontend.LateRoleEvents
import Stratos.Frontend.ListFilter
import Stratos.Frontend.ListSelection
import Stratos.Frontend.LocalPaging
import Stratos.Frontend.LogLines
import Stratos.Frontend.MetricsChart
import Stratos.Frontend.MissingRoles
import Stratos.Frontend.OrgMembership
import Stratos.Frontend.OrgSpaceUsers
import Stratos.Frontend.PageFlattening
import Stratos.Frontend.PaginationActions
import Stratos.Frontend.PermissionDecisionsExact
import Stratos.Frontend.PermissionLinks
import Stratos.Frontend.QueryParams
import Stratos.Frontend.RecursiveDeleteRuns
import Stratos.Frontend.RelationRefresh
import Stratos.Frontend.RoleBookkeeping
import Stratos.Frontend.RoleChanges
import Stratos.Frontend.RoleViews
import Stratos.Frontend.RouteMapping
import Stratos.Frontend.StaleResponses
import Stratos.Frontend.Steppers
import Stratos.Frontend.ValidationUpdates
import Stratos.Jetstream.AdminScope
import Stratos.Jetstream.ConnectionString
import Stratos.Jetstream.EndpointTokens
import Stratos.Jetstream.FolderSource
import Stratos.Jetstream.FolderUpload
import Stratos.Jetstream.FolderUploadEnd
import Stratos.Jetstream.FolderUploadRuns
import Stratos.Jetstream.Jobs
import Stratos.Jetstream.JwtClaims
import Stratos.Jetstream.Manifest
import Stratos.Jetstream.MetricsConfined
import Stratos.Jetstream.MetricsEndpoints
import Stratos.Jetstream.Migrations
import Stratos.Jetstream.OAuthFlow
import Stratos.Jetstream.PassthroughRuns
import Stratos.Jetstream.ProxiedResponse
import Stratos.Jetstream.PushOverrides
import Stratos.Jetstream.Refresh
import Stratos.Jetstream.SaveInterleaving
import Stratos.Jetstream.SelectionUpload
import Stratos.Jetstream.SessionFrame
import Stratos.Jetstream.SetupConsole
import Stratos.Jetstream.SocketMessages
import Stratos.Jetstream.TokenRoundTrip
import Stratos.Jetstream.UserInfo
import Stratos.Lib.Interleaving
import Stratos.Lib.JsObject
