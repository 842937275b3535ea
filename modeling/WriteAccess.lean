import WriteAccess.Access.List
import WriteAccess.Access.Permission
import WriteAccess.Audit
import WriteAccess.Config
import WriteAccess.Context
import WriteAccess.Credential.TrustedKeys
import WriteAccess.Decision
import WriteAccess.Duration
import WriteAccess.Event
import WriteAccess.Failure
import WriteAccess.Gate
import WriteAccess.Http.Client
import WriteAccess.Http.Script
import WriteAccess.Identity
import WriteAccess.Json.Error
import WriteAccess.Json.NumberText
import WriteAccess.Json.Reader
import WriteAccess.Json.Shape
import WriteAccess.Json.Value
import WriteAccess.Json.Writer
import WriteAccess.Middleware
import WriteAccess.Numeric.Binary64
import WriteAccess.Numeric.Shortest
import WriteAccess.Rbac.Http
import WriteAccess.Rbac.Lookup
import WriteAccess.Rbac.Page
import WriteAccess.Rejection
import WriteAccess.Text.Canonical
import WriteAccess.Text.CanonicalTable
import WriteAccess.Text.Printable
import WriteAccess.Text.Quoted
import WriteAccess.Text.Runs
import WriteAccess.Url.Basic
import WriteAccess.Url.Bidi
import WriteAccess.Url.BidiTable
import WriteAccess.Url.Host
import WriteAccess.Url.Idna
import WriteAccess.Url.IdnaTable
import WriteAccess.Url.Parser
import WriteAccess.Url.Percent
import WriteAccess.Url.Punycode
import WriteAccess.Proofs.PriorityChain
import WriteAccess.Proofs.CredentialBlind
import WriteAccess.Proofs.GuardedHandler
import WriteAccess.Proofs.EventLog
import WriteAccess.Proofs.AccessRules
import WriteAccess.Proofs.PermissionText
import WriteAccess.Proofs.ContextBag
import WriteAccess.Proofs.Pagination
import WriteAccess.Proofs.KeyListing
import WriteAccess.Proofs.ShapeFit
import WriteAccess.Proofs.IdentityDocument
import WriteAccess.Proofs.UrlWriting
import WriteAccess.Proofs.DomainText
import WriteAccess.Proofs.Ipv6Text
import WriteAccess.Proofs.HostText
import WriteAccess.Proofs.ParsedUrl
import WriteAccess.Proofs.FormQuery
import WriteAccess.Proofs.AccessEndpoint
import WriteAccess.Proofs.JsonText
import WriteAccess.Proofs.ScanSteps
import WriteAccess.Proofs.NumberScan
import WriteAccess.Proofs.StringScan
import WriteAccess.Proofs.SkipScan
import WriteAccess.Proofs.ValueScan
import WriteAccess.Proofs.ShapeScan
import WriteAccess.Proofs.PageReading
import WriteAccess.Proofs.ConfigLoading
import WriteAccess.Proofs.LookupDeadline
