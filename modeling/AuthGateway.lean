import AuthGateway.Description
import AuthGateway.Settings.Environment
import AuthGateway.Startup
import AuthGateway.Proofs.Dictionary
import AuthGateway.Proofs.FileTree
import AuthGateway.Proofs.Text
import AuthGateway.Proofs.Token
import AuthGateway.Proofs.Cookies
import AuthGateway.Proofs.Decision
import AuthGateway.Proofs.Mediation
import AuthGateway.Proofs.CanonicalPath
import AuthGateway.Proofs.DecodingLevels
import AuthGateway.Proofs.FilterBits
import AuthGateway.Proofs.Ledger
import AuthGateway.Proofs.Runs
import AuthGateway.Proofs.Logout
import AuthGateway.Proofs.ExpiringMap
import AuthGateway.Proofs.Json
import AuthGateway.Proofs.Base64
import AuthGateway.Proofs.KeySource
import AuthGateway.Proofs.KeyText
import AuthGateway.Proofs.Utf8
import AuthGateway.Proofs.Payloads
import AuthGateway.Proofs.Header
import AuthGateway.Proofs.Malleability
import AuthGateway.Proofs.Secrets
import AuthGateway.Proofs.DoubleSubmit
import AuthGateway.Proofs.IssuedSession
import AuthGateway.Proofs.Renewal
import AuthGateway.Proofs.Refusals
import AuthGateway.Proofs.OwnCookies
import AuthGateway.Proofs.Assertion
import AuthGateway.Proofs.HostCase
import AuthGateway.Proofs.HostText
import AuthGateway.Proofs.WebText
import AuthGateway.Proofs.SameSite
import AuthGateway.Proofs.RenderedUrl
import AuthGateway.Proofs.LogoutRedirect
import AuthGateway.Proofs.HeaderRules
import AuthGateway.Proofs.Readiness
import AuthGateway.Proofs.CleanUrl
import AuthGateway.Proofs.UpstreamUrl
import AuthGateway.Proofs.CodeTable
import AuthGateway.Proofs.Letters
import AuthGateway.Proofs.ComposedForm
import AuthGateway.Proofs.Mapping
import AuthGateway.Proofs.Punycode
import AuthGateway.Proofs.Domain
import AuthGateway.Proofs.Addresses
import AuthGateway.Proofs.HostReading
import AuthGateway.Proofs.LongLabels
import AuthGateway.Proofs.LongestPrefix
import AuthGateway.Proofs.Respelling
import AuthGateway.Proofs.Cleanup
import AuthGateway.Proofs.LogoutReport
import AuthGateway.Proofs.SealedKinds
import AuthGateway.Proofs.LogoutCompletion
import AuthGateway.Proofs.LastRule
import AuthGateway.Proofs.PathScan
