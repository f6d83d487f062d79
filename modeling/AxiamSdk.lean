import AxiamSdk.Amqp.Consumer
import AxiamSdk.Amqp.Reactor
import AxiamSdk.Authz
import AxiamSdk.Dpop
import AxiamSdk.Guards.Authenticate
import AxiamSdk.Lib.Uuid
import AxiamSdk.Session
import AxiamSdk.Ssf.Receiver
import AxiamSdk.Guards.RequireAccess
import AxiamSdk.PrincipalMemo
import AxiamSdk.Lib.SingleFlight
import AxiamSdk.OidcRefresh
import AxiamSdk.Amqp.ReplayWindow
import AxiamSdk.Token.ClientRefresh
import AxiamSdk.Token.RefreshLock
import AxiamSdk.RequestOrigin
import AxiamSdk.Lib.JsonRender
import AxiamSdk.Lib.JsonReadBack
import AxiamSdk.Lib.FloatText
import AxiamSdk.Amqp.ServerSigned
import AxiamSdk.Lib.JsonEq
import AxiamSdk.Management.Plan
import AxiamSdk.Management.Engine
import AxiamSdk.Management.Execute
import AxiamSdk.Management.Rebind
import AxiamSdk.Lib.ParentsFirst
import AxiamSdk.Management.ResourceOrder
import AxiamSdk.Management.Validity
import AxiamSdk.Management.Matching
import AxiamSdk.Lib.Supply
import AxiamSdk.Management.KeyResolution
import AxiamSdk.Management.NaturalKeys
import AxiamSdk.Management.Converged
import AxiamSdk.Management.Tenant
import AxiamSdk.Management.Drift
import AxiamSdk.Management.Effects
import AxiamSdk.Management.Report
import AxiamSdk.RevocationFeed
import AxiamSdk.Amqp.ReactorAnswers
import AxiamSdk.Jwks
import AxiamSdk.MemoHits
import AxiamSdk.Ssf.KeyFetch
import AxiamSdk.Polling.Answers
import AxiamSdk.Polling.Grant
import AxiamSdk.Polling.Grants
import AxiamSdk.Lib.Percent
import AxiamSdk.Mcp.Metadata
import AxiamSdk.Management.NetworkFrame
import AxiamSdk.Management.NetworkSegments
import AxiamSdk.Management.NetworkProfiles
import AxiamSdk.Management.Network
import AxiamSdk.Lib.Loops
import AxiamSdk.Lib.PyInt
import AxiamSdk.Management.Paging
import AxiamSdk.TokenBinding
import AxiamSdk.Opaque
import AxiamSdk.Coalescer
import AxiamSdk.Amqp.Matrix
import AxiamSdk.DpopTarget
import AxiamSdk.DpopErrors
import AxiamSdk.Retries.Calls
import AxiamSdk.Retries.Judged
import AxiamSdk.Lib.Checklist
import AxiamSdk.SigningKey
import AxiamSdk.IdToken
import AxiamSdk.AccessToken
import AxiamSdk.Lib.AuthParams
import AxiamSdk.Management.PlacedResources
import AxiamSdk.Mcp.Challenge
import AxiamSdk.Ssf.StoredKeys
import AxiamSdk.Token.FailedRefresh
import AxiamSdk.Workspace
import AxiamSdk.Registration
import AxiamSdk.Ssf.NineSteps
import AxiamSdk.Lib.Decimal
import AxiamSdk.Webhook
import AxiamSdk.Amqp.ReplyRebuilt
import AxiamSdk.Lib.Redaction
import AxiamSdk.GrpcErrors
import AxiamSdk.Lib.Rfc3986
import AxiamSdk.CredentialFree
import AxiamSdk.Mcp.Loopback
import AxiamSdk.UmaChallenge
import AxiamSdk.Amqp.ReactorRouter
import AxiamSdk.Lib.DoubleChecked
import AxiamSdk.Lib.Expiring
import AxiamSdk.Lib.Query
import AxiamSdk.Lib.UrlParts
import AxiamSdk.Login.AuthorizationUrl
import AxiamSdk.Login.Discovery
import AxiamSdk.Login.Flow
import AxiamSdk.Login.PushedRequest
import AxiamSdk.OpaqueLogin
import AxiamSdk.Ssf.Replay
import AxiamSdk.Lib.Catalogue
import AxiamSdk.Management.Catalogues
import AxiamSdk.Management.Convergence
import AxiamSdk.Ssf.Delivery
import AxiamSdk.Login.LogoutToken
import AxiamSdk.Management.Declarative
