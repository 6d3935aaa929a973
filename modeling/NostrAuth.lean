import NostrAuth.Lib.Interaction
import NostrAuth.Lib.Clients
import NostrAuth.Lib.Table
import NostrAuth.Lib.Transaction
import NostrAuth.Lib.Statements
import NostrAuth.Lib.EcmaScript
import NostrAuth.Lib.EcmaJson
import NostrAuth.Python
import NostrAuth.Challenge
import NostrAuth.ChallengeBackends
import NostrAuth.ChallengeConcurrency
import NostrAuth.Mappings
import NostrAuth.MappingEffects
import NostrAuth.MappingRows
import NostrAuth.MappingOwnership
import NostrAuth.MappingConcurrency
import NostrAuth.Migration
import NostrAuth.Revocation
import NostrAuth.IdentityIds
import NostrAuth.LegacyImport
import NostrAuth.NostrVerify
import NostrAuth.Service
import NostrAuth.Server
import NostrAuth.HandlerSpecs
import NostrAuth.EndpointSpecs
import NostrAuth.ChallengeHistory
import NostrAuth.LoginSoundness
import NostrAuth.MappingAuthority
import NostrAuth.HostBinding
import NostrAuth.JsonPosts
import NostrAuth.Policy
import NostrAuth.RefusedRequests
import NostrAuth.SecurityLog
import NostrAuth.LoginServed
import NostrAuth.FailedLogins
import NostrAuth.LoginCompleteness
import NostrAuth.AdminCli
import NostrAuth.RowWriters
import NostrAuth.WellFormedRows
import NostrAuth.Relinking
import NostrAuth.AddedIdentity
import NostrAuth.ErrorMapping
import NostrAuth.HostileInput
import NostrAuth.LinkRaces
import NostrAuth.JsonText
import NostrAuth.JsonRoundTrip
import NostrAuth.Sockets
import NostrAuth.HelperServices
import NostrAuth.HelperProtocols
import NostrAuth.PeerReplies
import NostrAuth.PortalCookie
import NostrAuth.Minting
import NostrAuth.Relays
import NostrAuth.RelayFetches
import NostrAuth.ReadPaths
import NostrAuth.LookupServers
import NostrAuth.AccountPage
import NostrAuth.TwoPages
import NostrAuth.ConnectUi
import NostrAuth.SavedKeys
import NostrAuth.Lib.Provenance
import NostrAuth.Lib.Html
import NostrAuth.Browser
import NostrAuth.LoginPage
import NostrAuth.PageLogins
import NostrAuth.Lib.Alone
import NostrAuth.HonestLogin
import NostrAuth.PageRuns
import NostrAuth.AdminPage
import NostrAuth.AdminRequests
import NostrAuth.AdminPages
import NostrAuth.AdminRows
import NostrAuth.Lib.Delegation
import NostrAuth.Deployment
import NostrAuth.Withdrawals
import NostrAuth.LookupRuns
