import DarkmeshGateway.AsyncWorker.AssertionHandshake
import DarkmeshGateway.AsyncWorker.ConfigBinding
import DarkmeshGateway.AsyncWorker.DnsTxtGrammar
import DarkmeshGateway.AsyncWorker.DomainInvariant
import DarkmeshGateway.AsyncWorker.DomainKeys
import DarkmeshGateway.AsyncWorker.DomainText
import DarkmeshGateway.AsyncWorker.EntryCoherence
import DarkmeshGateway.AsyncWorker.RefreshFrame
import DarkmeshGateway.AsyncWorker.RefreshInterleaving
import DarkmeshGateway.AsyncWorker.RefreshIsolation
import DarkmeshGateway.AsyncWorker.RefreshJobs
import DarkmeshGateway.AsyncWorker.RefreshSchedule
import DarkmeshGateway.Foundation.Chains
import DarkmeshGateway.Foundation.Js.Double
import DarkmeshGateway.Foundation.Js.Equality
import DarkmeshGateway.Foundation.Js.Kept
import DarkmeshGateway.Foundation.Js.Object
import DarkmeshGateway.Foundation.Js.Parse
import DarkmeshGateway.Foundation.Js.Place
import DarkmeshGateway.Foundation.Js.Printable
import DarkmeshGateway.Foundation.Js.Reread
import DarkmeshGateway.Foundation.Js.Segment
import DarkmeshGateway.Foundation.Js.ShortestDecimal
import DarkmeshGateway.Foundation.Js.Stringify
import DarkmeshGateway.Foundation.Locality
import DarkmeshGateway.Foundation.Recency
import DarkmeshGateway.Foundation.Retry
import DarkmeshGateway.Foundation.Stutter
import DarkmeshGateway.Gateway.AnalyticsEvent
import DarkmeshGateway.Gateway.AnalyticsPolicy
import DarkmeshGateway.Gateway.CacheEviction
import DarkmeshGateway.Gateway.CachedResolution
import DarkmeshGateway.Gateway.CanonicalEncoders
import DarkmeshGateway.Gateway.CheckpointAuthenticity
import DarkmeshGateway.Gateway.CheckpointWindow
import DarkmeshGateway.Gateway.ForgetFinality
import DarkmeshGateway.Gateway.IncidentNotify
import DarkmeshGateway.Gateway.IntegrityClient
import DarkmeshGateway.Gateway.IntegrityRecords
import DarkmeshGateway.Gateway.InternalPlane
import DarkmeshGateway.Gateway.LockedRelease
import DarkmeshGateway.Gateway.MailConservation
import DarkmeshGateway.Gateway.Mailing
import DarkmeshGateway.Gateway.NodeAdapter
import DarkmeshGateway.Gateway.PausedGateway
import DarkmeshGateway.Gateway.RateLimit
import DarkmeshGateway.Gateway.ReplayWindow
import DarkmeshGateway.Gateway.Router
import DarkmeshGateway.Gateway.SecretGuardWalk
import DarkmeshGateway.Gateway.SessionChains
import DarkmeshGateway.Gateway.StripeSignature
import DarkmeshGateway.Gateway.SweepTransparency
import DarkmeshGateway.Gateway.TemplateCall
import DarkmeshGateway.Gateway.TemplatePins
import DarkmeshGateway.Gateway.TemplateSigning
import DarkmeshGateway.Gateway.VerifiedCache
import DarkmeshGateway.Gateway.WebhookForward
import DarkmeshGateway.Gateway.WebhookLedger
import DarkmeshGateway.Operations.Attestation
import DarkmeshGateway.Operations.AttestationBinding
import DarkmeshGateway.Operations.AttestationRoundTrip
import DarkmeshGateway.Operations.CanonicalCopy
import DarkmeshGateway.Operations.MatrixComparison
import DarkmeshGateway.Operations.MatrixVerdict
import DarkmeshGateway.Resolver.BundleAgreement
import DarkmeshGateway.Resolver.BundlePostcondition
import DarkmeshGateway.Resolver.Coherence
import DarkmeshGateway.Resolver.HostCanonical
import DarkmeshGateway.Resolver.IdempotentReplay
import DarkmeshGateway.Resolver.PolicyDeterminism
import DarkmeshGateway.Resolver.StaleWindow
import DarkmeshGateway.SecretsWorker.BridgeIsolation
import DarkmeshGateway.SecretsWorker.BusyReplay
import DarkmeshGateway.SecretsWorker.DownloadRace
import DarkmeshGateway.SecretsWorker.EnvelopeQuota
import DarkmeshGateway.SecretsWorker.HexDecoding
import DarkmeshGateway.SecretsWorker.HostLookup
import DarkmeshGateway.SecretsWorker.InboxIsolation
import DarkmeshGateway.SecretsWorker.InboxRetention
import DarkmeshGateway.SecretsWorker.Janitor
import DarkmeshGateway.SecretsWorker.LockedReplay
import DarkmeshGateway.SecretsWorker.LookupHost
import DarkmeshGateway.SecretsWorker.MailboxRefinement
import DarkmeshGateway.SecretsWorker.NonceRelease
import DarkmeshGateway.SecretsWorker.Notify
import DarkmeshGateway.SecretsWorker.NotifyBreaker
import DarkmeshGateway.SecretsWorker.NotifyDelivery
import DarkmeshGateway.SecretsWorker.ReplayGuard
import DarkmeshGateway.SecretsWorker.RouteAssertion
import DarkmeshGateway.SecretsWorker.RouteAssertionReplay
import DarkmeshGateway.SecretsWorker.RouteAssertionRoundTrip
import DarkmeshGateway.SecretsWorker.ScopedTokens
import DarkmeshGateway.SecretsWorker.SignPolicyExact
import DarkmeshGateway.SecretsWorker.SignatureSeparation
import DarkmeshGateway.SecretsWorker.WebhookTarget
