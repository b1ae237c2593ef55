import KubeGateway.Spec.RedirectInvariant
import KubeGateway.Spec.RedirectRecorded
import KubeGateway.Spec.Saturation
import KubeGateway.Spec.OriginalDestination
import KubeGateway.Native.Certs
import KubeGateway.Native.Watch
import KubeGateway.Spec.KeyIsolation
import KubeGateway.Native.Connection
import KubeGateway.ForStd.Decimal
import KubeGateway.Native.LoadEPF
import KubeGateway.Native.Start
import KubeGateway.Spec.EncryptedRelay
import KubeGateway.ForStd.Pipe
import KubeGateway.Native.Redirection
import KubeGateway.Native.Tunnel
import KubeGateway.Spec.TunnelControl
import KubeGateway.Spec.ResponseStream
import KubeGateway.Spec.HandshakeAgreement
import KubeGateway.ForStd.JsonTarget
import KubeGateway.Native.Policy
import KubeGateway.Native.PolicyClient
import KubeGateway.Spec.PolicyHistory
import KubeGateway.ForStd.Framing
import KubeGateway.Native.HttpGateway
import KubeGateway.Spec.BlockAirtight
import KubeGateway.Spec.HttpTransparency
import KubeGateway.Spec.BannedWords
import KubeGateway.Spec.PodRange
import KubeGateway.Spec.RedirectTarget
import KubeGateway.Native.Processes
import KubeGateway.Spec.PodIsolation
import KubeGateway.Spec.PodCoverage
import KubeGateway.Spec.NoRequestSwallowed
import KubeGateway.Native.CopyGateway
import KubeGateway.Spec.HalfClose
import KubeGateway.Native.HttpWrites
import KubeGateway.Spec.ResponseOrder
import KubeGateway.ForStd.SharedRead
import KubeGateway.Native.SharedPolicy
import KubeGateway.Spec.PolicySnapshots
import KubeGateway.Native.Sessions
import KubeGateway.Spec.FailureIsolation
import KubeGateway.Spec.Injection
import KubeGateway.Spec.PodSecret
import KubeGateway.Spec.CertificateDemand
import KubeGateway.Spec.AccountsAuthorised
import KubeGateway.Native.PodEvents
import KubeGateway.Spec.InjectedOnce
import KubeGateway.Native.Startup
import KubeGateway.Spec.StartupOrder
import KubeGateway.Native.Addresses
import KubeGateway.Spec.SelfDial
import KubeGateway.ForStd.ReadScript
import KubeGateway.Spec.RequestLoopEnds
import KubeGateway.Spec.ResponseSurvival
import KubeGateway.Spec.UndecodableResponses
import KubeGateway.ForStd.JsonShape
import KubeGateway.Spec.RequestMeaning
import KubeGateway.Spec.RewriteFrame
import KubeGateway.Spec.PromptRules
import KubeGateway.Spec.ModelRules
import KubeGateway.ForStd.JsonOutcome
import KubeGateway.Spec.PolicyRejection
import KubeGateway.ForStd.Cursor
import KubeGateway.Native.SocketDiag
import KubeGateway.Spec.SocketDiagRoundTrip
import KubeGateway.Native.Flush
import KubeGateway.Spec.FlushOwn
import KubeGateway.Spec.UpdateFailures
import KubeGateway.Spec.TokenStored
import KubeGateway.Spec.ConfigExact
import KubeGateway.Spec.ConfiguredAsAnnotated
import KubeGateway.ForStd.Resource
import KubeGateway.Native.Outbound
import KubeGateway.Spec.OutboundClosed
import KubeGateway.Spec.OwnDestination
import KubeGateway.Spec.StreamIntegrity
import KubeGateway.Spec.PodsSettle
import KubeGateway.Spec.SecretsOwned
import KubeGateway.Native.Handshake
import KubeGateway.Spec.TrustDomain
import KubeGateway.Spec.PolicyAccess
import KubeGateway.Spec.PolicyEnforced
import KubeGateway.Spec.RelayDelivers
import KubeGateway.Spec.HttpInOrder
import KubeGateway.Native.Bootstrap
import KubeGateway.Spec.AuthorityFits
