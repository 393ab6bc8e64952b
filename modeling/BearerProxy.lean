import BearerProxy.Text
import BearerProxy.CommandLine
import BearerProxy.Credential.Pool
import BearerProxy.Credential.Record
import BearerProxy.Decimal.Binary64
import BearerProxy.Digest.Sha256
import BearerProxy.Dispatch
import BearerProxy.Dispatch.Stage
import BearerProxy.Failure
import BearerProxy.Failure.Causes
import BearerProxy.Failure.Code
import BearerProxy.Files
import BearerProxy.Files.Tree
import BearerProxy.Forward.Connection
import BearerProxy.Forward.Delivery
import BearerProxy.Forward.Outbound
import BearerProxy.Forward.Relay
import BearerProxy.Forward.Rule
import BearerProxy.Gateway
import BearerProxy.Gateway.Endpoint
import BearerProxy.Gateway.Message
import BearerProxy.Http.Framing
import BearerProxy.Http.Header
import BearerProxy.Http.ResponseHead
import BearerProxy.Http.Target
import BearerProxy.Journal
import BearerProxy.Journal.Output
import BearerProxy.Json.Number
import BearerProxy.Json.Parser
import BearerProxy.Json.Value
import BearerProxy.Keyed
import BearerProxy.Main
import BearerProxy.Net.Address
import BearerProxy.Program
import BearerProxy.Proofs.Json.RoundTrip
import BearerProxy.Proofs.Text.Base64Url
import BearerProxy.Proofs.Text.Pieces
import BearerProxy.Proofs.Text.Utf8
import BearerProxy.Rotation
import BearerProxy.Settings
import BearerProxy.Settings.Document
import BearerProxy.Settings.Environment
import BearerProxy.Settings.Override
import BearerProxy.Text.Base64
import BearerProxy.Text.Invisible
import BearerProxy.Text.Quoted
import BearerProxy.Text.Timestamp
import BearerProxy.Token.Issuer
import BearerProxy.Token.Signature
import BearerProxy.Toml.Parser
import BearerProxy.Toml.Scalar
import BearerProxy.Toml.Text
import BearerProxy.Toml.Value
import BearerProxy.Url.Basic
import BearerProxy.Url.CharacterFolding
import BearerProxy.Url.Composition
import BearerProxy.Url.DomainName
import BearerProxy.Url.Host
import BearerProxy.Url.Punycode
import BearerProxy.Proofs.Token.History
import BearerProxy.Proofs.Token.Ownership
import BearerProxy.Proofs.Rotation.Consistency
import BearerProxy.Proofs.Rotation.Accounting
import BearerProxy.Proofs.Forward.Preparation
import BearerProxy.Proofs.Dispatch.Course
import BearerProxy.Proofs.Dispatch.Recording
import BearerProxy.Proofs.Dispatch.Failover
import BearerProxy.Proofs.Dispatch.Effects
import BearerProxy.Proofs.Dispatch.Plan
import BearerProxy.Proofs.Url.DomainName
import BearerProxy.Proofs.Url.Authority
import BearerProxy.Proofs.Url.Place
import BearerProxy.Proofs.Url.Extension
import BearerProxy.Proofs.Forward.Confinement
import BearerProxy.Proofs.Dispatch.Interleaving
import BearerProxy.Proofs.Forward.Spelling
import BearerProxy.Proofs.Secrecy.Rotation
import BearerProxy.Proofs.Secrecy.Token
import BearerProxy.Proofs.Secrecy.Dispatch
import BearerProxy.Proofs.Secrecy.Session
import BearerProxy.Proofs.Forward.Relay
import BearerProxy.Proofs.Dispatch.ClientPlan
import BearerProxy.Proofs.Gateway.Handover
import BearerProxy.Proofs.Gateway.EndToEnd
import BearerProxy.Proofs.Gateway.Authorization
import BearerProxy.Proofs.Gateway.Access
import BearerProxy.Proofs.Credential.Loading
import BearerProxy.Proofs.Dispatch.InTurn
import BearerProxy.Proofs.Forward.SentHeaders
import BearerProxy.Proofs.Rotation.Fairness
import BearerProxy.Proofs.Token.Reuse
import BearerProxy.Proofs.Json.Integer
import BearerProxy.Proofs.Keyed.Order
import BearerProxy.Proofs.Json.Values
import BearerProxy.Proofs.Forward.BodyFilter
import BearerProxy.Proofs.Forward.QueryFilter
import BearerProxy.Proofs.Token.RoundTrip
import BearerProxy.Proofs.Settings.Acceptance
import BearerProxy.Proofs.Url.WebText
import BearerProxy.Proofs.Forward.Acceptance
import BearerProxy.Proofs.Dispatch.Acceptance
import BearerProxy.Proofs.Credential.Record
import BearerProxy.Proofs.Credential.Report
import BearerProxy.Proofs.Net.SocketAddress
import BearerProxy.Proofs.Settings.Override
import BearerProxy.Proofs.Settings.Dotenv
import BearerProxy.Proofs.Forward.Rewriting
import BearerProxy.Proofs.Text.Timestamp
import BearerProxy.Proofs.Files.Tree
import BearerProxy.Proofs.Program

