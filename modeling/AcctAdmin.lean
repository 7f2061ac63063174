import AcctAdmin.Account
import AcctAdmin.Attributes
import AcctAdmin.Audit
import AcctAdmin.Client.Agent
import AcctAdmin.Client.Channel
import AcctAdmin.Client.Conversation
import AcctAdmin.Client.Error
import AcctAdmin.Client.Exchange
import AcctAdmin.Client.Link
import AcctAdmin.Client.Selection
import AcctAdmin.Console.Argument
import AcctAdmin.Console.Order
import AcctAdmin.Console.Reader
import AcctAdmin.Console.Report
import AcctAdmin.Console.Run
import AcctAdmin.Console.Usage
import AcctAdmin.Duration
import AcctAdmin.Http.Exchange
import AcctAdmin.Json.Number
import AcctAdmin.Json.Printer
import AcctAdmin.Json.Reader
import AcctAdmin.Json.Record
import AcctAdmin.Json.Value
import AcctAdmin.Main
import AcctAdmin.Net.Ipv4
import AcctAdmin.Net.Ipv6
import AcctAdmin.Net.SocketAddress
import AcctAdmin.Page
import AcctAdmin.Protocol.Advertisement
import AcctAdmin.Protocol.Body
import AcctAdmin.Protocol.Code
import AcctAdmin.Protocol.Codec
import AcctAdmin.Protocol.Envelope
import AcctAdmin.Protocol.Generation
import AcctAdmin.Protocol.Message
import AcctAdmin.Protocol.Redacted
import AcctAdmin.Record
import AcctAdmin.Search
import AcctAdmin.Server.Attempts
import AcctAdmin.Server.Cursor
import AcctAdmin.Server.Execution
import AcctAdmin.Server.Failure
import AcctAdmin.Server.Front
import AcctAdmin.Server.Handler
import AcctAdmin.Server.Hosted
import AcctAdmin.Server.Lookup
import AcctAdmin.Server.Sessions
import AcctAdmin.Server.Settings
import AcctAdmin.Server.Store
import AcctAdmin.Text.Blank
import AcctAdmin.Text.Case
import AcctAdmin.Text.CaseTable
import AcctAdmin.Text.Decimal
import AcctAdmin.Text.Glyphs
import AcctAdmin.Text.Percent
import AcctAdmin.Text.Punycode
import AcctAdmin.Text.Quoted
import AcctAdmin.Text.Split
import AcctAdmin.Toml.Moment
import AcctAdmin.Toml.Node
import AcctAdmin.Toml.Quoted
import AcctAdmin.Toml.Reader
import AcctAdmin.Toml.Scalar
import AcctAdmin.Toml.Table
import AcctAdmin.Url.Basic
import AcctAdmin.Url.Host
import AcctAdmin.Url.Reader
import AcctAdmin.Uuid
import AcctAdmin.Proofs.Lists
import AcctAdmin.Proofs.Sessions.Lookup
import AcctAdmin.Proofs.Transaction.Interleaving
import AcctAdmin.Proofs.Transaction.Invariant
import AcctAdmin.Proofs.Transaction.LostUpdate
import AcctAdmin.Proofs.Transaction.FirstCommitter
import AcctAdmin.Proofs.Transaction.Uniqueness
import AcctAdmin.Proofs.Command.Handling
import AcctAdmin.Proofs.Command.Frame
import AcctAdmin.Proofs.Command.Interleaving
import AcctAdmin.Proofs.Command.Invariant
import AcctAdmin.Proofs.Command.Authorization
import AcctAdmin.Proofs.Command.LastAdministrator
import AcctAdmin.Proofs.Command.Alone
import AcctAdmin.Proofs.Conversation.Recording
import AcctAdmin.Proofs.Conversation.Relogin
import AcctAdmin.Proofs.Transaction.Isolation
import AcctAdmin.Proofs.Transaction.Publication
import AcctAdmin.Proofs.Transaction.AuditLog
import AcctAdmin.Proofs.Search.Order
import AcctAdmin.Proofs.Search.Listing
import AcctAdmin.Proofs.Text.Cut
import AcctAdmin.Proofs.Text.Numeral
import AcctAdmin.Proofs.Json.RoundTrip
import AcctAdmin.Proofs.Json.Exactness
import AcctAdmin.Proofs.Protocol.Body
import AcctAdmin.Proofs.Protocol.Choice
import AcctAdmin.Proofs.Protocol.Codec
import AcctAdmin.Proofs.Protocol.Cut
import AcctAdmin.Proofs.Command.Effects
import AcctAdmin.Proofs.Command.Classification
import AcctAdmin.Proofs.Command.Course
import AcctAdmin.Proofs.Command.OnceOnly
import AcctAdmin.Proofs.Attempts.Window
import AcctAdmin.Proofs.Sessions.Liveness
import AcctAdmin.Proofs.Protocol.Dispatch
import AcctAdmin.Proofs.Command.Answer
import AcctAdmin.Proofs.Front.Language
import AcctAdmin.Proofs.Search.Kinds
import AcctAdmin.Proofs.Search.Settled
import AcctAdmin.Proofs.Command.Sequence
import AcctAdmin.Proofs.Attempts.Wait
import AcctAdmin.Proofs.Search.Cursors
import AcctAdmin.Proofs.Search.Drifting
import AcctAdmin.Proofs.Conversation.Standing
import AcctAdmin.Proofs.Conversation.Absence
import AcctAdmin.Proofs.Conversation.Lifecycle
import AcctAdmin.Proofs.Command.Caller
import AcctAdmin.Proofs.Command.Ordinary
import AcctAdmin.Proofs.Command.RefusedLogin
import AcctAdmin.Proofs.Command.Strangers
import AcctAdmin.Proofs.Command.Rest
import AcctAdmin.Proofs.Command.Revocation
import AcctAdmin.Proofs.Command.Banning
import AcctAdmin.Proofs.Command.LoggingIn
import AcctAdmin.Proofs.Front.Gate
import AcctAdmin.Proofs.Sessions.Cookie
import AcctAdmin.Proofs.Sessions.Header
import AcctAdmin.Proofs.Command.Announcement
import AcctAdmin.Proofs.Front.Visit
import AcctAdmin.Proofs.Protocol.Offers
import AcctAdmin.Proofs.Front.Places
import AcctAdmin.Proofs.Front.Premises
import AcctAdmin.Proofs.Search.Reading
import AcctAdmin.Proofs.Front.Reader
import AcctAdmin.Proofs.Console.Paging
import AcctAdmin.Proofs.Console.Searching
import AcctAdmin.Proofs.Console.Limits
import AcctAdmin.Proofs.Command.Estrangement
import AcctAdmin.Proofs.Conversation.Custody
import AcctAdmin.Proofs.Front.Exchanges
import AcctAdmin.Proofs.Front.Links
import AcctAdmin.Proofs.Front.Custody
import AcctAdmin.Proofs.Console.Leaving
import AcctAdmin.Proofs.Conversation.Status
import AcctAdmin.Proofs.Command.Creation
import AcctAdmin.Proofs.Front.Configured
import AcctAdmin.Proofs.Protocol.Presentation
