import CursorPaging.Text.Blank
import CursorPaging.Text.Digits
import CursorPaging.Text.Quoted
import CursorPaging.Text.Utf8
import CursorPaging.Text.Base64
import CursorPaging.Dictionary
import CursorPaging.Binary64
import CursorPaging.Binary64.Shortest
import CursorPaging.Decoding
import CursorPaging.Json
import CursorPaging.Json.Printer
import CursorPaging.Json.Literal
import CursorPaging.Json.Reader
import CursorPaging.Json.Decode
import CursorPaging.Url.Escape
import CursorPaging.Url.Punycode
import CursorPaging.Url.Domain
import CursorPaging.Url.Host
import CursorPaging.Url
import CursorPaging.Error
import CursorPaging.Resource
import CursorPaging.Query
import CursorPaging.Preferences
import CursorPaging.Http.RateLimit
import CursorPaging.Date.Calendar
import CursorPaging.Date.Text
import CursorPaging.Query.DateValue
import CursorPaging.Query.Expression
import CursorPaging.Query.Builder
import CursorPaging.Listing
import CursorPaging.Paging.Fetch
import CursorPaging.Paging.Controller
import CursorPaging.Paging.View
import CursorPaging.Paging.Source
import CursorPaging.Paging.Table
import CursorPaging.Yaml.Place
import CursorPaging.Yaml.Scalar
import CursorPaging.Yaml.Token
import CursorPaging.Yaml.Node
import CursorPaging.Yaml.Number
import CursorPaging.Yaml.Decode
import CursorPaging.Http.Header
import CursorPaging.Http.Settings
import CursorPaging.Http.Request
import CursorPaging.Http.Network
import CursorPaging.Http.Client
import CursorPaging.Http.ListService
import CursorPaging.Config
import CursorPaging.CommandLine.Options
import CursorPaging.CommandLine.Arguments
import CursorPaging.CommandLine.BrowseCommand
import CursorPaging.Session.Message
import CursorPaging.Session.Opening
import CursorPaging.Session.Listing
import CursorPaging.Session.Browsing
import CursorPaging.Session
import CursorPaging.Program
import CursorPaging.Main
import CursorPaging.Proofs.Paging.History
import CursorPaging.Proofs.Paging.Invariant
import CursorPaging.Proofs.Paging.Loading
import CursorPaging.Proofs.Paging.Restart
import CursorPaging.Proofs.Paging.Freshness
import CursorPaging.Proofs.Paging.Settling
import CursorPaging.Proofs.Paging.Book
import CursorPaging.Proofs.Paging.Tracking
import CursorPaging.Proofs.Paging.Walk
import CursorPaging.Proofs.Paging.Rounds
import CursorPaging.Proofs.Paging.Deliveries
import CursorPaging.Proofs.Dictionary
import CursorPaging.Proofs.Listing
import CursorPaging.Proofs.Listing.Request
import CursorPaging.Proofs.Listing.Response
import CursorPaging.Proofs.Http.Traffic
import CursorPaging.Proofs.Http.Rejection
import CursorPaging.Proofs.Session.Walking
import CursorPaging.Proofs.Paging.Frontier
import CursorPaging.Proofs.Session.Printing
import CursorPaging.Proofs.Query.Builder
import CursorPaging.Proofs.Session.Opening
import CursorPaging.Proofs.Session.Listing
import CursorPaging.Proofs.Session.Dialogue
import CursorPaging.Proofs.Paging.Fetches
import CursorPaging.Proofs.Query.Expression
import CursorPaging.Proofs.Paging.Request
import CursorPaging.Proofs.Paging.Retry
import CursorPaging.Proofs.Paging.Failure
import CursorPaging.Proofs.Paging.KnownEnd
import CursorPaging.Proofs.Preferences
import CursorPaging.Proofs.Paging.PageSize
import CursorPaging.Proofs.Query.Steps
import CursorPaging.Proofs.Query.DateValue
import CursorPaging.Proofs.Text.Words
import CursorPaging.Proofs.CommandLine.Language
import CursorPaging.Proofs.Session.Override
import CursorPaging.Proofs.Paging.Simulation
import CursorPaging.Proofs.Session.Simulation
import CursorPaging.Proofs.Http.Credentials
import CursorPaging.Proofs.Session.Secrecy
import CursorPaging.Proofs.Json.Text
import CursorPaging.Proofs.Json.Schema
import CursorPaging.Proofs.Json.Payload
