import LinkHarvest.Command.Grammar
import LinkHarvest.Command.Invocation
import LinkHarvest.Command.Printed
import LinkHarvest.Command.Program
import LinkHarvest.Command.Screen
import LinkHarvest.Command.Shown
import LinkHarvest.Data.Display
import LinkHarvest.Data.Value
import LinkHarvest.Files.Path
import LinkHarvest.Files.Tree
import LinkHarvest.Http.Exchange
import LinkHarvest.Http.HostCharacter
import LinkHarvest.Http.HostName
import LinkHarvest.Http.RequestUrl
import LinkHarvest.Http.RouteTable
import LinkHarvest.Http.Status
import LinkHarvest.Json.Problem
import LinkHarvest.Json.Reader
import LinkHarvest.Json.Writer
import LinkHarvest.Link.Decoder
import LinkHarvest.Link.Field
import LinkHarvest.Link.Registry
import LinkHarvest.Link.Shadowsocks
import LinkHarvest.Link.Summary
import LinkHarvest.Link.Uri
import LinkHarvest.Link.Vmess
import LinkHarvest.Log.Event
import LinkHarvest.Log.Tail
import LinkHarvest.Main
import LinkHarvest.Number.Arithmetic
import LinkHarvest.Number.Binary64
import LinkHarvest.Number.Decimal
import LinkHarvest.Number.Integer
import LinkHarvest.Number.Shortest
import LinkHarvest.Options.Conversion
import LinkHarvest.Options.FetchOptions
import LinkHarvest.Options.GlobalConfig
import LinkHarvest.Options.Problem
import LinkHarvest.Project.Configuration
import LinkHarvest.Project.Document
import LinkHarvest.Retrieval.Body
import LinkHarvest.Retrieval.Dedup
import LinkHarvest.Retrieval.Fetcher
import LinkHarvest.Retrieval.Problem
import LinkHarvest.Retrieval.SourceUrl
import LinkHarvest.Retrieval.Workers
import LinkHarvest.Run.Export
import LinkHarvest.Run.Harvest
import LinkHarvest.Run.Outcome
import LinkHarvest.Run.Process
import LinkHarvest.Run.Source
import LinkHarvest.Store.Archive
import LinkHarvest.Store.Database
import LinkHarvest.Store.Problem
import LinkHarvest.Store.Record
import LinkHarvest.Store.Store
import LinkHarvest.Text.Base64
import LinkHarvest.Text.Basic
import LinkHarvest.Text.Blank
import LinkHarvest.Text.Case
import LinkHarvest.Text.CaseTable
import LinkHarvest.Text.CodePoint
import LinkHarvest.Text.Composition
import LinkHarvest.Text.CompositionTable
import LinkHarvest.Text.Digit
import LinkHarvest.Text.Lines
import LinkHarvest.Text.Percent
import LinkHarvest.Text.Printable
import LinkHarvest.Text.Punycode
import LinkHarvest.Text.Quoted
import LinkHarvest.Text.Utf8
import LinkHarvest.Time.Calendar
import LinkHarvest.Time.Instant
import LinkHarvest.Url.Ip
import LinkHarvest.Url.Query
import LinkHarvest.Url.Resolve
import LinkHarvest.Url.Split
import LinkHarvest.Yaml.Cursor
import LinkHarvest.Yaml.Document
import LinkHarvest.Yaml.Moment
import LinkHarvest.Yaml.Node
import LinkHarvest.Yaml.Problem
import LinkHarvest.Yaml.Scalar
import LinkHarvest.Yaml.Tag
import LinkHarvest.Yaml.Token
import LinkHarvest.Yaml.Tokens
import LinkHarvest.Yaml.Writer
import LinkHarvest.Proofs.Command.Defaults
import LinkHarvest.Proofs.Command.Desk
import LinkHarvest.Proofs.Command.Fetch
import LinkHarvest.Proofs.Data.Value
import LinkHarvest.Proofs.Fallible
import LinkHarvest.Proofs.Files.Path
import LinkHarvest.Proofs.Files.Tree
import LinkHarvest.Proofs.Json.Rendering
import LinkHarvest.Proofs.Json.Tokens
import LinkHarvest.Proofs.Link.Address
import LinkHarvest.Proofs.Link.Agreement
import LinkHarvest.Proofs.Link.Attributes
import LinkHarvest.Proofs.Link.Credential
import LinkHarvest.Proofs.Link.Dispatch
import LinkHarvest.Proofs.Link.Fields
import LinkHarvest.Proofs.Link.Record
import LinkHarvest.Proofs.Link.Registry
import LinkHarvest.Proofs.Link.Required
import LinkHarvest.Proofs.Link.Shadowsocks
import LinkHarvest.Proofs.Link.Surface
import LinkHarvest.Proofs.Link.Vmess
import LinkHarvest.Proofs.Log.Tail
import LinkHarvest.Proofs.Number.Numeral
import LinkHarvest.Proofs.Number.Padded
import LinkHarvest.Proofs.Options.FetchOptions
import LinkHarvest.Proofs.Options.GlobalConfig
import LinkHarvest.Proofs.Options.Settled
import LinkHarvest.Proofs.Options.ZeroId
import LinkHarvest.Proofs.Options.ZeroNumeral
import LinkHarvest.Proofs.Project.Configuration
import LinkHarvest.Proofs.Project.Document
import LinkHarvest.Proofs.Project.Repository
import LinkHarvest.Proofs.Retrieval.Clients
import LinkHarvest.Proofs.Retrieval.Ending
import LinkHarvest.Proofs.Retrieval.Firsts
import LinkHarvest.Proofs.Retrieval.Forms
import LinkHarvest.Proofs.Retrieval.Requests
import LinkHarvest.Proofs.Retrieval.Routes
import LinkHarvest.Proofs.Retrieval.Session
import LinkHarvest.Proofs.Retrieval.SourceUrl
import LinkHarvest.Proofs.Run.Accumulator
import LinkHarvest.Proofs.Run.Again
import LinkHarvest.Proofs.Run.Calls
import LinkHarvest.Proofs.Run.Containment
import LinkHarvest.Proofs.Run.Deeds
import LinkHarvest.Proofs.Run.Effect
import LinkHarvest.Proofs.Run.Export
import LinkHarvest.Proofs.Run.Failure
import LinkHarvest.Proofs.Run.FanOut
import LinkHarvest.Proofs.Run.Isolation
import LinkHarvest.Proofs.Run.Lineage
import LinkHarvest.Proofs.Run.Missing
import LinkHarvest.Proofs.Run.Orders
import LinkHarvest.Proofs.Run.Pool
import LinkHarvest.Proofs.Run.Requests
import LinkHarvest.Proofs.Run.Selection
import LinkHarvest.Proofs.Run.Singles
import LinkHarvest.Proofs.Run.Storable
import LinkHarvest.Proofs.Run.Timestamps
import LinkHarvest.Proofs.Run.Turns
import LinkHarvest.Proofs.Run.UrlFile
import LinkHarvest.Proofs.Run.Verdict
import LinkHarvest.Proofs.Run.Workers
import LinkHarvest.Proofs.Run.Written
import LinkHarvest.Proofs.Sorting
import LinkHarvest.Proofs.Store.Again
import LinkHarvest.Proofs.Store.Batch
import LinkHarvest.Proofs.Store.Bookkeeping
import LinkHarvest.Proofs.Store.Calls
import LinkHarvest.Proofs.Store.Changes
import LinkHarvest.Proofs.Store.Connection
import LinkHarvest.Proofs.Store.Failure
import LinkHarvest.Proofs.Store.Listing
import LinkHarvest.Proofs.Store.Numbers
import LinkHarvest.Proofs.Store.Orders
import LinkHarvest.Proofs.Store.Reachable
import LinkHarvest.Proofs.Store.Rows
import LinkHarvest.Proofs.Store.Sound
import LinkHarvest.Proofs.Store.Times
import LinkHarvest.Proofs.Text.Base64
import LinkHarvest.Proofs.Text.Case
import LinkHarvest.Proofs.Text.Cut
import LinkHarvest.Proofs.Text.Lines
import LinkHarvest.Proofs.Text.NonBlank
import LinkHarvest.Proofs.Text.Payload
import LinkHarvest.Proofs.Text.Percent
import LinkHarvest.Proofs.Text.Skimmed
import LinkHarvest.Proofs.Text.Trim
import LinkHarvest.Proofs.Text.Unescape
import LinkHarvest.Proofs.Text.UpperCase
import LinkHarvest.Proofs.Text.Utf8
import LinkHarvest.Proofs.Text.Visible
import LinkHarvest.Proofs.Time.Calendar
import LinkHarvest.Proofs.Time.Instant
import LinkHarvest.Proofs.Time.Written
import LinkHarvest.Proofs.Url.Address
import LinkHarvest.Proofs.Url.Ip
import LinkHarvest.Proofs.Url.Query
import LinkHarvest.Proofs.Url.Split
import LinkHarvest.Proofs.Yaml.Page
