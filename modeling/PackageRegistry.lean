import PackageRegistry.Account
import PackageRegistry.Arguments.Parser
import PackageRegistry.Arguments.Token
import PackageRegistry.Browse
import PackageRegistry.Client
import PackageRegistry.Disk
import PackageRegistry.Display
import PackageRegistry.Filter
import PackageRegistry.Http.Exchange
import PackageRegistry.Http.Header
import PackageRegistry.Http.Status
import PackageRegistry.Json.Decode
import PackageRegistry.Json.Literal
import PackageRegistry.Json.Printer
import PackageRegistry.Json.Raw
import PackageRegistry.Json.Reader
import PackageRegistry.Json.Schema
import PackageRegistry.Json.Value
import PackageRegistry.Keyed
import PackageRegistry.Listing
import PackageRegistry.Login
import PackageRegistry.Main
import PackageRegistry.Numeric.Binary64
import PackageRegistry.Numeric.Decimal
import PackageRegistry.Package
import PackageRegistry.Program
import PackageRegistry.Proofs.Disk
import PackageRegistry.Proofs.Disk.Likeness
import PackageRegistry.Proofs.Disk.Whole
import PackageRegistry.Proofs.Json.Meaning
import PackageRegistry.Proofs.Json.RoundTrip
import PackageRegistry.Proofs.Keyed
import PackageRegistry.Proofs.Login
import PackageRegistry.Proofs.Program.Changes
import PackageRegistry.Proofs.Program.Discretion
import PackageRegistry.Proofs.Program.Histories
import PackageRegistry.Proofs.Search.Causes
import PackageRegistry.Proofs.Search.Debounce
import PackageRegistry.Proofs.Search.Delivery
import PackageRegistry.Proofs.Search.Effects
import PackageRegistry.Proofs.Search.Moves
import PackageRegistry.Proofs.Search.Timing
import PackageRegistry.Proofs.Search.Updates
import PackageRegistry.Proofs.Store
import PackageRegistry.Proofs.Text.Utf8
import PackageRegistry.Publication
import PackageRegistry.Search.Run
import PackageRegistry.Search.Session
import PackageRegistry.Settings
import PackageRegistry.Store
import PackageRegistry.Text.Base64
import PackageRegistry.Text.Blank
import PackageRegistry.Text.Hexadecimal
import PackageRegistry.Text.Hidden
import PackageRegistry.Text.Quoted
import PackageRegistry.Text.Utf8
import PackageRegistry.Time.Date
import PackageRegistry.Time.Rfc3339
import PackageRegistry.Toml.Document
import PackageRegistry.Toml.Literal
import PackageRegistry.Toml.Tree
import PackageRegistry.Toml.Value
import PackageRegistry.Unicode.CombiningClass
import PackageRegistry.Unicode.Composition
import PackageRegistry.Unicode.Decomposition
import PackageRegistry.Unicode.Run
import PackageRegistry.Unicode.Shape
import PackageRegistry.Url.Address
import PackageRegistry.Url.Basic
import PackageRegistry.Url.Domain
import PackageRegistry.Url.Domain.Direction
import PackageRegistry.Url.Domain.Joining
import PackageRegistry.Url.Domain.Mapping
import PackageRegistry.Url.Form
import PackageRegistry.Url.Login
import PackageRegistry.Url.Parser
import PackageRegistry.Url.Percent
import PackageRegistry.Url.Punycode
import PackageRegistry.Vocabulary
import PackageRegistry.Proofs.Json.Records
import PackageRegistry.Proofs.Package
import PackageRegistry.Proofs.Listing
import PackageRegistry.Proofs.Program.Output
import PackageRegistry.Proofs.Store.Refinement
import PackageRegistry.Proofs.Publication
import PackageRegistry.Proofs.Filter.Patches
import PackageRegistry.Proofs.Text.Blank
import PackageRegistry.Proofs.Filter.Payload
import PackageRegistry.Proofs.Search.Typing
import PackageRegistry.Proofs.Search.Views
import PackageRegistry.Proofs.Search.Halts
import PackageRegistry.Proofs.Program.Browsing
import PackageRegistry.Proofs.Url.Form
import PackageRegistry.Proofs.Url.Query
import PackageRegistry.Proofs.Login.Callback
import PackageRegistry.Proofs.Text.Pieces
import PackageRegistry.Proofs.Login.Authorization
import PackageRegistry.Proofs.Publication.Validation
import PackageRegistry.Proofs.Client.Operations
import PackageRegistry.Proofs.Program.Lookup
import PackageRegistry.Proofs.Client.Credentials
import PackageRegistry.Proofs.Program.Credentials
import PackageRegistry.Proofs.Json.Fields
import PackageRegistry.Proofs.Listing.Entries
import PackageRegistry.Proofs.Unicode.Composition
import PackageRegistry.Proofs.Url.Domain
import PackageRegistry.Proofs.Url.Extension
import PackageRegistry.Proofs.Client.Endpoint
import PackageRegistry.Proofs.Browse
import PackageRegistry.Proofs.Filter.Toggles
import PackageRegistry.Proofs.Messages
import PackageRegistry.Proofs.Settings.Layers
import PackageRegistry.Proofs.Settings.Variables
import PackageRegistry.Proofs.Settings
import PackageRegistry.Proofs.Numeric.Rounding
import PackageRegistry.Proofs.Display.Counters
import PackageRegistry.Proofs.Display.Units
import PackageRegistry.Proofs.Display.Table
import PackageRegistry.Proofs.Time.Calendar
import PackageRegistry.Proofs.Time.Rfc3339
import PackageRegistry.Proofs.Display.Updates
import PackageRegistry.Proofs.Settings.Texts
