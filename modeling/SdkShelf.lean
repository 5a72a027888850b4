import SdkShelf.Api.Endpoint
import SdkShelf.Api.Spec
import SdkShelf.Backend.Client
import SdkShelf.Backend.Message
import SdkShelf.Call.Outcome
import SdkShelf.Call.Path
import SdkShelf.Call.Request
import SdkShelf.Call.Transport
import SdkShelf.Catalog
import SdkShelf.CommandLine.Command
import SdkShelf.CommandLine.Level
import SdkShelf.CommandLine.Reader
import SdkShelf.Config
import SdkShelf.Decimal.Float
import SdkShelf.Decimal.Shortest
import SdkShelf.Dictionary
import SdkShelf.Disk.Node
import SdkShelf.Http.Client
import SdkShelf.Http.Method
import SdkShelf.Http.Network
import SdkShelf.Http.Redirect
import SdkShelf.Http.Status
import SdkShelf.Json.Basic
import SdkShelf.Json.Cursor
import SdkShelf.Json.Decode
import SdkShelf.Json.Error
import SdkShelf.Json.Literal
import SdkShelf.Json.Numeral
import SdkShelf.Json.Printer
import SdkShelf.Json.Reader
import SdkShelf.Json.Schema
import SdkShelf.Json.Tagged
import SdkShelf.Json.Tree
import SdkShelf.Main
import SdkShelf.Program
import SdkShelf.Project.Basic
import SdkShelf.Project.Shrink
import SdkShelf.Proofs.Dictionary
import SdkShelf.Session
import SdkShelf.Shelf
import SdkShelf.Store.Basic
import SdkShelf.Store.Directory
import SdkShelf.Store.Memory
import SdkShelf.Store.Scripted
import SdkShelf.Text.Base64
import SdkShelf.Text.Blank
import SdkShelf.Text.Canonical
import SdkShelf.Text.Canonical.Table
import SdkShelf.Text.Chain
import SdkShelf.Text.Hidden
import SdkShelf.Text.Quoted
import SdkShelf.Text.Table
import SdkShelf.Text.Utf8
import SdkShelf.Text.Word
import SdkShelf.Timestamp.Basic
import SdkShelf.Timestamp.Clock
import SdkShelf.Timestamp.Reader
import SdkShelf.Url.Basic
import SdkShelf.Url.Domain
import SdkShelf.Url.Domain.Direction
import SdkShelf.Url.Domain.Joiner
import SdkShelf.Url.Domain.Mapping
import SdkShelf.Url.Domain.MappingTable
import SdkShelf.Url.Form
import SdkShelf.Url.Host
import SdkShelf.Url.Join
import SdkShelf.Url.Parser
import SdkShelf.Url.Percent
import SdkShelf.Url.Punycode
import SdkShelf.Proofs.Json.Canonical
import SdkShelf.Proofs.Json.Literal
import SdkShelf.Proofs.Json.Numeral
import SdkShelf.Proofs.Json.Holds
import SdkShelf.Proofs.Json.Reader
import SdkShelf.Proofs.Json.Faithful
import SdkShelf.Proofs.Json.RoundTrip
import SdkShelf.Proofs.Timestamp
import SdkShelf.Proofs.Catalog.Calls
import SdkShelf.Proofs.Catalog.History
import SdkShelf.Proofs.Disk.Node
import SdkShelf.Proofs.Json.Quoted
import SdkShelf.Proofs.Shelf.Protocol
import SdkShelf.Proofs.Shelf.Texts
import SdkShelf.Proofs.Records
import SdkShelf.Proofs.Shelf.Values
import SdkShelf.Proofs.Store.Simulation
import SdkShelf.Proofs.Catalog.Survival
import SdkShelf.Proofs.Results
import SdkShelf.Proofs.Http.Client
import SdkShelf.Proofs.Call.Dispatch
import SdkShelf.Proofs.Disk.Frame
import SdkShelf.Proofs.Store.Placement
import SdkShelf.Proofs.Text.Word
import SdkShelf.Proofs.Catalog.Contents
import SdkShelf.Proofs.Store.Tidy
import SdkShelf.Proofs.Catalog.Directory
import SdkShelf.Proofs.Program.Path
import SdkShelf.Proofs.Program.Frame
import SdkShelf.Proofs.Program.Execution
import SdkShelf.Proofs.Program.Sequence
import SdkShelf.Proofs.Program.Agreement
import SdkShelf.Proofs.Store.Capacity
import SdkShelf.Proofs.Json.Size
import SdkShelf.Proofs.Shelf.Stability
import SdkShelf.Proofs.Json.Room
import SdkShelf.Proofs.Call.Path
import SdkShelf.Proofs.Call.Relay
import SdkShelf.Proofs.Call.Scan
import SdkShelf.Proofs.Call.Routing
import SdkShelf.Proofs.Json.Grammar
import SdkShelf.Proofs.Json.Written
import SdkShelf.Proofs.Call.Body
import SdkShelf.Proofs.Json.Double
import SdkShelf.Proofs.Json.Agreement
import SdkShelf.Proofs.Store.Residue
import SdkShelf.Proofs.Text.Utf8
import SdkShelf.Proofs.Url.Form
import SdkShelf.Proofs.Url.Text
import SdkShelf.Proofs.Url.Domain
import SdkShelf.Proofs.Call.Direct
import SdkShelf.Proofs.Json.Shape
import SdkShelf.Proofs.Json.Descent
import SdkShelf.Proofs.Json.Parts
import SdkShelf.Proofs.Json.Arrangement
import SdkShelf.Proofs.Json.Passed
import SdkShelf.Proofs.Project.Arrangement
import SdkShelf.Proofs.Backend.Rejection
import SdkShelf.Proofs.Call.Answer
import SdkShelf.Proofs.Shelf.Savings
import SdkShelf.Proofs.Config
import SdkShelf.Proofs.Store.Listing
import SdkShelf.Proofs.CommandLine.Level
import SdkShelf.Proofs.CommandLine.Params
import SdkShelf.Proofs.CommandLine.Execute
import SdkShelf.Proofs.Program.Params
import SdkShelf.Proofs.Text.Cells
import SdkShelf.Proofs.Catalog.Succession
import SdkShelf.Proofs.Program.Origins
import SdkShelf.Proofs.Project.Cells
import SdkShelf.Proofs.Program.Listing
