import Conformance.CommandLine.Arguments
import Conformance.CommandLine.Commands
import Conformance.CommandLine.Completion
import Conformance.CommandLine.Help
import Conformance.CommandLine.Program
import Conformance.CommandLine.Session
import Conformance.Config.Basic
import Conformance.Config.Check
import Conformance.Config.Encoding
import Conformance.Config.Environment
import Conformance.Config.Example
import Conformance.Config.File
import Conformance.Console.Report
import Conformance.Console.Style
import Conformance.Console.Table
import Conformance.Disk.Access
import Conformance.Disk.Basic
import Conformance.Disk.Path
import Conformance.Json.Binary64
import Conformance.Json.Decode
import Conformance.Json.Reader
import Conformance.Json.Shortest
import Conformance.Json.Syntax
import Conformance.Json.Value
import Conformance.Json.Writer
import Conformance.Log.Entry
import Conformance.Log.Filter
import Conformance.Log.Line
import Conformance.Main
import Conformance.Proofs.Json.Fields
import Conformance.Proofs.Json.Members
import Conformance.Proofs.Json.Shape
import Conformance.Proofs.Json.Sorted
import Conformance.Proofs.Outcome
import Conformance.Proofs.Reply.Agreement
import Conformance.Proofs.Reply.Faults
import Conformance.Proofs.Reply.Opening
import Conformance.Proofs.Reply.Recognition
import Conformance.Proofs.Reply.Reference
import Conformance.Protocol.Basic
import Conformance.Protocol.Route
import Conformance.Reply.Chat
import Conformance.Reply.Complaint
import Conformance.Reply.Envelope
import Conformance.Reply.Listing
import Conformance.Request.Address
import Conformance.Request.Basic
import Conformance.Request.Payload
import Conformance.Request.Redaction
import Conformance.Sweep.Case
import Conformance.Sweep.Plan
import Conformance.Sweep.Report
import Conformance.Sweep.Run
import Conformance.Sweep.Stamp
import Conformance.Text.Blank
import Conformance.Text.CodePoint
import Conformance.Text.Columns
import Conformance.Text.Composed
import Conformance.Text.Digit
import Conformance.Text.Direction
import Conformance.Text.Emoji
import Conformance.Text.Joining
import Conformance.Text.Mark
import Conformance.Text.Preview
import Conformance.Text.Printable
import Conformance.Text.Quoted
import Conformance.Text.Rest
import Conformance.Text.Split
import Conformance.Toml.Reader
import Conformance.Toml.Scalar
import Conformance.Toml.Table
import Conformance.Transport.Authorization
import Conformance.Transport.Charset
import Conformance.Transport.Exchange
import Conformance.Transport.Headers
import Conformance.Transport.Redirect
import Conformance.Transport.Socket
import Conformance.Transport.Wire
import Conformance.Url.Basic
import Conformance.Url.Credentials
import Conformance.Url.Domain
import Conformance.Url.Folding
import Conformance.Url.Form
import Conformance.Url.Ip
import Conformance.Url.Percent
import Conformance.Url.Punycode
import Conformance.Url.Reader
import Conformance.Url.Reference
import Conformance.Verdict.Basic
import Conformance.Proofs.Sweep.Judgement
import Conformance.Proofs.Sweep.Outline
import Conformance.Proofs.Sweep.Watched
import Conformance.Proofs.Sweep.Complete
import Conformance.Proofs.Text.Split
import Conformance.Proofs.Url.Percent
import Conformance.Proofs.Url.Form
import Conformance.Proofs.Url.Punycode
import Conformance.Proofs.Text.Ascii
import Conformance.Proofs.Text.Digit
import Conformance.Proofs.Url.Name
import Conformance.Proofs.Url.Ip
import Conformance.Proofs.Url.Host
import Conformance.Proofs.Url.Path
import Conformance.Proofs.Url.Pieces
import Conformance.Proofs.Url.Extend
import Conformance.Proofs.Url.Normal
import Conformance.Proofs.Config.Accepted
import Conformance.Proofs.Request.Address
import Conformance.Proofs.Request.Key
import Conformance.Proofs.Sweep.Alike
import Conformance.Proofs.Request.Delivery
import Conformance.Proofs.Request.Redirect
import Conformance.Proofs.Sweep.Origin
import Conformance.Proofs.Config.Naming
import Conformance.Proofs.Url.Segments
import Conformance.Proofs.Request.Routing
import Conformance.Proofs.Request.Masking
import Conformance.Proofs.Request.Redaction
import Conformance.Proofs.Sweep.Secrecy
import Conformance.Proofs.Sweep.Planned
import Conformance.Proofs.Sweep.Follow
import Conformance.Proofs.Config.Sources
import Conformance.Proofs.Json.Places
import Conformance.Proofs.Config.Layers
import Conformance.Proofs.CommandLine.ExitCode
import Conformance.Proofs.Url.Again
import Conformance.Proofs.Url.Length
import Conformance.Proofs.Url.Ideograph
import Conformance.Proofs.Sweep.Readable
import Conformance.Proofs.Reply.Opened
import Conformance.Proofs.Sweep.Selection
import Conformance.Proofs.Sweep.Labels
import Conformance.Proofs.Sweep.Strictness
import Conformance.Proofs.Json.Within
import Conformance.Proofs.Reply.Evidence
import Conformance.Proofs.Json.Wording
import Conformance.Proofs.Reply.Wording
import Conformance.Proofs.Console.Lines
import Conformance.Proofs.CommandLine.Printout
import Conformance.Proofs.Reply.Siblings
import Conformance.Proofs.Reply.Messages
import Conformance.Proofs.Console.Document
import Conformance.Proofs.Reply.Blocks
import Conformance.Proofs.Reply.Unanswered
import Conformance.Proofs.Reply.Preview
import Conformance.Proofs.Json.Takes
import Conformance.Proofs.Reply.Catalogue
import Conformance.Proofs.Request.Payload
import Conformance.Proofs.Pairs
import Conformance.Proofs.Request.Headers
import Conformance.Proofs.Sweep.Counts
import Conformance.Proofs.Console.Totals
import Conformance.Proofs.Config.Overlay
import Conformance.Proofs.Disk.Written
import Conformance.Proofs.CommandLine.Init
