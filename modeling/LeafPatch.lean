import LeafPatch.CommandLine.Arguments
import LeafPatch.CommandLine.Run
import LeafPatch.Corpus
import LeafPatch.Decimal.Layout
import LeafPatch.Decimal.Shortest
import LeafPatch.Decoding.Basic
import LeafPatch.Decoding.Options
import LeafPatch.Decoding.Patch
import LeafPatch.Document.Basic
import LeafPatch.Document.Collection
import LeafPatch.Document.Error
import LeafPatch.Document.Json
import LeafPatch.Document.Reader
import LeafPatch.Document.Yaml
import LeafPatch.Json.Basic
import LeafPatch.Json.Indented
import LeafPatch.Json.Numeral
import LeafPatch.Json.Printer
import LeafPatch.Json.Reader
import LeafPatch.Json.Token
import LeafPatch.Keyed
import LeafPatch.Main
import LeafPatch.Number.Basic
import LeafPatch.Number.Rounding
import LeafPatch.Number.Width
import LeafPatch.Options
import LeafPatch.Patch.Basic
import LeafPatch.Patch.Change
import LeafPatch.Patch.Draft
import LeafPatch.Patch.Status
import LeafPatch.Patch.Text
import LeafPatch.Pointer
import LeafPatch.Proofs.Attempt
import LeafPatch.Proofs.CommandLine.Run
import LeafPatch.Proofs.Decoding.Options
import LeafPatch.Proofs.Decoding.Patch
import LeafPatch.Proofs.Document.Aligned
import LeafPatch.Proofs.Document.Collection
import LeafPatch.Proofs.Document.Counting
import LeafPatch.Proofs.Document.Dates
import LeafPatch.Proofs.Document.Equality
import LeafPatch.Proofs.Document.Leaves
import LeafPatch.Proofs.Document.Place
import LeafPatch.Proofs.Document.Ranking
import LeafPatch.Proofs.Document.Reading
import LeafPatch.Proofs.Document.Rereading
import LeafPatch.Proofs.Document.Restorable
import LeafPatch.Proofs.Document.SameValue
import LeafPatch.Proofs.Document.Similar
import LeafPatch.Proofs.Document.Unrecognized
import LeafPatch.Proofs.Document.Yaml
import LeafPatch.Proofs.Json.Canonical
import LeafPatch.Proofs.Json.Numeral
import LeafPatch.Proofs.Json.Reading
import LeafPatch.Proofs.Json.SameValue
import LeafPatch.Proofs.Json.Token
import LeafPatch.Proofs.JsonPatch.Application
import LeafPatch.Proofs.JsonPatch.Basic
import LeafPatch.Proofs.JsonPatch.Changes
import LeafPatch.Proofs.JsonPatch.Children
import LeafPatch.Proofs.JsonPatch.Container
import LeafPatch.Proofs.Keyed
import LeafPatch.Proofs.Number.Exact
import LeafPatch.Proofs.Number.Word
import LeafPatch.Proofs.Options
import LeafPatch.Proofs.Patch.Blocked
import LeafPatch.Proofs.Patch.Clean
import LeafPatch.Proofs.Patch.Detection
import LeafPatch.Proofs.Patch.Exactness
import LeafPatch.Proofs.Patch.LeafStore
import LeafPatch.Proofs.Patch.Lines
import LeafPatch.Proofs.Patch.Order
import LeafPatch.Proofs.Patch.Pointers
import LeafPatch.Proofs.Patch.Rearrangement
import LeafPatch.Proofs.Patch.Recording
import LeafPatch.Proofs.Patch.Reversal
import LeafPatch.Proofs.Patch.Rooted
import LeafPatch.Proofs.Patch.SameValue
import LeafPatch.Proofs.Patch.Severity
import LeafPatch.Proofs.Patch.Soundness
import LeafPatch.Proofs.Patch.Walk
import LeafPatch.Proofs.Pointer.Decoding
import LeafPatch.Proofs.Service.Calls
import LeafPatch.Proofs.Service.DriverProperty
import LeafPatch.Proofs.Service.Edit
import LeafPatch.Proofs.Service.Enrollment
import LeafPatch.Proofs.Service.Overlay
import LeafPatch.Proofs.Service.Unchanged
import LeafPatch.Proofs.Timestamp.RoundTrip
import LeafPatch.Proofs.Yaml.Parts
import LeafPatch.Service.DriverProperty
import LeafPatch.Service.Edit
import LeafPatch.Service.Enrollment
import LeafPatch.Service.Identity
import LeafPatch.Service.Session
import LeafPatch.Text.Quoted
import LeafPatch.Text.Unprintable
import LeafPatch.Timestamp.Basic
import LeafPatch.Timestamp.Date
import LeafPatch.Timestamp.Text
import LeafPatch.Yaml.Basic
import LeafPatch.Yaml.Cursor
import LeafPatch.Yaml.Description
import LeafPatch.Yaml.Node
import LeafPatch.Yaml.Plain
import LeafPatch.Yaml.Reader
import LeafPatch.Yaml.Resolution
import LeafPatch.Yaml.Token.Basic
import LeafPatch.Yaml.Token.Folding
import LeafPatch.Yaml.Token.Lexer
import LeafPatch.Yaml.Token.Property
import LeafPatch.Yaml.Token.Scalar
