import Reroll.Canonical.Template
import Reroll.Canonical.Text
import Reroll.Catalog.Basic
import Reroll.Catalog.Family
import Reroll.Catalog.Source
import Reroll.Command.Argument
import Reroll.Command.Reader
import Reroll.Command.Run
import Reroll.Decimal.Binary
import Reroll.Decimal.Read
import Reroll.Decimal.Shortest
import Reroll.Decimal.Written
import Reroll.Document.Compare
import Reroll.Document.Convert
import Reroll.Document.Members
import Reroll.Document.Report
import Reroll.Document.Shape
import Reroll.Document.Shown
import Reroll.Document.Value
import Reroll.Files.Path
import Reroll.Files.Tree
import Reroll.Graph.Basic
import Reroll.Graph.Reader
import Reroll.Graph.Validity
import Reroll.Http.Coding
import Reroll.Http.Exchange
import Reroll.Http.Host
import Reroll.Http.Inflate
import Reroll.Http.Label
import Reroll.Http.Label.Accent
import Reroll.Http.Label.Composed
import Reroll.Http.Label.Direction
import Reroll.Http.Label.Joining
import Reroll.Http.Label.Letter
import Reroll.Http.Label.Script
import Reroll.Http.Percent
import Reroll.Http.Punycode
import Reroll.Http.Redirect
import Reroll.Http.Url
import Reroll.Image.Basic
import Reroll.Image.Pixmap
import Reroll.Image.Scale
import Reroll.Image.Tone
import Reroll.Image.Tooltip
import Reroll.Json.Encoding
import Reroll.Json.Reader
import Reroll.Json.Writer
import Reroll.Line.Basic
import Reroll.Line.Filter
import Reroll.Line.Gather
import Reroll.Log
import Reroll.Log.Naming
import Reroll.Log.Rotation
import Reroll.Log.Setup
import Reroll.Main
import Reroll.Modifier.Exclusion
import Reroll.Modifier.Match
import Reroll.Modifier.Reader
import Reroll.Modifier.Spec
import Reroll.Modifier.Template
import Reroll.Number
import Reroll.Plan.Basic
import Reroll.Plan.Reader
import Reroll.Plan.Shelf
import Reroll.Plan.Source
import Reroll.Proofs.Run.Effect
import Reroll.Ranking.Merge
import Reroll.Ranking.Run
import Reroll.Run.Clock
import Reroll.Run.Crafter
import Reroll.Run.Delay
import Reroll.Run.Device
import Reroll.Run.Event
import Reroll.Run.Loop
import Reroll.Run.Pool
import Reroll.Run.Rehearsal
import Reroll.Run.Scene
import Reroll.Run.State
import Reroll.Run.Step
import Reroll.Run.Traversal
import Reroll.Screen
import Reroll.Settings.Basic
import Reroll.Settings.EnvFile
import Reroll.Settings.Field
import Reroll.Settings.Reader
import Reroll.Text.Digit
import Reroll.Text.Lower
import Reroll.Text.Mark
import Reroll.Text.Printable
import Reroll.Text.Quoted
import Reroll.Text.Ranges
import Reroll.Text.Search
import Reroll.Text.Space
import Reroll.Text.Word
import Reroll.Yaml.Content
import Reroll.Yaml.Cursor
import Reroll.Yaml.Node
import Reroll.Yaml.Number
import Reroll.Yaml.Reader
import Reroll.Yaml.Scalar
import Reroll.Yaml.Tag
import Reroll.Yaml.Timestamp
import Reroll.Yaml.Token
import Reroll.Proofs.Run.Frame
import Reroll.Proofs.Run.Rule
import Reroll.Proofs.Run.Key
import Reroll.Proofs.Run.KeyCalls
import Reroll.Proofs.Graph.Interpreter
import Reroll.Proofs.Run.Way
import Reroll.Proofs.Line.Gather
import Reroll.Proofs.Line.Order
import Reroll.Proofs.Modifier.Match
import Reroll.Proofs.Modifier.Best
import Reroll.Proofs.Document.Convert
import Reroll.Proofs.Document.Report
import Reroll.Proofs.Document.Spelling
import Reroll.Proofs.Graph.Fault
import Reroll.Proofs.Plan.Fault
import Reroll.Proofs.Run.Sighting
import Reroll.Proofs.Run.Finding
import Reroll.Proofs.Run.Course
import Reroll.Proofs.Run.Ending
import Reroll.Proofs.Run.Stop
import Reroll.Proofs.Run.Use
import Reroll.Proofs.Run.Count
import Reroll.Proofs.Run.Streak
import Reroll.Proofs.Text.Blank
import Reroll.Proofs.Text.Fill
import Reroll.Proofs.Canonical.Fold
import Reroll.Proofs.Canonical.Normal
import Reroll.Proofs.Canonical.Template
import Reroll.Proofs.Canonical.Placeholder
import Reroll.Proofs.Graph.Reach
import Reroll.Proofs.Graph.Sound
import Reroll.Proofs.Graph.Entry
import Reroll.Proofs.Plan.Entry
import Reroll.Proofs.Files.Tree
import Reroll.Proofs.Files.Place
import Reroll.Proofs.Plan.Shelf
import Reroll.Proofs.Plan.History
import Reroll.Proofs.Http.Exchange
import Reroll.Proofs.Catalog.Fault
import Reroll.Proofs.Run.Twin
import Reroll.Proofs.Run.Listener
import Reroll.Proofs.Run.Isolation
import Reroll.Proofs.Plan.Export
import Reroll.Proofs.Catalog.Family
import Reroll.Proofs.Json.Lines
import Reroll.Proofs.Catalog.Saved
import Reroll.Proofs.Modifier.Instance
import Reroll.Proofs.Modifier.Figure
import Reroll.Proofs.Run.Strand
import Reroll.Proofs.Run.Roster
import Reroll.Proofs.Run.Exclusion
import Reroll.Proofs.Run.Trail
import Reroll.Proofs.Run.Delay
import Reroll.Proofs.Text.Words
import Reroll.Proofs.Text.Between
import Reroll.Proofs.Canonical.Refold
import Reroll.Proofs.Canonical.SingleFold
import Reroll.Proofs.Modifier.Plain
import Reroll.Proofs.Modifier.Scope
import Reroll.Proofs.Modifier.Pattern
import Reroll.Proofs.Modifier.Amount
import Reroll.Proofs.Catalog.Instance
import Reroll.Proofs.Line.Known
import Reroll.Proofs.Line.Regather
import Reroll.Proofs.Line.Restriction
import Reroll.Proofs.Run.Refusal
import Reroll.Proofs.Run.Outcome
import Reroll.Proofs.Modifier.Search
import Reroll.Proofs.Decimal.Whole
import Reroll.Proofs.Modifier.Bound
import Reroll.Proofs.Run.Signal
