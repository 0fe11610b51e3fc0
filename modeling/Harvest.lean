import Harvest.Base64
import Harvest.Binary64
import Harvest.Calendar.Format
import Harvest.Calendar.Moment
import Harvest.Calendar.Reader
import Harvest.Calendar.Writer
import Harvest.CommandLine
import Harvest.Decimal.Reader
import Harvest.Decimal.Shortest
import Harvest.Description.Config
import Harvest.Description.Identity
import Harvest.Description.Problem
import Harvest.Description.Reader
import Harvest.Description.Record
import Harvest.Description.Rule
import Harvest.Description.Writer
import Harvest.Failure
import Harvest.Json.Basic
import Harvest.Json.Printer
import Harvest.Json.Reader
import Harvest.Json.View
import Harvest.Ledger
import Harvest.Main
import Harvest.Markup.Builder
import Harvest.Markup.Document
import Harvest.Markup.Insertion
import Harvest.Markup.Reference
import Harvest.Markup.Token
import Harvest.Markup.Writer
import Harvest.Page.Call
import Harvest.Page.Document
import Harvest.Page.Script
import Harvest.Page.State
import Harvest.Pattern.Basic
import Harvest.Pattern.Expression
import Harvest.Pattern.Program
import Harvest.Pattern.Property
import Harvest.Pattern.Reader
import Harvest.Pattern.Search
import Harvest.Pattern.Template
import Harvest.Proofs.Decimal.Count
import Harvest.Proofs.Decimal.Exact
import Harvest.Proofs.Decimal.Rounding
import Harvest.Proofs.Description.ConfigRoundTrip
import Harvest.Proofs.Json.Written
import Harvest.Proofs.Markup.Inside
import Harvest.Proofs.Page.Freshness
import Harvest.Proofs.Page.Hiding
import Harvest.Proofs.Page.InVain
import Harvest.Proofs.Page.LastWrite
import Harvest.Proofs.Page.Script
import Harvest.Proofs.Page.WayBack
import Harvest.Proofs.Pattern.Bounds
import Harvest.Proofs.Rule.Elision
import Harvest.Proofs.Rule.Inside
import Harvest.Proofs.Rule.Nesting
import Harvest.Proofs.Rule.Outline
import Harvest.Proofs.Rule.Path
import Harvest.Proofs.Rule.Performing
import Harvest.Proofs.Rule.Scope
import Harvest.Proofs.Rule.Way
import Harvest.Proofs.Run.Accumulate
import Harvest.Proofs.Run.Alone
import Harvest.Proofs.Run.Announced
import Harvest.Proofs.Run.Answered
import Harvest.Proofs.Run.AtOnce
import Harvest.Proofs.Run.Blind
import Harvest.Proofs.Run.CaseRace
import Harvest.Proofs.Run.CaseRun
import Harvest.Proofs.Run.Channel
import Harvest.Proofs.Run.Classified
import Harvest.Proofs.Run.Composition
import Harvest.Proofs.Run.Course
import Harvest.Proofs.Run.Crowd
import Harvest.Proofs.Run.Elision
import Harvest.Proofs.Run.Frame
import Harvest.Proofs.Run.GridRows
import Harvest.Proofs.Run.History
import Harvest.Proofs.Run.Idle
import Harvest.Proofs.Run.Mirror
import Harvest.Proofs.Run.NextLinks
import Harvest.Proofs.Run.Once
import Harvest.Proofs.Run.Pace
import Harvest.Proofs.Run.PageCount
import Harvest.Proofs.Run.Passage
import Harvest.Proofs.Run.Poll
import Harvest.Proofs.Run.Provenance
import Harvest.Proofs.Run.Recorded
import Harvest.Proofs.Run.Reflection
import Harvest.Proofs.Run.Requests
import Harvest.Proofs.Run.RowFailure
import Harvest.Proofs.Run.Scroll
import Harvest.Proofs.Run.Settle
import Harvest.Proofs.Run.Shape
import Harvest.Proofs.Run.Siblings
import Harvest.Proofs.Run.Stages
import Harvest.Proofs.Run.Still
import Harvest.Proofs.Run.Stored
import Harvest.Proofs.Run.Subscription
import Harvest.Proofs.Run.TearDown
import Harvest.Proofs.Run.Tour
import Harvest.Proofs.Run.Trail
import Harvest.Proofs.Run.Untouched
import Harvest.Proofs.Selector.Alternatives
import Harvest.Proofs.Selector.Compounds
import Harvest.Proofs.Selector.Fuel
import Harvest.Proofs.Selector.Joint
import Harvest.Proofs.Selector.Leftmost
import Harvest.Proofs.Selector.Names
import Harvest.Proofs.Selector.Nesting
import Harvest.Proofs.Selector.Pieces
import Harvest.Proofs.Selector.Route
import Harvest.Proofs.Selector.Selection
import Harvest.Proofs.Selector.Steady
import Harvest.Proofs.Selector.Walk
import Harvest.Proofs.Text.Occurrence
import Harvest.Proofs.Text.Trim
import Harvest.Proofs.Text.Utf8
import Harvest.Proofs.Transform.Cast
import Harvest.Proofs.Transform.Footprint
import Harvest.Proofs.Transform.Modes
import Harvest.Proofs.Transform.Order
import Harvest.Proofs.Transform.Path
import Harvest.Proofs.Transform.RoundTrip
import Harvest.Proofs.Transform.Substitution
import Harvest.Proofs.Uri.Percent
import Harvest.Registry
import Harvest.Rule.Kind
import Harvest.Rule.Scope
import Harvest.Run.Action
import Harvest.Run.Channel
import Harvest.Run.Evaluate
import Harvest.Run.Extension
import Harvest.Run.Job
import Harvest.Run.Parse
import Harvest.Run.Race
import Harvest.Run.Rehearsal
import Harvest.Run.Scoped
import Harvest.Run.Session
import Harvest.Run.Stage
import Harvest.Run.Wait
import Harvest.Run.World
import Harvest.Selector.Basic
import Harvest.Selector.Positional
import Harvest.Selector.Reader
import Harvest.Storage
import Harvest.Text.Blank
import Harvest.Text.CaseFold
import Harvest.Text.Category
import Harvest.Text.CodeRanges
import Harvest.Text.LetterCase
import Harvest.Text.Occurrence
import Harvest.Text.Offset
import Harvest.Text.Quoted
import Harvest.Text.Utf8
import Harvest.Transform.Chain
import Harvest.Transform.Coding
import Harvest.Transform.Comparison
import Harvest.Transform.Extension
import Harvest.Transform.Matching
import Harvest.Transform.Shape
import Harvest.Transform.Step
import Harvest.Transform.Text
import Harvest.Uri.Basic
import Harvest.Uri.Host
import Harvest.Uri.Percent
