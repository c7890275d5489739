import BoundedFormat.Text.NulTerminated
import BoundedFormat.Text.AsciiCase
import BoundedFormat.Text.Blank
import BoundedFormat.Text.Quoted
import BoundedFormat.Numeral.FixedPoint
import BoundedFormat.Template.Segment
import BoundedFormat.Argument.Promotion
import BoundedFormat.Argument.Cursor
import BoundedFormat.Output.Emission
import BoundedFormat.Format
import BoundedFormat.Check.Basic
import BoundedFormat.Check.Demand
import BoundedFormat.Host.Console
import BoundedFormat.Boot.Config
import BoundedFormat.Selftest.Assertion
import BoundedFormat.Selftest.Runner
import BoundedFormat.Session
import BoundedFormat.Proofs.Format.Truncation
import BoundedFormat.Proofs.Check.Agreement
import BoundedFormat.Proofs.Format.Concatenation
import BoundedFormat.Proofs.Plan.Integer
import BoundedFormat.Proofs.Template.Grammar
import BoundedFormat.Proofs.Template.Tiling
import BoundedFormat.Proofs.Plan.Alignment
import BoundedFormat.Proofs.Format.Owned
import BoundedFormat.Proofs.Plan.FixedPoint
import BoundedFormat.Proofs.Host.Independence
import BoundedFormat.Proofs.Host.Console
import BoundedFormat.Proofs.Selftest.Run
import BoundedFormat.Proofs.Output.Fields
import BoundedFormat.Proofs.Format.Counting
import BoundedFormat.Proofs.Template.Rebuilding
import BoundedFormat.Proofs.Template.WrittenOut
import BoundedFormat.Proofs.Format.LiteralStars
import BoundedFormat.Proofs.Boot.Level
import BoundedFormat.Proofs.Host.Calls
import BoundedFormat.Proofs.Selftest.Calls
import BoundedFormat.Proofs.Session.Settings
import BoundedFormat.Proofs.Check.FirstUnmet
import BoundedFormat.Proofs.Plan.Pointer
import BoundedFormat.Proofs.Host.HexLine
import BoundedFormat.Proofs.Plan.Text
import BoundedFormat.Proofs.Format.NulBytes
import BoundedFormat.Proofs.Format.Escaping
import BoundedFormat.Proofs.Format.IdleFlags
import BoundedFormat.Proofs.Check.Letters
import BoundedFormat.Proofs.Boot.Malformed
import BoundedFormat.Proofs.Boot.LastAsked
import BoundedFormat.Proofs.Selftest.Tally
import BoundedFormat.Proofs.Numeral.WordCells
import BoundedFormat.Proofs.Numeral.FixedPointCells
import BoundedFormat.Proofs.Output.Emissions
import BoundedFormat.Proofs.Numeral.BoundedLists
