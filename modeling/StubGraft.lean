import StubGraft.Command.Basic
import StubGraft.Command.Footprint
import StubGraft.Command.Options
import StubGraft.Decimal.Binary64
import StubGraft.Decimal.DigitLimit
import StubGraft.Decimal.Shortest
import StubGraft.Disk.Action
import StubGraft.Disk.Basic
import StubGraft.Disk.Error
import StubGraft.Disk.Files
import StubGraft.Error
import StubGraft.Event
import StubGraft.Main
import StubGraft.Merge.Basic
import StubGraft.Merge.Render
import StubGraft.Path.Basic
import StubGraft.Pattern.Basic
import StubGraft.Pattern.Compile
import StubGraft.Pattern.Error
import StubGraft.Pattern.Matcher
import StubGraft.Pattern.Reading
import StubGraft.Run.Naming
import StubGraft.Run.Record
import StubGraft.Run.Regenerator
import StubGraft.Run.Stage
import StubGraft.Run.Tool
import StubGraft.Run.World
import StubGraft.Run.Writer
import StubGraft.Settings.Basic
import StubGraft.Settings.Environment
import StubGraft.Settings.Load
import StubGraft.Settings.Profile
import StubGraft.Text.Basic
import StubGraft.Text.Blank
import StubGraft.Text.LetterCase
import StubGraft.Text.Lines
import StubGraft.Text.Points
import StubGraft.Text.Printable
import StubGraft.Text.Quoted
import StubGraft.Text.Ranges
import StubGraft.Text.Utf8
import StubGraft.Text.Word
import StubGraft.Value.Basic
import StubGraft.Value.Display
import StubGraft.Value.Reader
import StubGraft.Visitor.Braces
import StubGraft.Visitor.Convention
import StubGraft.Visitor.Model
import StubGraft.Visitor.Scan
import StubGraft.Visitor.StubTable
import StubGraft.Proofs.Results
import StubGraft.Proofs.Texts
import StubGraft.Proofs.Braces
import StubGraft.Proofs.Segments
import StubGraft.Proofs.Layout
import StubGraft.Proofs.Rendering
import StubGraft.Proofs.Grafting
import StubGraft.Proofs.Imports
import StubGraft.Proofs.Remerging
import StubGraft.Proofs.Balance
import StubGraft.Proofs.Insertion
import StubGraft.Proofs.Accounting
import StubGraft.Proofs.Extensionality
import StubGraft.Proofs.Regenerations
import StubGraft.Proofs.Actions
import StubGraft.Proofs.Disks
import StubGraft.Proofs.Recovery
import StubGraft.Proofs.Shapes
import StubGraft.Proofs.Folders
import StubGraft.Proofs.Edits
import StubGraft.Proofs.Returns
import StubGraft.Proofs.Repetition
import StubGraft.Proofs.Equivalence
import StubGraft.Proofs.Courses
import StubGraft.Proofs.Histories
import StubGraft.Proofs.Failures
import StubGraft.Proofs.Safekeeping
import StubGraft.Proofs.Representation
import StubGraft.Proofs.Outside
import StubGraft.Proofs.Completeness
import StubGraft.Proofs.Placement
import StubGraft.Proofs.MergedFiles
import StubGraft.Proofs.Survival
import StubGraft.Proofs.Flaws
import StubGraft.Proofs.Escapes
import StubGraft.Proofs.Summaries
import StubGraft.Proofs.Concatenation
import StubGraft.Proofs.WholeWrites
import StubGraft.Proofs.Languages
import StubGraft.Proofs.Declarations
import StubGraft.Proofs.SettingsObjects
import StubGraft.Proofs.VisitorNames
import StubGraft.Proofs.ClosingLines
import StubGraft.Proofs.Rounds
