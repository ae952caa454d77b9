import Narrative.Cast.Persona
import Narrative.Cast.Speaker
import Narrative.Command.Help
import Narrative.Command.Request
import Narrative.Command.Similarity
import Narrative.Command.Vocabulary
import Narrative.Data.Json
import Narrative.Data.Toml.Document
import Narrative.Data.Toml.Quoted
import Narrative.Data.Toml.Scalar
import Narrative.Data.Toml.Table
import Narrative.Data.Value
import Narrative.Device
import Narrative.Enumerated
import Narrative.Main
import Narrative.Menu.Affordances
import Narrative.Menu.Basic
import Narrative.Menu.Choice
import Narrative.Menu.Preferences
import Narrative.Menu.Rebuff
import Narrative.Menu.Session
import Narrative.Menu.Style
import Narrative.Menu.Terminal
import Narrative.Number.Dyadic
import Narrative.Number.Integer
import Narrative.Play.Call
import Narrative.Play.Cursor
import Narrative.Play.Duration
import Narrative.Play.Fault
import Narrative.Play.Gate
import Narrative.Play.Generator
import Narrative.Play.Perform
import Narrative.Play.Run
import Narrative.Play.Settings
import Narrative.Play.Through
import Narrative.Proofs.Command.Canonical
import Narrative.Proofs.Command.Numerals
import Narrative.Proofs.Menu.Counting
import Narrative.Proofs.Menu.Decision
import Narrative.Proofs.Menu.Declarations
import Narrative.Proofs.Menu.Failure
import Narrative.Proofs.Menu.Lifetime
import Narrative.Proofs.Menu.Numbering
import Narrative.Proofs.Menu.Picks
import Narrative.Proofs.Menu.Placeholders
import Narrative.Proofs.Menu.Session
import Narrative.Proofs.Menu.Stateless
import Narrative.Proofs.Menu.Synonyms
import Narrative.Proofs.Menu.Unlocking
import Narrative.Proofs.Play.Bounds
import Narrative.Proofs.Play.Branches
import Narrative.Proofs.Play.Control
import Narrative.Proofs.Play.Endings
import Narrative.Proofs.Play.History
import Narrative.Proofs.Play.Indifference
import Narrative.Proofs.Play.Invisibility
import Narrative.Proofs.Play.LineEnds
import Narrative.Proofs.Play.Onward
import Narrative.Proofs.Play.Patience
import Narrative.Proofs.Play.Presentation
import Narrative.Proofs.Play.Recovery
import Narrative.Proofs.Play.Recurrence
import Narrative.Proofs.Play.Resolution
import Narrative.Proofs.Play.Satisfiability
import Narrative.Proofs.Play.Slices
import Narrative.Proofs.Play.Soundness
import Narrative.Proofs.Play.Targets
import Narrative.Proofs.Play.Transparency
import Narrative.Proofs.Play.Unreferenced
import Narrative.Proofs.Play.Visits
import Narrative.Proofs.Play.Writes
import Narrative.Proofs.Script.Acceptance
import Narrative.Proofs.Script.Appending
import Narrative.Proofs.Script.Arguments
import Narrative.Proofs.Script.Bindings
import Narrative.Proofs.Script.Blocks
import Narrative.Proofs.Script.Composition
import Narrative.Proofs.Script.Consistency
import Narrative.Proofs.Script.Details
import Narrative.Proofs.Script.Directives
import Narrative.Proofs.Script.Gating
import Narrative.Proofs.Script.Grammar
import Narrative.Proofs.Script.Headings
import Narrative.Proofs.Script.Jumps
import Narrative.Proofs.Script.Labels
import Narrative.Proofs.Script.Layout
import Narrative.Proofs.Script.Lines
import Narrative.Proofs.Script.Passes
import Narrative.Proofs.Script.Places
import Narrative.Proofs.Script.Reordering
import Narrative.Proofs.Script.Splitting
import Narrative.Proofs.Script.Tokens
import Narrative.Proofs.Shell.Listing
import Narrative.Proofs.Text.Expansion
import Narrative.Proofs.Text.Fields
import Narrative.Proofs.Text.Lines
import Narrative.Proofs.Text.Lowercase
import Narrative.Proofs.Text.OneLine
import Narrative.Proofs.Text.Words
import Narrative.Script.Basic
import Narrative.Script.Check
import Narrative.Script.Conflict
import Narrative.Script.Defect
import Narrative.Script.Directive
import Narrative.Script.Labels
import Narrative.Script.Line
import Narrative.Script.Modifier
import Narrative.Script.Policy
import Narrative.Script.Report
import Narrative.Script.Snippet
import Narrative.Script.Span
import Narrative.Script.Token
import Narrative.Shell.Arguments
import Narrative.Shell.Chance
import Narrative.Shell.Console
import Narrative.Shell.FileTree
import Narrative.Shell.Grid
import Narrative.Shell.Library
import Narrative.Shell.Likeness
import Narrative.Shell.Path
import Narrative.Shell.Program
import Narrative.Shell.Settings
import Narrative.Story.Blade
import Narrative.Story.Condition
import Narrative.Story.Context
import Narrative.Story.Flag
import Narrative.Text.Alphanumeric
import Narrative.Text.Blank
import Narrative.Text.Break.Class
import Narrative.Text.Break.Place
import Narrative.Text.Break.Ranges
import Narrative.Text.Fields
import Narrative.Text.Glyph
import Narrative.Text.Lowercase
import Narrative.Text.Quoted
import Narrative.Text.Ranges
import Narrative.Text.Substitute
import Narrative.Text.Utf8
import Narrative.Text.Width
import Narrative.Text.Width.Follower
import Narrative.Text.Width.Picture
import Narrative.Text.Width.Unspaced
import Narrative.Text.Width.Wide
import Narrative.Text.Wrap
