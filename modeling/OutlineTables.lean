import OutlineTables.Calendar
import OutlineTables.Command.Arguments
import OutlineTables.Command.Run
import OutlineTables.Disk.Basic
import OutlineTables.Disk.Path
import OutlineTables.Duration
import OutlineTables.Firsts
import OutlineTables.Layout.Columns
import OutlineTables.Layout.Grid
import OutlineTables.Layout.Listing
import OutlineTables.Layout.Wrap
import OutlineTables.Link
import OutlineTables.Logbook.Record
import OutlineTables.Logbook.Template
import OutlineTables.Main
import OutlineTables.Markup.Basic
import OutlineTables.Markup.Emoji
import OutlineTables.Markup.Literal
import OutlineTables.Markup.Style
import OutlineTables.Markup.Tag
import OutlineTables.Md5
import OutlineTables.Number.Binary64
import OutlineTables.Number.Scaled
import OutlineTables.Number.Shortest
import OutlineTables.Numeral
import OutlineTables.Options.Basic
import OutlineTables.Options.Reader
import OutlineTables.Outline.Basic
import OutlineTables.Outline.Data
import OutlineTables.Outline.Entry
import OutlineTables.Outline.Heading
import OutlineTables.Outline.Line
import OutlineTables.Outline.Reader
import OutlineTables.Outline.Section
import OutlineTables.Outline.Token
import OutlineTables.Proofs.Disk.Reading
import OutlineTables.Proofs.Disk.Trees
import OutlineTables.Proofs.Logbook.Legible
import OutlineTables.Proofs.Logbook.Positions
import OutlineTables.Proofs.Lookup
import OutlineTables.Proofs.Outline.Ancestors
import OutlineTables.Proofs.Outline.HeadingLines
import OutlineTables.Proofs.Outline.Parts
import OutlineTables.Proofs.Outline.Positions
import OutlineTables.Proofs.Rows.Closures
import OutlineTables.Proofs.Rows.Integrity
import OutlineTables.Proofs.Rows.Keys
import OutlineTables.Proofs.Rows.Legible
import OutlineTables.Proofs.Rows.Lists
import OutlineTables.Proofs.Rows.Moved
import OutlineTables.Proofs.Rows.Positions
import OutlineTables.Proofs.Rows.References
import OutlineTables.Proofs.Rows.Targets
import OutlineTables.Proofs.Sql.Clauses
import OutlineTables.Proofs.Sql.Lexing
import OutlineTables.Proofs.Sql.Literals
import OutlineTables.Proofs.Sql.Moved
import OutlineTables.Proofs.Sql.Parts
import OutlineTables.Proofs.Sql.Reader
import OutlineTables.Proofs.Sql.RoundTrip
import OutlineTables.Proofs.Sql.Statements
import OutlineTables.Proofs.Stamp.Suffixes
import OutlineTables.Proofs.Store.Cascade
import OutlineTables.Proofs.Store.Insertion
import OutlineTables.Proofs.Store.Sound
import OutlineTables.Proofs.Success
import OutlineTables.Proofs.Sync.Between
import OutlineTables.Proofs.Sync.Contents
import OutlineTables.Proofs.Sync.Matching
import OutlineTables.Proofs.Sync.Mirror
import OutlineTables.Proofs.Sync.Moves
import OutlineTables.Proofs.Sync.Outcome
import OutlineTables.Proofs.Sync.Pairs
import OutlineTables.Proofs.Sync.Partition
import OutlineTables.Proofs.Sync.Runs
import OutlineTables.Proofs.Sync.Steps
import OutlineTables.Proofs.Text.Numbers
import OutlineTables.Proofs.Text.Numerals
import OutlineTables.Proofs.Text.Pieces
import OutlineTables.Rows.Basic
import OutlineTables.Rows.OfOutline
import OutlineTables.Rows.Record
import OutlineTables.Rows.Schema
import OutlineTables.Schema.Basic
import OutlineTables.Schema.Data
import OutlineTables.Session.Basic
import OutlineTables.Session.Database
import OutlineTables.Settings.Assignments
import OutlineTables.Settings.Basic
import OutlineTables.Settings.Reader
import OutlineTables.Sql.Definition
import OutlineTables.Sql.Literal
import OutlineTables.Sql.Statement
import OutlineTables.Stamp.Basic
import OutlineTables.Stamp.Reader
import OutlineTables.Store.Basic
import OutlineTables.Store.Data
import OutlineTables.Store.Exec
import OutlineTables.Store.Limits
import OutlineTables.Sync.Plan
import OutlineTables.Sync.Report
import OutlineTables.Text.Basic
import OutlineTables.Text.Blank
import OutlineTables.Text.Cluster
import OutlineTables.Text.CodePoints
import OutlineTables.Text.Digit
import OutlineTables.Text.Encoding
import OutlineTables.Text.LowerCase
import OutlineTables.Text.Printable
import OutlineTables.Text.Quoted
import OutlineTables.Text.Sequences
import OutlineTables.Text.UpperCase
import OutlineTables.Text.Width
import OutlineTables.Text.WordChar
import OutlineTables.Value.Basic
import OutlineTables.Value.Coerce
import OutlineTables.Value.Json
import OutlineTables.Proofs.Rows.Tags
import OutlineTables.Proofs.Outline.Verbatim
import OutlineTables.Proofs.Rows.Columns
import OutlineTables.Proofs.Rows.Times
import OutlineTables.Proofs.Rows.Integers
import OutlineTables.Proofs.Rows.Import
import OutlineTables.Proofs.Text.Places
import OutlineTables.Proofs.Logbook.OldStamps
import OutlineTables.Proofs.Rows.Stamps
import OutlineTables.Proofs.Rows.Restrictions
import OutlineTables.Proofs.Rows.Projections
import OutlineTables.Proofs.Outline.Concat
import OutlineTables.Proofs.Stamp.Days
import OutlineTables.Proofs.Stamp.Forms
import OutlineTables.Proofs.Stamp.Components
import OutlineTables.Proofs.Text.Words
import OutlineTables.Proofs.Stamp.Marks
import OutlineTables.Proofs.Stamp.RoundTrip
import OutlineTables.Proofs.Outline.Nesting
import OutlineTables.Proofs.Sync.Reimport
import OutlineTables.Proofs.Text.Languages
import OutlineTables.Proofs.Logbook.Choices
import OutlineTables.Proofs.Logbook.Spelling
import OutlineTables.Proofs.Logbook.Cuts
import OutlineTables.Proofs.Stamp.Brackets
import OutlineTables.Proofs.Logbook.Filled
import OutlineTables.Proofs.Logbook.Standard
import OutlineTables.Proofs.Logbook.Neighbours
import OutlineTables.Proofs.Disk.Scans
import OutlineTables.Proofs.Sync.Overlaps
import OutlineTables.Proofs.Outline.Partition
import OutlineTables.Proofs.Outline.Drafts
import OutlineTables.Proofs.Stamp.Closing
import OutlineTables.Proofs.Rows.Links
import OutlineTables.Proofs.Outline.StampSearch
import OutlineTables.Proofs.Outline.HeadingForms
import OutlineTables.Proofs.Stamp.Independence
import OutlineTables.Proofs.Disk.Encodings
import OutlineTables.Proofs.Schema.Order
import OutlineTables.Proofs.Sql.Scripts
