import VersionStamp.Artifact.MetadataText
import VersionStamp.Artifact.TaggedLine
import VersionStamp.Artifact.Targets
import VersionStamp.Command
import VersionStamp.Dialogue
import VersionStamp.Files.Operations
import VersionStamp.Files.Path
import VersionStamp.Files.Resolution
import VersionStamp.Files.System
import VersionStamp.Host
import VersionStamp.Log.Filter
import VersionStamp.Log.Output
import VersionStamp.Log.Record
import VersionStamp.Main
import VersionStamp.Pattern.Basic
import VersionStamp.Pattern.Brackets
import VersionStamp.Pattern.CharacterSet
import VersionStamp.Pattern.Cursor
import VersionStamp.Pattern.Escape
import VersionStamp.Pattern.Expression
import VersionStamp.Pattern.Failure
import VersionStamp.Pattern.Group
import VersionStamp.Pattern.Meaning
import VersionStamp.Pattern.OfText
import VersionStamp.Pattern.Reading
import VersionStamp.Proofs.Artifact.FirstTag
import VersionStamp.Proofs.Artifact.MetadataLines
import VersionStamp.Proofs.Artifact.ReleaseLines
import VersionStamp.Proofs.Files.Changes
import VersionStamp.Proofs.Files.Occupancy
import VersionStamp.Proofs.Files.Outline
import VersionStamp.Proofs.Files.Vacancy
import VersionStamp.Proofs.Files.Walking
import VersionStamp.Proofs.Outcome
import VersionStamp.Proofs.Release.Numeric
import VersionStamp.Proofs.Stamping.Completion
import VersionStamp.Proofs.Stamping.Contents
import VersionStamp.Proofs.Stamping.Interruption
import VersionStamp.Proofs.Stamping.Release
import VersionStamp.Proofs.Stamping.Renewal
import VersionStamp.Proofs.Stamping.Targets
import VersionStamp.Proofs.Text.LineSplitting
import VersionStamp.Proofs.Toml.Quoting
import VersionStamp.Proofs.Worlds
import VersionStamp.Release.Basic
import VersionStamp.Release.BuildNumber
import VersionStamp.Release.Components
import VersionStamp.Settings.Basic
import VersionStamp.Settings.Document
import VersionStamp.Settings.File
import VersionStamp.Stamping.Failure
import VersionStamp.Stamping.Run
import VersionStamp.Terminal
import VersionStamp.Text.Blank
import VersionStamp.Text.Cluster
import VersionStamp.Text.Cluster.Kind
import VersionStamp.Text.ControlSequences
import VersionStamp.Text.Lines
import VersionStamp.Text.Lossy
import VersionStamp.Text.Mark
import VersionStamp.Text.Quoted
import VersionStamp.Text.Typed
import VersionStamp.Toml.Document
import VersionStamp.Toml.Plain
import VersionStamp.Toml.Quotation
import VersionStamp.Toml.Reader
import VersionStamp.Toml.Strings
import VersionStamp.Toml.Value
import VersionStamp.World
import VersionStamp.Proofs.Toml.Lines
import VersionStamp.Proofs.Toml.Assignments
import VersionStamp.Proofs.Settings.Document
import VersionStamp.Proofs.Effects
import VersionStamp.Proofs.Files.Writing
import VersionStamp.Proofs.Settings.Saving
import VersionStamp.Proofs.Artifact.ReadingBack
import VersionStamp.Proofs.Dialogue
import VersionStamp.Proofs.Stamping.Acceptance
import VersionStamp.Proofs.Stamping.Numerals
import VersionStamp.Proofs.Artifact.LineByLine
import VersionStamp.Proofs.Files.Clearance
import VersionStamp.Proofs.Stamping.Room
import VersionStamp.Proofs.Stamping.Rearrangement
import VersionStamp.Proofs.Terminal
import VersionStamp.Proofs.Settings.Search
import VersionStamp.Proofs.Command
import VersionStamp.Proofs.Release.Decimal
import VersionStamp.Proofs.Release.Comparison
import VersionStamp.Proofs.Release.Arithmetic
import VersionStamp.Proofs.Files.Joining
import VersionStamp.Proofs.Text.Encoding
import VersionStamp.Proofs.Release.Inputs
import VersionStamp.Proofs.Questions
import VersionStamp.Proofs.Settings.Locations
import VersionStamp.Proofs.Toml.Distinct
import VersionStamp.Proofs.Settings.Values
import VersionStamp.Proofs.Settings.Completion
import VersionStamp.Proofs.Text.Trimming
import VersionStamp.Proofs.Release.Grammar
import VersionStamp.Proofs.Stamping.Undoing
import VersionStamp.Proofs.Stamping.Records
import VersionStamp.Proofs.Files.Growth
import VersionStamp.Proofs.Files.Directories
import VersionStamp.Proofs.Stamping.Missed
