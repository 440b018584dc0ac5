import Bitemporal.Text.Blank
import Bitemporal.Text.Digit
import Bitemporal.Text.Printable
import Bitemporal.Text.LetterCase
import Bitemporal.Text.Hex
import Bitemporal.Text.Halves
import Bitemporal.Text.Quoted
import Bitemporal.Number.Numeral
import Bitemporal.Number.Binary64
import Bitemporal.Number.Shortest
import Bitemporal.Calendar.Date
import Bitemporal.Calendar.DateTime
import Bitemporal.Calendar.Iso
import Bitemporal.OrderedMap
import Bitemporal.Value
import Bitemporal.Axis
import Bitemporal.Issue
import Bitemporal.Error
import Bitemporal.Calendar.Names
import Bitemporal.DatePattern.Directive
import Bitemporal.DatePattern.Reading
import Bitemporal.DatePattern.Writing
import Bitemporal.InstantFormat
import Bitemporal.Instant
import Bitemporal.Partition
import Bitemporal.Log
import Bitemporal.Mapper
import Bitemporal.Predicate
import Bitemporal.Rectangle
import Bitemporal.Json.Writer
import Bitemporal.Json.Reader
import Bitemporal.Checked
import Bitemporal.Settings
import Bitemporal.Schema
import Bitemporal.Condition
import Bitemporal.FieldIndex
import Bitemporal.DocumentStore
import Bitemporal.Index
import Bitemporal.Path
import Bitemporal.Surroundings
import Bitemporal.EnvironmentFile
import Bitemporal.Yaml.Cursor
import Bitemporal.Yaml.Token
import Bitemporal.Yaml.Lexer
import Bitemporal.Yaml.Fault
import Bitemporal.Yaml.Scalar
import Bitemporal.Yaml.Graph
import Bitemporal.Yaml.Graph.Merge
import Bitemporal.Yaml.Graph.Reader
import Bitemporal.Yaml.Datum
import Bitemporal.Settings.Sources
import Bitemporal.Settings.File
import Bitemporal.Settings.Session
import Bitemporal.Predicate.Written
import Bitemporal.Predicate.Draft
import Bitemporal.CommandLine.Console
import Bitemporal.CommandLine.Invocation
import Bitemporal.CommandLine.Run
import Bitemporal.CommandLine.Layout
import Bitemporal.Main
import Bitemporal.Proofs.NameLaws
import Bitemporal.Proofs.MapLaws
import Bitemporal.Proofs.PredicateLaws
import Bitemporal.Proofs.FieldIndexLaws
import Bitemporal.Proofs.StoreLaws
import Bitemporal.Proofs.HitOrder
import Bitemporal.Proofs.StoreRuns
import Bitemporal.Proofs.MapperLaws
import Bitemporal.Proofs.RectangleLaws
import Bitemporal.Proofs.Binary64Laws
import Bitemporal.Proofs.StandardMapper
import Bitemporal.Proofs.Acceptance
import Bitemporal.Proofs.IntervalEncoding
import Bitemporal.Proofs.Reconstruction
import Bitemporal.Proofs.Scoring
import Bitemporal.Proofs.SchemaLaws
import Bitemporal.Proofs.ConditionLaws
import Bitemporal.Proofs.IndexRuns
import Bitemporal.Proofs.RangeSearch
import Bitemporal.Proofs.StandardSchema
import Bitemporal.Proofs.Replacement
import Bitemporal.Proofs.SearchOrder
import Bitemporal.Proofs.Separation
import Bitemporal.Proofs.NumeralLaws
import Bitemporal.Proofs.RoundingLaws
import Bitemporal.Proofs.ShortestLaws
import Bitemporal.Proofs.DecimalText
import Bitemporal.Proofs.TextEscapes
import Bitemporal.Proofs.JsonLaws
import Bitemporal.Proofs.ConditionCodec
import Bitemporal.Proofs.CalendarLaws
import Bitemporal.Proofs.PatternReading
import Bitemporal.Proofs.PatternWriting
import Bitemporal.Proofs.MomentText
import Bitemporal.FieldIndex.Columns
import Bitemporal.DocumentStore.Columns
import Bitemporal.Proofs.ColumnLaws
import Bitemporal.Proofs.DraftLaws
import Bitemporal.Proofs.ColumnStoreLaws
import Bitemporal.Proofs.Loosening
import Bitemporal.Proofs.NumericInstants
import Bitemporal.Proofs.DigitTexts
import Bitemporal.Proofs.ReadingFailures
import Bitemporal.Proofs.OptionSpelling
import Bitemporal.Proofs.AssignCommand
