import PointRecords.Binary.Format
import PointRecords.Binary.Pattern
import PointRecords.Binary.Rounding
import PointRecords.Channel
import PointRecords.Colour
import PointRecords.Colour.Hash
import PointRecords.CommandLine.Arguments
import PointRecords.CommandLine.Component
import PointRecords.CommandLine.Process
import PointRecords.CommandLine.Reader
import PointRecords.CommandLine.Refusal
import PointRecords.Decimal.Digits
import PointRecords.Decimal.Integer
import PointRecords.Decimal.Layout
import PointRecords.Decimal.Literal
import PointRecords.Decimal.Shortest
import PointRecords.Json.Fault
import PointRecords.Json.Numeral
import PointRecords.Json.Record
import PointRecords.Json.Skip
import PointRecords.Json.Text
import PointRecords.Log.Filter
import PointRecords.Log.Record
import PointRecords.Main
import PointRecords.Packed.ByteColumn
import PointRecords.Packed.Bytes
import PointRecords.Packed.FloatColumn
import PointRecords.Packed.Length
import PointRecords.Packed.Record
import PointRecords.Point
import PointRecords.Proofs.Binary.Conversion
import PointRecords.Proofs.Binary.Ends
import PointRecords.Proofs.Binary.Errors
import PointRecords.Proofs.Binary.Faithful
import PointRecords.Proofs.Binary.Nearest
import PointRecords.Proofs.Binary.NearestEven
import PointRecords.Proofs.Binary.RoundingTwice
import PointRecords.Proofs.Binary.Rounds
import PointRecords.Proofs.Binary.Units
import PointRecords.Proofs.Chain
import PointRecords.Proofs.Colour.PackedNumber
import PointRecords.Proofs.Colour.RangeCheck
import PointRecords.Proofs.Colour.Wide
import PointRecords.Proofs.CommandLine.Accepted
import PointRecords.Proofs.CommandLine.Components
import PointRecords.Proofs.CommandLine.Flags
import PointRecords.Proofs.CommandLine.JsonPoint
import PointRecords.Proofs.CommandLine.LogLines
import PointRecords.Proofs.CommandLine.OppositeSign
import PointRecords.Proofs.CommandLine.Outcome
import PointRecords.Proofs.CommandLine.PlainPoint
import PointRecords.Proofs.CommandLine.Values
import PointRecords.Proofs.Decimal.Digits
import PointRecords.Proofs.Decimal.Grid
import PointRecords.Proofs.Decimal.Integer
import PointRecords.Proofs.Decimal.Layout
import PointRecords.Proofs.Decimal.Literal
import PointRecords.Proofs.Decimal.NearMisses
import PointRecords.Proofs.Decimal.ReadBack
import PointRecords.Proofs.Decimal.Shortest
import PointRecords.Proofs.Decimal.Significant
import PointRecords.Proofs.Entries
import PointRecords.Proofs.Json.CoordinateTexts
import PointRecords.Proofs.Json.Coordinates
import PointRecords.Proofs.Json.FaithfulReading
import PointRecords.Proofs.Json.FarScaling
import PointRecords.Proofs.Json.Grammar
import PointRecords.Proofs.Json.Layouts
import PointRecords.Proofs.Json.NearMisses
import PointRecords.Proofs.Json.NonFinite
import PointRecords.Proofs.Json.Numerals
import PointRecords.Proofs.Json.Records
import PointRecords.Proofs.Json.Scaling
import PointRecords.Proofs.Json.Skipping
import PointRecords.Proofs.Json.Strings
import PointRecords.Proofs.Json.Survival
import PointRecords.Proofs.Json.Truncation
import PointRecords.Proofs.Json.UnknownMembers
import PointRecords.Proofs.Json.Words
import PointRecords.Proofs.Packed.ByteColumn
import PointRecords.Proofs.Packed.Bytes
import PointRecords.Proofs.Packed.Damage
import PointRecords.Proofs.Packed.FloatColumn
import PointRecords.Proofs.Packed.Length
import PointRecords.Proofs.Packed.Record
import PointRecords.Proofs.Point.WholeCoordinates
import PointRecords.Proofs.Script.Narrowing
import PointRecords.Proofs.Session.Remaking
import PointRecords.Proofs.Session.Runs
import PointRecords.Proofs.Session.Steps
import PointRecords.Proofs.Text.OneLine
import PointRecords.Record
import PointRecords.Regex.Bounds
import PointRecords.Regex.Bracket
import PointRecords.Regex.CodeSet
import PointRecords.Regex.Cursor
import PointRecords.Regex.Defect
import PointRecords.Regex.Depth
import PointRecords.Regex.Encoding
import PointRecords.Regex.Escape
import PointRecords.Regex.Expression
import PointRecords.Regex.Footprint
import PointRecords.Regex.Group
import PointRecords.Regex.Matching
import PointRecords.Regex.Meaning
import PointRecords.Regex.Pattern
import PointRecords.Regex.Position
import PointRecords.Regex.Reader
import PointRecords.Regex.Tree
import PointRecords.Regex.WordTree
import PointRecords.Script.Attribute
import PointRecords.Script.Construction
import PointRecords.Script.Exception
import PointRecords.Script.Inherited
import PointRecords.Script.Interpreter
import PointRecords.Script.Value
import PointRecords.Session
import PointRecords.Text.Blank
import PointRecords.Text.Hexadecimal
import PointRecords.Text.Invisible
import PointRecords.Text.Letter
import PointRecords.Text.Quoted
import PointRecords.Text.Range
import PointRecords.Text.Terminal
import PointRecords.Triple
