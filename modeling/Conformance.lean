import Conformance.Config.Binary64
import Conformance.Config.Json
import Conformance.Config.Load
import Conformance.Config.Value
import Conformance.Dependency.Basic
import Conformance.Dependency.Count
import Conformance.Dependency.Marker
import Conformance.Dependency.Pattern
import Conformance.Error
import Conformance.Item.Basic
import Conformance.Item.Pattern
import Conformance.Main
import Conformance.Matcher.Basic
import Conformance.Matcher.Memo
import Conformance.PrefixTree
import Conformance.Projection.Basic
import Conformance.Projection.Template
import Conformance.Projector.Adaptive
import Conformance.Projector.Index
import Conformance.Projector.Simple
import Conformance.Proofs.Alike
import Conformance.Proofs.AsciiCase
import Conformance.Proofs.CompileEffect
import Conformance.Proofs.CountText
import Conformance.Proofs.GroupCount
import Conformance.Proofs.KnownPrefix
import Conformance.Proofs.Memo
import Conformance.Proofs.MemoEviction
import Conformance.Proofs.OrderedMemo
import Conformance.Proofs.PatternCompile
import Conformance.Proofs.PrefixMap
import Conformance.Proofs.PrefixTree
import Conformance.Proofs.Projector
import Conformance.Proofs.ProjectorStats
import Conformance.Proofs.RadixTree
import Conformance.Proofs.SegmentCache
import Conformance.Proofs.Template
import Conformance.Regex.Automaton.Builder
import Conformance.Regex.Automaton.Classes
import Conformance.Regex.Automaton.Literals
import Conformance.Regex.Automaton.Shape
import Conformance.Regex.Automaton.Size
import Conformance.Regex.Automaton.Utf8
import Conformance.Regex.CharSet
import Conformance.Regex.Compile
import Conformance.Regex.Machine
import Conformance.Regex.Parse.Extended
import Conformance.Regex.Parse.Linear
import Conformance.Regex.Parse.Standard
import Conformance.Regex.Program
import Conformance.Regex.Property
import Conformance.Regex.Syntax
import Conformance.Registry
import Conformance.Segment.Compile
import Conformance.Segment.Glob
import Conformance.Text.Age
import Conformance.Text.Alphanumeric
import Conformance.Text.Ascii
import Conformance.Text.BinaryProperty
import Conformance.Text.CaseFold
import Conformance.Text.CaseProperty
import Conformance.Text.GeneralCategory
import Conformance.Text.GraphemeBreak
import Conformance.Text.IdentifierProperty
import Conformance.Text.PropertyName
import Conformance.Text.Quoted
import Conformance.Text.RangeTable
import Conformance.Text.RunTable
import Conformance.Text.Script
import Conformance.Text.ScriptExtension
import Conformance.Text.SentenceBreak
import Conformance.Text.WhiteSpace
import Conformance.Text.WordBreak
import Conformance.Text.WordChar
import Conformance.Proofs.IndexSelection
import Conformance.Proofs.TypeTable
