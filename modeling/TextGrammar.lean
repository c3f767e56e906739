import TextGrammar.Command.Arguments
import TextGrammar.Command.FileTree
import TextGrammar.Command.Reading
import TextGrammar.Command.Run
import TextGrammar.Document.Basic
import TextGrammar.Document.Json.Reader
import TextGrammar.Document.Json.Writer
import TextGrammar.Document.Toml.Reader
import TextGrammar.Document.Toml.Scalar
import TextGrammar.Document.Toml.Table
import TextGrammar.Engine
import TextGrammar.Failure
import TextGrammar.Grammar.Node
import TextGrammar.Grammar.ObjectType
import TextGrammar.Grammar.Validation
import TextGrammar.GrammarFile.Basic
import TextGrammar.GrammarFile.Decl
import TextGrammar.Log.Filter
import TextGrammar.Log.Record
import TextGrammar.Matching.Basic
import TextGrammar.Matching.Matcher
import TextGrammar.Matching.Trace
import TextGrammar.NameMap
import TextGrammar.Pattern.Parser
import TextGrammar.Pattern.Property
import TextGrammar.Proofs.Cursor
import TextGrammar.Proofs.Evaluation
import TextGrammar.Regex.Basic
import TextGrammar.Regex.CharSet
import TextGrammar.Regex.Search
import TextGrammar.Report.Basic
import TextGrammar.Report.Tree
import TextGrammar.RuleSet
import TextGrammar.Terminal
import TextGrammar.Text.Bytes
import TextGrammar.Text.Cursor
import TextGrammar.Text.Location
import TextGrammar.Text.Quoted
import TextGrammar.Text.Reader
import TextGrammar.Unicode.CaseFold
import TextGrammar.Unicode.Category
import TextGrammar.Unicode.Classes
import TextGrammar.Unicode.Script
import TextGrammar.Unicode.Table
import TextGrammar.Value
import TextGrammar.Main
import TextGrammar.Proofs.Search
import TextGrammar.Proofs.Unfolding
import TextGrammar.Proofs.ValidationSoundness
import TextGrammar.Proofs.RecordWrites
import TextGrammar.Proofs.DepthLimit
import TextGrammar.Proofs.FatalFailures
import TextGrammar.Proofs.Flatness
import TextGrammar.Proofs.Slices
import TextGrammar.Proofs.Reachability
import TextGrammar.Proofs.Dependence
import TextGrammar.Proofs.Locality
import TextGrammar.Proofs.Referencing
import TextGrammar.Proofs.Anchoring
import TextGrammar.Proofs.Readers
import TextGrammar.Proofs.JsonText
import TextGrammar.Proofs.NameOrder
import TextGrammar.Proofs.ReadingBack
import TextGrammar.Proofs.Formats
import TextGrammar.Proofs.Lossless
import TextGrammar.Proofs.Strictness
import TextGrammar.Proofs.Justification
import TextGrammar.Proofs.LeftmostDefect
import TextGrammar.Proofs.Iteration
import TextGrammar.Proofs.Minimum
import TextGrammar.Proofs.Combinators
import TextGrammar.Proofs.Regrouping
import TextGrammar.Proofs.SeparatedLists
import TextGrammar.Proofs.Nullability
import TextGrammar.Proofs.Shapes
import TextGrammar.Proofs.LeftRecursion
import TextGrammar.Proofs.Runs
import TextGrammar.Proofs.Nesting
import TextGrammar.Proofs.Sentences
import TextGrammar.Proofs.QuotedText
import TextGrammar.Proofs.Trees
import TextGrammar.Proofs.Locations
