import DocShape.Catalog
import DocShape.Command
import DocShape.Command.Arguments
import DocShape.Command.Request
import DocShape.Domain
import DocShape.Main
import DocShape.Number.Binary64
import DocShape.Number.Decimal
import DocShape.Number.Reading
import DocShape.Number.Style
import DocShape.Path
import DocShape.Pattern
import DocShape.Pattern.CharSet
import DocShape.Pattern.Expression
import DocShape.Pattern.Matching
import DocShape.Pattern.PropertyName
import DocShape.Pattern.Reading
import DocShape.Pattern.Size
import DocShape.Pattern.Tree
import DocShape.Report
import DocShape.Schema
import DocShape.Schema.Config
import DocShape.Schema.Definition
import DocShape.Schema.Error
import DocShape.Schema.Kind
import DocShape.Schema.Linking
import DocShape.Schema.Loading
import DocShape.Schema.Node
import DocShape.Schema.Range
import DocShape.Schema.Registry
import DocShape.Schema.Source
import DocShape.Schema.Validation
import DocShape.Storage
import DocShape.Storage.Tree
import DocShape.Text.Json
import DocShape.Text.Quoted
import DocShape.Text.Table
import DocShape.Unicode.CaseFold
import DocShape.Unicode.Category
import DocShape.Unicode.Property
import DocShape.Unicode.Ranges
import DocShape.Unicode.Script
import DocShape.Unicode.Width
import DocShape.Value
import DocShape.Value.Summary
import DocShape.Violation
import DocShape.Yaml
import DocShape.Yaml.Cursor
import DocShape.Yaml.Layout
import DocShape.Yaml.Resolution
import DocShape.Yaml.Scalar
import DocShape.Yaml.Token
import DocShape.Yaml.Tree
import DocShape.Proofs.Tree
import DocShape.Proofs.Validation.Shapes
import DocShape.Proofs.Validation.Conformance
import DocShape.Proofs.Validation.Location
import DocShape.Proofs.Validation.Coverage
import DocShape.Proofs.Catalog
import DocShape.Proofs.Linking.Expansion
import DocShape.Proofs.Linking.Table
import DocShape.Proofs.Linking.Rebuilding
import DocShape.Proofs.Linking.Fragments
import DocShape.Proofs.Grammar.Keywords
import DocShape.Proofs.Grammar.Definition
import DocShape.Proofs.Grammar.Source
import DocShape.Proofs.Inside
import DocShape.Proofs.Stripped
import DocShape.Proofs.Validation.Tags
import DocShape.Proofs.Validation.Reported
import DocShape.Proofs.Validation.Evidence
import DocShape.Proofs.Linking.Mentions
import DocShape.Proofs.Linking.Cycles
import DocShape.Proofs.Pattern.Language
import DocShape.Proofs.Plain
import DocShape.Proofs.Validation.Laws
import DocShape.Proofs.Alike
import DocShape.Proofs.Domain.Tree
import DocShape.Proofs.Binary64
import DocShape.Proofs.Domain.Contract
import DocShape.Proofs.Causes
import DocShape.Proofs.Validation.Comparison
import DocShape.Proofs.Validation.Policies
import DocShape.Proofs.Validation.Locality
import DocShape.Proofs.Rearranged
import DocShape.Proofs.Validation.Order
import DocShape.Proofs.Registry.Extension
import DocShape.Proofs.Registry.Batches
import DocShape.Proofs.Registry.Runs
import DocShape.Proofs.Validation.Loosening
import DocShape.Proofs.Registry.Configuration
import DocShape.Proofs.Validation.Includes
import DocShape.Proofs.Command.Loading
import DocShape.Proofs.Command.Documents
import DocShape.Proofs.Registry.Directories
import DocShape.Proofs.Linking.WellFormed
import DocShape.Proofs.Rounding
import DocShape.Proofs.Validation.Ranges
import DocShape.Proofs.Grammar.BareKeys
import DocShape.Proofs.Linking.BareKeys
import DocShape.Proofs.Pattern.Closing
import DocShape.Proofs.Pattern.Escapes
import DocShape.Proofs.Pattern.Classes
import DocShape.Proofs.Pattern.Groups
import DocShape.Proofs.Pattern.Anchoring
import DocShape.Proofs.Text.Quoted
import DocShape.Proofs.Path
import DocShape.Proofs.Grammar.Nesting
import DocShape.Proofs.Linking.Limits
import DocShape.Proofs.Grammar.Leaf
import DocShape.Proofs.Grammar.Bounds
import DocShape.Proofs.Validation.Choices
import DocShape.Proofs.Validation.Satisfiable
import DocShape.Proofs.Validation.Elements
import DocShape.Proofs.Validation.Permuted
import DocShape.Proofs.Grammar.Wording
import DocShape.Proofs.Linking.ReadAlike
import DocShape.Proofs.Grammar.Rephrased
import DocShape.Proofs.Grammar.Respelled
import DocShape.Proofs.Linking.Respelled
import DocShape.Proofs.Validation.Walk
import DocShape.Proofs.Text.Json
import DocShape.Proofs.Violation.Json
import DocShape.Proofs.Text.Lines
import DocShape.Proofs.Violation.Lines
import DocShape.Proofs.Validation.Wording
import DocShape.Proofs.Validation.Lines
import DocShape.Proofs.Validation.OneShape
import DocShape.Proofs.Linking.Steps
import DocShape.Proofs.Linking.Stepwise
