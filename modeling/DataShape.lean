import DataShape.Main
import DataShape.Proofs.Schema.Defects
import DataShape.Schema.Descriptor
import DataShape.Throughput
import DataShape.Proofs.Validator.Lowering
import DataShape.Proofs.Validator.Interpretation
import DataShape.Proofs.Validator.Refinement
import DataShape.Proofs.Validator.Conformance
import DataShape.Proofs.Schema.Grammar
import DataShape.Proofs.Schema.Reading
import DataShape.Proofs.Validator.Location
import DataShape.Proofs.Validator.Spread
import DataShape.Proofs.Listing.Execution
import DataShape.Proofs.Listing.Expressions
import DataShape.Proofs.Listing.Layout
import DataShape.Proofs.Closure.Rewriting
import DataShape.Proofs.Validator.Loosening
import DataShape.Proofs.Validator.Nesting
import DataShape.Proofs.Validator.TypedParsing
import DataShape.Proofs.Value.RoundTrip
import DataShape.Proofs.Validator.NumberBounds
import DataShape.Proofs.Validator.Noninterference
import DataShape.Proofs.Validator.Accumulation
import DataShape.Proofs.Schema.DescribedSchema
import DataShape.Proofs.Schema.FaultPaths
import DataShape.Proofs.Validator.LastItem
import DataShape.Proofs.Closure.Template
import DataShape.Proofs.Closure.ParameterList
import DataShape.Proofs.Closure.Lexemes
import DataShape.Proofs.Closure.NestedClosures
import DataShape.Proofs.Closure.Calls
import DataShape.Proofs.Validator.AbsentProperty
import DataShape.Proofs.Validator.PredicateScope
import DataShape.Proofs.Validator.EqualInputs
import DataShape.Proofs.Validator.DeclaredPart
import DataShape.Proofs.Schema.Reordering
import DataShape.Proofs.Validator.PropertyOrder
import DataShape.Proofs.Validator.ExtrasBinding
import DataShape.Proofs.Number.Rounding
import DataShape.Proofs.Value.ErrorStorage
import DataShape.Proofs.Number.ShortestDecimal
import DataShape.Proofs.Number.DecimalText
import DataShape.Proofs.Validator.ShownBounds
import DataShape.Proofs.Schema.PathText
import DataShape.Proofs.Validator.DistinctPaths
import DataShape.Proofs.Validator.DefaultMessages
import DataShape.Proofs.Schema.LastSetting
import DataShape.Proofs.Throughput
import DataShape.Proofs.Closure.ScanBounds
import DataShape.Proofs.Validator.WalkedPlan
import DataShape.Proofs.Validator.LoggedActions
