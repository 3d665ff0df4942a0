import LiveSchema.Double
import LiveSchema.Decimal
import LiveSchema.Decimal.Layout
import LiveSchema.Number
import LiveSchema.Table
import LiveSchema.Value
import LiveSchema.Value.TypeName
import LiveSchema.Value.Canon
import LiveSchema.Text.Ranges
import LiveSchema.Text.Blank
import LiveSchema.Text.Printable
import LiveSchema.Text.Word
import LiveSchema.Text.Identifier
import LiveSchema.Text.Case
import LiveSchema.Value.Text
import LiveSchema.Failure
import LiveSchema.Log
import LiveSchema.Graph
import LiveSchema.Pattern.Expression
import LiveSchema.Pattern.Matcher
import LiveSchema.Pattern.Reader
import LiveSchema.Pattern
import LiveSchema.Program
import LiveSchema.Check
import LiveSchema.Keyword.Size
import LiveSchema.Keyword.Kind
import LiveSchema.Keyword.Number
import LiveSchema.Keyword.Text
import LiveSchema.Keyword.Array
import LiveSchema.Keyword.Object
import LiveSchema.Keyword.Combinator
import LiveSchema.Node
import LiveSchema.Graph.Subschemas
import LiveSchema.Cache
import LiveSchema.Workspace
import LiveSchema.Settings
import LiveSchema.Validator
import LiveSchema.Graph.Edit
import LiveSchema.Configuration
import LiveSchema.Session
import LiveSchema.Trial
import LiveSchema.Evaluation
import LiveSchema.Proofs.CacheLaws
import LiveSchema.Proofs.Runs
import LiveSchema.Proofs.Programs
import LiveSchema.Proofs.Reachability
import LiveSchema.Proofs.NodeShape
import LiveSchema.Proofs.Divisors
import LiveSchema.Proofs.CheckLimits
import LiveSchema.Proofs.EnumMemo
import LiveSchema.Proofs.Contents
import LiveSchema.Proofs.Edits
import LiveSchema.Proofs.LibraryEdits
import LiveSchema.Proofs.Termination
import LiveSchema.Proofs.Simulation
import LiveSchema.Proofs.WorkspaceMoves
import LiveSchema.Proofs.TrackedCache
import LiveSchema.Proofs.CacheTransparency
import LiveSchema.Proofs.EagerCompilation
import LiveSchema.Proofs.Recompilation
import LiveSchema.Proofs.Outline
import LiveSchema.Proofs.LiveKeywords
import LiveSchema.Proofs.RequiredNames
import LiveSchema.Proofs.RepeatedValidation
import LiveSchema.Proofs.SharedCache
import LiveSchema.Proofs.EqualChecks
import LiveSchema.Proofs.EqualVerdicts
import LiveSchema.Proofs.EqualData
import LiveSchema.Proofs.EqualSchemas
import LiveSchema.Proofs.Agreement
import LiveSchema.Proofs.ConstantBooleans
import LiveSchema.Proofs.DepthFirst
import LiveSchema.Proofs.EagerOrder
import LiveSchema.Proofs.NodeAcceptance
import LiveSchema.Proofs.RecursiveSchemas
import LiveSchema.Proofs.AddedKeywords
import LiveSchema.Proofs.TypeLists
import LiveSchema.Proofs.FailedCompilation
import LiveSchema.Proofs.SessionCaches
import LiveSchema.Proofs.StableLists
import LiveSchema.Proofs.WellFormedKeywords
import LiveSchema.Proofs.WellFormedNodes
import LiveSchema.Proofs.CompileFailures
import LiveSchema.Proofs.OwnViolations
import LiveSchema.Proofs.ViolationOrigins
import LiveSchema.Proofs.FirstFailures
import LiveSchema.Proofs.StructuralEquality
import LiveSchema.Proofs.Enforcement
import LiveSchema.Proofs.ObjectKeywords
import LiveSchema.Proofs.ArrayKeywords
import LiveSchema.Proofs.Rounding
import LiveSchema.Proofs.DecimalScale
import LiveSchema.Proofs.ShortestNumerals
import LiveSchema.Proofs.ExactDivisibility
import LiveSchema.Proofs.NumberBounds
import LiveSchema.Proofs.CacheHistory
import LiveSchema.Proofs.CombinatorMeaning
import LiveSchema.Proofs.EqualMultiples
import LiveSchema.Proofs.SettingsReading
