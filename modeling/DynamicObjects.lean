import DynamicObjects.Main
import DynamicObjects.Reachability
import DynamicObjects.Proofs.Comparison.Bisimulation
import DynamicObjects.Proofs.Comparison.Termination
import DynamicObjects.Proofs.Heap.Building
import DynamicObjects.Proofs.Heap.Converted
import DynamicObjects.Proofs.Struct.Assignment
import DynamicObjects.Proofs.Safety.WellFormed
import DynamicObjects.Proofs.Safety.Keeps
import DynamicObjects.Proofs.Safety.Behaviour
import DynamicObjects.Proofs.Safety.Rendering
import DynamicObjects.Proofs.Safety.Text
import DynamicObjects.Proofs.Safety.Construction
import DynamicObjects.Proofs.Safety.Dispatch
import DynamicObjects.Proofs.Safety.Reachable
import DynamicObjects.Proofs.Safety.Stock
import DynamicObjects.Proofs.Struct.Protection
import DynamicObjects.Proofs.Safety.Payload
import DynamicObjects.Proofs.Safety.Singletons
import DynamicObjects.Proofs.Safety.Strings
import DynamicObjects.Proofs.Number.Nearest
import DynamicObjects.Proofs.Array.Order
import DynamicObjects.Proofs.Array.Search
import DynamicObjects.Proofs.Comparison.Integers
import DynamicObjects.Proofs.Comparison.Equivalence
import DynamicObjects.Proofs.Comparison.Frame
import DynamicObjects.Proofs.Array.Sequence
import DynamicObjects.Proofs.Array.Refinement
import DynamicObjects.Proofs.Number.TotalOrder
import DynamicObjects.Proofs.Number.Exact
import DynamicObjects.Proofs.Number.Correct
import DynamicObjects.Proofs.Number.Division
import DynamicObjects.Proofs.Array.Sorting
import DynamicObjects.Proofs.Array.Numeric
import DynamicObjects.Proofs.Array.NotNumbers
import DynamicObjects.Proofs.Array.Agreement
import DynamicObjects.Proofs.Number.Radix
import DynamicObjects.Proofs.Format.Integers
import DynamicObjects.Proofs.Number.Truncation
import DynamicObjects.Proofs.Rendering.Guard
import DynamicObjects.Proofs.Rendering.Reference
import DynamicObjects.Proofs.Rendering.Depth
import DynamicObjects.Proofs.Rendering.Path
import DynamicObjects.Proofs.Rendering.Spelling
import DynamicObjects.Proofs.Format.Composition
import DynamicObjects.Proofs.Conversion.Positions
import DynamicObjects.Proofs.Conversion.RoundTrip
import DynamicObjects.Proofs.Attribute.Store
import DynamicObjects.Proofs.Comparison.Scalars
import DynamicObjects.Proofs.Code.Closure
import DynamicObjects.Proofs.Interpreter.Stacks
import DynamicObjects.Proofs.Types.Declaration
import DynamicObjects.Proofs.Types.Names
import DynamicObjects.Proofs.Types.Builder
import DynamicObjects.Proofs.Heap.Methods
import DynamicObjects.Proofs.Heap.Lifetime
import DynamicObjects.Proofs.Method.Bound
import DynamicObjects.Proofs.Isolation.Beside
import DynamicObjects.Proofs.Isolation.Follows
import DynamicObjects.Proofs.Isolation.Equality
import DynamicObjects.Proofs.Isolation.Behaviour
import DynamicObjects.Proofs.Isolation.Rendering
import DynamicObjects.Proofs.Isolation.Text
import DynamicObjects.Proofs.Isolation.Construction
import DynamicObjects.Proofs.Isolation.Dispatch
import DynamicObjects.Proofs.Isolation.Answer
import DynamicObjects.Proofs.Isolation.Confined
import DynamicObjects.Proofs.Isolation.Insertion
import DynamicObjects.Proofs.Isolation.Redeclaration
import DynamicObjects.Proofs.Rendering.Legible
import DynamicObjects.Proofs.Rendering.Unambiguous
import DynamicObjects.Proofs.CommandLine.Exit
import DynamicObjects.Proofs.Struct.Marks
import DynamicObjects.Proofs.Copies.Shift
import DynamicObjects.Proofs.Copies.Appearance
import DynamicObjects.Proofs.Copies.Independence
import DynamicObjects.Proofs.Array.Stored
import DynamicObjects.Proofs.Rendering.Replies
import DynamicObjects.Proofs.Rendering.Settled
import DynamicObjects.Proofs.Rendering.TextPaths
import DynamicObjects.Proofs.Number.Expression
import DynamicObjects.Proofs.Comparison.Preorder
import DynamicObjects.Proofs.Text.Characters
import DynamicObjects.Proofs.Struct.Members
import DynamicObjects.Proofs.Struct.Acceptance
import DynamicObjects.Proofs.Struct.Unset
import DynamicObjects.Proofs.Number.Decade
import DynamicObjects.Proofs.Number.DecimalText
import DynamicObjects.Proofs.Format.General
import DynamicObjects.Proofs.Number.Shortest
import DynamicObjects.Proofs.Rendering.Floats
import DynamicObjects.Proofs.Enumeration.Observation
