import FilterQuery.FieldTable.Stored
import FilterQuery.Json.Scalar
import FilterQuery.Limits.Stored
import FilterQuery.Sql.Filter
import FilterQuery.Tree.Encoding
import FilterQuery.Proofs.Grammar
import FilterQuery.Proofs.Grammar.Completeness
import FilterQuery.Proofs.Grammar.Acceptance
import FilterQuery.Proofs.Grammar.Clause
import FilterQuery.Proofs.Grammar.Positions
import FilterQuery.Proofs.Grammar.Nesting
import FilterQuery.Proofs.Clause.Head
import FilterQuery.Proofs.Clause.Comparison
import FilterQuery.Proofs.Clause.Readable
import FilterQuery.Proofs.Clause.RoundTrip
import FilterQuery.Proofs.Clause.Domain
import FilterQuery.Proofs.Clause.Spelling
import FilterQuery.Proofs.Clause.Size
import FilterQuery.Proofs.Tree.RoundTrip
import FilterQuery.Proofs.Tree.Image
import FilterQuery.Proofs.Sql.Bindings
import FilterQuery.Proofs.Sql.Expressions
import FilterQuery.Proofs.Sql.Meaning
import FilterQuery.Proofs.Tree.Size
import FilterQuery.Proofs.Tree.Folding
import FilterQuery.Proofs.Sql.Evaluation
import FilterQuery.Proofs.Sql.Ordering
import FilterQuery.Proofs.Sql.Negation
import FilterQuery.Proofs.Sql.Redaction
import FilterQuery.Proofs.Tree.Composition
import FilterQuery.Proofs.Tree.HandBuilt
import FilterQuery.Proofs.Tree.Exchange
import FilterQuery.Proofs.Tree.Clauses
import FilterQuery.Proofs.Tree.Traversal
import FilterQuery.Proofs.Numeric.Integers
import FilterQuery.Proofs.Toml.Assignments
import FilterQuery.Proofs.Limits.Reload
