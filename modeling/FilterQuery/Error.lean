import FilterQuery.Connective
import FilterQuery.Text.Quoted

/-!
# Refusals

Every refusal is a cause with the data that its message shows; the wording stands in one place per
type.

* `ClauseFault` -- what is wrong inside one clause. Its message quotes the whole clause.
* `QueryFault` -- what is wrong with a query: its size, a clause, or the way clauses are joined.
  A POSITION is the number of UTF-8 bytes up to and including the character at which the fault
  shows.
* `NumberFault` -- why a text is not an unsigned 64-bit number.
* `SettingsFault` -- what is wrong with stored or environment settings.
* `Error` -- any of these, or a file that is absent or cannot be used.
-/

namespace FilterQuery

/-! ## 1. Clauses -/

/-- Why a text is no clause. -/
inductive ClauseFault where
  | noPath
  | emptyComponent
  | emptyDirective
  | componentAfterDirective
  /-- A comparison of `marks` negation marks and no symbol. -/
  | unknownOperator (marks : Nat)
  | twoOperators
  deriving DecidableEq, Repr

/-- The wording of a clause's fault. -/
def ClauseFault.message (clause : String) : ClauseFault → String
  | .noPath => String.join ["no path given in ", Text.quote clause]
  | .emptyComponent => String.join ["empty path component in ", Text.quote clause]
  | .emptyDirective => String.join ["empty directive in ", Text.quote clause]
  | .componentAfterDirective =>
    String.join ["path component after directive in ", Text.quote clause]
  | .unknownOperator marks =>
    String.join ["unknown operator ", Text.quote (String.ofList (List.replicate marks '!')), " in ",
      Text.quote clause]
  | .twoOperators =>
    String.join ["both path-style and equality-style operator provided in ", Text.quote clause]

/-! ## 2. Queries -/

/-- Why a text is no query. -/
inductive QueryFault where
  | tooLong (size limit : Nat)
  | badClause (clause : String) (fault : ClauseFault)
  | misplacedConnective (connective : Connective) (position : Nat)
  | misplacedGroup (position : Nat)
  | tooDeep (limit position : Nat)
  | unmatchedClose (position : Nat)
  | missingConnective (position : Nat)
  | emptyClause (position : Nat)
  | unclosedGroup
  deriving DecidableEq, Repr

/-- The wording of a query's fault. -/
def QueryFault.message : QueryFault → String
  | .tooLong size limit =>
    String.join ["query is ", toString size, " bytes, limit is ", toString limit]
  | .badClause clause fault => fault.message clause
  | .misplacedConnective connective position =>
    String.join ["combinator `", connective.mark.toString, "` out of place at byte ",
      toString position]
  | .misplacedGroup position =>
    String.join ["group must follow a combinator at byte ", toString position]
  | .tooDeep limit position =>
    String.join ["groups nested deeper than ", toString limit, " at byte ", toString position]
  | .unmatchedClose position => String.join ["unmatched `)` at byte ", toString position]
  | .missingConnective position =>
    String.join ["missing combinator after group at byte ", toString position]
  | .emptyClause position => String.join ["empty clause at byte ", toString position]
  | .unclosedGroup => "unbalanced parentheses, `)` expected"

/-! ## 3. Settings -/

/-- Why a text is no unsigned 64-bit number. -/
inductive NumberFault where
  | empty
  | invalidDigit
  | tooLarge
  deriving DecidableEq, Repr

/-- The wording of a number's fault. -/
def NumberFault.message : NumberFault → String
  | .empty => "cannot parse integer from empty string"
  | .invalidDigit => "invalid digit found in string"
  | .tooLarge => "number too large to fit in target type"

/-- Why settings are refused. -/
inductive SettingsFault where
  /-- The text holds no limits. -/
  | badLimits
  /-- The text holds no table of fields. -/
  | badFields
  /-- The limits have no stored form. -/
  | unwritableLimits
  /-- The nesting limit from the environment, as it was given. -/
  | badDepth (given : String) (fault : NumberFault)
  deriving DecidableEq, Repr

/-- The wording of a settings fault. -/
def SettingsFault.message : SettingsFault → String
  | .badLimits => "Failed to parse config: "
  | .badFields => "Failed to parse field map: "
  | .unwritableLimits => "Failed to serialize config: "
  | .badDepth given fault =>
    String.join ["Invalid SIFT_MAX_DEPTH=", Text.quote given, ": ", fault.message]

/-! ## 4. All refusals -/

/-- Any refusal. -/
inductive Error where
  | malformed (fault : QueryFault)
  | settings (fault : SettingsFault)
  | notFound (path : String)
  | unusableFile
  deriving DecidableEq, Repr

namespace Error

/-- The wording of a refusal, with its class in front. -/
def message : Error → String
  | .malformed fault => String.join ["Malformed query: ", fault.message]
  | .settings fault => String.join ["Configuration error: ", fault.message]
  | .notFound path => String.join ["Config file not found at ", path]
  | .unusableFile => "IO error"

/-- A refusal is the client's fault exactly when the query text caused it. -/
def isClientFault : Error → Bool
  | .malformed _ => true
  | _ => false

end Error

end FilterQuery
