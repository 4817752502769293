import GuardedSql.Json.Basic

/-! # Errors — what can go wrong, with what is said about it

    An error holds what its message needs: the fault of an address, the link
    of a condition, or the clause and the token that were refused. -/

namespace GuardedSql

/-! ## Faults of an address — why a text is not a usable URL -/

/-- Why a text is not a usable URL. -/
inductive Url.Fault where
  | emptyHost
  | internationalName
  | portNumber
  | ipv4Address
  | ipv6Address
  | domainCharacter
  | relativeWithoutBase
  | cannotBeBase
  deriving DecidableEq, Repr

/-- The fault in words. -/
def Url.Fault.message : Url.Fault → Text
  | emptyHost => chars "empty host"
  | internationalName => chars "invalid international domain name"
  | portNumber => chars "invalid port number"
  | ipv4Address => chars "invalid IPv4 address"
  | ipv6Address => chars "invalid IPv6 address"
  | domainCharacter => chars "invalid domain character"
  | relativeWithoutBase => chars "relative URL without a base"
  | cannotBeBase => chars "relative URL with a cannot-be-a-base base"

/-! ## Conjunctions — how a condition is linked to the next one

    The last condition of a clause is linked to nothing, which is a
    conjunction of its own, `none`. -/

/-- The link from a condition to the one after it. -/
inductive Conjunction where
  | and | or | andNot | orNot | none
  deriving DecidableEq, Repr

namespace Conjunction

/-- The name of the conjunction in messages. -/
def name : Conjunction → Text
  | and => chars "AND"
  | or => chars "OR"
  | andNot => chars "AND NOT"
  | orNot => chars "OR NOT"
  | none => chars "NONE"

/-- The condition is the last one. -/
def isNone : Conjunction → Bool
  | none => true
  | _ => false

/-- The text written after a condition that carries the conjunction. -/
def trailing : Conjunction → Text
  | none => []
  | link => ' ' :: link.name

end Conjunction

/-! ## Errors — the reasons, and their messages

    An error is a cause with the data that its message needs.  The causes
    fall into two classes: those raised while a statement is being built,
    which are mistakes of the caller, and those raised while it is sent. -/

/-- Why a token, a list of conditions or a statement is not acceptable. -/
inductive Unexpected where
  | containsSymbol (token symbol : Text)
  | containsKeyword (token keyword : Text)
  | notARange (token : Text)
  | unknownComparator (spelling : Text)
  | noneLinksSeveral
  | lastIsLinked (link : Conjunction)
  | noneBeforeEnd (position count : Nat)
  | databaseWithoutTable
  | limitNotPositive (count : Int)
  | duplicateKeyWithoutInsert
  | nothingToSend
  | selectWithoutFrom
  | stated (message : Text)
  deriving DecidableEq, Repr

/-- The cause in words. -/
def Unexpected.message : Unexpected → Text
  | containsSymbol token symbol =>
      token.inQuotes ++ chars " contains " ++ symbol.inQuotes
  | containsKeyword token keyword =>
      token.inQuotes ++ chars " contains keyword " ++ keyword
  | notARange token =>
      token.inQuotes ++ chars " is not of the form 'low AND high'"
  | unknownComparator spelling =>
      chars "unknown comparator " ++ spelling.inQuotes
  | noneLinksSeveral =>
      chars "NONE cannot link more than one WHERE condition"
  | lastIsLinked link =>
      chars "last WHERE condition must use NONE, found " ++ link.name
  | noneBeforeEnd position count =>
      chars "WHERE condition " ++ Text.ofNat position ++ chars " of " ++
        Text.ofNat count ++ chars " uses NONE before the end"
  | databaseWithoutTable =>
      chars "INTO database given without an INTO table"
  | limitNotPositive count =>
      chars "LIMIT must be positive, got " ++ Text.ofInt count
  | duplicateKeyWithoutInsert =>
      chars "ON DUPLICATE KEY UPDATE requires an INSERT statement"
  | nothingToSend =>
      chars "statement has no SELECT, INSERT or UPDATE clause"
  | selectWithoutFrom => chars "SELECT requires a FROM clause"
  | stated message => message

/-- An error of this library. -/
inductive Error where
  /-- A clause was set before, or another kind of statement was begun. -/
  | alreadySet (clause : Text)
  /-- A `*` stands where one name or value is required. -/
  | wildcard (token : Text)
  /-- Nothing was given where something is required. -/
  | emptyValue (context : Text)
  /-- A segment of a name is longer than the limit. -/
  | tooLong (token : Text) (limit : Nat)
  /-- Paired lists differ in length. -/
  | unequalLengths (columns values : Nat)
  /-- A condition compares a column with itself. -/
  | selfComparison (token : Text)
  /-- Some text or number is not acceptable where it was given. -/
  | unexpected (cause : Unexpected)
  /-- The query matched no rows. -/
  | noData
  /-- A write statement did not report success. -/
  | queryFailed (response : Text)
  /-- The response could not be understood. -/
  | invalidResponse (message : Text)
  /-- The response came from outside the endpoint. -/
  | redirected (url : Text)
  /-- The response did not come in time. -/
  | timeout (seconds : Nat)
  /-- The transport reported a failure. -/
  | transport (message : Text)
  /-- The endpoint has no usable address. -/
  | invalidEndpoint (fault : Url.Fault)
  /-- A JSON text could not be read. -/
  | unreadable (problem : Json.Problem)
  deriving DecidableEq, Repr

namespace Error

/-- The error in words. -/
def message : Error → Text
  | alreadySet clause => clause ++ chars " clause already exists"
  | wildcard token =>
      chars "Wildcard specifier is not allowed in " ++ token.inQuotes
  | emptyValue context => chars "Empty value is not allowed for " ++ context
  | tooLong token limit =>
      chars "Attribute " ++ token.inQuotes ++ chars " exceeds the " ++
        Text.ofNat limit ++ chars " character limit"
  | unequalLengths columns values =>
      chars "Conditions must be equal: " ++ Text.ofNat columns ++
        chars " attributes for " ++ Text.ofNat values ++ chars " values"
  | selfComparison token =>
      chars "WHERE condition compares " ++ token.inQuotes ++
        chars " with itself"
  | unexpected cause => chars "Unexpected value found: " ++ cause.message
  | noData => chars "Query returned no data"
  | queryFailed response => chars "Query failed: " ++ response
  | invalidResponse message => chars "Invalid response: " ++ message
  | redirected url => chars "Response was redirected to " ++ url.inQuotes
  | timeout seconds =>
      chars "Request timed out after " ++ Text.ofNat seconds ++ chars "s"
  | transport message => chars "Transport error: " ++ message
  | invalidEndpoint fault => chars "Invalid endpoint: " ++ fault.message
  | unreadable problem => chars "Serialization error: " ++ problem.message

/-- The error was raised while a statement was being built: a mistake of the
    caller, never worth another try. -/
def isConstruction : Error → Bool
  | alreadySet _ | wildcard _ | emptyValue _ | tooLong .. | unequalLengths ..
  | selfComparison _ | unexpected _ => true
  | _ => false

end Error

end GuardedSql
