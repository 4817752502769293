import GuardedSql.Error
import GuardedSql.Literal

/-! # Tokens — the guard against smuggled SQL

    Every name and every value given by a caller passes `Token.check` before
    it becomes part of a statement.  The checks run in a fixed order, and the
    first that fails is the one reported: wildcard, emptiness, symbols,
    backticks, keywords, and last what the role of the token asks for. -/

namespace GuardedSql.Token

/-- What a token is to be used as. -/
inductive Role where
  /-- A name of a table, a column or a database. -/
  | name
  /-- The right-hand side of a comparison or an assignment. -/
  | value
  /-- The bounds of a range, `low AND high`. -/
  | range
  /-- The items of a list, between commas. -/
  | list
  deriving DecidableEq, Repr

/-- The role in messages. -/
def Role.context : Role → Text
  | .name => chars "identifier"
  | .value => chars "value"
  | .range => chars "BETWEEN value"
  | .list => chars "IN value"

/-- The longest segment of a name, in characters. -/
def maxSegment : Nat := 64

/-- The longest delimited first segment of a name of several segments:
    the delimiters are not counted against it. -/
def maxDelimitedFirst : Nat := maxSegment + 2

/-- The symbols that no token holds, in the order in which they are looked
    for. -/
def symbols : List Text :=
  ["=", "<", ">", "!", "'", "\"", ",", ";", "--"].map chars

/-- The keywords that no token holds as a word. -/
def keywords : List Text :=
  ["LIKE", "NOT", "ASC", "DESC", "SELECT", "FROM", "JOIN", "INNER", "OUTER",
   "CROSS", "NATURAL", "UNION", "WHERE", "IN", "BETWEEN", "AND",
   "OR"].map chars

/-- A character of a word: an ASCII letter or digit, `_` or `$`. -/
def isWordChar (c : Char) : Bool := c.isAlphanum || c == '_' || c == '$'

/-- The words of a token, in upper case. -/
def wordsOf (token : Text) : List Text :=
  (token.runs isWordChar).map Text.upper

/-- The first forbidden symbol in the token; a list may hold commas. -/
def symbolIn? (role : Role) (token : Text) : Option Text :=
  symbols.find? fun symbol =>
    !(symbol == [','] && role == .list) && symbol.occursIn token

/-- A backtick stands where it delimits nothing: within a segment of a name,
    or anywhere in a value. -/
def misplacedTick (role : Role) (token : Text) : Bool :=
  match role with
  | .name =>
      (Name.segments token).any fun segment =>
        (Name.inner segment).contains Name.tick
  | _ => token.contains Name.tick

/-- The first forbidden keyword among the words; `AND` is none in a range,
    and `ORDER` is one only before `BY`. -/
def keywordIn? (role : Role) : List Text → Option Text
  | [] => none
  | word :: rest =>
      if word = chars "AND" ∧ role = .range then keywordIn? role rest
      else if word ∈ keywords then some word
      else if word = chars "ORDER" ∧ rest.head? = some (chars "BY") then
        some (chars "ORDER BY")
      else keywordIn? role rest

/-- No segment of the name is blank or longer than its limit. -/
def checkSegments (token : Text) : Except Error Unit :=
  let blank (segment : Text) : Bool :=
    (segment.trimWith (· == Name.tick)).allBlank
  let within (limit : Nat) (segment : Text) : Except Error Unit :=
    if segment.length > limit then .error (.tooLong token limit) else .ok ()
  match Name.segments token with
  | [] => .ok ()
  | first :: rest =>
      if (first :: rest).any blank then
        .error (.emptyValue (chars "identifier segment"))
      else do
        let delimited := !rest.isEmpty && first.contains Name.tick
        within (if delimited then maxDelimitedFirst else maxSegment) first
        rest.forM (within maxSegment)

/-- What the role alone asks for. -/
def checkRole (role : Role) (token : Text) : Except Error Unit :=
  match role with
  | .name => checkSegments token
  | .value => .ok ()
  | .range =>
      if (Literal.bounds? token).isSome then .ok ()
      else .error (.unexpected (.notARange token))
  | .list =>
      if (Literal.items token).any List.isEmpty then
        .error (.emptyValue role.context)
      else .ok ()

/-- The token is acceptable in its role; else the first reason why not. -/
def check (role : Role) (token : Text) : Except Error Unit :=
  if token.contains '*' then .error (.wildcard token)
  else if token.allBlank then .error (.emptyValue role.context)
  else
    match symbolIn? role token with
    | some symbol => .error (.unexpected (.containsSymbol token symbol))
    | none =>
        if misplacedTick role token then
          .error (.unexpected (.containsSymbol token [Name.tick]))
        else
          match keywordIn? role (wordsOf token) with
          | some keyword =>
              .error (.unexpected (.containsKeyword token keyword))
          | none => checkRole role token

end GuardedSql.Token
