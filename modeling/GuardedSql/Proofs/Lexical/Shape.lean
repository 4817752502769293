import GuardedSql.Proofs.Lexical.Inert
import GuardedSql.Statement.Basic

/-! # Shapes — a statement with its tokens left out

    What the templates write depends on a few choices only: the mode, which
    optional parts there are, the kinds of joins, the comparators and links,
    the directions of sorts.  `Clauses.shape` keeps these and forgets every
    token; `Shape.keywords` is the sequence of keywords that the templates
    write for a shape. -/

namespace GuardedSql

/-- The keywords of a comparator, and the `AND` between the bounds of a
    range. -/
def Comparator.keywords : Comparator → List Text
  | .like => [chars "LIKE"]
  | .notLike => [chars "NOT", chars "LIKE"]
  | .between => [chars "BETWEEN", chars "AND"]
  | .notBetween => [chars "NOT", chars "BETWEEN", chars "AND"]
  | .oneOf => [chars "IN"]
  | .notOneOf => [chars "NOT", chars "IN"]
  | .isNotNull => [chars "NOT"]
  | .eq | .notEq | .lt | .gt | .ltEq | .gtEq | .isNull => []

/-- The keywords of a link. -/
def Conjunction.keywords : Conjunction → List Text
  | .and => [chars "AND"]
  | .or => [chars "OR"]
  | .andNot => [chars "AND", chars "NOT"]
  | .orNot => [chars "OR", chars "NOT"]
  | .none => []

/-- The keywords of a join. -/
def JoinKind.keywords : JoinKind → List Text
  | .inner => [chars "INNER", chars "JOIN"]
  | .left | .right | .full => [chars "OUTER", chars "JOIN"]
  | .cross => [chars "CROSS", chars "JOIN"]
  | .natural => [chars "NATURAL", chars "JOIN"]

/-- The choices that the templates depend on. -/
structure Shape where
  mode : Option Mode
  hasIntoTable : Bool
  hasIntoDatabase : Bool
  hasTables : Bool
  joins : List JoinKind
  conditions : List (Comparator × Conjunction)
  directions : List Direction
  deriving DecidableEq, Repr

/-- The clauses without their tokens. -/
def Clauses.shape (c : Clauses) : Shape where
  mode := c.mode
  hasIntoTable := c.options.intoTable.isSome
  hasIntoDatabase := c.options.intoDatabase.isSome
  hasTables := !c.tables.isEmpty
  joins := c.joins.map Join.kind
  conditions := c.conditions.map fun d => (d.comparator, d.link)
  directions := c.sortKeys.map SortKey.direction

/-- The shapes of the nodes of a statement, each before those of the nodes
    appended to it. -/
def Statement.shape (s : Statement) : List Shape := s.nodes.map Clauses.shape

namespace Shape

/-- The keywords of conditions: between two conditions those of the link
    from the first to the second, and none after the last. -/
def ofConditions : List (Comparator × Conjunction) → List Text
  | [] => []
  | [(comparator, _)] => comparator.keywords
  | (comparator, link) :: rest =>
      comparator.keywords ++ link.keywords ++ ofConditions rest

/-- The keywords of the `WHERE` part. -/
def ofWhere (conditions : List (Comparator × Conjunction)) : List Text :=
  if conditions.isEmpty then [] else chars "WHERE" :: ofConditions conditions

/-- The keywords of the `ORDER BY` part. -/
def ofOrder (directions : List Direction) : List Text :=
  directions.map Direction.keyword

/-- The keywords that the templates write for the shape. -/
def keywords (s : Shape) : List Text :=
  match s.mode with
  | some .select =>
      chars "SELECT" ::
        (if s.hasIntoTable && s.hasIntoDatabase then [chars "IN"] else []) ++
        (if s.hasTables then [chars "FROM"] else []) ++
        s.joins.flatMap JoinKind.keywords ++ ofWhere s.conditions ++ ofOrder s.directions
  | some .update => ofWhere s.conditions ++ ofOrder s.directions
  | some .insert | none => []

end Shape

end GuardedSql
