import GuardedSql.Error

/-! # Comparators — how two sides are compared, and how that is spelled

    A comparator fixes whether a condition takes a value and in which role, and
    is written and read by its spelling. -/

namespace GuardedSql

/-! ## Comparators — how a condition relates a column to a value

    Fourteen comparators, each with one spelling.  A symbol stands directly
    between its operands, a keyword is set apart by spaces, and the two null
    checks take no value at all. -/

/-- A comparator of a condition. -/
inductive Comparator where
  | eq | notEq | lt | gt | ltEq | gtEq
  | like | notLike | between | notBetween | oneOf | notOneOf
  | isNull | isNotNull
  deriving DecidableEq, Repr

namespace Comparator

/-- Every comparator, in the order in which spellings are looked up. -/
def all : List Comparator :=
  [eq, notEq, lt, gt, ltEq, gtEq, like, notLike, between, notBetween, oneOf,
   notOneOf, isNull, isNotNull]

/-- The spelling of the comparator on its own. -/
def spelling : Comparator → Text
  | eq => chars "="
  | notEq => chars "!="
  | lt => chars "<"
  | gt => chars ">"
  | ltEq => chars "<="
  | gtEq => chars ">="
  | like => chars "LIKE"
  | notLike => chars "NOT LIKE"
  | between => chars "BETWEEN"
  | notBetween => chars "NOT BETWEEN"
  | oneOf => chars "IN"
  | notOneOf => chars "NOT IN"
  | isNull => chars "IS NULL"
  | isNotNull => chars "IS NOT NULL"

/-- The comparator is written as a symbol. -/
def isSymbol : Comparator → Bool
  | eq | notEq | lt | gt | ltEq | gtEq => true
  | _ => false

/-- A value follows the comparator. -/
def takesValue : Comparator → Bool
  | isNull | isNotNull => false
  | _ => true

/-- The value is a range, `low AND high`. -/
def takesRange : Comparator → Bool
  | between | notBetween => true
  | _ => false

/-- The value is a list of items between commas. -/
def takesList : Comparator → Bool
  | oneOf | notOneOf => true
  | _ => false

/-- The text between column and value: symbols touch their operands,
    keywords stand apart, and after a null check nothing follows. -/
def placed (c : Comparator) : Text :=
  if c.isSymbol then c.spelling
  else if c.takesValue then ' ' :: c.spelling ++ [' ']
  else ' ' :: c.spelling

/-- No comparator is missing from the list. -/
@[simp] theorem mem_all (c : Comparator) : c ∈ all := by cases c <;> decide

/-! ## Reading a comparator — its spelling, up to case and blanks

    A comparator is recognised by its words: the case of ASCII letters and
    the number of blanks between words do not matter.  `<>` is a second
    spelling of `!=`. -/

/-- The comparator with the given spelling. -/
def ofText (t : Text) : Except Error Comparator :=
  let spelled := Text.join " " t.words
  match all.find? fun c => c.spelling.sameFold spelled with
  | some c => .ok c
  | none =>
      if spelled = chars "<>" then .ok notEq
      else .error (.unexpected (.unknownComparator t))

end Comparator

end GuardedSql
