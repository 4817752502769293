import GuardedSql.Error
import GuardedSql.Json.Reader
import GuardedSql.Text.Basic

/-! # Responses — what the endpoint answered

    The answer to a read is a JSON object whose member `Data` is the list of
    rows, or any text that says there are none.  The answer to a write says
    that it succeeded, or else is itself the reason why it did not. -/

namespace GuardedSql

/-- How a row is made of a JSON value, if it has the right shape. -/
abbrev RowReader (α : Type) := Json → Option α

namespace RowReader

/-- Any value is a row. -/
def any : RowReader Json := some

/-- A row is a whole number that fits in a signed 64-bit word. -/
def integer : RowReader Int
  | .number (.whole n) =>
      if -0x8000000000000000 ≤ n ∧ n < 0x8000000000000000 then some n else none
  | _ => none

/-- A row is a string. -/
def text : RowReader Text
  | .string t => some t
  | _ => none

/-- A row is an object with two named members, and perhaps others, or an
    array of the two values in order. -/
def pair {α β : Type} (firstName secondName : String) (first : RowReader α)
    (second : RowReader β) : RowReader (α × β)
  | .array [a, b] => do return (← first a, ← second b)
  | .object members => do
      let a ← (Json.object members).get? (chars firstName)
      let b ← (Json.object members).get? (chars secondName)
      return (← first a, ← second b)
  | _ => none

/-- A row is a number `id` and a string `name`. -/
def named : RowReader (Int × Text) := pair "id" "name" integer text

end RowReader

namespace Response

/-- What an answer without rows says. -/
def noDataMark : Text := chars "No Data"

/-- What the answer to a successful write says. -/
def successMark : Text := chars "Success"

/-- The rows of an answer to a read. -/
def rows {α : Type} (read : RowReader α) (body : Text) :
    Except Error (List α) :=
  if noDataMark.occursIn body then .error .noData
  else
    match Json.parse body with
    | .error problem => .error (.unreadable problem)
    | .ok json =>
        match json.get? (chars "Data") with
        | none => .error (.invalidResponse (chars "missing \"Data\" key"))
        | some (.array items) =>
            match items.mapM read with
            | some rows => .ok rows
            | none => .error (.unreadable .mismatch)
        | some _ => .error (.unreadable .mismatch)

/-- The verdict of an answer to a write. -/
def written (body : Text) : Except Error Unit :=
  if successMark.occursIn body then .ok () else .error (.queryFailed body.trim)

end Response

end GuardedSql
