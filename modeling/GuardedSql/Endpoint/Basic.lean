import GuardedSql.Text.Percent
import GuardedSql.Statement.Render
import GuardedSql.Text.Quoted
import GuardedSql.Url.Reader

/-! # Endpoints — where statements are sent, and as whom

    An endpoint has a base address.  Statements that read and statements that
    write go to two addresses below it, which extend its path; everything
    else of the base stays.  What is sent is a form with the credentials and
    the text of the statement. -/

namespace GuardedSql

/-- Where and how statements are sent. -/
structure Endpoint where
  baseUrl : Text
  readPath : Text
  writePath : Text
  username : Text
  password : Text
  /-- How long to wait for a response, in seconds. -/
  timeoutSeconds : Nat
  deriving DecidableEq, Repr

namespace Endpoint

variable [Url.DomainMapping]

/-- How long to wait if nothing else is said, in seconds. -/
def defaultTimeout : Nat := 30

/-- The base address, which must be one that can be extended. -/
def base (e : Endpoint) : Except Error Url :=
  match Url.parse e.baseUrl with
  | .error fault => .error (.invalidEndpoint fault)
  | .ok url =>
      if url.canBeBase then .ok url else .error (.invalidEndpoint .cannotBeBase)

/-- The base address extended by a path; empty pieces of the path do not
    count. -/
def urlFor (e : Endpoint) (path : Text) : Except Error Url :=
  e.base.map fun url =>
    url.extend ((path.splitOn '/').filter fun piece => !piece.isEmpty)

/-- The address for statements that read. -/
def readUrl (e : Endpoint) : Except Error Url := e.urlFor e.readPath

/-- The address for statements that write. -/
def writeUrl (e : Endpoint) : Except Error Url := e.urlFor e.writePath

/-- The form that carries the text of a statement. -/
def form (e : Endpoint) (sql : Text) : Text :=
  Form.encode
    [(chars "Password", e.password), (chars "Username", e.username),
      (chars "SQLQuery", sql)]

/-- The form that carries a statement, if it can be sent. -/
def payload (e : Endpoint) (s : Statement) : Except Error Text :=
  s.toSql.map e.form

/-- The endpoint for a reader of logs, who does not see the password. -/
def describe (e : Endpoint) : Text :=
  let field (name : String) (value : Text) : Text :=
    chars name ++ chars ": " ++ value
  chars "Endpoint \x7b " ++
    Text.join ", "
      [field "base_url" e.baseUrl.quoted, field "read_path" e.readPath.quoted,
        field "write_path" e.writePath.quoted,
        field "username" e.username.quoted,
        field "password" (chars "\"<redacted>\""),
        field "timeout_secs" (Text.ofNat e.timeoutSeconds)] ++
    chars " \x7d"

end Endpoint

end GuardedSql
