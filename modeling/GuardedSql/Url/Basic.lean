import GuardedSql.Url.Host
import GuardedSql.Url.Path

/-! # Addresses — the parts of a URL, and their text

    An address is a scheme, perhaps an authority (user, password, host and
    port), a path, and perhaps a query and a fragment.  A path is either a
    list of segments or, after a scheme without slashes, one text without
    structure; an address of the second kind cannot be extended. -/

namespace GuardedSql

namespace Url

/-- Who is addressed, and by whom. -/
structure Authority where
  username : Text := []
  password : Text := []
  host : Host := .empty
  port : Option Nat := none
  deriving DecidableEq, Repr

/-- What comes after scheme and authority. -/
inductive PathKind where
  | segments (list : List Text)
  | unstructured (text : Text)
  deriving DecidableEq, Repr

end Url

/-- An address. -/
structure Url where
  scheme : Text
  authority : Option Url.Authority
  path : Url.PathKind
  /-- The path is set apart by `/.`, because without an authority it would
      begin like one. -/
  setApart : Bool := false
  query : Option Text := none
  fragment : Option Text := none
  deriving DecidableEq, Repr

namespace Url

/-- The port that a special scheme uses if none is given; the scheme `file`
    is special and has none. -/
def defaultPort? (scheme : Text) : Option Nat :=
  if scheme = chars "http" ∨ scheme = chars "ws" then some 80
  else if scheme = chars "https" ∨ scheme = chars "wss" then some 443
  else if scheme = chars "ftp" then some 21
  else none

/-- The scheme is that of files. -/
def isFile (scheme : Text) : Bool := scheme == chars "file"

/-- The scheme is special: it has an authority and a path of segments. -/
def isSpecial (scheme : Text) : Bool :=
  isFile scheme || (defaultPort? scheme).isSome

/-- User and password as they are written, with the `@` that ends them. -/
def Authority.renderUser (a : Authority) : Text :=
  if a.username.isEmpty && a.password.isEmpty then []
  else if a.password.isEmpty then a.username ++ ['@']
  else a.username ++ ':' :: a.password ++ ['@']

/-- An authority as it is written. -/
def Authority.render (a : Authority) : Text :=
  a.renderUser ++ a.host.render ++
    match a.port with
    | some port => ':' :: Text.ofNat port
    | none => []

/-- A path as it is written. -/
def PathKind.render : PathKind → Text
  | .segments list => Path.render list
  | .unstructured text => text

/-- A part that is written after a mark if it is there. -/
def renderAfter (mark : Char) : Option Text → Text
  | some part => mark :: part
  | none => []

/-- An address as it is written. -/
def render (u : Url) : Text :=
  u.scheme ++ ':' ::
    (match u.authority with
      | some authority => chars "//" ++ authority.render
      | none => []) ++
    (if u.setApart then chars "/." else []) ++ u.path.render ++
    renderAfter '?' u.query ++ renderAfter '#' u.fragment

/-- The address has a path of segments. -/
def canBeBase (u : Url) : Bool :=
  match u.path with
  | .segments _ => true
  | .unstructured _ => false

/-- The segments of the path, if it has any. -/
def segments (u : Url) : List Text :=
  match u.path with
  | .segments list => list
  | .unstructured _ => []

/-- The address with the given pieces appended to its path, an empty last
    segment of which gives way to them. -/
def extend (u : Url) (pieces : List Text) : Url :=
  match u.path with
  | .segments list =>
      let push := Path.push (isSpecial u.scheme) (isFile u.scheme)
      { u with path := .segments (pieces.foldl push (Path.dropEmptyLast list)) }
  | .unstructured _ => u

end Url

end GuardedSql
