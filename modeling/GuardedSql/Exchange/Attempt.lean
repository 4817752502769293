import GuardedSql.Endpoint.Basic
import GuardedSql.Response

/-! # Attempts — what is sent, what comes back, and the verdict on it

    One statement is sent at most once.  What a transport replies, and when,
    is data here, so that an attempt is a function of it. -/

namespace GuardedSql

/-! ## Transports — what comes back for a request, and when

    A transport takes requests one after another, numbered from zero, and
    replies to each after a delay, with a failure or with a delivery.  A
    scripted transport takes its replies from a list, and goes on with the
    last one when the list is used up. -/

/-- A form posted to an address. -/
structure Request where
  url : Url
  payload : Text
  deriving DecidableEq, Repr

/-- What a request finally led to: the last address, and the text found
    there. -/
structure Delivery where
  url : Url
  body : Text
  deriving DecidableEq, Repr

/-- A reply to a request. -/
structure Reply where
  /-- How long it takes, in milliseconds. -/
  delay : Nat
  outcome : Except Error Delivery

/-- The reply to the request of each number. -/
abbrev Transport := Nat → Request → Reply

namespace Transport

/-- One line of a script: a reply without an address comes from where the
    request went. -/
structure Line where
  delay : Nat := 0
  failure : Option Text := none
  url : Option Text := none
  body : Text := []
  deriving DecidableEq, Repr

/-- The reply of a line to a request. -/
def Line.reply [Url.DomainMapping] (line : Line) (request : Request) : Reply where
  delay := line.delay
  outcome :=
    match line.failure, line.url with
    | some message, _ => .error (.transport message)
    | none, none => .ok ⟨request.url, line.body⟩
    | none, some text =>
        match Url.parse text with
        | .ok url => .ok ⟨url, line.body⟩
        | .error fault => .error (.invalidEndpoint fault)

/-- The transport that replies line by line. -/
def scripted [Url.DomainMapping] (lines : List Line) : Transport := fun number request =>
  ((lines[number]?.or lines.getLast?).getD {}).reply request

end Transport

/-! ## Attempts — one statement sent, one verdict

    A statement is sent only if the address is usable and the statement can
    be sent.  The verdict on the reply looks at one thing after another: was
    it late, did the transport fail, did it come from outside the endpoint,
    and only then what it says. -/

/-- What became of a statement: the request, if one was made, the time in
    milliseconds after which the result was known, and the result. -/
structure Attempt (α : Type) where
  request : Option Request
  time : Nat
  result : Except Error α

/-- The attempt ended in an error. -/
def Attempt.failed {α : Type} (a : Attempt α) : Bool :=
  match a.result with
  | .ok _ => false
  | .error _ => true

namespace Endpoint

variable [Url.DomainMapping]

/-- How long to wait for a reply, in milliseconds. -/
def timeoutMillis (e : Endpoint) : Nat := e.timeoutSeconds * 1000

/-- The verdict on a reply, given the base address and how to judge its
    text. -/
def verdict {α : Type} (e : Endpoint) (base : Url)
    (judge : Text → Except Error α) (reply : Reply) : Except Error α :=
  if e.timeoutMillis < reply.delay then .error (.timeout e.timeoutSeconds)
  else
    match reply.outcome with
    | .error error => .error error
    | .ok delivery =>
        if base.render.isPrefixOf delivery.url.render then judge delivery.body
        else .error (.redirected delivery.url.render)

/-- An attempt that ended before anything was sent. -/
def unsent {α : Type} (error : Error) : Attempt α := ⟨none, 0, .error error⟩

/-- Sends a statement to an address below the base and judges the reply. -/
def attempt {α : Type} (e : Endpoint) (target : Except Error Url)
    (judge : Text → Except Error α) (reply : Request → Reply)
    (s : Statement) : Attempt α :=
  match target, s.toSql, e.base with
  | .error error, _, _ => unsent error
  | .ok _, .error error, _ => unsent error
  | .ok _, .ok _, .error error => unsent error
  | .ok url, .ok sql, .ok base =>
      let request : Request := ⟨url, e.form sql⟩
      let reply := reply request
      ⟨some request, min reply.delay e.timeoutMillis,
        e.verdict base judge reply⟩

/-- Sends a statement that reads, and reads the rows of the reply. -/
def fetchAll {α : Type} (e : Endpoint) (row : RowReader α)
    (reply : Request → Reply) (s : Statement) : Attempt (List α) :=
  e.attempt e.readUrl (Response.rows row) reply s

/-- Sends a statement that writes. -/
def execute (e : Endpoint) (reply : Request → Reply) (s : Statement) :
    Attempt Unit :=
  e.attempt e.writeUrl Response.written reply s

end Endpoint

end GuardedSql
