import GuardedSql.Exchange.Attempt

/-! # Batches — several reads at once

    The statements of a batch are begun in order and run side by side.  Up to
    thirty are watched together: the first failure in time ends the batch,
    and one that comes before any delay keeps the later statements from being
    sent.  A larger batch is gathered in order: a failure ends it only when
    every statement before it has succeeded.  In both cases a batch without
    failure gives the rows of its statements in their order. -/

namespace GuardedSql

/-- What became of a batch: the requests that were made, in order, and the
    result. -/
structure BatchOutcome (α : Type) where
  requests : List Request
  result : Except Error (List α)

namespace Batch

/-- The greatest number of statements that are watched together. -/
def watchedTogether : Nat := 30

/-- The failures, each with its time, in order. -/
def failures {α : Type} (attempts : List (Attempt α)) : List (Nat × Error) :=
  attempts.filterMap fun a =>
    match a.result with
    | .ok _ => none
    | .error error => some (a.time, error)

/-- The failure with the least time, and of those the first. -/
def earliest : List (Nat × Error) → Option (Nat × Error)
  | [] => none
  | failure :: rest =>
      match earliest rest with
      | none => some failure
      | some other => if other.1 < failure.1 then some other else some failure

/-- The results of attempts of which none failed. -/
def results {α : Type} (attempts : List (Attempt α)) : List α :=
  attempts.filterMap fun a =>
    match a.result with
    | .ok value => some value
    | .error _ => none

/-- The attempts begun when all are watched together: up to the first that
    fails before any delay. -/
def begunTogether {α : Type} : List (Attempt α) → List (Attempt α)
  | [] => []
  | a :: rest =>
      if a.time = 0 ∧ a.failed then [a] else a :: begunTogether rest

/-- The attempts begun when they are gathered in order: once one has to be
    waited for, all later ones are begun. -/
def begunInOrder {α : Type} : List (Attempt α) → List (Attempt α)
  | [] => []
  | a :: rest =>
      if a.time ≠ 0 then a :: rest
      else if a.failed then [a]
      else a :: begunInOrder rest

/-- What a batch comes to, given what becomes of each statement that is
    begun. -/
def settle {α : Type} (attempts : List (Attempt α)) : BatchOutcome α :=
  let together := decide (attempts.length ≤ watchedTogether)
  let begun :=
    if together then begunTogether attempts else begunInOrder attempts
  let failure? :=
    if together then earliest (failures begun) else (failures begun).head?
  { requests := begun.filterMap Attempt.request
    result :=
      match failure? with
      | some (_, error) => .error error
      | none => .ok (results begun) }

end Batch

namespace Endpoint

variable [Url.DomainMapping]

/-- What becomes of each statement if all are begun; `number` is the number
    of the next request. -/
def attempts {α : Type} (e : Endpoint) (row : RowReader α)
    (transport : Transport) : (number : Nat) → List Statement →
      List (Attempt (List α))
  | _, [] => []
  | number, s :: rest =>
      let a := e.fetchAll row (transport number) s
      let next := if a.request.isSome then number + 1 else number
      a :: attempts e row transport next rest

/-- Sends several statements that read, at once. -/
def fetchEach {α : Type} (e : Endpoint) (row : RowReader α)
    (transport : Transport) (statements : List Statement) :
    BatchOutcome (List α) :=
  Batch.settle (e.attempts row transport 0 statements)

end Endpoint

end GuardedSql
