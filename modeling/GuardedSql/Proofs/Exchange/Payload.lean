import GuardedSql.Endpoint.Basic
import GuardedSql.Proofs.Form
import GuardedSql.Statement.Call
import Mathlib.Data.List.Basic

/-! # Payloads — the three fields of what is sent

    A statement is sent as a form of three fields: password, user name and the
    text of the statement.  Each of them may hold any character, also those by
    which a form is cut.  Whoever reads the form finds the three fields as they
    were put in, so nothing in a credential or in a token can add a field, hide
    one or change what another says. -/

namespace GuardedSql.Endpoint

variable {e other : Endpoint} {s : Statement} {sql : Text} {payload : Text}

/-- The fields that go with the text of a statement. -/
def fields (e : Endpoint) (sql : Text) : List (Text × Text) :=
  [(chars "Password", e.password), (chars "Username", e.username), (chars "SQLQuery", sql)]

/-- The form of an endpoint is read back as its three fields. -/
theorem decode_form (e : Endpoint) (sql : Text) : Form.decode (e.form sql) = some (e.fields sql) :=
  Form.decode_encode _

/-- There is a payload exactly if the statement can be sent. -/
theorem payload_eq_ok :
    e.payload s = .ok payload ↔ ∃ sql, s.toSql = .ok sql ∧ e.form sql = payload := by
  rw [Endpoint.payload]
  cases s.toSql with
  | error error => exact ⟨nofun, fun ⟨_, hsql, _⟩ => nomatch hsql⟩
  | ok sql =>
      constructor
      · intro h
        exact ⟨sql, rfl, Except.ok.inj h⟩
      · rintro ⟨_, ⟨⟩, rfl⟩
        rfl

/-- The same fields come from the same credentials and the same text. -/
theorem fields_injective {sql' : Text} (h : e.fields sql = other.fields sql') :
    e.password = other.password ∧ e.username = other.username ∧ sql = sql' := by
  simp only [fields, List.cons.injEq, Prod.mk.injEq, true_and, and_true] at h
  exact h

/-- **What is sent is what was put in**: the payload of a statement that can be
    sent is ASCII and is read as the password, the user name and the text of
    the statement, in this order and with nothing else; no other credentials
    and no other text have the same payload. -/
theorem fields_of_payload (e : Endpoint) (h : s.toSql = .ok sql) :
    ∃ payload, e.payload s = .ok payload ∧ (∀ c ∈ payload, c.toNat < 0x80) ∧
      Form.decode payload = some
        [(chars "Password", e.password), (chars "Username", e.username), (chars "SQLQuery", sql)] ∧
      ∀ other : Endpoint, ∀ s', other.payload s' = .ok payload →
        e.password = other.password ∧ e.username = other.username ∧ s'.toSql = .ok sql := by
  refine ⟨e.form sql, payload_eq_ok.mpr ⟨sql, h, rfl⟩, ?_, decode_form e sql, ?_⟩
  · exact fun c hc => Form.isAscii_of_mem_encode hc
  · intro other s' hother
    obtain ⟨sql', hsql', hform⟩ := payload_eq_ok.mp hother
    have hfields : e.fields sql = other.fields sql' := by
      refine Option.some.inj ?_
      rw [← decode_form, ← hform, decode_form]
    obtain ⟨hpassword, husername, rfl⟩ := fields_injective hfields
    exact ⟨hpassword, husername, hsql'⟩

/-- A password that looks like a field of its own, beside a user name and a
    value with the marks of a form. -/
theorem fields_of_payload_disguised :
    let e : Endpoint := ⟨chars "http://db.test/api", chars "read", chars "write", chars "é =+%41\n",
      chars "pw&SQLQuery=DROP", 30⟩
    let s := Statement.empty.steps [.set (.update (chars "t") (chars "a") (chars "x&y%2B z"))]
    s.toSql = .ok (chars "UPDATE `t` SET a='x&y%2B z';") ∧
    ∃ payload, e.payload s = .ok payload ∧ (∀ c ∈ payload, c.toNat < 0x80) ∧
      Form.decode payload = some
        [(chars "Password", chars "pw&SQLQuery=DROP"), (chars "Username", chars "é =+%41\n"),
          (chars "SQLQuery", chars "UPDATE `t` SET a='x&y%2B z';")] := by
  intro e s
  have hsql : s.toSql = .ok (chars "UPDATE `t` SET a='x&y%2B z';") := by decide +kernel
  obtain ⟨payload, hpayload, hascii, hfields, -⟩ := fields_of_payload e hsql
  exact ⟨hsql, payload, hpayload, hascii, hfields⟩

end GuardedSql.Endpoint
