import GuardedSql.Proofs.Exchange.Gate
import GuardedSql.Proofs.Url.Prefix

/-! # Redirects — how far a judged answer may come from the endpoint

    An answer is judged only if the text of the address it came from begins
    with the text of the base.  What that means for the parts of the address
    is `Url.Confines`: the answer comes from the same scheme, host and port and
    from below the path of the base, if the text of the base ends where a part
    ends, as it does after a slash.  If not, a part that the base breaks off
    may go on: `http://db.test/api` lets `http://db.test/api-old/` pass. -/

namespace GuardedSql.Endpoint

variable {α : Type} {e : Endpoint} {s : Statement} {path : Text} {base : Url}
  {judge : Text → Except Error α} {reply : Request → Reply} {request : Request}
  {delivery : Delivery}

section

variable [Url.DomainMapping]

/-! ## Sound addresses -/

/-- The base was read, and can be extended. -/
theorem sound_of_base (h : e.base = .ok base) : base.Sound ∧ base.canBeBase = true := by
  rw [Endpoint.base] at h
  split at h
  · cases h
  · rename_i hparse
    split at h
    · rename_i hcan
      rw [← Except.ok.inj h]
      exact ⟨Url.sound_of_parse hparse, hcan⟩
    · cases h

/-- What is posted goes to a sound address. -/
theorem sound_of_posted (hbase : e.base = .ok base)
    (h : (e.attempt (e.urlFor path) judge reply s).request = some request) :
    request.url.Sound := by
  obtain ⟨url, sql, hurl, -, rfl⟩ := request_of_attempt h
  rw [urlFor_of_base hbase] at hurl
  rw [← Except.ok.inj hurl]
  exact (sound_of_base hbase).1.extend _

/-- A scripted answer comes from a sound address: one that is written in the
    script, or the one that was asked. -/
theorem sound_of_scripted {lines : List Transport.Line} {number : Nat}
    (hrequest : request.url.Sound)
    (h : (Transport.scripted lines number request).outcome = .ok delivery) :
    delivery.url.Sound := by
  rw [Transport.scripted, Transport.Line.reply] at h
  dsimp only at h
  split at h
  · cases h
  · rw [← Except.ok.inj h]
    exact hrequest
  · split at h
    · rename_i hparse
      rw [← Except.ok.inj h]
      exact Url.sound_of_parse hparse
    · cases h

/-! ## Judged answers -/

/-- An answer that is not taken for a redirect comes from an address whose
    text begins with that of the base. -/
theorem prefix_of_not_redirected (hbase : e.base = .ok base)
    (hrequest : (e.attempt (e.urlFor path) judge reply s).request = some request)
    (hintime : (reply request).delay ≤ e.timeoutMillis)
    (houtcome : (reply request).outcome = .ok delivery)
    (hresult : (e.attempt (e.urlFor path) judge reply s).result ≠
      .error (.redirected delivery.url.render)) :
    base.render <+: delivery.url.render := by
  refine Classical.byContradiction fun hout => hresult ?_
  obtain ⟨url, sql, hurl, hsql, rfl⟩ := request_of_attempt hrequest
  rw [attempt_of_ok hurl hbase hsql]
  exact verdict_of_outside hintime houtcome hout

/-- An answer that was delivered in time and not taken for a redirect comes
    from an address that the base confines; a special base always says more
    than its host and port. -/
def Confined (e : Endpoint) (reply : Request → Reply) (a : Attempt α) : Prop :=
  ∀ request delivery base, a.request = some request → e.base = .ok base →
    (reply request).delay ≤ e.timeoutMillis → (reply request).outcome = .ok delivery →
    a.result ≠ .error (.redirected delivery.url.render) →
    base.Confines delivery.url ∧ (Url.isSpecial base.scheme = true → base.Anchored)

/-- One attempt on a script is confined, whatever address below the base it
    asks and however its answer is judged. -/
theorem confined_of_attempt (lines : List Transport.Line) (number : Nat) :
    e.Confined (Transport.scripted lines number)
      (e.attempt (e.urlFor path) judge (Transport.scripted lines number) s) := by
  intro request delivery base hrequest hbase hintime houtcome hresult
  obtain ⟨hsound, hcan⟩ := sound_of_base hbase
  have hfinal : delivery.url.Sound := sound_of_scripted (sound_of_posted hbase hrequest) houtcome
  have hprefix := prefix_of_not_redirected hbase hrequest hintime houtcome hresult
  exact ⟨Url.confines_of_prefix hsound hfinal hcan hprefix, hsound.special⟩

/-- **Confinement of the answers**: whatever the endpoint, the statement and
    the script of the transport, an answer to a read or a write that is judged
    comes from within the base, as far as its text says where it ends. -/
theorem confined_of_call (e : Endpoint) (row : RowReader α) (lines : List Transport.Line)
    (number : Nat) (s : Statement) :
    let reply := Transport.scripted lines number
    e.Confined reply (e.fetchAll row reply s) ∧ e.Confined reply (e.execute reply s) :=
  ⟨confined_of_attempt lines number, confined_of_attempt lines number⟩

end

/-- A base that ends with a slash confines the answer to its folder. -/
theorem confined_of_call_below :
    let e : Endpoint := ⟨chars "http://db.test/api/", chars "read", chars "write", chars "app",
      chars "pw", 30⟩
    let s := Statement.empty.steps [.set (.update (chars "t") (chars "a") (chars "1"))]
    let final : Url := ⟨chars "http", some { host := .domain (chars "db.test") },
      .segments [chars "api", chars "v2", chars "write"], false, none, none⟩
    let line : Transport.Line :=
      { url := some (chars "http://db.test/api/v2/write"), body := chars "Success" }
    (e.execute (Transport.scripted [line] 0) s).result = .ok () ∧
      final.host = some (.domain (chars "db.test")) ∧ [chars "api"] <+: final.segments := by
  intro e s final line
  let base : Url := ⟨chars "http", some { host := .domain (chars "db.test") },
    .segments [chars "api", []], false, none, none⟩
  let write : Url := ⟨chars "http", some { host := .domain (chars "db.test") },
    .segments [chars "api", chars "write"], false, none, none⟩
  let request : Request := ⟨write, e.form (chars "UPDATE `t` SET a=1;")⟩
  have hbase : e.base = .ok base := by decide +kernel
  have hwrite : e.writeUrl = .ok write := by decide +kernel
  have hsql : s.toSql = .ok (chars "UPDATE `t` SET a=1;") := by decide +kernel
  have hparse : Url.parse (chars "http://db.test/api/v2/write") = .ok final := by decide +kernel
  have houtcome : (Transport.scripted [line] 0 request).outcome =
      .ok ⟨final, chars "Success"⟩ := by
    show (line.reply request).outcome = _
    simp only [Transport.Line.reply, line, hparse]
  have hresult : (e.execute (Transport.scripted [line] 0) s).result = .ok () := by decide +kernel
  have hrequest : (e.execute (Transport.scripted [line] 0) s).request = some request := by
    rw [execute, writeUrl, attempt_of_ok hwrite hbase hsql]
  obtain ⟨-, hconfined⟩ := confined_of_call e RowReader.any [line] 0 s
  obtain ⟨hconfines, -⟩ := hconfined request ⟨final, chars "Success"⟩ base hrequest hbase
    (Nat.zero_le _) houtcome (by rw [hresult]; exact nofun)
  have hclosed : base.Closed := Or.inr ⟨rfl, Or.inl rfl⟩
  exact ⟨hresult, (hconfines.place (Or.inl hclosed)).1, hconfines.inside hclosed⟩

/-- A base without a slash at the end lets an answer from a sibling of its last
    folder pass. -/
theorem not_inside_of_sibling :
    let e : Endpoint := ⟨chars "http://db.test/api", chars "read", chars "write", chars "app",
      chars "pw", 30⟩
    let s := Statement.empty.steps [.set (.update (chars "t") (chars "a") (chars "1"))]
    let line : Transport.Line :=
      { url := some (chars "http://db.test/api-old/write"), body := chars "Success" }
    (e.execute (Transport.scripted [line] 0) s).result = .ok () ∧
    ∃ base final, e.base = .ok base ∧ Url.parse (chars "http://db.test/api-old/write") = .ok final ∧
      base.folders = [chars "api"] ∧ ¬ base.folders <+: final.segments := by
  intro e s line
  let address (segments : List Text) : Url :=
    ⟨chars "http", some { host := .domain (chars "db.test") }, .segments segments, false, none,
      none⟩
  refine ⟨by decide +kernel, address [chars "api"], address [chars "api-old", chars "write"], ?_⟩
  refine ⟨by decide +kernel, by decide +kernel, by decide +kernel, ?_⟩
  decide +kernel

/-- Under another scheme a base may be no more than its host, and lets an
    answer pass from a host whose name goes on. -/
example :
    let e : Endpoint := ⟨chars "db://store", chars "read", chars "write", chars "app",
      chars "pw", 30⟩
    let s := Statement.empty.steps [.set (.update (chars "t") (chars "a") (chars "1"))]
    let line : Transport.Line :=
      { url := some (chars "db://store.other/write"), body := chars "Success" }
    (e.execute (Transport.scripted [line] 0) s).result = .ok () := by
  decide +kernel

end GuardedSql.Endpoint
