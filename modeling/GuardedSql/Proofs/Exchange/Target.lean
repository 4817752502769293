import GuardedSql.Endpoint.Config
import GuardedSql.Proofs.Exchange.Confine
import GuardedSql.Proofs.Url.Extend

/-! # Targets — where a statement is posted, and how its answer is known again

    A statement is posted to an address below the base, and so are the
    credentials.  Whatever the path of the endpoint holds, that address has
    scheme, user, host, port, query and fragment of the base, and its path
    begins with the folders of the base, perhaps without the last.  The last
    is lost if the first piece of the path is two dots with a tab or a line end
    in between or around: it is no plain `..`, which is passed over, but is
    read as one.  It is lost as well if it is empty and the only one.

    An answer from this very address was not redirected.  It is taken for a
    redirect all the same if the text of the base is no longer found at the
    beginning of the address: because a query or a fragment stands behind the
    path that was extended, or because the path only lost a slash. -/

namespace GuardedSql

namespace Endpoint

open Url Check

variable {α : Type} {e : Endpoint} {s : Statement} {sql path config : Text} {base : Url}
  {judge : Text → Except Error α} {reply : Request → Reply}

/-! ## The address -/

/-- An endpoint that was configured has a base. -/
theorem exists_base_of_ofJson [DomainMapping] (h : Endpoint.ofJson config = .ok e) :
    ∃ base, e.base = .ok base := by
  obtain ⟨endpoint, -, h⟩ := bind_eq_ok.mp h
  obtain ⟨base, hbase, h⟩ := bind_eq_ok.mp h
  rw [← pure_eq_ok.mp h]
  exact ⟨base, hbase⟩

/-- Every base of an endpoint can be extended, since it was read. -/
theorem extendable_of_base [DomainMapping] (h : e.base = .ok base) : base.Extendable := by
  obtain ⟨-, hcan⟩ := sound_of_base h
  refine ⟨hcan, ?_⟩
  rw [Endpoint.base] at h
  split at h
  · cases h
  · rename_i hparse
    split at h
    · rw [← Except.ok.inj h]
      exact rooted_of_parse hparse
    · cases h

theorem urlFor_eq_below [DomainMapping] (h : e.base = .ok base) :
    e.urlFor path = .ok (base.below path) :=
  urlFor_of_base h

/-- The target is below the base, as far as the path lets it be. -/
structure Targets (base : Url) (path : Text) (target : Url) : Prop where
  scheme : target.scheme = base.scheme
  /-- The same user, password, host and port. -/
  authority : target.authority = base.authority
  query : target.query = base.query
  fragment : target.fragment = base.fragment
  /-- The path goes on from the folders of the base, unless one is taken back
      or a hollow base gives way. -/
  inside : ¬ base.TakenBack path → (base.Hollow → Path.additions path = []) →
    base.folders <+: target.segments
  /-- In no case is more than one folder lost. -/
  near : base.folders.dropLast <+: target.segments

/-- The address below a base keeps all of it but the path. -/
theorem targets_below (h : base.Extendable) (path : Text) :
    Targets base path (base.below path) where
  scheme := by rw [below_eq h.can]
  authority := by rw [below_eq h.can]
  query := by rw [below_eq h.can]
  fragment := by rw [below_eq h.can]
  inside := h.inside
  near := h.near path

/-- **Below the base**: an endpoint with a base, like every one that was
    configured, has an address to read and one to write, and whatever the
    characters of the two paths both are below the base. -/
theorem targets_of_base [DomainMapping] (e : Endpoint) :
    (∀ config, Endpoint.ofJson config = .ok e → ∃ base, e.base = .ok base) ∧
    ∀ base, e.base = .ok base → ∃ read write, e.readUrl = .ok read ∧ e.writeUrl = .ok write ∧
      Targets base e.readPath read ∧ Targets base e.writePath write := by
  refine ⟨fun config h => exists_base_of_ofJson h, ?_⟩
  intro base h
  have hextendable := extendable_of_base h
  exact ⟨base.below e.readPath, base.below e.writePath, urlFor_eq_below h, urlFor_eq_below h,
    targets_below hextendable e.readPath, targets_below hextendable e.writePath⟩

/-- Marks of an address, dots in every spelling and two dots that a tab hides,
    which are no first piece. -/
theorem targets_of_base_marked :
    let e : Endpoint := ⟨chars "http://app:pw@db.test:81/v1/api/?k#f", chars "..//%2e%2e/?x#y\\",
      chars "write/.\t./@z", chars "app", chars "pw", 30⟩
    let address (segments : List Text) : Url :=
      ⟨chars "http", some ⟨chars "app", chars "pw", .domain (chars "db.test"), some 81⟩,
        .segments segments, false, some (chars "k"), some (chars "f")⟩
    e.base = .ok (address [chars "v1", chars "api", []]) ∧
    e.readUrl = .ok (address [chars "v1", chars "api", chars "%252e%252e", chars "%3Fx%23y%5C"]) ∧
    e.writeUrl = .ok (address [chars "v1", chars "api", [], chars "@z"]) ∧
    ∃ read write, e.readUrl = .ok read ∧ e.writeUrl = .ok write ∧
      [chars "v1", chars "api"] <+: read.segments ∧
      [chars "v1", chars "api"] <+: write.segments := by
  intro e address
  have hbase : e.base = .ok (address [chars "v1", chars "api", []]) := by decide +kernel
  obtain ⟨read, write, hread, hwrite, htargets, htargets'⟩ := (targets_of_base e).2 _ hbase
  refine ⟨hbase, by decide +kernel, by decide +kernel, read, write, hread, hwrite, ?_, ?_⟩
  · exact htargets.inside (by decide +kernel) (by decide +kernel)
  · exact htargets'.inside (by decide +kernel) (by decide +kernel)

/-- Two dots with a tab in between, as the first piece, lead out of the last
    folder of the base. -/
theorem not_inside_of_hidden_dots :
    let e : Endpoint := ⟨chars "http://db.test/api", chars ".\t./other/read", chars "write",
      chars "app", chars "pw", 30⟩
    ∃ base read, e.base = .ok base ∧ e.readUrl = .ok read ∧
      read.render = chars "http://db.test/other/read" ∧
      base.folders = [chars "api"] ∧ ¬ base.folders <+: read.segments := by
  intro e
  let address (segments : List Text) : Url :=
    ⟨chars "http", some { host := .domain (chars "db.test") }, .segments segments, false, none,
      none⟩
  refine ⟨address [chars "api"], address [chars "other", chars "read"], ?_⟩
  refine ⟨by decide +kernel, by decide +kernel, by decide +kernel, by decide +kernel, ?_⟩
  decide +kernel

/-- So does any path under a base whose only folder is empty. -/
example :
    let e : Endpoint := ⟨chars "http://db.test//", chars "read", chars "write", chars "app",
      chars "pw", 30⟩
    e.readUrl.map Url.render = .ok (chars "http://db.test/read") := by
  decide +kernel

end Endpoint

/-! ## The answer -/

namespace Response

variable {α : Type} {row : RowReader α} {body text : Text}

/-- What an answer says is never that it was redirected. -/
theorem rows_ne_redirected : rows row body ≠ .error (.redirected text) := by
  intro h
  rw [rows] at h
  split at h
  · cases h
  · split at h
    · cases h
    · split at h
      · cases h
      · split at h
        all_goals cases h
      · cases h

/-- What a body says of a write is never that it was redirected. -/
theorem written_ne_redirected : written body ≠ .error (.redirected text) := by
  intro h
  rw [written] at h
  split at h
  all_goals cases h

end Response

namespace Endpoint

open Url

variable {α : Type} {e : Endpoint} {s : Statement} {sql path config : Text} {base : Url}
  {judge : Text → Except Error α} {reply : Request → Reply}

/-- How an attempt takes an answer from the address that it asked. -/
structure Recognises [DomainMapping] (e : Endpoint) (base : Url) (path : Text)
    (reply : Request → Reply) (a : Attempt α) : Prop where
  /-- Something is posted, to the address below the base. -/
  posted : ∃ request, a.request = some request ∧ e.urlFor path = .ok request.url
  /-- The text of the base is found again exactly if the address continues
      it. -/
  begins_iff : ∀ request, a.request = some request → ¬ base.TakenBack path →
    (base.render <+: request.url.render ↔ base.Continues path)
  /-- An answer from the address that was asked is taken for a redirect exactly
      if it comes in time and the address does not continue the base. -/
  redirected_iff : ∀ request delivery, a.request = some request → ¬ base.TakenBack path →
    (reply request).outcome = .ok delivery → delivery.url = request.url →
    ((∃ text, a.result = .error (.redirected text)) ↔
      (reply request).delay ≤ e.timeoutMillis ∧ ¬ base.Continues path)

/-- One attempt of a statement that can be sent knows the address again, if the
    judge does not speak of redirects itself. -/
theorem recognises_of_attempt [DomainMapping] (h : e.base = .ok base) (hsql : s.toSql = .ok sql)
    (hjudge : ∀ body text, judge body ≠ .error (.redirected text)) :
    e.Recognises base path reply (e.attempt (e.urlFor path) judge reply s) := by
  obtain ⟨hsound, -⟩ := sound_of_base h
  have hurl : e.urlFor path = .ok (base.below path) := urlFor_eq_below h
  have hbegins (hback : ¬ base.TakenBack path) :
      base.render <+: (base.below path).render ↔ base.Continues path :=
    (extendable_of_base h).begins_iff hsound hback
  rw [attempt_of_ok hurl h hsql]
  refine ⟨⟨_, rfl, hurl⟩, ?_, ?_⟩
  · rintro _ ⟨⟩ hback
    exact hbegins hback
  · rintro _ delivery ⟨⟩ hback houtcome hasked
    dsimp only at hasked ⊢
    rw [← hbegins hback]
    by_cases hlate : e.timeoutMillis < (reply ⟨base.below path, e.form sql⟩).delay
    · rw [verdict_of_late hlate]
      constructor
      · exact fun ⟨_, hnot⟩ => nomatch hnot
      · exact fun ⟨hintime, _⟩ => absurd hlate (Nat.not_lt.mpr hintime)
    · have hintime := Nat.not_lt.mp hlate
      by_cases hin : base.render <+: (base.below path).render
      · rw [verdict_of_inside hintime houtcome (hasked ▸ hin)]
        constructor
        · exact fun ⟨text, hredirected⟩ => absurd hredirected (hjudge _ text)
        · exact fun ⟨_, hout⟩ => absurd hin hout
      · rw [verdict_of_outside hintime houtcome (hasked ▸ hin)]
        exact ⟨fun _ => ⟨hintime, hin⟩, fun _ => ⟨_, rfl⟩⟩

/-- **Known again**: under a configured endpoint an answer to a read or a write
    that comes from the address asked is taken for a redirect exactly if that
    address does not continue the base: never if the base has no query and no
    fragment, is not hollow, and something is added to it. -/
theorem recognises_of_call [DomainMapping] (h : Endpoint.ofJson config = .ok e) (row : RowReader α)
    (reply : Request → Reply) (hsql : s.toSql = .ok sql) :
    ∃ base, e.base = .ok base ∧
      e.Recognises base e.readPath reply (e.fetchAll row reply s) ∧
      e.Recognises base e.writePath reply (e.execute reply s) := by
  obtain ⟨base, hbase⟩ := exists_base_of_ofJson h
  refine ⟨base, hbase, ?_, ?_⟩
  · exact recognises_of_attempt hbase hsql fun _ _ => Response.rows_ne_redirected
  · exact recognises_of_attempt hbase hsql fun _ _ => Response.written_ne_redirected

/-- The base that a configuration gives, without a query. -/
theorem recognises_of_call_plain :
    let config := chars "\x7b\"base_url\":\"http://db.test/api/\",\"read_path\":\"read\"," ++
      chars "\"write_path\":\"/v2/write\",\"username\":\"app\",\"password\":\"pw\"\x7d"
    let e : Endpoint := ⟨chars "http://db.test/api/", chars "read", chars "/v2/write", chars "app",
      chars "pw", 30⟩
    let s := Statement.empty.steps [.set (.update (chars "t") (chars "a") (chars "1"))]
    let reply : Request → Reply := fun request => ⟨7, .ok ⟨request.url, chars "Error"⟩⟩
    Endpoint.ofJson config = .ok e ∧ s.toSql = .ok (chars "UPDATE `t` SET a=1;") ∧
    ¬ ∃ text, (e.execute reply s).result = .error (.redirected text) := by
  intro config e s reply
  have hconfig : Endpoint.ofJson config = .ok e := by decide +kernel
  have hsql : s.toSql = .ok (chars "UPDATE `t` SET a=1;") := by decide +kernel
  obtain ⟨base, hbase, -, hknown⟩ := recognises_of_call hconfig RowReader.any reply hsql
  have haddress : e.base = .ok ⟨chars "http", some { host := .domain (chars "db.test") },
      .segments [chars "api", []], false, none, none⟩ := by decide +kernel
  obtain rfl := Except.ok.inj (haddress.symm.trans hbase)
  obtain ⟨request, hrequest, -⟩ := hknown.posted
  have hredirected :=
    hknown.redirected_iff request ⟨request.url, chars "Error"⟩ hrequest (by decide +kernel) rfl rfl
  refine ⟨hconfig, hsql, fun h => (hredirected.mp h).2 ?_⟩
  decide +kernel

/-- Under a base with a query the answer of the address that was asked is taken
    for a redirect. -/
theorem redirected_under_query :
    let config := chars "\x7b\"base_url\":\"http://db.test/api?key=1\",\"read_path\":\"read\"," ++
      chars "\"write_path\":\"write\",\"username\":\"app\",\"password\":\"pw\"\x7d"
    let s := Statement.empty.steps [.set (.update (chars "t") (chars "a") (chars "1"))]
    let reply : Request → Reply := fun request => ⟨0, .ok ⟨request.url, chars "Success"⟩⟩
    ∃ e, Endpoint.ofJson config = .ok e ∧ s.toSql = .ok (chars "UPDATE `t` SET a=1;") ∧
      (e.execute reply s).result =
        .error (.redirected (chars "http://db.test/api/write?key=1")) := by
  intro config s reply
  refine ⟨⟨chars "http://db.test/api?key=1", chars "read", chars "write", chars "app", chars "pw",
    30⟩, ?_, ?_, ?_⟩
  · decide +kernel
  · decide +kernel
  · decide +kernel

/-- So is it if the path adds nothing and the base loses its last slash. -/
example :
    let e : Endpoint := ⟨chars "http://db.test/api/", [], [], chars "app", chars "pw", 30⟩
    let s := Statement.empty.steps [.set (.update (chars "t") (chars "a") (chars "1"))]
    let reply : Request → Reply := fun request => ⟨0, .ok ⟨request.url, chars "Success"⟩⟩
    (e.execute reply s).result = .error (.redirected (chars "http://db.test/api")) := by
  decide +kernel

end Endpoint

end GuardedSql
