import GuardedSql.Exchange.Batch
import GuardedSql.Proofs.Statement.Sendable

/-! # Requests — what is posted, and for which statement

    A request carries the form of a statement that `toSql` let through, and
    goes to the address of the attempt.  In a batch every request is that of
    one of its statements. -/

namespace GuardedSql

namespace Endpoint

variable [Url.DomainMapping] {α : Type} {e : Endpoint} {s : Statement} {request : Request}

/-- What is posted for a statement: its text in a form, to a usable address. -/
theorem request_of_attempt {target : Except Error Url} {judge : Text → Except Error α}
    {reply : Request → Reply} (h : (e.attempt target judge reply s).request = some request) :
    ∃ url sql, target = .ok url ∧ s.toSql = .ok sql ∧ request = ⟨url, e.form sql⟩ := by
  cases target with
  | error error => exact nomatch h
  | ok url =>
      cases hsql : s.toSql with
      | error error =>
          simp only [attempt, hsql] at h
          exact nomatch h
      | ok sql =>
          cases hbase : e.base with
          | error error =>
              simp only [attempt, hsql, hbase] at h
              exact nomatch h
          | ok base =>
              simp only [attempt, hsql, hbase, Option.some.injEq] at h
              exact ⟨url, sql, rfl, rfl, h.symm⟩

end Endpoint

namespace Batch

variable {α : Type} {a : Attempt α} {attempts : List (Attempt α)}

/-- Of the attempts of a batch some are begun. -/
theorem mem_of_mem_begunTogether (h : a ∈ begunTogether attempts) : a ∈ attempts := by
  induction attempts with
  | nil => exact h
  | cons b rest ih =>
      rw [begunTogether] at h
      split at h
      · rw [List.mem_singleton.mp h]
        exact List.mem_cons_self ..
      · rcases List.mem_cons.mp h with rfl | hrest
        · exact List.mem_cons_self ..
        · exact List.mem_cons_of_mem _ (ih hrest)

theorem mem_of_mem_begunInOrder (h : a ∈ begunInOrder attempts) : a ∈ attempts := by
  induction attempts with
  | nil => exact h
  | cons b rest ih =>
      rw [begunInOrder] at h
      split at h
      · exact h
      · split at h
        · rw [List.mem_singleton.mp h]
          exact List.mem_cons_self ..
        · rcases List.mem_cons.mp h with rfl | hrest
          · exact List.mem_cons_self ..
          · exact List.mem_cons_of_mem _ (ih hrest)

/-- A request of a batch is that of one of its attempts. -/
theorem exists_of_mem_requests {request : Request} (h : request ∈ (settle attempts).requests) :
    ∃ a ∈ attempts, a.request = some request := by
  obtain ⟨a, hbegun, hrequest⟩ := List.mem_filterMap.mp h
  refine ⟨a, ?_, hrequest⟩
  split at hbegun
  · exact mem_of_mem_begunTogether hbegun
  · exact mem_of_mem_begunInOrder hbegun

end Batch

namespace Endpoint

variable {α : Type} {e : Endpoint} {row : RowReader α} {transport : Transport} {s : Statement}

section

variable [Url.DomainMapping]

/-- The attempts of a batch are those of its statements. -/
theorem exists_of_mem_attempts {a : Attempt (List α)} {number : Nat} {statements : List Statement}
    (h : a ∈ e.attempts row transport number statements) :
    ∃ s ∈ statements, ∃ number, a = e.fetchAll row (transport number) s := by
  induction statements generalizing number with
  | nil => exact nomatch h
  | cons s rest ih =>
      rw [attempts] at h
      rcases List.mem_cons.mp h with rfl | hrest
      · exact ⟨s, List.mem_cons_self .., number, rfl⟩
      · obtain ⟨s', hs', found⟩ := ih hrest
        exact ⟨s', List.mem_cons_of_mem _ hs', found⟩

/-- A request of a batch is that of one of its statements. -/
theorem exists_of_mem_fetchEach {request : Request} {statements : List Statement}
    (h : request ∈ (e.fetchEach row transport statements).requests) :
    ∃ s ∈ statements, ∃ number,
      (e.fetchAll row (transport number) s).request = some request := by
  obtain ⟨a, ha, hrequest⟩ := Batch.exists_of_mem_requests h
  obtain ⟨s, hs, number, rfl⟩ := exists_of_mem_attempts ha
  exact ⟨s, hs, number, hrequest⟩

/-- The request carries the text of the statement, and the statement has a
    table in every select. -/
def CarriesSourced (e : Endpoint) (request : Request) (s : Statement) : Prop :=
  request.payload = e.form s.render ∧ ∀ node ∈ s.nodes, node.Sourced

/-- What is posted for a vetted statement has a table in every select. -/
theorem carriesSourced_of_attempt {target : Except Error Url} {judge : Text → Except Error α}
    {reply : Request → Reply} {request : Request} (hvetted : s.Vetted)
    (h : (e.attempt target judge reply s).request = some request) :
    e.CarriesSourced request s := by
  obtain ⟨url, sql, -, hsql, rfl⟩ := request_of_attempt h
  have hrender := (Statement.toSql_eq_ok.mp hsql).2.2
  exact ⟨congrArg e.form hrender.symm, hvetted.sourced fun _ => ⟨sql, hsql⟩⟩

/-- **Sent as it is**: of statements that are vetted, `toSql` lets through only
    those with a table in every select, and so does a request, whether for a
    read, a write or a batch. -/
theorem carriesSourced_of_vetted (e : Endpoint) (row : RowReader α) (transport : Transport)
    {statements : List Statement} (hvetted : ∀ s ∈ statements, s.Vetted) :
    (∀ s ∈ statements, ∀ sql, s.toSql = .ok sql →
      sql = s.render ∧ ∀ node ∈ s.nodes, node.Sourced) ∧
    (∀ s ∈ statements, ∀ reply request,
      (e.fetchAll row reply s).request = some request ∨
        (e.execute reply s).request = some request → e.CarriesSourced request s) ∧
    ∀ request ∈ (e.fetchEach row transport statements).requests,
      ∃ s ∈ statements, e.CarriesSourced request s := by
  refine ⟨?_, ?_, ?_⟩
  · intro s hs sql hsql
    have hrender := (Statement.toSql_eq_ok.mp hsql).2.2
    exact ⟨hrender.symm, (hvetted s hs).sourced fun _ => ⟨sql, hsql⟩⟩
  · rintro s hs reply request (hread | hwrite)
    · exact carriesSourced_of_attempt (hvetted s hs) hread
    · exact carriesSourced_of_attempt (hvetted s hs) hwrite
  · intro request hrequest
    obtain ⟨s, hs, number, hposted⟩ := exists_of_mem_fetchEach hrequest
    exact ⟨s, hs, carriesSourced_of_attempt (hvetted s hs) hposted⟩

end

/-- A batch of a statement without a mode that carries a read, and of an insert
    that carries it; both are sent. -/
theorem carriesSourced_of_vetted_chained :
    let e : Endpoint := ⟨chars "http://db.test/api", chars "read", chars "write", chars "app",
      chars "pw", 30⟩
    let transport := Transport.scripted [{ delay := 5, body := chars "No Data" }]
    let read := Statement.empty.steps
      [.set (.select [chars "id"]), .set (.fromTables [chars "t"])]
    let carrier := Statement.empty.steps [.append read, .set (.limit 1)]
    let insert := Statement.empty.steps
      [.set (.insert (chars "u") [chars "1"] [chars "id"]), .append read]
    ((e.fetchEach RowReader.any transport [carrier, insert]).requests.length = 2 ∧
      carrier.Vetted ∧ insert.Vetted) ∧
    ∀ request ∈ (e.fetchEach RowReader.any transport [carrier, insert]).requests,
      ∃ s ∈ [carrier, insert], e.CarriesSourced request s := by
  intro e transport read carrier insert
  have hcarrier : carrier.Vetted := Statement.vetted_of_sourced carrier (by decide +kernel)
  have hinsert : insert.Vetted := Statement.vetted_of_sourced insert (by decide +kernel)
  refine ⟨⟨by decide +kernel, hcarrier, hinsert⟩, ?_⟩
  refine (carriesSourced_of_vetted e RowReader.any transport ?_).2.2
  exact List.forall_mem_cons.mpr ⟨hcarrier, List.forall_mem_singleton.mpr hinsert⟩

/-- A select without a table that is appended is let through and posted. -/
theorem not_sourced_of_appended :
    let e : Endpoint := ⟨chars "http://db.test/api", chars "read", chars "write", chars "app",
      chars "pw", 30⟩
    let s := Statement.empty.steps [.append (Statement.empty.steps [.set (.select [chars "id"])])]
    s.Built ∧ s.toSql = .ok (chars "SELECT `id`;") ∧ (¬ ∀ node ∈ s.nodes, node.Sourced) ∧
    (e.fetchAll RowReader.any (fun _ => ⟨0, .error .noData⟩) s).request.map Request.payload =
      some (e.form (chars "SELECT `id`;")) := by
  intro e s
  refine ⟨.append .empty (.set _ .empty), Statement.toSql_eq_ok.mpr ?_, ?_, ?_⟩
  · decide +kernel
  · decide +kernel
  · decide +kernel

end Endpoint

end GuardedSql
