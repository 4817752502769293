import GuardedSql.Proofs.Exchange.Gate
import GuardedSql.Proofs.Exchange.Poll

/-! # Joins — the results of a batch, and those of its statements

    A batch takes the replies in the order of its requests, and a statement
    that cannot be sent makes none.  `Agrees` says how little that changes:
    such a statement ends the batch before anything after it counts, so the
    batch comes to what it comes to if each statement has the reply of its own
    number.

    `Endpoint.joined_of_fetchEach` is the contract of a batch in terms of its
    statements: whose results it gives, whose error, and what it posted.  The
    first failure in time counts as long as all statements are watched
    together; for a larger batch it is the first in order. -/

namespace GuardedSql

variable {α : Type} {a : Attempt α} {attempts others : List (Attempt α)}

namespace Batch

/-! ## Attempts that agree -/

/-- Two batches of attempts agree up to the first statement that could not be
    sent; those after it make the same requests. -/
inductive Agrees : List (Attempt α) → List (Attempt α) → Prop
  | nil : Agrees [] []
  | cons (a : Attempt α) {attempts others : List (Attempt α)} (rest : Agrees attempts others) :
      Agrees (a :: attempts) (a :: others)
  | unsent (error : Error) {attempts others : List (Attempt α)}
      (requests : attempts.map Attempt.request = others.map Attempt.request) :
      Agrees (Endpoint.unsent error :: attempts) (Endpoint.unsent error :: others)

/-- Two lists that map to the same options hold the same values. -/
theorem filterMap_eq_of_map_eq {β γ δ : Type} {f : β → Option δ} {g : γ → Option δ}
    {xs : List β} {ys : List γ} (h : xs.map f = ys.map g) : xs.filterMap f = ys.filterMap g := by
  have hjoined := congrArg (List.filterMap id) h
  rwa [List.filterMap_map, List.filterMap_map, Function.id_comp, Function.id_comp] at hjoined

namespace Agrees

theorem refl : (attempts : List (Attempt α)) → Agrees attempts attempts
  | [] => .nil
  | a :: rest => .cons a (refl rest)

/-- Attempts that agree made the same requests. -/
theorem requests_eq (h : Agrees attempts others) :
    attempts.map Attempt.request = others.map Attempt.request := by
  induction h with
  | nil => rfl
  | cons a _ ih => rw [List.map_cons, List.map_cons, ih]
  | unsent error requests => rw [List.map_cons, List.map_cons, requests]

theorem length_eq (h : Agrees attempts others) : attempts.length = others.length := by
  have hlength := congrArg List.length h.requests_eq
  rwa [List.length_map, List.length_map] at hlength

/-- Of attempts that agree the same ones are begun. -/
theorem begun (h : Agrees attempts others) (together : Bool) :
    Agrees (begun together attempts) (begun together others) := by
  induction h with
  | nil => exact refl _
  | @cons a attempts others rest ih =>
      by_cases hends : a.time ≤ 0 ∧ a.failed = true
      · rw [begun_cons_of_fails hends.1 hends.2, begun_cons_of_fails hends.1 hends.2]
        exact refl _
      · have hfails : a.failed = true → 0 < a.time :=
          fun hfailed => Nat.not_le.mp fun hready => hends ⟨hready, hfailed⟩
        by_cases hwaits : together = false ∧ 0 < a.time
        · rw [hwaits.1, begun_cons_of_waits hwaits.2, begun_cons_of_waits hwaits.2]
          exact .cons a rest
        · have hready : together = false → a.time ≤ 0 :=
            fun horder => Nat.not_lt.mp fun hlate => hwaits ⟨horder, hlate⟩
          rw [begun_cons_of_not_ends hfails hready, begun_cons_of_not_ends hfails hready]
          exact .cons a ih
  | unsent error _ =>
      rw [begun_cons_of_fails (Nat.le_refl 0) rfl, begun_cons_of_fails (Nat.le_refl 0) rfl]
      exact refl _

/-- Without a failure they are the same. -/
theorem eq_of_not_failed (h : Agrees attempts others) (hok : ∀ a ∈ attempts, a.failed = false) :
    attempts = others := by
  induction h with
  | nil => rfl
  | cons a _ ih => rw [ih (List.forall_mem_cons.mp hok).2]
  | unsent error _ => exact Bool.noConfusion (hok _ (List.mem_cons_self ..))

/-- Attempts that agree have the same earliest failure: the first that fails at
    once hides whatever comes after it. -/
theorem earliest_eq (h : Agrees attempts others) :
    earliest (failures attempts) = earliest (failures others) := by
  induction h with
  | nil => rfl
  | cons a _ ih =>
      cases hresult : a.result with
      | ok value => rw [failures_cons_of_ok hresult, failures_cons_of_ok hresult, ih]
      | error error =>
          rw [failures_cons_of_error hresult, failures_cons_of_error hresult, earliest, earliest,
            ih]
  | @unsent error attempts others _ =>
      rw [failures_cons_of_error rfl, failures_cons_of_error rfl]
      have hfirst (later : List (Nat × Error)) : earliest ((0, error) :: later) = some (0, error) :=
        earliest_append_cons (List.forall_mem_nil _) fun _ _ => Nat.zero_le _
      exact (hfirst _).trans (hfirst _).symm

theorem head_eq (h : Agrees attempts others) :
    (failures attempts).head? = (failures others).head? := by
  induction h with
  | nil => rfl
  | cons a _ ih =>
      cases hresult : a.result with
      | ok value => rw [failures_cons_of_ok hresult, failures_cons_of_ok hresult, ih]
      | error error => rw [failures_cons_of_error hresult, failures_cons_of_error hresult]; rfl
  | unsent error _ => rw [failures_cons_of_error rfl, failures_cons_of_error rfl]; rfl

theorem reported_eq (h : Agrees attempts others) (together : Bool) :
    reported together attempts = reported together others := by
  rw [reported, reported, h.earliest_eq, h.head_eq]

/-- Attempts that agree have the same verdict. -/
theorem verdict_eq (h : Agrees attempts others) (together : Bool) :
    verdict together attempts = verdict together others := by
  rcases not_failed_or_leads together attempts with hok | ⟨first, a, second, error, hleads⟩
  · rw [h.eq_of_not_failed hok]
  · have hreported : reported together others = some error := by
      rw [← h.reported_eq, hleads.reported_eq]
    rw [hleads.verdict_eq, verdict, hreported]

/-- Batches that agree settle alike. -/
theorem settle_eq (h : Agrees attempts others) : settle attempts = settle others := by
  have hrequests (together : Bool) : (Batch.begun together attempts).filterMap Attempt.request =
      (Batch.begun together others).filterMap Attempt.request :=
    filterMap_eq_of_map_eq (h.begun together).requests_eq
  rw [Batch.settle_eq, Batch.settle_eq, ← h.length_eq, h.verdict_eq, hrequests]

end Agrees

/-! ## By the numbers of the attempts -/

/-- What a batch promises about its result. -/
structure Settled (attempts : List (Attempt α)) (result : Except Error (List α)) : Prop where
  /-- Without a failure the values are given in the order of the attempts. -/
  success : ∀ values, attempts.map Attempt.result = values.map Except.ok → result = .ok values
  /-- Watched together, the first failure in time counts, and of those at one
      time the first in order. -/
  first_in_time : attempts.length ≤ watchedTogether → (∃ a ∈ attempts, a.failed = true) →
    ∃ (i : Nat) (a : Attempt α) (error : Error),
      attempts[i]? = some a ∧ a.result = .error error ∧ result = .error error ∧
      ∀ (j : Nat) (b : Attempt α), attempts[j]? = some b → b.failed = true →
        a.time < b.time ∨ a.time = b.time ∧ i ≤ j
  /-- Gathered in order, the first failure in order counts. -/
  first_in_order : watchedTogether < attempts.length → (∃ a ∈ attempts, a.failed = true) →
    ∃ (i : Nat) (a : Attempt α) (error : Error),
      attempts[i]? = some a ∧ a.result = .error error ∧ result = .error error ∧
      ∀ (j : Nat) (b : Attempt α), attempts[j]? = some b → b.failed = true → i ≤ j

/-- A batch stops at the first attempt that fails before any delay; gathered
    in order, only if none before it has to be waited for. -/
structure StopsAt (attempts : List (Attempt α)) (j : Nat) (a : Attempt α) : Prop where
  found : attempts[j]? = some a
  time : a.time = 0
  failed : a.failed = true
  first : ∀ b ∈ attempts.take j, b.failed = true → 0 < b.time
  in_order : watchedTogether < attempts.length → ∀ b ∈ attempts.take j, b.time = 0

section

variable {first second : List (Attempt α)} {error : Error} {i j : Nat} {b : Attempt α}

theorem getElem?_split (h : attempts = first ++ a :: second) :
    attempts[first.length]? = some a := by
  rw [h, List.getElem?_append_right (Nat.le_refl _), Nat.sub_self, List.getElem?_cons_zero]

/-- An attempt of a batch that is split comes before, at or after the split. -/
theorem split_cases (h : attempts = first ++ a :: second) (hb : attempts[j]? = some b) :
    j < first.length ∧ b ∈ first ∨ j = first.length ∧ b = a ∨ first.length < j ∧ b ∈ second := by
  rcases Nat.lt_trichotomy j first.length with hlt | heq | hgt
  · rw [h, List.getElem?_append_left hlt] at hb
    exact Or.inl ⟨hlt, List.mem_of_getElem? hb⟩
  · rw [heq, getElem?_split h] at hb
    exact Or.inr (Or.inl ⟨heq, (Option.some.inj hb).symm⟩)
  · obtain ⟨k, rfl⟩ : ∃ k, j = first.length + (k + 1) := ⟨j - first.length - 1, by omega⟩
    rw [h, List.getElem?_append_right (by omega), Nat.add_sub_cancel_left,
      List.getElem?_cons_succ] at hb
    exact Or.inr (Or.inr ⟨hgt, List.mem_of_getElem? hb⟩)

/-- Watched together, the attempt that leads fails first in time, and of those
    that fail at one time it is the first in order. -/
theorem Leads.first_in_time (h : Leads true attempts first a second error)
    (hb : attempts[j]? = some b) (hfailed : b.failed = true) :
    a.time < b.time ∨ a.time = b.time ∧ first.length ≤ j := by
  rcases split_cases h.split hb with ⟨-, hmem⟩ | ⟨rfl, rfl⟩ | ⟨hlt, hmem⟩
  · exact Or.inl (h.before b hmem hfailed).2
  · exact Or.inr ⟨rfl, Nat.le_refl _⟩
  · rcases Nat.lt_or_eq_of_le (h.after rfl b hmem hfailed) with hearlier | heq
    · exact Or.inl hearlier
    · exact Or.inr ⟨heq, Nat.le_of_lt hlt⟩

/-- Watched in order, the attempt that leads is the first that fails. -/
theorem Leads.first_in_order (h : Leads false attempts first a second error)
    (hb : attempts[j]? = some b) (hfailed : b.failed = true) : first.length ≤ j := by
  rcases split_cases h.split hb with ⟨-, hmem⟩ | ⟨rfl, -⟩ | ⟨hlt, -⟩
  · exact Bool.noConfusion (h.before b hmem hfailed).1
  · exact Nat.le_refl _
  · exact Nat.le_of_lt hlt

/-- If some attempt has failed, one of them leads. -/
theorem exists_leads (together : Bool) (h : ∃ a ∈ attempts, a.failed = true) :
    ∃ first a second error, Leads together attempts first a second error := by
  obtain ⟨a, ha, hfailed⟩ := h
  refine (not_failed_or_leads together attempts).resolve_left fun hok => ?_
  exact Bool.noConfusion ((hok a ha).symm.trans hfailed)

/-- Attempts that all succeed have the values of their results. -/
theorem results_eq {values : List α} (h : attempts.map Attempt.result = values.map Except.ok) :
    (∀ a ∈ attempts, a.failed = false) ∧ results attempts = values := by
  induction attempts generalizing values with
  | nil =>
      rw [List.map_nil, eq_comm, List.map_eq_nil_iff] at h
      exact ⟨List.forall_mem_nil _, h.symm⟩
  | cons a rest ih =>
      cases values with
      | nil => exact nomatch h
      | cons value values =>
          rw [List.map_cons, List.map_cons, List.cons.injEq] at h
          obtain ⟨hok, hresults⟩ := ih h.2
          refine ⟨List.forall_mem_cons.mpr ⟨Attempt.failed_of_ok h.1, hok⟩, ?_⟩
          rw [results, List.filterMap_cons, h.1, ← hresults]
          rfl

/-- The result of a batch is settled by the numbers of its attempts. -/
theorem settled_settle (attempts : List (Attempt α)) :
    Settled attempts (settle attempts).result := by
  rw [settle_eq]
  refine ⟨?_, ?_, ?_⟩
  · intro values hvalues
    obtain ⟨hok, hresults⟩ := results_eq hvalues
    exact (verdict_of_not_failed hok).trans (congrArg Except.ok hresults)
  · intro hlength hfailed
    obtain ⟨first, a, second, error, hleads⟩ := exists_leads true hfailed
    rw [decide_eq_true hlength]
    exact ⟨first.length, a, error, getElem?_split hleads.split, hleads.fails, hleads.verdict_eq,
      fun j b => hleads.first_in_time⟩
  · intro hlength hfailed
    obtain ⟨first, a, second, error, hleads⟩ := exists_leads false hfailed
    rw [decide_eq_false (Nat.not_le.mpr hlength)]
    exact ⟨first.length, a, error, getElem?_split hleads.split, hleads.fails, hleads.verdict_eq,
      fun j b => hleads.first_in_order⟩

/-- Where a batch stops, its first pass ends. -/
theorem StopsAt.endsAt (h : StopsAt attempts j a) : ∃ error,
    EndsAt (decide (attempts.length ≤ watchedTogether)) 0 attempts (attempts.take j) a
      (attempts.drop (j + 1)) error := by
  obtain ⟨error, herror⟩ := Attempt.exists_error h.failed
  obtain ⟨hj, ha⟩ := List.getElem?_eq_some_iff.mp h.found
  refine ⟨error, ?_, Nat.le_of_eq h.time, herror, h.first, ?_⟩
  · rw [← ha, ← List.drop_eq_getElem_cons hj, List.take_append_drop]
  · intro horder b hb
    have hlength := Nat.lt_of_not_le (of_decide_eq_false horder)
    exact Nat.le_of_eq (h.in_order hlength b hb)

/-- The attempt that ends the first poll is the one at which the batch
    stops. -/
theorem EndsAt.stopsAt
    (h : EndsAt (decide (attempts.length ≤ watchedTogether)) 0 attempts first a second error) :
    StopsAt attempts first.length a := by
  have hfirst : attempts.take first.length = first := by rw [h.split, List.take_left]
  refine ⟨getElem?_split h.split, Nat.le_zero.mp h.ready, Attempt.failed_of_error h.fails, ?_, ?_⟩
  · rw [hfirst]
    exact h.before
  · intro hlength b hb
    rw [hfirst] at hb
    exact Nat.le_zero.mp (h.in_order (decide_eq_false (Nat.not_le.mpr hlength)) b hb)

/-- A batch that stops made the requests of the attempts before the one at
    which it stops, and of that one. -/
theorem StopsAt.requests_eq (h : StopsAt attempts j a) :
    (settle attempts).requests =
      (attempts.take j).filterMap Attempt.request ++ a.request.toList := by
  obtain ⟨error, hends⟩ := h.endsAt
  rw [settle_eq, hends.begun_eq, List.filterMap_append]
  cases hrequest : a.request <;> simp [hrequest]

/-- A batch that does not stop made the requests of all its attempts. -/
theorem requests_of_not_stopped (h : ∀ j a, ¬ StopsAt attempts j a) :
    (settle attempts).requests = attempts.filterMap Attempt.request := by
  rcases endsAt_or_passes (decide (attempts.length ≤ watchedTogether)) 0 attempts with
    ⟨first, a, second, error, hends⟩ | hpasses
  · exact absurd hends.stopsAt (h first.length a)
  · rw [settle_eq, hpasses.begun_eq]

end

end Batch

/-! ## The attempts of the statements -/

namespace Endpoint

variable {e : Endpoint} {row : RowReader α} {transport : Transport} {s : Statement}
  {statements : List Statement} {url : Url}

/-- What is posted for a statement to an address. -/
def post (e : Endpoint) (url : Url) (s : Statement) : Option Request :=
  (e.payload s).toOption.map fun payload => ⟨url, payload⟩

/-- A statement that cannot be sent has nothing to post. -/
theorem post_of_error {error : Error} (h : s.toSql = .error error) : e.post url s = none := by
  rw [post, payload, h]
  rfl

/-- What is posted for a statement that can be sent is the form with its
    text. -/
theorem post_of_ok {sql : Text} (h : s.toSql = .ok sql) :
    e.post url s = some ⟨url, e.form sql⟩ := by
  rw [post, payload, h]
  rfl

section

variable [Url.DomainMapping]

/-- What becomes of each statement on its own, with the reply of its number. -/
def ownAttempts (e : Endpoint) (row : RowReader α) (transport : Transport)
    (statements : List Statement) : List (Attempt (List α)) :=
  statements.mapIdx fun number s => e.fetchAll row (transport number) s

/-- A statement that cannot be sent fails at once and makes no request. -/
theorem fetchAll_of_error {reply : Request → Reply} {error : Error} (hread : e.readUrl = .ok url)
    (h : s.toSql = .error error) : e.fetchAll row reply s = unsent error :=
  attempt_of_toSql_error hread h

/-- A statement that can be sent is posted, and its result is there with the
    reply, or at the limit. -/
theorem fetchAll_of_ok {reply : Request → Reply} {sql : Text} (hread : e.readUrl = .ok url)
    (h : s.toSql = .ok sql) :
    (e.fetchAll row reply s).request = some ⟨url, e.form sql⟩ ∧
      (e.fetchAll row reply s).time = min (reply ⟨url, e.form sql⟩).delay e.timeoutMillis := by
  obtain ⟨base, hbase⟩ := exists_base_of_urlFor hread
  rw [fetchAll, readUrl, attempt_of_ok hread hbase h]
  exact ⟨rfl, rfl⟩

/-- A read makes the request of its statement, if there is one. -/
theorem request_of_fetchAll {reply : Request → Reply} (hread : e.readUrl = .ok url) :
    (e.fetchAll row reply s).request = e.post url s := by
  cases hsql : s.toSql with
  | error error => rw [fetchAll_of_error hread hsql, post_of_error hsql]; rfl
  | ok sql => rw [(fetchAll_of_ok hread hsql).1, post_of_ok hsql]

/-- What is posted does not depend on how the attempts are numbered. -/
theorem requests_of_attempts (hread : e.readUrl = .ok url) (number : Nat) :
    (e.attempts row transport number statements).map Attempt.request =
      statements.map (e.post url) := by
  induction statements generalizing number with
  | nil => rfl
  | cons s rest ih => rw [attempts, List.map_cons, ih, request_of_fetchAll hread, List.map_cons]

/-- Whatever the replies, the reads of several statements make the requests of
    these. -/
theorem requests_of_mapIdx (hread : e.readUrl = .ok url) (reply : Nat → Request → Reply) :
    (statements.mapIdx fun number s => e.fetchAll row (reply number) s).map Attempt.request =
      statements.map (e.post url) := by
  induction statements generalizing reply with
  | nil => rfl
  | cons s rest ih =>
      rw [List.mapIdx_cons, List.map_cons, ih fun number => reply (number + 1),
        request_of_fetchAll hread, List.map_cons]

/-- Numbering the requests, or the statements, makes no difference up to the
    first statement that cannot be sent: by induction on the statements, all
    of them sent so far. -/
theorem agrees_attempts (hread : e.readUrl = .ok url) (number : Nat) :
    Batch.Agrees (e.attempts row transport number statements)
      (statements.mapIdx fun index s => e.fetchAll row (transport (number + index)) s) := by
  induction statements generalizing number with
  | nil => exact .nil
  | cons s rest ih =>
      rw [attempts, List.mapIdx_cons]
      cases hsql : s.toSql with
      | error error =>
          rw [fetchAll_of_error hread hsql, fetchAll_of_error hread hsql]
          refine .unsent error ?_
          exact (requests_of_attempts hread _).trans (requests_of_mapIdx hread _).symm
      | ok sql =>
          have hsome : (e.fetchAll row (transport number) s).request.isSome = true := by
            rw [(fetchAll_of_ok hread hsql).1]
            rfl
          have hnext : (fun index s => e.fetchAll row (transport (number + (index + 1))) s) =
              fun index s => e.fetchAll row (transport (number + 1 + index)) s := by
            funext index s
            rw [Nat.add_assoc, Nat.add_comm 1 index]
          rw [hnext, if_pos hsome]
          exact .cons _ (ih (number + 1))

/-- A batch comes to what its statements come to on their own. -/
theorem fetchEach_eq (hread : e.readUrl = .ok url) :
    e.fetchEach row transport statements =
      Batch.settle (e.ownAttempts row transport statements) := by
  have hagrees : Batch.Agrees (e.attempts row transport 0 statements)
      (statements.mapIdx fun index s => e.fetchAll row (transport (0 + index)) s) :=
    agrees_attempts hread 0
  simp only [Nat.zero_add] at hagrees
  exact hagrees.settle_eq

end

/-! ## The contract -/

/-- What a batch promises in terms of its statements and of what becomes of
    each on its own. -/
structure Joined (e : Endpoint) (url : Url) (transport : Transport) (statements : List Statement)
    (own : List (Attempt (List α))) (outcome : BatchOutcome (List α)) : Prop where
  /-- The result of a statement is there at once if it cannot be sent, and
      else with its reply or at the limit. -/
  time : ∀ (i : Nat) (s : Statement), statements[i]? = some s →
    ∃ a : Attempt (List α), own[i]? = some a ∧ a.time =
      match s.toSql with
      | .error _ => 0
      | .ok sql => min (transport i ⟨url, e.form sql⟩).delay e.timeoutMillis
  settled : Batch.Settled own outcome.result
  /-- The statement at which the batch stops is the last that is posted, if it
      can be sent; each one before it is. -/
  stopped : ∀ (j : Nat) a (s : Statement), Batch.StopsAt own j a → statements[j]? = some s →
    ∃ before, before.map some = (statements.take j).map (e.post url) ∧
      outcome.requests = before ++ (e.post url s).toList
  /-- A batch that does not stop posts every statement that can be sent. -/
  not_stopped : (∀ j a, ¬ Batch.StopsAt own j a) →
    outcome.requests = statements.filterMap (e.post url)
  /-- If nothing fails before any delay, that is every statement. -/
  posted : (∀ a ∈ own, a.failed = true → 0 < a.time) →
    outcome.requests.map some = statements.map (e.post url)
  /-- It makes no difference when the batch is polled. -/
  polled : ∀ times, Batch.Schedule own times → Batch.polled own times = some outcome

section

variable {own : List (Attempt (List α))} {i j : Nat}

/-- The requests of attempts that all made one. -/
theorem map_some_requests (h : ∀ a ∈ own, a.request.isSome = true) :
    (own.filterMap Attempt.request).map some = own.map Attempt.request := by
  induction own with
  | nil => rfl
  | cons a rest ih =>
      obtain ⟨ha, hrest⟩ := List.forall_mem_cons.mp h
      obtain ⟨request, hrequest⟩ := Option.isSome_iff_exists.mp ha
      rw [List.filterMap_cons, hrequest, List.map_cons, ih hrest, List.map_cons, hrequest]

section

variable [Url.DomainMapping]

theorem ownAttempts_requests (hread : e.readUrl = .ok url) :
    (e.ownAttempts row transport statements).map Attempt.request = statements.map (e.post url) :=
  requests_of_mapIdx hread transport

/-- What is not posted fails at once, so all else is posted. -/
theorem posted_of_mem_own (hread : e.readUrl = .ok url) {a : Attempt (List α)}
    (ha : a ∈ e.ownAttempts row transport statements) (hlate : a.failed = true → 0 < a.time) :
    a.request.isSome = true := by
  obtain ⟨number, hnumber, rfl⟩ := List.mem_mapIdx.mp ha
  cases hsql : (statements[number]).toSql with
  | error error =>
      rw [fetchAll_of_error hread hsql] at hlate
      exact absurd (hlate rfl) (Nat.lt_irrefl 0)
  | ok sql =>
      rw [(fetchAll_of_ok hread hsql).1]
      rfl

/-- The result of a read is there at once if nothing is sent, and else with the
    reply or at the limit. -/
theorem time_of_fetchAll {reply : Request → Reply} (hread : e.readUrl = .ok url) :
    (e.fetchAll row reply s).time =
      match s.toSql with
      | .error _ => 0
      | .ok sql => min (reply ⟨url, e.form sql⟩).delay e.timeoutMillis := by
  cases hsql : s.toSql with
  | error error =>
      rw [fetchAll_of_error hread hsql]
      rfl
  | ok sql => exact (fetchAll_of_ok hread hsql).2

/-- **The results of a batch**: whatever the statements and the replies, a
    batch whose address is usable gives the rows of its statements in their
    order, or the failure that comes first, and posts its statements in order
    up to the one at which it stops. -/
theorem joined_of_fetchEach (e : Endpoint) (row : RowReader α) (transport : Transport)
    (statements : List Statement) {url : Url} (hread : e.readUrl = .ok url) :
    e.Joined url transport statements (e.ownAttempts row transport statements)
      (e.fetchEach row transport statements) := by
  have hrequests : (e.ownAttempts row transport statements).map Attempt.request =
      statements.map (e.post url) := ownAttempts_requests hread
  rw [fetchEach_eq hread]
  refine ⟨?_, Batch.settled_settle _, ?_, ?_, ?_, fun _ => Batch.polled_eq_settle⟩
  · intro i s hs
    refine ⟨e.fetchAll row (transport i) s, ?_, time_of_fetchAll hread⟩
    rw [ownAttempts, List.getElem?_mapIdx, hs]
    rfl
  · intro j a s hstops hs
    have hrequest : a.request = e.post url s := by
      have hget := congrArg (fun list => list[j]?) hrequests
      simpa only [List.getElem?_map, hstops.found, hs, Option.map_some, Option.some.injEq]
        using hget
    refine ⟨_, ?_, hrequest ▸ hstops.requests_eq⟩
    rw [map_some_requests, List.map_take, hrequests, ← List.map_take]
    intro b hb
    exact posted_of_mem_own hread (List.mem_of_mem_take hb) (hstops.first b hb)
  · intro hgoes
    rw [Batch.requests_of_not_stopped hgoes, Batch.filterMap_eq_of_map_eq hrequests]
  · intro hlate
    have hgoes : ∀ j a, ¬ Batch.StopsAt (e.ownAttempts row transport statements) j a := by
      intro j a hstops
      have hlater := hlate a (List.mem_of_getElem? hstops.found) hstops.failed
      exact absurd hstops.time (Nat.ne_of_gt hlater)
    rw [Batch.requests_of_not_stopped hgoes, map_some_requests, hrequests]
    exact fun a ha => posted_of_mem_own hread ha (hlate a ha)

end

/-- A statement that cannot be sent ends the batch before anything after it is
    posted, although the result of the one before it is still to come. -/
theorem joined_of_fetchEach_stopped :
    let e : Endpoint := ⟨chars "http://db.test/api", chars "read", chars "write", chars "app",
      chars "pw", 30⟩
    let transport := Transport.scripted [{ delay := 5, body := chars "No Data" }]
    let read := Statement.empty.steps
      [.set (.select [chars "id"]), .set (.fromTables [chars "t"])]
    let outcome := e.fetchEach RowReader.integer transport [read, Statement.empty, read]
    outcome.requests.map Request.payload = [e.form (chars "SELECT `id` FROM `t`;")] ∧
      outcome.result = .error (.unexpected .nothingToSend) := by
  intro e transport read outcome
  let url : Url := ⟨chars "http", some { host := .domain (chars "db.test") },
    .segments [chars "api", chars "read"], false, none, none⟩
  let own := e.ownAttempts RowReader.integer transport [read, Statement.empty, read]
  have hread : e.readUrl = .ok url := by decide +kernel
  have hpost : e.post url read = some ⟨url, e.form (chars "SELECT `id` FROM `t`;")⟩ :=
    post_of_ok (by decide +kernel)
  have hjoined : e.Joined url transport [read, Statement.empty, read] own outcome :=
    joined_of_fetchEach e RowReader.integer transport _ hread
  have hunsent : own[1]? = some (unsent (.unexpected .nothingToSend)) :=
    congrArg some (fetchAll_of_error hread (by decide +kernel))
  have hwaits : ∀ a ∈ own.take 1, a.failed = true → 0 < a.time := by decide +kernel
  have hstops : Batch.StopsAt own 1 (unsent (.unexpected .nothingToSend)) :=
    ⟨hunsent, rfl, rfl, hwaits, by decide +kernel⟩
  constructor
  · obtain ⟨before, hbefore, hrequests⟩ := hjoined.stopped 1 _ Statement.empty hstops rfl
    have hmap : before.map some = [⟨url, e.form (chars "SELECT `id` FROM `t`;")⟩].map some :=
      hbefore.trans (congrArg (fun request => [request]) hpost)
    have hone := List.map_injective_iff.mpr (fun _ _ => Option.some.inj) hmap
    have hnone : e.post url Statement.empty = none :=
      post_of_error (show _ = Except.error (.unexpected .nothingToSend) by decide +kernel)
    rw [hrequests, hone, hnone]
    rfl
  · obtain ⟨i, a, error, ha, herror, hresult, hleast⟩ :=
      hjoined.settled.first_in_time (by decide +kernel) ⟨_, List.mem_of_getElem? hunsent, rfl⟩
    have hfirst : a.time < 0 ∨ a.time = 0 ∧ i ≤ 1 := hleast 1 _ hunsent rfl
    have hwaiting : own[0]?.map Attempt.time = some 5 := by decide +kernel
    have hi : i = 0 ∨ i = 1 := by omega
    rcases hi with rfl | rfl
    · rw [ha] at hwaiting
      have htime : a.time = 5 := Option.some.inj hwaiting
      omega
    · obtain rfl := Option.some.inj (hunsent.symm.trans ha)
      exact hresult.trans (congrArg Except.error (Except.error.inj herror).symm)

/-- Of more than thirty statements the first failure in time does not count,
    if the result of an earlier statement is still to come. -/
theorem not_first_in_time_of_many :
    let e : Endpoint := ⟨chars "http://db.test/api", chars "read", chars "write", chars "app",
      chars "pw", 30⟩
    let transport := Transport.scripted
      [{ delay := 20, failure := some (chars "late") },
        { delay := 10, failure := some (chars "early") }]
    let read := Statement.empty.steps
      [.set (.select [chars "id"]), .set (.fromTables [chars "t"])]
    let statements := List.replicate 31 read
    let own := e.ownAttempts RowReader.integer transport statements
    (∃ url, e.readUrl = .ok url) ∧ (∃ a ∈ own, a.failed = true) ∧
    ¬ ∃ (i : Nat) (a : Attempt (List Int)) (error : Error),
      own[i]? = some a ∧ a.result = .error error ∧
      (e.fetchEach RowReader.integer transport statements).result = .error error ∧
      ∀ (j : Nat) (b : Attempt (List Int)), own[j]? = some b → b.failed = true →
        a.time < b.time ∨ a.time = b.time ∧ i ≤ j := by
  intro e transport read statements own
  let url : Url := ⟨chars "http", some { host := .domain (chars "db.test") },
    .segments [chars "api", chars "read"], false, none, none⟩
  have hread : e.readUrl = .ok url := by decide +kernel
  have hreported : (e.fetchEach RowReader.integer transport statements).result =
      .error (.transport (chars "late")) := by
    decide +kernel
  have hsecond : own[1]?.map (fun b => (b.time, b.failed)) = some (10, true) := by decide +kernel
  have hlate : ∀ a ∈ own, a.result = .error (.transport (chars "late")) → 10 < a.time := by
    decide +kernel
  obtain ⟨b, hb, hpair⟩ := Option.map_eq_some_iff.mp hsecond
  obtain ⟨htime, hfailed⟩ := Prod.mk.inj hpair
  refine ⟨⟨url, hread⟩, ⟨b, List.mem_of_getElem? hb, hfailed⟩, ?_⟩
  rintro ⟨i, a, error, ha, herror, hresult, hleast⟩
  obtain rfl := Except.error.inj (hreported.symm.trans hresult)
  have hafter : 10 < a.time := hlate a (List.mem_of_getElem? ha) herror
  have hfirst := hleast 1 b hb hfailed
  omega

end

end Endpoint

end GuardedSql
