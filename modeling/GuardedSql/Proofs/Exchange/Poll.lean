import GuardedSql.Exchange.Batch
import Mathlib.Data.List.TakeWhile

/-! # Polling — a batch that is woken again and again

    The attempts of a batch run side by side, and the batch is polled whenever
    one of them wakes it.  A pass over the attempts begins those that were not
    begun before, takes note of the results that are there, and ends the batch
    at a failure.  Watched together, attempts that still wait are passed over;
    gathered in order, a result counts only if no attempt before it waits.

    `Batch.polled_eq_settle` says that the times of the polls do not matter, as
    long as the batch is polled once at the beginning and whenever a result is
    there: what it comes to is what it settles to. -/

namespace GuardedSql

variable {α : Type} {a : Attempt α} {attempts : List (Attempt α)}

namespace Attempt

theorem failed_of_error {error : Error} (h : a.result = .error error) : a.failed = true := by
  rw [failed, h]

theorem failed_of_ok {value : α} (h : a.result = .ok value) : a.failed = false := by
  rw [failed, h]

theorem exists_error (h : a.failed = true) : ∃ error, a.result = .error error := by
  cases hresult : a.result with
  | error error => exact ⟨error, rfl⟩
  | ok value => exact Bool.noConfusion ((failed_of_ok hresult).symm.trans h)

/-- The result, if it is there at the given time. -/
def answer (a : Attempt α) (now : Nat) : Option (Except Error α) :=
  if a.time ≤ now then some a.result else none

end Attempt

namespace Batch

/-! ## Polling -/

/-- One pass over the attempts: how many of them are polled, and the failure
    that ends the batch. -/
def pass (together : Bool) (now : Nat) : List (Attempt α) → Nat × Option Error
  | [] => (0, none)
  | a :: rest =>
      match a.answer now with
      | some (.error error) => (1, some error)
      | some (.ok _) =>
          let (polled, failure) := pass together now rest
          (polled + 1, failure)
      | none =>
          if together then
            let (polled, failure) := pass together now rest
            (polled + 1, failure)
          else (rest.length + 1, none)

/-- What the batch comes to if it is polled at the given times, `begun` of its
    attempts being begun already; nothing, if it is still waiting then. -/
def run (together : Bool) (attempts : List (Attempt α)) :
    (begun : Nat) → (times : List Nat) → Option (BatchOutcome α)
  | _, [] => none
  | begun, now :: later =>
      let (polled, failure) := pass together now attempts
      let begun := max begun polled
      let requests := (attempts.take begun).filterMap Attempt.request
      match failure with
      | some error => some { requests, result := .error error }
      | none =>
          if attempts.all fun a => decide (a.time ≤ now) then
            some { requests, result := .ok (results attempts) }
          else run together attempts begun later

/-- What the batch comes to if it is polled at the given times. -/
def polled (attempts : List (Attempt α)) (times : List Nat) : Option (BatchOutcome α) :=
  run (decide (attempts.length ≤ watchedTogether)) attempts 0 times

/-- The times at which a batch is polled: at the beginning, and whenever the
    result of an attempt is there, perhaps at others too. -/
structure Schedule (attempts : List (Attempt α)) (times : List Nat) : Prop where
  begins : times.head? = some 0
  ascending : times.Pairwise (· ≤ ·)
  wakes : ∀ a ∈ attempts, a.time ∈ times

/-! ## One pass -/

theorem answer_of_le {now : Nat} (h : a.time ≤ now) : a.answer now = some a.result := if_pos h

theorem answer_of_lt {now : Nat} (h : now < a.time) : a.answer now = none :=
  if_neg (Nat.not_le.mpr h)

/-- At this time the batch ends at an attempt: it has failed, no attempt before
    it has, and gathered in order none before it waits. -/
structure EndsAt (together : Bool) (now : Nat) (attempts first : List (Attempt α))
    (a : Attempt α) (second : List (Attempt α)) (error : Error) : Prop where
  split : attempts = first ++ a :: second
  ready : a.time ≤ now
  fails : a.result = .error error
  before : ∀ b ∈ first, b.failed = true → now < b.time
  in_order : together = false → ∀ b ∈ first, b.time ≤ now

/-- At this time the batch does not end in a failure: no attempt has failed, or
    none before one that waits if they are gathered in order. -/
inductive Passes (together : Bool) (now : Nat) : List (Attempt α) → Prop
  | nil : Passes together now []
  | cons {a : Attempt α} {rest : List (Attempt α)} (fails : a.failed = true → now < a.time)
      (passes : Passes together now rest) : Passes together now (a :: rest)
  | wait {a : Attempt α} {rest : List (Attempt α)} (in_order : together = false)
      (late : now < a.time) : Passes together now (a :: rest)

section

variable {together : Bool} {now : Nat} {first second rest : List (Attempt α)} {error : Error}

/-- An attempt put in front does not keep a poll from ending, if it does not
    end the poll itself. -/
theorem EndsAt.cons (h : EndsAt together now rest first a second error) {b : Attempt α}
    (hfails : b.failed = true → now < b.time) (hready : together = false → b.time ≤ now) :
    EndsAt together now (b :: rest) (b :: first) a second error where
  split := by rw [h.split]; rfl
  ready := h.ready
  fails := h.fails
  before := List.forall_mem_cons.mpr ⟨hfails, h.before⟩
  in_order := fun horder => List.forall_mem_cons.mpr ⟨hready horder, h.in_order horder⟩

/-- The first attempt before the one that ends a poll neither fails nor, in
    order, waits. -/
theorem EndsAt.head {b : Attempt α}
    (h : EndsAt together now attempts (b :: first) a second error) :
    (b.failed = true → now < b.time) ∧ (together = false → b.time ≤ now) :=
  ⟨(List.forall_mem_cons.mp h.before).1,
    fun horder => (List.forall_mem_cons.mp (h.in_order horder)).1⟩

/-- Without that first attempt the poll ends at the same one. -/
theorem EndsAt.tail {b : Attempt α}
    (h : EndsAt together now attempts (b :: first) a second error) :
    EndsAt together now (first ++ a :: second) first a second error :=
  ⟨rfl, h.ready, h.fails, (List.forall_mem_cons.mp h.before).2,
    fun horder => (List.forall_mem_cons.mp (h.in_order horder)).2⟩

/-- Watched together, every failure is still to come. -/
theorem Passes.lt_of_failed (h : Passes together now attempts) (htogether : together = true) :
    ∀ a ∈ attempts, a.failed = true → now < a.time := by
  induction h with
  | nil => exact List.forall_mem_nil _
  | cons fails _ ih => exact List.forall_mem_cons.mpr ⟨fails, ih⟩
  | wait in_order _ => exact Bool.noConfusion (in_order.symm.trans htogether)

/-- If all results are there, none is a failure. -/
theorem Passes.not_failed (h : Passes together now attempts)
    (htimes : ∀ a ∈ attempts, a.time ≤ now) : ∀ a ∈ attempts, a.failed = false := by
  induction h with
  | nil => exact List.forall_mem_nil _
  | cons fails _ ih =>
      obtain ⟨htime, hrest⟩ := List.forall_mem_cons.mp htimes
      refine List.forall_mem_cons.mpr ⟨?_, ih hrest⟩
      exact Bool.eq_false_iff.mpr fun hfailed => Nat.not_lt.mpr htime (fails hfailed)
  | wait _ late => exact absurd (List.forall_mem_cons.mp htimes).1 (Nat.not_le.mpr late)

/-- The batch ends at an attempt or passes. -/
theorem endsAt_or_passes (together : Bool) (now : Nat) (attempts : List (Attempt α)) :
    (∃ first a second error, EndsAt together now attempts first a second error) ∨
      Passes together now attempts := by
  induction attempts with
  | nil => exact Or.inr .nil
  | cons a rest ih =>
      by_cases hends : a.time ≤ now ∧ a.failed = true
      · obtain ⟨hready, hfailed⟩ := hends
        obtain ⟨error, herror⟩ := Attempt.exists_error hfailed
        exact Or.inl ⟨[], a, rest, error, rfl, hready, herror, List.forall_mem_nil _,
          fun _ => List.forall_mem_nil _⟩
      · have hfails : a.failed = true → now < a.time :=
          fun hfailed => Nat.not_le.mp fun hready => hends ⟨hready, hfailed⟩
        by_cases hwaits : together = false ∧ now < a.time
        · exact Or.inr (.wait hwaits.1 hwaits.2)
        · have hready : together = false → a.time ≤ now :=
            fun horder => Nat.not_lt.mp fun hlate => hwaits ⟨horder, hlate⟩
          rcases ih with ⟨first, b, second, error, hrest⟩ | hrest
          · exact Or.inl ⟨a :: first, b, second, error, hrest.cons hfails hready⟩
          · exact Or.inr (.cons hfails hrest)

/-- A poll that is not ended by its first attempt goes on with the others. -/
theorem pass_cons_of_not_ends (hfails : a.failed = true → now < a.time)
    (hready : together = false → a.time ≤ now) :
    pass together now (a :: rest) =
      ((pass together now rest).1 + 1, (pass together now rest).2) := by
  by_cases htime : a.time ≤ now
  · cases hresult : a.result with
    | error error =>
        exact absurd (hfails (Attempt.failed_of_error hresult)) (Nat.not_lt.mpr htime)
    | ok value => rw [pass, answer_of_le htime, hresult]
  · have htogether : together = true :=
      Bool.not_eq_false _ ▸ fun horder => htime (hready horder)
    rw [pass, answer_of_lt (Nat.not_le.mp htime), htogether]
    rfl

/-- A poll that ends at an attempt reaches no further, and gives its error. -/
theorem EndsAt.pass_eq (h : EndsAt together now attempts first a second error) :
    pass together now attempts = (first.length + 1, some error) := by
  induction first generalizing attempts with
  | nil =>
      rw [h.split, List.nil_append, pass, answer_of_le h.ready, h.fails]
      rfl
  | cons b first ih =>
      rw [h.split, List.cons_append, pass_cons_of_not_ends h.head.1 h.head.2, ih h.tail]
      rfl

/-- A poll that passes reaches every attempt and finds no error. -/
theorem Passes.pass_eq (h : Passes together now attempts) :
    pass together now attempts = (attempts.length, none) := by
  induction h with
  | nil => rfl
  | @cons a rest fails _ ih =>
      by_cases hwaits : together = false ∧ now < a.time
      · rw [pass, answer_of_lt hwaits.2, hwaits.1]
        rfl
      · have hready : together = false → a.time ≤ now :=
          fun horder => Nat.not_lt.mp fun hlate => hwaits ⟨horder, hlate⟩
        rw [pass_cons_of_not_ends fails hready, ih]
        rfl
  | wait in_order late =>
      rw [pass, answer_of_lt late, in_order]
      rfl

end

/-! ## What is reported -/

/-- The failure that is reported, if there is one. -/
def reported (together : Bool) (attempts : List (Attempt α)) : Option Error :=
  (if together then earliest (failures attempts) else (failures attempts).head?).map Prod.snd

/-- What the attempts come to. -/
def verdict (together : Bool) (attempts : List (Attempt α)) : Except Error (List α) :=
  match reported together attempts with
  | some error => .error error
  | none => .ok (results attempts)

/-- The attempts that are begun. -/
def begun (together : Bool) (attempts : List (Attempt α)) : List (Attempt α) :=
  if together then begunTogether attempts else begunInOrder attempts

section

variable {first second rest : List (Attempt α)} {error : Error} {together : Bool}

theorem failures_cons_of_ok {value : α} (h : a.result = .ok value) :
    failures (a :: rest) = failures rest := by
  rw [failures, List.filterMap_cons, h]
  rfl

theorem failures_cons_of_error (h : a.result = .error error) :
    failures (a :: rest) = (a.time, error) :: failures rest := by
  rw [failures, List.filterMap_cons, h]
  rfl

@[simp] theorem failures_append : failures (first ++ second) = failures first ++ failures second :=
  List.filterMap_append ..

/-- A failure is that of an attempt. -/
theorem exists_of_mem_failures {failure : Nat × Error} (h : failure ∈ failures attempts) :
    ∃ a ∈ attempts, a.failed = true ∧ a.time = failure.1 := by
  obtain ⟨a, ha, hfailure⟩ := List.mem_filterMap.mp h
  cases hresult : a.result with
  | error error =>
      rw [hresult] at hfailure
      refine ⟨a, ha, Attempt.failed_of_error hresult, ?_⟩
      rw [← Option.some.inj hfailure]
  | ok value =>
      rw [hresult] at hfailure
      exact nomatch hfailure

theorem failures_eq_nil (h : ∀ a ∈ attempts, a.failed = false) : failures attempts = [] := by
  refine List.eq_nil_iff_forall_not_mem.mpr fun failure hmem => ?_
  obtain ⟨a, ha, hfailed, -⟩ := exists_of_mem_failures hmem
  exact Bool.noConfusion ((h a ha).symm.trans hfailed)

theorem mem_of_earliest {list : List (Nat × Error)} {failure : Nat × Error}
    (h : earliest list = some failure) : failure ∈ list := by
  induction list generalizing failure with
  | nil => exact nomatch h
  | cons first rest ih =>
      rw [earliest] at h
      cases hrest : earliest rest with
      | none =>
          rw [hrest] at h
          exact Option.some.inj h ▸ List.mem_cons_self ..
      | some other =>
          rw [hrest] at h
          dsimp only at h
          split at h
          · exact Option.some.inj h ▸ List.mem_cons_of_mem _ (ih hrest)
          · exact Option.some.inj h ▸ List.mem_cons_self ..

/-- The earliest of the failures: those before it are later, and none after it
    is earlier. -/
theorem earliest_append_cons {failure : Nat × Error} {before after : List (Nat × Error)}
    (hbefore : ∀ other ∈ before, failure.1 < other.1)
    (hafter : ∀ other ∈ after, failure.1 ≤ other.1) :
    earliest (before ++ failure :: after) = some failure := by
  induction before with
  | nil =>
      rw [List.nil_append, earliest]
      cases hearliest : earliest after with
      | none => rfl
      | some other =>
          have hle : failure.1 ≤ other.1 := hafter other (mem_of_earliest hearliest)
          exact if_neg (Nat.not_lt.mpr hle)
  | cons other before ih =>
      obtain ⟨hother, hbefore⟩ := List.forall_mem_cons.mp hbefore
      rw [List.cons_append, earliest, ih hbefore]
      exact if_pos hother

/-- The attempt whose failure is reported: watched together, those that fail
    before it are later in time and none after it is earlier; gathered in
    order, none fails before it. -/
structure Leads (together : Bool) (attempts first : List (Attempt α)) (a : Attempt α)
    (second : List (Attempt α)) (error : Error) : Prop where
  split : attempts = first ++ a :: second
  fails : a.result = .error error
  before : ∀ b ∈ first, b.failed = true → together = true ∧ a.time < b.time
  after : together = true → ∀ b ∈ second, b.failed = true → a.time ≤ b.time

/-- An attempt put in front leaves the lead where it was, if it does not fail
    before. -/
theorem Leads.cons (h : Leads together rest first a second error) {b : Attempt α}
    (hbefore : b.failed = true → together = true ∧ a.time < b.time) :
    Leads together (b :: rest) (b :: first) a second error where
  split := by rw [h.split]; rfl
  fails := h.fails
  before := List.forall_mem_cons.mpr ⟨hbefore, h.before⟩
  after := h.after

/-- Watched together, no failure is earlier than that of the attempt that
    leads. -/
theorem Leads.le_time (h : Leads together attempts first a second error)
    (htogether : together = true) : ∀ b ∈ attempts, b.failed = true → a.time ≤ b.time := by
  intro b hb hfailed
  rw [h.split] at hb
  rcases List.mem_append.mp hb with hfirst | hrest
  · exact Nat.le_of_lt (h.before b hfirst hfailed).2
  · rcases List.mem_cons.mp hrest with rfl | hsecond
    · exact Nat.le_refl _
    · exact h.after htogether b hsecond hfailed

/-- The failure of the attempt that leads is reported. -/
theorem Leads.reported_eq (h : Leads together attempts first a second error) :
    reported together attempts = some error := by
  have hfailures : failures attempts = failures first ++ (a.time, error) :: failures second := by
    simp [h.split, failures_cons_of_error h.fails]
  rw [reported, hfailures]
  cases together with
  | true =>
      have hearliest : earliest (failures first ++ (a.time, error) :: failures second) =
          some (a.time, error) := by
        refine earliest_append_cons ?_ ?_
        · intro other hother
          obtain ⟨b, hb, hfailed, htime⟩ := exists_of_mem_failures hother
          rw [← htime]
          exact (h.before b hb hfailed).2
        · intro other hother
          obtain ⟨b, hb, hfailed, htime⟩ := exists_of_mem_failures hother
          rw [← htime]
          exact h.after rfl b hb hfailed
      rw [if_pos rfl, hearliest]
      rfl
  | false =>
      have hnone : failures first = [] := by
        refine failures_eq_nil fun b hb => Bool.eq_false_iff.mpr fun hfailed => ?_
        exact Bool.noConfusion (h.before b hb hfailed).1
      rw [if_neg Bool.false_ne_true, hnone]
      rfl

/-- Without a failure none is reported. -/
theorem reported_eq_none (h : ∀ a ∈ attempts, a.failed = false) :
    reported together attempts = none := by
  rw [reported, failures_eq_nil h]
  cases together <;> rfl

/-- The failure of the attempt that leads is the verdict. -/
theorem Leads.verdict_eq (h : Leads together attempts first a second error) :
    verdict together attempts = .error error := by
  rw [verdict, h.reported_eq]

/-- Where nothing fails the verdict is all the results. -/
theorem verdict_of_not_failed (h : ∀ a ∈ attempts, a.failed = false) :
    verdict together attempts = .ok (results attempts) := by
  rw [verdict, reported_eq_none h]

/-- No attempt has failed, or one of them leads. -/
theorem not_failed_or_leads (together : Bool) (attempts : List (Attempt α)) :
    (∀ a ∈ attempts, a.failed = false) ∨
      ∃ first a second error, Leads together attempts first a second error := by
  induction attempts with
  | nil => exact Or.inl (List.forall_mem_nil _)
  | cons b rest ih =>
      cases hresult : b.result with
      | ok value =>
          have hsucceeds : b.failed = false := Attempt.failed_of_ok hresult
          rcases ih with hrest | ⟨first, a, second, error, h⟩
          · exact Or.inl (List.forall_mem_cons.mpr ⟨hsucceeds, hrest⟩)
          · exact Or.inr ⟨b :: first, a, second, error, h.cons fun hfailed =>
              Bool.noConfusion (hsucceeds.symm.trans hfailed)⟩
      | error error =>
          right
          rcases ih with hrest | ⟨first, a, second, error', h⟩
          · refine ⟨[], b, rest, error, rfl, hresult, List.forall_mem_nil _, ?_⟩
            intro _ c hc hfailed
            exact Bool.noConfusion ((hrest c hc).symm.trans hfailed)
          · by_cases hearlier : together = true ∧ a.time < b.time
            · exact ⟨b :: first, a, second, error', h.cons fun _ => hearlier⟩
            · refine ⟨[], b, rest, error, rfl, hresult, List.forall_mem_nil _, ?_⟩
              intro htogether c hc hfailed
              have hle : b.time ≤ a.time := Nat.not_lt.mp fun hlt => hearlier ⟨htogether, hlt⟩
              exact Nat.le_trans hle (h.le_time htogether c hc hfailed)

/-- The failure at which a batch ends is reported, if no failure came before
    that time. -/
theorem EndsAt.leads {now : Nat} (h : EndsAt together now attempts first a second error)
    (hnow : together = true → ∀ b ∈ attempts, b.failed = true → now ≤ b.time) :
    Leads together attempts first a second error where
  split := h.split
  fails := h.fails
  before := by
    intro b hb hfailed
    have hlater : now < b.time := h.before b hb hfailed
    cases together with
    | true => exact ⟨rfl, Nat.lt_of_le_of_lt h.ready hlater⟩
    | false => exact absurd (h.in_order rfl b hb) (Nat.not_le.mpr hlater)
  after := by
    intro htogether b hb hfailed
    have hmem : b ∈ attempts := by
      rw [h.split]
      exact List.mem_append_right _ (List.mem_cons_of_mem _ hb)
    exact Nat.le_trans h.ready (hnow htogether b hmem hfailed)

end

/-! ## What is begun -/

section

variable {first second rest : List (Attempt α)} {error : Error} {together : Bool}

/-- Watched together, attempts are begun up to the first that fails at once. -/
theorem begun_together_cons : begun true (a :: rest) =
    if a.time = 0 ∧ a.failed = true then [a] else a :: begun true rest := rfl

/-- Watched in order, the one that is waited for ends the search for a failure,
    and all are begun. -/
theorem begun_in_order_cons : begun false (a :: rest) =
    if a.time ≠ 0 then a :: rest
    else if a.failed = true then [a] else a :: begun false rest := rfl

/-- After a failure at once nothing more is begun. -/
theorem begun_cons_of_fails (htime : a.time ≤ 0) (hfailed : a.failed = true) :
    begun together (a :: rest) = [a] := by
  have hzero : a.time = 0 := Nat.le_zero.mp htime
  cases together with
  | true => rw [begun_together_cons, if_pos ⟨hzero, hfailed⟩]
  | false => rw [begun_in_order_cons, if_neg (not_not_intro hzero), if_pos hfailed]

/-- Watched in order, a wait lets everything be begun. -/
theorem begun_cons_of_waits (hwaits : 0 < a.time) :
    begun false (a :: rest) = a :: rest := by
  rw [begun_in_order_cons, if_pos (Nat.pos_iff_ne_zero.mp hwaits)]

/-- An attempt that does not end the first poll is begun, and so are those that
    would be without it. -/
theorem begun_cons_of_not_ends (hfails : a.failed = true → 0 < a.time)
    (hready : together = false → a.time ≤ 0) :
    begun together (a :: rest) = a :: begun together rest := by
  cases together with
  | true =>
      have hgoes : ¬ (a.time = 0 ∧ a.failed = true) :=
        fun hends => Nat.ne_of_gt (hfails hends.2) hends.1
      rw [begun_together_cons, if_neg hgoes]
  | false =>
      have hzero : a.time = 0 := Nat.le_zero.mp (hready rfl)
      have hsucceeds : ¬ a.failed = true := fun hfailed => Nat.ne_of_gt (hfails hfailed) hzero
      rw [begun_in_order_cons, if_neg (not_not_intro hzero), if_neg hsucceeds]

/-- If the first pass ends the batch, nothing after that attempt is begun. -/
theorem EndsAt.begun_eq (h : EndsAt together 0 attempts first a second error) :
    begun together attempts = first ++ [a] := by
  induction first generalizing attempts with
  | nil =>
      rw [h.split]
      exact begun_cons_of_fails h.ready (Attempt.failed_of_error h.fails)
  | cons b first ih =>
      rw [h.split, List.cons_append, begun_cons_of_not_ends h.head.1 h.head.2, ih h.tail]
      rfl

theorem Passes.begun_eq (h : Passes together 0 attempts) : begun together attempts = attempts := by
  induction h with
  | nil => cases together <;> rfl
  | @cons a rest fails _ ih =>
      by_cases hwaits : together = false ∧ 0 < a.time
      · rw [hwaits.1, begun_cons_of_waits hwaits.2]
      · have hready : together = false → a.time ≤ 0 :=
          fun horder => Nat.not_lt.mp fun hlate => hwaits ⟨horder, hlate⟩
        rw [begun_cons_of_not_ends fails hready, ih]
  | wait in_order late => rw [in_order, begun_cons_of_waits late]

/-- An attempt that is not begun does not change what is reported. -/
@[simp] theorem verdict_begun (together : Bool) (attempts : List (Attempt α)) :
    verdict together (begun together attempts) = verdict together attempts := by
  rcases endsAt_or_passes together 0 attempts with ⟨first, a, second, error, h⟩ | h
  · have hleads := h.leads fun _ _ _ _ => Nat.zero_le _
    have hbegun : Leads together (first ++ [a]) first a [] error :=
      ⟨rfl, h.fails, hleads.before, fun _ => List.forall_mem_nil _⟩
    rw [h.begun_eq, hbegun.verdict_eq, hleads.verdict_eq]
  · rw [h.begun_eq]

/-- How a batch settles, by the number of its attempts. -/
theorem settle_eq (attempts : List (Attempt α)) :
    settle attempts =
      { requests := (begun (decide (attempts.length ≤ watchedTogether)) attempts).filterMap
          Attempt.request
        result := verdict (decide (attempts.length ≤ watchedTogether)) attempts } := by
  rw [← verdict_begun, verdict, reported, settle]
  by_cases htogether : attempts.length ≤ watchedTogether
  · simp only [htogether, decide_true, begun, if_true]
    cases earliest (failures (begunTogether attempts)) <;> rfl
  · simp only [htogether, decide_false, begun, Bool.false_eq_true, if_false]
    cases (failures (begunInOrder attempts)).head? <;> rfl

end

/-! ## A whole run -/

section

variable {first second : List (Attempt α)} {error : Error} {together : Bool} {now polls : Nat}
  {later : List Nat}

/-- At this time the results of all attempts are there. -/
theorem forall_ready_iff :
    (attempts.all fun a => decide (a.time ≤ now)) = true ↔ ∀ a ∈ attempts, a.time ≤ now := by
  simp only [List.all_eq_true, decide_eq_true_eq]

/-- Either every attempt has its result, or one is waited for. -/
theorem ready_or_waits (now : Nat) (attempts : List (Attempt α)) :
    (∀ a ∈ attempts, a.time ≤ now) ∨ ∃ a ∈ attempts, now < a.time := by
  by_cases hready : ∀ a ∈ attempts, a.time ≤ now
  · exact Or.inl hready
  · simp only [not_forall, Nat.not_le] at hready
    obtain ⟨a, ha, hlate⟩ := hready
    exact Or.inr ⟨a, ha, hlate⟩

/-- A run that ends at an attempt returns its error, and made the requests of
    all that were polled by then. -/
theorem run_of_endsAt (h : EndsAt together now attempts first a second error) :
    run together attempts polls (now :: later) =
      some ⟨(attempts.take (max polls (first.length + 1))).filterMap Attempt.request,
        .error error⟩ := by
  rw [run, h.pass_eq]

/-- A run that passes with every result there returns them all. -/
theorem run_of_ready (h : Passes together now attempts) (hready : ∀ a ∈ attempts, a.time ≤ now) :
    run together attempts polls (now :: later) =
      some ⟨(attempts.take (max polls attempts.length)).filterMap Attempt.request,
        .ok (results attempts)⟩ := by
  rw [run, h.pass_eq]
  exact if_pos (forall_ready_iff.mpr hready)

/-- A run that passes while something is waited for goes on with the next
    poll. -/
theorem run_of_waits (h : Passes together now attempts)
    (hwaits : ∃ a ∈ attempts, now < a.time) :
    run together attempts polls (now :: later) =
      run together attempts (max polls attempts.length) later := by
  obtain ⟨a, ha, hlate⟩ := hwaits
  rw [run, h.pass_eq]
  exact if_neg fun hready => Nat.not_lt.mpr (forall_ready_iff.mp hready a ha) hlate

/-- Once all attempts are begun, the batch comes to its verdict: by induction
    on the polls still to come.  Before them some attempt waits, and watched
    together every failure is still to come. -/
theorem run_later {before : Nat} (hascending : (before :: later).Pairwise (· ≤ ·))
    (hwakes : ∀ a ∈ attempts, before < a.time → a.time ∈ later)
    (hwaits : ∃ a ∈ attempts, before < a.time)
    (hfails : together = true → ∀ a ∈ attempts, a.failed = true → before < a.time) :
    run together attempts attempts.length later =
      some ⟨attempts.filterMap Attempt.request, verdict together attempts⟩ := by
  induction later generalizing before with
  | nil =>
      obtain ⟨a, ha, hlate⟩ := hwaits
      exact absurd (hwakes a ha hlate) List.not_mem_nil
  | cons now later ih =>
      obtain ⟨hbefore, hlater⟩ := List.pairwise_cons.mp hascending
      have hnow : ∀ a ∈ attempts, before < a.time → now ≤ a.time := by
        intro a ha hlate
        rcases List.mem_cons.mp (hwakes a ha hlate) with heq | hmem
        · exact Nat.le_of_eq heq.symm
        · exact (List.pairwise_cons.mp hlater).1 _ hmem
      rcases endsAt_or_passes together now attempts with ⟨first, a, second, error, h⟩ | h
      · have hleads := h.leads fun htogether b hb hfailed =>
          hnow b hb (hfails htogether b hb hfailed)
        have hlength : first.length + 1 ≤ attempts.length := by
          rw [h.split, List.length_append, List.length_cons]
          omega
        rw [run_of_endsAt h, hleads.verdict_eq, Nat.max_eq_left hlength, List.take_length]
      · rcases ready_or_waits now attempts with hready | hwaits
        · rw [run_of_ready h hready, verdict_of_not_failed (h.not_failed hready), Nat.max_self,
            List.take_length]
        · rw [run_of_waits h hwaits, Nat.max_self]
          refine ih hlater ?_ hwaits h.lt_of_failed
          intro a ha hlate
          have hmem := hwakes a ha (Nat.lt_of_le_of_lt (hbefore now (List.mem_cons_self ..)) hlate)
          exact (List.mem_cons.mp hmem).resolve_left (Nat.ne_of_gt hlate)

/-- **The times of the polls do not matter**: polled once at the beginning and
    whenever a result is there, a batch comes to what it settles to. -/
theorem polled_eq_settle {times : List Nat} (h : Schedule attempts times) :
    polled attempts times = some (settle attempts) := by
  obtain ⟨later, rfl⟩ := List.head?_eq_some_iff.mp h.begins
  rw [polled, settle_eq]
  generalize decide (attempts.length ≤ watchedTogether) = together
  rcases endsAt_or_passes together 0 attempts with ⟨first, a, second, error, hends⟩ | hpasses
  · have hleads := hends.leads fun _ _ _ _ => Nat.zero_le _
    have htake : attempts.take (first.length + 1) = first ++ [a] := by
      rw [hends.split, List.take_length_add_append]
      rfl
    rw [run_of_endsAt hends, hleads.verdict_eq, hends.begun_eq, Nat.zero_max, htake]
  · rw [hpasses.begun_eq]
    rcases ready_or_waits 0 attempts with hready | hwaits
    · rw [run_of_ready hpasses hready, verdict_of_not_failed (hpasses.not_failed hready),
        Nat.zero_max, List.take_length]
    · rw [run_of_waits hpasses hwaits, Nat.zero_max]
      refine run_later h.ascending ?_ hwaits hpasses.lt_of_failed
      intro a ha hlate
      exact (List.mem_cons.mp (h.wakes a ha)).resolve_left (Nat.ne_of_gt hlate)

end

end Batch

end GuardedSql
