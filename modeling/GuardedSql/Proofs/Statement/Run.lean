import GuardedSql.Proofs.Statement.Invariant
import GuardedSql.Proofs.Statement.Part

/-! # Runs — what a sequence of calls leaves behind

    A run goes on with whatever a call has left behind, so it has a result for
    every call and a statement at the end.  A call that is rejected leaves no
    trace (`Call.edit_atomic`), so rejected calls can be erased: the others have
    the results they had, and the end is the same.

    An accepted call writes its parts from nothing, and a part that is filled
    is written by no later call.  So every part is written at most once, and
    what the statement holds at the end is what the one call that wrote it was
    given.  `set_of_apply_eq_ok` is the step, and the run follows by induction
    on the calls. -/

namespace GuardedSql

/-- The clause that the call sets, if it sets one. -/
def Call.setter? : Call → Option Setter
  | .set setter => some setter
  | .append _ => none

/-- The call writes the part; an appended statement is not part of the own
    clauses. -/
def Call.writes : Call → Part → Bool
  | .set setter, part => decide (part ∈ setter.parts)
  | .append _, _ => false

namespace Statement

variable {s next : Statement} {call : Call} {part : Part}

/-- The result of each call of a run: the statement after it, or why it is
    rejected. -/
def results (s : Statement) : List Call → List (Except Error Statement)
  | [] => []
  | call :: rest => s.apply call :: (s.step call).results rest

/-- The calls of a run that are not rejected. -/
def accepted (s : Statement) : List Call → List Call
  | [] => []
  | call :: rest =>
      if (s.apply call).isOk then call :: (s.step call).accepted rest
      else (s.step call).accepted rest

/-! ## Going through a run -/

section

variable {rest : List Call}

/-- A rejected call leaves the statement as it is. -/
theorem step_of_rejected (h : (s.apply call).isOk = false) : s.step call = s := by
  cases happly : s.apply call with
  | ok next =>
      rw [happly] at h
      exact Bool.noConfusion h
  | error error => exact step_of_error happly

theorem steps_cons_of_ok (h : s.apply call = .ok next) :
    s.steps (call :: rest) = next.steps rest := by
  rw [steps_cons, step_of_ok h]

/-- A run whose first call is rejected goes on as if it had not been made. -/
theorem steps_cons_of_rejected (h : (s.apply call).isOk = false) :
    s.steps (call :: rest) = s.steps rest := by
  rw [steps_cons, step_of_rejected h]

/-- An accepted call stays in the history. -/
theorem accepted_cons_of_ok (h : s.apply call = .ok next) :
    s.accepted (call :: rest) = call :: next.accepted rest := by
  rw [accepted, h, step_of_ok h]
  rfl

/-- A rejected call is left out of the history. -/
theorem accepted_cons_of_rejected (h : (s.apply call).isOk = false) :
    s.accepted (call :: rest) = s.accepted rest := by
  rw [accepted, h, step_of_rejected h]
  rfl

/-- Induction on a run: it ends, or goes on after a call that is accepted or
    rejected. -/
@[elab_as_elim]
theorem run_induction {motive : Statement → List Call → Prop} (nil : ∀ s, motive s [])
    (ok : ∀ s call rest next, s.apply call = .ok next → motive next rest →
      motive s (call :: rest))
    (rejected : ∀ s call rest, (s.apply call).isOk = false → motive s rest →
      motive s (call :: rest))
    (s : Statement) (calls : List Call) : motive s calls := by
  induction calls generalizing s with
  | nil => exact nil s
  | cons call rest ih =>
      cases happly : s.apply call with
      | ok next => exact ok s call rest next happly (ih next)
      | error error => exact rejected s call rest (by rw [happly]; rfl) (ih s)

end

/-! ## Erasing rejected calls -/

/-- **Erasure** leaves the end of the run alone. -/
theorem steps_accepted (s : Statement) (calls : List Call) :
    s.steps (s.accepted calls) = s.steps calls := by
  induction s, calls using run_induction with
  | nil s => rfl
  | ok s call rest next happly ih =>
      rw [accepted_cons_of_ok happly, steps_cons_of_ok happly, steps_cons_of_ok happly, ih]
  | rejected s call rest hreject ih =>
      rw [accepted_cons_of_rejected hreject, steps_cons_of_rejected hreject, ih]

/-- **Erasure** leaves the results of the other calls alone. -/
theorem results_accepted (s : Statement) (calls : List Call) :
    s.results (s.accepted calls) = (s.results calls).filter Except.isOk := by
  induction s, calls using run_induction with
  | nil s => rfl
  | ok s call rest next happly ih =>
      have hok : (s.apply call).isOk = true := by rw [happly]; rfl
      rw [accepted_cons_of_ok happly, results, results, List.filter_cons_of_pos hok,
        step_of_ok happly, ih]
  | rejected s call rest hreject ih =>
      have hnot : ¬ (s.apply call).isOk = true := by rw [hreject]; exact Bool.false_ne_true
      rw [accepted_cons_of_rejected hreject, results, List.filter_cons_of_neg hnot,
        step_of_rejected hreject, ih]

/-! ## One accepted call -/

/-- An accepted setter writes its content into its parts, and nothing else. -/
theorem set_of_apply_eq_ok {setter : Setter} (h : s.apply (.set setter) = .ok next) :
    s.own.Writes setter.content setter.parts next.own := by
  cases hset : s.own.set setter with
  | error error =>
      rw [apply_set, hset] at h
      cases h
  | ok own =>
      rw [apply_set, hset] at h
      obtain rfl := Except.ok.inj h
      exact Clauses.set_writes hset

@[simp] theorem own_append (s child : Statement) : (s.append child).own = s.own := by
  rcases append_cases s child with hsame | ⟨-, happend⟩
  · rw [hsame]
  · rw [happend]

/-- A part is written from nothing, and is filled then. -/
theorem holds_of_writes (h : s.apply call = .ok next) (hwrites : call.writes part = true) :
    s.own.holds part = false ∧ next.own.holds part = true := by
  cases call with
  | append child => exact Bool.noConfusion hwrites
  | set setter =>
      have hpart : part ∈ setter.parts := of_decide_eq_true hwrites
      have hset := set_of_apply_eq_ok h
      exact ⟨hset.unset part hpart, hset.holds_of_mem hpart⟩

/-- A part that is not written stays. -/
theorem part_of_not_writes (h : s.apply call = .ok next) (hwrites : call.writes part = false) :
    next.own.part part = s.own.part part := by
  cases call with
  | append child =>
      obtain rfl := Except.ok.inj h
      rw [own_append]
  | set setter => exact (set_of_apply_eq_ok h).part_of_not_mem (of_decide_eq_false hwrites)

/-- A mode that is fixed stays. -/
theorem mode_of_apply_eq_ok (h : s.apply call = .ok next) {mode : Mode}
    (hmode : s.mode = some mode) : next.mode = some mode := by
  cases call with
  | append child =>
      obtain rfl := Except.ok.inj h
      rw [Statement.mode, own_append]
      exact hmode
  | set setter => exact (set_of_apply_eq_ok h).mode_of_mode hmode

/-! ## Whole runs -/

variable {calls : List Call} {mode : Mode}

/-- A mode that is fixed stays to the end. -/
theorem mode_steps (hmode : s.mode = some mode) : (s.steps calls).mode = some mode := by
  induction s, calls using run_induction with
  | nil s => exact hmode
  | ok s call rest next happly ih =>
      rw [steps_cons_of_ok happly]
      exact ih (mode_of_apply_eq_ok happly hmode)
  | rejected s call rest hreject ih =>
      rw [steps_cons_of_rejected hreject]
      exact ih hmode

/-- A part that no accepted call writes stays to the end. -/
theorem part_steps_of_not_writes (h : ∀ call ∈ s.accepted calls, call.writes part = false) :
    (s.steps calls).own.part part = s.own.part part := by
  induction s, calls using run_induction with
  | nil s => rfl
  | ok s call rest next happly ih =>
      rw [accepted_cons_of_ok happly] at h
      obtain ⟨hcall, hrest⟩ := List.forall_mem_cons.mp h
      rw [steps_cons_of_ok happly]
      exact (ih hrest).trans (part_of_not_writes happly hcall)
  | rejected s call rest hreject ih =>
      rw [accepted_cons_of_rejected hreject] at h
      rw [steps_cons_of_rejected hreject]
      exact ih h

/-- No accepted call writes a part that is filled. -/
theorem not_writes_of_holds (hholds : s.own.holds part = true) :
    ∀ call ∈ s.accepted calls, call.writes part = false := by
  induction s, calls using run_induction with
  | nil s => exact nofun
  | ok s call rest next happly ih =>
      have hwrites : call.writes part = false := by
        refine Bool.eq_false_iff.mpr fun hw => ?_
        exact Bool.false_ne_true ((holds_of_writes happly hw).1.symm.trans hholds)
      have hnext : next.own.holds part = true := by
        rw [Clauses.holds, part_of_not_writes happly hwrites]
        exact hholds
      rw [accepted_cons_of_ok happly]
      exact List.forall_mem_cons.mpr ⟨hwrites, ih hnext⟩
  | rejected s call rest hreject ih =>
      rw [accepted_cons_of_rejected hreject]
      exact ih hholds

/-- **Once**: at most one accepted call of a run writes a part. -/
theorem countP_writes_le_one (s : Statement) (calls : List Call) (part : Part) :
    (s.accepted calls).countP (·.writes part) ≤ 1 := by
  induction s, calls using run_induction with
  | nil s => exact Nat.zero_le 1
  | ok s call rest next happly ih =>
      rw [accepted_cons_of_ok happly, List.countP_cons]
      cases hwrites : call.writes part with
      | false => exact ih
      | true =>
          -- the part is filled now, so no later call writes it
          have hrest : ∀ later ∈ next.accepted rest, later.writes part = false :=
            not_writes_of_holds (holds_of_writes happly hwrites).2
          have hnone : (next.accepted rest).countP (·.writes part) = 0 := by
            refine List.countP_eq_zero.mpr fun later hlater => ?_
            rw [hrest later hlater]
            exact Bool.false_ne_true
          rw [hnone]
          exact Nat.le_refl 1
  | rejected s call rest hreject ih =>
      rw [accepted_cons_of_rejected hreject]
      exact ih

/-- **Exactly its arguments**: what an accepted call wrote is there at the
    end, and so is the mode that it fixed. -/
theorem content_of_mem_accepted {setter : Setter} (hmem : .set setter ∈ s.accepted calls) :
    (∀ part ∈ setter.parts, (s.steps calls).own.part part = setter.content.part part) ∧
      ∀ mode ∈ setter.content.mode, (s.steps calls).mode = some mode := by
  induction s, calls using run_induction with
  | nil s => exact nomatch hmem
  | ok s call rest next happly ih =>
      rw [accepted_cons_of_ok happly] at hmem
      rw [steps_cons_of_ok happly]
      rcases List.mem_cons.mp hmem with rfl | hlater
      · have hset := set_of_apply_eq_ok happly
        refine ⟨?_, ?_⟩
        · intro part hpart
          have hrest : ∀ later ∈ next.accepted rest, later.writes part = false :=
            not_writes_of_holds (hset.holds_of_mem hpart)
          exact (part_steps_of_not_writes hrest).trans (hset.part_of_mem hpart)
        · intro mode hmode
          exact mode_steps (hset.mode_of_content hmode)
      · exact ih hlater
  | rejected s call rest hreject ih =>
      rw [accepted_cons_of_rejected hreject] at hmem
      rw [steps_cons_of_rejected hreject]
      exact ih hmem

/-- **Write-once runs**: whatever calls are made on a new statement, each part
    is written by at most one accepted call and holds exactly what that call
    was given, or nothing if there is none; a mode once fixed stays; a rejected
    call leaves the statement as it found it; and without the rejected calls
    the others have the same results and the statement is the same. -/
theorem writeOnce_of_steps (calls : List Call) :
    (∀ part, (empty.accepted calls).countP (·.writes part) ≤ 1) ∧
    (∀ setter, .set setter ∈ empty.accepted calls →
      (∀ part ∈ setter.parts,
        (empty.steps calls).own.part part = setter.content.part part) ∧
      ∀ mode ∈ setter.content.mode, (empty.steps calls).mode = some mode) ∧
    (∀ part, (∀ call ∈ empty.accepted calls, call.writes part = false) →
      (empty.steps calls).own.part part = empty.own.part part) ∧
    (∀ before after mode, calls = before ++ after → (empty.steps before).mode = some mode →
      (empty.steps calls).mode = some mode) ∧
    (∀ before call after error, calls = before ++ call :: after →
      (empty.steps before).apply call = .error error →
      (empty.steps before).step call = empty.steps before) ∧
    empty.results (empty.accepted calls) = (empty.results calls).filter Except.isOk ∧
    empty.steps (empty.accepted calls) = empty.steps calls := by
  refine ⟨countP_writes_le_one empty calls, fun _ => content_of_mem_accepted,
    fun _ => part_steps_of_not_writes, ?_, fun _ _ _ _ _ => step_of_error,
    results_accepted empty calls, steps_accepted empty calls⟩
  rintro before after mode rfl hmode
  rw [steps_append]
  exact mode_steps hmode

/-- Six of eleven calls are rejected, one of them at the last name of a list,
    which leaves the statement without tables; the null checks and the natural
    join hold what they were given, but for their values and its predicate. -/
theorem writeOnce_of_steps_after_rejections :
    let conditions := Setter.whereAll .orNot .isNull [chars "a", chars "b"] [chars "*", []]
    let tables := Setter.fromTables [chars "t", chars "u;"]
    let custom := Call.set (.whereCustom [⟨.and, .eq, chars "a", chars "1"⟩])
    let calls := [custom, .set tables, .set (.select [chars "id"]),
      .set (.insert (chars "t") [chars "1"] [chars "id"]), .set (.fromTables [chars "t"]),
      .set (.fromTables [chars "u"]), .set (.join .natural (chars "v") (chars "x") []),
      .set conditions, .set (.whereOne .eq (chars "c") (chars "1")), .set (.limit 0),
      .set (.limit 5)]
    ((empty.accepted calls).length = 5 ∧ .set conditions ∈ empty.accepted calls ∧
      .conditions ∈ conditions.parts) ∧
    (empty.steps calls).own.conditions =
      [⟨.orNot, .isNull, chars "a", chars "<null>"⟩,
       ⟨.none, .isNull, chars "b", chars "<null>"⟩] ∧
    (((empty.step custom).apply (.set tables)).isOk = false ∧
      (empty.step custom).step (.set tables) = empty.step custom) ∧
    (empty.accepted calls).countP (·.writes .conditions) ≤ 1 ∧
    empty.steps (empty.accepted calls) = empty.steps calls := by
  intro conditions tables custom calls
  have hmem : .set conditions ∈ empty.accepted calls := by
    have hset : conditions ∈ (empty.accepted calls).filterMap Call.setter? := by decide +kernel
    obtain ⟨call, hcall, hsetter⟩ := List.mem_filterMap.mp hset
    cases call with
    | append child => cases hsetter
    | set setter => exact Option.some.inj hsetter ▸ hcall
  have hpart : .conditions ∈ conditions.parts := List.mem_singleton_self _
  have hreject : ((empty.step custom).apply (.set tables)).isOk = false := by decide +kernel
  obtain ⟨honce, hcontent, -, -, htrace, -, herased⟩ := writeOnce_of_steps calls
  refine ⟨⟨by decide +kernel, hmem, hpart⟩, ?_, ⟨hreject, ?_⟩, honce .conditions, herased⟩
  · exact (hcontent conditions hmem).1 .conditions hpart
  · cases happly : (empty.step custom).apply (.set tables) with
    | ok next =>
        rw [happly] at hreject
        exact Bool.noConfusion hreject
    | error error => exact htrace [custom] _ _ error rfl happly

end Statement

end GuardedSql
