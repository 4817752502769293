import GuardedSql.Proofs.Statement.Run
import Mathlib.Data.List.Perm.Basic

/-! # Order — calls on different clauses commute

    A step looks at the mode and at whether the parts that it writes are
    empty, and at nothing else of the record.  So two steps can only disturb
    each other where one of them writes what the other looks at, and
    `Part.Entangled` lists the pairs of clauses for which this happens.

    `Clauses.verdict_congr` is the frame law: on records that look alike to a
    step, the step has one verdict.  With the law of an accepted step it gives
    that two calls commute, and from there that the calls of a run can be made
    in any order, by induction on the permutation. -/

namespace GuardedSql

open Check

/-- The clause that the step is about. -/
def Setter.clause : Setter → Part
  | select _ | selectWith .. => .selection
  | fromTables _ => .tables
  | join .. | joinAll .. => .joins
  | whereOne .. | whereAll .. | whereCustom _ => .conditions
  | orderBy .. | orderByAll _ => .sortKeys
  | limit _ => .limit
  | insert .. => .row
  | onDuplicateKey .. => .duplicateKey
  | update .. | updateAll .. => .assignments

namespace Part

/-- Setting the clause fixes the mode. -/
def fixesMode : Part → Bool
  | selection | row | assignments => true
  | _ => false

/-- What is written with the clause: an insert and an update name their
    table. -/
def written : Part → List Part
  | row => [tables, row]
  | assignments => [tables, assignments]
  | part => [part]

/-- The order of the two clauses may matter: they are one clause, both fix the
    mode, one sets the tables and the other names a table of its own, or one
    is an inserted row and the other what to do about its key. -/
def Entangled (p q : Part) : Prop :=
  p = q ∨ (p.fixesMode = true ∧ q.fixesMode = true) ∨
    (p = tables ∧ (q = row ∨ q = assignments)) ∨
    (q = tables ∧ (p = row ∨ p = assignments)) ∨
    (p = row ∧ q = duplicateKey) ∨ (p = duplicateKey ∧ q = row)

instance (p q : Part) : Decidable (p.Entangled q) :=
  inferInstanceAs (Decidable (_ ∨ _))

/-- Parts are entangled in either order. -/
theorem Entangled.symm {p q : Part} (h : p.Entangled q) : q.Entangled p := by
  revert h
  cases p <;> cases q <;> decide

/-- Clauses that are not entangled write different parts. -/
theorem not_mem_written {p q part : Part} (h : ¬ p.Entangled q) (hpart : part ∈ p.written) :
    part ∉ q.written := by
  revert h hpart
  cases p <;> cases q <;> cases part <;> decide

/-- Of clauses that are not entangled at most one fixes the mode. -/
theorem fixesMode_eq_false {p q : Part} (h : ¬ p.Entangled q) (hp : p.fixesMode = true) :
    q.fixesMode = false := by
  refine Bool.eq_false_iff.mpr fun hq => ?_
  exact h (Or.inr (Or.inl ⟨hp, hq⟩))

end Part

/-- The order of the two calls may matter. -/
def Call.Entangled : Call → Call → Prop
  | .set a, .set b => a.clause.Entangled b.clause
  | .append _, .append _ => True
  | _, _ => False

instance : (a b : Call) → Decidable (a.Entangled b)
  | .set a, .set b => inferInstanceAs (Decidable (a.clause.Entangled b.clause))
  | .append _, .append _ => isTrue trivial
  | .set _, .append _ => isFalse id
  | .append _, .set _ => isFalse id

theorem Call.Entangled.symm {a b : Call} (h : a.Entangled b) : b.Entangled a := by
  cases a with
  | append child =>
      cases b with
      | append other => trivial
      | set setter => exact h
  | set setter =>
      cases b with
      | append child => exact h
      | set other => exact Part.Entangled.symm h

namespace Setter

variable {setter : Setter}

/-- A setter writes the parts of its clause. -/
theorem parts_eq_written : setter.parts = setter.clause.written := by
  cases setter <;> rfl

/-- A setter writes a mode exactly if its clause fixes one. -/
theorem content_mode_isSome : setter.content.mode.isSome = setter.clause.fixesMode := by
  cases setter <;> rfl

/-- Only an insert fixes the mode of an insert. -/
theorem content_mode_ne_insert (h : setter.clause ≠ .row) :
    setter.content.mode ≠ some .insert := by
  cases setter with
  | insert table values columns => exact absurd rfl h
  | _ => exact nofun

end Setter

/-- The verdict of an edit: it goes through, or the reason why not. -/
def Edit.verdict {σ : Type} (e : Edit σ Unit) (s : σ) : Except Error Unit :=
  (e.outcome s).map fun _ => ()

namespace Clauses

variable {c d next : Clauses} {setter : Setter}

/-! ## What a step looks at -/

/-- The records look alike to a step on the clause. -/
structure Alike (clause : Part) (c d : Clauses) : Prop where
  holds : ∀ part ∈ clause.written, c.holds part = d.holds part
  mode : clause.fixesMode = true → c.mode = d.mode
  insert : clause = .duplicateKey → (c.mode = some .insert ↔ d.mode = some .insert)

theorem allowsMode_congr {mode : Mode} (h : c.mode = d.mode) :
    c.allowsMode mode = d.allowsMode mode := by
  rw [allowsMode, allowsMode, h]

/-- Whether a clause is free depends on whether it is empty. -/
theorem requireUnset_congr {α : Type} {clause : String} {content content' : List α}
    (h : (!content.isEmpty) = !content'.isEmpty) :
    requireUnset clause content = requireUnset clause content' := by
  rw [requireUnset, requireUnset, Bool.not_inj h]

/-- The verdict on a step: it is accepted, or the reason why not. -/
def verdict (c : Clauses) (setter : Setter) : Except Error Unit :=
  (c.set setter).map fun _ => ()

/-- The verdict on a select depends on what it looks at. -/
theorem selectWith_congr {columns : List Text} {options : SelectOptions}
    (h : Alike .selection c d) :
    (selectWith columns options).verdict c = (selectWith columns options).verdict d := by
  have hunset : (!c.columns.isEmpty) = !d.columns.isEmpty :=
    h.holds .selection (List.mem_singleton_self _)
  simp [Edit.verdict, selectWith, allowsMode_congr (h.mode rfl), requireUnset_congr hunset]

theorem fromTables_congr {tables : List Text} (h : Alike .tables c d) :
    (fromTables tables).verdict c = (fromTables tables).verdict d := by
  have hunset : (!c.tables.isEmpty) = !d.tables.isEmpty :=
    h.holds .tables (List.mem_singleton_self _)
  simp [Edit.verdict, fromTables, requireUnset_congr hunset]

theorem joinAll_congr {kind : JoinKind} {targets : List JoinTarget} (h : Alike .joins c d) :
    (joinAll kind targets).verdict c = (joinAll kind targets).verdict d := by
  have hunset : (!c.joins.isEmpty) = !d.joins.isEmpty :=
    h.holds .joins (List.mem_singleton_self _)
  simp [Edit.verdict, joinAll, requireUnset_congr hunset]

theorem whereOne_congr {comparator : Comparator} {column value : Text}
    (h : Alike .conditions c d) :
    (whereOne comparator column value).verdict c =
      (whereOne comparator column value).verdict d := by
  have hunset : (!c.conditions.isEmpty) = !d.conditions.isEmpty :=
    h.holds .conditions (List.mem_singleton_self _)
  simp [Edit.verdict, whereOne, requireUnset_congr hunset]

theorem whereAll_congr {link : Conjunction} {comparator : Comparator}
    {columns values : List Text} (h : Alike .conditions c d) :
    (whereAll link comparator columns values).verdict c =
      (whereAll link comparator columns values).verdict d := by
  have hunset : (!c.conditions.isEmpty) = !d.conditions.isEmpty :=
    h.holds .conditions (List.mem_singleton_self _)
  simp [Edit.verdict, whereAll, requireUnset_congr hunset]

theorem whereCustom_congr {conditions : List Condition} (h : Alike .conditions c d) :
    (whereCustom conditions).verdict c = (whereCustom conditions).verdict d := by
  have hunset : (!c.conditions.isEmpty) = !d.conditions.isEmpty :=
    h.holds .conditions (List.mem_singleton_self _)
  simp [Edit.verdict, whereCustom, requireUnset_congr hunset]

theorem orderByAll_congr {keys : List SortKey} (h : Alike .sortKeys c d) :
    (orderByAll keys).verdict c = (orderByAll keys).verdict d := by
  have hunset : (!c.sortKeys.isEmpty) = !d.sortKeys.isEmpty :=
    h.holds .sortKeys (List.mem_singleton_self _)
  simp [Edit.verdict, orderByAll, requireUnset_congr hunset]

theorem setLimit_congr {count : Int} (h : Alike .limit c d) :
    (setLimit count).verdict c = (setLimit count).verdict d := by
  have hunset : c.limit.isSome = d.limit.isSome := h.holds .limit (List.mem_singleton_self _)
  simp [Edit.verdict, setLimit, hunset]

theorem insert_congr {table : Text} {values columns : List Text} (h : Alike .row c d) :
    (insert table values columns).verdict c = (insert table values columns).verdict d := by
  have htables : (!c.tables.isEmpty) = !d.tables.isEmpty :=
    h.holds .tables (List.mem_cons_self ..)
  have hunset : (!c.insertColumns.isEmpty) = !d.insertColumns.isEmpty :=
    h.holds .row (List.mem_cons_of_mem _ (List.mem_singleton_self _))
  simp [Edit.verdict, insert, allowsMode_congr (h.mode rfl), requireUnset_congr htables,
    requireUnset_congr hunset]

theorem onDuplicateKey_congr {columns values : List Text} (h : Alike .duplicateKey c d) :
    (onDuplicateKey columns values).verdict c = (onDuplicateKey columns values).verdict d := by
  have hunset : (!c.duplicateKey.isEmpty) = !d.duplicateKey.isEmpty :=
    h.holds .duplicateKey (List.mem_singleton_self _)
  simp [Edit.verdict, onDuplicateKey, requireUnset_congr hunset, h.insert rfl]

theorem updateAll_congr {table : Text} {pairs : List Assignment} (h : Alike .assignments c d) :
    (updateAll table pairs).verdict c = (updateAll table pairs).verdict d := by
  have htables : (!c.tables.isEmpty) = !d.tables.isEmpty :=
    h.holds .tables (List.mem_cons_self ..)
  have hunset : (!c.assignments.isEmpty) = !d.assignments.isEmpty :=
    h.holds .assignments (List.mem_cons_of_mem _ (List.mem_singleton_self _))
  simp [Edit.verdict, updateAll, allowsMode_congr (h.mode rfl), requireUnset_congr htables,
    requireUnset_congr hunset]

/-- **The frame law**: on records that look alike to a step, the step has one
    verdict. -/
theorem verdict_congr (h : Alike setter.clause c d) : c.verdict setter = d.verdict setter := by
  cases setter with
  | select columns => exact selectWith_congr h
  | selectWith columns options => exact selectWith_congr h
  | fromTables tables => exact fromTables_congr h
  | join kind table column value => exact joinAll_congr h
  | joinAll kind targets => exact joinAll_congr h
  | whereOne comparator column value => exact whereOne_congr h
  | whereAll link comparator columns values => exact whereAll_congr h
  | whereCustom conditions => exact whereCustom_congr h
  | orderBy column direction => exact orderByAll_congr h
  | orderByAll keys => exact orderByAll_congr h
  | limit count => exact setLimit_congr h
  | insert table values columns => exact insert_congr h
  | onDuplicateKey columns values => exact onDuplicateKey_congr h
  | update table column value => exact updateAll_congr h
  | updateAll table pairs => exact updateAll_congr h

/-! ## What an accepted step leaves alone -/

/-- A mode that is fixed is not that of an insert, unless by an insert. -/
theorem mode_insert_iff (h : c.set setter = .ok next) (hclause : setter.clause ≠ .row) :
    next.mode = some .insert ↔ c.mode = some .insert := by
  have hwrites := set_writes h
  have hmode : next.mode = setter.content.mode.or c.mode := by rw [hwrites.outcome]; rfl
  rw [hmode]
  cases hcontent : setter.content.mode with
  | none => exact Iff.rfl
  | some mode =>
      have hne : mode ≠ .insert := by
        intro heq
        rw [heq] at hcontent
        exact Setter.content_mode_ne_insert hclause hcontent
      -- the mode was open for another one, so it was none or that other one
      rcases hwrites.mode mode hcontent with hnone | hsame
      · rw [hnone]
        simp [hne]
      · rw [hsame]
        simp

/-- An accepted step leaves a record that looks the same to every step that is
    not entangled with it. -/
theorem alike_of_set {clause : Part} (h : c.set setter = .ok next)
    (hfree : ¬ clause.Entangled setter.clause) : Alike clause next c := by
  have hwrites := set_writes h
  refine ⟨?_, ?_, ?_⟩
  · intro part hpart
    have hother : part ∉ setter.parts := by
      rw [Setter.parts_eq_written]
      exact Part.not_mem_written hfree hpart
    rw [holds, hwrites.part_of_not_mem hother, holds]
  · intro hmode
    have hnone : setter.content.mode = none := by
      have hfixes := Part.fixesMode_eq_false hfree hmode
      rw [← Setter.content_mode_isSome] at hfixes
      exact Option.not_isSome_iff_eq_none.mp (Bool.eq_false_iff.mp hfixes)
    rw [hwrites.outcome]
    show setter.content.mode.or c.mode = c.mode
    rw [hnone]
    rfl
  · intro hclause
    refine mode_insert_iff h fun hrow => ?_
    exact hfree (by rw [hclause, hrow]; decide)

/-- Two records laid over a third one, each in parts of its own and at most one
    with a mode, can be laid in either order. -/
theorem overlay_comm {a b : Clauses} {p q : List Part} (hparts : ∀ part ∈ p, part ∉ q)
    (hmode : a.mode = none ∨ b.mode = none) :
    (c.overlay a p).overlay b q = (c.overlay b q).overlay a p := by
  have hmode' : b.mode.or (a.mode.or c.mode) = a.mode.or (b.mode.or c.mode) := by
    rcases hmode with ha | hb
    · rw [ha]
      rfl
    · rw [hb]
      rfl
  have hlay {α : Type} (part : Part) (x y z : α) :
      (if part ∈ q then y else if part ∈ p then x else z) =
        if part ∈ p then x else if part ∈ q then y else z := by
    by_cases hp : part ∈ p
    · rw [if_pos hp, if_neg (hparts part hp), if_pos hp]
    · rw [if_neg hp, if_neg hp]
  simp only [overlay, hlay, hmode']

/-- Steps that are not entangled leave one record, in either order. -/
theorem set_comm {a b : Setter} {ca cb cab cba : Clauses}
    (hfree : ¬ a.clause.Entangled b.clause) (ha : c.set a = .ok ca) (hb : c.set b = .ok cb)
    (hab : ca.set b = .ok cab) (hba : cb.set a = .ok cba) : cab = cba := by
  have hmode : a.content.mode = none ∨ b.content.mode = none := by
    cases hcontent : a.content.mode with
    | none => exact Or.inl rfl
    | some mode =>
        have hfixes : a.clause.fixesMode = true := by
          rw [← Setter.content_mode_isSome, hcontent]
          rfl
        have hother := Part.fixesMode_eq_false hfree hfixes
        rw [← Setter.content_mode_isSome] at hother
        exact Or.inr (Option.not_isSome_iff_eq_none.mp (Bool.eq_false_iff.mp hother))
  have hparts : ∀ part ∈ a.parts, part ∉ b.parts := by
    intro part hpart
    rw [Setter.parts_eq_written] at hpart ⊢
    exact Part.not_mem_written hfree hpart
  rw [(set_writes hab).outcome, (set_writes hba).outcome, (set_writes ha).outcome,
    (set_writes hb).outcome]
  exact overlay_comm hparts hmode

/-- A step that is accepted on one record is accepted where it has the same
    verdict. -/
theorem exists_set_of_verdict (hverdict : d.verdict setter = c.verdict setter)
    (h : c.set setter = .ok next) : ∃ other, d.set setter = .ok other := by
  rw [verdict, verdict, h] at hverdict
  cases hd : d.set setter with
  | error error =>
      rw [hd] at hverdict
      exact nomatch hverdict
  | ok other => exact ⟨other, rfl⟩

/-- A step that is rejected on one record leaves the other as it was where it
    has the same verdict. -/
theorem after_of_verdict {error : Error} (hverdict : d.verdict setter = c.verdict setter)
    (h : c.set setter = .error error) : d.after setter = d := by
  rw [verdict, verdict, h] at hverdict
  cases hd : d.set setter with
  | error error => exact after_of_error hd
  | ok other =>
      rw [hd] at hverdict
      exact nomatch hverdict

/-- A step changes no verdict on a step that is not entangled with it. -/
theorem verdict_after {a b : Setter} (hfree : ¬ a.clause.Entangled b.clause) :
    (c.after b).verdict a = c.verdict a := by
  cases hb : c.set b with
  | error error => rw [after_of_error hb]
  | ok cb =>
      rw [after_of_ok hb]
      exact verdict_congr (alike_of_set hb hfree)

/-- Steps that are not entangled leave one record in either order, whether
    they are accepted or not. -/
theorem after_comm {a b : Setter} (hfree : ¬ a.clause.Entangled b.clause) :
    (c.after a).after b = (c.after b).after a := by
  have hverdict_a : (c.after b).verdict a = c.verdict a := verdict_after hfree
  have hverdict_b : (c.after a).verdict b = c.verdict b :=
    verdict_after fun h => hfree h.symm
  cases ha : c.set a with
  | error error => rw [after_of_error ha, after_of_verdict hverdict_a ha]
  | ok ca =>
      cases hb : c.set b with
      | error error => rw [after_of_error hb, after_of_verdict hverdict_b hb]
      | ok cb =>
          obtain ⟨cab, hab⟩ := exists_set_of_verdict hverdict_b hb
          obtain ⟨cba, hba⟩ := exists_set_of_verdict hverdict_a ha
          rw [after_of_ok hab, after_of_ok hba]
          rw [after_of_ok ha] at hab
          rw [after_of_ok hb] at hba
          exact set_comm hfree ha hb hab hba

end Clauses

namespace Statement

variable {s : Statement} {a b : Call}

/-- The verdict on a call: it is accepted, or the reason why not. -/
def verdict (s : Statement) (call : Call) : Except Error Unit := (s.apply call).map fun _ => ()

/-- The verdict on a setter is that of the own clauses. -/
theorem verdict_set (s : Statement) (setter : Setter) :
    s.verdict (.set setter) = s.own.verdict setter := by
  rw [verdict, apply_set, Clauses.verdict]
  cases s.own.set setter <;> rfl

/-- Appending looks at the appended statements only, and changes those only. -/
theorem append_with_own (s child : Statement) (own : Clauses) :
    ({ s with own := own } : Statement).append child = { s.append child with own := own } := by
  rw [append, append]
  split <;> rfl

/-- **The verdict** on a call is the same before and after a call that is not
    entangled with it. -/
theorem verdict_step (h : ¬ a.Entangled b) : (s.step b).verdict a = s.verdict a := by
  cases a with
  | append child => rfl
  | set setter =>
      rw [verdict_set, verdict_set]
      cases b with
      | set other =>
          rw [step_set_eq]
          exact Clauses.verdict_after h
      | append child => simp

/-- **The statement** after two calls that are not entangled is the same in
    either order. -/
theorem step_comm (h : ¬ a.Entangled b) : (s.step a).step b = (s.step b).step a := by
  cases a with
  | append child =>
      cases b with
      | append other => exact absurd trivial h
      | set setter =>
          simp [append_with_own]
  | set setter =>
      cases b with
      | append child =>
          simp [append_with_own]
      | set other =>
          simp [Clauses.after_comm h]

/-! ## Runs -/

/-- After calls that are not entangled with it a call has the verdict that it
    had before them. -/
theorem verdict_steps {calls : List Call} {call : Call}
    (h : ∀ other ∈ calls, ¬ call.Entangled other) :
    (s.steps calls).verdict call = s.verdict call := by
  induction calls generalizing s with
  | nil => rfl
  | cons other rest ih =>
      obtain ⟨hother, hrest⟩ := List.forall_mem_cons.mp h
      simp [ih hrest, verdict_step hother]

/-- A run of calls of which no two are entangled ends in one statement, in
    whatever order they are made. -/
theorem steps_perm {calls calls' : List Call} (hperm : calls.Perm calls')
    (h : calls.Pairwise fun a b => ¬ a.Entangled b) : s.steps calls = s.steps calls' := by
  induction hperm generalizing s with
  | nil => rfl
  | cons call _ ih =>
      rw [steps_cons, steps_cons]
      exact ih (List.pairwise_cons.mp h).2
  | swap a b rest =>
      have hfree : ¬ b.Entangled a := (List.pairwise_cons.mp h).1 a (List.mem_cons_self ..)
      simp [step_comm hfree]
  | trans hfirst _ ih ih' =>
      have hsymm : ∀ {a b : Call}, ¬ a.Entangled b → ¬ b.Entangled a :=
        fun hfree hsym => hfree hsym.symm
      exact (ih h).trans (ih' (hfirst.pairwise h hsymm))

/-- **Order does not matter**: two calls that are not entangled have the same
    verdicts and leave the same statement in either order, whether they are
    accepted or not.  So a run of calls of which no two are entangled can be
    made in any order: each call keeps its verdict, and the text at the end is
    the same. -/
theorem order_of_calls (s : Statement) :
    (∀ a b : Call, ¬ a.Entangled b →
      s.verdict a = (s.step b).verdict a ∧ (s.step a).verdict b = s.verdict b ∧
      (s.step a).step b = (s.step b).step a) ∧
    ∀ calls calls' : List Call, calls.Perm calls' →
      (calls.Pairwise fun a b => ¬ a.Entangled b) →
      s.steps calls = s.steps calls' ∧ (s.steps calls).render = (s.steps calls').render ∧
      ∀ before call after, calls = before ++ call :: after →
        (s.steps before).verdict call = s.verdict call := by
  refine ⟨?_, ?_⟩
  · intro a b hfree
    have hfree' : ¬ b.Entangled a := fun h => hfree h.symm
    exact ⟨(verdict_step hfree).symm, verdict_step hfree', step_comm hfree⟩
  · intro calls calls' hperm hpairwise
    have hsteps := steps_perm (s := s) hperm hpairwise
    refine ⟨hsteps, congrArg render hsteps, ?_⟩
    rintro before call after rfl
    refine verdict_steps fun other hother h => ?_
    have hfree := (List.pairwise_append.mp hpairwise).2.2 other hother call (List.mem_cons_self ..)
    exact hfree h.symm

/-- An update of an inserted row is rejected before and after its duplicate-key
    clause; and a read is set up forwards and backwards, with a call among the
    others that is rejected. -/
theorem order_of_calls_backwards :
    let insert := empty.steps [.set (.insert (chars "t") [chars "1"] [chars "id"])]
    let update := Call.set (.update (chars "u") (chars "a") (chars "1"))
    let duplicate := Call.set (.onDuplicateKey [chars "id"] [chars "2"])
    let calls := [.set (.limit 5), .set (.whereOne .eq (chars "a") (chars "1")),
      .append insert, .set (.orderBy (chars "*") .asc), .set (.fromTables [chars "t"]),
      .set (.select [chars "id"])]
    (¬ update.Entangled duplicate ∧ calls.Pairwise fun a b => ¬ a.Entangled b) ∧
    insert.verdict update = .error (.alreadySet (chars "INSERT")) ∧
    insert.verdict update = (insert.step duplicate).verdict update ∧
    (insert.step update).verdict duplicate = .ok () ∧
    (empty.steps calls).render =
      chars "SELECT `id` FROM `t` WHERE a=1 LIMIT 5; INSERT INTO `t`(`id`) VALUES (1);" ∧
    (empty.steps calls).render = (empty.steps calls.reverse).render := by
  intro insert update duplicate calls
  have hfree : ¬ update.Entangled duplicate := by decide
  have hpairwise : calls.Pairwise fun a b => ¬ a.Entangled b := by decide +kernel
  obtain ⟨hupdate, hduplicate, -⟩ := (order_of_calls insert).1 update duplicate hfree
  have hrun := (order_of_calls empty).2 calls calls.reverse (List.reverse_perm calls).symm hpairwise
  refine ⟨⟨hfree, hpairwise⟩, ?_, hupdate, ?_, ?_, hrun.2.1⟩
  · decide +kernel
  · rw [hduplicate]
    decide +kernel
  · decide +kernel

end Statement

end GuardedSql
