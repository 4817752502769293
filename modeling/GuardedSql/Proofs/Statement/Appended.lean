import GuardedSql.Proofs.Statement.Emptiness
import GuardedSql.Proofs.Statement.Run

/-! # Appended statements — an ordered set of texts

    A statement is appended unless its text is there, so what is appended in
    a run is told by the texts: `Statement.firsts` are the statements of a
    list that have a text which none before them has.  The text of the whole
    is a join of texts, and appending adds one at its end or none: what was
    there stays in front.

    The induction over a run goes from its end, as the last statement is
    compared with all before it. -/

namespace GuardedSql

namespace Statement

variable {s child : Statement} {cs : List Statement}

/-- The statements whose text differs from all texts before theirs, in order. -/
def firsts (cs : List Statement) : List Statement :=
  (cs.zipIdx.filter fun x => !(cs.take x.2).any fun earlier => earlier.render == x.1.render).map
    Prod.fst

/-- The test for a text that is there already, as a membership. -/
theorem any_render_beq (cs : List Statement) (c : Statement) :
    (cs.any fun existing => existing.render == c.render) = decide (c.render ∈ cs.map render) := by
  rw [Bool.eq_iff_iff]
  simp

/-- The last statement counts if its text is none of the others. -/
theorem firsts_concat (cs : List Statement) (c : Statement) :
    firsts (cs ++ [c]) = firsts cs ++ if c.render ∈ cs.map render then [] else [c] := by
  have hfront : ∀ x ∈ cs.zipIdx, (cs ++ [c]).take x.2 = cs.take x.2 := fun x hx =>
    List.take_append_of_le_length (Nat.le_of_lt (List.snd_lt_of_mem_zipIdx hx))
  have hlast : (cs ++ [c]).take (0 + cs.length) = cs := by
    rw [Nat.zero_add]
    exact List.take_left
  rw [firsts, List.zipIdx_append, List.filter_append, List.map_append, List.zipIdx_singleton,
    List.filter_singleton, firsts, hlast]
  congr 1
  · refine congrArg (List.map Prod.fst) (List.filter_congr fun x hx => ?_)
    rw [hfront x hx]
  · rw [any_render_beq]
    by_cases hmem : c.render ∈ cs.map render
    · simp [hmem]
    · simp [hmem]

/-- The texts of the first statements are the texts without repetitions. -/
theorem map_render_firsts (cs : List Statement) :
    (firsts cs).map render = (cs.map render).eraseDups := by
  induction cs using List.reverseRecOn with
  | nil => rfl
  | append_singleton cs c ih =>
      rw [firsts_concat, List.map_append, List.map_append, List.eraseDups_append, ih]
      congr 1
      rw [List.map_singleton, List.removeAll, List.filter_singleton]
      by_cases hmem : c.render ∈ cs.map render
      · simp only [hmem, if_true, List.elem_eq_mem, decide_true, Bool.not_true, List.map_nil]
        rfl
      · simp only [hmem, if_false, List.elem_eq_mem, decide_false, Bool.not_false,
          List.map_singleton]
        rfl

/-! ## Appending one after another -/

/-- Appending adds the statement at the end, unless its text is there. -/
theorem appended_append (s child : Statement) : (s.append child).appended =
    s.appended ++ if child.render ∈ s.appended.map render then [] else [child] := by
  rw [append, any_render_beq]
  by_cases hmem : child.render ∈ s.appended.map render
  · simp [hmem]
  · simp [hmem]

/-- **The run**: what is appended to a statement that had nothing appended are
    the first statements with their texts. -/
theorem appended_steps (childless : s.appended = []) (cs : List Statement) :
    (s.steps (cs.map .append)).appended = firsts cs := by
  induction cs using List.reverseRecOn with
  | nil => exact childless
  | append_singleton cs c ih =>
      have hstep : s.steps ((cs ++ [c]).map .append) = (s.steps (cs.map .append)).append c := by
        simp
      rw [hstep, appended_append, ih, firsts_concat, map_render_firsts]
      simp only [List.mem_eraseDups]

@[simp] theorem own_steps_append (s : Statement) (cs : List Statement) :
    (s.steps (cs.map .append)).own = s.own := by
  induction cs generalizing s with
  | nil => rfl
  | cons c cs ih => simp [ih]

/-! ## The text after an append -/

theorem prefix_chain (x y : Text) : x <+: chain x y := by
  rw [chain]
  cases y with
  | nil => exact List.prefix_refl x
  | cons c y =>
      cases x with
      | nil => exact List.nil_prefix
      | cons d x => exact List.prefix_append _ _

@[simp] theorem chain_nil (x : Text) : chain x [] = x := rfl

/-- The texts of appended statements join those before them. -/
theorem renderAfter_eq (texts : List Text) (ss : List Statement) :
    renderAfter (joinFilled texts) ss = joinFilled (texts ++ ss.map render) := by
  induction ss generalizing texts with
  | nil => rw [renderAfter, List.map_nil, List.append_nil]
  | cons s ss ih =>
      rw [renderAfter, ← joinFilled_singleton s.render, chain_joinFilled, ih, List.map_cons,
        List.append_assoc]
      rfl

/-- The text of a statement is the join of its own text and the texts of the
    appended statements. -/
theorem render_eq_join_children (s : Statement) :
    s.render = joinFilled (s.own.render :: s.appended.map render) := by
  obtain ⟨own, appended⟩ := s
  rw [render, ← joinFilled_singleton own.render, renderAfter_eq, joinFilled_singleton]
  rfl

/-- An append chains the text of the child, unless its text is there. -/
theorem render_append (s child : Statement) : (s.append child).render =
    if child.render ∈ s.appended.map render then s.render else chain s.render child.render := by
  rw [render_eq_join_children (s.append child), own_append, appended_append,
    render_eq_join_children s]
  by_cases hmem : child.render ∈ s.appended.map render
  · rw [if_pos hmem, if_pos hmem, List.append_nil]
  · rw [if_neg hmem, if_neg hmem, List.map_append, List.map_singleton, ← List.cons_append,
      ← chain_joinFilled, joinFilled_singleton]

/-- What was written before an append stays in front. -/
theorem render_prefix_append (s child : Statement) : s.render <+: (s.append child).render := by
  rw [render_append]
  split
  · exact List.prefix_refl _
  · exact prefix_chain _ _

/-- An empty statement has no text. -/
theorem render_of_isEmpty (h : s.isEmpty = true) : s.render = [] := by
  have hfilter : (s.nodes.map Clauses.render).filter (fun t => !t.isEmpty) = [] := by
    refine List.filter_eq_nil_iff.mpr (List.forall_mem_map.mpr fun node hnode => ?_)
    rw [Clauses.render_of_mode_eq_none ((isEmpty_iff s).mp h node hnode)]
    exact Bool.false_ne_true
  rw [render_eq_joinFilled, joinFilled, hfilter]
  rfl

/-- **An ordered set of texts**: statements appended one after another to a
    statement that had none leave the first with each text, in order; the text
    of the whole is the join of the statement's own and theirs.  So each
    append keeps what was written in front, a text that is there or an empty
    statement changes nothing that is written, and statements with the same
    texts give the same. -/
theorem orderedTexts_of_appends (s : Statement) (childless : s.appended = [])
    (cs : List Statement) :
    let whole := s.steps (cs.map .append)
    whole.own = s.own ∧
    whole.appended = firsts cs ∧
    whole.render = joinFilled (s.own.render :: (cs.map render).eraseDups) ∧
    (∀ child, whole.render <+: (whole.append child).render) ∧
    (∀ child : Statement, child.render ∈ cs.map render ∨ child.isEmpty = true →
      (whole.append child).render = whole.render) ∧
    ∀ ds : List Statement, ds.map render = cs.map render →
      let other := s.steps (ds.map .append)
      other.render = whole.render ∧ other.appended.map render = whole.appended.map render := by
  intro whole
  have happended : whole.appended = firsts cs := appended_steps childless cs
  have htext : ∀ ds : List Statement, (s.steps (ds.map .append)).render =
      joinFilled (s.own.render :: (ds.map render).eraseDups) := by
    intro ds
    rw [render_eq_join_children, own_steps_append, appended_steps childless, map_render_firsts]
  refine ⟨own_steps_append s cs, happended, htext cs, render_prefix_append whole, ?_, ?_⟩
  · rintro child (hmem | hempty)
    · rw [render_append, happended, map_render_firsts, if_pos (List.mem_eraseDups.mpr hmem)]
    · rw [render_append, render_of_isEmpty hempty, chain_nil, ite_self]
  · intro ds hsame other
    refine ⟨?_, ?_⟩
    · rw [htext ds, htext cs, hsame]
    · rw [appended_steps childless, happended, map_render_firsts, map_render_firsts, hsame]

/-- Of five statements three are appended, one of them without a text: the
    third has the text of the first in other words, and the last that of the
    tree before it, as no update writes its limit. -/
theorem orderedTexts_of_appends_repeated :
    let update (table : Text) := Setter.update table (chars "a") (chars "1")
    let first := empty.step (.set (update (chars "t")))
    let blank := empty.step (.set (.limit 1))
    let other := empty.step (.set (update (chars "`t`")))
    let inner := empty.step (.set (update (chars "u")))
    let tree := empty.steps [.append blank, .append inner]
    let last := inner.step (.set (.limit 2))
    let s := empty.steps [.set (.select [chars "b"]), .set (.fromTables [chars "v"])]
    let cs := [first, blank, other, tree, last]
    let whole := s.steps (cs.map .append)
    (s.appended = [] ∧ whole.appended.length = 3 ∧
      whole.render = chars "SELECT `b` FROM `v`; UPDATE `t` SET a=1; UPDATE `u` SET a=1;") ∧
    whole.own = s.own ∧
    whole.appended = firsts cs ∧
    whole.render = joinFilled (s.own.render :: (cs.map render).eraseDups) ∧
    (∀ child, whole.render <+: (whole.append child).render) ∧
    (∀ child : Statement, child.render ∈ cs.map render ∨ child.isEmpty = true →
      (whole.append child).render = whole.render) ∧
    ∀ ds : List Statement, ds.map render = cs.map render →
      let other := s.steps (ds.map .append)
      other.render = whole.render ∧ other.appended.map render = whole.appended.map render := by
  intro update first blank other inner tree last s cs whole
  have childless : s.appended = [] := List.isEmpty_iff.mp (by decide +kernel)
  have hrun : whole.appended.length = 3 ∧
      whole.render = chars "SELECT `b` FROM `v`; UPDATE `t` SET a=1; UPDATE `u` SET a=1;" := by
    decide +kernel
  exact ⟨⟨childless, hrun⟩, orderedTexts_of_appends s childless cs⟩

end Statement

end GuardedSql
