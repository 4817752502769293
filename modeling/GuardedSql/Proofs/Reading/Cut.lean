import GuardedSql.Proofs.Text.Join
import Mathlib.Data.List.Infix

/-! # Cutting — where a written part ends, told by the text alone

    A part of a text can be read back if the text tells where the part ends.
    `Readable` says so of a way of writing: two texts that begin with written
    parts and are the same text begin with the same part, as far as `key`
    tells, and go on alike.  What may follow a part is given by `stop`, most
    often as a list of marks, one of which the rest must begin with. -/

namespace GuardedSql

variable {α κ : Type} {a b s t x y : Text} {marks : List Text}

/-! ## Marks -/

/-- The text begins with one of the marks. -/
def Begins (marks : List Text) (t : Text) : Prop := ∃ mark ∈ marks, mark <+: t

instance (marks : List Text) (t : Text) : Decidable (Begins marks t) :=
  inferInstanceAs (Decidable (∃ mark ∈ marks, mark <+: t))

theorem Begins.append (h : Begins marks x) (y : Text) : Begins marks (x ++ y) := by
  obtain ⟨mark, hmem, hpre⟩ := h
  exact ⟨mark, hmem, hpre.trans (List.prefix_append x y)⟩

/-- Marks that begin with other marks. -/
theorem Begins.trans {others : List Text} (h : Begins marks t)
    (hmarks : ∀ mark ∈ marks, Begins others mark) : Begins others t := by
  obtain ⟨mark, hmem, rest, rfl⟩ := h
  exact (hmarks mark hmem).append rest

/-- No text begins both with one of the marks and with the given one. -/
def Unlike (marks : List Text) (b : Text) : Prop :=
  ∀ mark ∈ marks, ¬ mark <+: b ∧ ¬ b <+: mark

instance (marks : List Text) (b : Text) : Decidable (Unlike marks b) :=
  inferInstanceAs (Decidable (∀ mark ∈ marks, ¬ mark <+: b ∧ ¬ b <+: mark))

/-- A text that begins with one of the marks does not begin with a text unlike
    them. -/
theorem Begins.excludes (h : Begins marks t) (hb : Unlike marks b) : ¬ b <+: t := by
  obtain ⟨mark, hmem, hpre⟩ := h
  intro hbt
  rcases List.prefix_or_prefix_of_prefix hpre hbt with hmb | hbm
  · exact (hb mark hmem).1 hmb
  · exact (hb mark hmem).2 hbm

/-- What all marks begin with, the text begins with. -/
theorem Begins.head {p : Char → Prop} (h : Begins marks t)
    (hmarks : ∀ mark ∈ marks, ∃ c ∈ mark.head?, p c) : ∃ c ∈ t.head?, p c := by
  obtain ⟨mark, hmem, rest, rfl⟩ := h
  obtain ⟨c, hc, hp⟩ := hmarks mark hmem
  refine ⟨c, ?_, hp⟩
  rw [List.head?_append, hc]
  rfl

/-! ## Cuts -/

/-- **The cut**: a text is cut in one place only, if either second part is a
    stop and no stop begins inside the first parts. -/
theorem eq_of_append_eq (stop : Text → Prop) {a' s' : Text} (hs : stop s) (hs' : stop s')
    (ha : ∀ u v, a = u ++ v → v ≠ [] → ¬ stop (v ++ s))
    (ha' : ∀ u v, a' = u ++ v → v ≠ [] → ¬ stop (v ++ s'))
    (h : a ++ s = a' ++ s') : a = a' ∧ s = s' := by
  rcases List.append_eq_append_iff.mp h with ⟨v, hv, hsv⟩ | ⟨v, hv, hsv⟩
  · by_cases hne : v = []
    · rw [hne, List.append_nil] at hv
      rw [hne, List.nil_append] at hsv
      exact ⟨hv.symm, hsv⟩
    · -- the first stop would begin inside the second part
      exact absurd (hsv ▸ hs) (ha' a v hv hne)
  · by_cases hne : v = []
    · rw [hne, List.append_nil] at hv
      rw [hne, List.nil_append] at hsv
      exact ⟨hv, hsv.symm⟩
    · exact absurd (hsv ▸ hs') (ha a' v hv hne)

/-- A cut at the first character of a class, or at the end. -/
theorem eq_of_append_eq_of_class_or_end {p : Char → Prop} {a' s' : Text}
    (hs : ∀ c ∈ s.head?, p c) (hs' : ∀ c ∈ s'.head?, p c)
    (ha : ∀ c ∈ a, ¬ p c) (ha' : ∀ c ∈ a', ¬ p c)
    (h : a ++ s = a' ++ s') : a = a' ∧ s = s' := by
  have hinside : ∀ {a s : Text}, (∀ c ∈ a, ¬ p c) → ∀ u v, a = u ++ v → v ≠ [] →
      ¬ ∀ c ∈ (v ++ s).head?, p c := by
    rintro a s ha u v rfl hne hall
    obtain ⟨d, rest, rfl⟩ := List.exists_cons_of_ne_nil hne
    exact ha d (by simp) (hall d rfl)
  exact eq_of_append_eq (fun t => ∀ c ∈ t.head?, p c) hs hs' (hinside ha) (hinside ha') h

/-- A cut at the first character of a class. -/
theorem eq_of_append_eq_of_class {p : Char → Prop} {a' s' : Text}
    (hs : ∃ c ∈ s.head?, p c) (hs' : ∃ c ∈ s'.head?, p c)
    (ha : ∀ c ∈ a, ¬ p c) (ha' : ∀ c ∈ a', ¬ p c)
    (h : a ++ s = a' ++ s') : a = a' ∧ s = s' := by
  have hfirst : ∀ {t : Text}, (∃ c ∈ t.head?, p c) → ∀ c ∈ t.head?, p c := by
    rintro t ⟨d, hd, hp⟩ c hc
    exact Option.some.inj (hd.symm.trans hc) ▸ hp
  exact eq_of_append_eq_of_class_or_end (hfirst hs) (hfirst hs') ha ha' h

/-- A cut after the last character of a class. -/
theorem eq_of_append_eq_of_last_class {p : Char → Prop} {a' s' : Text}
    (ha : ∃ c ∈ a.getLast?, p c) (ha' : ∃ c ∈ a'.getLast?, p c)
    (hs : ∀ c ∈ s, ¬ p c) (hs' : ∀ c ∈ s', ¬ p c)
    (h : a ++ s = a' ++ s') : a = a' ∧ s = s' := by
  have hreverse : s.reverse ++ a.reverse = s'.reverse ++ a'.reverse := by
    rw [← List.reverse_append, h, List.reverse_append]
  rw [← List.head?_reverse] at ha ha'
  obtain ⟨hs, ha⟩ := eq_of_append_eq_of_class ha ha'
    (fun c hc => hs c (List.mem_reverse.mp hc)) (fun c hc => hs' c (List.mem_reverse.mp hc))
    hreverse
  exact ⟨List.reverse_injective ha, List.reverse_injective hs⟩

/-- A text between two quotes that it does not hold ends at the second. -/
theorem eq_of_enclosed_append_eq {q : Char} {r r' : Text} (hx : q ∉ x) (hy : q ∉ y)
    (h : q :: x ++ [q] ++ r = q :: y ++ [q] ++ r') : x = y ∧ r = r' := by
  have hinner : x ++ q :: r = y ++ q :: r' := by
    simpa using h
  obtain ⟨hxy, hr⟩ := eq_of_append_eq_of_class (p := (· = q)) ⟨q, rfl, rfl⟩ ⟨q, rfl, rfl⟩
    (fun c hc heq => hx (heq ▸ hc)) (fun c hc heq => hy (heq ▸ hc)) hinner
  exact ⟨hxy, (List.cons.inj hr).2⟩

/-- Two marks that begin one text are the same, if what follows either does
    not complete it to the other. -/
theorem eq_of_mark_append_eq {ι : Type} {mark : ι → Text} {i j : ι}
    (hx : i ≠ j → ∀ tail, mark j = mark i ++ tail → ¬ tail <+: x)
    (hy : i ≠ j → ∀ tail, mark i = mark j ++ tail → ¬ tail <+: y)
    (h : mark i ++ x = mark j ++ y) : i = j ∧ x = y := by
  have hij : i = j := by
    refine Classical.byContradiction fun hne => ?_
    rcases List.append_eq_append_iff.mp h with ⟨tail, hmark, hrest⟩ | ⟨tail, hmark, hrest⟩
    · exact hx hne tail hmark ⟨_, hrest.symm⟩
    · exact hy hne tail hmark ⟨_, hrest.symm⟩
  rw [hij] at h
  exact ⟨hij, List.append_cancel_left h⟩

/-! ## Ways of writing -/

/-- What is written can be read back, as far as `key` tells, whatever allowed
    text follows. -/
def Readable (write : α → Text) (ok : α → Prop) (stop : Text → Prop) (key : α → κ) : Prop :=
  ∀ ⦃x y : α⦄, ok x → ok y → ∀ ⦃r r' : Text⦄, stop r → stop r' →
    write x ++ r = write y ++ r' → key x = key y ∧ r = r'

variable {write : α → Text} {ok : α → Prop} {stop : Text → Prop} {key : α → κ}

theorem Readable.weaken {last : Text → Prop} (h : Readable write ok stop key)
    (hlast : ∀ r, last r → stop r) : Readable write ok last key := by
  intro x y hx hy r r' hr hr' heq
  exact h hx hy (hlast r hr) (hlast r' hr') heq

/-- **Lists**: elements that can be read back can be read back from a join,
    if the separator may follow an element and the text after the join does
    not begin with it. -/
theorem Readable.join (h : Readable write ok stop key) (between : String) (last : Text → Prop)
    (hbetween : ∀ r, stop (chars between ++ r)) (hlast : ∀ r, last r → stop r)
    (hends : ∀ r, last r → ¬ chars between <+: r) :
    Readable (fun xs => Text.join between (xs.map write)) (fun xs => xs ≠ [] ∧ ∀ x ∈ xs, ok x)
      last (List.map key) := by
  have hrest : ∀ (xs : List α) {r : Text}, last r →
      stop (if (xs.map write).isEmpty then r
        else chars between ++ (Text.join between (xs.map write) ++ r)) := by
    intro xs r hr
    split
    · exact hlast r hr
    · exact hbetween _
  rintro xs ys ⟨hxne, hxs⟩ ⟨hyne, hys⟩ r r' hr hr' heq
  induction xs generalizing ys with
  | nil => exact absurd rfl hxne
  | cons x xs ih =>
      obtain ⟨y, ys, rfl⟩ := List.exists_cons_of_ne_nil hyne
      obtain ⟨hx, hxs⟩ := List.forall_mem_cons.mp hxs
      obtain ⟨hy, hys⟩ := List.forall_mem_cons.mp hys
      simp only [List.map_cons, Text.join_cons_append] at heq
      obtain ⟨hkey, htail⟩ := h hx hy (hrest xs hr) (hrest ys hr') heq
      rw [List.map_cons, List.map_cons, hkey]
      -- one list may not go on where the other ends
      cases xs with
      | nil =>
          cases ys with
          | nil => exact ⟨rfl, htail⟩
          | cons y' ys => exact absurd ⟨_, htail.symm⟩ (hends r hr)
      | cons x' xs =>
          cases ys with
          | nil => exact absurd ⟨_, htail⟩ (hends r' hr')
          | cons y' ys =>
              have hjoin := List.append_cancel_left (show chars between ++ _ = _ from htail)
              obtain ⟨hkeys, hr⟩ :=
                ih (List.cons_ne_nil x' xs) hxs (List.cons_ne_nil y' ys) hys hjoin
              exact ⟨congrArg _ hkeys, hr⟩

/-- Elements that are read back exactly are read back exactly from a join, if
    the separator and what follows the join begin with marks that end an
    element, and are not alike. -/
theorem Readable.join_exact {ends last : List Text} (h : Readable write ok (Begins ends) id)
    (between : String) (hbetween : Begins ends (chars between))
    (hlast : ∀ mark ∈ last, Begins ends mark) (hunlike : Unlike last (chars between)) :
    Readable (fun xs => Text.join between (xs.map write)) (fun xs => xs ≠ [] ∧ ∀ x ∈ xs, ok x)
      (Begins last) id := by
  have hjoin := h.join between (Begins last) (fun r => hbetween.append r)
    (fun _ hr => hr.trans hlast) (fun _ hr => hr.excludes hunlike)
  rw [List.map_id_fun] at hjoin
  exact hjoin

/-- **Series**: elements that can be read back can be read back one after
    another, if an element may follow an element and the text after the last
    begins with none. -/
theorem Readable.flatMap (h : Readable write ok stop key) (last : Text → Prop)
    (hnext : ∀ x, ok x → ∀ r, stop (write x ++ r)) (hlast : ∀ r, last r → stop r)
    (hends : ∀ x, ok x → ∀ r, last r → ¬ write x <+: r) :
    Readable (fun xs => xs.flatMap write) (fun xs => ∀ x ∈ xs, ok x) last (List.map key) := by
  have hrest : ∀ (xs : List α) {r : Text}, (∀ x ∈ xs, ok x) → last r →
      stop (xs.flatMap write ++ r) := by
    intro xs r hxs hr
    cases xs with
    | nil => exact hlast r hr
    | cons x xs =>
        rw [List.flatMap_cons, List.append_assoc]
        exact hnext x (hxs x (List.mem_cons_self ..)) _
  intro xs ys hxs hys r r' hr hr' heq
  induction xs generalizing ys with
  | nil =>
      cases ys with
      | nil => exact ⟨rfl, heq⟩
      | cons y ys =>
          refine absurd ⟨ys.flatMap write ++ r', ?_⟩
            (hends y (hys y (List.mem_cons_self ..)) r hr)
          rw [← List.append_assoc]
          exact heq.symm
  | cons x xs ih =>
      cases ys with
      | nil =>
          refine absurd ⟨xs.flatMap write ++ r, ?_⟩
            (hends x (hxs x (List.mem_cons_self ..)) r' hr')
          rw [← List.append_assoc]
          exact heq
      | cons y ys =>
          obtain ⟨hx, hxs⟩ := List.forall_mem_cons.mp hxs
          obtain ⟨hy, hys⟩ := List.forall_mem_cons.mp hys
          simp only [List.flatMap_cons, List.append_assoc] at heq
          obtain ⟨hkey, htail⟩ := h hx hy (hrest xs hxs hr) (hrest ys hys hr') heq
          obtain ⟨hkeys, hr⟩ := ih hxs hys htail
          exact ⟨List.cons_eq_cons.mpr ⟨hkey, hkeys⟩, hr⟩

/-- An optional part can be read back, if the text after it does not begin
    like the part. -/
theorem Readable.optional {body : List α → Text} {all : List α → Prop} {last : Text → Prop}
    {keys : List α → List κ} (h : Readable body (fun xs => xs ≠ [] ∧ all xs) last keys)
    (opening : Text) (hends : ∀ r, last r → ¬ opening <+: r) :
    Readable (fun xs => if xs.isEmpty then [] else opening ++ body xs) all last keys := by
  intro xs ys hxs hys r r' hr hr' heq
  cases xs with
  | nil =>
      cases ys with
      | nil => exact ⟨rfl, heq⟩
      | cons y ys =>
          refine absurd ⟨body (y :: ys) ++ r', ?_⟩ (hends r hr)
          rw [← List.append_assoc]
          exact heq.symm
  | cons x xs =>
      cases ys with
      | nil =>
          refine absurd ⟨body (x :: xs) ++ r, ?_⟩ (hends r' hr')
          rw [← List.append_assoc]
          exact heq
      | cons y ys =>
          have hbody : opening ++ (body (x :: xs) ++ r) = opening ++ (body (y :: ys) ++ r') := by
            rw [← List.append_assoc, ← List.append_assoc]
            exact heq
          exact h ⟨List.cons_ne_nil x xs, hxs⟩ ⟨List.cons_ne_nil y ys, hys⟩ hr hr'
            (List.append_cancel_left hbody)

/-- An element after its opening, if there is one. -/
def writeOption (opening : Text) (write : α → Text) : Option α → Text
  | none => []
  | some x => opening ++ write x

/-- An optional element can be read back, if the text after it does not begin
    like the part. -/
theorem Readable.option {last : Text → Prop} (h : Readable write ok stop key) (opening : Text)
    (hlast : ∀ r, last r → stop r) (hends : ∀ r, last r → ¬ opening <+: r) :
    Readable (writeOption opening write) (fun o => ∀ x ∈ o, ok x) last (Option.map key) := by
  intro o p ho hp r r' hr hr' heq
  cases o with
  | none =>
      cases p with
      | none => exact ⟨rfl, heq⟩
      | some y =>
          refine absurd ⟨write y ++ r', ?_⟩ (hends r hr)
          rw [← List.append_assoc]
          exact heq.symm
  | some x =>
      cases p with
      | none =>
          refine absurd ⟨write x ++ r, ?_⟩ (hends r' hr')
          rw [← List.append_assoc]
          exact heq
      | some y =>
          have hwrite : opening ++ (write x ++ r) = opening ++ (write y ++ r') := by
            rw [← List.append_assoc, ← List.append_assoc]
            exact heq
          obtain ⟨hkey, hrest⟩ := h (ho x rfl) (hp y rfl) (hlast r hr) (hlast r' hr')
            (List.append_cancel_left hwrite)
          exact ⟨congrArg some hkey, hrest⟩

end GuardedSql
