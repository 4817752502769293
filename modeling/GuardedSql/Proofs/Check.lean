import Mathlib.Data.List.Basic

/-! # Checks — when a sequence of checks succeeds

    A function that checks first and builds afterwards is a chain of `Except`
    steps.  These laws say when such a chain returns a value, one law for each
    way of chaining. -/

namespace GuardedSql.Check

variable {ε α β : Type}

/-- Two steps succeed when the first does and the second does on its
    result. -/
theorem bind_eq_ok {x : Except ε α} {f : α → Except ε β} {b : β} :
    (x >>= f) = .ok b ↔ ∃ a, x = .ok a ∧ f a = .ok b := by
  cases x with
  | error e => simp [bind, Except.bind]
  | ok a => simp [bind, Except.bind]

/-- After a step with one possible value the rest goes on with that value. -/
theorem bind_eq_ok_of {x : Except ε α} {f : α → Except ε β} {a : α} {P : α → Prop} {b : β}
    (hx : ∀ y, x = .ok y ↔ y = a ∧ P y) : (x >>= f) = .ok b ↔ P a ∧ f a = .ok b := by
  simp only [bind_eq_ok, hx, and_assoc, exists_eq_left]

/-- After a step without a result the rest is all that counts. -/
@[simp] theorem seq_eq_ok {x : Except ε Unit} {y : Except ε β} {b : β} :
    (x >>= fun _ => y) = .ok b ↔ x = .ok () ∧ y = .ok b := by
  rw [bind_eq_ok]
  constructor
  · rintro ⟨⟨⟩, hx, hy⟩
    exact ⟨hx, hy⟩
  · rintro ⟨hx, hy⟩
    exact ⟨(), hx, hy⟩

@[simp] theorem pure_eq_ok {a b : α} : (pure a : Except ε α) = .ok b ↔ a = b := by
  simp [pure, Except.pure]

theorem throw_ne_ok {e : ε} {b : α} : (throw e : Except ε α) ≠ .ok b := nofun

/-- A refusal under a condition is passed when the condition fails. -/
theorem throwIf_eq_ok {p : Prop} [Decidable p] {e : ε} {f : Unit → Except ε β}
    {b : β} :
    (if p then (throw e : Except ε Unit) >>= f else f ()) = .ok b ↔
      ¬ p ∧ f () = .ok b := by
  by_cases hp : p
  · rw [if_pos hp, bind_eq_ok]
    simp [hp, throw_ne_ok]
  · rw [if_neg hp]
    simp [hp]

/-- A refusal in the place of a step is passed like one before it. -/
@[simp] theorem errorIf_eq_ok {p : Prop} [Decidable p] {e : ε} {x : Except ε β} {b : β} :
    (if p then .error e else x) = .ok b ↔ ¬ p ∧ x = .ok b := by
  by_cases hp : p <;> simp [hp]

/-- What a refusal stands beside is done under the condition. -/
@[simp] theorem ifError_eq_ok {p : Prop} [Decidable p] {e : ε} {x : Except ε β} {b : β} :
    (if p then x else .error e) = .ok b ↔ p ∧ x = .ok b := by
  by_cases hp : p <;> simp [hp]

/-- A step that is chosen by a condition, and what follows it in either
    case. -/
theorem ite_bind {p : Prop} [Decidable p] {x y : Except ε α} {f : α → Except ε β} :
    (if p then x >>= f else y >>= f) = (if p then x else y) >>= f := by
  split <;> rfl

/-- What is done with the outcome of two steps is done with that of the
    second. -/
@[simp] theorem map_bind {γ : Type} {x : Except ε α} {f : α → Except ε β} {g : β → γ} :
    (x >>= f).map g = x >>= fun a => (f a).map g := by
  cases x with
  | error e => rfl
  | ok a => rfl

@[simp] theorem map_ok {a : α} {g : α → β} : (.ok a : Except ε α).map g = .ok (g a) := rfl

@[simp] theorem map_ite {p : Prop} [Decidable p] {x y : Except ε α} {g : α → β} :
    (if p then x else y).map g = if p then x.map g else y.map g := apply_ite _ _ _ _

/-- The same check on every element of a list. -/
@[simp] theorem forM_eq_ok {f : α → Except ε Unit} {xs : List α} :
    forM xs f = .ok () ↔ ∀ x ∈ xs, f x = .ok () := by
  induction xs with
  | nil => exact ⟨fun _ _ hx => (nomatch hx), fun _ => rfl⟩
  | cons x xs ih => rw [List.forM_cons, seq_eq_ok, ih, List.forall_mem_cons]

/-- A step that rewrites its argument by `g` and then requires `P` does the
    same to a list, element by element. -/
theorem mapM_eq_ok {f : α → Except ε β} {g : α → β} {P : β → Prop}
    (hf : ∀ x y, f x = .ok y ↔ y = g x ∧ P y) {xs : List α} {ys : List β} :
    xs.mapM f = .ok ys ↔ ys = xs.map g ∧ ∀ y ∈ ys, P y := by
  induction xs generalizing ys with
  | nil =>
      rw [List.mapM_nil, pure_eq_ok, List.map_nil]
      constructor
      · rintro rfl
        exact ⟨rfl, fun _ hy => nomatch hy⟩
      · rintro ⟨rfl, -⟩
        rfl
  | cons x xs ih =>
      simp only [List.mapM_cons, bind_eq_ok, pure_eq_ok, List.map_cons, hf, ih]
      constructor
      · rintro ⟨y, ⟨rfl, hy⟩, rest, ⟨rfl, hrest⟩, rfl⟩
        exact ⟨rfl, List.forall_mem_cons.mpr ⟨hy, hrest⟩⟩
      · rintro ⟨rfl, hall⟩
        obtain ⟨hy, hrest⟩ := List.forall_mem_cons.mp hall
        exact ⟨g x, ⟨rfl, hy⟩, xs.map g, ⟨rfl, hrest⟩, rfl⟩

/-- Steps with the same outcomes, place by place, have the same outcome on
    whole lists, be it a value or the first error. -/
theorem mapM_congr {f : α → Except ε β} {xs ys : List α}
    (h : List.Forall₂ (fun x y => f x = f y) xs ys) : xs.mapM f = ys.mapM f := by
  induction h with
  | nil => rfl
  | cons hxy _ ih => rw [List.mapM_cons, List.mapM_cons, hxy, ih]

end GuardedSql.Check
