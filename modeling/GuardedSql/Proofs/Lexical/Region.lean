import GuardedSql.Proofs.Text.Words

/-! # Regions — a text read from left to right, literals and names apart

    A reader of SQL text is outside, in a literal between single quotes, or in
    a name between backticks.  From outside a quote opens its own region, and
    inside a region only its own quote closes it; a backslash means nothing.

    `Region.after` is the region at the end, `Region.met` tells in which
    region each character is met, and `bare` is what a reader sees who skips
    literals and names.  The keywords of a text are the keywords among the
    words of its bare text. -/

namespace GuardedSql

/-- Where a reader of a text is. -/
inductive Region where
  | outside | quoted | ticked
  deriving DecidableEq, Repr

namespace Region

/-- The region that a character opens when it is met outside. -/
def opened (c : Char) : Region :=
  if c = '\'' then .quoted else if c = Name.tick then .ticked else .outside

/-- The region after a character. -/
def next : Region → Char → Region
  | .outside, c => opened c
  | .quoted, c => if c = '\'' then .outside else .quoted
  | .ticked, c => if c = Name.tick then .outside else .ticked

/-- The region after a text. -/
def after (r : Region) (t : Text) : Region := t.foldl next r

/-- The characters of a text, each with the region in which it is met. -/
def met : Region → Text → List (Region × Char)
  | _, [] => []
  | r, c :: rest => (r, c) :: met (r.next c) rest

/-- A text as it is seen when literals and names are skipped: what is met
    inside a region is blank. -/
def bare (t : Text) : Text :=
  (met .outside t).map fun (r, c) => if r = .outside then c else ' '

variable {r : Region} {t x y : Text} {c : Char}

/-- The region after two texts is that after the second, begun where the first
    ends. -/
@[simp] theorem after_append (r : Region) (x y : Text) :
    r.after (x ++ y) = (r.after x).after y :=
  List.foldl_append

/-- Two texts are met one after the other. -/
@[simp] theorem met_append (r : Region) (x y : Text) :
    r.met (x ++ y) = r.met x ++ (r.after x).met y := by
  induction x generalizing r with
  | nil => rfl
  | cons c x ih =>
      rw [List.cons_append, met, ih]
      rfl

/-- Every character is met once, and in its place. -/
@[simp] theorem map_snd_met (r : Region) (t : Text) : (r.met t).map Prod.snd = t := by
  induction t generalizing r with
  | nil => rfl
  | cons c t ih => rw [met, List.map_cons, ih]

/-! ## Closed texts -/

/-- The text leaves no region open. -/
def Closed (t : Text) : Prop := after .outside t = .outside

instance (t : Text) : Decidable (Closed t) := inferInstanceAs (Decidable (_ = _))

theorem Closed.append (hx : Closed x) (hy : Closed y) : Closed (x ++ y) := by
  simpa [Closed, show after .outside x = .outside from hx] using hy

/-- After a closed text nothing is hidden by it. -/
theorem bare_append (hx : Closed x) (y : Text) : bare (x ++ y) = bare x ++ bare y := by
  rw [bare, met_append, hx, List.map_append]
  rfl

/-- A text without quotes and backticks opens nothing. -/
theorem closed_of_plain (h : ∀ c ∈ t, opened c = .outside) : Closed t ∧ bare t = t := by
  induction t with
  | nil => exact ⟨rfl, rfl⟩
  | cons c t ih =>
      obtain ⟨hc, ht⟩ := List.forall_mem_cons.mp h
      obtain ⟨hclosed, hbare⟩ := ih ht
      have hone : Closed [c] := hc
      constructor
      · exact hone.append hclosed
      · have hcons := bare_append hone t
        rw [hbare] at hcons
        exact hcons

theorem opened_eq_outside (hquote : c ≠ '\'') (htick : c ≠ Name.tick) :
    opened c = .outside := by
  rw [opened, if_neg hquote, if_neg htick]

/-- A character that opens a region. -/
def IsQuote (q : Char) : Prop := q = '\'' ∨ q = Name.tick

/-- Only its own quote ends a region. -/
theorem next_opened {q : Char} (hq : IsQuote q) (c : Char) :
    (opened q).next c = if c = q then .outside else opened q := by
  rcases hq with rfl | rfl
  · rfl
  · rfl

/-- A region stays open until its quote comes. -/
theorem after_opened {q : Char} (hq : IsQuote q) (h : q ∉ t) :
    (opened q).after t = opened q := by
  induction t with
  | nil => rfl
  | cons c t ih =>
      have hne : c ≠ q := fun heq => h (heq ▸ List.mem_cons_self ..)
      have hstep : (opened q).after (c :: t) = ((opened q).next c).after t := rfl
      rw [hstep, next_opened hq, if_neg hne]
      exact ih fun hmem => h (List.mem_cons_of_mem _ hmem)

theorem met_opened {q : Char} (hq : IsQuote q) (h : q ∉ t) :
    (opened q).met t = t.map fun c => (opened q, c) := by
  induction t with
  | nil => rfl
  | cons c t ih =>
      have hne : c ≠ q := fun heq => h (heq ▸ List.mem_cons_self ..)
      rw [met, next_opened hq, if_neg hne, List.map_cons,
        ih fun hmem => h (List.mem_cons_of_mem _ hmem)]

/-- A text between two quotes that it does not hold is closed, and all of it
    but the first quote is hidden. -/
theorem closed_enclosed {q : Char} (hq : IsQuote q) (h : q ∉ t) :
    Closed (q :: t ++ [q]) ∧ bare (q :: t ++ [q]) = q :: t.map (fun _ => ' ') ++ [' '] := by
  have hopen : opened q ≠ .outside := by
    rcases hq with rfl | rfl <;> decide
  -- the first quote opens the region, and nothing before the second closes it
  have hafter : after .outside (q :: t) = opened q := after_opened hq h
  constructor
  · rw [Closed, after_append, hafter]
    show (opened q).next q = .outside
    rw [next_opened hq, if_pos rfl]
  · rw [bare, met_append, hafter, List.map_append]
    show (if Region.outside = .outside then q else ' ') ::
      ((opened q).met t).map _ ++ [if opened q = .outside then q else ' '] = _
    rw [if_pos rfl, if_neg hopen, met_opened hq h, List.map_map]
    simp [Function.comp_def, hopen]

end Region

end GuardedSql
