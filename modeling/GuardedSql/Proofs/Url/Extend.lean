import GuardedSql.Proofs.Url.Prefix

/-! # Extending — what is left of a path when more is appended

    A path is extended piece by piece.  A piece of one or two plain dots is
    passed over, and every other one is percent-encoded and put at the end,
    so that it cannot cut the address anew.  But tabs and line ends are taken
    out of a piece *before* it is looked at: two dots with a tab between them
    are no plain dots, and stand for the place above all the same.

    Such a piece takes back the last segment and leaves an empty one, so only
    the very first can reach the path that was there before, and it reaches
    one segment of it.  `Path.GoesOn` is the invariant: the segments that are
    kept, and at least one more. -/

namespace GuardedSql.Url

variable {special file : Bool} {set : Char → Bool} {t : Text}

namespace Path

variable {done segments front pieces : List Text} {piece : Text}

/-! ## Dots -/

theorem upperHexDigit_eq_two : ∀ n < 16, Text.upperHexDigit n = '2' → n = 2 := by decide

theorem upperHexDigit_eq_e : ∀ n < 16, Text.upperHexDigit n = 'e' ∨ Text.upperHexDigit n = 'E' →
    n = 14 := by decide

/-- A percent sign that writes another byte stays one. -/
theorem head?_plainDots_percentByte {b : UInt8} (h : b ≠ UInt8.ofNat '.'.toNat) (rest : Text) :
    (plainDots (Text.percentByte b ++ rest)).head? = some '%' := by
  have hbyte : b.toNat < 256 := b.toNat_lt
  show (plainDots ('%' :: Text.upperHexDigit (b.toNat / 16) ::
    Text.upperHexDigit (b.toNat % 16) :: rest)).head? = some '%'
  generalize hhigh : Text.upperHexDigit (b.toNat / 16) = high
  generalize hlow : Text.upperHexDigit (b.toNat % 16) = low
  have hdot : ¬ (high = '2' ∧ (low = 'e' ∨ low = 'E')) := by
    rintro ⟨rfl, hletter⟩
    have htwo := upperHexDigit_eq_two _ (by omega) hhigh
    have hfourteen := upperHexDigit_eq_e _ (by omega) (hlow ▸ hletter)
    refine h (UInt8.toNat_inj.mp ?_)
    show b.toNat = 46
    omega
  rw [plainDots]
  · rfl
  · intro _ _ heq
    obtain ⟨htwo, hrest⟩ := List.cons.inj heq
    exact hdot ⟨htwo, Or.inl (List.cons.inj hrest).1⟩
  · intro _ _ heq
    obtain ⟨htwo, hrest⟩ := List.cons.inj heq
    exact hdot ⟨htwo, Or.inr (List.cons.inj hrest).1⟩

/-- A percent-encoded character is no dot in disguise, unless it was a dot. -/
theorem head?_plainDots_percentChar {c : Char} (h : c ≠ '.') (rest : Text) :
    (plainDots (Text.percentChar c ++ rest)).head? = some '%' := by
  cases hbytes : String.utf8EncodeChar c with
  | nil => exact absurd hbytes String.utf8EncodeChar_ne_nil
  | cons b bytes =>
      have hb : b ≠ UInt8.ofNat '.'.toNat := by
        rintro rfl
        exact h (Text.eq_of_head?_utf8EncodeChar (by decide) (by rw [hbytes]; rfl))
      rw [Text.percentChar, hbytes, List.flatMap_cons, List.append_assoc]
      exact head?_plainDots_percentByte hb _

theorem plainDots_cons {c : Char} (h : c ≠ '%') (rest : Text) :
    plainDots (c :: rest) = c :: plainDots rest := by
  rw [plainDots]
  · rintro _ rfl
    exact absurd rfl h
  · rintro _ rfl
    exact absurd rfl h

/-- Where a percent sign is encoded, only dots are read as dots: by induction
    on the text. -/
theorem eq_of_plainDots_percentEncode (hpercent : set '%' = true) (hdot : set '.' = false)
    {count : Nat} (h : plainDots (Text.percentEncode set t) = List.replicate count '.') :
    t = List.replicate count '.' := by
  induction t generalizing count with
  | nil => exact h
  | cons c t ih =>
      rw [Text.percentEncode, List.flatMap_cons] at h
      split at h
      · rename_i hset
        have hc : c ≠ '.' := by
          rintro rfl
          exact Bool.noConfusion (hdot.symm.trans hset)
        have hhead := head?_plainDots_percentChar hc (Text.percentEncode set t)
        rw [Text.percentEncode, h] at hhead
        have hmem := List.mem_of_mem_head? hhead
        exact absurd (List.eq_of_mem_replicate hmem) (by decide)
      · rename_i hset
        have hc : c ≠ '%' := by
          rintro rfl
          exact hset hpercent
        rw [List.singleton_append, plainDots_cons hc] at h
        cases count with
        | zero => exact absurd h (List.cons_ne_nil _ _)
        | succ count =>
            obtain ⟨rfl, hrest⟩ := List.cons.inj (h.trans List.replicate_succ)
            rw [ih hrest, List.replicate_succ]

/-- Only two dots are two dots after the encoding of a segment. -/
theorem eq_of_isDoubleDot_percentEncode
    (h : isDoubleDot (Text.percentEncode (inSegmentSet special) t) = true) : t = ['.', '.'] := by
  have hpercent : inSegmentSet special '%' = true := by cases special <;> decide
  have hdot : inSegmentSet special '.' = false := by cases special <;> decide
  have hdots : plainDots (Text.percentEncode (inSegmentSet special) t) =
      List.replicate 2 '.' := eq_of_beq h
  exact eq_of_plainDots_percentEncode hpercent hdot hdots

/-! ## One piece -/

/-- Tabs and line ends taken out, the piece is two dots: it stands for the
    place above. -/
def Rises (piece : Text) : Prop := withoutBreaks piece = ['.', '.']

instance (piece : Text) : Decidable (Rises piece) :=
  inferInstanceAs (Decidable (withoutBreaks piece = ['.', '.']))

/-- The segments that a piece leaves in place. -/
def left (done : List Text) (piece : Text) : List Text := if Rises piece then pop done else done

/-- A piece that stands for the place above takes the last segment back. -/
theorem left_of_rises (h : Rises piece) : left done piece = pop done := if_pos h

/-- Every other piece leaves all segments in place. -/
theorem left_of_stays (h : ¬ Rises piece) : left done piece = done := if_neg h

@[simp] theorem left_nil (piece : Text) : left [] piece = [] := ite_self []

/-- Encoded as a segment, a piece is read as two dots exactly if it rises. -/
theorem isDoubleDot_percentEncode_iff (special : Bool) (piece : Text) :
    isDoubleDot (Text.percentEncode (inSegmentSet special) (withoutBreaks piece)) = true ↔
      Rises piece := by
  constructor
  · exact eq_of_isDoubleDot_percentEncode
  · intro hrises
    rw [show withoutBreaks piece = ['.', '.'] from hrises]
    cases special <;> decide

/-- A segment is added behind those that its piece leaves in place. -/
theorem exists_addSegment (file special : Bool) (done : List Text) (piece : Text) :
    ∃ name, addSegment file true done
        (Text.percentEncode (inSegmentSet special) (withoutBreaks piece)) =
      left done piece ++ [name] := by
  rw [addSegment]
  split
  · rename_i hdots
    rw [left_of_rises ((isDoubleDot_percentEncode_iff special piece).mp hdots)]
    exact ⟨[], rfl⟩
  · rename_i hdots
    have hstays : ¬ Rises piece := mt (isDoubleDot_percentEncode_iff special piece).mpr hdots
    split
    · rw [left_of_stays hstays]
      exact ⟨[], rfl⟩
    · split
      · rename_i hdrive
        have hdone : done = [] := List.isEmpty_iff.mp (Bool.and_eq_true_iff.mp hdrive).2
        rw [hdone, left_nil]
        exact ⟨_, rfl⟩
      · rw [left_of_stays hstays]
        exact ⟨_, rfl⟩

/-- Whatever the piece, the segments that it leaves are followed by another. -/
theorem exists_add (file special : Bool) (done : List Text) (piece : Text) :
    ∃ name rest, add file true (inSegmentSet special) done piece =
      left done piece ++ name :: rest := by
  rw [add]
  split
  · rename_i drive after hcut
    split at hcut
    · rename_i hfile
      have hdone : done = [] := List.isEmpty_iff.mp (Bool.and_eq_true_iff.mp hfile).2
      rw [hdone, left_nil]
      exact ⟨drive, [_], rfl⟩
    · cases hcut
  · obtain ⟨name, hname⟩ := exists_addSegment file special done piece
    exact ⟨name, [], hname⟩

/-- Segments without an empty one in front do not collapse. -/
theorem collapse_eq (hne : segments ≠ []) (hhead : segments.head? ≠ some []) :
    collapse segments = segments := by
  obtain ⟨first, rest, rfl⟩ := List.exists_cons_of_ne_nil hne
  have hfirst : first.isEmpty = false := by
    refine Bool.eq_false_iff.mpr fun hempty => hhead ?_
    rw [List.isEmpty_iff.mp hempty]
    rfl
  rw [collapse, List.dropWhile_cons_of_neg (Bool.eq_false_iff.mp hfirst)]

/-- The segments that a piece is put after: the empty one of the root gives
    way. -/
def opened (segments : List Text) : List Text := if segments = [[]] then [] else segments

/-- A piece that only passes over. -/
def IsDots (piece : Text) : Prop := piece = ['.'] ∨ piece = ['.', '.']

instance (piece : Text) : Decidable (IsDots piece) := inferInstanceAs (Decidable (_ ∨ _))

theorem push_of_isDots (h : IsDots piece) : push special file segments piece = segments := if_pos h

/-- Every other piece is added, and in a file path the segments collapse after
    it. -/
theorem push_eq (h : ¬ IsDots piece) :
    push special file segments piece =
      if file then collapse (add file true (inSegmentSet special) (opened segments) piece)
      else add file true (inSegmentSet special) (opened segments) piece := if_neg h

/-- The segments go on after those in front. -/
def GoesOn (front segments : List Text) : Prop := ∃ name rest, segments = front ++ name :: rest

theorem GoesOn.isPrefix (h : GoesOn front segments) : front <+: segments := by
  obtain ⟨name, rest, rfl⟩ := h
  exact List.prefix_append _ _

theorem goesOn_nil (h : segments ≠ []) : GoesOn [] segments := by
  obtain ⟨name, rest, rfl⟩ := List.exists_cons_of_ne_nil h
  exact ⟨name, rest, rfl⟩

theorem GoesOn.of_front {others : List Text} (h : GoesOn others segments)
    (hfront : front <+: others) : GoesOn front segments := by
  obtain ⟨name, rest, rfl⟩ := h
  obtain ⟨between, rfl⟩ := hfront
  cases between with
  | nil => exact ⟨name, rest, by rw [List.append_nil]⟩
  | cons other between => exact ⟨other, between ++ name :: rest, by simp⟩

/-- What is put after the first segments stays there when a file path is freed
    of empty segments at its start. -/
theorem GoesOn.collapse (h : GoesOn front segments) (hhead : front.head? ≠ some []) :
    GoesOn front (collapse segments) := by
  cases front with
  | nil => exact goesOn_nil collapse_ne_nil
  | cons first front =>
      obtain ⟨name, rest, rfl⟩ := h
      exact ⟨name, rest, collapse_eq (List.cons_ne_nil _ _) hhead⟩

/-- **One piece** that is no plain dots is put after the segments that it
    leaves. -/
theorem goesOn_push (hdots : ¬ IsDots piece)
    (hfile : file = true → (left (opened segments) piece).head? ≠ some []) :
    GoesOn (left (opened segments) piece) (push special file segments piece) := by
  have hadd := exists_add file special (opened segments) piece
  rw [push_eq hdots]
  split
  · rename_i htrue
    exact GoesOn.collapse hadd (hfile htrue)
  · exact hadd

theorem prefix_pop (h : GoesOn front segments) : front <+: pop segments := by
  obtain ⟨name, rest, rfl⟩ := h
  obtain ⟨init, last, hlast⟩ := List.eq_nil_or_concat' (name :: rest) |>.resolve_left
    (List.cons_ne_nil _ _)
  rw [hlast, ← List.append_assoc, pop, List.getLast?_concat]
  dsimp only
  split
  · rw [List.append_assoc]
    exact List.prefix_append _ _
  · rw [List.dropLast_concat]
    exact List.prefix_append _ _

/-- **A further piece** takes nothing from the segments in front: at most it
    takes back what was put after them. -/
theorem GoesOn.push (h : GoesOn front segments) (hfile : file = true → front.head? ≠ some []) :
    GoesOn front (push special file segments piece) := by
  by_cases hdots : IsDots piece
  · rw [push_of_isDots hdots]
    exact h
  · cases front with
    | nil =>
        obtain ⟨name, rest, rfl⟩ := h
        exact goesOn_nil (push_ne_nil (List.cons_ne_nil _ _))
    | cons first front =>
        have hopened : opened segments = segments := by
          obtain ⟨name, rest, rfl⟩ := h
          exact if_neg fun heq => by simp at heq
        have hleft : first :: front <+: left (opened segments) piece := by
          rw [hopened, left]
          split
          · exact prefix_pop h
          · exact h.isPrefix
        refine (goesOn_push hdots fun htrue => ?_).of_front hleft
        obtain ⟨rest, hrest⟩ := hleft
        rw [← hrest]
        exact hfile htrue

/-- After all the pieces the segments still go on after those in front. -/
theorem GoesOn.foldl_push (h : GoesOn front segments)
    (hfile : file = true → front.head? ≠ some []) :
    GoesOn front (pieces.foldl (Path.push special file) segments) := by
  induction pieces generalizing segments with
  | nil => exact h
  | cons piece rest ih => exact ih (h.push hfile)

/-! ## All pieces -/

/-- The pieces of a path that are put at the end of another. -/
def additions (path : Text) : List Text :=
  (path.splitOn '/').filter fun piece => !(piece.isEmpty || decide (IsDots piece))

/-- The pieces that pass over can be left out. -/
theorem foldl_push_eq (path : Text) (segments : List Text) :
    ((path.splitOn '/').filter fun piece => !piece.isEmpty).foldl (push special file) segments =
      (additions path).foldl (push special file) segments := by
  rw [additions]
  induction path.splitOn '/' generalizing segments with
  | nil => rfl
  | cons piece rest ih =>
      cases hempty : piece.isEmpty with
      | true =>
          rw [List.filter_cons_of_neg (by simp [hempty]),
            List.filter_cons_of_neg (by simp [hempty])]
          exact ih segments
      | false =>
          rw [List.filter_cons_of_pos (by simp [hempty]), List.foldl_cons]
          by_cases hdots : IsDots piece
          · rw [List.filter_cons_of_neg (by simp [hdots]), push_of_isDots hdots]
            exact ih segments
          · rw [List.filter_cons_of_pos (by simp [hempty, hdots]), List.foldl_cons]
            exact ih _

theorem not_isDots_of_mem_additions {path : Text} (h : piece ∈ additions path) :
    ¬ IsDots piece := by
  have hkept := (List.mem_filter.mp h).2
  simp only [Bool.not_eq_true', Bool.or_eq_false_iff, decide_eq_false_iff_not] at hkept
  exact hkept.2

/-- The first piece that a path adds stands for the place above. -/
def Climbs (path : Text) : Prop := ∃ piece ∈ (additions path).head?, Rises piece

instance (path : Text) : Decidable (Climbs path) := Option.decidableExistsMem _

/-- What the additions are put after: the segments without an empty last
    one. -/
theorem opened_dropEmptyLast (h : segments ≠ [[], []]) :
    opened (dropEmptyLast segments) =
      if segments.getLast? = some [] then segments.dropLast else segments := by
  rw [dropEmptyLast]
  split
  · rename_i hlast
    rw [if_pos hlast.1]
    refine if_neg fun hroot => h ?_
    rw [← List.dropLast_append_getLast? [] hlast.1, hroot]
    rfl
  · rename_i hnot
    split
    · rename_i hlast
      have hlength : segments.length ≤ 1 := Nat.not_lt.mp fun hlong => hnot ⟨hlast, hlong⟩
      have hpos : 0 < segments.length := List.length_pos_of_mem (List.mem_of_getLast? hlast)
      obtain ⟨first, rfl⟩ := List.length_eq_one_iff.mp (by omega : segments.length = 1)
      obtain rfl : first = [] := Option.some.inj hlast
      rfl
    · rename_i hlast
      exact if_neg fun hroot => hlast (by rw [hroot]; rfl)

end Path

/-! ## Addresses -/

variable {base : Url} {path : Text}

/-- The base with a path below its own. -/
def below (base : Url) (path : Text) : Url :=
  base.extend ((path.splitOn '/').filter fun piece => !piece.isEmpty)

/-- The path of the base is one empty folder, which gives way to what is
    added. -/
def Hollow (base : Url) : Prop := base.segments = [[], []]

/-- The first piece that the path adds takes back a folder of the base. -/
def TakenBack (base : Url) (path : Text) : Prop :=
  Path.Climbs path ∧ Path.pop base.folders ≠ base.folders

instance (base : Url) : Decidable base.Hollow := inferInstanceAs (Decidable (_ = _))

instance (base : Url) (path : Text) : Decidable (base.TakenBack path) :=
  inferInstanceAs (Decidable (_ ∧ _))

/-- A path of segments, which in a file begins with an empty one only if that
    is all of it. -/
structure Extendable (base : Url) : Prop where
  can : base.canBeBase = true
  rooted : isFile base.scheme = true → Path.Rooted base.segments

/-- Below the base nothing but the path is new. -/
theorem below_eq (h : base.canBeBase = true) (path : Text) :
    base.below path = { base with
      path := .segments ((Path.additions path).foldl
        (Path.push (isSpecial base.scheme) (isFile base.scheme))
        (Path.dropEmptyLast base.segments)) } := by
  obtain ⟨list, hlist⟩ := exists_segments h
  rw [below, extend, segments, hlist, ← Path.foldl_push_eq]

/-- The path below a base is that of the base with the additions put at its
    end. -/
theorem segments_below (h : base.canBeBase = true) (path : Text) :
    (base.below path).segments = (Path.additions path).foldl
      (Path.push (isSpecial base.scheme) (isFile base.scheme))
      (Path.dropEmptyLast base.segments) := by
  rw [below_eq h]
  rfl

/-- The folders of a file address do not begin with an empty one. -/
theorem Extendable.head?_folders_ne (h : base.Extendable) (hfile : isFile base.scheme = true) :
    base.folders.head? ≠ some [] := by
  rw [folders]
  split
  · intro hhead
    by_cases hlength : 1 < base.segments.length
    · rw [Path.head?_dropLast hlength] at hhead
      rw [h.rooted hfile hhead] at hlength
      exact absurd hlength (by decide)
    · have hnil : base.segments.dropLast = [] :=
        List.eq_nil_of_length_eq_zero (by rw [List.length_dropLast]; omega)
      rw [hnil] at hhead
      cases hhead
  · rename_i hlast
    intro hhead
    exact hlast (by rw [h.rooted hfile hhead]; rfl)

/-- **What is added** is put after the folders of the base, less the one that
    the first piece takes back. -/
theorem Extendable.goesOn_below (h : base.Extendable) (hhollow : ¬ base.Hollow) {piece : Text}
    {rest : List Text} (hadd : Path.additions path = piece :: rest) :
    Path.GoesOn (Path.left base.folders piece) (base.below path).segments := by
  have hopened : Path.opened (Path.dropEmptyLast base.segments) = base.folders :=
    Path.opened_dropEmptyLast hhollow
  have hdots : ¬ Path.IsDots piece :=
    Path.not_isDots_of_mem_additions (hadd ▸ List.mem_cons_self ..)
  have hhead : isFile base.scheme = true → (Path.left base.folders piece).head? ≠ some [] := by
    intro hfile
    rw [Path.left]
    split
    · exact Path.head?_pop_ne (h.head?_folders_ne hfile)
    · exact h.head?_folders_ne hfile
  have hfirst : Path.GoesOn (Path.left base.folders piece)
      (Path.push (isSpecial base.scheme) (isFile base.scheme)
        (Path.dropEmptyLast base.segments) piece) := by
    rw [← hopened] at hhead ⊢
    exact Path.goesOn_push hdots hhead
  rw [segments_below h.can, hadd, List.foldl_cons]
  exact hfirst.foldl_push hhead

/-- If no folder is taken back the first addition leaves them all. -/
theorem left_of_not_takenBack (h : ¬ base.TakenBack path) {piece : Text} {rest : List Text}
    (hadd : Path.additions path = piece :: rest) :
    Path.left base.folders piece = base.folders := by
  by_cases hrises : Path.Rises piece
  · rw [Path.left_of_rises hrises]
    have hclimbs : Path.Climbs path := ⟨piece, by rw [hadd]; rfl, hrises⟩
    exact Classical.byContradiction fun hne => h ⟨hclimbs, hne⟩
  · exact Path.left_of_stays hrises

/-- The folders of a base are what comes before its last segment, or all if
    that is filled. -/
theorem folders_prefix_dropEmptyLast (base : Url) :
    base.folders <+: Path.dropEmptyLast base.segments := by
  rw [folders, Path.dropEmptyLast]
  split
  · split
    · exact List.prefix_refl _
    · exact List.dropLast_prefix _
  · rename_i hlast
    rw [if_neg fun hboth => hlast hboth.1]

/-- Taking a segment back takes the last one or, of a drive, none. -/
theorem pop_cases (folders : List Text) :
    Path.pop folders = folders ∨ Path.pop folders = folders.dropLast := by
  rw [Path.pop]
  split
  · split
    · exact Or.inl rfl
    · exact Or.inr rfl
  · rename_i hnone
    rw [List.getLast?_eq_none_iff.mp hnone]
    exact Or.inl rfl

/-- **No more than one folder** of the base is lost, whatever the path. -/
theorem Extendable.near (h : base.Extendable) (path : Text) :
    base.folders.dropLast <+: (base.below path).segments := by
  cases hadd : Path.additions path with
  | nil =>
      rw [segments_below h.can, hadd]
      exact (List.dropLast_prefix _).trans base.folders_prefix_dropEmptyLast
  | cons piece rest =>
      by_cases hhollow : base.Hollow
      · rw [folders, show base.segments = [[], []] from hhollow]
        exact List.nil_prefix
      · refine List.IsPrefix.trans ?_ (h.goesOn_below hhollow hadd).isPrefix
        rw [Path.left]
        split
        · rcases pop_cases base.folders with hpop | hpop
          · rw [hpop]
            exact List.dropLast_prefix _
          · rw [hpop]
        · exact List.dropLast_prefix _

/-- **Below the base**: the path goes on from that of the base, unless its
    first piece takes a folder back or the base is hollow. -/
theorem Extendable.inside (h : base.Extendable) (hback : ¬ base.TakenBack path)
    (hhollow : base.Hollow → Path.additions path = []) :
    base.folders <+: (base.below path).segments := by
  cases hadd : Path.additions path with
  | nil =>
      rw [segments_below h.can, hadd]
      exact base.folders_prefix_dropEmptyLast
  | cons piece rest =>
      have hsolid : ¬ base.Hollow := fun hempty => nomatch (hhollow hempty).symm.trans hadd
      have hgoes := h.goesOn_below hsolid hadd
      rw [left_of_not_takenBack hback hadd] at hgoes
      exact hgoes.isPrefix

/-! ## The text -/

/-- What is written before the path. -/
def renderFront (u : Url) : Text :=
  u.scheme ++ ':' ::
    (match u.authority with
      | some authority => chars "//" ++ authority.render
      | none => []) ++
    (if u.setApart then chars "/." else [])

/-- An address is written as its front, its path and its tail. -/
theorem render_eq_front (h : base.canBeBase = true) :
    base.render = base.renderFront ++ (Path.render base.segments ++ base.renderTail) := by
  obtain ⟨list, hlist⟩ := exists_segments h
  rw [render, renderFront, renderTail, segments, hlist]
  cases base.authority <;> simp only [List.append_assoc, PathKind.render]

/-- Below the base only the path is written otherwise. -/
theorem render_below (h : base.canBeBase = true) (path : Text) :
    (base.below path).render =
      base.renderFront ++ (Path.render (base.below path).segments ++ base.renderTail) := by
  rw [below_eq h]
  exact render_eq_front rfl

/-- Nothing is written behind the path if there is no query and no fragment. -/
@[simp] theorem renderTail_eq_nil :
    base.renderTail = [] ↔ base.query = none ∧ base.fragment = none := by
  rw [renderTail, List.append_eq_nil_iff]
  cases base.query <;> cases base.fragment <;> simp [renderAfter]

theorem segments_cases (base : Url) :
    base.segments = base.folders ∨ base.segments = base.folders ++ [[]] := by
  rw [folders]
  split
  · rename_i hlast
    exact Or.inr (List.dropLast_append_getLast? [] hlast).symm
  · exact Or.inl rfl

/-- The address below the base is written as the base is, and goes on: its path
    is the same, or the base is written up to its path and something that does
    not fill an empty folder is added. -/
def Continues (base : Url) (path : Text) : Prop :=
  (base.below path).segments = base.segments ∨
    base.query = none ∧ base.fragment = none ∧ Path.additions path ≠ [] ∧ ¬ base.Hollow

instance (base : Url) (path : Text) : Decidable (base.Continues path) :=
  inferInstanceAs (Decidable (_ ∨ _))

/-- A path that goes on after the folders is written as the path of the base,
    and goes on. -/
theorem render_prefix_of_goesOn {segments : List Text} (h : Path.GoesOn base.folders segments) :
    Path.render base.segments <+: Path.render segments := by
  obtain ⟨name, rest, rfl⟩ := h
  have happend : ∀ xs ys, Path.render (xs ++ ys) = Path.render xs ++ Path.render ys :=
    fun xs ys => List.flatMap_append
  rcases base.segments_cases with hsame | hmore
  · rw [hsame, happend]
    exact List.prefix_append _ _
  · rw [hmore, happend, happend, List.prefix_append_right_inj]
    exact ⟨name ++ Path.render rest, rfl⟩

/-- A hollow base is not written again: empty segments at the start of a path
    do not add up. -/
theorem Extendable.not_prefix_of_hollow (h : base.Extendable) (hsound : base.Sound)
    (hhollow : base.Hollow) :
    ¬ Path.render base.segments <+: Path.render (base.below path).segments := by
  have hsegments : base.segments = [[], []] := hhollow
  have hfile : isFile base.scheme = false := by
    refine Bool.eq_false_iff.mpr fun hfile => ?_
    have hrooted := h.rooted hfile (by rw [hsegments]; rfl)
    exact absurd (hsegments.symm.trans hrooted) (by decide)
  have hrooted : Path.Rooted (base.below path).segments := by
    rw [segments_below h.can, hfile, hsegments]
    exact Path.foldl_push_rooted fun _ => rfl
  have hunmarked : Path.Unmarked (base.below path).segments := (hsound.extend _).unmarked
  have hempty : Path.Unmarked ([[]] ++ [[]]) := by
    have hall := hsound.unmarked
    rwa [hsegments] at hall
  have hend : EndsPath [] := fun c hc => nomatch hc
  rintro ⟨t, ht⟩
  rw [hsegments, ← List.append_nil (Path.render (base.below path).segments)] at ht
  obtain ⟨name, rest, hbelow, -⟩ :=
    Path.exists_of_render_append_eq hempty hunmarked hend ht
  have hroot := hrooted (by rw [hbelow]; rfl)
  rw [hbelow] at hroot
  exact absurd hroot (by simp)

/-- A path that only loses its last slash is shorter than it was. -/
theorem same_of_no_additions (h : base.canBeBase = true) (hadd : Path.additions path = [])
    (hbegins : Path.render base.segments <+: Path.render (base.below path).segments) :
    (base.below path).segments = base.segments := by
  rw [segments_below h, hadd, List.foldl_nil] at hbegins ⊢
  rw [Path.dropEmptyLast] at hbegins ⊢
  split at hbegins
  · rename_i hlast
    have hrender : Path.render (base.segments.dropLast ++ [[]]) =
        Path.render base.segments.dropLast ++ ['/'] := List.flatMap_append
    rw [List.dropLast_append_getLast? [] hlast.1] at hrender
    have hlength := hbegins.length_le
    rw [hrender, List.length_append, List.length_singleton] at hlength
    omega
  · rename_i hnot
    exact if_neg hnot

/-- **What is written again**: unless a folder is taken back, the text of the
    address below a base begins with that of the base exactly if the address
    continues it. -/
theorem Extendable.begins_iff (h : base.Extendable) (hsound : base.Sound)
    (hback : ¬ base.TakenBack path) :
    base.render <+: (base.below path).render ↔ base.Continues path := by
  rw [render_eq_front h.can, render_below h.can, List.prefix_append_right_inj]
  constructor
  · intro hbegins
    by_cases htail : base.renderTail = []
    · rw [htail, List.append_nil, List.append_nil] at hbegins
      by_cases hadd : Path.additions path = []
      · exact Or.inl (same_of_no_additions h.can hadd hbegins)
      · obtain ⟨hquery, hfragment⟩ := renderTail_eq_nil.mp htail
        refine Or.inr ⟨hquery, hfragment, hadd, fun hhollow => ?_⟩
        exact h.not_prefix_of_hollow hsound hhollow hbegins
    · -- a query or a fragment comes right after the path
      obtain ⟨t, ht⟩ := hbegins
      have htail' : (base.below path).renderTail = base.renderTail := by
        rw [below_eq h.can]
        rfl
      rw [List.append_assoc, ← htail'] at ht
      have hfollows : Follows base (base.below path) t :=
        ⟨hsound.unmarked, (hsound.extend _).unmarked, htail' ▸ ht⟩
      exact Or.inl (hfollows.segments_eq htail).symm
  · rintro (hsame | ⟨hquery, hfragment, hadd, hsolid⟩)
    · rw [hsame]
    · rw [renderTail_eq_nil.mpr ⟨hquery, hfragment⟩, List.append_nil, List.append_nil]
      obtain ⟨piece, rest, hcons⟩ := List.exists_cons_of_ne_nil hadd
      have hgoes := h.goesOn_below hsolid hcons
      rw [left_of_not_takenBack hback hcons] at hgoes
      exact render_prefix_of_goesOn hgoes

end GuardedSql.Url
