import GuardedSql.Proofs.Url.Sound

/-! # Prefixes — an address whose text begins with that of another

    If the text of one address begins with the text of another, the parts of
    the first begin with those of the second, as far as the text of the second
    ends where a part ends.  `Url.Confines` says how far: the scheme always,
    host and port if something is written after them, and the segments of the
    path, of which the last may go on where the text stops in its midst. -/

namespace GuardedSql.Url

variable {special : Bool} {r r' t : Text} {c mark : Char}

/-! ## Marks -/

/-- The text is empty or begins with a mark that ends an authority or a
    segment. -/
def EndsPart (t : Text) : Prop := ∀ c ∈ t.head?, c ∈ Path.marks

/-- The text is empty or begins with a mark that ends a path. -/
def EndsPath (t : Text) : Prop := ∀ c ∈ t.head?, c ∈ ['?', '#']

theorem EndsPath.endsPart (h : EndsPath t) : EndsPart t :=
  fun c hc => List.mem_cons_of_mem '/' (h c hc)

/-- A text that goes on begins as it did. -/
theorem forall_head?_append {q : Char → Prop} (h : ∀ c ∈ r.head?, q c) (hne : r ≠ []) :
    ∀ c ∈ (r ++ t).head?, q c := by
  rwa [List.head?_append_of_ne_nil r hne]

/-- A query or a fragment ends the path; if it is missing what comes after it
    does. -/
theorem endsPath_renderAfter {part : Option Text} (hmark : mark ∈ ['?', '#']) (h : EndsPath t) :
    EndsPath (renderAfter mark part ++ t) := by
  cases part with
  | none => exact h
  | some part =>
      rintro c ⟨⟩
      exact hmark

/-! ## Authorities -/

namespace Authority

variable {a b : Authority}

/-- A port as it is written. -/
def renderPort : Option Nat → Text
  | some port => ':' :: Text.ofNat port
  | none => []

/-- An authority is written as user, host and port. -/
theorem render_eq (a : Authority) :
    a.render = a.renderUser ++ (a.host.render ++ renderPort a.port) := by
  rw [render, List.append_assoc]
  rfl

theorem head?_renderPort {port : Option Nat} : ∀ c ∈ (renderPort port).head?, c = ':' := by
  cases port with
  | none => exact fun c hc => nomatch hc
  | some port => exact fun c hc => (Option.some.inj hc).symm

theorem renderPort_injective {p q : Option Nat} (h : renderPort p = renderPort q) : p = q := by
  cases p with
  | none =>
      cases q with
      | none => rfl
      | some q => exact nomatch h
  | some p =>
      cases q with
      | none => exact nomatch h
      | some q => rw [Text.ofNat_injective (List.cons.inj h).2]

/-- The marks that end an authority or its user are no part of host and
    port. -/
theorem Sound.not_mem_place (h : a.Sound special) (hmark : mark ∈ ['/', '?', '#', '@']) :
    mark ∉ a.host.render ++ renderPort a.port := by
  have hmarks : ∀ mark ∈ ['/', '?', '#', '@'], mark ≠ ':' ∧ mark.isDigit = false := by decide
  obtain ⟨hcolon, hdigit⟩ := hmarks mark hmark
  intro hmem
  rcases List.mem_append.mp hmem with hhost | hport
  · exact h.host.not_mem_render hmark hhost
  · cases hnumber : a.port with
    | none =>
        rw [hnumber] at hport
        exact nomatch hport
    | some port =>
        rw [hnumber] at hport
        rcases List.mem_cons.mp hport with heq | hdigits
        · exact hcolon heq
        · exact Bool.noConfusion (hdigit.symm.trans (Text.isDigit_of_mem_ofNat hdigits))

/-- The user is written with an `@` at the end, or not at all. -/
theorem renderUser_cases (a : Authority) :
    a.renderUser = [] ∨ ∃ user, a.renderUser = user ++ ['@'] ∧
      ∀ c ∈ user, c ∈ a.username ∨ c ∈ a.password ∨ c = ':' := by
  rw [renderUser]
  split
  · exact Or.inl rfl
  · split
    · exact Or.inr ⟨a.username, rfl, fun c hc => Or.inl hc⟩
    · refine Or.inr ⟨a.username ++ ':' :: a.password, by simp, fun c hc => ?_⟩
      rcases List.mem_append.mp hc with hname | hrest
      · exact Or.inl hname
      · exact Or.inr ((List.mem_cons.mp hrest).symm.imp_right id)

/-- An authority does not hold the marks that end it. -/
theorem Sound.not_mem_render (h : a.Sound special) (hmark : mark ∈ Path.marks) :
    mark ∉ a.render := by
  have hmarks : ∀ mark ∈ Path.marks, mark ∈ ['/', '?', '#', '@'] ∧
      mark ∈ ['/', '?', '#', '@', ':'] ∧ mark ≠ ':' ∧ mark ≠ '@' := by decide
  obtain ⟨hplace, huser, hcolon, hat⟩ := hmarks mark hmark
  rw [render_eq]
  intro hmem
  rcases List.mem_append.mp hmem with hfirst | hsecond
  · rcases a.renderUser_cases with hnil | ⟨user, hrender, hall⟩
    · rw [hnil] at hfirst
      exact nomatch hfirst
    · rw [hrender] at hfirst
      rcases List.mem_append.mp hfirst with hc | hc
      · rcases hall mark hc with hname | hword | heq
        · exact h.username mark huser hname
        · exact h.password mark huser hword
        · exact hcolon heq
      · exact hat (List.mem_singleton.mp hc)
  · exact h.not_mem_place hplace hsecond

/-- **Host and port are told** by the text of an authority: they come after
    its last `@`. -/
theorem Sound.place_of_render_eq (ha : a.Sound special) (hb : b.Sound special)
    (h : a.render = b.render) : a.host = b.host ∧ a.port = b.port := by
  have hat : '@' ∈ ['/', '?', '#', '@'] := by decide
  have hplace : a.host.render ++ renderPort a.port = b.host.render ++ renderPort b.port := by
    rw [render_eq, render_eq] at h
    rcases a.renderUser_cases with hnil | ⟨user, huser, -⟩
    · rcases b.renderUser_cases with hnil' | ⟨user', huser', -⟩
      · rwa [hnil, hnil'] at h
      · refine absurd ?_ (ha.not_mem_place hat)
        rw [hnil, huser', List.nil_append] at h
        rw [h]
        simp
    · rcases b.renderUser_cases with hnil' | ⟨user', huser', -⟩
      · refine absurd ?_ (hb.not_mem_place hat)
        rw [huser, hnil', List.nil_append] at h
        rw [← h]
        simp
      · rw [huser, huser'] at h
        exact (eq_of_append_eq_of_last_class (p := (· = '@'))
          ⟨'@', by simp, rfl⟩ ⟨'@', by simp, rfl⟩
          (fun c hc heq => ha.not_mem_place hat (heq ▸ hc))
          (fun c hc heq => hb.not_mem_place hat (heq ▸ hc)) h).2
  obtain ⟨hhost, hport⟩ :=
    Host.eq_of_render_append ha.host hb.host head?_renderPort head?_renderPort hplace
  exact ⟨hhost, renderPort_injective hport⟩

end Authority

/-! ## Paths -/

namespace Path

variable {xs ys init : List Text} {x y last : Text}

/-- The segments hold no mark that ends one. -/
def Unmarked (segments : List Text) : Prop := ∀ s ∈ segments, ∀ mark ∈ marks, mark ∉ s

theorem Unmarked.head (h : Unmarked (x :: xs)) : ∀ c ∈ x, ¬ c ∈ marks :=
  fun c hc hmark => h x (List.mem_cons_self ..) c hmark hc

theorem Unmarked.tail (h : Unmarked (x :: xs)) : Unmarked xs :=
  fun s hs => h s (List.mem_cons_of_mem _ hs)

@[simp] theorem render_cons (x : Text) (xs : List Text) :
    render (x :: xs) = '/' :: (x ++ render xs) := rfl

theorem eq_nil_of_render (h : render xs = []) : xs = [] := by
  cases xs with
  | nil => rfl
  | cons x xs => exact absurd h (List.cons_ne_nil _ _)

/-- A path begins with a slash, or is empty and what follows begins there. -/
theorem endsPart_render (hr : EndsPart r) : EndsPart (render xs ++ r) := by
  cases xs with
  | nil => exact hr
  | cons x xs =>
      rintro c ⟨⟩
      decide

theorem endsPart_render_of_ne_nil (hne : xs ≠ []) (t : Text) : EndsPart (render xs ++ t) := by
  obtain ⟨x, xs, rfl⟩ := List.exists_cons_of_ne_nil hne
  rintro c ⟨⟩
  decide

theorem not_mem_render (h : Unmarked xs) (hmark : mark ∈ ['?', '#']) : mark ∉ render xs := by
  have hmarks : ∀ mark ∈ ['?', '#'], mark ∈ marks ∧ mark ≠ '/' := by decide
  obtain ⟨hmem, hslash⟩ := hmarks mark hmark
  intro h'
  obtain ⟨s, hs, hc⟩ := List.mem_flatMap.mp h'
  rcases List.mem_cons.mp hc with heq | hin
  · exact hslash heq
  · exact h s hs mark hmem hin

/-- **A path is told** by its text, by induction on the segments. -/
theorem eq_of_render_eq (hx : Unmarked xs) (hy : Unmarked ys) (h : render xs = render ys) :
    xs = ys := by
  induction xs generalizing ys with
  | nil =>
      cases ys with
      | nil => rfl
      | cons y ys => exact nomatch h
  | cons x xs ih =>
      cases ys with
      | nil => exact nomatch h
      | cons y ys =>
          rw [render_cons, render_cons] at h
          have hend : ∀ segments, EndsPart (render segments) := fun segments => by
            rw [← List.append_nil (render segments)]
            exact endsPart_render fun c hc => nomatch hc
          obtain ⟨rfl, hrest⟩ := eq_of_append_eq_of_class_or_end (hend xs) (hend ys)
            hx.head hy.head (List.cons.inj h).2
          rw [ih hx.tail hy.tail hrest]

/-- A segment that stops in the midst of a text begins the one that is
    there. -/
theorem prefix_of_append_eq (hx : ∀ c ∈ x, ¬ c ∈ marks) (hr : EndsPart r)
    (h : x ++ t = y ++ r) : x <+: y := by
  rcases List.append_eq_append_iff.mp h with ⟨rest, hy, -⟩ | ⟨rest, hx', hr'⟩
  · exact ⟨rest, hy.symm⟩
  · cases rest with
    | nil =>
        rw [List.append_nil] at hx'
        exact hx' ▸ List.prefix_refl x
    | cons c rest =>
        have hmark : c ∈ marks := hr c (by rw [hr']; rfl)
        refine absurd hmark (hx c ?_)
        rw [hx']
        exact List.mem_append_right _ (List.mem_cons_self ..)

/-- **The path goes on** from one whose text it begins with: by induction on
    the segments before the last, each of which ends at a slash. -/
theorem exists_of_render_append_eq (hx : Unmarked (init ++ [last])) (hy : Unmarked ys)
    (hr : EndsPath r) (h : render (init ++ [last]) ++ t = render ys ++ r) :
    ∃ name rest, ys = init ++ name :: rest ∧ last <+: name := by
  induction init generalizing ys with
  | nil =>
      cases ys with
      | nil => exact absurd (hr '/' (by rw [← List.nil_append r]; exact h ▸ rfl)) (by decide)
      | cons y ys =>
          rw [List.nil_append, render_cons, render_cons, List.cons_append, List.cons_append,
            List.append_assoc, List.append_assoc] at h
          exact ⟨y, ys, rfl, prefix_of_append_eq hx.head (endsPart_render hr.endsPart)
            (List.cons.inj h).2⟩
  | cons x init ih =>
      cases ys with
      | nil => exact absurd (hr '/' (by rw [← List.nil_append r]; exact h ▸ rfl)) (by decide)
      | cons y ys =>
          rw [List.cons_append, render_cons, render_cons, List.cons_append, List.cons_append,
            List.append_assoc, List.append_assoc] at h
          have hne : init ++ [last] ≠ [] :=
            List.append_ne_nil_of_right_ne_nil _ (List.cons_ne_nil _ _)
          obtain ⟨rfl, hrest⟩ := eq_of_append_eq_of_class_or_end
            (endsPart_render_of_ne_nil hne t) (endsPart_render hr.endsPart) hx.head hy.head
            (List.cons.inj h).2
          obtain ⟨name, rest, rfl, hlast⟩ := ih hx.tail hy.tail hrest
          exact ⟨name, rest, rfl, hlast⟩

end Path

/-! ## Addresses -/

/-- The host, if there is an authority. -/
def host (u : Url) : Option Host := u.authority.map Authority.host

/-- The port, if one is given. -/
def port (u : Url) : Option Nat := u.authority.bind Authority.port

/-- The segments of the path without an empty one at the end. -/
def folders (u : Url) : List Text :=
  if u.segments.getLast? = some [] then u.segments.dropLast else u.segments

/-- Query and fragment as they are written. -/
def renderTail (u : Url) : Text := renderAfter '?' u.query ++ renderAfter '#' u.fragment

/-- What is written after scheme and authority. -/
def renderPath (u : Url) : Text :=
  (if u.setApart then chars "/." else []) ++ (u.path.render ++ renderTail u)

/-- The text ends where a part of the address ends: at the end of a query or a
    fragment, or after a slash that ends the path. -/
def Closed (u : Url) : Prop :=
  u.renderTail ≠ [] ∨
    u.segments.getLast? = some [] ∧ (u.authority.isSome = true ∨ 1 < u.segments.length)

/-- Something is written after host and port. -/
def Anchored (u : Url) : Prop := u.authority.isSome = true ∧ u.segments ≠ []

/-- The second address lies within the first, as far as the text of the first
    says where it ends. -/
structure Confines (base final : Url) : Prop where
  scheme : final.scheme = base.scheme
  /-- Host and port are the same, if something is written after them. -/
  place : base.Closed ∨ base.Anchored → final.host = base.host ∧ final.port = base.port
  /-- The path begins with that of the base, segment by segment, if the text
      of the base ends where a part ends. -/
  inside : base.Closed → base.folders <+: final.segments
  /-- If not, the last segment of the base may be the beginning of another. -/
  near : base.Anchored → ∃ init last name rest, base.segments = init ++ [last] ∧
    final.segments = init ++ name :: rest ∧ last <+: name

variable {u base final : Url}

/-- Where the text of the base says nothing of where it ends, only the scheme is
    promised. -/
theorem confines_of_open (hscheme : final.scheme = base.scheme) (hopen : ¬ base.Closed)
    (hfree : ¬ base.Anchored) : base.Confines final :=
  ⟨hscheme, fun hor => (hor.elim hopen hfree).elim, fun hclosed => absurd hclosed hopen,
    fun hanchored => absurd hanchored hfree⟩

/-- An address with an authority is written with two slashes before it. -/
theorem render_of_authority {a : Authority} (h : u.authority = some a) :
    u.render = u.scheme ++ ':' :: (chars "//" ++ (a.render ++ u.renderPath)) := by
  rw [render, h, renderPath, renderTail]
  simp only [List.append_assoc, List.cons_append]

/-- Without an authority the path follows the scheme. -/
theorem render_of_no_authority (h : u.authority = none) :
    u.render = u.scheme ++ ':' :: u.renderPath := by
  rw [render, h, renderPath, renderTail]
  simp only [List.append_assoc, List.cons_append, List.nil_append]

theorem endsPath_renderTail (u : Url) : EndsPath u.renderTail := by
  have hfragment : EndsPath (renderAfter '#' u.fragment) := by
    rw [← List.append_nil (renderAfter '#' u.fragment)]
    exact endsPath_renderAfter (by decide) fun c hc => nomatch hc
  exact endsPath_renderAfter (by decide) hfragment

theorem Sound.unmarked (h : u.Sound) : Path.Unmarked u.segments :=
  fun s hs => (h.clean s hs).unmarked

/-! ### The path -/

/-- What comes after host and port: the path, and the texts after it. -/
structure Follows (base final : Url) (t : Text) : Prop where
  base_unmarked : Path.Unmarked base.segments
  final_unmarked : Path.Unmarked final.segments
  same : Path.render base.segments ++ (base.renderTail ++ t) =
    Path.render final.segments ++ final.renderTail

/-- If the base has a query or a fragment the two paths are the same. -/
theorem Follows.segments_eq (h : Follows base final t) (htail : base.renderTail ≠ []) :
    base.segments = final.segments := by
  have hend : EndsPath (base.renderTail ++ t) :=
    forall_head?_append (endsPath_renderTail base) htail
  obtain ⟨hpath, -⟩ := eq_of_append_eq_of_class_or_end hend (endsPath_renderTail final)
    (fun c hc hmark => Path.not_mem_render h.base_unmarked hmark hc)
    (fun c hc hmark => Path.not_mem_render h.final_unmarked hmark hc) h.same
  exact Path.eq_of_render_eq h.base_unmarked h.final_unmarked hpath

/-- The final address has the folders of the base, and then a name that begins
    with the last segment. -/
theorem Follows.near (h : Follows base final t) {init : List Text} {last : Text}
    (hlast : base.segments = init ++ [last]) :
    ∃ name rest, final.segments = init ++ name :: rest ∧ last <+: name := by
  have hsame := h.same
  have hunmarked := h.base_unmarked
  rw [hlast] at hsame hunmarked
  exact Path.exists_of_render_append_eq hunmarked h.final_unmarked (endsPath_renderTail final) hsame

/-- The path of a closed base is the beginning of the other. -/
theorem Follows.inside (h : Follows base final t) (hclosed : base.Closed) :
    base.folders <+: final.segments := by
  rw [folders]
  rcases hclosed with htail | ⟨hlast, -⟩
  · rw [h.segments_eq htail]
    split
    · exact List.dropLast_prefix _
    · exact List.prefix_refl _
  · obtain ⟨init, hinit⟩ := List.getLast?_eq_some_iff.mp hlast
    obtain ⟨name, rest, hfinal, -⟩ := h.near hinit
    rw [if_pos hlast, hinit, List.dropLast_concat, hfinal]
    exact List.prefix_append _ _

/-- If scheme, host and port are the same and the paths follow, the base
    confines the other. -/
theorem Follows.confines (h : Follows base final t) (hscheme : final.scheme = base.scheme)
    (hplace : final.host = base.host ∧ final.port = base.port) : base.Confines final where
  scheme := hscheme
  place := fun _ => hplace
  inside := h.inside
  near := by
    intro hanchored
    obtain ⟨init, last, hlast⟩ := List.eq_nil_or_concat' base.segments |>.resolve_left hanchored.2
    obtain ⟨name, rest, hfinal, hprefix⟩ := h.near hlast
    exact ⟨init, last, name, rest, hlast, hfinal, hprefix⟩

/-- Under an authority the path is one of segments, and not set apart. -/
theorem Sound.renderPath_of_authority (h : u.Sound) {a : Authority} (ha : u.authority = some a) :
    u.renderPath = Path.render u.segments ++ u.renderTail := by
  have happart : u.setApart = false := h.not_apart (by rw [ha]; rfl)
  rw [renderPath, happart, segments]
  cases hpath : u.path with
  | segments list => rfl
  | unstructured text => cases ha.symm.trans (h.unstructured text hpath).1

/-- A base with an authority confines an address with one whose text goes on
    from it. -/
theorem confines_of_authorities {a b : Authority} (hbase : base.Sound) (hfinal : final.Sound)
    (ha : base.authority = some a) (hb : final.authority = some b)
    (hscheme : final.scheme = base.scheme)
    (h : a.render ++ (base.renderPath ++ t) = b.render ++ final.renderPath) :
    base.Confines final := by
  rw [hbase.renderPath_of_authority ha, hfinal.renderPath_of_authority hb] at h
  have ha' : a.Sound (isSpecial base.scheme) := hbase.authority a ha
  have hb' : b.Sound (isSpecial base.scheme) := hscheme ▸ hfinal.authority b hb
  by_cases hnil : Path.render base.segments ++ base.renderTail = []
  · -- nothing is written after host and port, so nothing is promised
    obtain ⟨hpath, htail⟩ := List.append_eq_nil_iff.mp hnil
    have hsegments : base.segments = [] := Path.eq_nil_of_render hpath
    have hopen : ¬ base.Closed := by
      rintro (hne | ⟨hlast, -⟩)
      · exact hne htail
      · rw [hsegments] at hlast
        exact nomatch hlast
    have hfree : ¬ base.Anchored := fun hanchored => hanchored.2 hsegments
    exact confines_of_open hscheme hopen hfree
  · have hend : EndsPart (Path.render base.segments ++ base.renderTail ++ t) :=
      forall_head?_append (Path.endsPart_render (endsPath_renderTail base).endsPart) hnil
    obtain ⟨hrender, hrest⟩ := eq_of_append_eq_of_class_or_end hend
      (Path.endsPart_render (endsPath_renderTail final).endsPart)
      (fun c hc hmark => ha'.not_mem_render hmark hc)
      (fun c hc hmark => hb'.not_mem_render hmark hc) h
    obtain ⟨hhost, hport⟩ := ha'.place_of_render_eq hb' hrender
    have hfollows : Follows base final t :=
      ⟨hbase.unmarked, hfinal.unmarked, by rw [← List.append_assoc]; exact hrest⟩
    refine hfollows.confines hscheme ⟨?_, ?_⟩
    · rw [host, host, ha, hb, Option.map_some, Option.map_some, hhost]
    · rw [port, port, ha, hb, Option.bind_some, Option.bind_some, hport]

/-! ### Without an authority -/

@[simp] theorem chars_apart : chars "/." = ['/', '.'] := by with_unfolding_all decide

@[simp] theorem chars_slashes : chars "//" = ['/', '/'] := by with_unfolding_all decide

/-- A path that is set apart begins with a dot as its first segment. -/
theorem renderPath_of_apart {list : List Text} (happart : u.setApart = true)
    (hpath : u.path = .segments list) (hne : list ≠ []) :
    ∃ rest, u.renderPath = '/' :: '.' :: '/' :: rest := by
  obtain ⟨x, xs, rfl⟩ := List.exists_cons_of_ne_nil hne
  rw [renderPath, happart, hpath, if_pos rfl, chars_apart]
  exact ⟨_, rfl⟩

/-- Every other path begins with its own first segment. -/
theorem renderPath_of_not_apart {x : Text} {xs : List Text} (happart : u.setApart = false)
    (hpath : u.path = .segments (x :: xs)) :
    u.renderPath = '/' :: (x ++ (Path.render xs ++ u.renderTail)) := by
  rw [renderPath, happart, hpath]
  show '/' :: (x ++ Path.render xs) ++ u.renderTail = _
  rw [List.cons_append, List.append_assoc]

theorem exists_renderPath_cons {list : List Text} (hpath : u.path = .segments list)
    (hne : list ≠ []) : ∃ rest, u.renderPath = '/' :: rest := by
  cases happart : u.setApart with
  | true =>
      obtain ⟨rest, hrest⟩ := renderPath_of_apart happart hpath hne
      exact ⟨_, hrest⟩
  | false =>
      obtain ⟨x, xs, rfl⟩ := List.exists_cons_of_ne_nil hne
      exact ⟨_, renderPath_of_not_apart happart hpath⟩

/-- What can be a base has a path of segments. -/
theorem exists_segments (hcan : u.canBeBase = true) : ∃ list, u.path = .segments list := by
  cases hpath : u.path with
  | segments list => exact ⟨list, rfl⟩
  | unstructured text =>
      rw [canBeBase, hpath] at hcan
      exact Bool.noConfusion hcan

/-- A text without structure does not begin with a slash. -/
theorem Sound.head?_renderPath (h : u.Sound) {text : Text} (hpath : u.path = .unstructured text) :
    u.renderPath.head? ≠ some '/' := by
  obtain ⟨-, happart, hhead⟩ := h.unstructured text hpath
  rw [renderPath, happart, hpath]
  show (text ++ u.renderTail).head? ≠ some '/'
  cases text with
  | nil =>
      intro hslash
      exact absurd (endsPath_renderTail u '/' hslash) (by decide)
  | cons c rest => exact hhead

/-- Without an authority the text after the scheme does not go on like one. -/
theorem Sound.not_prefix_renderPath (h : u.Sound) (hnone : u.authority = none) :
    ¬ ['/', '/'] <+: u.renderPath := by
  rintro ⟨after, hafter⟩
  cases hpath : u.path with
  | unstructured text => exact h.head?_renderPath hpath (by rw [← hafter]; rfl)
  | segments list =>
      obtain ⟨hne, hrooted⟩ := h.rooted hnone list hpath
      cases happart : u.setApart with
      | true =>
          obtain ⟨rest, hrest⟩ := renderPath_of_apart happart hpath hne
          rw [hrest] at hafter
          exact absurd (List.cons.inj (List.cons.inj hafter).2).1 (by decide)
      | false =>
          obtain ⟨x, xs, rfl⟩ := List.exists_cons_of_ne_nil hne
          rw [renderPath_of_not_apart happart hpath] at hafter
          have hslash := (List.cons.inj hafter).2
          cases x with
          | nil =>
              -- an empty first segment is the whole path
              have hxs : xs = [] := (List.cons.inj (hrooted happart rfl)).2
              rw [hxs] at hslash
              have hhead : u.renderTail.head? = some '/' := congrArg List.head? hslash.symm
              exact absurd (endsPath_renderTail u '/' hhead) (by decide)
          | cons c cs =>
              have hunmarked := h.unmarked
              rw [segments, hpath] at hunmarked
              refine hunmarked.head c (List.mem_cons_self ..) ?_
              rw [← (List.cons.inj hslash).1]
              decide

/-- A first segment that is no dot does not look as if the path were set
    apart. -/
theorem append_ne_dot {x : Text} (hx : ∀ c ∈ x, ¬ c ∈ Path.marks) (hdot : x ≠ ['.'])
    (hr : EndsPart r) : x ++ r ≠ '.' :: '/' :: t := by
  intro h
  have hslash : EndsPart ('/' :: t) := by
    rintro c ⟨⟩
    decide
  exact hdot (eq_of_append_eq_of_class_or_end hr hslash hx (by decide)
    (show x ++ r = ['.'] ++ '/' :: t from h)).1

/-- Without an authority, and with nothing after its first segment, a base is
    not closed. -/
theorem not_closed_of_last (ha : base.authority = none) {x : Text} {xs : List Text}
    (hpath : base.path = .segments (x :: xs)) (h : Path.render xs ++ base.renderTail = []) :
    ¬ base.Closed := by
  obtain ⟨hxs, htail⟩ := List.append_eq_nil_iff.mp h
  rintro (hne | ⟨-, hsome | hlength⟩)
  · exact hne htail
  · rw [ha] at hsome
    exact Bool.noConfusion hsome
  · rw [segments, hpath, Path.eq_nil_of_render hxs] at hlength
    exact Nat.lt_irrefl 1 hlength

/-- Whether the path is set apart is told by the text of a closed base. -/
theorem setApart_eq (hbase : base.Sound) (hfinal : final.Sound) (ha : base.authority = none)
    (hb : final.authority = none) {xs ys : List Text} (hxs : base.path = .segments xs)
    (hys : final.path = .segments ys) (hclosed : base.Closed)
    (h : base.renderPath ++ t = final.renderPath) : base.setApart = final.setApart := by
  obtain ⟨x, xs, rfl⟩ := List.exists_cons_of_ne_nil (hbase.rooted ha _ hxs).1
  obtain ⟨y, ys, rfl⟩ := List.exists_cons_of_ne_nil (hfinal.rooted hb _ hys).1
  have hx : Path.Clean (isFile base.scheme) x :=
    hbase.clean x (by rw [segments, hxs]; exact List.mem_cons_self ..)
  have hy : Path.Clean (isFile final.scheme) y :=
    hfinal.clean y (by rw [segments, hys]; exact List.mem_cons_self ..)
  cases happart : base.setApart with
  | true =>
      cases happart' : final.setApart with
      | true => rfl
      | false =>
          obtain ⟨rest, hrest⟩ := renderPath_of_apart happart hxs (List.cons_ne_nil _ _)
          rw [hrest, renderPath_of_not_apart happart' hys] at h
          refine absurd (List.cons.inj h).2.symm (append_ne_dot ?_ ?_ ?_)
          · exact fun c hc hmark => hy.unmarked c hmark hc
          · exact hy.no_dot (hfinal.isFile_eq_false hb)
          · exact Path.endsPart_render (endsPath_renderTail final).endsPart
  | false =>
      cases happart' : final.setApart with
      | false => rfl
      | true =>
          have hgoes : Path.render xs ++ base.renderTail ≠ [] :=
            fun hnil => not_closed_of_last ha hxs hnil hclosed
          obtain ⟨rest, hrest⟩ := renderPath_of_apart happart' hys (List.cons_ne_nil _ _)
          rw [hrest, renderPath_of_not_apart happart hxs, List.cons_append,
            List.append_assoc] at h
          refine absurd (List.cons.inj h).2 (append_ne_dot ?_ ?_ ?_)
          · exact fun c hc hmark => hx.unmarked c hmark hc
          · exact hx.no_dot (hbase.isFile_eq_false ha)
          · exact forall_head?_append
              (Path.endsPart_render (endsPath_renderTail base).endsPart) hgoes

/-- Without authorities too a base confines an address whose text goes on from
    it. -/
theorem confines_of_no_authorities (hbase : base.Sound) (hfinal : final.Sound)
    (hcan : base.canBeBase = true) (ha : base.authority = none) (hb : final.authority = none)
    (hscheme : final.scheme = base.scheme)
    (h : base.renderPath ++ t = final.renderPath) : base.Confines final := by
  refine ⟨hscheme, fun _ => ?_, fun hclosed => ?_, fun hanchored => ?_⟩
  · rw [host, host, port, port, ha, hb]
    exact ⟨rfl, rfl⟩
  · obtain ⟨xs, hxs⟩ := exists_segments hcan
    cases hys : final.path with
    | unstructured text =>
        obtain ⟨rest, hrest⟩ := exists_renderPath_cons hxs (hbase.rooted ha xs hxs).1
        refine absurd ?_ (hfinal.head?_renderPath hys)
        rw [← h, hrest]
        rfl
    | segments ys =>
        have happart := setApart_eq hbase hfinal ha hb hxs hys hclosed h
        rw [renderPath, renderPath, happart, List.append_assoc, List.append_assoc, hxs, hys] at h
        have hfollows : Follows base final t := by
          refine ⟨hbase.unmarked, hfinal.unmarked, ?_⟩
          rw [segments, segments, hxs, hys]
          exact List.append_cancel_left h
        exact hfollows.inside hclosed
  · rw [Anchored, ha] at hanchored
    exact Bool.noConfusion hanchored.1

/-- A base without an authority that is no more than a slash is not closed. -/
theorem not_closed_of_slash (hbase : base.Sound) (hcan : base.canBeBase = true)
    (ha : base.authority = none) (h : base.renderPath = ['/']) : ¬ base.Closed := by
  obtain ⟨xs, hxs⟩ := exists_segments hcan
  have hne := (hbase.rooted ha xs hxs).1
  cases happart : base.setApart with
  | true =>
      obtain ⟨rest, hrest⟩ := renderPath_of_apart happart hxs hne
      cases hrest.symm.trans h
  | false =>
      obtain ⟨x, xs, rfl⟩ := List.exists_cons_of_ne_nil hne
      rw [renderPath_of_not_apart happart hxs] at h
      exact not_closed_of_last ha hxs (List.append_eq_nil_iff.mp (List.cons.inj h).2).2

/-- The schemes are told by the text, and the rest begins with the rest. -/
theorem eq_of_scheme_append (hbase : base.Sound) (hfinal : final.Sound)
    (h : base.scheme ++ ':' :: r ++ t = final.scheme ++ ':' :: r') :
    final.scheme = base.scheme ∧ r ++ t = r' := by
  rw [List.append_assoc] at h
  obtain ⟨hscheme, hrest⟩ := eq_of_append_eq_of_class (p := (· = ':'))
    ⟨':', rfl, rfl⟩ ⟨':', rfl, rfl⟩ (fun c hc heq => hbase.scheme (heq ▸ hc))
    (fun c hc heq => hfinal.scheme (heq ▸ hc)) h
  exact ⟨hscheme.symm, (List.cons.inj hrest).2⟩

/-- **Confinement**: an address whose text begins with that of a base lies
    within the base, as far as the text of the base says where it ends. -/
theorem confines_of_prefix (hbase : base.Sound) (hfinal : final.Sound)
    (hcan : base.canBeBase = true) (h : base.render <+: final.render) : base.Confines final := by
  obtain ⟨t, ht⟩ := h
  cases ha : base.authority with
  | none =>
      rw [render_of_no_authority ha] at ht
      cases hb : final.authority with
      | none =>
          rw [render_of_no_authority hb] at ht
          obtain ⟨hscheme, hrest⟩ := eq_of_scheme_append hbase hfinal ht
          exact confines_of_no_authorities hbase hfinal hcan ha hb hscheme hrest
      | some b =>
          rw [render_of_authority hb] at ht
          obtain ⟨hscheme, hrest⟩ := eq_of_scheme_append hbase hfinal ht
          -- the base says no more than that a slash comes after the scheme
          have hslash : base.renderPath = ['/'] := by
            obtain ⟨xs, hxs⟩ := exists_segments hcan
            obtain ⟨rest, hpath⟩ := exists_renderPath_cons hxs (hbase.rooted ha xs hxs).1
            rw [hpath, chars_slashes] at hrest
            cases rest with
            | nil => exact hpath
            | cons c rest =>
                refine absurd ?_ (hbase.not_prefix_renderPath ha)
                rw [hpath, (List.cons.inj (List.cons.inj hrest).2).1]
                exact ⟨rest, rfl⟩
          have hopen := not_closed_of_slash hbase hcan ha hslash
          have hfree : ¬ base.Anchored := by
            rw [Anchored, ha]
            exact fun hanchored => Bool.noConfusion hanchored.1
          exact confines_of_open hscheme hopen hfree
  | some a =>
      rw [render_of_authority ha] at ht
      cases hb : final.authority with
      | none =>
          rw [render_of_no_authority hb] at ht
          obtain ⟨-, hrest⟩ := eq_of_scheme_append hbase hfinal ht
          rw [chars_slashes, List.append_assoc] at hrest
          exact absurd ⟨_, hrest⟩ (hfinal.not_prefix_renderPath hb)
      | some b =>
          rw [render_of_authority hb] at ht
          obtain ⟨hscheme, hrest⟩ := eq_of_scheme_append hbase hfinal ht
          rw [List.append_assoc, List.append_assoc] at hrest
          exact confines_of_authorities hbase hfinal ha hb hscheme (List.append_cancel_left hrest)

end GuardedSql.Url
